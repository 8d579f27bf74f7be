import MeshSidecar.Service.Basic

/-!
# Catalogs

A *catalog* is all that a registry knows: the services, each under its host name, the
instances in the order in which they became known, the ports under which an address answers
health checks, and the accounts under which a service runs.

A catalog is *well-formed* when each service is stored under its own host name and every
instance carries the version of its service that is stored.
-/

namespace MeshSidecar

/-- The contents of a registry. -/
structure Catalog where
  services : NameTable Service
  instances : List Instance
  /-- Ports for health checks by the address of an instance. -/
  managementPorts : NameTable PortList
  /-- Accounts by the host name of a service. -/
  serviceAccounts : NameTable (List String)
deriving DecidableEq

namespace Catalog

/-- The catalog that knows nothing. -/
def empty : Catalog := ⟨∅, [], ∅, ∅⟩

instance : EmptyCollection Catalog := ⟨empty⟩
instance : Inhabited Catalog := ⟨empty⟩

/-- The catalog with a service, in place of one with the same host name. -/
def withService (catalog : Catalog) (service : Service) : Catalog :=
  { catalog with services := catalog.services.insert service.hostname service }

/-- The catalog with one more instance. -/
def withInstance (catalog : Catalog) (inst : Instance) : Catalog :=
  { catalog with instances := catalog.instances ++ [inst] }

-- ── Questions ───────────────────────────────────────────────────────────────

/-- The service with a host name. -/
def service? (catalog : Catalog) (hostname : String) : Option Service :=
  catalog.services.get? hostname

/-- The instances of a service on one of the named ports with one of the tags. An empty list
    of ports or tags asks for nothing. -/
def instancesOf (catalog : Catalog) (hostname : String) (ports tags : List String) :
    List Instance :=
  catalog.instances.filter fun inst =>
    inst.service.hostname = hostname && inst.answers ports tags

/-- The instances at one of the addresses. -/
def instancesAt (catalog : Catalog) (addresses : List String) : List Instance :=
  catalog.instances.filter fun inst => addresses.contains inst.endpoint.address

end Catalog

end MeshSidecar
