import MeshSidecar.Catalog.Basic

/-!
# Discovery

What can be asked of anything that knows services and instances. A catalog answers from its
contents; a registry answers from its catalog, and an aggregate from its registries.
-/

namespace MeshSidecar

/-- The questions about services, instances and accounts. -/
class Discovery (α : Type) where
  /-- All services. A source of several registries may list a host name more than once. -/
  services : α → List Service
  /-- The service with a host name. -/
  service? : α → String → Option Service
  /-- The instances of a service on one of the named ports with one of the tags. An empty
      list of ports or tags asks for nothing. -/
  instancesOf : α → (hostname : String) → (ports tags : List String) → List Instance
  /-- The instances at one of the addresses. -/
  instancesAt : α → (addresses : List String) → List Instance
  /-- The ports under which an address answers health checks. -/
  managementPorts? : α → (address : String) → Option PortList
  /-- The accounts under which the named ports of a service run. -/
  serviceAccounts? : α → (hostname : String) → (ports : List String) → Option (List String)

/-- A catalog lists its services by host name. Accounts hold for all ports of a service. -/
instance : Discovery Catalog where
  services catalog := catalog.services.values
  service? := Catalog.service?
  instancesOf := Catalog.instancesOf
  instancesAt := Catalog.instancesAt
  managementPorts? catalog address := catalog.managementPorts.get? address
  serviceAccounts? catalog hostname _ := catalog.serviceAccounts.get? hostname

end MeshSidecar
