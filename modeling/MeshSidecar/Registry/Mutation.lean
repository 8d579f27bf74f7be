import MeshSidecar.Registry.Change

/-!
# Mutations

The ways in which the contents of a registry are changed. For each of them three functions
of the catalog say what the catalog becomes (`Mutation.apply`), what listeners are told
(`Mutation.changes`) and what the one who asked for it learns (`Mutation.reply`).

A service that is removed takes its instances with it. Ports for health checks and accounts
are stored without anyone being told.
-/

namespace MeshSidecar

/-- A way to change a catalog. -/
inductive Mutation where
  | addService (service : Service)
  | removeService (hostname : String)
  | addInstance (inst : Instance)
  | removeInstance (inst : Instance)
  | setManagementPorts (address : String) (ports : PortList)
  | setServiceAccounts (hostname : String) (accounts : List String)
  | replace (next : Catalog)
deriving DecidableEq

/-- What the one who asks for a mutation learns. -/
inductive Reply where
  /-- Nothing. -/
  | done
  /-- The service that was removed, if there was one. -/
  | service (removed : Option Service)
  /-- Whether the instance was there to be removed. -/
  | removed (found : Bool)
  /-- The number of changes. -/
  | count (changes : Nat)
deriving DecidableEq

namespace Mutation

/-- What a catalog becomes. -/
def apply : Mutation → Catalog → Catalog
  | .addService service, catalog => catalog.withService service
  | .removeService hostname, catalog =>
      match catalog.service? hostname with
      | none => catalog
      | some _ =>
        { catalog with
          services := catalog.services.erase hostname
          instances := catalog.instances.filter (·.service.hostname ≠ hostname) }
  | .addInstance inst, catalog =>
      if catalog.instances.contains inst then catalog else catalog.withInstance inst
  | .removeInstance inst, catalog =>
      { catalog with instances := catalog.instances.filter (· ≠ inst) }
  | .setManagementPorts address ports, catalog =>
      { catalog with managementPorts := catalog.managementPorts.insert address ports }
  | .setServiceAccounts hostname accounts, catalog =>
      { catalog with serviceAccounts := catalog.serviceAccounts.insert hostname accounts }
  | .replace next, _ => next

/-- What listeners are told. An instance that is removed is told once, however often it was
    listed. -/
def changes : Mutation → Catalog → Changes
  | .addService service, catalog =>
      ⟨(Changes.ofStored catalog.services service.hostname service).toList, []⟩
  | .removeService hostname, catalog =>
      match catalog.service? hostname with
      | none => .none
      | some service =>
        ⟨[(service, .delete)],
         (catalog.instances.filter (·.service.hostname = hostname)).map (·, .delete)⟩
  | .addInstance inst, catalog =>
      if catalog.instances.contains inst then .none else ⟨[], [(inst, .add)]⟩
  | .removeInstance inst, catalog =>
      if catalog.instances.contains inst then ⟨[], [(inst, .delete)]⟩ else .none
  | .setManagementPorts _ _, _ => .none
  | .setServiceAccounts _ _, _ => .none
  | .replace next, catalog => .between catalog next

/-- What the one who asked learns. -/
def reply : Mutation → Catalog → Reply
  | .addService _, _ => .done
  | .removeService hostname, catalog => .service (catalog.service? hostname)
  | .addInstance _, _ => .done
  | .removeInstance inst, catalog => .removed (catalog.instances.contains inst)
  | .setManagementPorts _ _, _ => .done
  | .setServiceAccounts _ _, _ => .done
  | .replace next, catalog => .count (Changes.between catalog next).count

end Mutation

end MeshSidecar
