import MeshSidecar.Catalog.Basic

/-!
# Changes of a catalog

A *notice* tells that a service or an instance was added, updated or deleted. The notices of
one change are told in an order that a listener can follow: deleted instances go before any
service, and added ones after every service, so that an instance is never known without the
service that it belongs to.

`Changes.between` is the difference of two catalogs. Ports for health checks and accounts
take no part in it, since nobody is told about them.
-/

namespace MeshSidecar

/-- What happened. -/
inductive Event where
  | add
  | update
  | delete
deriving DecidableEq

/-- The name of an event. -/
def Event.name : Event → String
  | .add => "add"
  | .update => "update"
  | .delete => "delete"

/-- What a listener is told. -/
inductive Notice where
  | serviceChanged (service : Service) (event : Event)
  | instanceChanged (inst : Instance) (event : Event)
deriving DecidableEq

/-- What a change did to the services and to the instances. -/
structure Changes where
  services : List (Service × Event)
  instances : List (Instance × Event)
deriving DecidableEq

namespace Changes

/-- The change that did nothing. -/
def none : Changes := ⟨[], []⟩

/-- The number of services and instances that were changed. -/
def count (changes : Changes) : Nat := changes.services.length + changes.instances.length

/-- The notices of a change: deleted instances, services, other instances. -/
def notices (changes : Changes) : List Notice :=
  let tell := fun (inst, event) => Notice.instanceChanged inst event
  (changes.instances.filter (·.2 = .delete)).map tell ++
    changes.services.map (fun (service, event) => .serviceChanged service event) ++
    (changes.instances.filter (·.2 ≠ .delete)).map tell

/-- What becomes of a service that is stored anew, if anything does. -/
def ofStored (prior : NameTable Service) (hostname : String) (service : Service) :
    Option (Service × Event) :=
  match prior.get? hostname with
  | Option.none => some (service, .add)
  | some old => if old = service then Option.none else some (service, .update)

/-- The changes of services: those stored anew by host name, then those gone. -/
def servicesBetween (prior next : NameTable Service) : List (Service × Event) :=
  (next.entries.filterMap fun (hostname, service) => ofStored prior hostname service) ++
    (prior.entries.filterMap fun (hostname, service) =>
      if (next.get? hostname).isSome then Option.none else some (service, .delete))

/-- The changes of instances: those gone, then those new, each as often as it is listed. -/
def instancesBetween (prior next : List Instance) : List (Instance × Event) :=
  ((prior.filter fun inst => !next.contains inst).map (·, .delete)) ++
    ((next.filter fun inst => !prior.contains inst).map (·, .add))

/-- The difference of two catalogs. -/
def between (prior next : Catalog) : Changes where
  services := servicesBetween prior.services next.services
  instances := instancesBetween prior.instances next.instances

end Changes

end MeshSidecar
