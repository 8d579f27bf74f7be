import MeshSidecar.Discovery
import MeshSidecar.Registry.Mutation

/-!
# Registries

A *registry* is a catalog with the handlers that listen to it. A handler is known by a
number and listens to services or to instances; one that is appended twice is told twice.
Every notice of a mutation goes to all handlers of its kind, in the order in which they were
appended, before the next notice does. All of them are told when the catalog has already
changed.
-/

namespace MeshSidecar

/-- One who listens to changes. -/
abbrev Handler := Nat

/-- What a handler listens to. -/
inductive HandlerKind where
  | services
  | instances
deriving DecidableEq

/-- The name of a kind of handler. -/
def HandlerKind.name : HandlerKind → String
  | .services => "service"
  | .instances => "instance"

/-- A catalog and those who listen to its changes. -/
structure Registry where
  catalog : Catalog
  serviceHandlers : List Handler := []
  instanceHandlers : List Handler := []
deriving DecidableEq

/-- A notice that reached a handler. -/
structure Delivery where
  handler : Handler
  notice : Notice
deriving DecidableEq

namespace Registry

/-- The registry with one more handler of a kind. -/
def appendHandler (registry : Registry) (kind : HandlerKind) (handler : Handler) : Registry :=
  match kind with
  | .services => { registry with serviceHandlers := registry.serviceHandlers ++ [handler] }
  | .instances => { registry with instanceHandlers := registry.instanceHandlers ++ [handler] }

/-- The handlers that a notice goes to. -/
def handlersOf (registry : Registry) : Notice → List Handler
  | .serviceChanged _ _ => registry.serviceHandlers
  | .instanceChanged _ _ => registry.instanceHandlers

/-- Tells notices to the handlers. -/
def deliver (registry : Registry) (notices : List Notice) : List Delivery :=
  notices.flatMap fun notice => (registry.handlersOf notice).map (⟨·, notice⟩)

/-- Changes the contents. -/
def mutate (registry : Registry) (mutation : Mutation) : Registry :=
  { registry with catalog := mutation.apply registry.catalog }

/-- What the handlers are told of a mutation. -/
def deliveries (registry : Registry) (mutation : Mutation) : List Delivery :=
  registry.deliver (mutation.changes registry.catalog).notices

end Registry

/-- A registry answers from its catalog. -/
instance : Discovery Registry where
  services registry := Discovery.services registry.catalog
  service? registry := Discovery.service? registry.catalog
  instancesOf registry := Discovery.instancesOf registry.catalog
  instancesAt registry := Discovery.instancesAt registry.catalog
  managementPorts? registry := Discovery.managementPorts? registry.catalog
  serviceAccounts? registry := Discovery.serviceAccounts? registry.catalog

end MeshSidecar
