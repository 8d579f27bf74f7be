import MeshSidecar.Discovery

/-!
# Aggregates

An *aggregate* answers for several registries at once. It holds adapters in order, each of
them known by the platform that it was added with: a single registry, a *leaf*, or another
aggregate. Services and the instances at an address are those of all adapters together; any
other question is answered by the first adapter that knows an answer, so that an earlier
registry takes precedence over a later one.
-/

namespace MeshSidecar

/-- Adapters in order, over registries of a type. -/
inductive Aggregate (α : Type) where
  | empty
  /-- A registry, before the other adapters. -/
  | leaf (platform : String) (registry : α) (rest : Aggregate α)
  /-- An aggregate, before the other adapters. -/
  | nested (platform : String) (inner : Aggregate α) (rest : Aggregate α)
deriving DecidableEq

namespace Aggregate

variable {α β : Type}

instance : EmptyCollection (Aggregate α) := ⟨.empty⟩
instance : Inhabited (Aggregate α) := ⟨.empty⟩

/-- The adapters of an aggregate followed by those of another one. -/
def append : Aggregate α → Aggregate α → Aggregate α
  | .empty, last => last
  | .leaf platform registry rest, last => .leaf platform registry (rest.append last)
  | .nested platform inner rest, last => .nested platform inner (rest.append last)

instance : Append (Aggregate α) := ⟨append⟩

/-- The aggregate with a registry as its last adapter. -/
def addLeaf (aggregate : Aggregate α) (platform : String) (registry : α) : Aggregate α :=
  aggregate ++ .leaf platform registry .empty

/-- The aggregate with another aggregate as its last adapter. -/
def addNested (aggregate : Aggregate α) (platform : String) (inner : Aggregate α) :
    Aggregate α :=
  aggregate ++ .nested platform inner .empty

/-- The platforms of the adapters, in order. -/
def platforms : Aggregate α → List String
  | .empty => []
  | .leaf platform _ rest => platform :: rest.platforms
  | .nested platform _ rest => platform :: rest.platforms

/-- The registries at any depth, from left to right. -/
def leaves : Aggregate α → List α
  | .empty => []
  | .leaf _ registry rest => registry :: rest.leaves
  | .nested _ inner rest => inner.leaves ++ rest.leaves

/-- The aggregate with every registry changed. -/
def map (f : α → β) : Aggregate α → Aggregate β
  | .empty => .empty
  | .leaf platform registry rest => .leaf platform (f registry) (rest.map f)
  | .nested platform inner rest => .nested platform (inner.map f) (rest.map f)

/-- The aggregate with the registry at a position among its leaves changed. -/
def modify (f : α → α) : Nat → Aggregate α → Aggregate α
  | _, .empty => .empty
  | 0, .leaf platform registry rest => .leaf platform (f registry) rest
  | n + 1, .leaf platform registry rest => .leaf platform registry (rest.modify f n)
  | n, .nested platform inner rest =>
      if n < inner.leaves.length then .nested platform (inner.modify f n) rest
      else .nested platform inner (rest.modify f (n - inner.leaves.length))

-- ── Questions ───────────────────────────────────────────────────────────────

variable [Discovery α]

/-- The services of all registries. A host name is listed as often as it is known. -/
def services : Aggregate α → List Service
  | .empty => []
  | .leaf _ registry rest => Discovery.services registry ++ rest.services
  | .nested _ inner rest => inner.services ++ rest.services

/-- The service of a host name in the first adapter that knows one. -/
def service? (hostname : String) : Aggregate α → Option Service
  | .empty => none
  | .leaf _ registry rest => Discovery.service? registry hostname <|> rest.service? hostname
  | .nested _ inner rest => inner.service? hostname <|> rest.service? hostname

/-- The first list that is not empty, of two. -/
def firstNonempty (first second : List Instance) : List Instance :=
  if first.isEmpty then second else first

/-- The instances of a service in the first adapter that knows any. -/
def instancesOf (hostname : String) (ports tags : List String) : Aggregate α → List Instance
  | .empty => []
  | .leaf _ registry rest =>
      firstNonempty (Discovery.instancesOf registry hostname ports tags)
        (rest.instancesOf hostname ports tags)
  | .nested _ inner rest =>
      firstNonempty (inner.instancesOf hostname ports tags) (rest.instancesOf hostname ports tags)

/-- The instances at some addresses, of all registries. -/
def instancesAt (addresses : List String) : Aggregate α → List Instance
  | .empty => []
  | .leaf _ registry rest => Discovery.instancesAt registry addresses ++ rest.instancesAt addresses
  | .nested _ inner rest => inner.instancesAt addresses ++ rest.instancesAt addresses

/-- The ports for health checks in the first adapter that knows any. -/
def managementPorts? (address : String) : Aggregate α → Option PortList
  | .empty => none
  | .leaf _ registry rest =>
      Discovery.managementPorts? registry address <|> rest.managementPorts? address
  | .nested _ inner rest => inner.managementPorts? address <|> rest.managementPorts? address

/-- The accounts in the first adapter that knows any. -/
def serviceAccounts? (hostname : String) (ports : List String) :
    Aggregate α → Option (List String)
  | .empty => none
  | .leaf _ registry rest =>
      Discovery.serviceAccounts? registry hostname ports <|> rest.serviceAccounts? hostname ports
  | .nested _ inner rest =>
      inner.serviceAccounts? hostname ports <|> rest.serviceAccounts? hostname ports

instance : Discovery (Aggregate α) where
  services := services
  service? aggregate hostname := aggregate.service? hostname
  instancesOf aggregate hostname ports tags := aggregate.instancesOf hostname ports tags
  instancesAt aggregate addresses := aggregate.instancesAt addresses
  managementPorts? aggregate address := aggregate.managementPorts? address
  serviceAccounts? aggregate hostname ports := aggregate.serviceAccounts? hostname ports

end Aggregate

end MeshSidecar
