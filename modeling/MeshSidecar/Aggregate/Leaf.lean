import MeshSidecar.Aggregate.Basic
import MeshSidecar.Registry.Basic

/-!
# Leaves of an aggregate

A *leaf* is a registry together with what it does as a part of an aggregate: whether it
refuses handlers of a kind, and how it behaves when it is run.

A handler is appended to an aggregate by appending it to its leaves from left to right, up to
the first one that refuses. The leaves before that one keep the handler.
-/

namespace MeshSidecar

/-- What a registry does when it is run. -/
inductive Conduct where
  /-- Runs until the signal to stop. -/
  | waits
  /-- Ends of its own accord. -/
  | returns
  /-- Fails beyond repair. -/
  | panics
deriving DecidableEq

/-- A registry in an aggregate. -/
structure Leaf where
  registry : Registry
  /-- The words with which handlers of a kind are refused, if they are. -/
  refusal : HandlerKind → Option String := fun _ => none
  conduct : Conduct := .waits

/-- A leaf answers as its registry does. -/
instance : Discovery Leaf where
  services leaf := Discovery.services leaf.registry
  service? leaf := Discovery.service? leaf.registry
  instancesOf leaf := Discovery.instancesOf leaf.registry
  instancesAt leaf := Discovery.instancesAt leaf.registry
  managementPorts? leaf := Discovery.managementPorts? leaf.registry
  serviceAccounts? leaf := Discovery.serviceAccounts? leaf.registry

/-- A handler was refused. -/
structure AppendError where
  kind : HandlerKind
  /-- The platform of the adapter that holds the leaf. -/
  platform : String
  /-- The platforms that lead from there down to the leaf. -/
  below : List String
  /-- The words of the leaf. -/
  refusal : String
deriving DecidableEq

namespace AppendError

/-- The words for a refusal by the adapter of a platform. -/
def messageOf (kind : HandlerKind) (platform : String) : String :=
  "failed to append " ++ kind.name ++ " handler to " ++ platform ++ " registry"

/-- The words for the refusal, without what caused it. -/
def message (error : AppendError) : String := messageOf error.kind error.platform

/-- The words for what caused the refusal, down to those of the leaf. -/
def causes (error : AppendError) : List String :=
  error.below.map (messageOf error.kind) ++ [error.refusal]

/-- The refusal by an adapter in which another one refused. -/
def within (error : AppendError) (platform : String) : AppendError :=
  { error with platform := platform, below := error.platform :: error.below }

end AppendError

namespace Aggregate

/-- Appends a handler to the leaves before the first one that refuses it. -/
def appendHandler (kind : HandlerKind) (handler : Handler) :
    Aggregate Leaf → Aggregate Leaf × Option AppendError
  | .empty => (.empty, none)
  | .leaf platform member rest =>
    match member.refusal kind with
    | some words => (.leaf platform member rest, some ⟨kind, platform, [], words⟩)
    | none =>
      let (rest, error) := rest.appendHandler kind handler
      (.leaf platform { member with registry := member.registry.appendHandler kind handler } rest,
        error)
  | .nested platform inner rest =>
    match inner.appendHandler kind handler with
    | (inner, some error) => (.nested platform inner rest, some (error.within platform))
    | (inner, none) =>
      let (rest, error) := rest.appendHandler kind handler
      (.nested platform inner rest, error)

/-- Changes the contents of the leaf at a position. -/
def mutate (aggregate : Aggregate Leaf) (position : Nat) (mutation : Mutation) :
    Aggregate Leaf :=
  aggregate.modify (fun member => { member with registry := member.registry.mutate mutation }) position

end Aggregate

end MeshSidecar
