import MeshSidecar.Names.Table

/-!
# Sets of names

A `NameSet` is a `NameTable` that holds nothing under its names: its members are listed
strictly ascending, each once, so two sets with the same members are equal.
-/

namespace MeshSidecar

/-- A set of names. -/
structure NameSet where
  /-- The members, as the names of a table. -/
  table : NameTable Unit
deriving DecidableEq

namespace NameSet

/-- The set without members. -/
def empty : NameSet := ⟨∅⟩

instance : EmptyCollection NameSet := ⟨empty⟩
instance : Inhabited NameSet := ⟨empty⟩

/-- The members, ascending. -/
def toList (names : NameSet) : List String := names.table.names

/-- The set with one more member. -/
def insert (names : NameSet) (name : String) : NameSet := ⟨names.table.insert name ()⟩

/-- The set with the members of a list added. -/
def insertAll (names : NameSet) (more : List String) : NameSet := more.foldl insert names

/-- The set of the members of a list. -/
def ofList (members : List String) : NameSet := empty.insertAll members

/-- Whether a name is a member. -/
def contains (names : NameSet) (name : String) : Bool := (names.table.get? name).isSome

/-- Whether there is no member. -/
def isEmpty (names : NameSet) : Bool := names.toList.isEmpty

/-- An added name is a member, and the other members are the ones from before. -/
theorem contains_insert (names : NameSet) (name other : String) :
    (names.insert name).contains other = (decide (name = other) || names.contains other) := by
  unfold contains insert
  rw [NameTable.get?_insert]
  by_cases h : name = other <;> simp [h]

end NameSet

end MeshSidecar
