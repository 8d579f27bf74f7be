import MeshSidecar.Host.Error
import MeshSidecar.Names.Table
import MeshSidecar.Text.Bytes

/-!
# A directory of files

A directory as its user meets it. It holds files and other directories under names. It may
have been taken away, or something else than a directory may stand in its place; then
nothing in it can be reached, though it keeps what it holds. Names may be limited in length,
and a request for a longer one is refused before anything else is looked at. The room for the
text of a file may be limited too: a file that does not fit is left behind with the part of its
text that did.
-/

namespace MeshSidecar

/-- What a directory holds under a name. -/
inductive Entry where
  | file (content : Bytes)
  | directory
deriving DecidableEq

/-- Whether a directory can be reached. -/
inductive Access where
  | reachable
  /-- It was taken away. -/
  | missing
  /-- Something else stands in its place. -/
  | obstructed
deriving DecidableEq

/-- A directory. -/
structure Directory where
  access : Access := .reachable
  entries : NameTable Entry := ∅
  /-- How many bytes a file may take, if there is a limit. -/
  room : Option Nat := none
  /-- How many bytes a name may take, if there is a limit. -/
  nameRoom : Option Nat := none
deriving DecidableEq

namespace Directory

/-- The answer to every request while the directory cannot be reached. -/
def refusal (dir : Directory) : Option HostError :=
  match dir.access with
  | .reachable => none
  | .missing => some (.system .notFound)
  | .obstructed => some (.system .notADirectory)

/-- The answer to every request for a name that is too long, or that cannot be reached. -/
def refusalOf (dir : Directory) (name : String) : Option HostError :=
  if dir.nameRoom.any (· < name.utf8ByteSize) then some (.system .nameTooLong) else dir.refusal

/-- The names of what can be reached. -/
def names (dir : Directory) : List String :=
  if dir.refusal.isSome then [] else dir.entries.names

/-- The content of a file that can be reached. -/
def read? (dir : Directory) (name : String) : Option Bytes :=
  if (dir.refusalOf name).isSome then none
  else
    match dir.entries.get? name with
    | some (.file content) => some content
    | _ => none

/-- Puts an entry under a name. -/
def put (dir : Directory) (name : String) (entry : Entry) : Directory :=
  { dir with entries := dir.entries.insert name entry }

/-- Writes a file, in place of a file of the same name. -/
def write (dir : Directory) (name : String) (content : Bytes) : Directory × Option HostError :=
  match dir.refusalOf name with
  | some error => (dir, some error)
  | none =>
    match dir.entries.get? name with
    | some .directory => (dir, some (.system .isADirectory))
    | _ =>
      match dir.room with
      | none => (dir.put name (.file content), none)
      | some room =>
        if content.length ≤ room then (dir.put name (.file content), none)
        else (dir.put name (.file (content.take room)), some (.system .storageFull))

/-- Removes a file. -/
def remove (dir : Directory) (name : String) : Directory × Option HostError :=
  match dir.refusalOf name with
  | some error => (dir, some error)
  | none =>
    match dir.entries.get? name with
    | none => (dir, some (.system .notFound))
    | some .directory => (dir, some (.system .isADirectory))
    | some (.file _) => ({ dir with entries := dir.entries.erase name }, none)

/-- Makes a directory inside. -/
def makeDirectory (dir : Directory) (name : String) : Directory × Option HostError :=
  match dir.refusalOf name with
  | some error => (dir, some error)
  | none =>
    match dir.entries.get? name with
    | some _ => (dir, some (.system .alreadyExists))
    | none => (dir.put name .directory, none)

/-- Removes a directory inside. -/
def removeDirectory (dir : Directory) (name : String) : Directory × Option HostError :=
  match dir.refusalOf name with
  | some error => (dir, some error)
  | none =>
    match dir.entries.get? name with
    | none => (dir, some (.system .notFound))
    | some (.file _) => (dir, some (.system .notADirectory))
    | some .directory => ({ dir with entries := dir.entries.erase name }, none)

end Directory

end MeshSidecar
