import MeshSidecar.Host.Directory
import MeshSidecar.Host.Process
import MeshSidecar.Text.Lines

/-!
# A tree of files

The files and directories of a host. A *place* in the tree is given by the names on the way
to it from the root. A path is followed from name to name, from the root where it starts with
a separator and else from the working directory: `.` stays, `..` goes back, and any other name
leads on. Everything before the last name must be a directory. What stands in the way decides
how a path is refused.

A part of the tree can be taken out as a `Directory` (`FileTree.directoryAt`), and put back once
it has changed (`FileTree.withDirectory`).
-/

namespace MeshSidecar

/-- Files and directories by their places, whose names have one separator between them. The
    root is always there. -/
structure FileTree where
  nodes : NameTable Entry := ∅
  /-- The place where paths start that do not start at the root. -/
  workingDirectory : List String := []
deriving DecidableEq

namespace FileTree

/-- How many bytes a name has at most. -/
def nameLimit : Nat := 255

/-- How many bytes a path has at most. -/
def pathLimit : Nat := 4095

/-- The path of some names. -/
def joined (names : List String) : String := String.intercalate "/" names

/-- The names in a path. -/
def names (path : String) : List String := (path.splitOn "/").filter (· ≠ "")

/-- The place where a path starts. -/
def origin (tree : FileTree) (path : String) : List String :=
  if path.startsWith "/" then [] else tree.workingDirectory

/-- What stands at a place. -/
def node? (tree : FileTree) (place : List String) : Option Entry :=
  if place = [] then some .directory else tree.nodes.get? (joined place)

/-- Follows names from a place, of which the last one need not be there. -/
def follow (tree : FileTree) (place : List String) :
    List String → Except HostErrorKind (List String)
  | [] => .ok place
  | name :: rest =>
    match tree.node? place with
    | none => .error .notFound
    | some (.file _) => .error .notADirectory
    | some .directory =>
      if name = "." then tree.follow place rest
      else if name = ".." then tree.follow place.dropLast rest
      else if nameLimit < name.utf8ByteSize then .error .nameTooLong
      else tree.follow (place ++ [name]) rest

/-- The place that a path leads to. -/
def locate (tree : FileTree) (path : String) : Except HostErrorKind (List String) :=
  if path = "" then .error .notFound
  else if pathLimit < path.utf8ByteSize then .error .nameTooLong
  else tree.follow (tree.origin path) (names path)

/-- Reads the file at a path. -/
def read (tree : FileTree) (path : String) : Except HostError Bytes :=
  match tree.locate path with
  | .error kind => .error (.system kind)
  | .ok place =>
    match tree.node? place with
    | none => .error (.system .notFound)
    | some .directory => .error (.system .isADirectory)
    | some (.file content) =>
      if path.endsWith "/" then .error (.system .notADirectory) else .ok content

/-- How the path of a program is refused where no file of the tree may be run. A name without a
    separator is looked for in other directories, which hold nothing but themselves. -/
def launchRefusal (tree : FileTree) (path : String) : HostErrorKind :=
  if path.toList.contains '/' then
    match tree.read path with
    | .ok _ | .error (.system .isADirectory) => .permissionDenied
    | .error error => error.kind
  else if path = "." || path = ".." then .permissionDenied
  else if nameLimit < path.utf8ByteSize then .nameTooLong
  else .notFound

/-- What launching a path starts: the program of the binary at the same place, if the path leads
    to a file. The binaries that can be run are given by their paths. -/
def programAt (tree : FileTree) (binaries : List (String × Program)) (path : String) :
    Program :=
  let found := binaries.find? fun (known, _) =>
    path.toList.contains '/' && (tree.read path).toBool &&
      (tree.locate known).toOption = (tree.locate path).toOption
  match found with
  | some (_, program) => program
  | none => .refused (tree.launchRefusal path)

/-- Whether a path leads to a directory. -/
def isDirectory (tree : FileTree) (path : String) : Bool :=
  match tree.locate path with
  | .ok place => tree.node? place = some .directory
  | .error _ => false

/-- Puts something at a place. -/
def insert (tree : FileTree) (place : List String) (node : Entry) : FileTree :=
  { tree with nodes := tree.nodes.insert (joined place) node }

/-- The name of a place inside another one, if there is nothing between the two. -/
def nameInside (outer inner : List String) : Option String :=
  if inner.dropLast = outer then inner.getLast? else none

/-- What stands inside a place, by name. -/
def entriesIn (tree : FileTree) (place : List String) : NameTable Entry :=
  .ofList (tree.nodes.entries.filterMap fun (key, node) =>
    (nameInside place (names key)).map fun name => (name, node))

/-- The place that a path leads to, where the empty path leads to the working directory. -/
def directoryPlace (tree : FileTree) (path : String) : Except HostErrorKind (List String) :=
  if path = "" then .ok tree.workingDirectory else tree.locate path

/-- The directory at a path. A name in it is followed by way of this path, which leaves it less
    room. -/
def directoryAt (tree : FileTree) (path : String) : Directory :=
  let nameRoom := some (pathLimit - (Text.Path.child path "").utf8ByteSize)
  match tree.directoryPlace path with
  | .error .notADirectory => { access := .obstructed, nameRoom }
  | .error _ => { access := .missing, nameRoom }
  | .ok place =>
    match tree.node? place with
    | none => { access := .missing, nameRoom }
    | some (.file _) => { access := .obstructed, nameRoom }
    | some .directory => { entries := tree.entriesIn place, nameRoom }

/-- The tree in which the directory at a path holds what another one holds. -/
def withDirectory (tree : FileTree) (path : String) (dir : Directory) : FileTree :=
  match tree.directoryPlace path with
  | .error _ => tree
  | .ok place =>
    let path (name : String) : String := joined (place ++ [name])
    let others := (tree.entriesIn place).names.foldl (fun nodes name => nodes.erase (path name))
      tree.nodes
    let nodes := dir.entries.entries.foldl (fun nodes entry => nodes.insert (path entry.1) entry.2)
      others
    { tree with nodes }

/-- Makes the directory at a path, where nothing stands. -/
def create (tree : FileTree) (path : String) : Except HostErrorKind FileTree :=
  match tree.locate path with
  | .error kind => .error kind
  | .ok place =>
    if (tree.node? place).isSome then .error .alreadyExists
    else .ok (tree.insert place .directory)

/-- Makes the directory at the first of some paths where it is missing, after those at the
    other ones, each of which leads to the one before it. -/
def createEach (tree : FileTree) : List String → FileTree × Option HostErrorKind
  | [] => (tree, none)
  | path :: shorter =>
    match tree.create path with
    | .ok tree => (tree, none)
    | .error .notFound =>
      match tree.createEach shorter with
      | (tree, some kind) => (tree, some kind)
      | (tree, none) =>
        match tree.create path with
        | .ok tree => (tree, none)
        | .error kind => (tree, if tree.isDirectory path then none else some kind)
    | .error kind => (tree, if tree.isDirectory path then none else some kind)

/-- A path, and the paths that lead to it, without the names `.` in them. -/
def ascending (path : String) : List String :=
  let names := (names path).filter (· ≠ ".")
  let root := if path.startsWith "/" then "/" else ""
  path :: ((List.range names.length).drop 1).reverse.map fun n => root ++ joined (names.take n)

/-- Makes the directory at a path, with those that lead to it, where they are missing. -/
def createAll (tree : FileTree) (path : String) : FileTree × Option HostError :=
  if path = "" then (tree, none)
  else
    match tree.createEach (ascending path) with
    | (tree, kind) => (tree, kind.map .system)

/-- Puts a file at a path, with the directories that lead to it. -/
def put (tree : FileTree) (path : String) (content : Bytes) : FileTree :=
  let place := tree.origin path ++ (names path).filter (· ≠ ".")
  let tree := (tree.createAll ("/" ++ joined place.dropLast)).1
  tree.insert place (.file content)

/-- The tree with a directory made and gone to. -/
def enter (tree : FileTree) (path : String) : FileTree :=
  let (tree, _) := tree.createAll path
  match tree.locate path with
  | .ok place => { tree with workingDirectory := place }
  | .error _ => tree

end FileTree

end MeshSidecar
