/-!
# Refusals of the operating system

What the operating system answers when it cannot open, write or remove a file or start a
program. A *kind* tells refusals apart; a refusal shows the system's own words and number,
and a refusal that did not come from the system shows the words of its kind.
-/

namespace MeshSidecar

/-- The kind of a refusal. -/
inductive HostErrorKind where
  | notFound
  | permissionDenied
  | alreadyExists
  | notADirectory
  | isADirectory
  | invalidInput
  | storageFull
  | nameTooLong
deriving DecidableEq

namespace HostErrorKind

/-- The words for a kind. -/
def message : HostErrorKind → String
  | .notFound => "entity not found"
  | .permissionDenied => "permission denied"
  | .alreadyExists => "entity already exists"
  | .notADirectory => "not a directory"
  | .isADirectory => "is a directory"
  | .invalidInput => "invalid input parameter"
  | .storageFull => "no storage space"
  | .nameTooLong => "invalid filename"

/-- The words and the number that the system has for a kind. -/
def systemMessage : HostErrorKind → String
  | .notFound => "No such file or directory (os error 2)"
  | .permissionDenied => "Permission denied (os error 13)"
  | .alreadyExists => "File exists (os error 17)"
  | .notADirectory => "Not a directory (os error 20)"
  | .isADirectory => "Is a directory (os error 21)"
  | .invalidInput => "Invalid argument (os error 22)"
  | .storageFull => "No space left on device (os error 28)"
  | .nameTooLong => "File name too long (os error 36)"

end HostErrorKind

/-- A refusal. -/
inductive HostError where
  /-- The answer of the system. -/
  | system (kind : HostErrorKind)
  /-- A refusal of a kind without an answer of the system. -/
  | plain (kind : HostErrorKind)
  /-- A text with a NUL in it, which cannot be passed to the system. -/
  | nulByte
deriving DecidableEq

namespace HostError

/-- The kind of a refusal. -/
def kind : HostError → HostErrorKind
  | .system kind => kind
  | .plain kind => kind
  | .nulByte => .invalidInput

/-- The words for a refusal. -/
def message : HostError → String
  | .system kind => kind.systemMessage
  | .plain kind => kind.message
  | .nulByte => "nul byte found in provided data"

end HostError

end MeshSidecar
