import MeshSidecar.Host.Error

/-!
# Processes

A process runs until it ends: of its own accord with a code, or by a signal. Everyone ends
at once by SIGKILL, while SIGTERM asks for an end that may come later or never. A process
that has ended still holds its number until someone has waited for it.
-/

namespace MeshSidecar

/-- A signal to a process. -/
inductive Signal where
  | term
  | kill
deriving DecidableEq

/-- The name of a signal. -/
def Signal.name : Signal → String
  | .term => "SIGTERM"
  | .kill => "SIGKILL"

/-- The number of a signal. -/
def Signal.number : Signal → Nat
  | .term => 15
  | .kill => 9

/-- How a process ended. -/
inductive ExitStatus where
  | code (n : UInt8)
  | signal (s : Signal)
deriving DecidableEq

namespace ExitStatus

/-- Whether a process ended as it should. -/
def isSuccess (status : ExitStatus) : Bool := status = .code 0

/-- The words for how a process ended. -/
def message : ExitStatus → String
  | .code n => "exit status: " ++ toString n.toNat
  | .signal s => "signal: " ++ toString s.number ++ " (" ++ s.name ++ ")"

end ExitStatus

/-- What a binary does when it is launched. -/
inductive Program where
  /-- It runs; after SIGTERM it goes on for a number of milliseconds, or for good. -/
  | runs (stopsAfter : Option Nat)
  /-- It cannot be launched. -/
  | refused (kind : HostErrorKind)
deriving DecidableEq

/-- The number that tells a process apart. -/
abbrev ProcessId := Nat

end MeshSidecar
