import MeshSidecar.CommandLine.FieldFilter
import MeshSidecar.Decimal.Natural
import MeshSidecar.Text.Bytes

/-!
# Log filters

A log filter is a list of directives with commas between them, of which empty ones do not
count. A directive is a level; a target; or a target, a span in brackets, or both, with an
equals sign and a level after them. A span may name a field in braces. The level may be left
out after the equals sign, and a target without a level enables all levels.

`LogFilter.check` tells what is wrong with a filter first, from left to right. Blank
characters around a directive do not count, except that its parts are read from the text with
those blanks in place, at the positions that they have without them. Where such a position
lies within a character, the directive cannot be read at all.
-/

namespace MeshSidecar

/-- The reason why a text is no log filter. -/
inductive LogFilterFault where
  | directive
  | level
  | field (fault : Pattern.Fault)
  /-- A part of a directive starts or ends within a character. -/
  | dividedCharacter
deriving DecidableEq

namespace LogFilterFault

/-- The words for the reason. -/
def message : LogFilterFault → String
  | .directive => "invalid filter directive"
  | .level =>
      "error parsing level filter: expected one of \"off\", \"error\", \"warn\", \"info\", " ++
        "\"debug\", \"trace\", or a number 0-5"
  | .field fault => "invalid field filter: " ++ fault.message
  | .dividedCharacter => "a part of a directive divides a character"

/-- The words for the reason and for what caused it, which starts with the same words for a
    level and for a field. -/
def chain : LogFilterFault → String
  | .level => message .level ++ ": " ++ message .level
  | .field fault => message (.field fault) ++ ": " ++ fault.chain
  | fault => fault.message

end LogFilterFault

namespace LogFilter

/-- Whether a text is a level: a number up to five, or a name in any case. -/
def isLevel (text : String) : Bool :=
  match Decimal.readWord64 text with
  | .ok n => n ≤ 5
  | .error _ => ["off", "error", "warn", "info", "debug", "trace"].contains text.toLower

/-- The part of a directive from one position to another one. -/
def part (directive : String) (first last : Nat) : Except LogFilterFault String :=
  match Text.slice? directive first last with
  | some text => .ok text
  | none => .error .dividedCharacter

/-- What is being read of a directive, with the position where it starts. -/
inductive Stage where
  | start
  | levelOrTarget
  | span (first : Nat)
  | field (first : Nat)
  | fields
  | target
  | level (first : Nat)
deriving DecidableEq

/-- What is read next when a character stands at a position. -/
def Stage.next (directive : String) (position : Nat) (c : Char) :
    Stage → Except LogFilterFault Stage
  | .start =>
      if c = '[' then .ok (.span (position + 1))
      else if c = '-' || c = ':' || c = '_' || Text.isAlphanumeric c then .ok .levelOrTarget
      else .error .directive
  | .levelOrTarget =>
      if c = '=' then (part directive 0 position).map fun _ => .level (position + 1)
      else if c = '[' then (part directive 0 position).map fun _ => .span (position + 1)
      else .ok .levelOrTarget
  | .span first =>
      if c = ']' then (part directive first position).map fun _ => .target
      else if c = '\x7b' then (part directive first position).map fun _ => .field (position + 1)
      else .ok (.span first)
  | .field first =>
      if c = '\x7d' then
        match part directive first position with
        | .error fault => .error fault
        | .ok text =>
          if text = "" then .error .directive
          else
            match FieldFilter.check text with
            | some fault => .error (.field fault)
            | none => .ok .fields
      else .ok (.field first)
  | .fields => if c = ']' then .ok .target else .error .directive
  | .target => if c = '=' then .ok (.level (position + 1)) else .error .directive
  | .level first => .ok (.level first)

/-- Reads characters from a position on. -/
def readStages (directive : String) (position : Nat) :
    List Char → Stage → Except LogFilterFault Stage
  | [], stage => .ok stage
  | c :: rest, stage =>
    match stage.next directive position c with
    | .error fault => .error fault
    | .ok stage => readStages directive (position + c.utf8Size) rest stage

/-- What is wrong with a directive that ends in a stage, if anything is. -/
def Stage.faultAtEnd (directive : String) : Stage → Option LogFilterFault
  | .level first =>
    match part directive first directive.utf8ByteSize with
    | .error fault => some fault
    | .ok text => if text = "" || isLevel text then none else some .level
  | .levelOrTarget | .target => none
  | _ => some .directive

/-- What is wrong with a directive, if anything is. -/
def checkDirective (directive : String) : Option LogFilterFault :=
  match readStages directive 0 (Text.trimmed directive.toList) .start with
  | .error fault => some fault
  | .ok stage => stage.faultAtEnd directive

/-- The directives of a filter. -/
def directives (text : String) : List String := (text.splitOn ",").filter (· ≠ "")

/-- What is wrong with a filter, if anything is. -/
def check (text : String) : Option LogFilterFault := (directives text).findSome? checkDirective

end LogFilter

end MeshSidecar
