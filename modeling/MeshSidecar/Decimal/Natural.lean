/-!
# Decimal numbers of 64 bits

Reads a number that is written in decimal digits, with a plus sign in front or not. Zeros in
front are of no account. The first character at which a text cannot be a number of 64 bits
decides what is said of it: one that is no digit, or a digit that makes the number too large.
-/

namespace MeshSidecar.Decimal

/-- The reason why a text is no number. -/
inductive NumberFault where
  | empty
  | invalidDigit
  | tooLarge
deriving DecidableEq

/-- The words for the reason. -/
def NumberFault.message : NumberFault → String
  | .empty => "cannot parse integer from empty string"
  | .invalidDigit => "invalid digit found in string"
  | .tooLarge => "number too large to fit in target type"

/-- Reads digits after those that made `value`. -/
def readDigits (value : Nat) : List Char → Except NumberFault Nat
  | [] => .ok value
  | c :: rest =>
    if c.isDigit then
      let next := value * 10 + (c.toNat - '0'.toNat)
      if next < Nat.pow 2 64 then readDigits next rest else .error .tooLarge
    else .error .invalidDigit

/-- Reads a number of 64 bits. -/
def readWord64 (text : String) : Except NumberFault UInt64 :=
  match text.toList with
  | [] => .error .empty
  | ['+'] => .error .invalidDigit
  | '+' :: digits => (readDigits 0 digits).map Nat.toUInt64
  | digits => (readDigits 0 digits).map Nat.toUInt64

end MeshSidecar.Decimal
