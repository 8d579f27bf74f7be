import MeshSidecar.Pattern.Basic
import MeshSidecar.Pattern.Cursor

/-!
# Reading the atoms of a pattern

Most characters stand for themselves. A backslash takes its meaning from a sign, and gives
one to some letters; before any other letter or digit it is refused, as is a code point that
is no character.

A pattern about the bytes of ASCII may only match whole characters. So where the characters
of all scripts are off, a dot, a negated class, a general category and a byte above ASCII are
refused.
-/

namespace MeshSidecar.Pattern

/-- The value of a hexadecimal digit of either case. -/
def hexValue (c : Char) : Option Nat :=
  if c.isDigit then some (c.toNat - '0'.toNat)
  else if 'a' ≤ c && c ≤ 'f' then some (c.toNat - 'a'.toNat + 10)
  else if 'A' ≤ c && c ≤ 'F' then some (c.toNat - 'A'.toNat + 10)
  else none

/-- Reads hexadecimal digits after those that made `value`. -/
def hexNumber : Nat → Nat → Read Nat
  | 0, value => return value
  | n + 1, value => do
    match hexValue (← next) with
    | some digit =>
      skip
      hexNumber n (value * 16 + digit)
    | none => refuse

/-- Reads the code point of a character in a number of hexadecimal digits, of which two make
    a byte. -/
def codePoint (digits : Nat) : Read Atom := do
  skip
  let code ← hexNumber digits 0
  let beyondAscii := digits = 2 && 0x80 ≤ code
  if beyondAscii && !(← get).unicode then refuse
  else if Nat.isValidChar code then return .character (Char.ofNat code)
  else refuse

/-- Reads the letter of a general category. -/
def category (negated : Bool) : Read Atom := do
  skip
  let letter ← next
  skip
  if (← get).unicode && "clmnpsz".toList.contains letter.toLower then
    return .category letter negated
  else refuse

/-- Reads what a backslash makes of the characters after it. -/
def escaped : Read Atom := do
  let c ← next
  let unicode := (← get).unicode
  match c with
  | 'x' => codePoint 2
  | 'u' => codePoint 4
  | 'U' => codePoint 8
  | 'p' => category false
  | 'P' => category true
  | 'd' | 's' | 'w' => return .shorthand c
  | 'D' | 'S' | 'W' => if unicode then return .shorthand c else refuse
  | 'a' => return .character '\x07'
  | 't' => return .character '\t'
  | 'n' => return .character '\n'
  | 'v' => return .character '\x0b'
  | 'f' => return .character '\x0c'
  | 'r' => return .character '\r'
  | 'A' | 'z' => return .edge
  | 'b' | 'B' | '<' | '>' => return .wordEdge unicode
  | c => if c.toNat < 0x80 && !c.isAlphanum then return .character c else refuse

/-- Reads an atom that stands outside of brackets. -/
def outside : Read Atom := do
  match ← next with
  | '\\' => escaped
  | '.' => if (← get).unicode then return .anyCharacter else refuse
  | '^' | '$' => return .edge
  | c => return .character c

/-- Reads an atom that stands in brackets: a character, or a class of them. -/
def inside : Read Atom := do
  let atom ← (do
    match ← next with
    | '\\' => escaped
    | c => return .character c)
  match atom with
  | .character c => if (← get).unicode || c.toNat < 0x80 then return atom else refuse
  | .shorthand _ | .category _ _ => return atom
  | _ => refuse

end MeshSidecar.Pattern
