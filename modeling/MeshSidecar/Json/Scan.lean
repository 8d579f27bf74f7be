import MeshSidecar.Json.Fault
import MeshSidecar.Text.Bytes

/-!
# The tokens of a JSON document

A document is read from its bytes, from left to right. Each function here takes what
remains of the document and answers with what it read and what remains after it, or with
the offence where the document is malformed or ends too early.

A string that is needed is decoded (`string`): its escaped surrogates must be paired, and
its bytes, with the escapes replaced by what they stand for, must be UTF-8. A value that is
not needed is only skipped (`skipValue`): its brackets, separators, words, numbers and
escapes must be in order, but its strings need not decode.

Numbers are read as they are used: a natural number below `2 ^ 64`, a negative one down to
`-2 ^ 63`, and a double-precision number for everything else, `-0` included. The latter is
the value of the leading digits that fit into 64 bits, times or divided by a power of ten.
-/

namespace MeshSidecar.Scan

-- ── Bytes of the grammar ────────────────────────────────────────────────────

@[match_pattern] abbrev quote : UInt8 := 0x22
@[match_pattern] abbrev plus : UInt8 := 0x2b
@[match_pattern] abbrev comma : UInt8 := 0x2c
@[match_pattern] abbrev minus : UInt8 := 0x2d
@[match_pattern] abbrev point : UInt8 := 0x2e
@[match_pattern] abbrev slash : UInt8 := 0x2f
@[match_pattern] abbrev colon : UInt8 := 0x3a
@[match_pattern] abbrev openBracket : UInt8 := 0x5b
@[match_pattern] abbrev backslash : UInt8 := 0x5c
@[match_pattern] abbrev closeBracket : UInt8 := 0x5d
@[match_pattern] abbrev letterB : UInt8 := 0x62
@[match_pattern] abbrev letterF : UInt8 := 0x66
@[match_pattern] abbrev letterN : UInt8 := 0x6e
@[match_pattern] abbrev letterR : UInt8 := 0x72
@[match_pattern] abbrev letterT : UInt8 := 0x74
@[match_pattern] abbrev letterU : UInt8 := 0x75
@[match_pattern] abbrev openBrace : UInt8 := 0x7b
@[match_pattern] abbrev closeBrace : UInt8 := 0x7d

/-- Whether a byte is white space between tokens. -/
def isBlank (b : UInt8) : Bool := b == 0x20 || b == 0x0a || b == 0x09 || b == 0x0d

/-- Whether a byte is a decimal digit. -/
def isDigit (b : UInt8) : Bool := 0x30 ≤ b && b ≤ 0x39

/-- Whether a byte starts an exponent. -/
def isExponentMark (b : UInt8) : Bool := b == 0x65 || b == 0x45

/-- The value of a decimal digit. -/
def digitValue (b : UInt8) : Nat := b.toNat - 0x30

/-- What remains after the white space. -/
def skipBlank (s : Bytes) : Bytes := s.dropWhile isBlank

/-- What remains after a word, which must stand at the front. -/
def skipWord : Bytes → Bytes → Except Malformed Bytes
  | [], s => .ok s
  | _ :: _, [] => .error .endInValue
  | w :: word, b :: rest => if w = b then skipWord word rest else .error .expectedWord

/-- `ull`, what follows the first letter of `null`. -/
def wordNull : Bytes := [0x75, 0x6c, 0x6c]

/-- `rue`, what follows the first letter of `true`. -/
def wordTrue : Bytes := [0x72, 0x75, 0x65]

/-- `alse`, what follows the first letter of `false`. -/
def wordFalse : Bytes := [0x61, 0x6c, 0x73, 0x65]

-- ── Strings ─────────────────────────────────────────────────────────────────

/-- The value of a hexadecimal digit of either case. -/
def hexValue (b : UInt8) : Option Nat :=
  if isDigit b then some (b.toNat - 0x30)
  else if 0x61 ≤ b && b ≤ 0x66 then some (b.toNat - 0x57)
  else if 0x41 ≤ b && b ≤ 0x46 then some (b.toNat - 0x37)
  else none

/-- The value of four hexadecimal digits. -/
def hexValue4 (a b c d : UInt8) : Option Nat := do
  return (← hexValue a) * 4096 + (← hexValue b) * 256 + (← hexValue c) * 16 + (← hexValue d)

/-- The character that a backslash and this byte stand for. -/
def simpleEscape (b : UInt8) : Option UInt8 :=
  if b = quote || b = backslash || b = slash then some b
  else if b = letterB then some 0x08
  else if b = letterF then some 0x0c
  else if b = letterN then some 0x0a
  else if b = letterR then some 0x0d
  else if b = letterT then some 0x09
  else none

/-- Whether a code unit is the first half of a surrogate pair. -/
def isLeading (n : Nat) : Bool := 0xd800 ≤ n && n ≤ 0xdbff

/-- Whether a code unit is the second half of a surrogate pair. -/
def isTrailing (n : Nat) : Bool := 0xdc00 ≤ n && n ≤ 0xdfff

/-- The encoding of the character with a code point. -/
def encoded (code : Nat) : Bytes := String.utf8EncodeChar (Char.ofNat code)

/-- The code point of a surrogate pair. -/
def paired (leading trailing : Nat) : Nat :=
  0x10000 + (leading - 0xd800) * 0x400 + (trailing - 0xdc00)

/-- Puts bytes in front of the ones that were read. -/
def push (front : Bytes) : Except Malformed (Bytes × Bytes) → Except Malformed (Bytes × Bytes)
  | .ok (content, rest) => .ok (front ++ content, rest)
  | .error offence => .error offence

/-- Reads the bytes that a string stands for, after its opening quote. -/
def stringTail : Bytes → Except Malformed (Bytes × Bytes)
  | [] => .error .endInString
  | b :: s =>
    if b = quote then .ok ([], s)
    else if b = backslash then
      match s with
      | [] => .error .endInString
      | e :: s =>
        if e = letterU then
          match s with
          | h1 :: h2 :: h3 :: h4 :: s =>
            match hexValue4 h1 h2 h3 h4 with
            | none => .error .invalidEscape
            | some unit =>
              if isTrailing unit then .error .loneSurrogate
              else if isLeading unit then
                match s with
                | [] => .error .endInString
                | [e1] => .error (if e1 = backslash then .endInString else .endOfEscape)
                | e1 :: e2 :: s =>
                  if e1 ≠ backslash || e2 ≠ letterU then .error .endOfEscape
                  else
                    match s with
                    | t1 :: t2 :: t3 :: t4 :: s =>
                      match hexValue4 t1 t2 t3 t4 with
                      | none => .error .invalidEscape
                      | some second =>
                        if isTrailing second then
                          push (encoded (paired unit second)) (stringTail s)
                        else .error .loneSurrogate
                    | _ => .error .endInString
              else push (encoded unit) (stringTail s)
          | _ => .error .endInString
        else
          match simpleEscape e with
          | some c => push [c] (stringTail s)
          | none => .error .invalidEscape
    else if b < 0x20 then .error .controlCharacter
    else push [b] (stringTail s)

/-- Reads a string after its opening quote. -/
def string (s : Bytes) : Except Malformed (String × Bytes) :=
  match stringTail s with
  | .error offence => .error offence
  | .ok (content, rest) =>
    match Text.string? content with
    | some text => .ok (text, rest)
    | none => .error .invalidCodePoint

/-- What remains after a string, after its opening quote. -/
def skipString : Bytes → Except Malformed Bytes
  | [] => .error .endInString
  | b :: s =>
    if b = quote then .ok s
    else if b = backslash then
      match s with
      | [] => .error .endInString
      | e :: s =>
        if e = letterU then
          match s with
          | h1 :: h2 :: h3 :: h4 :: s =>
            if (hexValue4 h1 h2 h3 h4).isSome then skipString s else .error .invalidEscape
          | _ => .error .endInString
        else if (simpleEscape e).isSome then skipString s
        else .error .invalidEscape
    else if b < 0x20 then .error .controlCharacter
    else skipString s

-- ── Numbers ─────────────────────────────────────────────────────────────────

/-- A number as it is used. -/
inductive Number where
  | natural (value : Nat)
  | negative (magnitude : Nat)
  | double (value : Decimal.Double)
deriving DecidableEq

/-- The greatest number of 64 bits. -/
def maxWord : Nat := Nat.pow 2 64 - 1

/-- The greatest exponent that is told apart from the ones above it. -/
def maxExponent : Int := (Nat.pow 2 31 : Nat) - 1

/-- Appends digits to a number as long as it fits into 64 bits, and tells which remain. -/
def appendDigits (value : Nat) : Bytes → Nat × Bytes
  | [] => (value, [])
  | d :: digits =>
    let next := value * 10 + digitValue d
    if maxWord < next then (value, d :: digits) else appendDigits next digits

/-- A power of ten, rounded to a double-precision number. -/
def tenTo (n : Nat) : Float := Float.ofScientific 1 false n

/-- `x · 10 ^ exponent`, in steps that each round; `none` beyond the greatest number. -/
def scaled (x : Float) (exponent : Int) : Option Float :=
  if exponent.natAbs ≤ 308 then
    if 0 ≤ exponent then
      let y := x * tenTo exponent.natAbs
      if y.isInf then none else some y
    else some (x / tenTo exponent.natAbs)
  else if x == 0 then some x
  else if 0 ≤ exponent then none
  else scaled (x / tenTo 308) (exponent + 308)
termination_by exponent.natAbs
decreasing_by omega

/-- The double-precision number of a sign, a significand and an exponent. -/
def double (negative : Bool) (significand : Nat) (exponent : Int) : Except Malformed Number :=
  match scaled significand.toUInt64.toFloat exponent with
  | some x => .ok (.double (.ofFloat (if negative then -x else x)))
  | none => .error .numberOutOfRange

/-- The offence of a number that lacks a digit before what remains. -/
def missingDigit (s : Bytes) : Malformed := if s.isEmpty then .endInValue else .invalidNumber

/-- The sign of an exponent, whether it is negative, with what remains after it. -/
def exponentSign : Bytes → Bool × Bytes
  | plus :: s => (false, s)
  | minus :: s => (true, s)
  | s => (false, s)

/-- Reads an exponent after its mark, for a significand and an exponent so far. -/
def exponentTail (negative : Bool) (significand : Nat) (exponent : Int) (s : Bytes) :
    Except Malformed (Number × Bytes) := do
  let (down, s) := exponentSign s
  let digits := s.takeWhile isDigit
  let rest := s.dropWhile isDigit
  let shift : Int := digits.foldl (fun n d => n * 10 + digitValue d) 0
  if digits.isEmpty then throw (missingDigit rest)
  if maxExponent < shift then
    if significand = 0 || down then
      return (.double (.ofFloat (if negative then -0.0 else 0.0)), rest)
    else throw .numberOutOfRange
  let total := if down then exponent - shift else exponent + shift
  let n ← double negative significand (max (-maxExponent - 1) (min maxExponent total))
  return (n, rest)

/-- Reads what may follow the digits of a number: an exponent, or nothing that belongs to it,
    where the number is `plain`. -/
def numberEnd (plain : Except Malformed Number) (negative : Bool) (significand : Nat)
    (exponent : Int) (s : Bytes) : Except Malformed (Number × Bytes) :=
  match s with
  | b :: rest =>
    if isExponentMark b then exponentTail negative significand exponent rest
    else plain.map (·, s)
  | [] => plain.map (·, s)

/-- Reads the digits after the point, of which there must be one, and what follows. -/
def fractionTail (negative : Bool) (significand : Nat) (exponent : Int) (s : Bytes) :
    Except Malformed (Number × Bytes) :=
  let digits := s.takeWhile isDigit
  let rest := s.dropWhile isDigit
  if digits.isEmpty then .error (missingDigit rest)
  else
    let (value, dropped) := appendDigits significand digits
    let exponent := exponent - (digits.length - dropped.length : Nat)
    numberEnd (double negative value exponent) negative value exponent rest

/-- A number without point and exponent, of which some digits were dropped. -/
def integer (negative : Bool) (significand dropped : Nat) : Except Malformed Number :=
  if dropped ≠ 0 then double negative significand dropped
  else if !negative then .ok (.natural significand)
  else if significand = 0 || Nat.pow 2 63 < significand then double true significand 0
  else .ok (.negative significand)

/-- Whether digits start with a zero that another one follows. -/
def hasLeadingZero (digits : Bytes) : Bool := digits.head? == some 0x30 && digits.length ≠ 1

/-- Reads a number after its sign. -/
def number (negative : Bool) (s : Bytes) : Except Malformed (Number × Bytes) :=
  let digits := s.takeWhile isDigit
  let rest := s.dropWhile isDigit
  if digits.isEmpty then .error (missingDigit rest)
  else if hasLeadingZero digits then .error .invalidNumber
  else
    let (significand, dropped) := appendDigits 0 digits
    match rest with
    | point :: after => fractionTail negative significand dropped.length after
    | rest =>
      numberEnd (integer negative significand dropped.length) negative significand
        dropped.length rest

/-- What remains after the digits at the front, of which there must be one. -/
def skipDigits (s : Bytes) : Except Malformed Bytes :=
  if (s.takeWhile isDigit).isEmpty then .error .invalidNumber else .ok (s.dropWhile isDigit)

/-- What remains after an exponent, if there is one. -/
def skipExponent (s : Bytes) : Except Malformed Bytes :=
  match s with
  | b :: rest => if isExponentMark b then skipDigits (exponentSign rest).2 else .ok s
  | [] => .ok s

/-- What remains after a number, after its sign. -/
def skipNumber (s : Bytes) : Except Malformed Bytes := do
  let rest ← skipDigits s
  if hasLeadingZero (s.takeWhile isDigit) then throw .invalidNumber
  match rest with
  | point :: after =>
      let rest ← skipDigits after
      skipExponent rest
  | rest => skipExponent rest

-- ── Values that are not needed ──────────────────────────────────────────────

mutual

/-- What remains after a value. The first argument bounds the steps; twice the number of bytes
    is always enough, since of two steps in a row one at least passes a byte. -/
def skipSteps : Nat → Bytes → Except Malformed Bytes
  | 0, _ => .error .expectedValue
  | n + 1, s =>
    match skipBlank s with
    | [] => .error .endInValue
    | b :: rest =>
      if b = openBracket then
        match skipBlank rest with
        | [] => .error .endInList
        | closeBracket :: rest => .ok rest
        | rest => skipItems n rest
      else if b = openBrace then
        match skipBlank rest with
        | [] => .error .endInObject
        | closeBrace :: rest => .ok rest
        | rest => skipMembers n rest
      else if b = quote then skipString rest
      else if b = letterN then skipWord wordNull rest
      else if b = letterT then skipWord wordTrue rest
      else if b = letterF then skipWord wordFalse rest
      else if b = minus then skipNumber rest
      else if isDigit b then skipNumber (b :: rest)
      else .error .expectedValue

/-- What remains after the elements of an array and its closing bracket. -/
def skipItems : Nat → Bytes → Except Malformed Bytes
  | 0, _ => .error .expectedValue
  | n + 1, s =>
    match skipSteps n s with
    | .error offence => .error offence
    | .ok rest =>
      match skipBlank rest with
      | [] => .error .endInList
      | comma :: rest => skipItems n rest
      | closeBracket :: rest => .ok rest
      | _ => .error .expectedCommaInList

/-- What remains after the members of an object and its closing brace. -/
def skipMembers : Nat → Bytes → Except Malformed Bytes
  | 0, _ => .error .expectedValue
  | n + 1, s =>
    match skipBlank s with
    | [] => .error .endInObject
    | quote :: rest =>
      match skipString rest with
      | .error offence => .error offence
      | .ok rest =>
        match skipBlank rest with
        | [] => .error .endInObject
        | colon :: rest =>
          match skipSteps n rest with
          | .error offence => .error offence
          | .ok rest =>
            match skipBlank rest with
            | [] => .error .endInObject
            | comma :: rest => skipMembers n rest
            | closeBrace :: rest => .ok rest
            | _ => .error .expectedCommaInObject
        | _ => .error .expectedColon
    | _ => .error .keyNotString

end

/-- What remains after a value. -/
def skipValue (s : Bytes) : Except Malformed Bytes := skipSteps (2 * s.length + 2) s

end MeshSidecar.Scan
