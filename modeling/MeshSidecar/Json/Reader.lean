import MeshSidecar.Json.Fault
import MeshSidecar.Json.Scan
import MeshSidecar.Names.Set

/-!
# Reading values from a JSON document

A `Reader α` reads a value of type `α` from the front of what remains of a document. It
never looks past the point where it can tell that something is wrong, so of several faults
the first one from left to right is reported: a value of the wrong type before a broken
bracket behind it, a missing field at the closing brace of its object.

Records are described by a `Record`: the fields in their declared order, each with a reader
that yields the change it makes to the value, and a blank value that holds the defaults.
They are read from objects, with the fields in any order, and from arrays, with the fields
in declared order. A *strict* record refuses fields that it does not know; any other record
skips them.
-/

namespace MeshSidecar

/-- Reads a value from the front of a document. -/
abbrev Reader (α : Type) := Bytes → Except Fault (α × Bytes)

namespace Reader

open Scan

/-- What was scanned, or the fault that it is malformed. -/
def scanned {α : Type} : Except Malformed α → Except Fault α
  | .ok a => .ok a
  | .error offence => .error (.malformed offence)

/-- Stops at an offence against the grammar. -/
def malformed {α : Type} (offence : Malformed) : Except Fault α := .error (.malformed offence)

/-- The shape of a number where something else was expected. -/
def foundNumber : Number → Found
  | .natural n => .integer n
  | .negative n => .integer (-n)
  | .double x => .floating x

/-- The value at the front, where something else was expected. Of arrays and objects only the
    opening bracket is read. -/
def found (s : Bytes) : Except Malformed Found :=
  match s with
  | [] => .error .endInValue
  | b :: rest =>
    if b = openBracket then .ok .sequence
    else if b = openBrace then .ok .map
    else if b = quote then (string rest).map fun (text, _) => .string text
    else if b = letterN then (skipWord wordNull rest).map fun _ => .null
    else if b = letterT then (skipWord wordTrue rest).map fun _ => .boolean true
    else if b = letterF then (skipWord wordFalse rest).map fun _ => .boolean false
    else if b = minus then (number true rest).map fun (n, _) => foundNumber n
    else if isDigit b then (number false s).map fun (n, _) => foundNumber n
    else .error .expectedValue

/-- The fault of a value that stands where another one is expected. A value that cannot be
    read is malformed. -/
def mismatch (expected : String) (s : Bytes) : Fault :=
  match found s with
  | .ok found => .shape (.type found expected)
  | .error offence => .malformed offence

-- ── Plain values ────────────────────────────────────────────────────────────

/-- A string. -/
def text : Reader String := fun s =>
  match skipBlank s with
  | quote :: rest => scanned (string rest)
  | s => .error (mismatch "a string" s)

/-- The natural number of a numeric token, if it is below `bound`. -/
def naturalOf (bound : Nat) (expected : String) (read : Except Malformed (Number × Bytes)) :
    Except Fault (Nat × Bytes) :=
  match read with
  | .error offence => malformed offence
  | .ok (.natural n, rest) =>
      if n < bound then .ok (n, rest) else .error (.shape (.value (.integer n) expected))
  | .ok (.negative n, _) => .error (.shape (.value (.integer (-n)) expected))
  | .ok (.double x, _) => .error (.shape (.type (.floating x) expected))

/-- A natural number below `bound`. -/
def natural (bound : Nat) (expected : String) : Reader Nat := fun s =>
  match skipBlank s with
  | [] => malformed .endInValue
  | b :: rest =>
    if b = minus then naturalOf bound expected (number true rest)
    else if isDigit b then naturalOf bound expected (number false (b :: rest))
    else .error (mismatch expected (b :: rest))

/-- A number of sixteen bits. -/
def word16 : Reader UInt16 := fun s => do
  let (n, rest) ← natural (Nat.pow 2 16) "u16" s
  return (n.toUInt16, rest)

/-- A number of 64 bits. -/
def word64 : Reader UInt64 := fun s => do
  let (n, rest) ← natural (Nat.pow 2 64) "u64" s
  return (n.toUInt64, rest)

/-- A value that may be `null`. -/
def optional {α : Type} (read : Reader α) : Reader (Option α) := fun s =>
  match skipBlank s with
  | letterN :: rest => do
      let rest ← scanned (skipWord wordNull rest)
      return (none, rest)
  | s => do
      let (value, rest) ← read s
      return (some value, rest)

-- ── Separators ──────────────────────────────────────────────────────────────

/-- What remains from the next element of an array on, or `none` before its closing bracket.
    Elements after the first one follow a comma. -/
def nextItem (first : Bool) (s : Bytes) : Except Fault (Option Bytes) :=
  match skipBlank s with
  | [] => malformed .endInList
  | closeBracket :: _ => .ok none
  | s =>
    if first then .ok (some s)
    else
      match s with
      | comma :: rest =>
        match skipBlank rest with
        | [] => malformed .endInValue
        | closeBracket :: _ => malformed .trailingComma
        | rest => .ok (some rest)
      | _ => malformed .expectedCommaInList

/-- What remains after the closing bracket of an array. -/
def endOfItems (s : Bytes) : Except Fault Bytes :=
  match skipBlank s with
  | [] => malformed .endInList
  | closeBracket :: rest => .ok rest
  | comma :: rest =>
    match skipBlank rest with
    | closeBracket :: _ => malformed .trailingComma
    | _ => malformed .trailingCharacters
  | _ => malformed .trailingCharacters

/-- The next key of an object with what remains after it, or what remains after the closing
    brace. -/
inductive NextMember where
  | key (name : String) (rest : Bytes)
  | done (rest : Bytes)

/-- Reads a key after its opening quote. -/
def keyTail (s : Bytes) : Except Fault NextMember := do
  let (name, rest) ← scanned (string s)
  return .key name rest

/-- Reads up to and with the next key of an object, or its closing brace. Members after the
    first one follow a comma. -/
def nextMember (first : Bool) (s : Bytes) : Except Fault NextMember :=
  match skipBlank s with
  | [] => malformed .endInObject
  | closeBrace :: rest => .ok (.done rest)
  | s =>
    if first then
      match s with
      | quote :: rest => keyTail rest
      | _ => malformed .keyNotString
    else
      match s with
      | comma :: rest =>
        match skipBlank rest with
        | [] => malformed .endInValue
        | quote :: rest => keyTail rest
        | closeBrace :: _ => malformed .trailingComma
        | _ => malformed .keyNotString
      | _ => malformed .expectedCommaInObject

/-- What remains after the colon behind a key. -/
def colonAfterKey (s : Bytes) : Except Fault Bytes :=
  match skipBlank s with
  | [] => malformed .endInObject
  | colon :: rest => .ok rest
  | _ => malformed .expectedColon

-- ── Arrays and objects of like values ───────────────────────────────────────

/-- The elements of an array up to its closing bracket, at most `n` of them. -/
def items {α : Type} (read : Reader α) : Nat → Bool → Reader (List α)
  | 0, _, _ => malformed .expectedValue
  | n + 1, first, s =>
    match nextItem first s with
    | .error fault => .error fault
    | .ok none => do
        let rest ← endOfItems s
        return ([], rest)
    | .ok (some s) => do
        let (item, s) ← read s
        let (more, s) ← items read n false s
        return (item :: more, s)

/-- An array of like values. -/
def listOf {α : Type} (read : Reader α) : Reader (List α) := fun s =>
  match skipBlank s with
  | openBracket :: rest => items read (rest.length + 1) true rest
  | s => .error (mismatch "a sequence" s)

/-- The members of an object up to its closing brace, at most `n` of them, in order. -/
def members {α : Type} (read : Reader α) : Nat → Bool → Reader (List (String × α))
  | 0, _, _ => malformed .expectedValue
  | n + 1, first, s =>
    match nextMember first s with
    | .error fault => .error fault
    | .ok (.done rest) => .ok ([], rest)
    | .ok (.key name s) => do
        let s ← colonAfterKey s
        let (value, s) ← read s
        let (more, s) ← members read n false s
        return ((name, value) :: more, s)

/-- An object of like values under any keys; the last value of a repeated key counts. -/
def tableOf {α : Type} (read : Reader α) : Reader (NameTable α) := fun s =>
  match skipBlank s with
  | openBrace :: rest => do
      let (entries, rest) ← members read (rest.length + 1) true rest
      return (NameTable.ofList entries, rest)
  | s => .error (mismatch "a map" s)

/-- An array of names, in any order and with repetitions. -/
def nameSet : Reader NameSet := fun s => do
  let (names, rest) ← listOf text s
  return (NameSet.ofList names, rest)

-- ── Names of a fixed list ───────────────────────────────────────────────────

/-- The value of a known name. -/
def variantOf {α : Type} (variants : List (String × α)) (name : String) : Except Fault α :=
  match variants.find? (·.1 = name) with
  | some (_, value) => .ok value
  | none => .error (.shape (.unknownVariant name (variants.map (·.1))))

/-- One of a list of names, written as a string or as an object that holds `null` under
    the name. -/
def variant {α : Type} (variants : List (String × α)) : Reader α := fun s =>
  match skipBlank s with
  | quote :: rest => do
      let (name, rest) ← scanned (string rest)
      let value ← variantOf variants name
      return (value, rest)
  | openBrace :: rest =>
      match skipBlank rest with
      | quote :: rest => do
          let (name, rest) ← scanned (string rest)
          let value ← variantOf variants name
          let rest ← colonAfterKey rest
          match skipBlank rest with
          | letterN :: rest =>
              let rest ← scanned (skipWord wordNull rest)
              match skipBlank rest with
              | [] => malformed .endInObject
              | closeBrace :: rest => return (value, rest)
              | _ => malformed .expectedValue
          | rest => .error (mismatch "unit" rest)
      | [] => malformed .endInObject
      | closeBrace :: _ => malformed .expectedValue
      | _ => malformed .keyNotString
  | [] => malformed .endInValue
  | _ => malformed .expectedValue

end Reader

-- ── Records ─────────────────────────────────────────────────────────────────

/-- One field of a record of type `α`. -/
structure Field (α : Type) where
  name : String
  /-- Whether the field must be written. -/
  required : Bool
  /-- Reads the field and yields the change it makes. -/
  change : Reader (α → α)

/-- A field that must be written. -/
def Field.mandatory {α β : Type} (name : String) (read : Reader β) (set : β → α → α) : Field α :=
  ⟨name, true, fun s => do let (value, rest) ← read s; return (set value, rest)⟩

/-- A field that may be left out. -/
def Field.defaulted {α β : Type} (name : String) (read : Reader β) (set : β → α → α) : Field α :=
  ⟨name, false, fun s => do let (value, rest) ← read s; return (set value, rest)⟩

/-- How the records of a type are written. -/
structure Record (α : Type) where
  /-- What messages call the type. -/
  title : String
  /-- Whether unknown fields are refused. -/
  strict : Bool
  /-- The fields, in declared order. -/
  fields : List (Field α)
  /-- The value before any field is read. -/
  blank : α

namespace Record

open Scan Reader

variable {α : Type}

/-- What messages expect where a record should stand. -/
def expected (record : Record α) : String := "struct " ++ record.title

/-- What messages expect where an array lacks fields. -/
def expectedLength (record : Record α) : String :=
  record.expected ++ " with " ++ toString record.fields.length ++ " elements"

/-- The first field that must be written and was not. -/
def firstMissing (record : Record α) (seen : List String) : Option (Field α) :=
  record.fields.find? fun field => field.required && !seen.contains field.name

/-- Reads the members of an object up to its closing brace, at most `n` of them, into a value
    for which the fields `seen` have been read. -/
def members (record : Record α) : Nat → Bool → List String → α → Reader α
  | 0, _, _, _, _ => malformed .expectedValue
  | n + 1, first, seen, value, s =>
    match nextMember first s with
    | .error fault => .error fault
    | .ok (.done rest) =>
      match record.firstMissing seen with
      | some field => .error (.shape (.missingField field.name))
      | none => .ok (value, rest)
    | .ok (.key name s) =>
      match record.fields.find? (·.name = name) with
      | some field =>
        if seen.contains name then .error (.shape (.duplicateField name))
        else do
          let s ← colonAfterKey s
          let (change, s) ← field.change s
          members record n false (name :: seen) (change value) s
      | none =>
        if record.strict then
          .error (.shape (.unknownField name (record.fields.map (·.name))))
        else do
          let s ← colonAfterKey s
          let s ← scanned (skipValue s)
          members record n false seen value s

/-- Reads the elements of an array into the fields that remain, of which the first one is
    number `index`, up to the closing bracket. -/
def elements (record : Record α) : List (Field α) → Nat → Bool → α → Reader α
  | [], _, _, value, s => do
      let rest ← endOfItems s
      return (value, rest)
  | field :: fields, index, first, value, s =>
    match nextItem first s with
    | .error fault => .error fault
    | .ok none =>
        if field.required then .error (.shape (.length index record.expectedLength))
        else elements record fields (index + 1) first value s
    | .ok (some s) => do
        let (change, s) ← field.change s
        elements record fields (index + 1) false (change value) s

/-- Reads a record. -/
def read (record : Record α) : Reader α := fun s =>
  match skipBlank s with
  | openBracket :: rest => record.elements record.fields 0 true record.blank rest
  | openBrace :: rest => record.members (rest.length + 1) true [] record.blank rest
  | s => .error (mismatch record.expected s)

end Record

/-- The value of a whole document, which may only be followed by white space. -/
def Reader.document {α : Type} (read : Reader α) (s : Bytes) : Except Fault α := do
  let (value, rest) ← read s
  if (Scan.skipBlank rest).isEmpty then return value
  else throw (.malformed .trailingCharacters)

end MeshSidecar
