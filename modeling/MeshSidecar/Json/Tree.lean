/-!
# JSON values and their texts

`Json` is the type of the values that the controller writes. Numbers are natural, as all
its numbers are; the members of an object stand in the order in which they are written.

`Json.compact` writes a value without white space. `Json.pretty` puts every element and
member on a line of its own, indented by two spaces per level, a space after each colon,
and writes an empty array or object as its two brackets. Neither ends in a line break.

Both spell strings in the same way: `\"`, `\\`, `\b`, `\f`, `\n`, `\r` and `\t` for those
characters, `\u` and four hexadecimal digits for the other characters below the space, and
every other character as it is.
-/

namespace MeshSidecar

/-- A JSON value. -/
inductive Json where
  | null
  | bool (value : Bool)
  | number (value : Nat)
  | string (value : String)
  | array (items : List Json)
  | object (members : List (String × Json))
deriving Inhabited

namespace Json

-- ── Strings ─────────────────────────────────────────────────────────────────

/-- The lower-case hexadecimal digit of a number below sixteen. -/
def hexDigit (n : Nat) : Char :=
  if n < 10 then Char.ofNat (n + 48) else Char.ofNat (n + 87)

/-- One character inside a string. -/
def escapedChar (c : Char) : List Char :=
  if c = '"' then ['\\', '"']
  else if c = '\\' then ['\\', '\\']
  else if c = '\n' then ['\\', 'n']
  else if c = '\r' then ['\\', 'r']
  else if c = '\t' then ['\\', 't']
  else if c = '\x08' then ['\\', 'b']
  else if c = '\x0c' then ['\\', 'f']
  else if c.toNat < 0x20 then
    ['\\', 'u', '0', '0', hexDigit (c.toNat / 16), hexDigit (c.toNat % 16)]
  else [c]

/-- A string with its quotes. -/
def stringText (s : String) : List Char :=
  '"' :: (s.toList.flatMap escapedChar ++ ['"'])

/-- A natural number in decimal. -/
def numberText (n : Nat) : List Char := Nat.toDigits 10 n

-- ── Without white space ─────────────────────────────────────────────────────

mutual

/-- The characters of a value without white space. -/
def compactText : Json → List Char
  | .null => ['n', 'u', 'l', 'l']
  | .bool true => ['t', 'r', 'u', 'e']
  | .bool false => ['f', 'a', 'l', 's', 'e']
  | .number n => numberText n
  | .string s => stringText s
  | .array [] => ['[', ']']
  | .array (item :: rest) => '[' :: (compactText item ++ compactItems rest)
  | .object [] => ['\x7b', '\x7d']
  | .object ((key, value) :: rest) =>
      '\x7b' :: (stringText key ++ ':' :: (compactText value ++ compactMembers rest))

/-- The elements after the first one, up to the closing bracket. -/
def compactItems : List Json → List Char
  | [] => [']']
  | item :: rest => ',' :: (compactText item ++ compactItems rest)

/-- The members after the first one, up to the closing brace. -/
def compactMembers : List (String × Json) → List Char
  | [] => ['\x7d']
  | (key, value) :: rest =>
      ',' :: (stringText key ++ ':' :: (compactText value ++ compactMembers rest))

end

/-- The text of a value without white space. -/
def compact (json : Json) : String := String.ofList json.compactText

-- ── One element or member per line ──────────────────────────────────────────

/-- The start of a line at a level. -/
def lineBreak (level : Nat) : List Char := '\n' :: List.replicate (2 * level) ' '

mutual

/-- The characters of a value whose lines are indented for a level. -/
def prettyText (level : Nat) : Json → List Char
  | .null => ['n', 'u', 'l', 'l']
  | .bool true => ['t', 'r', 'u', 'e']
  | .bool false => ['f', 'a', 'l', 's', 'e']
  | .number n => numberText n
  | .string s => stringText s
  | .array [] => ['[', ']']
  | .array (item :: rest) =>
      '[' :: (lineBreak (level + 1) ++ prettyText (level + 1) item ++ prettyItems level rest)
  | .object [] => ['\x7b', '\x7d']
  | .object ((key, value) :: rest) =>
      '\x7b' :: (lineBreak (level + 1) ++ stringText key ++ [':', ' '] ++
        prettyText (level + 1) value ++ prettyMembers level rest)

/-- The elements after the first one, up to the closing bracket on its own line. -/
def prettyItems (level : Nat) : List Json → List Char
  | [] => lineBreak level ++ [']']
  | item :: rest =>
      ',' :: (lineBreak (level + 1) ++ prettyText (level + 1) item ++ prettyItems level rest)

/-- The members after the first one, up to the closing brace on its own line. -/
def prettyMembers (level : Nat) : List (String × Json) → List Char
  | [] => lineBreak level ++ ['\x7d']
  | (key, value) :: rest =>
      ',' :: (lineBreak (level + 1) ++ stringText key ++ [':', ' '] ++
        prettyText (level + 1) value ++ prettyMembers level rest)

end

/-- The text of a value with one element or member per line. -/
def pretty (json : Json) : String := String.ofList (json.prettyText 0)

end Json

end MeshSidecar
