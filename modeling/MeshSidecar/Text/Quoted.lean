import MeshSidecar.Text.Unprintable

/-!
# Quoted text

Messages show a piece of foreign text between double quotes, so that its ends can be
seen and no character of it disturbs the line it stands in.

Between the quotes stand: `\0`, `\t`, `\r`, `\n`, `\\` and `\"` for those characters;
`\u`, an opening brace, the code point in lower-case hexadecimal and a closing brace for
every other character that has no visible form or extends the character before it;
all other characters as they are. The single quote is left alone.
-/

namespace MeshSidecar.Text

/-- The lower-case hexadecimal digits of a number, without leading zeros. -/
def hexDigits (n : Nat) : String := String.ofList (Nat.toDigits 16 n)

/-- Whether a character is shown as it is between quotes. -/
def isPlain (c : Char) : Bool :=
  if c.toNat < 0x7f then 0x20 ≤ c.toNat
  else !(inRanges graphemeExtending c.toNat || inRanges unprintable c.toNat)

/-- One character as it stands between quotes. -/
def quotedChar (c : Char) : String :=
  if c = '\x00' then "\\0"
  else if c = '\t' then "\\t"
  else if c = '\r' then "\\r"
  else if c = '\n' then "\\n"
  else if c = '\\' then "\\\\"
  else if c = '"' then "\\\""
  else if isPlain c then c.toString
  else "\\u\x7b" ++ hexDigits c.toNat ++ "\x7d"

/-- A text between double quotes. -/
def quoted (s : String) : String :=
  "\"" ++ String.join (s.toList.map quotedChar) ++ "\""

end MeshSidecar.Text
