/-!
# Text as bytes

Files hold bytes; the texts in them are written in UTF-8. `Text.bytes` encodes a text and
`Text.string?` decodes bytes, refusing the ones that encode no text. `string?_bytes` says
that decoding undoes encoding. `Text.slice?` takes out the part of a text between two
positions, which are counted in bytes and must not lie within a character.
-/

namespace MeshSidecar

/-- A sequence of bytes. -/
abbrev Bytes := List UInt8

namespace Text

/-- The UTF-8 encoding of a text. -/
def bytes (s : String) : Bytes := s.toList.flatMap String.utf8EncodeChar

/-- The text that some bytes encode, if they encode one. -/
def string? (encoding : Bytes) : Option String :=
  encoding.toByteArray.utf8Decode?.map fun chars => String.ofList chars.toList

theorem string?_bytes (s : String) : string? (bytes s) = some s := by
  have h : (bytes s).toByteArray = s.toList.utf8Encode := rfl
  rw [string?, h, List.utf8Decode?_utf8Encode]
  simp

/-- Whether a position lies between two characters, or at an end of the text. -/
def isBoundary (encoding : Bytes) (position : Nat) : Bool :=
  match encoding[position]? with
  | some b => b < 0x80 || 0xc0 ≤ b
  | none => position = encoding.length

/-- The part of a text from one position to another one. -/
def slice? (s : String) (first last : Nat) : Option String :=
  let encoding := bytes s
  if isBoundary encoding first && isBoundary encoding last then
    string? ((encoding.take last).drop first)
  else none

end Text

end MeshSidecar
