import MeshSidecar.Json.Scan
import MeshSidecar.Json.Tree
import Mathlib.Data.List.Forall2

/-!
# The texts of a JSON value

A JSON value is written in many ways: there may be white space around every token, and a
character of a string may stand for itself or be escaped, if it must not be. A text `Spells` a
value if it is one of these ways. There is one way only to write a number, in decimal digits
without a zero in front, and members stand in the order that the value has them in.

What the controller writes without white space is one of the texts of a value
(`Json.spells_compact`).
-/

namespace MeshSidecar.Json

open Scan

-- ── Tokens ──────────────────────────────────────────────────────────────────

/-- White space between tokens, or nothing. -/
def Blank (text : Bytes) : Prop := ∀ b ∈ text, isBlank b = true

/-- The bytes of characters. -/
def encoding (chars : List Char) : Bytes := chars.flatMap String.utf8EncodeChar

/-- The digits of a number. -/
def digits (n : Nat) : Bytes := encoding (numberText n)

/-- How a character is written within a string: as it is, after a backslash, by the number of
    its code point, or by those of its two surrogates. -/
inductive SpellsChar : Char → Bytes → Prop where
  | plain {c : Char} (hprintable : 0x20 ≤ c.toNat) (hquote : c ≠ '"') (hbackslash : c ≠ '\\') :
      SpellsChar c (String.utf8EncodeChar c)
  | escape {letter code : UInt8} (hcode : simpleEscape letter = some code) :
      SpellsChar (Char.ofNat code.toNat) [backslash, letter]
  | unit {a b c d : UInt8} {n : Nat} (hunit : hexValue4 a b c d = some n)
      (hleading : isLeading n = false) (htrailing : isTrailing n = false) :
      SpellsChar (Char.ofNat n) [backslash, letterU, a, b, c, d]
  | pair {a b c d e f g h : UInt8} {m n : Nat} (hleading : hexValue4 a b c d = some m)
      (htrailing : hexValue4 e f g h = some n) (hm : isLeading m = true)
      (hn : isTrailing n = true) :
      SpellsChar (Char.ofNat (paired m n))
        [backslash, letterU, a, b, c, d, backslash, letterU, e, f, g, h]

/-- How a string is written. -/
def SpellsString (s : String) (text : Bytes) : Prop :=
  ∃ chars, List.Forall₂ SpellsChar s.toList chars ∧ text = quote :: (chars.flatten ++ [quote])

/-- What separates an item from the ones before it. -/
def separator (first : Bool) : Bytes := if first then [] else [comma]

-- ── Values ──────────────────────────────────────────────────────────────────

mutual

/-- How a value is written. -/
inductive Spells : Json → Bytes → Prop where
  | null : Spells .null (letterN :: wordNull)
  | yes : Spells (.bool true) (letterT :: wordTrue)
  | no : Spells (.bool false) (letterF :: wordFalse)
  | number (n : Nat) : Spells (.number n) (digits n)
  | string {s : String} {text : Bytes} (h : SpellsString s text) : Spells (.string s) text
  | array {items : List Json} {body : Bytes} (h : SpellsItems true items body) :
      Spells (.array items) (openBracket :: (body ++ [closeBracket]))
  | object {members : List (String × Json)} {body : Bytes} (h : SpellsMembers true members body) :
      Spells (.object members) (openBrace :: (body ++ [closeBrace]))

/-- How elements are written, up to the closing bracket. -/
inductive SpellsItems : Bool → List Json → Bytes → Prop where
  | nil {first : Bool} {blank : Bytes} (hblank : Blank blank) : SpellsItems first [] blank
  | cons {first : Bool} {item : Json} {items : List Json} {before after text more : Bytes}
      (hbefore : Blank before) (hafter : Blank after) (hitem : Spells item text)
      (hmore : SpellsItems false items more) :
      SpellsItems first (item :: items) (before ++ (separator first ++ (after ++ (text ++ more))))

/-- How members are written, up to the closing brace. -/
inductive SpellsMembers : Bool → List (String × Json) → Bytes → Prop where
  | nil {first : Bool} {blank : Bytes} (hblank : Blank blank) : SpellsMembers first [] blank
  | cons {first : Bool} {key : String} {value : Json} {members : List (String × Json)}
      {before after keyText beforeColon afterColon text more : Bytes}
      (hbefore : Blank before) (hafter : Blank after) (hkey : SpellsString key keyText)
      (hbeforeColon : Blank beforeColon) (hafterColon : Blank afterColon)
      (hvalue : Spells value text) (hmore : SpellsMembers false members more) :
      SpellsMembers first ((key, value) :: members)
        (before ++ (separator first ++ (after ++ (keyText ++
          (beforeColon ++ colon :: (afterColon ++ (text ++ more)))))))

end

-- ── Without white space ─────────────────────────────────────────────────────

@[simp] theorem blank_nil : Blank [] := fun _ h => nomatch h

@[simp] theorem encoding_nil : encoding [] = [] := rfl

@[simp] theorem encoding_cons (c : Char) (chars : List Char) :
    encoding (c :: chars) = String.utf8EncodeChar c ++ encoding chars := rfl

@[simp] theorem encoding_append (chars more : List Char) :
    encoding (chars ++ more) = encoding chars ++ encoding more :=
  List.flatMap_append

/-- A hexadecimal digit is one byte, and its value is the number that it was written for. -/
theorem map_hexValue_hexDigit :
    ∀ n < 16, (String.utf8EncodeChar (hexDigit n)).map hexValue = [some n] := by
  decide

/-- The number of a character below the space is written with four digits. -/
theorem spellsChar_control {c : Char} (h : c.toNat < 0x20) :
    SpellsChar c (encoding
      ['\\', 'u', '0', '0', hexDigit (c.toNat / 16), hexDigit (c.toNat % 16)]) := by
  obtain ⟨high, hhigh, hhighValue⟩ :=
    List.map_eq_singleton_iff.mp (map_hexValue_hexDigit (c.toNat / 16) (by omega))
  obtain ⟨low, hlow, hlowValue⟩ :=
    List.map_eq_singleton_iff.mp (map_hexValue_hexDigit (c.toNat % 16) (by omega))
  have hunit : hexValue4 0x30 0x30 high low = some c.toNat := by
    have hvalue : c.toNat / 16 * 16 + c.toNat % 16 = c.toNat := Nat.div_add_mod' ..
    have hzero : hexValue 0x30 = some 0 := rfl
    simp [hexValue4, hhighValue, hlowValue, hzero, hvalue]
  have hspells : SpellsChar (Char.ofNat c.toNat) [backslash, letterU, 0x30, 0x30, high, low] :=
    .unit hunit (by simp [isLeading]; omega) (by simp [isTrailing]; omega)
  rw [Char.ofNat_toNat] at hspells
  simp only [encoding_cons, hhigh, hlow]
  exact hspells

/-- Every character is escaped in one of the ways to write it. -/
theorem spellsChar_escapedChar (c : Char) : SpellsChar c (encoding (escapedChar c)) := by
  rw [escapedChar]
  split
  · rename_i h; subst h; exact @SpellsChar.escape 0x22 0x22 rfl
  split
  · rename_i h; subst h; exact @SpellsChar.escape 0x5c 0x5c rfl
  split
  · rename_i h; subst h; exact @SpellsChar.escape 0x6e 0x0a rfl
  split
  · rename_i h; subst h; exact @SpellsChar.escape 0x72 0x0d rfl
  split
  · rename_i h; subst h; exact @SpellsChar.escape 0x74 0x09 rfl
  split
  · rename_i h; subst h; exact @SpellsChar.escape 0x62 0x08 rfl
  split
  · rename_i h; subst h; exact @SpellsChar.escape 0x66 0x0c rfl
  split
  · rename_i h; exact spellsChar_control h
  · rename_i hquote hbackslash _ _ _ _ _ hprintable
    rw [encoding_cons, encoding_nil, List.append_nil]
    exact .plain (Nat.le_of_not_lt hprintable) hquote hbackslash

theorem spellsString_stringText (s : String) : SpellsString s (encoding (stringText s)) := by
  refine ⟨s.toList.map fun c => encoding (escapedChar c), ?_, ?_⟩
  · rw [List.forall₂_map_right_iff, List.forall₂_same]
    exact fun c _ => spellsChar_escapedChar c
  · have hflatten : (s.toList.map fun c => encoding (escapedChar c)).flatten
        = encoding (s.toList.flatMap escapedChar) := by
      rw [encoding, List.flatMap_assoc, List.flatMap_def]
      rfl
    rw [hflatten, stringText, encoding_cons, encoding_append]
    rfl

-- What stands between the values is one byte each.

@[simp] theorem encode_comma : String.utf8EncodeChar ',' = [comma] := rfl
@[simp] theorem encode_colon : String.utf8EncodeChar ':' = [colon] := rfl
@[simp] theorem encode_openBracket : String.utf8EncodeChar '[' = [openBracket] := rfl
@[simp] theorem encode_openBrace : String.utf8EncodeChar '\x7b' = [openBrace] := rfl

mutual

/-- The text of a value is one of the ways to write it. -/
theorem spells_compactText : ∀ json : Json, Spells json (encoding json.compactText)
  | .null => .null
  | .bool true => .yes
  | .bool false => .no
  | .number n => .number n
  | .string s => .string (spellsString_stringText s)
  | .array [] => .array (.nil blank_nil)
  | .array (item :: rest) => by
      obtain ⟨more, hmore, hspells⟩ := spells_compactItems rest
      have hbody : SpellsItems true (item :: rest) _ :=
        .cons blank_nil blank_nil (spells_compactText item) hspells
      simpa [compactText, hmore, separator] using Spells.array hbody
  | .object [] => .object (.nil blank_nil)
  | .object ((key, value) :: rest) => by
      obtain ⟨more, hmore, hspells⟩ := spells_compactMembers rest
      have hbody : SpellsMembers true ((key, value) :: rest) _ :=
        .cons blank_nil blank_nil (spellsString_stringText key) blank_nil blank_nil
          (spells_compactText value) hspells
      simpa [compactText, hmore, separator] using Spells.object hbody

/-- The elements after the first one end in a bracket, and stand before it as they may. -/
theorem spells_compactItems : ∀ items : List Json, ∃ more,
    encoding (compactItems items) = more ++ [closeBracket] ∧ SpellsItems false items more
  | [] => ⟨[], rfl, .nil blank_nil⟩
  | item :: rest => by
      obtain ⟨more, hmore, hspells⟩ := spells_compactItems rest
      refine ⟨_, ?_, .cons blank_nil blank_nil (spells_compactText item) hspells⟩
      simp [compactItems, hmore, separator]

/-- The members after the first one end in a brace, and stand before it as they may. -/
theorem spells_compactMembers : ∀ members : List (String × Json), ∃ more,
    encoding (compactMembers members) = more ++ [closeBrace] ∧ SpellsMembers false members more
  | [] => ⟨[], rfl, .nil blank_nil⟩
  | (key, value) :: rest => by
      obtain ⟨more, hmore, hspells⟩ := spells_compactMembers rest
      refine ⟨_, ?_, .cons blank_nil blank_nil (spellsString_stringText key) blank_nil blank_nil
        (spells_compactText value) hspells⟩
      simp [compactMembers, hmore, separator]

end

/-- What is written without white space spells the value. -/
theorem spells_compact (json : Json) : Spells json (Text.bytes json.compact) := by
  rw [Text.bytes, compact, String.toList_ofList]
  exact spells_compactText json

end MeshSidecar.Json
