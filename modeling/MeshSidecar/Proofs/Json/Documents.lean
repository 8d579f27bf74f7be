import MeshSidecar.Proofs.Json.Reading

/-!
# Every JSON document

A `Tree` is any JSON value, as the grammar has it: its strings and numbers are tokens that are kept
as they are written, so that there are trees for fractions, for exponents and for strings that stand
for no text. A text `Writes` a tree if it holds its tokens in order, with white space around them or
without.

Every tree is written by its `Tree.text`, which has no white space (`Tree.writes_text`). Every way
to write a string is a token (`StringToken.exists_of_spells`), and so are the digits of a number.
-/

namespace MeshSidecar

open Json Scan

-- ── Numbers ─────────────────────────────────────────────────────────────────

/-- One digit or more. -/
structure Digits where
  first : UInt8
  rest : Bytes
  isDigit_first : isDigit first = true
  isDigit_rest : ∀ b ∈ rest, isDigit b = true

namespace Digits

/-- The digits as they are written. -/
def bytes (ds : Digits) : Bytes := ds.first :: ds.rest

theorem isDigit_of_mem (ds : Digits) : ∀ b ∈ ds.bytes, isDigit b = true :=
  List.forall_mem_cons.mpr ⟨ds.isDigit_first, ds.isDigit_rest⟩

theorem isEmpty_bytes (ds : Digits) : ds.bytes.isEmpty = false := rfl

/-- The digits of a natural number. -/
def ofNat (n : Nat) : Digits where
  first := (digits n).head (digits_ne_nil n)
  rest := (digits n).tail
  isDigit_first := isDigit_of_mem_digits n _ (List.head_mem _)
  isDigit_rest b hb := isDigit_of_mem_digits n b (List.mem_of_mem_tail hb)

theorem bytes_ofNat (n : Nat) : (ofNat n).bytes = digits n :=
  List.cons_head_tail (digits_ne_nil n)

end Digits

/-- The exponent of a number. -/
structure Exponent where
  mark : UInt8
  sign : Bytes
  digits : Digits
  isMark : isExponentMark mark = true
  isSign : sign = [] ∨ sign = [plus] ∨ sign = [minus]

/-- A number as it is written. -/
structure NumberToken where
  negative : Bool
  whole : Digits
  fraction : Option Digits
  exponent : Option Exponent
  noLeadingZero : hasLeadingZero whole.bytes = false

namespace NumberToken

/-- The fraction of a number as it is written. -/
def fractionText : Option Digits → Bytes
  | none => []
  | some ds => point :: ds.bytes

/-- The exponent of a number as it is written. -/
def exponentText : Option Exponent → Bytes
  | none => []
  | some e => e.mark :: (e.sign ++ e.digits.bytes)

/-- A number without its sign. -/
def unsigned (token : NumberToken) : Bytes :=
  token.whole.bytes ++ (fractionText token.fraction ++ exponentText token.exponent)

/-- A number with its sign. -/
def text (token : NumberToken) : Bytes :=
  if token.negative then minus :: token.unsigned else token.unsigned

/-- A natural number in decimal. -/
def ofNat (n : Nat) : NumberToken where
  negative := false
  whole := .ofNat n
  fraction := none
  exponent := none
  noLeadingZero := by rw [Digits.bytes_ofNat, hasLeadingZero_digits]

theorem text_ofNat (n : Nat) : (ofNat n).text = digits n := by
  show (Digits.ofNat n).bytes ++ ([] ++ []) = digits n
  rw [Digits.bytes_ofNat, List.append_nil, List.append_nil]

end NumberToken

-- ── Strings ─────────────────────────────────────────────────────────────────

/-- What may follow an opening quote, up to and with the closing one: bytes that stand for
    themselves, letters behind a backslash, and code units of four hexadecimal digits. -/
inductive IsStringTail : Bytes → Prop where
  | close : IsStringTail [quote]
  | plain {b : UInt8} {s : Bytes} (hplain : IsPlain b) (hmore : IsStringTail s) :
      IsStringTail (b :: s)
  | escape {e : UInt8} {s : Bytes} (hescape : (simpleEscape e).isSome = true)
      (hmore : IsStringTail s) : IsStringTail (backslash :: e :: s)
  | unit {a b c d : UInt8} {s : Bytes} (hunit : (hexValue4 a b c d).isSome = true)
      (hmore : IsStringTail s) : IsStringTail (backslash :: letterU :: a :: b :: c :: d :: s)

theorem IsStringTail.plains {front s : Bytes} (hfront : ∀ b ∈ front, IsPlain b)
    (hs : IsStringTail s) : IsStringTail (front ++ s) := by
  induction front with
  | nil => exact hs
  | cons b front ih =>
      obtain ⟨hb, hfront⟩ := List.forall_mem_cons.mp hfront
      exact .plain hb (ih hfront)

/-- A character may stand in a string in each of the ways to write it. -/
theorem IsStringTail.char {c : Char} {text s : Bytes} (h : SpellsChar c text)
    (hs : IsStringTail s) : IsStringTail (text ++ s) := by
  cases h with
  | plain hprintable hquote hbackslash =>
      exact .plains (isPlain_utf8EncodeChar hprintable hquote hbackslash) hs
  | escape hcode => exact .escape (by rw [hcode]; rfl) hs
  | unit hunit _ _ => exact .unit (by rw [hunit]; rfl) hs
  | pair hleading htrailing _ _ =>
      exact .unit (by rw [hleading]; rfl) (.unit (by rw [htrailing]; rfl) hs)

/-- A string as it is written, from behind its opening quote on. -/
structure StringToken where
  tail : Bytes
  isTail : IsStringTail tail

namespace StringToken

/-- The string as it is written. -/
def text (token : StringToken) : Bytes := quote :: token.tail

/-- The token is one of the ways to write a string. -/
def Spells (token : StringToken) (s : String) : Prop := SpellsString s token.text

/-- Characters that are written one after the other may stand in a string. -/
theorem isTail_of_spells {letters : List Char} {chars : List Bytes}
    (h : List.Forall₂ SpellsChar letters chars) : IsStringTail (chars.flatten ++ [quote]) := by
  induction h with
  | nil => exact .close
  | cons hchar _ ih =>
      rw [List.flatten_cons, List.append_assoc]
      exact .char hchar ih

/-- Every way to write a string is a token. -/
theorem exists_of_spells {s : String} {text : Bytes} (h : SpellsString s text) :
    ∃ token : StringToken, token.text = text := by
  obtain ⟨chars, hchars, rfl⟩ := h
  exact ⟨⟨_, isTail_of_spells hchars⟩, rfl⟩

/-- The token of a string. -/
def ofString (s : String) : StringToken where
  tail := (s.toList.map fun c => encoding (escapedChar c)).flatten ++ [quote]
  isTail := isTail_of_spells (List.forall₂_map_right_iff.mpr
    (List.forall₂_same.mpr fun c _ => spellsChar_escapedChar c))

theorem spells_ofString (s : String) : (ofString s).Spells s :=
  ⟨_, List.forall₂_map_right_iff.mpr (List.forall₂_same.mpr fun c _ => spellsChar_escapedChar c),
    rfl⟩

end StringToken

-- ── Values ──────────────────────────────────────────────────────────────────

/-- A JSON value as it is written, white space apart. -/
inductive Tree where
  | null
  | bool (value : Bool)
  | number (token : NumberToken)
  | string (token : StringToken)
  | array (items : List Tree)
  | object (members : List (StringToken × Tree))

namespace Tree

mutual

/-- How a tree is written. -/
inductive Writes : Tree → Bytes → Prop where
  | null : Writes .null (letterN :: wordNull)
  | yes : Writes (.bool true) (letterT :: wordTrue)
  | no : Writes (.bool false) (letterF :: wordFalse)
  | number (token : NumberToken) : Writes (.number token) token.text
  | string (token : StringToken) : Writes (.string token) token.text
  | array {items : List Tree} {body : Bytes} (h : WritesItems true items body) :
      Writes (.array items) (openBracket :: (body ++ [closeBracket]))
  | object {members : List (StringToken × Tree)} {body : Bytes}
      (h : WritesMembers true members body) :
      Writes (.object members) (openBrace :: (body ++ [closeBrace]))

/-- How elements are written, up to the closing bracket. -/
inductive WritesItems : Bool → List Tree → Bytes → Prop where
  | nil {first : Bool} {blank : Bytes} (hblank : Blank blank) : WritesItems first [] blank
  | cons {first : Bool} {item : Tree} {items : List Tree} {before after text more : Bytes}
      (hbefore : Blank before) (hafter : Blank after) (hitem : Writes item text)
      (hmore : WritesItems false items more) :
      WritesItems first (item :: items) (before ++ (separator first ++ (after ++ (text ++ more))))

/-- How members are written, up to the closing brace. -/
inductive WritesMembers : Bool → List (StringToken × Tree) → Bytes → Prop where
  | nil {first : Bool} {blank : Bytes} (hblank : Blank blank) : WritesMembers first [] blank
  | cons {first : Bool} {key : StringToken} {value : Tree} {members : List (StringToken × Tree)}
      {before after beforeColon afterColon text more : Bytes}
      (hbefore : Blank before) (hafter : Blank after) (hbeforeColon : Blank beforeColon)
      (hafterColon : Blank afterColon) (hvalue : Writes value text)
      (hmore : WritesMembers false members more) :
      WritesMembers first ((key, value) :: members)
        (before ++ (separator first ++ (after ++ (key.text ++
          (beforeColon ++ colon :: (afterColon ++ (text ++ more)))))))

end

/-- A document that holds a tree, with white space around it. -/
def WrittenIn (tree : Tree) (document : Bytes) : Prop :=
  ∃ before text after, Blank before ∧ tree.Writes text ∧ Blank after ∧
    document = before ++ (text ++ after)

-- ── The first byte ──────────────────────────────────────────────────────────

/-- The byte with which every text of a tree begins. -/
def head : Tree → UInt8
  | .null => letterN
  | .bool true => letterT
  | .bool false => letterF
  | .number token => if token.negative then minus else token.whole.first
  | .string _ => quote
  | .array _ => openBracket
  | .object _ => openBrace

theorem Writes.exists_cons {tree : Tree} {text : Bytes} (h : tree.Writes text) :
    ∃ rest, text = tree.head :: rest := by
  cases h with
  | number token =>
      rw [NumberToken.text, head]
      cases token.negative <;> exact ⟨_, rfl⟩
  | _ => exact ⟨_, rfl⟩

/-- The first byte of a value is none of those that stand between values. -/
theorem head_ne (tree : Tree) {b : UInt8} (hdigit : isDigit b = false)
    (hb : b ∉ [letterN, letterT, letterF, minus, quote, openBracket, openBrace]) :
    tree.head ≠ b := by
  simp only [List.mem_cons, List.not_mem_nil, or_false, not_or] at hb
  obtain ⟨hnull, hyes, hno, hminus, hquote, hbracket, hbrace⟩ := hb
  cases tree with
  | null => exact Ne.symm hnull
  | bool value =>
      cases value with
      | true => exact Ne.symm hyes
      | false => exact Ne.symm hno
  | number token =>
      rw [head]
      split
      · exact Ne.symm hminus
      · exact ne_of_isDigit token.whole.isDigit_first hdigit
  | string _ => exact Ne.symm hquote
  | array _ => exact Ne.symm hbracket
  | object _ => exact Ne.symm hbrace

theorem isBlank_head (tree : Tree) : isBlank tree.head = false := by
  simp only [isBlank, Bool.or_eq_false_iff, beq_eq_false_iff_ne]
  exact ⟨⟨⟨tree.head_ne rfl (by decide), tree.head_ne rfl (by decide)⟩,
    tree.head_ne rfl (by decide)⟩, tree.head_ne rfl (by decide)⟩

theorem head_ne_closeBracket (tree : Tree) : tree.head ≠ closeBracket :=
  tree.head_ne rfl (by decide)

-- ── What is behind a value ──────────────────────────────────────────────────

/-- Behind an item there is a comma or the closing bracket, which does not go on with it. -/
theorem WritesItems.stops {items : List Tree} {more : Bytes} (h : WritesItems false items more)
    (rest : Bytes) : Stops (more ++ closeBracket :: rest) := by
  cases h with
  | nil hblank => exact stops_append hblank (stops_cons rfl (by decide) rfl _)
  | cons hbefore _ _ _ =>
      rw [List.append_assoc]
      exact stops_append hbefore (stops_cons rfl (by decide) rfl _)

theorem WritesMembers.stops {members : List (StringToken × Tree)} {more : Bytes}
    (h : WritesMembers false members more) (rest : Bytes) :
    Stops (more ++ closeBrace :: rest) := by
  cases h with
  | nil hblank => exact stops_append hblank (stops_cons rfl (by decide) rfl _)
  | cons hbefore _ _ _ _ _ =>
      rw [List.append_assoc]
      exact stops_append hbefore (stops_cons rfl (by decide) rfl _)

/-- Every item takes a byte at least. -/
theorem WritesItems.length_le {items : List Tree} {first : Bool} {body : Bytes}
    (h : WritesItems first items body) : items.length ≤ body.length := by
  induction items generalizing first body with
  | nil => exact Nat.zero_le _
  | cons item items ih =>
      cases h with
      | cons hbefore hafter hitem hmore =>
          obtain ⟨s, rfl⟩ := hitem.exists_cons
          have hle := ih hmore
          simp only [List.length_append, List.length_cons]
          omega

theorem WritesMembers.length_le {members : List (StringToken × Tree)} {first : Bool}
    {body : Bytes} (h : WritesMembers first members body) : members.length ≤ body.length := by
  induction members generalizing first body with
  | nil => exact Nat.zero_le _
  | cons member members ih =>
      cases h with
      | cons hbefore hafter hbeforeColon hafterColon hvalue hmore =>
          have hle := ih hmore
          simp only [List.length_append, List.length_cons]
          omega

-- ── Without white space ─────────────────────────────────────────────────────

mutual

/-- The text of a tree without white space. -/
def text : Tree → Bytes
  | .null => letterN :: wordNull
  | .bool true => letterT :: wordTrue
  | .bool false => letterF :: wordFalse
  | .number token => token.text
  | .string token => token.text
  | .array items => openBracket :: (textOfItems true items ++ [closeBracket])
  | .object members => openBrace :: (textOfMembers true members ++ [closeBrace])

/-- The elements of an array without white space. -/
def textOfItems : Bool → List Tree → Bytes
  | _, [] => []
  | first, item :: items => separator first ++ (item.text ++ textOfItems false items)

/-- The members of an object without white space. -/
def textOfMembers : Bool → List (StringToken × Tree) → Bytes
  | _, [] => []
  | first, (key, value) :: members =>
      separator first ++ (key.text ++ colon :: (value.text ++ textOfMembers false members))

end

mutual

/-- Every tree is written by its text. -/
theorem writes_text : ∀ tree : Tree, tree.Writes tree.text
  | .null => by rw [text]; exact .null
  | .bool true => by rw [text]; exact .yes
  | .bool false => by rw [text]; exact .no
  | .number token => by rw [text]; exact .number token
  | .string token => by rw [text]; exact .string token
  | .array items => by rw [text]; exact .array (writes_textOfItems true items)
  | .object members => by rw [text]; exact .object (writes_textOfMembers true members)

/-- Elements are written by their text. -/
theorem writes_textOfItems : ∀ (first : Bool) (items : List Tree),
    WritesItems first items (textOfItems first items)
  | _, [] => by rw [textOfItems]; exact .nil blank_nil
  | first, item :: items => by
      rw [textOfItems]
      exact .cons blank_nil blank_nil (writes_text item) (writes_textOfItems false items)

/-- Members are written by their text. -/
theorem writes_textOfMembers : ∀ (first : Bool) (members : List (StringToken × Tree)),
    WritesMembers first members (textOfMembers first members)
  | _, [] => by rw [textOfMembers]; exact .nil blank_nil
  | first, (key, value) :: members => by
      rw [textOfMembers]
      exact .cons blank_nil blank_nil blank_nil blank_nil (writes_text value)
        (writes_textOfMembers false members)

end

theorem writtenIn_text (tree : Tree) : tree.WrittenIn tree.text :=
  ⟨[], tree.text, [], blank_nil, tree.writes_text, blank_nil, (List.append_nil _).symm⟩

end Tree

end MeshSidecar
