import MeshSidecar.Proofs.Json.Reading
import MeshSidecar.Proofs.Text.Parts

/-!
# No text spells two values

A text that spells a value, with something behind it that does not go on with a number, spells no
other value, and what is behind it is known as well (`Json.Spells.unique`). The first byte of a text
tells the kind of the value, and from there on the tokens are read back one after the other.

Lines and their indentation are white space, so what the controller writes with one element or member
per line spells the value too (`Json.spells_pretty`). Hence values that differ differ in their texts
(`Json.bytes_pretty_injective`).
-/

namespace MeshSidecar.Json

open Scan

-- ── Kinds ───────────────────────────────────────────────────────────────────

/-- What the first byte of a text tells about the value. -/
inductive Kind where
  | null
  | yes
  | no
  | number
  | string
  | array
  | object

/-- The kind of a value. -/
def kind : Json → Kind
  | .null => .null
  | .bool true => .yes
  | .bool false => .no
  | .number _ => .number
  | .string _ => .string
  | .array _ => .array
  | .object _ => .object

/-- The kind of the values whose texts begin with a byte. -/
def kindOf (b : UInt8) : Kind :=
  if b = letterN then .null
  else if b = letterT then .yes
  else if b = letterF then .no
  else if b = quote then .string
  else if b = openBracket then .array
  else if b = openBrace then .object
  else .number

theorem kindOf_of_isDigit {b : UInt8} (h : isDigit b = true) : kindOf b = .number := by
  rw [kindOf, if_neg (ne_of_isDigit h rfl), if_neg (ne_of_isDigit h rfl),
    if_neg (ne_of_isDigit h rfl), if_neg (ne_of_isDigit h rfl), if_neg (ne_of_isDigit h rfl),
    if_neg (ne_of_isDigit h rfl)]

/-- The first byte of a text tells the kind of the value. -/
theorem Spells.exists_kindOf {json : Json} {text : Bytes} (h : Spells json text) :
    ∃ b rest, text = b :: rest ∧ kindOf b = json.kind := by
  cases h with
  | null => exact ⟨_, _, rfl, rfl⟩
  | yes => exact ⟨_, _, rfl, rfl⟩
  | no => exact ⟨_, _, rfl, rfl⟩
  | number n =>
      obtain ⟨b, rest, hdigits⟩ := List.exists_cons_of_ne_nil (digits_ne_nil n)
      have hdigit := isDigit_of_mem_digits n b (hdigits ▸ List.mem_cons_self ..)
      exact ⟨b, rest, hdigits, kindOf_of_isDigit hdigit⟩
  | string h =>
      obtain ⟨chars, -, rfl⟩ := h
      exact ⟨_, _, rfl, rfl⟩
  | array _ => exact ⟨_, _, rfl, rfl⟩
  | object _ => exact ⟨_, _, rfl, rfl⟩

/-- Texts that begin alike are of values of one kind. -/
theorem Spells.kind_eq {a b : Json} {s t x y : Bytes} (ha : Spells a s) (hb : Spells b t)
    (h : s ++ x = t ++ y) : a.kind = b.kind := by
  obtain ⟨c, s, rfl, hc⟩ := ha.exists_kindOf
  obtain ⟨d, t, rfl, hd⟩ := hb.exists_kindOf
  have hhead : c = d := (List.cons.inj h).1
  rw [← hc, ← hd, hhead]

-- ── Tokens ──────────────────────────────────────────────────────────────────

/-- The digits of a number are those of its decimal text. -/
theorem digits_eq_bytes (n : Nat) : digits n = Text.bytes (toString n) := by
  rw [Nat.toString_eq_ofList_toDigits, Text.bytes, String.toList_ofList]
  rfl

theorem bytes_injective : Function.Injective Text.bytes := by
  intro a b h
  have hread := Text.string?_bytes a
  rw [h, Text.string?_bytes] at hread
  exact (Option.some.inj hread).symm

/-- A number and what is behind it are known if the latter does not go on with the number. -/
theorem digits_append_inj {m n : Nat} {x y : Bytes} (hx : Stops x) (hy : Stops y)
    (h : digits m ++ x = digits n ++ y) : m = n ∧ x = y := by
  have htake : ∀ (k : Nat) {z : Bytes}, Stops z → (digits k ++ z).takeWhile isDigit = digits k := by
    intro k z hz
    rw [List.takeWhile_append_of_pos (isDigit_of_mem_digits k)]
    cases z with
    | nil => rw [List.takeWhile_nil, List.append_nil]
    | cons b z =>
        rw [List.takeWhile_cons_of_neg (by rw [(hz b rfl).1]; exact Bool.false_ne_true),
          List.append_nil]
  have hdigits : digits m = digits n := by
    rw [← htake m hx, h, htake n hy]
  rw [hdigits] at h
  have htext : Text.bytes (toString m) = Text.bytes (toString n) := by
    rw [← digits_eq_bytes, ← digits_eq_bytes, hdigits]
  exact ⟨Text.eq_of_toString (bytes_injective htext), List.append_cancel_left h⟩

/-- A string ends with its closing quote, wherever that is. -/
theorem SpellsString.unique {a b : String} {s t x y : Bytes} (ha : SpellsString a s)
    (hb : SpellsString b t) (h : s ++ x = t ++ y) : a = b ∧ x = y := by
  obtain ⟨body, rfl, hbody⟩ := string_of_spells ha x
  obtain ⟨other, rfl, hother⟩ := string_of_spells hb y
  have hsame : body ++ x = other ++ y := (List.cons.inj h).2
  rw [hsame, hother] at hbody
  obtain ⟨rfl, rfl⟩ := Prod.mk.inj (Except.ok.inj hbody)
  exact ⟨rfl, rfl⟩

/-- White space before a value does not tell it apart. -/
theorem Spells.append_inj_of_blank {a b : Json} {s t before after x y : Bytes} (ha : Spells a s)
    (hb : Spells b t) (hbefore : Blank before) (hafter : Blank after)
    (h : before ++ (s ++ x) = after ++ (t ++ y)) : s ++ x = t ++ y := by
  obtain ⟨c, s, rfl, hc, -⟩ := ha.head
  obtain ⟨d, t, rfl, hd, -⟩ := hb.head
  have hskip := congrArg skipBlank h
  rwa [List.cons_append, List.cons_append, skipBlank_token hbefore hc,
    skipBlank_token hafter hd] at hskip

/-- What stands before a value among others is read away. -/
theorem Spells.nextItem_eq {json : Json} {text before after : Bytes} (h : Spells json text)
    (first : Bool) (hbefore : Blank before) (hafter : Blank after) (rest : Bytes) :
    Reader.nextItem first (before ++ (separator first ++ (after ++ (text ++ rest)))) =
      .ok (some (text ++ rest)) := by
  obtain ⟨b, s, rfl, hb, hclose, -⟩ := h.head
  exact Reader.nextItem_token hbefore hafter hb hclose (s ++ rest)

-- ── Values ──────────────────────────────────────────────────────────────────

mutual

/-- What stands before the rest spells no other value. -/
theorem Spells.unique : ∀ {a b : Json} {s t x y : Bytes}, Spells a s → Spells b t → Stops x →
    Stops y → s ++ x = t ++ y → a = b ∧ x = y
  | .null, b, s, t, x, y, ha, hb, _, _, h => by
      have hkind := ha.kind_eq hb h
      cases ha
      cases hb with
      | null => exact ⟨rfl, List.append_cancel_left h⟩
      | _ => exact nomatch hkind
  | .bool true, b, s, t, x, y, ha, hb, _, _, h => by
      have hkind := ha.kind_eq hb h
      cases ha
      cases hb with
      | yes => exact ⟨rfl, List.append_cancel_left h⟩
      | _ => exact nomatch hkind
  | .bool false, b, s, t, x, y, ha, hb, _, _, h => by
      have hkind := ha.kind_eq hb h
      cases ha
      cases hb with
      | no => exact ⟨rfl, List.append_cancel_left h⟩
      | _ => exact nomatch hkind
  | .number m, b, s, t, x, y, ha, hb, hx, hy, h => by
      have hkind := ha.kind_eq hb h
      cases ha
      cases hb with
      | number n =>
          obtain ⟨rfl, hrest⟩ := digits_append_inj hx hy h
          exact ⟨rfl, hrest⟩
      | _ => exact nomatch hkind
  | .string a, b, s, t, x, y, ha, hb, _, _, h => by
      have hkind := ha.kind_eq hb h
      cases ha with
      | string ha =>
          cases hb with
          | string hb =>
              obtain ⟨rfl, hrest⟩ := ha.unique hb h
              exact ⟨rfl, hrest⟩
          | _ => exact nomatch hkind
  | .array items, b, s, t, x, y, ha, hb, _, _, h => by
      have hkind := ha.kind_eq hb h
      cases ha with
      | array ha =>
          cases hb with
          | array hb =>
              simp only [List.cons_append, List.append_assoc, List.cons.injEq, true_and,
                List.nil_append] at h
              obtain ⟨rfl, hrest⟩ := SpellsItems.unique ha hb h
              exact ⟨rfl, hrest⟩
          | _ => exact nomatch hkind
  | .object members, b, s, t, x, y, ha, hb, _, _, h => by
      have hkind := ha.kind_eq hb h
      cases ha with
      | object ha =>
          cases hb with
          | object hb =>
              simp only [List.cons_append, List.append_assoc, List.cons.injEq, true_and,
                List.nil_append] at h
              obtain ⟨rfl, hrest⟩ := SpellsMembers.unique ha hb h
              exact ⟨rfl, hrest⟩
          | _ => exact nomatch hkind

/-- What stands before the closing bracket spells no other elements. -/
theorem SpellsItems.unique : ∀ {items others : List Json} {first : Bool} {s t x y : Bytes},
    SpellsItems first items s → SpellsItems first others t →
    s ++ closeBracket :: x = t ++ closeBracket :: y → items = others ∧ x = y
  | [], others, first, s, t, x, y, ha, hb, h => by
      cases ha with
      | nil hblank =>
          have hnext : Reader.nextItem first _ = _ := Reader.nextItem_close hblank x
          rw [h] at hnext
          cases hb with
          | nil hblank' =>
              have hend := Reader.endOfItems_close hblank x
              rw [h, Reader.endOfItems_close hblank'] at hend
              exact ⟨rfl, (Except.ok.inj hend).symm⟩
          | cons hbefore hafter hitem _ =>
              simp only [List.append_assoc] at hnext
              rw [hitem.nextItem_eq first hbefore hafter] at hnext
              exact nomatch hnext
  | item :: items, others, first, s, t, x, y, ha, hb, h => by
      cases ha with
      | @cons _ _ _ _ _ _ more hbefore hafter hitem hmore =>
          simp only [List.append_assoc] at h
          have hnext := hitem.nextItem_eq first hbefore hafter (more ++ closeBracket :: x)
          rw [h] at hnext
          cases hb with
          | nil hblank =>
              rw [Reader.nextItem_close hblank] at hnext
              exact nomatch hnext
          | cons hbefore' hafter' hother hothers =>
              simp only [List.append_assoc] at hnext
              rw [hother.nextItem_eq first hbefore' hafter'] at hnext
              have htexts := Option.some.inj (Except.ok.inj hnext)
              obtain ⟨rfl, hrest⟩ :=
                Spells.unique hitem hother (hmore.stops x) (hothers.stops y) htexts.symm
              obtain ⟨rfl, hend⟩ := SpellsItems.unique hmore hothers hrest
              exact ⟨rfl, hend⟩

/-- What stands before the closing brace spells no other members. -/
theorem SpellsMembers.unique : ∀ {members others : List (String × Json)} {first : Bool}
    {s t x y : Bytes}, SpellsMembers first members s → SpellsMembers first others t →
    s ++ closeBrace :: x = t ++ closeBrace :: y → members = others ∧ x = y
  | [], others, first, s, t, x, y, ha, hb, h => by
      cases ha with
      | nil hblank =>
          have hnext : Reader.nextMember first _ = _ := Reader.nextMember_close hblank x
          rw [h] at hnext
          cases hb with
          | nil hblank' =>
              rw [Reader.nextMember_close hblank'] at hnext
              exact ⟨rfl, (Reader.NextMember.done.inj (Except.ok.inj hnext)).symm⟩
          | cons hbefore hafter hkey _ _ _ _ =>
              simp only [List.append_assoc] at hnext
              rw [Reader.nextMember_key hbefore hafter hkey] at hnext
              exact nomatch hnext
  | (key, value) :: members, others, first, s, t, x, y, ha, hb, h => by
      cases ha with
      | @cons _ _ _ _ _ _ _ beforeColon afterColon text more hbefore hafter hkey hbeforeColon
            hafterColon hvalue hmore =>
          simp only [List.append_assoc, List.cons_append] at h
          have hnext : Reader.nextMember first _ = _ := Reader.nextMember_key hbefore hafter hkey
            (beforeColon ++ colon :: (afterColon ++ (text ++ (more ++ closeBrace :: x))))
          rw [h] at hnext
          cases hb with
          | nil hblank =>
              rw [Reader.nextMember_close hblank] at hnext
              exact nomatch hnext
          | cons hbefore' hafter' hkey' hbeforeColon' hafterColon' hother hothers =>
              simp only [List.append_assoc, List.cons_append] at hnext
              rw [Reader.nextMember_key hbefore' hafter' hkey'] at hnext
              obtain ⟨rfl, hcolon⟩ := Reader.NextMember.key.inj (Except.ok.inj hnext)
              have hafterKey := congrArg Reader.colonAfterKey hcolon
              rw [Reader.colonAfterKey_colon hbeforeColon,
                Reader.colonAfterKey_colon hbeforeColon'] at hafterKey
              have htexts := hvalue.append_inj_of_blank hother hafterColon hafterColon'
                (Except.ok.inj hafterKey).symm
              obtain ⟨rfl, hrest⟩ :=
                Spells.unique hvalue hother (hmore.stops x) (hothers.stops y) htexts
              obtain ⟨rfl, hend⟩ := SpellsMembers.unique hmore hothers hrest
              exact ⟨rfl, hend⟩

end

/-- A text spells no more than one value. -/
theorem Spells.eq_of_same {a b : Json} {text : Bytes} (ha : Spells a text)
    (hb : Spells b text) : a = b :=
  (ha.unique hb stops_nil stops_nil rfl).1

-- ── One element or member per line ──────────────────────────────────────────

theorem blank_space : Blank (String.utf8EncodeChar ' ') := by
  have hbyte : String.utf8EncodeChar ' ' = [32] := by decide
  intro b hb
  rw [hbyte, List.mem_singleton] at hb
  rw [hb]
  rfl

theorem blank_newline : Blank (String.utf8EncodeChar '\n') := by
  have hbyte : String.utf8EncodeChar '\n' = [10] := by decide
  intro b hb
  rw [hbyte, List.mem_singleton] at hb
  rw [hb]
  rfl

/-- A line break and the indentation after it are white space. -/
theorem blank_lineBreak (level : Nat) : Blank (encoding (lineBreak level)) := by
  intro b hb
  obtain ⟨c, hc, hb⟩ := List.mem_flatMap.mp hb
  rcases List.mem_cons.mp hc with rfl | hc
  · exact blank_newline b hb
  · rw [List.eq_of_mem_replicate hc] at hb
    exact blank_space b hb

mutual

/-- The text of a value on lines of its own is one of the ways to write it. -/
theorem spells_prettyText : ∀ (level : Nat) (json : Json),
    Spells json (encoding (json.prettyText level))
  | _, .null => .null
  | _, .bool true => .yes
  | _, .bool false => .no
  | _, .number n => .number n
  | _, .string s => .string (spellsString_stringText s)
  | _, .array [] => .array (.nil blank_nil)
  | level, .array (item :: rest) => by
      obtain ⟨more, hmore, hspells⟩ := spells_prettyItems level rest
      have hbody : SpellsItems true (item :: rest) _ :=
        .cons blank_nil (blank_lineBreak (level + 1)) (spells_prettyText (level + 1) item) hspells
      simpa [prettyText, hmore, separator] using Spells.array hbody
  | _, .object [] => .object (.nil blank_nil)
  | level, .object ((key, value) :: rest) => by
      obtain ⟨more, hmore, hspells⟩ := spells_prettyMembers level rest
      have hbody : SpellsMembers true ((key, value) :: rest) _ :=
        .cons blank_nil (blank_lineBreak (level + 1)) (spellsString_stringText key) blank_nil
          blank_space (spells_prettyText (level + 1) value) hspells
      simpa [prettyText, hmore, separator] using Spells.object hbody

/-- The elements after the first one end in a bracket on its own line. -/
theorem spells_prettyItems : ∀ (level : Nat) (items : List Json), ∃ more,
    encoding (prettyItems level items) = more ++ [closeBracket] ∧ SpellsItems false items more
  | level, [] => by
      refine ⟨encoding (lineBreak level), ?_, .nil (blank_lineBreak level)⟩
      rw [prettyItems, encoding_append]
      rfl
  | level, item :: rest => by
      obtain ⟨more, hmore, hspells⟩ := spells_prettyItems level rest
      refine ⟨_, ?_, .cons blank_nil (blank_lineBreak (level + 1))
        (spells_prettyText (level + 1) item) hspells⟩
      simp [prettyItems, hmore, separator]

/-- The members after the first one end in a brace on its own line. -/
theorem spells_prettyMembers : ∀ (level : Nat) (members : List (String × Json)), ∃ more,
    encoding (prettyMembers level members) = more ++ [closeBrace] ∧
      SpellsMembers false members more
  | level, [] => by
      refine ⟨encoding (lineBreak level), ?_, .nil (blank_lineBreak level)⟩
      rw [prettyMembers, encoding_append]
      rfl
  | level, (key, value) :: rest => by
      obtain ⟨more, hmore, hspells⟩ := spells_prettyMembers level rest
      refine ⟨_, ?_, .cons blank_nil (blank_lineBreak (level + 1)) (spellsString_stringText key)
        blank_nil blank_space (spells_prettyText (level + 1) value) hspells⟩
      simp [prettyMembers, hmore, separator]

end

/-- What is written with one element or member per line spells the value. -/
theorem spells_pretty (json : Json) : Spells json (Text.bytes json.pretty) := by
  rw [Text.bytes, pretty, String.toList_ofList]
  exact spells_prettyText 0 json

/-- The bytes that are written of a value tell it apart from all others. -/
theorem bytes_pretty_injective : Function.Injective fun json : Json => Text.bytes json.pretty := by
  intro a b h
  have hsame : Text.bytes a.pretty = Text.bytes b.pretty := h
  exact (spells_pretty a).eq_of_same (hsame ▸ spells_pretty b)

end MeshSidecar.Json
