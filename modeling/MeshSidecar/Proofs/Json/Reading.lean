import MeshSidecar.Json.Reader
import MeshSidecar.Proofs.Json.Tokens

/-!
# Values are read back

A reader `Reads` a value from a JSON value if it reads it from every text of that JSON value,
whatever stands before it that is blank and whatever stands after it, and leaves the latter. A
number ends only with what follows it, so that must not go on with the number.

There is one lemma for each way to build a reader: an array is read if its items are, an object
under any keys if its values are, and a record if the fields can be taken one after the other
(`Record.Takes`), in whatever order they stand.
-/

namespace MeshSidecar

open Json Scan

variable {α β : Type}

/-- What a reader makes of every text of a JSON value. -/
def Reads (read : Reader α) (json : Json) (value : α) : Prop :=
  ∀ ⦃before text rest : Bytes⦄, Blank before → Spells json text → Stops rest →
    read (before ++ (text ++ rest)) = .ok (value, rest)

-- ── Plain values ────────────────────────────────────────────────────────────

/-- A digit is no white space, no bracket and no letter. -/
theorem Scan.ne_of_isDigit {b c : UInt8} (h : isDigit b = true) (hc : isDigit c = false) :
    b ≠ c := by
  rintro rfl
  exact nomatch h.symm.trans hc

theorem Scan.isBlank_of_isDigit {b : UInt8} (h : isDigit b = true) : isBlank b = false := by
  simp only [isBlank, Bool.or_eq_false_iff, beq_eq_false_iff_ne]
  exact ⟨⟨⟨ne_of_isDigit h rfl, ne_of_isDigit h rfl⟩, ne_of_isDigit h rfl⟩, ne_of_isDigit h rfl⟩

/-- The first byte of a value is a token, and it tells whether the value is `null`. -/
theorem Json.Spells.head {json : Json} {text : Bytes} (h : Spells json text) :
    ∃ b s, text = b :: s ∧ isBlank b = false ∧ b ≠ closeBracket ∧ (b = letterN → json = .null) := by
  cases h with
  | null => exact ⟨_, _, rfl, rfl, by decide, fun _ => rfl⟩
  | yes => exact ⟨_, _, rfl, rfl, by decide, nofun⟩
  | no => exact ⟨_, _, rfl, rfl, by decide, nofun⟩
  | number n =>
      obtain ⟨b, ds, hdigits⟩ := List.exists_cons_of_ne_nil (digits_ne_nil n)
      have hdigit := isDigit_of_mem_digits n b (hdigits ▸ List.mem_cons_self ..)
      exact ⟨b, ds, hdigits, isBlank_of_isDigit hdigit, ne_of_isDigit hdigit rfl,
        fun h => absurd h (ne_of_isDigit hdigit rfl)⟩
  | string h =>
      obtain ⟨chars, -, rfl⟩ := h
      exact ⟨_, _, rfl, rfl, by decide, nofun⟩
  | array _ => exact ⟨_, _, rfl, rfl, by decide, nofun⟩
  | object _ => exact ⟨_, _, rfl, rfl, by decide, nofun⟩

namespace Reads

theorem text (s : String) : Reads Reader.text (.string s) s := by
  intro before text rest hbefore hspells _
  cases hspells with
  | string h =>
      obtain ⟨body, rfl, hbody⟩ := string_of_spells h rest
      rw [Reader.text, List.cons_append, skipBlank_token hbefore rfl]
      show Reader.scanned (string (body ++ rest)) = _
      rw [hbody]
      rfl

/-- A number below a bound of 64 bits is read. -/
theorem natural {bound n : Nat} (expected : String) (hbound : bound ≤ Nat.pow 2 64)
    (hn : n < bound) : Reads (Reader.natural bound expected) (.number n) n := by
  intro before text rest hbefore hspells hrest
  cases hspells with
  | number n =>
      obtain ⟨b, ds, hdigits⟩ := List.exists_cons_of_ne_nil (digits_ne_nil n)
      have hdigit := isDigit_of_mem_digits n b (hdigits ▸ List.mem_cons_self ..)
      have hnumber : number false (b :: (ds ++ rest)) = .ok (.natural n, rest) := by
        rw [← List.cons_append, ← hdigits]
        exact number_digits (by rw [maxWord]; omega) hrest
      rw [hdigits, Reader.natural, List.cons_append,
        skipBlank_token hbefore (isBlank_of_isDigit hdigit)]
      simp only [if_neg (ne_of_isDigit hdigit rfl : b ≠ minus), hdigit, if_true, hnumber,
        Reader.naturalOf, hn]

/-- What is read is changed. -/
theorem map {read : Reader α} {json : Json} {value : α} (h : Reads read json value)
    (f : α → β) :
    Reads (fun s => do let (value, rest) ← read s; return (f value, rest)) json (f value) := by
  intro before text rest hbefore hspells hrest
  show (read _ >>= _) = _
  rw [h hbefore hspells hrest]
  rfl

theorem word16 (n : UInt16) : Reads Reader.word16 (.number n.toNat) n := by
  have h := (natural "u16" (by decide) n.toNat_lt).map Nat.toUInt16
  rwa [Nat.toUInt16, UInt16.ofNat_toNat] at h

theorem word64 (n : UInt64) : Reads Reader.word64 (.number n.toNat) n := by
  have h := (natural "u64" (Nat.le_refl _) n.toNat_lt).map Nat.toUInt64
  rwa [Nat.toUInt64, UInt64.ofNat_toNat] at h

/-- A value that may be `null` is read, if it is not. -/
theorem optional {read : Reader α} {json : Json} {value : α} (h : Reads read json value)
    (hnull : json ≠ .null) : Reads (Reader.optional read) json (some value) := by
  intro before text rest hbefore hspells hrest
  obtain ⟨b, s, rfl, hb, -, hletter⟩ := hspells.head
  have hread := h blank_nil hspells hrest
  rw [List.nil_append, List.cons_append] at hread
  rw [Reader.optional, List.cons_append, skipBlank_token hbefore hb]
  split
  · rename_i heq
    exact absurd (hletter (List.cons.inj heq).1) hnull
  · rw [hread]
    rfl

end Reads

-- ── Separators ──────────────────────────────────────────────────────────────

namespace Reader

/-- What stands before an item is read away. -/
theorem nextItem_token {first : Bool} {before after : Bytes} (hbefore : Blank before)
    (hafter : Blank after) {b : UInt8} (hb : isBlank b = false) (hclose : b ≠ closeBracket)
    (s : Bytes) :
    nextItem first (before ++ (separator first ++ (after ++ b :: s))) = .ok (some (b :: s)) := by
  cases first with
  | true =>
      rw [nextItem, skipBlank_append hbefore, separator, if_pos rfl, List.nil_append,
        skipBlank_token hafter hb]
      split
      · rename_i heq; exact absurd heq (List.cons_ne_nil _ _)
      · rename_i heq; exact absurd (List.cons.inj heq).1 hclose
      · rfl
  | false =>
      rw [nextItem, separator, if_neg Bool.false_ne_true, List.singleton_append,
        skipBlank_token hbefore rfl]
      split
      · rename_i heq; exact absurd heq (List.cons_ne_nil _ _)
      · rename_i heq; exact absurd (List.cons.inj heq).1 (by decide)
      rw [if_neg Bool.false_ne_true]
      split
      · rename_i heq
        rw [← (List.cons.inj heq).2, skipBlank_token hafter hb]
        split
        · rename_i heq; exact absurd heq (List.cons_ne_nil _ _)
        · rename_i heq; exact absurd (List.cons.inj heq).1 hclose
        · rfl
      · rename_i hcomma
        exact absurd rfl (hcomma _)

theorem nextItem_close {first : Bool} {blank : Bytes} (hblank : Blank blank) (rest : Bytes) :
    nextItem first (blank ++ closeBracket :: rest) = .ok none := by
  rw [nextItem, skipBlank_token hblank rfl]
  rfl

theorem endOfItems_close {blank : Bytes} (hblank : Blank blank) (rest : Bytes) :
    endOfItems (blank ++ closeBracket :: rest) = .ok rest := by
  rw [endOfItems, skipBlank_token hblank rfl]
  rfl

theorem keyTail_string {key : String} {s rest : Bytes} (h : string s = .ok (key, rest)) :
    keyTail s = .ok (.key key rest) := by
  rw [keyTail, h]
  rfl

/-- What stands before a key is read away together with its opening quote. -/
theorem nextMember_quote (first : Bool) {before after : Bytes} (hbefore : Blank before)
    (hafter : Blank after) (s : Bytes) :
    nextMember first (before ++ (separator first ++ (after ++ quote :: s))) = keyTail s := by
  cases first with
  | true =>
      rw [nextMember, skipBlank_append hbefore, separator, if_pos rfl, List.nil_append,
        skipBlank_token hafter rfl]
      rfl
  | false =>
      rw [nextMember, separator, if_neg Bool.false_ne_true, List.singleton_append,
        skipBlank_token hbefore rfl]
      split
      · rename_i heq; exact absurd heq (List.cons_ne_nil _ _)
      · rename_i heq; exact absurd (List.cons.inj heq).1 (by decide)
      rw [if_neg Bool.false_ne_true]
      split
      · rename_i heq
        rw [← (List.cons.inj heq).2, skipBlank_token hafter rfl]
        rfl
      · rename_i hcomma
        exact absurd rfl (hcomma _)

/-- What stands before a key is read away together with the key. -/
theorem nextMember_key {first : Bool} {before after keyText : Bytes} {key : String}
    (hbefore : Blank before) (hafter : Blank after) (hkey : SpellsString key keyText)
    (s : Bytes) :
    nextMember first (before ++ (separator first ++ (after ++ (keyText ++ s))))
      = .ok (.key key s) := by
  obtain ⟨body, rfl, hbody⟩ := string_of_spells hkey s
  rw [List.cons_append, nextMember_quote first hbefore hafter]
  exact keyTail_string hbody

theorem nextMember_close {first : Bool} {blank : Bytes} (hblank : Blank blank) (rest : Bytes) :
    nextMember first (blank ++ closeBrace :: rest) = .ok (.done rest) := by
  rw [nextMember, skipBlank_token hblank rfl]
  rfl

theorem colonAfterKey_colon {blank : Bytes} (hblank : Blank blank) (rest : Bytes) :
    colonAfterKey (blank ++ colon :: rest) = .ok rest := by
  rw [colonAfterKey, skipBlank_token hblank rfl]
  rfl

end Reader

/-- Behind an item there is a comma or the closing bracket, which does not go on with it. -/
theorem Json.SpellsItems.stops {items : List Json} {more : Bytes} (h : SpellsItems false items more)
    (rest : Bytes) : Stops (more ++ closeBracket :: rest) := by
  cases h with
  | nil hblank => exact stops_append hblank (stops_cons rfl (by decide) rfl _)
  | cons hbefore _ _ _ =>
      rw [List.append_assoc]
      exact stops_append hbefore (stops_cons rfl (by decide) rfl _)

theorem Json.SpellsMembers.stops {members : List (String × Json)} {more : Bytes}
    (h : SpellsMembers false members more) (rest : Bytes) :
    Stops (more ++ closeBrace :: rest) := by
  cases h with
  | nil hblank => exact stops_append hblank (stops_cons rfl (by decide) rfl _)
  | cons hbefore _ _ _ _ _ _ =>
      rw [List.append_assoc]
      exact stops_append hbefore (stops_cons rfl (by decide) rfl _)

-- ── Arrays and objects of like values ───────────────────────────────────────

theorem Json.SpellsItems.length_le {items : List Json} {first : Bool} {body : Bytes}
    (h : SpellsItems first items body) : items.length ≤ body.length := by
  induction items generalizing first body with
  | nil => exact Nat.zero_le _
  | cons item items ih =>
      cases h with
      | cons hbefore hafter hitem hmore =>
          obtain ⟨b, s, rfl, -⟩ := hitem.head
          have hle := ih hmore
          simp only [List.length_append, List.length_cons]
          omega

theorem Json.SpellsMembers.length_le {members : List (String × Json)} {first : Bool} {body : Bytes}
    (h : SpellsMembers first members body) : members.length ≤ body.length := by
  induction members generalizing first body with
  | nil => exact Nat.zero_le _
  | cons member members ih =>
      cases h with
      | cons hbefore hafter hkey hbeforeColon hafterColon hvalue hmore =>
          have hle := ih hmore
          simp only [List.length_append, List.length_cons]
          omega

namespace Reads

/-- Items are read one after the other, up to the closing bracket. -/
theorem items {read : Reader α} {jsons : List Json} {values : List α}
    (h : List.Forall₂ (Reads read) jsons values) {first : Bool} {body : Bytes}
    (hbody : SpellsItems first jsons body) {n : Nat} (hn : jsons.length < n) (rest : Bytes) :
    Reader.items read n first (body ++ closeBracket :: rest) = .ok (values, rest) := by
  -- on the items, for every count that allows one step more than there are of them
  induction h generalizing first body n with
  | nil =>
      cases n with
      | zero => exact absurd hn (Nat.not_lt_zero _)
      | succ n =>
          cases hbody with
          | nil hblank =>
              rw [Reader.items, Reader.nextItem_close hblank]
              show (Reader.endOfItems _ >>= _) = _
              rw [Reader.endOfItems_close hblank]
              rfl
  | @cons json value jsons values hitem _ ih =>
      cases n with
      | zero => exact absurd hn (Nat.not_lt_zero _)
      | succ n =>
          cases hbody with
          | @cons _ _ _ before after text more hbefore hafter hspells hmore =>
              have hread := hitem blank_nil hspells (hmore.stops rest)
              obtain ⟨b, s, rfl, hb, hclose, -⟩ := hspells.head
              rw [List.nil_append] at hread
              simp only [List.append_assoc, List.cons_append] at hread ⊢
              rw [Reader.items, Reader.nextItem_token hbefore hafter hb hclose]
              show (read _ >>= _) = _
              rw [hread]
              show (Reader.items read n false _ >>= _) = _
              rw [ih hmore (Nat.lt_of_succ_lt_succ hn)]
              rfl

/-- An array of like values is read. -/
theorem listOf {read : Reader α} {jsons : List Json} {values : List α}
    (h : List.Forall₂ (Reads read) jsons values) :
    Reads (Reader.listOf read) (.array jsons) values := by
  intro before text rest hbefore hspells _
  cases hspells with
  | array hbody =>
      rw [List.cons_append, List.append_assoc, List.singleton_append, Reader.listOf,
        skipBlank_token hbefore rfl]
      refine items h hbody ?_ rest
      have hle := hbody.length_le
      rw [List.length_append]
      omega

/-- An array is read as the values that its items were written for. -/
theorem listOf_map {read : Reader α} {write : α → Json}
    (h : ∀ value, Reads read (write value) value) (values : List α) :
    Reads (Reader.listOf read) (.array (values.map write)) values := by
  refine listOf ?_
  rw [List.forall₂_map_left_iff, List.forall₂_same]
  exact fun value _ => h value

/-- A set of names is read from any list of its members. -/
theorem nameSet (names : List String) :
    Reads Reader.nameSet (.array (names.map .string)) (NameSet.ofList names) :=
  (listOf_map text names).map NameSet.ofList

/-- Members are read one after the other, up to the closing brace. -/
theorem members {read : Reader α} {jsons : List (String × Json)} {entries : List (String × α)}
    (h : List.Forall₂ (fun member entry => member.1 = entry.1 ∧ Reads read member.2 entry.2)
      jsons entries) {first : Bool} {body : Bytes} (hbody : SpellsMembers first jsons body)
    {n : Nat} (hn : jsons.length < n) (rest : Bytes) :
    Reader.members read n first (body ++ closeBrace :: rest) = .ok (entries, rest) := by
  induction h generalizing first body n with
  | nil =>
      cases n with
      | zero => exact absurd hn (Nat.not_lt_zero _)
      | succ n =>
          cases hbody with
          | nil hblank =>
              rw [Reader.members, Reader.nextMember_close hblank]
  | @cons member entry jsons entries hmember _ ih =>
      obtain ⟨key, json⟩ := member
      obtain ⟨name, value⟩ := entry
      obtain ⟨rfl, hvalue⟩ := hmember
      cases n with
      | zero => exact absurd hn (Nat.not_lt_zero _)
      | succ n =>
          cases hbody with
          | cons hbefore hafter hkey hbeforeColon hafterColon hspells hmore =>
              simp only [List.append_assoc, List.cons_append]
              rw [Reader.members, Reader.nextMember_key hbefore hafter hkey]
              show (Reader.colonAfterKey _ >>= _) = _
              rw [Reader.colonAfterKey_colon hbeforeColon]
              show (read _ >>= _) = _
              rw [hvalue hafterColon hspells (hmore.stops rest)]
              show (Reader.members read n false _ >>= _) = _
              rw [ih hmore (Nat.lt_of_succ_lt_succ hn)]
              rfl

/-- An object of like values under any keys is read. -/
theorem tableOf {read : Reader α} {jsons : List (String × Json)} {entries : List (String × α)}
    (h : List.Forall₂ (fun member entry => member.1 = entry.1 ∧ Reads read member.2 entry.2)
      jsons entries) :
    Reads (Reader.tableOf read) (.object jsons) (NameTable.ofList entries) := by
  intro before text rest hbefore hspells _
  cases hspells with
  | object hbody =>
      rw [List.cons_append, List.append_assoc, List.singleton_append, Reader.tableOf,
        skipBlank_token hbefore rfl]
      show (Reader.members read _ true _ >>= _) = _
      rw [members h hbody (by have hle := hbody.length_le; rw [List.length_append]; omega) rest]
      rfl

/-- An object under any keys is read as the values that its members were written for. -/
theorem tableOf_map {read : Reader α} {write : α → Json}
    (h : ∀ value, Reads read (write value) value) (entries : List (String × α)) :
    Reads (Reader.tableOf read) (.object (entries.map fun (name, value) => (name, write value)))
      (NameTable.ofList entries) := by
  refine tableOf ?_
  rw [List.forall₂_map_left_iff, List.forall₂_same]
  exact fun entry _ => ⟨rfl, h entry.2⟩

theorem variant {variants : List (String × α)} {name : String} {value : α}
    (h : Reader.variantOf variants name = .ok value) :
    Reads (Reader.variant variants) (.string name) value := by
  intro before text rest hbefore hspells _
  cases hspells with
  | string hname =>
      obtain ⟨body, rfl, hbody⟩ := string_of_spells hname rest
      rw [Reader.variant, List.cons_append, skipBlank_token hbefore rfl]
      show (Reader.scanned (string (body ++ rest)) >>= _) = _
      rw [hbody]
      show (Reader.variantOf variants name >>= _) = _
      rw [h]
      rfl

theorem mandatory {read : Reader β} {json : Json} {value : β} (h : Reads read json value)
    (name : String) (set : β → α → α) :
    Reads (Field.mandatory name read set).change json (set value) :=
  h.map set

theorem defaulted {read : Reader β} {json : Json} {value : β} (h : Reads read json value)
    (name : String) (set : β → α → α) :
    Reads (Field.defaulted name read set).change json (set value) :=
  h.map set

end Reads

-- ── Records ─────────────────────────────────────────────────────────────────

namespace Record

/-- The members of an object can be taken one after the other, each as a field that was not yet
    `seen`, and lead from a value to another one, with every field that must be written. -/
inductive Takes (record : Record α) :
    List String → α → List (String × Json) → α → Prop where
  | done {seen : List String} {value : α} (hmissing : record.firstMissing seen = none) :
      Takes record seen value [] value
  | field {seen : List String} {value result : α} {key : String} {json : Json}
      {members : List (String × Json)} {field : Field α} {change : α → α}
      (hfind : record.fields.find? (·.name = key) = some field)
      (hnew : seen.contains key = false) (hchange : Reads field.change json change)
      (hmore : Takes record (key :: seen) (change value) members result) :
      Takes record seen value ((key, json) :: members) result

variable {record : Record α}

/-- Members that can be taken are read, up to the closing brace. -/
theorem Takes.members {seen : List String} {value result : α} {jsons : List (String × Json)}
    (h : record.Takes seen value jsons result) {first : Bool} {body : Bytes}
    (hbody : SpellsMembers first jsons body) {n : Nat} (hn : jsons.length < n) (rest : Bytes) :
    record.members n first seen value (body ++ closeBrace :: rest) = .ok (result, rest) := by
  induction h generalizing first body n with
  | done hmissing =>
      cases n with
      | zero => exact absurd hn (Nat.not_lt_zero _)
      | succ n =>
          cases hbody with
          | nil hblank =>
              rw [Record.members, Reader.nextMember_close hblank]
              simp only [hmissing]
  | field hfind hnew hchange _ ih =>
      cases n with
      | zero => exact absurd hn (Nat.not_lt_zero _)
      | succ n =>
          cases hbody with
          | cons hbefore hafter hkey hbeforeColon hafterColon hspells hmore =>
              simp only [List.append_assoc, List.cons_append]
              rw [Record.members, Reader.nextMember_key hbefore hafter hkey]
              simp only [hfind, hnew, Bool.false_eq_true, if_false]
              rw [Reader.colonAfterKey_colon hbeforeColon]
              show (Field.change _ _ >>= _) = _
              rw [hchange hafterColon hspells (hmore.stops rest)]
              exact ih hmore (Nat.lt_of_succ_lt_succ hn)

/-- A record is read from an object whose members can be taken. -/
theorem Takes.reads {jsons : List (String × Json)} {result : α}
    (h : record.Takes [] record.blank jsons result) :
    Reads record.read (.object jsons) result := by
  intro before text rest hbefore hspells _
  cases hspells with
  | object hbody =>
      rw [List.cons_append, List.append_assoc, List.singleton_append, Record.read,
        skipBlank_token hbefore rfl]
      refine h.members hbody ?_ rest
      have hle := hbody.length_le
      rw [List.length_append]
      omega

end Record

/-- A document is read, with white space around it. -/
theorem Reads.document {read : Reader α} {json : Json} {value : α} (h : Reads read json value)
    {before text after : Bytes} (hbefore : Blank before) (hspells : Spells json text)
    (hafter : Blank after) : read.document (before ++ (text ++ after)) = .ok value := by
  have hstops : Stops after := by
    have happend := stops_append hafter stops_nil
    rwa [List.append_nil] at happend
  have hend : skipBlank after = [] := by
    have happend := skipBlank_append hafter []
    rwa [List.append_nil] at happend
  show (read _ >>= _) = _
  rw [h hbefore hspells hstops]
  show (if (skipBlank after).isEmpty = true then _ else _) = _
  rw [hend]
  rfl

/-- A value is read from the text that is written of it without white space. -/
theorem Reads.document_compact {read : Reader α} {json : Json} {value : α}
    (h : Reads read json value) : read.document (Text.bytes json.compact) = .ok value := by
  have hread := h.document blank_nil (spells_compact json) blank_nil
  rwa [List.nil_append, List.append_nil] at hread

end MeshSidecar
