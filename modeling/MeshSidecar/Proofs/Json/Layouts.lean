import Mathlib.Data.List.Nodup
import Mathlib.Data.List.Pairwise
import MeshSidecar.Proofs.Json.Insertions
import MeshSidecar.Proofs.Names.Ascending

/-!
# The documents that hold a value

A tree holds a string if it is one of the ways to write it, a list if its items hold the elements in
order, and a set of names if its items hold the members, in any order and as often as one likes. It
holds a record if it is an object of its fields, in any order, none of them twice: each with a tree
that holds its part of the record, and every other one not required and equal to its default.

What a record is made of is its `Layout`: one `Slot` per field. From an object of some of the fields
the blank value is read, overridden by exactly these (`Layout.outcome_of_holdsFields`); so a record
is read from every tree that holds it (`Layout.outcome_of_holds`).
-/

namespace MeshSidecar

open Json Scan

variable {α β : Type}

-- ── Parts of a record ───────────────────────────────────────────────────────

namespace Tree

/-- The tree holds a string. -/
def HoldsText (s : String) (tree : Tree) : Prop := ∃ token, tree = .string token ∧ token.Spells s

/-- The tree holds a natural number, in decimal. -/
def HoldsNatural (n : Nat) (tree : Tree) : Prop :=
  ∃ token, tree = .number token ∧ token.text = digits n

/-- The tree holds the string that is there, or is `null` if none is. -/
def HoldsOptionalText : Option String → Tree → Prop
  | none, tree => tree = .null
  | some s, tree => HoldsText s tree

/-- The tree holds the elements of a list. -/
def HoldsList (holds : β → Tree → Prop) (values : List β) (tree : Tree) : Prop :=
  ∃ items, tree = .array items ∧ List.Forall₂ holds values items

/-- The tree holds the members of a set, in any order and with repetitions. -/
def HoldsNames (names : NameSet) (tree : Tree) : Prop :=
  ∃ members, HoldsList HoldsText members tree ∧ ∀ name, name ∈ members ↔ names.contains name

end Tree

namespace Reader

open MeshSidecar.Tree

variable {read : Reader α}

/-- What is read from every text of a JSON value is read from a tree with such a text. -/
theorem outcome_of_reads {json : Json} {value : α} (h : Reads read json value) {tree : Tree}
    (hspells : Spells json tree.text) : read.outcome tree = .ok value := by
  have hread := h blank_nil hspells stops_nil
  rw [List.nil_append, List.append_nil] at hread
  rw [outcome, hread]
  rfl

theorem text_outcome {s : String} {tree : Tree} (h : HoldsText s tree) :
    text.outcome tree = .ok s := by
  obtain ⟨token, rfl, hspells⟩ := h
  exact outcome_of_reads (Reads.text s) (by rw [Tree.text]; exact .string hspells)

theorem spells_natural {n : Nat} {tree : Tree} (h : HoldsNatural n tree) :
    Spells (.number n) tree.text := by
  obtain ⟨token, rfl, hdigits⟩ := h
  rw [Tree.text, hdigits]
  exact .number n

theorem word16_outcome {n : UInt16} {tree : Tree} (h : HoldsNatural n.toNat tree) :
    word16.outcome tree = .ok n :=
  outcome_of_reads (Reads.word16 n) (spells_natural h)

theorem word64_outcome {n : UInt64} {tree : Tree} (h : HoldsNatural n.toNat tree) :
    word64.outcome tree = .ok n :=
  outcome_of_reads (Reads.word64 n) (spells_natural h)

theorem optional_text_outcome {s : Option String} {tree : Tree} (h : HoldsOptionalText s tree) :
    (optional text).outcome tree = .ok s := by
  cases s with
  | none =>
      obtain rfl : tree = .null := h
      exact (optional_tells_null text).outcome_eq
  | some s =>
      have htext : HoldsText s tree := h
      have hne : tree ≠ .null := by
        rintro rfl
        obtain ⟨token, heq, -⟩ := htext
        cases heq
      rw [(optional_tells local_text hne).outcome_eq, text_outcome htext]
      rfl

theorem listOf_outcome {holds : α → Tree → Prop} (hlocal : read.Local)
    (hread : ∀ {value tree}, holds value tree → read.outcome tree = .ok value)
    {values : List α} {tree : Tree} (h : HoldsList holds values tree) :
    (listOf read).outcome tree = .ok values := by
  obtain ⟨items, rfl, hitems⟩ := h
  rw [(listOf_tells hlocal items).outcome_eq]
  induction hitems with
  | nil => rfl
  | cons hitem _ ih =>
      rw [List.mapM_cons, hread hitem, ih]
      rfl

theorem nameSet_outcome {names : NameSet} {tree : Tree} (h : HoldsNames names tree) :
    nameSet.outcome tree = .ok names := by
  obtain ⟨members, hlist, hmembers⟩ := h
  have hset : NameSet.ofList members = names := by
    refine NameSet.ext_toList fun name => ?_
    rw [NameSet.ofList, NameSet.mem_toList_insertAll, hmembers, ← NameSet.mem_toList_iff]
    exact ⟨fun h => h.resolve_left List.not_mem_nil, Or.inr⟩
  show ((listOf text).map NameSet.ofList).outcome tree = _
  rw [map_outcome, listOf_outcome local_text text_outcome hlist, ← hset]
  rfl

end Reader

-- ── Records ─────────────────────────────────────────────────────────────────

/-- A field of the records of a type: the part of a record that it is, how that is written, and how
    it is read. -/
structure Slot (α : Type) where
  Part : Type
  name : String
  required : Bool
  read : Reader Part
  get : α → Part
  set : Part → α → α
  Holds : Part → Tree → Prop
  get_set : ∀ part value, get (set part value) = part
  isLocal : read.Local
  outcome : ∀ {part tree}, Holds part tree → read.outcome tree = .ok part

/-- The field as it is read. -/
def Slot.field (slot : Slot α) : Field α := ⟨slot.name, slot.required, slot.read.map slot.set⟩

/-- To set one of two fields leaves the other as it is. -/
def Slot.Independent (slot other : Slot α) : Prop :=
  ∀ part part' value, other.get (slot.set part value) = other.get value ∧
    slot.get (other.set part' value) = slot.get value

instance : Std.Symm (@Slot.Independent α) where
  symm _ _ h part part' value := (h part' part value).symm

/-- The parts that the records of a type are made of. -/
structure Layout (record : Record α) where
  slots : List (Slot α)
  fields_eq : record.fields = slots.map Slot.field
  names_nodup : (slots.map Slot.name).Nodup
  independent : slots.Pairwise Slot.Independent
  ext : ∀ {a b}, (∀ slot ∈ slots, slot.get a = slot.get b) → a = b

namespace Layout

variable {record : Record α} (layout : Layout record)

/-- Members of an object that are fields, each once, with parts of a value. -/
structure HoldsFields (chosen : List (Slot α)) (value : α)
    (members : List (StringToken × Tree)) : Prop where
  known : ∀ slot ∈ chosen, slot ∈ layout.slots
  distinct : (chosen.map Slot.name).Nodup
  required : ∀ slot ∈ layout.slots, slot.required = true → slot.name ∈ chosen.map Slot.name
  parts : List.Forall₂ (fun slot member =>
    member.1.Spells slot.name ∧ slot.Holds (slot.get value) member.2) chosen members

/-- The tree is an object of fields of a value, and what it leaves out is as by default. -/
def Holds (value : α) (tree : Tree) : Prop :=
  ∃ chosen members, tree = .object members ∧ layout.HoldsFields chosen value members ∧
    ∀ slot ∈ layout.slots, slot.name ∉ chosen.map Slot.name →
      slot.get value = slot.get record.blank

/-- A value with some of its parts replaced by those of another one. -/
def overridden (chosen : List (Slot α)) (value base : α) : α :=
  chosen.foldl (fun result slot => slot.set (slot.get value) result) base

variable {layout}

/-- A record is local if its fields are. -/
theorem isLocal (layout : Layout record) : record.Local := by
  intro field hfield
  rw [layout.fields_eq] at hfield
  obtain ⟨slot, -, rfl⟩ := List.mem_map.mp hfield
  exact slot.isLocal.map slot.set

theorem eq_of_name_eq {slot other : Slot α} (hslot : slot ∈ layout.slots)
    (hother : other ∈ layout.slots) (h : slot.name = other.name) : slot = other :=
  List.inj_on_of_nodup_map layout.names_nodup hslot hother h

theorem get_set_of_ne {slot other : Slot α} (hslot : slot ∈ layout.slots)
    (hother : other ∈ layout.slots) (hne : slot.name ≠ other.name) (part : slot.Part)
    (value : α) : other.get (slot.set part value) = other.get value := by
  have hindependent : slot.Independent other :=
    layout.independent.forall hslot hother fun h => hne (congrArg Slot.name h)
  exact (hindependent part (other.get value) value).1

/-- The parts of the other value are the ones that were replaced. -/
theorem get_overridden {chosen : List (Slot α)} (hchosen : ∀ slot ∈ chosen, slot ∈ layout.slots)
    {slot : Slot α} (hslot : slot ∈ layout.slots) (value base : α) :
    slot.get (overridden chosen value base) =
      if slot.name ∈ chosen.map Slot.name then slot.get value else slot.get base := by
  induction chosen generalizing base with
  | nil => rfl
  | cons first chosen ih =>
      obtain ⟨hfirst, hchosen⟩ := List.forall_mem_cons.mp hchosen
      show slot.get (overridden chosen value (first.set (first.get value) base)) = _
      rw [ih hchosen, List.map_cons]
      by_cases hmem : slot.name ∈ chosen.map Slot.name
      · rw [if_pos hmem, if_pos (List.mem_cons_of_mem _ hmem)]
      · rw [if_neg hmem]
        by_cases hname : slot.name = first.name
        · obtain rfl := eq_of_name_eq hslot hfirst hname
          rw [slot.get_set, if_pos (List.mem_cons_self ..)]
        · rw [get_set_of_ne hfirst hslot (Ne.symm hname), if_neg]
          rw [List.mem_cons, not_or]
          exact ⟨hname, hmem⟩

/-- A field is found under its name. -/
theorem find?_field {slot : Slot α} (hslot : slot ∈ layout.slots) :
    record.fields.find? (·.name = slot.name) = some slot.field := by
  have hname : slot.name ∈ record.names := by
    rw [Record.names, layout.fields_eq, List.map_map]
    exact List.mem_map.mpr ⟨slot, hslot, rfl⟩
  obtain ⟨field, hfind⟩ := Record.exists_find? hname
  have hfield := List.mem_of_find?_eq_some hfind
  rw [layout.fields_eq] at hfield
  obtain ⟨other, hother, rfl⟩ := List.mem_map.mp hfield
  have hsame : other.field.name = slot.name := by simpa using List.find?_some hfind
  rw [hfind, eq_of_name_eq hother hslot hsame]

/-- The members are taken one after the other, and each overrides its part. -/
theorem foldlM_step {chosen : List (Slot α)} {value : α} {members : List (StringToken × Tree)}
    (hknown : ∀ slot ∈ chosen, slot ∈ layout.slots) (hdistinct : (chosen.map Slot.name).Nodup)
    (hparts : List.Forall₂ (fun slot member =>
      member.1.Spells slot.name ∧ slot.Holds (slot.get value) member.2) chosen members)
    {seen : List String} (hnew : ∀ slot ∈ chosen, slot.name ∉ seen) (base : α) :
    members.foldlM record.step (seen, base) =
      .ok ((chosen.map Slot.name).reverse ++ seen, overridden chosen value base) := by
  induction hparts generalizing seen base with
  | nil => rfl
  | @cons slot member chosen members hpart _ ih =>
      obtain ⟨hkey, hholds⟩ := hpart
      obtain ⟨hslot, hknown⟩ := List.forall_mem_cons.mp hknown
      obtain ⟨hslotNew, hnew⟩ := List.forall_mem_cons.mp hnew
      obtain ⟨hslotDistinct, hdistinct⟩ := List.nodup_cons.mp hdistinct
      have hchange : slot.field.change.outcome member.2 = .ok (slot.set (slot.get value)) := by
        show (slot.read.map slot.set).outcome member.2 = _
        rw [Reader.map_outcome, slot.outcome hholds]
        rfl
      have hstep : record.step (seen, base) member =
          .ok (slot.name :: seen, slot.set (slot.get value) base) := by
        rw [Record.step_field hkey.decoded_eq (find?_field hslot)
          (by simpa using hslotNew), hchange]
        rfl
      rw [List.foldlM_cons, hstep]
      show members.foldlM record.step (slot.name :: seen, slot.set (slot.get value) base) = _
      rw [ih hknown hdistinct]
      · rw [List.map_cons, List.reverse_cons, List.append_assoc]
        rfl
      · intro other hother hmem
        rcases List.mem_cons.mp hmem with hname | hmem
        · exact hslotDistinct (hname ▸ List.mem_map_of_mem hother)
        · exact hnew other hother hmem

/-- From an object of some of the fields, the blank value is read, overridden by these. -/
theorem outcome_of_holdsFields {chosen : List (Slot α)} {value : α}
    {members : List (StringToken × Tree)} (h : layout.HoldsFields chosen value members) :
    record.read.outcome (.object members) = .ok (overridden chosen value record.blank) := by
  have hmissing : record.firstMissing ((chosen.map Slot.name).reverse ++ []) = none := by
    rw [Record.firstMissing, List.find?_eq_none, layout.fields_eq]
    intro field hfield
    obtain ⟨slot, hslot, rfl⟩ := List.mem_map.mp hfield
    have hrequired := h.required slot hslot
    simp only [List.append_nil, Slot.field, Bool.and_eq_true, Bool.not_eq_true',
      List.contains_eq_mem, List.mem_reverse, decide_eq_false_iff_not, not_and, not_not]
    exact hrequired
  rw [(Record.read_tells_object layout.isLocal members).outcome_eq, Record.ofMembers,
    foldlM_step h.known h.distinct h.parts (fun _ _ => List.not_mem_nil)]
  show record.close _ = _
  rw [Record.close, hmissing]

/-- A record is read from every tree that holds it. -/
theorem outcome_of_holds {value : α} {tree : Tree} (h : layout.Holds value tree) :
    record.read.outcome tree = .ok value := by
  obtain ⟨chosen, members, rfl, hfields, hdefault⟩ := h
  rw [outcome_of_holdsFields hfields]
  congr 1
  refine layout.ext fun slot hslot => ?_
  rw [get_overridden hfields.known hslot]
  by_cases hmem : slot.name ∈ chosen.map Slot.name
  · rw [if_pos hmem]
  · rw [if_neg hmem, hdefault slot hslot hmem]

end Layout

end MeshSidecar
