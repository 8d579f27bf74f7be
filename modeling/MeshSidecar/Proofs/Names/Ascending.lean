import Mathlib.Data.List.Sort
import MeshSidecar.Names.Set

/-!
# Lists that ascend

What is sorted by a key that no two items share ascends strictly (`mergeSort_pairwise_lt`), and
a list that ascends strictly is known by its members (`eq_of_ascending`).

The entries of a table ascend by name, so a table is known by what it holds under each name
(`NameTable.ext_get?`), and by its entries in any order (`NameTable.eq_of_entries_perm`). A table
that is made of entries whose names differ has those entries and no other
(`NameTable.ofList_eq_of_perm`). A set of names is known by its members.
-/

namespace MeshSidecar

section

variable {α κ : Type} [LE κ] [LT κ]

/-- Items that are sorted by a key which no two of them share ascend strictly by it. -/
theorem mergeSort_pairwise_lt [Std.IsLinearOrder κ] [Std.LawfulOrderLT κ] [DecidableLE κ]
    (key : α → κ) {items : List α} (h : (items.map key).Nodup) :
    (items.mergeSort fun a b => decide (key a ≤ key b)).Pairwise fun a b => key a < key b := by
  have hsorted : (items.mergeSort fun a b => decide (key a ≤ key b)).Pairwise fun a b =>
      decide (key a ≤ key b) = true :=
    List.pairwise_mergeSort
      (fun a b c hab hbc => by simp only [decide_eq_true_eq] at *; exact Std.le_trans hab hbc)
      (fun a b => by simpa using Std.le_total) _
  have hdistinct : ((items.mergeSort fun a b => decide (key a ≤ key b)).map key).Nodup :=
    ((List.mergeSort_perm _ _).map key).nodup_iff.mpr h
  rw [List.nodup_iff_pairwise_ne, List.pairwise_map] at hdistinct
  refine (hsorted.and hdistinct).imp fun {a b} hab => ?_
  exact Std.lt_of_le_of_ne (of_decide_eq_true hab.1) hab.2

/-- Two lists of the same items that ascend strictly by a key are one. -/
theorem eq_of_ascending [Std.IsPreorder κ] [Std.LawfulOrderLT κ] (key : α → κ)
    {first second : List α}
    (hfirst : first.Pairwise fun a b => key a < key b)
    (hsecond : second.Pairwise fun a b => key a < key b)
    (h : ∀ item, item ∈ first ↔ item ∈ second) : first = second := by
  have hirrefl : Std.Irrefl fun a b => key a < key b := ⟨fun a => Std.lt_irrefl⟩
  have hantisymm : Std.Antisymm fun a b => key a < key b :=
    ⟨fun a b hab hba => absurd hab (Std.not_gt_of_lt hba)⟩
  exact hfirst.eq_of_mem_iff hsecond h

end

namespace NameTable

variable {α : Type}

theorem mem_of_find {name : String} {value : α} {entries : List (String × α)}
    (h : find name entries = some value) : (name, value) ∈ entries := by
  induction entries with
  | nil => exact nomatch h
  | cons entry rest ih =>
      obtain ⟨key, old⟩ := entry
      rw [find] at h
      by_cases hkey : key = name
      · rw [if_pos hkey] at h
        rw [hkey, Option.some.inj h]
        exact List.mem_cons_self ..
      · rw [if_neg hkey] at h
        exact List.mem_cons_of_mem _ (ih h)

/-- In a list whose names ascend, what stands under a name is found there. -/
theorem find_of_mem {name : String} {value : α} {entries : List (String × α)}
    (hascend : entries.Pairwise fun a b => a.1 < b.1) (h : (name, value) ∈ entries) :
    find name entries = some value := by
  induction entries with
  | nil => exact nomatch h
  | cons entry rest ih =>
      obtain ⟨key, old⟩ := entry
      obtain ⟨hfirst, hrest⟩ := List.pairwise_cons.mp hascend
      rw [find]
      rcases List.mem_cons.mp h with heq | hmem
      · obtain ⟨rfl, rfl⟩ := Prod.mk.inj heq
        rw [if_pos rfl]
      · have hlt : key < name := hfirst (name, value) hmem
        rw [if_neg fun heq => String.lt_irrefl _ (heq ▸ hlt), ih hrest hmem]

/-- An entry of a table is a name with the value under it. -/
theorem mem_entries_iff {table : NameTable α} {name : String} {value : α} :
    (name, value) ∈ table.entries ↔ table.get? name = some value :=
  ⟨find_of_mem table.ascending, mem_of_find⟩

theorem ext_get? {first second : NameTable α} (h : ∀ name, first.get? name = second.get? name) :
    first = second := by
  have hentries : first.entries = second.entries := by
    refine eq_of_ascending Prod.fst first.ascending second.ascending ?_
    rintro ⟨name, value⟩
    rw [mem_entries_iff, mem_entries_iff, h name]
  cases first
  cases second
  congr

/-- To put under a name what is there already changes nothing. -/
theorem insert_eq_self {table : NameTable α} {name : String} {value : α}
    (h : table.get? name = some value) : table.insert name value = table := by
  refine ext_get? fun other => ?_
  rw [get?_insert]
  by_cases heq : name = other
  · rw [if_pos heq, ← heq, h]
  · rw [if_neg heq]

/-- Two tables with the same entries are one. -/
theorem eq_of_entries_perm {first second : NameTable α}
    (h : first.entries.Perm second.entries) : first = second := by
  refine ext_get? fun name => Option.ext fun value => ?_
  rw [← mem_entries_iff, ← mem_entries_iff, h.mem_iff]

theorem names_nodup (table : NameTable α) : (table.entries.map (·.1)).Nodup := by
  rw [List.nodup_iff_pairwise_ne, List.pairwise_map]
  refine table.ascending.imp fun {a b} hlt heq => ?_
  rw [heq] at hlt
  exact String.lt_irrefl b.1 hlt

/-- A name under which nothing is found stands in no entry. -/
theorem get?_eq_none_iff {table : NameTable α} {name : String} :
    table.get? name = none ↔ name ∉ table.entries.map (·.1) := by
  constructor
  · intro h hmem
    obtain ⟨⟨key, value⟩, hentry, rfl⟩ := List.mem_map.mp hmem
    exact nomatch h.symm.trans (mem_entries_iff.mp hentry)
  · intro h
    refine Option.eq_none_iff_forall_not_mem.mpr fun value hvalue => h ?_
    exact List.mem_map.mpr ⟨(name, value), mem_entries_iff.mpr hvalue, rfl⟩

/-- The names of some entries are those under which such an entry is found. -/
theorem mem_names_filter {table : NameTable α} {p : String × α → Bool} {name : String} :
    name ∈ (table.entries.filter p).map (·.1) ↔
      ∃ value, table.get? name = some value ∧ p (name, value) = true := by
  constructor
  · intro hmem
    obtain ⟨⟨key, value⟩, hentry, rfl⟩ := List.mem_map.mp hmem
    obtain ⟨hentry, hp⟩ := List.mem_filter.mp hentry
    exact ⟨value, mem_entries_iff.mp hentry, hp⟩
  · rintro ⟨value, hfind, hp⟩
    exact List.mem_map.mpr
      ⟨(name, value), List.mem_filter.mpr ⟨mem_entries_iff.mpr hfind, hp⟩, rfl⟩

theorem names_filter_nodup (table : NameTable α) (p : String × α → Bool) :
    ((table.entries.filter p).map (·.1)).Nodup :=
  (List.filter_sublist.map _).nodup table.names_nodup

theorem place_perm {name : String} {value : α} {entries : List (String × α)}
    (h : name ∉ entries.map (·.1)) :
    (place name value entries).Perm ((name, value) :: entries) := by
  induction entries with
  | nil => exact List.Perm.refl _
  | cons entry rest ih =>
      obtain ⟨key, old⟩ := entry
      rw [List.map_cons, List.mem_cons, not_or] at h
      rw [place]
      by_cases hlt : name < key
      · rw [if_pos hlt]
      · rw [if_neg hlt, if_neg h.1]
        exact ((ih h.2).cons _).trans (List.Perm.swap ..)

/-- A value under a new name is one more entry. -/
theorem entries_insert_perm {table : NameTable α} {name : String} (value : α)
    (h : table.get? name = none) :
    (table.insert name value).entries.Perm ((name, value) :: table.entries) :=
  place_perm (get?_eq_none_iff.mp h)

theorem entries_foldl_insert_perm (entries : List (String × α)) (table : NameTable α)
    (h : ((table.entries ++ entries).map (·.1)).Nodup) :
    (entries.foldl (fun table entry => table.insert entry.1 entry.2) table).entries.Perm
      (table.entries ++ entries) := by
  induction entries generalizing table with
  | nil => rw [List.append_nil]; exact List.Perm.refl _
  | cons entry rest ih =>
      have hmiddle : (table.entries ++ entry :: rest).Perm (entry :: table.entries ++ rest) :=
        List.perm_middle
      rw [(hmiddle.map _).nodup_iff] at h
      have hnew : table.get? entry.1 = none := by
        refine get?_eq_none_iff.mpr fun hmem => (List.nodup_cons.mp h).1 ?_
        show entry.1 ∈ (table.entries ++ rest).map (·.1)
        rw [List.map_append]
        exact List.mem_append_left _ hmem
      have hplaced := entries_insert_perm entry.2 hnew
      refine (ih (table.insert entry.1 entry.2) ?_).trans
        ((hplaced.append_right rest).trans hmiddle.symm)
      rwa [((hplaced.append_right rest).map _).nodup_iff]

/-- The table of the entries of a table, in any order, is that table. -/
theorem ofList_eq_of_perm {entries : List (String × α)} {table : NameTable α}
    (h : entries.Perm table.entries) : ofList entries = table := by
  refine eq_of_entries_perm (List.Perm.trans ?_ h)
  refine entries_foldl_insert_perm entries empty ?_
  show (entries.map (·.1)).Nodup
  rw [(h.map _).nodup_iff]
  exact table.names_nodup

end NameTable

namespace NameSet

/-- The members of a set are what it lists. -/
theorem mem_toList_iff {names : NameSet} {name : String} :
    name ∈ names.toList ↔ names.contains name = true := by
  rw [contains, Option.isSome_iff_ne_none, ne_eq, NameTable.get?_eq_none_iff, not_not]
  rfl

theorem ext_toList {first second : NameSet}
    (h : ∀ name, name ∈ first.toList ↔ name ∈ second.toList) : first = second := by
  have htable : first.table = second.table := by
    refine NameTable.ext_get? fun name => Option.ext fun _ => ?_
    have hname := h name
    rw [mem_toList_iff, mem_toList_iff, contains, contains] at hname
    constructor
    · intro hfirst
      rw [hfirst] at hname
      obtain ⟨_, hsecond⟩ := Option.isSome_iff_exists.mp (hname.mp rfl)
      exact hsecond
    · intro hsecond
      rw [hsecond] at hname
      obtain ⟨_, hfirst⟩ := Option.isSome_iff_exists.mp (hname.mpr rfl)
      exact hfirst
  cases first
  cases second
  congr

/-- What is added to a set joins its members. -/
theorem mem_toList_insertAll {names : NameSet} {more : List String} {name : String} :
    name ∈ (names.insertAll more).toList ↔ name ∈ names.toList ∨ name ∈ more := by
  induction more generalizing names with
  | nil => exact ⟨Or.inl, fun h => h.resolve_right nofun⟩
  | cons first rest ih =>
      show name ∈ ((names.insert first).insertAll rest).toList ↔ _
      rw [ih, mem_toList_iff, contains_insert, Bool.or_eq_true, decide_eq_true_eq,
        ← mem_toList_iff, List.mem_cons, eq_comm]
      tauto

/-- The set of the members of a set is that set. -/
theorem ofList_toList (names : NameSet) : ofList names.toList = names := by
  refine ext_toList fun name => ?_
  rw [ofList, mem_toList_insertAll]
  exact ⟨fun h => h.resolve_left nofun, Or.inr⟩

end NameSet

end MeshSidecar
