/-!
# Tables keyed by name

A `NameTable` holds at most one value per name and lists its entries with the names
strictly ascending, in the order of their code points. Ascending order is part of the
type, so two tables are equal exactly when they hold the same values under the same names.

`get?_insert` and `get?_erase` say what the two changes do to every name.
-/

namespace MeshSidecar

/-- Values under names, the names strictly ascending. -/
structure NameTable (α : Type) where
  /-- The names with their values, in order. -/
  entries : List (String × α)
  /-- The names ascend strictly. -/
  ascending : entries.Pairwise (fun a b => a.1 < b.1)
deriving DecidableEq

namespace NameTable

variable {α : Type}

/-- The value that a list of entries holds under a name. -/
def find (name : String) : List (String × α) → Option α
  | [] => none
  | (key, value) :: rest => if key = name then some value else find name rest

/-- Puts a value in its place among ascending entries, over the one that was there. -/
def place (name : String) (value : α) : List (String × α) → List (String × α)
  | [] => [(name, value)]
  | (key, old) :: rest =>
      if name < key then (name, value) :: (key, old) :: rest
      else if name = key then (name, value) :: rest
      else (key, old) :: place name value rest

theorem mem_place {name : String} {value : α} {entry : String × α} :
    ∀ {entries : List (String × α)}, entry ∈ place name value entries →
      entry = (name, value) ∨ entry ∈ entries
  | [], h => by simpa [place] using h
  | (key, old) :: rest, h => by
      unfold place at h
      split at h
      · simpa using h
      · split at h
        · rcases List.mem_cons.mp h with rfl | h
          · exact Or.inl rfl
          · exact Or.inr (List.mem_cons_of_mem _ h)
        · rcases List.mem_cons.mp h with rfl | h
          · exact Or.inr (List.mem_cons_self ..)
          · rcases mem_place h with rfl | h
            · exact Or.inl rfl
            · exact Or.inr (List.mem_cons_of_mem _ h)

theorem place_ascending {name : String} {value : α} :
    ∀ {entries : List (String × α)}, entries.Pairwise (fun a b => a.1 < b.1) →
      (place name value entries).Pairwise (fun a b => a.1 < b.1)
  | [], _ => by simp [place]
  | (key, old) :: rest, h => by
      have hrest := (List.pairwise_cons.mp h).2
      have hhead := (List.pairwise_cons.mp h).1
      unfold place
      split
      · rename_i hlt
        refine List.pairwise_cons.mpr ⟨fun e he => ?_, h⟩
        rcases List.mem_cons.mp he with rfl | he
        · exact hlt
        · exact String.lt_trans hlt (hhead e he)
      · split
        · rename_i heq
          exact List.pairwise_cons.mpr ⟨fun e he => heq ▸ hhead e he, hrest⟩
        · rename_i hlt hne
          refine List.pairwise_cons.mpr ⟨fun e he => ?_, place_ascending hrest⟩
          rcases mem_place he with rfl | he
          · show key < name
            grind
          · exact hhead e he

/-- The table without entries. -/
def empty : NameTable α := ⟨[], List.Pairwise.nil⟩

instance : EmptyCollection (NameTable α) := ⟨empty⟩
instance : Inhabited (NameTable α) := ⟨empty⟩

/-- The value under a name. -/
def get? (table : NameTable α) (name : String) : Option α := find name table.entries

/-- The table with `value` under `name`, in place of any value there. -/
def insert (table : NameTable α) (name : String) (value : α) : NameTable α :=
  ⟨place name value table.entries, place_ascending table.ascending⟩

/-- The table without a value under `name`. -/
def erase (table : NameTable α) (name : String) : NameTable α :=
  ⟨table.entries.filter (fun entry => entry.1 ≠ name), table.ascending.filter _⟩

/-- The values, in the order of their names. -/
def values (table : NameTable α) : List α := table.entries.map (·.2)

/-- The names, in order. -/
def names (table : NameTable α) : List String := table.entries.map (·.1)

/-- The table of a list of entries, where a later entry replaces an earlier one of its name. -/
def ofList (entries : List (String × α)) : NameTable α :=
  entries.foldl (fun table entry => table.insert entry.1 entry.2) empty

theorem find_eq_none_of_lt {name : String} :
    ∀ {entries : List (String × α)}, (∀ entry ∈ entries, name < entry.1) → find name entries = none
  | [], _ => rfl
  | (key, value) :: rest, h => by
      have hkey : name < key := h (key, value) (List.mem_cons_self ..)
      have hne : key ≠ name := fun heq => String.lt_irrefl name (heq ▸ hkey)
      simp only [find, if_neg hne]
      exact find_eq_none_of_lt fun entry he => h entry (List.mem_cons_of_mem _ he)

theorem find_place (name other : String) (value : α) :
    ∀ {entries : List (String × α)}, entries.Pairwise (fun a b => a.1 < b.1) →
      find other (place name value entries) = if name = other then some value else find other entries
  | [], _ => by simp [place, find]
  | (key, old) :: rest, h => by
      have hrest := (List.pairwise_cons.mp h).2
      have ih := find_place name other value hrest
      unfold place
      split
      · simp [find]
      · split
        · rename_i heq
          subst heq
          by_cases ho : name = other <;> simp [find, ho]
        · rename_i hlt hne
          simp only [find, ih]
          by_cases ho : name = other
          · have hk : key ≠ other := fun hk => hne (ho.trans hk.symm)
            simp [ho, hk]
          · simp [ho]

/-- A value put under a name is found there, and no other name is touched. -/
theorem get?_insert (table : NameTable α) (name other : String) (value : α) :
    (table.insert name value).get? other = if name = other then some value else table.get? other :=
  find_place name other value table.ascending

theorem find_filter (name other : String) :
    ∀ entries : List (String × α),
      find other (entries.filter fun entry => entry.1 ≠ name) =
        if name = other then none else find other entries
  | [] => by simp [find]
  | (key, value) :: rest => by
      have ih := find_filter name other rest
      by_cases hk : key = name
      · subst hk
        by_cases ho : key = other <;> simp_all [find]
      · by_cases ho : name = other
        · subst ho
          simp_all [find]
        · simp_all [find]

/-- After an erasure nothing is found under the name, and no other name is touched. -/
theorem get?_erase (table : NameTable α) (name other : String) :
    (table.erase name).get? other = if name = other then none else table.get? other :=
  find_filter name other table.entries

end NameTable

end MeshSidecar
