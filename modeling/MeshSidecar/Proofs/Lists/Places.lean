/-!
# Places in a list

A list is gone through from its front, and what is said of an item may depend on the ones before it.
`Unheld` says that nothing is held against any item, and `FirstHeld` tells what is held against the
first item against which there is something. One of the two is the case
(`unheld_iff_not_firstHeld`), and both are decided item by item (`unheld_cons`, `firstHeld_cons`).
-/

namespace MeshSidecar

variable {α ε : Type}

theorem forall_split_nil (p : List α → α → Prop) :
    ∀ before item after, [] = before ++ item :: after → p before item := by
  intro before item after h
  exact absurd h.symm (List.append_ne_nil_of_right_ne_nil _ (List.cons_ne_nil _ _))

/-- What is said of every place in a list is said of the first one and of the others. -/
theorem forall_split_cons {p : List α → α → Prop} {first : α} {rest : List α} :
    (∀ before item after, first :: rest = before ++ item :: after → p before item) ↔
      p [] first ∧ ∀ before item after, rest = before ++ item :: after →
        p (first :: before) item := by
  constructor
  · intro h
    refine ⟨h [] first rest rfl, ?_⟩
    rintro before item after rfl
    exact h (first :: before) item after rfl
  · rintro ⟨hfirst, hrest⟩ before item after heq
    cases before with
    | nil =>
        obtain ⟨rfl, -⟩ := List.cons.inj heq
        exact hfirst
    | cons other before =>
        obtain ⟨rfl, hsplit⟩ := List.cons.inj heq
        exact hrest before item after hsplit

-- ── The first offence ───────────────────────────────────────────────────────

/-- Nothing is held against any item. -/
def Unheld (offends : List α → α → ε → Prop) (items : List α) : Prop :=
  ∀ before item after, items = before ++ item :: after → ∀ offence, ¬ offends before item offence

/-- What is held against the first item against which there is something. -/
def FirstHeld (offends : List α → α → ε → Prop) (items : List α) (offence : ε) : Prop :=
  ∃ before item after, items = before ++ item :: after ∧ Unheld offends before ∧
    offends before item offence

variable {offends : List α → α → ε → Prop} {items rest : List α} {first : α} {offence : ε}

theorem unheld_nil : Unheld offends [] :=
  forall_split_nil fun before item => ∀ offence, ¬ offends before item offence

theorem unheld_cons :
    Unheld offends (first :: rest) ↔
      (∀ offence, ¬ offends [] first offence) ∧
        Unheld (fun before => offends (first :: before)) rest :=
  forall_split_cons (p := fun before item => ∀ offence, ¬ offends before item offence)

theorem not_firstHeld_nil : ¬ FirstHeld offends [] offence := by
  rintro ⟨before, item, after, h, -⟩
  exact absurd h.symm (List.append_ne_nil_of_right_ne_nil _ (List.cons_ne_nil _ _))

theorem firstHeld_cons :
    FirstHeld offends (first :: rest) offence ↔
      offends [] first offence ∨
        (∀ other, ¬ offends [] first other) ∧
          FirstHeld (fun before => offends (first :: before)) rest offence := by
  constructor
  · rintro ⟨before, item, after, h, hbefore, hitem⟩
    cases before with
    | nil =>
        obtain ⟨rfl, -⟩ := List.cons.inj h
        exact Or.inl hitem
    | cons other before =>
        obtain ⟨rfl, hsplit⟩ := List.cons.inj h
        obtain ⟨hfirst, hothers⟩ := unheld_cons.mp hbefore
        exact Or.inr ⟨hfirst, before, item, after, hsplit, hothers, hitem⟩
  · rintro (hfirst | ⟨hfirst, before, item, after, rfl, hbefore, hitem⟩)
    · exact ⟨[], first, rest, rfl, unheld_nil, hfirst⟩
    · exact ⟨first :: before, item, after, rfl, unheld_cons.mpr ⟨hfirst, hbefore⟩, hitem⟩

/-- What is held against the first item, if only one thing can be. -/
theorem firstHeld_cons_of_iff {held : ε} (h : ∀ other, offends [] first other ↔ other = held) :
    FirstHeld offends (first :: rest) offence ↔ offence = held := by
  rw [firstHeld_cons, h, or_iff_left]
  rintro ⟨hnone, -⟩
  exact hnone held ((h held).mpr rfl)

/-- What is held against the others, if nothing is held against the first item. -/
theorem firstHeld_cons_of_forall_not (h : ∀ other, ¬ offends [] first other) :
    FirstHeld offends (first :: rest) offence ↔
      FirstHeld (fun before => offends (first :: before)) rest offence := by
  rw [firstHeld_cons, or_iff_right (h offence), and_iff_right h]

/-- Either nothing is held against any item, or there is a first one. -/
theorem unheld_iff_not_firstHeld :
    Unheld offends items ↔ ∀ offence, ¬ FirstHeld offends items offence := by
  induction items generalizing offends with
  | nil => exact iff_of_true unheld_nil fun _ => not_firstHeld_nil
  | cons first rest ih =>
      rw [unheld_cons, ih]
      constructor
      · rintro ⟨hfirst, hrest⟩ offence h
        rcases firstHeld_cons.mp h with hheld | ⟨-, hheld⟩
        · exact hfirst offence hheld
        · exact hrest offence hheld
      · intro h
        have hfirst : ∀ offence, ¬ offends [] first offence := fun offence hheld =>
          h offence (firstHeld_cons.mpr (Or.inl hheld))
        exact ⟨hfirst, fun offence hheld =>
          h offence (firstHeld_cons.mpr (Or.inr ⟨hfirst, hheld⟩))⟩

end MeshSidecar
