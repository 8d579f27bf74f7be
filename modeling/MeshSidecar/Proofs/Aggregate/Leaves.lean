import MeshSidecar.Aggregate.Leaf

/-!
# The leaves of an aggregate

However deep its adapters are nested, an aggregate lists the services of its leaves from left to
right (`services_eq_flatten`). A leaf is changed where it stands (`leaves_modify`), so that what
holds of all leaves holds of them after a change that keeps it (`forall_mem_modify`).
-/

namespace MeshSidecar

/-- To change an item of two lists put together is to change it in the list that it is from. -/
theorem modify_append {α : Type} (f : α → α) (first second : List α) (position : Nat) :
    (first ++ second).modify position f =
      if position < first.length then first.modify position f ++ second
      else first ++ second.modify (position - first.length) f := by
  induction first generalizing position with
  | nil => rfl
  | cons item rest ih =>
      cases position with
      | zero => rfl
      | succ n =>
          show item :: (rest ++ second).modify n f = _
          rw [ih, List.length_cons, Nat.add_sub_add_right]
          by_cases hlt : n < rest.length
          · rw [if_pos hlt, if_pos (Nat.succ_lt_succ hlt)]
            rfl
          · rw [if_neg hlt, if_neg fun h => hlt (Nat.lt_of_succ_lt_succ h)]
            rfl

/-- A change of one item that keeps something of it keeps that of all items. -/
theorem map_modify {α β : Type} (f : α → α) (g : α → β) (items : List α) (position : Nat)
    (h : ∀ item, items[position]? = some item → g (f item) = g item) :
    (items.modify position f).map g = items.map g := by
  induction items generalizing position with
  | nil => rw [List.modify_nil]
  | cons item rest ih =>
      cases position with
      | zero =>
          show g (f item) :: rest.map g = g item :: rest.map g
          rw [h item rfl]
      | succ n =>
          show g item :: (rest.modify n f).map g = g item :: rest.map g
          rw [ih n h]

/-- What holds of all items and of what becomes of one holds of all items after a change. -/
theorem forall_mem_modify {α : Type} {p : α → Prop} {f : α → α} (hf : ∀ item, p item → p (f item))
    {items : List α} (h : ∀ item ∈ items, p item) (position : Nat) :
    ∀ item ∈ items.modify position f, p item := by
  induction items generalizing position with
  | nil =>
      rw [List.modify_nil]
      exact h
  | cons first rest ih =>
      obtain ⟨hfirst, hrest⟩ := List.forall_mem_cons.mp h
      cases position with
      | zero => exact List.forall_mem_cons.mpr ⟨hf first hfirst, hrest⟩
      | succ n => exact List.forall_mem_cons.mpr ⟨hfirst, ih hrest n⟩

namespace Aggregate

/-- An aggregate lists the services of its leaves. -/
theorem services_eq_flatten {α : Type} [Discovery α] (aggregate : Aggregate α) :
    Discovery.services aggregate = (aggregate.leaves.map Discovery.services).flatten := by
  induction aggregate with
  | empty => rfl
  | leaf platform registry rest ih =>
      show Discovery.services registry ++ Discovery.services rest = _
      rw [ih]
      rfl
  | nested platform inner rest ihinner ihrest =>
      show Discovery.services inner ++ Discovery.services rest = _
      rw [ihinner, ihrest, leaves, List.map_append, List.flatten_append]

/-- To change every leaf is to change it among the leaves. -/
theorem leaves_map {α β : Type} (f : α → β) (aggregate : Aggregate α) :
    (aggregate.map f).leaves = aggregate.leaves.map f := by
  induction aggregate with
  | empty => rfl
  | leaf platform registry rest ih => rw [map, leaves, ih, leaves, List.map_cons]
  | nested platform inner rest ihinner ihrest =>
      rw [map, leaves, ihinner, ihrest, leaves, List.map_append]

/-- To change the leaf at a position is to change it among the leaves. -/
theorem leaves_modify {α : Type} (f : α → α) (aggregate : Aggregate α) (position : Nat) :
    (aggregate.modify f position).leaves = aggregate.leaves.modify position f := by
  induction aggregate generalizing position with
  | empty => rw [modify, leaves, List.modify_nil]
  | leaf platform registry rest ih =>
      cases position with
      | zero => rfl
      | succ n =>
          show registry :: (rest.modify f n).leaves = registry :: rest.leaves.modify n f
          rw [ih]
  | nested platform inner rest ihinner ihrest =>
      rw [modify, leaves, modify_append]
      by_cases hlt : position < inner.leaves.length
      · rw [if_pos hlt, if_pos hlt, leaves, ihinner]
      · rw [if_neg hlt, if_neg hlt, leaves, ihrest]

end Aggregate

end MeshSidecar
