import Mathlib.Data.Finset.SymmDiff
import MeshSidecar.Proofs.Registry.ChangeLog

/-!
# The difference of two catalogs

Two catalogs differ in the services under whose host names they do not hold the same, and in the
instances that only one of them lists. Each of these is told by one notice (`Catalog.Differ`). When
one catalog takes the place of the other, their difference is told and nothing else
(`Changes.mem_notices_between`): a service once, but an instance as often as it is listed
(`Changes.count_notices_between`). So one who listens hears each part of the difference just once
exactly if no instance that only one of the catalogs lists is listed there twice
(`Catalog.tellsDifference_iff`).
-/

namespace MeshSidecar

/-- What two catalogs differ in, as a notice tells it: a service that is new, another one or gone
    under its host name, and an instance that is new or gone. -/
inductive Catalog.Differ (before after : Catalog) : Notice → Prop where
  | serviceAdded {service : Service}
      (hbefore : before.services.get? service.hostname = none)
      (hafter : after.services.get? service.hostname = some service) :
      Differ before after (.serviceChanged service .add)
  | serviceUpdated {old service : Service}
      (hbefore : before.services.get? service.hostname = some old) (hne : old ≠ service)
      (hafter : after.services.get? service.hostname = some service) :
      Differ before after (.serviceChanged service .update)
  | serviceDeleted {service : Service}
      (hbefore : before.services.get? service.hostname = some service)
      (hafter : after.services.get? service.hostname = none) :
      Differ before after (.serviceChanged service .delete)
  | instanceAdded {inst : Instance} (hbefore : inst ∉ before.instances)
      (hafter : inst ∈ after.instances) : Differ before after (.instanceChanged inst .add)
  | instanceDeleted {inst : Instance} (hbefore : inst ∈ before.instances)
      (hafter : inst ∉ after.instances) : Differ before after (.instanceChanged inst .delete)

/-- How many entries of two catalogs a notice tells of: of an instance as many as list it, and of a
    service the one under its host name. -/
def Notice.copies (before after : Catalog) : Notice → Nat
  | .serviceChanged _ _ => 1
  | .instanceChanged inst _ => (before.instances ++ after.instances).count inst

/-- Whether one who listens to each kind of notices a number of times hears exactly the difference
    of two catalogs: each part of it once every time, and nothing else. -/
def Catalog.TellsDifference (before after : Catalog) (times : HandlerKind → Nat)
    (heard : List Notice) : Prop :=
  ∀ notice, (before.Differ after notice → heard.count notice = times notice.kind) ∧
    (¬ before.Differ after notice → notice ∉ heard)

namespace Catalog

variable {before after : Catalog}

theorem differ_service_iff {service : Service} {event : Event} :
    before.Differ after (.serviceChanged service event) ↔
      event.Fits (before.services.get? service.hostname) service ∧
        after.services.get? service.hostname = event.leaves service := by
  constructor
  · intro h
    cases h with
    | serviceAdded hbefore hafter => exact ⟨hbefore, hafter⟩
    | serviceUpdated hbefore hne hafter => exact ⟨⟨_, hbefore, hne⟩, hafter⟩
    | serviceDeleted hbefore hafter => exact ⟨hbefore, hafter⟩
  · rintro ⟨hfits, hafter⟩
    cases event with
    | add => exact .serviceAdded hfits hafter
    | update =>
        obtain ⟨old, hbefore, hne⟩ := hfits
        exact .serviceUpdated hbefore hne hafter
    | delete => exact .serviceDeleted hfits hafter

theorem differ_instance_iff {inst : Instance} {event : Event} :
    before.Differ after (.instanceChanged inst event) ↔
      (event = .add ∧ inst ∉ before.instances ∧ inst ∈ after.instances) ∨
        (event = .delete ∧ inst ∈ before.instances ∧ inst ∉ after.instances) := by
  constructor
  · intro h
    cases h with
    | instanceAdded hbefore hafter => exact Or.inl ⟨rfl, hbefore, hafter⟩
    | instanceDeleted hbefore hafter => exact Or.inr ⟨rfl, hbefore, hafter⟩
  · rintro (⟨rfl, hbefore, hafter⟩ | ⟨rfl, hbefore, hafter⟩)
    · exact .instanceAdded hbefore hafter
    · exact .instanceDeleted hbefore hafter

/-- The instances in which two catalogs differ are those that only one of them lists. -/
theorem mem_symmDiff_iff {inst : Instance} :
    inst ∈ symmDiff before.instances.toFinset after.instances.toFinset ↔
      ∃ event, before.Differ after (.instanceChanged inst event) := by
  rw [Finset.mem_symmDiff, List.mem_toFinset, List.mem_toFinset]
  constructor
  · rintro (⟨hbefore, hafter⟩ | ⟨hafter, hbefore⟩)
    · exact ⟨.delete, .instanceDeleted hbefore hafter⟩
    · exact ⟨.add, .instanceAdded hbefore hafter⟩
  · rintro ⟨event, h⟩
    cases h with
    | instanceAdded hbefore hafter => exact Or.inr ⟨hafter, hbefore⟩
    | instanceDeleted hbefore hafter => exact Or.inl ⟨hbefore, hafter⟩

end Catalog

-- ── What is told of the difference ──────────────────────────────────────────

/-- What stood under a host name and what stands there now tell the event. -/
theorem Event.Fits.unique {known : Option Service} {first second : Service}
    {event event' : Event} (hfirst : event.Fits known first) (hsecond : event'.Fits known second)
    (h : event.leaves first = event'.leaves second) : first = second ∧ event = event' := by
  cases event <;> cases event' <;>
    simp_all [Event.Fits, Event.leaves]

namespace Changes

/-- A service is told of exactly if the tables differ as the event says. -/
theorem ServicesLead.mem_iff {told : List (Service × Event)} {before after : NameTable Service}
    (h : ServicesLead told before after) {service : Service} {event : Event} :
    (service, event) ∈ told ↔
      event.Fits (before.get? service.hostname) service ∧
        after.get? service.hostname = event.leaves service := by
  constructor
  · intro hmem
    exact ⟨h.fits service event hmem, h.stored service event hmem⟩
  · rintro ⟨hfits, hstored⟩
    -- what is not told of stays, but what stands under the host name has changed
    have htold : service.hostname ∈ told.map (·.1.hostname) := by
      by_contra hnot
      exact hfits.ne_leaves (hstored.symm.trans (h.kept _ hnot))
    obtain ⟨⟨other, event'⟩, hmem, hname⟩ := List.mem_map.mp htold
    have hname : other.hostname = service.hostname := hname
    have hother := h.fits other event' hmem
    have hleaves := h.stored other event' hmem
    rw [hname] at hother hleaves
    obtain ⟨rfl, rfl⟩ := hfits.unique hother (hstored.symm.trans hleaves)
    exact hmem

/-- What is kept of a list has an item as often as the list does, or not at all. -/
theorem count_filter_ite {α : Type} [BEq α] [LawfulBEq α] (p : α → Bool) (items : List α)
    (item : α) : (items.filter p).count item = if p item then items.count item else 0 := by
  by_cases hkept : p item = true
  · rw [if_pos hkept, List.count_filter hkept]
  · rw [if_neg hkept, List.count_eq_zero]
    intro hmem
    exact hkept (List.mem_filter.mp hmem).2

theorem count_map_event (instances : List Instance) (inst : Instance) (event event' : Event) :
    (instances.map (·, event)).count (inst, event') =
      if event = event' then instances.count inst else 0 := by
  by_cases heq : event = event'
  · subst heq
    rw [if_pos rfl, List.count_map_of_injective _ _ (Prod.mk_left_injective event)]
  · rw [if_neg heq, List.count_eq_zero]
    simp [heq]

/-- A notice of an instance that only one of two lists has is told as often as it is listed. -/
theorem count_instancesBetween {before after : Catalog} {inst : Instance} {event : Event}
    (h : before.Differ after (.instanceChanged inst event)) :
    (instancesBetween before.instances after.instances).count (inst, event) =
      (before.instances ++ after.instances).count inst := by
  rw [instancesBetween, List.count_append, List.count_append, count_map_event, count_map_event,
    count_filter_ite, count_filter_ite]
  cases h with
  | instanceAdded hbefore hafter => simp [hbefore, List.count_eq_zero.mpr hbefore]
  | instanceDeleted hbefore hafter => simp [hafter, List.count_eq_zero.mpr hafter]

/-- The notices of a change tell of each service and of each instance as often as it does. -/
theorem count_notices (changes : Changes) (notice : Notice) :
    changes.notices.count notice =
      match notice with
      | .serviceChanged service event => changes.services.count (service, event)
      | .instanceChanged inst event => changes.instances.count (inst, event) := by
  have hservice : (fun change : Service × Event =>
      Notice.serviceChanged change.1 change.2).Injective := by
    intro first second h
    exact Prod.ext (Notice.serviceChanged.inj h).1 (Notice.serviceChanged.inj h).2
  have hinstance : (fun change : Instance × Event =>
      Notice.instanceChanged change.1 change.2).Injective := by
    intro first second h
    exact Prod.ext (Notice.instanceChanged.inj h).1 (Notice.instanceChanged.inj h).2
  rw [notices, List.count_append, List.count_append]
  cases notice with
  | serviceChanged service event =>
      have hnone : ∀ instances : List (Instance × Event),
          (instances.map fun change => Notice.instanceChanged change.1 change.2).count
            (.serviceChanged service event) = 0 := by
        intro instances
        exact List.count_eq_zero.mpr (by simp)
      rw [hnone, hnone, Nat.zero_add, Nat.add_zero]
      exact List.count_map_of_injective changes.services _ hservice (service, event)
  | instanceChanged inst event =>
      have hnone : (changes.services.map fun change =>
          Notice.serviceChanged change.1 change.2).count (.instanceChanged inst event) = 0 :=
        List.count_eq_zero.mpr (by simp)
      have htell := fun instances : List (Instance × Event) =>
        List.count_map_of_injective instances _ hinstance (inst, event)
      rw [hnone, Nat.add_zero]
      refine (congrArg₂ (· + ·) (htell _) (htell _)).trans ?_
      -- a change is told in one of the two halves
      rw [count_filter_ite, count_filter_ite]
      by_cases hdelete : event = .delete <;> simp [hdelete]

variable {before after : Catalog} (hbefore : before.Keyed) (hafter : after.Keyed)
include hbefore hafter

/-- When one catalog takes the place of another, exactly what they differ in is told of. -/
theorem mem_notices_between {notice : Notice} :
    notice ∈ ((Mutation.replace after).changes before).notices ↔ before.Differ after notice := by
  cases notice with
  | serviceChanged service event =>
      rw [serviceChanged_mem_notices, Catalog.differ_service_iff]
      exact (ServicesLead.between hbefore hafter).mem_iff
  | instanceChanged inst event =>
      rw [instanceChanged_mem_notices, Catalog.differ_instance_iff]
      exact mem_instancesBetween

/-- It is told of as often as there are copies of it. -/
theorem count_notices_between {notice : Notice} (h : before.Differ after notice) :
    ((Mutation.replace after).changes before).notices.count notice =
      notice.copies before after := by
  rw [count_notices]
  cases notice with
  | serviceChanged service event =>
      have hlead := ServicesLead.between hbefore hafter
      have hmem := hlead.mem_iff.mpr (Catalog.differ_service_iff.mp h)
      exact List.count_eq_one_of_mem hlead.distinct.of_map hmem
  | instanceChanged inst event => exact count_instancesBetween h

end Changes

-- ── What handlers hear ──────────────────────────────────────────────────────

theorem count_flatMap_replicate {α : Type} [BEq α] [LawfulBEq α] (times : α → Nat)
    (items : List α) (item : α) :
    (items.flatMap fun item => List.replicate (times item) item).count item =
      times item * items.count item := by
  induction items with
  | nil => rfl
  | cons other rest ih =>
      rw [List.flatMap_cons, List.count_append, ih, List.count_replicate, List.count_cons]
      by_cases heq : other = item
      · rw [heq, if_pos (beq_self_eq_true item), if_pos (beq_self_eq_true item), Nat.mul_add,
          Nat.mul_one, Nat.add_comm]
      · rw [if_neg (by simpa using heq), if_neg (by simpa using heq), Nat.zero_add, Nat.add_zero]

/-- A handler hears a notice as often as it is told, times the copies of the handler. -/
theorem Registry.count_received_deliver (registry : Registry) (handler : Handler)
    (notices : List Notice) (notice : Notice) :
    (received handler (registry.deliver notices)).count notice =
      (registry.handlersOf notice).count handler * notices.count notice := by
  rw [received_deliver]
  exact count_flatMap_replicate _ notices notice

/-- If each part of the difference is heard as often as there are copies of it, and nothing else is,
    then this is exactly the difference for one who listens to no instances, and for others if no
    instance that only one of the catalogs lists is listed there twice. -/
theorem Catalog.tellsDifference_iff {before after : Catalog} {times : HandlerKind → Nat}
    {heard : List Notice}
    (hcount : ∀ notice, before.Differ after notice →
      heard.count notice = times notice.kind * notice.copies before after)
    (honly : ∀ notice ∈ heard, before.Differ after notice) :
    before.TellsDifference after times heard ↔
      times .instances = 0 ∨
        ∀ inst ∈ symmDiff before.instances.toFinset after.instances.toFinset,
          (before.instances ++ after.instances).count inst = 1 := by
  constructor
  · intro h
    refine or_iff_not_imp_left.mpr fun hlistens inst hmem => ?_
    obtain ⟨event, hdiffer⟩ := Catalog.mem_symmDiff_iff.mp hmem
    have honce := (h _).1 hdiffer
    rw [hcount _ hdiffer] at honce
    exact Nat.eq_of_mul_eq_mul_left (Nat.pos_of_ne_zero hlistens)
      (honce.trans (Nat.mul_one _).symm)
  · intro h notice
    refine ⟨fun hdiffer => ?_, fun hnot hheard => hnot (honly notice hheard)⟩
    rw [hcount notice hdiffer]
    cases notice with
    | serviceChanged service event => exact Nat.mul_one _
    | instanceChanged inst event =>
        rcases h with hdeaf | hsingle
        · show times .instances * _ = times .instances
          rw [hdeaf, Nat.zero_mul]
        · have hcopies : (Notice.instanceChanged inst event).copies before after = 1 :=
            hsingle inst (Catalog.mem_symmDiff_iff.mpr ⟨event, hdiffer⟩)
          rw [hcopies, Nat.mul_one]

end MeshSidecar
