import Mathlib.Algebra.BigOperators.Group.Finset.Basic
import Mathlib.Algebra.Order.BigOperators.Group.Finset
import MeshSidecar.Proofs.Registry.Difference

/-!
# How often instances are told of

An instance that is listed once comes and goes: it is told to be added only while it is not held,
and to be deleted only while it is. But nothing keeps a catalog from listing an instance twice. Such
an instance is told to be deleted twice when its service is removed, and to be deleted or added
twice when the catalog is replaced, though it is told once when it is added or removed alone. So the
events of an instance alternate exactly as long as no mutation tells of it more than once
(`Mutation.alternates_changes`, `Registry.alternates_told`), and this is so for all instances that
are never listed twice (`Registry.instances_told_once`). In the same way the number of changes
between two catalogs counts an instance as often as it is listed (`Changes.exists_count_between`).
-/

namespace MeshSidecar

-- ── Events of one instance ──────────────────────────────────────────────────

/-- The event of an instance that a notice tells. -/
def Notice.eventOf? (inst : Instance) : Notice → Option Event
  | .instanceChanged other event => if other = inst then some event else none
  | .serviceChanged _ _ => none

/-- The events of an instance that notices tell, in order. -/
def eventsOf (inst : Instance) (told : List Notice) : List Event :=
  told.filterMap (Notice.eventOf? inst)

/-- Whether events add what is not held and delete what is held, in turn. -/
def Alternates : Bool → List Event → Prop
  | _, [] => True
  | held, event :: rest => event = (if held then .delete else .add) ∧ Alternates (!held) rest

/-- Whether an event of an instance fits what is known: what is added is not known, and what is
    deleted is. -/
def Notice.Fits (mirror : Mirror) (inst : Instance) (notice : Notice) : Prop :=
  ∀ event, notice = .instanceChanged inst event →
    (event = .add ∧ inst ∉ mirror.instances) ∨ (event = .delete ∧ inst ∈ mirror.instances)

/-- Whether each event of an instance fits what a listener knows by then. -/
def Mirror.TellsFit (mirror : Mirror) (inst : Instance) (told : List Notice) : Prop :=
  ∀ before notice after, told = before ++ notice :: after → notice.Fits (mirror.follow before) inst

theorem eventsOf_append (inst : Instance) (first second : List Notice) :
    eventsOf inst (first ++ second) = eventsOf inst first ++ eventsOf inst second :=
  List.filterMap_append

theorem eventsOf_cons_self (inst : Instance) (event : Event) (rest : List Notice) :
    eventsOf inst (.instanceChanged inst event :: rest) = event :: eventsOf inst rest :=
  List.filterMap_cons_some (if_pos rfl)

theorem eventsOf_cons_of_ne {inst : Instance} {notice : Notice}
    (h : ∀ event, notice ≠ .instanceChanged inst event) (rest : List Notice) :
    eventsOf inst (notice :: rest) = eventsOf inst rest := by
  refine List.filterMap_cons_none ?_
  cases notice with
  | serviceChanged service event => rfl
  | instanceChanged other event => 
      refine if_neg fun heq => h event ?_
      rw [heq]

/-- An event of an instance is told as often as its notice is. -/
theorem count_eventsOf (inst : Instance) (event : Event) (told : List Notice) :
    (eventsOf inst told).count event = told.count (.instanceChanged inst event) := by
  induction told with
  | nil => rfl
  | cons notice rest ih =>
      rw [List.count_cons]
      by_cases htold : ∃ other, notice = .instanceChanged inst other
      · obtain ⟨other, rfl⟩ := htold
        rw [eventsOf_cons_self, List.count_cons, ih]
        simp
      · have hne : ∀ other, notice ≠ .instanceChanged inst other :=
          fun other heq => htold ⟨other, heq⟩
        rw [eventsOf_cons_of_ne hne, ih, if_neg (by simpa using hne event)]
        rfl

theorem mem_eventsOf {inst : Instance} {event : Event} {told : List Notice} :
    event ∈ eventsOf inst told ↔ .instanceChanged inst event ∈ told := by
  rw [← List.count_pos_iff, count_eventsOf, List.count_pos_iff]

theorem Alternates.isChain {held : Bool} {events : List Event} (h : Alternates held events) :
    events.IsChain (· ≠ ·) := by
  induction events generalizing held with
  | nil => exact .nil
  | cons event rest ih =>
      obtain ⟨hevent, hrest⟩ := h
      cases rest with
      | nil => exact .singleton event
      | cons next rest =>
          refine .cons_cons ?_ (ih hrest)
          rw [hevent, hrest.1]
          cases held <;> decide

/-- What is told more than once in a row does not alternate. -/
theorem alternates_replicate {held : Bool} {event : Event}
    (hevent : event = if held then .delete else .add) {times : Nat} (htimes : times ≠ 0)
    (rest : List Event) :
    Alternates held (List.replicate times event ++ rest) ↔
      times ≤ 1 ∧ Alternates (!held) rest := by
  match times with
  | 0 => exact absurd rfl htimes
  | 1 => exact ⟨fun h => ⟨Nat.le_refl 1, h.2⟩, fun h => ⟨hevent, h.2⟩⟩
  | times + 2 =>
      refine iff_of_false (fun h => ?_) fun h => absurd h.1 (by omega)
      have hagain := h.2.1
      rw [hevent] at hagain
      revert hagain
      cases held <;> decide

/-- Every event of an instance fits exactly if its events alternate. -/
theorem Mirror.tellsFit_iff {mirror : Mirror} {inst : Instance} {told : List Notice} :
    mirror.TellsFit inst told ↔
      Alternates (decide (inst ∈ mirror.instances)) (eventsOf inst told) := by
  induction told generalizing mirror with
  | nil => exact iff_of_true (forall_split_nil _) trivial
  | cons notice rest ih =>
      have hsplit : mirror.TellsFit inst (notice :: rest) ↔
          notice.Fits mirror inst ∧ (mirror.apply notice).TellsFit inst rest :=
        forall_split_cons
      rw [hsplit, ih]
      by_cases htold : ∃ event, notice = .instanceChanged inst event
      · obtain ⟨event, rfl⟩ := htold
        have hfits : (Notice.instanceChanged inst event).Fits mirror inst ↔
            event = if decide (inst ∈ mirror.instances) then .delete else .add := by
          by_cases hmem : inst ∈ mirror.instances <;> simp [Notice.Fits, hmem]
        rw [eventsOf_cons_self, Alternates, hfits]
        refine and_congr_right fun hevent => ?_
        have hnow : decide (inst ∈ (mirror.apply (.instanceChanged inst event)).instances)
            = !decide (inst ∈ mirror.instances) := by
          rw [hevent]
          by_cases hmem : inst ∈ mirror.instances <;> simp [hmem, mem_apply_self]
        rw [hnow]
      · have hne : ∀ event, notice ≠ .instanceChanged inst event :=
          fun event heq => htold ⟨event, heq⟩
        have hfits : notice.Fits mirror inst := fun event heq => absurd heq (hne event)
        rw [and_iff_right hfits, eventsOf_cons_of_ne hne,
          decide_eq_decide.mpr (mem_apply_of_ne hne)]

-- ── Mutations ───────────────────────────────────────────────────────────────

/-- If only one event is told of an instance, it is told as often as the changes have it. -/
theorem Changes.eventsOf_notices {changes : Changes} {inst : Instance} {event : Event}
    (h : ∀ other, (inst, other) ∈ changes.instances → other = event) :
    eventsOf inst changes.notices =
      List.replicate (changes.instances.count (inst, event)) event := by
  have hall : ∀ other ∈ eventsOf inst changes.notices, event = other := by
    intro other hmem
    exact (h other (instanceChanged_mem_notices.mp (mem_eventsOf.mp hmem))).symm
  refine List.eq_replicate_iff.mpr ⟨?_, fun other hmem => (hall other hmem).symm⟩
  rw [← List.count_eq_length.mpr hall, count_eventsOf, count_notices]

/-- What does not change is not told of. -/
theorem Changes.eventsOf_notices_eq_nil {changes : Changes} {inst : Instance}
    (h : ∀ event, (inst, event) ∉ changes.instances) : eventsOf inst changes.notices = [] := by
  refine List.eq_nil_iff_forall_not_mem.mpr fun event hmem => h event ?_
  exact instanceChanged_mem_notices.mp (mem_eventsOf.mp hmem)

namespace Mutation

/-- How often an instance is listed in a catalog that replaces another one. -/
def copies (inst : Instance) : Mutation → Nat
  | .replace next => next.instances.count inst
  | .addService _ | .removeService _ | .addInstance _ | .removeInstance _
  | .setManagementPorts _ _ | .setServiceAccounts _ _ => 0

/-- Whether a mutation tells of an instance at most once. -/
def TellsOnce (inst : Instance) (mutation : Mutation) (catalog : Catalog) : Prop :=
  ∀ event, (mutation.changes catalog).instances.count (inst, event) ≤ 1

/-- Of an instance that is new or gone only this is told. -/
theorem mem_changes_of_moved {mutation : Mutation} {catalog : Catalog} {inst : Instance}
    (h : ¬ (inst ∈ catalog.instances ↔ inst ∈ (mutation.apply catalog).instances))
    (event : Event) :
    (inst, event) ∈ (mutation.changes catalog).instances ↔
      event = if decide (inst ∈ catalog.instances) then .delete else .add := by
  rw [mem_changes_instances]
  by_cases hbefore : inst ∈ catalog.instances
  · have hafter : inst ∉ (mutation.apply catalog).instances :=
      fun hafter => h (iff_of_true hbefore hafter)
    simp [hbefore, hafter]
  · have hafter : inst ∈ (mutation.apply catalog).instances :=
      Decidable.byContradiction fun hafter => h (iff_of_false hbefore hafter)
    simp [hbefore, hafter]

/-- The events of an instance alternate over a mutation if it is told of no more than once. -/
theorem alternates_changes (mutation : Mutation) (catalog : Catalog) (inst : Instance)
    (rest : List Event) :
    Alternates (decide (inst ∈ catalog.instances))
        (eventsOf inst (mutation.changes catalog).notices ++ rest) ↔
      mutation.TellsOnce inst catalog ∧
        Alternates (decide (inst ∈ (mutation.apply catalog).instances)) rest := by
  by_cases hsame : inst ∈ catalog.instances ↔ inst ∈ (mutation.apply catalog).instances
  · have hnone : ∀ event, (inst, event) ∉ (mutation.changes catalog).instances := by
      intro event
      rw [mem_changes_instances, hsame]
      tauto
    rw [Changes.eventsOf_notices_eq_nil hnone, List.nil_append, decide_eq_decide.mpr hsame]
    refine (and_iff_right fun event => ?_).symm
    rw [List.count_eq_zero.mpr (hnone event)]
    exact Nat.zero_le 1
  · -- one event is told, as often as the instance is listed
    have honly := mem_changes_of_moved hsame
    generalize hevent :
      (if decide (inst ∈ catalog.instances) then Event.delete else Event.add) = event at honly
    have htimes : (mutation.changes catalog).instances.count (inst, event) ≠ 0 :=
      Nat.ne_of_gt (List.count_pos_iff.mpr ((honly event).mpr rfl))
    have hnow : decide (inst ∈ (mutation.apply catalog).instances)
        = !decide (inst ∈ catalog.instances) := by
      rw [← decide_not, decide_eq_decide]
      exact (not_iff.mp hsame).symm
    rw [Changes.eventsOf_notices fun other => (honly other).mp,
      alternates_replicate hevent.symm htimes, hnow]
    refine and_congr_left fun _ => ⟨fun hle other => ?_, fun h => h event⟩
    by_cases heq : other = event
    · rwa [heq]
    · rw [List.count_eq_zero.mpr fun htold => heq ((honly other).mp htold)]
      exact Nat.zero_le 1

/-- An instance that is not listed twice is not told of twice. -/
theorem tellsOnce_of_listed_once {mutation : Mutation} {catalog : Catalog} {inst : Instance}
    (hcatalog : catalog.instances.count inst ≤ 1) (hmutation : mutation.copies inst ≤ 1) :
    mutation.TellsOnce inst catalog := by
  intro event
  have hone : ∀ change : Instance × Event, [change].count (inst, event) ≤ 1 := by
    intro change
    exact List.count_le_length
  cases mutation with
  | addService service => exact Nat.zero_le 1
  | removeService hostname =>
      rw [changes]
      split
      · exact Nat.zero_le 1
      · rw [Changes.count_map_event]
        split
        · exact Nat.le_trans (List.filter_sublist.count_le inst) hcatalog
        · exact Nat.zero_le 1
  | addInstance added =>
      rw [changes]
      split
      · exact Nat.zero_le 1
      · exact hone _
  | removeInstance removed =>
      rw [changes]
      split
      · exact hone _
      · exact Nat.zero_le 1
  | setManagementPorts address ports => exact Nat.zero_le 1
  | setServiceAccounts hostname accounts => exact Nat.zero_le 1
  | replace next =>
      have hnext : next.instances.count inst ≤ 1 := hmutation
      by_cases hdiffer : catalog.Differ next (.instanceChanged inst event)
      · refine Nat.le_trans (Nat.le_of_eq (Changes.count_instancesBetween hdiffer)) ?_
        rw [List.count_append]
        -- only one of the catalogs lists it
        cases hdiffer with
        | instanceAdded hbefore hafter => rwa [List.count_eq_zero.mpr hbefore, Nat.zero_add]
        | instanceDeleted hbefore hafter => rwa [List.count_eq_zero.mpr hafter, Nat.add_zero]
      · have huntold : (inst, event) ∉ ((Mutation.replace next).changes catalog).instances := by
          rw [mem_changes_instances]
          exact fun htold => hdiffer (Catalog.differ_instance_iff.mpr htold)
        rw [List.count_eq_zero.mpr huntold]
        exact Nat.zero_le 1

/-- An instance that was not listed twice is not listed twice afterwards. -/
theorem count_apply_le {mutation : Mutation} {catalog : Catalog} {inst : Instance}
    (hcatalog : catalog.instances.count inst ≤ 1) (hmutation : mutation.copies inst ≤ 1) :
    (mutation.apply catalog).instances.count inst ≤ 1 := by
  cases mutation with
  | addService service => exact hcatalog
  | removeService hostname =>
      rw [apply]
      split
      · exact hcatalog
      · exact Nat.le_trans (List.filter_sublist.count_le inst) hcatalog
  | addInstance added =>
      rw [apply]
      by_cases hlisted : catalog.instances.contains added = true
      · rwa [if_pos hlisted]
      · rw [if_neg hlisted]
        show (catalog.instances ++ [added]).count inst ≤ 1
        rw [List.count_append]
        by_cases hsame : added = inst
        · subst hsame
          have hnew : added ∉ catalog.instances := by simpa using hlisted
          rw [List.count_eq_zero.mpr hnew, Nat.zero_add]
          exact List.count_le_length
        · rwa [List.count_singleton, if_neg (by simpa using hsame)]
  | removeInstance removed => exact Nat.le_trans (List.filter_sublist.count_le inst) hcatalog
  | setManagementPorts address ports => exact hcatalog
  | setServiceAccounts hostname accounts => exact hcatalog
  | replace next => exact hmutation

end Mutation

-- ── The number of changes ───────────────────────────────────────────────────

namespace Changes

/-- There is a change for every host name under which the tables differ. -/
theorem exists_hosts (prior next : NameTable Service) :
    ∃ hosts : Finset String, (∀ hostname, hostname ∈ hosts ↔
        prior.get? hostname ≠ next.get? hostname) ∧
      (servicesBetween prior next).length = hosts.card := by
  -- the names of the entries that are stored anew, and of those that are gone
  let stored := (next.entries.filter fun entry =>
    (ofStored prior entry.1 entry.2).isSome).map (·.1)
  let gone := (prior.entries.filter fun entry => (next.get? entry.1).isNone).map (·.1)
  have hstored : ∀ hostname, hostname ∈ stored ↔
      ∃ service, next.get? hostname = some service ∧ prior.get? hostname ≠ some service := by
    intro hostname
    rw [NameTable.mem_names_filter]
    refine exists_congr fun service => and_congr_right fun _ => ?_
    rw [Option.isSome_iff_ne_none, ne_eq, ofStored_eq_none_iff]
  have hgone : ∀ hostname, hostname ∈ gone ↔
      ∃ service, prior.get? hostname = some service ∧ next.get? hostname = Option.none := by
    intro hostname
    rw [NameTable.mem_names_filter]
    refine exists_congr fun service => and_congr_right fun _ => ?_
    rw [Option.isNone_iff_eq_none]
  have hnodup : (stored ++ gone).Nodup := by
    refine List.nodup_append.mpr ⟨NameTable.names_filter_nodup _ _,
      NameTable.names_filter_nodup _ _, ?_⟩
    rintro hostname hnew other hold rfl
    obtain ⟨service, hnext, -⟩ := (hstored hostname).mp hnew
    obtain ⟨-, -, hnone⟩ := (hgone hostname).mp hold
    exact nomatch hnext.symm.trans hnone
  refine ⟨(stored ++ gone).toFinset, fun hostname => ?_, ?_⟩
  · rw [List.mem_toFinset, List.mem_append, hstored, hgone]
    cases next.get? hostname <;> cases prior.get? hostname <;> simp
  · rw [List.toFinset_card_of_nodup hnodup, servicesBetween, List.length_append,
      List.length_append, List.length_map, List.length_map, List.length_filterMap_eq_countP,
      List.length_filterMap_eq_countP, List.countP_eq_length_filter, List.countP_eq_length_filter]
    congr 3
    funext entry
    cases hnext : next.get? entry.1 <;> simp [hnext]

/-- There is a change for every time that an instance is listed on one side only. -/
theorem length_instancesBetween (prior next : List Instance) :
    (instancesBetween prior next).length =
      ∑ inst ∈ symmDiff prior.toFinset next.toFinset, (prior ++ next).count inst := by
  let kept := prior.filter (fun inst => !next.contains inst) ++
    next.filter (fun inst => !prior.contains inst)
  have hkept : kept.toFinset = symmDiff prior.toFinset next.toFinset := by
    ext inst
    simp [kept, Finset.mem_symmDiff]
  have hlength : (instancesBetween prior next).length = kept.length := by
    rw [instancesBetween, List.length_append, List.length_map, List.length_map,
      List.length_append]
  rw [hlength, ← List.sum_toFinset_count_eq_length, hkept]
  refine Finset.sum_congr rfl fun inst hmem => ?_
  rw [List.count_append, List.count_append, count_filter_ite, count_filter_ite]
  rcases Finset.mem_symmDiff.mp hmem with ⟨hin, hout⟩ | ⟨hin, hout⟩
  · rw [List.mem_toFinset] at hin hout
    simp [hin, hout, List.count_eq_zero.mpr hout]
  · rw [List.mem_toFinset] at hin hout
    simp [hin, hout, List.count_eq_zero.mpr hout]

/-- The number of changes between two catalogs: the host names under which they differ, and for
    every instance that is on one side only as many as there are copies of it. -/
theorem exists_count_between (prior next : Catalog) :
    ∃ hosts : Finset String, (∀ hostname, hostname ∈ hosts ↔
        prior.services.get? hostname ≠ next.services.get? hostname) ∧
      (between prior next).count = hosts.card +
        ∑ inst ∈ symmDiff prior.instances.toFinset next.instances.toFinset,
          (prior.instances ++ next.instances).count inst := by
  obtain ⟨hosts, hmem, hlength⟩ := exists_hosts prior.services next.services
  refine ⟨hosts, hmem, ?_⟩
  rw [count, between, hlength, length_instancesBetween]

end Changes

/-- What is there once each is counted once, and nothing else is. -/
theorem sum_count_eq_card_iff {prior next : List Instance} :
    ∑ inst ∈ symmDiff prior.toFinset next.toFinset, (prior ++ next).count inst =
        (symmDiff prior.toFinset next.toFinset).card ↔
      ∀ inst ∈ symmDiff prior.toFinset next.toFinset, (prior ++ next).count inst = 1 := by
  have hlisted : ∀ inst ∈ symmDiff prior.toFinset next.toFinset,
      1 ≤ (prior ++ next).count inst := by
    intro inst hmem
    refine List.count_pos_iff.mpr (List.mem_append.mpr ?_)
    rcases Finset.mem_symmDiff.mp hmem with ⟨hin, -⟩ | ⟨hin, -⟩
    · exact Or.inl (List.mem_toFinset.mp hin)
    · exact Or.inr (List.mem_toFinset.mp hin)
  rw [Finset.card_eq_sum_ones, eq_comm, Finset.sum_eq_sum_iff_of_le hlisted]
  exact forall₂_congr fun inst _ => eq_comm

-- ── Histories ───────────────────────────────────────────────────────────────

namespace Registry

/-- Whether every mutation that is made in turn tells of an instance at most once. -/
def TellsOnce (registry : Registry) (inst : Instance) (mutations : List Mutation) : Prop :=
  ∀ before mutation after, mutations = before ++ mutation :: after →
    mutation.TellsOnce inst (registry.mutateAll before).catalog

theorem tellsOnce_nil (registry : Registry) (inst : Instance) : registry.TellsOnce inst [] :=
  forall_split_nil _

theorem tellsOnce_cons {registry : Registry} {inst : Instance} {mutation : Mutation}
    {rest : List Mutation} :
    registry.TellsOnce inst (mutation :: rest) ↔
      mutation.TellsOnce inst registry.catalog ∧ (registry.mutate mutation).TellsOnce inst rest :=
  forall_split_cons (p := fun before (mutation : Mutation) =>
    mutation.TellsOnce inst (registry.mutateAll before).catalog)

/-- Over many mutations the events of an instance alternate as long as each of them tells of it no
    more than once. -/
theorem alternates_told (registry : Registry) (mutations : List Mutation) (inst : Instance) :
    Alternates (decide (inst ∈ registry.catalog.instances))
        (eventsOf inst (registry.told mutations)) ↔
      registry.TellsOnce inst mutations := by
  induction mutations generalizing registry with
  | nil =>
      exact iff_of_true trivial (registry.tellsOnce_nil inst)
  | cons mutation rest ih =>
      have hnext : Alternates (decide (inst ∈ (mutation.apply registry.catalog).instances))
          (eventsOf inst ((registry.mutate mutation).told rest)) ↔ _ :=
        ih (registry.mutate mutation)
      rw [told, eventsOf_append, Mutation.alternates_changes, hnext, tellsOnce_cons]

/-- A handler that listens to instances once hears their events as they are told. -/
theorem eventsOf_received {catalog : Catalog} {handlers : List (HandlerKind × Handler)}
    {handler : Handler} (honce : handlers.count (.instances, handler) = 1) (inst : Instance)
    (notices : List Notice) :
    eventsOf inst (received handler ((listening catalog handlers).deliver notices)) =
      eventsOf inst notices := by
  rw [received_deliver]
  simp only [count_handlersOf_listening]
  induction notices with
  | nil => rfl
  | cons notice rest ih =>
      rw [List.flatMap_cons, eventsOf_append, ih]
      by_cases htold : ∃ event, notice = .instanceChanged inst event
      · obtain ⟨event, rfl⟩ := htold
        have hcopies : handlers.count ((Notice.instanceChanged inst event).kind, handler) = 1 :=
          honce
        rw [hcopies, eventsOf_cons_self]
        exact congrArg (· ++ _) (eventsOf_cons_self inst event [])
      · have hne : ∀ event, notice ≠ .instanceChanged inst event :=
          fun event heq => htold ⟨event, heq⟩
        have hnone : eventsOf inst
            (List.replicate (handlers.count (notice.kind, handler)) notice) = [] := by
          refine List.eq_nil_iff_forall_not_mem.mpr fun event hmem => hne event ?_
          exact (List.eq_of_mem_replicate (mem_eventsOf.mp hmem)).symm
        rw [hnone, eventsOf_cons_of_ne hne, List.nil_append]

/-- Of an instance that is never listed twice no mutation tells twice. -/
theorem tellsOnce_of_listed_once {registry : Registry} {mutations : List Mutation}
    {inst : Instance} (hcatalog : registry.catalog.instances.count inst ≤ 1)
    (hmutations : ∀ mutation ∈ mutations, mutation.copies inst ≤ 1) :
    registry.TellsOnce inst mutations := by
  induction mutations generalizing registry with
  | nil => exact registry.tellsOnce_nil inst
  | cons mutation rest ih =>
      obtain ⟨hfirst, hrest⟩ := List.forall_mem_cons.mp hmutations
      have hnext : (registry.mutate mutation).catalog.instances.count inst ≤ 1 :=
        Mutation.count_apply_le hcatalog hfirst
      exact tellsOnce_cons.mpr ⟨Mutation.tellsOnce_of_listed_once hcatalog hfirst, ih hnext hrest⟩

/-- A handler that listens to instances once hears of each that it comes only while it is not held
    and goes only while it is, exactly as long as no mutation tells of it more than once. So it is
    for every instance that is never listed twice, and its events alternate. A catalog that replaces
    another one makes a change for every host name under which they differ, and for every instance
    that only one of them has as many as it is listed there, which is one change for each exactly if
    no such instance is listed twice. -/
theorem instances_told_once (catalog : Catalog) {handlers : List (HandlerKind × Handler)}
    {handler : Handler} (honce : handlers.count (.instances, handler) = 1)
    (mutations : List Mutation) :
    let registry := listening catalog handlers
    let heard := received handler (registry.allDeliveries mutations)
    (∀ inst, (Mirror.ofCatalog catalog).TellsFit inst heard ↔ registry.TellsOnce inst mutations) ∧
    (∀ inst, catalog.instances.count inst ≤ 1 →
      (∀ mutation ∈ mutations, mutation.copies inst ≤ 1) →
      (Mirror.ofCatalog catalog).TellsFit inst heard ∧ (eventsOf inst heard).IsChain (· ≠ ·)) ∧
    ∀ before next after, mutations = before ++ .replace next :: after →
      ∀ prior, (registry.mutateAll before).catalog = prior →
      ∃ hosts : Finset String, (∀ hostname, hostname ∈ hosts ↔
          prior.services.get? hostname ≠ next.services.get? hostname) ∧
        (Mutation.replace next).reply prior = .count (hosts.card +
          ∑ inst ∈ symmDiff prior.instances.toFinset next.instances.toFinset,
            (prior.instances ++ next.instances).count inst) ∧
        ((Mutation.replace next).reply prior = .count (hosts.card +
            (symmDiff prior.instances.toFinset next.instances.toFinset).card) ↔
          ∀ inst ∈ symmDiff prior.instances.toFinset next.instances.toFinset,
            (prior.instances ++ next.instances).count inst = 1) := by
  intro registry heard
  have hevents : ∀ inst, eventsOf inst heard = eventsOf inst (registry.told mutations) := by
    intro inst
    show eventsOf inst (received handler (registry.allDeliveries mutations)) = _
    rw [allDeliveries_eq, eventsOf_received honce]
  have hexact : ∀ inst, (Mirror.ofCatalog catalog).TellsFit inst heard ↔
      registry.TellsOnce inst mutations := by
    intro inst
    have hcatalog : registry.catalog = catalog := catalog_listening catalog handlers
    rw [← alternates_told, hcatalog, Mirror.tellsFit_iff, hevents, Mirror.ofCatalog]
    simp only [List.mem_toFinset]
  refine ⟨hexact, ?_, ?_⟩
  · intro inst hcatalog hmutations
    have hlisted : registry.catalog.instances.count inst ≤ 1 := by
      rwa [show registry.catalog = catalog from catalog_listening catalog handlers]
    have hfits := (hexact inst).mpr (tellsOnce_of_listed_once hlisted hmutations)
    exact ⟨hfits, (Mirror.tellsFit_iff.mp hfits).isChain⟩
  · rintro before next after - prior -
    obtain ⟨hosts, hmem, hcount⟩ := Changes.exists_count_between prior next
    have hreply : (Mutation.replace next).reply prior = _ := congrArg Reply.count hcount
    refine ⟨hosts, hmem, hreply, ?_⟩
    rw [hreply, Reply.count.injEq, Nat.add_left_cancel_iff, sum_count_eq_card_iff]

/-- An instance is put in again, removed with its service, and put in anew. -/
def returning : List Mutation :=
  [.addInstance firstReviews, .removeService "reviews", .addInstance firstReviews]

/-- It is deleted once and added once. -/
theorem returning_told_once :
    let heard := received 7 ((listening ((Catalog.empty.withService reviews).withInstance
      firstReviews) [(.instances, 7)]).allDeliveries returning)
    eventsOf firstReviews heard = [.delete, .add] ∧
      (eventsOf firstReviews heard).IsChain (· ≠ ·) := by
  have honce := instances_told_once ((Catalog.empty.withService reviews).withInstance firstReviews)
    (by decide : [(HandlerKind.instances, 7)].count (.instances, 7) = 1) returning
  refine ⟨by decide +kernel, (honce.2.1 firstReviews (by decide +kernel) ?_).2⟩
  simp only [returning, List.forall_mem_cons]
  exact ⟨Nat.zero_le 1, Nat.zero_le 1, Nat.zero_le 1, nofun⟩

/-- When nothing replaces a catalog that lists an instance twice, the instance is told to be deleted
    although it is not held any more, and three changes are counted where one service and one
    instance are gone. -/
theorem listedTwice_told_twice :
    let heard := received 7 ((listening listedTwice [(.instances, 7)]).allDeliveries [.replace ∅])
    heard = [.instanceChanged firstReviews .delete, .instanceChanged firstReviews .delete] ∧
      ¬ (Mirror.ofCatalog listedTwice).TellsFit firstReviews heard ∧
      ¬ (eventsOf firstReviews heard).IsChain (· ≠ ·) ∧
      (Mutation.replace ∅).reply listedTwice = .count 3 ∧
      listedTwice.services.entries.map (·.1) = ["reviews"] ∧
      symmDiff listedTwice.instances.toFinset (∅ : Catalog).instances.toFinset
        = {firstReviews} := by
  have hheard : received 7 ((listening listedTwice [(.instances, 7)]).allDeliveries
      [.replace ∅]) =
        [.instanceChanged firstReviews .delete, .instanceChanged firstReviews .delete] := by
    decide +kernel
  refine ⟨hheard, ?_, ?_, ?_, ?_, ?_⟩
  · rw [Mirror.tellsFit_iff, hheard]
    exact fun h => absurd h.2.1 (by decide +kernel)
  · rw [hheard]
    intro h
    exact absurd (List.isChain_cons_cons.mp h).1 (by decide)
  · decide +kernel
  · decide +kernel
  · decide +kernel

end Registry

end MeshSidecar
