import Mathlib.Data.Finset.Dedup
import Mathlib.Data.Finset.Insert
import Mathlib.Data.Finset.Erase
import Mathlib.Data.List.Induction
import MeshSidecar.Proofs.Catalog.WellFormed
import MeshSidecar.Proofs.Registry.Changes

/-!
# What a listener knows

A `Mirror` is what a listener knows who keeps the services by host name and the instances as a
set, and who follows the notices: what is added or updated is stored, what is deleted is removed.
`get?_follow_of_told`, `get?_follow_of_untold` and `mem_follow_iff` say what the notices make of
one host name and of one instance, in whatever order they came.

The changes of a mutation `Lead` from the catalog before it to the catalog after it
(`Mutation.leads`): they tell of no host name twice, each event fits what stood under the host
name, and what is not told of stays. A listener who follows them knows the catalog after it.
-/

namespace MeshSidecar

/-- What is known to one who follows the notices. -/
structure Mirror where
  services : NameTable Service
  instances : Finset Instance
deriving DecidableEq

namespace Mirror

/-- All that a catalog lets a listener know. -/
def ofCatalog (catalog : Catalog) : Mirror := ⟨catalog.services, catalog.instances.toFinset⟩

/-- What is known after one more notice. -/
def apply (mirror : Mirror) : Notice → Mirror
  | .serviceChanged service event =>
      { mirror with
        services :=
          if event = .delete then mirror.services.erase service.hostname
          else mirror.services.insert service.hostname service }
  | .instanceChanged inst event =>
      { mirror with
        instances :=
          if event = .delete then mirror.instances.erase inst else insert inst mirror.instances }

/-- What is known after notices, one after the other. -/
def follow (mirror : Mirror) (told : List Notice) : Mirror := told.foldl apply mirror

theorem follow_append (mirror : Mirror) (first second : List Notice) :
    mirror.follow (first ++ second) = (mirror.follow first).follow second :=
  List.foldl_append

theorem follow_concat (mirror : Mirror) (told : List Notice) (notice : Notice) :
    mirror.follow (told ++ [notice]) = (mirror.follow told).apply notice :=
  List.foldl_concat ..

end Mirror

/-- What stands under the host name of a service after an event. -/
def Event.leaves (service : Service) : Event → Option Service
  | .add | .update => some service
  | .delete => none

/-- Whether an event fits what stood under the host name of the service before it. -/
def Event.Fits (known : Option Service) (service : Service) : Event → Prop
  | .add => known = none
  | .update => ∃ old, known = some old ∧ old ≠ service
  | .delete => known = some service

/-- An event that fits changes what stands under the host name. -/
theorem Event.Fits.ne_leaves {known : Option Service} {service : Service} {event : Event}
    (h : event.Fits known service) : event.leaves service ≠ known := by
  cases event with
  | add => rw [h]; exact nofun
  | update =>
      obtain ⟨old, rfl, hne⟩ := h
      exact fun heq => hne (Option.some.inj heq).symm
  | delete => rw [h]; exact nofun

namespace Mirror

/-- After a notice of a service there stands under its host name what the event leaves. -/
theorem get?_apply (mirror : Mirror) (service : Service) (event : Event) (hostname : String) :
    (mirror.apply (.serviceChanged service event)).services.get? hostname =
      if service.hostname = hostname then event.leaves service
      else mirror.services.get? hostname := by
  cases event with
  | add => exact NameTable.get?_insert ..
  | update => exact NameTable.get?_insert ..
  | delete => exact NameTable.get?_erase ..

/-- Under a host name of which nothing is told there stands what stood there. -/
theorem get?_follow_of_untold {mirror : Mirror} {told : List Notice} {hostname : String}
    (h : ∀ service event, Notice.serviceChanged service event ∈ told →
      service.hostname ≠ hostname) :
    (mirror.follow told).services.get? hostname = mirror.services.get? hostname := by
  induction told using List.reverseRecOn with
  | nil => rfl
  | append_singleton told notice ih =>
      rw [follow_concat]
      have hrest := ih fun service event hmem => h service event (List.mem_append_left _ hmem)
      cases notice with
      | serviceChanged service event =>
          have hne := h service event (List.mem_append_right _ (List.mem_singleton_self _))
          rw [get?_apply, if_neg hne, hrest]
      | instanceChanged inst event => exact hrest

/-- Under a host name of which one thing is told there stands what that leaves. -/
theorem get?_follow_of_told {mirror : Mirror} {told : List Notice} {service : Service}
    {event : Event} (hmem : .serviceChanged service event ∈ told)
    (honly : ∀ other event', Notice.serviceChanged other event' ∈ told →
      other.hostname = service.hostname → other = service ∧ event' = event) :
    (mirror.follow told).services.get? service.hostname = event.leaves service := by
  -- from the end, since what is told last under the host name is what stands there
  induction told using List.reverseRecOn with
  | nil => exact nomatch hmem
  | append_singleton told notice ih =>
      rw [follow_concat]
      have hbefore : .serviceChanged service event ∈ told →
          (mirror.follow told).services.get? service.hostname = event.leaves service :=
        fun h => ih h fun other event' hother =>
          honly other event' (List.mem_append_left _ hother)
      cases notice with
      | serviceChanged other event' =>
          rw [get?_apply]
          by_cases heq : other.hostname = service.hostname
          · obtain ⟨rfl, rfl⟩ :=
              honly other event' (List.mem_append_right _ (List.mem_singleton_self _)) heq
            rw [if_pos rfl]
          · rw [if_neg heq]
            refine hbefore ((List.mem_append.mp hmem).resolve_right fun hlast => heq ?_)
            rw [(Notice.serviceChanged.inj (List.mem_singleton.mp hlast)).1]
      | instanceChanged inst event' =>
          exact hbefore ((List.mem_append.mp hmem).resolve_right fun hlast =>
            nomatch List.mem_singleton.mp hlast)

theorem mem_apply_self {mirror : Mirror} {inst : Instance} {event : Event} :
    inst ∈ (mirror.apply (.instanceChanged inst event)).instances ↔ event ≠ .delete := by
  show inst ∈ (if event = .delete then _ else _) ↔ _
  by_cases hdelete : event = .delete
  · rw [if_pos hdelete]
    exact iff_of_false (Finset.notMem_erase inst _) fun hne => hne hdelete
  · rw [if_neg hdelete]
    exact iff_of_true (Finset.mem_insert_self inst _) hdelete

theorem mem_apply_of_ne {mirror : Mirror} {notice : Notice} {inst : Instance}
    (h : ∀ event, notice ≠ .instanceChanged inst event) :
    inst ∈ (mirror.apply notice).instances ↔ inst ∈ mirror.instances := by
  cases notice with
  | serviceChanged service event => exact Iff.rfl
  | instanceChanged other event =>
      have hne : inst ≠ other := fun heq => h event (heq ▸ rfl)
      show inst ∈ (if event = .delete then _ else _) ↔ _
      by_cases hdelete : event = .delete
      · rw [if_pos hdelete, Finset.mem_erase, and_iff_right hne]
      · rw [if_neg hdelete, Finset.mem_insert, or_iff_right hne]

/-- If only known instances are deleted and only unknown ones are added, then those are known
    afterwards that were known and not deleted, and those that were added. -/
theorem mem_follow_iff {mirror : Mirror} {told : List Notice} {inst : Instance}
    (h : ∀ event, Notice.instanceChanged inst event ∈ told →
      (event = .delete ↔ inst ∈ mirror.instances)) :
    inst ∈ (mirror.follow told).instances ↔
      (inst ∈ mirror.instances ∧ .instanceChanged inst .delete ∉ told) ∨
        ∃ event, event ≠ .delete ∧ .instanceChanged inst event ∈ told := by
  -- from the end, since what is told last of an instance decides
  induction told using List.reverseRecOn with
  | nil =>
      constructor
      · exact fun hmem => Or.inl ⟨hmem, nofun⟩
      · rintro (⟨hmem, -⟩ | ⟨event, -, hnone⟩)
        · exact hmem
        · exact nomatch hnone
  | append_singleton told notice ih =>
      rw [follow_concat]
      by_cases htold : ∃ event, notice = .instanceChanged inst event
      · obtain ⟨event, rfl⟩ := htold
        have hlast : .instanceChanged inst event ∈ told ++ [.instanceChanged inst event] :=
          List.mem_append_right _ (List.mem_singleton_self _)
        rw [mem_apply_self]
        constructor
        · exact fun hnew => Or.inr ⟨event, hnew, hlast⟩
        · rintro hknown rfl
          rcases hknown with ⟨-, hnot⟩ | ⟨other, hnew, hother⟩
          · exact hnot hlast
          · exact hnew ((h other hother).mpr ((h .delete hlast).mp rfl))
      · have hne : ∀ event, notice ≠ .instanceChanged inst event :=
          fun event heq => htold ⟨event, heq⟩
        have hmem : ∀ event, .instanceChanged inst event ∈ told ++ [notice] ↔
            .instanceChanged inst event ∈ told := fun event => by
          rw [List.mem_append, List.mem_singleton, or_iff_left (hne event).symm]
        rw [mem_apply_of_ne hne]
        simp only [hmem]
        exact ih fun event hbefore => h event (List.mem_append_left _ hbefore)

end Mirror

-- ── Changes ─────────────────────────────────────────────────────────────────

namespace Changes

/-- What is told of services leads from one table of services to another: of no host name is
    told twice, each event fits what stood under the host name before and leaves what stands there
    after, and what is not told of stays. -/
structure ServicesLead (told : List (Service × Event)) (before after : NameTable Service) :
    Prop where
  distinct : (told.map (·.1.hostname)).Nodup
  fits : ∀ service event, (service, event) ∈ told →
    event.Fits (before.get? service.hostname) service
  stored : ∀ service event, (service, event) ∈ told →
    after.get? service.hostname = event.leaves service
  kept : ∀ hostname, hostname ∉ told.map (·.1.hostname) →
    after.get? hostname = before.get? hostname

/-- The changes lead from one catalog to another: what is told of services leads from the ones to
    the others, and an instance is added if it is new and deleted if it is gone. -/
structure Leads (changes : Changes) (before after : Catalog) : Prop where
  services : ServicesLead changes.services before.services after.services
  instances : ∀ inst event, (inst, event) ∈ changes.instances ↔
    (event = .add ∧ inst ∉ before.instances ∧ inst ∈ after.instances) ∨
      (event = .delete ∧ inst ∈ before.instances ∧ inst ∉ after.instances)

/-- The services that notices tell of, with what happened to them. -/
def servicesTold (told : List Notice) : List (Service × Event) :=
  told.filterMap fun notice =>
    match notice with
    | .serviceChanged service event => some (service, event)
    | .instanceChanged _ _ => Option.none

theorem mem_servicesTold {told : List Notice} {service : Service} {event : Event} :
    (service, event) ∈ servicesTold told ↔ .serviceChanged service event ∈ told := by
  rw [servicesTold, List.mem_filterMap]
  constructor
  · rintro ⟨notice, hmem, heq⟩
    cases notice with
    | serviceChanged other event' =>
        obtain ⟨rfl, rfl⟩ := Prod.mk.inj (Option.some.inj heq)
        exact hmem
    | instanceChanged inst event' => exact nomatch heq
  · exact fun hmem => ⟨_, hmem, rfl⟩

/-- The notices of a change tell of its services in their order. -/
theorem servicesTold_notices (changes : Changes) :
    servicesTold changes.notices = changes.services := by
  have hinstances : ∀ {notice : Instance × Event → Notice},
      (∀ change, notice change = .instanceChanged change.1 change.2) →
      ∀ told : List (Instance × Event), servicesTold (told.map notice) = [] := by
    intro notice hnotice told
    rw [servicesTold, List.filterMap_map]
    refine List.filterMap_eq_nil_iff.mpr fun change _ => ?_
    rw [Function.comp_apply, hnotice]
  have hservices : ∀ {notice : Service × Event → Notice},
      (∀ change, notice change = .serviceChanged change.1 change.2) →
      ∀ told : List (Service × Event), servicesTold (told.map notice) = told := by
    intro notice hnotice told
    rw [servicesTold, List.filterMap_map]
    refine (List.filterMap_congr fun change _ => ?_).trans List.filterMap_some
    rw [Function.comp_apply, hnotice]
  show servicesTold (_ ++ _ ++ _) = _
  rw [servicesTold, List.filterMap_append, List.filterMap_append]
  rw [← servicesTold, ← servicesTold, ← servicesTold, hinstances fun _ => rfl,
    hinstances fun _ => rfl, hservices fun _ => rfl]
  rw [List.nil_append, List.append_nil]

theorem serviceChanged_mem_notices {changes : Changes} {service : Service} {event : Event} :
    .serviceChanged service event ∈ changes.notices ↔ (service, event) ∈ changes.services := by
  rw [← mem_servicesTold, servicesTold_notices]

theorem instanceChanged_mem_notices {changes : Changes} {inst : Instance} {event : Event} :
    .instanceChanged inst event ∈ changes.notices ↔ (inst, event) ∈ changes.instances := by
  by_cases hdelete : event = .delete <;> simp [notices, hdelete]

namespace Leads

variable {changes : Changes} {before after : Catalog}

/-- Once every service has been told of, the services are known as they are where the changes
    lead. -/
theorem services_follow (h : changes.Leads before after) {told : List Notice}
    (htold : ∀ service event,
      .serviceChanged service event ∈ told ↔ (service, event) ∈ changes.services) :
    ((Mirror.ofCatalog before).follow told).services = after.services := by
  refine NameTable.ext_get? fun hostname => ?_
  by_cases hmem : hostname ∈ changes.services.map (·.1.hostname)
  · obtain ⟨⟨service, event⟩, hchange, rfl⟩ := List.mem_map.mp hmem
    rw [h.services.stored service event hchange]
    refine Mirror.get?_follow_of_told ((htold service event).mpr hchange) ?_
    intro other event' hother heq
    exact Prod.mk.inj (List.inj_on_of_nodup_map h.services.distinct
      ((htold other event').mp hother) hchange heq)
  · rw [h.services.kept hostname hmem]
    refine Mirror.get?_follow_of_untold fun service event hchange heq => hmem ?_
    exact List.mem_map.mpr ⟨_, (htold service event).mp hchange, heq⟩

/-- While the changes are told, those instances are known that were known and are not yet deleted,
    and those that are already added. -/
theorem mem_follow_iff (h : changes.Leads before after) {told : List Notice}
    (htold : told ⊆ changes.notices) {inst : Instance} :
    inst ∈ ((Mirror.ofCatalog before).follow told).instances ↔
      (inst ∈ before.instances ∧ .instanceChanged inst .delete ∉ told) ∨
        ∃ event, event ≠ .delete ∧ .instanceChanged inst event ∈ told := by
  rw [Mirror.mem_follow_iff, Mirror.ofCatalog, List.mem_toFinset]
  intro event hmem
  have hchange := htold hmem
  rw [instanceChanged_mem_notices, h.instances] at hchange
  rw [Mirror.ofCatalog, List.mem_toFinset]
  rcases hchange with ⟨rfl, hnew, -⟩ | ⟨rfl, hold, -⟩
  · exact iff_of_false nofun hnew
  · exact iff_of_true rfl hold

/-- Where the changes lead is known to a listener who follows them from where they begin. -/
theorem follow (h : changes.Leads before after) :
    (Mirror.ofCatalog before).follow changes.notices = Mirror.ofCatalog after := by
  have hservices : ((Mirror.ofCatalog before).follow changes.notices).services
      = after.services :=
    h.services_follow fun service event => serviceChanged_mem_notices
  have hinstances : ((Mirror.ofCatalog before).follow changes.notices).instances
      = after.instances.toFinset := by
    ext inst
    rw [h.mem_follow_iff (List.Subset.refl _)]
    simp only [instanceChanged_mem_notices, h.instances, List.mem_toFinset]
    by_cases hbefore : inst ∈ before.instances <;> by_cases hafter : inst ∈ after.instances <;>
      simp [hbefore, hafter]
  cases hfollow : (Mirror.ofCatalog before).follow changes.notices
  rw [hfollow] at hservices hinstances
  rw [Mirror.ofCatalog, ← hservices, ← hinstances]

/-- An event of a service fits what is known when it is told. -/
theorem fits_of_notices (h : changes.Leads before after) {told rest : List Notice}
    {service : Service} {event : Event}
    (hsplit : changes.notices = told ++ .serviceChanged service event :: rest) :
    event.Fits (((Mirror.ofCatalog before).follow told).services.get? service.hostname)
      service := by
  have hservices : changes.services
      = servicesTold told ++ (service, event) :: servicesTold rest := by
    rw [← servicesTold_notices, hsplit, servicesTold, List.filterMap_append]
    rfl
  have hdistinct := h.services.distinct
  rw [hservices, List.map_append, List.map_cons] at hdistinct
  have hnew : service.hostname ∉ (servicesTold told).map (·.1.hostname) := by
    intro hmem
    exact (List.nodup_append.mp hdistinct).2.2 _ hmem _ (List.mem_cons_self ..) rfl
  rw [Mirror.get?_follow_of_untold]
  · refine h.services.fits service event ?_
    rw [hservices]
    exact List.mem_append_right _ (List.mem_cons_self ..)
  · intro other event' hother heq
    exact hnew (List.mem_map.mpr ⟨_, mem_servicesTold.mpr hother, heq⟩)

/-- Nothing is told exactly if the changes lead nowhere. -/
theorem notices_eq_nil_iff (h : changes.Leads before after) :
    changes.notices = [] ↔ Mirror.ofCatalog after = Mirror.ofCatalog before := by
  constructor
  · intro hnil
    rw [← h.follow, hnil]
    rfl
  · intro hsame
    have hservices : after.services = before.services := congrArg Mirror.services hsame
    have hinstances : after.instances.toFinset = before.instances.toFinset :=
      congrArg Mirror.instances hsame
    refine List.eq_nil_iff_forall_not_mem.mpr fun notice hmem => ?_
    cases notice with
    | serviceChanged service event =>
        have hchange := serviceChanged_mem_notices.mp hmem
        refine (h.services.fits service event hchange).ne_leaves ?_
        rw [← h.services.stored service event hchange, hservices]
    | instanceChanged inst event =>
        have hiff : inst ∈ after.instances ↔ inst ∈ before.instances := by
          rw [← List.mem_toFinset, hinstances, List.mem_toFinset]
        rw [instanceChanged_mem_notices, h.instances, hiff] at hmem
        tauto

end Leads

-- ── Services that were stored, removed or replaced ──────────────────────────

theorem ServicesLead.nil (services : NameTable Service) : ServicesLead [] services services :=
  ⟨List.nodup_nil, nofun, nofun, fun _ _ => rfl⟩

/-- What is told of one service leads to a table that differs under its host name. -/
theorem ServicesLead.single {before after : NameTable Service} {service : Service} (event : Event)
    (hfits : event.Fits (before.get? service.hostname) service)
    (hstored : after.get? service.hostname = event.leaves service)
    (hkept : ∀ hostname, service.hostname ≠ hostname →
      after.get? hostname = before.get? hostname) :
    ServicesLead [(service, event)] before after where
  distinct := List.nodup_singleton _
  fits := by
    intro other event' hmem
    obtain ⟨rfl, rfl⟩ := Prod.mk.inj (List.mem_singleton.mp hmem)
    exact hfits
  stored := by
    intro other event' hmem
    obtain ⟨rfl, rfl⟩ := Prod.mk.inj (List.mem_singleton.mp hmem)
    exact hstored
  kept := fun hostname hnot => hkept hostname fun heq =>
    hnot (heq ▸ List.mem_singleton_self _)

/-- What becomes of a service that is stored anew is told. -/
theorem ServicesLead.insert (services : NameTable Service) (service : Service) :
    ServicesLead (ofStored services service.hostname service).toList services
      (services.insert service.hostname service) := by
  have hstored : (services.insert service.hostname service).get? service.hostname
      = some service := by
    rw [NameTable.get?_insert, if_pos rfl]
  have hkept : ∀ hostname, service.hostname ≠ hostname →
      (services.insert service.hostname service).get? hostname = services.get? hostname := by
    intro hostname hne
    rw [NameTable.get?_insert, if_neg hne]
  rw [ofStored]
  cases hprior : services.get? service.hostname with
  | none => exact .single .add hprior hstored hkept
  | some old =>
      by_cases hsame : old = service
      · rw [hsame] at hprior
        rw [NameTable.insert_eq_self hprior]
        simp only [if_pos hsame]
        exact .nil services
      · simp only [if_neg hsame]
        exact .single .update ⟨old, hprior, hsame⟩ hstored hkept

/-- The removal of a service that stands under its host name is told. -/
theorem ServicesLead.erase {services : NameTable Service} {service : Service}
    (h : services.get? service.hostname = some service) :
    ServicesLead [(service, .delete)] services (services.erase service.hostname) := by
  refine .single .delete h ?_ fun hostname hne => ?_
  · rw [NameTable.get?_erase, if_pos rfl]
    rfl
  · rw [NameTable.get?_erase, if_neg hne]

/-- What is picked from a list keeps the order of its keys. -/
theorem map_filterMap_sublist {α β κ : Type} {pick : α → Option β} {key : α → κ} {keyOf : β → κ}
    {items : List α} (h : ∀ item ∈ items, ∀ b, pick item = some b → keyOf b = key item) :
    ((items.filterMap pick).map keyOf).Sublist (items.map key) := by
  induction items with
  | nil => exact List.Sublist.refl _
  | cons item rest ih =>
      have hrest := ih fun other hother => h other (List.mem_cons_of_mem _ hother)
      rw [List.filterMap_cons, List.map_cons]
      cases hpick : pick item with
      | none => exact hrest.cons _
      | some b =>
          rw [List.map_cons, h item (List.mem_cons_self ..) b hpick]
          exact hrest.cons_cons _

/-- What becomes of a service that is stored anew is an event of that service. -/
theorem ofStored_eq_some {prior : NameTable Service} {hostname : String} {service other : Service}
    {event : Event} (h : ofStored prior hostname service = some (other, event)) :
    other = service ∧ event.Fits (prior.get? hostname) service ∧
      event.leaves service = some service := by
  rw [ofStored] at h
  cases hprior : prior.get? hostname with
  | none =>
      simp only [hprior] at h
      obtain ⟨rfl, rfl⟩ := Prod.mk.inj (Option.some.inj h)
      exact ⟨rfl, rfl, rfl⟩
  | some old =>
      simp only [hprior] at h
      by_cases hsame : old = service
      · rw [if_pos hsame] at h
        cases h
      · rw [if_neg hsame] at h
        obtain ⟨rfl, rfl⟩ := Prod.mk.inj (Option.some.inj h)
        exact ⟨rfl, ⟨old, rfl, hsame⟩, rfl⟩

/-- A change between two tables is that of a service that is stored anew or is gone. -/
theorem mem_servicesBetween {prior next : NameTable Service} {service : Service} {event : Event} :
    (service, event) ∈ servicesBetween prior next ↔
      (∃ hostname, next.get? hostname = some service ∧
        ofStored prior hostname service = some (service, event)) ∨
      (∃ hostname, prior.get? hostname = some service ∧ next.get? hostname = Option.none ∧
        event = .delete) := by
  rw [servicesBetween, List.mem_append, List.mem_filterMap, List.mem_filterMap]
  refine or_congr ⟨?_, ?_⟩ ⟨?_, ?_⟩
  · rintro ⟨⟨hostname, other⟩, hmem, hstored⟩
    obtain ⟨rfl, -⟩ := ofStored_eq_some hstored
    exact ⟨hostname, NameTable.mem_entries_iff.mp hmem, hstored⟩
  · rintro ⟨hostname, hnext, hstored⟩
    exact ⟨(hostname, service), NameTable.mem_entries_iff.mpr hnext, hstored⟩
  · rintro ⟨⟨hostname, other⟩, hmem, hgone⟩
    cases hnext : next.get? hostname with
    | none =>
        simp only [hnext, Option.isSome_none, Bool.false_eq_true, if_false] at hgone
        obtain ⟨rfl, rfl⟩ := Prod.mk.inj (Option.some.inj hgone)
        exact ⟨hostname, NameTable.mem_entries_iff.mp hmem, hnext, rfl⟩
    | some kept =>
        simp [hnext] at hgone
  · rintro ⟨hostname, hprior, hnext, rfl⟩
    exact ⟨(hostname, service), NameTable.mem_entries_iff.mpr hprior, by simp [hnext]⟩

/-- The difference of two tables leads from one to the other, if services stand under their own
    host names. -/
theorem ServicesLead.between {prior next : Catalog} (hprior : prior.Keyed) (hnext : next.Keyed) :
    ServicesLead (servicesBetween prior.services next.services) prior.services next.services where
  distinct := by
    rw [servicesBetween, List.map_append, List.nodup_append]
    have hstored : ∀ entry ∈ next.services.entries, ∀ change,
        ofStored prior.services entry.1 entry.2 = some change → change.1.hostname = entry.1 := by
      rintro entry hentry ⟨other, event⟩ h
      rw [(ofStored_eq_some h).1]
      exact hnext entry.1 entry.2 (NameTable.mem_entries_iff.mp hentry)
    have hgone : ∀ entry ∈ prior.services.entries, ∀ change,
        (if (next.services.get? entry.1).isSome then Option.none else some (entry.2, Event.delete))
          = some change → change.1.hostname = entry.1 := by
      rintro entry hentry change h
      split at h
      · cases h
      · rw [← Option.some.inj h]
        exact hprior entry.1 entry.2 (NameTable.mem_entries_iff.mp hentry)
    refine ⟨(map_filterMap_sublist hstored).nodup next.services.names_nodup,
      (map_filterMap_sublist hgone).nodup prior.services.names_nodup, ?_⟩
    -- what is stored anew is found in the next table, what is gone is not
    rintro hostname hleft other hright rfl
    obtain ⟨⟨service, event⟩, hmem, rfl⟩ := List.mem_map.mp hright
    obtain ⟨⟨name, gone⟩, hentry, hdelete⟩ := List.mem_filterMap.mp hmem
    have hnone := NameTable.get?_eq_none_iff.not_left.mpr
      ((map_filterMap_sublist hstored).subset hleft)
    by_cases hsome : (next.services.get? name).isSome = true
    · simp [hsome] at hdelete
    · simp only [if_neg hsome] at hdelete
      obtain ⟨rfl, -⟩ := Prod.mk.inj (Option.some.inj hdelete)
      rw [hprior name gone (NameTable.mem_entries_iff.mp hentry)] at hnone
      exact hsome (Option.isSome_iff_ne_none.mpr hnone)
  fits := by
    intro service event hmem
    rcases mem_servicesBetween.mp hmem with ⟨hostname, hfind, hstored⟩ | ⟨hostname, hfind, -, rfl⟩
    · rw [hnext hostname service hfind]
      exact (ofStored_eq_some hstored).2.1
    · rw [hprior hostname service hfind]
      exact hfind
  stored := by
    intro service event hmem
    rcases mem_servicesBetween.mp hmem with
      ⟨hostname, hfind, hstored⟩ | ⟨hostname, hfind, hnone, rfl⟩
    · rw [hnext hostname service hfind, (ofStored_eq_some hstored).2.2]
      exact hfind
    · rw [hprior hostname service hfind]
      exact hnone
  kept := by
    intro hostname hnot
    -- a name under which the tables differ would be told of
    have huntold : ∀ service event, service.hostname = hostname →
        (service, event) ∉ servicesBetween prior.services next.services :=
      fun service event heq hmem => hnot (List.mem_map.mpr ⟨_, hmem, heq⟩)
    cases hfind : next.services.get? hostname with
    | some service =>
        have hname := hnext hostname service hfind
        cases hstored : ofStored prior.services hostname service with
        | none => exact (ofStored_eq_none_iff.mp hstored).symm
        | some change =>
            obtain ⟨other, event⟩ := change
            obtain ⟨rfl, -⟩ := ofStored_eq_some hstored
            exact absurd (mem_servicesBetween.mpr (Or.inl ⟨hostname, hfind, hstored⟩))
              (huntold other event hname)
    | none =>
        cases hold : prior.services.get? hostname with
        | none => rfl
        | some service =>
            exact absurd (mem_servicesBetween.mpr (Or.inr ⟨hostname, hold, hfind, rfl⟩))
              (huntold service .delete (hprior hostname service hold))

-- ── Instances that were added, removed or replaced ──────────────────────────

theorem mem_instancesUntold {instances : List Instance} {inst : Instance} {event : Event} :
    (inst, event) ∈ ([] : List (Instance × Event)) ↔
      (event = .add ∧ inst ∉ instances ∧ inst ∈ instances) ∨
        (event = .delete ∧ inst ∈ instances ∧ inst ∉ instances) := by
  refine iff_of_false nofun ?_
  tauto

theorem mem_instanceAdded {instances : List Instance} {added : Instance} (h : added ∉ instances)
    {inst : Instance} {event : Event} :
    (inst, event) ∈ [(added, Event.add)] ↔
      (event = .add ∧ inst ∉ instances ∧ inst ∈ instances ++ [added]) ∨
        (event = .delete ∧ inst ∈ instances ∧ inst ∉ instances ++ [added]) := by
  rw [List.mem_singleton, Prod.mk.injEq, List.mem_append, List.mem_singleton]
  constructor
  · rintro ⟨rfl, rfl⟩
    exact Or.inl ⟨rfl, h, Or.inr rfl⟩
  · rintro (⟨rfl, hold, hin | rfl⟩ | ⟨-, hold, hout⟩)
    · exact absurd hin hold
    · exact ⟨rfl, rfl⟩
    · exact absurd (Or.inl hold) hout

theorem mem_instanceRemoved {instances : List Instance} {removed : Instance}
    (h : removed ∈ instances) {inst : Instance} {event : Event} :
    (inst, event) ∈ [(removed, Event.delete)] ↔
      (event = .add ∧ inst ∉ instances ∧ inst ∈ instances.filter (· ≠ removed)) ∨
        (event = .delete ∧ inst ∈ instances ∧ inst ∉ instances.filter (· ≠ removed)) := by
  rw [List.mem_singleton, Prod.mk.injEq, List.mem_filter, decide_eq_true_eq]
  constructor
  · rintro ⟨rfl, rfl⟩
    exact Or.inr ⟨rfl, h, fun hkept => hkept.2 rfl⟩
  · rintro (⟨-, hout, hin, -⟩ | ⟨rfl, hin, hgone⟩)
    · exact absurd hin hout
    · exact ⟨by_contra fun hne => hgone ⟨hin, hne⟩, rfl⟩

/-- All instances of which something holds are told to be gone when the others are kept. -/
theorem mem_instancesRemoved {instances : List Instance} {p : Instance → Prop} [DecidablePred p]
    {inst : Instance} {event : Event} :
    (inst, event) ∈ (instances.filter (p ·)).map (·, Event.delete) ↔
      (event = .add ∧ inst ∉ instances ∧ inst ∈ instances.filter (¬ p ·)) ∨
        (event = .delete ∧ inst ∈ instances ∧ inst ∉ instances.filter (¬ p ·)) := by
  simp only [List.mem_map, List.mem_filter, decide_eq_true_eq, Prod.mk.injEq, ↓existsAndEq,
    true_and]
  tauto

/-- An instance is told of in the difference of two lists exactly if one of them lacks it. -/
theorem mem_instancesBetween {prior next : List Instance} {inst : Instance} {event : Event} :
    (inst, event) ∈ instancesBetween prior next ↔
      (event = .add ∧ inst ∉ prior ∧ inst ∈ next) ∨
        (event = .delete ∧ inst ∈ prior ∧ inst ∉ next) := by
  simp only [instancesBetween, List.contains_eq_mem, List.mem_append, List.mem_map,
    List.mem_filter, Bool.not_eq_eq_eq_not, Bool.not_true, decide_eq_false_iff_not, Prod.mk.injEq,
    ↓existsAndEq, true_and]
  tauto

end Changes

-- ── Mutations ───────────────────────────────────────────────────────────────

namespace Mutation

/-- Whether a catalog that replaces another one has its services under their host names. -/
def Keyed : Mutation → Prop
  | .replace next => next.Keyed
  | .addService _ | .removeService _ | .addInstance _ | .removeInstance _
  | .setManagementPorts _ _ | .setServiceAccounts _ _ => True

/-- What a mutation tells of services leads from the ones before it to the ones after it. -/
theorem services_lead {mutation : Mutation} {catalog : Catalog} (hkeyed : catalog.Keyed)
    (hmutation : mutation.Keyed) :
    Changes.ServicesLead (mutation.changes catalog).services catalog.services
      (mutation.apply catalog).services := by
  cases mutation with
  | addService service => exact .insert catalog.services service
  | removeService hostname =>
      cases hfind : catalog.service? hostname with
      | none =>
          simp only [changes, apply, hfind]
          exact .nil _
      | some service =>
          obtain rfl := hkeyed hostname service hfind
          simp only [changes, apply, hfind]
          exact .erase hfind
  | addInstance inst =>
      rw [changes, apply]
      by_cases hlisted : catalog.instances.contains inst = true
      · rw [if_pos hlisted, if_pos hlisted]
        exact .nil _
      · rw [if_neg hlisted, if_neg hlisted]
        exact .nil _
  | removeInstance inst =>
      rw [changes]
      split
      · exact .nil _
      · exact .nil _
  | setManagementPorts address ports => exact .nil _
  | setServiceAccounts hostname accounts => exact .nil _
  | replace next => exact .between hkeyed hmutation

/-- A mutation tells of an instance exactly if it is new or gone. -/
theorem mem_changes_instances (mutation : Mutation) (catalog : Catalog) {inst : Instance}
    {event : Event} :
    (inst, event) ∈ (mutation.changes catalog).instances ↔
      (event = .add ∧ inst ∉ catalog.instances ∧ inst ∈ (mutation.apply catalog).instances) ∨
        (event = .delete ∧ inst ∈ catalog.instances ∧
          inst ∉ (mutation.apply catalog).instances) := by
  cases mutation with
  | addService service => exact Changes.mem_instancesUntold
  | removeService hostname =>
      cases hfind : catalog.service? hostname with
      | none =>
          simp only [changes, apply, hfind]
          exact Changes.mem_instancesUntold
      | some service =>
          simp only [changes, apply, hfind]
          exact Changes.mem_instancesRemoved
  | addInstance added =>
      rw [changes, apply]
      by_cases hlisted : catalog.instances.contains added = true
      · rw [if_pos hlisted, if_pos hlisted]
        exact Changes.mem_instancesUntold
      · rw [if_neg hlisted, if_neg hlisted]
        have hnew : added ∉ catalog.instances := by simpa using hlisted
        exact Changes.mem_instanceAdded hnew
  | removeInstance removed =>
      rw [changes]
      by_cases hlisted : catalog.instances.contains removed = true
      · rw [if_pos hlisted]
        have hold : removed ∈ catalog.instances := by simpa using hlisted
        exact Changes.mem_instanceRemoved hold
      · rw [if_neg hlisted]
        -- nothing is told, and nothing is taken away
        have hnew : removed ∉ catalog.instances := by simpa using hlisted
        have hsame : catalog.instances.filter (· ≠ removed) = catalog.instances := by
          refine List.filter_eq_self.mpr fun other hother => ?_
          exact decide_eq_true fun heq => hnew (heq ▸ hother)
        rw [apply, hsame]
        exact Changes.mem_instancesUntold
  | setManagementPorts address ports => exact Changes.mem_instancesUntold
  | setServiceAccounts hostname accounts => exact Changes.mem_instancesUntold
  | replace next => exact Changes.mem_instancesBetween

/-- The changes of a mutation lead from the catalog before it to the catalog after it. -/
theorem leads {mutation : Mutation} {catalog : Catalog} (hkeyed : catalog.Keyed)
    (hmutation : mutation.Keyed) :
    (mutation.changes catalog).Leads catalog (mutation.apply catalog) where
  services := services_lead hkeyed hmutation
  instances := fun _ _ => mem_changes_instances mutation catalog

theorem keyed_apply {mutation : Mutation} {catalog : Catalog} (hkeyed : catalog.Keyed)
    (hmutation : mutation.Keyed) : (mutation.apply catalog).Keyed := by
  cases mutation with
  | addService service => exact hkeyed.withService service
  | removeService hostname =>
      rw [apply]
      cases hfind : catalog.service? hostname with
      | none => exact hkeyed
      | some _ => exact hkeyed.erase hostname
  | addInstance inst =>
      rw [apply]
      split
      · exact hkeyed
      · exact hkeyed
  | removeInstance inst => exact hkeyed
  | setManagementPorts address ports => exact hkeyed
  | setServiceAccounts hostname accounts => exact hkeyed
  | replace next => exact hmutation

end Mutation

end MeshSidecar
