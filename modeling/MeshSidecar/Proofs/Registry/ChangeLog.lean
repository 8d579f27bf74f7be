import MeshSidecar.Proofs.Lists.Places
import MeshSidecar.Proofs.Registry.Mirror

/-!
# The change log of a registry

A registry whose catalogs are `Catalog.Built`, from nothing or from a file, keeps its services
under their own host names, so each of its mutations leads from one catalog to the next. What is
told in the course of many mutations is therefore a change log (`Registry.told_faithful`): one who
follows it always knows what the registry holds, and it is silent only when nothing has changed.
All who listen are told of it alike: each handler is told every notice of its kind, in order, as
often as the handler was appended.
-/

namespace MeshSidecar

-- ── Catalogs that can be built ──────────────────────────────────────────────

/-- A catalog that was read from a file or begun with nothing, with more put into it. -/
inductive Catalog.Built : Catalog → Prop where
  | empty : Built ∅
  | read {bytes : Bytes} {catalog : Catalog} (h : Catalog.ofBytes bytes = .ok catalog) :
      Built catalog
  | withService {catalog : Catalog} (h : Built catalog) (service : Service) :
      Built (catalog.withService service)
  | withInstance {catalog : Catalog} (h : Built catalog) (inst : Instance) :
      Built (catalog.withInstance inst)
  | withTables {catalog : Catalog} (h : Built catalog) (managementPorts : NameTable PortList)
      (serviceAccounts : NameTable (List String)) :
      Built { catalog with managementPorts := managementPorts, serviceAccounts := serviceAccounts }

/-- However a catalog is built, its services stand under their own host names. -/
theorem Catalog.Built.keyed {catalog : Catalog} (h : catalog.Built) : catalog.Keyed := by
  induction h with
  | empty => exact Catalog.keyed_empty
  | read h => exact (Catalog.wellFormed_of_ofBytes h).keyed
  | withService _ service ih => exact ih.withService service
  | withInstance _ inst ih => exact ih
  | withTables _ managementPorts serviceAccounts ih => exact ih

namespace Mutation

/-- Whether a catalog that replaces another one is built. -/
def Built : Mutation → Prop
  | .replace next => next.Built
  | .addService _ | .removeService _ | .addInstance _ | .removeInstance _
  | .setManagementPorts _ _ | .setServiceAccounts _ _ => True

theorem Built.keyed {mutation : Mutation} (h : mutation.Built) : mutation.Keyed := by
  cases mutation with
  | replace next => exact Catalog.Built.keyed h
  | addService _ => exact trivial
  | removeService _ => exact trivial
  | addInstance _ => exact trivial
  | removeInstance _ => exact trivial
  | setManagementPorts _ _ => exact trivial
  | setServiceAccounts _ _ => exact trivial

end Mutation

/-- What is known before an event that fits tells which event it is. -/
theorem Event.Fits.eq_iff {known : Option Service} {service : Service} {event : Event}
    (h : event.Fits known service) :
    (event = .add ↔ known = none) ∧
      (event = .update ↔ ∃ old, known = some old ∧ old ≠ service) ∧
      (event = .delete ↔ known = some service) := by
  cases event with
  | add =>
      obtain rfl := h
      exact ⟨iff_of_true rfl rfl, iff_of_false nofun nofun, iff_of_false nofun nofun⟩
  | update =>
      obtain ⟨old, rfl, hne⟩ := h
      exact ⟨iff_of_false nofun nofun, iff_of_true rfl ⟨old, rfl, hne⟩,
        iff_of_false nofun fun heq => hne (Option.some.inj heq)⟩
  | delete =>
      obtain rfl := h
      refine ⟨iff_of_false nofun nofun, iff_of_false nofun ?_, iff_of_true rfl rfl⟩
      rintro ⟨old, heq, hne⟩
      exact hne (Option.some.inj heq).symm

theorem Mirror.ofCatalog_eq_iff {first second : Catalog} :
    Mirror.ofCatalog first = Mirror.ofCatalog second ↔
      first.services = second.services ∧
        first.instances.toFinset = second.instances.toFinset :=
  ⟨fun h => Mirror.mk.inj h, fun h => congrArg₂ Mirror.mk h.1 h.2⟩

-- ── Handlers ────────────────────────────────────────────────────────────────

/-- The kind of handlers that a notice goes to. -/
def Notice.kind : Notice → HandlerKind
  | .serviceChanged _ _ => .services
  | .instanceChanged _ _ => .instances

namespace Registry

/-- The registry of a catalog with handlers, appended one after the other. -/
def listening (catalog : Catalog) (handlers : List (HandlerKind × Handler)) : Registry :=
  handlers.foldl (fun registry handler => registry.appendHandler handler.1 handler.2)
    { catalog := catalog }

/-- A handler that is appended is the last of its kind. -/
theorem handlersOf_appendHandler (registry : Registry) (kind : HandlerKind) (handler : Handler)
    (notice : Notice) :
    (registry.appendHandler kind handler).handlersOf notice =
      registry.handlersOf notice ++ if notice.kind = kind then [handler] else [] := by
  cases kind <;> cases notice <;> simp [appendHandler, handlersOf, Notice.kind]

theorem catalog_appendHandler (registry : Registry) (kind : HandlerKind) (handler : Handler) :
    (registry.appendHandler kind handler).catalog = registry.catalog := by
  cases kind <;> rfl

theorem catalog_foldl_appendHandler (registry : Registry)
    (handlers : List (HandlerKind × Handler)) :
    (handlers.foldl (fun registry handler => registry.appendHandler handler.1 handler.2)
      registry).catalog = registry.catalog := by
  induction handlers generalizing registry with
  | nil => rfl
  | cons handler rest ih => rw [List.foldl_cons, ih, catalog_appendHandler]

theorem catalog_listening (catalog : Catalog) (handlers : List (HandlerKind × Handler)) :
    (listening catalog handlers).catalog = catalog :=
  catalog_foldl_appendHandler _ handlers

/-- A notice goes to a handler as often as the handler was appended for its kind. -/
theorem count_handlersOf_foldl (registry : Registry) (handlers : List (HandlerKind × Handler))
    (notice : Notice) (handler : Handler) :
    ((handlers.foldl (fun registry handler => registry.appendHandler handler.1 handler.2)
      registry).handlersOf notice).count handler =
        (registry.handlersOf notice).count handler + handlers.count (notice.kind, handler) := by
  induction handlers generalizing registry with
  | nil => rfl
  | cons first rest ih =>
      obtain ⟨kind, other⟩ := first
      have hsame : ((kind, other) == (notice.kind, handler)) = true ↔
          notice.kind = kind ∧ other = handler := by
        rw [beq_iff_eq, Prod.mk.injEq, eq_comm]
      rw [List.foldl_cons, ih, handlersOf_appendHandler, List.count_append, List.count_cons]
      simp only [hsame]
      by_cases hkind : notice.kind = kind
      · rw [if_pos hkind, List.count_singleton]
        simp only [hkind, true_and, beq_iff_eq]
        omega
      · rw [if_neg hkind, List.count_nil, if_neg fun h => hkind h.1]
        rfl

theorem count_handlersOf_listening (catalog : Catalog) (handlers : List (HandlerKind × Handler))
    (notice : Notice) (handler : Handler) :
    ((listening catalog handlers).handlersOf notice).count handler =
      handlers.count (notice.kind, handler) := by
  rw [listening, count_handlersOf_foldl]
  cases notice <;> simp [handlersOf]

/-- What a handler was told. -/
def received (handler : Handler) (deliveries : List Delivery) : List Notice :=
  (deliveries.filter (·.handler = handler)).map (·.notice)

/-- A handler is told each notice as often as the notice goes to the handler. -/
theorem received_deliver (registry : Registry) (handler : Handler) (notices : List Notice) :
    received handler (registry.deliver notices) =
      notices.flatMap fun notice =>
        List.replicate ((registry.handlersOf notice).count handler) notice := by
  have hone : ∀ notice, ∀ handlers : List Handler,
      received handler (handlers.map (⟨·, notice⟩)) =
        List.replicate (handlers.count handler) notice := by
    intro notice handlers
    induction handlers with
    | nil => rfl
    | cons other rest ih =>
        rw [received] at ih
        by_cases heq : other = handler
        · subst heq
          simp [received, List.replicate_succ, ih]
        · simp [received, heq, ih]
  induction notices with
  | nil => rfl
  | cons notice rest ih =>
      rw [received] at ih
      rw [List.flatMap_cons, ← ih, ← hone]
      simp [received, deliver]

/-- If every notice goes to someone, then nothing reaches anyone only if there is nothing to
    tell. -/
theorem deliver_eq_nil_iff {registry : Registry} (h : ∀ notice, registry.handlersOf notice ≠ [])
    {notices : List Notice} : registry.deliver notices = [] ↔ notices = [] := by
  rw [deliver, List.flatMap_eq_nil_iff]
  constructor
  · intro hnone
    refine List.eq_nil_iff_forall_not_mem.mpr fun notice hmem => h notice ?_
    exact List.map_eq_nil_iff.mp (hnone notice hmem)
  · rintro rfl
    exact nofun

-- ── Histories ───────────────────────────────────────────────────────────────

/-- The registry after mutations, one after the other. -/
def mutateAll (registry : Registry) (mutations : List Mutation) : Registry :=
  mutations.foldl mutate registry

/-- All that is told in the course of mutations. -/
def told (registry : Registry) : List Mutation → List Notice
  | [] => []
  | mutation :: rest =>
      (mutation.changes registry.catalog).notices ++ (registry.mutate mutation).told rest

/-- What reaches the handlers in the course of mutations. -/
def allDeliveries (registry : Registry) : List Mutation → List Delivery
  | [] => []
  | mutation :: rest =>
      registry.deliveries mutation ++ (registry.mutate mutation).allDeliveries rest

/-- No mutation changes who listens. -/
theorem handlersOf_mutateAll (registry : Registry) (mutations : List Mutation) (notice : Notice) :
    (registry.mutateAll mutations).handlersOf notice = registry.handlersOf notice := by
  induction mutations generalizing registry with
  | nil => rfl
  | cons mutation rest ih =>
      show ((registry.mutate mutation).mutateAll rest).handlersOf notice = _
      rw [ih]
      cases notice <;> rfl

/-- The handlers stay the same, so that what is told reaches those who listened at the start. -/
theorem allDeliveries_eq (registry : Registry) (mutations : List Mutation) :
    registry.allDeliveries mutations = registry.deliver (registry.told mutations) := by
  induction mutations generalizing registry with
  | nil => rfl
  | cons mutation rest ih =>
      have hsame : ∀ notices, (registry.mutate mutation).deliver notices
          = registry.deliver notices := fun notices => rfl
      rw [allDeliveries, ih, hsame, told, deliveries, deliver, deliver, deliver,
        List.flatMap_append]

theorem keyed_mutateAll {registry : Registry} {mutations : List Mutation}
    (hkeyed : registry.catalog.Keyed) (h : ∀ mutation ∈ mutations, mutation.Keyed) :
    (registry.mutateAll mutations).catalog.Keyed := by
  induction mutations generalizing registry with
  | nil => exact hkeyed
  | cons mutation rest ih =>
      obtain ⟨hfirst, hrest⟩ := List.forall_mem_cons.mp h
      have hnext : (registry.mutate mutation).catalog.Keyed := Mutation.keyed_apply hkeyed hfirst
      exact ih hnext hrest

/-- One who follows what is told knows what the registry holds. -/
theorem follow_told {registry : Registry} {mutations : List Mutation}
    (hkeyed : registry.catalog.Keyed) (h : ∀ mutation ∈ mutations, mutation.Keyed) :
    (Mirror.ofCatalog registry.catalog).follow (registry.told mutations) =
      Mirror.ofCatalog (registry.mutateAll mutations).catalog := by
  induction mutations generalizing registry with
  | nil => rfl
  | cons mutation rest ih =>
      obtain ⟨hfirst, hrest⟩ := List.forall_mem_cons.mp h
      rw [told, Mirror.follow_append, (Mutation.leads hkeyed hfirst).follow]
      have hnext : (registry.mutate mutation).catalog.Keyed := Mutation.keyed_apply hkeyed hfirst
      exact ih hnext hrest

/-- Every event of a service fits what is known when it is told. -/
theorem fits_of_told {registry : Registry} {mutations : List Mutation}
    (hkeyed : registry.catalog.Keyed) (h : ∀ mutation ∈ mutations, mutation.Keyed)
    {before after : List Notice} {service : Service} {event : Event}
    (hsplit : registry.told mutations = before ++ .serviceChanged service event :: after) :
    event.Fits (((Mirror.ofCatalog registry.catalog).follow before).services.get?
      service.hostname) service := by
  induction mutations generalizing registry before with
  | nil => simp [told] at hsplit
  | cons mutation rest ih =>
      obtain ⟨hfirst, hrest⟩ := List.forall_mem_cons.mp h
      have hleads := Mutation.leads hkeyed hfirst
      have hnext : (registry.mutate mutation).catalog.Keyed :=
        Mutation.keyed_apply hkeyed hfirst
      rw [told] at hsplit
      -- the event is told with the first mutation or with those after it
      rcases List.append_eq_append_iff.mp hsplit with ⟨more, rfl, hlater⟩ | ⟨more, hnow, hlater⟩
      · rw [Mirror.follow_append, hleads.follow]
        exact ih hnext hrest hlater
      · cases more with
        | nil =>
            rw [List.append_nil] at hnow
            rw [← hnow, hleads.follow]
            have hfits : event.Fits (((Mirror.ofCatalog (registry.mutate mutation).catalog).follow
                []).services.get? service.hostname) service := ih hnext hrest hlater.symm
            exact hfits
        | cons notice more =>
            obtain ⟨rfl, -⟩ := List.cons.inj hlater
            exact hleads.fits_of_notices hnow

/-- What is told is a faithful change log. After any mutations one who has followed it knows what
    the registry holds; a service is added exactly if it was not known, updated exactly if another
    one was, deleted exactly if it was itself; a mutation tells nothing exactly if it left the
    services and the set of instances as they were, and then no one is told anything. Every handler
    is told all notices of its kind in order, as often as it was appended. -/
theorem told_faithful {catalog : Catalog} (hcatalog : catalog.Built)
    (handlers : List (HandlerKind × Handler)) {mutations : List Mutation}
    (hmutations : ∀ mutation ∈ mutations, mutation.Built) :
    (Mirror.ofCatalog catalog).follow ((listening catalog handlers).told mutations) =
        Mirror.ofCatalog ((listening catalog handlers).mutateAll mutations).catalog ∧
      (∀ before service event after,
        (listening catalog handlers).told mutations
          = before ++ .serviceChanged service event :: after →
        ∀ known, ((Mirror.ofCatalog catalog).follow before).services.get? service.hostname = known →
          (event = .add ↔ known = none) ∧
          (event = .update ↔ ∃ old, known = some old ∧ old ≠ service) ∧
          (event = .delete ↔ known = some service)) ∧
      (∀ before mutation after, mutations = before ++ mutation :: after →
        ∀ registry, (listening catalog handlers).mutateAll before = registry →
          ((mutation.changes registry.catalog).notices = [] ↔
            (registry.mutate mutation).catalog.services = registry.catalog.services ∧
            (registry.mutate mutation).catalog.instances.toFinset
              = registry.catalog.instances.toFinset) ∧
          ((∀ kind, ∃ handler, (kind, handler) ∈ handlers) →
            (registry.deliveries mutation = [] ↔
              (mutation.changes registry.catalog).notices = []))) ∧
      (listening catalog handlers).allDeliveries mutations =
        (listening catalog handlers).deliver ((listening catalog handlers).told mutations) ∧
      ∀ handler, received handler ((listening catalog handlers).allDeliveries mutations) =
        ((listening catalog handlers).told mutations).flatMap fun notice =>
          List.replicate (handlers.count (notice.kind, handler)) notice := by
  have hkeyed : (listening catalog handlers).catalog.Keyed := by
    rw [catalog_listening]
    exact hcatalog.keyed
  have hall : ∀ mutation ∈ mutations, mutation.Keyed :=
    fun mutation hmem => (hmutations mutation hmem).keyed
  refine ⟨?mirror, ?events, ?silence, allDeliveries_eq _ _, ?reach⟩
  case mirror =>
    have hfollow := follow_told hkeyed hall
    rwa [catalog_listening] at hfollow
  case events =>
    rintro before service event after hsplit known rfl
    have hfits := fits_of_told hkeyed hall hsplit
    rw [catalog_listening] at hfits
    exact hfits.eq_iff
  case silence =>
    rintro before mutation after rfl registry rfl
    -- the mutation meets a registry that those before it have left
    have hbefore := keyed_mutateAll hkeyed fun other hmem =>
      hall other (List.mem_append_left _ hmem)
    have hmutation := hall mutation (List.mem_append_right _ (List.mem_cons_self ..))
    refine ⟨?_, fun hlisten => ?_⟩
    · rw [(Mutation.leads hbefore hmutation).notices_eq_nil_iff, Mirror.ofCatalog_eq_iff]
      rfl
    · refine deliver_eq_nil_iff fun notice hnobody => ?_
      obtain ⟨handler, hhandler⟩ := hlisten notice.kind
      have hcount := count_handlersOf_listening catalog handlers notice handler
      rw [← handlersOf_mutateAll _ before, hnobody, List.count_nil] at hcount
      exact absurd (List.count_pos_iff.mpr hhandler) (by omega)
  case reach =>
    intro handler
    rw [allDeliveries_eq, received_deliver]
    simp only [count_handlersOf_listening]

-- ── A history ───────────────────────────────────────────────────────────────

/-- A service with one port. -/
def reviews : Service where
  name := "reviews"
  ns := none
  tags := ∅
  ports := [⟨"http", 9080, .http⟩]

/-- An instance of it. -/
def firstReviews : Instance := ⟨⟨"10.0.0.1", 8080, ⟨"http", 9080, .http⟩⟩, reviews, none⟩

/-- A catalog that lists an instance twice. -/
def listedTwice : Catalog :=
  ((Catalog.empty.withService reviews).withInstance firstReviews).withInstance firstReviews

/-- Another version of the service replaces all there is, is stored over, and is removed. -/
def replacements : List Mutation :=
  [.replace (Catalog.empty.withService (reviews.inNamespace "")), .addService reviews,
   .setServiceAccounts "reviews" [], .removeService "reviews"]

/-- The instance is deleted as often as it was listed, the service is updated twice and deleted,
    and a handler that listens to both is told so. In the end nothing is known. -/
theorem replacements_told :
    received 7 ((listening listedTwice [(.services, 7), (.instances, 7)]).allDeliveries
        replacements) =
      [.instanceChanged firstReviews .delete, .instanceChanged firstReviews .delete,
       .serviceChanged (reviews.inNamespace "") .update, .serviceChanged reviews .update,
       .serviceChanged reviews .delete] ∧
    (Mirror.ofCatalog listedTwice).follow
        ((listening listedTwice [(.services, 7), (.instances, 7)]).told replacements) =
      ⟨∅, ∅⟩ := by
  have hbuilt : listedTwice.Built :=
    ((Catalog.Built.empty.withService _).withInstance _).withInstance _
  have hreplacements : ∀ mutation ∈ replacements, mutation.Built := by
    simp only [replacements, List.forall_mem_cons]
    exact ⟨Catalog.Built.empty.withService _, trivial, trivial, trivial, nofun⟩
  obtain ⟨hmirror, -, -, -, hreach⟩ :=
    told_faithful hbuilt [(.services, 7), (.instances, 7)] hreplacements
  refine ⟨(hreach 7).trans ?_, hmirror.trans ?_⟩
  · decide +kernel
  · decide +kernel

end Registry

end MeshSidecar
