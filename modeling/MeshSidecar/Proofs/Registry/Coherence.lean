import MeshSidecar.Proofs.Catalog.Listing
import MeshSidecar.Proofs.Registry.ChangeLog
import MeshSidecar.Registry.File

/-!
# No instance without its service

One who follows the changes from one coherent catalog to another knows, after every single notice,
only instances that carry the service that is known under their host name
(`Changes.Leads.coherent_while_told`). The order of the notices is what makes it so. An instance is
deleted before any service changes, so one that is still known while services change is listed by
both catalogs, and its service, which both of them have, is not among those that change. An
instance is added after all services have changed, so it finds its own.

A registry that follows a file goes from one such catalog to the next, whatever it finds in the
file, so all this holds in the course of its polls as well (`FileRegistry.told_coherent`).
-/

namespace MeshSidecar

namespace Mirror

/-- Every known instance carries the service that is known under the host name of its own. -/
def Coherent (mirror : Mirror) : Prop :=
  ∀ inst ∈ mirror.instances, mirror.services.get? inst.service.hostname = some inst.service

/-- A coherent catalog lets a listener know nothing that is not coherent. -/
theorem coherent_ofCatalog {catalog : Catalog} (h : catalog.Coherent) :
    (ofCatalog catalog).Coherent :=
  fun inst hinst => h inst (List.mem_toFinset.mp hinst)

end Mirror

/-- A beginning of two lists put together is one of the first list, or the first list with a
    beginning of the second. -/
theorem prefix_append_cases {α : Type} {start first second : List α}
    (h : start <+: first ++ second) :
    start <+: first ∨ ∃ more, start = first ++ more ∧ more <+: second := by
  rcases List.prefix_or_prefix_of_prefix h (List.prefix_append first second) with hshort | hlong
  · exact Or.inl hshort
  · obtain ⟨more, rfl⟩ := hlong
    exact Or.inr ⟨more, rfl, (List.prefix_append_right_inj first).mp h⟩

/-- A beginning of two lists put together that goes beyond the first one has all of it. -/
theorem subset_of_prefix_append {α : Type} {start first second : List α} {item : α}
    (hbegins : start <+: first ++ second) (hitem : item ∈ start) (hbeyond : item ∉ first) :
    first ⊆ start := by
  rcases prefix_append_cases hbegins with hshort | ⟨more, rfl, -⟩
  · exact absurd (hshort.subset hitem) hbeyond
  · exact List.subset_append_left first more

namespace Changes

/-- Before a service is told of, all instances that are gone have been. -/
theorem deleted_of_service_told {changes : Changes} {told : List Notice}
    (hbegins : told <+: changes.notices) {service : Service} {event : Event}
    (hservice : .serviceChanged service event ∈ told) {inst : Instance}
    (hdelete : (inst, .delete) ∈ changes.instances) : .instanceChanged inst .delete ∈ told := by
  rw [notices, List.append_assoc] at hbegins
  refine subset_of_prefix_append hbegins hservice ?_ ?_
  · intro hmem
    obtain ⟨change, -, heq⟩ := List.mem_map.mp hmem
    exact Notice.noConfusion heq
  · exact List.mem_map.mpr ⟨(inst, .delete), List.mem_filter.mpr ⟨hdelete, rfl⟩, rfl⟩

/-- Before an instance is told to be new, all services that changed have been told of. -/
theorem service_told_of_added {changes : Changes} {told : List Notice}
    (hbegins : told <+: changes.notices) {inst : Instance} {event : Event} (hnew : event ≠ .delete)
    (hadded : .instanceChanged inst event ∈ told) {service : Service} {event' : Event}
    (hservice : (service, event') ∈ changes.services) :
    .serviceChanged service event' ∈ told := by
  rw [notices] at hbegins
  refine subset_of_prefix_append hbegins hadded ?_ ?_
  · intro hmem
    rcases List.mem_append.mp hmem with hmem | hmem
    · obtain ⟨⟨other, event''⟩, hdelete, heq⟩ := List.mem_map.mp hmem
      obtain ⟨rfl, rfl⟩ := Notice.instanceChanged.inj heq
      exact hnew (of_decide_eq_true (List.mem_filter.mp hdelete).2)
    · obtain ⟨change, -, heq⟩ := List.mem_map.mp hmem
      exact Notice.noConfusion heq
  · exact List.mem_append_right _ (List.mem_map.mpr ⟨_, hservice, rfl⟩)

/-- From one coherent catalog to another a listener knows nothing that is not coherent. -/
theorem Leads.coherent_while_told {changes : Changes} {before after : Catalog}
    (h : changes.Leads before after) (hbefore : before.Coherent) (hafter : after.Coherent)
    {told : List Notice} (hbegins : told <+: changes.notices) :
    ((Mirror.ofCatalog before).follow told).Coherent := by
  intro inst hinst
  rcases (h.mem_follow_iff hbegins.subset).mp hinst with ⟨hold, hpresent⟩ | ⟨event, hnew, hadded⟩
  · have hfound := hbefore inst hold
    -- the service of an instance that is still known is not told of
    rw [Mirror.get?_follow_of_untold]
    · exact hfound
    intro service event htold hname
    have hlisted : inst ∈ after.instances := by
      by_contra hgone
      refine hpresent (deleted_of_service_told hbegins htold ?_)
      exact (h.instances inst .delete).mpr (Or.inr ⟨rfl, hold, hgone⟩)
    have hchange := serviceChanged_mem_notices.mp (hbegins.subset htold)
    refine (h.services.fits service event hchange).ne_leaves ?_
    rw [← h.services.stored service event hchange, hname]
    exact (hafter inst hlisted).trans hfound.symm
  · have hservices : ((Mirror.ofCatalog before).follow told).services = after.services :=
      h.services_follow fun service event' =>
        ⟨fun htold => serviceChanged_mem_notices.mp (hbegins.subset htold),
          service_told_of_added hbegins hnew hadded⟩
    rw [hservices]
    have hchange := instanceChanged_mem_notices.mp (hbegins.subset hadded)
    rcases (h.instances inst event).mp hchange with ⟨-, -, hlisted⟩ | ⟨hdelete, -⟩
    · exact hafter inst hlisted
    · exact absurd hdelete hnew

end Changes

-- ── Registries that follow a file ───────────────────────────────────────────

/-- One who is appended once for each kind is told every notice once. -/
theorem Registry.received_deliver_of_once {registry : Registry} {handler : Handler}
    (h : ∀ notice, (registry.handlersOf notice).count handler = 1) (notices : List Notice) :
    received handler (registry.deliver notices) = notices := by
  rw [received_deliver]
  simp only [h, List.replicate_one]
  exact List.flatMap_singleton' notices

namespace FileRegistry

/-- What the polls do that find one reading after the other. -/
def outcomes (file : FileRegistry) : List Reading → List PollOutcome
  | [] => []
  | reading :: rest => file.poll reading :: (file.poll reading).registry.outcomes rest

/-- What reaches the handlers in the course of the polls. -/
def allDeliveries (file : FileRegistry) (readings : List Reading) : List Delivery :=
  (file.outcomes readings).flatMap (·.deliveries)

/-- What a handler is told in the course of the polls begins with what the first one tells. -/
theorem received_allDeliveries_cons (file : FileRegistry) (handler : Handler) (reading : Reading)
    (rest : List Reading) :
    Registry.received handler (file.allDeliveries (reading :: rest)) =
      Registry.received handler (file.poll reading).deliveries ++
        Registry.received handler ((file.poll reading).registry.allDeliveries rest) := by
  simp [allDeliveries, outcomes, Registry.received]

/-- The registry of a file with handlers, appended one after the other. -/
def listening (file : FileRegistry) (handlers : List (HandlerKind × Handler)) : FileRegistry :=
  handlers.foldl (fun file handler => file.appendHandler handler.1 handler.2) file

theorem registry_listening (file : FileRegistry) (handlers : List (HandlerKind × Handler)) :
    (file.listening handlers).registry =
      handlers.foldl (fun registry handler => registry.appendHandler handler.1 handler.2)
        file.registry := by
  induction handlers generalizing file with
  | nil => rfl
  | cons handler rest ih => exact ih (file.appendHandler handler.1 handler.2)

/-- A poll leaves the registry alone, or replaces its contents with a catalog that is well-formed
    and tells of it. -/
theorem poll_cases (file : FileRegistry) (reading : Reading) :
    ((file.poll reading).registry = file ∧ (file.poll reading).deliveries = []) ∨
      ∃ next : Catalog, next.WellFormed ∧
        (file.poll reading).registry.registry = file.registry.mutate (.replace next) ∧
        (file.poll reading).deliveries = file.registry.deliveries (.replace next) := by
  rw [poll]
  split
  · rw [sync]
    cases reading with
    | error source => exact Or.inl ⟨rfl, rfl⟩
    | ok bytes =>
        cases hread : Catalog.ofBytes bytes with
        | error offence =>
            simp only [Catalog.ofReading, hread]
            exact Or.inl ⟨trivial, trivial⟩
        | ok next =>
            simp only [Catalog.ofReading, hread]
            exact Or.inr ⟨next, Catalog.wellFormed_of_ofBytes hread, rfl, rfl⟩
  · exact Or.inl ⟨rfl, rfl⟩

theorem registry_stop (file : FileRegistry) : file.stop.registry = file.registry := by
  rw [stop]
  split <;> rfl

/-- One who listens to a registry that holds a well-formed catalog and follows its polls knows
    nothing that is not coherent. -/
theorem coherent_while_polled {file : FileRegistry} {handler : Handler}
    (hcatalog : file.registry.catalog.WellFormed)
    (hlistens : ∀ notice, (file.registry.handlersOf notice).count handler = 1)
    {readings : List Reading} {told : List Notice}
    (hbegins : told <+: Registry.received handler (file.allDeliveries readings)) :
    ((Mirror.ofCatalog file.registry.catalog).follow told).Coherent := by
  induction readings generalizing file told with
  | nil =>
      obtain rfl := List.prefix_nil.mp hbegins
      exact Mirror.coherent_ofCatalog hcatalog.coherent
  | cons reading rest ih =>
      rw [received_allDeliveries_cons] at hbegins
      rcases file.poll_cases reading with ⟨hsame, hsilent⟩ | ⟨next, hnext, hregistry, hdeliveries⟩
      · rw [hsame, hsilent] at hbegins
        exact ih hcatalog hlistens hbegins
      · have hleads :=
          Mutation.leads hcatalog.keyed (show (Mutation.replace next).Keyed from hnext.keyed)
        rw [hdeliveries, Registry.deliveries,
          Registry.received_deliver_of_once hlistens] at hbegins
        -- what was told ends within this poll, or in the course of those after it
        rcases prefix_append_cases hbegins with hnow | ⟨later, rfl, hlater⟩
        · exact hleads.coherent_while_told hcatalog.coherent hnext.coherent hnow
        · rw [Mirror.follow_append, hleads.follow]
          have hcatalog' : (file.poll reading).registry.registry.catalog = next := by
            rw [hregistry]
            rfl
          have hnext' : (file.poll reading).registry.registry.catalog.WellFormed :=
            hcatalog' ▸ hnext
          have hcoherent := ih hnext' (by rw [hregistry]; exact hlistens) hlater
          rwa [hcatalog'] at hcoherent

/-- A registry is loaded from the bytes of a catalog. -/
theorem load_of_ofBytes {bytes : Bytes} {catalog : Catalog}
    (hread : Catalog.ofBytes bytes = .ok catalog) (path : String) {interval : Nat}
    (hinterval : 0 < interval) :
    load path interval (.ok bytes) = .ok ⟨path, { catalog := catalog }, .polling⟩ := by
  rw [load, Catalog.ofReading, hread]
  simp only [if_neg (Nat.ne_of_gt hinterval)]

theorem registry_of_load {path : String} {interval : Nat} {reading : Reading}
    {file : FileRegistry} (h : load path interval reading = .ok file) :
    ∃ catalog : Catalog, catalog.WellFormed ∧ file.registry = { catalog := catalog } := by
  rw [load] at h
  cases reading with
  | error source => exact nomatch h
  | ok bytes =>
      cases hread : Catalog.ofBytes bytes with
      | error offence =>
          simp only [Catalog.ofReading, hread] at h
          exact nomatch h
      | ok catalog =>
          simp only [Catalog.ofReading, hread] at h
          obtain rfl := Except.ok.inj h
          exact ⟨catalog, Catalog.wellFormed_of_ofBytes hread, rfl⟩

/-- No instance is known without its service. Between any two catalogs that were read from files,
    after any number of the notices that one gives way to the other, every known instance carries
    the service that is known under its host name. So does it after any number of the notices that
    reach one who listens to a registry that follows a file, whatever the polls find in it. -/
theorem told_coherent :
    (∀ bytes bytes' before after,
      Catalog.ofBytes bytes = .ok before → Catalog.ofBytes bytes' = .ok after →
      ∀ told, told <+: ((Mutation.replace after).changes before).notices →
        ((Mirror.ofCatalog before).follow told).Coherent) ∧
    (∀ path interval reading file, load path interval reading = .ok file →
      ∀ handlers handler, (∀ kind, handlers.count (kind, handler) = 1) →
      ∀ readings told,
        told <+: Registry.received handler ((file.listening handlers).allDeliveries readings) →
        ((Mirror.ofCatalog file.registry.catalog).follow told).Coherent) := by
  constructor
  · intro bytes bytes' before after hbefore hafter told hbegins
    have hfrom := Catalog.wellFormed_of_ofBytes hbefore
    have hto := Catalog.wellFormed_of_ofBytes hafter
    have hleads := Mutation.leads hfrom.keyed (show (Mutation.replace after).Keyed from hto.keyed)
    exact hleads.coherent_while_told hfrom.coherent hto.coherent hbegins
  · intro path interval reading file hload handlers handler honce readings told hbegins
    obtain ⟨catalog, hcatalog, hregistry⟩ := registry_of_load hload
    have hlistening : (file.listening handlers).registry = Registry.listening catalog handlers := by
      rw [registry_listening, hregistry, Registry.listening]
    have hheld : (file.listening handlers).registry.catalog = file.registry.catalog := by
      rw [hlistening, Registry.catalog_listening, hregistry]
    rw [← hheld]
    refine coherent_while_polled ?_ (fun notice => ?_) hbegins
    · rw [hheld, hregistry]
      exact hcatalog
    · rw [hlistening, Registry.count_handlersOf_listening]
      exact honce notice.kind

/-- A listing of a catalog in which the service has one port more and no tag. -/
def changedListing : CatalogListing where
  services := [⟨"reviews", some "default", ∅, [⟨"http", 9080, .http⟩, ⟨"grpc", 9090, .grpc⟩]⟩]
  instances := [⟨"reviews.default", "10.0.0.1", 8080, some "http", none⟩]
  managementPorts := []
  serviceAccounts := []

/-- The catalog that is listed. -/
def changed : Catalog where
  services := .ofList [("reviews.default", ⟨"reviews", some "default", ∅,
    [⟨"http", 9080, .http⟩, ⟨"grpc", 9090, .grpc⟩]⟩)]
  instances := [⟨⟨"10.0.0.1", 8080, ⟨"http", 9080, .http⟩⟩, ⟨"reviews", some "default", ∅,
    [⟨"http", 9080, .http⟩, ⟨"grpc", 9090, .grpc⟩]⟩, none⟩]
  managementPorts := ∅
  serviceAccounts := ∅

/-- The instance goes, the service changes, and the instance comes back with the new service. Half
    way through, nothing dangles, also for one who listens to a registry that follows the file. -/
theorem changed_coherent :
    ((Mutation.replace changed).changes Catalog.small).notices.map Notice.kind
      = [.instances, .services, .instances] ∧
    (∀ n, ((Mirror.ofCatalog Catalog.small).follow
      (((Mutation.replace changed).changes Catalog.small).notices.take n)).Coherent) ∧
    ∃ file, load "catalog.json" 1000 (.ok (Text.bytes Catalog.smallListing.toJson.compact))
        = .ok file ∧
      ∀ n, ((Mirror.ofCatalog file.registry.catalog).follow ((Registry.received 7
        ((file.listening [(.services, 7), (.instances, 7)]).allDeliveries
          [.ok (Text.bytes changedListing.toJson.compact)])).take n)).Coherent := by
  have hsmall := (Catalog.ofBytes_compact Catalog.smallListing).trans
    (by decide +kernel : _ = Except.ok Catalog.small)
  have hchanged := (Catalog.ofBytes_compact changedListing).trans
    (by decide +kernel : _ = Except.ok changed)
  obtain ⟨hbetween, hpolls⟩ := told_coherent
  refine ⟨by decide +kernel, fun n => hbetween _ _ _ _ hsmall hchanged _ (List.take_prefix n _), ?_⟩
  have hload := load_of_ofBytes hsmall "catalog.json" (by decide : 0 < 1000)
  refine ⟨_, hload, fun n => hpolls _ _ _ _ hload [(.services, 7), (.instances, 7)] 7 ?_ _ _
    (List.take_prefix n _)⟩
  intro kind
  cases kind <;> decide

end FileRegistry

end MeshSidecar
