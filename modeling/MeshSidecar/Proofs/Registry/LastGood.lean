import MeshSidecar.Proofs.Registry.Coherence
import MeshSidecar.Proofs.Registry.Difference

/-!
# The last good file

A registry that follows a file holds the catalog of the last good file, the first one included,
whatever came between and after (`FileRegistry.polled_eq`). A poll of anything else is not noticed
but for a warning. What a poll of a good file tells of is its difference from the last good one, and
it tells each part of it just once exactly if no instance that only one of the two lists is listed
there twice (`FileRegistry.followsPoll`). A file may do that, and then the difference is told twice
(`FileRegistry.doubled_told_twice`). Over any number of polls, what is told leads from the first
catalog to the last good one all the same (`FileRegistry.follow_polls`).
-/

namespace MeshSidecar

-- ── Polls ───────────────────────────────────────────────────────────────────

/-- The catalog in what was read of a file, if it is a good one. -/
def Reading.good? : Reading → Option Catalog
  | .error _ => none
  | .ok bytes => (Catalog.ofBytes bytes).toOption

namespace Reading

variable {reading : Reading} {next : Catalog}

theorem good?_eq (reading : Reading) (path : String) :
    reading.good? = (Catalog.ofReading path reading).toOption := by
  cases reading <;> rfl

theorem good?_of_ofBytes {bytes : Bytes} (h : Catalog.ofBytes bytes = .ok next) :
    good? (.ok bytes) = some next := by
  rw [good?, h]
  rfl

theorem ofReading_of_good (h : reading.good? = some next) (path : String) :
    Catalog.ofReading path reading = .ok next := by
  rw [good?_eq reading path] at h
  cases hread : Catalog.ofReading path reading with
  | error warning =>
      rw [hread] at h
      cases h
  | ok found =>
      rw [hread] at h
      rw [Option.some.inj h]

theorem wellFormed_of_good (h : reading.good? = some next) : next.WellFormed := by
  cases reading with
  | error source => cases h
  | ok bytes => exact Catalog.wellFormed_of_ofBytes (ofReading_of_good h "")

end Reading

/-- The catalog in the last good one of some readings, or else the one before them. -/
def Catalog.lastGood (first : Catalog) (readings : List Reading) : Catalog :=
  (readings.filterMap Reading.good?).getLastD first

namespace Catalog

theorem lastGood_cons_of_bad (first : Catalog) {reading : Reading} (hbad : reading.good? = none)
    (rest : List Reading) : first.lastGood (reading :: rest) = first.lastGood rest := by
  rw [lastGood, List.filterMap_cons_none hbad, lastGood]

theorem lastGood_cons_of_good (first : Catalog) {reading : Reading} {next : Catalog}
    (hgood : reading.good? = some next) (rest : List Reading) :
    first.lastGood (reading :: rest) = next.lastGood rest := by
  rw [lastGood, List.filterMap_cons_some hgood, List.getLastD_cons, lastGood]

theorem wellFormed_lastGood {first : Catalog} (hfirst : first.WellFormed)
    (readings : List Reading) : (first.lastGood readings).WellFormed := by
  induction readings generalizing first with
  | nil => exact hfirst
  | cons reading rest ih =>
      cases hgood : reading.good? with
      | none =>
          rw [lastGood_cons_of_bad first hgood]
          exact ih hfirst
      | some next =>
          rw [lastGood_cons_of_good first hgood]
          exact ih (Reading.wellFormed_of_good hgood)

end Catalog

namespace FileRegistry

/-- The registry with another catalog. -/
def holding (file : FileRegistry) (catalog : Catalog) : FileRegistry :=
  { file with registry := { file.registry with catalog } }

theorem handlersOf_holding (file : FileRegistry) (catalog : Catalog) (notice : Notice) :
    (file.holding catalog).registry.handlersOf notice = file.registry.handlersOf notice := by
  cases notice <;> rfl

/-- The registry after polls that find one reading after the other. -/
def polled (file : FileRegistry) (readings : List Reading) : FileRegistry :=
  readings.foldl (fun file reading => (file.poll reading).registry) file

/-- A poll that finds no good catalog leaves everything as it is, and warns. -/
theorem poll_of_bad {file : FileRegistry} {reading : Reading} (hpolling : file.state = .polling)
    (hbad : reading.good? = none) :
    ∃ warning, Catalog.ofReading file.path reading = .error warning ∧
      file.poll reading = ⟨file, [], some warning⟩ := by
  rw [Reading.good?_eq reading file.path] at hbad
  cases hread : Catalog.ofReading file.path reading with
  | error warning =>
      refine ⟨warning, rfl, ?_⟩
      rw [poll, if_pos hpolling, sync, hread]
  | ok next =>
      rw [hread] at hbad
      cases hbad

/-- A poll that finds a good catalog replaces what is held, and tells of it. -/
theorem poll_of_good {file : FileRegistry} {reading : Reading} {next : Catalog}
    (hpolling : file.state = .polling) (hgood : reading.good? = some next) :
    file.poll reading =
      ⟨file.holding next, file.registry.deliveries (.replace next), none⟩ := by
  rw [poll, if_pos hpolling, sync, Reading.ofReading_of_good hgood]
  rfl

/-- After any number of polls the last good catalog is held, and nothing else has changed. -/
theorem polled_eq {file : FileRegistry} (hpolling : file.state = .polling)
    (readings : List Reading) :
    file.polled readings = file.holding (file.registry.catalog.lastGood readings) := by
  induction readings generalizing file with
  | nil => rfl
  | cons reading rest ih =>
      show (file.poll reading).registry.polled rest = _
      cases hgood : reading.good? with
      | none =>
          obtain ⟨warning, -, hpoll⟩ := poll_of_bad hpolling hgood
          rw [hpoll, ih hpolling, Catalog.lastGood_cons_of_bad _ hgood]
      | some next =>
          have hpoll := poll_of_good hpolling hgood
          have hnext : (file.holding next).polled rest =
              (file.holding next).holding (next.lastGood rest) := ih hpolling
          rw [hpoll, hnext, Catalog.lastGood_cons_of_good _ hgood]
          rfl

/-- What is told over any number of polls leads to the last good catalog. -/
theorem follow_polls {file : FileRegistry} {handler : Handler} (hpolling : file.state = .polling)
    (hcatalog : file.registry.catalog.WellFormed)
    (hlistens : ∀ notice, (file.registry.handlersOf notice).count handler = 1)
    (readings : List Reading) :
    (Mirror.ofCatalog file.registry.catalog).follow
        (Registry.received handler (file.allDeliveries readings)) =
      Mirror.ofCatalog (file.registry.catalog.lastGood readings) := by
  induction readings generalizing file with
  | nil => rfl
  | cons reading rest ih =>
      rw [received_allDeliveries_cons]
      cases hgood : reading.good? with
      | none =>
          obtain ⟨warning, -, hpoll⟩ := poll_of_bad hpolling hgood
          rw [hpoll, Catalog.lastGood_cons_of_bad _ hgood]
          exact ih hpolling hcatalog hlistens
      | some next =>
          have hpoll := poll_of_good hpolling hgood
          have hnext := Reading.wellFormed_of_good hgood
          have hleads :=
            Mutation.leads hcatalog.keyed (show (Mutation.replace next).Keyed from hnext.keyed)
          have hpolling' : (file.holding next).state = .polling := hpolling
          have hlater := ih hpolling' hnext fun notice => by rw [handlersOf_holding, hlistens]
          rw [hpoll, Catalog.lastGood_cons_of_good _ hgood, Registry.deliveries,
            Registry.received_deliver_of_once hlistens, Mirror.follow_append, hleads.follow]
          exact hlater

/-- What a poll does to a registry that holds a catalog. If it finds no good catalog, then it warns
    once, tells nothing and changes nothing. If it finds one, then it does not warn, and all of it
    is taken over. Each handler is told of what the two catalogs differ in and of nothing else: of a
    service once and of an instance as often as it is listed, every time that the handler was
    appended. So it is told exactly the difference, unless it listens to instances and one of those
    that only one of the catalogs lists is listed there twice. It is told nothing if the services
    and the instances are the same. -/
structure FollowsPoll (path : String) (handlers : List (HandlerKind × Handler)) (held : Catalog)
    (file : FileRegistry) (reading : Reading) : Prop where
  passedOver : reading.good? = none →
    ∃ warning, Catalog.ofReading path reading = .error warning ∧
      file.poll reading = ⟨file, [], some warning⟩
  takenOver : ∀ next, reading.good? = some next →
    (file.poll reading).warning = none ∧
      (file.poll reading).registry.registry.catalog = next
  told : ∀ next, reading.good? = some next → ∀ handler notice,
    (held.Differ next notice →
      (Registry.received handler (file.poll reading).deliveries).count notice =
        handlers.count (notice.kind, handler) * notice.copies held next) ∧
    (¬ held.Differ next notice →
      notice ∉ Registry.received handler (file.poll reading).deliveries)
  exact : ∀ next, reading.good? = some next → ∀ handler,
    held.TellsDifference next (fun kind => handlers.count (kind, handler))
        (Registry.received handler (file.poll reading).deliveries) ↔
      handlers.count (.instances, handler) = 0 ∨
        ∀ inst ∈ symmDiff held.instances.toFinset next.instances.toFinset,
          (held.instances ++ next.instances).count inst = 1
  silent : ∀ next, reading.good? = some next →
    next.services = held.services → next.instances = held.instances →
      (file.poll reading).deliveries = []

section

variable {file : FileRegistry} {reading : Reading} {next : Catalog}
  (hpolling : file.state = .polling) (hcatalog : file.registry.catalog.WellFormed)
  (hgood : reading.good? = some next)
include hpolling hcatalog hgood

/-- A poll of a good catalog tells of what it differs in from the one that is held, of each part as
    often as there are copies of it. -/
theorem count_of_good (handler : Handler) {notice : Notice}
    (hdiffer : file.registry.catalog.Differ next notice) :
    (Registry.received handler (file.poll reading).deliveries).count notice =
      (file.registry.handlersOf notice).count handler *
        notice.copies file.registry.catalog next := by
  have hnext := Reading.wellFormed_of_good hgood
  rw [poll_of_good hpolling hgood, Registry.deliveries, Registry.count_received_deliver,
    Changes.count_notices_between hcatalog.keyed hnext.keyed hdiffer]

/-- It tells of nothing else. -/
theorem differ_of_heard {handler : Handler} {notice : Notice}
    (hheard : notice ∈ Registry.received handler (file.poll reading).deliveries) :
    file.registry.catalog.Differ next notice := by
  have hnext := Reading.wellFormed_of_good hgood
  rw [poll_of_good hpolling hgood, Registry.deliveries, Registry.received_deliver] at hheard
  obtain ⟨told, htold, hcopy⟩ := List.mem_flatMap.mp hheard
  obtain rfl := List.eq_of_mem_replicate hcopy
  exact (Changes.mem_notices_between hcatalog.keyed hnext.keyed).mp htold

end

theorem followsPoll {file : FileRegistry} {handlers : List (HandlerKind × Handler)}
    (hpolling : file.state = .polling) (hcatalog : file.registry.catalog.WellFormed)
    (hhandlers : ∀ notice handler,
      (file.registry.handlersOf notice).count handler = handlers.count (notice.kind, handler))
    (reading : Reading) :
    FollowsPoll file.path handlers file.registry.catalog file reading where
  passedOver hbad := poll_of_bad hpolling hbad
  takenOver next hgood := by
    rw [poll_of_good hpolling hgood]
    exact ⟨rfl, rfl⟩
  told next hgood handler notice := by
    constructor
    · intro hdiffer
      rw [← hhandlers]
      exact count_of_good hpolling hcatalog hgood handler hdiffer
    · intro hnot hheard
      exact hnot (differ_of_heard hpolling hcatalog hgood hheard)
  exact next hgood handler := by
    refine Catalog.tellsDifference_iff (fun notice hdiffer => ?_) fun notice hheard =>
      differ_of_heard hpolling hcatalog hgood hheard
    rw [← hhandlers]
    exact count_of_good hpolling hcatalog hgood handler hdiffer
  silent next hgood hservices hinstances := by
    have hnext := Reading.wellFormed_of_good hgood
    have hleads :=
      Mutation.leads hcatalog.keyed (show (Mutation.replace next).Keyed from hnext.keyed)
    have hsame : Mirror.ofCatalog next = Mirror.ofCatalog file.registry.catalog :=
      Mirror.ofCatalog_eq_iff.mpr ⟨hservices, congrArg List.toFinset hinstances⟩
    rw [poll_of_good hpolling hgood, Registry.deliveries, hleads.notices_eq_nil_iff.mpr hsame]
    rfl

/-- A registry that was loaded keeps all but its handlers when some are appended. -/
theorem listening_eq (path : String) (catalog : Catalog) (state : PollState)
    (handlers : List (HandlerKind × Handler)) :
    (⟨path, { catalog := catalog }, state⟩ : FileRegistry).listening handlers =
      ⟨path, Registry.listening catalog handlers, state⟩ := by
  have hall : ∀ registry, (⟨path, registry, state⟩ : FileRegistry).listening handlers =
      ⟨path, handlers.foldl (fun registry handler => registry.appendHandler handler.1 handler.2)
        registry, state⟩ := by
    induction handlers with
    | nil => exact fun registry => rfl
    | cons handler rest ih => exact fun registry => ih _
  exact hall _

/-- A registry that follows a file always holds the last good catalog, the first one included: all
    of it after any number of polls, whatever they found. Each poll does what it does to a registry
    that holds it. And one who listens for both kinds and follows what is told over any number of
    polls gets from the first catalog to the last good one, whatever came between. -/
theorem holds_last_good {bytes : Bytes} {first : Catalog}
    (hfirst : Catalog.ofBytes bytes = .ok first) (path : String) {interval : Nat}
    (hinterval : 0 < interval) (handlers : List (HandlerKind × Handler)) :
    ∃ file, load path interval (.ok bytes) = .ok file ∧
      (∀ readings, ((file.listening handlers).polled readings).registry.catalog =
        first.lastGood readings) ∧
      (∀ readings reading, FollowsPoll path handlers (first.lastGood readings)
        ((file.listening handlers).polled readings) reading) ∧
      ∀ handler, (∀ kind, handlers.count (kind, handler) = 1) → ∀ readings,
        (Mirror.ofCatalog first).follow
            (Registry.received handler ((file.listening handlers).allDeliveries readings)) =
          Mirror.ofCatalog (first.lastGood readings) := by
  have hfrom := Catalog.wellFormed_of_ofBytes hfirst
  refine ⟨_, load_of_ofBytes hfirst path hinterval, ?_⟩
  rw [listening_eq]
  generalize hfile : (⟨path, Registry.listening first handlers, .polling⟩ : FileRegistry) = file
  have hpolling : file.state = .polling := by rw [← hfile]
  have hpath : file.path = path := by rw [← hfile]
  have hheld : file.registry.catalog = first := by
    rw [← hfile, Registry.catalog_listening]
  have hhandlers : ∀ notice handler,
      (file.registry.handlersOf notice).count handler = handlers.count (notice.kind, handler) := by
    rw [← hfile]
    exact Registry.count_handlersOf_listening first handlers
  refine ⟨fun readings => ?held, fun readings reading => ?poll, fun handler honce readings => ?net⟩
  case held =>
    rw [polled_eq hpolling, hheld]
    rfl
  case poll =>
    rw [polled_eq hpolling, hheld, ← hpath]
    have hpolling' : (file.holding (first.lastGood readings)).state = .polling := hpolling
    refine followsPoll hpolling' (Catalog.wellFormed_lastGood hfrom readings) ?_ reading
    intro notice handler
    rw [handlersOf_holding, hhandlers]
  case net =>
    have hfollow := follow_polls hpolling (hheld ▸ hfrom)
      (fun notice => (hhandlers notice handler).trans (honce notice.kind)) readings
    rwa [hheld] at hfollow

/-- What is found in the file: another catalog, then nothing, then half of a document. -/
def troubledReadings : List Reading :=
  [.ok (Text.bytes changedListing.toJson.compact), .error (.system .notFound), .ok [123]]

/-- The other catalog is taken over, and its difference from the first one is told: the instance is
    deleted, the service updated and the instance added again, with the new service. It is held
    while the file is gone and when it is malformed, and one who listens knows it. -/
theorem changed_held :
    ∃ file, load "catalog.json" 1000 (.ok (Text.bytes Catalog.smallListing.toJson.compact))
        = .ok file ∧
      ((file.listening [(.services, 7), (.instances, 7)]).polled troubledReadings).registry.catalog
        = changed ∧
      Catalog.small.TellsDifference changed (fun _ => 1)
        (Registry.received 7 ((file.listening [(.services, 7), (.instances, 7)]).poll
          (.ok (Text.bytes changedListing.toJson.compact))).deliveries) ∧
      (Mirror.ofCatalog Catalog.small).follow (Registry.received 7
          ((file.listening [(.services, 7), (.instances, 7)]).allDeliveries troubledReadings)) =
        Mirror.ofCatalog changed := by
  have hsmall := (Catalog.ofBytes_compact Catalog.smallListing).trans
    (by decide +kernel : _ = Except.ok Catalog.small)
  have hchanged := (Catalog.ofBytes_compact changedListing).trans
    (by decide +kernel : _ = Except.ok changed)
  have hgood := Reading.good?_of_ofBytes hchanged
  have hmalformed : Reading.good? (.ok [123]) = none := by decide +kernel
  have hlast : Catalog.small.lastGood troubledReadings = changed := by
    rw [troubledReadings, Catalog.lastGood_cons_of_good _ hgood,
      Catalog.lastGood_cons_of_bad _ rfl, Catalog.lastGood_cons_of_bad _ hmalformed]
    rfl
  have honce : ∀ kind : HandlerKind,
      [(HandlerKind.services, 7), (HandlerKind.instances, 7)].count (kind, 7) = 1 := by
    rintro (_ | _) <;> decide
  obtain ⟨file, hload, hheld, hpoll, hnet⟩ := holds_last_good hsmall "catalog.json"
    (by decide : 0 < 1000) [(.services, 7), (.instances, 7)]
  refine ⟨file, hload, (hheld _).trans hlast, ?_, ?_⟩
  · have hexact := ((hpoll [] _).exact changed hgood 7).mpr (Or.inr (by decide +kernel))
    rwa [funext honce] at hexact
  · rw [hnet 7 honce troubledReadings, hlast]

/-- A listing of a service and of one and the same instance, a number of times. -/
def reviewsListing (copies : Nat) : CatalogListing where
  services := [⟨"reviews", none, ∅, [⟨"http", 9080, .http⟩]⟩]
  instances := List.replicate copies ⟨"reviews", "10.0.0.1", 8080, some "http", none⟩
  managementPorts := []
  serviceAccounts := []

/-- The catalog that is listed. -/
def reviewsCatalog (copies : Nat) : Catalog where
  services := .ofList [("reviews", Registry.reviews)]
  instances := List.replicate copies Registry.firstReviews
  managementPorts := ∅
  serviceAccounts := ∅

/-- When a good file that lists an instance gives way to a good one that does not, the instance is
    told to be deleted as often as it was listed. So if it was listed twice, the poll does not tell
    exactly the difference. -/
theorem doubled_told_twice :
    ∃ file, load "catalog.json" 1000 (.ok (Text.bytes (reviewsListing 2).toJson.compact))
        = .ok file ∧ file.registry.catalog = reviewsCatalog 2 ∧
      Reading.good? (.ok (Text.bytes (reviewsListing 0).toJson.compact))
        = some (reviewsCatalog 0) ∧
      Registry.received 7 ((file.listening [(.services, 7), (.instances, 7)]).poll
          (.ok (Text.bytes (reviewsListing 0).toJson.compact))).deliveries
        = [.instanceChanged Registry.firstReviews .delete,
            .instanceChanged Registry.firstReviews .delete] ∧
      (reviewsCatalog 2).Differ (reviewsCatalog 0)
        (.instanceChanged Registry.firstReviews .delete) ∧
      ¬ (reviewsCatalog 2).TellsDifference (reviewsCatalog 0) (fun _ => 1)
        (Registry.received 7 ((file.listening [(.services, 7), (.instances, 7)]).poll
          (.ok (Text.bytes (reviewsListing 0).toJson.compact))).deliveries) := by
  have hdoubled := (Catalog.ofBytes_compact (reviewsListing 2)).trans
    (by decide +kernel : _ = Except.ok (reviewsCatalog 2))
  have hnone := (Catalog.ofBytes_compact (reviewsListing 0)).trans
    (by decide +kernel : _ = Except.ok (reviewsCatalog 0))
  have hgood := Reading.good?_of_ofBytes hnone
  have hload := load_of_ofBytes hdoubled "catalog.json" (by decide : 0 < 1000)
  have hheard : Registry.received 7
      ((FileRegistry.listening ⟨"catalog.json", { catalog := reviewsCatalog 2 }, .polling⟩
        [(.services, 7), (.instances, 7)]).poll
          (.ok (Text.bytes (reviewsListing 0).toJson.compact))).deliveries
        = [.instanceChanged Registry.firstReviews .delete,
            .instanceChanged Registry.firstReviews .delete] := by
    rw [listening_eq, poll_of_good rfl hgood]
    decide +kernel
  have hdiffer : (reviewsCatalog 2).Differ (reviewsCatalog 0)
      (.instanceChanged Registry.firstReviews .delete) :=
    .instanceDeleted (by decide +kernel) (by decide +kernel)
  refine ⟨_, hload, rfl, hgood, hheard, hdiffer, ?_⟩
  intro hexact
  have honce := (hexact _).1 hdiffer
  rw [hheard] at honce
  exact absurd honce (by decide +kernel)

end FileRegistry

end MeshSidecar
