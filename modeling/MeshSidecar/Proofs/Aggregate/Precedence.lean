import MeshSidecar.Proofs.Aggregate.Nesting
import MeshSidecar.Proofs.Proxy.Routes

/-!
# Who provides a host name

Two things decide which service counts for a host name that several registries know: an aggregate
finds the one of the first registry that has it, and a configuration is generated from the first one
in the list of all services. They agree (`Aggregate.generate_eq_of_found`). A list has the same
configuration, or the same offence, as the services that are found under its host names in the order
in which these first appear, and what an aggregate finds is the first service of its list with that
host name. So a registry has no say in a host name that an earlier one provides.
-/

namespace MeshSidecar

/-- The host names of services, in the order in which they first appear. -/
def hostnamesOf (services : List Service) : List String :=
  (services.map Service.hostname).eraseDups

-- ── Services that count, in order ───────────────────────────────────────────

/-- A service is not found under host names other than its own. -/
theorem filterMap_find?_cons {first : Service} {rest : List Service} {hostnames : List String}
    (h : first.hostname ∉ hostnames) :
    (hostnames.filterMap fun hostname => (first :: rest).find? (·.hostname = hostname)) =
      hostnames.filterMap fun hostname => rest.find? (·.hostname = hostname) := by
  refine List.filterMap_congr fun hostname hmem => ?_
  have hne : first.hostname ≠ hostname := fun heq => h (heq ▸ hmem)
  rw [List.find?_cons_of_neg (by simpa using hne)]

/-- What is kept of a list are the first services of its host names that were not seen, in the order
    in which these appear. -/
theorem firstOfEachHost_eq_filterMap (seen : List String) (services : List Service) :
    firstOfEachHost seen services =
      (((services.map Service.hostname).filter (· ∉ seen)).eraseDups).filterMap fun hostname =>
        services.find? (·.hostname = hostname) := by
  induction services generalizing seen with
  | nil => rfl
  | cons first rest ih =>
      rw [firstOfEachHost, List.map_cons]
      by_cases hseen : first.hostname ∈ seen
      · rw [if_pos (List.contains_iff_mem.mpr hseen), ih,
          List.filter_cons_of_neg (by simpa using hseen), filterMap_find?_cons]
        rw [List.mem_eraseDups, List.mem_filter]
        exact fun hmem => of_decide_eq_true hmem.2 hseen
      · have hfind : (first :: rest).find? (·.hostname = first.hostname) = some first :=
          List.find?_cons_of_pos (decide_eq_true rfl)
        have hfilter : ((rest.map Service.hostname).filter (· ∉ seen)).filter
            (fun hostname => !hostname == first.hostname)
              = (rest.map Service.hostname).filter (· ∉ first.hostname :: seen) := by
          rw [List.filter_filter]
          refine List.filter_congr fun hostname _ => Bool.eq_iff_iff.mpr ?_
          simp
        rw [if_neg (by simpa using hseen), ih, List.filter_cons_of_pos (by simpa using hseen),
          List.eraseDups_cons, hfilter, List.filterMap_cons, hfind, filterMap_find?_cons]
        rw [List.mem_eraseDups, List.mem_filter]
        exact fun hmem => of_decide_eq_true hmem.2 (List.mem_cons_self ..)

/-- The services that count are the first services of the host names, in order. -/
theorem firstOfEachHost_nil_eq (services : List Service) :
    firstOfEachHost [] services =
      (hostnamesOf services).filterMap fun hostname =>
        services.find? (·.hostname = hostname) := by
  rw [firstOfEachHost_eq_filterMap, hostnamesOf, List.filter_eq_self.mpr fun _ _ => by simp]

/-- A list in which every service counts is kept as it is. -/
theorem firstOfEachHost_eq_self {seen : List String} {services : List Service}
    (hnew : ∀ service ∈ services, service.hostname ∉ seen)
    (hapart : services.Pairwise fun a b => a.hostname ≠ b.hostname) :
    firstOfEachHost seen services = services := by
  induction services generalizing seen with
  | nil => rfl
  | cons first rest ih =>
      obtain ⟨hfirst, hrest⟩ := List.pairwise_cons.mp hapart
      have hunseen := hnew first (List.mem_cons_self ..)
      rw [firstOfEachHost, if_neg (by simpa using hunseen), ih _ hrest]
      intro service hmem hseen
      rcases List.mem_cons.mp hseen with heq | hseen
      · exact hfirst service hmem heq.symm
      · exact hnew service (List.mem_cons_of_mem _ hmem) hseen

/-- All that matters of a list are the services that count. -/
theorem Config.generate_congr {first second : List Service} (mesh : MeshSettings)
    (h : firstOfEachHost [] first = firstOfEachHost [] second) :
    Config.generate first mesh = Config.generate second mesh := by
  rw [generate, generate, routesOf, routesOf, h]

/-- Services whose host names were seen are as good as not there. -/
theorem firstOfEachHost_filter {p : Service → Bool} {seen : List String} {services : List Service}
    (h : ∀ service : Service, service.hostname ∉ seen → p service = true) :
    firstOfEachHost seen (services.filter p) = firstOfEachHost seen services := by
  induction services generalizing seen with
  | nil => rfl
  | cons first rest ih =>
      have hlater : ∀ service : Service, service.hostname ∉ first.hostname :: seen →
          p service = true := fun service hnew => h service (List.not_mem_of_not_mem_cons hnew)
      by_cases hseen : first.hostname ∈ seen
      · have hskip : ∀ services, firstOfEachHost seen (first :: services) =
            firstOfEachHost seen services := fun services => by
          rw [firstOfEachHost, if_pos (List.contains_iff_mem.mpr hseen)]
        rw [hskip, List.filter_cons]
        split
        · rw [hskip, ih h]
        · exact ih h
      · rw [List.filter_cons_of_pos (h first hseen), firstOfEachHost, firstOfEachHost,
          if_neg (by simpa using hseen), if_neg (by simpa using hseen), ih hlater]

/-- After some services two lists are kept alike if they agree on all services whose host names are
    not among those. -/
theorem firstOfEachHost_append_congr (p : Service → Bool) {seen : List String}
    {before first second : List Service}
    (hp : ∀ service : Service, service.hostname ∉ seen →
      service.hostname ∉ before.map Service.hostname → p service = true)
    (h : first.filter p = second.filter p) :
    firstOfEachHost seen (before ++ first) = firstOfEachHost seen (before ++ second) := by
  induction before generalizing seen with
  | nil =>
      have hnew : ∀ service : Service, service.hostname ∉ seen → p service = true :=
        fun service hnew => hp service hnew nofun
      show firstOfEachHost seen first = firstOfEachHost seen second
      rw [← firstOfEachHost_filter hnew, h, firstOfEachHost_filter hnew]
  | cons service rest ih =>
      rw [List.cons_append, List.cons_append, firstOfEachHost, firstOfEachHost]
      split
      · rename_i hseen
        refine ih fun other hnew hrest => hp other hnew fun hmem => ?_
        rcases List.mem_cons.mp hmem with heq | hmem
        · exact hnew (heq ▸ List.contains_iff_mem.mp hseen)
        · exact hrest hmem
      · refine congrArg (service :: ·) (ih fun other hnew hrest => ?_)
        rw [List.mem_cons, not_or] at hnew
        refine hp other hnew.2 fun hmem => ?_
        rcases List.mem_cons.mp hmem with heq | hmem
        · exact hnew.1 heq
        · exact hrest hmem

-- ── Registries that provide a host name ─────────────────────────────────────

/-- The services that do not have a host name are those of the table without it. -/
theorem Catalog.Keyed.values_filter {catalog : Catalog} (h : catalog.Keyed) (hostname : String) :
    catalog.services.values.filter (·.hostname ≠ hostname) =
      (catalog.services.erase hostname).values := by
  rw [NameTable.values, List.filter_map]
  refine congrArg (List.map _) (List.filter_congr fun entry hentry => ?_)
  have hname := h entry.1 entry.2 (NameTable.mem_entries_iff.mp hentry)
  rw [Function.comp_apply, hname]

namespace Source

/-- A registry comes to know another service under a host name, or none, and keeps those under all
    other ones. -/
def ChangesOnly (before : Source) (hostname : String) (after : Source) : Prop :=
  ∀ other, other ≠ hostname → Discovery.service? after other = Discovery.service? before other

theorem ChangesOnly.services_filter {hostname : String} {before after : Source}
    (h : before.ChangesOnly hostname after) (hbefore : before.Reached) (hafter : after.Reached) :
    (Discovery.services after).filter (·.hostname ≠ hostname) =
      (Discovery.services before).filter (·.hostname ≠ hostname) := by
  have hsame : after.catalog.services.erase hostname = before.catalog.services.erase hostname := by
    refine NameTable.ext_get? fun other => ?_
    rw [NameTable.get?_erase, NameTable.get?_erase]
    by_cases heq : hostname = other
    · rw [if_pos heq, if_pos heq]
    · rw [if_neg heq, if_neg heq]
      have hother := h other (Ne.symm heq)
      rwa [service?_eq, service?_eq] at hother
  rw [services_eq, services_eq, hafter.keyed.values_filter, hbefore.keyed.values_filter, hsame]

/-- To store a service changes only what is known under its host name. -/
theorem changesOnly_addService (registry : Registry) (service : Service) :
    (memory registry).ChangesOnly service.hostname
      (.memory (registry.mutate (.addService service))) := by
  intro other hne
  show (registry.catalog.services.insert service.hostname service).get? other = _
  rw [NameTable.get?_insert, if_neg (Ne.symm hne)]
  rfl

/-- So does to remove the service under a host name. -/
theorem changesOnly_removeService (registry : Registry) (hostname : String) :
    (memory registry).ChangesOnly hostname
      (.memory (registry.mutate (.removeService hostname))) := by
  intro other hne
  show ((Mutation.removeService hostname).apply registry.catalog).service? other =
    registry.catalog.service? other
  rw [Mutation.apply]
  split
  · rfl
  · show (registry.catalog.services.erase hostname).get? other = _
    rw [NameTable.get?_erase, if_neg (Ne.symm hne)]
    rfl

end Source

namespace Aggregate

variable {aggregate : Aggregate Source}

/-- What an aggregate finds under a host name is the first service in its list that has it. -/
theorem service?_eq_find? (h : ∀ source ∈ aggregate.leaves, source.Reached) (hostname : String) :
    Discovery.service? aggregate hostname =
      (Discovery.services aggregate).find? (·.hostname = hostname) := by
  have hleaves : aggregate.leaves.map (Discovery.service? · hostname) =
      aggregate.leaves.map fun source =>
        (Discovery.services source).find? (·.hostname = hostname) :=
    List.map_congr_left fun source hsource => ((h source hsource).find?_services hostname).symm
  rw [service?_eq_findSome?, services_eq_flatten, ← List.flatMap_def, List.find?_flatMap,
    ← foldr_orElse, ← foldr_orElse, hleaves]

/-- The services that an aggregate finds under the host names that it lists, in the order in which
    these first appear. -/
def found (aggregate : Aggregate Source) : List Service :=
  (hostnamesOf (Discovery.services aggregate)).filterMap (Discovery.service? aggregate)

theorem found_eq (h : ∀ source ∈ aggregate.leaves, source.Reached) :
    aggregate.found = firstOfEachHost [] (Discovery.services aggregate) := by
  rw [firstOfEachHost_nil_eq, found]
  exact List.filterMap_congr fun hostname _ => service?_eq_find? h hostname

/-- Something is found under every host name that is listed, and it has that host name. -/
theorem hostnames_found (h : ∀ source ∈ aggregate.leaves, source.Reached) :
    aggregate.found.map Service.hostname = hostnamesOf (Discovery.services aggregate) := by
  rw [found, List.map_filterMap]
  refine (List.filterMap_congr fun hostname hlisted => ?_).trans List.filterMap_some
  rw [service?_eq_find? h]
  cases hfind : (Discovery.services aggregate).find? (·.hostname = hostname) with
  | some service =>
      have hhost : service.hostname = hostname := by simpa using List.find?_some hfind
      rw [Option.map_some, hhost]
  | none =>
      obtain ⟨service, hservice, hhost⟩ := List.mem_map.mp (List.mem_eraseDups.mp hlisted)
      exact absurd (decide_eq_true hhost) (List.find?_eq_none.mp hfind service hservice)

/-- A registry that provides a host name lists a service that has it. -/
theorem exists_service_of_provides {source : Source} {hostname : String} (h : source.Reached)
    (hprovides : (Discovery.service? source hostname).isSome) :
    ∃ service ∈ Discovery.services source, service.hostname = hostname := by
  obtain ⟨service, hservice⟩ := Option.isSome_iff_exists.mp hprovides
  rw [← h.find?_services] at hservice
  exact ⟨service, List.mem_of_find?_eq_some hservice, by simpa using List.find?_some hservice⟩

/-- The leaf at a position stands between those before it and those after it. -/
theorem exists_leaves_eq {later : Nat} {last : Source} (h : aggregate.leaves[later]? = some last) :
    ∃ before after, before.length = later ∧ aggregate.leaves = before ++ last :: after ∧
      ∀ changed,
        (aggregate.modify (fun _ => changed) later).leaves = before ++ changed :: after := by
  obtain ⟨hlater, rfl⟩ := List.getElem?_eq_some_iff.mp h
  refine ⟨aggregate.leaves.take later, aggregate.leaves.drop (later + 1),
    List.length_take_of_le (Nat.le_of_lt hlater), ?_, fun changed => ?_⟩
  · rw [← List.drop_eq_getElem_cons hlater, List.take_append_drop]
  · rw [leaves_modify, List.modify_eq_take_cons_drop hlater]

/-- A registry has no say in a host name that an earlier one provides. -/
theorem firstOfEachHost_modify {earlier later : Nat} {hostname : String}
    {first last changed : Source} (h : ∀ source ∈ aggregate.leaves, source.Reached)
    (horder : earlier < later) (hfirst : aggregate.leaves[earlier]? = some first)
    (hprovides : (Discovery.service? first hostname).isSome)
    (hlast : aggregate.leaves[later]? = some last) (hreached : changed.Reached)
    (hchanges : last.ChangesOnly hostname changed) :
    firstOfEachHost [] (Discovery.services (aggregate.modify (fun _ => changed) later)) =
      firstOfEachHost [] (Discovery.services aggregate) := by
  obtain ⟨before, after, rfl, hleaves, hmodify⟩ := exists_leaves_eq hlast
  have hmember : first ∈ before := by
    rw [hleaves, List.getElem?_append_left horder] at hfirst
    exact List.mem_of_getElem? hfirst
  rw [services_eq_flatten, services_eq_flatten aggregate, hmodify, hleaves, List.map_append,
    List.map_append, List.flatten_append, List.flatten_append]
  refine firstOfEachHost_append_congr (·.hostname ≠ hostname) (fun service _ hnew => ?_) ?_
  · refine decide_eq_true fun heq => hnew ?_
    obtain ⟨provided, hprovided, hhost⟩ :=
      exists_service_of_provides (h first (List.mem_of_getElem? hfirst)) hprovides
    rw [heq, ← hhost]
    exact List.mem_map_of_mem
      (List.mem_flatten_of_mem (List.mem_map_of_mem hmember) hprovided)
  · have hold := h last (List.mem_of_getElem? hlast)
    rw [List.map_cons, List.map_cons, List.flatten_cons, List.flatten_cons, List.filter_append,
      List.filter_append, hchanges.services_filter hold hreached]

/-- Both ways to tell who provides a host name agree. A configuration, or the offence instead of
    one, is that of the services which the aggregate finds under the host names that it lists, in
    the order in which these first appear. And it stays as it is, whatever service a registry comes
    to know under a host name that an earlier registry provides. -/
theorem generate_eq_of_found (h : ∀ source ∈ aggregate.leaves, source.Reached)
    (mesh : MeshSettings) :
    aggregate.found.map Service.hostname = hostnamesOf (Discovery.services aggregate) ∧
      Config.generate (Discovery.services aggregate) mesh =
        Config.generate aggregate.found mesh ∧
      ∀ earlier later hostname first last changed, earlier < later →
        aggregate.leaves[earlier]? = some first → (Discovery.service? first hostname).isSome →
        aggregate.leaves[later]? = some last → changed.Reached →
        last.ChangesOnly hostname changed →
        Config.generate (Discovery.services (aggregate.modify (fun _ => changed) later)) mesh =
          Config.generate (Discovery.services aggregate) mesh := by
  refine ⟨hostnames_found h, Config.generate_congr mesh ?_, ?_⟩
  · rw [found_eq h, firstOfEachHost_eq_self (fun _ _ => List.not_mem_nil) firstOfEachHost_pairwise]
  · intro earlier later hostname first last changed horder hfirst hprovides hlast hreached hchanges
    exact Config.generate_congr mesh
      (firstOfEachHost_modify h horder hfirst hprovides hlast hreached hchanges)

/-- A service without ports, which is not well-formed. -/
def portless : Service := ⟨"reviews", some "default", ∅, []⟩

/-- A registry that knows nothing. -/
def blank : Registry := { catalog := ∅ }

/-- The registry in which the service without ports was stored. -/
def stored : Registry := blank.mutate (.addService portless)

/-- A registry that follows a file, before one that is changed from within. -/
def fileBefore (registry : Registry) : Aggregate Source :=
  .nested "files" (.leaf "file" (.file ⟨"catalog.json", { catalog := .small }, .polling⟩) .empty)
    (.leaf "Memory" (.memory registry) .empty)

/-- The service without ports is stored under the host name that the file provides, and is removed
    again. In between the list has it, but nothing comes of it. -/
theorem portless_has_no_say :
    portless.validate.isOk = false ∧
      (∀ source ∈ (fileBefore blank).leaves, source.Reached) ∧
      portless ∈ Discovery.services (fileBefore stored) ∧
      Config.generate (Discovery.services (fileBefore stored)) {} =
        Config.generate (Discovery.services (fileBefore blank)) {} ∧
      Config.generate (Discovery.services
          (fileBefore (stored.mutate (.removeService "reviews.default")))) {} =
        Config.generate (Discovery.services (fileBefore stored)) {} := by
  have hread := (Catalog.ofBytes_compact Catalog.smallListing).trans
    (by decide +kernel : _ = Except.ok Catalog.small)
  have hload : FileRegistry.load "catalog.json" 1000
      (.ok (Text.bytes Catalog.smallListing.toJson.compact))
        = .ok ⟨"catalog.json", { catalog := Catalog.small }, .polling⟩ := by
    rw [FileRegistry.load, Catalog.ofReading, hread]
    rfl
  have hleaves : ∀ registry, Source.Reached (.memory registry) →
      ∀ source ∈ (fileBefore registry).leaves, source.Reached := fun registry hregistry =>
    List.forall_mem_cons.mpr ⟨.load hload, List.forall_mem_singleton.mpr hregistry⟩
  have hblank : Source.Reached (.memory blank) := .memory .empty
  have hstored : Source.Reached (.memory stored) :=
    hblank.mutate (show (Mutation.addService portless).Built from trivial)
  have hremoved :=
    hstored.mutate (show (Mutation.removeService "reviews.default").Built from trivial)
  have hprovides : (Discovery.service? (Source.file ⟨"catalog.json", { catalog := .small },
      .polling⟩) "reviews.default").isSome = true := by decide +kernel
  obtain ⟨-, -, hstore⟩ := generate_eq_of_found (hleaves _ hblank) {}
  obtain ⟨-, -, hremove⟩ := generate_eq_of_found (hleaves _ hstored) {}
  refine ⟨by decide +kernel, hleaves _ hblank, by decide +kernel, ?_, ?_⟩
  · exact hstore 0 1 "reviews.default" _ _ _ Nat.zero_lt_one rfl hprovides rfl hstored
      (Source.changesOnly_addService blank portless)
  · exact hremove 0 1 "reviews.default" _ _ _ Nat.zero_lt_one rfl hprovides rfl hremoved
      (Source.changesOnly_removeService _ "reviews.default")

end Aggregate

end MeshSidecar
