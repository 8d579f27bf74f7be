import Mathlib.Logic.Relation
import MeshSidecar.Controller.Start
import MeshSidecar.Proofs.Aggregate.Leaves
import MeshSidecar.Proofs.Aggregate.Sources
import MeshSidecar.Proofs.Proxy.PortClaims

/-!
# What registries of files can list

The controller takes its services from files. Nothing gets into a registry of a file but catalogs
that were read from it, so every service that is listed is well-formed, at any time and whatever the
files went through (`Gathers.valid`). This also holds of a list that was put together registry by
registry while the files were polled, which may be one that the registries never listed at any one
time. Hence no configuration fails for want of a well-formed service, but only because of the ports
that the services claim (`listed_fails_only_on_claims`).
-/

namespace MeshSidecar

-- ── Runs ────────────────────────────────────────────────────────────────────

/-- One thing that may happen to registries that follow files. -/
inductive FileStep : Aggregate FileRegistry → Aggregate FileRegistry → Prop where
  /-- One of them polls its file, whatever is found there. -/
  | poll (registries : Aggregate FileRegistry) (position : Nat) (reading : Reading) :
      FileStep registries (registries.modify (fun file => (file.poll reading).registry) position)
  /-- A handler is appended to all of them. -/
  | append (registries : Aggregate FileRegistry) (kind : HandlerKind) (handler : Handler) :
      FileStep registries (registries.map fun file => file.appendHandler kind handler)
  /-- One of them sees the signal to stop. -/
  | stop (registries : Aggregate FileRegistry) (position : Nat) :
      FileStep registries (registries.modify FileRegistry.stop position)

/-- The services that the registries before a position listed, each of them when it was asked, while
    anything may have happened in between. -/
inductive Gathers (start : Aggregate FileRegistry) :
    Aggregate FileRegistry → Nat → List Service → Prop where
  | nothing {now : Aggregate FileRegistry} (h : Relation.ReflTransGen FileStep start now) :
      Gathers start now 0 []
  | step {now later : Aggregate FileRegistry} {position : Nat} {services : List Service}
      (h : Gathers start now position services) (hstep : FileStep now later) :
      Gathers start later position services
  | ask {now : Aggregate FileRegistry} {position : Nat} {services : List Service}
      {file : FileRegistry} (h : Gathers start now position services)
      (hfile : now.leaves[position]? = some file) :
      Gathers start now (position + 1) (services ++ Discovery.services file)

/-- What the registries list at one time can be gathered. -/
theorem gathers_services {start now : Aggregate FileRegistry}
    (h : Relation.ReflTransGen FileStep start now) :
    Gathers start now now.leaves.length (Discovery.services now) := by
  -- all of them are asked in turn, with nothing in between
  have hbefore : ∀ position, position ≤ now.leaves.length →
      Gathers start now position ((now.leaves.take position).map Discovery.services).flatten := by
    intro position hle
    induction position with
    | zero => exact .nothing h
    | succ n ih =>
        have hfile : now.leaves[n]? = some now.leaves[n] := List.getElem?_eq_getElem hle
        have hnext := (ih (Nat.le_of_succ_le hle)).ask hfile
        rw [List.take_add_one, hfile, List.map_append, List.flatten_append]
        simpa using hnext
  have hall := hbefore now.leaves.length (Nat.le_refl _)
  rwa [List.take_length, ← Aggregate.services_eq_flatten] at hall

-- ── Invariant ───────────────────────────────────────────────────────────────

/-- All registries hold well-formed catalogs. -/
def HoldWellFormed (registries : Aggregate FileRegistry) : Prop :=
  ∀ file ∈ registries.leaves, file.registry.catalog.WellFormed

/-- The registries of some files are that of the first file before those of the others. -/
theorem loadRegistries_cons_eq_ok_iff {interval total position : Nat} {read : String → Reading}
    {path : String} {rest : List String} {registries : Aggregate FileRegistry} :
    loadRegistries interval total read position (path :: rest) = .ok registries ↔
      ∃ file more, FileRegistry.load path interval (read path) = .ok file ∧
        loadRegistries interval total read (position + 1) rest = .ok more ∧
        .leaf (filePlatform position total) file more = registries := by
  rw [loadRegistries]
  cases FileRegistry.load path interval (read path) with
  | error source => exact iff_of_false nofun (fun ⟨_, _, hfile, _⟩ => nomatch hfile)
  | ok file =>
      cases loadRegistries interval total read (position + 1) rest with
      | error source => exact iff_of_false nofun (fun ⟨_, _, _, hmore, _⟩ => nomatch hmore)
      | ok more =>
          constructor
          · exact fun h => ⟨file, more, rfl, rfl, Except.ok.inj h⟩
          · rintro ⟨_, _, hfile, hmore, rfl⟩
            rw [Except.ok.inj hfile, Except.ok.inj hmore]

/-- Registries that were loaded hold well-formed catalogs. -/
theorem holdWellFormed_of_load {interval total position : Nat} {read : String → Reading}
    {paths : List String} {registries : Aggregate FileRegistry}
    (h : loadRegistries interval total read position paths = .ok registries) :
    HoldWellFormed registries := by
  induction paths generalizing position registries with
  | nil =>
      obtain rfl := Except.ok.inj h
      exact nofun
  | cons path rest ih =>
      obtain ⟨file, more, hfile, hmore, rfl⟩ := loadRegistries_cons_eq_ok_iff.mp h
      obtain ⟨catalog, hcatalog, hregistry⟩ := FileRegistry.registry_of_load hfile
      refine List.forall_mem_cons.mpr ⟨?_, ih hmore⟩
      rw [hregistry]
      exact hcatalog

/-- Whatever is found in a file, the registry holds a well-formed catalog. -/
theorem FileRegistry.wellFormed_poll {file : FileRegistry} (h : file.registry.catalog.WellFormed)
    (reading : Reading) : (file.poll reading).registry.registry.catalog.WellFormed := by
  rcases file.poll_cases reading with ⟨hsame, -⟩ | ⟨next, hnext, hregistry, -⟩
  · rwa [hsame]
  · rw [hregistry]
    exact hnext

/-- Nothing that happens changes it. -/
theorem HoldWellFormed.step {now later : Aggregate FileRegistry} (h : HoldWellFormed now)
    (hstep : FileStep now later) : HoldWellFormed later := by
  cases hstep with
  | poll position reading =>
      rw [HoldWellFormed, Aggregate.leaves_modify]
      refine forall_mem_modify (fun file hfile => ?_) h position
      exact FileRegistry.wellFormed_poll hfile reading
  | append kind handler =>
      rw [HoldWellFormed, Aggregate.leaves_map]
      refine List.forall_mem_map.mpr fun file hmem => ?_
      rw [FileRegistry.appendHandler, Registry.catalog_appendHandler]
      exact h file hmem
  | stop position =>
      rw [HoldWellFormed, Aggregate.leaves_modify]
      refine forall_mem_modify (fun file hfile => ?_) h position
      rwa [FileRegistry.registry_stop]

theorem HoldWellFormed.steps {start now : Aggregate FileRegistry} (h : HoldWellFormed start)
    (hsteps : Relation.ReflTransGen FileStep start now) : HoldWellFormed now := by
  induction hsteps with
  | refl => exact h
  | tail _ hstep ih => exact ih.step hstep

/-- A well-formed catalog lists well-formed services. -/
theorem Catalog.WellFormed.valid_of_mem {catalog : Catalog} (h : catalog.WellFormed)
    {service : Service} (hmem : service ∈ Discovery.services catalog) :
    service.validate = .ok () :=
  h.services _ service (h.keyed.mem_values_iff.mp hmem)

/-- All that is gathered is well-formed. -/
theorem Gathers.valid {start now : Aggregate FileRegistry} {position : Nat}
    {services : List Service} (hstart : HoldWellFormed start)
    (h : Gathers start now position services) :
    HoldWellFormed now ∧ ∀ service ∈ services, service.validate = .ok () := by
  induction h with
  | nothing hsteps => exact ⟨hstart.steps hsteps, nofun⟩
  | step _ hstep ih => exact ⟨ih.1.step hstep, ih.2⟩
  | ask _ hfile ih =>
      refine ⟨ih.1, List.forall_mem_append.mpr ⟨ih.2, fun service hmem => ?_⟩⟩
      exact (ih.1 _ (List.mem_of_getElem? hfile)).valid_of_mem hmem

/-- Registries of files never list a service that is not well-formed, whatever the files go through
    and in whatever order they are polled, and so a configuration of what they list fails exactly if
    a service exposes a port of the proxy, or at least two hosts expose one port, where one of them
    does not speak HTTP. The error tells which. This holds of all that they list at one time, and
    also of what is gathered while they go on. -/
theorem listed_fails_only_on_claims {interval total position : Nat} {read : String → Reading}
    {paths : List String} {registries : Aggregate FileRegistry}
    (hload : loadRegistries interval total read position paths = .ok registries) :
    (∀ now, Relation.ReflTransGen FileStep registries now →
      Gathers registries now now.leaves.length (Discovery.services now)) ∧
    ∀ now asked services, Gathers registries now asked services →
      (∀ service ∈ services, service.validate = .ok ()) ∧
      ∀ mesh,
        (∀ error, Config.generate services mesh = .error error →
          (∀ invalid, error ≠ .invalidService invalid) ∧ error.TellsClaims services mesh) ∧
        ((∃ config, Config.generate services mesh = .ok config) ↔
          ∀ error : GenerateError, ¬ error.TellsClaims services mesh) := by
  refine ⟨fun now => gathers_services, fun now asked services hgathers => ?_⟩
  have hvalid := (hgathers.valid (holdWellFormed_of_load hload)).2
  refine ⟨hvalid, fun mesh => ⟨fun error hfails => ?_, Config.exists_generate_eq_ok_iff hvalid⟩⟩
  have hclaims := Config.claims_of_generate_error hvalid hfails
  refine ⟨fun invalid heq => ?_, hclaims⟩
  rw [heq] at hclaims
  cases hclaims

-- ── Two files ───────────────────────────────────────────────────────────────

/-- A listing of a service that claims a port for whole connections. -/
def claimingListing : CatalogListing where
  services := [⟨"mysql", none, ∅, [⟨"", 9080, .tcp⟩]⟩]
  instances := []
  managementPorts := []
  serviceAccounts := []

/-- The catalog that is listed. -/
def claiming : Catalog where
  services := .ofList [("mysql", ⟨"mysql", none, ∅, [⟨"", 9080, .tcp⟩]⟩)]
  instances := []
  managementPorts := ∅
  serviceAccounts := ∅

/-- What the two files list, the first one before the second one is changed. -/
def claimants : List Service := Discovery.services Catalog.small ++ Discovery.services claiming

theorem generate_claimants :
    Config.generate claimants {} = .error (.portConflict 9080 ["mysql", "reviews.default"]) := by
  have hoffence : ∀ service ∈ firstOfEachHost [] claimants, service.offence {} = none := by
    decide +kernel
  have hroutes : routesOf claimants =
      [⟨"reviews.default", 9080, "http", true⟩, ⟨"mysql", 9080, "9080", false⟩] := by
    decide +kernel
  -- the sorting is not carried out: what is sorted is known by what it holds
  have hnumbers : portNumbers (routesOf claimants) = [9080] := by
    refine eq_of_ascending (fun number => number) (portNumbers_pairwise _) (by decide) ?_
    intro number
    rw [mem_portNumbers, hroutes]
    simp [eq_comm]
  have hsorted : routesOn (routesOf claimants) 9080 =
      [⟨"mysql", 9080, "9080", false⟩, ⟨"reviews.default", 9080, "http", true⟩] := by
    refine eq_of_ascending Route.hostname ((routesSound_routesOf hoffence).routesOn_pairwise 9080)
      (by decide) fun route => ?_
    have hon : ∀ route ∈ routesOf claimants, route.number = 9080 := by
      rw [hroutes]
      decide
    rw [mem_routesOn, and_iff_left_of_imp (hon route), hroutes]
    exact (List.Perm.swap ..).mem_iff
  rw [Config.generate, List.findSome?_eq_none_iff.mpr hoffence]
  simp only [Config.ofRoutes, hnumbers, portListeners, hsorted]
  rfl

/-- The registries of two files which list the same. -/
def twoFiles : Aggregate FileRegistry :=
  .leaf "file-0" ⟨"reviews.json", { catalog := Catalog.small }, .polling⟩
    (.leaf "file-1" ⟨"mysql.json", { catalog := Catalog.small }, .polling⟩ .empty)

theorem gathers_claimants : ∃ now, Gathers twoFiles now 2 claimants := by
  have hclaiming := (Catalog.ofBytes_compact claimingListing).trans
    (by decide +kernel : _ = Except.ok claiming)
  have hfirst : Gathers twoFiles twoFiles 1 (Discovery.services Catalog.small) :=
    .ask (.nothing .refl) (rfl : twoFiles.leaves[0]? = some
      ⟨"reviews.json", { catalog := Catalog.small }, .polling⟩)
  have hchanged := hfirst.step
    (.poll twoFiles 1 (.ok (Text.bytes claimingListing.toJson.compact)))
  have hpolled : (FileRegistry.poll ⟨"mysql.json", { catalog := Catalog.small }, .polling⟩
      (.ok (Text.bytes claimingListing.toJson.compact))).registry =
        ⟨"mysql.json", { catalog := claiming }, .polling⟩ := by
    rw [FileRegistry.poll, if_pos rfl, FileRegistry.sync, Catalog.ofReading, hclaiming]
    rfl
  exact ⟨_, hchanged.ask (congrArg some hpolled)⟩

/-- Two files list one service. While the services are gathered, the second one comes to list another
    one, which claims the same port. Both are well-formed, but there is no configuration. -/
theorem claimants_conflict :
    loadRegistries 1000 2 (fun _ => .ok (Text.bytes Catalog.smallListing.toJson.compact)) 0
        ["reviews.json", "mysql.json"] = .ok twoFiles ∧
      (∃ now, Gathers twoFiles now 2 claimants) ∧
      (∀ service ∈ claimants, service.validate = .ok ()) ∧
      Config.generate claimants {} = .error (.portConflict 9080 ["mysql", "reviews.default"]) ∧
      (GenerateError.portConflict 9080 ["mysql", "reviews.default"]).TellsClaims claimants {} := by
  have hsmall := (Catalog.ofBytes_compact Catalog.smallListing).trans
    (by decide +kernel : _ = Except.ok Catalog.small)
  have hfile : ∀ path, FileRegistry.load path 1000
      (.ok (Text.bytes Catalog.smallListing.toJson.compact)) =
        .ok ⟨path, { catalog := Catalog.small }, .polling⟩ := by
    intro path
    rw [FileRegistry.load, Catalog.ofReading, hsmall]
    rfl
  have hload : loadRegistries 1000 2
      (fun _ => .ok (Text.bytes Catalog.smallListing.toJson.compact)) 0
        ["reviews.json", "mysql.json"] = .ok twoFiles :=
    loadRegistries_cons_eq_ok_iff.mpr ⟨_, _, hfile _,
      loadRegistries_cons_eq_ok_iff.mpr ⟨_, _, hfile _, rfl, rfl⟩, rfl⟩
  obtain ⟨now, hgathers⟩ := gathers_claimants
  obtain ⟨hvalid, hclaims⟩ := (listed_fails_only_on_claims hload).2 now 2 claimants hgathers
  exact ⟨hload, ⟨now, hgathers⟩, hvalid, generate_claimants,
    ((hclaims {}).1 _ generate_claimants).2⟩

end MeshSidecar
