import MeshSidecar.Proofs.Agent.Reloads
import MeshSidecar.Proofs.Agent.Stopping

/-!
# Reloads that fail

A reload that fails puts nothing on record, publishes nothing and keeps the epoch for the next one.
It touches no file but that of the epoch which it attempted (`AgentState.gaveUp_of_reload`), and
that is not the file of a generation on record as long as fewer generations were launched than there
are epochs. The next reload that succeeds gets the same epoch, whatever happens in between
(`AgentState.failed_reload_atomic`).

The file of the attempted epoch is taken back if the launch fails, but not if there was no room for
all of it: then a part of it is left where no file was before (`AgentState.cramped_leaves_part`).
-/

namespace MeshSidecar.AgentState

variable {state after : AgentState}

-- ── What a failed reload leaves ─────────────────────────────────────────────

/-- What there is after a reload that failed. -/
structure GaveUp (state : AgentState) (config : Config) (error : ReloadError)
    (after : AgentState) : Prop where
  epoch : after.epoch = state.epoch
  records : after.records = state.records
  live : after.live = state.live
  /-- No file but that of the attempted epoch is touched. -/
  others : ∀ name, name ≠ configName state.epoch →
    after.directory.entries.get? name = state.directory.entries.get? name
  /-- That file is new only if there was no room for all of it. -/
  own : state.fileOf state.epoch = none →
    (after.fileOf state.epoch ≠ none ↔
      error = .writeConfig (state.options.configPath state.epoch) (.system .storageFull))
  /-- Then what there was room for is left. -/
  part : error = .writeConfig (state.options.configPath state.epoch) (.system .storageFull) →
    ∃ room, state.directory.room = some room ∧ room < (Text.bytes config.text).length ∧
      after.fileOf state.epoch = some (.file ((Text.bytes config.text).take room))

/-- A reload that cannot write the file leaves at most a part of it. -/
theorem gaveUp_of_unwritten {config : Config} {directory : Directory} {error : HostError}
    (hwrite : state.directory.write (configName state.epoch) (Text.bytes config.text)
      = (directory, some error)) :
    state.GaveUp config (.writeConfig (state.options.configPath state.epoch) error)
      { state with directory := directory } where
  epoch := rfl
  records := rfl
  live := rfl
  others name hne := Directory.get?_of_write_ne hwrite fun heq => hne heq.symm
  own := by
    intro hnone
    rw [ReloadError.writeConfig.injEq]
    rcases Directory.write_eq_error hwrite with ⟨rfl, hother⟩ | ⟨room, -, -, rfl, rfl⟩
    · exact iff_of_false (fun hnew => hnew hnone) fun h => hother h.2
    · refine iff_of_true ?_ ⟨rfl, rfl⟩
      show (state.directory.put _ _).entries.get? (configName state.epoch) ≠ none
      rw [Directory.put, NameTable.get?_insert, if_pos rfl]
      exact Option.some_ne_none _
  part := by
    intro hfull
    rcases Directory.write_eq_error hwrite with ⟨-, hother⟩ | ⟨room, hroom, hlong, -, rfl⟩
    · exact absurd (ReloadError.writeConfig.inj hfull).2 hother
    · refine ⟨room, hroom, hlong, ?_⟩
      show (state.directory.put _ _).entries.get? (configName state.epoch) = _
      rw [Directory.put, NameTable.get?_insert, if_pos rfl]

/-- A reload that cannot launch the binary takes the file back. -/
theorem gaveUp_of_unlaunched {config : Config} {directory : Directory} {error : HostError}
    (hwrite : state.directory.write (configName state.epoch) (Text.bytes config.text)
      = (directory, none)) :
    state.GaveUp config (.spawn state.options.binary error)
      (removeConfig { state with directory := directory } (configName state.epoch)) := by
  obtain ⟨hepoch, hrecords, hlive, hdirectory⟩ :=
    removeConfig_frame { state with directory := directory } (configName state.epoch)
  have hfile := (Directory.get?_of_write hwrite (configName state.epoch)).trans (if_pos rfl)
  obtain ⟨-, hremoved⟩ := Directory.get?_of_remove (Directory.refusalOf_of_write hwrite) hfile
  refine ⟨hepoch, hrecords, hlive, fun name hne => ?_, fun _ => ?_, nofun⟩
  · rw [hdirectory, hremoved, if_neg hne.symm, Directory.get?_of_write hwrite, if_neg hne.symm]
  · refine iff_of_false (fun hnew => hnew ?_) nofun
    rw [fileOf, hdirectory, hremoved, if_pos rfl]

/-- Wherever a reload fails, it leaves no more than this. -/
theorem gaveUp_of_reload {config : Config} {error : ReloadError}
    (h : reload config state = (.error error, after)) : state.GaveUp config error after := by
  cases reloads_of_reload h with
  | unwritten hwrite => exact gaveUp_of_unwritten hwrite
  | unlaunched hwrite => exact gaveUp_of_unlaunched hwrite

/-- A configuration for which there is no room is written in part. -/
theorem reload_of_full {config : Config} {room : Nat}
    (hallowed : state.directory.refusalOf (configName state.epoch) = none)
    (hplace : state.fileOf state.epoch ≠ some .directory)
    (hroom : state.directory.room = some room) (hlong : room < (Text.bytes config.text).length) :
    reload config state =
      (.error (.writeConfig (state.options.configPath state.epoch) (.system .storageFull)),
        { state with
          directory := state.directory.put (configName state.epoch)
            (.file ((Text.bytes config.text).take room)) }) := by
  have hwrite : state.writeConfig config =
      ({ state with
        directory := state.directory.put (configName state.epoch)
          (.file ((Text.bytes config.text).take room)) }, some (.system .storageFull)) := by
    rw [writeConfig, Directory.write, hallowed, hroom]
    simp only [if_neg (Nat.not_le_of_lt hlong)]
    split
    · rename_i hdirectory
      exact absurd hdirectory hplace
    · rfl
  simp only [reload, hwrite]

/-- A reload that succeeds returns the epoch that it found, puts it on record under the name of its
    file and advances. -/
theorem launched_of_reload {config : Config} {epoch : Epoch}
    (h : reload config state = (.ok epoch, after)) :
    epoch = state.epoch ∧ after.epoch = state.epoch + 1 ∧
      ∃ pid, after.records = state.records ++ [⟨state.epoch, pid, configName state.epoch⟩] := by
  cases reloads_of_reload h with
  | launched _ => exact ⟨rfl, rfl, _, rfl⟩

-- ── Between two launches ────────────────────────────────────────────────────

/-- What may happen without a launch: a reload may fail, too. -/
inductive IdleStep (state : AgentState) : AgentState → Prop where
  | stop {after : AgentState} (h : StopStep state after) : IdleStep state after
  | fail {config : Config} {error : ReloadError} {after : AgentState}
      (h : reload config state = (.error error, after)) : IdleStep state after

/-- The state that an agent is brought to without a launch. -/
def Idles : AgentState → AgentState → Prop := Relation.ReflTransGen IdleStep

theorem epoch_signalAll (state : AgentState) (signal : Signal) :
    (state.signalAll signal).epoch = state.epoch := by
  rw [signalAll]
  generalize state.records.map (·.pid) = pids
  induction pids generalizing state with
  | nil => rfl
  | cons pid pids ih => exact ih (state.signal pid signal)

/-- What happens on its own does not touch the counter. -/
theorem StopStep.epoch_eq (h : state.StopStep after) : after.epoch = state.epoch := by
  cases h with
  | host h =>
      cases h with
      | outside _ _ _ => rfl
      | finish _ _ => rfl
      | reap hreap =>
          obtain ⟨process, hprocess⟩ := exists_process_of_reapStep hreap
          exact (reaps_of_reapStep hprocess hreap).epoch_eq
  | signalAll signal => exact epoch_signalAll state signal
  | warn _ => rfl

theorem IdleStep.epoch_eq (h : state.IdleStep after) : after.epoch = state.epoch := by
  cases h with
  | stop h => exact h.epoch_eq
  | fail h => exact (gaveUp_of_reload h).epoch

/-- Without a launch the epoch remains the same. -/
theorem Idles.epoch_eq (h : state.Idles after) : after.epoch = state.epoch := by
  induction h with
  | refl => rfl
  | tail _ hstep ih => exact hstep.epoch_eq.trans ih

/-- Without a launch nothing new is on record, and what is published remains what is on record. -/
theorem IdleStep.records_sublist (h : state.IdleStep after) (hpublished : state.Published) :
    after.records.Sublist state.records ∧ after.Published := by
  cases h with
  | stop h =>
      obtain ⟨hshrinks, hafter⟩ := h.shrinks hpublished
      exact ⟨hshrinks.records, hafter⟩
  | fail h =>
      have hgaveUp := gaveUp_of_reload h
      refine ⟨hgaveUp.records ▸ .refl _, ?_⟩
      rw [Published, hgaveUp.live, hgaveUp.records, hpublished]

-- ── Runs ────────────────────────────────────────────────────────────────────

/-- A state of an agent that launched a number of generations since it began with nothing, whatever
    was in its directory and whatever happened. -/
inductive Ran : Nat → AgentState → Prop where
  | start (options : ProxyOptions) (program : Program) (directory : Directory) (now : Nat) :
      Ran 0 { options, program, directory, now }
  | idle {generations : Nat} {state after : AgentState} (h : Ran generations state)
      (hstep : state.IdleStep after) : Ran generations after
  | launch {generations : Nat} {state after : AgentState} (h : Ran generations state)
      {config : Config} {epoch : Epoch} (hreload : reload config state = (.ok epoch, after)) :
      Ran (generations + 1) after

/-- The generations on record are among those that were launched, each with its own file, and the
    next epoch is their number. -/
structure Numbered (generations : Nat) (state : AgentState) : Prop where
  epoch : state.epoch = UInt32.ofNat generations
  records : ∀ record ∈ state.records,
    record.epoch.toNat < generations ∧ record.config = configName record.epoch
  published : state.Published

theorem Numbered.idle {generations : Nat} (h : Numbered generations state)
    (hstep : state.IdleStep after) : Numbered generations after := by
  obtain ⟨hrecords, hpublished⟩ := hstep.records_sublist h.published
  exact ⟨hstep.epoch_eq.trans h.epoch, fun record hmem => h.records record (hrecords.subset hmem),
    hpublished⟩

theorem Numbered.launch {generations : Nat} (h : Numbered generations state) {config : Config}
    {epoch : Epoch} (hreload : reload config state = (.ok epoch, after)) :
    Numbered (generations + 1) after := by
  obtain ⟨-, hepoch, pid, hrecords⟩ := launched_of_reload hreload
  refine ⟨?_, fun record hmem => ?_, ?_⟩
  · rw [hepoch, h.epoch, UInt32.ofNat_add]
    rfl
  · rw [hrecords] at hmem
    rcases List.mem_append.mp hmem with hold | hnew
    · obtain ⟨hlt, hconfig⟩ := h.records record hold
      exact ⟨Nat.lt_succ_of_lt hlt, hconfig⟩
    · obtain rfl := List.mem_singleton.mp hnew
      refine ⟨?_, rfl⟩
      -- if the counter has run over, then the epoch is less than the number of generations
      show state.epoch.toNat < generations + 1
      rw [h.epoch, UInt32.toNat_ofNat']
      exact Nat.lt_succ_of_le (Nat.mod_le _ _)
  · have hpublished := h.published.reload config
    rwa [hreload] at hpublished

theorem numbered_of_ran {generations : Nat} (h : Ran generations state) :
    Numbered generations state := by
  induction h with
  | start options program directory now => exact ⟨rfl, nofun, rfl⟩
  | idle _ hstep ih => exact ih.idle hstep
  | launch _ hreload ih => exact ih.launch hreload

/-- No generation on record has the file of the next epoch, as long as there are epochs left. -/
theorem Numbered.epoch_ne {generations : Nat} (h : Numbered generations state)
    (hfew : generations < UInt32.size) {record : ProcessRecord} (hrecord : record ∈ state.records) :
    record.epoch ≠ state.epoch := by
  intro heq
  have hlt := (h.records record hrecord).1
  rw [heq, h.epoch, UInt32.toNat_ofNat', Nat.mod_eq_of_lt hfew] at hlt
  exact Nat.lt_irrefl _ hlt

/-- A reload that fails changes neither the counter nor the records nor what is published. It
    touches no file of a generation on record as long as there are epochs left, and none but that
    of the epoch which it attempted. If there was no such file, then there is one afterwards exactly
    if there was no room for all of it, and it holds what there was room for. And the next reload
    that succeeds returns the same epoch, whatever happens before. -/
theorem failed_reload_atomic {generations : Nat} (hran : Ran generations state) {config : Config}
    {error : ReloadError} (hfail : reload config state = (.error error, after)) :
    state.GaveUp config error after ∧
      (generations < UInt32.size → ∀ record ∈ state.records,
        after.directory.entries.get? record.config
          = state.directory.entries.get? record.config) ∧
      state.live = state.records.map (·.epoch) ∧
      ∀ later, after.Idles later → ∀ config epoch last, reload config later = (.ok epoch, last) →
        epoch = state.epoch := by
  have hgaveUp := gaveUp_of_reload hfail
  have hnumbered := numbered_of_ran hran
  refine ⟨hgaveUp, fun hfew record hrecord => ?_, hnumbered.published,
    fun later hidles config epoch last hreload => ?_⟩
  · rw [(hnumbered.records record hrecord).2]
    refine hgaveUp.others _ fun heq => hnumbered.epoch_ne hfew hrecord ?_
    exact configName_inj heq
  · rw [(launched_of_reload hreload).1, hidles.epoch_eq, hgaveUp.epoch]

-- ── Two failures ────────────────────────────────────────────────────────────

/-- An agent that launched nothing, with a binary that runs until it is stopped. -/
def idleAgent (directory : Directory) : AgentState :=
  { options := .ofMesh "envoy" "/etc/envoy" {}, program := .runs none, directory }

/-- An agent that launched a generation, after which the binary was taken away. -/
def strandedAgent : AgentState :=
  { (reload Fleet.bareConfig (idleAgent {})).2 with program := .refused .notFound }

theorem ran_strandedAgent : Ran 1 strandedAgent := by
  have hreload : reload Fleet.bareConfig (idleAgent {}) =
      (.ok 0, (reload Fleet.bareConfig (idleAgent {})).2) := Prod.ext rfl rfl
  have hlaunched : Ran 1 (reload Fleet.bareConfig (idleAgent {})).2 :=
    (Ran.start _ _ _ _).launch hreload
  exact hlaunched.idle (.stop (.host (.outside _ _ (Nat.le_refl _))))

/-- A reload without a binary leaves the first generation its file and takes its own one back. Once
    the binary is there again, a reload returns the epoch that was attempted. -/
theorem stranded_atomic :
    let after := (reload Fleet.bareConfig strandedAgent).2
    (reload Fleet.bareConfig strandedAgent).1 = .error (.spawn "envoy" (.system .notFound)) ∧
      after.records = strandedAgent.records ∧ after.live = [0] ∧
      (∀ record ∈ strandedAgent.records, after.directory.entries.get? record.config
        = strandedAgent.directory.entries.get? record.config) ∧
      after.fileOf 1 = none ∧
      ∀ epoch last, reload Fleet.bareConfig { after with program := .runs none } = (.ok epoch, last) →
        epoch = 1 := by
  have hfail : reload Fleet.bareConfig strandedAgent =
      (.error (.spawn "envoy" (.system .notFound)), (reload Fleet.bareConfig strandedAgent).2) :=
    Prod.ext rfl rfl
  obtain ⟨hgaveUp, hkept, -, hnext⟩ := failed_reload_atomic ran_strandedAgent hfail
  refine ⟨congrArg Prod.fst hfail, hgaveUp.records, hgaveUp.live.trans (by decide +kernel),
    hkept (by decide), ?_, fun epoch last hreload => ?_⟩
  · have hnone : strandedAgent.fileOf strandedAgent.epoch = none := by decide +kernel
    refine Decidable.byContradiction fun hnew => ?_
    exact nomatch (hgaveUp.own hnone).mp hnew
  · refine (hnext _ (.single (.stop (.host (.outside _ _ (Nat.le_refl _))))) _ _ _ hreload).trans ?_
    decide +kernel

/-- An agent in whose directory ten bytes fit into a file. -/
def crampedAgent : AgentState := idleAgent { room := some 10 }

/-- It fails to write a configuration and leaves the first ten bytes of it, although there was no
    file before. -/
theorem cramped_leaves_part :
    Ran 0 crampedAgent ∧ crampedAgent.fileOf crampedAgent.epoch = none ∧
      (reload Fleet.bareConfig crampedAgent).1 =
        .error (.writeConfig "/etc/envoy/envoy-rev0.json" (.system .storageFull)) ∧
      (reload Fleet.bareConfig crampedAgent).2.fileOf crampedAgent.epoch =
        some (.file ((Text.bytes Fleet.bareConfig.text).take 10)) := by
  have hlong : 10 < (Text.bytes Fleet.bareConfig.text).length := by
    rw [Text.bytes, Config.text, Json.pretty, String.toList_ofList]
    decide +kernel
  rw [reload_of_full (by decide +kernel) (by decide +kernel) rfl hlong]
  refine ⟨.start _ _ _ _, rfl, rfl, ?_⟩
  exact (NameTable.get?_insert _ _ _ _).trans (if_pos rfl)

end MeshSidecar.AgentState
