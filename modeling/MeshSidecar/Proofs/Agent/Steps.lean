import MeshSidecar.Proofs.Agent.Files

/-!
# The steps of the agent

What each step of the agent does to its state: a reload writes a file, launches a process or
takes the file back, and puts the process on record (`AgentState.reloads_of_reload`); a reaper
waits, looks for the record, removes the file and forgets the record
(`AgentState.reaps_of_reapStep`). Only the ending of a process changes when it ends or is sent a
signal (`AgentState.OnlyEnds`).
-/

namespace MeshSidecar.AgentState

variable {state after : AgentState}

/-- What the directory holds under the name of a generation's file. -/
def fileOf (state : AgentState) (epoch : Epoch) : Option Entry :=
  state.directory.entries.get? (configName epoch)

-- ── Files ───────────────────────────────────────────────────────────────────

/-- To write a configuration is to change the directory. -/
theorem writeConfig_eq {config : Config} {error : Option HostError}
    (h : state.writeConfig config = (after, error)) :
    ∃ directory, after = { state with directory := directory } ∧
      state.directory.write (configName state.epoch) (Text.bytes config.text)
        = (directory, error) := by
  obtain ⟨rfl, rfl⟩ := Prod.mk.inj h
  exact ⟨_, rfl, rfl⟩

/-- After a configuration was written, the file of the next epoch holds it. -/
theorem fileOf_of_writeConfig {config : Config} (h : state.writeConfig config = (after, none))
    (epoch : Epoch) :
    after.fileOf epoch =
      if state.epoch = epoch then some (.file (Text.bytes config.text))
      else state.fileOf epoch := by
  obtain ⟨directory, rfl, hwrite⟩ := writeConfig_eq h
  show directory.entries.get? (configName epoch) = _
  rw [Directory.get?_of_write hwrite]
  by_cases heq : state.epoch = epoch
  · rw [if_pos heq, if_pos (congrArg configName heq)]
  · rw [if_neg heq, if_neg fun hname => heq (configName_inj hname)]
    rfl

/-- A configuration that cannot be written changes no other file. -/
theorem fileOf_of_writeConfig_ne {config : Config} {error : Option HostError}
    (h : state.writeConfig config = (after, error)) {epoch : Epoch} (hne : state.epoch ≠ epoch) :
    after.fileOf epoch = state.fileOf epoch := by
  obtain ⟨directory, rfl, hwrite⟩ := writeConfig_eq h
  exact Directory.get?_of_write_ne hwrite fun hname => hne (configName_inj hname)

/-- A configuration file that is there is removed, and nothing else changes. -/
theorem removeConfig_eq {epoch : Epoch} {content : Bytes}
    (hallowed : state.directory.refusalOf (configName epoch) = none)
    (hfile : state.fileOf epoch = some (.file content)) :
    ∃ directory, state.removeConfig (configName epoch) = { state with directory := directory } ∧
      ∀ other, directory.entries.get? (configName other) =
        if epoch = other then none else state.fileOf other := by
  obtain ⟨hnone, hentries⟩ := Directory.get?_of_remove hallowed hfile
  refine ⟨(state.directory.remove (configName epoch)).1, ?_, fun other => ?_⟩
  · rw [removeConfig]
    split
    · rename_i directory heq
      rw [heq]
    · rename_i directory error heq
      rw [heq] at hnone
      exact nomatch hnone
  · rw [hentries (configName other)]
    by_cases heq : epoch = other
    · rw [if_pos heq, if_pos (congrArg configName heq)]
    · rw [if_neg heq, if_neg fun hname => heq (configName_inj hname)]
      rfl

/-- To remove a file changes neither the counter nor the records. -/
theorem removeConfig_frame (state : AgentState) (config : String) :
    (state.removeConfig config).epoch = state.epoch ∧
      (state.removeConfig config).records = state.records ∧
      (state.removeConfig config).live = state.live ∧
      (state.removeConfig config).directory = (state.directory.remove config).1 := by
  rw [removeConfig]
  split
  · rename_i directory heq
    exact ⟨rfl, rfl, rfl, (congrArg Prod.fst heq).symm⟩
  · rename_i directory error heq
    exact ⟨rfl, rfl, rfl, (congrArg Prod.fst heq).symm⟩

-- ── Processes ───────────────────────────────────────────────────────────────

/-- A process that is launched is the last one, and its reaper waits. -/
theorem spawn_eq_ok {pid : ProcessId} (h : state.spawn = (after, .ok pid)) :
    pid = state.processes.length ∧ ∃ stopsAfter, after =
      { state with
        processes := state.processes ++ [⟨state.epoch, stopsAfter, none, .waiting⟩] } := by
  rw [spawn] at h
  split at h
  · split at h
    · exact nomatch (Prod.mk.inj h).2
    · rename_i stopsAfter _
      obtain ⟨rfl, hpid⟩ := Prod.mk.inj h
      exact ⟨(Except.ok.inj hpid).symm, stopsAfter, rfl⟩
  · exact nomatch (Prod.mk.inj h).2

/-- Nothing changes if no process is launched. -/
theorem spawn_eq_error {error : HostError} (h : state.spawn = (after, .error error)) :
    after = state := by
  rw [spawn] at h
  split at h
  · split at h
    · exact (Prod.mk.inj h).1.symm
    · exact nomatch (Prod.mk.inj h).2
  · exact (Prod.mk.inj h).1.symm

/-- The ways in which a reload ends: the answer and the agent afterwards. -/
inductive Reloads (state : AgentState) (config : Config) :
    Except ReloadError Epoch → AgentState → Prop where
  | unwritten {directory : Directory} {error : HostError}
      (hwrite : state.directory.write (configName state.epoch) (Text.bytes config.text)
        = (directory, some error)) :
      Reloads state config (.error (.writeConfig (state.options.configPath state.epoch) error))
        { state with directory := directory }
  | unlaunched {directory : Directory} {error : HostError}
      (hwrite : state.directory.write (configName state.epoch) (Text.bytes config.text)
        = (directory, none)) :
      Reloads state config (.error (.spawn state.options.binary error))
        (removeConfig { state with directory := directory } (configName state.epoch))
  | launched {directory : Directory} {stopsAfter : Option Nat}
      (hwrite : state.directory.write (configName state.epoch) (Text.bytes config.text)
        = (directory, none)) :
      Reloads state config (.ok state.epoch)
        (enroll
          { state with
            directory := directory
            processes := state.processes ++ [⟨state.epoch, stopsAfter, none, .waiting⟩] }
          state.processes.length)

/-- A reload ends in no other way. -/
theorem reloads_of_reload {config : Config} {answer : Except ReloadError Epoch}
    (h : reload config state = (answer, after)) : state.Reloads config answer after := by
  rw [reload] at h
  cases hwrite : state.writeConfig config with
  | mk written error =>
      obtain ⟨directory, rfl, hdirectory⟩ := writeConfig_eq hwrite
      cases error with
      | some error =>
          simp only [hwrite] at h
          obtain ⟨rfl, rfl⟩ := Prod.mk.inj h
          exact .unwritten hdirectory
      | none =>
          cases hspawn : spawn { state with directory := directory } with
          | mk spawned launched =>
              simp only [hwrite, hspawn] at h
              cases launched with
              | error error =>
                  obtain rfl := spawn_eq_error hspawn
                  obtain ⟨rfl, rfl⟩ := Prod.mk.inj h
                  exact .unlaunched hdirectory
              | ok pid =>
                  obtain ⟨rfl, stopsAfter, rfl⟩ := spawn_eq_ok hspawn
                  obtain ⟨rfl, rfl⟩ := Prod.mk.inj h
                  exact .launched hdirectory

/-- A change that does no more to a process than to end it, and does not bring it back. -/
def OnlyEnds (state : AgentState) (f : Process → Process) : Prop :=
  ∀ process, (f process).epoch = process.epoch ∧ (f process).reaper = process.reaper ∧
    ((state.ended? process).isSome → (state.ended? (f process)).isSome)

/-- To give a process an end at a time ends it. -/
theorem onlyEnds_endAt (state : AgentState) (time : Nat) (status : ExitStatus) :
    state.OnlyEnds (state.endAt time status) := by
  intro process
  rw [endAt]
  by_cases hended : (state.ended? process).isSome = true
  · rw [if_pos hended]
    exact ⟨rfl, rfl, id⟩
  · rw [if_neg hended]
    exact ⟨rfl, rfl, fun h => absurd h hended⟩

/-- A signal ends a process or leaves it as it is. -/
theorem signal_eq (state : AgentState) (pid : ProcessId) (signal : Signal) :
    ∃ f signals, state.OnlyEnds f ∧
      state.signal pid signal = { state.modifyProcess pid f with signals := signals } := by
  refine ⟨_, _, ?_, rfl⟩
  intro process
  dsimp only
  split
  · exact onlyEnds_endAt state _ _ process
  · exact onlyEnds_endAt state _ _ process
  · exact ⟨rfl, rfl, id⟩

-- ── Reapers ─────────────────────────────────────────────────────────────────

/-- The steps of the reaper of a process. -/
inductive Reaps (state : AgentState) (pid : ProcessId) (process : Process) : AgentState → Prop where
  | release (warnings : List AgentWarning) (hreaper : process.reaper = .waiting)
      (hended : (state.ended? process).isSome = true) :
      Reaps state pid process { state.moveReaper pid .released with warnings := warnings }
  | find {record : ProcessRecord} (hreaper : process.reaper = .released)
      (hrecord : record ∈ state.records) (hepoch : record.epoch = process.epoch) :
      Reaps state pid process (state.moveReaper pid (.removing record.config))
  | miss (hreaper : process.reaper = .released)
      (hrecords : ∀ record ∈ state.records, record.epoch ≠ process.epoch) :
      Reaps state pid process (state.moveReaper pid .forgetting)
  | remove {config : String} (hreaper : process.reaper = .removing config) :
      Reaps state pid process ((state.removeConfig config).moveReaper pid .forgetting)
  | forget (hreaper : process.reaper = .forgetting) :
      Reaps state pid process
        ((publish { state with
          records := state.records.filter (·.epoch ≠ process.epoch) }).moveReaper pid .done)

/-- Only a process that was launched has a reaper. -/
theorem exists_process_of_reapStep {pid : ProcessId} (h : state.reapStep pid = some after) :
    ∃ process, state.processes[pid]? = some process := by
  rw [reapStep] at h
  cases hprocess : state.processes[pid]? with
  | none => rw [hprocess] at h; exact nomatch h
  | some process => exact ⟨process, rfl⟩

/-- A reaper makes no other steps. -/
theorem reaps_of_reapStep {pid : ProcessId} {process : Process}
    (hprocess : state.processes[pid]? = some process) (h : state.reapStep pid = some after) :
    Reaps state pid process after := by
  rw [reapStep, hprocess] at h
  cases hreaper : process.reaper with
  | waiting =>
      simp only [hreaper] at h
      cases hended : state.ended? process with
      | none => simp only [hended] at h; exact nomatch h
      | some status =>
          simp only [hended] at h
          have hsome : (state.ended? process).isSome = true := by rw [hended]; rfl
          rw [← Option.some.inj h]
          by_cases hsuccess : status.isSuccess = true
          · rw [if_pos hsuccess]
            exact .release _ hreaper hsome
          · rw [if_neg hsuccess]
            exact .release _ hreaper hsome
  | released =>
      simp only [hreaper] at h
      cases hfind : state.records.find? (·.epoch = process.epoch) with
      | some record =>
          simp only [hfind] at h
          rw [← Option.some.inj h]
          have hpid := List.find?_some hfind
          exact .find hreaper (List.mem_of_find?_eq_some hfind) (by simpa using hpid)
      | none =>
          simp only [hfind] at h
          rw [← Option.some.inj h]
          exact .miss hreaper (by simpa using hfind)
  | removing config =>
      simp only [hreaper] at h
      rw [← Option.some.inj h]
      exact .remove hreaper
  | forgetting =>
      simp only [hreaper] at h
      rw [← Option.some.inj h]
      exact .forget hreaper
  | done =>
      simp only [hreaper] at h
      exact nomatch h

/-- A reaper does not touch the counter. -/
theorem Reaps.epoch_eq {pid : ProcessId} {process : Process} (h : state.Reaps pid process after) :
    after.epoch = state.epoch := by
  cases h with
  | release _ _ _ => rfl
  | find _ _ _ => rfl
  | miss _ _ => rfl
  | @remove config _ => exact (removeConfig_frame state config).1
  | forget _ => rfl

/-- What is published remains what is on record. -/
theorem Reaps.live_eq {pid : ProcessId} {process : Process} (h : state.Reaps pid process after)
    (hlive : state.live = state.records.map (·.epoch)) :
    after.live = after.records.map (·.epoch) := by
  cases h with
  | release _ _ _ => exact hlive
  | find _ _ _ => exact hlive
  | miss _ _ => exact hlive
  | @remove config _ =>
      obtain ⟨-, hrecords, hpublished, -⟩ := removeConfig_frame state config
      show (state.removeConfig config).live = (state.removeConfig config).records.map (·.epoch)
      rw [hpublished, hrecords, hlive]
  | forget _ => rfl

/-- The directory refuses what it refused before. -/
theorem Reaps.refusalOf_eq {pid : ProcessId} {process : Process}
    (h : state.Reaps pid process after) (name : String) :
    after.directory.refusalOf name = state.directory.refusalOf name := by
  cases h with
  | release _ _ _ => rfl
  | find _ _ _ => rfl
  | miss _ _ => rfl
  | @remove config _ =>
      show (state.removeConfig config).directory.refusalOf name = _
      rw [(removeConfig_frame state config).2.2.2]
      exact Directory.refusalOf_remove ..
  | forget _ => rfl

end MeshSidecar.AgentState
