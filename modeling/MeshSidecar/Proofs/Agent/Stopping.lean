import MeshSidecar.Agent.Shutdown
import MeshSidecar.Proofs.Agent.Generations
import Mathlib.Logic.Relation

/-!
# Stopping the processes

While the agent shuts down it only sends signals and gives warnings; meanwhile time passes,
processes end and reapers go on (`AgentState.stops_shutdown`). None of this launches a process, puts
one on record or publishes an epoch: what there is can only become less
(`AgentState.shrinks_shutdown`).
-/

namespace MeshSidecar.AgentState

variable {state after last : AgentState}

-- ── What can happen ─────────────────────────────────────────────────────────

/-- What may happen while the agent itself does nothing. -/
inductive HostStep (state : AgentState) : AgentState → Prop where
  /-- Time passes, and the binary and the directory change. -/
  | outside (program : Program) (directory : Directory) {now : Nat} (hnow : state.now ≤ now) :
      HostStep state { state with program := program, directory := directory, now := now }
  /-- A process ends. -/
  | finish (pid : ProcessId) (status : ExitStatus) : HostStep state (state.finish pid status)
  /-- A reaper makes its next step. -/
  | reap {pid : ProcessId} {after : AgentState} (h : state.reapStep pid = some after) :
      HostStep state after

/-- What may happen while the agent shuts down. -/
inductive StopStep (state : AgentState) : AgentState → Prop where
  | host {after : AgentState} (h : HostStep state after) : StopStep state after
  | signalAll (signal : Signal) : StopStep state (state.signalAll signal)
  | warn (warning : AgentWarning) : StopStep state (state.warn warning)

/-- The state that an agent is brought to while it shuts down. -/
def Stops : AgentState → AgentState → Prop := Relation.ReflTransGen StopStep

theorem Stops.host (h : state.HostStep after) : state.Stops after := .single (.host h)

theorem stops_pass {now : Nat} (hnow : state.now ≤ now) : state.Stops { state with now := now } :=
  .host (.outside state.program state.directory hnow)

theorem stops_reapSteps (pid : ProcessId) (fuel : Nat) (state : AgentState) :
    state.Stops (reapSteps pid fuel state) := by
  induction fuel generalizing state with
  | zero => exact .refl
  | succ fuel ih =>
      rw [reapSteps]
      cases hstep : state.reapStep pid with
      | none => exact .refl
      | some next => exact (Stops.host (.reap hstep)).trans (ih next)

theorem stops_settle (state : AgentState) : state.Stops state.settle := by
  rw [settle]
  generalize List.range state.processes.length = pids
  induction pids generalizing state with
  | nil => exact .refl
  | cons pid pids ih => exact (stops_reapSteps pid 4 state).trans (ih _)

/-- The next end of a process is yet to come. -/
theorem now_lt_of_nextEnding {deadline time : Nat} (h : state.nextEnding deadline = some time) :
    state.now < time := by
  have hmem := (List.min?_eq_some_iff.mp h).1
  obtain ⟨process, -, hending⟩ := List.mem_filterMap.mp hmem
  obtain ⟨⟨ending, status⟩, -, hif⟩ := Option.bind_eq_some_iff.mp hending
  dsimp only at hif
  by_cases hlater : state.now < ending ∧ ending ≤ deadline
  · rw [if_pos hlater] at hif
    exact Option.some.inj hif ▸ hlater.1
  · rw [if_neg hlater] at hif
    exact nomatch hif

theorem stops_awaitWithin (deadline fuel : Nat) (state : AgentState) :
    state.Stops (awaitWithin deadline fuel state) := by
  induction fuel generalizing state with
  | zero => exact .refl
  | succ fuel ih =>
      rw [awaitWithin]
      refine (stops_settle state).trans ?_
      by_cases hempty : state.settle.live.isEmpty = true
      · rw [if_pos hempty]
      · rw [if_neg hempty]
        cases hnext : state.settle.nextEnding deadline with
        | none => exact stops_pass (Nat.le_max_left _ _)
        | some time =>
            exact (stops_pass (Nat.le_of_lt (now_lt_of_nextEnding hnext))).trans (ih _)

/-- To shut down is to go on like this. -/
theorem stops_shutdown (state : AgentState) (timeout : Nat) :
    state.Stops (state.shutdown timeout) := by
  rw [shutdown]
  by_cases hnone : state.records.isEmpty = true
  · rw [if_pos hnone]
    exact .refl
  · rw [if_neg hnone]
    have hterm : state.Stops ((state.signalAll .term).awaitReaped timeout) :=
      (Relation.ReflTransGen.single (.signalAll .term)).trans (stops_awaitWithin _ _ _)
    refine hterm.trans ?_
    generalize (state.signalAll .term).awaitReaped timeout = waited
    by_cases hempty : waited.live.isEmpty = true
    · rw [if_pos hempty]
    · rw [if_neg hempty]
      have hkill : waited.Stops
          (((waited.warn .notStopped).signalAll .kill).awaitReaped killPeriod) :=
        ((Relation.ReflTransGen.single (.warn .notStopped)).tail (.signalAll .kill)).trans
          (stops_awaitWithin _ _ _)
      refine hkill.trans ?_
      generalize ((waited.warn .notStopped).signalAll .kill).awaitReaped killPeriod = killed
      by_cases hreaped : killed.live.isEmpty = true
      · rw [if_pos hreaped]
      · rw [if_neg hreaped]
        exact .single (.warn .notKilled)

-- ── What becomes of the processes ───────────────────────────────────────────

/-- What is published is what is on record. -/
def Published (state : AgentState) : Prop := state.live = state.records.map (·.epoch)

/-- No process was launched, and there is no more on record, published or running than before. -/
structure Shrinks (state after : AgentState) : Prop where
  count : after.processes.length = state.processes.length
  records : after.records.Sublist state.records
  live : after.live ⊆ state.live
  running : ∀ {pid : ProcessId} {process : Process}, after.processes[pid]? = some process →
    after.ended? process = none →
      ∃ earlier, state.processes[pid]? = some earlier ∧ state.ended? earlier = none

theorem Shrinks.refl (state : AgentState) : state.Shrinks state :=
  ⟨rfl, .refl _, List.Subset.refl _, fun hprocess hrunning => ⟨_, hprocess, hrunning⟩⟩

theorem Shrinks.trans (hfirst : state.Shrinks after) (hsecond : after.Shrinks last) :
    state.Shrinks last where
  count := hsecond.count.trans hfirst.count
  records := hsecond.records.trans hfirst.records
  live := List.Subset.trans hsecond.live hfirst.live
  running hprocess hrunning := by
    obtain ⟨earlier, hearlier, hstill⟩ := hsecond.running hprocess hrunning
    exact hfirst.running hearlier hstill

/-- A change of one process does not bring it back if it keeps what has ended. -/
theorem shrinks_of_modify {pid : ProcessId} {f : Process → Process}
    (hprocesses : after.processes = state.processes.modify pid f)
    (hnow : state.now ≤ after.now) (hrecords : after.records.Sublist state.records)
    (hlive : after.live ⊆ state.live)
    (hf : ∀ process, (state.ended? process).isSome → (state.ended? (f process)).isSome) :
    state.Shrinks after where
  count := by rw [hprocesses, List.length_modify]
  records := hrecords
  live := hlive
  running := by
    intro other process hprocess hrunning
    rw [hprocesses, List.getElem?_modify] at hprocess
    obtain ⟨earlier, hearlier, rfl⟩ := Option.map_eq_some_iff.mp hprocess
    refine ⟨earlier, hearlier, Option.not_isSome_iff_eq_none.mp fun hended => ?_⟩
    have hkept : (state.ended? (if pid = other then f earlier else earlier)).isSome = true := by
      by_cases heq : pid = other
      · rw [if_pos heq]
        exact hf earlier hended
      · rw [if_neg heq]
        exact hended
    have hafter := ended_mono hnow hkept
    rw [hrunning] at hafter
    exact nomatch hafter

/-- As time passes, what is still running was running before. -/
theorem shrinks_of_same (hprocesses : after.processes = state.processes)
    (hnow : state.now ≤ after.now) (hrecords : after.records = state.records)
    (hlive : after.live = state.live) : state.Shrinks after :=
  shrinks_of_modify (hprocesses.trans (List.modify_id 0 state.processes).symm) hnow
    (hrecords ▸ .refl _) (hlive ▸ List.Subset.refl _) fun _ => id

/-- To remove a file touches no process. -/
theorem removeConfig_processes (state : AgentState) (config : String) :
    (state.removeConfig config).processes = state.processes ∧
      (state.removeConfig config).now = state.now := by
  rw [removeConfig]
  split <;> exact ⟨rfl, rfl⟩

/-- To remove a file sends no signal. -/
theorem removeConfig_signals (state : AgentState) (config : String) :
    (state.removeConfig config).signals = state.signals := by
  rw [removeConfig]
  split <;> rfl

/-- A reaper sends no signal, takes no time and launches no process. -/
theorem Reaps.frame {pid : ProcessId} {process : Process} (h : state.Reaps pid process after) :
    after.signals = state.signals ∧ after.now = state.now ∧
      after.processes.length = state.processes.length := by
  cases h with
  | release _ _ _ => exact ⟨rfl, rfl, List.length_modify ..⟩
  | find _ _ _ => exact ⟨rfl, rfl, List.length_modify ..⟩
  | miss _ _ => exact ⟨rfl, rfl, List.length_modify ..⟩
  | @remove config _ =>
      obtain ⟨hprocesses, hnow⟩ := removeConfig_processes state config
      refine ⟨removeConfig_signals state config, hnow, ?_⟩
      rw [moveReaper, modifyProcess, List.length_modify, hprocesses]
  | forget _ => exact ⟨rfl, rfl, List.length_modify ..⟩

/-- A reaper leaves the records as they are until it forgets its own. -/
theorem Reaps.records_eq {pid : ProcessId} {process : Process}
    (h : state.Reaps pid process after) :
    after.records = if process.reaper = .forgetting then
      state.records.filter (·.epoch ≠ process.epoch) else state.records := by
  cases h with
  | release _ hreaper _ => rw [hreaper]; rfl
  | find hreaper _ _ => rw [hreaper]; rfl
  | miss hreaper _ => rw [hreaper]; rfl
  | @remove config hreaper =>
      rw [hreaper]
      exact (removeConfig_frame state config).2.1
  | forget hreaper => rw [hreaper]; rfl

theorem shrinks_moveReaper (state : AgentState) (pid : ProcessId) (stage : ReapStage) :
    state.Shrinks (state.moveReaper pid stage) :=
  shrinks_of_modify rfl (Nat.le_refl _) (.refl _) (List.Subset.refl _) fun _ => id

/-- A reaper brings nothing back. -/
theorem Reaps.shrinks {pid : ProcessId} {process : Process} (h : state.Reaps pid process after)
    (hpublished : state.Published) : state.Shrinks after := by
  cases h with
  | release warnings _ _ =>
      exact (shrinks_moveReaper state pid .released).trans
        (shrinks_of_same rfl (Nat.le_refl _) rfl rfl)
  | find _ _ _ => exact shrinks_moveReaper state pid _
  | miss _ _ => exact shrinks_moveReaper state pid .forgetting
  | @remove config _ =>
      obtain ⟨-, hrecords, hlive, -⟩ := removeConfig_frame state config
      obtain ⟨hprocesses, hnow⟩ := removeConfig_processes state config
      have hremoved : state.Shrinks (state.removeConfig config) :=
        shrinks_of_same hprocesses (Nat.le_of_eq hnow.symm) hrecords hlive
      exact hremoved.trans (shrinks_moveReaper _ pid .forgetting)
  | forget _ =>
      have hrecords : (state.records.filter (·.epoch ≠ process.epoch)).Sublist state.records :=
        List.filter_sublist
      refine shrinks_of_modify rfl (Nat.le_refl _) hrecords ?_ fun _ => id
      show (state.records.filter _).map (·.epoch) ⊆ state.live
      rw [hpublished]
      exact (hrecords.map _).subset

/-- A signal brings nothing back. -/
theorem shrinks_signal (state : AgentState) (pid : ProcessId) (signal : Signal) :
    state.Shrinks (state.signal pid signal) := by
  obtain ⟨f, signals, hf, heq⟩ := signal_eq state pid signal
  rw [heq]
  exact shrinks_of_modify rfl (Nat.le_refl _) (.refl _) (List.Subset.refl _)
    fun process => (hf process).2.2

/-- Nothing else is on record or published after signals. -/
theorem signalAll_spec (state : AgentState) (signal : Signal) :
    state.Shrinks (state.signalAll signal) ∧
      (state.signalAll signal).records = state.records ∧
      (state.signalAll signal).live = state.live := by
  rw [signalAll]
  generalize state.records.map (·.pid) = pids
  induction pids generalizing state with
  | nil => exact ⟨.refl state, rfl, rfl⟩
  | cons pid pids ih =>
      obtain ⟨hshrinks, hrecords, hlive⟩ := ih (state.signal pid signal)
      exact ⟨(shrinks_signal state pid signal).trans hshrinks, hrecords, hlive⟩

/-- Nothing is launched, put on record or brought back by what happens while the agent itself does
    nothing, and what is published remains what is on record. -/
theorem HostStep.shrinks (h : state.HostStep after) (hpublished : state.Published) :
    state.Shrinks after ∧ after.Published := by
  cases h with
  | outside program directory hnow =>
      exact ⟨shrinks_of_same rfl hnow rfl rfl, hpublished⟩
  | finish pid status =>
      exact ⟨shrinks_of_modify rfl (Nat.le_refl _) (.refl _) (List.Subset.refl _)
        fun process => (onlyEnds_endAt state state.now status process).2.2, hpublished⟩
  | @reap pid _ hreap =>
      obtain ⟨process, hprocess⟩ := exists_process_of_reapStep hreap
      have hreaps := reaps_of_reapStep hprocess hreap
      exact ⟨hreaps.shrinks hpublished, hreaps.live_eq hpublished⟩

/-- The same holds of what happens while the agent shuts down. -/
theorem StopStep.shrinks (h : state.StopStep after) (hpublished : state.Published) :
    state.Shrinks after ∧ after.Published := by
  cases h with
  | host h => exact h.shrinks hpublished
  | signalAll signal =>
      obtain ⟨hshrinks, hrecords, hlive⟩ := signalAll_spec state signal
      exact ⟨hshrinks, by rw [Published, hrecords, hlive, hpublished]⟩
  | warn warning =>
      exact ⟨shrinks_of_same rfl (Nat.le_refl _) rfl rfl, hpublished⟩

/-- Going on like this only makes less of what there is. -/
theorem shrinks_of_stops (h : state.Stops after) (hpublished : state.Published) :
    state.Shrinks after ∧ after.Published := by
  induction h with
  | refl => exact ⟨.refl state, hpublished⟩
  | tail _ hstep ih =>
      obtain ⟨hshrinks, hpublished⟩ := hstep.shrinks ih.2
      exact ⟨ih.1.trans hshrinks, hpublished⟩

/-- To shut down launches no process, and brings none back. -/
theorem shrinks_shutdown (hpublished : state.Published) (timeout : Nat) :
    state.Shrinks (state.shutdown timeout) ∧ (state.shutdown timeout).Published :=
  shrinks_of_stops (stops_shutdown state timeout) hpublished

-- ── Reloads ─────────────────────────────────────────────────────────────────

/-- A reload publishes what it puts on record, if it does. -/
theorem Published.reload (hpublished : state.Published) (config : Config) :
    (AgentState.reload config state).2.Published := by
  cases h : AgentState.reload config state with
  | mk answer after =>
      cases reloads_of_reload h with
      | unwritten _ => exact hpublished
      | @unlaunched directory _ _ =>
          obtain ⟨-, hrecords, hlive, -⟩ := removeConfig_frame
            { state with directory := directory } (configName state.epoch)
          show (removeConfig _ _).live = (removeConfig _ _).records.map (·.epoch)
          rw [hlive, hrecords]
          exact hpublished
      | launched _ => rfl

end MeshSidecar.AgentState
