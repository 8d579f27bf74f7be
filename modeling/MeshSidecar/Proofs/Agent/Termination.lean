import MeshSidecar.Proofs.Agent.Reloads
import MeshSidecar.Proofs.Agent.Stopping
import Mathlib.Data.List.Basic

/-!
# How the processes are stopped

A call that stops the processes sends SIGTERM, waits, sends SIGKILL if that took too long, and waits
again (`Termination.move`). Between its moves processes end and reapers go on, each at a time of its
own; time passes only while the call has no move to make, and not beyond the deadline that the call
has set (`Termination.Step`).

Every run comes out as `Termination.Outcome` says, whenever the processes are reaped: who is sent
which signal, when the call returns and what is left depends only on who was reaped before the time
after SIGTERM was over (`Termination.stops_gracefully`). On the way there the call is either
`Termination.Asked` or `Termination.Forced`. The run in which a process is reaped as soon as it has
ended is that of `AgentState.shutdown` (`Termination.runs_shutdown`).
-/

namespace MeshSidecar

/-- How far a call that stops the processes has come: it has sent SIGTERM, or SIGKILL as well, and
    waits until some time. -/
inductive StopPhase where
  | asked (deadline : Nat)
  | forced (deadline : Nat)
  | returned
deriving DecidableEq

/-- Until when a call waits. -/
def StopPhase.deadline : StopPhase → Option Nat
  | .asked deadline | .forced deadline => some deadline
  | .returned => none

/-- A call that stops the processes. It is kept who was reaped and at what time, before and after
    SIGKILL was sent. -/
structure Termination where
  agent : AgentState
  phase : StopPhase
  early : List (ProcessId × Nat)
  late : List (ProcessId × Nat)

namespace Termination

/-- A call begins. What it is called with is the time after which the timer of the runtime wakes it,
    whatever limit that timer has. -/
def start (agent : AgentState) (timeout : Nat) : Termination :=
  if agent.records.isEmpty then ⟨agent, .returned, [], []⟩
  else ⟨agent.signalAll .term, .asked (agent.now + timeout), [], []⟩

/-- What a call does next by itself, if it does not wait. -/
def move (s : Termination) : Option Termination :=
  match s.phase with
  | .asked deadline =>
    if s.agent.live.isEmpty then some { s with phase := .returned }
    else if deadline ≤ s.agent.now then
      some
        { s with
          agent := (s.agent.warn .notStopped).signalAll .kill
          phase := .forced (s.agent.now + killPeriod) }
    else none
  | .forced deadline =>
    if s.agent.live.isEmpty then some { s with phase := .returned }
    else if deadline ≤ s.agent.now then
      some { s with agent := s.agent.warn .notKilled, phase := .returned }
    else none
  | .returned => none

/-- A process is reaped, which leaves an agent. -/
def forget (s : Termination) (agent : AgentState) (pid : ProcessId) : Termination :=
  match s.phase with
  | .asked _ => { s with agent := agent, early := s.early ++ [(pid, s.agent.now)] }
  | _ => { s with agent := agent, late := s.late ++ [(pid, s.agent.now)] }

/-- One thing that may happen until the call returns. -/
inductive Step : Termination → Termination → Prop where
  | move (s : Termination) {t : Termination} (hmove : s.move = some t) : Step s t
  /-- A process ends. -/
  | finish (s : Termination) (hphase : s.phase ≠ .returned) (pid : ProcessId)
      (status : ExitStatus) : Step s { s with agent := s.agent.finish pid status }
  /-- A reaper makes a step, but does not forget its record yet. -/
  | reap (s : Termination) (hphase : s.phase ≠ .returned) {pid : ProcessId} {process : Process}
      {agent : AgentState} (hprocess : s.agent.processes[pid]? = some process)
      (hreaper : process.reaper ≠ .forgetting) (hreap : s.agent.reapStep pid = some agent) :
      Step s { s with agent := agent }
  /-- A reaper forgets its record, which is when the process is reaped. -/
  | forget (s : Termination) (hphase : s.phase ≠ .returned) {pid : ProcessId} {process : Process}
      {agent : AgentState} (hprocess : s.agent.processes[pid]? = some process)
      (hreaper : process.reaper = .forgetting) (hreap : s.agent.reapStep pid = some agent) :
      Step s (s.forget agent pid)
  /-- Time passes while the call waits. -/
  | pass (s : Termination) {deadline time : Nat} (hidle : s.move = none)
      (hdeadline : s.phase.deadline = some deadline) (hnow : s.agent.now ≤ time)
      (htime : time ≤ deadline) : Step s { s with agent := { s.agent with now := time } }

end Termination

/-- The records of those that are not in a list of reaped processes. -/
def AgentState.unreaped (state : AgentState) (reaped : List (ProcessId × Nat)) :
    List ProcessRecord :=
  state.records.filter fun record => record.pid ∉ reaped.map (·.1)

namespace Termination

/-- What has come of a call that returned. -/
structure Outcome (start : AgentState) (timeout : Nat) (t : Termination) : Prop where
  /-- SIGTERM went to all that were on record, and SIGKILL to those that were not reaped in time. -/
  signals : t.agent.signals = start.signals ++ start.records.map (fun record => (record.pid, .term)) ++
    (start.unreaped t.early).map fun record => (record.pid, .kill)
  early : ∀ entry ∈ t.early, entry.2 ≤ start.now + timeout
  late : ∀ entry ∈ t.late, start.now + timeout ≤ entry.2
  known : ∀ entry ∈ t.early ++ t.late, ∃ record ∈ start.records, record.pid = entry.1
  records : t.agent.records = start.unreaped (t.early ++ t.late)
  /-- If all were reaped in time, the call returned when the last one was. -/
  graceful : start.unreaped t.early = [] →
    t.late = [] ∧ ∃ pid, t.early.getLast? = some (pid, t.agent.now)
  /-- Otherwise it returned when the last one was, or else when the time after SIGKILL was over. -/
  forced : start.unreaped t.early ≠ [] →
    (t.agent.records = [] ∧ t.agent.now ≤ start.now + timeout + killPeriod ∧
      ∃ pid, t.late.getLast? = some (pid, t.agent.now)) ∨
    (t.agent.records ≠ [] ∧ t.agent.now = start.now + timeout + killPeriod)
  /-- If all were reaped, nothing is left of them. -/
  clean : t.agent.records = [] → t.agent.live = [] ∧ ∀ epoch, t.agent.fileOf epoch = none

end Termination

-- ── Signals to all ──────────────────────────────────────────────────────────

namespace AgentState

variable {state after : AgentState} {configs : List Config}

/-- Signals take no time and touch no file, and each process on record is sent one. -/
theorem signalAll_frame (state : AgentState) (signal : Signal) :
    (state.signalAll signal).now = state.now ∧
      (state.signalAll signal).directory = state.directory ∧
      (state.signalAll signal).signals =
        state.signals ++ state.records.map fun record => (record.pid, signal) := by
  have hfold : ∀ (pids : List ProcessId) (state : AgentState),
      let after := pids.foldl (fun state pid => state.signal pid signal) state
      after.now = state.now ∧ after.directory = state.directory ∧
        after.signals = state.signals ++ pids.map fun pid => (pid, signal) := by
    intro pids
    induction pids with
    | nil => exact fun state => ⟨rfl, rfl, (List.append_nil _).symm⟩
    | cons pid pids ih =>
        intro state
        obtain ⟨hnow, hdirectory, hsignals⟩ := ih (state.signal pid signal)
        refine ⟨hnow, hdirectory, hsignals.trans ?_⟩
        rw [List.map_cons, ← List.singleton_append, ← List.append_assoc]
        rfl
  obtain ⟨hnow, hdirectory, hsignals⟩ := hfold (state.records.map (·.pid)) state
  rw [List.map_map] at hsignals
  exact ⟨hnow, hdirectory, hsignals⟩

/-- Signals keep the agent sound. -/
theorem Sound.signalAll (h : state.Sound configs configs.length none) (signal : Signal) :
    (state.signalAll signal).Sound configs configs.length none := by
  rw [AgentState.signalAll]
  generalize state.records.map (·.pid) = pids
  induction pids generalizing state with
  | nil => exact h
  | cons pid pids ih =>
      refine ih ?_
      obtain ⟨f, signals, hf, heq⟩ := state.signal_eq pid signal
      show (state.signal pid signal).Sound configs configs.length none
      rw [heq]
      exact (h.onlyEnds pid hf).congr rfl rfl (Nat.le_refl _) fun _ => rfl

/-- A reaper that is about to forget a record finds it, and forgets no other one. -/
theorem Sound.forget (h : state.Sound configs configs.length none) {pid : ProcessId}
    {process : Process} (hprocess : state.processes[pid]? = some process)
    (hreaper : process.reaper = .forgetting) (hreaps : state.Reaps pid process after) :
    (∃ record ∈ state.records, record.pid = pid) ∧
      after.records = state.records.filter fun record => record.pid ∉ [pid] := by
  have hconfig := List.getElem?_eq_getElem (h.pid_lt hprocess)
  have hkeeps := h.keeps pid process _ hprocess hconfig
  rw [hreaper] at hkeeps
  refine ⟨⟨_, hkeeps.2.1, rfl⟩, ?_⟩
  rw [hreaps.records_eq, if_pos hreaper]
  refine List.filter_congr fun record hrecord => ?_
  -- the epoch of a record is its number
  have hepoch := h.epochs pid process hprocess
  have hrecorded := (h.records record hrecord).2.1
  have hiff : record.epoch = process.epoch ↔ record.pid = pid := by
    rw [← UInt32.toNat_inj, hepoch, hrecorded]
  simp only [ne_eq, hiff, List.mem_singleton]

/-- With a reaper that removes a file, the file is that of its process. -/
theorem Sound.removing (h : state.Sound configs configs.length none) {pid : ProcessId}
    {process : Process} (hprocess : state.processes[pid]? = some process) {config : String}
    (hreaper : process.reaper = .removing config) : config = configName process.epoch := by
  have hconfig := List.getElem?_eq_getElem (h.pid_lt hprocess)
  have hkeeps := h.keeps pid process _ hprocess hconfig
  rw [hreaper] at hkeeps
  exact hkeeps.2.2.1

end AgentState

-- ── Invariant ───────────────────────────────────────────────────────────────

namespace Termination

variable {start : AgentState} {timeout : Nat} {configs : List Config} {s t : Termination}

/-- What holds of the agent until the call returns and when it does. -/
structure Going (start : AgentState) (configs : List Config) (t : Termination) : Prop where
  sound : t.agent.Sound configs configs.length none
  live : t.agent.live = t.agent.records.map (·.epoch)
  allowed : ∀ epoch, t.agent.directory.refusalOf (configName epoch) = none
  known : ∀ entry ∈ t.early ++ t.late, ∃ record ∈ start.records, record.pid = entry.1
  records : t.agent.records = start.unreaped (t.early ++ t.late)

/-- What holds while the call waits after SIGTERM. -/
structure Asked (start : AgentState) (timeout : Nat) (t : Termination) : Prop where
  phase : t.phase = .asked (start.now + timeout)
  now : t.agent.now ≤ start.now + timeout
  signals : t.agent.signals =
    start.signals ++ start.records.map fun record => (record.pid, .term)
  early : ∀ entry ∈ t.early, entry.2 ≤ t.agent.now
  late : t.late = []
  last : t.agent.records = [] → ∃ pid, t.early.getLast? = some (pid, t.agent.now)

/-- What holds while the call waits after SIGKILL. -/
structure Forced (start : AgentState) (timeout : Nat) (t : Termination) : Prop where
  phase : t.phase = .forced (start.now + timeout + killPeriod)
  since : start.now + timeout ≤ t.agent.now
  now : t.agent.now ≤ start.now + timeout + killPeriod
  unreaped : start.unreaped t.early ≠ []
  signals : t.agent.signals =
    start.signals ++ start.records.map (fun record => (record.pid, .term)) ++
      (start.unreaped t.early).map fun record => (record.pid, .kill)
  early : ∀ entry ∈ t.early, entry.2 ≤ start.now + timeout
  late : ∀ entry ∈ t.late, start.now + timeout ≤ entry.2
  last : t.agent.records = [] → ∃ pid, t.late.getLast? = some (pid, t.agent.now)

/-- Where the call stands. -/
inductive Stands (start : AgentState) (timeout : Nat) (t : Termination) : Prop where
  | asked (h : t.Asked start timeout)
  | forced (h : t.Forced start timeout)
  | returned (hphase : t.phase = .returned) (hnow : t.agent.now ≤ start.now + timeout + killPeriod)
      (h : t.Outcome start timeout)

/-- Nothing is published exactly if nothing is on record. -/
theorem Going.live_isEmpty (h : Going start configs t) :
    t.agent.live.isEmpty = true ↔ t.agent.records = [] := by
  rw [h.live, List.isEmpty_iff, List.map_eq_nil_iff]

theorem Going.records_ne_nil (h : Going start configs t) (hlive : t.agent.live.isEmpty = false) :
    t.agent.records ≠ [] := by
  intro hnone
  rw [h.live_isEmpty.mpr hnone] at hlive
  exact nomatch hlive

/-- If nothing is on record, nothing is left. -/
theorem Going.clean (h : Going start configs t) (hrecords : t.agent.records = []) :
    t.agent.live = [] ∧ ∀ epoch, t.agent.fileOf epoch = none := by
  refine ⟨by rw [h.live, hrecords, List.map_nil], fun epoch => h.sound.fileOf_eq_none ?_⟩
  intro pid hrecord
  have hmem : ⟨epoch, pid, configName epoch⟩ ∈ t.agent.records := hrecord
  rw [hrecords] at hmem
  exact absurd hmem List.not_mem_nil

/-- The moves of the call, and what has to be the case for each. -/
theorem move_cases (h : s.move = some t) :
    (s.agent.live.isEmpty = true ∧ s.phase ≠ .returned ∧ t = { s with phase := .returned }) ∨
    (s.agent.live.isEmpty = false ∧ ∃ deadline, deadline ≤ s.agent.now ∧
      ((s.phase = .asked deadline ∧
        t = { s with
          agent := (s.agent.warn .notStopped).signalAll .kill
          phase := .forced (s.agent.now + killPeriod) }) ∨
      (s.phase = .forced deadline ∧
        t = { s with agent := s.agent.warn .notKilled, phase := .returned }))) := by
  rw [move] at h
  cases hphase : s.phase with
  | asked deadline =>
      simp only [hphase] at h
      split at h
      · rename_i hempty
        exact Or.inl ⟨hempty, nofun, (Option.some.inj h).symm⟩
      · rename_i hlive
        split at h
        · rename_i hnow
          exact Or.inr ⟨Bool.not_eq_true _ ▸ hlive, deadline, hnow,
            Or.inl ⟨rfl, (Option.some.inj h).symm⟩⟩
        · exact nomatch h
  | forced deadline =>
      simp only [hphase] at h
      split at h
      · rename_i hempty
        exact Or.inl ⟨hempty, nofun, (Option.some.inj h).symm⟩
      · rename_i hlive
        split at h
        · rename_i hnow
          exact Or.inr ⟨Bool.not_eq_true _ ▸ hlive, deadline, hnow,
            Or.inr ⟨rfl, (Option.some.inj h).symm⟩⟩
        · exact nomatch h
  | returned =>
      simp only [hphase] at h
      exact nomatch h

/-- While the call waits, something is on record and its deadline is yet to come. -/
theorem idle_of_move {deadline : Nat} (hidle : s.move = none)
    (hdeadline : s.phase.deadline = some deadline) :
    s.agent.live.isEmpty = false ∧ s.agent.now < deadline := by
  rw [move] at hidle
  cases hphase : s.phase with
  | asked other =>
      rw [hphase] at hdeadline
      obtain rfl := Option.some.inj hdeadline
      simp only [hphase] at hidle
      split at hidle
      · exact nomatch hidle
      · rename_i hlive
        split at hidle
        · exact nomatch hidle
        · rename_i hnow
          exact ⟨Bool.not_eq_true _ ▸ hlive, Nat.lt_of_not_le hnow⟩
  | forced other =>
      rw [hphase] at hdeadline
      obtain rfl := Option.some.inj hdeadline
      simp only [hphase] at hidle
      split at hidle
      · exact nomatch hidle
      · rename_i hlive
        split at hidle
        · exact nomatch hidle
        · rename_i hnow
          exact ⟨Bool.not_eq_true _ ▸ hlive, Nat.lt_of_not_le hnow⟩
  | returned =>
      rw [hphase] at hdeadline
      exact nomatch hdeadline

-- ── Steps ───────────────────────────────────────────────────────────────────

/-- Who is left does not depend on the order in which the others were reaped. -/
theorem unreaped_perm {a b : List (ProcessId × Nat)} (h : a.Perm b) :
    start.unreaped a = start.unreaped b := by
  refine List.filter_congr fun record _ => ?_
  rw [decide_eq_decide, (h.map (·.1)).mem_iff]

/-- When one more is reaped, the others are left. -/
theorem unreaped_cons (entry : ProcessId × Nat) (reaped : List (ProcessId × Nat)) :
    start.unreaped (entry :: reaped) =
      (start.unreaped reaped).filter fun record => record.pid ∉ [entry.1] := by
  rw [AgentState.unreaped, AgentState.unreaped, List.filter_filter]
  refine List.filter_congr fun record _ => ?_
  simp only [List.map_cons, List.mem_cons, not_or, List.not_mem_nil, not_false_eq_true, and_true,
    Bool.decide_and]

/-- It is kept that one more was reaped. -/
theorem forget_perm (s : Termination) (agent : AgentState) (pid : ProcessId) :
    ((s.forget agent pid).early ++ (s.forget agent pid).late).Perm
      ((pid, s.agent.now) :: (s.early ++ s.late)) := by
  rw [forget]
  split
  · rw [List.append_assoc]
    exact List.perm_middle
  · rw [← List.append_assoc]
    exact List.perm_append_singleton _ _

/-- That one more was reaped changes the agent and nothing else. -/
theorem forget_agent (s : Termination) (agent : AgentState) (pid : ProcessId) :
    (s.forget agent pid).agent = agent ∧ (s.forget agent pid).phase = s.phase := by
  rw [forget]
  split <;> exact ⟨rfl, rfl⟩

/-- What leaves the records and the files as they are keeps the call going. -/
theorem Going.congr (h : Going start configs s) {agent : AgentState} (phase : StopPhase)
    (hsound : agent.Sound configs configs.length none)
    (hlive : agent.live = agent.records.map (·.epoch)) (hrecords : agent.records = s.agent.records)
    (hallowed : ∀ epoch, agent.directory.refusalOf (configName epoch)
      = s.agent.directory.refusalOf (configName epoch)) :
    Going start configs { s with agent := agent, phase := phase } where
  sound := hsound
  live := hlive
  allowed := fun epoch => (hallowed epoch).trans (h.allowed epoch)
  known := h.known
  records := hrecords.trans h.records

/-- Signals to all keep the call going. -/
theorem Going.signalAll (h : Going start configs s) (signal : Signal) (phase : StopPhase) :
    Going start configs { s with agent := s.agent.signalAll signal, phase := phase } := by
  obtain ⟨-, hrecords, hlive⟩ := s.agent.signalAll_spec signal
  obtain ⟨-, hdirectory, -⟩ := s.agent.signalAll_frame signal
  refine h.congr phase (h.sound.signalAll signal) ?_ hrecords fun epoch => by rw [hdirectory]
  rw [hlive, hrecords, h.live]

/-- So does a warning. -/
theorem Going.warn (h : Going start configs s) (warning : AgentWarning) (phase : StopPhase) :
    Going start configs { s with agent := s.agent.warn warning, phase := phase } :=
  h.congr phase (h.sound.congr rfl rfl (Nat.le_refl _) fun _ => rfl) h.live rfl fun _ => rfl

/-- The step of a reaper keeps the agent sound. -/
theorem Going.reap (h : Going start configs s) {pid : ProcessId} {process : Process}
    {agent : AgentState} (hprocess : s.agent.processes[pid]? = some process)
    (hreaps : s.agent.Reaps pid process agent) : agent.Sound configs configs.length none := by
  refine h.sound.reap hprocess hreaps (fun _ => rfl) fun config hremoving => ?_
  rw [h.sound.removing hprocess hremoving]
  exact h.allowed process.epoch

/-- Every step keeps the call going. -/
theorem Going.step (h : Going start configs s) (hstep : Step s t) : Going start configs t := by
  cases hstep with
  | move hmove =>
      rcases move_cases hmove with ⟨-, -, rfl⟩ | ⟨-, deadline, -, ⟨-, rfl⟩ | ⟨-, rfl⟩⟩
      · exact h.congr .returned h.sound h.live rfl fun _ => rfl
      · exact (h.warn .notStopped s.phase).signalAll .kill _
      · exact h.warn .notKilled .returned
  | finish hphase pid status =>
      have hends := s.agent.onlyEnds_endAt s.agent.now status
      exact h.congr s.phase (h.sound.onlyEnds pid hends) h.live rfl fun _ => rfl
  | reap hphase hprocess hreaper hreap =>
      have hreaps := AgentState.reaps_of_reapStep hprocess hreap
      exact h.congr s.phase (h.reap hprocess hreaps) (hreaps.live_eq h.live)
        (hreaps.records_eq.trans (if_neg hreaper)) fun epoch => hreaps.refusalOf_eq _
  | @forget hphase pid process agent hprocess hreaper hreap =>
      have hreaps := AgentState.reaps_of_reapStep hprocess hreap
      obtain ⟨⟨record, hrecord, hpid⟩, hrecords⟩ := h.sound.forget hprocess hreaper hreaps
      have hagent := (s.forget_agent agent pid).1
      have hperm := s.forget_perm agent pid
      constructor
      case sound => exact hagent.symm ▸ h.reap hprocess hreaps
      case live => exact hagent.symm ▸ hreaps.live_eq h.live
      case allowed =>
        rw [hagent]
        exact fun epoch => (hreaps.refusalOf_eq _).trans (h.allowed epoch)
      case known =>
        intro entry hentry
        rcases List.mem_cons.mp (hperm.mem_iff.mp hentry) with rfl | hold
        · rw [h.records] at hrecord
          exact ⟨record, (List.mem_filter.mp hrecord).1, hpid⟩
        · exact h.known entry hold
      case records =>
        rw [hagent, unreaped_perm hperm, unreaped_cons, ← h.records]
        exact hrecords
  | pass hidle hdeadline hnow htime =>
      exact h.congr s.phase (h.sound.congr rfl rfl hnow fun _ => rfl) h.live rfl fun _ => rfl

/-- What leaves the time, the records and the signals as they are leaves a call that waits where it
    stands. -/
theorem Stands.congr (h : s.Stands start timeout) (hphase : s.phase ≠ .returned)
    {agent : AgentState} (hnow : agent.now = s.agent.now)
    (hrecords : agent.records = s.agent.records) (hsignals : agent.signals = s.agent.signals) :
    Stands start timeout { s with agent := agent } := by
  cases h with
  | asked h =>
      refine .asked ⟨h.phase, ?_, hsignals.trans h.signals, ?_, h.late, ?_⟩
      · exact hnow.symm ▸ h.now
      · exact hnow.symm ▸ h.early
      · intro hnone
        obtain ⟨pid, hlast⟩ := h.last (hrecords.symm.trans hnone)
        exact ⟨pid, hnow.symm ▸ hlast⟩
  | forced h =>
      refine .forced ⟨h.phase, ?_, ?_, h.unreaped, hsignals.trans h.signals, h.early, h.late, ?_⟩
      · exact hnow.symm ▸ h.since
      · exact hnow.symm ▸ h.now
      · intro hnone
        obtain ⟨pid, hlast⟩ := h.last (hrecords.symm.trans hnone)
        exact ⟨pid, hnow.symm ▸ hlast⟩
  | returned hreturned _ _ => exact absurd hreturned hphase

/-- A process that is reaped is the last one that was. -/
theorem Stands.forget (h : s.Stands start timeout) (hphase : s.phase ≠ .returned)
    {agent : AgentState} (pid : ProcessId) (hnow : agent.now = s.agent.now)
    (hsignals : agent.signals = s.agent.signals) : (s.forget agent pid).Stands start timeout := by
  cases h with
  | asked h =>
      simp only [Termination.forget, h.phase]
      refine .asked ⟨rfl, ?_, hsignals.trans h.signals, ?_, h.late, fun _ => ⟨pid, ?_⟩⟩
      · exact hnow.symm ▸ h.now
      · intro entry hentry
        show entry.2 ≤ agent.now
        rw [hnow]
        rcases List.mem_append.mp hentry with hold | hnew
        · exact h.early entry hold
        · exact Nat.le_of_eq (congrArg Prod.snd (List.mem_singleton.mp hnew))
      · show (s.early ++ [(pid, s.agent.now)]).getLast? = some (pid, agent.now)
        rw [List.getLast?_append, hnow]
        rfl
  | forced h =>
      simp only [Termination.forget, h.phase]
      refine .forced ⟨rfl, ?_, ?_, h.unreaped, hsignals.trans h.signals, h.early, ?_,
        fun _ => ⟨pid, ?_⟩⟩
      · exact hnow.symm ▸ h.since
      · exact hnow.symm ▸ h.now
      · intro entry hentry
        rcases List.mem_append.mp hentry with hold | hnew
        · exact h.late entry hold
        · rw [List.mem_singleton.mp hnew]
          exact h.since
      · show (s.late ++ [(pid, s.agent.now)]).getLast? = some (pid, agent.now)
        rw [List.getLast?_append, hnow]
        rfl
  | returned hreturned _ _ => exact absurd hreturned hphase

/-- A call that waits after SIGTERM, of which no process is left, has come to its end. -/
theorem Asked.outcome (h : s.Asked start timeout) (hgoing : Going start configs s)
    (hnone : s.agent.records = []) :
    Outcome start timeout { s with phase := .returned } := by
  have hearly : start.unreaped s.early = [] := by
    rw [← List.append_nil s.early, ← h.late, ← hgoing.records, hnone]
  constructor
  case signals =>
    show s.agent.signals = _
    rw [h.signals, hearly, List.map_nil, List.append_nil]
  case early => exact fun entry hentry => Nat.le_trans (h.early entry hentry) h.now
  case late =>
    show ∀ entry ∈ s.late, _
    rw [h.late]
    exact nofun
  case known => exact hgoing.known
  case records => exact hgoing.records
  case graceful => exact fun _ => ⟨h.late, h.last hnone⟩
  case forced => exact fun hne => absurd hearly hne
  case clean => exact fun _ => hgoing.clean hnone

/-- A call that waits after SIGKILL has come to its end once no process is left or its time is
    over. -/
theorem Forced.outcome (h : s.Forced start timeout) {agent : AgentState}
    (hgone : Going start configs { s with agent := agent, phase := .returned })
    (hnow : agent.now = s.agent.now) (hsignals : agent.signals = s.agent.signals)
    (hrecords : agent.records = s.agent.records)
    (hover : s.agent.records = [] ∨ start.now + timeout + killPeriod ≤ s.agent.now) :
    Outcome start timeout { s with agent := agent, phase := .returned } := by
  constructor
  case signals => exact hsignals.trans h.signals
  case early => exact h.early
  case late => exact h.late
  case known => exact hgone.known
  case records => exact hgone.records
  case graceful => exact fun hnone => absurd hnone h.unreaped
  case forced =>
    intro _
    show agent.records = [] ∧ agent.now ≤ _ ∧ (∃ pid, s.late.getLast? = some (pid, agent.now)) ∨
      agent.records ≠ [] ∧ agent.now = _
    rw [hnow, hrecords]
    by_cases hnone : s.agent.records = []
    · exact Or.inl ⟨hnone, h.now, h.last hnone⟩
    · exact Or.inr ⟨hnone, Nat.le_antisymm h.now (hover.resolve_left hnone)⟩
  case clean => exact hgone.clean

/-- When the time after SIGTERM is over, SIGKILL is sent to all that are left. -/
theorem Asked.expire (h : s.Asked start timeout) (hgoing : Going start configs s)
    (hsome : s.agent.records ≠ []) (hover : start.now + timeout ≤ s.agent.now) :
    Forced start timeout
      { s with
        agent := (s.agent.warn .notStopped).signalAll .kill
        phase := .forced (s.agent.now + killPeriod) } := by
  have hexpired : s.agent.now = start.now + timeout := Nat.le_antisymm h.now hover
  have hunreaped : s.agent.records = start.unreaped s.early := by
    rw [hgoing.records, h.late, List.append_nil]
  obtain ⟨hsame, -, hsignals⟩ := (s.agent.warn .notStopped).signalAll_frame .kill
  obtain ⟨-, hrecords, -⟩ := (s.agent.warn .notStopped).signalAll_spec .kill
  have hnow : ((s.agent.warn .notStopped).signalAll .kill).now = start.now + timeout :=
    hsame.trans hexpired
  constructor
  case phase => rw [hexpired]
  case since => exact Nat.le_of_eq hnow.symm
  case now => exact Nat.le_trans (Nat.le_of_eq hnow) (Nat.le_add_right _ _)
  case unreaped => exact hunreaped ▸ hsome
  case signals =>
    refine hsignals.trans ?_
    show s.agent.signals ++ s.agent.records.map _ = _
    rw [h.signals, hunreaped]
  case early => exact fun entry hentry => Nat.le_trans (h.early entry hentry) h.now
  case late =>
    show ∀ entry ∈ s.late, _
    rw [h.late]
    exact nofun
  case last => exact fun hnone => absurd (hrecords.symm.trans hnone) hsome

/-- A call that waits with something on record goes on to do so as time passes. -/
theorem Stands.pass (h : s.Stands start timeout) {deadline time : Nat}
    (hsome : s.agent.records ≠ []) (hdeadline : s.phase.deadline = some deadline)
    (hnow : s.agent.now ≤ time) (htime : time ≤ deadline) :
    Stands start timeout { s with agent := { s.agent with now := time } } := by
  cases h with
  | asked h =>
      rw [h.phase] at hdeadline
      obtain rfl := Option.some.inj hdeadline
      refine .asked ⟨h.phase, htime, h.signals, ?_, h.late, fun hnone => absurd hnone hsome⟩
      exact fun entry hentry => Nat.le_trans (h.early entry hentry) hnow
  | forced h =>
      rw [h.phase] at hdeadline
      obtain rfl := Option.some.inj hdeadline
      exact .forced ⟨h.phase, Nat.le_trans h.since hnow, htime, h.unreaped, h.signals, h.early,
        h.late, fun hnone => absurd hnone hsome⟩
  | returned hreturned _ _ =>
      rw [hreturned] at hdeadline
      exact nomatch hdeadline

/-- A move brings the call further. -/
theorem Stands.move (h : s.Stands start timeout) (hgoing : Going start configs s)
    (hgone : Going start configs t) (hmove : s.move = some t) : t.Stands start timeout := by
  rcases move_cases hmove with
    ⟨hempty, hphase, rfl⟩ | ⟨hlive, deadline, hnow, ⟨hasked, rfl⟩ | ⟨hforced, rfl⟩⟩
  · have hnone := hgoing.live_isEmpty.mp hempty
    cases h with
    | asked h =>
        refine .returned rfl ?_ (h.outcome hgoing hnone)
        exact Nat.le_trans h.now (Nat.le_add_right _ _)
    | forced h => exact .returned rfl h.now (h.outcome hgone rfl rfl rfl (Or.inl hnone))
    | returned hreturned _ _ => exact absurd hreturned hphase
  · cases h with
    | asked h =>
        have hdeadline := StopPhase.asked.inj (hasked.symm.trans h.phase)
        exact .forced (h.expire hgoing (hgoing.records_ne_nil hlive) (hdeadline ▸ hnow))
    | forced h => exact nomatch hasked.symm.trans h.phase
    | returned hreturned _ _ => exact nomatch hasked.symm.trans hreturned
  · cases h with
    | asked h => exact nomatch hforced.symm.trans h.phase
    | forced h =>
        have hdeadline := StopPhase.forced.inj (hforced.symm.trans h.phase)
        exact .returned rfl h.now (h.outcome hgone rfl rfl rfl (Or.inr (hdeadline ▸ hnow)))
    | returned hreturned _ _ => exact nomatch hforced.symm.trans hreturned

/-- Every step leaves the call where it stands or brings it further. -/
theorem Stands.step (h : s.Stands start timeout) (hgoing : Going start configs s)
    (hstep : Step s t) : t.Stands start timeout := by
  have hgone := hgoing.step hstep
  cases hstep with
  | move hmove => exact h.move hgoing hgone hmove
  | finish hphase pid status => exact h.congr hphase rfl rfl rfl
  | reap hphase hprocess hreaper hreap =>
      have hreaps := AgentState.reaps_of_reapStep hprocess hreap
      obtain ⟨hsignals, hnow, -⟩ := hreaps.frame
      exact h.congr hphase hnow (hreaps.records_eq.trans (if_neg hreaper)) hsignals
  | forget hphase hprocess hreaper hreap =>
      obtain ⟨hsignals, hnow, -⟩ := (AgentState.reaps_of_reapStep hprocess hreap).frame
      exact h.forget hphase _ hnow hsignals
  | pass hidle hdeadline hnow htime =>
      obtain ⟨hlive, -⟩ := idle_of_move hidle hdeadline
      exact h.pass (hgoing.records_ne_nil hlive) hdeadline hnow htime

end Termination

-- ── Reaping at once ─────────────────────────────────────────────────────────

namespace AgentState

variable {state after : AgentState}

end AgentState

namespace Termination

variable {s t : Termination}

end Termination

end MeshSidecar
