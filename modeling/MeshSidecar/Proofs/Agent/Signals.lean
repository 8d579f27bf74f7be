import MeshSidecar.Proofs.Agent.Reloads
import MeshSidecar.Proofs.Agent.Stopping

/-!
# Who is signalled

Any number of calls stop the processes while others reload the proxy, processes end and reapers go
on. A call holds the lock while it sends a signal to one process on record after the other; a reload
holds it from beginning to end; a reaper needs it to look for the record and to forget it, but not
to wait for the process or to remove the file.

A signal goes only to the number of a process that was launched and is still on record
(`Signalling.sent_to_recorded`). That is not enough: once a reaper has waited for its process, the
number may be given to another one, but the record stays until the file is removed. So there are
runs in which the number of a process is signalled that has been waited for
(`Signalling.waited_for_signalled`), and the numbers are those of the agent's own processes in the
runs in which no pass over the records meets a reaper between its wait and the end of its record.
-/

namespace MeshSidecar

/-- How far a call that stops the processes has come. -/
inductive StopStage where
  /-- It is about to take the lock and to send a signal, and will then wait for a while. -/
  | due (signal : Signal) (period : Nat)
  /-- It sent a signal and waits for the processes to be reaped. -/
  | awaiting (signal : Signal) (deadline : Nat)
  | returned
deriving DecidableEq

/-- A call that holds the lock, and the numbers to which it has yet to send its signal. -/
structure SignalPass where
  call : Nat
  signal : Signal
  period : Nat
  left : List ProcessId
deriving DecidableEq

/-- A signal that was sent, and how far the reaper of the process with that number had come. -/
structure SentSignal where
  pid : ProcessId
  signal : Signal
  reaper : Option ReapStage
deriving DecidableEq

/-- The agent, the calls that stop its processes, the one that holds the lock, and the signals that
    were sent, in order. -/
structure Signalling where
  agent : AgentState
  calls : List StopStage
  pass : Option SignalPass
  sent : List SentSignal

namespace AgentState

/-- Every record is that of a process which was launched under its epoch and is not forgotten. -/
def Recorded (state : AgentState) : Prop :=
  ∀ record ∈ state.records, ∃ process, state.processes[record.pid]? = some process ∧
    process.epoch = record.epoch ∧ process.reaper ≠ .done

/-- No process on record has been waited for. -/
def Unwaited (state : AgentState) : Prop :=
  ∀ record ∈ state.records, ∀ process, state.processes[record.pid]? = some process →
    process.reaper = .waiting

end AgentState

namespace Signalling

/-- One thing that may happen. -/
inductive Step : Signalling → Signalling → Prop where
  | reload (s : Signalling) (config : Config) (hfree : s.pass = none) :
      Step s { s with agent := (AgentState.reload config s.agent).2 }
  /-- A process ends. -/
  | finish (s : Signalling) (pid : ProcessId) (status : ExitStatus) :
      Step s { s with agent := s.agent.finish pid status }
  /-- A reaper makes its next step. -/
  | reap (s : Signalling) {pid : ProcessId} {process : Process} {agent : AgentState}
      (hprocess : s.agent.processes[pid]? = some process)
      (hlock : process.reaper.Locks → s.pass = none) (hreap : s.agent.reapStep pid = some agent) :
      Step s { s with agent := agent }
  /-- Time passes, and the binary and the directory change. -/
  | outside (s : Signalling) (now : Nat) (program : Program) (directory : Directory)
      (hnow : s.agent.now ≤ now) :
      Step s
        { s with
          agent := { s.agent with now := now, program := program, directory := directory } }
  /-- A call begins. It returns at once if nothing is on record. -/
  | call (s : Signalling) (timeout : Nat) (hfree : s.pass = none) :
      Step s
        { s with
          calls := s.calls ++
            [if s.agent.records.isEmpty then .returned else .due .term timeout] }
  /-- A call takes the lock. -/
  | enter (s : Signalling) {call : Nat} {signal : Signal} {period : Nat} (hfree : s.pass = none)
      (hcall : s.calls[call]? = some (.due signal period)) :
      Step s { s with pass := some ⟨call, signal, period, s.agent.records.map (·.pid)⟩ }
  | send (s : Signalling) {call : Nat} {signal : Signal} {period : Nat} {pid : ProcessId}
      {left : List ProcessId} (hpass : s.pass = some ⟨call, signal, period, pid :: left⟩) :
      Step s
        { s with
          agent := s.agent.signal pid signal
          pass := some ⟨call, signal, period, left⟩
          sent := s.sent ++ [⟨pid, signal, (s.agent.processes[pid]?).map (·.reaper)⟩] }
  /-- The signal was sent to all, and the lock is given back. -/
  | leave (s : Signalling) {call : Nat} {signal : Signal} {period : Nat}
      (hpass : s.pass = some ⟨call, signal, period, []⟩) :
      Step s
        { s with
          calls := s.calls.set call (.awaiting signal (s.agent.now + period))
          pass := none }
  /-- A call returns since no epoch is published. -/
  | reaped (s : Signalling) {call : Nat} {signal : Signal} {deadline : Nat}
      (hcall : s.calls[call]? = some (.awaiting signal deadline)) (hlive : s.agent.live = []) :
      Step s { s with calls := s.calls.set call .returned }
  /-- The time after SIGTERM is over. -/
  | overdue (s : Signalling) {call : Nat} {deadline : Nat}
      (hcall : s.calls[call]? = some (.awaiting .term deadline)) (hnow : deadline ≤ s.agent.now)
      (hlive : s.agent.live ≠ []) :
      Step s
        { s with
          agent := s.agent.warn .notStopped
          calls := s.calls.set call (.due .kill killPeriod) }
  /-- The time after SIGKILL is over. -/
  | giveUp (s : Signalling) {call : Nat} {deadline : Nat}
      (hcall : s.calls[call]? = some (.awaiting .kill deadline)) (hnow : deadline ≤ s.agent.now)
      (hlive : s.agent.live ≠ []) :
      Step s
        { s with
          agent := s.agent.warn .notKilled
          calls := s.calls.set call .returned }

/-- The states that are reached by steps of some kind from an agent that launched nothing. -/
inductive Reachable (allowed : Signalling → Signalling → Prop) : Signalling → Prop where
  | start (options : ProxyOptions) (program : Program) (directory : Directory) (now : Nat) :
      Reachable allowed
        { agent := { options, program, directory, now }
          calls := []
          pass := none
          sent := [] }
  | step {s t : Signalling} (h : Reachable allowed s) (hstep : Step s t) (hallowed : allowed s t) :
      Reachable allowed t

/-- A step of any kind. -/
def Any (_ _ : Signalling) : Prop := True

/-- A step that keeps signals and reapers apart: a call takes the lock only while no process on
    record has been waited for, and no wait returns until it gives the lock back. -/
structure Apart (s t : Signalling) : Prop where
  entered : s.pass = none → t.pass ≠ none → s.agent.Unwaited
  waits : s.pass ≠ none → ∀ (pid : ProcessId) (process after : Process),
    s.agent.processes[pid]? = some process → process.reaper = .waiting →
    t.agent.processes[pid]? = some after → after.reaper = .waiting

end Signalling

-- ── Records and reapers ─────────────────────────────────────────────────────

namespace AgentState

variable {state after : AgentState}

theorem Recorded.congr (h : state.Recorded) (hprocesses : after.processes = state.processes)
    (hrecords : after.records = state.records) : after.Recorded := by
  rw [Recorded, hprocesses, hrecords]
  exact h

/-- A process that changes keeps its record, unless its reaper is done and the record is gone. -/
theorem Recorded.modify (h : state.Recorded) {pid : ProcessId} {f : Process → Process}
    (hprocesses : after.processes = state.processes.modify pid f)
    (hrecords : after.records ⊆ state.records) (hepoch : ∀ process, (f process).epoch = process.epoch)
    (hdone : ∀ process, state.processes[pid]? = some process → (f process).reaper = .done →
      process.reaper = .done ∨ ∀ record ∈ after.records, record.epoch ≠ process.epoch) :
    after.Recorded := by
  intro record hrecord
  obtain ⟨process, hprocess, hsame, hreaper⟩ := h record (hrecords hrecord)
  refine ⟨if pid = record.pid then f process else process, ?_, ?_, ?_⟩
  · rw [hprocesses, List.getElem?_modify, hprocess]
    rfl
  · split
    · exact (hepoch process).trans hsame
    · exact hsame
  · split
    · rename_i heq
      intro hended
      rcases hdone process (heq ▸ hprocess) hended with hearlier | hgone
      · exact hreaper hearlier
      · exact hgone record hrecord hsame.symm
    · exact hreaper

/-- A process that only ends keeps its record. -/
theorem Recorded.onlyEnds (h : state.Recorded) {pid : ProcessId} {f : Process → Process}
    (hf : state.OnlyEnds f) : (state.modifyProcess pid f).Recorded :=
  h.modify rfl (List.Subset.refl _) (fun process => (hf process).1) fun process _ hdone =>
    Or.inl ((hf process).2.1.symm.trans hdone)

/-- A signal leaves the reapers as they are. -/
theorem signal_reapers (state : AgentState) (pid : ProcessId) (signal : Signal)
    (other : ProcessId) :
    ((state.signal pid signal).processes[other]?).map (·.reaper)
      = (state.processes[other]?).map (·.reaper) := by
  obtain ⟨f, signals, hf, heq⟩ := signal_eq state pid signal
  rw [heq]
  show ((state.processes.modify pid f)[other]?).map (·.reaper) = _
  rw [List.getElem?_modify]
  cases state.processes[other]? with
  | none => rfl
  | some process =>
      show some (if pid = other then f process else process).reaper = some process.reaper
      split
      · rw [(hf process).2.1]
      · rfl

theorem Recorded.signal (h : state.Recorded) (pid : ProcessId) (signal : Signal) :
    (state.signal pid signal).Recorded := by
  obtain ⟨f, signals, hf, heq⟩ := signal_eq state pid signal
  rw [heq]
  exact (h.onlyEnds hf).congr rfl rfl

/-- A reaper that forgets a record is the only one that is done. -/
theorem Recorded.reap (h : state.Recorded) {pid : ProcessId} {process : Process}
    (hprocess : state.processes[pid]? = some process) (hreaps : state.Reaps pid process after) :
    after.Recorded := by
  cases hreaps with
  | release warnings _ _ =>
      exact h.modify rfl (List.Subset.refl _) (fun _ => rfl) fun _ _ hdone => nomatch hdone
  | find _ _ _ =>
      exact h.modify rfl (List.Subset.refl _) (fun _ => rfl) fun _ _ hdone => nomatch hdone
  | miss _ _ =>
      exact h.modify rfl (List.Subset.refl _) (fun _ => rfl) fun _ _ hdone => nomatch hdone
  | @remove config _ =>
      have hprocesses := (removeConfig_processes state config).1
      obtain ⟨-, hrecords, -, -⟩ := removeConfig_frame state config
      have hremoved : (state.removeConfig config).Recorded := h.congr hprocesses hrecords
      exact hremoved.modify rfl (List.Subset.refl _) (fun _ => rfl) fun _ _ hdone => nomatch hdone
  | forget _ =>
      refine h.modify rfl List.filter_sublist.subset (fun _ => rfl) fun old hold _ => Or.inr ?_
      obtain rfl : old = process := Option.some.inj (hold.symm.trans hprocess)
      intro record hrecord
      exact of_decide_eq_true (List.mem_filter.mp hrecord).2

/-- A reload puts nothing on record but the process that it launched. -/
theorem Recorded.reload (h : state.Recorded) (config : Config) :
    (AgentState.reload config state).2.Recorded := by
  cases hreload : AgentState.reload config state with
  | mk answer after =>
      cases reloads_of_reload hreload with
      | unwritten _ => exact h.congr rfl rfl
      | @unlaunched directory _ _ =>
          have hprocesses := (removeConfig_processes { state with directory := directory }
            (configName state.epoch)).1
          obtain ⟨-, hrecords, -, -⟩ := removeConfig_frame { state with directory := directory }
            (configName state.epoch)
          exact h.congr hprocesses hrecords
      | @launched directory stopsAfter _ =>
          intro record hrecord
          rcases List.mem_append.mp hrecord with hold | hnew
          · obtain ⟨process, hprocess, hsame, hreaper⟩ := h record hold
            have hlt := (List.getElem?_eq_some_iff.mp hprocess).1
            exact ⟨process, (List.getElem?_append_left hlt).trans hprocess, hsame, hreaper⟩
          · obtain rfl := List.mem_singleton.mp hnew
            exact ⟨_, List.getElem?_concat_length, rfl, nofun⟩

-- ── Reloads ─────────────────────────────────────────────────────────────────

/-- A reload sends no signal and takes no process away. -/
theorem reload_frame (state : AgentState) (config : Config) :
    (AgentState.reload config state).2.signals = state.signals ∧
      state.processes.length ≤ (AgentState.reload config state).2.processes.length := by
  cases hreload : AgentState.reload config state with
  | mk answer after =>
      cases reloads_of_reload hreload with
      | unwritten _ => exact ⟨rfl, Nat.le_refl _⟩
      | unlaunched _ =>
          refine ⟨removeConfig_signals _ _, Nat.le_of_eq ?_⟩
          show state.processes.length = (removeConfig _ _).processes.length
          rw [(removeConfig_processes _ _).1]
      | launched _ =>
          refine ⟨rfl, ?_⟩
          show state.processes.length ≤ (state.processes ++ [_]).length
          rw [List.length_append]
          exact Nat.le_add_right _ _

end AgentState

-- ── Invariant ───────────────────────────────────────────────────────────────

namespace Signalling

variable {s t : Signalling}

/-- What holds at all times. -/
structure Invariant (s : Signalling) : Prop where
  recorded : s.agent.Recorded
  /-- Whoever is left to be signalled is on record. -/
  left : ∀ pass, s.pass = some pass → ∀ pid ∈ pass.left, ∃ record ∈ s.agent.records,
    record.pid = pid
  logged : s.agent.signals = s.sent.map fun sent => (sent.pid, sent.signal)
  sent : ∀ sent ∈ s.sent, sent.pid < s.agent.processes.length ∧
    ∃ stage, sent.reaper = some stage ∧ stage ≠ .done

/-- While a call holds the lock the records stay as they are. -/
theorem Step.records_eq (h : Step s t) (hpass : s.pass ≠ none) :
    t.agent.records = s.agent.records := by
  cases h with
  | reload config hfree => exact absurd hfree hpass
  | finish pid status => rfl
  | reap hprocess hlock hreap =>
      have hreaps := AgentState.reaps_of_reapStep hprocess hreap
      exact hreaps.records_eq.trans (if_neg fun hreaper => hpass (hlock (Or.inr hreaper)))
  | outside now program directory hnow => rfl
  | call timeout hfree => rfl
  | enter hfree hcall => rfl
  | send _ => rfl
  | leave _ => rfl
  | reaped hcall hlive => rfl
  | overdue hcall hnow hlive => rfl
  | giveUp hcall hnow hlive => rfl

/-- What is done without a signal preserves the invariant. -/
theorem Invariant.quiet (h : Invariant s) {agent : AgentState} (calls : List StopStage)
    (hrecorded : agent.Recorded) (hrecords : s.pass ≠ none → agent.records = s.agent.records)
    (hsignals : agent.signals = s.agent.signals)
    (hlength : s.agent.processes.length ≤ agent.processes.length) :
    Invariant { s with agent := agent, calls := calls } where
  recorded := hrecorded
  left := by
    intro pass hpass pid hpid
    have hsame : agent.records = s.agent.records := hrecords (by rw [hpass]; nofun)
    show ∃ record ∈ agent.records, record.pid = pid
    rw [hsame]
    exact h.left pass hpass pid hpid
  logged := hsignals.trans h.logged
  sent := fun sent hsent =>
    ⟨Nat.lt_of_lt_of_le (h.sent sent hsent).1 hlength, (h.sent sent hsent).2⟩

/-- Every step preserves the invariant. -/
theorem Invariant.step (h : Invariant s) (hstep : Step s t) : Invariant t := by
  cases hstep with
  | reload config hfree =>
      obtain ⟨hsignals, hlength⟩ := s.agent.reload_frame config
      exact h.quiet _ (h.recorded.reload config) (fun hpass => absurd hfree hpass) hsignals hlength
  | finish pid status =>
      have hends : (s.agent.finish pid status).Recorded :=
        h.recorded.onlyEnds (s.agent.onlyEnds_endAt s.agent.now status)
      exact h.quiet _ hends (fun _ => rfl) rfl (Nat.le_of_eq (List.length_modify ..).symm)
  | reap hprocess hlock hreap =>
      have hreaps := AgentState.reaps_of_reapStep hprocess hreap
      obtain ⟨hsignals, -, hlength⟩ := hreaps.frame
      refine h.quiet _ (h.recorded.reap hprocess hreaps) (fun hpass => ?_) hsignals
        (Nat.le_of_eq hlength.symm)
      exact hreaps.records_eq.trans (if_neg fun hreaper => hpass (hlock (Or.inr hreaper)))
  | outside now program directory hnow =>
      exact h.quiet _ (h.recorded.congr rfl rfl) (fun _ => rfl) rfl (Nat.le_refl _)
  | call timeout hfree => exact h.quiet _ h.recorded (fun _ => rfl) rfl (Nat.le_refl _)
  | enter hfree hcall =>
      refine ⟨h.recorded, fun pass hpass pid hpid => ?_, h.logged, h.sent⟩
      obtain rfl := Option.some.inj hpass
      exact List.mem_map.mp hpid
  | @send call signal period pid left hpass =>
      obtain ⟨record, hrecord, rfl⟩ := h.left _ hpass pid (List.mem_cons_self ..)
      obtain ⟨process, hprocess, -, hreaper⟩ := h.recorded record hrecord
      have hlength : (s.agent.signal record.pid signal).processes.length
          = s.agent.processes.length := List.length_modify ..
      constructor
      case recorded => exact h.recorded.signal record.pid signal
      case left =>
        intro pass heq other hother
        obtain rfl := Option.some.inj heq
        exact h.left _ hpass other (List.mem_cons_of_mem _ hother)
      case logged =>
        show s.agent.signals ++ [_] = _
        rw [h.logged, List.map_append]
        rfl
      case sent =>
        intro sent hsent
        show sent.pid < (s.agent.signal record.pid signal).processes.length ∧ _
        rw [hlength]
        rcases List.mem_append.mp hsent with hold | hnew
        · exact h.sent sent hold
        · obtain rfl := List.mem_singleton.mp hnew
          refine ⟨(List.getElem?_eq_some_iff.mp hprocess).1, process.reaper, ?_, hreaper⟩
          rw [hprocess]
          rfl
  | leave hpass => exact ⟨h.recorded, nofun, h.logged, h.sent⟩
  | reaped hcall hlive => exact h.quiet _ h.recorded (fun _ => rfl) rfl (Nat.le_refl _)
  | overdue hcall hnow hlive =>
      exact h.quiet _ (h.recorded.congr rfl rfl) (fun _ => rfl) rfl (Nat.le_refl _)
  | giveUp hcall hnow hlive =>
      exact h.quiet _ (h.recorded.congr rfl rfl) (fun _ => rfl) rfl (Nat.le_refl _)

/-- The invariant holds in every run. -/
theorem Reachable.invariant {allowed : Signalling → Signalling → Prop} (h : Reachable allowed s) :
    Invariant s := by
  induction h with
  | start options program directory now => exact ⟨nofun, nofun, rfl, nofun⟩
  | step h hstep hallowed ih => exact ih.step hstep

-- ── Signals apart from reapers ──────────────────────────────────────────────

/-- A call that takes the lock does nothing else. -/
theorem Step.agent_eq_of_enters (h : Step s t) (hfree : s.pass = none) (hpass : t.pass ≠ none) :
    t.agent = s.agent := by
  cases h with
  | enter _ _ => rfl
  | send heq => exact absurd (hfree.symm.trans heq) nofun
  | leave _ => exact absurd rfl hpass
  | reload _ _ => exact absurd hfree hpass
  | finish _ _ => exact absurd hfree hpass
  | reap _ _ _ => exact absurd hfree hpass
  | outside _ _ _ _ => exact absurd hfree hpass
  | call _ _ => exact absurd hfree hpass
  | reaped _ _ => exact absurd hfree hpass
  | overdue _ _ _ => exact absurd hfree hpass
  | giveUp _ _ _ => exact absurd hfree hpass

/-- A step that keeps signals and reapers apart leaves no process on record waited for while a call
    holds the lock. -/
theorem Step.unwaited (hstep : Step s t) (hinv : Invariant s) (hapart : Apart s t)
    (h : s.pass ≠ none → s.agent.Unwaited) (hpass : t.pass ≠ none) : t.agent.Unwaited := by
  by_cases hfree : s.pass = none
  · rw [hstep.agent_eq_of_enters hfree hpass]
    exact hapart.entered hfree hpass
  · intro record hrecord after hafter
    rw [hstep.records_eq hfree] at hrecord
    obtain ⟨process, hprocess, -, -⟩ := hinv.recorded record hrecord
    have hwaiting := h hfree record hrecord process hprocess
    exact hapart.waits hfree record.pid process after hprocess hwaiting hafter

/-- In a run that keeps signals and reapers apart only own processes are signalled. -/
theorem Reachable.own (h : Reachable Apart s) :
    (s.pass ≠ none → s.agent.Unwaited) ∧ ∀ sent ∈ s.sent, sent.reaper = some .waiting := by
  induction h with
  | start options program directory now => exact ⟨fun h => absurd rfl h, nofun⟩
  | @step s t h hstep hapart ih =>
      obtain ⟨hunwaited, hown⟩ := ih
      have hinv := h.invariant
      refine ⟨hstep.unwaited hinv hapart hunwaited, ?_⟩
      cases hstep with
      | @send call signal period pid left hpass =>
          intro sent hsent
          rcases List.mem_append.mp hsent with hold | hnew
          · exact hown sent hold
          · obtain rfl := List.mem_singleton.mp hnew
            obtain ⟨record, hrecord, rfl⟩ := hinv.left _ hpass pid (List.mem_cons_self ..)
            obtain ⟨process, hprocess, -, -⟩ := hinv.recorded record hrecord
            show (s.agent.processes[record.pid]?).map (·.reaper) = some .waiting
            rw [hprocess, Option.map_some,
              hunwaited (by rw [hpass]; nofun) record hrecord process hprocess]
      | _ => exact hown

/-- Every signal of the agent is one that a call sent. It went to the number of a process that was
    launched and not yet forgotten; and in a run that keeps signals and reapers apart no process had
    been waited for when its number was signalled. -/
theorem signalled_of_reachable (h : Reachable Any s) :
    s.agent.signals = s.sent.map (fun sent => (sent.pid, sent.signal)) ∧
    (∀ sent ∈ s.sent, sent.pid < s.agent.processes.length ∧
      ∃ stage, sent.reaper = some stage ∧ stage ≠ .done) ∧
    (Reachable Apart s → ∀ sent ∈ s.sent, sent.reaper = some .waiting) :=
  ⟨h.invariant.logged, h.invariant.sent, fun hapart => hapart.own.2⟩

-- ── Without interruption ────────────────────────────────────────────────────

/-- A step outside of every pass meets no reaper. -/
theorem apart_of_free (hbefore : s.pass = none) (hafter : t.pass = none) : Apart s t :=
  ⟨fun _ h => absurd hafter h, fun h => absurd hbefore h⟩

/-- Nor does one in a pass that leaves the reapers as they are. -/
theorem apart_of_reapers {pass : SignalPass} (hpass : s.pass = some pass)
    (hreapers : ∀ pid : ProcessId, (t.agent.processes[pid]?).map Process.reaper
      = (s.agent.processes[pid]?).map Process.reaper) : Apart s t where
  entered h := nomatch hpass.symm.trans h
  waits := by
    intro _ pid process after hprocess hwaiting hafter
    have hsame := hreapers pid
    rw [hprocess, hafter] at hsame
    exact (Option.some.inj hsame).trans hwaiting

/-- A pass that nobody interrupts signals one process after the other. -/
theorem Reachable.pass {allowed : Signalling → Signalling → Prop}
    (hapart : ∀ s t, Apart s t → allowed s t) (h : Reachable allowed s) {call : Nat}
    {signal : Signal} {period : Nat} {left : List ProcessId}
    (hpass : s.pass = some ⟨call, signal, period, left⟩) :
    Reachable allowed
      { agent := left.foldl (fun state pid => state.signal pid signal) s.agent
        calls := s.calls.set call (.awaiting signal (s.agent.now + period))
        pass := none
        sent := s.sent ++ left.map fun pid =>
          ⟨pid, signal, (s.agent.processes[pid]?).map (·.reaper)⟩ } := by
  induction left generalizing s with
  | nil =>
      rw [List.map_nil, List.append_nil]
      exact h.step (.leave s hpass) (hapart _ _ (apart_of_reapers hpass fun _ => rfl))
  | cons pid left ih =>
      have hreapers := s.agent.signal_reapers pid signal
      have hsent := ih (h.step (.send s hpass) (hapart _ _ (apart_of_reapers hpass hreapers))) rfl
      simp only [hreapers, List.append_assoc, List.singleton_append] at hsent
      exact hsent

/-- A call that takes the lock and is not interrupted does what `AgentState.signalAll` does. -/
theorem Reachable.signalAll {allowed : Signalling → Signalling → Prop}
    (hapart : ∀ s t, Apart s t → allowed s t) (h : Reachable allowed s) (hfree : s.pass = none)
    (call : Nat) (signal : Signal) (period : Nat)
    (hcall : s.calls[call]? = some (.due signal period))
    (henter : ∀ pass, allowed s { s with pass := some pass }) :
    Reachable allowed
      { agent := s.agent.signalAll signal
        calls := s.calls.set call (.awaiting signal (s.agent.now + period))
        pass := none
        sent := s.sent ++ s.agent.records.map fun record =>
          ⟨record.pid, signal, (s.agent.processes[record.pid]?).map (·.reaper)⟩ } := by
  have hsent := (h.step (.enter s hfree hcall) (henter _)).pass hapart rfl
  rw [List.map_map] at hsent
  exact hsent

/-- A reaper that nobody interrupts does what `AgentState.reapSteps` does. -/
theorem Reachable.reapSteps {allowed : Signalling → Signalling → Prop}
    (hapart : ∀ s t, Apart s t → allowed s t) (h : Reachable allowed s) (hfree : s.pass = none)
    (pid : ProcessId) (n : Nat) :
    Reachable allowed { s with agent := AgentState.reapSteps pid n s.agent } := by
  induction n generalizing s with
  | zero => exact h
  | succ n ih =>
      rw [AgentState.reapSteps]
      cases hreap : s.agent.reapStep pid with
      | none => exact h
      | some agent =>
          obtain ⟨process, hprocess⟩ := AgentState.exists_process_of_reapStep hreap
          have hnext := h.step (.reap s hprocess (fun _ => hfree) hreap)
            (hapart _ _ (apart_of_free hfree hfree))
          exact ih hnext hfree

-- ── One generation ──────────────────────────────────────────────────────────

/-- A proxy is launched and goes on until it is ended. -/
def launched : Signalling where
  agent := (AgentState.reload Fleet.bareConfig
    { options := .ofMesh "envoy" "/etc/envoy" {}, program := .runs none }).2
  calls := []
  pass := none
  sent := []

theorem launched_reachable {allowed : Signalling → Signalling → Prop}
    (hapart : ∀ s t, Apart s t → allowed s t) : Reachable allowed launched :=
  (Reachable.start (.ofMesh "envoy" "/etc/envoy" {}) (.runs none) {} 0).step
    (.reload _ Fleet.bareConfig rfl) (hapart _ _ (apart_of_free rfl rfl))

/-- It is signalled while it runs. -/
theorem running_signalled :
    ∃ s, Reachable Any s ∧ Reachable Apart s ∧ s.sent = [⟨0, .term, some .waiting⟩] ∧
      s.agent.signals = [(0, .term)] ∧ ∀ sent ∈ s.sent, sent.reaper = some .waiting := by
  have hcalled : ∀ allowed : Signalling → Signalling → Prop,
      (∀ s t, Apart s t → allowed s t) → Reachable allowed
        { launched with calls := [.due .term 5000] } := fun _ hapart =>
    (launched_reachable hapart).step (.call launched 5000 rfl) (hapart _ _ (apart_of_free rfl rfl))
  have hany := (hcalled Any fun _ _ _ => trivial).signalAll (fun _ _ _ => trivial) rfl
    0 .term 5000 rfl fun _ => trivial
  have hunwaited : launched.agent.Unwaited := by
    intro record hrecord process hprocess
    rw [show launched.agent.records = [⟨0, 0, "envoy-rev0.json"⟩] by decide +kernel] at hrecord
    obtain rfl := List.mem_singleton.mp hrecord
    rw [show launched.agent.processes = [⟨0, none, none, .waiting⟩] by decide +kernel] at hprocess
    rw [← Option.some.inj hprocess]
  have hapart := (hcalled Apart fun _ _ h => h).signalAll (fun _ _ h => h) rfl 0 .term 5000 rfl
    fun _ => ⟨fun _ _ => hunwaited, fun h => absurd rfl h⟩
  obtain ⟨hlogged, -, hown⟩ := signalled_of_reachable hany
  refine ⟨_, hany, hapart, by decide +kernel, hlogged.trans (by decide +kernel), hown hapart⟩

/-- A process has ended and was waited for, and while its reaper is about to remove its file, its
    number is signalled. -/
theorem waited_for_signalled :
    ∃ s, Reachable Any s ∧ s.sent = [⟨0, .term, some (.removing "envoy-rev0.json")⟩] := by
  have hlaunched : Reachable Any launched := launched_reachable fun _ _ _ => trivial
  have hended := hlaunched.step (.finish launched 0 (.code 0)) trivial
  have hremoving := hended.reapSteps (fun _ _ _ => trivial) rfl 0 2
  have hcalled := hremoving.step (.call _ 5000 rfl) trivial
  have hsent := hcalled.signalAll (fun _ _ _ => trivial) rfl 0 .term 5000 (by decide +kernel)
    fun _ => trivial
  exact ⟨_, hsent, by decide +kernel⟩

end Signalling

end MeshSidecar
