import MeshSidecar.Controller.Run
import MeshSidecar.Proofs.Agent.Stopping
import MeshSidecar.Proofs.Aggregate.Leaves
import MeshSidecar.Proofs.Aggregate.Tasks
import MeshSidecar.Proofs.Watcher.Stopping

/-!
# Stopping in good order

The watcher and the tasks of the registries each hold a *watch* on the signal to stop, which they
release when they have come to an end. The proxies are shut down only after all watches were
released. Until then anything may happen in any order: registries change, the watcher is notified
and moves, reloads succeed or fail, processes end and are reaped, time passes, and the signal is
raised (`Ensemble.Step`).

Whatever the order, the watcher makes one reconciliation at most after the signal, and only if it
had begun it or had taken the notification for it. It then stops; and as it makes none after it has
stopped, no process is launched once the proxies are being shut down
(`Ensemble.stops_in_order`). This is also the order in which `Controller.stop` does things.
-/

namespace MeshSidecar

/-- A controller that stops: the watcher makes what it owes and stops, and after that the proxies
    are shut down. -/
theorem Controller.stop_spec (controller : Controller) :
    controller.stop.1.run.stage = .stopped ∧
      controller.stop.2.length = controller.run.stage.owed ∧
      ({ controller with run := controller.run.signal }.advance 0).1.run.agent.Stops
        controller.stop.1.run.agent := by
  have hsignal : controller.run.signal.signalled = true := rfl
  obtain ⟨hstopped, hlength⟩ := WatcherRun.advance_of_signalled AgentState.reload
    (controller.registries.leaves.map Discovery.services) 0 hsignal
  exact ⟨hstopped, hlength, AgentState.stops_shutdown _ _⟩

-- ── Everyone who takes part ─────────────────────────────────────────────────

/-- No task of a run holds its watch any more. -/
def Run.Released (run : Run) : Prop :=
  ∀ {who adapter task}, run.get? who = some (adapter, task) → task.phase.ended = true

/-- After the signal all tasks have ended when nothing more can happen to them. -/
theorem Run.released_of_rest {run : Run} (hsignal : run.signalled = true) (hrest : run.steps = []) :
    run.Released := by
  intro who adapter task hget
  obtain ⟨hidle, hrunning⟩ := Adapter.ended_of_next_eq_nil (run.rests hrest hget).1
  cases hphase : task.phase with
  | idle => exact absurd hphase hidle
  | running => exact nomatch hsignal.symm.trans (hrunning hphase).1
  | returned | panicked => rfl

/-- A controller that runs. -/
structure Ensemble where
  topology : Aggregate Leaf
  /-- The tasks of the registries. -/
  registries : Run
  /-- The watcher, with the agent. -/
  run : WatcherRun AgentState
  /-- Whether the proxies are being shut down. -/
  stopping : Bool := false

/-- What happens to it. -/
inductive Happening where
  | signal
  | notified (notifications : List Notification)
  /-- The watcher moves. It may take a notification, or make a reconciliation. -/
  | watched (takes : Bool) (done : Option Reconciliation)
  /-- The proxies begin to be shut down. -/
  | shutdown
  | other

namespace Happening

/-- How many notifications are queued. -/
def queued : Happening → Nat
  | .notified notifications => notifications.length
  | .signal | .watched _ _ | .shutdown | .other => 0

/-- How many moves the watcher makes. -/
def moved : Happening → Nat
  | .watched _ _ => 1
  | .signal | .notified _ | .shutdown | .other => 0

/-- How many notifications the watcher takes to reconcile. -/
def taken : Happening → Nat
  | .watched takes _ => takes.toNat
  | .signal | .notified _ | .shutdown | .other => 0

/-- How many reconciliations it makes. -/
def reconciled : Happening → Nat
  | .watched _ done => done.toList.length
  | .signal | .notified _ | .shutdown | .other => 0

end Happening

/-- How many there are of something in all that happens. -/
def total (f : Happening → Nat) : List Happening → Nat
  | [] => 0
  | event :: later => f event + total f later

theorem total_append (f : Happening → Nat) (events later : List Happening) :
    total f (events ++ later) = total f events + total f later := by
  induction events with
  | nil => exact (Nat.zero_add _).symm
  | cons event rest ih => rw [List.cons_append, total, total, ih, Nat.add_assoc]

theorem total_concat (f : Happening → Nat) (events : List Happening) (event : Happening) :
    total f (events ++ [event]) = total f events + f event :=
  total_append f events [event]

theorem total_other {f : Happening → Nat} (hf : f .other = 0) (n : Nat) :
    total f (List.replicate n .other) = 0 := by
  induction n with
  | zero => rfl
  | succ n ih => rw [List.replicate_succ, total, hf, ih]

namespace Ensemble

/-- What each registry lists. -/
def sources (s : Ensemble) : List (List Service) := s.topology.leaves.map Discovery.services

/-- A bound on the moves of the watcher after the signal, if nothing more is queued. -/
def patience (s : Ensemble) : Nat := s.run.patience s.sources.length

/-- A controller before anything has happened. -/
def start (topology : Aggregate Leaf) (watcher : Watcher) (options : ProxyOptions)
    (program : Program) (directory : Directory) (grace : Nat) : Ensemble where
  topology := topology
  registries := .ofAggregate topology
  run := { watcher := watcher, agent := { options, program, directory }, grace := grace }

/-- A registry comes to list other services. -/
def change (s : Ensemble) (position : Nat) (registry : Registry) : Ensemble :=
  { s with
    topology := s.topology.modify (fun member => { member with registry := registry }) position }

/-- Notifications are queued. -/
def notify (s : Ensemble) (notifications : List Notification) : Ensemble :=
  { s with run := s.run.notify notifications }

/-- The signal is raised. Everyone who holds a watch can see it. -/
def signal (s : Ensemble) : Ensemble :=
  { s with run := s.run.signal, registries := s.registries.signal }

/-- One thing that may happen. Everyone moves in steps of their own, in any order. -/
inductive Step (s : Ensemble) : Happening → Ensemble → Prop where
  | change (position : Nat) (registry : Registry) : Step s .other (s.change position registry)
  | notify (notifications : List Notification) :
      Step s (.notified notifications) (s.notify notifications)
  /-- Nobody is left who could notify. -/
  | close : Step s .other { s with run := s.run.close }
  | watch (limit : Nat) {run : WatcherRun AgentState} {done : Option Reconciliation}
      (hnext : s.run.next AgentState.reload s.sources limit = some (run, done)) :
      Step s (.watched (s.run.takes run) done) { s with run := run }
  /-- A task of the registries goes on. -/
  | registries {registries : Run} {report : Option String}
      (hstep : (registries, report) ∈ s.registries.steps) :
      Step s .other { s with registries := registries }
  | signal : Step s .signal s.signal
  /-- Time passes for the watcher. -/
  | pass {now : Nat} (hnow : s.run.now ≤ now) :
      Step s .other { s with run := { s.run with now := now } }
  /-- Something happens to the processes or to the directory, or time passes there. -/
  | host {agent : AgentState} (hstep : s.run.agent.HostStep agent) :
      Step s .other { s with run := { s.run with agent := agent } }
  /-- After the signal, and when every watch was released, the proxies begin to be shut down. -/
  | shutdown (hsignal : s.run.signalled = true) (hwatcher : s.run.stage = .stopped)
      (hregistries : s.registries.Released) : Step s .shutdown { s with stopping := true }
  /-- Shutting down the proxies goes on. -/
  | stop {agent : AgentState} (hstopping : s.stopping = true)
      (hstep : s.run.agent.StopStep agent) :
      Step s .other { s with run := { s.run with agent := agent } }

/-- What happens leads from one state to another. -/
inductive Leads (s : Ensemble) : List Happening → Ensemble → Prop where
  | start : Leads s [] s
  | step {events : List Happening} {event : Happening} {middle t : Ensemble}
      (h : Leads s events middle) (hstep : middle.Step event t) : Leads s (events ++ [event]) t

variable {s t : Ensemble} {event : Happening} {events : List Happening}

-- ── What one step does ──────────────────────────────────────────────────────

/-- A step of anyone but the watcher. -/
structure Aside (s : Ensemble) (event : Happening) (t : Ensemble) : Prop where
  moved : event.moved = 0
  taken : event.taken = 0
  reconciled : event.reconciled = 0
  stage : t.run.stage = s.run.stage
  signalled : s.run.signalled = true → t.run.signalled = true
  patience : t.patience ≤ s.patience + event.queued

/-- As many registries are left when one of them changes. -/
theorem length_sources_change (s : Ensemble) (position : Nat) (registry : Registry) :
    (s.change position registry).sources.length = s.sources.length := by
  rw [sources, sources, List.length_map, List.length_map, change, Aggregate.leaves_modify,
    List.length_modify]

/-- A step is a move of the watcher or one of somebody else. -/
theorem Step.cases (h : s.Step event t) :
    (∃ limit run done, s.run.next AgentState.reload s.sources limit = some (run, done) ∧
      event = .watched (s.run.takes run) done ∧ t = { s with run := run }) ∨
      s.Aside event t := by
  cases h with
  | watch limit hnext => exact Or.inl ⟨limit, _, _, hnext, rfl, rfl⟩
  | change position registry =>
      refine Or.inr ⟨rfl, rfl, rfl, rfl, id, ?_⟩
      rw [patience, patience, length_sources_change]
      exact Nat.le_refl _
  | notify notifications =>
      have hstage : (s.run.notify notifications).stage = s.run.stage ∧
          (s.run.notify notifications).signalled = s.run.signalled := by
        rw [WatcherRun.notify]
        split <;> exact ⟨rfl, rfl⟩
      exact Or.inr ⟨rfl, rfl, rfl, hstage.1, hstage.2.trans,
        WatcherRun.patience_notify_le _ _ _⟩
  | signal => exact Or.inr ⟨rfl, rfl, rfl, rfl, fun _ => rfl, Nat.le_refl _⟩
  | close | registries _ | pass _ | host _ | shutdown _ _ _ | stop _ _ =>
      exact Or.inr ⟨rfl, rfl, rfl, rfl, id, Nat.le_refl _⟩

/-- Every reconciliation was owed, and one is owed for each notification that is taken. -/
theorem Step.owed (h : s.Step event t) :
    event.reconciled + t.run.stage.owed = s.run.stage.owed + event.taken := by
  rcases h.cases with ⟨limit, run, done, hnext, rfl, rfl⟩ | haside
  · exact WatcherRun.owed_of_moves (WatcherRun.moves_of_next hnext)
  · rw [haside.reconciled, haside.taken, haside.stage, Nat.zero_add, Nat.add_zero]

/-- The signal is not forgotten. -/
theorem Step.signalled (h : s.Step event t) (hsignal : s.run.signalled = true) :
    t.run.signalled = true := by
  rcases h.cases with ⟨limit, run, done, hnext, rfl, rfl⟩ | haside
  · exact (WatcherRun.signalled_of_moves (WatcherRun.moves_of_next hnext)).trans hsignal
  · exact haside.signalled hsignal

/-- After the signal no notification is taken, and the watcher runs out of patience. -/
theorem Step.winds (h : s.Step event t) (hsignal : s.run.signalled = true) :
    event.taken = 0 ∧ event.moved + t.patience ≤ s.patience + event.queued := by
  rcases h.cases with ⟨limit, run, done, hnext, rfl, rfl⟩ | haside
  · have hlt := WatcherRun.patience_lt_of_next hsignal hnext
    refine ⟨congrArg Bool.toNat (WatcherRun.takes_of_signalled hsignal hnext), ?_⟩
    show 1 + run.patience s.sources.length ≤ s.run.patience s.sources.length
    omega
  · rw [haside.moved, Nat.zero_add]
    exact ⟨haside.taken, haside.patience⟩

/-- A watcher that has stopped moves no more, so it makes no reconciliation either. -/
theorem Step.stopped (h : s.Step event t) (hstage : s.run.stage = .stopped) :
    t.run.stage = .stopped ∧ event.moved = 0 ∧ event.reconciled = 0 := by
  rcases h.cases with ⟨limit, run, done, hnext, rfl, rfl⟩ | haside
  · rw [WatcherRun.next_of_stopped hstage] at hnext
    exact nomatch hnext
  · exact ⟨haside.stage.trans hstage, haside.moved, haside.reconciled⟩

-- ── Shutting down ───────────────────────────────────────────────────────────

/-- What is published is on record, and the proxies are shut down after the watcher has stopped. -/
structure Orderly (s : Ensemble) : Prop where
  published : s.run.agent.Published
  stopped : s.stopping = true → s.run.signalled = true ∧ s.run.stage = .stopped

theorem Orderly.step (horderly : s.Orderly) (h : s.Step event t) : t.Orderly := by
  have hstopped : s.stopping = true → t.run.signalled = true ∧ t.run.stage = .stopped := by
    intro hstopping
    obtain ⟨hsignal, hstage⟩ := horderly.stopped hstopping
    exact ⟨h.signalled hsignal, (h.stopped hstage).1⟩
  cases h with
  | watch limit hnext =>
      refine ⟨?_, hstopped⟩
      rcases WatcherRun.agent_of_moves (WatcherRun.moves_of_next hnext) with hsame | ⟨config, hasks⟩
      · exact hsame ▸ horderly.published
      · exact hasks ▸ horderly.published.reload config
  | host hstep => exact ⟨(hstep.shrinks horderly.published).2, hstopped⟩
  | stop hstopping hstep => exact ⟨(hstep.shrinks horderly.published).2, hstopped⟩
  | shutdown hsignal hwatcher _ => exact ⟨horderly.published, fun _ => ⟨hsignal, hwatcher⟩⟩
  | notify notifications =>
      refine ⟨?_, hstopped⟩
      show (s.run.notify notifications).agent.Published
      rw [WatcherRun.notify]
      split <;> exact horderly.published
  | change _ _ | close | registries _ | signal | pass _ => exact ⟨horderly.published, hstopped⟩

/-- While the proxies are being shut down, no process is launched or brought back. -/
theorem Step.shrinks (h : s.Step event t) (horderly : s.Orderly) (hstopping : s.stopping = true) :
    t.stopping = true ∧ s.run.agent.Shrinks t.run.agent := by
  cases h with
  | watch limit hnext =>
      rw [WatcherRun.next_of_stopped (horderly.stopped hstopping).2] at hnext
      exact nomatch hnext
  | host hstep => exact ⟨hstopping, (hstep.shrinks horderly.published).1⟩
  | stop _ hstep => exact ⟨hstopping, (hstep.shrinks horderly.published).1⟩
  | notify notifications =>
      refine ⟨hstopping, ?_⟩
      show s.run.agent.Shrinks (s.run.notify notifications).agent
      rw [WatcherRun.notify]
      split <;> exact .refl _
  | shutdown _ _ _ => exact ⟨rfl, .refl _⟩
  | change _ _ | close | registries _ | signal | pass _ => exact ⟨hstopping, .refl _⟩

-- ── What all steps do ───────────────────────────────────────────────────────

/-- There is an account of all reconciliations. -/
theorem Leads.owed (h : s.Leads events t) :
    total Happening.reconciled events + t.run.stage.owed =
      s.run.stage.owed + total Happening.taken events := by
  induction h with
  | start => exact Nat.add_comm _ _
  | step _ hstep ih =>
      have howed := hstep.owed
      rw [total_concat, total_concat]
      omega

/-- What is owed is the first reconciliation, or one for a notification that was taken after the
    latest one. -/
theorem Leads.owed_for (h : s.Leads events t) (howed : t.run.stage.owed = 1) :
    total Happening.taken events = 0 ∧ total Happening.reconciled events = 0 ∨
      ∃ earlier done later, events = earlier ++ .watched true done :: later ∧
        total Happening.reconciled later = 0 := by
  induction h with
  | start => exact Or.inl ⟨rfl, rfl⟩
  | @step events event middle t h hstep ih =>
      have haccount := hstep.owed
      by_cases htaken : event.taken = 0
      · -- What was not taken now was owed before, and nothing was made of it.
        have hle := middle.run.stage.owed_le_one
        have hreconciled : event.reconciled = 0 := by omega
        rcases ih (by omega) with ⟨hnone, hmade⟩ | ⟨earlier, done, later, rfl, hmade⟩
        · rw [total_concat, total_concat, hnone, hmade]
          exact Or.inl ⟨by omega, by omega⟩
        · refine Or.inr ⟨earlier, done, later ++ [event], by simp, ?_⟩
          rw [total_concat, hmade, hreconciled]
      · cases event with
        | watched takes done =>
            cases takes with
            | true => exact Or.inr ⟨events, done, [], rfl, rfl⟩
            | false => exact absurd rfl htaken
        | signal | notified _ | shutdown | other => exact absurd rfl htaken

/-- From the signal on no notification is taken, and the watcher runs out of patience. -/
theorem Leads.winds (h : s.Leads events t) (hsignal : s.run.signalled = true) :
    t.run.signalled = true ∧ total Happening.taken events = 0 ∧
      total Happening.moved events + t.patience ≤ s.patience + total Happening.queued events := by
  induction h with
  | start => exact ⟨hsignal, rfl, Nat.le_of_eq (Nat.add_comm _ _)⟩
  | step _ hstep ih =>
      obtain ⟨hsignalled, htaken, hpatience⟩ := ih
      obtain ⟨htakes, hmoves⟩ := hstep.winds hsignalled
      rw [total_concat, total_concat, total_concat]
      exact ⟨hstep.signalled hsignalled, by omega, by omega⟩

/-- A watcher that has stopped never moves again. -/
theorem Leads.stopped (h : s.Leads events t) (hstage : s.run.stage = .stopped) :
    t.run.stage = .stopped ∧ total Happening.moved events = 0 ∧
      total Happening.reconciled events = 0 := by
  induction h with
  | start => exact ⟨hstage, rfl, rfl⟩
  | step _ hstep ih =>
      obtain ⟨hstopped, hmoved, hreconciled⟩ := ih
      obtain ⟨hafter, hmoves, hreconciles⟩ := hstep.stopped hstopped
      rw [total_concat, total_concat, hmoved, hmoves, hreconciled, hreconciles]
      exact ⟨hafter, rfl, rfl⟩

theorem Leads.orderly (h : s.Leads events t) (horderly : s.Orderly) : t.Orderly := by
  induction h with
  | start => exact horderly
  | step _ hstep ih => exact ih.step hstep

/-- From the moment that the proxies are being shut down, there is never more than there was. -/
theorem Leads.shrinks (h : s.Leads events t) (horderly : s.Orderly)
    (hstopping : s.stopping = true) :
    t.stopping = true ∧ s.run.agent.Shrinks t.run.agent := by
  induction h with
  | start => exact ⟨hstopping, .refl _⟩
  | step h hstep ih =>
      obtain ⟨hstill, hshrinks⟩ := hstep.shrinks (h.orderly horderly) ih.1
      exact ⟨hstill, ih.2.trans hshrinks⟩

-- ── Stopping in good order ──────────────────────────────────────────────────

/-- What the watcher does after the signal, while something happens. -/
structure Winds (s : Ensemble) (after : List Happening) (t : Ensemble) : Prop where
  /-- It takes no more notifications, and makes only the reconciliation that it owed. -/
  taken : total Happening.taken after = 0
  reconciled : total Happening.reconciled after + t.run.stage.owed = s.run.stage.owed
  reconciled_le_one : total Happening.reconciled after ≤ 1
  /-- Where it rests or waits it stops at once, with all that is queued left in the queue. -/
  abandons : (∃ deadline, t.run.stage = .resting deadline) ∨ t.run.stage = .waiting → ∀ limit,
    t.run.next AgentState.reload t.sources limit = some ({ t.run with stage := .stopped }, none)
  /-- It does not have to wait for anybody, and moves only so often before it stops. -/
  goes_on : t.run.stage ≠ .stopped → ∀ limit,
    (t.run.next AgentState.reload t.sources limit).isSome = true
  moved : total Happening.moved after + t.patience ≤ s.patience + total Happening.queued after

/-- What is certain about a state and a later one. -/
structure InOrder (before : List Happening) (s : Ensemble) (after : List Happening)
    (t : Ensemble) : Prop where
  /-- One reconciliation is owed at the start, and one for each notification that is taken. -/
  account : total Happening.reconciled before + s.run.stage.owed = 1 + total Happening.taken before
  /-- One that is still owed is that of the start, or for the latest notification. -/
  owed : s.run.stage.owed = 1 →
    total Happening.taken before = 0 ∧ total Happening.reconciled before = 0 ∨
      ∃ earlier done later, before = earlier ++ .watched true done :: later ∧
        total Happening.reconciled later = 0
  winds : s.run.signalled = true → s.Winds after t
  /-- A watcher that has released its watch makes no reconciliation any more. -/
  stopped : s.run.stage = .stopped →
    t.run.stage = .stopped ∧ total Happening.moved after = 0 ∧ total Happening.reconciled after = 0
  /-- When the proxies are being shut down, the watcher has stopped after the signal, and no process
      is launched or brought back. -/
  shutdown : s.stopping = true →
    s.run.signalled = true ∧ s.run.stage = .stopped ∧ s.run.agent.Shrinks t.run.agent

/-- Whatever happens in whatever order, the watcher stops after the signal, and the proxies are shut
    down after the watcher. -/
theorem stops_in_order {topology : Aggregate Leaf} {watcher : Watcher} {options : ProxyOptions}
    {program : Program} {directory : Directory} {grace : Nat} {before after : List Happening}
    {s t : Ensemble}
    (hbefore : (start topology watcher options program directory grace).Leads before s)
    (hafter : s.Leads after t) : InOrder before s after t := by
  have horderly : s.Orderly := hbefore.orderly ⟨rfl, nofun⟩
  refine ⟨hbefore.owed, hbefore.owed_for, fun hsignal => ?_, hafter.stopped,
    fun hstopping => ?_⟩
  · obtain ⟨hsignalled, htaken, hmoved⟩ := hafter.winds hsignal
    have howed := hafter.owed
    rw [htaken, Nat.add_zero] at howed
    refine ⟨htaken, howed, ?_, fun hidle limit => ?_, fun hstage limit => ?_, hmoved⟩
    · have hle := s.run.stage.owed_le_one
      omega
    · exact WatcherRun.next_of_signalled hsignalled hidle _ _ limit
    · exact WatcherRun.isSome_next_of_signalled hsignalled hstage _ _ limit
  · obtain ⟨hsignal, hstage⟩ := horderly.stopped hstopping
    exact ⟨hsignal, hstage, (hafter.shrinks horderly hstopping).2⟩

-- ── A signal between a notification and its reconciliation ──────────────────

/-- The moves of the watcher up to a number, or fewer if it has to wait, with the last state. -/
def watched (limit : Nat) : Nat → Ensemble → List Happening × Ensemble
  | 0, s => ([], s)
  | n + 1, s =>
    match s.run.next AgentState.reload s.sources limit with
    | none => ([], s)
    | some (run, done) =>
      let (events, last) := watched limit n { s with run := run }
      (.watched (s.run.takes run) done :: events, last)

theorem Leads.watched (h : s.Leads events t) (limit n : Nat) :
    s.Leads (events ++ (t.watched limit n).1) (t.watched limit n).2 := by
  induction n generalizing events t with
  | zero => exact (List.append_nil events).symm ▸ h
  | succ n ih =>
      rw [Ensemble.watched]
      cases hnext : t.run.next AgentState.reload t.sources limit with
      | none => exact (List.append_nil events).symm ▸ h
      | some result =>
          obtain ⟨run, done⟩ := result
          have hlast := ih (h.step (.watch limit hnext))
          rwa [List.append_assoc] at hlast

/-- The tasks of the registries go on until nothing more can happen to them. -/
theorem Leads.settled (h : s.Leads events t) (fuel : Nat) :
    ∃ n, s.Leads (events ++ List.replicate n .other)
      { t with registries := (t.registries.settleWithin fuel).1 } := by
  induction fuel generalizing events t with
  | zero => exact ⟨0, (List.append_nil events).symm ▸ h⟩
  | succ fuel ih =>
      rw [Run.settleWithin]
      cases hsteps : t.registries.steps with
      | nil => exact ⟨0, (List.append_nil events).symm ▸ h⟩
      | cons first others =>
          have hmem : first ∈ t.registries.steps := hsteps ▸ List.mem_cons_self
          obtain ⟨n, hlast⟩ := ih (h.step (.registries hmem))
          exact ⟨n + 1, by rwa [List.append_assoc] at hlast⟩

/-- Shutting down the proxies goes on. -/
theorem Leads.stops (h : s.Leads events t) (hstopping : t.stopping = true) {agent : AgentState}
    (hstops : t.run.agent.Stops agent) :
    ∃ n, s.Leads (events ++ List.replicate n .other)
      { t with run := { t.run with agent := agent } } := by
  induction hstops with
  | refl => exact ⟨0, (List.append_nil events).symm ▸ h⟩
  | tail _ hstep ih =>
      obtain ⟨n, hlast⟩ := ih
      refine ⟨n + 1, ?_⟩
      have hnext := hlast.step (.stop hstopping hstep)
      rwa [List.append_assoc, ← List.replicate_succ'] at hnext

/-- A controller over one registry that lists nothing. Its proxies stop when they are told to. -/
def idle : Ensemble :=
  start (.leaf "Memory" { registry := { catalog := ∅ } } .empty) { mesh := {} }
    (.ofMesh "envoy" "/etc/envoy" {}) (.runs (some 0)) {} 0

/-- A registry of one service. -/
def listing : Registry where
  catalog := Catalog.empty.withService ⟨"ratings", none, ∅, [⟨"http", 9080, .http⟩]⟩

/-- What the watcher is told of it. -/
def tidings : List Notification := [⟨"ratings", .add⟩, ⟨"ratings", .update⟩]

/-- The registry comes to list the service. When the watcher has taken the first notification of it,
    the signal is raised. -/
def interrupted : Ensemble :=
  ((((idle.watched 0 3).2.change 0 listing).notify tidings).watched 0 1).2.signal

theorem leads_interrupted : ∃ before, idle.Leads before interrupted := by
  have hstart : idle.Leads [] idle := .start
  have hchanged := (hstart.watched 0 3).step (.change 0 listing)
  have hnotified := hchanged.step (.notify tidings)
  exact ⟨_, (hnotified.watched 0 1).step .signal⟩

/-- The watcher throws the other notification away, launches a second process, and stops; then both
    processes are stopped. -/
theorem interrupted_stops_in_order : ∃ before after t, idle.Leads before interrupted ∧
    interrupted.Leads after t ∧ InOrder before interrupted after t ∧
    interrupted.run.stage = .draining ∧ interrupted.run.agent.processes.length = 1 ∧
    total Happening.reconciled after = 1 ∧ t.stopping = true ∧
    t.run.agent.processes.length = 2 ∧ t.run.agent.live = [] := by
  obtain ⟨before, hbefore⟩ := leads_interrupted
  have hsignal : interrupted.Leads [] interrupted := .start
  obtain ⟨n, hreleased⟩ := (hsignal.watched 0 6).settled 8
  have hshutdown := hreleased.step (.shutdown (by decide +kernel) (by decide +kernel)
    (Run.released_of_rest (by decide +kernel) (by decide +kernel)))
  obtain ⟨m, hended⟩ := hshutdown.stops rfl (AgentState.stops_shutdown _ 1000)
  refine ⟨before, _, _, hbefore, hended, stops_in_order hbefore hended, by decide +kernel,
    by decide +kernel, ?_, rfl, by decide +kernel, by decide +kernel⟩
  rw [total_append, total_concat, total_append, total_append, total_other rfl, total_other rfl]
  decide +kernel

end Ensemble

end MeshSidecar
