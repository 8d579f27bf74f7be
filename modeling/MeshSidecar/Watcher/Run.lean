import MeshSidecar.Watcher.Basic

/-!
# The run of a watcher

A watcher that runs reconciles once at the start, and from then on whenever it is notified
of a change. Notifications wait in a queue. The watcher takes the first one, throws away all
that are queued behind it, reads the services of each registry in turn, and reconciles with
what it has read. After a reload it rests for a period of grace, though never for longer than the
timer of the runtime allows (`WatcherRun.longestRest`); what is queued meanwhile is served
together at its end. It stops
when it sees the signal, which it looks for whenever it rests or waits, or when the queue is
empty and nobody is left who could fill it.

`WatcherRun.next` makes the smallest step that the watcher can make alone. Time is a number
of milliseconds; it passes only while the watcher rests, and no further than to a limit that
is set from outside. `WatcherRun.advance` makes steps until there is none left, which must
come since each step uses up some of `WatcherRun.work`.
-/

namespace MeshSidecar

/-- What a watcher is about to do. -/
inductive Stage where
  /-- To read the services of the registry at a position, after those of the ones before,
      or to reconcile if there is none left. -/
  | reading (position : Nat) (read : List Service)
  /-- To rest until a point in time. -/
  | resting (deadline : Nat)
  /-- To take a notification from the queue. -/
  | waiting
  /-- To throw away the notifications that are queued. -/
  | draining
  | stopped
deriving DecidableEq

/-- A watcher that runs. -/
structure WatcherRun (σ : Type) where
  watcher : Watcher
  /-- The state of the agent. -/
  agent : σ
  /-- How long to rest after a reload. -/
  grace : Nat
  /-- The time. -/
  now : Nat := 0
  queue : List Notification := []
  /-- Whether nobody is left who could notify. -/
  closed : Bool := false
  /-- Whether the signal to stop was raised. -/
  signalled : Bool := false
  stage : Stage := .reading 0 []

/-- A reconciliation of a run. -/
structure Reconciliation where
  /-- The time at which it took place. -/
  time : Nat
  result : Except ReconcileError Reconciled
  /-- The configuration that was current afterwards. -/
  current : Option Config

namespace WatcherRun

variable {σ : Type}

/-- The longest rest, in milliseconds: thirty years of 365 days. The watcher sets no such limit
    itself. It is the limit of the timer of the runtime that the watcher rests on, which ends a
    wait that is to last longer after this time. -/
def longestRest : Nat := 30 * 365 * 24 * 60 * 60 * 1000

/-- What follows a reconciliation: rest after a reload, and else the next notification. -/
def stageAfter (run : WatcherRun σ) : Except ReconcileError Reconciled → Stage
  | .ok (.reloaded _) => .resting (run.now + min run.grace longestRest)
  | .ok .unchanged => .waiting
  | .error _ => .waiting

/-- Reconciles with services that were read. -/
def reconcile (agent : Agent σ) (services : List Service) (run : WatcherRun σ) :
    WatcherRun σ × Reconciliation :=
  let (result, watcher, state) := run.watcher.reconcile agent services run.agent
  ({ run with watcher := watcher, agent := state, stage := run.stageAfter result },
    ⟨run.now, result, watcher.current⟩)

/-- The next step of the watcher, with the reconciliation if it is one. The registries list
    `sources`, and time may pass up to `limit`. -/
def next (agent : Agent σ) (sources : List (List Service)) (limit : Nat) (run : WatcherRun σ) :
    Option (WatcherRun σ × Option Reconciliation) :=
  match run.stage with
  | .reading position read =>
    match sources[position]? with
    | some services => some ({ run with stage := .reading (position + 1) (read ++ services) }, none)
    | none =>
      let (run, reconciliation) := run.reconcile agent read
      some (run, some reconciliation)
  | .resting deadline =>
    if run.signalled then some ({ run with stage := .stopped }, none)
    else if deadline ≤ limit then
      some ({ run with now := max run.now deadline, stage := .waiting }, none)
    else none
  | .waiting =>
    if run.signalled then some ({ run with stage := .stopped }, none)
    else
      match run.queue with
      | _ :: queue => some ({ run with queue := queue, stage := .draining }, none)
      | [] => if run.closed then some ({ run with stage := .stopped }, none) else none
  | .draining =>
    match run.queue with
    | _ :: queue => some ({ run with queue := queue }, none)
    | [] => some ({ run with stage := .reading 0 [] }, none)
  | .stopped => none

/-- A bound on the steps that a watcher can still make alone over a number of registries. -/
def work (sources : Nat) (run : WatcherRun σ) : Nat :=
  run.queue.length * (sources + 4) +
    match run.stage with
    | .reading position _ => 3 + (sources - position)
    | .resting _ => 2
    | .waiting => 1
    | .draining => sources + 4
    | .stopped => 0

theorem work_reconcile_le (agent : Agent σ) (services : List Service) (run : WatcherRun σ)
    (sources : Nat) :
    (run.reconcile agent services).1.work sources ≤ run.queue.length * (sources + 4) + 2 := by
  show run.queue.length * (sources + 4) + _ ≤ _
  refine Nat.add_le_add_left ?_ _
  show (match run.stageAfter (run.watcher.reconcile agent services run.agent).1 with
    | .reading position _ => 3 + (sources - position)
    | .resting _ => 2
    | .waiting => 1
    | .draining => sources + 4
    | .stopped => 0) ≤ 2
  cases (run.watcher.reconcile agent services run.agent).1 with
  | error _ => exact Nat.le_succ 1
  | ok reconciled => cases reconciled <;> simp [stageAfter]

/-- Every step uses up some of the work. -/
theorem work_lt_of_next {agent : Agent σ} {sources : List (List Service)} {limit : Nat}
    {run after : WatcherRun σ} {done : Option Reconciliation}
    (h : run.next agent sources limit = some (after, done)) :
    after.work sources.length < run.work sources.length := by
  unfold next at h
  split at h
  · rename_i position read hstage
    split at h
    · rename_i services hget
      have hlt : position < sources.length := (List.getElem?_eq_some_iff.mp hget).1
      obtain ⟨rfl, -⟩ := Prod.mk.inj (Option.some.inj h)
      simp only [work, hstage]
      omega
    · have hafter : (run.reconcile agent read).1 = after :=
        congrArg Prod.fst (Option.some.inj h)
      have hle := work_reconcile_le agent read run sources.length
      rw [hafter] at hle
      refine Nat.lt_of_le_of_lt hle ?_
      simp only [work, hstage]
      omega
  · rename_i deadline hstage
    split at h
    · obtain ⟨rfl, -⟩ := Prod.mk.inj (Option.some.inj h)
      simp [work, hstage]
    · split at h
      · obtain ⟨rfl, -⟩ := Prod.mk.inj (Option.some.inj h)
        simp [work, hstage]
      · exact absurd h (by simp)
  · rename_i hstage
    split at h
    · obtain ⟨rfl, -⟩ := Prod.mk.inj (Option.some.inj h)
      simp [work, hstage]
    · split at h
      · rename_i queue hqueue
        obtain ⟨rfl, -⟩ := Prod.mk.inj (Option.some.inj h)
        simp only [work, hstage, hqueue, List.length_cons, Nat.add_mul]
        omega
      · split at h
        · obtain ⟨rfl, -⟩ := Prod.mk.inj (Option.some.inj h)
          simp [work, hstage]
        · exact absurd h (by simp)
  · rename_i hstage
    split at h
    · rename_i queue hqueue
      obtain ⟨rfl, -⟩ := Prod.mk.inj (Option.some.inj h)
      simp only [work, hstage, hqueue, List.length_cons, Nat.add_mul]
      omega
    · rename_i hqueue
      obtain ⟨rfl, -⟩ := Prod.mk.inj (Option.some.inj h)
      simp only [work, hstage, hqueue, List.length_nil]
      omega
  · exact absurd h (by simp)

/-- Makes steps until there is none left, at most `fuel` of them. -/
def advanceWithin (agent : Agent σ) (sources : List (List Service)) (limit : Nat) :
    Nat → WatcherRun σ → WatcherRun σ × List Reconciliation
  | 0, run => (run, [])
  | fuel + 1, run =>
    match run.next agent sources limit with
    | none => (run, [])
    | some (next, reconciliation) =>
      let (last, more) := advanceWithin agent sources limit fuel next
      (last, reconciliation.toList ++ more)

/-- Lets a number of milliseconds pass. The result comes with the reconciliations that took
    place, in order. -/
def advance (agent : Agent σ) (sources : List (List Service)) (ms : Nat) (run : WatcherRun σ) :
    WatcherRun σ × List Reconciliation :=
  let limit := run.now + ms
  let (last, done) := run.advanceWithin agent sources limit (run.work sources.length)
  ({ last with now := limit }, done)

/-- Queues notifications. -/
def notify (run : WatcherRun σ) (notifications : List Notification) : WatcherRun σ :=
  if run.closed then run else { run with queue := run.queue ++ notifications }

/-- Nobody is left who could notify. -/
def close (run : WatcherRun σ) : WatcherRun σ := { run with closed := true }

/-- Raises the signal to stop. -/
def signal (run : WatcherRun σ) : WatcherRun σ := { run with signalled := true }

end WatcherRun

end MeshSidecar
