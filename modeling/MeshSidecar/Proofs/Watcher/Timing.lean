import MeshSidecar.Proofs.Watcher.Updates
import Mathlib.Algebra.BigOperators.Group.List.Basic

/-!
# When a watcher reconciles

A *timeline* is a watcher with a clock, over registries that list other services from time to time.
It is told of changes at any time, and its agent accepts or refuses as it likes; nobody tells it to
stop. The watcher needs no time for what it does, so that the clock stands still until it has
nothing left to do (`Timeline.Step`). Of every reconciliation a *round* is written down: when it
took place, the notifications that it answers, and the services.

After a reload the watcher makes no other round before the pause is over, and at its end one round
answers everything that is queued. Without a reload there is no pause (`Timeline.paced`). The
invariant behind this (`Timeline.Kept`) accounts for every notification and for the time that must
pass; what the watcher does at one moment is found by following it move by move
(`Timeline.settle_rounds_of_waiting`). To let time pass by `WatcherRun.advance` is to follow a
timeline, and the reconciliations that it reports are the rounds (`Timeline.Reachable.advance`).

The pause is the period of grace, but it ends after thirty years in any case
(`Timeline.paused_for_less`).
-/

namespace MeshSidecar

variable {σ : Type}

namespace WatcherRun

/-- How long the watcher rests after a reload. -/
def pause (run : WatcherRun σ) : Nat := min run.grace longestRest

/-- The time before which there is no other reconciliation. -/
def free (run : WatcherRun σ) : Nat :=
  match run.stage with
  | .resting deadline => deadline
  | .reading _ _ | .waiting | .draining | .stopped => run.now

/-- A watcher that rests has no step but to wake at the end of its rest. -/
theorem next_of_resting {run : WatcherRun σ} {deadline : Nat} (hsignal : run.signalled = false)
    (hstage : run.stage = .resting deadline) (agent : Agent σ) (sources : List (List Service))
    (limit : Nat) :
    run.next agent sources limit =
      if deadline ≤ limit then
        some ({ run with now := max run.now deadline, stage := .waiting }, none)
      else none := by
  rw [next]
  simp only [hstage, hsignal, Bool.false_eq_true, if_false]

/-- A watcher that does not rest makes the same step at any time. -/
theorem next_congr {run : WatcherRun σ} (hstage : ∀ deadline, run.stage ≠ .resting deadline)
    (agent : Agent σ) (sources : List (List Service)) (limit limit' : Nat) :
    run.next agent sources limit = run.next agent sources limit' := by
  rw [next, next]
  cases hat : run.stage with
  | resting deadline => exact absurd hat (hstage deadline)
  | reading _ _ | waiting | draining | stopped => rfl

end WatcherRun

-- ── Timelines ───────────────────────────────────────────────────────────────

namespace Timeline

/-- A reconciliation, as it is written down. -/
structure Round where
  /-- The time at which it took place. -/
  time : Nat
  /-- The notifications that were taken from the queue for it. -/
  answers : List Notification
  services : List Service
  result : Except ReconcileError Reconciled
deriving DecidableEq

/-- Whether the agent accepted a configuration in a round. -/
def Round.reloaded (round : Round) : Bool :=
  match round.result with
  | .ok (.reloaded _) => true
  | .ok .unchanged | .error _ => false

end Timeline

/-- A watcher over registries that list `sources`, with what has happened so far. -/
structure Timeline (σ : Type) where
  run : WatcherRun σ
  sources : List (List Service)
  /-- All notifications that were ever queued. -/
  told : List Notification := []
  /-- The notifications that were taken from the queue since the last round. -/
  taken : List Notification := []
  rounds : List Timeline.Round := []

namespace Timeline

/-- What is written down of a step of the watcher. The notifications that are no longer queued were
    taken by it. -/
def after (s : Timeline σ) (run : WatcherRun σ) : Option Reconciliation → Timeline σ
  | some reconciliation =>
    { s with
      run := run
      taken := []
      rounds := s.rounds ++
        [⟨reconciliation.time, s.taken, s.run.stage.services, reconciliation.result⟩] }
  | none =>
    { s with
      run := run
      taken := s.taken ++ s.run.queue.take (s.run.queue.length - run.queue.length) }

/-- The next step of the watcher, if there is one that it can make at this time. -/
def move (agent : Agent σ) (s : Timeline σ) : Option (Timeline σ) :=
  (s.run.next agent s.sources s.run.now).map fun (run, done) => s.after run done

/-- Notifications are queued. -/
def tell (s : Timeline σ) (notifications : List Notification) : Timeline σ :=
  { s with run := s.run.notify notifications, told := s.told ++ notifications }

/-- Time passes. -/
def pass (s : Timeline σ) (ms : Nat) : Timeline σ :=
  { s with run := { s.run with now := s.run.now + ms } }

/-- One thing that may happen. -/
inductive Step (agent : Agent σ) : Timeline σ → Timeline σ → Prop where
  /-- The registries list other services. -/
  | change (s : Timeline σ) (sources : List (List Service)) :
      Step agent s { s with sources := sources }
  | tell (s : Timeline σ) (notifications : List Notification) (hopen : s.run.closed = false) :
      Step agent s (s.tell notifications)
  | close (s : Timeline σ) : Step agent s { s with run := s.run.close }
  /-- The agent comes to another state. -/
  | agent (s : Timeline σ) (state : σ) :
      Step agent s { s with run := { s.run with agent := state } }
  | move {s t : Timeline σ} (hmove : s.move agent = some t) : Step agent s t
  /-- Time passes only when the watcher has nothing to do, and not beyond the end of its rest. -/
  | pass (s : Timeline σ) (ms : Nat) (hidle : s.move agent = none)
      (hrest : ∀ deadline, s.run.stage = .resting deadline → s.run.now + ms ≤ deadline) :
      Step agent s (s.pass ms)

/-- What is reached from a watcher that is about to read the services for the first time. -/
inductive Reachable (agent : Agent σ) : Timeline σ → Prop where
  | start (watcher : Watcher) (state : σ) (grace : Nat) (sources : List (List Service)) :
      Reachable agent
        { run := { watcher := watcher, agent := state, grace := grace }, sources := sources }
  | step {s t : Timeline σ} (h : Reachable agent s) (hstep : Step agent s t) : Reachable agent t

/-- Lets the watcher go on at this time, for at most `fuel` steps. -/
def settleWithin (agent : Agent σ) : Nat → Timeline σ → Timeline σ
  | 0, s => s
  | fuel + 1, s =>
    match s.move agent with
    | none => s
    | some t => settleWithin agent fuel t

/-- Lets the watcher go on until it has nothing left to do at this time. -/
def settle (agent : Agent σ) (s : Timeline σ) : Timeline σ :=
  s.settleWithin agent (s.run.work s.sources.length)

/-- The round that answers notifications at this time, with the services as they are. -/
def answer (agent : Agent σ) (s : Timeline σ) (notifications : List Notification) : Round where
  time := s.run.now
  answers := notifications
  services := s.sources.flatten
  result := (s.run.watcher.reconcile agent s.sources.flatten s.run.agent).1

variable {agent : Agent σ} {s t : Timeline σ} {run : WatcherRun σ}

-- ── Settling ────────────────────────────────────────────────────────────────

theorem next_of_move (h : s.move agent = some t) :
    ∃ run done, s.run.next agent s.sources s.run.now = some (run, done) ∧ t = s.after run done := by
  obtain ⟨⟨run, done⟩, hnext, rfl⟩ := Option.map_eq_some_iff.mp h
  exact ⟨run, done, hnext, rfl⟩

theorem move_of_next {done : Option Reconciliation}
    (h : s.run.next agent s.sources s.run.now = some (run, done)) :
    s.move agent = some (s.after run done) := by
  rw [move, h]
  rfl

theorem run_after (s : Timeline σ) (run : WatcherRun σ) (done : Option Reconciliation) :
    (s.after run done).run = run := by
  cases done <;> rfl

theorem sources_after (s : Timeline σ) (run : WatcherRun σ) (done : Option Reconciliation) :
    (s.after run done).sources = s.sources := by
  cases done <;> rfl

/-- Every move uses up some of the work. -/
theorem work_lt_of_move (h : s.move agent = some t) :
    t.run.work t.sources.length < s.run.work s.sources.length := by
  obtain ⟨run, done, hnext, rfl⟩ := next_of_move h
  rw [run_after, sources_after]
  exact WatcherRun.work_lt_of_next hnext

/-- With enough fuel, more of it makes no difference. -/
theorem settleWithin_succ {fuel : Nat} (h : s.run.work s.sources.length ≤ fuel) :
    s.settleWithin agent (fuel + 1) = s.settleWithin agent fuel := by
  induction fuel generalizing s with
  | zero =>
      rw [settleWithin, settleWithin]
      cases hmove : s.move agent with
      | none => rfl
      | some t => exact absurd (work_lt_of_move hmove) (by omega)
  | succ fuel ih =>
      rw [settleWithin, settleWithin]
      cases hmove : s.move agent with
      | none => rfl
      | some t =>
          have hlt := work_lt_of_move hmove
          exact ih (by omega)

theorem settleWithin_eq_settle {fuel : Nat} (h : s.run.work s.sources.length ≤ fuel) :
    s.settleWithin agent fuel = s.settle agent := by
  induction h with
  | refl => rfl
  | step hle ih => rw [settleWithin_succ hle, ih]

theorem settle_of_move (h : s.move agent = some t) : s.settle agent = t.settle agent := by
  rw [settle, ← settleWithin_succ (Nat.le_refl _), settleWithin, h]
  exact settleWithin_eq_settle (Nat.le_of_lt (work_lt_of_move h))

theorem settle_of_none (h : s.move agent = none) : s.settle agent = s := by
  rw [settle, ← settleWithin_succ (Nat.le_refl _), settleWithin, h]

theorem Reachable.settle (h : Reachable agent s) : Reachable agent (s.settle agent) := by
  rw [Timeline.settle]
  generalize s.run.work s.sources.length = fuel
  induction fuel generalizing s with
  | zero => exact h
  | succ fuel ih =>
      rw [settleWithin]
      cases hmove : s.move agent with
      | none => exact h
      | some t => exact ih (h.step (.move hmove))

-- ── What is kept ────────────────────────────────────────────────────────────

/-- What the stage tells of the notifications that were taken since the last round. Only the first
    round is made without any. -/
def Answering (taken : List Notification) (rounds : List Round) : Stage → Prop
  | .reading _ _ => taken = [] ↔ rounds = []
  | .draining => taken ≠ [] ∧ rounds ≠ []
  | .resting _ | .waiting | .stopped => taken = [] ∧ rounds ≠ []

/-- What holds of the notifications at all times. -/
structure Accounted (s : Timeline σ) : Prop where
  told : s.told = s.rounds.flatMap Round.answers ++ (s.taken ++ s.run.queue)
  first : ∀ round ∈ s.rounds.head?, round.answers = []
  later : ∀ round ∈ s.rounds.tail, round.answers ≠ []
  answering : Answering s.taken s.rounds s.run.stage

/-- What holds of the time between rounds at all times. -/
structure Rested (s : Timeline σ) : Prop where
  spaced : s.rounds.Pairwise fun a b => a.reloaded → a.time + s.run.pause ≤ b.time
  free : ∀ round ∈ s.rounds, round.reloaded → round.time + s.run.pause ≤ s.run.free
  resting : ∀ deadline, s.run.stage = .resting deadline →
    s.run.now ≤ deadline ∧
      ∃ last ∈ s.rounds.getLast?, last.reloaded ∧ deadline = last.time + s.run.pause

/-- What holds at all times. -/
structure Kept (s : Timeline σ) : Prop extends Accounted s, Rested s where
  unsignalled : s.run.signalled = false
  stopped : s.run.stage = .stopped → s.run.closed = true ∧ s.run.queue = []

/-- Nothing is lost by a step that makes no round. -/
theorem Kept.quiet (hkept : Kept s) {taken : List Notification}
    (hsignal : run.signalled = s.run.signalled) (hgrace : run.grace = s.run.grace)
    (hqueue : taken ++ run.queue = s.taken ++ s.run.queue)
    (hanswering : Answering taken s.rounds run.stage) (hfree : s.run.free ≤ run.free)
    (hresting : ∀ deadline, run.stage = .resting deadline →
      s.run.stage = .resting deadline ∧ run.now ≤ deadline)
    (hstopped : run.stage = .stopped → run.closed = true ∧ run.queue = []) :
    Kept { s with run := run, taken := taken } := by
  have hpause : run.pause = s.run.pause := by rw [WatcherRun.pause, hgrace, WatcherRun.pause]
  have hspaced := hkept.spaced
  have hbefore := hkept.free
  rw [← hpause] at hspaced hbefore
  refine ⟨⟨hkept.told.trans (congrArg _ hqueue.symm), hkept.first, hkept.later, hanswering⟩,
    ⟨hspaced, ?free, ?resting⟩, hsignal.trans hkept.unsignalled, hstopped⟩
  case free => exact fun round hround h => Nat.le_trans (hbefore round hround h) hfree
  case resting =>
    intro deadline hstage
    obtain ⟨hat, hnow⟩ := hresting deadline hstage
    obtain ⟨last, hlast, hreloaded, hdeadline⟩ := (hkept.resting deadline hat).2
    exact ⟨hnow, last, hlast, hreloaded, hdeadline.trans (congrArg _ hpause.symm)⟩

/-- The watcher rests after a reload, and only then. -/
theorem stageAfter_cases (run : WatcherRun σ) (round : Round) :
    (round.reloaded ∧ run.stageAfter round.result = .resting (run.now + run.pause)) ∨
      (¬round.reloaded ∧ run.stageAfter round.result = .waiting) := by
  rw [Round.reloaded]
  cases round.result with
  | error error => exact Or.inr ⟨nofun, rfl⟩
  | ok done =>
      cases done with
      | unchanged => exact Or.inr ⟨nofun, rfl⟩
      | reloaded epoch => exact Or.inl ⟨rfl, rfl⟩

/-- A round answers what was taken since the one before. -/
theorem Accounted.append (h : Accounted s) {position : Nat} {services : List Service}
    {round : Round} (hreading : s.run.stage = .reading position services)
    (hanswers : round.answers = s.taken) (hqueue : run.queue = s.run.queue)
    (hstage : (∃ deadline, run.stage = .resting deadline) ∨ run.stage = .waiting) :
    Accounted { s with run := run, taken := [], rounds := s.rounds ++ [round] } := by
  have hanswering := h.answering
  rw [hreading] at hanswering
  constructor
  case told =>
    rw [h.told, hqueue, List.flatMap_append, List.flatMap_singleton, hanswers, List.append_assoc]
    rfl
  case first =>
    cases hrounds : s.rounds with
    | nil => simp [hanswers, hanswering.mpr hrounds]
    | cons first rest => exact fun other hother => h.first other (by rw [hrounds]; exact hother)
  case later =>
    cases hrounds : s.rounds with
    | nil => nofun
    | cons first rest =>
        intro other hother
        rcases List.mem_append.mp hother with hold | hnew
        · exact h.later other (by rw [hrounds]; exact hold)
        · rw [List.mem_singleton.mp hnew, hanswers]
          exact fun htaken => nomatch (hanswering.mp htaken).symm.trans hrounds
  case answering =>
    have hne : s.rounds ++ [round] ≠ [] := List.append_ne_nil_of_right_ne_nil _ nofun
    rcases hstage with ⟨deadline, hstage⟩ | hstage <;> rw [hstage] <;> exact ⟨rfl, hne⟩

/-- A round is made when no rest is due, and is followed by one if it is a reload. -/
theorem Rested.append (h : Rested s) {round : Round} (hfree : s.run.free = s.run.now)
    (htime : round.time = s.run.now) (hnow : run.now = s.run.now)
    (hpause : run.pause = s.run.pause) (hstage : run.stage = s.run.stageAfter round.result) :
    Rested { s with run := run, taken := [], rounds := s.rounds ++ [round] } := by
  have hbefore : ∀ other ∈ s.rounds, other.reloaded → other.time + s.run.pause ≤ s.run.now :=
    fun other hother hreloaded => hfree ▸ h.free other hother hreloaded
  have hspaced : (s.rounds ++ [round]).Pairwise
      fun a b => a.reloaded → a.time + s.run.pause ≤ b.time := by
    refine List.pairwise_append.mpr ⟨h.spaced, List.pairwise_singleton _ _, ?_⟩
    intro old hold new hnew hreloaded
    rw [List.mem_singleton.mp hnew, htime]
    exact hbefore old hold hreloaded
  rw [← hpause] at hspaced hbefore
  rcases stageAfter_cases s.run round with ⟨hreloaded, hcase⟩ | ⟨hnot, hcase⟩
  · have hresting : run.stage = .resting (s.run.now + run.pause) := by
      rw [hstage, hcase, hpause]
    refine ⟨hspaced, fun other hother hreloaded => ?_, fun deadline hdeadline => ?_⟩
    · show other.time + run.pause ≤ run.free
      rw [WatcherRun.free, hresting]
      rcases List.mem_append.mp hother with hold | hnew
      · exact Nat.le_add_right_of_le (hbefore other hold hreloaded)
      · rw [List.mem_singleton.mp hnew, htime]
    · obtain rfl := Stage.resting.inj (hresting.symm.trans hdeadline)
      show run.now ≤ _ ∧ _
      rw [hnow]
      exact ⟨Nat.le_add_right _ _, round, by simp, hreloaded, by rw [htime]⟩
  · have hwaiting : run.stage = .waiting := hstage.trans hcase
    refine ⟨hspaced, fun other hother hreloaded => ?_, fun deadline hdeadline => ?_⟩
    · show other.time + run.pause ≤ run.free
      rw [WatcherRun.free, hwaiting]
      rcases List.mem_append.mp hother with hold | hnew
      · exact hnow ▸ hbefore other hold hreloaded
      · exact absurd (List.mem_singleton.mp hnew ▸ hreloaded) hnot
    · exact nomatch hwaiting.symm.trans hdeadline

theorem Kept.reconcile (hkept : Kept s) (agent : Agent σ) {position : Nat}
    {services : List Service} (hstage : s.run.stage = .reading position services) :
    Kept
      (s.after (s.run.reconcile agent services).1 (some (s.run.reconcile agent services).2)) := by
  have hfree : s.run.free = s.run.now := by rw [WatcherRun.free, hstage]
  have hafter := s.run.stage_of_reconcile agent services
  refine ⟨hkept.toAccounted.append hstage rfl rfl hafter,
    hkept.toRested.append hfree rfl rfl rfl rfl, hkept.unsignalled, fun hstopped => ?_⟩
  rcases hafter with ⟨deadline, hafter⟩ | hafter <;> exact nomatch hafter.symm.trans hstopped

theorem after_of_queue_eq (hqueue : run.queue = s.run.queue) :
    s.after run none = { s with run := run, taken := s.taken } := by
  rw [after, hqueue, Nat.sub_self, List.take_zero, List.append_nil]

theorem after_of_queue_cons {notification : Notification}
    (hqueue : s.run.queue = notification :: run.queue) :
    s.after run none = { s with run := run, taken := s.taken ++ [notification] } := by
  rw [after, hqueue, List.length_cons, Nat.add_sub_cancel_left]
  rfl

/-- What is no longer queued was taken. -/
theorem Kept.take (hkept : Kept s) {notification : Notification} {queue : List Notification}
    (hstage : s.run.stage = .waiting ∨ s.run.stage = .draining)
    (hqueue : s.run.queue = notification :: queue) :
    Kept
      { s with
        run := { s.run with queue := queue, stage := .draining }
        taken := s.taken ++ [notification] } := by
  have hanswering := hkept.answering
  have hrounds : s.rounds ≠ [] := by
    rcases hstage with hstage | hstage <;> rw [hstage] at hanswering <;> exact hanswering.2
  have hfree : s.run.free = s.run.now := by
    rcases hstage with hstage | hstage <;> rw [WatcherRun.free, hstage]
  refine hkept.quiet rfl rfl ?_ ⟨List.concat_ne_nil _ _, hrounds⟩ (Nat.le_of_eq hfree) nofun nofun
  rw [hqueue, List.append_assoc]
  rfl

/-- The watcher keeps the account with every move. -/
theorem Kept.moves (hkept : Kept s) {done : Option Reconciliation}
    (h : s.run.Moves agent s.sources run done) : Kept (s.after run done) := by
  have hanswering := hkept.answering
  cases h with
  | read hstage _ =>
      rw [hstage] at hanswering
      rw [after_of_queue_eq]
      · refine hkept.quiet rfl rfl rfl hanswering ?_ nofun nofun
        rw [WatcherRun.free, hstage]
        exact Nat.le_refl _
      · rfl
  | reconcile hstage _ => exact hkept.reconcile agent hstage
  | quit _ hsignal => exact nomatch hsignal.symm.trans hkept.unsignalled
  | wake hstage =>
      rw [hstage] at hanswering
      rw [after_of_queue_eq]
      · refine hkept.quiet rfl rfl rfl hanswering ?_ nofun nofun
        rw [WatcherRun.free, hstage]
        exact Nat.le_max_right _ _
      · rfl
  | take hstage hqueue =>
      rw [after_of_queue_cons hqueue]
      exact hkept.take (Or.inl hstage) hqueue
  | finish hstage hqueue hclosed =>
      rw [hstage] at hanswering
      rw [after_of_queue_eq hqueue.symm]
      refine hkept.quiet rfl rfl (by rw [hqueue]) hanswering ?_ nofun fun _ => ⟨hclosed, rfl⟩
      rw [WatcherRun.free, hstage]
      exact Nat.le_refl _
  | drop hstage hqueue =>
      rw [after_of_queue_cons hqueue]
      exact hkept.take (Or.inr hstage) hqueue
  | start hstage hqueue =>
      rw [hstage] at hanswering
      rw [after_of_queue_eq hqueue.symm]
      refine hkept.quiet rfl rfl (by rw [hqueue]) (iff_of_false hanswering.1 hanswering.2) ?_ nofun
        nofun
      rw [WatcherRun.free, hstage]
      exact Nat.le_refl _

/-- What is queued is part of what the watcher was told. -/
theorem Kept.tell (hkept : Kept s) (notifications : List Notification)
    (hopen : s.run.closed = false) : Kept (s.tell notifications) := by
  have hnotify : s.run.notify notifications
      = { s.run with queue := s.run.queue ++ notifications } := by
    rw [WatcherRun.notify, if_neg (Bool.eq_false_iff.mp hopen)]
  rw [Timeline.tell, hnotify]
  refine { hkept with told := ?_, stopped := ?_ }
  · show s.told ++ notifications = _
    rw [hkept.told]
    simp only [List.append_assoc]
  · exact fun hstage => absurd (hkept.stopped hstage).1 (Bool.eq_false_iff.mp hopen)

/-- Every step keeps the account. -/
theorem Kept.step (hkept : Kept s) (hstep : Step agent s t) : Kept t := by
  cases hstep with
  | change sources => exact { hkept with }
  | tell notifications hopen => exact hkept.tell notifications hopen
  | close =>
      exact { hkept with stopped := fun hstage => ⟨rfl, (hkept.stopped hstage).2⟩ }
  | agent state => exact { hkept with }
  | move hmove =>
      obtain ⟨run, done, hnext, rfl⟩ := next_of_move hmove
      exact hkept.moves (WatcherRun.moves_of_next hnext)
  | pass ms hidle hrest =>
      refine hkept.quiet rfl rfl rfl hkept.answering ?_ (fun deadline h => ⟨h, hrest deadline h⟩)
        hkept.stopped
      rw [WatcherRun.free, WatcherRun.free]
      cases s.run.stage with
      | resting deadline => exact Nat.le_refl _
      | reading _ _ | waiting | draining | stopped => exact Nat.le_add_right _ _

theorem Reachable.kept (h : Reachable agent s) : Kept s := by
  induction h with
  | start watcher state grace sources =>
      exact ⟨⟨rfl, nofun, nofun, iff_of_true rfl rfl⟩, ⟨.nil, nofun, nofun⟩, rfl, nofun⟩
  | step _ hstep ih => exact ih.step hstep

/-- There is at most one round more than there are notifications. -/
theorem Accounted.length_le (h : Accounted s) : s.rounds.length ≤ 1 + s.told.length := by
  rw [h.told, List.length_append]
  cases hrounds : s.rounds with
  | nil => exact Nat.zero_le _
  | cons first rest =>
      have hrest : rest.length ≤ (rest.flatMap Round.answers).length := by
        rw [List.length_flatMap, ← List.length_map fun round : Round => round.answers.length]
        refine List.length_le_sum_of_one_le _ ?_
        rintro length hlength
        obtain ⟨round, hround, rfl⟩ := List.mem_map.mp hlength
        exact List.length_pos_iff.mpr (h.later round (by rw [hrounds]; exact hround))
      rw [List.flatMap_cons, List.length_append, List.length_cons]
      omega

-- ── What is done at one moment ──────────────────────────────────────────────

/-- A watcher that waits with nothing queued makes no round. -/
theorem settle_rounds_of_waiting_nil (hsignal : s.run.signalled = false)
    (hstage : s.run.stage = .waiting) (hqueue : s.run.queue = []) :
    (s.settle agent).rounds = s.rounds := by
  by_cases hclosed : s.run.closed = true
  · have hnext : s.run.next agent s.sources s.run.now
        = some ({ s.run with stage := .stopped }, none) := by
      rw [WatcherRun.next]
      simp [hstage, hsignal, hqueue, hclosed]
    rw [settle_of_move (move_of_next hnext), settle_of_none rfl]
    rfl
  · have hnext : s.run.next agent s.sources s.run.now = none := by
      rw [WatcherRun.next]
      simp [hstage, hsignal, hqueue, hclosed]
    rw [settle_of_none (by rw [move, hnext]; rfl)]

/-- At the end of its rest the watcher waits. -/
theorem settle_of_resting {deadline : Nat} (hsignal : s.run.signalled = false)
    (hstage : s.run.stage = .resting deadline) (hnow : deadline ≤ s.run.now) :
    s.settle agent =
      ({ s with run := { s.run with stage := .waiting } } : Timeline σ).settle agent := by
  have hnext : s.run.next agent s.sources s.run.now
      = some ({ s.run with stage := .waiting }, none) := by
    rw [WatcherRun.next_of_resting hsignal hstage, if_pos hnow, Nat.max_eq_left hnow]
  rw [settle_of_move (move_of_next hnext), after_of_queue_eq]
  rfl

/-- Before the end of its rest the watcher does nothing. -/
theorem move_of_resting {deadline : Nat} (hsignal : s.run.signalled = false)
    (hstage : s.run.stage = .resting deadline) (hnow : s.run.now < deadline) :
    s.move agent = none := by
  rw [move, WatcherRun.next_of_resting hsignal hstage, if_neg (Nat.not_le.mpr hnow)]
  rfl

/-- A watcher that has reconciled makes no other round as long as nothing is queued. -/
theorem settle_rounds_of_nil (hsignal : s.run.signalled = false)
    (hstage : (∃ deadline, s.run.stage = .resting deadline) ∨ s.run.stage = .waiting)
    (hqueue : s.run.queue = []) : (s.settle agent).rounds = s.rounds := by
  rcases hstage with ⟨deadline, hstage⟩ | hstage
  · rcases Nat.lt_or_ge s.run.now deadline with hnow | hnow
    · rw [settle_of_none (move_of_resting hsignal hstage hnow)]
    · rw [settle_of_resting hsignal hstage hnow]
      exact settle_rounds_of_waiting_nil hsignal rfl hqueue
  · exact settle_rounds_of_waiting_nil hsignal hstage hqueue

/-- The watcher reads the services that are left and makes a round with all of them. If nothing is
    queued by then, it makes no other. -/
theorem settle_rounds_of_reading {position : Nat} {services : List Service}
    (hsignal : s.run.signalled = false) (hstage : s.run.stage = .reading position services)
    (hqueue : s.run.queue = []) :
    (s.settle agent).rounds = s.rounds ++
      [⟨s.run.now, s.taken, services ++ (s.sources.drop position).flatten,
        (s.run.watcher.reconcile agent (services ++ (s.sources.drop position).flatten)
          s.run.agent).1⟩] := by
  generalize hleft : s.sources.drop position = left
  induction left generalizing s position services with
  | nil =>
      have hnext : s.run.next agent s.sources s.run.now
          = some ((s.run.reconcile agent services).1, some (s.run.reconcile agent services).2) := by
        rw [WatcherRun.next]
        simp only [hstage, List.getElem?_eq_none (List.drop_eq_nil_iff.mp hleft)]
      rw [settle_of_move (move_of_next hnext), List.flatten_nil, List.append_nil]
      refine (settle_rounds_of_nil ?_ ?_ ?_).trans ?_
      · exact hsignal
      · exact s.run.stage_of_reconcile agent services
      · exact hqueue
      · rw [after, hstage]
        rfl
  | cons those rest ih =>
      have hget : s.sources[position]? = some those := by
        rw [← List.head?_drop, hleft]
        rfl
      have hnext : s.run.next agent s.sources s.run.now
          = some ({ s.run with stage := .reading (position + 1) (services ++ those) }, none) := by
        rw [WatcherRun.next]
        simp only [hstage, hget]
      rw [settle_of_move (move_of_next hnext), after_of_queue_eq]
      · have hrest : s.sources.drop (position + 1) = rest := by
          rw [← List.tail_drop, hleft]
          rfl
        refine Eq.trans (ih hsignal rfl hqueue hrest) ?_
        rw [List.flatten_cons, List.append_assoc]
      · rfl

/-- The watcher throws away what is queued, and begins to read the services. -/
theorem settle_of_draining (hstage : s.run.stage = .draining) :
    s.settle agent =
      ({ s with
        run := { s.run with queue := [], stage := .reading 0 [] }
        taken := s.taken ++ s.run.queue } : Timeline σ).settle agent := by
  generalize hqueue : s.run.queue = queue
  induction queue generalizing s with
  | nil =>
      have hnext : s.run.next agent s.sources s.run.now
          = some ({ s.run with queue := [], stage := .reading 0 [] }, none) := by
        rw [WatcherRun.next]
        simp only [hstage, hqueue]
      rw [settle_of_move (move_of_next hnext), after_of_queue_eq hqueue.symm, List.append_nil]
  | cons notification queue ih =>
      have hnext : s.run.next agent s.sources s.run.now
          = some ({ s.run with queue := queue, stage := .draining }, none) := by
        rw [WatcherRun.next]
        simp only [hstage, hqueue]
      rw [settle_of_move (move_of_next hnext), after_of_queue_cons hqueue]
      refine (ih rfl rfl).trans ?_
      rw [List.append_assoc]
      rfl

/-- A watcher that waits answers everything that is queued at once, in one round, with the services
    as they are. -/
theorem settle_rounds_of_waiting (hsignal : s.run.signalled = false)
    (hstage : s.run.stage = .waiting) (htaken : s.taken = []) (hqueue : s.run.queue ≠ []) :
    (s.settle agent).rounds = s.rounds ++ [s.answer agent s.run.queue] := by
  obtain ⟨notification, queue, hcons⟩ := List.exists_cons_of_ne_nil hqueue
  have hnext : s.run.next agent s.sources s.run.now
      = some ({ s.run with queue := queue, stage := .draining }, none) := by
    rw [WatcherRun.next]
    simp [hstage, hsignal, hcons]
  rw [settle_of_move (move_of_next hnext), after_of_queue_cons hcons, settle_of_draining rfl]
  refine Eq.trans (settle_rounds_of_reading hsignal rfl rfl) ?_
  rw [answer, hcons, htaken]
  rfl

-- ── Time that passes by itself ──────────────────────────────────────────────

/-- Whether a timeline can go on to a run of its watcher with nothing but reconciliations, which are
    written down. -/
def LeadsTo (agent : Agent σ) (s : Timeline σ) (run : WatcherRun σ) (done : List Reconciliation) :
    Prop :=
  ∃ t rounds, Reachable agent t ∧ t.run = run ∧ t.sources = s.sources ∧ t.told = s.told ∧
    t.rounds = s.rounds ++ rounds ∧
    rounds.map (fun round => (round.time, round.result)) =
      done.map fun reconciliation => (reconciliation.time, reconciliation.result)

theorem Reachable.leadsTo_of_move (h : Reachable agent s) {done : Option Reconciliation}
    (hnext : s.run.next agent s.sources s.run.now = some (run, done)) :
    LeadsTo agent s run done.toList := by
  have hmove : Reachable agent (s.after run done) := h.step (.move (move_of_next hnext))
  cases done with
  | none => exact ⟨_, [], hmove, rfl, rfl, rfl, (List.append_nil _).symm, rfl⟩
  | some reconciliation => exact ⟨_, [_], hmove, rfl, rfl, rfl, rfl, rfl⟩

/-- While the watcher rests, time passes up to the end of the rest. -/
theorem Reachable.pass_of_resting (h : Reachable agent s) {deadline ms : Nat}
    (hstage : s.run.stage = .resting deadline) (hnow : s.run.now < deadline)
    (hms : s.run.now + ms ≤ deadline) : Reachable agent (s.pass ms) := by
  refine h.step (.pass s ms (move_of_resting h.kept.unsignalled hstage hnow) ?_)
  intro other hother
  rwa [← Stage.resting.inj (hstage.symm.trans hother)]

/-- A step that the watcher makes by a later time is made when it is due. -/
theorem Reachable.leadsTo_of_next (h : Reachable agent s) {limit : Nat}
    {done : Option Reconciliation}
    (hnext : s.run.next agent s.sources limit = some (run, done)) :
    LeadsTo agent s run done.toList := by
  have hkept := h.kept
  cases hstage : s.run.stage with
  | resting deadline =>
      obtain ⟨hnow, -⟩ := hkept.resting deadline hstage
      rw [WatcherRun.next_of_resting hkept.unsignalled hstage] at hnext
      split at hnext
      · obtain ⟨rfl, rfl⟩ := Prod.mk.inj (Option.some.inj hnext)
        rcases Nat.eq_or_lt_of_le hnow with heq | hlt
        · refine h.leadsTo_of_move ?_
          rw [WatcherRun.next_of_resting hkept.unsignalled hstage, if_pos (Nat.le_of_eq heq.symm)]
        · -- the clock is put forward to the end of the rest, where the step is the same
          have hthen : (s.pass (deadline - s.run.now)).run.now = deadline :=
            Nat.add_sub_cancel' hnow
          have hresting : (s.pass (deadline - s.run.now)).run.stage = .resting deadline := hstage
          have hpassed := h.pass_of_resting hstage hlt (Nat.le_of_eq hthen)
          refine hpassed.leadsTo_of_move ?_
          rw [WatcherRun.next_of_resting hpassed.kept.unsignalled hresting,
            if_pos (Nat.le_of_eq hthen.symm), hthen, Nat.max_self, Nat.max_eq_right hnow]
          rfl
      · cases hnext
  | reading _ _ | waiting | draining | stopped =>
      refine h.leadsTo_of_move (hnext ▸ WatcherRun.next_congr ?_ agent s.sources _ _)
      simp [hstage]

/-- If the watcher has no step to make by a later time, time passes until then. -/
theorem Reachable.pass_of_next (h : Reachable agent s) {limit : Nat} (hnow : s.run.now ≤ limit)
    (hnext : s.run.next agent s.sources limit = none) :
    Reachable agent (s.pass (limit - s.run.now)) := by
  have hkept := h.kept
  cases hstage : s.run.stage with
  | resting deadline =>
      rw [WatcherRun.next_of_resting hkept.unsignalled hstage] at hnext
      split at hnext
      · cases hnext
      · exact h.pass_of_resting hstage (by omega) (by omega)
  | reading _ _ | waiting | draining | stopped =>
      have hawake : ∀ deadline, s.run.stage ≠ .resting deadline := by simp [hstage]
      refine h.step (.pass s _ ?_ fun deadline hresting => absurd hresting (hawake deadline))
      rw [move, WatcherRun.next_congr hawake agent s.sources _ limit, hnext]
      rfl

/-- The clock does not run past the limit. -/
theorem now_le_of_next {limit : Nat} {run after : WatcherRun σ} {done : Option Reconciliation}
    {sources : List (List Service)} (hsignal : run.signalled = false) (hnow : run.now ≤ limit)
    (hnext : run.next agent sources limit = some (after, done)) : after.now ≤ limit := by
  cases WatcherRun.moves_of_next hnext with
  | @wake deadline hstage =>
      rw [WatcherRun.next_of_resting hsignal hstage] at hnext
      split at hnext
      · exact Nat.max_le.mpr ⟨hnow, ‹_›⟩
      · cases hnext
  | read _ _ | reconcile _ _ | quit _ _ | take _ _ | finish _ _ _ | drop _ _ | start _ _ =>
      exact hnow

theorem Reachable.leadsTo_of_none (h : Reachable agent s) {limit : Nat} (hnow : s.run.now ≤ limit)
    (hnext : s.run.next agent s.sources limit = none) :
    LeadsTo agent s { s.run with now := limit } [] := by
  refine ⟨_, [], h.pass_of_next hnow hnext, ?_, rfl, rfl, (List.append_nil _).symm, rfl⟩
  rw [Timeline.pass, Nat.add_sub_cancel' hnow]

theorem Reachable.leadsTo_of_advanceWithin (h : Reachable agent s) {limit fuel : Nat}
    (hnow : s.run.now ≤ limit) (hfuel : s.run.work s.sources.length ≤ fuel) :
    LeadsTo agent s { (s.run.advanceWithin agent s.sources limit fuel).1 with now := limit }
      (s.run.advanceWithin agent s.sources limit fuel).2 := by
  induction fuel generalizing s with
  | zero =>
      cases hnext : s.run.next agent s.sources limit with
      | none => exact h.leadsTo_of_none hnow hnext
      | some result => exact absurd (WatcherRun.work_lt_of_next hnext) (by omega)
  | succ fuel ih =>
      rw [WatcherRun.advanceWithin]
      cases hnext : s.run.next agent s.sources limit with
      | none => exact h.leadsTo_of_none hnow hnext
      | some result =>
          obtain ⟨run, done⟩ := result
          have hlt := WatcherRun.work_lt_of_next hnext
          have hthen := now_le_of_next h.kept.unsignalled hnow hnext
          obtain ⟨t, rounds, ht, rfl, hsources, htold, hrounds, hdone⟩ := h.leadsTo_of_next hnext
          have hleft : t.run.work t.sources.length ≤ fuel := by
            rw [hsources]
            omega
          obtain ⟨u, later, hu, hrun, hsources', htold', hrounds', hdone'⟩ := ih ht hthen hleft
          rw [hsources] at hrun hdone'
          refine ⟨u, rounds ++ later, hu, hrun, hsources'.trans hsources, htold'.trans htold, ?_,
            ?_⟩
          · rw [hrounds', hrounds, List.append_assoc]
          · rw [List.map_append, hdone, hdone', ← List.map_append]

/-- To let time pass is to follow a timeline, and what is reported of it are the rounds. -/
theorem Reachable.advance (h : Reachable agent s) (ms : Nat) :
    LeadsTo agent s (s.run.advance agent s.sources ms).1 (s.run.advance agent s.sources ms).2 :=
  h.leadsTo_of_advanceWithin (Nat.le_add_right _ _) (Nat.le_refl _)

-- ── Rounds and pauses ───────────────────────────────────────────────────────

/-- Between two rounds the watcher rests until the pause is over, or it waits or has stopped and the
    pause is over. -/
theorem Kept.between (hkept : Kept s) {last : Round} (hlast : last ∈ s.rounds.getLast?)
    (htaken : s.taken = []) :
    (s.run.stage = .resting (last.time + s.run.pause) ∧ last.reloaded ∧
        s.run.now ≤ last.time + s.run.pause) ∨
      ((last.reloaded → last.time + s.run.pause ≤ s.run.now) ∧
        (s.run.stage = .waiting ∨ s.run.stage = .stopped ∧ s.run.queue = [])) := by
  have hmem : last ∈ s.rounds := List.mem_of_getLast? hlast
  have hanswering := hkept.answering
  have hfree := hkept.free last hmem
  rw [WatcherRun.free] at hfree
  cases hstage : s.run.stage with
  | reading position services =>
      rw [hstage] at hanswering
      exact absurd (hanswering.mp htaken) (List.ne_nil_of_mem hmem)
  | draining =>
      rw [hstage] at hanswering
      exact absurd htaken hanswering.1
  | resting deadline =>
      obtain ⟨hnow, last', hlast', hreloaded, rfl⟩ := hkept.resting deadline hstage
      obtain rfl := Option.mem_unique hlast hlast'
      exact Or.inl ⟨rfl, hreloaded, hnow⟩
  | waiting =>
      rw [hstage] at hfree
      exact Or.inr ⟨hfree, Or.inl rfl⟩
  | stopped =>
      rw [hstage] at hfree
      exact Or.inr ⟨hfree, Or.inr ⟨rfl, (hkept.stopped hstage).2⟩⟩

/-- When the watcher has nothing left to do at this time, everything that it was told is answered,
    or it rests. -/
theorem Kept.settled (hkept : Kept s) (hmove : s.move agent = none) :
    s.taken = [] ∧ (s.run.queue = [] ∨ ∃ last ∈ s.rounds.getLast?, last.reloaded ∧
      s.run.now < last.time + s.run.pause) := by
  have hnext : s.run.next agent s.sources s.run.now = none := Option.map_eq_none_iff.mp hmove
  have hanswering := hkept.answering
  cases hstage : s.run.stage with
  | reading position services =>
      rw [WatcherRun.next] at hnext
      simp only [hstage] at hnext
      split at hnext <;> cases hnext
  | draining =>
      rw [WatcherRun.next] at hnext
      simp only [hstage] at hnext
      split at hnext <;> cases hnext
  | resting deadline =>
      rw [hstage] at hanswering
      obtain ⟨-, last, hlast, hreloaded, rfl⟩ := hkept.resting deadline hstage
      rw [WatcherRun.next_of_resting hkept.unsignalled hstage] at hnext
      split at hnext
      · cases hnext
      · rename_i hbefore
        exact ⟨hanswering.1, Or.inr ⟨last, hlast, hreloaded, Nat.lt_of_not_le hbefore⟩⟩
  | waiting =>
      rw [hstage] at hanswering
      rw [WatcherRun.next] at hnext
      simp only [hstage, hkept.unsignalled, Bool.false_eq_true, if_false] at hnext
      cases hqueue : s.run.queue with
      | nil => exact ⟨hanswering.1, Or.inl rfl⟩
      | cons notification queue =>
          simp only [hqueue] at hnext
          cases hnext
  | stopped =>
      rw [hstage] at hanswering
      exact ⟨hanswering.1, Or.inl (hkept.stopped hstage).2⟩

/-- A watcher that waits, or has stopped with nothing queued, answers what is queued. -/
theorem settle_rounds_of_idle (hsignal : s.run.signalled = false) (htaken : s.taken = [])
    (hstage : s.run.stage = .waiting ∨ s.run.stage = .stopped ∧ s.run.queue = []) :
    (s.settle agent).rounds =
      s.rounds ++ if s.run.queue = [] then [] else [s.answer agent s.run.queue] := by
  rcases hstage with hwaiting | ⟨hstopped, hqueue⟩
  · by_cases hqueue : s.run.queue = []
    · rw [if_pos hqueue, List.append_nil]
      exact settle_rounds_of_waiting_nil hsignal hwaiting hqueue
    · rw [if_neg hqueue]
      exact settle_rounds_of_waiting hsignal hwaiting htaken hqueue
  · have hnext : s.run.next agent s.sources s.run.now = none := by
      rw [WatcherRun.next]
      simp only [hstopped]
    rw [settle_of_none (by rw [move, hnext]; rfl), if_pos hqueue, List.append_nil]

/-- No round is made before the pause after a reload is over. Between two rounds the watcher does
    nothing until then. As soon as it is over, and at any time if the last round was no reload, the
    watcher answers everything that is queued in one round, with the services as they are, and makes
    no round if nothing is queued. Every notification is answered by one round, in order, and every
    round but the first one answers some. -/
theorem paced (h : Reachable agent s) :
    (s.rounds.Pairwise fun a b => a.reloaded → a.time + s.run.pause ≤ b.time) ∧
    (∀ last ∈ s.rounds.getLast?, s.taken = [] →
      (last.reloaded → s.run.now < last.time + s.run.pause → s.settle agent = s) ∧
      ((last.reloaded → last.time + s.run.pause ≤ s.run.now) →
        (s.settle agent).rounds =
          s.rounds ++ if s.run.queue = [] then [] else [s.answer agent s.run.queue])) ∧
    (s.told = s.rounds.flatMap Round.answers ++ (s.taken ++ s.run.queue) ∧
      (∀ round ∈ s.rounds.head?, round.answers = []) ∧
      (∀ round ∈ s.rounds.tail, round.answers ≠ []) ∧
      s.rounds.length ≤ 1 + s.told.length) ∧
    (s.move agent = none → s.taken = [] ∧
      (s.run.queue = [] ∨
        ∃ last ∈ s.rounds.getLast?, last.reloaded ∧ s.run.now < last.time + s.run.pause)) := by
  have hkept := h.kept
  refine ⟨hkept.spaced, fun last hlast htaken => ?_,
    ⟨hkept.told, hkept.first, hkept.later, hkept.toAccounted.length_le⟩, hkept.settled⟩
  rcases hkept.between hlast htaken with ⟨hresting, hreloaded, hnow⟩ | ⟨hover, hstage⟩
  · refine ⟨fun _ hlt => settle_of_none (move_of_resting hkept.unsignalled hresting hlt), ?_⟩
    intro hover
    rw [settle_of_resting hkept.unsignalled hresting (hover hreloaded)]
    exact settle_rounds_of_idle hkept.unsignalled htaken (Or.inl rfl)
  · refine ⟨fun hreloaded hlt => absurd (hover hreloaded) (Nat.not_le.mpr hlt), fun _ => ?_⟩
    exact settle_rounds_of_idle hkept.unsignalled htaken hstage

/-- A service is added right after the first round. It gets to the proxy when the pause is over. -/
theorem paced_for_ten_milliseconds :
    ∃ s : Timeline CountingAgent, Reachable CountingAgent.agent s ∧
      s.rounds.map (fun round => (round.time, round.answers.length, round.result)) =
        [(0, 0, .ok (.reloaded 0)), (10, 1, .ok (.reloaded 1))] ∧
      (s.rounds.Pairwise fun a b => a.reloaded → a.time + s.run.pause ≤ b.time) ∧
      s.rounds.length ≤ 1 + s.told.length := by
  have hstart : Reachable CountingAgent.agent _ := .start { mesh := {} } {} 10 [[]]
  have hadded := hstart.settle.step (.change _ [[WatchState.ratings]])
  have htold := hadded.step (.tell _ [⟨"ratings", .add⟩] (by decide +kernel))
  have hover := htold.pass_of_resting (by decide +kernel : _ = Stage.resting 10)
    (by decide +kernel) (by decide +kernel : _ + 10 ≤ 10)
  obtain ⟨hspaced, -, ⟨-, -, -, hlength⟩, -⟩ := paced hover.settle
  exact ⟨_, hover.settle, by decide +kernel, hspaced, hlength⟩

/-- The pause ends after thirty years, even if the period of grace is longer. -/
theorem paused_for_less :
    ∃ s : Timeline CountingAgent, Reachable CountingAgent.agent s ∧
      s.run.grace = 946080000001 ∧
      s.rounds.map (fun round => (round.time, round.result)) =
        [(0, .ok (.reloaded 0)), (946080000000, .ok (.reloaded 1))] ∧
      ¬s.rounds.Pairwise fun a b => a.reloaded → b.reloaded → a.time + s.run.grace ≤ b.time := by
  have hstart : Reachable CountingAgent.agent _ := .start { mesh := {} } {} 946080000001 [[]]
  have hadded := hstart.settle.step (.change _ [[WatchState.ratings]])
  have htold := hadded.step (.tell _ [⟨"ratings", .add⟩] (by decide +kernel))
  have hover := htold.pass_of_resting (by decide +kernel : _ = Stage.resting 946080000000)
    (by decide +kernel) (by decide +kernel : _ + 946080000000 ≤ 946080000000)
  exact ⟨_, hover.settle, by decide +kernel, by decide +kernel, by decide +kernel⟩

end Timeline

end MeshSidecar
