import MeshSidecar.Watcher.Run

/-!
# The steps of a watcher

A step of a watcher is one of eight moves (`WatcherRun.moves_of_next`), and none of them does
more than it says: what the watcher is told, whether it is told more and whether it is to stop
are left alone, save that a notification is taken or thrown away.

A reconciliation that does not fail leaves the watcher with the configuration of the services
that it was given (`Watcher.current_of_reconcile`), whether it reloaded the proxy or not.
-/

namespace MeshSidecar

variable {σ : Type}

-- ── Reconciliation ──────────────────────────────────────────────────────────

namespace Watcher

/-- If services call for no other configuration, theirs is the current one. -/
theorem generate_of_plan_none {watcher : Watcher} {services : List Service}
    (h : watcher.plan services = .ok none) :
    ∃ config, Config.generate services watcher.mesh = .ok config ∧
      watcher.current = some config := by
  rw [plan] at h
  cases hgenerate : Config.generate services watcher.mesh with
  | error error => rw [hgenerate] at h; exact nomatch h
  | ok config =>
      rw [hgenerate] at h
      have hplan := Except.ok.inj h
      by_cases hcurrent : watcher.current = some config
      · exact ⟨config, rfl, hcurrent⟩
      · rw [if_neg hcurrent] at hplan
        exact nomatch hplan

/-- A configuration that services call for is theirs. -/
theorem generate_of_plan_some {watcher : Watcher} {services : List Service} {config : Config}
    (h : watcher.plan services = .ok (some config)) :
    Config.generate services watcher.mesh = .ok config := by
  rw [plan] at h
  cases hgenerate : Config.generate services watcher.mesh with
  | error error => rw [hgenerate] at h; exact nomatch h
  | ok other =>
      rw [hgenerate] at h
      have hplan := Except.ok.inj h
      by_cases hcurrent : watcher.current = some other
      · rw [if_pos hcurrent] at hplan
        exact nomatch hplan
      · rw [if_neg hcurrent] at hplan
        rw [Option.some.inj hplan]

/-- The settings stay as they are. -/
theorem mesh_of_reconcile (agent : Agent σ) (services : List Service) (watcher : Watcher)
    (state : σ) : (watcher.reconcile agent services state).2.1.mesh = watcher.mesh := by
  rw [reconcile]
  cases watcher.plan services with
  | error error => rfl
  | ok planned =>
      cases planned with
      | none => rfl
      | some config =>
          cases hagent : agent config state with
          | mk answer after =>
              cases answer with
              | error error => simp only [hagent]
              | ok epoch => simp only [hagent]

/-- After a reconciliation that did not fail, the current configuration is that of the
    services. -/
theorem current_of_reconcile {agent : Agent σ} {services : List Service} {watcher : Watcher}
    {state : σ} {done : Reconciled} (h : (watcher.reconcile agent services state).1 = .ok done) :
    ∃ config, Config.generate services watcher.mesh = .ok config ∧
      (watcher.reconcile agent services state).2.1.current = some config := by
  rw [reconcile] at h ⊢
  cases hplan : watcher.plan services with
  | error error => rw [hplan] at h; exact nomatch h
  | ok planned =>
      cases planned with
      | none => exact generate_of_plan_none hplan
      | some config =>
          rw [hplan] at h
          refine ⟨config, generate_of_plan_some hplan, ?_⟩
          cases hagent : agent config state with
          | mk answer after =>
              cases answer with
              | error error => simp only [hagent] at h; exact nomatch h
              | ok epoch => simp only [hagent]

end Watcher

-- ── Steps ───────────────────────────────────────────────────────────────────

namespace WatcherRun

/-- The moves of a watcher over registries that list `sources`, with the reconciliation if the
    move is one. -/
inductive Moves (agent : Agent σ) (sources : List (List Service)) (run : WatcherRun σ) :
    WatcherRun σ → Option Reconciliation → Prop where
  | read {position : Nat} {services : List Service} {those : List Service}
      (hstage : run.stage = .reading position services)
      (hsource : sources[position]? = some those) :
      Moves agent sources run { run with stage := .reading (position + 1) (services ++ those) } none
  | reconcile {position : Nat} {services : List Service}
      (hstage : run.stage = .reading position services) (hend : sources.length ≤ position) :
      Moves agent sources run (run.reconcile agent services).1
        (some (run.reconcile agent services).2)
  | quit (hstage : (∃ deadline, run.stage = .resting deadline) ∨ run.stage = .waiting)
      (hsignal : run.signalled = true) :
      Moves agent sources run { run with stage := .stopped } none
  | wake {deadline : Nat} (hstage : run.stage = .resting deadline) :
      Moves agent sources run { run with now := max run.now deadline, stage := .waiting } none
  | take {notification : Notification} {queue : List Notification}
      (hstage : run.stage = .waiting) (hqueue : run.queue = notification :: queue) :
      Moves agent sources run { run with queue := queue, stage := .draining } none
  | finish (hstage : run.stage = .waiting) (hqueue : run.queue = []) (hclosed : run.closed = true) :
      Moves agent sources run { run with queue := [], stage := .stopped } none
  | drop {notification : Notification} {queue : List Notification}
      (hstage : run.stage = .draining) (hqueue : run.queue = notification :: queue) :
      Moves agent sources run { run with queue := queue, stage := .draining } none
  | start (hstage : run.stage = .draining) (hqueue : run.queue = []) :
      Moves agent sources run { run with queue := [], stage := .reading 0 [] } none

/-- Every step is one of the moves. -/
theorem moves_of_next {agent : Agent σ} {sources : List (List Service)} {limit : Nat}
    {run after : WatcherRun σ} {done : Option Reconciliation}
    (h : run.next agent sources limit = some (after, done)) :
    Moves agent sources run after done := by
  rw [next] at h
  cases hstage : run.stage with
  | reading position services =>
      rw [hstage] at h
      cases hsource : sources[position]? with
      | some those =>
          simp only [hsource] at h
          obtain ⟨rfl, rfl⟩ := Prod.mk.inj (Option.some.inj h)
          exact .read hstage hsource
      | none =>
          simp only [hsource] at h
          obtain ⟨rfl, rfl⟩ := Prod.mk.inj (Option.some.inj h)
          exact .reconcile hstage (List.getElem?_eq_none_iff.mp hsource)
  | resting deadline =>
      simp only [hstage] at h
      by_cases hsignal : run.signalled = true
      · rw [if_pos hsignal] at h
        obtain ⟨rfl, rfl⟩ := Prod.mk.inj (Option.some.inj h)
        exact .quit (Or.inl ⟨deadline, hstage⟩) hsignal
      · rw [if_neg hsignal] at h
        by_cases hlimit : deadline ≤ limit
        · rw [if_pos hlimit] at h
          obtain ⟨rfl, rfl⟩ := Prod.mk.inj (Option.some.inj h)
          exact .wake hstage
        · rw [if_neg hlimit] at h
          exact nomatch h
  | waiting =>
      simp only [hstage] at h
      by_cases hsignal : run.signalled = true
      · rw [if_pos hsignal] at h
        obtain ⟨rfl, rfl⟩ := Prod.mk.inj (Option.some.inj h)
        exact .quit (Or.inr hstage) hsignal
      · rw [if_neg hsignal] at h
        cases hqueue : run.queue with
        | cons notification queue =>
            simp only [hqueue] at h
            obtain ⟨rfl, rfl⟩ := Prod.mk.inj (Option.some.inj h)
            exact .take hstage hqueue
        | nil =>
            simp only [hqueue] at h
            by_cases hclosed : run.closed = true
            · rw [if_pos hclosed] at h
              obtain ⟨rfl, rfl⟩ := Prod.mk.inj (Option.some.inj h)
              exact .finish hstage hqueue hclosed
            · rw [if_neg hclosed] at h
              exact nomatch h
  | draining =>
      simp only [hstage] at h
      cases hqueue : run.queue with
      | cons notification queue =>
          simp only [hqueue] at h
          obtain ⟨rfl, rfl⟩ := Prod.mk.inj (Option.some.inj h)
          exact .drop hstage hqueue
      | nil =>
          simp only [hqueue] at h
          obtain ⟨rfl, rfl⟩ := Prod.mk.inj (Option.some.inj h)
          exact .start hstage hqueue
  | stopped =>
      simp only [hstage] at h
      exact nomatch h

/-- After a reconciliation the watcher rests or waits. -/
theorem stage_of_reconcile (agent : Agent σ) (services : List Service) (run : WatcherRun σ) :
    (∃ deadline, (run.reconcile agent services).1.stage = .resting deadline) ∨
      (run.reconcile agent services).1.stage = .waiting := by
  show (∃ deadline, run.stageAfter (run.watcher.reconcile agent services run.agent).1
      = .resting deadline) ∨ run.stageAfter (run.watcher.reconcile agent services run.agent).1
      = .waiting
  cases (run.watcher.reconcile agent services run.agent).1 with
  | error error => exact Or.inr rfl
  | ok done =>
      cases done with
      | unchanged => exact Or.inr rfl
      | reloaded epoch => exact Or.inl ⟨_, rfl⟩

end WatcherRun

end MeshSidecar
