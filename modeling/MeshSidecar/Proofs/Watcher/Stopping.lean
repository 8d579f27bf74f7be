import MeshSidecar.Proofs.Watcher.Steps

/-!
# Stopping a watcher

A watcher *owes* a reconciliation from the moment it starts, or takes a notification, until it has
reconciled (`Stage.owed`). Every move keeps the account (`WatcherRun.owed_of_moves`). Once the
signal was raised it takes no notification any more, so it never owes another one; it has a next
move as long as it has not stopped, and every move uses up some of its *patience*
(`WatcherRun.patience_lt_of_next`). Left alone it stops after what it owed, whatever is queued and
however long it was to rest (`WatcherRun.advance_of_signalled`).
-/

namespace MeshSidecar

/-- How many reconciliations a watcher has begun, or taken a notification for, and not made. -/
def Stage.owed : Stage → Nat
  | .reading _ _ | .draining => 1
  | .resting _ | .waiting | .stopped => 0

theorem Stage.owed_le_one (stage : Stage) : stage.owed ≤ 1 := by
  cases stage with
  | reading _ _ | draining => exact Nat.le_refl 1
  | resting _ | waiting | stopped => exact Nat.zero_le 1

namespace WatcherRun

variable {σ : Type} {agent : Agent σ} {sources : List (List Service)} {limit : Nat}
  {run after : WatcherRun σ} {done : Option Reconciliation}

/-- Whether a notification is taken between two stages. -/
def takes (run after : WatcherRun σ) : Bool := run.stage = .waiting && after.stage = .draining

theorem takes_eq_false (h : run.stage ≠ .waiting) : run.takes after = false := by
  rw [takes, decide_eq_false h, Bool.false_and]

/-- After a reconciliation nothing is owed. -/
theorem owed_of_reconcile (agent : Agent σ) (services : List Service) (run : WatcherRun σ) :
    (run.reconcile agent services).1.stage.owed = 0 := by
  rcases run.stage_of_reconcile agent services with ⟨deadline, hafter⟩ | hafter <;> rw [hafter] <;>
    rfl

/-- To take a notification is to owe a reconciliation, and to make it is to owe it no longer. -/
theorem owed_of_moves (h : run.Moves agent sources after done) :
    done.toList.length + after.stage.owed = run.stage.owed + (run.takes after).toNat := by
  cases h with
  | read hstage _ =>
      rw [takes_eq_false (by rw [hstage]; nofun), hstage]
      rfl
  | reconcile hstage _ =>
      rw [takes_eq_false (by rw [hstage]; nofun), owed_of_reconcile, hstage]
      rfl
  | quit hstage _ =>
      rcases hstage with ⟨deadline, hstage⟩ | hstage <;> rw [takes, hstage] <;> rfl
  | wake hstage => rw [takes, hstage]; rfl
  | take hstage _ => rw [takes, hstage]; rfl
  | finish hstage _ _ => rw [takes, hstage]; rfl
  | drop hstage _ => rw [takes, hstage]; rfl
  | start hstage _ => rw [takes, hstage]; rfl

/-- The watcher neither raises the signal nor forgets it. -/
theorem signalled_of_moves (h : run.Moves agent sources after done) :
    after.signalled = run.signalled := by
  cases h <;> rfl

/-- The watcher leaves the agent as it is, or asks it to reload once. -/
theorem agent_of_moves (h : run.Moves agent sources after done) :
    after.agent = run.agent ∨ ∃ config, after.agent = (agent config run.agent).2 := by
  cases h with
  | @reconcile position services _ _ =>
      show (run.watcher.reconcile agent services run.agent).2.2 = run.agent ∨
        ∃ config, (run.watcher.reconcile agent services run.agent).2.2 = (agent config run.agent).2
      rw [Watcher.reconcile]
      cases run.watcher.plan services with
      | error error => exact Or.inl rfl
      | ok planned =>
          cases planned with
          | none => exact Or.inl rfl
          | some config =>
              refine Or.inr ⟨config, ?_⟩
              cases hagent : agent config run.agent with
              | mk answer state => cases answer <;> simp only [hagent]
  | read _ _ | quit _ _ | wake _ | take _ _ | finish _ _ _ | drop _ _ | start _ _ =>
      exact Or.inl rfl

-- ── After the signal ────────────────────────────────────────────────────────

/-- A watcher that rests or waits stops as soon as it sees the signal. It does not rest any longer,
    and leaves what is queued where it is. -/
theorem next_of_signalled (hsignal : run.signalled = true)
    (hstage : (∃ deadline, run.stage = .resting deadline) ∨ run.stage = .waiting)
    (agent : Agent σ) (sources : List (List Service)) (limit : Nat) :
    run.next agent sources limit = some ({ run with stage := .stopped }, none) := by
  rw [next]
  rcases hstage with ⟨deadline, hstage⟩ | hstage <;> simp only [hstage, if_pos hsignal]

/-- A watcher that has stopped stays so. -/
theorem next_of_stopped (hstage : run.stage = .stopped) (agent : Agent σ)
    (sources : List (List Service)) (limit : Nat) : run.next agent sources limit = none := by
  rw [next]
  simp only [hstage]

/-- Once the signal was raised the watcher does not have to wait for anything. -/
theorem isSome_next_of_signalled (hsignal : run.signalled = true) (hstage : run.stage ≠ .stopped)
    (agent : Agent σ) (sources : List (List Service)) (limit : Nat) :
    (run.next agent sources limit).isSome = true := by
  cases hat : run.stage with
  | reading position services =>
      rw [next]
      simp only [hat]
      cases sources[position]? <;> rfl
  | resting deadline =>
      rw [next_of_signalled hsignal (Or.inl ⟨deadline, hat⟩)]
      rfl
  | waiting =>
      rw [next_of_signalled hsignal (Or.inr hat)]
      rfl
  | draining =>
      rw [next]
      simp only [hat]
      cases run.queue <;> rfl
  | stopped => exact absurd hat hstage

/-- Once the signal was raised the watcher takes no notification. -/
theorem takes_of_signalled (hsignal : run.signalled = true)
    (h : run.next agent sources limit = some (after, done)) : run.takes after = false := by
  by_cases hstage : run.stage = .waiting
  · rw [next_of_signalled hsignal (Or.inr hstage)] at h
    obtain ⟨rfl, -⟩ := Prod.mk.inj (Option.some.inj h)
    rw [takes, hstage]
    rfl
  · exact takes_eq_false hstage

/-- A bound on the moves that a watcher over a number of registries makes after the signal, if
    nothing more is queued. -/
def patience (sources : Nat) (run : WatcherRun σ) : Nat :=
  match run.stage with
  | .reading position _ => 2 + (sources - position)
  | .resting _ | .waiting => 1
  | .draining => run.queue.length + sources + 3
  | .stopped => 0

/-- Every move after the signal uses up some of the patience. -/
theorem patience_lt_of_next (hsignal : run.signalled = true)
    (h : run.next agent sources limit = some (after, done)) :
    after.patience sources.length < run.patience sources.length := by
  have hidle : ∀ {stage : Stage}, (∃ deadline, stage = .resting deadline) ∨ stage = .waiting →
      run.stage = stage → after.patience sources.length < run.patience sources.length := by
    intro stage hstage hat
    rw [next_of_signalled hsignal (hat ▸ hstage)] at h
    obtain ⟨rfl, -⟩ := Prod.mk.inj (Option.some.inj h)
    rcases hstage with ⟨deadline, rfl⟩ | rfl <;> rw [patience, patience, hat] <;> exact Nat.one_pos
  cases moves_of_next h with
  | @read position services those hstage hsource =>
      have hlt : position < sources.length := (List.getElem?_eq_some_iff.mp hsource).1
      rw [patience, patience, hstage]
      show 2 + (sources.length - (position + 1)) < 2 + (sources.length - position)
      omega
  | @reconcile position services hstage hend =>
      rw [patience, patience, hstage]
      rcases run.stage_of_reconcile agent services with ⟨deadline, hafter⟩ | hafter <;>
        rw [hafter] <;> exact Nat.lt_of_lt_of_le Nat.one_lt_two (Nat.le_add_right 2 _)
  | quit hstage _ => exact hidle hstage rfl
  | @wake deadline hstage => exact hidle (Or.inl ⟨deadline, rfl⟩) hstage
  | take hstage _ => exact hidle (Or.inr rfl) hstage
  | finish hstage _ _ => exact hidle (Or.inr rfl) hstage
  | @drop notification queue hstage hqueue =>
      rw [patience, patience, hstage, hqueue]
      show queue.length + sources.length + 3 < queue.length + 1 + sources.length + 3
      omega
  | start hstage hqueue =>
      rw [patience, patience, hstage, hqueue]
      show 2 + (sources.length - 0) < 0 + sources.length + 3
      omega

/-- With every notification that is queued it may have one more to throw away. -/
theorem patience_notify_le (sources : Nat) (run : WatcherRun σ)
    (notifications : List Notification) :
    (run.notify notifications).patience sources ≤ run.patience sources + notifications.length := by
  rw [notify]
  by_cases hclosed : run.closed = true
  · rw [if_pos hclosed]
    exact Nat.le_add_right _ _
  · rw [if_neg hclosed, patience, patience]
    cases run.stage with
    | draining =>
        show (run.queue ++ notifications).length + sources + 3
          ≤ run.queue.length + sources + 3 + notifications.length
        rw [List.length_append]
        omega
    | reading _ _ | resting _ | waiting | stopped => exact Nat.le_add_right _ _

/-- The patience is part of the work. -/
theorem patience_le_work (sources : Nat) (run : WatcherRun σ) :
    run.patience sources ≤ run.work sources := by
  rw [patience, work]
  have hqueue : run.queue.length ≤ run.queue.length * (sources + 4) :=
    Nat.le_mul_of_pos_right _ (Nat.succ_pos _)
  cases run.stage with
  | reading position services => exact Nat.le_add_left_of_le (Nat.add_le_add_right (by decide) _)
  | resting deadline => exact Nat.le_add_left_of_le (Nat.le_succ 1)
  | waiting => exact Nat.le_add_left _ _
  | draining =>
      show run.queue.length + sources + 3 ≤ run.queue.length * (sources + 4) + (sources + 4)
      omega
  | stopped => exact Nat.zero_le _

theorem advanceWithin_of_signalled (agent : Agent σ) (sources : List (List Service)) (limit : Nat)
    {fuel : Nat} (hsignal : run.signalled = true) (hfuel : run.patience sources.length ≤ fuel) :
    (run.advanceWithin agent sources limit fuel).1.stage = .stopped ∧
      (run.advanceWithin agent sources limit fuel).2.length = run.stage.owed := by
  induction fuel generalizing run with
  | zero =>
      cases hstage : run.stage with
      | stopped => exact ⟨hstage, rfl⟩
      | reading _ _ | resting _ | waiting | draining =>
          rw [patience, hstage] at hfuel
          exact absurd hfuel (by simp)
  | succ fuel ih =>
      rw [advanceWithin]
      cases hnext : run.next agent sources limit with
      | none =>
          by_cases hstage : run.stage = .stopped
          · simp only [hstage]
            exact ⟨trivial, rfl⟩
          · have hsome := isSome_next_of_signalled hsignal hstage agent sources limit
            rw [hnext] at hsome
            exact nomatch hsome
      | some result =>
          obtain ⟨after, done⟩ := result
          have hmoves := moves_of_next hnext
          have hlt := patience_lt_of_next hsignal hnext
          obtain ⟨hstopped, hlength⟩ :=
            ih ((signalled_of_moves hmoves).trans hsignal) (by omega)
          have howed := owed_of_moves hmoves
          rw [takes_of_signalled hsignal hnext] at howed
          refine ⟨hstopped, ?_⟩
          rw [List.length_append, hlength]
          exact howed

/-- A watcher that was told to stop and is left alone makes the reconciliation that it owes, and
    stops. -/
theorem advance_of_signalled (agent : Agent σ) (sources : List (List Service)) (ms : Nat)
    (hsignal : run.signalled = true) :
    (run.advance agent sources ms).1.stage = .stopped ∧
      (run.advance agent sources ms).2.length = run.stage.owed :=
  advanceWithin_of_signalled agent sources _ hsignal (patience_le_work _ run)

end WatcherRun

end MeshSidecar
