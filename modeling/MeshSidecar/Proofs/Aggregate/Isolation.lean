import MeshSidecar.Proofs.Aggregate.Tasks

/-!
# Failures stay where they are

The tasks of an aggregate may be polled in any order, and the signal to stop may be raised at any
time. Whatever the order, nothing happens to a task but what its state tells: that it was started,
how it ended, and that its end was noted (`Adapter.story`, `Run.told_of_follows`). An adapter that
panics is therefore reported once at most, and only by the aggregate that holds it; and nobody else
is kept from running, waiting or returning by it (`Aggregate.failures_isolated`).
-/

namespace MeshSidecar

-- ── Histories ───────────────────────────────────────────────────────────────

/-- What happens in a run of an aggregate. -/
inductive RunEvent where
  /-- The signal to stop is raised. -/
  | signal
  /-- Something happens to the task of an adapter, or of the aggregate itself. -/
  | task (who : Option Place) (event : TaskEvent)
deriving DecidableEq

/-- What of it happens to one task. -/
def RunEvent.of? (who : Option Place) : RunEvent → Option TaskEvent
  | .signal => none
  | .task other event => if other = who then some event else none

/-- What is reported with it. -/
def RunEvent.report : RunEvent → Option String
  | .signal => none
  | .task _ event => event.report

/-- All that has happened to one task. -/
def history (who : Option Place) (events : List RunEvent) : List TaskEvent :=
  events.filterMap (RunEvent.of? who)

/-- The platforms under which an adapter was reported. -/
def reports (who : Option Place) (events : List RunEvent) : List String :=
  (history who events).filterMap TaskEvent.report

section

variable (who : Option Place) (events : List RunEvent)

theorem history_append (later : List RunEvent) :
    history who (events ++ later) = history who events ++ history who later :=
  List.filterMap_append

theorem reports_append (later : List RunEvent) :
    reports who (events ++ later) = reports who events ++ reports who later := by
  rw [reports, history_append, List.filterMap_append]
  rfl

theorem history_signal : history who (events ++ [.signal]) = history who events := by
  rw [history_append]
  exact List.append_nil _

theorem history_task (event : TaskEvent) :
    history who (events ++ [.task who event]) = history who events ++ [event] := by
  rw [history_append]
  simp [history, RunEvent.of?]

theorem history_other {who other : Option Place} (h : other ≠ who) (event : TaskEvent) :
    history who (events ++ [.task other event]) = history who events := by
  rw [history_append]
  simp [history, RunEvent.of?, h]

end

namespace Run

/-- The next event of a run: the signal is raised, if it was not yet, or one of the steps is
    taken. -/
inductive Step (run : Run) : RunEvent → Run → Prop where
  | signal (hquiet : run.signalled = false) : Step run .signal run.signal
  | task {who : Option Place} {event : TaskEvent} {after : Run} {report : Option String}
      (hstep : (after, report) ∈ run.steps) (hdoes : run.Does who event after)
      (hreport : event.report = report) : Step run (.task who event) after

/-- The runs that a run can become, in whatever order things happen. -/
inductive Follows (start : Run) : List RunEvent → Run → Prop where
  | start : Follows start [] start
  | step {events : List RunEvent} {run after : Run} {event : RunEvent}
      (h : Follows start events run) (hstep : run.Step event after) :
      Follows start (events ++ [event]) after

/-- When an event happens, the events before it have happened. -/
theorem exists_step_of_follows {start run : Run} {events before later : List RunEvent}
    {event : RunEvent} (h : start.Follows events run)
    (hevents : events = before ++ event :: later) :
    ∃ middle next, start.Follows before middle ∧ middle.Step event next := by
  induction h generalizing later with
  | start => exact absurd hevents.symm (List.append_ne_nil_of_right_ne_nil _ (List.cons_ne_nil _ _))
  | @step events run after last h hstep ih =>
      obtain rfl | ⟨rest, final, rfl⟩ := List.eq_nil_or_concat later
      · obtain ⟨rfl, hlast⟩ := List.append_inj' hevents rfl
        obtain rfl := List.head_eq_of_cons_eq hlast
        exact ⟨run, after, h, hstep⟩
      · rw [List.concat_eq_append, ← List.cons_append, ← List.append_assoc] at hevents
        exact ih (List.append_inj' hevents rfl).1

/-- Every step uses up one unit of the work, and the signal is raised once at most. -/
theorem length_add_work {start run : Run} {events : List RunEvent} (h : start.Follows events run)
    (hquiet : start.signalled = false) :
    events.length + run.work = start.work + run.signalled.toNat := by
  induction h with
  | start => rw [hquiet]; exact Nat.add_comm _ _
  | @step events run after event h hstep ih =>
      rw [List.length_append, List.length_singleton]
      cases hstep with
      | signal hunsignalled =>
          rw [hunsignalled, Bool.toNat_false] at ih
          show _ + run.work = _ + 1
          omega
      | task hmem hdoes hreport =>
          have hwork := work_of_mem_steps hmem
          rw [hdoes.1]
          omega

/-- A run that goes on until nothing more can happen is one of them. -/
theorem follows_settleWithin {start : Run} (fuel : Nat) {run : Run} {events : List RunEvent}
    (h : start.Follows events run) :
    ∃ later, start.Follows (events ++ later) (run.settleWithin fuel).1 ∧
      later.filterMap RunEvent.report = (run.settleWithin fuel).2 := by
  induction fuel generalizing run events with
  | zero => exact ⟨[], by rwa [List.append_nil], rfl⟩
  | succ fuel ih =>
      cases hsteps : run.steps with
      | nil =>
          simp only [settleWithin, hsteps]
          exact ⟨[], by rwa [List.append_nil], rfl⟩
      | cons first others =>
          obtain ⟨next, report⟩ := first
          have hmem : (next, report) ∈ run.steps := hsteps ▸ List.mem_cons_self
          obtain ⟨who, event, hdoes, hreport⟩ := does_of_mem_steps hmem
          obtain ⟨later, hlater, hreports⟩ := ih (h.step (.task hmem hdoes hreport))
          simp only [settleWithin, hsteps]
          refine ⟨.task who event :: later, ?_, ?_⟩
          · rwa [List.append_assoc] at hlater
          · rw [List.filterMap_cons, ← hreports, RunEvent.report, hreport]
            cases report <;> rfl

theorem follows_settle {start run : Run} {events : List RunEvent} (h : start.Follows events run) :
    ∃ later, start.Follows (events ++ later) run.settle.1 ∧
      later.filterMap RunEvent.report = run.settle.2 :=
  follows_settleWithin run.work h

end Run

-- ── What a task tells ───────────────────────────────────────────────────────

namespace Adapter

variable {adapter : Adapter} {signalled waiting : Bool} {task after : TaskState} {event : TaskEvent}

/-- What has happened to a task in a state. -/
def story (adapter : Adapter) (task : TaskState) : List TaskEvent :=
  (match task.phase with
    | .idle => []
    | .running => [.comes .running]
    | .returned => [.comes .running, .comes .returned]
    | .panicked => [.comes .running, .comes .panicked]) ++
  (if task.noted then [.noted (adapter.report task.phase)] else [])

/-- Only a panic is reported. -/
theorem panicked_of_report {adapter : Adapter} {phase : Phase} {platform : String}
    (h : adapter.report phase = some platform) :
    phase = .panicked ∧ adapter.platform = some platform := by
  rw [report] at h
  by_cases hphase : phase = .panicked
  · rw [if_pos hphase] at h
    exact ⟨hphase, h⟩
  · rw [if_neg hphase] at h
    exact nomatch h

/-- A task that is in a state its adapter can bring it to. -/
structure Sound (adapter : Adapter) (signalled : Bool) (task : TaskState) : Prop where
  noted : task.noted = true → task.phase.ended = true
  panicked : task.phase = .panicked → adapter.conduct = some .panics
  returned : task.phase = .returned → adapter.conduct ≠ some .panics ∧
    (adapter.conduct = some .returns ∨ signalled = true)

theorem Sound.noted_eq_false (hsound : adapter.Sound signalled task)
    (hended : task.phase.ended = false) : task.noted = false :=
  Bool.eq_false_iff.mpr fun hnoted => Bool.false_ne_true (hended.symm.trans (hsound.noted hnoted))

/-- A task that was not polled is sound. -/
theorem sound_idle (adapter : Adapter) (signalled : Bool) : adapter.Sound signalled {} :=
  ⟨nofun, nofun, nofun⟩

/-- It stays sound when the signal is raised. -/
theorem Sound.signal (hsound : adapter.Sound signalled task) : adapter.Sound true task :=
  ⟨hsound.noted, hsound.panicked, fun hreturned => ⟨(hsound.returned hreturned).1, Or.inr rfl⟩⟩

/-- It stays sound whatever happens to it. -/
theorem Sound.does (hsound : adapter.Sound signalled task)
    (hdoes : adapter.Does signalled waiting task event after) : adapter.Sound signalled after := by
  cases hdoes with
  | noted hwaiting hended hnoted => exact ⟨fun _ => hended, hsound.panicked, hsound.returned⟩
  | comes hphase =>
      rcases next_cases hphase with ⟨hidle, rfl⟩ | ⟨hrunning, rfl, hpanics⟩ |
        ⟨hrunning, rfl, hnot, hends⟩
      · have hnoted := hsound.noted_eq_false (by rw [hidle]; rfl)
        exact ⟨fun h => (nomatch hnoted.symm.trans h), nofun, nofun⟩
      · exact ⟨fun _ => rfl, fun _ => hpanics, nofun⟩
      · exact ⟨fun _ => rfl, nofun, fun _ => ⟨hnot, hends⟩⟩

/-- What happens to a task is told next. -/
theorem story_of_does (hsound : adapter.Sound signalled task)
    (hdoes : adapter.Does signalled waiting task event after) :
    adapter.story after = adapter.story task ++ [event] := by
  cases hdoes with
  | noted hwaiting hended hnoted =>
      rw [story, story, hnoted]
      simp
  | comes hphase =>
      have hnoted : task.noted = false := by
        refine hsound.noted_eq_false ?_
        rcases next_cases hphase with ⟨h, -⟩ | ⟨h, -⟩ | ⟨h, -⟩ <;> rw [h] <;> rfl
      rcases next_cases hphase with ⟨hbefore, rfl⟩ | ⟨hbefore, rfl, -⟩ | ⟨hbefore, rfl, -⟩ <;>
        simp [story, hbefore, hnoted]

/-- A task is started once, if it is no longer idle. -/
theorem count_story (adapter : Adapter) (task : TaskState) :
    (adapter.story task).count (.comes .running) = if task.phase = .idle then 0 else 1 := by
  obtain ⟨phase, noted⟩ := task
  cases phase <;> cases noted <;> rfl

/-- It is reported when its end is noted. -/
theorem reports_story (adapter : Adapter) (task : TaskState) :
    (adapter.story task).filterMap TaskEvent.report =
      if task.noted then (adapter.report task.phase).toList else [] := by
  obtain ⟨phase, noted⟩ := task
  cases noted with
  | false => cases phase <;> rfl
  | true =>
      cases hreport : adapter.report phase <;> cases phase <;>
        simp [story, hreport, List.filterMap_cons, TaskEvent.report]

end Adapter

-- ── What a run tells ────────────────────────────────────────────────────────

namespace Run

/-- The events of a run tell where it stands. -/
structure Told (aggregate : Aggregate Leaf) (events : List RunEvent) (run : Run) : Prop where
  signal : .signal ∈ events ↔ run.signalled = true
  adapter : ∀ who, (run.get? who).map (·.1) = aggregate.adapter? who
  story : ∀ {who adapter task}, run.get? who = some (adapter, task) →
    history who events = adapter.story task ∧ adapter.Sound run.signalled task

variable {aggregate : Aggregate Leaf} {events : List RunEvent} {run after : Run}

theorem Told.exists_task (htold : Told aggregate events run) {who : Option Place}
    {adapter : Adapter} (hwho : aggregate.adapter? who = some adapter) :
    ∃ task, run.get? who = some (adapter, task) := by
  rw [← htold.adapter, Option.map_eq_some_iff] at hwho
  obtain ⟨⟨_, task⟩, hget, rfl⟩ := hwho
  exact ⟨task, hget⟩

theorem Told.adapter?_eq (htold : Told aggregate events run) {who : Option Place}
    {adapter : Adapter} {task : TaskState}
    (hget : run.get? who = some (adapter, task)) : aggregate.adapter? who = some adapter := by
  rw [← htold.adapter, hget, Option.map_some]

theorem told_start (aggregate : Aggregate Leaf) : Told aggregate [] (ofAggregate aggregate) where
  signal := ⟨nofun, nofun⟩
  adapter who := by
    rw [get?_ofAggregate, Option.map_map]
    exact Option.map_id'
  story hget := by
    rw [get?_ofAggregate, Option.map_eq_some_iff] at hget
    obtain ⟨adapter, -, heq⟩ := hget
    obtain ⟨rfl, rfl⟩ := Prod.mk.inj heq
    exact ⟨rfl, adapter.sound_idle _⟩

theorem told_of_step {event : RunEvent} (htold : Told aggregate events run)
    (hstep : run.Step event after) : Told aggregate (events ++ [event]) after := by
  cases hstep with
  | signal hquiet =>
      refine ⟨by simp [Run.signal], htold.adapter, fun {who adapter task} hget => ?_⟩
      have hsame : run.get? who = some (adapter, task) := hget
      obtain ⟨hstory, hsound⟩ := htold.story hsame
      exact ⟨(history_signal who events).trans hstory, hsound.signal⟩
  | @task mover event _ report hmem hdoes hreport =>
      obtain ⟨hsignalled, adapter, task, task', hget, hdo, hupdate⟩ := hdoes
      obtain ⟨hstory, hsound⟩ := htold.story hget
      refine ⟨?_, fun who => ?_, fun {who other now} hnow => ?_⟩
      · rw [List.mem_append, hsignalled, ← htold.signal]
        simp
      · rw [hupdate, Function.update_apply]
        by_cases hwho : who = mover
        · rw [if_pos hwho, hwho, htold.adapter?_eq hget, Option.map_some]
        · rw [if_neg hwho, htold.adapter]
      · rw [hupdate, Function.update_apply] at hnow
        rw [hsignalled]
        by_cases hwho : who = mover
        · rw [if_pos hwho] at hnow
          obtain ⟨rfl, rfl⟩ := Prod.mk.inj (Option.some.inj hnow)
          rw [hwho, history_task, hstory]
          exact ⟨(Adapter.story_of_does hsound hdo).symm, hsound.does hdo⟩
        · rw [if_neg hwho] at hnow
          rw [history_other events (Ne.symm hwho)]
          exact htold.story hnow

/-- Whatever the order, the events of a run tell where it stands. -/
theorem told_of_follows (h : (ofAggregate aggregate).Follows events run) :
    Told aggregate events run := by
  induction h with
  | start => exact told_start aggregate
  | step h hstep ih => exact told_of_step ih hstep

/-- A run that has no step left has started every task, and has ended every one but those that wait
    for a signal which was not raised. -/
theorem Told.ended_of_rest (htold : Told aggregate events run) (hrest : run.steps = [])
    {who : Option Place} {adapter : Adapter} {task : TaskState}
    (hget : run.get? who = some (adapter, task)) :
    task.phase ≠ .idle ∧ (task.phase = .running ∨ task.phase = .returned ∨
      task.phase = .panicked ∧ adapter.conduct = some .panics) ∧
      (task.phase = .running → run.signalled = false ∧
        (adapter.conduct = none ∨ adapter.conduct = some .waits)) := by
  obtain ⟨hidle, hrunning⟩ := Adapter.ended_of_next_eq_nil (rests hrest hget).1
  refine ⟨hidle, ?_, hrunning⟩
  cases hphase : task.phase with
  | idle => exact absurd hphase hidle
  | running => exact Or.inl rfl
  | returned => exact Or.inr (Or.inl rfl)
  | panicked => exact Or.inr (Or.inr ⟨rfl, (htold.story hget).2.panicked hphase⟩)

/-- If nothing more can happen before the signal, every adapter that panics has panicked and was
    noted, for the aggregate that holds it is still running. -/
theorem Told.noted_of_rest (htold : Told aggregate events run) (hquiet : run.signalled = false)
    (hrest : run.steps = []) {place : Place} {adapter : Adapter} {task : TaskState}
    (hget : run.get? (some place) = some (adapter, task))
    (hpanics : adapter.conduct = some .panics) :
    task = ⟨.panicked, true⟩ := by
  have hphase : task.phase = .panicked := by
    obtain ⟨-, hrunning | hreturned | ⟨hpanicked, -⟩, hwaits⟩ := htold.ended_of_rest hrest hget
    · rcases (hwaits hrunning).2 with h | h <;> exact nomatch hpanics.symm.trans h
    · exact absurd hpanics ((htold.story hget).2.returned hreturned).1
    · exact hpanicked
  obtain ⟨holder, held, hholder, haggregate, hwaits⟩ := holder_spec hget
  have hrunning : held.phase = .running := by
    obtain ⟨-, hrunning | hreturned | ⟨-, h⟩, -⟩ := htold.ended_of_rest hrest hholder
    · exact hrunning
    · rcases ((htold.story hholder).2.returned hreturned).2 with h | h
      · exact nomatch haggregate.symm.trans h
      · exact nomatch hquiet.symm.trans h
    · exact nomatch haggregate.symm.trans h
  have hnoted : task.noted = true :=
    (rests hrest hget).2 (hwaits.mpr hrunning) (by rw [hphase]; rfl)
  cases task
  subst hphase hnoted
  rfl

/-- An adapter that panics has been reported if nothing more can happen before the signal. -/
theorem Told.reports_of_rest (htold : Told aggregate events run) (hquiet : run.signalled = false)
    (hrest : run.steps = []) {who : Option Place} {platform : String}
    (hwho : aggregate.adapter? who = some ⟨some platform, some .panics⟩) :
    reports who events = [platform] := by
  obtain ⟨task, hget⟩ := htold.exists_task hwho
  cases who with
  | none => exact nomatch hwho
  | some place =>
      have hnoted := htold.noted_of_rest hquiet hrest hget rfl
      rw [reports, (htold.story hget).1, Adapter.reports_story, hnoted]
      rfl

/-- Nobody has been reported twice. -/
theorem Told.length_reports_le (htold : Told aggregate events run) {who : Option Place}
    {adapter : Adapter} (hwho : aggregate.adapter? who = some adapter) :
    (reports who events).length ≤ 1 := by
  obtain ⟨task, hget⟩ := htold.exists_task hwho
  rw [reports, (htold.story hget).1, Adapter.reports_story]
  cases task.noted with
  | false => exact Nat.zero_le 1
  | true =>
      cases adapter.report task.phase with
      | none => exact Nat.zero_le 1
      | some platform => exact Nat.le_refl 1

/-- An aggregate that returns has seen the signal. -/
theorem Told.signal_of_returns (htold : Told aggregate events run) {who : Option Place}
    {platform : Option String} (hstep : run.Step (.task who (.comes .returned)) after)
    (hwho : aggregate.adapter? who = some ⟨platform, none⟩) : .signal ∈ events := by
  cases hstep with
  | task hmem hdoes hreport =>
      obtain ⟨-, adapter, task, task', hget, hdo, -⟩ := hdoes
      obtain rfl : adapter = ⟨platform, none⟩ :=
        Option.some.inj ((htold.adapter?_eq hget).symm.trans hwho)
      cases hdo with
      | comes hphase =>
          rcases Adapter.next_cases hphase with ⟨-, h⟩ | ⟨-, h, -⟩ | ⟨-, -, -, h | hsignal⟩
          · exact nomatch h
          · exact nomatch h
          · exact nomatch h
          · exact htold.signal.mpr hsignal

/-- An adapter that is reported has panicked, and the aggregate that holds it is running. -/
theorem Told.panicked_of_reports (htold : Told aggregate events run) {who : Option Place}
    {platform : String} (hstep : run.Step (.task who (.noted (some platform))) after) :
    ∃ place, who = some place ∧ aggregate.adapter? who = some ⟨some platform, some .panics⟩ ∧
      history who events = [.comes .running, .comes .panicked] ∧
      history place.holder events = [.comes .running] := by
  cases hstep with
  | task hmem hdoes hreport =>
      obtain ⟨-, adapter, task, task', hget, hdo, -⟩ := hdoes
      generalize hevent : TaskEvent.noted (some platform) = event at hdo
      cases hdo with
      | comes hphase => exact nomatch hevent
      | noted hwaiting hended hnoted =>
          obtain ⟨hpanicked, hplatform⟩ :=
            Adapter.panicked_of_report (TaskEvent.noted.inj hevent).symm
          obtain ⟨hstory, hsound⟩ := htold.story hget
          cases who with
          | none => exact nomatch hwaiting
          | some place =>
              obtain ⟨holder, held, hholder, -, hwaits⟩ := holder_spec hget
              obtain ⟨htells, hholds⟩ := htold.story hholder
              have hrunning := hwaits.mp hwaiting
              have hunnoted := hholds.noted_eq_false (by rw [hrunning]; rfl)
              refine ⟨place, rfl, ?_, ?_, ?_⟩
              · rw [htold.adapter?_eq hget, ← hplatform, ← hsound.panicked hpanicked]
              · rw [hstory, Adapter.story, hpanicked, hnoted]
                rfl
              · rw [htells, Adapter.story, hrunning, hunnoted]
                rfl

end Run

-- ── Isolation ───────────────────────────────────────────────────────────────

namespace Aggregate

/-- A run of an aggregate, in which each adapter is left to itself. -/
structure Isolated (aggregate : Aggregate Leaf) (events : List RunEvent) (run : Run) : Prop where
  /-- No aggregate returns before the signal was raised. -/
  waits : ∀ {who platform before later}, aggregate.adapter? who = some ⟨platform, none⟩ →
    events = before ++ .task who (.comes .returned) :: later → .signal ∈ before
  /-- Nothing is run twice, and in the end everything was run. -/
  started : ∀ {who adapter}, aggregate.adapter? who = some adapter →
    (history who events).count (.comes .running) ≤ 1 ∧
      (run.steps = [] → (history who events).count (.comes .running) = 1)
  /-- Only an adapter that has panicked is reported, under its platform, while the aggregate that
      holds it is running. -/
  reported : ∀ {who platform before later},
    events = before ++ .task who (.noted (some platform)) :: later →
      ∃ place, who = some place ∧ aggregate.adapter? who = some ⟨some platform, some .panics⟩ ∧
        history who before = [.comes .running, .comes .panicked] ∧
        history place.holder before = [.comes .running]
  /-- It is not reported twice. -/
  reported_le_once : ∀ {who adapter}, aggregate.adapter? who = some adapter →
    (reports who events).length ≤ 1
  /-- It is reported if nothing more could happen before the signal. -/
  reported_of_rest : ∀ {who platform before later quiet},
    aggregate.adapter? who = some ⟨some platform, some .panics⟩ → events = before ++ later →
      (Run.ofAggregate aggregate).Follows before quiet → quiet.signalled = false →
        quiet.steps = [] → reports who events = [platform]
  /-- After the signal every aggregate returns, and every leaf that does not panic. -/
  returned : run.signalled = true → run.steps = [] → ∀ {who adapter},
    aggregate.adapter? who = some adapter → adapter.conduct ≠ some .panics →
      .comes .returned ∈ history who events
  /-- It does not go on forever. -/
  length_le : events.length ≤ (Run.ofAggregate aggregate).work + 1

/-- Failures stay where they are, in whatever order the tasks of an aggregate are polled and
    whenever the signal to stop is raised. -/
theorem failures_isolated {aggregate : Aggregate Leaf} {events : List RunEvent} {run : Run}
    (h : (Run.ofAggregate aggregate).Follows events run) : aggregate.Isolated events run := by
  have htold := Run.told_of_follows h
  constructor
  case waits =>
    intro who platform before later hwho hevents
    obtain ⟨middle, next, hbefore, hstep⟩ := Run.exists_step_of_follows h hevents
    exact (Run.told_of_follows hbefore).signal_of_returns hstep hwho
  case started =>
    intro who adapter hwho
    obtain ⟨task, hget⟩ := htold.exists_task hwho
    rw [(htold.story hget).1, Adapter.count_story]
    refine ⟨by split <;> decide, fun hrest => ?_⟩
    rw [if_neg (htold.ended_of_rest hrest hget).1]
  case reported =>
    intro who platform before later hevents
    obtain ⟨middle, next, hbefore, hstep⟩ := Run.exists_step_of_follows h hevents
    exact (Run.told_of_follows hbefore).panicked_of_reports hstep
  case reported_le_once => exact htold.length_reports_le
  case reported_of_rest =>
    intro who platform before later quiet hwho hevents hbefore hquiet hrest
    have hfirst := (Run.told_of_follows hbefore).reports_of_rest hquiet hrest hwho
    have hevents : reports who events = platform :: reports who later := by
      rw [hevents, reports_append, hfirst, List.singleton_append]
    -- It was reported before, and twice it is not.
    have hlength := htold.length_reports_le hwho
    rw [hevents, List.length_cons] at hlength
    rw [hevents, List.length_eq_zero_iff.mp (Nat.le_zero.mp (Nat.le_of_succ_le_succ hlength))]
  case returned =>
    intro hsignalled hrest who adapter hwho hnot
    obtain ⟨task, hget⟩ := htold.exists_task hwho
    rw [(htold.story hget).1]
    obtain ⟨-, hrunning | hreturned | ⟨-, hpanics⟩, hwaits⟩ := htold.ended_of_rest hrest hget
    · exact nomatch hsignalled.symm.trans (hwaits hrunning).1
    · rw [Adapter.story, hreturned]
      exact List.mem_append_left _ (List.mem_cons_of_mem _ (List.mem_singleton_self _))
    · exact absurd hpanics hnot
  case length_le =>
    have hlength := Run.length_add_work h rfl
    have hsignalled := Bool.toNat_le run.signalled
    omega

/-- A leaf that panics stands one level down, beside an aggregate of nothing, and between a leaf
    that waits and one that does not. -/
def troubled : Aggregate Leaf :=
  .leaf "Memory" { registry := { catalog := ∅ } }
    (.nested "Outer"
      (.leaf "Stub" { registry := { catalog := ∅ }, conduct := .panics }
        (.nested "Empty" .empty .empty))
      (.leaf "File" { registry := { catalog := ∅ }, conduct := .returns } .empty))

/-- Left alone until nothing more happens, then told to stop, it reports that leaf alone. -/
theorem troubled_isolated : ∃ events run, (Run.ofAggregate troubled).Follows events run ∧
    troubled.Isolated events run ∧ run.signalled = true ∧ run.steps = [] ∧
    events.filterMap RunEvent.report = ["Stub"] := by
  have hstart : (Run.ofAggregate troubled).Follows [] (Run.ofAggregate troubled) := .start
  obtain ⟨first, hquiet, hreports⟩ := Run.follows_settle hstart
  have hsignal := hquiet.step (.signal (by decide +kernel))
  obtain ⟨second, hstopped, hsilent⟩ := Run.follows_settle hsignal
  refine ⟨_, _, hstopped, failures_isolated hstopped, by decide +kernel, by decide +kernel, ?_⟩
  rw [List.filterMap_append, List.filterMap_append, List.filterMap_append, hreports, hsilent]
  decide +kernel

end Aggregate

end MeshSidecar
