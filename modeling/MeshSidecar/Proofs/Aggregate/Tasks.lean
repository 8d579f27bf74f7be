import MeshSidecar.Aggregate.Run
import Mathlib.Logic.Function.Basic

/-!
# The tasks of a running aggregate

Every adapter of an aggregate, at whatever depth, stands at a *place* and has a task that runs it.
A step of the run is what one of these tasks does, or what is done about it: the task comes to
another phase, or the aggregate that holds the adapter takes note of its end, which it can only do
while it is running itself. All other tasks stay as they are (`Run.does_of_mem_steps`).

When no step is left, no task has anything left to do (`Run.rests`).
-/

namespace MeshSidecar

-- ── Places ──────────────────────────────────────────────────────────────────

/-- Where an adapter stands in an aggregate. -/
inductive Place where
  /-- It is the first adapter. -/
  | here
  /-- It stands in the aggregate that is the first adapter. -/
  | inside (place : Place)
  /-- It stands among the adapters after the first one. -/
  | after (place : Place)
deriving DecidableEq

/-- Where the aggregate stands that directly holds an adapter, unless it is the outermost one. -/
def Place.holder : Place → Option Place
  | .here => none
  | .inside place => some (place.holder.elim .here .inside)
  | .after place => place.holder.map .after

/-- A part of an aggregate, or the outermost aggregate itself. -/
structure Adapter where
  /-- What it was added with. The outermost aggregate was added to nothing. -/
  platform : Option String
  /-- What it does when it is run, if it is a leaf. -/
  conduct : Option Conduct
deriving DecidableEq

/-- The adapter at a place. -/
def Aggregate.adapterAt? : Aggregate Leaf → Place → Option Adapter
  | .empty, _ => none
  | .leaf platform member _, .here => some ⟨some platform, some member.conduct⟩
  | .leaf _ _ _, .inside _ => none
  | .leaf _ _ rest, .after place => rest.adapterAt? place
  | .nested platform _ _, .here => some ⟨some platform, none⟩
  | .nested _ inner _, .inside place => inner.adapterAt? place
  | .nested _ _ rest, .after place => rest.adapterAt? place

/-- The adapter at a place, or the aggregate itself. -/
def Aggregate.adapter? (aggregate : Aggregate Leaf) : Option Place → Option Adapter
  | none => some ⟨none, none⟩
  | some place => aggregate.adapterAt? place

/-- The adapter at a place, with its task. -/
def Tasks.get? : Tasks → Place → Option (Adapter × TaskState)
  | .empty, _ => none
  | .leaf platform conduct task _, .here => some (⟨some platform, some conduct⟩, task)
  | .leaf _ _ _ _, .inside _ => none
  | .leaf _ _ _ rest, .after place => rest.get? place
  | .nested platform _ task _, .here => some (⟨some platform, none⟩, task)
  | .nested _ inner _ _, .inside place => inner.get? place
  | .nested _ _ _ rest, .after place => rest.get? place

/-- The adapter at a place, or the aggregate that is run, with its task. Nobody takes note of the
    end of the outermost one. -/
def Run.get? (run : Run) : Option Place → Option (Adapter × TaskState)
  | none => some (⟨none, none⟩, ⟨run.phase, false⟩)
  | some place => run.tasks.get? place

/-- To change what is found at a place of a part is to change what is found there in the whole. -/
theorem update_of_part {ι κ β : Type} [DecidableEq ι] [DecidableEq κ] {embed : ι → κ}
    {part part' : ι → β} {whole whole' : κ → β} (hpart : ∀ a, whole (embed a) = part a)
    (hpart' : ∀ a, whole' (embed a) = part' a)
    (hrest : ∀ k, whole' k = whole k ∨ ∃ a, k = embed a) {place : ι} {value : β}
    (h : part' = Function.update part place value) :
    whole' = Function.update whole (embed place) value := by
  funext k
  by_cases hplace : k = embed place
  · rw [hplace, Function.update_self, hpart', h, Function.update_self]
  · rw [Function.update_of_ne hplace]
    rcases hrest k with hsame | ⟨a, rfl⟩
    · exact hsame
    · have hne : a ≠ place := fun heq => hplace (congrArg embed heq)
      rw [hpart', hpart, h, Function.update_of_ne hne]

-- ── What a task does ────────────────────────────────────────────────────────

/-- What happens to a task. -/
inductive TaskEvent where
  /-- It comes to a phase. -/
  | comes (phase : Phase)
  /-- Its end is noted, with the platform that is reported if one is. -/
  | noted (report : Option String)
deriving DecidableEq

/-- What is reported with it. -/
def TaskEvent.report : TaskEvent → Option String
  | .comes _ => none
  | .noted report => report

namespace Adapter

/-- What the run of an adapter may come to next. -/
def next (adapter : Adapter) (signalled : Bool) (phase : Phase) : List Phase :=
  match adapter.conduct with
  | some conduct => conduct.next signalled phase
  | none => phase.nextOfAggregate signalled

/-- What is reported of an adapter that came to an end. -/
def report (adapter : Adapter) (phase : Phase) : Option String :=
  if phase = .panicked then adapter.platform else none

/-- What may happen to the task of an adapter, if the aggregate that holds it is `waiting` or not,
    and how it leaves the task. -/
inductive Does (signalled waiting : Bool) (adapter : Adapter) (task : TaskState) :
    TaskEvent → TaskState → Prop where
  | comes {phase : Phase} (h : phase ∈ adapter.next signalled task.phase) :
      Does signalled waiting adapter task (.comes phase) { task with phase := phase }
  | noted (hwaiting : waiting = true) (hended : task.phase.ended = true)
      (hnoted : task.noted = false) :
      Does signalled waiting adapter task (.noted (adapter.report task.phase))
        { task with noted := true }

/-- A run starts first, and then it ends in the way of its adapter. -/
theorem next_cases {adapter : Adapter} {signalled : Bool} {before phase : Phase}
    (h : phase ∈ adapter.next signalled before) :
    (before = .idle ∧ phase = .running) ∨
      (before = .running ∧ phase = .panicked ∧ adapter.conduct = some .panics) ∨
      (before = .running ∧ phase = .returned ∧ adapter.conduct ≠ some .panics ∧
        (adapter.conduct = some .returns ∨ signalled = true)) := by
  obtain ⟨platform, conduct⟩ := adapter
  rcases conduct with _ | conduct
  · cases before <;> cases signalled <;> simp_all [next, Phase.nextOfAggregate]
  · cases before <;> cases conduct <;> cases signalled <;> simp_all [next, Conduct.next]

/-- If a run can come to nothing more, it was started, and it has ended unless it waits for the
    signal. -/
theorem ended_of_next_eq_nil {adapter : Adapter} {signalled : Bool} {phase : Phase}
    (h : adapter.next signalled phase = []) :
    phase ≠ .idle ∧ (phase = .running →
      signalled = false ∧ (adapter.conduct = none ∨ adapter.conduct = some .waits)) := by
  obtain ⟨platform, conduct⟩ := adapter
  rcases conduct with _ | conduct
  · cases phase <;> cases signalled <;> simp_all [next, Phase.nextOfAggregate]
  · cases phase <;> cases conduct <;> cases signalled <;> simp_all [next, Conduct.next]

end Adapter

/-- To note the end of a task is one of the things that may happen to it. -/
theorem TaskState.does_of_mem_notes {signalled waiting : Bool} {task after : TaskState}
    {platform : String} {report : Option String} (conduct : Option Conduct)
    (h : (after, report) ∈ task.notes waiting platform) :
    ∃ event, Adapter.Does signalled waiting ⟨some platform, conduct⟩ task event after ∧
      event.report = report := by
  rw [notes] at h
  by_cases hnotes : (waiting && task.phase.ended && !task.noted) = true
  · rw [if_pos hnotes] at h
    obtain ⟨rfl, rfl⟩ := Prod.mk.inj (List.mem_singleton.mp h)
    simp only [Bool.and_eq_true, Bool.not_eq_true'] at hnotes
    exact ⟨_, .noted hnotes.1.1 hnotes.1.2 hnotes.2, rfl⟩
  · rw [if_neg hnotes] at h
    exact nomatch h

/-- If there is no end to note where someone waits for it, it has been noted. -/
theorem TaskState.noted_of_notes_eq_nil {task : TaskState} {waiting : Bool} {platform : String}
    (h : task.notes waiting platform = []) (hwaiting : waiting = true)
    (hended : task.phase.ended = true) : task.noted = true := by
  cases hnoted : task.noted with
  | true => rfl
  | false => simp [notes, hwaiting, hended, hnoted] at h

-- ── Steps of the tasks ──────────────────────────────────────────────────────

namespace Tasks

/-- Whether the aggregate that holds an adapter is waiting, if the one that holds the tasks is
    `waiting`. -/
def waits (tasks : Tasks) (waiting : Bool) : Option Place → Bool
  | none => waiting
  | some holder => (tasks.get? holder).any fun (_, task) => task.phase = .running

section

variable (waiting : Bool) (platform : String) (conduct : Conduct) (task : TaskState)
  (inner rest : Tasks) (place : Place)

theorem waits_afterLeaf :
    waits (.leaf platform conduct task rest) waiting (Place.after place).holder =
      rest.waits waiting place.holder := by
  rw [Place.holder]
  cases place.holder <;> rfl

theorem waits_afterNested :
    waits (.nested platform inner task rest) waiting (Place.after place).holder =
      rest.waits waiting place.holder := by
  rw [Place.holder]
  cases place.holder <;> rfl

theorem waits_inside :
    waits (.nested platform inner task rest) waiting (Place.inside place).holder =
      inner.waits (task.phase = .running) place.holder := by
  rw [Place.holder]
  cases place.holder <;> rfl

end

/-- Something happens to the task at a place, and to no other task. -/
def Does (signalled waiting : Bool) (tasks : Tasks) (place : Place) (event : TaskEvent)
    (after : Tasks) : Prop :=
  ∃ adapter task task', tasks.get? place = some (adapter, task) ∧
    adapter.Does signalled (tasks.waits waiting place.holder) task event task' ∧
    after.get? = Function.update tasks.get? place (some (adapter, task'))

section

variable {signalled waiting : Bool} {platform : String} {conduct : Conduct} {task task' : TaskState}
  {inner inner' rest rest' : Tasks} {place : Place} {event : TaskEvent}

theorem does_leaf
    (h : Adapter.Does signalled waiting ⟨some platform, some conduct⟩ task event task') :
    Does signalled waiting (.leaf platform conduct task rest) .here event
      (.leaf platform conduct task' rest) := by
  refine ⟨_, _, _, rfl, h, funext fun other => ?_⟩
  cases other <;> rfl

theorem does_nested (h : Adapter.Does signalled waiting ⟨some platform, none⟩ task event task') :
    Does signalled waiting (.nested platform inner task rest) .here event
      (.nested platform inner task' rest) := by
  refine ⟨_, _, _, rfl, h, funext fun other => ?_⟩
  cases other <;> rfl

theorem does_afterLeaf (h : Does signalled waiting rest place event rest') :
    Does signalled waiting (.leaf platform conduct task rest) (.after place) event
      (.leaf platform conduct task rest') := by
  obtain ⟨adapter, before, now, hget, hdoes, hupdate⟩ := h
  refine ⟨adapter, before, now, hget, by rwa [waits_afterLeaf],
    update_of_part (fun _ => rfl) (fun _ => rfl) (fun other => ?_) hupdate⟩
  cases other with
  | here | inside _ => exact Or.inl rfl
  | after other => exact Or.inr ⟨other, rfl⟩

theorem does_afterNested (h : Does signalled waiting rest place event rest') :
    Does signalled waiting (.nested platform inner task rest) (.after place) event
      (.nested platform inner task rest') := by
  obtain ⟨adapter, before, now, hget, hdoes, hupdate⟩ := h
  refine ⟨adapter, before, now, hget, by rwa [waits_afterNested],
    update_of_part (fun _ => rfl) (fun _ => rfl) (fun other => ?_) hupdate⟩
  cases other with
  | here | inside _ => exact Or.inl rfl
  | after other => exact Or.inr ⟨other, rfl⟩

theorem does_inside (h : Does signalled (task.phase = .running) inner place event inner') :
    Does signalled waiting (.nested platform inner task rest) (.inside place) event
      (.nested platform inner' task rest) := by
  obtain ⟨adapter, before, now, hget, hdoes, hupdate⟩ := h
  refine ⟨adapter, before, now, hget, by rwa [waits_inside],
    update_of_part (fun _ => rfl) (fun _ => rfl) (fun other => ?_) hupdate⟩
  cases other with
  | here | after _ => exact Or.inl rfl
  | inside other => exact Or.inr ⟨other, rfl⟩

end

/-- Every step of the tasks is something that happens to one of them. -/
theorem does_of_mem_steps {signalled waiting : Bool} {tasks after : Tasks} {report : Option String}
    (h : (after, report) ∈ tasks.steps signalled waiting) :
    ∃ place event, tasks.Does signalled waiting place event after ∧ event.report = report := by
  induction tasks generalizing after waiting with
  | empty => exact nomatch h
  | leaf platform conduct task rest ih =>
      simp only [steps, List.mem_append, List.mem_map, Prod.mk.injEq, Prod.exists] at h
      rcases h with (⟨phase, hphase, rfl, rfl⟩ | ⟨task', _, hnotes, rfl, rfl⟩) |
        ⟨rest', _, hrest, rfl, rfl⟩
      · exact ⟨.here, .comes phase, does_leaf (.comes hphase), rfl⟩
      · obtain ⟨event, hdoes, hreport⟩ := TaskState.does_of_mem_notes (some conduct) hnotes
        exact ⟨.here, event, does_leaf hdoes, hreport⟩
      · obtain ⟨place, event, hdoes, hreport⟩ := ih hrest
        exact ⟨.after place, event, does_afterLeaf hdoes, hreport⟩
  | nested platform inner task rest ihinner ihrest =>
      simp only [steps, List.mem_append, List.mem_map, Prod.mk.injEq, Prod.exists] at h
      rcases h with ((⟨phase, hphase, rfl, rfl⟩ | ⟨task', _, hnotes, rfl, rfl⟩) | hinner) |
        ⟨rest', _, hrest, rfl, rfl⟩
      · exact ⟨.here, .comes phase, does_nested (.comes hphase), rfl⟩
      · obtain ⟨event, hdoes, hreport⟩ := TaskState.does_of_mem_notes none hnotes
        exact ⟨.here, event, does_nested hdoes, hreport⟩
      · by_cases hidle : task.phase = .idle
        · rw [if_pos hidle] at hinner
          exact absurd hinner List.not_mem_nil
        · rw [if_neg hidle] at hinner
          obtain ⟨⟨inner', report'⟩, hstep, heq⟩ := List.mem_map.mp hinner
          obtain ⟨rfl, rfl⟩ := Prod.mk.inj heq
          obtain ⟨place, event, hdoes, hreport⟩ := ihinner hstep
          exact ⟨.inside place, event, does_inside hdoes, hreport⟩
      · obtain ⟨place, event, hdoes, hreport⟩ := ihrest hrest
        exact ⟨.after place, event, does_afterNested hdoes, hreport⟩

/-- The adapter that holds another one is an aggregate. -/
theorem conduct_of_holder {tasks : Tasks} {place holder : Place} {found : Adapter × TaskState}
    (hget : tasks.get? place = some found) (hholder : place.holder = some holder) :
    ∃ platform task, tasks.get? holder = some (⟨some platform, none⟩, task) := by
  induction tasks generalizing place holder with
  | empty => exact nomatch hget
  | leaf platform conduct task rest ih =>
      cases place with
      | here => exact nomatch hholder
      | inside place => exact nomatch hget
      | after place =>
          obtain ⟨above, habove, rfl⟩ := Option.map_eq_some_iff.mp hholder
          exact ih hget habove
  | nested platform inner task rest ihinner ihrest =>
      cases place with
      | here => exact nomatch hholder
      | inside place =>
          obtain rfl := Option.some.inj hholder
          cases habove : place.holder with
          | none => exact ⟨platform, task, rfl⟩
          | some above => exact ihinner hget habove
      | after place =>
          obtain ⟨above, habove, rfl⟩ := Option.map_eq_some_iff.mp hholder
          exact ihrest hget habove

/-- When the tasks have no step left, none of them can come to anything more, and those that have
    ended under an aggregate that waits are noted. -/
theorem rests {signalled waiting : Bool} {tasks : Tasks}
    (h : tasks.steps signalled waiting = []) {place : Place} {adapter : Adapter} {task : TaskState}
    (hget : tasks.get? place = some (adapter, task)) :
    adapter.next signalled task.phase = [] ∧
      (tasks.waits waiting place.holder = true → task.phase.ended = true → task.noted = true) := by
  induction tasks generalizing waiting place with
  | empty => exact nomatch hget
  | leaf platform conduct first rest ih =>
      simp only [steps, List.append_eq_nil_iff, List.map_eq_nil_iff] at h
      obtain ⟨⟨hnext, hnotes⟩, hrest⟩ := h
      cases place with
      | here =>
          obtain ⟨rfl, rfl⟩ := Prod.mk.inj (Option.some.inj hget)
          exact ⟨hnext, TaskState.noted_of_notes_eq_nil hnotes⟩
      | inside place => exact absurd hget.symm (Option.some_ne_none _)
      | after place =>
          rw [waits_afterLeaf]
          exact ih hrest hget
  | nested platform inner first rest ihinner ihrest =>
      simp only [steps, List.append_eq_nil_iff, List.map_eq_nil_iff] at h
      obtain ⟨⟨⟨hnext, hnotes⟩, hinner⟩, hrest⟩ := h
      cases place with
      | here =>
          obtain ⟨rfl, rfl⟩ := Prod.mk.inj (Option.some.inj hget)
          exact ⟨hnext, TaskState.noted_of_notes_eq_nil hnotes⟩
      | inside place =>
          -- An aggregate that was not started would have a step of its own left, so the steps of
          -- what it holds are not hidden.
          have hstarted : first.phase ≠ .idle :=
            (@Adapter.ended_of_next_eq_nil ⟨none, none⟩ _ _ hnext).1
          rw [if_neg hstarted, List.map_eq_nil_iff] at hinner
          rw [waits_inside]
          exact ihinner hinner hget
      | after place =>
          rw [waits_afterNested]
          exact ihrest hrest hget

/-- Before any of them is polled, the tasks are those of the adapters and have done nothing. -/
theorem get?_ofAggregate (aggregate : Aggregate Leaf) (place : Place) :
    (ofAggregate aggregate).get? place =
      (aggregate.adapterAt? place).map fun adapter => (adapter, {}) := by
  induction aggregate generalizing place with
  | empty => rfl
  | leaf platform member rest ih =>
      cases place with
      | here => rfl
      | inside place => rfl
      | after place => exact ih place
  | nested platform inner rest ihinner ihrest =>
      cases place with
      | here => rfl
      | inside place => exact ihinner place
      | after place => exact ihrest place

end Tasks

-- ── Steps of a run ──────────────────────────────────────────────────────────

namespace Run

/-- Whether the aggregate that holds an adapter is waiting. Nobody waits for the outermost one. -/
def waits (run : Run) : Option Place → Bool
  | none => false
  | some place => run.tasks.waits (run.phase = .running) place.holder

/-- Something happens to the task of an adapter or of the aggregate itself, and to no other task. -/
def Does (run : Run) (who : Option Place) (event : TaskEvent) (after : Run) : Prop :=
  after.signalled = run.signalled ∧
    ∃ adapter task task', run.get? who = some (adapter, task) ∧
      adapter.Does run.signalled (run.waits who) task event task' ∧
      after.get? = Function.update run.get? who (some (adapter, task'))

/-- Every step of a run is something that happens to one of its tasks. -/
theorem does_of_mem_steps {run after : Run} {report : Option String}
    (h : (after, report) ∈ run.steps) :
    ∃ who event, run.Does who event after ∧ event.report = report := by
  rw [steps] at h
  rcases List.mem_append.mp h with htasks | hself
  · by_cases hidle : run.phase = .idle
    · rw [if_pos hidle] at htasks
      exact nomatch htasks
    · rw [if_neg hidle] at htasks
      obtain ⟨⟨tasks, report'⟩, hstep, heq⟩ := List.mem_map.mp htasks
      obtain ⟨rfl, rfl⟩ := Prod.mk.inj heq
      obtain ⟨place, event, ⟨adapter, task, task', hget, hdoes, hupdate⟩, hreport⟩ :=
        Tasks.does_of_mem_steps hstep
      refine ⟨some place, event, ⟨rfl, adapter, task, task', hget, hdoes, ?_⟩, hreport⟩
      refine update_of_part (fun _ => rfl) (fun _ => rfl) (fun who => ?_) hupdate
      cases who with
      | none => exact Or.inl rfl
      | some other => exact Or.inr ⟨other, rfl⟩
  · obtain ⟨phase, hphase, heq⟩ := List.mem_map.mp hself
    obtain ⟨rfl, rfl⟩ := Prod.mk.inj heq
    refine ⟨none, .comes phase, ⟨rfl, _, _, _, rfl, .comes hphase, funext fun who => ?_⟩, rfl⟩
    cases who <;> rfl

/-- The one that holds an adapter is an aggregate, and it waits while it is running. -/
theorem holder_spec {run : Run} {place : Place} {found : Adapter × TaskState}
    (hget : run.get? (some place) = some found) :
    ∃ adapter task, run.get? place.holder = some (adapter, task) ∧ adapter.conduct = none ∧
      (run.waits (some place) = true ↔ task.phase = .running) := by
  rw [waits]
  cases hholder : place.holder with
  | none => exact ⟨_, _, rfl, rfl, decide_eq_true_iff⟩
  | some holder =>
      obtain ⟨platform, task, hrun⟩ := Tasks.conduct_of_holder hget hholder
      refine ⟨_, task, hrun, rfl, ?_⟩
      rw [Tasks.waits, hrun, Option.any_some]
      exact decide_eq_true_iff

/-- When a run has no step left, no task can come to anything more, and those that have ended under
    an aggregate that waits are noted. -/
theorem rests {run : Run} (h : run.steps = []) {who : Option Place} {adapter : Adapter}
    {task : TaskState} (hget : run.get? who = some (adapter, task)) :
    adapter.next run.signalled task.phase = [] ∧
      (run.waits who = true → task.phase.ended = true → task.noted = true) := by
  rw [steps, List.append_eq_nil_iff, List.map_eq_nil_iff] at h
  obtain ⟨htasks, hself⟩ := h
  cases who with
  | none =>
      obtain ⟨rfl, rfl⟩ := Prod.mk.inj (Option.some.inj hget)
      exact ⟨hself, fun hwaits => nomatch hwaits⟩
  | some place =>
      have hstarted : run.phase ≠ .idle :=
        (@Adapter.ended_of_next_eq_nil ⟨none, none⟩ _ _ hself).1
      rw [if_neg hstarted, List.map_eq_nil_iff] at htasks
      exact Tasks.rests htasks hget

/-- Before it is polled, a run has the adapters of its aggregate, and their tasks have done
    nothing. -/
theorem get?_ofAggregate (aggregate : Aggregate Leaf) (who : Option Place) :
    (ofAggregate aggregate).get? who =
      (aggregate.adapter? who).map fun adapter => (adapter, {}) := by
  cases who with
  | none => rfl
  | some place => exact Tasks.get?_ofAggregate aggregate place

end Run

end MeshSidecar
