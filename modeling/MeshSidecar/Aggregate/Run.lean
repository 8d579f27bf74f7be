import MeshSidecar.Aggregate.Leaf

/-!
# Running an aggregate

An aggregate runs each of its adapters in a task of its own, and waits until it sees the
signal to stop. While it waits it takes note of every task that has ended; one that ended in
a panic is reported under the platform of its adapter. Once it has seen the signal it returns,
and the tasks are left to see the signal themselves.

The tasks are polled in any order. `Tasks.steps` lists all that may happen next, and so do
`Run.steps` for a whole run; `Run.settle` follows the first of these steps until nothing more
can happen. Every step uses up one unit of `Run.work`, which therefore bounds the number of
steps.
-/

namespace MeshSidecar

/-- How far a task has come. -/
inductive Phase where
  /-- Not yet polled. -/
  | idle
  | running
  | returned
  | panicked
deriving DecidableEq

/-- Whether a task has ended. -/
def Phase.ended : Phase → Bool
  | .idle | .running => false
  | .returned | .panicked => true

/-- The task that runs an adapter. -/
structure TaskState where
  phase : Phase := .idle
  /-- Whether the aggregate has taken note of the end. -/
  noted : Bool := false
deriving DecidableEq

/-- The tasks of an aggregate's adapters, in order. -/
inductive Tasks where
  | empty
  | leaf (platform : String) (conduct : Conduct) (task : TaskState) (rest : Tasks)
  | nested (platform : String) (inner : Tasks) (task : TaskState) (rest : Tasks)
deriving DecidableEq

/-- What the run of a leaf may come to next. -/
def Conduct.next (signalled : Bool) (conduct : Conduct) : Phase → List Phase
  | .idle => [.running]
  | .running =>
    match conduct with
    | .waits => if signalled then [.returned] else []
    | .returns => [.returned]
    | .panics => [.panicked]
  | .returned | .panicked => []

/-- What the run of an aggregate may come to next. -/
def Phase.nextOfAggregate (signalled : Bool) : Phase → List Phase
  | .idle => [.running]
  | .running => if signalled then [.returned] else []
  | .returned | .panicked => []

/-- What an aggregate that waits may note of a task, with the platform if it is reported. -/
def TaskState.notes (task : TaskState) (waiting : Bool) (platform : String) :
    List (TaskState × Option String) :=
  if waiting && task.phase.ended && !task.noted then
    [({ task with noted := true }, if task.phase = .panicked then some platform else none)]
  else []

/-- A bound on what a task and the one who notes its end can still do. -/
def TaskState.work (task : TaskState) : Nat :=
  (match task.phase with
    | .idle => 2
    | .running => 1
    | .returned | .panicked => 0) + (if task.noted then 0 else 1)

/-- Noting the end of a task uses up one unit of its work. -/
theorem TaskState.work_of_notes {task after : TaskState} {waiting : Bool} {platform : String}
    {report : Option String} (h : (after, report) ∈ task.notes waiting platform) :
    after.work + 1 = task.work := by
  unfold TaskState.notes at h
  split at h
  · rename_i hnote
    have hnoted : task.noted = false := by simp_all
    obtain ⟨rfl, -⟩ := Prod.mk.inj (List.mem_singleton.mp h)
    simp [TaskState.work, hnoted]
  · exact absurd h (by simp)

/-- Every move of a leaf uses up one unit of the work of its task. -/
theorem TaskState.work_of_next {conduct : Conduct} {signalled : Bool} {task : TaskState}
    {phase : Phase} (h : phase ∈ conduct.next signalled task.phase) :
    { task with phase := phase }.work + 1 = task.work := by
  obtain ⟨before, noted⟩ := task
  cases before <;> cases conduct <;> cases signalled <;>
    simp_all [Conduct.next, TaskState.work] <;> omega

/-- Every move of an aggregate uses up one unit of the work of its task. -/
theorem TaskState.work_of_nextOfAggregate {signalled : Bool} {task : TaskState}
    {phase : Phase} (h : phase ∈ task.phase.nextOfAggregate signalled) :
    { task with phase := phase }.work + 1 = task.work := by
  obtain ⟨before, noted⟩ := task
  cases before <;> cases signalled <;>
    simp_all [Phase.nextOfAggregate, TaskState.work] <;> omega

namespace Tasks

/-- The tasks of an aggregate before any of them is polled. -/
def ofAggregate : Aggregate Leaf → Tasks
  | .empty => .empty
  | .leaf platform member rest => .leaf platform member.conduct {} (ofAggregate rest)
  | .nested platform inner rest => .nested platform (ofAggregate inner) {} (ofAggregate rest)

/-- All that may happen next, with the platform that is reported if one is. The aggregate
    notes the ends of tasks while it is `waiting`. -/
def steps (signalled waiting : Bool) : Tasks → List (Tasks × Option String)
  | .empty => []
  | .leaf platform conduct task rest =>
      ((conduct.next signalled task.phase).map fun phase =>
        (.leaf platform conduct { task with phase := phase } rest, none)) ++
      ((task.notes waiting platform).map fun (task, report) =>
        (.leaf platform conduct task rest, report)) ++
      ((rest.steps signalled waiting).map fun (rest, report) =>
        (.leaf platform conduct task rest, report))
  | .nested platform inner task rest =>
      ((task.phase.nextOfAggregate signalled).map fun phase =>
        (.nested platform inner { task with phase := phase } rest, none)) ++
      ((task.notes waiting platform).map fun (task, report) =>
        (.nested platform inner task rest, report)) ++
      (if task.phase = .idle then []
        else (inner.steps signalled (task.phase = .running)).map fun (inner, report) =>
          (.nested platform inner task rest, report)) ++
      ((rest.steps signalled waiting).map fun (rest, report) =>
        (.nested platform inner task rest, report))

/-- A bound on what can still happen. -/
def work : Tasks → Nat
  | .empty => 0
  | .leaf _ _ task rest => task.work + rest.work
  | .nested _ inner task rest => task.work + inner.work + rest.work

/-- Every step of the tasks uses up one unit of the work. -/
theorem work_of_mem_steps {signalled : Bool} :
    ∀ {tasks after : Tasks} {waiting : Bool} {report : Option String},
      (after, report) ∈ tasks.steps signalled waiting → after.work + 1 = tasks.work
  | .empty, _, _, _, h => absurd h (by simp [steps])
  | .leaf platform conduct task rest, after, waiting, report, h => by
      simp only [steps, List.mem_append, List.mem_map, Prod.mk.injEq, Prod.exists] at h
      rcases h with (⟨phase, hphase, rfl, -⟩ | ⟨task', report', hnote, rfl, -⟩) |
        ⟨rest', report', hrest, rfl, -⟩
      · have := TaskState.work_of_next hphase
        simp only [work]
        omega
      · have := TaskState.work_of_notes hnote
        simp only [work]
        omega
      · have := work_of_mem_steps hrest
        simp only [work]
        omega
  | .nested platform inner task rest, after, waiting, report, h => by
      simp only [steps, List.mem_append, List.mem_map, Prod.mk.injEq, Prod.exists] at h
      rcases h with ((⟨phase, hphase, rfl, -⟩ | ⟨task', report', hnote, rfl, -⟩) | hinner) |
        ⟨rest', report', hrest, rfl, -⟩
      · have := TaskState.work_of_nextOfAggregate hphase
        simp only [work]
        omega
      · have := TaskState.work_of_notes hnote
        simp only [work]
        omega
      · split at hinner
        · exact absurd hinner (by simp)
        · obtain ⟨⟨inner', report'⟩, hstep, heq⟩ := List.mem_map.mp hinner
          obtain ⟨rfl, -⟩ := Prod.mk.inj heq
          have := work_of_mem_steps hstep
          simp only [work]
          omega
      · have := work_of_mem_steps hrest
        simp only [work]
        omega

/-- How far the runs of the leaves have come, from left to right. -/
def leafPhases : Tasks → List Phase
  | .empty => []
  | .leaf _ _ task rest => task.phase :: rest.leafPhases
  | .nested _ inner _ rest => inner.leafPhases ++ rest.leafPhases

end Tasks

/-- The run of an aggregate. -/
structure Run where
  /-- Whether the signal to stop was raised. -/
  signalled : Bool
  /-- How far the run itself has come. -/
  phase : Phase
  tasks : Tasks
deriving DecidableEq

namespace Run

/-- The run of an aggregate before it is polled. -/
def ofAggregate (aggregate : Aggregate Leaf) : Run := ⟨false, .idle, .ofAggregate aggregate⟩

/-- Raises the signal to stop. -/
def signal (run : Run) : Run := { run with signalled := true }

/-- All that may happen next, with the platform that is reported if one is. -/
def steps (run : Run) : List (Run × Option String) :=
  (if run.phase = .idle then []
    else (run.tasks.steps run.signalled (run.phase = .running)).map fun (tasks, report) =>
      ({ run with tasks := tasks }, report)) ++
  ((run.phase.nextOfAggregate run.signalled).map fun phase =>
    ({ run with phase := phase }, none))

/-- A bound on the number of steps that a run can still take. -/
def work (run : Run) : Nat := (TaskState.mk run.phase false).work + run.tasks.work

/-- Every step of a run uses up one unit of the work. -/
theorem work_of_mem_steps {run after : Run} {report : Option String}
    (h : (after, report) ∈ run.steps) : after.work + 1 = run.work := by
  unfold steps at h
  rcases List.mem_append.mp h with h | h
  · split at h
    · exact absurd h (by simp)
    · obtain ⟨⟨tasks, report'⟩, htasks, heq⟩ := List.mem_map.mp h
      obtain ⟨rfl, -⟩ := Prod.mk.inj heq
      have := Tasks.work_of_mem_steps htasks
      simp only [work]
      omega
  · obtain ⟨phase, hphase, heq⟩ := List.mem_map.mp h
    obtain ⟨rfl, -⟩ := Prod.mk.inj heq
    have := @TaskState.work_of_nextOfAggregate _ ⟨run.phase, false⟩ _ hphase
    simp only [work] at *
    omega

/-- Follows the first of the possible steps, at most `fuel` times. -/
def settleWithin : Nat → Run → Run × List String
  | 0, run => (run, [])
  | fuel + 1, run =>
    match run.steps with
    | [] => (run, [])
    | (next, report) :: _ =>
      let (last, reports) := settleWithin fuel next
      (last, report.toList ++ reports)

/-- Lets the run go on until nothing more can happen. The result is the last state with the
    platforms that were reported. -/
def settle (run : Run) : Run × List String := run.settleWithin run.work

end Run

end MeshSidecar
