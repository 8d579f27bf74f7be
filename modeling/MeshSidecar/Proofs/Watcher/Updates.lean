import MeshSidecar.Proofs.Aggregate.Registration
import MeshSidecar.Proofs.Registry.Changes
import MeshSidecar.Proofs.Watcher.Steps

/-!
# No change is lost

Any number of *mutators* change the registries that a watcher reads: the leaves of an aggregate,
or the only leaf of one. A mutator changes the contents of one registry first and tells of it
later, one notification after the other, while others do the same and the watcher goes on. The
watcher throws away all but the first of the notifications that it finds queued, and it reads the
registries one by one, so that what it has read need not be what they listed at any one time.

Still nothing is lost (`WatchState.no_change_lost`). The invariant is that the watcher is up to
date or will be woken. It will be woken if a notification is queued, or if a mutator has yet to
send its first one. It is up to date as far as it goes: while it reads, what it has read is what
the registries before its position list now; and once it is through, what it reconciled with is
what they all list now. A change spoils the second half, but makes the first half true, and
nothing makes the first half false except the watcher, as it begins to read afresh.
-/

namespace MeshSidecar

/-- One who changed a registry. -/
structure Mutator where
  /-- The notifications that are still to be sent. -/
  unsent : List Notification
  /-- Whether one was sent. -/
  begun : Bool
deriving DecidableEq

/-- What is remembered of the course of events. -/
inductive WatchRecord where
  /-- A notification was queued. -/
  | queued (notification : Notification)
  /-- The watcher began to read the services. -/
  | began
  /-- The watcher reconciled with the services that it had read. -/
  | reconciled (services : List Service) (result : Except ReconcileError Reconciled)

/-- A watcher with all that it watches. -/
structure WatchState (σ : Type) where
  topology : Aggregate Leaf
  mutators : List Mutator
  run : WatcherRun σ
  /-- What happened, the latest first. -/
  log : List WatchRecord

/-- The services that a stage holds. -/
def Stage.services : Stage → List Service
  | .reading _ services => services
  | .resting _ | .waiting | .draining | .stopped => []

/-- What is remembered of a step of the watcher. -/
def recordsOf {σ : Type} (before after : WatcherRun σ) : Option Reconciliation → List WatchRecord
  | some reconciliation => [.reconciled before.stage.services reconciliation.result]
  | none => if after.stage = .reading 0 [] then [.began] else []

/-- The services and the result of a reconciliation. -/
def WatchRecord.reconciliation? :
    WatchRecord → Option (List Service × Except ReconcileError Reconciled)
  | .reconciled services result => some (services, result)
  | .queued _ | .began => none

namespace WatchState

variable {σ : Type}

/-- What each registry lists. -/
def sources (s : WatchState σ) : List (List Service) := s.topology.leaves.map Discovery.services

/-- The services and the result of the latest reconciliation. -/
def lastReconciliation? (s : WatchState σ) :
    Option (List Service × Except ReconcileError Reconciled) :=
  s.log.findSome? WatchRecord.reconciliation?

/-- One thing that may happen. Everyone moves in steps of their own, in any order. -/
inductive Step (handler : Handler) (agent : Agent σ) : WatchState σ → WatchState σ → Prop where
  /-- A registry is changed. Those who are to be told of it are not told yet. -/
  | change (s : WatchState σ) (position : Nat) (mutation : Mutation) {member : Leaf}
      (hmember : s.topology.leaves[position]? = some member) (hopen : s.run.closed = false) :
      Step handler agent s
        { s with
          topology := s.topology.mutate position mutation
          mutators := s.mutators ++
            [{ unsent := Notification.ofDeliveries handler (member.registry.deliveries mutation)
               begun := false }] }
  /-- A mutator sends a notification. -/
  | send (s : WatchState σ) (before after : List Mutator) {notification : Notification}
      {unsent : List Notification} {begun : Bool}
      (hmutators : s.mutators = before ++ ⟨notification :: unsent, begun⟩ :: after) :
      Step handler agent s
        { s with
          mutators := before ++ ⟨unsent, true⟩ :: after
          run := s.run.notify [notification]
          log := .queued notification :: s.log }
  /-- The watcher makes its next step. -/
  | watch (s : WatchState σ) (limit : Nat) {run : WatcherRun σ} {done : Option Reconciliation}
      (hnext : s.run.next agent s.sources limit = some (run, done)) :
      Step handler agent s { s with run := run, log := recordsOf s.run run done ++ s.log }
  /-- Time passes, and the agent comes to another state. -/
  | pass (s : WatchState σ) (now : Nat) (state : σ) :
      Step handler agent s { s with run := { s.run with now := now, agent := state } }
  /-- The signal to stop is raised. -/
  | signal (s : WatchState σ) : Step handler agent s { s with run := s.run.signal }
  /-- The registries are given up. A mutator that has something to send still holds its own. -/
  | close (s : WatchState σ) (hsent : ∀ mutator ∈ s.mutators, mutator.unsent = []) :
      Step handler agent s { s with run := s.run.close }

/-- The states that are reached from a watcher that subscribed to all registries and is about to
    read them for the first time. -/
inductive Reachable (handler : Handler) (agent : Agent σ) : WatchState σ → Prop where
  | start {before topology : Aggregate Leaf} (mutators : List Mutator) (watcher : Watcher)
      (state : σ) (grace : Nat)
      (hsubscribed : before.appendHandler .services handler = (topology, none)) :
      Reachable handler agent
        { topology := topology
          mutators := mutators
          run := { watcher := watcher, agent := state, grace := grace }
          log := [.began] }
  | step {s t : WatchState σ} (h : Reachable handler agent s) (hstep : Step handler agent s t) :
      Reachable handler agent t

-- ── Invariant ───────────────────────────────────────────────────────────────

/-- The watcher will be woken: a notification is queued, or a mutator has yet to send its
    first. -/
def Pending (queue : List Notification) (mutators : List Mutator) : Prop :=
  queue ≠ [] ∨ ∃ mutator ∈ mutators, mutator.begun = false ∧ mutator.unsent ≠ []

/-- The watcher is up to date, as far as it goes. -/
def UpToDate (sources : List (List Service))
    (last : Option (List Service × Except ReconcileError Reconciled)) : Stage → Prop
  | .reading position services => services = (sources.take position).flatten
  | .draining => True
  | .resting _ | .waiting | .stopped => ∃ result, last = some (sources.flatten, result)

/-- A reconciliation that did not fail left its configuration. -/
def Accepted (watcher : Watcher)
    (last : Option (List Service × Except ReconcileError Reconciled)) : Prop :=
  ∀ services done, last = some (services, .ok done) →
    ∃ config, Config.generate services watcher.mesh = .ok config ∧ watcher.current = some config

/-- What came after a notification was queued: something is still there, or the services are
    about to be read, or they are read, or there was a reconciliation that began later. -/
def Answered (run : WatcherRun σ) (later : List WatchRecord) : Prop :=
  run.queue ≠ [] ∨ run.stage = .draining ∨
    ((∃ position services, run.stage = .reading position services) ∧ .began ∈ later) ∨
    ∃ services result, [WatchRecord.reconciled services result, .began].Sublist later

/-- What holds at all times. -/
structure Invariant (handler : Handler) (s : WatchState σ) : Prop where
  subscribed : ∀ member ∈ s.topology.leaves, handler ∈ member.registry.serviceHandlers
  closed_sent : s.run.closed = true → ∀ mutator ∈ s.mutators, mutator.unsent = []
  current : Pending s.run.queue s.mutators ∨
    UpToDate s.sources s.lastReconciliation? s.run.stage
  accepted : Accepted s.run.watcher s.lastReconciliation?
  answered : ∀ later notification earlier,
    s.log = later ++ .queued notification :: earlier → Answered s.run later

-- ── Changes ─────────────────────────────────────────────────────────────────

/-- A change of which the watcher is told nothing leaves the services as they are. -/
theorem services_eq_of_ofDeliveries {handler : Handler} {registry : Registry}
    {mutation : Mutation} (hhandler : handler ∈ registry.serviceHandlers)
    (h : Notification.ofDeliveries handler (registry.deliveries mutation) = []) :
    Discovery.services (registry.mutate mutation) = Discovery.services registry := by
  have hnone : (mutation.changes registry.catalog).services = [] := by
    refine List.eq_nil_iff_forall_not_mem.mpr fun change hchange => ?_
    have htold := List.filterMap_eq_nil_iff.mp h _ (Registry.mem_deliveries hhandler hchange)
    simp at htold
  show (mutation.apply registry.catalog).services.values = registry.catalog.services.values
  rw [Mutation.services_eq_of_changes hnone]

/-- The handlers of all leaves stay as they are. -/
theorem handlers_mutate (topology : Aggregate Leaf) (position : Nat) (mutation : Mutation) :
    (topology.mutate position mutation).leaves.map (·.registry.serviceHandlers) =
      topology.leaves.map (·.registry.serviceHandlers) := by
  rw [Aggregate.mutate, Aggregate.leaves_modify]
  exact map_modify _ _ _ _ fun _ _ => rfl

/-- What the leaves list stays as it is if nothing is told of the change. -/
theorem services_mutate {handler : Handler} {topology : Aggregate Leaf} {position : Nat}
    {mutation : Mutation} {member : Leaf} (hmember : topology.leaves[position]? = some member)
    (hhandler : handler ∈ member.registry.serviceHandlers)
    (h : Notification.ofDeliveries handler (member.registry.deliveries mutation) = []) :
    (topology.mutate position mutation).leaves.map Discovery.services =
      topology.leaves.map Discovery.services := by
  rw [Aggregate.mutate, Aggregate.leaves_modify]
  refine map_modify _ _ _ _ fun item hitem => ?_
  obtain rfl : member = item := Option.some.inj (hmember.symm.trans hitem)
  exact services_eq_of_ofDeliveries hhandler h

-- ── Moves of the watcher ────────────────────────────────────────────────────

section

variable {agent : Agent σ} {sources : List (List Service)} {run after : WatcherRun σ}
  {done : Option Reconciliation}

/-- The queue stays as it is, except that the watcher takes notifications to read afresh. -/
theorem queue_of_moves (h : run.Moves agent sources after done) :
    after.queue = run.queue ∨ after.stage = .draining ∨ after.stage = .reading 0 [] := by
  cases h with
  | read _ _ => exact Or.inl rfl
  | reconcile _ _ => exact Or.inl rfl
  | quit _ _ => exact Or.inl rfl
  | wake _ => exact Or.inl rfl
  | take _ _ => exact Or.inr (Or.inl rfl)
  | finish _ hqueue _ => exact Or.inl hqueue.symm
  | drop _ _ => exact Or.inr (Or.inl rfl)
  | start _ _ => exact Or.inr (Or.inr rfl)

/-- A watcher that is up to date remains so, whatever it does. -/
theorem UpToDate.moves {log : List WatchRecord} (h : run.Moves agent sources after done)
    (hdate : UpToDate sources (log.findSome? WatchRecord.reconciliation?) run.stage) :
    UpToDate sources ((recordsOf run after done ++ log).findSome? WatchRecord.reconciliation?)
      after.stage := by
  cases h with
  | @read position services those hstage hsource =>
      rw [hstage] at hdate
      show services ++ those = (sources.take (position + 1)).flatten
      rw [List.take_add_one, hsource, List.flatten_append, ← hdate]
      simp
  | @reconcile position services hstage hend =>
      rw [hstage] at hdate
      have hall : services = sources.flatten := by rw [hdate, List.take_of_length_le hend]
      have hlast : ∃ result, (recordsOf run (run.reconcile agent services).1
          (some (run.reconcile agent services).2) ++ log).findSome? WatchRecord.reconciliation?
            = some (sources.flatten, result) := by
        refine ⟨(run.reconcile agent services).2.result, ?_⟩
        show some (run.stage.services, _) = some (sources.flatten, _)
        rw [hstage, ← hall]
        rfl
      rcases run.stage_of_reconcile agent services with ⟨deadline, hafter⟩ | hafter
      · rw [hafter]; exact hlast
      · rw [hafter]; exact hlast
  | quit hstage _ =>
      rcases hstage with ⟨deadline, hstage⟩ | hstage <;> rw [hstage] at hdate <;> exact hdate
  | wake hstage => rw [hstage] at hdate; exact hdate
  | take _ _ => exact trivial
  | finish hstage _ _ => rw [hstage] at hdate; exact hdate
  | drop _ _ => exact trivial
  | start _ _ => rfl

/-- What was accepted remains so, or gives way to what is accepted by a reconciliation. -/
theorem Accepted.moves {log : List WatchRecord} (h : run.Moves agent sources after done)
    (haccepted : Accepted run.watcher (log.findSome? WatchRecord.reconciliation?)) :
    Accepted after.watcher
      ((recordsOf run after done ++ log).findSome? WatchRecord.reconciliation?) := by
  cases h with
  | @reconcile position services hstage hend =>
      intro those result hlast
      obtain ⟨hservices, hresult⟩ := Prod.mk.inj (Option.some.inj hlast)
      have hread : services = those := by rw [← hservices, hstage]; rfl
      obtain ⟨config, hgenerate, hcurrent⟩ := Watcher.current_of_reconcile hresult
      have hmesh : (run.reconcile agent services).1.watcher.mesh = run.watcher.mesh :=
        Watcher.mesh_of_reconcile agent services run.watcher run.agent
      exact ⟨config, by rw [hmesh, ← hread, hgenerate], hcurrent⟩
  | read _ _ => exact haccepted
  | quit _ _ => exact haccepted
  | wake _ => exact haccepted
  | take _ _ => exact haccepted
  | finish _ _ _ => exact haccepted
  | drop _ _ => exact haccepted
  | start _ _ => exact haccepted

/-- To a watcher that rests or waits a notification is new or was served. -/
theorem Answered.of_idle {later : List WatchRecord} (hanswered : Answered run later)
    (hstage : (∃ deadline, run.stage = .resting deadline) ∨ run.stage = .waiting) :
    run.queue ≠ [] ∨
      ∃ services result, [WatchRecord.reconciled services result, .began].Sublist later := by
  rcases hanswered with hqueue | hdraining | ⟨⟨position, services, hreading⟩, -⟩ | hserved
  · exact Or.inl hqueue
  · rcases hstage with ⟨deadline, hstage⟩ | hstage <;> rw [hstage] at hdraining <;>
      exact nomatch hdraining
  · rcases hstage with ⟨deadline, hstage⟩ | hstage <;> rw [hstage] at hreading <;>
      exact nomatch hreading
  · exact Or.inr hserved

/-- A notification that was answered remains so, whatever the watcher does. -/
theorem Answered.moves {later : List WatchRecord} (h : run.Moves agent sources after done)
    (hanswered : Answered run later) : Answered after (recordsOf run after done ++ later) := by
  cases h with
  | @read position services those hstage hsource =>
      rcases hanswered with hqueue | hdraining | ⟨-, hbegan⟩ | hserved
      · exact Or.inl hqueue
      · rw [hstage] at hdraining; exact nomatch hdraining
      · exact Or.inr (Or.inr (Or.inl ⟨⟨_, _, rfl⟩, hbegan⟩))
      · exact Or.inr (Or.inr (Or.inr hserved))
  | reconcile hstage hend =>
      rcases hanswered with hqueue | hdraining | ⟨-, hbegan⟩ | ⟨services, result, hserved⟩
      · exact Or.inl hqueue
      · rw [hstage] at hdraining; exact nomatch hdraining
      · exact Or.inr (Or.inr (Or.inr
          ⟨_, _, List.Sublist.cons_cons _ (List.singleton_sublist.mpr hbegan)⟩))
      · exact Or.inr (Or.inr (Or.inr ⟨services, result, hserved.cons _⟩))
  | quit hstage hsignal =>
      rcases hanswered.of_idle hstage with hqueue | hserved
      · exact Or.inl hqueue
      · exact Or.inr (Or.inr (Or.inr hserved))
  | wake hstage =>
      rcases hanswered.of_idle (Or.inl ⟨_, hstage⟩) with hqueue | hserved
      · exact Or.inl hqueue
      · exact Or.inr (Or.inr (Or.inr hserved))
  | take hstage hqueue => exact Or.inr (Or.inl rfl)
  | finish hstage hqueue hclosed =>
      rcases hanswered.of_idle (Or.inr hstage) with hnew | hserved
      · exact absurd hqueue hnew
      · exact Or.inr (Or.inr (Or.inr hserved))
  | drop hstage hqueue => exact Or.inr (Or.inl rfl)
  | start hstage hqueue =>
      exact Or.inr (Or.inr (Or.inl ⟨⟨_, _, rfl⟩, List.mem_cons_self ..⟩))

/-- The watcher is not closed off by its own moves. -/
theorem closed_of_moves (h : run.Moves agent sources after done) :
    after.closed = run.closed := by
  cases h <;> rfl

/-- No notification is queued by the watcher. -/
theorem eq_of_recordsOf_append {log later earlier : List WatchRecord}
    {notification : Notification}
    (h : recordsOf run after done ++ log = later ++ .queued notification :: earlier) :
    ∃ rest, later = recordsOf run after done ++ rest ∧
      log = rest ++ .queued notification :: earlier := by
  have hrecords : ∀ record ∈ recordsOf run after done, record ≠ .queued notification := by
    intro record hmem heq
    subst heq
    cases done with
    | some reconciliation => exact nomatch List.mem_singleton.mp hmem
    | none =>
        rw [recordsOf] at hmem
        split at hmem
        · exact nomatch List.mem_singleton.mp hmem
        · exact nomatch hmem
  rcases List.append_eq_append_iff.mp h with ⟨rest, hlater, hlog⟩ | ⟨rest, hrest, hlog⟩
  · exact ⟨rest, hlater, hlog⟩
  · cases rest with
    | nil =>
        rw [List.append_nil] at hrest
        exact ⟨[], by rw [List.append_nil, hrest], by simpa using hlog.symm⟩
    | cons record rest =>
        obtain ⟨rfl, -⟩ := List.cons.inj hlog
        exact absurd rfl (hrecords _ (hrest ▸ List.mem_append_right _ (List.mem_cons_self ..)))

end

-- ── Steps ───────────────────────────────────────────────────────────────────

variable {handler : Handler} {agent : Agent σ} {s t : WatchState σ}

/-- At the start all that has been read is nothing, as it should be. -/
theorem invariant_start {before topology : Aggregate Leaf} (mutators : List Mutator)
    (watcher : Watcher) (state : σ) (grace : Nat)
    (hsubscribed : before.appendHandler .services handler = (topology, none)) :
    Invariant handler
      { topology := topology
        mutators := mutators
        run := { watcher := watcher, agent := state, grace := grace }
        log := [.began] } where
  subscribed := Aggregate.mem_handlers_of_append hsubscribed
  closed_sent := nofun
  current := Or.inr rfl
  accepted := nofun
  answered := by
    intro later notification earlier h
    rcases List.cons_eq_append_iff.mp h with ⟨-, hqueued⟩ | ⟨rest, -, hrest⟩
    · exact nomatch hqueued
    · simp at hrest

/-- A change of which the watcher is not told changes nothing; of any other it will be told. -/
theorem Invariant.change (hinv : Invariant handler s) {position : Nat} {mutation : Mutation}
    {member : Leaf} (hmember : s.topology.leaves[position]? = some member)
    (hopen : s.run.closed = false) :
    Invariant handler
      { s with
        topology := s.topology.mutate position mutation
        mutators := s.mutators ++
          [{ unsent := Notification.ofDeliveries handler (member.registry.deliveries mutation)
             begun := false }] } where
  subscribed := by
    intro other hother
    have hhandlers : other.registry.serviceHandlers
        ∈ s.topology.leaves.map (·.registry.serviceHandlers) := by
      rw [← handlers_mutate s.topology position mutation]
      exact List.mem_map_of_mem hother
    obtain ⟨old, hold, heq⟩ := List.mem_map.mp hhandlers
    exact heq ▸ hinv.subscribed old hold
  closed_sent := fun hclosed => nomatch hclosed.symm.trans hopen
  current := by
    by_cases htold : Notification.ofDeliveries handler (member.registry.deliveries mutation) = []
    · have hmem : member ∈ s.topology.leaves := List.mem_of_getElem? hmember
      have hsources := services_mutate hmember (hinv.subscribed member hmem) htold
      rcases hinv.current with (hqueue | ⟨mutator, hmutator, hnew⟩) | hdate
      · exact Or.inl (Or.inl hqueue)
      · exact Or.inl (Or.inr ⟨mutator, List.mem_append_left _ hmutator, hnew⟩)
      · refine Or.inr ?_
        show UpToDate ((s.topology.mutate position mutation).leaves.map _) _ _
        rw [hsources]
        exact hdate
    · exact Or.inl (Or.inr ⟨_, List.mem_append_right _ (List.mem_singleton_self _), rfl, htold⟩)
  accepted := hinv.accepted
  answered := hinv.answered

/-- As long as something is to be sent, it is queued. -/
theorem Invariant.send (hinv : Invariant handler s) {before after : List Mutator}
    {notification : Notification} {unsent : List Notification} {begun : Bool}
    (hmutators : s.mutators = before ++ ⟨notification :: unsent, begun⟩ :: after) :
    Invariant handler
      { s with
        mutators := before ++ ⟨unsent, true⟩ :: after
        run := s.run.notify [notification]
        log := .queued notification :: s.log } := by
  have hmem : ⟨notification :: unsent, begun⟩ ∈ s.mutators :=
    hmutators ▸ List.mem_append_right _ (List.mem_cons_self ..)
  have hopen : s.run.closed = false :=
    Bool.eq_false_iff.mpr fun hclosed => nomatch hinv.closed_sent hclosed _ hmem
  have hnotify : s.run.notify [notification]
      = { s.run with queue := s.run.queue ++ [notification] } := by
    rw [WatcherRun.notify, if_neg (Bool.eq_false_iff.mp hopen)]
  rw [hnotify]
  have hqueue : s.run.queue ++ [notification] ≠ [] := List.append_ne_nil_of_right_ne_nil _ nofun
  constructor
  case subscribed => exact hinv.subscribed
  case closed_sent => exact fun hclosed => nomatch hclosed.symm.trans hopen
  case current => exact Or.inl (Or.inl hqueue)
  case accepted => exact hinv.accepted
  case answered => exact fun _ _ _ _ => Or.inl hqueue

/-- The watcher loses nothing by its own moves. -/
theorem Invariant.watch (hinv : Invariant handler s) {run : WatcherRun σ}
    {done : Option Reconciliation} (h : s.run.Moves agent s.sources run done) :
    Invariant handler { s with run := run, log := recordsOf s.run run done ++ s.log } where
  subscribed := hinv.subscribed
  closed_sent := fun hclosed => hinv.closed_sent ((closed_of_moves h).symm.trans hclosed)
  current := by
    rcases hinv.current with hpending | hdate
    · rcases queue_of_moves h with hqueue | hstage | hstage
      · exact Or.inl (hpending.imp (fun hne => hqueue ▸ hne) id)
      · refine Or.inr ?_
        rw [hstage]
        exact trivial
      · refine Or.inr ?_
        rw [hstage]
        rfl
    · exact Or.inr (hdate.moves h)
  accepted := hinv.accepted.moves h
  answered := by
    intro later notification earlier hlog
    obtain ⟨rest, rfl, hrest⟩ := eq_of_recordsOf_append hlog
    exact (hinv.answered rest notification earlier hrest).moves h

/-- Every step preserves the invariant. -/
theorem Invariant.step (hinv : Invariant handler s) (hstep : Step handler agent s t) :
    Invariant handler t := by
  cases hstep with
  | change position mutation hmember hopen => exact hinv.change hmember hopen
  | send before after hmutators => exact hinv.send hmutators
  | watch limit hnext => exact hinv.watch (WatcherRun.moves_of_next hnext)
  | pass now state =>
      exact ⟨hinv.subscribed, hinv.closed_sent, hinv.current, hinv.accepted, hinv.answered⟩
  | signal =>
      exact ⟨hinv.subscribed, hinv.closed_sent, hinv.current, hinv.accepted, hinv.answered⟩
  | close hsent =>
      exact ⟨hinv.subscribed, fun _ => hsent, hinv.current, hinv.accepted, hinv.answered⟩

/-- The invariant holds whatever happens. -/
theorem Reachable.invariant (h : Reachable handler agent s) : Invariant handler s := by
  induction h with
  | start mutators watcher state grace hsubscribed =>
      exact invariant_start mutators watcher state grace hsubscribed
  | step _ hstep ih => exact ih.step hstep

-- ── Nothing is lost ─────────────────────────────────────────────────────────

/-- When the watcher waits with nothing queued, and no mutator has yet to send its first
    notification, the latest reconciliation was with the services as they are, and failed or
    left their configuration. And the watcher does not stop for want of notifications as long as
    there is one that no later reconciliation answered. -/
theorem no_change_lost (h : Reachable handler agent s) :
    (s.run.stage = .waiting → s.run.queue = [] →
      (∀ mutator ∈ s.mutators, mutator.unsent ≠ [] → mutator.begun = true) →
      ∃ result, s.lastReconciliation? = some (Discovery.services s.topology, result) ∧
        ((∃ error, result = .error error) ∨
          ∃ config,
            Config.generate (Discovery.services s.topology) s.run.watcher.mesh = .ok config ∧
            s.run.watcher.current = some config)) ∧
    (∀ limit run done, s.run.next agent s.sources limit = some (run, done) →
      run.stage = .stopped → s.run.signalled = false →
      ∀ later notification earlier, s.log = later ++ .queued notification :: earlier →
        ∃ services result, [WatchRecord.reconciled services result, .began].Sublist later) := by
  have hinv := h.invariant
  constructor
  · intro hstage hqueue hbegun
    have hdate : UpToDate s.sources s.lastReconciliation? s.run.stage := by
      rcases hinv.current with (hne | ⟨mutator, hmem, hnew, hunsent⟩) | hdate
      · exact absurd hqueue hne
      · exact nomatch hnew.symm.trans (hbegun mutator hmem hunsent)
      · exact hdate
    rw [hstage] at hdate
    obtain ⟨result, hlast⟩ := hdate
    rw [sources, ← Aggregate.services_eq_flatten] at hlast
    refine ⟨result, hlast, ?_⟩
    cases result with
    | error error => exact Or.inl ⟨error, rfl⟩
    | ok done => exact Or.inr (hinv.accepted _ done hlast)
  · intro limit run done hnext hstopped hsignal later notification earlier hlog
    have hanswered := hinv.answered later notification earlier hlog
    cases WatcherRun.moves_of_next hnext with
    | read _ _ => exact nomatch hstopped
    | @reconcile position services _ _ =>
        rcases s.run.stage_of_reconcile agent services with ⟨deadline, hafter⟩ | hafter <;>
          exact nomatch hafter.symm.trans hstopped
    | quit _ hsignal' => exact nomatch hsignal'.symm.trans hsignal
    | wake _ => exact nomatch hstopped
    | take _ _ => exact nomatch hstopped
    | finish hstage hqueue _ =>
        rcases hanswered.of_idle (Or.inr hstage) with hne | hserved
        · exact absurd hqueue hne
        · exact hserved
    | drop _ _ => exact nomatch hstopped
    | start _ _ => exact nomatch hstopped

-- ── A change while the watcher reads ────────────────────────────────────────

/-- The state after a number of steps of the watcher, or fewer if it has to wait. -/
def watched (agent : Agent σ) (limit : Nat) : Nat → WatchState σ → WatchState σ
  | 0, s => s
  | n + 1, s =>
    match s.run.next agent s.sources limit with
    | none => s
    | some (run, done) =>
      watched agent limit n { s with run := run, log := recordsOf s.run run done ++ s.log }

/-- Steps of the watcher lead to states that are reached. -/
theorem Reachable.watched (h : Reachable handler agent s) (limit n : Nat) :
    Reachable handler agent (s.watched agent limit n) := by
  induction n generalizing s with
  | zero => exact h
  | succ n ih =>
      rw [WatchState.watched]
      split
      · exact h
      · rename_i hnext
        exact ih (h.step (.watch s limit hnext))

/-- A service with one port. -/
def ratings : Service where
  name := "ratings"
  ns := none
  tags := ∅
  ports := [⟨"http", 9080, .http⟩]

/-- A registry with one service. -/
def oneRegistry : Aggregate Leaf :=
  .leaf "Memory" { registry := { catalog := Catalog.empty.withService ratings } } .empty

/-- A service is removed when the watcher has read it. The watcher reconciles with the service,
    is told, reconciles without it and waits, until the registry is given up. -/
theorem removed_while_read :
    ∃ s : WatchState CountingAgent, Reachable 0 CountingAgent.agent s ∧
      s.log.filterMap WatchRecord.reconciliation? =
        [([], .ok (.reloaded 1)), ([ratings], .ok (.reloaded 0))] ∧
      (s.run.stage = .waiting ∧ s.run.queue = [] ∧
        ∀ mutator ∈ s.mutators, mutator.unsent ≠ [] → mutator.begun = true) ∧
      s.run.closed = true ∧ s.run.signalled = false := by
  have hsubscribed : (oneRegistry.appendHandler .services 0).2 = none := by decide
  have hstart : Reachable 0 CountingAgent.agent _ :=
    .start [] { mesh := {} } {} 0 (Prod.ext rfl hsubscribed)
  have hread := hstart.watched 0 1
  have hchanged := hread.step (.change _ 0 (.removeService "ratings") rfl rfl)
  have hstale := hchanged.watched 0 1
  have hsent := hstale.step (.send _ [] []
    (by decide +kernel : _ = [] ++ Mutator.mk [⟨"ratings", .delete⟩] false :: []))
  have hquiet := hsent.watched 0 6
  have hclosed := hquiet.step (.close _ (by decide +kernel))
  exact ⟨_, hclosed, by decide +kernel,
    ⟨by decide +kernel, by decide +kernel, by decide +kernel⟩, by decide +kernel, by decide +kernel⟩

/-- There the latest reconciliation was with no service, and the watcher stops with the
    notification answered. -/
theorem removed_while_read_not_lost :
    ∃ s : WatchState CountingAgent, Reachable 0 CountingAgent.agent s ∧
      (s.run.stage = .waiting ∧ s.run.queue = [] ∧
        ∀ mutator ∈ s.mutators, mutator.unsent ≠ [] → mutator.begun = true) ∧
      (∃ result, s.lastReconciliation? = some (Discovery.services s.topology, result)) ∧
      ∀ later notification earlier, s.log = later ++ .queued notification :: earlier →
        ∃ services result, [WatchRecord.reconciled services result, .began].Sublist later := by
  obtain ⟨s, hreachable, -, ⟨hstage, hqueue, hbegun⟩, hclosed, hsignal⟩ := removed_while_read
  have hnext : s.run.next CountingAgent.agent s.sources 0
      = some ({ s.run with stage := .stopped }, none) := by
    rw [WatcherRun.next]
    simp [hstage, hqueue, hclosed, hsignal]
  obtain ⟨hcurrent, hstopped⟩ := no_change_lost hreachable
  obtain ⟨result, hlast, -⟩ := hcurrent hstage hqueue hbegun
  exact ⟨s, hreachable, ⟨hstage, hqueue, hbegun⟩, ⟨result, hlast⟩,
    hstopped 0 _ none hnext rfl hsignal⟩

end WatchState

end MeshSidecar
