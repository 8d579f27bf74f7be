import MeshSidecar.Proofs.Watcher.Steps
import Mathlib.Data.List.Chain

/-!
# Histories of reconciliations

A watcher reconciles again and again, while services come and go and the agent accepts or
refuses as it likes. A *history* keeps an entry for each time: what the watcher held before and
after, what the agent was asked and answered, and the result. The agent itself writes down what
it is asked (`Agent.recorded`).

A reconciliation has one of four outcomes (`Watcher.Outcome`), and to write down the calls
changes nothing else about it (`Watcher.outcome_of_reconcile`). It follows that the configuration
that the watcher holds, the calls of the agent and the results stay in step over every history
(`Watcher.History.in_step`).
-/

namespace MeshSidecar

variable {σ : Type}

-- ── Calls ───────────────────────────────────────────────────────────────────

namespace Agent

/-- A configuration that an agent was asked to bring to the proxy, with its answer. -/
structure Call where
  config : Config
  answer : Except ReloadError Epoch
deriving DecidableEq

/-- The configuration of a call, if it was accepted. -/
def Call.accepted? (call : Call) : Option Config :=
  match call.answer with
  | .ok _ => some call.config
  | .error _ => none

theorem Call.config_of_accepted? {call : Call} {config : Config}
    (h : call.accepted? = some config) : call.config = config := by
  rw [accepted?] at h
  split at h
  · exact Option.some.inj h
  · exact nomatch h

/-- The agent, which writes down its calls. -/
def recorded (agent : Agent σ) : Agent (σ × List Call) := fun config (state, calls) =>
  let (answer, after) := agent config state
  (answer, after, calls ++ [⟨config, answer⟩])

/-- An agent that numbers the configurations it accepts, by a number that it keeps. -/
structure Numbers (agent : Agent σ) (number : σ → Epoch) : Prop where
  accepted : ∀ {config state epoch after}, agent config state = (.ok epoch, after) →
    epoch = number state ∧ number after = number state + 1
  refused : ∀ {config state error after}, agent config state = (.error error, after) →
    number after = number state

end Agent

/-- An agent that only counts numbers the configurations it accepts. -/
theorem CountingAgent.numbers : CountingAgent.agent.Numbers CountingAgent.accepted := by
  constructor
  · intro config state epoch after h
    rw [CountingAgent.agent] at h
    split at h
    · exact nomatch (Prod.mk.inj h).1
    · obtain ⟨hepoch, rfl⟩ := Prod.mk.inj h
      exact ⟨(Except.ok.inj hepoch).symm, rfl⟩
  · intro config state error after h
    rw [CountingAgent.agent] at h
    split at h
    · rw [(Prod.mk.inj h).2]
    · exact nomatch (Prod.mk.inj h).1

-- ── Outcomes ────────────────────────────────────────────────────────────────

namespace Watcher

/-- What a reconciliation can lead to: the result, the watcher and the agent afterwards, and the
    calls of the agent. -/
inductive Outcome (agent : Agent σ) (services : List Service) (watcher : Watcher) (state : σ) :
    Except ReconcileError Reconciled → Watcher → σ → List Agent.Call → Prop where
  | failed {error : GenerateError}
      (hgenerate : Config.generate services watcher.mesh = .error error) :
      Outcome agent services watcher state (.error (.generate error)) watcher state []
  | unchanged {config : Config} (hgenerate : Config.generate services watcher.mesh = .ok config)
      (hcurrent : watcher.current = some config) :
      Outcome agent services watcher state (.ok .unchanged) watcher state []
  | refused {config : Config} {error : ReloadError} {after : σ}
      (hgenerate : Config.generate services watcher.mesh = .ok config)
      (hcurrent : watcher.current ≠ some config)
      (hagent : agent config state = (.error error, after)) :
      Outcome agent services watcher state (.error (.reload error)) watcher after
        [⟨config, .error error⟩]
  | reloaded {config : Config} {epoch : Epoch} {after : σ}
      (hgenerate : Config.generate services watcher.mesh = .ok config)
      (hcurrent : watcher.current ≠ some config)
      (hagent : agent config state = (.ok epoch, after)) :
      Outcome agent services watcher state (.ok (.reloaded epoch))
        { watcher with current := some config } after [⟨config, .ok epoch⟩]

/-- Every reconciliation has one of the outcomes, and the same one if the agent writes down its
    calls. -/
theorem outcome_of_reconcile (agent : Agent σ) (services : List Service) (watcher : Watcher)
    (state : σ) :
    ∃ result after state' calls, Outcome agent services watcher state result after state' calls ∧
      watcher.reconcile agent services state = (result, after, state') ∧
      ∀ earlier, watcher.reconcile agent.recorded services (state, earlier)
        = (result, after, state', earlier ++ calls) := by
  -- the cases are those of the plan, and of the answer where the agent is asked
  cases hgenerate : Config.generate services watcher.mesh with
  | error error =>
      have hplan : watcher.plan services = .error error := by rw [plan, hgenerate]
      refine ⟨_, _, _, _, .failed hgenerate, ?_, fun earlier => ?_⟩
      · rw [reconcile, hplan]
      · rw [reconcile, hplan, List.append_nil]
  | ok config =>
      by_cases hcurrent : watcher.current = some config
      · have hplan : watcher.plan services = .ok none := by
          rw [plan, hgenerate]
          simp only [if_pos hcurrent]
        refine ⟨_, _, _, _, .unchanged hgenerate hcurrent, ?_, fun earlier => ?_⟩
        · rw [reconcile, hplan]
        · rw [reconcile, hplan, List.append_nil]
      · have hplan : watcher.plan services = .ok (some config) := by
          rw [plan, hgenerate]
          simp only [if_neg hcurrent]
        cases hagent : agent config state with
        | mk answer after =>
            cases answer with
            | error error =>
                refine ⟨_, _, _, _, .refused hgenerate hcurrent hagent, ?_, fun earlier => ?_⟩
                · rw [reconcile, hplan]
                  simp only [hagent]
                · rw [reconcile, hplan]
                  simp only [Agent.recorded, hagent]
            | ok epoch =>
                refine ⟨_, _, _, _, .reloaded hgenerate hcurrent hagent, ?_, fun earlier => ?_⟩
                · rw [reconcile, hplan]
                  simp only [hagent]
                · rw [reconcile, hplan]
                  simp only [Agent.recorded, hagent]

/-- What there is to say of a value that was found is said of that value. -/
theorem exists_ok_iff {ε α : Type} {found : Except ε α} {value : α} (h : found = .ok value)
    {p : α → Prop} : (∃ other, found = .ok other ∧ p other) ↔ p value := by
  subst h
  constructor
  · rintro ⟨other, hother, hp⟩
    exact Except.ok.inj hother ▸ hp
  · exact fun hp => ⟨value, rfl, hp⟩

theorem not_exists_ok {ε α : Type} {found : Except ε α} {error : ε} (h : found = .error error)
    {p : α → Prop} : ¬ ∃ other, found = .ok other ∧ p other := by
  rintro ⟨other, hother, -⟩
  exact nomatch h.symm.trans hother

namespace Outcome

variable {agent : Agent σ} {services : List Service} {watcher after : Watcher} {state state' : σ}
  {result : Except ReconcileError Reconciled} {calls : List Agent.Call}

/-- Either the agent accepted the configuration of the services, which was not current and is
    now, or it accepted none and the watcher is as it was. -/
theorem accepted_or (h : Outcome agent services watcher state result after state' calls) :
    (∃ config epoch, Config.generate services watcher.mesh = .ok config ∧
        watcher.current ≠ some config ∧ agent config state = (.ok epoch, state') ∧
        result = .ok (.reloaded epoch) ∧ after = { watcher with current := some config } ∧
        calls = [⟨config, .ok epoch⟩]) ∨
      (after = watcher ∧ calls.filterMap Agent.Call.accepted? = [] ∧
        ∀ epoch, result ≠ .ok (.reloaded epoch)) := by
  cases h with
  | failed hgenerate => exact Or.inr ⟨rfl, rfl, nofun⟩
  | unchanged hgenerate hcurrent => exact Or.inr ⟨rfl, rfl, nofun⟩
  | refused hgenerate hcurrent hagent => exact Or.inr ⟨rfl, rfl, nofun⟩
  | reloaded hgenerate hcurrent hagent =>
      exact Or.inl ⟨_, _, hgenerate, hcurrent, hagent, rfl, rfl, rfl⟩

/-- The agent is called if there is a configuration that is not current. -/
theorem calls_ne_nil_iff (h : Outcome agent services watcher state result after state' calls) :
    calls ≠ [] ↔ ∃ config, Config.generate services watcher.mesh = .ok config ∧
      watcher.current ≠ some config := by
  cases h with
  | failed hgenerate => exact iff_of_false (fun hne => hne rfl) (not_exists_ok hgenerate)
  | unchanged hgenerate hcurrent =>
      rw [exists_ok_iff hgenerate]
      exact iff_of_false (fun hne => hne rfl) (fun hne => hne hcurrent)
  | refused hgenerate hcurrent hagent =>
      rw [exists_ok_iff hgenerate]
      exact iff_of_true nofun hcurrent
  | reloaded hgenerate hcurrent hagent =>
      rw [exists_ok_iff hgenerate]
      exact iff_of_true nofun hcurrent

theorem generate_of_mem (h : Outcome agent services watcher state result after state' calls)
    {call : Agent.Call} (hmem : call ∈ calls) :
    Config.generate services watcher.mesh = .ok call.config := by
  cases h with
  | failed hgenerate => exact nomatch hmem
  | unchanged hgenerate hcurrent => exact nomatch hmem
  | refused hgenerate hcurrent hagent => exact List.mem_singleton.mp hmem ▸ hgenerate
  | reloaded hgenerate hcurrent hagent => exact List.mem_singleton.mp hmem ▸ hgenerate

theorem length_calls_le (h : Outcome agent services watcher state result after state' calls) :
    calls.length ≤ 1 := by
  cases h with
  | failed _ => exact Nat.zero_le 1
  | unchanged _ _ => exact Nat.zero_le 1
  | refused _ _ _ => exact Nat.le_refl 1
  | reloaded _ _ _ => exact Nat.le_refl 1

theorem eq_of_error (h : Outcome agent services watcher state result after state' calls)
    {error : ReconcileError} (hresult : result = .error error) : after = watcher := by
  rcases h.accepted_or with ⟨_, _, _, _, _, hreloaded, _⟩ | ⟨heq, _⟩
  · exact nomatch hresult.symm.trans hreloaded
  · exact heq

/-- What is wrong with the services is the reason of a failure, and of no other. -/
theorem generate_error_iff (h : Outcome agent services watcher state result after state' calls)
    (error : GenerateError) :
    result = .error (.generate error) ↔ Config.generate services watcher.mesh = .error error := by
  cases h with
  | failed hgenerate =>
      rw [hgenerate]
      exact ⟨fun h => by rw [ReconcileError.generate.inj (Except.error.inj h)],
        fun h => by rw [Except.error.inj h]⟩
  | unchanged hgenerate _ => exact iff_of_false nofun fun h => nomatch hgenerate.symm.trans h
  | refused hgenerate _ _ => exact iff_of_false nofun fun h => nomatch hgenerate.symm.trans h
  | reloaded hgenerate _ _ => exact iff_of_false nofun fun h => nomatch hgenerate.symm.trans h

/-- Nothing changes if the configuration of the services is current. -/
theorem unchanged_iff (h : Outcome agent services watcher state result after state' calls) :
    result = .ok .unchanged ↔ ∃ config, Config.generate services watcher.mesh = .ok config ∧
      watcher.current = some config := by
  cases h with
  | failed hgenerate => exact iff_of_false nofun (not_exists_ok hgenerate)
  | unchanged hgenerate hcurrent =>
      rw [exists_ok_iff hgenerate]
      exact iff_of_true rfl hcurrent
  | refused hgenerate hcurrent hagent =>
      rw [exists_ok_iff hgenerate]
      exact iff_of_false nofun hcurrent
  | reloaded hgenerate hcurrent hagent =>
      rw [exists_ok_iff hgenerate]
      exact iff_of_false nofun hcurrent

/-- A reload is what the agent answered, and so is a refusal. -/
theorem reloaded_iff (h : Outcome agent services watcher state result after state' calls)
    (epoch : Epoch) :
    result = .ok (.reloaded epoch) ↔ ∃ config, calls = [⟨config, .ok epoch⟩] := by
  cases h with
  | failed hgenerate => exact iff_of_false nofun nofun
  | unchanged hgenerate hcurrent => exact iff_of_false nofun nofun
  | refused hgenerate hcurrent hagent => simp
  | reloaded hgenerate hcurrent hagent => simp

theorem refused_iff (h : Outcome agent services watcher state result after state' calls)
    (error : ReloadError) :
    result = .error (.reload error) ↔ ∃ config, calls = [⟨config, .error error⟩] := by
  cases h with
  | failed hgenerate => simp
  | unchanged hgenerate hcurrent => simp
  | refused hgenerate hcurrent hagent => simp
  | reloaded hgenerate hcurrent hagent => simp

end Outcome

-- ── Histories ───────────────────────────────────────────────────────────────

/-- A reconciliation that is to come. -/
structure Round (σ : Type) where
  /-- The services as they are by then. -/
  services : List Service
  /-- What has become of the agent by then. -/
  meanwhile : σ → σ := id

/-- What is kept of a reconciliation. -/
structure Entry where
  services : List Service
  /-- The configuration that was current before. -/
  before : Option Config
  /-- The calls of the agent. -/
  calls : List Agent.Call
  result : Except ReconcileError Reconciled
  /-- The configuration that was current afterwards. -/
  after : Option Config
deriving DecidableEq

/-- The configurations that the agent accepted, in order. -/
def accepted (entries : List Entry) : List Config :=
  entries.flatMap fun entry => entry.calls.filterMap Agent.Call.accepted?

/-- The epoch of a reload. -/
def Entry.epoch? (entry : Entry) : Option Epoch :=
  match entry.result with
  | .ok (.reloaded epoch) => some epoch
  | .ok .unchanged => none
  | .error _ => none

/-- The epochs of the reloads, in order. -/
def epochs (entries : List Entry) : List Epoch := entries.filterMap Entry.epoch?

/-- A watcher and its agent, with what is kept of the reconciliations so far. -/
structure History (σ : Type) where
  watcher : Watcher
  agent : σ
  entries : List Entry := []

/-- How an entry comes about when a configuration is current. -/
structure Entry.Follows (agent : Agent σ) (mesh : MeshSettings) (current : Option Config)
    (entry : Entry) : Prop where
  before : entry.before = current
  outcome : ∃ state state', Outcome agent entry.services ⟨mesh, entry.before⟩ state entry.result
    ⟨mesh, entry.after⟩ state' entry.calls

theorem accepted_append (entries more : List Entry) :
    accepted (entries ++ more) = accepted entries ++ accepted more :=
  List.flatMap_append

theorem accepted_singleton (entry : Entry) :
    accepted [entry] = entry.calls.filterMap Agent.Call.accepted? :=
  List.flatMap_singleton ..

namespace History

/-- The history with one more reconciliation. -/
def reconcile (agent : Agent σ) (history : History σ) (round : Round σ) : History σ :=
  let (result, watcher, state, calls) := history.watcher.reconcile agent.recorded round.services
    (round.meanwhile history.agent, [])
  { watcher := watcher
    agent := state
    entries := history.entries ++
      [⟨round.services, history.watcher.current, calls, result, watcher.current⟩] }

/-- The history of a new watcher. -/
def run (agent : Agent σ) (mesh : MeshSettings) (state : σ) (rounds : List (Round σ)) :
    History σ :=
  rounds.foldl (reconcile agent) { watcher := { mesh := mesh }, agent := state }

/-- A reconciliation adds an entry for its outcome. -/
theorem reconcile_eq (agent : Agent σ) (history : History σ) (round : Round σ) :
    ∃ result after state calls,
      Outcome agent round.services history.watcher (round.meanwhile history.agent) result after
        state calls ∧
      history.reconcile agent round = ⟨after, state, history.entries ++
        [⟨round.services, history.watcher.current, calls, result, after.current⟩]⟩ := by
  obtain ⟨result, after, state, calls, houtcome, -, hrecorded⟩ := outcome_of_reconcile agent
    round.services history.watcher (round.meanwhile history.agent)
  exact ⟨result, after, state, calls, houtcome, by rw [reconcile, hrecorded, List.nil_append]⟩

/-- What holds of every history. -/
structure Kept (agent : Agent σ) (mesh : MeshSettings) (history : History σ) : Prop where
  settings : history.watcher.mesh = mesh
  /-- The configuration that is current is the one that was accepted last. -/
  current : history.watcher.current = (accepted history.entries).getLast?
  /-- Every entry comes about when the configuration that was accepted last is current. -/
  follows : ∀ earlier entry later, history.entries = earlier ++ entry :: later →
    entry.Follows agent mesh (accepted earlier).getLast?
  /-- No configuration is accepted twice in a row. -/
  distinct : (accepted history.entries).IsChain (· ≠ ·)

variable {agent : Agent σ} {mesh : MeshSettings}

theorem Kept.reconcile {history : History σ} (h : history.Kept agent mesh) (round : Round σ) :
    (history.reconcile agent round).Kept agent mesh := by
  obtain ⟨result, after, state, calls, houtcome, heq⟩ := reconcile_eq agent history round
  rw [heq]
  have hmesh : after.mesh = mesh := by
    rcases houtcome.accepted_or with ⟨_, _, _, _, _, _, rfl, _⟩ | ⟨rfl, _⟩
    · exact h.settings
    · exact h.settings
  constructor
  case settings => exact hmesh
  case current =>
    rw [accepted_append, accepted_singleton]
    rcases houtcome.accepted_or with ⟨config, epoch, _, _, _, _, rfl, rfl⟩ | ⟨rfl, hnone, _⟩
    · exact List.getLast?_concat.symm
    · rw [hnone, List.append_nil]
      exact h.current
  case follows =>
    intro earlier entry later hsplit
    -- the entry is the one that was added, or it was there before
    rcases List.eq_nil_or_concat later with rfl | ⟨later, last, rfl⟩
    · obtain ⟨rfl, hentry⟩ := List.append_inj' hsplit rfl
      rw [← List.singleton_injective hentry]
      refine ⟨h.current, round.meanwhile history.agent, state, ?_⟩
      have hbefore : history.watcher = ⟨mesh, history.watcher.current⟩ := by rw [← h.settings]
      have hafter : after = ⟨mesh, after.current⟩ := by rw [← hmesh]
      rw [hbefore, hafter] at houtcome
      exact houtcome
    · rw [List.concat_eq_append, ← List.cons_append, ← List.append_assoc] at hsplit
      exact h.follows earlier entry later (List.append_inj' hsplit rfl).1
  case distinct =>
    rw [accepted_append, accepted_singleton]
    rcases houtcome.accepted_or with ⟨config, epoch, _, hne, _, _, rfl, rfl⟩ | ⟨rfl, hnone, _⟩
    · refine List.isChain_append.mpr ⟨h.distinct, List.isChain_singleton config, ?_⟩
      rintro last hlast next hnext rfl
      obtain rfl := Option.some.inj hnext
      exact hne (h.current.trans hlast)
    · rw [hnone, List.append_nil]
      exact h.distinct

theorem kept_run (agent : Agent σ) (mesh : MeshSettings) (state : σ) (rounds : List (Round σ)) :
    (run agent mesh state rounds).Kept agent mesh := by
  refine List.foldlRecOn rounds (reconcile agent) ?_ fun history h round _ => h.reconcile round
  exact
    { settings := rfl
      current := rfl
      follows := fun _ _ _ h =>
        absurd h.symm (List.append_ne_nil_of_right_ne_nil _ (List.cons_ne_nil _ _))
      distinct := List.isChain_nil }

theorem services_run (agent : Agent σ) (mesh : MeshSettings) (state : σ)
    (rounds : List (Round σ)) :
    (run agent mesh state rounds).entries.map (·.services) = rounds.map (·.services) := by
  have hfold : ∀ history : History σ,
      (rounds.foldl (reconcile agent) history).entries.map (·.services)
        = history.entries.map (·.services) ++ rounds.map (·.services) := by
    induction rounds with
    | nil => exact fun history => (List.append_nil _).symm
    | cons round rounds ih =>
        intro history
        obtain ⟨result, after, state, calls, -, heq⟩ := reconcile_eq agent history round
        rw [List.foldl_cons, ih, heq]
        simp only [List.map_append, List.map_cons, List.map_nil, List.append_assoc,
          List.cons_append, List.nil_append]
  exact hfold _

/-- What holds of every history with an agent that numbers what it accepts. -/
structure Numbered (number : σ → Epoch) (history : History σ) : Prop where
  counted : epochs history.entries
    = (List.range (accepted history.entries).length).map UInt32.ofNat
  /-- The number that the agent keeps is the next one. -/
  next : number history.agent = UInt32.ofNat (accepted history.entries).length

/-- An entry without a reload does not count. -/
theorem Numbered.enter {number : σ → Epoch} {history : History σ} (h : history.Numbered number)
    {watcher : Watcher} {state : σ} (hstate : number state = number history.agent) {entry : Entry}
    (haccepted : accepted [entry] = []) (hepoch : entry.epoch? = none) :
    Numbered number ⟨watcher, state, history.entries ++ [entry]⟩ where
  counted := by
    show epochs (history.entries ++ [entry]) = _
    rw [epochs, List.filterMap_append, List.filterMap_cons_none hepoch, List.filterMap_nil,
      List.append_nil, accepted_append, haccepted, List.append_nil]
    exact h.counted
  next := by
    show number state = UInt32.ofNat (accepted (history.entries ++ [entry])).length
    rw [accepted_append, haccepted, List.append_nil, hstate]
    exact h.next

theorem Numbered.reconcile {number : σ → Epoch} {history : History σ} (h : history.Numbered number)
    (hnumbers : agent.Numbers number) {round : Round σ}
    (hmeanwhile : ∀ state, number (round.meanwhile state) = number state) :
    (history.reconcile agent round).Numbered number := by
  obtain ⟨result, after, state, calls, houtcome, heq⟩ := reconcile_eq agent history round
  rw [heq]
  cases houtcome with
  | failed hgenerate => exact h.enter (hmeanwhile _) rfl rfl
  | unchanged hgenerate hcurrent => exact h.enter (hmeanwhile _) rfl rfl
  | refused hgenerate hcurrent hagent =>
      exact h.enter ((hnumbers.refused hagent).trans (hmeanwhile _)) rfl rfl
  | @reloaded config epoch _ hgenerate hcurrent hagent =>
      obtain ⟨hepoch, hnext⟩ := hnumbers.accepted hagent
      rw [hmeanwhile, h.next] at hepoch hnext
      -- the one reload gets the number of all that was accepted before it
      have hlength : (accepted (history.entries ++ [⟨round.services, history.watcher.current,
          [⟨config, .ok epoch⟩], .ok (.reloaded epoch), some config⟩])).length
            = (accepted history.entries).length + 1 := by
        rw [accepted_append, List.length_append]
        rfl
      constructor
      · show epochs (history.entries ++ [_]) = _
        rw [hlength, List.range_succ, List.map_append, ← h.counted, epochs,
          List.filterMap_append, hepoch]
        rfl
      · show number state = _
        rw [hlength, hnext, UInt32.ofNat_add]
        rfl

/-- The epochs of an agent that numbers what it accepts count up from its number at the start. -/
theorem numbered_run {number : σ → Epoch} (hnumbers : agent.Numbers number) (mesh : MeshSettings)
    {state : σ} (hstart : number state = 0) {rounds : List (Round σ)}
    (hmeanwhile : ∀ round ∈ rounds, ∀ state, number (round.meanwhile state) = number state) :
    (run agent mesh state rounds).Numbered number :=
  List.foldlRecOn rounds (reconcile agent) ⟨rfl, hstart⟩ fun _ h round hmem =>
    h.reconcile hnumbers (hmeanwhile round hmem)

end History

-- ── In step ─────────────────────────────────────────────────────────────────

/-- What an entry says is in step with the entries before it. -/
structure Entry.InStep (mesh : MeshSettings) (earlier : List Entry) (entry : Entry) : Prop where
  /-- Current is the configuration that was accepted last, or none before the first. -/
  before : entry.before = (accepted earlier).getLast?
  after : entry.after = (accepted (earlier ++ [entry])).getLast?
  /-- The agent is called if and only if the services have a configuration and it is not the
      current one. -/
  called_iff : entry.calls ≠ [] ↔
    ∃ config, Config.generate entry.services mesh = .ok config ∧ entry.before ≠ some config
  /-- It is called once, with that configuration. -/
  called_with : ∀ call ∈ entry.calls, Config.generate entry.services mesh = .ok call.config
  called_once : entry.calls.length ≤ 1
  /-- The result is what the agent answered. -/
  reloaded_iff : ∀ epoch,
    entry.result = .ok (.reloaded epoch) ↔ ∃ config, entry.calls = [⟨config, .ok epoch⟩]
  refused_iff : ∀ error,
    entry.result = .error (.reload error) ↔ ∃ config, entry.calls = [⟨config, .error error⟩]
  unchanged_iff : entry.result = .ok .unchanged ↔
    ∃ config, Config.generate entry.services mesh = .ok config ∧ entry.before = some config
  /-- Services without a configuration are a failure that does not reach the agent. -/
  generate_iff : ∀ error, entry.result = .error (.generate error) ↔
    Config.generate entry.services mesh = .error error
  generate_silent : ∀ error, entry.result = .error (.generate error) → entry.calls = []
  /-- A failure leaves the current configuration as it is. -/
  failed : ∀ error, entry.result = .error error → entry.after = entry.before

theorem Entry.Follows.inStep {agent : Agent σ} {mesh : MeshSettings} {earlier : List Entry}
    {entry : Entry} (h : entry.Follows agent mesh (accepted earlier).getLast?) :
    entry.InStep mesh earlier := by
  obtain ⟨hbefore, state, state', houtcome⟩ := h
  constructor
  case before => exact hbefore
  case after =>
    rw [accepted_append, accepted_singleton]
    rcases houtcome.accepted_or with
      ⟨config, epoch, -, -, -, -, hafter, hcalls⟩ | ⟨hafter, hnone, -⟩
    · rw [hcalls]
      exact (congrArg Watcher.current hafter).trans List.getLast?_concat.symm
    · rw [hnone, List.append_nil, ← hbefore]
      exact congrArg Watcher.current hafter
  case called_iff => exact houtcome.calls_ne_nil_iff
  case called_with => exact fun call => houtcome.generate_of_mem
  case called_once => exact houtcome.length_calls_le
  case reloaded_iff => exact houtcome.reloaded_iff
  case refused_iff => exact houtcome.refused_iff
  case unchanged_iff => exact houtcome.unchanged_iff
  case generate_iff => exact houtcome.generate_error_iff
  case generate_silent =>
    intro error hresult
    by_contra hcalls
    obtain ⟨config, hconfig, -⟩ := houtcome.calls_ne_nil_iff.mp hcalls
    exact nomatch ((houtcome.generate_error_iff error).mp hresult).symm.trans hconfig
  case failed =>
    exact fun error hresult => congrArg Watcher.current (houtcome.eq_of_error hresult)

namespace History

variable {agent : Agent σ} {mesh : MeshSettings} {history : History σ}

/-- After a refusal the agent is asked again for the same configuration, unless it has accepted
    another one in the meantime. -/
theorem Kept.again (h : history.Kept agent mesh) {earlier between later : List Entry}
    {refused again : Entry}
    (hsplit : history.entries = earlier ++ refused :: (between ++ again :: later))
    {error : ReloadError} (hrefused : refused.result = .error (.reload error))
    (hbetween : accepted between = [])
    (hsame : Config.generate again.services mesh = Config.generate refused.services mesh) :
    again.calls.map (·.config) = refused.calls.map (·.config) ∧ again.calls ≠ [] := by
  have hfirst := (h.follows earlier refused _ hsplit).inStep
  have hsecond := (h.follows (earlier ++ refused :: between) again later
    (by rw [hsplit, List.append_assoc, List.cons_append])).inStep
  obtain ⟨config, hcalls⟩ := (hfirst.refused_iff error).mp hrefused
  have hgenerate : Config.generate refused.services mesh = .ok config :=
    hfirst.called_with ⟨config, .error error⟩ (hcalls ▸ List.mem_singleton_self _)
  -- nothing was accepted from the refusal on, so the same configuration is current
  have hbefore : again.before = refused.before := by
    rw [hsecond.before, ← List.singleton_append, ← List.append_assoc, accepted_append, hbetween,
      List.append_nil, ← hfirst.after, hfirst.failed _ hrefused]
  obtain ⟨other, hother, hne⟩ := hfirst.called_iff.mp (hcalls ▸ List.cons_ne_nil _ _)
  have hcalled : again.calls ≠ [] :=
    hsecond.called_iff.mpr ⟨other, hsame.trans hother, hbefore ▸ hne⟩
  refine ⟨?_, hcalled⟩
  obtain ⟨call, hcall⟩ := List.length_eq_one_iff.mp
    (Nat.le_antisymm hsecond.called_once (List.length_pos_iff.mpr hcalled))
  have hwith := hsecond.called_with call (hcall ▸ List.mem_singleton_self _)
  rw [hcalls, hcall, List.map_singleton, List.map_singleton]
  exact congrArg ([·]) (Except.ok.inj (hwith.symm.trans (hsame.trans hgenerate)))

/-- Two reconciliations with the same services lead to one reload at most. -/
theorem Kept.once (h : history.Kept agent mesh) {earlier later : List Entry}
    {first second : Entry} (hsplit : history.entries = earlier ++ first :: second :: later)
    (hsame : second.services = first.services) : (accepted [first, second]).length ≤ 1 := by
  have hfirst := (h.follows earlier first _ hsplit).inStep
  have hsecond := (h.follows (earlier ++ [first]) second later
    (by rw [hsplit, List.append_assoc, List.singleton_append])).inStep
  have hle : ∀ entry : Entry, entry.calls.length ≤ 1 → (accepted [entry]).length ≤ 1 :=
    fun entry hcalls => by
      rw [accepted_singleton]
      exact (List.length_filterMap_le _ _).trans hcalls
  rw [← List.singleton_append, accepted_append, List.length_append]
  rcases List.eq_nil_or_concat (accepted [first]) with hnone | ⟨others, config, haccepted⟩
  · rw [hnone]
    exact (Nat.zero_add _).trans_le (hle second hsecond.called_once)
  · have hidle : second.calls = [] := by
      by_contra hcalls
      obtain ⟨other, hother, hne⟩ := hsecond.called_iff.mp hcalls
      -- What the second has is what the first accepted, and that is current by then.
      have hmem : config ∈ first.calls.filterMap Agent.Call.accepted? := by
        rw [← accepted_singleton, haccepted, List.concat_eq_append]
        exact List.mem_append_right _ (List.mem_singleton_self _)
      obtain ⟨call, hcall, hconfig⟩ := List.mem_filterMap.mp hmem
      have hwith := hfirst.called_with call hcall
      rw [← hsame, hother, Agent.Call.config_of_accepted? hconfig] at hwith
      refine hne ?_
      rw [hsecond.before, accepted_append, haccepted, List.concat_eq_append, ← List.append_assoc,
        List.getLast?_concat, Except.ok.inj hwith]
    rw [accepted_singleton second, hidle]
    exact hle first hfirst.called_once

/-- Over every history, the configuration that is current, the calls of the agent and the results
    stay in step. What is current is what was accepted last, and nothing is accepted twice in a
    row. After a refusal the agent is asked again, and two reconciliations with the same services
    lead to one reload at most. The epochs of an agent that numbers what it accepts are
    `0`, `1`, `2` and so on. -/
theorem in_step (agent : Agent σ) (mesh : MeshSettings) (state : σ) (rounds : List (Round σ)) :
    let history := run agent mesh state rounds
    history.entries.map (·.services) = rounds.map (·.services) ∧
    history.watcher.current = (accepted history.entries).getLast? ∧
    (accepted history.entries).IsChain (· ≠ ·) ∧
    (∀ earlier entry later, history.entries = earlier ++ entry :: later →
      entry.InStep mesh earlier) ∧
    (∀ earlier refused between again later error,
      history.entries = earlier ++ refused :: (between ++ again :: later) →
      refused.result = .error (.reload error) → accepted between = [] →
      Config.generate again.services mesh = Config.generate refused.services mesh →
      again.calls.map (·.config) = refused.calls.map (·.config) ∧ again.calls ≠ []) ∧
    (∀ earlier first second later, history.entries = earlier ++ first :: second :: later →
      second.services = first.services → (accepted [first, second]).length ≤ 1) ∧
    (∀ number, agent.Numbers number → number state = 0 →
      (∀ round ∈ rounds, ∀ state, number (round.meanwhile state) = number state) →
      epochs history.entries
        = (List.range (accepted history.entries).length).map UInt32.ofNat) := by
  intro history
  have hkept : history.Kept agent mesh := kept_run agent mesh state rounds
  refine ⟨services_run agent mesh state rounds, hkept.current, hkept.distinct, ?_, ?_, ?_, ?_⟩
  · exact fun earlier entry later hsplit => (hkept.follows earlier entry later hsplit).inStep
  · exact fun _ _ _ _ _ _ hsplit hrefused hbetween hsame =>
      hkept.again hsplit hrefused hbetween hsame
  · exact fun _ _ _ _ hsplit hsame => hkept.once hsplit hsame
  · exact fun _ hnumbers hstart hmeanwhile =>
      (numbered_run hnumbers mesh hstart hmeanwhile).counted

/-- A service with one port. -/
def reviews : Service where
  name := "reviews"
  ns := none
  tags := ∅
  ports := [⟨"http", 9080, .http⟩]

/-- A service comes, nothing changes, and the service goes while the agent refuses. -/
def refusedRounds : List (Round CountingAgent) :=
  [{ services := [reviews] },
   { services := [reviews] },
   { services := [], meanwhile := fun agent => { agent with refusing := true } },
   { services := [], meanwhile := fun agent => { agent with refusing := false } }]

/-- The last of these rounds asks the agent again for what it refused in the one before. -/
theorem refusedRounds_in_step :
    ∃ first second refused again,
      (run CountingAgent.agent {} {} refusedRounds).entries = [first, second, refused, again] ∧
      second.services = first.services ∧ (accepted [first, second]).length ≤ 1 ∧
      (∃ error, refused.result = .error (.reload error)) ∧
      again.services = refused.services ∧
      again.calls.map (·.config) = refused.calls.map (·.config) ∧
      epochs [first, second, refused, again] = [0, 1] := by
  obtain ⟨hservices, -, -, -, hagain, honce, hnumbers⟩ :=
    in_step CountingAgent.agent {} {} refusedRounds
  have hepochs := hnumbers CountingAgent.accepted CountingAgent.numbers rfl
    (by simp [refusedRounds])
  have haccepted : (accepted (run CountingAgent.agent {} {} refusedRounds).entries).length = 2 := by
    decide +kernel
  have hresults : (run CountingAgent.agent {} {} refusedRounds).entries.map (·.result)
      = [.ok (.reloaded 0), .ok .unchanged,
         .error (.reload (.spawn "envoy" (.plain .notFound))), .ok (.reloaded 1)] := by
    decide +kernel
  have hlength := congrArg List.length hservices
  rw [List.length_map] at hlength
  obtain ⟨first, second, refused, again, hentries⟩ := List.length_eq_four.mp hlength
  rw [hentries] at hservices hresults haccepted hepochs hagain honce
  obtain ⟨hfirst, hsecond, hthird, hfourth⟩ :
      first.services = [reviews] ∧ second.services = [reviews] ∧ refused.services = [] ∧
        again.services = [] := by
    simpa [refusedRounds] using hservices
  have hrefused : refused.result = .error (.reload (.spawn "envoy" (.plain .notFound))) := by
    simp only [List.map_cons, List.cons.injEq] at hresults
    exact hresults.2.2.1
  have hsame : again.services = refused.services := hfourth.trans hthird.symm
  refine ⟨first, second, refused, again, hentries, hsecond.trans hfirst.symm,
    honce [] first second [refused, again] rfl (hsecond.trans hfirst.symm), ⟨_, hrefused⟩, hsame,
    (hagain [first, second] refused [] again [] _ rfl hrefused rfl (by rw [hsame])).1, ?_⟩
  rw [hepochs, haccepted]
  rfl

end History

end Watcher
end MeshSidecar
