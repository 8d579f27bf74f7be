import MeshSidecar.Proofs.Agent.Steps
import MeshSidecar.Proofs.Proxy.WrittenForm
import MeshSidecar.Proofs.Watcher.History

/-!
# A reload is left out if the file would not change

A watcher compares configurations, not files. Since the bytes of its file tell a configuration apart
from all others, this comes to the same (`Watcher.History.unchanged_iff_same_file`): nothing is done
exactly when the file that would be written holds, byte by byte, what was written when a
configuration was accepted last. For the agent that runs proxies this is what the file held when the
generation had been launched, whatever has become of the directory since
(`AgentState.remembering`).
-/

namespace MeshSidecar

variable {σ ρ : Type}

-- ── What was written ────────────────────────────────────────────────────────

namespace AgentState

/-- The agent that runs proxies, which remembers what the file of the generation that it launched
    last held by then. -/
def remembering : Agent (AgentState × Option Bytes) := fun config (state, written) =>
  match reload config state with
  | (.ok epoch, after) => (.ok epoch, after, after.directory.read? (configName epoch))
  | (.error error, after) => (.error error, after, written)

/-- A reload that fails is not remembered. -/
theorem remembering_of_error {config : Config} {state after : AgentState × Option Bytes}
    {error : ReloadError} (h : remembering config state = (.error error, after)) :
    after.2 = state.2 := by
  rw [remembering] at h
  split at h
  · exact nomatch (Prod.mk.inj h).1
  · rw [← (Prod.mk.inj h).2]

/-- After a reload the file of the generation holds the text of the configuration. -/
theorem remembering_of_ok {config : Config} {state after : AgentState × Option Bytes}
    {epoch : Epoch} (h : remembering config state = (.ok epoch, after)) :
    after.2 = some (Text.bytes config.text) := by
  rw [remembering] at h
  split at h
  · rename_i launched hreload
    rw [← (Prod.mk.inj h).2]
    cases reloads_of_reload hreload with
    | launched hwrite => exact Directory.read?_of_write hwrite
  · exact nomatch (Prod.mk.inj h).1

end AgentState

namespace Watcher

/-- A round in which nothing happens to what is remembered. -/
def Round.remembered (round : Round σ) : Round (σ × ρ) where
  services := round.services
  meanwhile := Prod.map round.meanwhile id

/-- Nothing is done if the configuration of the services is current. -/
theorem reconcile_eq_unchanged_iff (agent : Agent σ) (services : List Service) (watcher : Watcher)
    (state : σ) :
    (watcher.reconcile agent services state).1 = .ok .unchanged ↔
      ∃ config, Config.generate services watcher.mesh = .ok config ∧
        watcher.current = some config := by
  obtain ⟨result, after, state', calls, houtcome, heq, -⟩ :=
    outcome_of_reconcile agent services watcher state
  rw [heq]
  exact houtcome.unchanged_iff

namespace History

/-- Whether the agent remembers the text of the configuration that is current. -/
def Remembers (history : History (AgentState × Option Bytes)) : Prop :=
  history.agent.2 = history.watcher.current.map fun config => Text.bytes config.text

theorem Remembers.reconcile {history : History (AgentState × Option Bytes)}
    (h : history.Remembers) (round : Round AgentState) :
    (history.reconcile AgentState.remembering round.remembered).Remembers := by
  obtain ⟨result, after, state, calls, houtcome, heq⟩ :=
    reconcile_eq AgentState.remembering history round.remembered
  rw [heq]
  cases houtcome with
  | failed _ => exact h
  | unchanged _ _ => exact h
  | refused _ _ hagent => exact (AgentState.remembering_of_error hagent).trans h
  | reloaded _ _ hagent => exact AgentState.remembering_of_ok hagent

theorem remembers_run (mesh : MeshSettings) (state : AgentState)
    (rounds : List (Round AgentState)) :
    (run AgentState.remembering mesh (state, none) (rounds.map Round.remembered)).Remembers := by
  rw [run, List.foldl_map]
  exact List.foldlRecOn rounds _ rfl fun history h round _ => h.reconcile round

/-- Two configurations have the same bytes in their files only if they are equal. So a watcher does
    nothing exactly when the file that it would have written has the same bytes as the one of the
    configuration that was accepted last, and for the agent that runs proxies, the same bytes as
    were in the file of the generation that was launched last. -/
theorem unchanged_iff_same_file :
    (∀ a b : Config, Text.bytes a.text = Text.bytes b.text ↔ a = b) ∧
    (∀ {σ : Type} (agent : Agent σ) (mesh : MeshSettings) (state : σ) (rounds : List (Round σ))
      (services : List Service) (now : σ),
      let history := run agent mesh state rounds
      (history.watcher.reconcile agent services now).1 = .ok .unchanged ↔
        ∃ config last, Config.generate services mesh = .ok config ∧
          (accepted history.entries).getLast? = some last ∧
          Text.bytes config.text = Text.bytes last.text) ∧
    (∀ (mesh : MeshSettings) (state : AgentState) (rounds : List (Round AgentState))
      (services : List Service) (now : AgentState),
      let history := run AgentState.remembering mesh (state, none) (rounds.map Round.remembered)
      (history.watcher.reconcile AgentState.remembering services (now, history.agent.2)).1
          = .ok .unchanged ↔
        ∃ config, Config.generate services mesh = .ok config ∧
          history.agent.2 = some (Text.bytes config.text)) := by
  refine ⟨fun a b => Config.bytes_text_injective.eq_iff, ?_, ?_⟩
  · intro σ agent mesh state rounds services now history
    have hkept : history.Kept agent mesh := kept_run agent mesh state rounds
    rw [reconcile_eq_unchanged_iff, hkept.settings, hkept.current]
    constructor
    · rintro ⟨config, hgenerate, hlast⟩
      exact ⟨config, config, hgenerate, hlast, rfl⟩
    · rintro ⟨config, last, hgenerate, hlast, hbytes⟩
      obtain rfl := Config.bytes_text_injective hbytes
      exact ⟨config, hgenerate, hlast⟩
  · intro mesh state rounds services now history
    have hkept : history.Kept AgentState.remembering mesh := kept_run ..
    have hremembers : history.Remembers := remembers_run mesh state rounds
    rw [reconcile_eq_unchanged_iff, hkept.settings, hremembers]
    simp only [Option.map_eq_some_iff]
    constructor
    · rintro ⟨config, hgenerate, hcurrent⟩
      exact ⟨config, hgenerate, config, hcurrent, rfl⟩
    · rintro ⟨config, hgenerate, last, hcurrent, hbytes⟩
      obtain rfl := Config.bytes_text_injective hbytes
      exact ⟨last, hgenerate, hcurrent⟩

end History

end Watcher
end MeshSidecar
