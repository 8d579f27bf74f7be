import MeshSidecar.Host.Error
import MeshSidecar.Proxy.Config
import MeshSidecar.Proxy.Launch

/-!
# Reloads

An *agent* brings a configuration to the proxy. It answers a reload with the epoch of the
generation that was launched, or says why none was. What an agent is depends on its state:
`CountingAgent` launches nothing and only numbers the configurations that it accepts.
-/

namespace MeshSidecar

/-- The reason why no generation was launched. -/
inductive ReloadError where
  | writeConfig (path : String) (source : HostError)
  | spawn (binary : String) (source : HostError)
deriving DecidableEq

namespace ReloadError

/-- The words for the reason, without what caused it. -/
def message : ReloadError → String
  | .writeConfig path _ => "failed to write proxy configuration " ++ path
  | .spawn binary _ => "failed to spawn " ++ binary

/-- What the system said. -/
def source : ReloadError → HostError
  | .writeConfig _ source => source
  | .spawn _ source => source

/-- The words for the reason and for what caused it. -/
def chain (error : ReloadError) : String := error.message ++ ": " ++ error.source.message

end ReloadError

/-- One who brings configurations to the proxy, with a state of its own. -/
abbrev Agent (σ : Type) := Config → σ → Except ReloadError Epoch × σ

/-- An agent that numbers the configurations it accepts, unless it is told to refuse. -/
structure CountingAgent where
  /-- The number of configurations that were accepted. -/
  accepted : Epoch := 0
  refusing : Bool := false
deriving DecidableEq

/-- The answer of an agent that only counts. -/
def CountingAgent.agent : Agent CountingAgent := fun _ state =>
  if state.refusing then (.error (.spawn "envoy" (.plain .notFound)), state)
  else (.ok state.accepted, { state with accepted := state.accepted + 1 })

end MeshSidecar
