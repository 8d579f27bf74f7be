import MeshSidecar.Mesh
import MeshSidecar.Text.Lines

/-!
# How a proxy is launched

Every proxy that is launched is a *generation*, counted by its epoch. A generation reads a
configuration file of its own, named for the epoch, so that two generations never share a
file; it learns its epoch, and how to take over from the generation before, from the
arguments that it is launched with.
-/

namespace MeshSidecar

/-- The number of a generation of the proxy. -/
abbrev Epoch := UInt32

/-- What is the same for every generation. -/
structure ProxyOptions where
  /-- The program to launch. -/
  binary : String
  /-- Where configuration files are written. -/
  configDir : String
  /-- How long a generation that is being replaced serves its connections, in seconds. -/
  drainSecs : Nat
  /-- How long a generation waits before it ends the one it replaces, in seconds. -/
  parentShutdownSecs : Nat
  /-- The cluster that the proxy belongs to. -/
  serviceCluster : String
deriving DecidableEq

/-- The name of the configuration file of a generation. -/
def configName (epoch : Epoch) : String := "envoy-rev" ++ toString epoch.toNat ++ ".json"

namespace ProxyOptions

/-- The options of a program and a directory under the settings of the mesh. -/
def ofMesh (binary configDir : String) (mesh : MeshSettings) : ProxyOptions where
  binary := binary
  configDir := configDir
  drainSecs := mesh.drainSecs.toNat
  parentShutdownSecs := mesh.parentShutdownSecs.toNat
  serviceCluster := mesh.serviceCluster

/-- The path of the configuration file of a generation. -/
def configPath (options : ProxyOptions) (epoch : Epoch) : String :=
  Text.Path.child options.configDir (configName epoch)

/-- The arguments that a generation is launched with. -/
def arguments (options : ProxyOptions) (epoch : Epoch) : List String :=
  ["-c", options.configPath epoch,
   "--restart-epoch", toString epoch.toNat,
   "--drain-time-s", toString options.drainSecs,
   "--parent-shutdown-time-s", toString options.parentShutdownSecs,
   "--service-cluster", options.serviceCluster]

end ProxyOptions

end MeshSidecar
