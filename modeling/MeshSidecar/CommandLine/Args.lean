import MeshSidecar.Text.Quoted

/-!
# The arguments of the program

What the program is told when it is started: how it logs, which binary it launches, where it
writes configurations, and which files it follows.

`Args.text` shows all of it on one line.
-/

namespace MeshSidecar

/-- How log lines are written. -/
inductive LogFormat where
  | plain
  | json
deriving DecidableEq

namespace LogFormat

/-- The name by which a format is asked for. -/
def name : LogFormat → String
  | .plain => "plain"
  | .json => "json"

/-- The name by which a format is shown. -/
def label : LogFormat → String
  | .plain => "Plain"
  | .json => "Json"

end LogFormat

/-- What the program is told. -/
structure Args where
  logLevel : String := "sidecar_controller=info,warn"
  logFormat : LogFormat := .plain
  /-- The binary that is launched on every reload. -/
  proxyBinary : String := "/usr/local/bin/envoy"
  /-- The directory of configuration files. -/
  configDir : String := "/etc/envoy"
  /-- The file with the settings of the mesh. -/
  meshConfig : Option String := none
  /-- The catalogs, of which earlier ones take precedence. -/
  registryFiles : List String := []
  registryPollIntervalMs : UInt64 := 1000
  reloadGraceMs : UInt64 := 256
  /-- How long proxies are given to stop. -/
  proxyStopTimeoutMs : UInt64 := 10000
deriving DecidableEq

namespace Args

/-- An optional text as it is shown. -/
def optionText : Option String → String
  | none => "None"
  | some text => "Some(" ++ Text.quoted text ++ ")"

/-- The arguments on one line. -/
def text (args : Args) : String :=
  let fields : List (String × String) :=
    [("log_level", Text.quoted args.logLevel),
     ("log_format", args.logFormat.label),
     ("proxy_binary", Text.quoted args.proxyBinary),
     ("config_dir", Text.quoted args.configDir),
     ("mesh_config", optionText args.meshConfig),
     ("registry_files",
       "[" ++ String.intercalate ", " (args.registryFiles.map Text.quoted) ++ "]"),
     ("registry_poll_interval_ms", toString args.registryPollIntervalMs.toNat),
     ("reload_grace_ms", toString args.reloadGraceMs.toNat),
     ("proxy_stop_timeout_ms", toString args.proxyStopTimeoutMs.toNat)]
  "Args \x7b " ++
    String.intercalate ", " (fields.map fun (name, value) => name ++ ": " ++ value) ++ " \x7d"

end Args

end MeshSidecar
