import MeshSidecar.Agent.Shutdown
import MeshSidecar.Aggregate.Basic
import MeshSidecar.CommandLine.LogFilter
import MeshSidecar.CommandLine.Parse
import MeshSidecar.Mesh
import MeshSidecar.Registry.File
import MeshSidecar.Watcher.Run

/-!
# Starting the controller

The controller is made from its arguments and from what it finds on its host: the directory
for configurations, which is made where it is missing, the settings of the mesh, and the
catalogs. They are dealt with in this order, after the log filter, and the first one that is
no good keeps the controller from starting.

Its registries are known by the platform `file` if there is one, and else by `file-` and
their position.
-/

namespace MeshSidecar

/-- The reason why the controller does not start. -/
inductive StartError where
  | logFilter (text : String) (fault : LogFilterFault)
  | createDirectory (path : String) (source : HostError)
  | readMesh (path : String) (source : HostError)
  | parseMesh (path : String) (source : Fault)
  | catalog (source : CatalogError)
deriving DecidableEq

namespace StartError

/-- The words for the reason and for all that caused it. -/
def chain : StartError → String
  | .logFilter text fault => "invalid log level: " ++ text ++ ": " ++ fault.chain
  | .createDirectory path source => "failed to create " ++ path ++ ": " ++ source.message
  | .readMesh path source =>
      "failed to read mesh configuration " ++ path ++ ": " ++ source.message
  | .parseMesh path source =>
      "failed to parse mesh configuration " ++ path ++ ": " ++ source.message
  | .catalog source => String.intercalate ": " (source.message :: source.causes)

/-- Whether the program breaks off, rather than ends in good order. -/
def isAbrupt : StartError → Bool
  | .logFilter _ .dividedCharacter => true
  | _ => false

/-- What the program says when it does not start. It starts a new line where it breaks off. -/
def report (error : StartError) : String :=
  (if error.isAbrupt then "\n" else "") ++ "sidecar-controller: " ++ error.chain

/-- The code with which the program ends when it does not start. -/
def exitCode (error : StartError) : UInt32 := if error.isAbrupt then 101 else 1

end StartError

/-- What the controller finds on its host when it starts. -/
structure HostReadings where
  /-- Why the directory for configurations cannot be made, if it cannot. -/
  directoryError : Option HostError
  /-- What comes of reading the file at a path. -/
  read : String → Reading

/-- The platform of the registry at a position among a number of them. -/
def filePlatform (position total : Nat) : String :=
  if total = 1 then "file" else "file-" ++ toString position

/-- The settings of the mesh in a file, or the defaults without one. -/
def MeshSettings.load (file : Option String) (read : String → Reading) :
    Except StartError MeshSettings :=
  match file with
  | none => .ok {}
  | some path =>
    match read path with
    | .error source => .error (.readMesh path source)
    | .ok bytes =>
      match MeshSettings.ofBytes bytes with
      | .error source => .error (.parseMesh path source)
      | .ok mesh => .ok mesh

/-- The registries of the files at some paths, the first of them at a position among a number
    of files. -/
def loadRegistries (interval total : Nat) (read : String → Reading) (position : Nat) :
    List String → Except StartError (Aggregate FileRegistry)
  | [] => .ok .empty
  | path :: rest =>
    match FileRegistry.load path interval (read path) with
    | .error source => .error (.catalog source)
    | .ok registry =>
      match loadRegistries interval total read (position + 1) rest with
      | .error error => .error error
      | .ok more => .ok (.leaf (filePlatform position total) registry more)

/-- What the controller warns of. -/
inductive Warning where
  | noRegistries
  | registryPanicked (platform : String)
  | catalogNotReloaded (error : CatalogError)
  | reconciliationFailed (error : ReconcileError)
deriving DecidableEq

namespace Warning

/-- The words for a warning. -/
def message : Warning → String
  | .noRegistries => "No registries configured"
  | .registryPanicked _ => "Registry panicked"
  | .catalogNotReloaded _ => "Failed to reload registry catalog"
  | .reconciliationFailed _ => "Reconciliation failed"

/-- The error that a warning tells. -/
def error : Warning → Option String
  | .noRegistries => none
  | .registryPanicked _ => none
  | .catalogNotReloaded error => some error.message
  | .reconciliationFailed error => some error.chain

/-- The platform that a warning tells. -/
def platform : Warning → Option String
  | .registryPanicked platform => some platform
  | _ => none

end Warning

/-- The controller: registries, and the watcher that brings their services to the agent. -/
structure Controller where
  registries : Aggregate FileRegistry
  run : WatcherRun AgentState
  /-- How long proxies are given to stop, in milliseconds. -/
  stopTimeout : Nat

namespace Controller

/-- The handler by which the watcher listens to the registries. -/
def watcherHandler : Handler := 0

/-- The controller of some arguments. -/
def start (args : Args) (host : HostReadings) : Except StartError Controller :=
  match LogFilter.check args.logLevel with
  | some fault => .error (.logFilter args.logLevel fault)
  | none =>
    match host.directoryError with
    | some source => .error (.createDirectory args.configDir source)
    | none =>
      match MeshSettings.load args.meshConfig host.read with
      | .error error => .error error
      | .ok mesh =>
        match loadRegistries args.registryPollIntervalMs.toNat args.registryFiles.length host.read
            0 args.registryFiles with
        | .error error => .error error
        | .ok registries => .ok {
            registries := registries.map fun file => file.appendHandler .services watcherHandler
            run :=
              { watcher := { mesh }
                agent := { options := .ofMesh args.proxyBinary args.configDir mesh }
                grace := args.reloadGraceMs.toNat }
            stopTimeout := args.proxyStopTimeoutMs.toNat }

/-- The platforms and the registries, in order. -/
def registryList : Aggregate FileRegistry → List (String × FileRegistry)
  | .empty => []
  | .leaf platform registry rest => (platform, registry) :: registryList rest
  | .nested _ inner rest => registryList inner ++ registryList rest

/-- What the controller warns of as soon as it runs. -/
def firstWarnings (controller : Controller) : List Warning :=
  let registries := registryList controller.registries
  (if registries.isEmpty then [.noRegistries] else []) ++
    ((registries.filter fun (_, registry) => registry.state = .panicked).map fun (platform, _) =>
      .registryPanicked platform)

end Controller

end MeshSidecar
