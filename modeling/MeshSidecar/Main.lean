import MeshSidecar.Controller.Run

/-!
# The program

Reads the command line, starts the controller and keeps it running. What is decided, is
decided by the library; this module reads files and clocks for it, writes the configurations
it calls for, and prints what it has to say.

The program launches no process itself. For every generation it prints one line that starts
with `launch`, followed by the binary and its arguments, for the one who runs it to carry out.
-/

namespace MeshSidecar.Program

/-- The library's word for a refusal of the host. -/
def hostError (error : IO.Error) : HostError :=
  match error with
  | .noFileOrDirectory _ _ _ => .system .notFound
  | .permissionDenied _ _ _ => .system .permissionDenied
  | .alreadyExists _ code _ =>
      if code = 20 then .system .notADirectory else .system .alreadyExists
  | .inappropriateType _ code _ =>
      if code = 21 then .system .isADirectory else .system .notADirectory
  | .resourceExhausted _ _ _ => .system .storageFull
  | .invalidArgument _ code _ =>
      if code = 36 then .system .nameTooLong else .system .invalidInput
  | _ => .system .invalidInput

/-- Reads a file. -/
def readFile (path : String) : IO Reading := do
  try
    return .ok (← IO.FS.readBinFile path).toList
  catch error => return .error (hostError error)

/-- Reads some files. -/
def readFiles (paths : List String) : IO (String → Reading) := do
  let found ← paths.mapM fun path => return (path, ← readFile path)
  return fun path =>
    match found.find? (·.1 = path) with
    | some (_, reading) => reading
    | none => .error (.system .notFound)

/-- Makes a directory where it is missing. -/
def makeDirectory (path : String) : IO (Option HostError) := do
  try
    IO.FS.createDir path
    return none
  catch error =>
    match hostError error with
    | .system .notFound | .system .alreadyExists =>
      try
        IO.FS.createDirAll path
        return none
      catch error => return some (hostError error)
    | refusal => return some refusal

/-- Whether a directory can be reached: making it once more inside itself tells. -/
def accessOf (path : String) : IO Access := do
  try
    IO.FS.createDir (Text.Path.child path ".")
    return .reachable
  catch error =>
    match hostError error with
    | .system .notFound => return .missing
    | .system .notADirectory => return .obstructed
    | _ => return .reachable

/-- A line of the log. -/
def logLine (format : LogFormat) (warning : Warning) : String :=
  let fields := [("message", some warning.message), ("error", warning.error),
    ("platform", warning.platform)].filterMap fun (name, text) => text.map fun text => (name, text)
  match format with
  | .json =>
      (Json.object [("level", .string "WARN"),
        ("fields", .object (fields.map fun (name, text) => (name, .string text)))]).compact
  | .plain => " WARN " ++ String.intercalate " " (fields.map fun (name, text) =>
      if name = "message" then text else name ++ "=" ++ text)

/-- Lets the controller go on for a number of milliseconds, and carries out what it did. -/
def advance (format : LogFormat) (controller : Controller) (ms : Nat) : IO Controller := do
  let agent := controller.run.agent
  let access ← accessOf agent.options.configDir
  let agent := { agent with directory := { agent.directory with access := access } }
  let (controller, done) :=
    { controller with run := { controller.run with agent := agent } }.advance ms
  for reconciliation in done do
    match reconciliation.result, reconciliation.current with
    | .ok (.reloaded epoch), some config =>
      let options := controller.run.agent.options
      IO.FS.writeFile (options.configPath epoch) config.text
      IO.println (String.intercalate " "
        ("launch" :: options.binary :: options.arguments epoch))
    | _, _ => pure ()
  for warning in Controller.reconciliationWarnings done do
    IO.println (logLine format warning)
  return controller

/-- Polls the registries at an interval in milliseconds and lets the watcher follow them. -/
partial def follow (args : Args) (interval : Nat) (controller : Controller) : IO Unit := do
  let controller ← advance args.logFormat controller interval
  (← IO.getStdout).flush
  IO.sleep interval.toUInt32
  let (controller, warnings) := controller.poll (← readFiles args.registryFiles)
  for warning in warnings do
    IO.println (logLine args.logFormat warning)
  follow args interval controller

/-- The help text. -/
def help : String :=
  String.intercalate "\n"
    ("Keeps a sidecar proxy configured for the service mesh topology" :: "" ::
      "Usage: sidecar-controller [OPTIONS]" :: "" :: "Options:" ::
      (ArgOption.all.map fun option => "      " ++ option.usage) ++ ["  -h, --help"])

/-- Starts the controller and runs it. -/
def run (args : Args) : IO UInt32 := do
  let directoryError ←
    match LogFilter.check args.logLevel with
    | some _ => pure none
    | none => makeDirectory args.configDir
  let read ← readFiles (args.meshConfig.toList ++ args.registryFiles)
  match Controller.start args ⟨directoryError, read⟩ with
  | .error error =>
    IO.eprintln error.report
    return error.exitCode
  | .ok controller =>
    for warning in controller.firstWarnings do
      IO.println (logLine args.logFormat warning)
    follow args (max 1 args.registryPollIntervalMs.toNat) controller
    return 0

end MeshSidecar.Program

/-- The entry point of the program. -/
def main (words : List String) : IO UInt32 := do
  match MeshSidecar.Args.ofWords words (← IO.getEnv "SIDECAR_CONTROLLER_LOG") with
  | .error .help =>
    IO.println MeshSidecar.Program.help
    return 0
  | .error error =>
    IO.eprintln error.message
    return 2
  | .ok args => MeshSidecar.Program.run args
