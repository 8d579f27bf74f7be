import MeshSidecar.CommandLine.Args
import MeshSidecar.Decimal.Natural

/-!
# Reading the command line

Every argument of the program is an *option* with a long name and a value, which follows as
the next word or, after an equals sign, in the same one. The words are read from left to
right. A value that is a word of its own is looked at only when the next option is met or
the words have ended; until then the option is *pending*, and a word that nobody expects is
refused before anything is said about the pending option. An option may be given once, unless
it collects its values.

`--help` and `-h` ask for help; a request for help ends the reading.
-/

namespace MeshSidecar

/-- What can be wrong with a value. -/
inductive ValueFault where
  /-- The value is empty. -/
  | missing
  /-- The value is none of those that the option knows. -/
  | unknown
  | number (fault : Decimal.NumberFault)
deriving DecidableEq

/-- An option of the program. -/
structure ArgOption where
  /-- The name, without the dashes. -/
  name : String
  /-- What stands for the value where the option is spoken of. -/
  placeholder : String
  /-- Whether the option collects values. -/
  collects : Bool := false
  /-- Takes over a value. -/
  store : String → Args → Except ValueFault Args

namespace ArgOption

/-- An option as it is spoken of. -/
def usage (option : ArgOption) : String :=
  "--" ++ option.name ++ " <" ++ option.placeholder ++ ">"

/-- The value of an option that takes a path, which is not empty. -/
def path (put : String → Args → Args) (value : String) (args : Args) : Except ValueFault Args :=
  if value = "" then .error .missing else .ok (put value args)

/-- The value of an option that takes a number. -/
def number (put : UInt64 → Args → Args) (value : String) (args : Args) :
    Except ValueFault Args :=
  match Decimal.readWord64 value with
  | .ok n => .ok (put n args)
  | .error fault => .error (.number fault)

/-- The value of the option that takes a log format. -/
def format (value : String) (args : Args) : Except ValueFault Args :=
  match [LogFormat.plain, .json].find? (·.name = value) with
  | some format => .ok { args with logFormat := format }
  | none => .error (if value = "" then .missing else .unknown)

/-- The options of the program. -/
def all : List ArgOption :=
  [{ name := "log-level", placeholder := "LOG_LEVEL"
     store := fun logLevel args => .ok { args with logLevel } },
   { name := "log-format", placeholder := "LOG_FORMAT", store := format },
   { name := "proxy-binary", placeholder := "PROXY_BINARY"
     store := path fun proxyBinary args => { args with proxyBinary } },
   { name := "config-dir", placeholder := "CONFIG_DIR"
     store := path fun configDir args => { args with configDir } },
   { name := "mesh-config", placeholder := "MESH_CONFIG"
     store := path fun file args => { args with meshConfig := some file } },
   { name := "registry-file", placeholder := "REGISTRY_FILES", collects := true
     store := path fun file args => { args with registryFiles := args.registryFiles ++ [file] } },
   { name := "registry-poll-interval-ms", placeholder := "REGISTRY_POLL_INTERVAL_MS"
     store := number fun registryPollIntervalMs args => { args with registryPollIntervalMs } },
   { name := "reload-grace-ms", placeholder := "RELOAD_GRACE_MS"
     store := number fun reloadGraceMs args => { args with reloadGraceMs } },
   { name := "proxy-stop-timeout-ms", placeholder := "PROXY_STOP_TIMEOUT_MS"
     store := number fun proxyStopTimeoutMs args => { args with proxyStopTimeoutMs } }]

/-- The option of a name. -/
def find? (name : String) : Option ArgOption := all.find? (·.name = name)

end ArgOption

/-- The reason why the program does not start from a command line. -/
inductive UsageError where
  /-- Help was asked for. -/
  | help
  | unexpectedWord (word : String)
  /-- A value where none is taken. -/
  | unexpectedValue (value option : String)
  | missingValue (option : String)
  | repeated (option : String)
  | unknownValue (value option : String)
  | notANumber (value option : String) (fault : Decimal.NumberFault)
deriving DecidableEq

/-- The words for the reason; a request for help has none. -/
def UsageError.message : UsageError → String
  | .help => ""
  | .unexpectedWord word => "error: unexpected argument '" ++ word ++ "' found"
  | .unexpectedValue value option =>
      "error: unexpected value '" ++ value ++ "' for '" ++ option ++
        "' found; no more were expected"
  | .missingValue option =>
      "error: a value is required for '" ++ option ++ "' but none was supplied"
  | .repeated option => "error: the argument '" ++ option ++ "' cannot be used multiple times"
  | .unknownValue value option => "error: invalid value '" ++ value ++ "' for '" ++ option ++ "'"
  | .notANumber value option fault =>
      "error: invalid value '" ++ value ++ "' for '" ++ option ++ "': " ++ fault.message

namespace CommandLine

/-- What was read so far. -/
structure Progress where
  args : Args
  /-- The names of the options that have their values. -/
  given : List String := []
  /-- The option that waits for its value, or for its value to be looked at. -/
  pending : Option (ArgOption × Option String) := none

namespace Progress

/-- Takes over the value of an option. -/
def give (progress : Progress) (option : ArgOption) (value : String) :
    Except UsageError Progress :=
  if progress.given.contains option.name && !option.collects then
    .error (.repeated option.usage)
  else
    match option.store value progress.args with
    | .ok args => .ok { progress with args, given := option.name :: progress.given }
    | .error .missing => .error (.missingValue option.usage)
    | .error .unknown => .error (.unknownValue value option.usage)
    | .error (.number fault) => .error (.notANumber value option.usage fault)

/-- Looks at the value of the pending option, if there is one. -/
def resolve (progress : Progress) : Except UsageError Progress :=
  match progress.pending with
  | none => .ok progress
  | some (option, none) => .error (.missingValue option.usage)
  | some (option, some value) => { progress with pending := none }.give option value

/-- Resolves the pending option and then asks for help. -/
def help (progress : Progress) : Except UsageError Progress :=
  match progress.resolve with
  | .error error => .error error
  | .ok _ => .error .help

/-- Reads a word that names an option, without its dashes, and a value in the same word. -/
def long (progress : Progress) (name : String) (value : Option String) :
    Except UsageError Progress :=
  match ArgOption.find? name, value with
  | some option, some value =>
    match progress.resolve with
    | .error error => .error error
    | .ok progress => progress.give option value
  | some option, none =>
    match progress.resolve with
    | .error error => .error error
    | .ok progress => .ok { progress with pending := some (option, none) }
  | none, value =>
    if name = "help" then
      match value with
      | none => progress.help
      | some value => .error (.unexpectedValue value "--help")
    else .error (.unexpectedWord ("--" ++ name))

/-- Reads a word that is no option: the value that is waited for, if one is. -/
def word (progress : Progress) (text : String) : Except UsageError Progress :=
  match progress.pending with
  | some (option, none) => .ok { progress with pending := some (option, some text) }
  | _ => .error (.unexpectedWord text)

end Progress

/-- The text before the first equals sign, and the text after it if there is one. -/
def splitValue (text : List Char) : String × Option String :=
  match text.dropWhile (· ≠ '=') with
  | [] => (String.ofList text, none)
  | _ :: value => (String.ofList (text.takeWhile (· ≠ '=')), some (String.ofList value))

/-- Reads the words after the ones that were read. -/
def read : List String → Progress → Except UsageError Progress
  | [], progress => progress.resolve
  | text :: rest, progress =>
    match text.toList with
    | ['-', '-'] =>
      match rest with
      | [] => progress.resolve
      | next :: _ => .error (.unexpectedWord next)
    | '-' :: '-' :: option =>
      let (name, value) := splitValue option
      match progress.long name value with
      | .error error => .error error
      | .ok progress => read rest progress
    | '-' :: 'h' :: _ =>
      match progress.help with
      | .error error => .error error
      | .ok progress => read rest progress
    | '-' :: c :: _ => .error (.unexpectedWord (String.ofList ['-', c]))
    | _ =>
      match progress.word text with
      | .error error => .error error
      | .ok progress => read rest progress

end CommandLine

/-- Reads the words of a command line. The log level may also be set by the environment,
    which counts where no option sets it. -/
def Args.ofWords (words : List String) (environment : Option String) : Except UsageError Args :=
  let args : Args := match environment with
    | none => {}
    | some logLevel => { logLevel }
  match CommandLine.read words { args } with
  | .error error => .error error
  | .ok progress => .ok progress.args

end MeshSidecar
