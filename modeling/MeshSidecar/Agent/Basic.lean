import MeshSidecar.Host.Directory
import MeshSidecar.Host.Process
import MeshSidecar.Proxy.Reload

/-!
# The agent that runs proxies

The agent launches a generation of the proxy for each configuration it is given. It writes
the configuration to the file of the next epoch, launches the binary, and keeps a *record*
of the process. The epoch advances only if the launch succeeds. For each process a *reaper*
waits until it has ended, removes its file, and then forgets its record. The epochs on
record are published as the *live* ones.

The state holds the agent together with the part of its host that it deals with: the
directory of configuration files and the processes, which are numbered in the order in which
they were launched. Time is a number of milliseconds, and the warnings and the signals that
were given are kept in order.

What happens inside of a reload and of a reaper is split into the steps between which others
may act: `AgentState.writeConfig`, `AgentState.spawn` and `AgentState.enroll` for a reload,
one `AgentState.reapStep` after the other for a reaper.
-/

namespace MeshSidecar

/-- How far a reaper has come. -/
inductive ReapStage where
  /-- It waits for the process to end. -/
  | waiting
  /-- The process has been waited for; its number may be given to another one. -/
  | released
  /-- It is about to remove a file. -/
  | removing (config : String)
  /-- The file has been dealt with. -/
  | forgetting
  | done
deriving DecidableEq

/-- A process with its reaper. -/
structure Process where
  epoch : Epoch
  /-- How long the process goes on after SIGTERM, if it ever stops. -/
  stopsAfter : Option Nat
  /-- When and how the process ends, once that is certain. -/
  ending : Option (Nat × ExitStatus) := none
  reaper : ReapStage := .waiting
deriving DecidableEq

/-- What the agent knows of a process that is not reaped. -/
structure ProcessRecord where
  epoch : Epoch
  pid : ProcessId
  /-- The name of the configuration file. -/
  config : String
deriving DecidableEq

/-- What the agent warns of. -/
inductive AgentWarning where
  | exitedWithFailure (status : ExitStatus)
  | configNotRemoved (source : HostError)
  /-- Processes go on after the time that they were given to stop. -/
  | notStopped
  /-- Processes go on after SIGKILL. -/
  | notKilled
deriving DecidableEq

namespace AgentWarning

/-- The words for a warning. -/
def message : AgentWarning → String
  | .exitedWithFailure _ => "Proxy exited with failure"
  | .configNotRemoved _ => "Failed to remove proxy configuration"
  | .notStopped => "Proxy processes did not stop; sending SIGKILL"
  | .notKilled => "Proxy processes still running after SIGKILL"

/-- The error that a warning tells. -/
def error : AgentWarning → Option String
  | .configNotRemoved source => some source.message
  | _ => none

/-- The end of a process that a warning tells. -/
def status : AgentWarning → Option String
  | .exitedWithFailure status => some status.message
  | _ => none

end AgentWarning

/-- The agent and what it deals with. -/
structure AgentState where
  options : ProxyOptions
  /-- The epoch of the next generation. -/
  epoch : Epoch := 0
  records : List ProcessRecord := []
  /-- The epochs that were published last. -/
  live : List Epoch := []
  /-- What the binary does. -/
  program : Program := .runs (some 0)
  directory : Directory := {}
  /-- All processes that were launched; each has its position as its number. -/
  processes : List Process := []
  /-- The time. -/
  now : Nat := 0
  warnings : List AgentWarning := []
  /-- The signals that were sent. -/
  signals : List (ProcessId × Signal) := []
deriving DecidableEq

namespace AgentState

/-- Gives a warning. -/
def warn (state : AgentState) (warning : AgentWarning) : AgentState :=
  { state with warnings := state.warnings ++ [warning] }

/-- Publishes the epochs on record. -/
def publish (state : AgentState) : AgentState :=
  { state with live := state.records.map (·.epoch) }

-- ── Reloading ───────────────────────────────────────────────────────────────

/-- Writes the file of the next epoch. -/
def writeConfig (state : AgentState) (config : Config) : AgentState × Option HostError :=
  let (directory, error) := state.directory.write (configName state.epoch) (Text.bytes config.text)
  ({ state with directory := directory }, error)

/-- Removes a configuration file, with a warning if that fails. -/
def removeConfig (state : AgentState) (config : String) : AgentState :=
  match state.directory.remove config with
  | (directory, none) => { state with directory := directory }
  | (directory, some error) =>
      warn { state with directory := directory } (.configNotRemoved error)

/-- Whether a text can be passed to a process. -/
def passable (text : String) : Bool := !text.toList.contains (Char.ofNat 0)

/-- Launches the binary for the next epoch. The answer is the number of the process. -/
def spawn (state : AgentState) : AgentState × Except HostError ProcessId :=
  if (state.options.binary :: state.options.arguments state.epoch).all passable then
    match state.program with
    | .refused kind => (state, .error (.system kind))
    | .runs stopsAfter =>
      ({ state with processes := state.processes ++ [⟨state.epoch, stopsAfter, none, .waiting⟩] },
        .ok state.processes.length)
  else (state, .error .nulByte)

/-- Puts a launched process on record and advances the epoch. -/
def enroll (state : AgentState) (pid : ProcessId) : AgentState :=
  publish
    { state with
      records := state.records ++ [⟨state.epoch, pid, configName state.epoch⟩]
      epoch := state.epoch + 1 }

/-- Brings a configuration to a new generation of the proxy. -/
def reload : Agent AgentState := fun config state =>
  match state.writeConfig config with
  | (state, some error) =>
      (.error (.writeConfig (state.options.configPath state.epoch) error), state)
  | (state, none) =>
    match state.spawn with
    | (state, .error error) =>
        (.error (.spawn state.options.binary error), state.removeConfig (configName state.epoch))
    | (state, .ok pid) => (.ok state.epoch, state.enroll pid)

-- ── Processes ───────────────────────────────────────────────────────────────

/-- Changes the process with a number. -/
def modifyProcess (state : AgentState) (pid : ProcessId) (f : Process → Process) : AgentState :=
  { state with processes := state.processes.modify pid f }

/-- How a process has ended, if it has. -/
def ended? (state : AgentState) (process : Process) : Option ExitStatus :=
  match process.ending with
  | some (time, status) => if time ≤ state.now then some status else none
  | none => none

/-- A process that has not ended is going to end in some way at some time. -/
def endAt (state : AgentState) (time : Nat) (status : ExitStatus) (process : Process) : Process :=
  if (state.ended? process).isSome then process else { process with ending := some (time, status) }

/-- Ends a process now. -/
def finish (state : AgentState) (pid : ProcessId) (status : ExitStatus) : AgentState :=
  state.modifyProcess pid (state.endAt state.now status)

/-- Sends a signal to the process with a number, if it still has that number. -/
def signal (state : AgentState) (pid : ProcessId) (signal : Signal) : AgentState :=
  let react (process : Process) : Process :=
    match signal, process.stopsAfter, process.ending with
    | .kill, _, _ => state.endAt state.now (.signal .kill) process
    | .term, some delay, none => state.endAt (state.now + delay) (.signal .term) process
    | .term, _, _ => process
  { state.modifyProcess pid react with signals := state.signals ++ [(pid, signal)] }

/-- Sends a signal to every process on record. -/
def signalAll (state : AgentState) (signal : Signal) : AgentState :=
  (state.records.map (·.pid)).foldl (fun state pid => state.signal pid signal) state

-- ── Reaping ─────────────────────────────────────────────────────────────────

/-- Moves a reaper to another stage. -/
def moveReaper (state : AgentState) (pid : ProcessId) (stage : ReapStage) : AgentState :=
  state.modifyProcess pid fun process => { process with reaper := stage }

/-- The next step of the reaper of a process, if it can make one. -/
def reapStep (state : AgentState) (pid : ProcessId) : Option AgentState :=
  match state.processes[pid]? with
  | none => none
  | some process =>
    match process.reaper with
    | .waiting =>
      match state.ended? process with
      | none => none
      | some status =>
        let state := state.moveReaper pid .released
        some (if status.isSuccess then state else state.warn (.exitedWithFailure status))
    | .released =>
      match state.records.find? (·.epoch = process.epoch) with
      | some record => some (state.moveReaper pid (.removing record.config))
      | none => some (state.moveReaper pid .forgetting)
    | .removing config => some ((state.removeConfig config).moveReaper pid .forgetting)
    | .forgetting =>
      let records := state.records.filter (·.epoch ≠ process.epoch)
      some ((publish { state with records := records }).moveReaper pid .done)
    | .done => none

/-- Lets the reaper of a process make up to a number of steps. -/
def reapSteps (pid : ProcessId) : Nat → AgentState → AgentState
  | 0, state => state
  | fuel + 1, state =>
    match state.reapStep pid with
    | none => state
    | some next => reapSteps pid fuel next

/-- Reaps every process that has ended. A reaper makes no more than four steps. -/
def settle (state : AgentState) : AgentState :=
  (List.range state.processes.length).foldl (fun state pid => reapSteps pid 4 state) state

/-- Ends the process on record for an epoch and reaps it. -/
def finishEpoch (state : AgentState) (epoch : Epoch) (status : ExitStatus) : AgentState :=
  match state.records.find? (·.epoch = epoch) with
  | some record => (state.finish record.pid status).settle
  | none => state

end AgentState

end MeshSidecar
