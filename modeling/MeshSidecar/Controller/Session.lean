import MeshSidecar.Controller.Run
import MeshSidecar.Host.FileTree

/-!
# A controller on its host

A *session* is a controller together with the files of its host. Both sides see each other's
changes: a configuration that the agent writes may be the file that a registry polls, and a
file that is put into the agent's directory is met by the agent. So whatever the controller
does, it does by `Session.act`, which shows the agent its directory as it stands and puts it
back as the agent leaves it.

A session keeps what it warned of and which configurations were launched.
-/

namespace MeshSidecar

/-- A controller on its host. -/
structure Session where
  controller : Controller
  files : FileTree
  /-- The binaries that can be run, by their paths. -/
  binaries : List (String × Program)
  /-- What was warned of, other than by the agent. -/
  warnings : List Warning := []
  /-- The configurations of the generations that were launched. -/
  launched : List (Epoch × Config) := []

/-- The generation that a reconciliation launched, with its configuration. -/
def Reconciliation.launched? (done : Reconciliation) : Option (Epoch × Config) :=
  match done.result, done.current with
  | .ok (.reloaded epoch), some config => some (epoch, config)
  | _, _ => none

namespace Session

/-- The agent as it meets its host. Its binary is launched after the next configuration was
    written, so that one is in its place already. -/
def agentOnHost (s : Session) : AgentState :=
  let agent := s.controller.run.agent
  let dir := agent.options.configDir
  let directory := s.files.directoryAt dir
  let written := s.files.withDirectory dir (directory.write (configName agent.epoch) []).1
  { agent with directory, program := written.programAt s.binaries agent.options.binary }

/-- Lets the controller do something on its host. -/
def act (s : Session) (f : Controller → Controller × List Reconciliation) : Session :=
  let (controller, done) := f { s.controller with run := { s.controller.run with
    agent := s.agentOnHost } }
  let agent := controller.run.agent
  { s with
    controller
    files := s.files.withDirectory agent.options.configDir agent.directory
    warnings := s.warnings ++ Controller.reconciliationWarnings done
    launched := s.launched ++ done.filterMap Reconciliation.launched? }

/-- Lets every registry poll its file once. -/
def poll (s : Session) : Session :=
  let (controller, warned) := s.controller.poll s.files.read
  { s with controller, warnings := s.warnings ++ warned }

/-- Lets the period of grace pass, and the watcher do all that it can meanwhile. -/
def rest (s : Session) : Session := s.act fun controller => controller.advance controller.run.grace

/-- Lets the registries and the watcher follow the files, and then what the watcher did. -/
def follow (s : Session) : Session := s.poll.rest.poll.rest

/-- The process of a generation ends of its own accord and is reaped. -/
def finish (s : Session) (epoch : Epoch) : Session :=
  s.act fun controller => ({ controller with run := { controller.run with
    agent := controller.run.agent.finishEpoch epoch (.code 0) } }, [])

/-- Stops the controller. -/
def stop (s : Session) : Session := s.act Controller.stop

/-- Starts a controller on the files of a host. They come with the result, since the directory
    for configurations is made even if something else is no good. -/
def start (args : Args) (files : FileTree) (binaries : List (String × Program)) :
    FileTree × Except StartError Session :=
  let (files, directoryError) :=
    if (LogFilter.check args.logLevel).isSome then (files, none) else files.createAll args.configDir
  match Controller.start args ⟨directoryError, files.read⟩ with
  | .error error => (files, .error error)
  | .ok controller =>
    let s : Session := { controller, files, binaries, warnings := controller.firstWarnings }
    (files, .ok s.rest.follow)

end Session

end MeshSidecar
