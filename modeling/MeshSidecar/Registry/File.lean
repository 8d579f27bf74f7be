import MeshSidecar.Catalog.Document
import MeshSidecar.Registry.Basic

/-!
# Registries that follow a file

A *file registry* takes its catalog from a file and polls the file from then on. A poll that
finds a good catalog replaces the contents, and the handlers are told the difference. A poll
that finds no file, or one that is no catalog, leaves everything as it was and has a warning
as its only effect, so that the registry always holds what the last good file said.
-/

namespace MeshSidecar

/-- What came of reading a file. -/
abbrev Reading := Except HostError Bytes

/-- The catalog in the file at a path. -/
def Catalog.ofReading (path : String) : Reading → Except CatalogError Catalog
  | .error source => .error (.read path source)
  | .ok bytes => Catalog.ofBytes bytes

/-- Whether a registry is being run. -/
inductive PollState where
  | polling
  /-- The signal to stop was seen. -/
  | stopped
  /-- No time was left between two polls, which no clock can keep. -/
  | panicked
deriving DecidableEq

/-- A registry that follows a file. -/
structure FileRegistry where
  path : String
  registry : Registry
  state : PollState
deriving DecidableEq

/-- What a poll did. -/
structure PollOutcome where
  registry : FileRegistry
  deliveries : List Delivery
  /-- Why the file was passed over, if it was. -/
  warning : Option CatalogError

namespace FileRegistry

/-- The registry of a file that is to be polled at an interval in milliseconds. -/
def load (path : String) (interval : Nat) (reading : Reading) : Except CatalogError FileRegistry :=
  match Catalog.ofReading path reading with
  | .error error => .error error
  | .ok catalog => .ok ⟨path, { catalog }, if interval = 0 then .panicked else .polling⟩

/-- Takes over what a file says, if it says anything. -/
def sync (file : FileRegistry) (reading : Reading) : PollOutcome :=
  match Catalog.ofReading file.path reading with
  | .error error => ⟨file, [], some error⟩
  | .ok catalog =>
    ⟨{ file with registry := file.registry.mutate (.replace catalog) },
      file.registry.deliveries (.replace catalog), none⟩

/-- Lets one interval pass. -/
def poll (file : FileRegistry) (reading : Reading) : PollOutcome :=
  if file.state = .polling then file.sync reading else ⟨file, [], none⟩

/-- Raises the signal to stop. -/
def stop (file : FileRegistry) : FileRegistry :=
  if file.state = .polling then { file with state := .stopped } else file

/-- Appends a handler to the registry of the file. -/
def appendHandler (file : FileRegistry) (kind : HandlerKind) (handler : Handler) : FileRegistry :=
  { file with registry := file.registry.appendHandler kind handler }

end FileRegistry

/-- A registry that follows a file answers from the contents it has taken over. -/
instance : Discovery FileRegistry where
  services file := Discovery.services file.registry
  service? file := Discovery.service? file.registry
  instancesOf file := Discovery.instancesOf file.registry
  instancesAt file := Discovery.instancesAt file.registry
  managementPorts? file := Discovery.managementPorts? file.registry
  serviceAccounts? file := Discovery.serviceAccounts? file.registry

end MeshSidecar
