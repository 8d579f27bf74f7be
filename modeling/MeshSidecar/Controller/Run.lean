import MeshSidecar.Controller.Start

/-!
# Running the controller

While the controller runs, its registries poll their files and its watcher makes the steps
that it can make. A poll tells the watcher of every service that changed; what the watcher
does about it waits for time to pass. When the controller is stopped, the watcher stops
before any proxy is told to, so that none is launched any more.
-/

namespace MeshSidecar

namespace Controller

/-- Polls the registries of an aggregate. What was told and warned of comes with them. -/
def pollAll (read : String → Reading) :
    Aggregate FileRegistry → Aggregate FileRegistry × List Delivery × List Warning
  | .empty => (.empty, [], [])
  | .leaf platform registry rest =>
    let outcome := registry.poll (read registry.path)
    let (rest, told, warnings) := pollAll read rest
    (.leaf platform outcome.registry rest, outcome.deliveries ++ told,
      (outcome.warning.map Warning.catalogNotReloaded).toList ++ warnings)
  | .nested platform inner rest =>
    let (inner, told, warnings) := pollAll read inner
    let (rest, moreTold, moreWarnings) := pollAll read rest
    (.nested platform inner rest, told ++ moreTold, warnings ++ moreWarnings)

/-- Lets every registry poll its file once. -/
def poll (controller : Controller) (read : String → Reading) : Controller × List Warning :=
  let (registries, told, warnings) := pollAll read controller.registries
  let notifications := Notification.ofDeliveries watcherHandler told
  ({ controller with registries := registries, run := controller.run.notify notifications },
    warnings)

/-- The warnings of failed reconciliations. -/
def reconciliationWarnings (done : List Reconciliation) : List Warning :=
  done.filterMap fun reconciliation =>
    match reconciliation.result with
    | .error error => some (.reconciliationFailed error)
    | .ok _ => none

/-- Lets a number of milliseconds pass. The result comes with the reconciliations that took
    place. -/
def advance (controller : Controller) (ms : Nat) : Controller × List Reconciliation :=
  let sources := controller.registries.leaves.map Discovery.services
  let (run, done) := controller.run.advance AgentState.reload sources ms
  ({ controller with run := run }, done)

/-- How long the agent waits for proxies to stop, in milliseconds: for as long as they are given,
    unless this is longer than the timer of the runtime allows, on which the watcher rests too. -/
def stopWait (controller : Controller) : Nat := min controller.stopTimeout WatcherRun.longestRest

/-- Stops the watcher and the registries, and then the proxies. -/
def stop (controller : Controller) : Controller × List Reconciliation :=
  let (controller, done) := { controller with run := controller.run.signal }.advance 0
  ({ controller with
      registries := controller.registries.map FileRegistry.stop
      run :=
        { controller.run with agent := controller.run.agent.shutdown controller.stopWait } },
    done)

end Controller

end MeshSidecar
