import MeshSidecar.Proxy.Generate
import MeshSidecar.Proxy.Reload
import MeshSidecar.Registry.Basic

/-!
# Watchers

A *watcher* keeps the proxy in step with the services. To *reconcile* is to generate the
configuration of the services as they are, and to hand it to the agent if it differs from
the one that the agent accepted last. A refused configuration is not remembered, so the next
reconciliation tries again.
-/

namespace MeshSidecar

/-- What a watcher is told about a service that changed. -/
structure Notification where
  hostname : String
  event : Event
deriving DecidableEq

/-- The notifications among what was told to a handler. -/
def Notification.ofDeliveries (handler : Handler) (told : List Delivery) : List Notification :=
  told.filterMap fun delivery =>
    match delivery.notice with
    | .serviceChanged service event =>
        if delivery.handler = handler then some ⟨service.hostname, event⟩ else none
    | .instanceChanged _ _ => none

/-- What a reconciliation led to. -/
inductive Reconciled where
  | unchanged
  | reloaded (epoch : Epoch)
deriving DecidableEq

/-- The reason why a reconciliation failed. -/
inductive ReconcileError where
  | generate (source : GenerateError)
  | reload (source : ReloadError)
deriving DecidableEq

namespace ReconcileError

/-- The words for the reason, without what caused it. -/
def message : ReconcileError → String
  | .generate _ => "failed to generate proxy configuration"
  | .reload _ => "failed to reload proxy"

/-- The words for the reason and for what caused it. -/
def chain (error : ReconcileError) : String :=
  error.message ++ ": " ++
    match error with
    | .generate source => source.message
    | .reload source => source.chain

end ReconcileError

/-- One who keeps the proxy in step. -/
structure Watcher where
  mesh : MeshSettings
  /-- The configuration that was accepted last. -/
  current : Option Config := none
deriving DecidableEq

namespace Watcher

/-- The configuration that services call for, if it is not the current one. -/
def plan (watcher : Watcher) (services : List Service) : Except GenerateError (Option Config) :=
  match Config.generate services watcher.mesh with
  | .error error => .error error
  | .ok config => .ok (if watcher.current = some config then none else some config)

/-- Reconciles the proxy with services. The result comes with the watcher and the agent as
    they are afterwards. -/
def reconcile {σ : Type} (agent : Agent σ) (services : List Service) (watcher : Watcher)
    (state : σ) : Except ReconcileError Reconciled × Watcher × σ :=
  match watcher.plan services with
  | .error error => (.error (.generate error), watcher, state)
  | .ok none => (.ok .unchanged, watcher, state)
  | .ok (some config) =>
    match agent config state with
    | (.error error, state) => (.error (.reload error), watcher, state)
    | (.ok epoch, state) => (.ok (.reloaded epoch), { watcher with current := some config }, state)

end Watcher

end MeshSidecar
