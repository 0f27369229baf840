import SpotServe.Reparallelization.Deployment

/-!
# The re-parallelization executor

`ReparallelizationExecutor.apply` of `sllm/spot/reparallelization_executor.py`, wired to the vLLM
deployment adapter as the router wires it.  It prepares the source, brings a target up, moves
traffic over and retires the source, each step with its own compensation.

* `resolvedTransitionMode`: which of the two orders is used, or why the settings contradict.
* `apply`: the transaction.
-/

namespace SpotServe
namespace Reparallelization

open Coroutine

/-- The settings of `ReparallelizationExecutor`; its current deployment is in the world. -/
structure ReparallelizationExecutor where
  stopCurrentBeforeCreate : Bool := false
  migrateBeforeCreate : Bool := false
  transitionMode : Option String := none
  migrationRequiresLiveSource : Bool := false

/-- The configuration texts of the modes. -/
def TransitionMode.text : TransitionMode → String
  | .makeBeforeBreak => "make_before_break"
  | .breakBeforeMake => "break_before_make"

namespace ReparallelizationExecutor

/-- The mode that `stop_current_before_create` selects when none is given. -/
def legacyMode (exec : ReparallelizationExecutor) : TransitionMode :=
  if exec.stopCurrentBeforeCreate then .breakBeforeMake else .makeBeforeBreak

/-- The configured mode; a missing or empty one is the legacy mode. -/
def configuredMode (exec : ReparallelizationExecutor) : Except Failure TransitionMode :=
  match exec.transitionMode with
  | none => .ok exec.legacyMode
  | some text =>
    if text = "" then .ok exec.legacyMode
    else if text = TransitionMode.makeBeforeBreak.text then .ok .makeBeforeBreak
    else if text = TransitionMode.breakBeforeMake.text then .ok .breakBeforeMake
    else .error (.unsupportedTransitionMode text)

/-- `resolved_transition_mode`. -/
def resolvedTransitionMode (exec : ReparallelizationExecutor) : Except Failure TransitionMode :=
  match exec.configuredMode with
  | .error e => .error e
  | .ok mode =>
    if exec.stopCurrentBeforeCreate ≠ decide (mode = .breakBeforeMake) then
      .error .transitionModeConflicts
    else if mode = .breakBeforeMake ∧ exec.migrateBeforeCreate ∧
        exec.migrationRequiresLiveSource then
      .error .liveSourceMigration
    else .ok mode

/-- In make-before-break mode the source is not stopped first. -/
theorem stopCurrentBeforeCreate_eq_false {exec : ReparallelizationExecutor}
    (h : exec.resolvedTransitionMode = .ok .makeBeforeBreak) :
    exec.stopCurrentBeforeCreate = false := by
  unfold resolvedTransitionMode at h
  cases hmode : exec.configuredMode with
  | error e =>
    rw [hmode] at h
    exact absurd h (by simp)
  | ok mode =>
    simp only [hmode] at h
    split_ifs at h with hstop hlive
    obtain rfl := Except.ok.inj h
    simpa using hstop

end ReparallelizationExecutor

section Apply

variable {π : Type} [DecidableEq π] (outside : Outside) (adapter : VllmDeploymentAdapter)
  (exec : ReparallelizationExecutor)

/-- Writing into `last_transition`. -/
def recordTransition (f : Transition → Transition) : Effect π Unit :=
  modify fun w => { w with lastTransition := w.lastTransition.map f }

/-- `last_transition["status"] = status`. -/
def setStatus (status : TransitionStatus) : Effect π Unit :=
  recordTransition fun t => { t with status }

/-- The first value of `last_transition`. -/
def startTransition (mode : TransitionMode) : Effect π Unit :=
  modify fun w =>
    { w with
      lastTransition := some {
        status := .started
        transitionMode := mode
        migrationRequestedBeforeCreate := exec.migrateBeforeCreate
        migrationRequiresLiveSource := exec.migrationRequiresLiveSource } }

/-- With `migrate_before_create` the source is drained before anything else. -/
def prepareSource : Effect π (Option (VllmDeployment π)) := do
  let w ← get
  match exec.migrateBeforeCreate, w.current with
  | true, some old =>
    drainWorkers outside old
    return some old
  | _, _ => return none

/-- With `stop_current_before_create` the source is drained and stopped first. -/
def stopSource : Effect π Unit := do
  let w ← get
  match exec.stopCurrentBeforeCreate, w.current with
  | true, some old =>
    drainWorkers outside old
    stopWorkers outside old
    modify fun w => { w with current := none }
    recordTransition fun t => { t with sourceStoppedBeforeTargetCreate := true }
  | _, _ => return ()

/-- The readiness check and the runtime check of a new target. -/
def checkTarget (target : VllmDeployment π) (plan : ParallelPlan π) : Effect π Unit := do
  let ready ← readyWorkers outside target plan
  if !ready then throw .targetWorkersNotReady
  match outside.verifyRuntime with
  | none => return ()
  | some result =>
    let verified ← call result
    if !verified then throw .targetRuntimeNotVerified

/-- Creating a target and checking it; a target that fails its checks is stopped. -/
def bringUpTarget (plan : ParallelPlan π) : Effect π (VllmDeployment π) := do
  let target ← onFailure (createWorkers outside adapter plan) (setStatus .targetCreateFailed)
  onFailure (checkTarget outside target plan) (do
    stopWorkers outside target
    setStatus .targetNotReady)
  return target

/-- Draining the source, unless it was drained at the start.  The deployment the executor holds is
the one prepared, so comparing them is comparing objects. -/
def drainSource (target : VllmDeployment π) (old preparedOld : Option (VllmDeployment π)) :
    Effect π Unit :=
  match old with
  | none => return ()
  | some source =>
    if preparedOld = some source then return ()
    else
      onFailure (drainWorkers outside source) (do
        stopWorkers outside target
        setStatus .sourceDrainFailed)

/-- Moving traffic to the target. -/
def switchTraffic (target : VllmDeployment π) (plan : ParallelPlan π) : Effect π Unit :=
  onFailure (switchWorkers outside target plan) (do
    stopWorkers outside target
    setStatus .trafficSwitchFailed)

/-- After the switch: the migrations are awaited and the source is stopped. -/
def retireSource (old : Option (VllmDeployment π)) : Effect π Unit :=
  match old with
  | none => return ()
  | some source => do
    callIfGiven outside.waitForMigration
    stopWorkers outside source

/-- Everything up to and including the traffic switch. -/
def transferTraffic (plan : ParallelPlan π) :
    Effect π (VllmDeployment π × Option (VllmDeployment π)) := do
  let preparedOld ← prepareSource outside exec
  stopSource outside exec
  let target ← bringUpTarget outside adapter plan
  let old := (← get).current
  recordTransition fun t => { t with sourceKeptAliveUntilTargetReady := old.isSome }
  drainSource outside target old preparedOld
  switchTraffic outside target plan
  return (target, old)

/-- `apply`. -/
def apply (plan : ParallelPlan π) : Effect π (VllmDeployment π) := do
  let mode ← answer exec.resolvedTransitionMode
  startTransition exec mode
  let (target, old) ← transferTraffic outside adapter exec plan
  modify fun w => { w with current := some target }
  retireSource outside old
  setStatus .applied
  return target

end Apply

end Reparallelization
end SpotServe
