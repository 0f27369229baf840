import SpotServe.Reparallelization.Deployment

/-!
# The instance pools of a router

`RoundRobinRouter` of `sllm/routers/roundrobin_router.py` files its inference instances in four
pools.  A start task carries a new instance from the starting pool to the ready one, which takes
minutes; `_stop_instance` moves an instance to the deleting pool, a start that fails ends in the
failed one, and `_switch_vllm_deployment` replaces the ready pool as a whole.

Every access to the pools is under `instance_management_lock`, so what a coroutine does between two
waits is one action.  `InstancePools` and `commit` are also what the adapter's `snapshot` reads;
there an instance is a reference into the heap of handles, here it is what the instance was started
with.

When the auto-scaler creates or stops an instance is left to the run, and so are the moments at
which the scheduler and Ray answer.
-/

namespace SpotServe
namespace Router

open Py Reparallelization

/-- The keys of `auto_scaling_config` that decide on the number of instances. -/
structure AutoScalingConfig where
  minInstances : ℤ := 0
  maxInstances : ℤ := 10
  target : ℤ := 2
  deriving DecidableEq

/-- `auto_scaler`.  A target of zero is a division by zero. -/
def autoScaler (requestCount : ℤ) (config : AutoScalingConfig) : Option ℤ :=
  if config.target = 0 then none
  else
    let desiredInstances := (requestCount + config.target - 1).fdiv config.target
    some (min config.maxInstances (max config.minInstances desiredInstances))

/-- The pools of a router and what it starts instances with.  A pool maps instance ids to
instances of type `ι`; the backend configuration is of type `κ`. -/
structure InstancePools (ι κ : Type) where
  startingInferenceInstances : OrderedDict String ι := .empty
  readyInferenceInstances : OrderedDict String ι := .empty
  deletingInferenceInstances : OrderedDict String ι := .empty
  failedInferenceInstances : OrderedDict String ι := .empty
  autoScalingConfig : AutoScalingConfig := {}
  backendConfig : κ
  resourceRequirements : ResourceRequirements

namespace InstancePools

variable {ι κ : Type}

/-- The part of `_switch_vllm_deployment` under the lock: the ready instances that the deployment
does not have are to be deleted, and the deployment is what serves and what is scaled. -/
def commit (p : InstancePools ι κ) (instances : OrderedDict String ι) (backendConfig : κ)
    (resourceRequirements : ResourceRequirements) (replicaCount : ℕ) : InstancePools ι κ :=
  { p with
    deletingInferenceInstances := p.deletingInferenceInstances.updateWith
      (p.readyInferenceInstances.filter fun instanceId _ => (instances.get? instanceId).isNone)
      fun _ _ handle => handle
    readyInferenceInstances := instances
    autoScalingConfig :=
      { p.autoScalingConfig with minInstances := replicaCount, maxInstances := replicaCount }
    backendConfig := backendConfig
    resourceRequirements := resourceRequirements }

/-- After a switch the auto-scaler wants as many instances as the plan has replicas, whatever the
load. -/
theorem autoScaler_commit (p : InstancePools ι κ) (instances : OrderedDict String ι)
    (backendConfig : κ) (resourceRequirements : ResourceRequirements) (replicaCount : ℕ)
    (requestCount : ℤ) (htarget : p.autoScalingConfig.target ≠ 0) :
    autoScaler requestCount
      (p.commit instances backendConfig resourceRequirements replicaCount).autoScalingConfig =
        some (replicaCount : ℤ) := by
  refine (if_neg htarget).trans ?_
  exact congrArg some (min_eq_left (le_max_left _ _))

end InstancePools

/-! ## Starting an instance -/

/-- An instance, by what it was started with.  The reservation of nodes that each startup adds to
its own copy of the configuration is left out. -/
structure Instance (κ : Type) where
  /-- `num_gpu` of the handle. -/
  numGpu : ℕ
  /-- The configuration of its actor. -/
  backendConfig : Option κ := none
  /-- The GPUs asked of the scheduler. -/
  reservedGpus : Option ℕ := none
  /-- The GPU count that `_start_instance` reads for its actor. -/
  startupGpus : Option ℕ := none
  deriving DecidableEq

/-- How far a start has come. -/
inductive StartPhase where
  /-- `_create_instance` made the handle and waits for the lock. -/
  | creating
  /-- The handle is in the starting pool, and the task has been created. -/
  | created
  /-- `_start_instance` copied the configuration and waits for the lock. -/
  | begun
  /-- The handle was found, and the scheduler is asked for GPUs. -/
  | allocating
  /-- The actor is started and initialised. -/
  | launched
  deriving DecidableEq

/-- A start of an instance that is under way. -/
structure StartTask (κ : Type) where
  phase : StartPhase
  handle : Instance κ
  deriving DecidableEq

/-- A deployment that the adapter built, with what its instances run with. -/
structure Deployment (κ : Type) where
  instances : OrderedDict String (Instance κ)
  backendConfig : κ
  resourceRequirements : ResourceRequirements
  replicaCount : ℕ

/-- The pools with the coroutines that are under way. -/
structure RouterState (κ : Type) extends InstancePools (Instance κ) κ where
  startTasks : OrderedDict String (StartTask κ) := .empty
  /-- The `_finish_instance` tasks that were created. -/
  finishTasks : List String := []

/-- What happens to a router between two waits of its coroutines. -/
inductive Action (κ : Type) where
  | createInstance (instanceId : String)
  | trackInstance (instanceId : String)
  | beginStart (instanceId : String)
  | findInstance (instanceId : String)
  | launch (instanceId : String)
  | join (instanceId : String)
  | failStart (instanceId : String)
  | cancelStart (instanceId : String)
  | stopInstance (instanceId : Option String)
  | finishInstance (instanceId : String)
  | shutdownInstance (instanceId : String)
  | switch (deployment : Deployment κ)

namespace RouterState

variable {κ : Type}

/-- `self.resource_requirements["num_gpus"]`. -/
def numGpus (s : RouterState κ) : ℕ := s.resourceRequirements.numGpus

/-- Is the instance in the starting pool? -/
def isStarting (s : RouterState κ) (instanceId : String) : Bool :=
  (s.startingInferenceInstances.get? instanceId).isSome

def setTask (s : RouterState κ) (instanceId : String) (task : StartTask κ) : RouterState κ :=
  { s with startTasks := s.startTasks.set instanceId task }

def endTask (s : RouterState κ) (instanceId : String) : RouterState κ :=
  { s with startTasks := s.startTasks.erase instanceId }

/-- The first part of `_create_instance`, up to the lock. -/
def createInstance (s : RouterState κ) (instanceId : String) : RouterState κ :=
  s.setTask instanceId ⟨.creating, { numGpu := s.numGpus }⟩

/-- The rest of `_create_instance`. -/
def trackInstance (s : RouterState κ) (instanceId : String) (handle : Instance κ) :
    RouterState κ :=
  { s.setTask instanceId ⟨.created, handle⟩ with
    startingInferenceInstances := s.startingInferenceInstances.set instanceId handle }

/-- The first part of `_start_instance`. -/
def beginStart (s : RouterState κ) (instanceId : String) (handle : Instance κ) : RouterState κ :=
  s.setTask instanceId ⟨.begun, { handle with backendConfig := some s.backendConfig }⟩

/-- The start looks its handle up, and asks the scheduler for GPUs. -/
def findInstance (s : RouterState κ) (instanceId : String) (handle : Instance κ) :
    RouterState κ :=
  if s.isStarting instanceId then
    s.setTask instanceId ⟨.allocating, { handle with reservedGpus := some s.numGpus }⟩
  else s.endTask instanceId

/-- The scheduler has answered, and the actor is started. -/
def launch (s : RouterState κ) (instanceId : String) (handle : Instance κ) : RouterState κ :=
  s.setTask instanceId ⟨.launched, { handle with startupGpus := some s.numGpus }⟩

/-- The actor is up.  An instance that is not in the starting pool any more is shut down. -/
def join (s : RouterState κ) (instanceId : String) (handle : Instance κ) : RouterState κ :=
  if s.isStarting instanceId then
    { s.endTask instanceId with
      readyInferenceInstances := s.readyInferenceInstances.set instanceId handle
      startingInferenceInstances := s.startingInferenceInstances.erase instanceId }
  else s.endTask instanceId

/-- The handler of an exception. -/
def failStart (s : RouterState κ) (instanceId : String) (handle : Instance κ) : RouterState κ :=
  { s.endTask instanceId with
    startingInferenceInstances := s.startingInferenceInstances.erase instanceId
    failedInferenceInstances := s.failedInferenceInstances.set instanceId handle }

/-- The handler of a cancellation, which pops the handle only when it had been found. -/
def cancelStart (s : RouterState κ) (instanceId : String) (phase : StartPhase) : RouterState κ :=
  match phase with
  | .creating => s
  | .created | .begun => s.endTask instanceId
  | .allocating | .launched =>
    { s.endTask instanceId with
      startingInferenceInstances := s.startingInferenceInstances.erase instanceId }

/-! ## Stopping and switching -/

/-- `_stop_instance` moves a ready instance to the deleting pool. -/
def moveToDeleting (s : RouterState κ) (instanceId : String) (handle : Instance κ) :
    RouterState κ :=
  { s with
    readyInferenceInstances := s.readyInferenceInstances.erase instanceId
    deletingInferenceInstances := s.deletingInferenceInstances.set instanceId handle
    finishTasks := s.finishTasks ++ [instanceId] }

/-- `_stop_instance`, of a given instance or of the last one that became ready.  An instance that is
not ready is reported, and an empty pool raises. -/
def stopInstance (s : RouterState κ) (instanceId : Option String) : RouterState κ :=
  match instanceId with
  | none =>
    match s.readyInferenceInstances.entries.getLast? with
    | some (instanceId, handle) => s.moveToDeleting instanceId handle
    | none => s
  | some instanceId =>
    match s.readyInferenceInstances.get? instanceId with
    | some handle => s.moveToDeleting instanceId handle
    | none => s

/-- `_finish_instance`. -/
def finishInstance (s : RouterState κ) (instanceId : String) : RouterState κ :=
  { s with
    deletingInferenceInstances := s.deletingInferenceInstances.erase instanceId
    finishTasks := s.finishTasks.erase instanceId }

/-- `_shutdown_instance` pops an instance from the first pool that has it. -/
def shutdownInstance (s : RouterState κ) (instanceId : String) : RouterState κ :=
  if (s.readyInferenceInstances.get? instanceId).isSome then
    { s with readyInferenceInstances := s.readyInferenceInstances.erase instanceId }
  else if s.isStarting instanceId then
    { s with startingInferenceInstances := s.startingInferenceInstances.erase instanceId }
  else if (s.deletingInferenceInstances.get? instanceId).isSome then
    { s with deletingInferenceInstances := s.deletingInferenceInstances.erase instanceId }
  else { s with failedInferenceInstances := s.failedInferenceInstances.erase instanceId }

/-- `_switch_vllm_deployment`, once its checks came through. -/
def switch (s : RouterState κ) (d : Deployment κ) : RouterState κ :=
  { s with
    toInstancePools := s.toInstancePools.commit d.instances d.backendConfig d.resourceRequirements
      d.replicaCount }

/-- A start task does what its phase is for. -/
def stepTask (s : RouterState κ) (instanceId : String) (phase : StartPhase)
    (f : Instance κ → RouterState κ) : Option (RouterState κ) :=
  match s.startTasks.get? instanceId with
  | some task => if task.phase = phase then some (f task.handle) else none
  | none => none

/-- One action, when it can happen. -/
def step (s : RouterState κ) : Action κ → Option (RouterState κ)
  | .createInstance instanceId => some (s.createInstance instanceId)
  | .trackInstance instanceId => s.stepTask instanceId .creating (s.trackInstance instanceId)
  | .beginStart instanceId => s.stepTask instanceId .created (s.beginStart instanceId)
  | .findInstance instanceId => s.stepTask instanceId .begun (s.findInstance instanceId)
  | .launch instanceId => s.stepTask instanceId .allocating (s.launch instanceId)
  | .join instanceId => s.stepTask instanceId .launched (s.join instanceId)
  | .failStart instanceId =>
    match s.startTasks.get? instanceId with
    | some ⟨.allocating, handle⟩ | some ⟨.launched, handle⟩ => some (s.failStart instanceId handle)
    | _ => none
  | .cancelStart instanceId =>
    (s.startTasks.get? instanceId).map fun task => s.cancelStart instanceId task.phase
  | .stopInstance instanceId => some (s.stopInstance instanceId)
  | .finishInstance instanceId =>
    if instanceId ∈ s.finishTasks then some (s.finishInstance instanceId) else none
  | .shutdownInstance instanceId => some (s.shutdownInstance instanceId)
  | .switch deployment => some (s.switch deployment)

end RouterState

end Router
end SpotServe
