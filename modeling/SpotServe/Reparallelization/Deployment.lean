import SpotServe.Cluster.InstanceHandle
import SpotServe.Library.Coroutine
import SpotServe.Library.PyValue

/-!
# The vLLM deployment adapter

`sllm/spot/vllm_deployment_adapter.py` starts, checks, drains and stops the Ray actors of a
parallel plan.  Handles are objects that the router, the adapter and the executor share, so they
live in a heap and a deployment names them by reference: what `drain_workers` does to a handle is
seen by everybody.

What the scheduler, Ray, the actors and the router's callbacks answer is not decided here.  It is
collected in `Outside`, one answer for each call, and every statement quantifies over it.

* `createWorkers`, `readyWorkers`, `switchWorkers`, `drainWorkers`, `stopWorkers`: the adapter.
* `Failure`: the exceptions, with the texts of those the program raises itself.
-/

namespace SpotServe
namespace Reparallelization

open Cluster

/-- `ParallelPlan`.  Its constructor raises every count below to at least one.  The expert
placement plan is a payload of type `π` that nothing here looks into. -/
structure ParallelPlan (π : Type) where
  modelName : String
  backend : String
  tensorParallelSize : ℕ
  dataParallelSize : ℕ
  pipelineParallelSize : ℕ := 1
  replicaCount : ℕ := 1
  enableExpertParallel : Bool := false
  numGpus : ℕ := 1
  targetNodes : List String := []
  placementEpoch : ℕ := 0
  expertPlacementPlan : Option π := none
  reason : String := "replan"
  batchSize : ℕ := 0
  tensorParallelSize_pos : 0 < tensorParallelSize
  dataParallelSize_pos : 0 < dataParallelSize
  pipelineParallelSize_pos : 0 < pipelineParallelSize
  replicaCount_pos : 0 < replicaCount
  numGpus_pos : 0 < numGpus
  deriving DecidableEq

/-- `{"num_cpus": .., "num_gpus": ..}`. -/
structure ResourceRequirements where
  numCpus : ℕ
  numGpus : ℕ
  deriving DecidableEq

/-- `VllmDeployment`.  The instances are references into the heap, by instance id.  The backend
configuration stands beside it, in `ConfiguredDeployment`: the executor does not look at it. -/
structure VllmDeployment (π : Type) where
  plan : ParallelPlan π
  instances : Py.OrderedDict String ℕ := .empty
  resourceRequirements : ResourceRequirements
  deriving DecidableEq

/-- The handles of a deployment. -/
def VllmDeployment.refs {π : Type} (d : VllmDeployment π) : List ℕ := d.instances.values

/-- The part of the adapter's configuration that its control flow reads. -/
structure VllmDeploymentAdapter where
  modelName : String
  /-- `resource_requirements["num_cpus"]`, as given. -/
  numCpus : ℤ := 1
  maxQueueLength : ℕ := 1
  /-- `spotserve_distributed_gpu_allocation`. -/
  distributedGpuAllocation : Bool := false
  /-- `spotserve_vllm_ray_dp_owns_gpus`. -/
  rayDpOwnsGpus : Bool := false

/-- What `allocate_distributed_resource` answers when it answers a mapping.  Its values are the
scheduler's own: one that cannot be read as it should be raises, with a text. -/
structure DistributedAllocation where
  /-- `str(allocation.get("node_id") or "")` -/
  nodeId : Except String String
  /-- `[str(node) for node in allocation.get("target_node_ids", [])]` -/
  targetNodeIds : Except String (List String)
  /-- `dict(allocation.get("node_allocations", {}))` -/
  nodeAllocations : Except String (Py.OrderedDict String ℤ)

/-- The answers of everything the adapter and the executor call.  Numbered answers are those for
the replica of that number; an error is an exception with its text. -/
structure Outside where
  /-- `_known_scheduler_node_ids`. -/
  knownSchedulerNodeIds : Option (List String) := none
  /-- The generated instance ids. -/
  instanceId : ℕ → String
  allocateResource : ℕ → Except String String
  /-- Missing on schedulers without distributed allocation; `none` is a result that is no
  mapping. -/
  allocateDistributedResource : Option (ℕ → Except String (Option DistributedAllocation)) := none
  startInstance : ℕ → Except String String
  initBackend : ℕ → Except String Unit
  /-- `get_runtime_metadata` of an instance: whether the result is a mapping. -/
  runtimeMetadata : String → Except String Bool
  /-- Whether `deallocate_resource` of an instance comes through. -/
  deallocateResource : String → Bool := fun _ => true
  requestMigrator : Option (Except String Unit) := none
  /-- The concurrency of an instance when its drain is over. -/
  concurrencyAfterDrain : String → ℤ → ℤ := fun _ c => c
  trafficSwitcher : Except String Unit
  verifyRuntime : Option (Except String Bool) := none
  waitForMigration : Option (Except String Unit) := none

/-- The exceptions of the adapter and of the executor. -/
inductive Failure where
  /-- An exception of an outside call. -/
  | raised (text : String)
  | unsupportedTransitionMode (mode : String)
  | transitionModeConflicts
  | liveSourceMigration
  | backendNotSupported (backend : String)
  | planModelMismatch (planModel modelName : String)
  | noGpusPerReplica
  | numGpusTooSmall (numGpus expected : ℕ)
  | targetNodeNotInSnapshot (node : String)
  | distributedAllocationUnavailable
  | distributedAllocationResultInvalid
  | schedulerDidNotReserve
  | targetWorkersNotReady
  | targetRuntimeNotVerified
  | planChangedBeforeSwitch
  deriving DecidableEq

/-- The texts of the exceptions; the backend and the models are printed with `!r`. -/
def Failure.message : Failure → String
  | .raised text => text
  | .unsupportedTransitionMode mode => "unsupported_transition_mode:" ++ mode
  | .transitionModeConflicts => "transition_mode_conflicts_with_stop_current_before_create"
  | .liveSourceMigration => "live_source_migration_requires_make_before_break"
  | .backendNotSupported backend =>
    "VllmDeploymentAdapter only supports backend='vllm', got " ++ Py.Value.repr (.str backend)
  | .planModelMismatch planModel modelName =>
    "plan model " ++ Py.Value.repr (.str planModel) ++ " does not match " ++
      Py.Value.repr (.str modelName)
  | .noGpusPerReplica => "parallel plan has no GPUs per replica"
  | .numGpusTooSmall numGpus expected =>
    "parallel plan num_gpus is smaller than its replica shape: " ++ toString numGpus ++ " < " ++
      toString expected
  | .targetNodeNotInSnapshot node => "target_worker_node_not_in_scheduler_snapshot: " ++ node
  | .distributedAllocationUnavailable => "scheduler_distributed_allocation_unavailable"
  | .distributedAllocationResultInvalid => "scheduler_distributed_allocation_result_invalid"
  | .schedulerDidNotReserve => "scheduler_did_not_reserve_worker_nodes"
  | .targetWorkersNotReady => "target_workers_not_ready"
  | .targetRuntimeNotVerified => "target_runtime_not_verified"
  | .planChangedBeforeSwitch => "deployment plan changed before traffic switch"

/-- `last_transition["status"]`. -/
inductive TransitionStatus where
  | started
  | targetCreateFailed
  | targetNotReady
  | sourceDrainFailed
  | trafficSwitchFailed
  | applied
  deriving DecidableEq

/-- The transition modes. -/
inductive TransitionMode where
  | makeBeforeBreak
  | breakBeforeMake
  deriving DecidableEq

/-- `last_transition`. -/
structure Transition where
  status : TransitionStatus
  transitionMode : TransitionMode
  migrationRequestedBeforeCreate : Bool
  migrationRequiresLiveSource : Bool
  sourceStoppedBeforeTargetCreate : Bool := false
  sourceKeptAliveUntilTargetReady : Bool := false
  deriving DecidableEq

/-- Everything the adapter and the executor change: the handles, the scheduler's reservations, the
deployments traffic was switched to (latest first), and the executor's own two fields. -/
structure World (π : Type) where
  heap : List InstanceHandle
  reservations : List String := []
  switched : List (VllmDeployment π) := []
  current : Option (VllmDeployment π) := none
  lastTransition : Option Transition := none

/-- A coroutine over the world. -/
abbrev Effect (π : Type) := EStateM Failure (World π)

section Adapter

variable {π : Type} [DecidableEq π] (outside : Outside) (adapter : VllmDeploymentAdapter)

/-- Replacing a handle by what an operation makes of it. -/
def updateHandle (ref : ℕ) (f : InstanceHandle → InstanceHandle) : Effect π Unit :=
  modify fun w => { w with heap := w.heap.modify ref f }

/-- A new handle object. -/
def newHandle (h : InstanceHandle) : Effect π ℕ := fun w =>
  .ok w.heap.length { w with heap := w.heap ++ [h] }

/-- An outside call that may raise. -/
def call {α : Type} (r : Except String α) : Effect π α :=
  Coroutine.answer (r.mapError Failure.raised)

/-- A callback that may be missing. -/
def callIfGiven (r : Option (Except String Unit)) : Effect π Unit :=
  match r with
  | none => pure ()
  | some result => call result

/-- `_replica_gpu_count`. -/
def replicaGpuCount (plan : ParallelPlan π) : Except Failure ℕ :=
  let replicaGpus :=
    plan.tensorParallelSize * plan.pipelineParallelSize * plan.dataParallelSize
  if replicaGpus ≤ 0 then .error .noGpusPerReplica
  else
    let expected := replicaGpus * max plan.replicaCount 1
    if plan.numGpus < expected then .error (.numGpusTooSmall plan.numGpus expected)
    else .ok replicaGpus

/-! ## `stop_workers` and `drain_workers` -/

/-- The loop body of `stop_workers`.  What stopping or killing the actor raises is logged and
forgotten, and so is a failed deallocation. -/
def stopWorker (item : String × ℕ) : Effect π Unit := do
  updateHandle item.2 InstanceHandle.markDead
  modify fun w =>
    if outside.deallocateResource item.1 then
      { w with reservations := w.reservations.filter (· ≠ item.1) }
    else w

/-- `stop_workers`. -/
def stopWorkers (deployment : VllmDeployment π) : Effect π Unit :=
  deployment.instances.entries.forM (stopWorker outside)

/-- `drain_workers`.  The wait for the handles to become idle ends at its deadline without
raising, and changes no handle. -/
def drainWorkers (deployment : VllmDeployment π) : Effect π Unit := do
  deployment.refs.forM fun ref => updateHandle ref InstanceHandle.markDraining
  callIfGiven outside.requestMigrator
  deployment.refs.forM fun ref => updateHandle ref fun h =>
    { h with concurrency := outside.concurrencyAfterDrain h.instanceId h.concurrency }

/-! ## `create_workers` -/

/-- The scheduler's answer for one replica: where the actor starts, and what is reserved. -/
structure Reservation where
  startupNode : String
  allocatedNodes : List String
  nodeAllocations : Py.OrderedDict String ℤ

/-- What `create_workers` makes of a distributed allocation. -/
def DistributedAllocation.reservation (allocation : DistributedAllocation) :
    Except Failure Reservation := do
  let startupNode ← allocation.nodeId.mapError .raised
  let allocatedNodes ← allocation.targetNodeIds.mapError .raised
  if startupNode = "" ∨ allocatedNodes = [] then throw .schedulerDidNotReserve
  let nodeAllocations ← allocation.nodeAllocations.mapError .raised
  return { startupNode, allocatedNodes, nodeAllocations }

/-- Does this plan use distributed allocation? -/
def distributedAllocation (plan : ParallelPlan π) : Bool :=
  adapter.distributedGpuAllocation && adapter.rayDpOwnsGpus && decide (1 < plan.targetNodes.length)

/-- The node a replica is meant for. -/
def targetNodeId (plan : ParallelPlan π) (replica : ℕ) : Option String :=
  plan.targetNodes[replica % plan.targetNodes.length]?

/-- The target node must be in the scheduler's snapshot, when there is one. -/
def checkTargetNode (plan : ParallelPlan π) (replica : ℕ) : Except Failure Unit :=
  match targetNodeId plan replica, outside.knownSchedulerNodeIds with
  | some node, some known =>
    if node ∈ known then .ok () else .error (.targetNodeNotInSnapshot node)
  | _, _ => .ok ()

/-- Reserving resources for one replica.  A call that came through has reserved them, whatever
becomes of its result. -/
def reserve (plan : ParallelPlan π) (replicaGpus replica : ℕ) : Effect π Reservation := do
  let reserved : Effect π Unit :=
    modify fun w => { w with reservations := outside.instanceId replica :: w.reservations }
  if distributedAllocation adapter plan then
    match outside.allocateDistributedResource with
    | none => throw .distributedAllocationUnavailable
    | some allocateDistributed => do
      let result ← call (allocateDistributed replica)
      reserved
      match result with
      | none => throw .distributedAllocationResultInvalid
      | some allocation => Coroutine.answer allocation.reservation
  else do
    let node ← call (outside.allocateResource replica)
    reserved
    pure ⟨node, [node], Py.OrderedDict.empty.set node replicaGpus⟩

/-- The handle of a replica, not yet started. -/
def startingHandle (replicaGpus replica : ℕ) (reservation : Reservation) : InstanceHandle where
  instanceId := outside.instanceId replica
  maxQueueLength := adapter.maxQueueLength
  numGpu := replicaGpus
  nodeId := some reservation.startupNode
  memberNodeIds := reservation.allocatedNodes
  nodeAllocations := reservation.nodeAllocations

/-- Starting and initialising the actor behind a handle. -/
def startActor (ref replica : ℕ) (reservation : Reservation) : Effect π Unit := do
  let actor ← call (outside.startInstance replica)
  updateHandle ref fun h => { h with backendInstance := some actor }
  call (outside.initBackend replica)
  updateHandle ref fun h => (h.markReady (some reservation.startupNode)).2

/-- The loop body of `create_workers`.  The handle enters the deployment before its actor is
started, and an exception leaves with the deployment as far as it came. -/
def startReplica (plan : ParallelPlan π) (replicaGpus : ℕ) (deployment : VllmDeployment π)
    (replica : ℕ) : EStateM (VllmDeployment π × Failure) (World π) (VllmDeployment π) := fun w =>
  match (do
      Coroutine.answer (checkTargetNode outside plan replica)
      reserve outside adapter plan replicaGpus replica : Effect π Reservation) w with
  | .error e w => .error (deployment, e) w
  | .ok reservation w =>
    match newHandle (startingHandle outside adapter replicaGpus replica reservation) w with
    | .error e w => .error (deployment, e) w
    | .ok ref w =>
      let deployment :=
        { deployment with
          instances := deployment.instances.set (outside.instanceId replica) ref }
      match startActor outside ref replica reservation w with
      | .error e w => .error (deployment, e) w
      | .ok _ w => .ok deployment w

/-- The replica loop of `create_workers`: when a replica fails, the replicas so far are
stopped. -/
def startReplicas (plan : ParallelPlan π) (replicaGpus : ℕ) : Effect π (VllmDeployment π) := fun w =>
  let deployment : VllmDeployment π :=
    { plan, resourceRequirements := ⟨adapter.numCpus.toNat, replicaGpus⟩ }
  match (List.range (max plan.replicaCount 1)).foldlM
      (startReplica outside adapter plan replicaGpus) deployment w with
  | .ok deployment w => .ok deployment w
  | .error (deployment, e) w =>
    Coroutine.onFailure (throw e) (stopWorkers outside deployment) w

/-- `create_workers`. -/
def createWorkers (plan : ParallelPlan π) : Effect π (VllmDeployment π) := do
  if plan.backend ≠ "vllm" then throw (.backendNotSupported plan.backend)
  if plan.modelName ≠ adapter.modelName then
    throw (.planModelMismatch plan.modelName adapter.modelName)
  let replicaGpus ← Coroutine.answer (replicaGpuCount plan)
  startReplicas outside adapter plan replicaGpus

/-! ## `ready_workers` and `switch_workers` -/

/-- The readiness of one handle: a probe that raises counts as not ready. -/
def handleReady (h : InstanceHandle) : Bool :=
  h.ready && decide (h.state = .ready) &&
    match outside.runtimeMetadata h.instanceId with
    | .ok isMapping => isMapping
    | .error _ => false

/-- `ready_workers`. -/
def readyWorkers (deployment : VllmDeployment π) (plan : ParallelPlan π) : Effect π Bool := do
  let w ← get
  if deployment.plan ≠ plan ∨ deployment.refs = [] then return false
  return deployment.refs.all fun ref => (w.heap[ref]?.map (handleReady outside)).getD false

/-- `switch_workers`. -/
def switchWorkers (deployment : VllmDeployment π) (plan : ParallelPlan π) : Effect π Unit := do
  if deployment.plan ≠ plan then throw .planChangedBeforeSwitch
  call outside.trafficSwitcher
  modify fun w => { w with switched := deployment :: w.switched }

end Adapter

end Reparallelization
end SpotServe
