import SpotServe.Reparallelization.UnchangedPlan

/-!
# Resizing a deployment in place

`resize_workers_elastic_ep` of `sllm/spot/vllm_deployment_adapter.py` changes the data-parallel size
of a running vLLM actor.  It closes the handle and waits for its requests, has the scheduler change
the reservation, before the engine grows or after it has shrunk, and has the backend resize the
engine (`scale_elastic_ep` of `sllm/backends/vllm_backend.py`).  What is undone when a step fails is
written out at that step.

The answers of the engine and of the scheduler are not decided here, and neither is what the drain
loop reads of the handle: they are collected in `ElasticOutside`.  A call of the scheduler that
raises has no effect.

* `scaleElasticEp`: the backend.
* `checkElastic`: the entry checks; `resizeWorkersElasticEp`: the adapter.
-/

namespace SpotServe
namespace Reparallelization

open Py Cluster Coroutine

/-! ## The state -/

/-- `BackendStatus`. -/
inductive BackendStatus where
  | uninitialized
  | running
  | stopping
  | deleting
  deriving DecidableEq

/-- `VllmBackend`, as far as a resize is concerned. -/
structure ElasticBackend where
  status : BackendStatus
  /-- `engine` is not `None`. -/
  hasEngine : Bool := true
  elasticEpEnabled : Bool
  rayDpOwnsGpus : Bool
  /-- The engine has a `scale_elastic_ep` that can be called. -/
  scalable : Bool := true
  backendConfig : BackendConfig
  /-- `engine_args.data_parallel_size`, when the arguments were kept. -/
  engineArgs : Option ℤ := none
  /-- The data-parallel size of the engine itself. -/
  engineSize : ℤ

/-- The instance with everything that keeps a record of its size. -/
structure ElasticWorld where
  /-- The handle of the only instance of the deployment. -/
  handle : InstanceHandle
  /-- `num_gpus` of the instance in the scheduler. -/
  schedulerGpus : ℕ
  backend : ElasticBackend
  adapter : ConfiguredAdapter

/-- The exceptions. -/
inductive ElasticFailure where
  /-- An exception of an outside call. -/
  | raised (text : String)
  | notAnInteger
  | newDataParallelSizeNotPositive
  | engineNotRunning
  | elasticEpNotEnabled
  | scaleNotAvailable
  | placementVerificationFailed (verification : String)
  | rollbackFailed (resizeError : ElasticFailure) (rollbackError : String)
  | requiresSingleReplica
  | requiresTp1Pp1
  | requiresExpertParallel
  | cannotChangeWorkerNode
  | gpuOwnershipNotEnabled
  | requiresRayDpBackend
  | missingBackendActor (instanceId : String)
  | scaleHookUnavailable
  | schedulerResizeUnavailable
  /-- An exception of `_replica_gpu_count`. -/
  | plan (e : Failure)
  | admissionDrainTimeout (activeRequests : ℤ)
  | runtimeResizeFailed
  | instanceStateChanged
  deriving DecidableEq

/-- The texts that the program gives its exceptions, but for those that print an object. -/
def ElasticFailure.message : ElasticFailure → Option String
  | .raised text => some text
  | .newDataParallelSizeNotPositive => some "new_data_parallel_size must be positive"
  | .engineNotRunning => some "vLLM engine is not running"
  | .elasticEpNotEnabled => some "spotserve_elastic_ep_not_enabled"
  | .scaleNotAvailable => some "vllm_scale_elastic_ep_not_available"
  | .placementVerificationFailed verification =>
    some ("elastic_ep_runtime_placement_verification_failed:" ++ verification)
  | .requiresSingleReplica => some "elastic_ep_requires_single_sllm_replica"
  | .requiresTp1Pp1 => some "elastic_ep_currently_requires_tp1_pp1"
  | .requiresExpertParallel => some "elastic_ep_requires_expert_parallel"
  | .cannotChangeWorkerNode => some "elastic_ep_cannot_change_worker_node"
  | .gpuOwnershipNotEnabled => some "vllm_ray_dp_gpu_ownership_not_enabled"
  | .requiresRayDpBackend => some "elastic_ep_requires_ray_dp_backend"
  | .missingBackendActor instanceId => some ("missing_backend_actor:" ++ instanceId)
  | .scaleHookUnavailable => some "vllm_scale_elastic_ep_hook_unavailable"
  | .schedulerResizeUnavailable => some "scheduler_resource_resize_unavailable"
  | .plan e => some e.message
  | .admissionDrainTimeout activeRequests =>
    some ("elastic_ep_admission_drain_timeout:active_requests=" ++ toString activeRequests)
  | .notAnInteger | .rollbackFailed _ _ | .runtimeResizeFailed | .instanceStateChanged => none

/-- A coroutine over the instance. -/
abbrev ElasticEffect := EStateM ElasticFailure ElasticWorld

/-- An outside call that may raise. -/
def callOutside {α : Type} (r : Except String α) : ElasticEffect α :=
  Coroutine.answer (r.mapError ElasticFailure.raised)

/-- Changing the backend. -/
def updateBackend (f : ElasticBackend → ElasticBackend) : ElasticEffect Unit :=
  modify fun w => { w with backend := f w.backend }

/-! ## `scale_elastic_ep` -/

/-- What the engine answers during one call of `scale_elastic_ep`. -/
structure ScaleAnswers where
  scale : Except String Unit := .ok ()
  /-- The size that a `scale` leaves which raises. -/
  sizeAfterFailure : ℤ := 0
  /-- The runtime metadata, when it can be read: whether they verify the placement, and the
  verification as it is printed. -/
  verification : Except String (Bool × String) := .ok (true, "")
  /-- The `scale` back. -/
  rollback : Except String Unit := .ok ()
  sizeAfterRollbackFailure : ℤ := 0

/-- What `scale_elastic_ep` returns, but for the duration and the verification. -/
structure ScaleResult where
  resized : Bool
  previousDataParallelSize : ℤ
  dataParallelSize : ℤ
  reason : String
  deriving DecidableEq

/-- `current_dp`. -/
def ElasticBackend.currentDp (b : ElasticBackend) : Except PlanningFailure ℤ :=
  intOr (b.backendConfig.get? "data_parallel_size") 1

/-- What the backend's configuration gets after a resize; the placement only when there is one. -/
def resizedItems (newDp : ℤ) (expertPlacementPlan : Option Dict) : List (String × Value) :=
  let size : List (String × Value) :=
    [("data_parallel_size", .int newDp),
      ("vllm_data_parallel_size", .int newDp),
      ("planned_effective_expert_parallel_size", .int newDp),
      ("planned_expert_parallel_size", .int newDp),
      ("expert_parallel_size_verified", .bool true),
      ("reparallelization_execution_model", .str "in_place_elastic_ep_resize"),
      ("reparallelization_execution_model_reason", .str "vllm_ray_dp_elastic_ep")]
  match expertPlacementPlan with
  | none | some [] => size
  | some placement => size ++ [("expert_placement_plan", .dict placement)]

/-- The part of the `try` after `scale`: the placement that the runtime reports. -/
def verifyPlacement (answers : ScaleAnswers) : Except ElasticFailure Unit :=
  match answers.verification with
  | .error text => .error (.raised text)
  | .ok (true, _) => .ok ()
  | .ok (false, verification) => .error (.placementVerificationFailed verification)

/-- Resizing the engine, and back again when its placement is not verified.  A backend whose engine
was left in between stops. -/
def reconfigure (answers : ScaleAnswers) (currentDp newDp : ℤ) : ElasticEffect Unit := do
  match answers.scale with
  | .error text => do
    updateBackend fun b => { b with status := .stopping, engineSize := answers.sizeAfterFailure }
    throw (.raised text)
  | .ok () => do
    updateBackend fun b => { b with engineSize := newDp }
    match verifyPlacement answers with
    | .ok () => pure ()
    | .error resizeError =>
      match answers.rollback with
      | .error text => do
        updateBackend fun b =>
          { b with status := .stopping, engineSize := answers.sizeAfterRollbackFailure }
        throw (.rollbackFailed resizeError text)
      | .ok () => do
        updateBackend fun b => { b with engineSize := currentDp }
        throw resizeError

/-- `scale_elastic_ep`. -/
def scaleElasticEp (answers : ScaleAnswers) (newDp : ℤ) (expertPlacementPlan : Option Dict) :
    ElasticEffect ScaleResult := do
  if newDp < 1 then throw .newDataParallelSizeNotPositive
  let b := (← get).backend
  if b.status ≠ .running ∨ b.hasEngine = false then throw .engineNotRunning
  if b.elasticEpEnabled = false ∨ b.rayDpOwnsGpus = false then throw .elasticEpNotEnabled
  if b.scalable = false then throw .scaleNotAvailable
  let currentDp ← Coroutine.answer (b.currentDp.mapError fun _ => ElasticFailure.notAnInteger)
  if currentDp = newDp then return ⟨false, currentDp, newDp, "already_at_target_size"⟩
  reconfigure answers currentDp newDp
  updateBackend fun b =>
    { b with
      backendConfig := setAll b.backendConfig (resizedItems newDp expertPlacementPlan)
      engineArgs := b.engineArgs.map fun _ => newDp }
  return ⟨true, currentDp, newDp, "vllm_ray_dp_elastic_ep"⟩

/-! ## `resize_workers_elastic_ep` -/

/-- The answers of everything that the adapter calls. -/
structure ElasticOutside where
  /-- The actor has a `scale_elastic_ep`. -/
  hasResizeRpc : Bool := true
  /-- The scheduler has a `resize_resource`. -/
  hasSchedulerResize : Bool := true
  /-- The concurrency that the drain loop reads before its deadline. -/
  firstPoll : ℤ
  laterPolls : List ℤ := []
  /-- The scheduler on the new size, before the engine grows. -/
  reserve : Except String Unit := .ok ()
  /-- The scheduler on the old size, after the engine has failed to grow. -/
  unreserve : Except String Unit := .ok ()
  /-- The scheduler on the new size, after the engine has shrunk. -/
  release : Except String Unit := .ok ()
  resize : ScaleAnswers := {}
  restore : ScaleAnswers := {}

/-- The entry checks: the instance, and its GPUs before and after. -/
def checkElastic (outside : ElasticOutside) (w : ElasticWorld) (deployment : ConfiguredDeployment)
    (plan : ParallelPlan Dict) : Except ElasticFailure (ℕ × ℕ) := do
  let source := deployment.plan
  let config := w.adapter.backendConfig
  match deployment.instances.keys, plan.replicaCount with
  | [instanceId], 1 => do
    if source.tensorParallelSize ≠ 1 ∨ plan.tensorParallelSize ≠ 1 ∨
        source.pipelineParallelSize ≠ 1 ∨ plan.pipelineParallelSize ≠ 1 then
      throw .requiresTp1Pp1
    if source.enableExpertParallel = false ∨ plan.enableExpertParallel = false then
      throw .requiresExpertParallel
    if source.targetNodes ≠ [] ∧ plan.targetNodes ≠ [] ∧
        sortedNodes source.targetNodes ≠ sortedNodes plan.targetNodes then
      throw .cannotChangeWorkerNode
    if configFlag config "spotserve_elastic_ep_enabled" = false then throw .elasticEpNotEnabled
    if configFlag config "spotserve_vllm_ray_dp_owns_gpus" = false then
      throw .gpuOwnershipNotEnabled
    if config.get? "data_parallel_backend" ≠ some (.str "ray") then throw .requiresRayDpBackend
    if w.handle.backendInstance = none then throw (.missingBackendActor instanceId)
    if outside.hasResizeRpc = false then throw .scaleHookUnavailable
    if outside.hasSchedulerResize = false then throw .schedulerResizeUnavailable
    let oldGpus ← (replicaGpuCount source).mapError .plan
    let newGpus ← (replicaGpuCount plan).mapError .plan
    return (oldGpus, newGpus)
  | _, _ => throw .requiresSingleReplica

/-- `mark_ready_after_drain`, without a new size. -/
def reopen : ElasticEffect Unit :=
  modify fun w => { w with handle := (w.handle.markReadyAfterDrain none).2 }

/-- The drain loop.  The requests that finish meanwhile lower the concurrency; at the deadline the
handle is opened again. -/
def drainLoop : ℤ → List ℤ → ElasticEffect Unit
  | poll, polls => do
    modify fun w => { w with handle := { w.handle with concurrency := poll } }
    if poll ≤ 0 then pure ()
    else
      match polls with
      | next :: polls => drainLoop next polls
      | [] => do
        reopen
        throw (.admissionDrainTimeout poll)

/-- `resize_resource`: the scheduler takes the new size, or raises and keeps the old one. -/
def schedulerResize (answer : Except String Unit) (gpus : ℕ) : ElasticEffect Unit := do
  callOutside answer
  modify fun w => { w with schedulerGpus := gpus }

/-- Growing needs the GPUs first. -/
def reserveScaleUp (outside : ElasticOutside) (oldGpus newGpus : ℕ) : ElasticEffect Unit :=
  if oldGpus < newGpus then onFailure (schedulerResize outside.reserve newGpus) reopen else pure ()

/-- The reservation goes back; that this fails is logged and forgotten. -/
def unreserveScaleUp (outside : ElasticOutside) (oldGpus newGpus : ℕ) : ElasticEffect Unit :=
  if oldGpus < newGpus then
    tryCatch (schedulerResize outside.unreserve oldGpus) fun _ => pure ()
  else pure ()

/-- The call of the runtime, and the check of what it returns. -/
def resizeRuntime (outside : ElasticOutside) (plan : ParallelPlan Dict) : ElasticEffect Unit := do
  let result ← scaleElasticEp outside.resize plan.dataParallelSize plan.expertPlacementPlan
  if result.resized = false ∧ result.reason ≠ "already_at_target_size" then
    throw .runtimeResizeFailed

/-- The engine gets its size back, and the handle is opened again. -/
def restoreRuntime (outside : ElasticOutside) (source : ParallelPlan Dict) :
    ElasticEffect Unit := do
  let _ ← scaleElasticEp outside.restore source.dataParallelSize none
  reopen

/-- Shrinking gives the GPUs back afterwards. -/
def releaseScaleDown (outside : ElasticOutside) (source : ParallelPlan Dict)
    (oldGpus newGpus : ℕ) : ElasticEffect Unit :=
  if newGpus < oldGpus then
    onFailure (schedulerResize outside.release newGpus) (restoreRuntime outside source)
  else pure ()

/-- What the configuration of the plan gets on top. -/
def elasticItems (drained : ℤ) : List (String × Value) :=
  [("reparallelization_execution_model", .str "in_place_elastic_ep_resize"),
    ("reparallelization_execution_model_reason", .str "vllm_ray_dp_elastic_ep"),
    ("expert_placement_execution_model", .str "quiescent_elastic_ep_resize"),
    ("expert_placement_execution_model_reason", .str "vllm_reinitialized_ep_process_group"),
    ("expert_placement_runtime_contract_mode", .str "quiescent_elastic_ep_resize"),
    ("expert_placement_live_migration_enabled", .bool false),
    ("expert_placement_quiescent_remap_enabled", .bool true),
    ("elastic_ep_admission_drained", .bool true),
    ("elastic_ep_drained_request_count", .int drained)]

/-- The records get the new size. -/
def commitResize (deployment : ConfiguredDeployment) (plan : ParallelPlan Dict) (newGpus : ℕ)
    (drained : ℤ) : ElasticEffect ConfiguredDeployment := do
  let w ← get
  let (reopened, handle) := w.handle.markReadyAfterDrain (some newGpus)
  if reopened = false then throw .instanceStateChanged
  let backendConfig :=
    setAll (planBackendConfig w.adapter.backendConfig plan) (elasticItems drained)
  let resources := { deployment.resourceRequirements with numGpus := newGpus }
  set { w with
    handle := handle
    adapter :=
      { w.adapter with backendConfig := backendConfig, resourceRequirements := resources } }
  return {
    plan := plan
    instances := deployment.instances
    resourceRequirements := resources
    backendConfig := backendConfig }

/-- `resize_workers_elastic_ep`. -/
def resizeWorkersElasticEp (outside : ElasticOutside) (deployment : ConfiguredDeployment)
    (plan : ParallelPlan Dict) : ElasticEffect ConfiguredDeployment := do
  let w ← get
  let (oldGpus, newGpus) ← Coroutine.answer (checkElastic outside w deployment plan)
  modify fun w => { w with handle := w.handle.markDraining }
  drainLoop outside.firstPoll outside.laterPolls
  reserveScaleUp outside oldGpus newGpus
  onFailure (resizeRuntime outside plan) (unreserveScaleUp outside oldGpus newGpus)
  releaseScaleDown outside deployment.plan oldGpus newGpus
  commitResize deployment plan newGpus (max 0 w.handle.concurrency)

end Reparallelization
end SpotServe
