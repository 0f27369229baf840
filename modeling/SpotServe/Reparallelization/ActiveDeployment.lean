import SpotServe.Library.Json
import SpotServe.Reparallelization.WorkerNodes
import SpotServe.Router.InstancePools

/-!
# The active deployment

The router does not store the plan that it serves.  `VllmDeploymentAdapter.snapshot` of
`sllm/spot/vllm_deployment_adapter.py` reads it back, from the handles of the ready instances and
from the backend configuration that `_switch_vllm_deployment` installed, and a new decision of the
planner is compared with what was read (`_parallel_plans_match` of
`sllm/routers/roundrobin_router.py`).

* `planBackendConfig`: the configuration that `create_workers` starts the actors with.
* `switchVllmDeployment`: installing a deployment; `snapshot`: reading it back.
* `parallelPlansMatch`: the comparison.
-/

namespace SpotServe
namespace Reparallelization

open Py Cluster Router Runs

/-- `backend_config`. -/
abbrev BackendConfig := OrderedDict String Value

/-- Assigning one item after the other. -/
def setAll (config : BackendConfig) (items : List (String × Value)) : BackendConfig :=
  items.foldl (fun config item => config.set item.1 item.2) config

/-- `bool(config.get(key, False))`. -/
def configFlag (config : BackendConfig) (key : String) : Bool :=
  (config.get? key).any Value.truthy

/-- `effective_expert_parallel_size`. -/
def ParallelPlan.effectiveExpertParallelSize {π : Type} (plan : ParallelPlan π) : ℕ :=
  if plan.enableExpertParallel then plan.tensorParallelSize * plan.dataParallelSize else 1

/-- What `_plan_backend_config` writes for every plan, the batch size only when there is one. -/
def planItems (plan : ParallelPlan Dict) : List (String × Value) :=
  let shape : List (String × Value) :=
    [("tensor_parallel_size", .int plan.tensorParallelSize),
      ("pipeline_parallel_size", .int plan.pipelineParallelSize),
      ("data_parallel_size", .int plan.dataParallelSize),
      ("vllm_data_parallel_size", .int plan.dataParallelSize),
      ("replica_count", .int plan.replicaCount),
      ("sllm_replica_count", .int plan.replicaCount)]
  let batch : List (String × Value) :=
    if 0 < plan.batchSize then [("max_num_seqs", .int plan.batchSize)] else []
  let execution : List (String × Value) :=
    [("planned_effective_expert_parallel_size", .int plan.effectiveExpertParallelSize),
      ("planned_expert_parallel_size", .int plan.effectiveExpertParallelSize),
      ("expert_parallel_size_source",
        .str (if plan.enableExpertParallel then "derived_from_tp_dp" else "disabled")),
      ("expert_parallel_size_verified", .bool false),
      ("enable_expert_parallel", .bool plan.enableExpertParallel),
      ("placement_epoch", .int plan.placementEpoch),
      ("spotserve_target_worker_nodes", .list (plan.targetNodes.map .str)),
      ("reparallelization_execution_model", .str "actor_recreate"),
      ("reparallelization_execution_model_reason", .str "vllm_actor_recreate")]
  shape ++ batch ++ execution

/-- What it writes beside the placement when the plan places experts, the fingerprint and the
snapshot only when the placement has them. -/
def placementItems (placement : Dict) (placementEpoch : ℕ) : List (String × Value) :=
  let liveExpertRemap := (placement.lookup "live_expert_remap").any Value.truthy
  let physicalMigrationRequired :=
    match placement.lookup "expert_placement_physical_migration_required" with
    | some value => value.truthy
    | none => liveExpertRemap
  let placementSource :=
    match placement.lookup "placement_source" with
    | some value => value.toStr
    | none => "logical_reparallelization_planner"
  let fingerprint := placement.lookup "placement_fingerprint"
  let model : List (String × Value) :=
    [("expert_placement_execution_model",
        .str (if liveExpertRemap then "quiescent_fixed_ep_remap"
          else "expert_aware_actor_recreate")),
      ("expert_placement_execution_model_reason",
        .str (if liveExpertRemap then "opt_in_weight_transfer_after_actor_load"
          else "logical_expert_placement_plan_carried_into_recreated_actor")),
      ("expert_placement_runtime_contract_mode",
        .str (if liveExpertRemap then "quiescent_fixed_ep_remap" else "observe_only_contract")),
      ("expert_placement_live_migration_enabled", .bool false),
      ("expert_placement_quiescent_remap_enabled", .bool liveExpertRemap),
      ("expert_placement_physical_migration_required", .bool physicalMigrationRequired),
      ("expert_placement_runtime_verification_level", .str "unavailable"),
      ("expert_placement_runtime_verified_placement", .bool false),
      ("expert_placement_runtime_can_verify_physical_placement", .bool false),
      ("expert_placement_runtime_can_remap_live_ep_rank", .bool false),
      ("expert_placement_runtime_can_measure_all_to_all", .bool false),
      ("expert_placement_runtime_capability_reason",
        .str "awaiting_runtime_expert_placement_hook"),
      ("placement_source", .str placementSource)]
  let fingerprints : List (String × Value) :=
    if fingerprint.any Value.truthy then
      [("expert_placement_fingerprint", .str (strOr fingerprint "")),
        ("expert_placement_plan_fingerprint", .str (strOr fingerprint "")),
        ("expert_placement_contract_fingerprint", .str (strOr fingerprint ""))]
    else []
  let contract : List (String × Value) :=
    [("expert_placement_contract_available", .bool true),
      ("expert_placement_contract_source", .str placementSource),
      ("expert_placement_contract_epoch", .int placementEpoch),
      ("expert_placement_plan_applied", .bool false),
      ("expert_placement_plan_verified", .bool false)]
  let snapshot : List (String × Value) :=
    match placement.lookup "expert_placement_snapshot" with
    | some (.dict items) => [("expert_placement_snapshot", .dict items)]
    | _ => []
  model ++ fingerprints ++ contract ++ snapshot

/-- `_plan_backend_config`: an expert placement that is missing or empty is not written. -/
def planBackendConfig (config : BackendConfig) (plan : ParallelPlan Dict) : BackendConfig :=
  let config := setAll config (planItems plan)
  match plan.expertPlacementPlan with
  | none | some [] => config
  | some placement =>
    setAll (config.set "expert_placement_plan" (.dict placement))
      (placementItems placement plan.placementEpoch)

/-! ## Creating a deployment -/

/-- `VllmDeploymentAdapter` with its configuration. -/
structure ConfiguredAdapter where
  modelName : String
  maxQueueLength : ℕ := 1
  backendConfig : BackendConfig
  resourceRequirements : ResourceRequirements

/-- What `create_workers` reads of the adapter. -/
def ConfiguredAdapter.toAdapter (adapter : ConfiguredAdapter) : VllmDeploymentAdapter where
  modelName := adapter.modelName
  numCpus := adapter.resourceRequirements.numCpus
  maxQueueLength := adapter.maxQueueLength
  distributedGpuAllocation := configFlag adapter.backendConfig "spotserve_distributed_gpu_allocation"
  rayDpOwnsGpus := configFlag adapter.backendConfig "spotserve_vllm_ray_dp_owns_gpus"

/-- `VllmDeployment` with its backend configuration. -/
structure ConfiguredDeployment extends VllmDeployment Dict where
  backendConfig : BackendConfig

/-- What a distributed allocation reserves for a replica, where the scheduler answered one. -/
def reservationOf (outside : Outside) (replica : ℕ) : Option Reservation :=
  outside.allocateDistributedResource.bind fun allocate =>
    (allocate replica).toOption.join.bind fun allocation => allocation.reservation.toOption

/-- The nodes that a distributed allocation reserved, as an instance's configuration has them. -/
def reservationItems (reservation : Reservation) : List (String × Value) :=
  [("spotserve_reserved_worker_nodes", .list (reservation.allocatedNodes.map .str)),
    ("spotserve_distributed_node_allocations",
      .dict (reservation.nodeAllocations.entries.map fun item => (item.1, .int item.2)))]

/-- The backend configuration of the deployment that `create_workers` returns: that of the plan,
and of a single replica the nodes reserved for it. -/
def deployedConfig (outside : Outside) (adapter : ConfiguredAdapter) (plan : ParallelPlan Dict) :
    BackendConfig :=
  let config := planBackendConfig adapter.backendConfig plan
  if distributedAllocation adapter.toAdapter plan ∧ plan.replicaCount = 1 then
    match reservationOf outside 0 with
    | some reservation => setAll config (reservationItems reservation)
    | none => config
  else config

/-- `create_workers`. -/
def createConfigured (outside : Outside) (adapter : ConfiguredAdapter) (plan : ParallelPlan Dict) :
    Effect Dict ConfiguredDeployment := do
  let deployment ← createWorkers outside adapter.toAdapter plan
  return { deployment with backendConfig := deployedConfig outside adapter plan }

/-! ## Switching -/

/-- The exceptions of a switch. -/
inductive SwitchFailure where
  | planMismatch
  | targetWorkerNoLongerReady (worker : String)
  deriving DecidableEq

/-- The texts of the exceptions. -/
def SwitchFailure.message : SwitchFailure → String
  | .planMismatch => "vLLM deployment plan mismatch during switch"
  | .targetWorkerNoLongerReady worker => "target_worker_no_longer_ready:" ++ worker

/-- The router, as far as a switch changes it. -/
structure ActiveRouter where
  pools : InstancePools ℕ BackendConfig
  adapter : ConfiguredAdapter

/-- The handles of some instances. -/
def handlesOf (heap : List InstanceHandle) (instances : OrderedDict String ℕ) :
    List InstanceHandle :=
  instances.values.filterMap (heap[·]?)

/-- The nodes of some instances. -/
def nodesOf (heap : List InstanceHandle) (instances : OrderedDict String ℕ) : List String :=
  (handlesOf heap instances).flatMap InstanceHandle.workerNodeIds

/-- A node of the deployment must still be ready. -/
def checkWorkerReady (workers : WorkerNodes) (worker : String) : Except SwitchFailure Unit :=
  require ((workers.get? worker).any (hasState · "ready") = true)
    (.targetWorkerNoLongerReady worker)

/-- All nodes of the deployment must.  A scheduler may have no table of workers to look at. -/
def checkWorkersReady (workers : Option WorkerNodes) (nodes : List String) :
    Except SwitchFailure Unit :=
  match workers with
  | none => .ok ()
  | some workers => nodes.forM (checkWorkerReady workers)

/-- `_switch_vllm_deployment`. -/
def switchVllmDeployment (workers : Option WorkerNodes) (heap : List InstanceHandle)
    (router : ActiveRouter) (deployment : ConfiguredDeployment) (plan : ParallelPlan Dict) :
    Except SwitchFailure ActiveRouter := do
  require (deployment.plan = plan) .planMismatch
  checkWorkersReady workers (nodesOf heap deployment.instances)
  return {
    pools := router.pools.commit deployment.instances deployment.backendConfig
      deployment.resourceRequirements plan.replicaCount
    adapter := { router.adapter with
      backendConfig := deployment.backendConfig
      resourceRequirements := deployment.resourceRequirements } }

/-! ## Reading the deployment back -/

/-- The expert placement that a configuration holds. -/
def configPlacement (config : BackendConfig) : Option Dict :=
  match config.get? "expert_placement_plan" with
  | some (.dict items) => some items
  | _ => none

/-- `VllmDeploymentAdapter.snapshot`. -/
def snapshot (heap : List InstanceHandle) (adapter : ConfiguredAdapter)
    (instances : OrderedDict String ℕ) : Except PlanningFailure ConfiguredDeployment := do
  let config := adapter.backendConfig
  let tensor ← intOr (config.get? "tensor_parallel_size") 1
  let data ← intOr (config.get? "data_parallel_size") 1
  let pipeline ← intOr (config.get? "pipeline_parallel_size") 1
  let placementEpoch ← intOr (config.get? "placement_epoch") 0
  return {
    plan :=
      { modelName := adapter.modelName
        backend := "vllm"
        tensorParallelSize := (max 1 tensor).toNat
        dataParallelSize := (max 1 data).toNat
        pipelineParallelSize := (max 1 pipeline).toNat
        replicaCount := max 1 instances.entries.length
        enableExpertParallel := configFlag config "enable_expert_parallel"
        numGpus := (max 1 ((handlesOf heap instances).map InstanceHandle.numGpu).sum).toNat
        targetNodes := nodesOf heap instances
        placementEpoch := (max 0 placementEpoch).toNat
        expertPlacementPlan := configPlacement config
        reason := "active_deployment"
        tensorParallelSize_pos := by omega
        dataParallelSize_pos := by omega
        pipelineParallelSize_pos := by omega
        replicaCount_pos := by omega
        numGpus_pos := by omega }
    instances := instances
    resourceRequirements := adapter.resourceRequirements
    backendConfig := config }

/-- `_vllm_active_deployment`. -/
def vllmActiveDeployment (heap : List InstanceHandle) (router : ActiveRouter) :
    Except PlanningFailure ConfiguredDeployment :=
  snapshot heap router.adapter router.pools.readyInferenceInstances

/-! ## Comparing plans -/

/-- `_parallel_plan_placement_fingerprint`, of the expert placement of a plan. -/
def placementFingerprint (placement : Option Dict) : String :=
  match placement with
  | none => ""
  | some placement =>
    let fingerprint := strOr (placement.lookup "placement_fingerprint") ""
    if fingerprint ≠ "" then fingerprint
    else "unfingerprinted:" ++ (Value.dict placement).dumps

/-- `sorted(nodes)`. -/
def sortedNodes (nodes : List String) : List String := nodes.insertionSort (· ≤ ·)

/-- `_parallel_shapes_match`. -/
def parallelShapesMatch (left right : ParallelPlan Dict) : Bool :=
  left.modelName = right.modelName && left.backend = right.backend &&
    left.tensorParallelSize = right.tensorParallelSize &&
    left.pipelineParallelSize = right.pipelineParallelSize &&
    left.dataParallelSize = right.dataParallelSize &&
    left.enableExpertParallel = right.enableExpertParallel &&
    left.effectiveExpertParallelSize = right.effectiveExpertParallelSize &&
    left.replicaCount = right.replicaCount && left.numGpus = right.numGpus &&
    sortedNodes left.targetNodes = sortedNodes right.targetNodes

/-- `_parallel_plans_match`. -/
def parallelPlansMatch (left right : ParallelPlan Dict) : Bool :=
  let leftFingerprint := placementFingerprint left.expertPlacementPlan
  let rightFingerprint := placementFingerprint right.expertPlacementPlan
  if (leftFingerprint ≠ "" ∨ rightFingerprint ≠ "") ∧ leftFingerprint ≠ rightFingerprint then false
  else parallelShapesMatch left right

end Reparallelization
end SpotServe
