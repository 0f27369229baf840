import Mathlib.Algebra.Order.Ring.Rat
import Mathlib.Tactic.Linarith
import SpotServe.Library.OrderedDict

/-!
# The scheduler's node table

`FcfsScheduler` of `sllm/schedulers/fcfs_scheduler.py` keeps two tables: `worker_nodes`, the
capacity of every node, and the instances with the GPUs they hold.  The first is partly kept by
hand and partly recomputed from the second, so the functions that recompute it come first.

* `allocatedGpuByNode`: what the registered instances hold on a node.
* `refreshNodes`: the table `_get_worker_nodes` computes from a copy of the old one.
* `updateNodes`: the table `_update_worker_nodes` computes from the copy the control loop granted
  from.

GPU counts are rational: a resource entry may ask for a fraction of a GPU.
-/

namespace SpotServe
namespace Scheduler

open Py

/-- `NodeState`. -/
inductive NodeState where
  | ready
  | preempting
  | dead
  deriving DecidableEq, Repr

/-- The fields of an entry of `worker_nodes` that decide about capacity. -/
structure NodeInfo where
  state : NodeState
  freeGpu : ℚ
  totalGpu : ℚ
  deriving DecidableEq

/-- `worker_nodes`. -/
abbrev NodeTable := OrderedDict String NodeInfo

/-- An entry of `model_instance_resources`.  Only a distributed instance has `node_allocations`. -/
structure Resources where
  nodeId : String
  numGpus : ℚ
  nodeAllocations : OrderedDict String ℕ := .empty
  deriving DecidableEq

/-- `model_instance` and `model_instance_resources`, which are written and deleted together: one
entry for each model name and instance id. -/
abbrev InstanceTable := OrderedDict (String × String) Resources

/-- What one instance holds on a node. -/
def Resources.share (r : Resources) (node : String) : ℚ :=
  if r.nodeAllocations.entries = [] then
    if r.nodeId = node then max 0 r.numGpus else 0
  else ((r.nodeAllocations.get? node).getD 0 : ℕ)

/-- `_allocated_gpu_by_node_unlocked`, read at one node. -/
def allocatedGpuByNode (instances : InstanceTable) (node : String) : ℚ :=
  instances.sumBy fun _ r => r.share node

/-! ## Refreshing the table -/

/-- What `ray.nodes()` and the metadata provider report about a node. -/
structure NodeReport where
  freeGpu : ℚ
  totalGpu : ℚ
  deriving DecidableEq

/-- The Ray nodes of a cluster with their GPU totals. -/
structure RayCluster where
  totals : OrderedDict String ℚ
  nonneg : ∀ node total, totals.get? node = some total → 0 ≤ total

/-- Everything one call of `_get_worker_nodes` reads outside of the scheduler.  The nodes and
their totals are those of the cluster; the free counts are whatever was reported. -/
structure Observation (cluster : RayCluster) where
  /-- `get_worker_nodes()`, after the provider's metadata. -/
  workerNodes : OrderedDict String NodeReport
  /-- `ray.available_resources()`: the custom resource `worker_id_<node>` of each node. -/
  availableResources : OrderedDict String ℚ
  /-- The rows collected from the backends: a node and the `total_gpu` reported on it. -/
  runtimeMetadata : List (String × ℤ)
  totals : ∀ node, (workerNodes.get? node).map NodeReport.totalGpu = cluster.totals.get? node

/-- `_apply_scheduler_capacity`. -/
def applySchedulerCapacity (info : NodeInfo) (allocatedGpu : ℚ) : NodeInfo :=
  { info with
    freeGpu := max 0 (min info.totalGpu (min info.freeGpu (info.totalGpu - allocatedGpu))) }

/-- `_apply_ray_available_capacity`: a node of at most one GPU whose worker resource is taken has
nothing free. -/
def applyRayAvailableCapacity (info : NodeInfo) (available : Option ℚ) : NodeInfo :=
  if 1 < info.totalGpu then info
  else
    match available with
    | none => info
    | some resource => if resource < 0.999 then { info with freeGpu := 0 } else info

/-- One turn of the loop of `_get_worker_nodes` over the Ray nodes: a new node comes in ready, a
known one keeps its state. -/
def refreshRayNode (known : Option NodeInfo) (report : NodeReport) (allocatedGpu : ℚ)
    (available : Option ℚ) : NodeInfo :=
  let state := (known.map NodeInfo.state).getD .ready
  applyRayAvailableCapacity
    (applySchedulerCapacity ⟨state, report.freeGpu, report.totalGpu⟩ allocatedGpu) available

/-- The positive totals that backends report on a node. -/
def reportedTotals (rows : List (String × ℤ)) (node : String) : List ℤ :=
  (rows.filter fun row => row.1 = node ∧ 0 < row.2).map Prod.snd

/-- `_merge_backend_runtime_metadata`: a reported total is used where the table has none. -/
def mergeBackendRuntimeMetadata (rows : List (String × ℤ)) (node : String) (info : NodeInfo) :
    NodeInfo :=
  match (reportedTotals rows node).max? with
  | none => info
  | some total => if info.totalGpu < 1 then { info with totalGpu := total } else info

/-- `_get_worker_nodes`, from the copies of the two tables to the new table. -/
def refreshNodes {cluster : RayCluster} (observation : Observation cluster) (nodes : NodeTable)
    (allocatedGpu : String → ℚ) : NodeTable :=
  let updated := nodes.updateWith observation.workerNodes fun node known report =>
    refreshRayNode known report (allocatedGpu node) (observation.availableResources.get? node)
  let updated := updated.mapValues fun node info =>
    if (observation.workerNodes.get? node).isSome then info
    else applySchedulerCapacity info (allocatedGpu node)
  updated.mapValues (mergeBackendRuntimeMetadata observation.runtimeMetadata)

/-- `_update_worker_nodes`: the control loop's copy over the present table, which keeps the
present states. -/
def updateNodes (current granted : NodeTable) : NodeTable :=
  current.mapValues fun node info =>
    match granted.get? node with
    | some info' => { info' with state := info.state }
    | none => info

end Scheduler
end SpotServe
