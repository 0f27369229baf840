import SpotServe.Scheduler.DistributedAllocation

/-!
# The operations of the scheduler

Each operation of `FcfsScheduler` is cut where the source can be interrupted: a part that runs
under one lock is one function.  The control loop is cut into collecting the requests, serving one
request from the loop's own copy of the node table, and publishing that copy; an
`allocate_resource` call into queueing its request and, once its future is resolved, registering
the instance.

`perform` puts the parts of an operation together again and runs it to completion.
-/

namespace SpotServe
namespace Scheduler

open Py

/-- An entry of `model_loading_queues`. -/
structure Request where
  requestTime : ℚ
  instanceId : String
  numGpus : ℚ
  /-- The identity of `allocation_result`. -/
  future : ℕ
  targetNodeId : Option String
  deriving DecidableEq

/-- The state of `FcfsScheduler`. -/
structure FcfsScheduler where
  workerNodes : NodeTable := .empty
  modelInstance : InstanceTable := .empty
  modelLoadingQueues : OrderedDict String (List Request) := .empty
  deriving DecidableEq

/-- The queue of a model. -/
def FcfsScheduler.queue (s : FcfsScheduler) (modelName : String) : List Request :=
  (s.modelLoadingQueues.get? modelName).getD []

/-! ## `allocate_resource` and the control loop -/

/-- The first half of `allocate_resource`: the request is queued. -/
def queueRequest (s : FcfsScheduler) (modelName : String) (request : Request) : FcfsScheduler :=
  { s with modelLoadingQueues :=
      s.modelLoadingQueues.set modelName (s.queue modelName ++ [request]) }

/-- A request as the control loop collects it. -/
structure LoadingRequest where
  modelName : String
  idx : ℕ
  request : Request
  deriving DecidableEq

/-- The requests the control loop serves, sorted by their place in their queue. -/
def loadingRequests (s : FcfsScheduler) : List LoadingRequest :=
  (s.modelLoadingQueues.entries.flatMap fun entry =>
    entry.2.zipIdx.map fun item => ⟨entry.1, item.2, item.1⟩).insertionSort fun a b => a.idx ≤ b.idx

/-- The ranking of the risk-aware policy: model name, number of GPUs, table. -/
abbrev RiskRanking := String → ℚ → NodeTable → List String

/-- `_ordered_candidate_nodes`: table order, or the ranking when `enable_spot_risk_aware` is
set. -/
def orderedCandidateNodes (ranking : Option RiskRanking) (modelName : String) (numGpus : ℚ)
    (nodes : NodeTable) : List String :=
  match ranking with
  | none => nodes.keys
  | some rank => rank modelName numGpus nodes

/-- The tests of the control loop on a candidate. -/
def accepts (request : Request) (node : String) (info : NodeInfo) : Prop :=
  (request.targetNodeId = none ∨ request.targetNodeId = some node) ∧ info.state = .ready ∧
    request.numGpus ≤ info.freeGpu

instance (request : Request) (node : String) (info : NodeInfo) :
    Decidable (accepts request node info) := by
  unfold accepts
  infer_instance

/-- The first candidate that passes. -/
def chooseNode (ranking : Option RiskRanking) (nodes : NodeTable) (loading : LoadingRequest) :
    Option String :=
  (orderedCandidateNodes ranking loading.modelName loading.request.numGpus nodes).find? fun node =>
    match nodes.get? node with
    | none => false
    | some info => accepts loading.request node info

/-- `node_info["free_gpu"] += gpus`. -/
def addFreeGpu (nodes : NodeTable) (node : String) (gpus : ℚ) : NodeTable :=
  match nodes.get? node with
  | none => nodes
  | some info => nodes.set node { info with freeGpu := info.freeGpu + gpus }

/-- A request whose future was resolved with a node. -/
structure Grant where
  modelName : String
  request : Request
  nodeId : String
  deriving DecidableEq

/-- The entry of `model_instance_resources` a grant leads to. -/
def Grant.resources (g : Grant) : Resources := ⟨g.nodeId, g.request.numGpus, .empty⟩

/-- The instance a grant is for. -/
def Grant.key (g : Grant) : String × String := (g.modelName, g.request.instanceId)

/-- What the control loop works on: the queues, its own copy of the table, the grants so far. -/
structure Serving where
  queues : OrderedDict String (List Request)
  nodes : NodeTable
  granted : List Grant

/-- One turn of the control loop over the requests.  A request that is no longer queued has been
dealt with and is skipped. -/
def serveRequest (ranking : Option RiskRanking) (v : Serving) (loading : LoadingRequest) :
    Serving :=
  match chooseNode ranking v.nodes loading with
  | none => v
  | some node =>
    let queue := (v.queues.get? loading.modelName).getD []
    if loading.request ∈ queue then
      { queues := v.queues.set loading.modelName (queue.erase loading.request)
        nodes := addFreeGpu v.nodes node (-loading.request.numGpus)
        granted := v.granted ++ [⟨loading.modelName, loading.request, node⟩] }
    else v

/-- The second half of `allocate_resource`. -/
def registerInstance (s : FcfsScheduler) (g : Grant) : FcfsScheduler :=
  { s with modelInstance := s.modelInstance.set g.key g.resources }

/-- `_get_worker_nodes`, run to completion. -/
def getWorkerNodes {cluster : RayCluster} (s : FcfsScheduler) (observation : Observation cluster) :
    FcfsScheduler :=
  { s with workerNodes :=
      refreshNodes observation s.workerNodes (allocatedGpuByNode s.modelInstance) }

/-- One iteration of `_control_loop` and the registration of every instance it granted. -/
def controlLoop {cluster : RayCluster} (ranking : Option RiskRanking) (s : FcfsScheduler)
    (observation : Observation cluster) : FcfsScheduler :=
  let requests := loadingRequests s
  if requests = [] then s
  else
    let s := getWorkerNodes s observation
    let served := requests.foldl (serveRequest ranking) ⟨s.modelLoadingQueues, s.workerNodes, []⟩
    let s := { s with
      modelLoadingQueues := served.queues
      workerNodes := updateNodes s.workerNodes served.nodes }
    served.granted.foldl registerInstance s

/-! ## Distributed instances -/

/-- The arguments of `allocate_distributed_resource`. -/
structure DistributedCall where
  modelName : String
  instanceId : String
  requestedGpus : ℤ
  targetNodeIds : List String
  requireAllTargetNodes : Bool
  deriving DecidableEq

/-- The instance the call is for. -/
def DistributedCall.key (call : DistributedCall) : String × String :=
  (call.modelName, call.instanceId)

/-- Taking the GPUs of a distributed instance. -/
def takeAllocations (nodes : NodeTable) (allocations : OrderedDict String ℕ) : NodeTable :=
  nodes.mapValues fun node info =>
    match allocations.get? node with
    | none => info
    | some count => { info with freeGpu := max 0 (info.freeGpu - count) }

/-- Giving the GPUs of a distributed instance back. -/
def returnAllocations (nodes : NodeTable) (allocations : OrderedDict String ℕ) : NodeTable :=
  nodes.mapValues fun node info =>
    match allocations.get? node with
    | none => info
    | some count => { info with freeGpu := min info.totalGpu (info.freeGpu + count) }

/-- The part of `allocate_distributed_resource` after the refresh: the new entry, and the
scheduler with it. -/
def reserveDistributed (s : FcfsScheduler) (call : DistributedCall) :
    Except Failure (Resources × FcfsScheduler) :=
  match distributedGpuAllocation s.workerNodes call.targetNodeIds call.requestedGpus
      call.requireAllTargetNodes with
  | .error failure => .error failure
  | .ok allocations =>
    let resources := ⟨allocations.keys.headD "", call.requestedGpus, allocations⟩
    .ok (resources, { s with
      workerNodes := takeAllocations s.workerNodes allocations
      modelInstance := s.modelInstance.set call.key resources })

/-- `allocate_distributed_resource`. -/
def allocateDistributedResource {cluster : RayCluster} (s : FcfsScheduler)
    (observation : Observation cluster) (call : DistributedCall) :
    Except Failure Resources × FcfsScheduler :=
  let s := getWorkerNodes s observation
  match reserveDistributed s call with
  | .error failure => (.error failure, s)
  | .ok (resources, s) => (.ok resources, s)

/-! ## Giving GPUs back, resizing, marking -/

/-- What `deallocate_resource` does to the node table.  A single-node instance is not capped at
the node's total. -/
def deallocateNodes (nodes : NodeTable) (r : Resources) : NodeTable :=
  if r.nodeAllocations.entries = [] then addFreeGpu nodes r.nodeId r.numGpus
  else returnAllocations nodes r.nodeAllocations

/-- `deallocate_resource`. -/
def deallocateResource (s : FcfsScheduler) (modelName instanceId : String) : FcfsScheduler :=
  match s.modelInstance.get? (modelName, instanceId) with
  | none => s
  | some r =>
    { s with
      modelInstance := s.modelInstance.erase (modelName, instanceId)
      workerNodes := deallocateNodes s.workerNodes r }

/-- The dictionary `resize_resource` returns, without the names it was given. -/
structure ResizeReport where
  nodeId : String
  previousNumGpus : ℚ
  deltaNumGpus : ℚ
  freeGpu : ℚ
  deriving DecidableEq

/-- `resize_resource`. -/
def resizeResource (s : FcfsScheduler) (modelName instanceId : String) (requestedGpus : ℚ) :
    Except Failure (ResizeReport × FcfsScheduler) :=
  if requestedGpus < 0 then .error .negativeGpus
  else
    match s.modelInstance.get? (modelName, instanceId) with
    | none => .error (.allocationNotFound modelName instanceId)
    | some r =>
      match s.workerNodes.get? r.nodeId with
      | none => .error (.nodeNotFound r.nodeId)
      | some info =>
        let delta := requestedGpus - r.numGpus
        if info.freeGpu < delta then
          .error (.insufficientCapacityForResize delta info.freeGpu r.nodeId)
        else
          .ok (⟨r.nodeId, r.numGpus, delta, info.freeGpu - delta⟩, { s with
            workerNodes := addFreeGpu s.workerNodes r.nodeId (-delta)
            modelInstance :=
              s.modelInstance.set (modelName, instanceId) { r with numGpus := requestedGpus } })

/-- What `clear_model` does to the node table for one instance: capped in both cases. -/
def clearNodes (nodes : NodeTable) (r : Resources) : NodeTable :=
  if r.nodeAllocations.entries = [] then
    match nodes.get? r.nodeId with
    | none => nodes
    | some info =>
      nodes.set r.nodeId { info with freeGpu := min info.totalGpu (info.freeGpu + r.numGpus) }
  else returnAllocations nodes r.nodeAllocations

/-- The instances of a model. -/
def instancesOf (s : FcfsScheduler) (modelName : String) : InstanceTable :=
  s.modelInstance.filter fun key _ => key.1 = modelName

/-- `clear_model`: `cleared_pending`, `released_allocations`, and the scheduler afterwards. -/
def clearModel (s : FcfsScheduler) (modelName : String) : (ℕ × ℕ) × FcfsScheduler :=
  (((s.queue modelName).length, (instancesOf s modelName).values.length),
    { workerNodes := (instancesOf s modelName).values.foldl clearNodes s.workerNodes
      modelInstance := s.modelInstance.filter fun key _ => key.1 ≠ modelName
      modelLoadingQueues := s.modelLoadingQueues.erase modelName })

/-- `_mark_node_state`: the state before, and the scheduler afterwards.  A node that is not known
yet comes in without GPUs. -/
def markNodeState (s : FcfsScheduler) (node : String) (state : NodeState) :
    NodeState × FcfsScheduler :=
  let info := (s.workerNodes.get? node).getD ⟨.ready, 0, 0⟩
  (info.state, { s with workerNodes := s.workerNodes.set node { info with state } })

/-! ## Whole operations -/

/-- A call of the scheduler, with what a refresh inside of it reads from outside. -/
inductive Operation (cluster : RayCluster) where
  | request (modelName : String) (request : Request)
  | controlLoop (observation : Observation cluster)
  | allocateDistributed (observation : Observation cluster) (call : DistributedCall)
  | resize (modelName instanceId : String) (requestedGpus : ℚ)
  | deallocate (modelName instanceId : String)
  | clear (modelName : String)
  | mark (node : String) (state : NodeState)
  | refresh (observation : Observation cluster)

/-- An operation run to completion.  One that raises leaves what it had changed before. -/
def perform {cluster : RayCluster} (ranking : Option RiskRanking) (s : FcfsScheduler) :
    Operation cluster → FcfsScheduler
  | .request modelName request => queueRequest s modelName request
  | .controlLoop observation => controlLoop ranking s observation
  | .allocateDistributed observation call => (allocateDistributedResource s observation call).2
  | .resize modelName instanceId requestedGpus =>
    match resizeResource s modelName instanceId requestedGpus with
    | .error _ => s
    | .ok (_, s') => s'
  | .deallocate modelName instanceId => deallocateResource s modelName instanceId
  | .clear modelName => (clearModel s modelName).2
  | .mark node state => (markNodeState s node state).2
  | .refresh observation => getWorkerNodes s observation

end Scheduler
end SpotServe
