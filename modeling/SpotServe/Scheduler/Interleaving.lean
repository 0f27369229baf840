import SpotServe.Scheduler.Operations

/-!
# The scheduler's coroutines, interleaved

The control loop, refreshes of the node table and the calls of `allocate_resource`,
`allocate_distributed_resource` and `deallocate_resource` run as coroutines of one event loop and
can be interrupted at every `await`.  A `Machine` is the scheduler with what each coroutine has in
its hands while it is interrupted; an `Action` is what one of them does up to its next `await`.

A refresh is two actions: it reads the tables and computes the new node table from them, and later
it writes that table.  So is the end of an iteration of the control loop (`_update_worker_nodes`).
A grant is two actions of two coroutines: the control loop resolves a future, and the caller that
waits for it registers its instance some time later.
-/

namespace SpotServe
namespace Scheduler

open Py

/-- Where the control loop is. -/
inductive LoopPhase where
  | sleeping
  /-- The requests are collected. -/
  | collected (requests : List LoadingRequest)
  /-- Inside `_get_worker_nodes`, with the table it will write. -/
  | refreshing (requests : List LoadingRequest) (nodes : NodeTable)
  /-- Granting from its own copy of the table. -/
  | serving (requests : List LoadingRequest) (nodes : NodeTable)
  /-- Inside `_update_worker_nodes`, with the table it will write. -/
  | publishing (nodes : NodeTable)

/-- Where another coroutine is. -/
inductive Task where
  /-- Inside `_get_worker_nodes`, with the table it will write; called on its own, or by
  `allocate_distributed_resource`. -/
  | refreshing (nodes : NodeTable) (caller : Option DistributedCall)
  /-- `allocate_distributed_resource` after its refresh. -/
  | reserving (call : DistributedCall)

/-- The scheduler and its coroutines. -/
structure Machine where
  scheduler : FcfsScheduler := {}
  loop : LoopPhase := .sleeping
  tasks : List Task := []
  /-- Resolved futures whose callers have not registered their instance yet. -/
  granted : List Grant := []
  /-- Every grant that was made and not deallocated: for whom, and of what.  The scheduler does
  not keep this list. -/
  ledger : List ((String × String) × Resources) := []

/-- The GPUs of a node that are granted and not deallocated. -/
def Machine.outstanding (m : Machine) (node : String) : ℚ :=
  (m.ledger.map fun entry => entry.2.share node).sum

/-- What a coroutine does between two awaits. -/
inductive Action (cluster : RayCluster) where
  /-- `allocate_resource` queues its request. -/
  | request (modelName : String) (request : Request)
  /-- `allocate_resource` wakes up with its node and registers the instance. -/
  | register (index : ℕ)
  /-- The control loop collects the queued requests. -/
  | collect
  /-- The control loop's refresh reads the tables. -/
  | loopReads (observation : Observation cluster)
  /-- The control loop's refresh writes the node table. -/
  | loopWrites
  /-- The control loop serves the next request. -/
  | serve
  /-- `_update_worker_nodes` reads the node table. -/
  | copyTable
  /-- `_update_worker_nodes` writes the node table. -/
  | publishTable
  /-- A refresh reads the tables. -/
  | taskReads (observation : Observation cluster) (caller : Option DistributedCall)
  /-- A refresh writes the node table. -/
  | taskWrites (index : ℕ)
  /-- `allocate_distributed_resource` reserves its GPUs, or raises. -/
  | reserve (index : ℕ)
  | deallocate (modelName instanceId : String)

variable {cluster : RayCluster}

/-- The table a refresh computes from the present tables. -/
def Machine.refreshed (m : Machine) (observation : Observation cluster) : NodeTable :=
  refreshNodes observation m.scheduler.workerNodes (allocatedGpuByNode m.scheduler.modelInstance)

/-- Writing the node table. -/
def Machine.write (m : Machine) (nodes : NodeTable) : Machine :=
  { m with scheduler := { m.scheduler with workerNodes := nodes } }

/-- The control loop serves one request from its own copy of the table. -/
def Machine.serve (m : Machine) (ranking : Option RiskRanking) (loading : LoadingRequest)
    (rest : List LoadingRequest) (nodes : NodeTable) : Machine :=
  let v := serveRequest ranking ⟨m.scheduler.modelLoadingQueues, nodes, []⟩ loading
  { m with
    scheduler := { m.scheduler with modelLoadingQueues := v.queues }
    loop := .serving rest v.nodes
    granted := m.granted ++ v.granted
    ledger := m.ledger ++ v.granted.map fun g => (g.key, g.resources) }

/-- `deallocate_resource`. -/
def Machine.deallocate (m : Machine) (modelName instanceId : String) : Machine :=
  match m.scheduler.modelInstance.get? (modelName, instanceId) with
  | none => m
  | some r =>
    { m with
      scheduler := deallocateResource m.scheduler modelName instanceId
      ledger := m.ledger.erase ((modelName, instanceId), r) }

/-- `allocate_distributed_resource` after its refresh, as the coroutine number `index`. -/
def Machine.reserve (m : Machine) (index : ℕ) (call : DistributedCall) : Machine :=
  match reserveDistributed m.scheduler call with
  | .error _ => { m with tasks := m.tasks.eraseIdx index }
  | .ok (r, s) =>
    { m with
      scheduler := s
      tasks := m.tasks.eraseIdx index
      ledger := m.ledger ++ [(call.key, r)] }

/-- One action; `none` when the coroutine is not there. -/
def step (ranking : Option RiskRanking) (m : Machine) : Action cluster → Option Machine
  | .request modelName request =>
    some { m with scheduler := queueRequest m.scheduler modelName request }
  | .register index =>
    m.granted[index]?.map fun g =>
      { m with
        scheduler := registerInstance m.scheduler g
        granted := m.granted.eraseIdx index }
  | .collect =>
    match m.loop with
    | .sleeping =>
      if loadingRequests m.scheduler = [] then some m
      else some { m with loop := .collected (loadingRequests m.scheduler) }
    | _ => none
  | .loopReads observation =>
    match m.loop with
    | .collected requests => some { m with loop := .refreshing requests (m.refreshed observation) }
    | _ => none
  | .loopWrites =>
    match m.loop with
    | .refreshing requests nodes => some { m.write nodes with loop := .serving requests nodes }
    | _ => none
  | .serve =>
    match m.loop with
    | .serving (loading :: rest) nodes => some (m.serve ranking loading rest nodes)
    | _ => none
  | .copyTable =>
    match m.loop with
    | .serving [] nodes =>
      some { m with loop := .publishing (updateNodes m.scheduler.workerNodes nodes) }
    | _ => none
  | .publishTable =>
    match m.loop with
    | .publishing nodes => some { m.write nodes with loop := .sleeping }
    | _ => none
  | .taskReads observation caller =>
    some { m with tasks := m.tasks ++ [.refreshing (m.refreshed observation) caller] }
  | .taskWrites index =>
    match m.tasks[index]? with
    | some (.refreshing nodes none) =>
      some { m.write nodes with tasks := m.tasks.eraseIdx index }
    | some (.refreshing nodes (some call)) =>
      some { m.write nodes with tasks := m.tasks.set index (.reserving call) }
    | _ => none
  | .reserve index =>
    match m.tasks[index]? with
    | some (.reserving call) => some (m.reserve index call)
    | _ => none
  | .deallocate modelName instanceId => some (m.deallocate modelName instanceId)

/-- What an action does. -/
inductive MachineStep (ranking : Option RiskRanking) (m : Machine) : Action cluster → Machine → Prop
  | requests {modelName : String} {request : Request} :
    MachineStep ranking m (.request modelName request)
      { m with scheduler := queueRequest m.scheduler modelName request }
  | registers {index : ℕ} {g : Grant} : m.granted[index]? = some g →
    MachineStep ranking m (.register index) { m with
      scheduler := registerInstance m.scheduler g
      granted := m.granted.eraseIdx index }
  | sleeps : m.loop = .sleeping → MachineStep ranking m .collect m
  | collects : m.loop = .sleeping →
    MachineStep ranking m .collect { m with loop := .collected (loadingRequests m.scheduler) }
  | reads {observation : Observation cluster} {requests : List LoadingRequest} :
    m.loop = .collected requests → MachineStep ranking m (.loopReads observation)
      { m with loop := .refreshing requests (m.refreshed observation) }
  | writes {requests : List LoadingRequest} {nodes : NodeTable} :
    m.loop = .refreshing requests nodes → MachineStep ranking m .loopWrites
      { m.write nodes with loop := .serving requests nodes }
  | serves {loading : LoadingRequest} {rest : List LoadingRequest} {nodes : NodeTable} :
    m.loop = .serving (loading :: rest) nodes →
    MachineStep ranking m .serve (m.serve ranking loading rest nodes)
  | copies {nodes : NodeTable} : m.loop = .serving [] nodes → MachineStep ranking m .copyTable
      { m with loop := .publishing (updateNodes m.scheduler.workerNodes nodes) }
  | publishes {nodes : NodeTable} : m.loop = .publishing nodes →
    MachineStep ranking m .publishTable { m.write nodes with loop := .sleeping }
  | taskReads {observation : Observation cluster} {caller : Option DistributedCall} :
    MachineStep ranking m (.taskReads observation caller)
      { m with tasks := m.tasks ++ [.refreshing (m.refreshed observation) caller] }
  | taskEnds {index : ℕ} {nodes : NodeTable} :
    m.tasks[index]? = some (.refreshing nodes none) →
    MachineStep ranking m (.taskWrites index)
      { m.write nodes with tasks := m.tasks.eraseIdx index }
  | taskGoesOn {index : ℕ} {nodes : NodeTable} {call : DistributedCall} :
    m.tasks[index]? = some (.refreshing nodes (some call)) →
    MachineStep ranking m (.taskWrites index)
      { m.write nodes with tasks := m.tasks.set index (.reserving call) }
  | reserves {index : ℕ} {call : DistributedCall} : m.tasks[index]? = some (.reserving call) →
    MachineStep ranking m (.reserve index) (m.reserve index call)
  | deallocates {modelName instanceId : String} :
    MachineStep ranking m (.deallocate modelName instanceId) (m.deallocate modelName instanceId)

theorem machineStep_of_step {ranking : Option RiskRanking} {m m' : Machine} {a : Action cluster}
    (hstep : step ranking m a = some m') : MachineStep ranking m a m' := by
  cases a with
  | request modelName request =>
    obtain rfl := Option.some.inj hstep
    exact .requests
  | register index =>
    obtain ⟨g, hg, rfl⟩ := Option.map_eq_some_iff.mp hstep
    exact .registers hg
  | collect =>
    simp only [step] at hstep
    split at hstep
    case h_1 hloop =>
      split_ifs at hstep
      · obtain rfl := Option.some.inj hstep
        exact .sleeps hloop
      · obtain rfl := Option.some.inj hstep
        exact .collects hloop
    case h_2 => exact absurd hstep (by simp)
  | loopReads observation =>
    simp only [step] at hstep
    split at hstep
    case h_1 requests hloop =>
      obtain rfl := Option.some.inj hstep
      exact .reads hloop
    case h_2 => exact absurd hstep (by simp)
  | loopWrites =>
    simp only [step] at hstep
    split at hstep
    case h_1 requests nodes hloop =>
      obtain rfl := Option.some.inj hstep
      exact .writes hloop
    case h_2 => exact absurd hstep (by simp)
  | serve =>
    simp only [step] at hstep
    split at hstep
    case h_1 loading rest nodes hloop =>
      obtain rfl := Option.some.inj hstep
      exact .serves hloop
    case h_2 => exact absurd hstep (by simp)
  | copyTable =>
    simp only [step] at hstep
    split at hstep
    case h_1 nodes hloop =>
      obtain rfl := Option.some.inj hstep
      exact .copies hloop
    case h_2 => exact absurd hstep (by simp)
  | publishTable =>
    simp only [step] at hstep
    split at hstep
    case h_1 nodes hloop =>
      obtain rfl := Option.some.inj hstep
      exact .publishes hloop
    case h_2 => exact absurd hstep (by simp)
  | taskReads observation caller =>
    obtain rfl := Option.some.inj hstep
    exact .taskReads
  | taskWrites index =>
    simp only [step] at hstep
    split at hstep
    case h_1 nodes htask =>
      obtain rfl := Option.some.inj hstep
      exact .taskEnds htask
    case h_2 nodes call htask =>
      obtain rfl := Option.some.inj hstep
      exact .taskGoesOn htask
    case h_3 => exact absurd hstep (by simp)
  | reserve index =>
    simp only [step] at hstep
    split at hstep
    case h_1 call htask =>
      obtain rfl := Option.some.inj hstep
      exact .reserves htask
    case h_2 => exact absurd hstep (by simp)
  | deallocate modelName instanceId =>
    obtain rfl := Option.some.inj hstep
    exact .deallocates

/-! ## Who has a table in its hands -/

/-- The table the control loop will write, or grants from. -/
def LoopPhase.held : LoopPhase → List NodeTable
  | .sleeping | .collected _ => []
  | .refreshing _ nodes | .serving _ nodes | .publishing nodes => [nodes]

/-- The table a task will write. -/
def Task.held : Task → List NodeTable
  | .refreshing nodes _ => [nodes]
  | .reserving _ => []

/-- The tables that other coroutines than the control loop will write. -/
def Machine.heldByTasks (m : Machine) : List NodeTable := m.tasks.flatMap Task.held

/-- The control loop's own copy is ahead of the table of the scheduler. -/
def LoopPhase.ahead : LoopPhase → Bool
  | .sleeping | .collected _ | .refreshing _ _ => false
  | .serving _ _ | .publishing _ => true

/-- The next request the control loop serves has a node to go to. -/
def LoopPhase.grants (ranking : Option RiskRanking) : LoopPhase → Bool
  | .serving (loading :: _) nodes => (chooseNode ranking nodes loading).isSome
  | _ => false

/-- A reservation for an instance that has no entry. -/
def Task.New (s : FcfsScheduler) : Task → Prop
  | .reserving call => s.modelInstance.get? call.key = none
  | .refreshing _ _ => True

instance (s : FcfsScheduler) : DecidablePred (Task.New s)
  | .reserving call => inferInstanceAs (Decidable (s.modelInstance.get? call.key = none))
  | .refreshing _ _ => inferInstanceAs (Decidable True)

/-- The requests the control loop has still to serve. -/
def LoopPhase.requests : LoopPhase → List LoadingRequest
  | .sleeping | .publishing _ => []
  | .collected requests | .refreshing requests _ | .serving requests _ => requests

end Scheduler
end SpotServe
