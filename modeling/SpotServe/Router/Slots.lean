import SpotServe.Cluster.InstanceHandle

/-!
# Requests, slots and the load balancer

A request of the round-robin router (`sllm/routers/roundrobin_router.py`) makes attempts until one
succeeds.  For each attempt it puts a future into the request queue; the load-balancer loop takes a
slot on an instance for it (`add_requests(1)`) and resolves the future with the instance's id; the
attempt looks the instance up, works on it, and gives the slot back in its `finally`
(`add_requests(-1)`).  Meanwhile requests are cancelled, deployments are switched and instances
stopped.

A `SlotMachine` is what these coroutines share and where each of them stands; a `SlotAction` is
what one of them does up to its next `await`.
-/

namespace SpotServe
namespace Router

open Py Cluster

/-- Where a request stands in `inference`. -/
inductive Phase where
  /-- In `_allocate_instance_for_request`, waiting for its future. -/
  | waiting (future : ℕ)
  /-- In `_allocate_instance_for_request`, its future resolved, the instance not looked up yet. -/
  | granted (instanceId : String)
  /-- Inside the `try`, with the instance. -/
  | serving (instanceId : String)
  /-- In the `finally`, before the handle's lock; `cancelled` when a cancellation led there. -/
  | releasing (instanceId : String) (cancelled : Bool)
  /-- The attempt is over, the next one not begun. -/
  | between
  deriving DecidableEq

/-- The instance on which the attempt has a slot. -/
def Phase.slot : Phase → Option String
  | .granted instanceId | .serving instanceId | .releasing instanceId _ => some instanceId
  | .waiting _ | .between => none

/-- Where `_load_balancer_loop` stands. -/
inductive Balancer where
  /-- Waiting for the request queue. -/
  | idle
  /-- Before the next look at the ready instances. -/
  | searching (future : ℕ)
  /-- Asking the candidates one after the other whether they accept a request. -/
  | asking (future : ℕ) (candidates : List String) (options : List String)
  /-- About to take a slot on the chosen instance. -/
  | taking (future : ℕ) (instanceId : String)
  /-- `set_result` on a cancelled future has raised `InvalidStateError`. -/
  | crashed
  deriving DecidableEq

/-- The part of the router that has to do with slots. -/
structure SlotMachine where
  /-- All handles, whichever pool they are in. -/
  handles : OrderedDict String InstanceHandle := .empty
  readyInferenceInstances : List String := []
  requestQueue : List ℕ := []
  nextFuture : ℕ := 0
  requests : OrderedDict ℕ Phase := .empty
  balancer : Balancer := .idle
  roundRobinIndex : ℕ := 0
  deriving DecidableEq

/-- What can happen to the state of a handle. -/
inductive Mark where
  | ready (nodeId : Option String)
  | draining
  | readyAfterDrain (numGpu : Option ℤ)
  | preempting
  | dead
  | recovered
  deriving DecidableEq

/-- The handle after a mark. -/
def Mark.apply (h : InstanceHandle) : Mark → InstanceHandle
  | .ready nodeId => (h.markReady nodeId).2
  | .draining => h.markDraining
  | .readyAfterDrain numGpu => (h.markReadyAfterDrain numGpu).2
  | .preempting => h.markPreempting
  | .dead => h.markDead
  | .recovered => h.markRecovered.2

/-- What a coroutine does between two awaits. -/
inductive SlotAction where
  /-- `inference` is called. -/
  | arrive (request : ℕ)
  /-- A further attempt asks the load balancer for an instance. -/
  | retry (request : ℕ)
  /-- A further attempt takes a slot on the target of its recovery plan. -/
  | retryOn (request : ℕ) (instanceId : String)
  /-- The attempt looks its instance up. -/
  | lookUp (request : ℕ)
  /-- The attempt leaves the `try`, with a result or an exception. -/
  | leave (request : ℕ)
  /-- `_release_instance_request`. -/
  | release (request : ℕ)
  /-- `inference` returns. -/
  | finish (request : ℕ)
  /-- The task of the request is cancelled. -/
  | cancel (request : ℕ)
  /-- The load balancer gets the next future from the queue. -/
  | nextRequest
  /-- It lists the ready instances. -/
  | listCandidates
  /-- It asks the next candidate, or chooses among those that accepted. -/
  | askCandidate
  /-- It takes a slot and resolves the future. -/
  | takeSlot
  /-- A handle is created, outside of the ready instances. -/
  | create (instanceId : String) (maxQueueLength numGpu : ℤ)
  /-- An instance has started and becomes ready. -/
  | activate (instanceId : String)
  /-- `_switch_vllm_deployment`. -/
  | switch (instanceIds : List String)
  /-- `_stop_instance` or `_shutdown_instance` takes the instance out. -/
  | stop (instanceId : String)
  | mark (instanceId : String) (mark : Mark)
  deriving DecidableEq

/-- `_allocate_instance_for_request`, up to its first await. -/
def SlotMachine.enqueue (m : SlotMachine) (request : ℕ) : SlotMachine :=
  { m with
    requestQueue := m.requestQueue ++ [m.nextFuture]
    nextFuture := m.nextFuture + 1
    requests := m.requests.set request (.waiting m.nextFuture) }

/-- The request that waits for a future.  A future nobody waits for was cancelled. -/
def SlotMachine.waiterOf (m : SlotMachine) (future : ℕ) : Option ℕ :=
  (m.requests.entries.find? fun entry => entry.2 = .waiting future).map Prod.fst

/-- The load balancer takes a slot on the chosen instance, if it is still ready and accepts, and
resolves the future. -/
def SlotMachine.takeSlot (m : SlotMachine) (future : ℕ) (instanceId : String) : SlotMachine :=
  if instanceId ∈ m.readyInferenceInstances then
    match m.handles.get? instanceId with
    | none => m
    | some h =>
      match h.addRequests 1 with
      | (false, _) => { m with balancer := .searching future }
      | (true, h') =>
        let m := { m with handles := m.handles.set instanceId h' }
        match m.waiterOf future with
        | none => { m with balancer := .crashed }
        | some request =>
          { m with
            requests := m.requests.set request (.granted instanceId)
            balancer := .idle }
  else { m with balancer := .searching future }

/-- `_release_instance_request`: when the handle refuses, an error is logged and that is all. -/
def SlotMachine.release (m : SlotMachine) (request : ℕ) (instanceId : String) (cancelled : Bool) :
    SlotMachine :=
  let requests :=
    if cancelled then m.requests.erase request else m.requests.set request .between
  match m.handles.get? instanceId with
  | none => { m with requests }
  | some h => { m with handles := m.handles.set instanceId (h.addRequests (-1)).2, requests }

/-- A cancellation.  It reaches the `finally` with an instance only inside the `try`. -/
def SlotMachine.cancel (m : SlotMachine) (request : ℕ) : Phase → SlotMachine
  | .serving instanceId =>
    { m with requests := m.requests.set request (.releasing instanceId true) }
  | .waiting _ | .granted _ | .releasing _ _ | .between =>
    { m with requests := m.requests.erase request }

/-- One action; `none` when the coroutine is not there. -/
def SlotMachine.step (m : SlotMachine) : SlotAction → Option SlotMachine
  | .arrive request =>
    if (m.requests.get? request).isSome then none else some (m.enqueue request)
  | .retry request =>
    match m.requests.get? request with
    | some .between => some (m.enqueue request)
    | _ => none
  | .retryOn request instanceId =>
    match m.requests.get? request, m.handles.get? instanceId with
    | some .between, some h =>
      match h.addRequests 1 with
      | (false, _) => some (m.enqueue request)
      | (true, h') =>
        some { m with
          handles := m.handles.set instanceId h'
          requests := m.requests.set request (.serving instanceId) }
    | _, _ => none
  | .lookUp request =>
    match m.requests.get? request with
    | some (.granted instanceId) =>
      if instanceId ∈ m.readyInferenceInstances then
        some { m with requests := m.requests.set request (.serving instanceId) }
      else
        -- "Instance not found" is raised with `instance` still `None`.
        some { m with requests := m.requests.set request .between }
    | _ => none
  | .leave request =>
    match m.requests.get? request with
    | some (.serving instanceId) =>
      some { m with requests := m.requests.set request (.releasing instanceId false) }
    | _ => none
  | .release request =>
    match m.requests.get? request with
    | some (.releasing instanceId cancelled) => some (m.release request instanceId cancelled)
    | _ => none
  | .finish request =>
    match m.requests.get? request with
    | some .between => some { m with requests := m.requests.erase request }
    | _ => none
  | .cancel request => (m.requests.get? request).map (m.cancel request)
  | .nextRequest =>
    match m.balancer, m.requestQueue with
    | .idle, future :: rest => some { m with requestQueue := rest, balancer := .searching future }
    | _, _ => none
  | .listCandidates =>
    match m.balancer with
    | .searching future => some { m with balancer := .asking future m.readyInferenceInstances [] }
    | _ => none
  | .askCandidate =>
    match m.balancer with
    | .asking future (candidate :: candidates) options =>
      match m.handles.get? candidate with
      | none => none
      | some h =>
        let options := if h.canAcceptRequest 1 then options ++ [candidate] else options
        some { m with balancer := .asking future candidates options }
    | .asking future [] options =>
      match options[m.roundRobinIndex % options.length]? with
      | none => some { m with balancer := .searching future }
      | some instanceId =>
        some { m with
          balancer := .taking future instanceId
          roundRobinIndex := m.roundRobinIndex + 1 }
    | _ => none
  | .takeSlot =>
    match m.balancer with
    | .taking future instanceId => some (m.takeSlot future instanceId)
    | _ => none
  | .create instanceId maxQueueLength numGpu =>
    if (m.handles.get? instanceId).isSome then none
    else some { m with
      handles := m.handles.set instanceId { instanceId, maxQueueLength, numGpu } }
  | .activate instanceId =>
    if (m.handles.get? instanceId).isSome ∧ instanceId ∉ m.readyInferenceInstances then
      some { m with readyInferenceInstances := m.readyInferenceInstances ++ [instanceId] }
    else none
  | .switch instanceIds =>
    if ∀ instanceId ∈ instanceIds, (m.handles.get? instanceId).isSome then
      some { m with readyInferenceInstances := instanceIds }
    else none
  | .stop instanceId =>
    if instanceId ∈ m.readyInferenceInstances then
      some { m with readyInferenceInstances := m.readyInferenceInstances.erase instanceId }
    else none
  | .mark instanceId mark =>
    (m.handles.get? instanceId).map fun h =>
      { m with handles := m.handles.set instanceId (mark.apply h) }

/-- The future the load balancer takes a slot for, and where. -/
def Balancer.target : Balancer → Option (ℕ × String)
  | .taking future instanceId => some (future, instanceId)
  | _ => none

/-- An instance that is ready and accepts a request. -/
def SlotMachine.offers (m : SlotMachine) (instanceId : String) : Bool :=
  decide (instanceId ∈ m.readyInferenceInstances) &&
    (m.handles.get? instanceId).any (InstanceHandle.canAcceptRequest · 1)

/-- A phase in which a cancellation loses no slot. -/
def Phase.cancellable : Phase → Bool
  | .waiting _ | .serving _ | .between => true
  | .granted _ | .releasing _ _ => false

/-- The attempts that hold a slot on an instance. -/
def SlotMachine.holders (m : SlotMachine) (instanceId : String) : ℕ :=
  m.requests.sumBy fun _ phase => if phase.slot = some instanceId then 1 else 0

/-- **Slot conservation**: the counter of each handle is the number of attempts with a slot. -/
def SlotMachine.Conserved (m : SlotMachine) : Prop :=
  ∀ instanceId h, m.handles.get? instanceId = some h → h.concurrency = m.holders instanceId

end Router
end SpotServe
