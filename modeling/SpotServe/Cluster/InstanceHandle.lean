import Mathlib.Data.Int.Notation
import SpotServe.Library.OrderedDict

/-!
# Instance handles

The `InstanceHandle` of `sllm/utils.py`: what the router and the deployment adapter keep about one
serving actor.  Every operation of the source runs under the handle's lock, so each is one function
from handle to handle.

* `canAcceptRequest`: the admission test, `addRequests`: taking and giving back slots.
* `markReady` to `markRecovered`: the state transitions.
-/

namespace SpotServe
namespace Cluster

/-- `InstanceState`. -/
inductive InstanceState where
  | starting
  | ready
  | busy
  | draining
  | preempting
  | dead
  deriving DecidableEq, Repr

/-- The fields of `InstanceHandle`.  The lock is left out, since every operation is atomic here,
and so is the preemption deadline, which is a wall-clock time. -/
structure InstanceHandle where
  instanceId : String
  maxQueueLength : ℤ
  numGpu : ℤ
  nodeId : Option String := none
  /-- The Ray actor, by name. -/
  backendInstance : Option String := none
  ready : Bool := false
  concurrency : ℤ := 0
  state : InstanceState := .starting
  memberNodeIds : List String := []
  nodeAllocations : Py.OrderedDict String ℤ := .empty
  deriving DecidableEq

namespace InstanceHandle

/-- `_can_accept_request_locked`. -/
def canAcceptRequest (h : InstanceHandle) (numRequests : ℤ) : Bool :=
  if numRequests ≤ 0 then decide (0 ≤ h.concurrency + numRequests)
  else if !h.ready then false
  else
    match h.state with
    | .starting | .draining | .preempting | .dead => false
    | .ready | .busy => decide (h.concurrency + numRequests ≤ h.maxQueueLength)

/-- `add_requests`: the answer, and the handle afterwards. -/
def addRequests (h : InstanceHandle) (numRequests : ℤ) : Bool × InstanceHandle :=
  if h.canAcceptRequest numRequests then
    (true, { h with concurrency := h.concurrency + numRequests })
  else (false, h)

/-- `worker_node_ids`: the member nodes and the node itself, each once. -/
def workerNodeIds (h : InstanceHandle) : List String :=
  (h.memberNodeIds ++ h.nodeId.toList).eraseDups

/-- `mark_ready`: the node is recorded even when the state refuses the transition. -/
def markReady (h : InstanceHandle) (nodeId : Option String) : Bool × InstanceHandle :=
  let h := if nodeId.isSome then { h with nodeId } else h
  match h.state with
  | .draining | .preempting | .dead => (false, h)
  | .starting | .ready | .busy => (true, { h with ready := true, state := .ready })

/-- `mark_draining`. -/
def markDraining (h : InstanceHandle) : InstanceHandle :=
  { h with ready := false, state := .draining }

/-- `mark_ready_after_drain`. -/
def markReadyAfterDrain (h : InstanceHandle) (numGpu : Option ℤ) : Bool × InstanceHandle :=
  if h.state = .draining then
    (true, { h with numGpu := numGpu.getD h.numGpu, ready := true, state := .ready })
  else (false, h)

/-- `mark_preempting`. -/
def markPreempting (h : InstanceHandle) : InstanceHandle :=
  { h with ready := false, state := .preempting }

/-- `mark_dead`. -/
def markDead (h : InstanceHandle) : InstanceHandle :=
  { h with ready := false, state := .dead }

/-- `mark_recovered`. -/
def markRecovered (h : InstanceHandle) : Bool × InstanceHandle :=
  if h.state = .preempting then (true, { h with ready := true, state := .ready })
  else (false, h)

theorem addRequests_eq_true {h h' : InstanceHandle} {n : ℤ} (hadd : h.addRequests n = (true, h')) :
    h' = { h with concurrency := h.concurrency + n } := by
  unfold addRequests at hadd
  split_ifs at hadd with haccept
  · exact (Prod.mk.inj hadd).2.symm
  · exact absurd (Prod.mk.inj hadd).1 (by simp)

/-- A slot that was taken can be given back in every state. -/
theorem addRequests_neg_one {h : InstanceHandle} (hpos : 1 ≤ h.concurrency) :
    h.addRequests (-1) = (true, { h with concurrency := h.concurrency + -1 }) := by
  have haccept : h.canAcceptRequest (-1) = true := by
    rw [canAcceptRequest, if_pos (by omega)]
    exact decide_eq_true (by omega)
  rw [addRequests, if_pos haccept]

@[simp] theorem markReady_numGpu (h : InstanceHandle) (nodeId : Option String) :
    (h.markReady nodeId).2.numGpu = h.numGpu := by
  cases nodeId <;> cases hstate : h.state <;> simp [markReady, hstate]

/-- A handle that is ready on the node it was made for names the same nodes. -/
theorem markReady_workerNodeIds {h : InstanceHandle} {node : String}
    (hnode : h.nodeId = some node) :
    (h.markReady (some node)).2.workerNodeIds = h.workerNodeIds := by
  cases hstate : h.state <;> simp [markReady, workerNodeIds, hstate, hnode]

/-- A handle that is not ready takes no request. -/
theorem canAcceptRequest_of_not_ready {h : InstanceHandle} (hready : h.ready = false) {n : ℤ}
    (hn : 0 < n) : h.canAcceptRequest n = false := by
  rw [canAcceptRequest, if_neg (by omega), hready]
  rfl

end InstanceHandle

end Cluster
end SpotServe
