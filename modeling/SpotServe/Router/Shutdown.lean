import SpotServe.Router.CommittedShape

/-!
# The shutdown of a router

`RoundRobinRouter.shutdown` cancels the starts that are under way, answers the requests that still
wait for an instance, takes all instances out of the pools and hands each of them to
`_shutdown_instance_handle`.  The background tasks of the router go on meanwhile: the load balancer
takes waiting requests out of the queue, a request that is tried again comes back into it, the
auto-scaler makes instances and stops them, a start that was cancelled runs its handler.  Only calls
from outside have ended.

The queue holds futures, and the loop that should answer them takes a future apart as if it were a
pair, which raises.

A run is followed until the shutdown is over.
-/

namespace SpotServe
namespace Router

open Py Reparallelization

/-- An instance of one kind or the other. -/
inductive Filed where
  | inference (instanceId : String)
  | fineTuning (instanceId : String)
  deriving DecidableEq

/-- How far the shutdown has come. -/
inductive ShutdownPhase where
  | notCalled
  /-- `_cancel_start_tasks` waits for the tasks it cancelled. -/
  | cancelling
  /-- The queue is empty, and `instance_management_lock` is waited for. -/
  | locking
  /-- The pools are cleared, and their instances are shut down. -/
  | gathering
  | ended
  /-- An exception went up. -/
  | raised
  deriving DecidableEq

/-- A router with its fine-tuning pools, its queue and its shutdown. -/
structure ShutdownState (κ : Type) where
  router : RouterState κ
  startingFtInstances : OrderedDict String (Instance κ) := .empty
  readyFtInstances : OrderedDict String (Instance κ) := .empty
  /-- The fine-tuning starts under way, with the handle once it is found. -/
  ftStartTasks : OrderedDict String (Option (Instance κ)) := .empty
  /-- The futures of `request_queue`. -/
  requestQueue : List ℕ := []
  /-- The future the load balancer has taken out. -/
  allocating : Option ℕ := none
  /-- The futures that were resolved. -/
  resolved : List ℕ := []
  phase : ShutdownPhase := .notCalled
  /-- The starts that were cancelled. -/
  cancelled : List Filed := []
  /-- The calls of `_shutdown_instance_handle` since the shutdown was called. -/
  handed : List Filed := []
  /-- The futures that were in the queue when it was called or came into it since. -/
  waited : List ℕ := []
  /-- The instances in the pools when it was called. -/
  filedAtCall : List Filed := []

/-- What happens between two waits. -/
inductive ShutdownAction (κ : Type) where
  | router (a : Action κ)
  | trackFt (instanceId : String)
  | findFt (instanceId : String)
  | joinFt (instanceId : String)
  /-- A start that does not find its handle, fails or is cancelled. -/
  | endFt (instanceId : String)
  /-- `_shutdown_instance(instance_id, is_ft=True)` -/
  | shutdownFt (instanceId : String)
  /-- A request, or one that is tried again, asks for an instance. -/
  | enqueue (future : ℕ)
  /-- The load balancer takes a future, and later gives it an instance. -/
  | take
  | give (instanceId : String)
  | call
  | drain
  | collect
  | finish

namespace RouterState

variable {κ : Type}

/-- The instance is in a pool. -/
def Has (r : RouterState κ) (instanceId : String) : Prop := ∃ p, r.InPool p instanceId

instance (r : RouterState κ) (p : Pool) (instanceId : String) :
    Decidable (r.InPool p instanceId) := inferInstanceAs (Decidable (_ ∈ _))

instance (r : RouterState κ) (instanceId : String) : Decidable (r.Has instanceId) :=
  inferInstanceAs (Decidable (∃ p, r.InPool p instanceId))

/-- The start that goes on with the action. -/
def goesOn : Action κ → Option String
  | .beginStart instanceId | .findInstance instanceId | .launch instanceId | .join instanceId
  | .failStart instanceId => some instanceId
  | _ => none

/-- The instances an action hands to `_shutdown_instance_handle`. -/
def handedBy (r : RouterState κ) : Action κ → List Filed
  | .join instanceId => if r.isStarting instanceId then [] else [.inference instanceId]
  | .shutdownInstance instanceId => if r.Has instanceId then [.inference instanceId] else []
  | _ => []

/-- `inference_instances`, with all pools. -/
def collectInference (r : RouterState κ) : OrderedDict String (Instance κ) :=
  let update (d e : OrderedDict String (Instance κ)) := d.updateWith e fun _ _ handle => handle
  update (update (update (update .empty r.startingInferenceInstances) r.readyInferenceInstances)
    r.deletingInferenceInstances) r.failedInferenceInstances

/-- `pool.clear()` of all pools. -/
def clearPools (r : RouterState κ) : RouterState κ :=
  { r with
    startingInferenceInstances := .empty
    readyInferenceInstances := .empty
    deletingInferenceInstances := .empty
    failedInferenceInstances := .empty }

end RouterState

namespace ShutdownState

variable {κ : Type}

/-- The instances in the pools. -/
def filed (s : ShutdownState κ) : List Filed :=
  (s.router.startingInferenceInstances.keys ++ s.router.readyInferenceInstances.keys ++
      s.router.deletingInferenceInstances.keys ++ s.router.failedInferenceInstances.keys).map
    .inference ++
  (s.startingFtInstances.keys ++ s.readyFtInstances.keys).map .fineTuning

/-- `ft_instances` -/
def collectFt (s : ShutdownState κ) : OrderedDict String (Instance κ) :=
  s.startingFtInstances.updateWith s.readyFtInstances fun _ _ handle => handle

/-- The shutdown is neither to come nor over. -/
def underWay (s : ShutdownState κ) : Bool := s.phase ∈ [.cancelling, .locking, .gathering]

/-- The start tasks that `_cancel_start_tasks` finds. -/
def startTasks (s : ShutdownState κ) : List Filed :=
  ((s.router.startTasks.filter fun _ task => task.phase ≠ .creating).keys.map .inference) ++
    s.ftStartTasks.keys.map .fineTuning

/-- The first part of `shutdown`. -/
def call (s : ShutdownState κ) : ShutdownState κ :=
  { s with
    phase := .cancelling
    cancelled := s.startTasks
    handed := []
    waited := s.requestQueue
    filedAtCall := s.filed }

/-- `while not self.request_queue.empty()`: a future is no pair. -/
def drain (s : ShutdownState κ) : ShutdownState κ :=
  match s.requestQueue with
  | [] => { s with phase := .locking }
  | _ :: rest => { s with requestQueue := rest, phase := .raised }

/-- The part under the lock, and the calls of `_shutdown_instance_handle`. -/
def collect (s : ShutdownState κ) : ShutdownState κ :=
  { s with
    router := s.router.clearPools
    startingFtInstances := .empty
    readyFtInstances := .empty
    phase := .gathering
    handed := s.handed ++ s.router.collectInference.keys.map .inference ++
      s.collectFt.keys.map .fineTuning }

/-- `_create_ft_instance` files the instance and makes its task. -/
def trackFt (s : ShutdownState κ) (instanceId : String) : ShutdownState κ :=
  { s with
    startingFtInstances := s.startingFtInstances.set instanceId { numGpu := s.router.numGpus }
    ftStartTasks := s.ftStartTasks.set instanceId none }

/-- `_start_ft_instance` looks its handle up. -/
def findFt (s : ShutdownState κ) (instanceId : String) : ShutdownState κ :=
  match s.startingFtInstances.get? instanceId with
  | none => { s with ftStartTasks := s.ftStartTasks.erase instanceId }
  | some handle => { s with ftStartTasks := s.ftStartTasks.set instanceId (some handle) }

/-- Its last part, which files the instance as ready first. -/
def joinFt (s : ShutdownState κ) (instanceId : String) (handle : Instance κ) : ShutdownState κ :=
  { s with
    readyFtInstances := s.readyFtInstances.set instanceId handle
    startingFtInstances := s.startingFtInstances.erase instanceId
    ftStartTasks := s.ftStartTasks.erase instanceId }

/-- `_shutdown_instance` of a fine-tuning instance. -/
def shutdownFt (s : ShutdownState κ) (instanceId : String) : ShutdownState κ :=
  if instanceId ∈ s.readyFtInstances.keys then
    { s with
      readyFtInstances := s.readyFtInstances.erase instanceId
      handed := s.handed ++ [.fineTuning instanceId] }
  else if instanceId ∈ s.startingFtInstances.keys then
    { s with
      startingFtInstances := s.startingFtInstances.erase instanceId
      handed := s.handed ++ [.fineTuning instanceId] }
  else s

/-- What an action does, when it can happen. -/
def act (s : ShutdownState κ) : ShutdownAction κ → Option (ShutdownState κ)
  | .router a =>
    -- a cancelled start does nothing but run its handler
    if ∃ instanceId ∈ RouterState.goesOn a, Filed.inference instanceId ∈ s.cancelled then none
    else (s.router.step a).map fun router =>
      { s with router, handed := s.handed ++ s.router.handedBy a }
  | .trackFt instanceId => some (s.trackFt instanceId)
  | .findFt instanceId =>
    match s.ftStartTasks.get? instanceId with
    | some none =>
      if Filed.fineTuning instanceId ∉ s.cancelled then some (s.findFt instanceId) else none
    | _ => none
  | .joinFt instanceId =>
    match s.ftStartTasks.get? instanceId with
    | some (some handle) =>
      if Filed.fineTuning instanceId ∉ s.cancelled then some (s.joinFt instanceId handle) else none
    | _ => none
  | .endFt instanceId => some { s with ftStartTasks := s.ftStartTasks.erase instanceId }
  | .shutdownFt instanceId => some (s.shutdownFt instanceId)
  | .enqueue future =>
    some { s with requestQueue := s.requestQueue ++ [future], waited := s.waited ++ [future] }
  | .take =>
    match s.allocating, s.requestQueue with
    | none, future :: rest => some { s with requestQueue := rest, allocating := some future }
    | _, _ => none
  | .give instanceId =>
    match s.allocating with
    | some future =>
      if s.router.InPool .ready instanceId then
        some { s with allocating := none, resolved := s.resolved ++ [future] }
      else none
    | none => none
  | .call => if s.phase = .notCalled then some s.call else none
  | .drain => if s.phase = .cancelling then some s.drain else none
  | .collect => if s.phase = .locking then some s.collect else none
  | .finish => if s.phase = .gathering then some { s with phase := .ended } else none

/-- One action of a run, which ends with the shutdown. -/
def step (s : ShutdownState κ) (a : ShutdownAction κ) : Option (ShutdownState κ) :=
  if s.phase = .ended ∨ s.phase = .raised then none else s.act a

end ShutdownState

end Router
end SpotServe
