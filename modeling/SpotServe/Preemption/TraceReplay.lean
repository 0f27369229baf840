import SpotServe.Library.OrderedDict
import Mathlib.Data.Rat.Defs
import Mathlib.Algebra.Order.Field.Rat
import Mathlib.Data.List.Dedup
import Mathlib.Data.List.Sort

/-!
# Replaying a spot trace

`replay_trace` (`sllm/spot/preemption_simulator.py`) sends the events of a trace to the controller,
each at its time, and answers a preemption with a grace period itself: a task of its own sleeps
until the deadline and then reports the instance dead, unless it is cancelled before.  The tasks are
filed in `pending_deadlines` under the instance, the node and the selector of their events.

A `Replay` is the loop over the events with its deadline tasks; the loop and the tasks are
coroutines of one event loop, and an `Action` is what one of them does between two awaits.  The
clock moves on its own, but not past the end of a sleep that is still running.
-/

namespace SpotServe
namespace Preemption

open Py

/-! ## Events -/

/-- `SUPPORTED_EVENTS` -/
inductive EventKind where
  | add
  | remove
  | preempt
  | recover
  | dead
  deriving DecidableEq, Repr

/-- `SpotEvent`, as far as the replay looks at it. -/
structure SpotEvent where
  time : ℚ
  event : EventKind
  nodeId : Option String := none
  modelName : Option String := none
  instanceId : Option String := none
  instanceIndex : Option ℤ := none
  instanceSelector : Option String := none
  gracePeriodS : Option ℚ := none
  deriving DecidableEq, Repr

/-- What keeps an event from being made. -/
inductive SpotEventError where
  | negativeTime
  | negativeGracePeriod
  | gracePeriodWithoutPreempt
  | noTarget
  | noModelName
  deriving DecidableEq, Repr

/-- `SpotEvent.__post_init__` -/
def SpotEvent.postInit (e : SpotEvent) : Except SpotEventError Unit :=
  if e.time < 0 then .error .negativeTime
  else if ∃ grace ∈ e.gracePeriodS, grace < 0 then .error .negativeGracePeriod
  else if e.gracePeriodS.isSome ∧ e.event ≠ .preempt then .error .gracePeriodWithoutPreempt
  else if e.nodeId = none ∧ e.instanceId = none ∧ e.instanceIndex = none ∧
      e.instanceSelector = none then .error .noTarget
  else if (e.instanceIndex.isSome ∨ e.instanceSelector.isSome) ∧ e.modelName = none then
    .error .noModelName
  else .ok ()

/-- `load_spot_trace`, after the lines have been parsed: every event is checked, and the trace is
sorted by time. -/
def loadSpotTrace (events : List SpotEvent) : Except SpotEventError (List SpotEvent) := do
  events.forM SpotEvent.postInit
  return events.insertionSort fun a b => a.time ≤ b.time

/-! ## Selectors -/

/-- A value of `get_instance_states`. -/
structure InstanceState where
  pool : Option String
  state : Option String
  concurrency : ℤ
  deriving DecidableEq, Repr

/-- `_is_ready_instance_state` -/
def InstanceState.isReady (s : InstanceState) : Bool :=
  s.pool = some "ready" ∧ s.state = some "ready"

/-- `_is_preempting_instance_state` -/
def InstanceState.isPreempting (s : InstanceState) : Bool := s.state = some "preempting"

/-- What keeps a selector from being resolved. -/
inductive ResolveError where
  | noModelName
  | unsupportedSelector
  | indexOutOfRange
  deriving DecidableEq, Repr

/-- The instances among which the index picks, in order; `none` when the selector is not known. -/
def selectInstances (selector : Option String) (states : List (String × InstanceState)) :
    Option (List (String × InstanceState)) :=
  let ready := states.filter fun item => item.2.isReady
  let byId := fun a b : String × InstanceState => a.1 ≤ b.1
  match selector with
  | some "active" | some "active_context" | some "busy" =>
    let busy := ready.filter fun item => 0 < item.2.concurrency
    some ((if busy = [] then ready else busy).insertionSort fun a b =>
      b.2.concurrency < a.2.concurrency ∨ a.2.concurrency = b.2.concurrency ∧ a.1 ≤ b.1)
  | some "preempting" | some "preempted" =>
    some ((states.filter fun item => item.2.isPreempting).insertionSort byId)
  | none | some "ready" => some (ready.insertionSort byId)
  | some _ => none

/-- `_resolve_instance_id`, with what the router answers. -/
def resolveInstanceId (e : SpotEvent) (states : List (String × InstanceState)) :
    Except ResolveError (Option String) :=
  match e.instanceId with
  | some instanceId => .ok (some instanceId)
  | none =>
    if e.instanceIndex = none ∧ e.instanceSelector = none then .ok none
    else if e.modelName = none then .error .noModelName
    else
      match selectInstances e.instanceSelector states with
      | none => .error .unsupportedSelector
      | some selected =>
        let asked := e.instanceIndex.getD 0
        let index := if asked < 0 then asked + selected.length else asked
        if index < 0 then .error .indexOutOfRange
        else
          match selected[index.toNat]? with
          | none => .error .indexOutOfRange
          | some (instanceId, _) => .ok (some instanceId)

/-! ## Deadline keys -/

abbrev DeadlineKey := String × String × String

/-- `s or default`, for a string that may be absent. -/
def orElse (s : Option String) (default : String) : String :=
  if s = none ∨ s = some "" then default else s.getD default

/-- `resolved_instance_id or event.instance_id` -/
def instanceOf (e : SpotEvent) (resolved : Option String) : Option String :=
  if resolved = none ∨ resolved = some "" then e.instanceId else resolved

/-- The keys of the instance and of the node. -/
def targetKeys (e : SpotEvent) (resolved : Option String) : List DeadlineKey :=
  let model := orElse e.modelName ""
  ((instanceOf e resolved).map fun instanceId => ("instance", model, instanceId)).toList ++
    (e.nodeId.map fun nodeId => ("node", model, nodeId)).toList

/-- The key of the selector. -/
def selectorKey (e : SpotEvent) : Option DeadlineKey :=
  if e.instanceSelector = none ∧ e.instanceIndex = none then none
  else some ("selector", orElse e.modelName "",
    orElse e.instanceSelector "ready" ++ ":" ++ toString (e.instanceIndex.getD 0))

/-- `_deadline_keys_for_event` -/
def deadlineKeysForEvent (e : SpotEvent) (resolved : Option String) : List DeadlineKey :=
  targetKeys e resolved ++ (selectorKey e).toList

/-! ## Deadline tasks -/

/-- How a deadline task ended.  The source tells the first two apart by who cancelled it. -/
inductive TaskEnd where
  | cancelled
  | superseded
  | dispatched
  deriving DecidableEq, Repr

/-- Where a deadline task is. -/
inductive TaskPhase where
  | sleeping
  /-- The controller has been called and has not answered. -/
  | dispatching
  | done (ending : TaskEnd)
  deriving DecidableEq, Repr

/-- A call of `handle_instance_dead`, and when it was made. -/
structure DeadCall where
  nodeId : Option String
  instanceId : Option String
  modelName : Option String
  time : ℚ
  deriving DecidableEq, Repr

/-- A deadline task: the event it answers, what the event resolved to, and its number among the
replayed events. -/
structure DeadlineTask where
  event : SpotEvent
  resolved : Option String
  index : ℕ
  deadline : ℚ
  phase : TaskPhase := .sleeping
  deadCalls : List DeadCall := []
  deriving DecidableEq, Repr

/-- `task.done()` -/
def DeadlineTask.isDone (t : DeadlineTask) : Bool :=
  match t.phase with
  | .done _ => true
  | .sleeping | .dispatching => false

/-- The call the task makes. -/
def DeadlineTask.deadCall (t : DeadlineTask) (now : ℚ) : DeadCall :=
  ⟨t.event.nodeId, t.resolved, t.event.modelName, now⟩

/-! ## The replay -/

/-- An event that has been replayed: what it resolved to, and when. -/
structure Replayed where
  event : SpotEvent
  resolved : Option String
  time : ℚ
  deriving DecidableEq, Repr

/-- `speedup`, which `replay_trace` requires to be positive. -/
abbrev Speedup := { speedup : ℚ // 0 < speedup }

/-- The loop of `replay_trace` and its deadline tasks. -/
structure Replay where
  now : ℚ := 0
  events : List SpotEvent
  replayed : List Replayed := []
  pendingDeadlines : OrderedDict DeadlineKey ℕ := .empty
  deadlineTasks : List DeadlineTask := []
  autoDeadScheduled : ℕ := 0
  autoDeadCancelled : ℕ := 0

/-- What the loop or a task does between two awaits. -/
inductive Action where
  /-- The clock moves. -/
  | tick (now : ℚ)
  /-- The loop replays the next event; the router answers with these states. -/
  | replay (states : List (String × InstanceState))
  /-- The sleep of a task is over. -/
  | wake (task : ℕ)
  /-- The controller answers a task. -/
  | answer (task : ℕ)

namespace Replay

variable (r : Replay)

/-- The task is there and not done. -/
def unfinished (task : ℕ) : Bool := (r.deadlineTasks[task]?).any fun t => !t.isDone

/-- The tasks under these keys that are not done, each once. -/
def pendingTasks (keys : List DeadlineKey) : List ℕ :=
  ((keys.filterMap r.pendingDeadlines.get?).filter r.unfinished).dedup

/-- These tasks are cancelled, and done before the loop goes on. -/
def endTasks (tasks : List ℕ) (ending : TaskEnd) : List DeadlineTask :=
  tasks.foldl (fun deadlineTasks task =>
    deadlineTasks.modify task fun t => { t with phase := .done ending }) r.deadlineTasks

/-- `_cancel_pending_deadlines` -/
def cancelPendingDeadlines (keys : List DeadlineKey) : Replay :=
  let tasks := r.pendingTasks keys
  let pending := keys.foldl OrderedDict.erase r.pendingDeadlines
  { r with
    pendingDeadlines := pending.filter fun _ task => task ∉ tasks
    deadlineTasks := r.endTasks tasks .cancelled
    autoDeadCancelled := r.autoDeadCancelled + tasks.length }

/-- A new deadline task takes the place of those under its keys. -/
def scheduleDeadline (speedup : Speedup) (e : SpotEvent) (resolved : Option String) (grace : ℚ) :
    Replay :=
  let keys := deadlineKeysForEvent e resolved
  let task := r.deadlineTasks.length
  { r with
    pendingDeadlines := keys.foldl (fun pending key => pending.set key task) r.pendingDeadlines
    deadlineTasks := r.endTasks (r.pendingTasks keys) .superseded ++
      [{ event := e, resolved := resolved, index := r.replayed.length
         deadline := r.now + grace / speedup }]
    autoDeadScheduled := r.autoDeadScheduled + 1 }

/-- What the loop does with an event that has been resolved. -/
def handle (speedup : Speedup) (e : SpotEvent) (resolved : Option String) : Replay :=
  match e.event, e.gracePeriodS with
  | .recover, _ | .dead, _ | .remove, _ =>
    r.cancelPendingDeadlines (deadlineKeysForEvent e resolved)
  | .preempt, some grace => r.scheduleDeadline speedup e resolved grace
  | _, _ => r

/-- The loop goes on to the next event. -/
def proceed (e : SpotEvent) (resolved : Option String) (rest : List SpotEvent) : Replay :=
  { r with events := rest, replayed := r.replayed ++ [⟨e, resolved, r.now⟩] }

/-- A task goes on. -/
def setTask (task : ℕ) (t : DeadlineTask) : Replay :=
  { r with deadlineTasks := r.deadlineTasks.set task t }

/-- One action; `none` when it is not its time, or when a selector raises. -/
def step (speedup : Speedup) : Action → Option Replay
  | .tick now =>
    if r.now ≤ now ∧ ∀ t ∈ r.deadlineTasks, t.phase = .sleeping → now ≤ t.deadline then
      some { r with now := now }
    else none
  | .replay states =>
    match r.events with
    | [] => none
    | e :: rest =>
      if e.time / speedup ≤ r.now then
        match resolveInstanceId e states with
        | .error _ => none
        | .ok resolved => some ((r.handle speedup e resolved).proceed e resolved rest)
      else none
  | .wake task =>
    match r.deadlineTasks[task]? with
    | some t =>
      if t.phase = .sleeping ∧ t.deadline ≤ r.now then
        some (r.setTask task { t with
          phase := .dispatching
          deadCalls := t.deadCalls ++ [t.deadCall r.now] })
      else none
    | none => none
  | .answer task =>
    match r.deadlineTasks[task]? with
    | some t =>
      if t.phase = .dispatching then some (r.setTask task { t with phase := .done .dispatched })
      else none
    | none => none

/-- The tasks that ended like that. -/
def ended (ending : TaskEnd) : ℕ :=
  r.deadlineTasks.countP fun t => t.phase = .done ending

/-- `auto_dead_dispatched` -/
def autoDeadDispatched : ℕ := r.ended .dispatched

/-- The loop is over, and the tasks have been gathered. -/
def Finished : Prop := r.events = [] ∧ ∀ t ∈ r.deadlineTasks, t.isDone

end Replay

end Preemption
end SpotServe
