import Mathlib.Data.List.Sort
import SpotServe.Library.Runs
import SpotServe.Scheduler.Operations

/-!
# The control loop of the storage-aware scheduler

`StorageAwareScheduler` (`sllm/schedulers/storage_aware_scheduler.py`) inherits
`allocate_resource`, which appends an entry of five items to a queue, and has a `_control_loop` of
its own, which takes the entries apart into four names.  So the entries are lists of items here,
as `allocate_resource` writes them (`Request.items`), and taking them apart may raise (`unpack`).

An iteration that raises ends the loop; the state it leaves comes with the exception.

* `gather`, `schedule`, `serve`, `iteration`: the loop, in the order of the source.
* `iteration_total`: an iteration that does not raise takes out one entry for each grant.
* `servesWhatItGrants_iff`: when it serves exactly what it grants.
-/

namespace SpotServe
namespace Scheduler
namespace StorageAware

open Py Runs

/-- An item of a queue entry. -/
inductive Item where
  | time (t : ℚ)
  | instanceId (name : String)
  | numGpus (n : ℚ)
  | future (id : ℕ)
  | targetNode (node : Option String)
  deriving DecidableEq

/-- The entry `allocate_resource` appends. -/
def items (request : Request) : List Item :=
  [.time request.requestTime, .instanceId request.instanceId, .numGpus request.numGpus,
    .future request.future, .targetNode request.targetNodeId]

/-- `model_loading_queues` -/
abbrev Queues := OrderedDict String (List (List Item))

/-- The queues that calls of `allocate_resource` leave. -/
def queuesOf (s : FcfsScheduler) : Queues :=
  s.modelLoadingQueues.mapValues fun _ queue => queue.map items

/-- What ends an iteration. -/
inductive LoopError where
  /-- "too many values to unpack (expected 4)" -/
  | tooManyValues
  /-- "not enough values to unpack (expected 4, got n)" -/
  | notEnoughValues (n : ℕ)
  | typeError
  | keyError (key : String)
  | zeroDivision
  /-- "pop index out of range" -/
  | popIndexOutOfRange
  /-- `set_result` on a future that is done -/
  | invalidState
  /-- `ray.get_actor` finds no router of that name -/
  | actorNotFound (name : String)
  deriving DecidableEq

/-- A request as the loop gathers it. -/
structure StorageRequest where
  modelName : String
  idx : ℕ
  requestTime : ℚ
  numGpus : ℚ
  allocationResult : ℕ
  targetNodeId : Option String
  deriving DecidableEq

/-- `idx, (request_time, num_gpus, allocation_result, target_node_id)` -/
def unpack (modelName : String) (idx : ℕ) (entry : List Item) : Except LoopError StorageRequest :=
  match entry with
  | [.time requestTime, .numGpus numGpus, .future allocationResult, .targetNode targetNodeId] =>
    .ok ⟨modelName, idx, requestTime, numGpus, allocationResult, targetNodeId⟩
  | entry =>
    if entry.length < 4 then .error (.notEnoughValues entry.length)
    else if 4 < entry.length then .error .tooManyValues
    else .error .typeError

/-- The requests of all queues. -/
def gather (queues : Queues) : Except LoopError (List StorageRequest) :=
  (queues.entries.flatMap fun queue => queue.2.zipIdx.map fun item => (queue.1, item)).mapM
    fun (modelName, entry, idx) => unpack modelName idx entry

/-! ## Scheduling -/

/-- What `get_store_info` says about a node. -/
structure NodeStore where
  diskModels : List String
  pinnedMemoryPool : List String
  waitingTime : ℚ

/-- The bandwidths of a node. -/
structure Hardware where
  diskBandwidth : ℚ
  pcieBandwidth : ℚ

/-- `MigrationPlan`, by the model of the instance. -/
structure MigrationPlan where
  targetNodeId : String
  modelName : String
  instanceId : String

/-- `MigrationPlans` -/
structure MigrationPlans where
  totalLatency : ℚ
  plans : List MigrationPlan

/-- What an iteration reads from outside. -/
structure Outside where
  /-- `store_manager` is known, or found now. -/
  storeManager : Bool
  workerNodes : NodeTable
  modelInfo : OrderedDict String ℚ
  storeInfo : OrderedDict String NodeStore
  hardwareInfo : OrderedDict String Hardware
  enableMigration : Bool
  /-- `get_migration_plans`: the model, the shortage, the node, and the tables. -/
  migrationPlans : String → ℚ → String → NodeTable → Option MigrationPlans
  /-- The models whose router is found. -/
  routers : List String
  /-- `execute_migration_plan` returns an instance. -/
  migrates : MigrationPlan → Bool
  /-- Futures that are done before the iteration. -/
  done : List ℕ

/-- `AllocationPlan` -/
structure AllocationPlan where
  nodeId : String
  latency : ℚ
  migrationPlans : Option MigrationPlans := none

/-- `table[key]` -/
def lookup {β : Type} (table : OrderedDict String β) (key : String) : Except LoopError β :=
  match table.get? key with
  | none => .error (.keyError key)
  | some value => .ok value

/-- `x / y` -/
def divide (x y : ℚ) : Except LoopError ℚ := if y = 0 then .error .zeroDivision else .ok (x / y)

/-- `_get_model_loading_time` -/
def getModelLoadingTime (modelName : String) (modelSize : ℚ) (hardware : Hardware)
    (store : NodeStore) : Except LoopError ℚ :=
  if modelName ∉ store.pinnedMemoryPool then
    (divide modelSize hardware.diskBandwidth).map (store.waitingTime + ·)
  else divide modelSize hardware.pcieBandwidth

/-- One turn of `schedule` over the nodes. -/
def scheduleNode (env : Outside) (request : StorageRequest) (nodes : NodeTable) (nodeId : String)
    (info : NodeInfo) : Except LoopError (Option AllocationPlan) :=
  if info.state ≠ .ready then .ok none
  else
    match env.storeInfo.get? nodeId with
    | none => .ok none
    | some store =>
      if request.modelName ∉ store.diskModels then .ok none
      else do
        let modelSize ← lookup env.modelInfo request.modelName
        let hardware ← lookup env.hardwareInfo nodeId
        let latency ← getModelLoadingTime request.modelName modelSize hardware store
        if request.numGpus ≤ info.freeGpu then return some ⟨nodeId, latency, none⟩
        else if env.enableMigration then
          return (env.migrationPlans request.modelName (request.numGpus - info.freeGpu) nodeId
            nodes).map fun plans => ⟨nodeId, latency + plans.totalLatency, some plans⟩
        else return none

/-- `schedule` -/
def schedule (env : Outside) (request : StorageRequest) (nodes : NodeTable) :
    Except LoopError (List AllocationPlan) :=
  (nodes.entries.mapM fun entry => scheduleNode env request nodes entry.1 entry.2).map
    List.reduceOption

/-- The key `(x.latency, x.node_id)`. -/
def AllocationPlan.atMost (a b : AllocationPlan) : Prop :=
  a.latency < b.latency ∨ a.latency = b.latency ∧ a.nodeId ≤ b.nodeId

instance (a b : AllocationPlan) : Decidable (a.atMost b) := inferInstanceAs (Decidable (_ ∨ _))

/-- The options for the requested target node, best first. -/
def sortedOptions (request : StorageRequest) (options : List AllocationPlan) :
    List AllocationPlan :=
  (options.filter fun option => request.targetNodeId.all (· = option.nodeId)).insertionSort
    AllocationPlan.atMost

/-! ## The loop -/

/-- What an iteration works on. -/
structure Loop where
  queues : Queues
  nodes : NodeTable
  /-- The futures it resolved, with the nodes. -/
  resolved : List (ℕ × String) := []
  /-- The calls of `load_to_host`. -/
  loads : List (String × String) := []

/-- One migration plan.  GPUs are taken on its target, and given back unless it succeeds. -/
def migrate (env : Outside) (numGpus : ℚ) (loop : Loop) (plan : MigrationPlan) :
    Except (LoopError × Loop) Loop :=
  if plan.modelName ∉ env.routers then .error (.actorNotFound plan.modelName, loop)
  else if plan.targetNodeId ∉ loop.nodes.keys then .error (.keyError plan.targetNodeId, loop)
  else if env.migrates plan then
    .ok { loop with nodes := addFreeGpu loop.nodes plan.targetNodeId (-numGpus) }
  else .ok loop

/-- The entry goes by its index, the future is resolved, the GPUs are taken. -/
def allocate (env : Outside) (request : StorageRequest) (nodeId : String) (loop : Loop) :
    Except (LoopError × Loop) Loop :=
  let queue := (loop.queues.get? request.modelName).getD []
  if queue.length ≤ request.idx then .error (.popIndexOutOfRange, loop)
  else
    let loop := { loop with
      queues := loop.queues.set request.modelName (queue.eraseIdx request.idx) }
    if request.allocationResult ∈ env.done ++ loop.resolved.map Prod.fst then
      .error (.invalidState, loop)
    else
      .ok { loop with
        resolved := loop.resolved ++ [(request.allocationResult, nodeId)]
        nodes := addFreeGpu loop.nodes nodeId (-request.numGpus)
        loads := loop.loads ++ [(nodeId, request.modelName)] }

/-- One turn over the requests. -/
def serve (env : Outside) (loop : Loop) (request : StorageRequest) :
    Except (LoopError × Loop) Loop :=
  match schedule env request loop.nodes with
  | .error e => .error (e, loop)
  | .ok options =>
    match sortedOptions request options with
    | [] => .ok loop
    | plan :: _ => do
      let plans := plan.migrationPlans.elim [] MigrationPlans.plans
      let loop ← plans.foldlM (migrate env request.numGpus) loop
      allocate env request plan.nodeId loop

/-- One iteration of `_control_loop`: how it ends, and the state it leaves. -/
def iteration (env : Outside) (queues : Queues) : Except (LoopError × Loop) Loop :=
  let loop : Loop := ⟨queues, env.workerNodes, [], []⟩
  match gather queues with
  | .error e => .error (e, loop)
  | .ok requests =>
    if env.storeManager then
      (requests.insertionSort fun a b => a.idx ≤ b.idx).foldlM (serve env) loop
    else .ok loop

/-! ## What an iteration serves -/

/-- The future of an entry is among those. -/
def resolvedIn (futures : List ℕ) (entry : List Item) : Bool :=
  entry.any fun item => match item with
    | .future id => id ∈ futures
    | _ => false

/-- The iteration ends without an exception, and the entries that are gone are those whose future
was resolved.  The others are where they were. -/
def ServesWhatItGrants (env : Outside) (queues : Queues) : Prop :=
  ∃ loop, iteration env queues = .ok loop ∧
    loop.queues = queues.mapValues fun _ queue =>
      queue.filter fun entry => !resolvedIn (loop.resolved.map Prod.fst) entry

theorem filter_resolvedIn_nil (queues : Queues) :
    (queues.mapValues fun _ queue => queue.filter fun entry => !resolvedIn [] entry) = queues := by
  have hkept : ∀ entry, (!resolvedIn [] entry) = true := by
    intro entry
    rw [Bool.not_eq_true', resolvedIn, List.any_eq_false]
    rintro (_ | _ | _ | _ | _) - <;> simp
  obtain ⟨entries, nodup⟩ := queues
  simp [OrderedDict.mapValues, hkept]

theorem unpack_items (modelName : String) (idx : ℕ) (request : Request) :
    unpack modelName idx (items request) = .error .tooManyValues := rfl

/-- Gathering is where a pending request ends the loop. -/
theorem gather_queuesOf {s : FcfsScheduler} {modelName : String}
    (hpending : s.queue modelName ≠ []) : gather (queuesOf s) = .error .tooManyValues := by
  set gathered := (queuesOf s).entries.flatMap fun queue =>
    queue.2.zipIdx.map fun item => (queue.1, item) with hgathered
  have hraise : ∀ item ∈ gathered, unpack item.1 item.2.2 item.2.1 = .error .tooManyValues := by
    intro item hitem
    obtain ⟨queue, hqueue, hitem⟩ := List.mem_flatMap.mp hitem
    obtain ⟨queue, -, rfl⟩ := List.mem_map.mp hqueue
    obtain ⟨entry, hentry, rfl⟩ := List.mem_map.mp hitem
    obtain ⟨request, -, hrequest⟩ := List.mem_map.mp (List.fst_mem_of_mem_zipIdx hentry)
    exact hrequest ▸ unpack_items _ _ request
  have hsome : gathered ≠ [] := by
    unfold FcfsScheduler.queue at hpending
    cases hqueue : s.modelLoadingQueues.get? modelName with
    | none => simp [hqueue] at hpending
    | some queue =>
      rw [hqueue, Option.getD_some] at hpending
      obtain ⟨request, rest, rfl⟩ := List.exists_cons_of_ne_nil hpending
      have hmem : (modelName, (request :: rest).map items) ∈ (queuesOf s).entries :=
        List.mem_map_of_mem ((OrderedDict.mem_entries_iff _).mpr hqueue)
      exact List.ne_nil_of_mem (List.mem_flatMap.mpr ⟨_, hmem, List.mem_cons_self⟩)
  obtain ⟨item, rest, hcons⟩ := List.exists_cons_of_ne_nil hsome
  show gathered.mapM _ = _
  rw [hcons, List.mapM_cons]
  show (unpack item.1 item.2.2 item.2.1 >>= _) = _
  rw [hraise item (hcons ▸ List.mem_cons_self)]
  rfl

/-- Without pending requests there is nothing to gather. -/
theorem gather_of_empty {queues : Queues} (h : ∀ queue ∈ queues.values, queue = []) :
    gather queues = .ok [] := by
  have hnil : (queues.entries.flatMap fun queue => queue.2.zipIdx.map fun item => (queue.1, item)) =
      [] := by
    refine List.flatMap_eq_nil_iff.mpr fun queue hqueue => ?_
    rw [h queue.2 (List.mem_map_of_mem hqueue)]
    rfl
  unfold gather
  rw [hnil]
  rfl

/-! ## Every grant takes one entry -/

/-- The number of entries in all queues. -/
def pendingCount (queues : Queues) : ℕ := queues.sumBy fun _ queue => queue.length

/-- Entries in the queues and futures that were resolved. -/
def Loop.total (loop : Loop) : ℕ := pendingCount loop.queues + loop.resolved.length

theorem migrate_ok {env : Outside} {numGpus : ℚ} {loop loop' : Loop} {plan : MigrationPlan}
    (h : migrate env numGpus loop plan = .ok loop') : loop'.total = loop.total := by
  unfold migrate at h
  split_ifs at h <;> obtain rfl := Except.ok.inj h <;> rfl

theorem allocate_ok {env : Outside} {request : StorageRequest} {nodeId : String} {loop loop' : Loop}
    (h : allocate env request nodeId loop = .ok loop') : loop'.total = loop.total := by
  unfold allocate at h
  dsimp only at h
  split_ifs at h with hidx hdone
  obtain rfl := Except.ok.inj h
  have hlength := List.length_eraseIdx_add_one (not_le.mp hidx)
  unfold Loop.total pendingCount
  dsimp only
  rw [OrderedDict.sumBy_set, List.length_append, List.length_singleton]
  cases hqueue : loop.queues.get? request.modelName with
  | none =>
    rw [hqueue] at hidx
    exact absurd (Nat.zero_le _) hidx
  | some queue =>
    rw [hqueue, Option.getD_some] at hlength
    rw [Option.getD_some, OrderedDict.sumBy_erase hqueue]
    omega

/-- **One turn.** -/
theorem serve_ok {env : Outside} {request : StorageRequest} {loop loop' : Loop}
    (h : serve env loop request = .ok loop') : loop'.total = loop.total := by
  unfold serve at h
  split at h
  · exact absurd h (by simp)
  · split at h
    · obtain rfl := Except.ok.inj h
      rfl
    · obtain ⟨mid, hmid, hallocate⟩ := of_bind_ok h
      rw [allocate_ok hallocate]
      exact foldlM_of_ok (fun _ l => l.total = loop.total)
        (fun _ _ _ _ _ _ hinv hstep => (migrate_ok hstep).trans hinv) rfl hmid

/-- **An iteration that ends without an exception** has taken as many entries out as it resolved
futures, whatever the entries look like. -/
theorem iteration_total {env : Outside} {queues : Queues} {loop : Loop}
    (h : iteration env queues = .ok loop) :
    pendingCount loop.queues + loop.resolved.length = pendingCount queues := by
  unfold iteration at h
  split at h
  · exact absurd h (by simp)
  · split_ifs at h
    · exact foldlM_of_ok (fun _ l => l.total = pendingCount queues)
        (fun _ _ _ _ _ _ hinv hstep => (serve_ok hstep).trans hinv) rfl h
    · obtain rfl := Except.ok.inj h
      rfl

/-! ## Requests of `allocate_resource` -/

/-- **The loop serves what it grants** only while there is nothing to grant. -/
theorem servesWhatItGrants_iff (env : Outside) (s : FcfsScheduler) :
    ServesWhatItGrants env (queuesOf s) ↔ ∀ modelName, s.queue modelName = [] := by
  constructor
  · rintro ⟨loop, hloop, -⟩ modelName
    by_contra hpending
    unfold iteration at hloop
    rw [gather_queuesOf hpending] at hloop
    exact absurd hloop (by simp)
  · intro hempty
    have hqueues : ∀ queue ∈ (queuesOf s).values, queue = [] := by
      intro queue hqueue
      obtain ⟨modelName, hget⟩ := (OrderedDict.mem_values_iff _).mp hqueue
      have hnone := hempty modelName
      unfold FcfsScheduler.queue at hnone
      unfold queuesOf at hget
      rw [OrderedDict.get?_mapValues, Option.map_eq_some_iff] at hget
      obtain ⟨requests, hrequests, rfl⟩ := hget
      rw [hrequests, Option.getD_some] at hnone
      rw [hnone, List.map_nil]
    refine ⟨⟨queuesOf s, env.workerNodes, [], []⟩, ?_, ?_⟩
    · unfold iteration
      rw [gather_of_empty hqueues]
      split_ifs <;> rfl
    · exact (filter_resolvedIn_nil _).symm

/-- With one pending request the loop ends in an exception, on any node. -/
theorem not_servesWhatItGrants_one :
    let env : Outside :=
      { storeManager := true
        workerNodes := ⟨[("node", ⟨.ready, 1, 1⟩)], by decide⟩
        modelInfo := ⟨[("model", 1)], by decide⟩
        storeInfo := ⟨[("node", ⟨["model"], [], 0⟩)], by decide⟩
        hardwareInfo := ⟨[("node", ⟨1, 1⟩)], by decide⟩
        enableMigration := false
        migrationPlans := fun _ _ _ _ => none
        routers := []
        migrates := fun _ => false
        done := [] }
    ¬ ServesWhatItGrants env (queuesOf (queueRequest {} "model" ⟨0, "model-0", 1, 0, none⟩)) := by
  rintro env ⟨loop, hloop, -⟩
  set s := queueRequest {} "model" ⟨0, "model-0", 1, 0, none⟩
  have hpending : s.queue "model" ≠ [] := by decide
  exact absurd hloop (by simp [iteration, gather_queuesOf hpending])

end StorageAware
end Scheduler
end SpotServe
