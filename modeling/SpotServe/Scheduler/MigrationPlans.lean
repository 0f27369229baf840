import Mathlib.Algebra.Order.Floor.Semiring
import Mathlib.Algebra.Order.Monoid.WithTop
import Mathlib.Data.Rat.Floor
import SpotServe.Library.Selection
import SpotServe.Scheduler.StorageAware

/-!
# The search for migration plans

`get_migration_plans` of the storage-aware scheduler looks for instances that can leave a node, so
that at least `gpu_shortage` GPUs become free there.  It fills a table with one row for each
instance and one cell for each number of GPUs up to the shortage.  A cell is a `MigrationPlans`
object with the plans collected so far and a store table of its own, in which a target's waiting
time has grown by the loads planned onto it.  Whatever raises on the way is caught, and no plan is
returned.

* `getMigrationTarget`: the node an instance would move to, by the loading time there.
* `extend`: a cell with one more instance.
* `nextCell`, `nextRow`, `fillTable`: the table.
* `getMigrationPlans`: the cheapest cell of the last row that frees enough.
* `cost`: the latency of moving an instance alone.
* `exists_extend_iff`, `extend_spec`: when a cell of a plan takes one more instance, and what that
  does to it.
* `extend_unreached`: a cell that was not reached ends the search.
-/

namespace SpotServe
namespace Scheduler
namespace StorageAware

open Py Runs Selection

/-! ## What the search reads -/

/-- `store_info` -/
abbrev StoreInfo := OrderedDict String NodeStore

/-- The fields of `InstanceStatus` the search reads.  A latency is a time. -/
structure InstanceStatus where
  instanceId : String
  modelName : String
  numGpu : ℕ
  resumingLatency : Option ℚ
  nonneg : 0 ≤ resumingLatency.getD 0

theorem InstanceStatus.nonneg_none : 0 ≤ (none : Option ℚ).getD 0 := le_rfl

/-- The tables the search is called with. -/
structure MigrationTables where
  workerNodes : NodeTable
  modelInfo : OrderedDict String ℚ
  storeInfo : StoreInfo
  hardwareInfo : OrderedDict String Hardware

/-- Tables of sizes, waiting times and bandwidths. -/
structure MeasuredTables extends MigrationTables where
  size_nonneg : ∀ modelName size, modelInfo.get? modelName = some size → 0 ≤ size
  waitingTime_nonneg : ∀ nodeId store, storeInfo.get? nodeId = some store → 0 ≤ store.waitingTime
  bandwidth_nonneg : ∀ nodeId hardware, hardwareInfo.get? nodeId = some hardware →
    0 ≤ hardware.diskBandwidth ∧ 0 ≤ hardware.pcieBandwidth

instance measuredTablesCoe : Coe MeasuredTables MigrationTables :=
  ⟨MeasuredTables.toMigrationTables⟩

/-! ## The target of one instance -/

/-- `store_info[node_id]`, where `store_info` may be `None`. -/
def subscript (store : Option StoreInfo) (nodeId : String) : Except LoopError NodeStore :=
  match store with
  | none => .error .typeError
  | some store => lookup store nodeId

/-- A candidate of `_get_migration_target`, with its loading time. -/
def candidate (tables : MigrationTables) (modelName : String) (store : Option StoreInfo)
    (nodeId : String) : Except LoopError (String × ℚ) := do
  let modelSize ← lookup tables.modelInfo modelName
  let hardware ← lookup tables.hardwareInfo nodeId
  let nodeStore ← subscript store nodeId
  let loadingTime ← getModelLoadingTime modelName modelSize hardware nodeStore
  return (nodeId, loadingTime)

/-- The nodes `_get_migration_target` considers.  It does not ask for their state. -/
def candidateNodes (tables : MigrationTables) (numGpu : ℕ) (sourceNodeId : String) : List String :=
  (tables.workerNodes.entries.filter fun entry =>
    entry.1 ≠ sourceNodeId ∧ (numGpu : ℚ) ≤ entry.2.freeGpu).map Prod.fst

/-- `_get_migration_target` -/
def getMigrationTarget (tables : MigrationTables) (modelName : String) (numGpu : ℕ)
    (sourceNodeId : String) (store : Option StoreInfo) : Except LoopError (Option (String × ℚ)) :=
  ((candidateNodes tables numGpu sourceNodeId).mapM (candidate tables modelName store)).map
    (best Prod.snd)

/-! ## The table -/

/-- A `MigrationPlans` object of the table.  Each plan is a target node and an instance. -/
structure Cell where
  totalLatency : WithTop ℚ := ⊤
  evictedGPUs : ℕ := 0
  plans : List (String × InstanceStatus) := []
  storeInfo : Option StoreInfo := none

/-- `store_info[node_id][2] += loading_time` -/
def addWaitingTime (store : StoreInfo) (nodeId : String) (loadingTime : ℚ) : StoreInfo :=
  match store.get? nodeId with
  | none => store
  | some nodeStore =>
    store.set nodeId { nodeStore with waitingTime := nodeStore.waitingTime + loadingTime }

/-- A cell with one more instance: its target is looked up in the cell's store table, which then
waits longer there. -/
def extend (tables : MigrationTables) (sourceNodeId : String) (cell : Cell)
    (currentInstance : InstanceStatus) : Except LoopError Cell := do
  let target ← getMigrationTarget tables currentInstance.modelName currentInstance.numGpu
    sourceNodeId cell.storeInfo
  match target with
  -- `None` is not a pair
  | none => .error .typeError
  | some (targetNodeId, loadingTime) =>
    let migrationLatency := currentInstance.resumingLatency.getD 0 + loadingTime
    return {
      totalLatency := (migrationLatency : WithTop ℚ) + cell.totalLatency
      evictedGPUs := cell.evictedGPUs + currentInstance.numGpu
      plans := cell.plans ++ [(targetNodeId, currentInstance)]
      storeInfo := cell.storeInfo.map fun store => addWaitingTime store targetNodeId loadingTime }

/-- `dp[i][j]`, from the row before. -/
def nextCell (tables : MigrationTables) (sourceNodeId : String) (prev : List Cell)
    (currentInstance : InstanceStatus) (j : ℕ) : Except LoopError Cell :=
  let skipped := prev.getD j {}
  if currentInstance.numGpu ≤ j then do
    let previous := prev.getD (j - currentInstance.numGpu) {}
    let taken ← extend tables sourceNodeId previous currentInstance
    return if taken.totalLatency < skipped.totalLatency then taken else skipped
  else .ok skipped

/-- `dp[i]` -/
def nextRow (tables : MigrationTables) (sourceNodeId : String) (gpuShortage : ℕ) (prev : List Cell)
    (currentInstance : InstanceStatus) : Except LoopError (List Cell) :=
  (List.range (gpuShortage + 1)).mapM (nextCell tables sourceNodeId prev currentInstance)

/-- `dp[0][0]` -/
def start (tables : MigrationTables) : Cell :=
  { totalLatency := 0, storeInfo := some tables.storeInfo }

/-- `dp[0]` -/
def firstRow (tables : MigrationTables) (gpuShortage : ℕ) : List Cell :=
  start tables :: List.replicate gpuShortage {}

/-- The last row of the table. -/
def fillTable (tables : MigrationTables) (sourceNodeId : String) (gpuShortage : ℕ)
    (instances : List InstanceStatus) : Except LoopError (List Cell) :=
  instances.foldlM (nextRow tables sourceNodeId gpuShortage) (firstRow tables gpuShortage)

/-- The first of the cheapest cells that free enough. -/
def optimalPlans (gpuShortage : ℕ) (row : List Cell) : Option Cell :=
  row.foldl (fun optimal cell =>
    if cell.totalLatency < optimal.elim ⊤ Cell.totalLatency ∧ gpuShortage ≤ cell.evictedGPUs then
      some cell
    else optimal) none

/-- `get_migration_plans`, from the statuses of the migratable instances on. -/
def getMigrationPlans (tables : MigrationTables) (sourceNodeId : String) (gpuShortage : ℚ)
    (instances : List InstanceStatus) : Option Cell :=
  if instances = [] then none
  -- `int(gpu_shortage)` is negative: there is no `dp[0][0]`
  else if gpuShortage ≤ -1 then none
  else
    let gpuShortage := ⌊gpuShortage⌋₊
    match fillTable tables sourceNodeId gpuShortage instances with
    | .error _ => none
    | .ok row => optimalPlans gpuShortage row

/-! ## Store tables that wait longer -/

/-- The same pinned models, and a waiting time that is no shorter. -/
def NodeStore.Later (a b : NodeStore) : Prop :=
  a.pinnedMemoryPool = b.pinnedMemoryPool ∧ a.waitingTime ≤ b.waitingTime

/-- The same nodes, each of them later. -/
def Later (a b : StoreInfo) : Prop :=
  ∀ nodeId, Option.Rel NodeStore.Later (a.get? nodeId) (b.get? nodeId)

theorem Later.refl (store : StoreInfo) : Later store store := by
  intro nodeId
  cases store.get? nodeId with
  | none => exact .none
  | some nodeStore => exact .some ⟨rfl, le_rfl⟩

theorem Later.addWaitingTime {a b : StoreInfo} (h : Later a b) (targetNodeId : String)
    {loadingTime : ℚ} (hnonneg : 0 ≤ loadingTime) :
    Later a (addWaitingTime b targetNodeId loadingTime) := by
  unfold StorageAware.addWaitingTime
  cases htarget : b.get? targetNodeId with
  | none => exact h
  | some nodeStore =>
    intro nodeId
    have hnode := h nodeId
    by_cases heq : targetNodeId = nodeId
    · subst heq
      rw [OrderedDict.get?_set_self]
      rw [htarget] at hnode
      generalize a.get? targetNodeId = x at hnode ⊢
      cases hnode with
      | some hle => exact .some ⟨hle.1, by dsimp only; linarith [hle.2]⟩
    · rw [OrderedDict.get?_set_of_ne _ _ heq]
      exact hnode

theorem getModelLoadingTime_later (modelName : String) (modelSize : ℚ) (hardware : Hardware)
    {a b : NodeStore} (h : a.Later b) :
    EndAlike (· ≤ ·) (getModelLoadingTime modelName modelSize hardware a)
      (getModelLoadingTime modelName modelSize hardware b) := by
  unfold getModelLoadingTime
  rw [h.1]
  split_ifs with hpinned
  · exact .refl (fun _ => le_rfl) _
  · refine (EndAlike.refl (fun _ => rfl) _).map fun loading _ heq => ?_
    exact heq ▸ add_le_add_left h.2 loading

theorem subscript_later {a b : StoreInfo} (h : Later a b) (nodeId : String) :
    EndAlike NodeStore.Later (subscript (some a) nodeId) (subscript (some b) nodeId) := by
  show EndAlike _ (lookup a nodeId) (lookup b nodeId)
  have hnode := h nodeId
  unfold lookup
  generalize a.get? nodeId = x at hnode ⊢
  generalize b.get? nodeId = y at hnode ⊢
  cases hnode with
  | none => exact .error _
  | some hlater => exact .ok hlater

/-- **Waiting longer changes no candidate**, it only takes longer to load. -/
theorem candidate_later (tables : MigrationTables) (modelName : String) {a b : StoreInfo}
    (h : Later a b) (nodeId : String) :
    EndAlike (fun x y => x.2 ≤ y.2) (candidate tables modelName (some a) nodeId)
      (candidate tables modelName (some b) nodeId) := by
  unfold candidate
  refine (EndAlike.refl (fun _ => rfl) _).bind fun modelSize _ hsize => ?_
  obtain rfl := hsize
  refine (EndAlike.refl (fun _ => rfl) _).bind fun hardware _ hhardware => ?_
  obtain rfl := hhardware
  refine (subscript_later h nodeId).bind fun x y hxy => ?_
  exact (getModelLoadingTime_later modelName modelSize hardware hxy).bind fun _ _ hle => .ok hle

theorem getMigrationTarget_later (tables : MigrationTables) (modelName : String) (numGpu : ℕ)
    (sourceNodeId : String) {a b : StoreInfo} (h : Later a b) :
    EndAlike (Option.Rel fun x y => x.2 ≤ y.2)
      (getMigrationTarget tables modelName numGpu sourceNodeId (some a))
      (getMigrationTarget tables modelName numGpu sourceNodeId (some b)) := by
  unfold getMigrationTarget
  refine (EndAlike.mapM fun nodeId _ => candidate_later tables modelName h nodeId).map ?_
  intro candidates candidates' hall
  exact key_best_le hall

/-! ## Loading times -/

theorem divide_nonneg {x y z : ℚ} (hx : 0 ≤ x) (hy : 0 ≤ y) (h : divide x y = .ok z) : 0 ≤ z := by
  unfold divide at h
  split_ifs at h
  obtain rfl := Except.ok.inj h
  exact div_nonneg hx hy

theorem getModelLoadingTime_nonneg {modelName : String} {modelSize loadingTime : ℚ}
    {hardware : Hardware} {store : NodeStore} (hsize : 0 ≤ modelSize)
    (hbandwidth : 0 ≤ hardware.diskBandwidth ∧ 0 ≤ hardware.pcieBandwidth)
    (hwaiting : 0 ≤ store.waitingTime)
    (h : getModelLoadingTime modelName modelSize hardware store = .ok loadingTime) :
    0 ≤ loadingTime := by
  unfold getModelLoadingTime at h
  split_ifs at h with hpinned
  · exact divide_nonneg hsize hbandwidth.2 h
  · obtain ⟨loading, hloading, rfl⟩ := of_map_ok h
    exact add_nonneg hwaiting (divide_nonneg hsize hbandwidth.1 hloading)

theorem of_lookup_ok {β : Type} {table : OrderedDict String β} {key : String} {value : β}
    (h : lookup table key = .ok value) : table.get? key = some value := by
  unfold lookup at h
  split at h
  · exact absurd h (by simp)
  · obtain rfl := Except.ok.inj h
    assumption

theorem candidate_nonneg {tables : MeasuredTables} {modelName nodeId : String} {target : String × ℚ}
    (h : candidate tables modelName (some tables.storeInfo) nodeId = .ok target) :
    0 ≤ target.2 := by
  unfold candidate at h
  obtain ⟨modelSize, hsize, h⟩ := of_bind_ok h
  obtain ⟨hardware, hhardware, h⟩ := of_bind_ok h
  obtain ⟨store, hstore, h⟩ := of_bind_ok h
  obtain ⟨loadingTime, hloading, h⟩ := of_bind_ok h
  obtain rfl := Except.ok.inj h
  exact getModelLoadingTime_nonneg (tables.size_nonneg _ _ (of_lookup_ok hsize))
    (tables.bandwidth_nonneg _ _ (of_lookup_ok hhardware))
    (tables.waitingTime_nonneg _ _ (of_lookup_ok hstore)) hloading

theorem of_getMigrationTarget {tables : MigrationTables} {modelName : String} {numGpu : ℕ}
    {sourceNodeId : String} {store : Option StoreInfo} {target : String × ℚ}
    (h : getMigrationTarget tables modelName numGpu sourceNodeId store = .ok (some target)) :
    ∃ nodeId ∈ candidateNodes tables numGpu sourceNodeId,
      candidate tables modelName store nodeId = .ok target := by
  unfold getMigrationTarget at h
  obtain ⟨candidates, hcandidates, hbest⟩ := of_map_ok h
  exact exists_of_mem_right (forall₂_of_mapM_ok hcandidates) (mem_of_best hbest)

/-! ## One more instance -/

/-- The latency of moving an instance alone, if it has a target. -/
def cost (tables : MigrationTables) (sourceNodeId : String) (currentInstance : InstanceStatus) :
    Option ℚ :=
  match getMigrationTarget tables currentInstance.modelName currentInstance.numGpu sourceNodeId
    (some tables.storeInfo) with
  | .ok (some target) => some (currentInstance.resumingLatency.getD 0 + target.2)
  | _ => none

/-- A cell of a plan: its store table is there and only later, its latency is a time. -/
structure Cell.Reached (tables : MigrationTables) (cell : Cell) : Prop where
  storeInfo : ∃ store, cell.storeInfo = some store ∧ Later tables.storeInfo store
  latency : 0 ≤ cell.totalLatency

theorem reached_start (tables : MigrationTables) : (start tables).Reached tables :=
  ⟨⟨tables.storeInfo, rfl, Later.refl _⟩, le_rfl⟩

theorem of_extend_ok {tables : MigrationTables} {sourceNodeId : String} {cell cell' : Cell}
    {currentInstance : InstanceStatus}
    (h : extend tables sourceNodeId cell currentInstance = .ok cell') :
    ∃ target, getMigrationTarget tables currentInstance.modelName currentInstance.numGpu
        sourceNodeId cell.storeInfo = .ok (some target) ∧
      cell' = {
        totalLatency :=
          ((currentInstance.resumingLatency.getD 0 + target.2 : ℚ) : WithTop ℚ) + cell.totalLatency
        evictedGPUs := cell.evictedGPUs + currentInstance.numGpu
        plans := cell.plans ++ [(target.1, currentInstance)]
        storeInfo := cell.storeInfo.map fun store => addWaitingTime store target.1 target.2 } := by
  unfold extend at h
  obtain ⟨target, htarget, h⟩ := of_bind_ok h
  cases target with
  | none => exact absurd h (by simp)
  | some target => exact ⟨target, htarget, (Except.ok.inj h).symm⟩

theorem extend_of_target {tables : MigrationTables} {sourceNodeId : String} {cell : Cell}
    {currentInstance : InstanceStatus} {target : String × ℚ}
    (h : getMigrationTarget tables currentInstance.modelName currentInstance.numGpu
      sourceNodeId cell.storeInfo = .ok (some target)) :
    ∃ cell', extend tables sourceNodeId cell currentInstance = .ok cell' :=
  ⟨_, bind_ok h rfl⟩

theorem cost_eq_some_iff {tables : MigrationTables} {sourceNodeId : String}
    {currentInstance : InstanceStatus} {alone : ℚ} :
    cost tables sourceNodeId currentInstance = some alone ↔
      ∃ target, getMigrationTarget tables currentInstance.modelName currentInstance.numGpu
          sourceNodeId (some tables.storeInfo) = .ok (some target) ∧
        alone = currentInstance.resumingLatency.getD 0 + target.2 := by
  unfold cost
  split
  case h_1 target htarget =>
    rw [htarget]
    constructor
    · intro h
      exact ⟨target, rfl, (Option.some.inj h).symm⟩
    · rintro ⟨target', htarget', rfl⟩
      rw [Option.some.inj (Except.ok.inj htarget')]
  case h_2 hnone =>
    constructor
    · intro h
      exact absurd h (by simp)
    · rintro ⟨target, htarget, -⟩
      exact absurd htarget (hnone target)

/-- **One more instance is possible** exactly when the instance has a target before anything is
planned. -/
theorem exists_extend_iff {tables : MigrationTables} {sourceNodeId : String} {cell : Cell}
    (hcell : cell.Reached tables) (currentInstance : InstanceStatus) :
    (∃ cell', extend tables sourceNodeId cell currentInstance = .ok cell') ↔
      (cost tables sourceNodeId currentInstance).isSome := by
  obtain ⟨⟨store, hstore, hlater⟩, -⟩ := hcell
  have halike := getMigrationTarget_later tables currentInstance.modelName currentInstance.numGpu
    sourceNodeId hlater
  rw [Option.isSome_iff_exists]
  constructor
  · rintro ⟨cell', h⟩
    obtain ⟨target, htarget, -⟩ := of_extend_ok h
    rw [hstore] at htarget
    rw [htarget] at halike
    obtain ⟨target', htarget', hrel⟩ := halike.of_ok_right
    cases hrel with
    | some hle => exact ⟨_, cost_eq_some_iff.mpr ⟨_, htarget', rfl⟩⟩
  · rintro ⟨alone, h⟩
    obtain ⟨target, htarget, -⟩ := cost_eq_some_iff.mp h
    rw [htarget] at halike
    obtain ⟨target', htarget', hrel⟩ := halike.of_ok_left
    cases hrel with
    | some hle => exact extend_of_target (hstore ▸ htarget')

/-- **What one more instance does** to a reached cell. -/
theorem extend_spec {tables : MeasuredTables} {sourceNodeId : String} {cell cell' : Cell}
    {currentInstance : InstanceStatus} (hcell : cell.Reached tables)
    (h : extend tables sourceNodeId cell currentInstance = .ok cell') :
    cell'.Reached tables ∧ cell'.evictedGPUs = cell.evictedGPUs + currentInstance.numGpu ∧
      cell.totalLatency ≤ cell'.totalLatency ∧
      ∃ alone, cost tables sourceNodeId currentInstance = some alone ∧
        (alone : WithTop ℚ) ≤ cell'.totalLatency := by
  obtain ⟨⟨store, hstore, hlater⟩, hlatency⟩ := hcell
  obtain ⟨target, htarget, rfl⟩ := of_extend_ok h
  rw [hstore] at htarget
  have halike := getMigrationTarget_later tables currentInstance.modelName currentInstance.numGpu
    sourceNodeId hlater
  rw [htarget] at halike
  obtain ⟨first, hfirst, hrel⟩ := halike.of_ok_right
  cases hrel with
  | @some first _ hle =>
    obtain ⟨nodeId, -, hcandidate⟩ := of_getMigrationTarget hfirst
    have hloading : 0 ≤ target.2 := (candidate_nonneg hcandidate).trans hle
    have hresuming := currentInstance.nonneg
    have hadded : (0 : WithTop ℚ) ≤
        ((currentInstance.resumingLatency.getD 0 + target.2 : ℚ) : WithTop ℚ) :=
      WithTop.coe_le_coe.mpr (add_nonneg hresuming hloading)
    refine ⟨⟨⟨_, by rw [hstore]; rfl, hlater.addWaitingTime _ hloading⟩,
      add_nonneg hadded hlatency⟩, rfl, le_add_of_nonneg_left hadded,
      _, cost_eq_some_iff.mpr ⟨first, hfirst, rfl⟩, ?_⟩
    refine le_trans (WithTop.coe_le_coe.mpr ?_) (le_add_of_nonneg_right hlatency)
    linarith

/-- On the first cell it costs what moving the instance alone does. -/
theorem extend_start {tables : MigrationTables} {sourceNodeId : String} {cell : Cell}
    {currentInstance : InstanceStatus}
    (h : extend tables sourceNodeId (start tables) currentInstance = .ok cell) :
    ∃ alone, cost tables sourceNodeId currentInstance = some alone ∧
      cell.totalLatency = (alone : WithTop ℚ) := by
  obtain ⟨target, htarget, rfl⟩ := of_extend_ok h
  exact ⟨_, cost_eq_some_iff.mpr ⟨target, htarget, rfl⟩, add_zero _⟩

/-- A cell that was not reached ends the search. -/
theorem extend_unreached (tables : MigrationTables) (sourceNodeId : String)
    (currentInstance : InstanceStatus) :
    ∃ e, extend tables sourceNodeId {} currentInstance = .error e := by
  cases h : extend tables sourceNodeId {} currentInstance with
  | error e => exact ⟨e, rfl⟩
  | ok cell =>
    obtain ⟨target, htarget, -⟩ := of_extend_ok h
    obtain ⟨nodeId, -, hcandidate⟩ := of_getMigrationTarget htarget
    unfold candidate at hcandidate
    obtain ⟨_, -, hcandidate⟩ := of_bind_ok hcandidate
    obtain ⟨_, -, hcandidate⟩ := of_bind_ok hcandidate
    obtain ⟨_, hsubscript, -⟩ := of_bind_ok hcandidate
    exact absurd hsubscript (by simp [subscript])

/-! ## One cell -/

section Cell

variable {tables : MigrationTables} {sourceNodeId : String} {prev : List Cell}
  {currentInstance : InstanceStatus}

theorem nextCell_of_lt {j : ℕ} (h : j < currentInstance.numGpu) :
    nextCell tables sourceNodeId prev currentInstance j = .ok (prev.getD j {}) := by
  unfold nextCell
  rw [if_neg (not_le.mpr h)]

theorem nextCell_of_extend {j : ℕ} {taken : Cell} (h : currentInstance.numGpu ≤ j)
    (htaken : extend tables sourceNodeId (prev.getD (j - currentInstance.numGpu) {})
      currentInstance = .ok taken) :
    nextCell tables sourceNodeId prev currentInstance j =
      .ok (if taken.totalLatency < (prev.getD j {}).totalLatency then taken
        else prev.getD j {}) := by
  unfold nextCell
  rw [if_pos h]
  exact bind_ok htaken rfl

theorem of_nextCell_ok {j : ℕ} {cell : Cell} (h : currentInstance.numGpu ≤ j)
    (hcell : nextCell tables sourceNodeId prev currentInstance j = .ok cell) :
    ∃ taken, extend tables sourceNodeId (prev.getD (j - currentInstance.numGpu) {})
        currentInstance = .ok taken ∧
      cell = if taken.totalLatency < (prev.getD j {}).totalLatency then taken
        else prev.getD j {} := by
  unfold nextCell at hcell
  rw [if_pos h] at hcell
  obtain ⟨taken, htaken, hcell⟩ := of_bind_ok hcell
  exact ⟨taken, htaken, (Except.ok.inj hcell).symm⟩

end Cell

end StorageAware
end Scheduler
end SpotServe
