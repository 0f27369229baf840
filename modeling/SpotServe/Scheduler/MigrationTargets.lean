import Mathlib.Data.List.ReduceOption
import SpotServe.Scheduler.Accounting
import SpotServe.Scheduler.MigrationSearch

/-!
# What migrations leave in the node table

The control loop carries out an allocation plan with migrations: it takes GPUs on the target of each
migration, and then on the node of the plan.  What it takes for a migration is what the request asks
for, not what the instance needs, and nothing comes back on the node the instances leave.  The
targets come from a search that asks for enough free GPUs, and not for the state of the node.

* `getMigrationPlans_fitsAlone`: each target of a plan is another node, where the instance would fit
  alone.
* `movedIn_le_freeGpu`: the targets do hold what moves to them.
* `carryOut_nodes`: the node table after a plan whose migrations all succeed.
* `carryOut_negative`: the node of the plan then has a negative number of free GPUs.
* `migratesSafely_iff`: so a plan is safe exactly when it is not carried out, and would have moved
  its instance to a node that is ready.
-/

namespace SpotServe
namespace Scheduler
namespace StorageAware

open Py Runs Selection

/-! ## Migrations found by the search -/

/-- `MigrationPlans` as the loop reads it. -/
def Cell.toPlans (cell : Cell) : MigrationPlans :=
  ⟨cell.totalLatency.untopD 0, cell.plans.map fun plan =>
    ⟨plan.1, plan.2.modelName, plan.2.instanceId⟩⟩

/-- The surroundings in which `get_migration_plans` is the search.  `migratable` gives the statuses
of the instances of other models that are on a node. -/
def searching (env : Outside) (tables : MeasuredTables)
    (migratable : String → String → List InstanceStatus) : Outside :=
  { env with
    modelInfo := tables.modelInfo
    storeInfo := tables.storeInfo
    hardwareInfo := tables.hardwareInfo
    migrationPlans := fun modelName gpuShortage nodeId nodes =>
      (getMigrationPlans ⟨nodes, tables.modelInfo, tables.storeInfo, tables.hardwareInfo⟩ nodeId
        gpuShortage (migratable modelName nodeId)).map Cell.toPlans }

/-- The loop carries out an allocation plan. -/
def carryOut (env : Outside) (request : StorageRequest) (loop : Loop) (plan : AllocationPlan) :
    Except (LoopError × Loop) Loop := do
  let loop ← (plan.migrationPlans.elim [] MigrationPlans.plans).foldlM
    (migrate env request.numGpus) loop
  allocate env request plan.nodeId loop

/-- This is what a turn of the loop does with the best option. -/
theorem serve_of_sortedOptions {env : Outside} {request : StorageRequest} {loop : Loop}
    {options rest : List AllocationPlan} {plan : AllocationPlan}
    (hschedule : schedule env request loop.nodes = .ok options)
    (hbest : sortedOptions request options = plan :: rest) :
    serve env loop request = carryOut env request loop plan := by
  unfold serve
  rw [hschedule]
  dsimp only
  rw [hbest]
  rfl

/-! ## Targets -/

/-- Each target of the cell is another node, with enough free GPUs for the instance alone. -/
def FitsAlone (tables : MigrationTables) (sourceNodeId : String) (cell : Cell) : Prop :=
  ∀ plan ∈ cell.plans, plan.1 ∈ candidateNodes tables plan.2.numGpu sourceNodeId

section Targets

variable {tables : MigrationTables} {sourceNodeId : String} {gpuShortage : ℕ}

theorem mem_candidateNodes {numGpu : ℕ} {nodeId : String} :
    nodeId ∈ candidateNodes tables numGpu sourceNodeId ↔
      nodeId ≠ sourceNodeId ∧
        ∃ info, tables.workerNodes.get? nodeId = some info ∧ (numGpu : ℚ) ≤ info.freeGpu := by
  unfold candidateNodes
  rw [List.mem_map]
  constructor
  · rintro ⟨⟨nodeId, info⟩, hmem, rfl⟩
    obtain ⟨hentry, hcandidate⟩ := List.mem_filter.mp hmem
    obtain ⟨hne, hfree⟩ := of_decide_eq_true hcandidate
    exact ⟨hne, info, (OrderedDict.mem_entries_iff _).mp hentry, hfree⟩
  · rintro ⟨hne, info, hinfo, hfree⟩
    exact ⟨(nodeId, info), List.mem_filter.mpr
      ⟨(OrderedDict.mem_entries_iff _).mpr hinfo, decide_eq_true ⟨hne, hfree⟩⟩, rfl⟩

theorem candidate_fst {modelName nodeId : String} {store : Option StoreInfo} {target : String × ℚ}
    (h : candidate tables modelName store nodeId = .ok target) : target.1 = nodeId := by
  unfold candidate at h
  obtain ⟨modelSize, -, h⟩ := of_bind_ok h
  obtain ⟨hardware, -, h⟩ := of_bind_ok h
  obtain ⟨nodeStore, -, h⟩ := of_bind_ok h
  obtain ⟨loadingTime, -, h⟩ := of_bind_ok h
  rw [← Except.ok.inj h]

theorem FitsAlone.extend {cell cell' : Cell} {currentInstance : InstanceStatus}
    (h : FitsAlone tables sourceNodeId cell)
    (hextend : extend tables sourceNodeId cell currentInstance = .ok cell') :
    FitsAlone tables sourceNodeId cell' := by
  obtain ⟨target, htarget, rfl⟩ := of_extend_ok hextend
  obtain ⟨nodeId, hnode, hcandidate⟩ := of_getMigrationTarget htarget
  intro plan hplan
  rcases List.mem_append.mp hplan with hplan | hplan
  · exact h plan hplan
  · rw [List.mem_singleton.mp hplan]
    exact (candidate_fst hcandidate).symm ▸ hnode

theorem fitsAlone_getD {row : List Cell} (h : ∀ cell ∈ row, FitsAlone tables sourceNodeId cell)
    (j : ℕ) : FitsAlone tables sourceNodeId (row.getD j {}) := by
  rw [List.getD_eq_getElem?_getD]
  cases hcell : row[j]? with
  | none => exact fun plan hplan => absurd hplan (by simp)
  | some cell => exact h cell (List.mem_of_getElem? hcell)

/-- **Every cell of the table** plans for targets that fit one by one. -/
theorem fillTable_fitsAlone {instances : List InstanceStatus} {row : List Cell}
    (h : fillTable tables sourceNodeId gpuShortage instances = .ok row) :
    ∀ cell ∈ row, FitsAlone tables sourceNodeId cell := by
  refine foldlM_of_ok (fun _ row => ∀ cell ∈ row, FitsAlone tables sourceNodeId cell) ?_ ?_ h
  · intro done currentInstance rest prev row _ hprev hrow cell hcell
    obtain ⟨j, -, hj⟩ := exists_of_mem_right (forall₂_of_mapM_ok hrow) hcell
    rcases lt_or_ge j currentInstance.numGpu with hlt | hle
    · rw [nextCell_of_lt hlt] at hj
      exact Except.ok.inj hj ▸ fitsAlone_getD hprev j
    · obtain ⟨taken, htaken, rfl⟩ := of_nextCell_ok hle hj
      split_ifs
      · exact (fitsAlone_getD hprev _).extend htaken
      · exact fitsAlone_getD hprev j
  · intro cell hcell plan hplan
    rcases List.mem_cons.mp hcell with rfl | hcell
    · exact absurd hplan (by simp [start])
    · rw [List.eq_of_mem_replicate hcell] at hplan
      exact absurd hplan (by simp)

theorem mem_of_optimalPlans {row : List Cell} {cell : Cell}
    (h : optimalPlans gpuShortage row = some cell) : cell ∈ row := by
  suffices hfold : ∀ (cells : List Cell) (optimal : Option Cell),
      cells.foldl (fun optimal cell =>
        if cell.totalLatency < optimal.elim ⊤ Cell.totalLatency ∧
          gpuShortage ≤ cell.evictedGPUs then some cell else optimal) optimal = some cell →
      cell ∈ cells ∨ optimal = some cell from
    (hfold row none h).resolve_right (by simp)
  intro cells
  induction cells with
  | nil => exact fun optimal h => Or.inr h
  | cons first cells ih =>
    intro optimal h
    rw [List.foldl_cons] at h
    rcases ih _ h with hmem | hchosen
    · exact Or.inl (List.mem_cons_of_mem first hmem)
    · split_ifs at hchosen
      · exact Or.inl (Option.some.inj hchosen ▸ List.mem_cons_self)
      · exact Or.inr hchosen

/-- **What the search returns** has targets that fit one by one. -/
theorem getMigrationPlans_fitsAlone {shortage : ℚ} {instances : List InstanceStatus} {cell : Cell}
    (h : getMigrationPlans tables sourceNodeId shortage instances = some cell) :
    FitsAlone tables sourceNodeId cell := by
  unfold getMigrationPlans at h
  split_ifs at h
  dsimp only at h
  split at h
  · exact absurd h (by simp)
  · case h_2 row hrow => exact fillTable_fitsAlone hrow cell (mem_of_optimalPlans h)

end Targets

/-! ## The node table afterwards -/

/-- The GPUs of the instances that move to a node. -/
def movedIn (migrations : List (String × InstanceStatus)) (nodeId : String) : ℕ :=
  freed ((migrations.filter fun migration => migration.1 = nodeId).map Prod.snd)

/-- The GPUs of the instances that leave a node. -/
def movedOut (migrations : List (String × InstanceStatus)) (sourceNodeId nodeId : String) : ℕ :=
  if nodeId = sourceNodeId then freed (migrations.map Prod.snd) else 0

/-- The GPUs a plan grants on a node. -/
def granted (numGpus : ℚ) (sourceNodeId nodeId : String) : ℚ :=
  if nodeId = sourceNodeId then numGpus else 0

/-- The free GPUs after a plan account for what moved and for what was granted. -/
structure Accounted (nodes : NodeTable) (sourceNodeId : String) (numGpus : ℚ)
    (migrations : List (String × InstanceStatus)) (nodes' : NodeTable) : Prop where
  balance : ∀ nodeId info, nodes.get? nodeId = some info →
    ∃ info', nodes'.get? nodeId = some info' ∧
      info'.freeGpu = info.freeGpu - movedIn migrations nodeId +
        movedOut migrations sourceNodeId nodeId - granted numGpus sourceNodeId nodeId
  nonneg : ∀ nodeId info', nodes'.get? nodeId = some info' → 0 ≤ info'.freeGpu

/-- **A safe plan**: the targets hold all that moves to them and are ready, and wherever the loop
carries the plan out and all migrations succeed, the table accounts for it. -/
structure MigratesSafely (env : Outside) (nodes : NodeTable) (request : StorageRequest)
    (plan : AllocationPlan) (migrations : List (String × InstanceStatus)) : Prop where
  fits : ∀ migration ∈ migrations, ∃ info, nodes.get? migration.1 = some info ∧
    (movedIn migrations migration.1 : ℚ) ≤ info.freeGpu
  ready : ∀ migration ∈ migrations, ∃ info, nodes.get? migration.1 = some info ∧
    info.state = .ready
  accounted : ∀ loop loop' : Loop, loop.nodes = nodes →
    (∀ migration ∈ plan.migrationPlans.elim [] MigrationPlans.plans, env.migrates migration) →
    carryOut env request loop plan = .ok loop' →
    Accounted nodes plan.nodeId request.numGpus migrations loop'.nodes

/-- `schedule` offers a plan with the migrations of a cell, for a node that has `info`. -/
structure Offered (env : Outside) (tables : MeasuredTables)
    (migratable : String → String → List InstanceStatus) (request : StorageRequest)
    (plan : AllocationPlan) (info : NodeInfo) (cell : Cell) : Prop where
  scheduled : ∃ options,
    schedule (searching env tables migratable) request tables.workerNodes = .ok options ∧
      plan ∈ options
  migrations : plan.migrationPlans = some cell.toPlans
  node : tables.workerNodes.get? plan.nodeId = some info
  searched : getMigrationPlans tables plan.nodeId (request.numGpus - info.freeGpu)
    (migratable request.modelName plan.nodeId) = some cell

/-- Nothing stops the loop from carrying out the plan: the routers of the moved models are there,
all migrations succeed, and nobody has answered the request. -/
def Executes (env : Outside) (request : StorageRequest) (plan : AllocationPlan) : Prop :=
  (∀ migration ∈ plan.migrationPlans.elim [] MigrationPlans.plans,
    migration.modelName ∈ env.routers ∧ env.migrates migration) ∧
  request.allocationResult ∉ env.done

/-- The first of the cheapest instances of as many GPUs as there are too few, if it is at least one,
loads soonest on a node that is ready. -/
def MovesToReady (tables : MigrationTables) (sourceNodeId : String) (shortage : ℚ)
    (instances : List InstanceStatus) : Prop :=
  1 ≤ shortage → ∀ i alone target,
    cheapest tables sourceNodeId ⌊shortage⌋₊ instances = some (i, alone) →
    getMigrationTarget tables i.modelName i.numGpu sourceNodeId (some tables.storeInfo) =
      .ok (some target) →
    ∃ info, tables.workerNodes.get? target.1 = some info ∧ info.state = .ready

/-- A plan with migrations is for a node with too few free GPUs. -/
theorem scheduleNode_short {env : Outside} {request : StorageRequest} {nodes : NodeTable}
    {nodeId : String} {info : NodeInfo} {plan : AllocationPlan} {plans : MigrationPlans}
    (h : scheduleNode env request nodes nodeId info = .ok (some plan))
    (hplans : plan.migrationPlans = some plans) :
    plan.nodeId = nodeId ∧ info.freeGpu < request.numGpus := by
  unfold scheduleNode at h
  by_cases hready : info.state ≠ .ready
  · rw [if_pos hready] at h
    exact absurd (Except.ok.inj h) (by simp)
  rw [if_neg hready] at h
  split at h
  · exact absurd (Except.ok.inj h) (by simp)
  case h_2 store hstore =>
  by_cases hdisk : request.modelName ∉ store.diskModels
  · rw [if_pos hdisk] at h
    exact absurd (Except.ok.inj h) (by simp)
  rw [if_neg hdisk] at h
  split_ifs at h with hfree hmigration
  · obtain ⟨modelSize, -, h⟩ := of_bind_ok h
    obtain ⟨hardware, -, h⟩ := of_bind_ok h
    obtain ⟨latency, -, h⟩ := of_bind_ok h
    obtain rfl := Option.some.inj (Except.ok.inj h)
    exact absurd hplans (by simp)
  · obtain ⟨modelSize, -, h⟩ := of_bind_ok h
    obtain ⟨hardware, -, h⟩ := of_bind_ok h
    obtain ⟨latency, -, h⟩ := of_bind_ok h
    obtain ⟨plans', -, rfl⟩ := Option.map_eq_some_iff.mp (Except.ok.inj h)
    exact ⟨rfl, not_le.mp hfree⟩
  · obtain ⟨modelSize, -, h⟩ := of_bind_ok h
    obtain ⟨hardware, -, h⟩ := of_bind_ok h
    obtain ⟨latency, -, h⟩ := of_bind_ok h
    exact absurd (Except.ok.inj h) (by simp)

theorem schedule_short {env : Outside} {request : StorageRequest} {nodes : NodeTable}
    {options : List AllocationPlan} {plan : AllocationPlan} {plans : MigrationPlans}
    (h : schedule env request nodes = .ok options) (hplan : plan ∈ options)
    (hplans : plan.migrationPlans = some plans) :
    ∃ info, nodes.get? plan.nodeId = some info ∧ info.freeGpu < request.numGpus := by
  obtain ⟨offers, hoffers, rfl⟩ := of_map_ok h
  obtain ⟨⟨nodeId, info⟩, hentry, hnode⟩ := exists_of_mem_right (forall₂_of_mapM_ok hoffers)
    (List.reduceOption_mem_iff.mp hplan)
  obtain ⟨rfl, hshort⟩ := scheduleNode_short hnode hplans
  exact ⟨info, (OrderedDict.mem_entries_iff _).mp hentry, hshort⟩

/-- Taking GPUs on a node. -/
def takeGpus (gpus : ℚ) (info : NodeInfo) : NodeInfo :=
  { info with freeGpu := info.freeGpu - gpus }

/-- How many of the migrations go to a node. -/
def arrivals (migrations : List MigrationPlan) (nodeId : String) : ℕ :=
  migrations.countP fun migration => migration.targetNodeId = nodeId

theorem migrate_nodes {env : Outside} {numGpus : ℚ} {loop loop' : Loop} {plan : MigrationPlan}
    (hmigrates : env.migrates plan) (h : migrate env numGpus loop plan = .ok loop') :
    loop'.nodes = addFreeGpu loop.nodes plan.targetNodeId (-numGpus) := by
  unfold migrate at h
  split_ifs at h
  rw [← Except.ok.inj h]

/-- **Carrying out migrations** takes what the request asks for, once for each arrival. -/
theorem foldlM_migrate_nodes {env : Outside} {numGpus : ℚ} {loop loop' : Loop}
    {plans : List MigrationPlan} (hmigrates : ∀ plan ∈ plans, env.migrates plan)
    (h : plans.foldlM (migrate env numGpus) loop = .ok loop') (nodeId : String) :
    loop'.nodes.get? nodeId = (loop.nodes.get? nodeId).map
      (takeGpus (arrivals plans nodeId * numGpus)) := by
  refine foldlM_of_ok (fun done loop' => loop'.nodes.get? nodeId = (loop.nodes.get? nodeId).map
    (takeGpus (arrivals done nodeId * numGpus))) ?_ ?_ h
  · intro done plan rest mid mid' hwhole hinv hstep
    have hplan : plan ∈ plans := hwhole ▸ List.mem_append_right _ List.mem_cons_self
    rw [migrate_nodes (hmigrates plan hplan) hstep, get?_addFreeGpu, hinv, Option.map_map]
    congr 1
    funext info
    unfold takeGpus arrivals
    simp only [Function.comp_apply, List.countP_append, List.countP_singleton, decide_eq_true_eq]
    split_ifs with htarget
    · congr 1
      push_cast
      ring
    · simp
  · cases loop.nodes.get? nodeId with
    | none => rfl
    | some info => simp [takeGpus, arrivals]

theorem allocate_nodes {env : Outside} {request : StorageRequest} {nodeId : String}
    {loop loop' : Loop} (h : allocate env request nodeId loop = .ok loop') :
    loop'.nodes = addFreeGpu loop.nodes nodeId (-request.numGpus) := by
  unfold allocate at h
  dsimp only at h
  split_ifs at h
  rw [← Except.ok.inj h]

/-- Looking at a plan that was carried out. -/
theorem executes_of_carryOut {env : Outside} {request : StorageRequest} {plan : AllocationPlan}
    {loop loop' : Loop}
    (hsucceed : ∀ migration ∈ plan.migrationPlans.elim [] MigrationPlans.plans,
      env.migrates migration)
    (hcarried : carryOut env request loop plan = .ok loop') : Executes env request plan := by
  obtain ⟨mid, hmid, hallocate⟩ := of_bind_ok hcarried
  refine ⟨?_, ?_⟩
  · refine foldlM_of_ok (fun done _ => ∀ migration ∈ done,
      migration.modelName ∈ env.routers ∧ env.migrates migration) ?_ (by simp) hmid
    intro done migration rest st st' hwhole hdone hstep earlier hearlier
    rcases List.mem_append.mp hearlier with hearlier | hlast
    · exact hdone earlier hearlier
    obtain rfl := List.mem_singleton.mp hlast
    refine ⟨?_, hsucceed _ (hwhole ▸ List.mem_append_right _ List.mem_cons_self)⟩
    unfold migrate at hstep
    by_contra hrouter
    rw [if_pos hrouter] at hstep
    exact absurd hstep (by simp)
  · unfold allocate at hallocate
    dsimp only at hallocate
    split_ifs at hallocate with _ hdone
    exact fun hmem => hdone (List.mem_append_left _ hmem)

section Offered

variable {env : Outside} {tables : MeasuredTables}
  {migratable : String → String → List InstanceStatus} {request : StorageRequest}
  {plan : AllocationPlan} {info : NodeInfo} {cell : Cell}

/-- The plan is for a node with too few free GPUs. -/
theorem Offered.short (h : Offered env tables migratable request plan info cell) :
    info.freeGpu < request.numGpus := by
  obtain ⟨options, hoptions, hplan⟩ := h.scheduled
  obtain ⟨info', hinfo', hshort⟩ := schedule_short hoptions hplan h.migrations
  obtain rfl := Option.some.inj (h.node.symm.trans hinfo')
  exact hshort

theorem Offered.plans_eq (h : Offered env tables migratable request plan info cell) :
    plan.migrationPlans.elim [] MigrationPlans.plans = cell.toPlans.plans := by
  rw [h.migrations]
  rfl

theorem Offered.mem_nodes (h : Offered env tables migratable request plan info cell)
    {migration : MigrationPlan} (hmigration : migration ∈ cell.toPlans.plans) :
    migration.targetNodeId ≠ plan.nodeId ∧ migration.targetNodeId ∈ tables.workerNodes.keys := by
  obtain ⟨target, htarget, rfl⟩ := List.mem_map.mp hmigration
  obtain ⟨hne, info', hinfo', -⟩ :=
    mem_candidateNodes.mp (getMigrationPlans_fitsAlone h.searched target htarget)
  exact ⟨hne, (OrderedDict.mem_keys_iff _).mpr ⟨info', hinfo'⟩⟩

/-- Nothing arrives on the node the instances leave. -/
theorem Offered.arrivals_source (h : Offered env tables migratable request plan info cell) :
    arrivals cell.toPlans.plans plan.nodeId = 0 := by
  refine List.countP_eq_zero.mpr fun migration hmigration => ?_
  rw [decide_eq_true_eq]
  exact (h.mem_nodes hmigration).1

/-- **The node table** after a plan whose migrations all succeed: the number of GPUs the request
asks for is taken once for each arrival, and once on the node of the plan. -/
theorem carryOut_nodes (h : Offered env tables migratable request plan info cell)
    {loop loop' : Loop} (hnodes : loop.nodes = tables.workerNodes)
    (hsucceed : ∀ migration ∈ cell.toPlans.plans, env.migrates migration)
    (hcarried : carryOut env request loop plan = .ok loop') (nodeId : String) :
    loop'.nodes.get? nodeId = (tables.workerNodes.get? nodeId).map
      (takeGpus (arrivals cell.toPlans.plans nodeId * request.numGpus +
        granted request.numGpus plan.nodeId nodeId)) := by
  obtain ⟨mid, hmid, hallocate⟩ := of_bind_ok hcarried
  rw [h.plans_eq] at hmid
  rw [allocate_nodes hallocate, get?_addFreeGpu, foldlM_migrate_nodes hsucceed hmid nodeId,
    Option.map_map, hnodes]
  congr 1
  funext info
  unfold takeGpus granted
  simp only [Function.comp_apply]
  by_cases hnode : plan.nodeId = nodeId
  · rw [if_pos hnode, if_pos hnode.symm]
    congr 1
    ring
  · rw [if_neg hnode, if_neg (Ne.symm hnode), add_zero]

/-- **The node of the plan** ends with a negative number of free GPUs. -/
theorem carryOut_negative (h : Offered env tables migratable request plan info cell)
    {loop loop' : Loop} (hnodes : loop.nodes = tables.workerNodes)
    (hsucceed : ∀ migration ∈ cell.toPlans.plans, env.migrates migration)
    (hcarried : carryOut env request loop plan = .ok loop') :
    ∃ info', loop'.nodes.get? plan.nodeId = some info' ∧ info'.freeGpu < 0 := by
  have hnode := carryOut_nodes h hnodes hsucceed hcarried plan.nodeId
  rw [h.node, h.arrivals_source, granted, if_pos rfl, Nat.cast_zero, zero_mul, zero_add] at hnode
  refine ⟨_, hnode, ?_⟩
  show info.freeGpu - request.numGpus < 0
  have hshort := h.short
  linarith

/-- Nothing stops the migrations, which leave the queues alone. -/
theorem exists_migrated (h : Offered env tables migratable request plan info cell) {loop : Loop}
    (hnodes : loop.nodes = tables.workerNodes)
    (hmigrations : ∀ migration ∈ cell.toPlans.plans,
      migration.modelName ∈ env.routers ∧ env.migrates migration) :
    ∃ mid, cell.toPlans.plans.foldlM (migrate env request.numGpus) loop = .ok mid ∧
      mid.queues = loop.queues ∧ mid.resolved = loop.resolved := by
  have hstep : ∀ done migration rest st, cell.toPlans.plans = done ++ migration :: rest →
      (st.queues = loop.queues ∧ st.resolved = loop.resolved ∧
        ∀ nodeId ∈ tables.workerNodes.keys, nodeId ∈ st.nodes.keys) →
      ∃ st', migrate env request.numGpus st migration = .ok st' ∧
        st'.queues = loop.queues ∧ st'.resolved = loop.resolved ∧
          ∀ nodeId ∈ tables.workerNodes.keys, nodeId ∈ st'.nodes.keys := by
    rintro done migration rest st hwhole ⟨hqueues, hresolved, hkeys⟩
    have hmem : migration ∈ cell.toPlans.plans :=
      hwhole ▸ List.mem_append_right _ List.mem_cons_self
    obtain ⟨hrouter, hmigrates⟩ := hmigrations migration hmem
    unfold migrate
    rw [if_neg (not_not.mpr hrouter), if_neg (not_not.mpr (hkeys _ (h.mem_nodes hmem).2)),
      if_pos hmigrates]
    refine ⟨_, rfl, hqueues, hresolved, fun nodeId hnodeId => ?_⟩
    obtain ⟨info', hinfo'⟩ := (OrderedDict.mem_keys_iff _).mp (hkeys nodeId hnodeId)
    refine (OrderedDict.mem_keys_iff _).mpr ?_
    rw [get?_addFreeGpu, hinfo']
    exact ⟨_, rfl⟩
  have hstart : ∀ nodeId ∈ tables.workerNodes.keys, nodeId ∈ loop.nodes.keys :=
    fun _ hnodeId => hnodes ▸ hnodeId
  obtain ⟨mid, hmid, hqueues, hresolved, -⟩ :=
    foldlM_inv (fun (_ : List MigrationPlan) (st : Loop) => st.queues = loop.queues ∧
      st.resolved = loop.resolved ∧ ∀ nodeId ∈ tables.workerNodes.keys, nodeId ∈ st.nodes.keys)
      hstep ⟨rfl, rfl, hstart⟩
  exact ⟨mid, hmid, hqueues, hresolved⟩

/-- A turn of the loop in which nothing stops the plan: as many requests wait for the model as it
takes for this one to have its index. -/
theorem exists_carryOut (h : Offered env tables migratable request plan info cell)
    (hexecutes : Executes env request plan) :
    ∃ loop loop' : Loop, loop.nodes = tables.workerNodes ∧
      carryOut env request loop plan = .ok loop' := by
  obtain ⟨hmigrations, hdone⟩ := hexecutes
  rw [h.plans_eq] at hmigrations
  set waiting : Request := ⟨request.requestTime, "", request.numGpus, request.allocationResult,
    request.targetNodeId⟩
  set queue := List.replicate (request.idx + 1) (items waiting) with hqueue
  set loop : Loop := ⟨OrderedDict.empty.set request.modelName queue, tables.workerNodes, [], []⟩
  have hnodes : loop.nodes = tables.workerNodes := rfl
  obtain ⟨mid, hmid, hqueues, hresolved⟩ := exists_migrated h hnodes hmigrations
  have hget : (mid.queues.get? request.modelName).getD [] = queue := by
    rw [hqueues]
    show ((OrderedDict.empty.set request.modelName queue).get? request.modelName).getD [] = queue
    rw [OrderedDict.get?_set_self]
    rfl
  have hlength : ¬ queue.length ≤ request.idx := by
    rw [hqueue, List.length_replicate]
    omega
  have hfree : request.allocationResult ∉ env.done ++ mid.resolved.map Prod.fst := by
    rw [hresolved]
    simpa [loop] using hdone
  obtain ⟨loop', hallocate⟩ : ∃ loop', allocate env request plan.nodeId mid = .ok loop' := by
    unfold allocate
    dsimp only
    rw [hget, if_neg hlength, if_neg hfree]
    exact ⟨_, rfl⟩
  exact ⟨loop, loop', rfl, bind_ok (h.plans_eq ▸ hmid) hallocate⟩

end Offered

/-! ## When a plan is safe -/

/-- **The instances that move to a node fit there together**: at most one instance moves. -/
theorem movedIn_le_freeGpu {tables : MeasuredTables} {sourceNodeId : String} {shortage : ℚ}
    {instances : List InstanceStatus} {cell : Cell}
    (h : getMigrationPlans tables sourceNodeId shortage instances = some cell) :
    ∀ migration ∈ cell.plans, ∃ info, tables.workerNodes.get? migration.1 = some info ∧
      (movedIn cell.plans migration.1 : ℚ) ≤ info.freeGpu := by
  intro migration hmigration
  obtain ⟨-, info, hinfo, hfree⟩ :=
    mem_candidateNodes.mp (getMigrationPlans_fitsAlone h migration hmigration)
  refine ⟨info, hinfo, ?_⟩
  rcases lt_or_ge shortage 1 with hless | hshortage
  · rw [plans_of_getMigrationPlans_of_lt_one hless h] at hmigration
    exact absurd hmigration (by simp)
  obtain ⟨i, -, target, -, -, hplans⟩ := plans_of_getMigrationPlans hshortage h
  rw [hplans, List.mem_singleton] at hmigration
  subst hmigration
  rw [hplans]
  simpa [movedIn] using hfree

/-- The targets of a plan are ready exactly when the one it would choose is. -/
theorem targets_ready_iff {tables : MeasuredTables} {sourceNodeId : String} {shortage : ℚ}
    {instances : List InstanceStatus} {cell : Cell}
    (h : getMigrationPlans tables sourceNodeId shortage instances = some cell) :
    (∀ migration ∈ cell.plans, ∃ info, tables.workerNodes.get? migration.1 = some info ∧
      info.state = .ready) ↔ MovesToReady tables sourceNodeId shortage instances := by
  rcases lt_or_ge shortage 1 with hless | hshortage
  · rw [plans_of_getMigrationPlans_of_lt_one hless h]
    exact iff_of_true (fun _ hmigration => absurd hmigration (by simp))
      fun hshortage => absurd hless (not_lt.mpr hshortage)
  obtain ⟨i, alone, target, hcheapest, htarget, hplans⟩ := plans_of_getMigrationPlans hshortage h
  rw [hplans]
  constructor
  · intro hready _ i' alone' target' hcheapest' htarget'
    obtain ⟨rfl, -⟩ := Prod.mk.inj (Option.some.inj (hcheapest.symm.trans hcheapest'))
    obtain rfl := Option.some.inj (Except.ok.inj (htarget.symm.trans htarget'))
    exact hready _ (List.mem_singleton_self _)
  · intro hready migration hmigration
    rw [List.mem_singleton.mp hmigration]
    exact hready hshortage i alone target hcheapest htarget

/-- **A plan with migrations is safe exactly when** it is not carried out with all migrations
succeeding, and its target is ready. -/
theorem migratesSafely_iff {env : Outside} {tables : MeasuredTables}
    {migratable : String → String → List InstanceStatus} {request : StorageRequest}
    {plan : AllocationPlan} {info : NodeInfo} {cell : Cell}
    (h : Offered env tables migratable request plan info cell) :
    MigratesSafely env tables.workerNodes request plan cell.plans ↔
      MovesToReady tables plan.nodeId (request.numGpus - info.freeGpu)
          (migratable request.modelName plan.nodeId) ∧
        ¬ Executes env request plan := by
  constructor
  · intro hsafe
    refine ⟨(targets_ready_iff h.searched).mp hsafe.ready, fun hexecutes => ?_⟩
    obtain ⟨loop, loop', hnodes, hcarried⟩ := exists_carryOut h hexecutes
    have hsucceed := fun migration hmigration => (hexecutes.1 migration hmigration).2
    have haccounted := hsafe.accounted loop loop' hnodes hsucceed hcarried
    rw [h.plans_eq] at hsucceed
    obtain ⟨info', hinfo', hnegative⟩ := carryOut_negative h hnodes hsucceed hcarried
    exact absurd (haccounted.nonneg _ info' hinfo') (not_le.mpr hnegative)
  · rintro ⟨hready, hnot⟩
    refine ⟨movedIn_le_freeGpu h.searched, (targets_ready_iff h.searched).mpr hready, ?_⟩
    intro loop loop' _ hsucceed hcarried
    exact absurd (executes_of_carryOut hsucceed hcarried) hnot

/-! ## A request of two GPUs on a node with one -/

deriving instance DecidableEq for NodeStore, MigrationPlan, MigrationPlans, AllocationPlan,
  InstanceStatus, Cell, Loop

/-- Two nodes, with one model on the disk of each.  The first has one free GPU, the second two. -/
def twoDisks (state : NodeState) : MeasuredTables where
  workerNodes := ⟨[("full", ⟨.ready, 1, 2⟩), ("free", ⟨state, 2, 2⟩)],
    show ["full", "free"].Nodup by decide⟩
  modelInfo := ⟨[("running", 1), ("asked", 1)], by decide⟩
  storeInfo := ⟨[("full", ⟨["asked"], [], 0⟩), ("free", ⟨["running"], [], 0⟩)], by decide⟩
  hardwareInfo := ⟨[("full", ⟨1, 1⟩), ("free", ⟨1, 1⟩)], by decide⟩
  size_nonneg _ _ h := by
    have hmem := (OrderedDict.mem_entries_iff _).mpr h
    simp only [List.mem_cons, List.not_mem_nil, or_false, Prod.mk.injEq] at hmem
    rcases hmem with ⟨-, rfl⟩ | ⟨-, rfl⟩ <;> exact zero_le_one
  waitingTime_nonneg _ _ h := by
    have hmem := (OrderedDict.mem_entries_iff _).mpr h
    simp only [List.mem_cons, List.not_mem_nil, or_false, Prod.mk.injEq] at hmem
    rcases hmem with ⟨-, rfl⟩ | ⟨-, rfl⟩ <;> exact le_rfl
  bandwidth_nonneg _ _ h := by
    have hmem := (OrderedDict.mem_entries_iff _).mpr h
    simp only [List.mem_cons, List.not_mem_nil, or_false, Prod.mk.injEq] at hmem
    rcases hmem with ⟨-, rfl⟩ | ⟨-, rfl⟩ <;> exact ⟨zero_le_one, zero_le_one⟩

/-- The router of the model that runs, which moves an instance or does not. -/
def oneRouter (migrates : Bool) : Outside where
  storeManager := true
  workerNodes := .empty
  modelInfo := .empty
  storeInfo := .empty
  hardwareInfo := .empty
  enableMigration := true
  migrationPlans := fun _ _ _ _ => none
  routers := ["running"]
  migrates := fun _ => migrates
  done := []

/-- One instance of one GPU runs on the first node. -/
def oneRunning (_ nodeId : String) : List InstanceStatus :=
  if nodeId = "full" then [⟨"running-0", "running", 1, none, InstanceStatus.nonneg_none⟩] else []

/-- The other model is asked for, with two GPUs. -/
def askTwo : StorageRequest := ⟨"asked", 0, 0, 2, 0, none⟩

/-- The plan moves the instance to the second node. -/
def movedCell : Cell where
  totalLatency := (1 : ℚ)
  evictedGPUs := 1
  plans := [("free", ⟨"running-0", "running", 1, none, InstanceStatus.nonneg_none⟩)]
  storeInfo := some
    ⟨[("full", ⟨["asked"], [], 0⟩), ("free", ⟨["running"], [], 1⟩)], by decide⟩

def movingPlan : AllocationPlan := ⟨"full", 2, some movedCell.toPlans⟩

theorem offered_askTwo (migrates : Bool) (state : NodeState) :
    Offered (oneRouter migrates) (twoDisks state) oneRunning askTwo movingPlan ⟨.ready, 1, 2⟩
      movedCell where
  scheduled := by
    have hschedule : schedule (searching (oneRouter migrates) (twoDisks state) oneRunning) askTwo
        (twoDisks state).workerNodes = .ok [movingPlan] := by
      cases migrates <;> cases state <;> decide +kernel
    exact ⟨[movingPlan], hschedule, List.mem_singleton_self _⟩
  migrations := rfl
  node := rfl
  searched := by cases state <;> decide +kernel

theorem movesToReady_askTwo :
    MovesToReady (twoDisks .ready) "full" (2 - 1) (oneRunning "asked" "full") := by
  intro _ i alone target hcheapest htarget
  have hfloor : ⌊(2 - 1 : ℚ)⌋₊ = 1 := by norm_num
  have hone : cheapest (twoDisks .ready) "full" 1 (oneRunning "asked" "full") =
      some (⟨"running-0", "running", 1, none, InstanceStatus.nonneg_none⟩, 1) := by
    decide +kernel
  rw [hfloor, hone] at hcheapest
  obtain ⟨rfl, rfl⟩ := Prod.mk.inj (Option.some.inj hcheapest)
  have hfree : getMigrationTarget (twoDisks .ready) "running" 1 "full"
      (some (twoDisks .ready).storeInfo) = .ok (some ("free", 1)) := by decide +kernel
  rw [hfree] at htarget
  obtain rfl := Option.some.inj (Except.ok.inj htarget)
  exact ⟨⟨.ready, 2, 2⟩, rfl, rfl⟩

/-- While the router does not move the instance nothing happens; when it does, the node that was
short of one GPU is short of one again. -/
theorem migratesSafely_iff_askTwo :
    MigratesSafely (oneRouter false) (twoDisks .ready).workerNodes askTwo movingPlan
        movedCell.plans ∧
      ¬ MigratesSafely (oneRouter true) (twoDisks .ready).workerNodes askTwo movingPlan
        movedCell.plans := by
  constructor
  · refine (migratesSafely_iff (offered_askTwo false .ready)).mpr ⟨movesToReady_askTwo, ?_⟩
    intro hexecutes
    exact absurd (hexecutes.1 ⟨"free", "running", "running-0"⟩ (List.mem_singleton_self _)).2
      (by decide)
  · intro hsafe
    refine ((migratesSafely_iff (offered_askTwo true .ready)).mp hsafe).2 ⟨?_, by decide⟩
    intro migration hmigration
    rw [List.mem_singleton.mp hmigration]
    exact ⟨by decide, rfl⟩

/-- `schedule` plans to move the instance to a node that is about to go away. -/
theorem movesToPreempting_askTwo :
    schedule (searching (oneRouter true) (twoDisks .preempting) oneRunning) askTwo
        (twoDisks .preempting).workerNodes = .ok [movingPlan] ∧
      Offered (oneRouter true) (twoDisks .preempting) oneRunning askTwo movingPlan
        ⟨.ready, 1, 2⟩ movedCell ∧
      movedCell.toPlans.plans.map MigrationPlan.targetNodeId = ["free"] ∧
      ¬ MigratesSafely (oneRouter true) (twoDisks .preempting).workerNodes askTwo movingPlan
        movedCell.plans := by
  refine ⟨by decide +kernel, offered_askTwo true .preempting, rfl, fun hsafe => ?_⟩
  obtain ⟨info, hinfo, hready⟩ := hsafe.ready _ (List.mem_singleton_self _)
  have hfree : (twoDisks .preempting).workerNodes.get? "free" = some ⟨.preempting, 2, 2⟩ := rfl
  obtain rfl := Option.some.inj (hfree.symm.trans hinfo)
  exact absurd hready (by decide)

end StorageAware
end Scheduler
end SpotServe
