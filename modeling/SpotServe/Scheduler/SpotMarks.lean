import SpotServe.Scheduler.NoDoubleGrant

/-!
# Spot marks

`mark_node_preempting` and `mark_node_dead` write one field of the scheduler's node table in place,
while refreshes and the control loop copy the whole table, wait, and write it back or grant from the
copy.  The coroutines of `Interleaving` run together with marks, recoveries and new worker nodes
here.

A mark survives every action that starts from a table with the mark in it, because refreshing,
publishing, granting and giving back all keep the states (`step_tables`).  What a mark does not
survive is a table in some coroutine's hands that was copied before the mark.

* `MarksKept`: a marked node is not ready and not granted.
* `Undisturbed`: a mark lands where every table in someone's hands already has the node as not
  ready.
* `marksKept_of_undisturbed`: in every run of such marks, marks are kept.
-/

namespace SpotServe
namespace Scheduler

open Py

variable {cluster : RayCluster}

/-! ## States -/

/-- The nodes of a table are in the other one, in the same states. -/
def KeepsStates (nodes nodes' : NodeTable) : Prop :=
  ∀ node info, nodes.get? node = some info →
    ∃ info', nodes'.get? node = some info' ∧ info'.state = info.state

theorem KeepsStates.refl (nodes : NodeTable) : KeepsStates nodes nodes :=
  fun _ info h => ⟨info, h, rfl⟩

theorem keepsStates_mapValues (nodes : NodeTable) {f : String → NodeInfo → NodeInfo}
    (h : ∀ node info, (f node info).state = info.state) : KeepsStates nodes (nodes.mapValues f) := by
  intro node info hinfo
  refine ⟨f node info, ?_, h node info⟩
  rw [OrderedDict.get?_mapValues, hinfo, Option.map_some]

theorem state_applyRayAvailableCapacity (info : NodeInfo) (available : Option ℚ) :
    (applyRayAvailableCapacity info available).state = info.state := by
  unfold applyRayAvailableCapacity
  split_ifs
  · rfl
  · cases available with
    | none => rfl
    | some resource => dsimp only; split_ifs <;> rfl

theorem state_mergeBackendRuntimeMetadata (rows : List (String × ℤ)) (node : String)
    (info : NodeInfo) : (mergeBackendRuntimeMetadata rows node info).state = info.state := by
  unfold mergeBackendRuntimeMetadata
  cases (reportedTotals rows node).max? with
  | none => rfl
  | some total => dsimp only; split_ifs <;> rfl

/-- A refresh keeps the states of the table it starts from. -/
theorem keepsStates_refreshNodes (observation : Observation cluster) (nodes : NodeTable)
    (allocated : String → ℚ) : KeepsStates nodes (refreshNodes observation nodes allocated) := by
  intro node info hinfo
  rw [get?_refreshNodes, hinfo]
  cases observation.workerNodes.get? node with
  | some report =>
    refine ⟨_, rfl, ?_⟩
    rw [state_mergeBackendRuntimeMetadata]
    exact state_applyRayAvailableCapacity _ _
  | none => exact ⟨_, rfl, state_mergeBackendRuntimeMetadata _ _ _⟩

/-- Publishing keeps the states of the scheduler's table, not those of the published copy. -/
theorem keepsStates_updateNodes (current granted : NodeTable) :
    KeepsStates current (updateNodes current granted) :=
  keepsStates_mapValues current fun node info => by
    cases granted.get? node <;> rfl

theorem keepsStates_addFreeGpu (nodes : NodeTable) (node : String) (gpus : ℚ) :
    KeepsStates nodes (addFreeGpu nodes node gpus) := by
  intro node' info hinfo
  rw [get?_addFreeGpu, hinfo]
  refine ⟨_, rfl, ?_⟩
  dsimp only
  split_ifs <;> rfl

theorem keepsStates_takeAllocations (nodes : NodeTable) (allocations : OrderedDict String ℕ) :
    KeepsStates nodes (takeAllocations nodes allocations) :=
  keepsStates_mapValues nodes fun node info => by
    cases allocations.get? node <;> rfl

theorem keepsStates_deallocateNodes (nodes : NodeTable) (r : Resources) :
    KeepsStates nodes (deallocateNodes nodes r) := by
  unfold deallocateNodes
  split_ifs
  · exact keepsStates_addFreeGpu nodes r.nodeId r.numGpus
  · exact keepsStates_mapValues nodes fun node info => by
      cases r.nodeAllocations.get? node <;> rfl

/-! ## Where the tables of a machine come from -/

/-- The scheduler's table, and those in the hands of the coroutines. -/
def Machine.tables (m : Machine) : List NodeTable :=
  m.scheduler.workerNodes :: (m.loop.held ++ m.heldByTasks)

theorem mem_tables_of_loop {m : Machine} {nodes : NodeTable} (h : nodes ∈ m.loop.held) :
    nodes ∈ m.tables :=
  List.mem_cons_of_mem _ (List.mem_append_left _ h)

theorem mem_tables_of_task {m : Machine} {index : ℕ} {task : Task} {nodes : NodeTable}
    (htask : m.tasks[index]? = some task) (h : nodes ∈ task.held) : nodes ∈ m.tables :=
  List.mem_cons_of_mem _ (List.mem_append_right _
    (List.mem_flatMap.mpr ⟨task, List.mem_of_getElem? htask, h⟩))

/-- A machine none of whose tables is new: each has the states of one that was there before. -/
def FromTables (m m' : Machine) : Prop :=
  ∀ nodes' ∈ m'.tables, ∃ nodes ∈ m.tables, KeepsStates nodes nodes'

theorem FromTables.of_parts {m m' : Machine}
    (hmain : ∃ nodes ∈ m.tables, KeepsStates nodes m'.scheduler.workerNodes)
    (hloop : ∀ nodes' ∈ m'.loop.held, ∃ nodes ∈ m.tables, KeepsStates nodes nodes')
    (htasks : ∀ nodes' ∈ m'.heldByTasks, ∃ nodes ∈ m.tables, KeepsStates nodes nodes') :
    FromTables m m' := by
  intro nodes' h
  rcases List.mem_cons.mp h with rfl | h
  · exact hmain
  · rcases List.mem_append.mp h with h | h
    · exact hloop nodes' h
    · exact htasks nodes' h

/-- The same tables. -/
theorem fromTables_of_subset {m m' : Machine} (h : m'.tables ⊆ m.tables) : FromTables m m' :=
  fun nodes' hmem => ⟨nodes', h hmem, KeepsStates.refl nodes'⟩

theorem exists_of_mem {m : Machine} {nodes : NodeTable} (h : nodes ∈ m.tables) :
    ∃ nodes' ∈ m.tables, KeepsStates nodes' nodes :=
  ⟨nodes, h, KeepsStates.refl nodes⟩

/-- A step of the control loop that leaves the tasks alone. -/
theorem FromTables.of_loop {m m' : Machine} (htasks : m'.tasks = m.tasks)
    (hmain : ∃ nodes ∈ m.tables, KeepsStates nodes m'.scheduler.workerNodes)
    (hloop : ∀ nodes' ∈ m'.loop.held, ∃ nodes ∈ m.tables, KeepsStates nodes nodes') :
    FromTables m m' := by
  refine .of_parts hmain hloop fun nodes' h => ?_
  rw [Machine.heldByTasks, htasks] at h
  exact exists_of_mem (List.mem_cons_of_mem _ (List.mem_append_right _ h))

/-- A step of a task that leaves the control loop alone. -/
theorem FromTables.of_task {m m' : Machine} (hloop : m'.loop = m.loop)
    (hmain : ∃ nodes ∈ m.tables, KeepsStates nodes m'.scheduler.workerNodes)
    (htasks : ∀ nodes' ∈ m'.heldByTasks, ∃ nodes ∈ m.tables, KeepsStates nodes nodes') :
    FromTables m m' := by
  refine .of_parts hmain (fun nodes' h => ?_) htasks
  rw [hloop] at h
  exact exists_of_mem (mem_tables_of_loop h)

/-- **Where tables come from.**  Every table after an action has the states of one that was there
before it. -/
theorem step_tables {m m' : Machine} {ranking : Option RiskRanking} {a : Action cluster}
    (hstep : step ranking m a = some m') : FromTables m m' := by
  have hmain : ∃ nodes ∈ m.tables, KeepsStates nodes m.scheduler.workerNodes :=
    exists_of_mem List.mem_cons_self
  cases machineStep_of_step hstep with
  | requests => exact fromTables_of_subset fun nodes h => h
  | registers => exact fromTables_of_subset fun nodes h => h
  | sleeps => exact fromTables_of_subset fun nodes h => h
  | collects hloop => exact .of_loop rfl hmain (by simp [LoopPhase.held])
  | @reads observation requests hloop =>
    refine .of_loop rfl hmain fun nodes' h => ?_
    rw [List.mem_singleton.mp h]
    exact ⟨_, List.mem_cons_self, keepsStates_refreshNodes observation _ _⟩
  | @writes requests nodes hloop =>
    have hnodes : nodes ∈ m.tables := mem_tables_of_loop (by simp [hloop, LoopPhase.held])
    refine .of_loop rfl (exists_of_mem hnodes) fun nodes' h => ?_
    rw [List.mem_singleton.mp h]
    exact exists_of_mem hnodes
  | @serves loading rest nodes hloop =>
    have hnodes : nodes ∈ m.tables := mem_tables_of_loop (by simp [hloop, LoopPhase.held])
    refine .of_loop rfl hmain fun nodes' h => ?_
    rw [List.mem_singleton.mp h]
    rcases serveRequest_cases ranking ⟨m.scheduler.modelLoadingQueues, nodes, []⟩ loading with
      heq | ⟨node, info, -, -, -, heq⟩
    · rw [heq]
      exact exists_of_mem hnodes
    · rw [heq]
      exact ⟨nodes, hnodes, keepsStates_addFreeGpu nodes node _⟩
  | @copies nodes hloop =>
    refine .of_loop rfl hmain fun nodes' h => ?_
    rw [List.mem_singleton.mp h]
    exact ⟨_, List.mem_cons_self, keepsStates_updateNodes _ nodes⟩
  | @publishes nodes hloop =>
    have hnodes : nodes ∈ m.tables := mem_tables_of_loop (by simp [hloop, LoopPhase.held])
    exact .of_loop rfl (exists_of_mem hnodes) (by simp [LoopPhase.held])
  | @taskReads observation caller =>
    refine .of_task rfl hmain fun nodes' h => ?_
    rw [Machine.heldByTasks, List.flatMap_append, List.mem_append] at h
    rcases h with h | h
    · exact exists_of_mem (List.mem_cons_of_mem _ (List.mem_append_right _ h))
    · obtain rfl : nodes' = m.refreshed observation := by simpa [Task.held] using h
      exact ⟨_, List.mem_cons_self, keepsStates_refreshNodes observation _ _⟩
  | @taskEnds index nodes htask =>
    have hnodes : nodes ∈ m.tables := mem_tables_of_task htask (by simp [Task.held])
    refine .of_task rfl (exists_of_mem hnodes) fun nodes' h => ?_
    exact exists_of_mem (List.mem_cons_of_mem _ (List.mem_append_right _
      (mem_heldByTasks_eraseIdx h)))
  | @taskGoesOn index nodes call htask =>
    have hnodes : nodes ∈ m.tables := mem_tables_of_task htask (by simp [Task.held])
    refine .of_task rfl (exists_of_mem hnodes) fun nodes' h => ?_
    obtain ⟨task, hmem, hheld⟩ := List.mem_flatMap.mp h
    rcases List.mem_or_eq_of_mem_set hmem with hmem | rfl
    · exact exists_of_mem (List.mem_cons_of_mem _ (List.mem_append_right _
        (List.mem_flatMap.mpr ⟨task, hmem, hheld⟩)))
    · exact absurd hheld (by simp [Task.held])
  | @reserves index call htask =>
    have htasks : ∀ nodes' ∈ (m.tasks.eraseIdx index).flatMap Task.held,
        ∃ nodes ∈ m.tables, KeepsStates nodes nodes' := fun nodes' h =>
      exists_of_mem (List.mem_cons_of_mem _ (List.mem_append_right _
        (mem_heldByTasks_eraseIdx h)))
    unfold Machine.reserve reserveDistributed
    cases distributedGpuAllocation m.scheduler.workerNodes call.targetNodeIds call.requestedGpus
        call.requireAllTargetNodes with
    | error failure => exact .of_task rfl hmain htasks
    | ok allocations =>
      exact .of_task rfl ⟨_, List.mem_cons_self, keepsStates_takeAllocations _ allocations⟩ htasks
  | deallocates =>
    unfold Machine.deallocate
    split
    · exact fromTables_of_subset fun nodes h => h
    next r hr =>
      refine .of_task rfl ⟨_, List.mem_cons_self, ?_⟩ fun nodes' h =>
        exists_of_mem (List.mem_cons_of_mem _ (List.mem_append_right _ h))
      unfold deallocateResource
      rw [hr]
      exact keepsStates_deallocateNodes _ r

/-! ## Marks -/

/-- `add_worker_node`: what the caller says about the node, over what is known about it. -/
def addWorkerNode (s : FcfsScheduler) (node : String) (freeGpu totalGpu : Option ℚ) :
    FcfsScheduler :=
  let previous := s.workerNodes.get? node
  let free := freeGpu.or (previous.map NodeInfo.freeGpu)
  let total := totalGpu.or (previous.map NodeInfo.totalGpu)
  let free' := free.getD (total.getD 0)
  { s with workerNodes := s.workerNodes.set node ⟨.ready, free', total.getD free'⟩ }

/-- The machine, and the nodes that were marked as preempting or dead and neither recovered nor
added again.  The scheduler does not keep this list. -/
structure MarkedMachine where
  machine : Machine := {}
  marked : List String := []

/-- What happens between two awaits: something the coroutines do, a mark (`ready` is
`mark_node_recovered`), or `add_worker_node`. -/
inductive MarkAction (cluster : RayCluster) where
  | coroutine (action : Action cluster)
  | mark (node : String) (state : NodeState)
  | addWorkerNode (node : String) (freeGpu totalGpu : Option ℚ)

/-- The machine with another scheduler. -/
def Machine.setScheduler (m : Machine) (s : FcfsScheduler) : Machine := { m with scheduler := s }

/-- One action. -/
def markStep (ranking : Option RiskRanking) (m : MarkedMachine) :
    MarkAction cluster → Option MarkedMachine
  | .coroutine action => (step ranking m.machine action).map fun machine => { m with machine }
  | .mark node state =>
    some {
      machine := m.machine.setScheduler (markNodeState m.machine.scheduler node state).2
      marked :=
        if state = .ready then m.marked.filter (· ≠ node) else node :: m.marked }
  | .addWorkerNode node freeGpu totalGpu =>
    some {
      machine :=
        m.machine.setScheduler (addWorkerNode m.machine.scheduler node freeGpu totalGpu)
      marked := m.marked.filter (· ≠ node) }

/-- A marked node is not ready, and the control loop does not grant it. -/
def MarksKept (ranking : Option RiskRanking) (m : MarkedMachine) : Prop :=
  ∀ node ∈ m.marked,
    (m.machine.scheduler.workerNodes.get? node).map NodeInfo.state ≠ some .ready ∧
    ∀ loading rest nodes, m.machine.loop = .serving (loading :: rest) nodes →
      chooseNode ranking nodes loading ≠ some node

/-- A table that has a node, and not as ready. -/
def Bars (node : String) (nodes : NodeTable) : Prop :=
  (nodes.get? node).any fun info => info.state ≠ .ready

instance (node : String) (nodes : NodeTable) : Decidable (Bars node nodes) :=
  inferInstanceAs (Decidable (_ = true))

/-- A mark lands where every table in someone's hands already bars the node. -/
def Undisturbed (m : MarkedMachine) : MarkAction cluster → Prop
  | .mark node state => state ≠ .ready →
      ∀ nodes ∈ m.machine.loop.held ++ m.machine.heldByTasks, Bars node nodes
  | .coroutine _ | .addWorkerNode .. => True

instance (m : MarkedMachine) : (a : MarkAction cluster) → Decidable (Undisturbed m a)
  | .mark node state => inferInstanceAs (Decidable (state ≠ .ready → ∀ _ ∈ _, Bars node _))
  | .coroutine _ | .addWorkerNode .. => inferInstanceAs (Decidable True)

/-! ## The invariant -/

theorem bars_iff {node : String} {nodes : NodeTable} :
    Bars node nodes ↔ ∃ info, nodes.get? node = some info ∧ info.state ≠ .ready := by
  unfold Bars
  rw [Option.any_eq_true]
  exact exists_congr fun info => and_congr_right fun _ => decide_eq_true_iff

theorem Bars.of_keepsStates {node : String} {nodes nodes' : NodeTable} (h : Bars node nodes)
    (hkeeps : KeepsStates nodes nodes') : Bars node nodes' := by
  obtain ⟨info, hinfo, hstate⟩ := bars_iff.mp h
  obtain ⟨info', hinfo', heq⟩ := hkeeps node info hinfo
  exact bars_iff.mpr ⟨info', hinfo', heq ▸ hstate⟩

theorem Bars.set {node node' : String} {nodes : NodeTable} (h : Bars node nodes) (hne : node' ≠ node)
    (info : NodeInfo) : Bars node (nodes.set node' info) := by
  unfold Bars
  rw [OrderedDict.get?_set_of_ne _ _ hne]
  exact h

/-- Every table bars every marked node. -/
def Barred (m : MarkedMachine) : Prop := ∀ node ∈ m.marked, ∀ nodes ∈ m.machine.tables, Bars node nodes

theorem Barred.marksKept {m : MarkedMachine} (h : Barred m) (ranking : Option RiskRanking) :
    MarksKept ranking m := by
  intro node hnode
  constructor
  · obtain ⟨info, hinfo, hstate⟩ := bars_iff.mp (h node hnode _ List.mem_cons_self)
    rw [hinfo, Option.map_some]
    exact fun heq => hstate (Option.some.inj heq)
  · intro loading rest nodes hloop hchoose
    have hmem : nodes ∈ m.machine.tables := mem_tables_of_loop (by simp [hloop, LoopPhase.held])
    obtain ⟨info, hinfo, hstate⟩ := bars_iff.mp (h node hnode nodes hmem)
    obtain ⟨info', hinfo', -, hready, -⟩ := chooseNode_eq_some hchoose
    rw [hinfo, Option.some_inj] at hinfo'
    exact hstate (hinfo' ▸ hready)

/-- The tables after the scheduler's own has been written. -/
theorem bars_setScheduler {m : Machine} {s : FcfsScheduler} {node : String}
    (hmain : Bars node s.workerNodes)
    (hheld : ∀ nodes ∈ m.loop.held ++ m.heldByTasks, Bars node nodes) :
    ∀ nodes ∈ (m.setScheduler s).tables, Bars node nodes := by
  intro nodes hmem
  rcases List.mem_cons.mp hmem with rfl | hmem
  · exact hmain
  · exact hheld nodes hmem

/-- One action. -/
theorem Barred.step {ranking : Option RiskRanking} {m m' : MarkedMachine} {a : MarkAction cluster}
    (h : Barred m) (hallowed : Undisturbed m a) (hstep : markStep ranking m a = some m') :
    Barred m' := by
  have hheld : ∀ node ∈ m.marked,
      ∀ nodes ∈ m.machine.loop.held ++ m.machine.heldByTasks, Bars node nodes :=
    fun node hnode nodes hmem => h node hnode nodes (List.mem_cons_of_mem _ hmem)
  cases a with
  | coroutine action =>
    obtain ⟨machine, hmachine, rfl⟩ := Option.map_eq_some_iff.mp hstep
    intro node hnode nodes' hmem
    obtain ⟨nodes, hnodes, hkeeps⟩ := step_tables hmachine nodes' hmem
    exact (h node hnode nodes hnodes).of_keepsStates hkeeps
  | mark node state =>
    obtain rfl := Option.some.inj hstep
    intro node' hnode'
    by_cases heq : node = node'
    · -- The node that is marked: the mark is in the scheduler's table, the condition covers the
      -- others.
      subst heq
      dsimp only at hnode'
      split_ifs at hnode' with hready
      · exact absurd (List.mem_filter.mp hnode').2 (by simp)
      · refine bars_setScheduler ?_ (hallowed hready)
        exact bars_iff.mpr ⟨_, OrderedDict.get?_set_self _ _ _, hready⟩
    · have hmarked : node' ∈ m.marked := by
        dsimp only at hnode'
        split_ifs at hnode'
        · exact (List.mem_filter.mp hnode').1
        · exact (List.mem_cons.mp hnode').resolve_left (Ne.symm heq)
      refine bars_setScheduler ?_ (hheld node' hmarked)
      exact (h node' hmarked _ List.mem_cons_self).set heq _
  | addWorkerNode node freeGpu totalGpu =>
    obtain rfl := Option.some.inj hstep
    intro node' hnode'
    obtain ⟨hmarked, hne⟩ := List.mem_filter.mp hnode'
    refine bars_setScheduler ?_ (hheld node' hmarked)
    exact (h node' hmarked _ List.mem_cons_self).set (Ne.symm (of_decide_eq_true hne)) _

/-- The states of the runs that start with empty tables. -/
def MarkedRun (cluster : RayCluster) (ranking : Option RiskRanking)
    (allowed : MarkedMachine → MarkAction cluster → Prop) : MarkedMachine → Prop :=
  Runs.Reachable (· = {}) (fun m a m' => markStep ranking m a = some m') allowed

/-- **Marks are kept** in every run in which they land while no table in someone's hands has the
node as ready. -/
theorem marksKept_of_undisturbed {ranking : Option RiskRanking} {m : MarkedMachine}
    (h : MarkedRun cluster ranking Undisturbed m) : MarksKept ranking m := by
  have hbarred : Barred m := by
    refine Runs.Reachable.invariant Barred ?_ ?_ h
    · rintro _ rfl
      exact fun node hnode => absurd hnode (by simp)
    · intro m a m' hinv hallowed hstep
      exact hinv.step hallowed hstep
  exact hbarred.marksKept ranking

/-- A node with two GPUs. -/
def pairNode : RayCluster where
  totals := ⟨[("A", 2)], by decide⟩
  nonneg := by
    intro node total h
    have hmem := (OrderedDict.mem_entries_iff _).mpr h
    obtain ⟨-, rfl⟩ := Prod.mk.inj (List.mem_singleton.mp hmem)
    norm_num

/-- What Ray reports about it. -/
def pairNodeReport : Observation pairNode where
  workerNodes := ⟨[("A", ⟨2, 2⟩)], by decide⟩
  availableResources := .empty
  runtimeMetadata := []
  totals := by
    intro node
    show (OrderedDict.getEntry _ _).map _ = OrderedDict.getEntry _ _
    simp only [pairNode, OrderedDict.getEntry]
    split_ifs <;> rfl

/-- An instance is granted one of the GPUs and registered. -/
def firstInstance : List (MarkAction pairNode) :=
  [.coroutine (.request "m" ⟨0, "i", 1, 0, none⟩), .coroutine .collect,
    .coroutine (.loopReads pairNodeReport), .coroutine .loopWrites, .coroutine .serve,
    .coroutine .copyTable, .coroutine .publishTable, .coroutine (.register 0)]

/-- The node is marked while the control loop sleeps, and another request comes in. -/
def markWhileSleeping : List (MarkAction pairNode) :=
  firstInstance ++ [.mark "A" .preempting, .coroutine (.request "m" ⟨1, "j", 1, 1, none⟩),
    .coroutine .collect, .coroutine (.loopReads pairNodeReport), .coroutine .loopWrites]

theorem marksKept_while_sleeping :
    ∃ m, Runs.attempt (markStep none) Undisturbed markWhileSleeping {} = some m ∧
      m.marked = ["A"] ∧ MarksKept none m := by
  have hrun : (Runs.attempt (markStep none) Undisturbed markWhileSleeping {}).map
      MarkedMachine.marked = some ["A"] := by
    decide +kernel
  obtain ⟨m, hm, hmarked⟩ := Option.map_eq_some_iff.mp hrun
  have hreachable : MarkedRun pairNode none Undisturbed m := .attempt (.start rfl) hm
  exact ⟨m, hm, hmarked, marksKept_of_undisturbed hreachable⟩

/-- The node is marked while the control loop's refresh waits for the metadata of the first
instance. -/
def markWhileRefreshing : List (MarkAction pairNode) :=
  firstInstance ++ [.coroutine (.request "m" ⟨1, "j", 1, 1, none⟩), .coroutine .collect,
    .coroutine (.loopReads pairNodeReport), .mark "A" .preempting, .coroutine .loopWrites]

/-- The refresh writes back a table from before the mark. -/
theorem not_marksKept_while_refreshing :
    ¬ ∀ m, MarkedRun pairNode none (fun _ _ => True) m → MarksKept none m := by
  intro h
  have hrun : (Runs.attempt (markStep none) (fun _ _ => True) markWhileRefreshing {}).map
      (fun m => (m.marked, (m.machine.scheduler.workerNodes.get? "A").map NodeInfo.state)) =
      some (["A"], some .ready) := by
    decide +kernel
  obtain ⟨m, hm, hpair⟩ := Option.map_eq_some_iff.mp hrun
  obtain ⟨hmarked, hready⟩ := Prod.mk.inj hpair
  have hreachable : MarkedRun pairNode none (fun _ _ => True) m := .attempt (.start rfl) hm
  exact (h m hreachable "A" (by rw [hmarked]; exact List.mem_cons_self)).1 hready

end Scheduler
end SpotServe
