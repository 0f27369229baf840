import SpotServe.Library.Runs
import SpotServe.Scheduler.Accounting

/-!
# The GPU balance of the scheduler

Between two operations the node table covers what the registered instances hold (`Accounted`).
That is enough for the balance one wants to see from outside: on every node the free GPUs are
between zero and the total, and over all nodes the GPUs of the instances and the free ones do not
exceed the totals (`Balanced`).

Every operation keeps the invariant but one.  `resize_resource` books the whole difference on the
instance's primary node and leaves `node_allocations` as it is, so for a distributed instance the
entry says two different things afterwards.
-/

namespace SpotServe
namespace Scheduler

open Py

/-- The balance of the scheduler. -/
structure Balanced (s : FcfsScheduler) : Prop where
  free : ∀ node info, s.workerNodes.get? node = some info →
    0 ≤ info.freeGpu ∧ info.freeGpu ≤ info.totalGpu
  sum : (s.modelInstance.sumBy fun _ r => r.numGpus) +
      (s.workerNodes.sumBy fun _ info => info.freeGpu) ≤
    s.workerNodes.sumBy fun _ info => info.totalGpu

/-! ## Entries that say where their GPUs are -/

/-- Every node of the one table is in the other. -/
def Extends (nodes nodes' : NodeTable) : Prop :=
  ∀ node, nodes'.get? node = none → nodes.get? node = none

/-- An entry of `model_instance_resources` whose GPUs are on known nodes and add up. -/
structure Resources.Placed (nodes : NodeTable) (r : Resources) : Prop where
  nonneg : 0 ≤ r.numGpus
  node : nodes.get? r.nodeId ≠ none
  known : ∀ node count, r.nodeAllocations.get? node = some count → nodes.get? node ≠ none
  sum : r.nodeAllocations.entries ≠ [] →
    ((r.nodeAllocations.sumBy fun _ count => count : ℕ) : ℚ) = r.numGpus

theorem Resources.Placed.mono {nodes nodes' : NodeTable} {r : Resources} (h : r.Placed nodes)
    (hext : Extends nodes nodes') : r.Placed nodes' where
  nonneg := h.nonneg
  node := fun hnone => h.node (hext _ hnone)
  known := fun node count hcount hnone => h.known node count hcount (hext _ hnone)
  sum := h.sum

/-- Nothing is held on an unknown node. -/
theorem Resources.Placed.share_eq_zero {nodes : NodeTable} {r : Resources} (h : r.Placed nodes)
    {node : String} (hnode : nodes.get? node = none) : r.share node = 0 := by
  by_cases hsingle : r.nodeAllocations.entries = []
  · rw [Resources.share_single hsingle h.nonneg]
    refine if_neg ?_
    rintro rfl
    exact h.node hnode
  · rw [Resources.share_distributed hsingle]
    cases hcount : r.nodeAllocations.get? node with
    | none => simp
    | some count => exact absurd hnode (h.known node count hcount)

/-- What an instance holds on the nodes of the table is what its entry says. -/
theorem Resources.Placed.sum_share {nodes : NodeTable} {r : Resources} (h : r.Placed nodes) :
    (nodes.sumBy fun node _ => r.share node) = r.numGpus := by
  by_cases hsingle : r.nodeAllocations.entries = []
  · obtain ⟨info, hinfo⟩ := Option.ne_none_iff_exists'.mp h.node
    simp only [Resources.share_single hsingle h.nonneg]
    rw [OrderedDict.sumBy_eq_single hinfo _ fun node _ hne => if_neg (Ne.symm hne), if_pos rfl]
  · simp only [Resources.share_distributed hsingle]
    rw [← h.sum hsingle, ← OrderedDict.sumBy_getD nodes r.nodeAllocations]
    · exact (OrderedDict.map_sumBy (Nat.castAddMonoidHom ℚ) ..).symm
    · intro node count hcount
      rw [OrderedDict.mem_keys_iff]
      exact Option.ne_none_iff_exists'.mp (h.known node count hcount)

/-! ## The invariant -/

variable {cluster : RayCluster}

/-- What holds between two operations. -/
structure Accounted (cluster : RayCluster) (s : FcfsScheduler) : Prop where
  covers : Covers cluster (allocatedGpuByNode s.modelInstance) s.workerNodes
  placed : ∀ key r, s.modelInstance.get? key = some r → r.Placed s.workerNodes
  queued : ∀ modelName queue, s.modelLoadingQueues.get? modelName = some queue →
    ∀ request ∈ queue, 0 ≤ request.numGpus

theorem onNodes_of_placed {instances : InstanceTable} {nodes : NodeTable}
    (h : ∀ key r, instances.get? key = some r → r.Placed nodes) :
    OnNodes (allocatedGpuByNode instances) nodes := by
  intro node hnode
  unfold allocatedGpuByNode
  rw [OrderedDict.sumBy_congr (g := fun _ _ => 0), OrderedDict.sumBy_zero]
  exact fun key r hr => (h key r hr).share_eq_zero hnode

theorem Accounted.balanced {s : FcfsScheduler} (h : Accounted cluster s) : Balanced s where
  free := by
    intro node info hinfo
    obtain ⟨hfree, htotal, -⟩ := h.covers node info hinfo
    exact ⟨hfree, by linarith [allocatedGpuByNode_nonneg s.modelInstance node]⟩
  sum := by
    have hheld : (s.modelInstance.sumBy fun _ r => r.numGpus) =
        s.workerNodes.sumBy fun node _ => allocatedGpuByNode s.modelInstance node := by
      unfold allocatedGpuByNode
      rw [OrderedDict.sumBy_comm]
      exact OrderedDict.sumBy_congr fun key r hr => (h.placed key r hr).sum_share.symm
    rw [hheld, ← OrderedDict.sumBy_add]
    refine OrderedDict.sumBy_le fun node info hinfo => ?_
    have htotal := (h.covers node info hinfo).2.1
    linarith

/-! ## The control loop -/

theorem Accounted.getWorkerNodes {s : FcfsScheduler} (h : Accounted cluster s)
    (observation : Observation cluster) : Accounted cluster (getWorkerNodes s observation) where
  covers := refreshNodes_covers observation h.covers.fits (onNodes_of_placed h.placed)
  placed := fun key r hr => (h.placed key r hr).mono fun _ => refreshNodes_eq_none
  queued := h.queued

/-- The invariant of the loop over the requests: the loop's own table covers what was in use
before and what was granted since. -/
structure Serves (cluster : RayCluster) (nodes : NodeTable) (load : Load) (v : Serving) : Prop where
  covers : Covers cluster (fun node => load node + grantedGpuByNode v.granted node) v.nodes
  known : ∀ node, v.nodes.get? node = none ↔ nodes.get? node = none
  placed : ∀ g ∈ v.granted, g.resources.Placed nodes
  queued : ∀ modelName queue, v.queues.get? modelName = some queue →
    ∀ request ∈ queue, 0 ≤ request.numGpus

theorem Serves.serveRequest {nodes : NodeTable} {load : Load} {v : Serving}
    (h : Serves cluster nodes load v) (ranking : Option RiskRanking) {loading : LoadingRequest}
    (hnonneg : 0 ≤ loading.request.numGpus) :
    Serves cluster nodes load (serveRequest ranking v loading) := by
  rcases serveRequest_cases ranking v loading with
    heq | ⟨node, info, -, hinfo, haccepts, heq⟩
  · rwa [heq]
  · have hknown : nodes.get? node ≠ none := by
      rw [Ne, ← h.known, hinfo]
      simp
    rw [heq]
    refine ⟨?_, ?_, ?_, forall_queued_erase h.queued _ _⟩
    · have hgrant := grant_covers h.covers hinfo haccepts hnonneg loading.modelName
      refine hgrant.mono fun node' => le_of_eq ?_
      rw [grantedGpuByNode_append, ← add_assoc]
      simp [grantedGpuByNode]
    · intro node'
      rw [get?_addFreeGpu, Option.map_eq_none_iff, h.known]
    · intro g hg
      rcases List.mem_append.mp hg with hg | hg
      · exact h.placed g hg
      · obtain rfl := List.mem_singleton.mp hg
        exact ⟨hnonneg, hknown, by simp [Grant.resources], by simp [Grant.resources,
          OrderedDict.empty]⟩

theorem Serves.serveAll {nodes : NodeTable} {load : Load} {v : Serving}
    (h : Serves cluster nodes load v) (ranking : Option RiskRanking)
    {requests : List LoadingRequest} (hnonneg : ∀ l ∈ requests, 0 ≤ l.request.numGpus) :
    Serves cluster nodes load (requests.foldl (Scheduler.serveRequest ranking) v) := by
  induction requests generalizing v with
  | nil => exact h
  | cons l requests ih =>
    exact ih (h.serveRequest ranking (hnonneg l (by simp)))
      fun l' hl' => hnonneg l' (List.mem_cons_of_mem _ hl')

/-- Registering the granted instances one after the other. -/
theorem Accounted.registerAll {s : FcfsScheduler} {granted : List Grant}
    (hcovers : Covers cluster
      (fun node => allocatedGpuByNode s.modelInstance node + grantedGpuByNode granted node)
      s.workerNodes)
    (hplaced : ∀ key r, s.modelInstance.get? key = some r → r.Placed s.workerNodes)
    (hgranted : ∀ g ∈ granted, g.resources.Placed s.workerNodes)
    (hqueued : ∀ modelName queue, s.modelLoadingQueues.get? modelName = some queue →
      ∀ request ∈ queue, 0 ≤ request.numGpus) :
    Accounted cluster (granted.foldl registerInstance s) := by
  induction granted generalizing s with
  | nil => exact ⟨by simpa [grantedGpuByNode] using hcovers, hplaced, hqueued⟩
  | cons g granted ih =>
    rw [List.foldl_cons]
    refine ih ?_ ?_ (fun g' hg' => hgranted g' (List.mem_cons_of_mem _ hg')) hqueued
    · refine hcovers.mono fun node => ?_
      have herase := allocatedGpuByNode_erase_le s.modelInstance g.key node
      show allocatedGpuByNode (s.modelInstance.set g.key g.resources) node + _ ≤ _
      rw [allocatedGpuByNode_set]
      simp only [grantedGpuByNode, List.map_cons, List.sum_cons]
      linarith
    · intro key r hr
      replace hr : (s.modelInstance.set g.key g.resources).get? key = some r := hr
      rw [OrderedDict.get?_set] at hr
      split_ifs at hr with heq
      · obtain rfl := Option.some.inj hr
        exact hgranted g (by simp)
      · exact hplaced key r hr

theorem Accounted.controlLoop {s : FcfsScheduler} (h : Accounted cluster s)
    (ranking : Option RiskRanking) (observation : Observation cluster) :
    Accounted cluster (controlLoop ranking s observation) := by
  unfold Scheduler.controlLoop
  dsimp only
  split_ifs with hempty
  · exact h
  · have hfresh := h.getWorkerNodes observation
    have hnonneg : ∀ l ∈ loadingRequests s, 0 ≤ l.request.numGpus := by
      intro l hl
      obtain ⟨queue, hqueue, hmem⟩ := mem_loadingRequests hl
      exact h.queued _ queue hqueue _ hmem
    have hstart : Serves cluster (Scheduler.getWorkerNodes s observation).workerNodes
        (allocatedGpuByNode s.modelInstance)
        ⟨s.modelLoadingQueues, (Scheduler.getWorkerNodes s observation).workerNodes, []⟩ :=
      ⟨hfresh.covers.mono fun _ => le_of_eq (add_zero _), fun _ => Iff.rfl, by simp, h.queued⟩
    have hserved := hstart.serveAll ranking hnonneg
    have hextends : Extends (Scheduler.getWorkerNodes s observation).workerNodes
        (updateNodes (Scheduler.getWorkerNodes s observation).workerNodes
          ((loadingRequests s).foldl (serveRequest ranking) ⟨s.modelLoadingQueues,
            (Scheduler.getWorkerNodes s observation).workerNodes, []⟩).nodes) := by
      intro node hnode
      rwa [get?_updateNodes, Option.map_eq_none_iff] at hnode
    refine Accounted.registerAll ?_ ?_ ?_ hserved.queued
    · exact updateNodes_covers hserved.covers fun node => (hserved.known node).mp
    · exact fun key r hr => (hfresh.placed key r hr).mono hextends
    · exact fun g hg => (hserved.placed g hg).mono hextends

/-! ## The other operations -/

theorem Accounted.queueRequest {s : FcfsScheduler} (h : Accounted cluster s) (modelName : String)
    {request : Request} (hnonneg : 0 ≤ request.numGpus) :
    Accounted cluster (queueRequest s modelName request) where
  covers := h.covers
  placed := h.placed
  queued := forall_queued_queueRequest h.queued modelName hnonneg

/-- An instance whose GPUs are now part of the load. -/
theorem Accounted.setInstance {s : FcfsScheduler} {nodes : NodeTable} (h : Accounted cluster s)
    (hextends : Extends s.workerNodes nodes) {key : String × String} {r : Resources}
    (hplaced : r.Placed nodes)
    (hcovers : Covers cluster (fun node => allocatedGpuByNode (s.modelInstance.erase key) node +
      r.share node) nodes) :
    Accounted cluster { s with
      workerNodes := nodes
      modelInstance := s.modelInstance.set key r } where
  covers := hcovers.mono fun node => by
    show allocatedGpuByNode (s.modelInstance.set key r) node ≤ _
    rw [allocatedGpuByNode_set, add_comm]
  placed := by
    intro key' r' hr'
    replace hr' : (s.modelInstance.set key r).get? key' = some r' := hr'
    rw [OrderedDict.get?_set] at hr'
    split_ifs at hr' with heq
    · obtain rfl := Option.some.inj hr'
      exact hplaced
    · exact (h.placed key' r' hr').mono hextends
  queued := h.queued

theorem extends_mapValues (nodes : NodeTable) (f : String → NodeInfo → NodeInfo) :
    Extends nodes (nodes.mapValues f) := by
  intro node hnode
  rwa [OrderedDict.get?_mapValues, Option.map_eq_none_iff] at hnode

theorem extends_addFreeGpu (nodes : NodeTable) (node : String) (gpus : ℚ) :
    Extends nodes (addFreeGpu nodes node gpus) := by
  intro node' hnode'
  rwa [get?_addFreeGpu, Option.map_eq_none_iff] at hnode'

theorem Accounted.reserveDistributed {s s' : FcfsScheduler} (h : Accounted cluster s)
    {call : DistributedCall} {r : Resources}
    (hreserve : reserveDistributed s call = .ok (r, s')) : Accounted cluster s' := by
  unfold Scheduler.reserveDistributed at hreserve
  cases hallocation : distributedGpuAllocation s.workerNodes call.targetNodeIds
      call.requestedGpus call.requireAllTargetNodes with
  | error failure => simp [hallocation] at hreserve
  | ok allocations =>
    rw [hallocation] at hreserve
    obtain ⟨rfl, rfl⟩ := Prod.mk.inj (Except.ok.inj hreserve)
    have hdivides := distributedGpuAllocation_ok hallocation
    have hknown : ∀ node count, allocations.get? node = some count →
        s.workerNodes.get? node ≠ none := by
      intro node count hcount
      obtain ⟨info, hinfo, -⟩ := hdivides.fits node count hcount
      simp [hinfo]
    refine h.setInstance (extends_mapValues _ _) ?_ ?_
    · refine Resources.Placed.mono ?_ (extends_mapValues s.workerNodes _)
      refine ⟨?_, ?_, hknown, fun _ => ?_⟩
      · show (0 : ℚ) ≤ call.requestedGpus
        rw [← hdivides.sum]
        positivity
      · cases hentries : allocations.entries with
        | nil => exact absurd hentries hdivides.nonempty
        | cons entry rest =>
          have hprimary : allocations.keys.headD "" = entry.1 := by
            simp [OrderedDict.keys, hentries]
          show s.workerNodes.get? (allocations.keys.headD "") ≠ none
          rw [hprimary]
          exact hknown entry.1 entry.2 ((OrderedDict.mem_entries_iff _).mp (by simp [hentries]))
      · show _ = (call.requestedGpus : ℚ)
        rw [← hdivides.sum, Int.cast_natCast]
    · exact reserve_covers (h.covers.mono fun node => allocatedGpuByNode_erase_le _ _ node)
        hdivides _ _

theorem Accounted.deallocateResource {s : FcfsScheduler} (h : Accounted cluster s)
    (modelName instanceId : String) :
    Accounted cluster (deallocateResource s modelName instanceId) := by
  unfold Scheduler.deallocateResource
  cases hr : s.modelInstance.get? (modelName, instanceId) with
  | none => exact h
  | some r =>
    have hextends : Extends s.workerNodes (deallocateNodes s.workerNodes r) := by
      unfold deallocateNodes
      split_ifs
      · exact extends_addFreeGpu _ _ _
      · exact extends_mapValues _ _
    refine ⟨?_, ?_, h.queued⟩
    · refine deallocateNodes_covers h.covers (h.placed _ r hr).nonneg
        (allocatedGpuByNode_nonneg _) fun node => ?_
      rw [allocatedGpuByNode_erase hr, add_comm]
    · intro key r' hr'
      rw [OrderedDict.get?_erase] at hr'
      split_ifs at hr' with heq
      exact (h.placed key r' hr').mono hextends

/-- A resize that does not touch a distributed instance. -/
theorem Accounted.resizeResource {s s' : FcfsScheduler} (h : Accounted cluster s)
    {modelName instanceId : String} {requestedGpus : ℚ} {report : ResizeReport}
    (hsingle : ∀ r, s.modelInstance.get? (modelName, instanceId) = some r →
      r.nodeAllocations.entries = [] ∨ requestedGpus = r.numGpus)
    (hresize : resizeResource s modelName instanceId requestedGpus = .ok (report, s')) :
    Accounted cluster s' := by
  unfold Scheduler.resizeResource at hresize
  split_ifs at hresize with hnegative
  cases hr : s.modelInstance.get? (modelName, instanceId) with
  | none => simp [hr] at hresize
  | some r =>
    cases hinfo : s.workerNodes.get? r.nodeId with
    | none => simp [hr, hinfo] at hresize
    | some info =>
      simp only [hr, hinfo] at hresize
      split_ifs at hresize with hfree
      obtain ⟨-, rfl⟩ := Prod.mk.inj (Except.ok.inj hresize)
      have hplaced := h.placed _ r hr
      have hload := allocatedGpuByNode_erase hr
      refine h.setInstance (extends_addFreeGpu _ _ _) ?_ ?_
      · refine Resources.Placed.mono ?_ (extends_addFreeGpu s.workerNodes _ _)
        refine ⟨not_lt.mp hnegative, hplaced.node, hplaced.known, fun hdistributed => ?_⟩
        rcases hsingle r hr with hentries | rfl
        · exact absurd hentries hdistributed
        · exact hplaced.sum hdistributed
      · refine addFreeGpu_covers h.covers (fun info' hinfo' => ?_) fun node => ?_
        · obtain rfl : info = info' := Option.some.inj (hinfo.symm.trans hinfo')
          linarith
        · rw [hload]
          rcases hsingle r hr with hentries | rfl
          · rw [Resources.share_single hentries hplaced.nonneg,
              Resources.share_single (r := { r with numGpus := requestedGpus }) hentries
                (not_lt.mp hnegative)]
            show _ + (if r.nodeId = node then requestedGpus else 0) = _
            split_ifs <;> ring
          · simp [add_comm]

theorem extends_clearNodes (nodes : NodeTable) (r : Resources) :
    Extends nodes (clearNodes nodes r) := by
  unfold clearNodes
  split_ifs
  · cases nodes.get? r.nodeId with
    | none => exact fun _ h => h
    | some info =>
      intro node hnode
      rw [OrderedDict.get?_set] at hnode
      split_ifs at hnode
      exact hnode
  · exact extends_mapValues _ _

theorem clearNodes_covers {nodes : NodeTable} {load : Load} {r : Resources}
    (h : Covers cluster (fun node => load node + r.share node) nodes) (hnonneg : 0 ≤ r.numGpus)
    (hpos : ∀ node, 0 ≤ load node) : Covers cluster load (clearNodes nodes r) := by
  unfold clearNodes
  split_ifs with hsingle
  · simp only [Resources.share_single hsingle hnonneg] at h
    cases hinfo : nodes.get? r.nodeId with
    | none =>
      refine h.mono fun node => ?_
      split_ifs <;> linarith
    | some info =>
      intro node info' hinfo'
      rw [OrderedDict.get?_set] at hinfo'
      split_ifs at hinfo' with heq
      · subst heq
        obtain rfl := Option.some.inj hinfo'
        have hnode := h _ info hinfo
        dsimp only at hnode
        rw [if_pos rfl] at hnode
        simpa using hnode.giveBack hnonneg (by linarith [hpos r.nodeId])
      · simpa [heq] using h node info' hinfo'
  · exact returnAllocations_covers h hpos fun node => by
      rw [Resources.share_distributed hsingle]

/-- Giving the GPUs of several instances back. -/
theorem clearAll_covers {nodes : NodeTable} {load : Load} {released : List Resources}
    (h : Covers cluster (fun node => load node + (released.map fun r => r.share node).sum) nodes)
    (hnonneg : ∀ r ∈ released, 0 ≤ r.numGpus) (hpos : ∀ node, 0 ≤ load node) :
    Covers cluster load (released.foldl clearNodes nodes) ∧
      Extends nodes (released.foldl clearNodes nodes) := by
  induction released generalizing nodes with
  | nil => exact ⟨by simpa using h, fun _ hnode => hnode⟩
  | cons r released ih =>
    have hstep : Covers cluster
        (fun node => load node + (released.map fun r => r.share node).sum) (clearNodes nodes r) := by
      refine clearNodes_covers ?_ (hnonneg r (by simp)) fun node => ?_
      · refine h.mono fun node => le_of_eq ?_
        rw [List.map_cons, List.sum_cons]
        ring
      · refine add_nonneg (hpos node) (List.sum_nonneg fun x hx => ?_)
        obtain ⟨r', -, rfl⟩ := List.mem_map.mp hx
        exact r'.share_nonneg node
    obtain ⟨hcovers, hextends⟩ := ih hstep fun r' hr' => hnonneg r' (List.mem_cons_of_mem _ hr')
    exact ⟨hcovers, fun node hnode => extends_clearNodes _ _ _ (hextends node hnode)⟩

theorem Accounted.clearModel {s : FcfsScheduler} (h : Accounted cluster s) (modelName : String) :
    Accounted cluster (clearModel s modelName).2 := by
  have hreleased : ∀ r ∈ (instancesOf s modelName).values, 0 ≤ r.numGpus := by
    intro r hr
    obtain ⟨key, hkey⟩ := (OrderedDict.mem_values_iff _).mp hr
    exact (h.placed key r ((OrderedDict.get?_filter ..).mp hkey).1).nonneg
  have hsplit : ∀ node,
      allocatedGpuByNode (s.modelInstance.filter fun key _ => key.1 ≠ modelName) node +
        ((instancesOf s modelName).values.map fun r => r.share node).sum =
      allocatedGpuByNode s.modelInstance node := by
    intro node
    have hsum := s.modelInstance.sumBy_filter_add_filter_not
      (fun key _ => decide (key.1 = modelName)) fun _ r => r.share node
    rw [add_comm] at hsum
    simpa [allocatedGpuByNode, instancesOf, OrderedDict.sumBy, OrderedDict.values,
      Function.comp_def] using hsum
  obtain ⟨hcovers, hextends⟩ := clearAll_covers
    (h.covers.mono fun node => le_of_eq (hsplit node)) hreleased (allocatedGpuByNode_nonneg _)
  refine ⟨hcovers, ?_, ?_⟩
  · intro key r hr
    exact (h.placed key r ((OrderedDict.get?_filter ..).mp hr).1).mono hextends
  · intro modelName' queue hqueue
    replace hqueue : (s.modelLoadingQueues.erase modelName).get? modelName' = some queue := hqueue
    rw [OrderedDict.get?_erase] at hqueue
    split_ifs at hqueue
    exact h.queued modelName' queue hqueue

theorem Accounted.markNodeState {s : FcfsScheduler} (h : Accounted cluster s) (node : String)
    (state : NodeState) : Accounted cluster (markNodeState s node state).2 where
  covers := by
    intro node' info' hinfo'
    replace hinfo' : (s.workerNodes.set node _).get? node' = some info' := hinfo'
    rw [OrderedDict.get?_set] at hinfo'
    split_ifs at hinfo' with heq
    · subst heq
      obtain rfl := Option.some.inj hinfo'
      cases hold : s.workerNodes.get? node with
      | some info => exact h.covers node info hold
      | none =>
        have hzero := onNodes_of_placed h.placed node hold
        refine ⟨le_rfl, ?_, fun total htotal => ?_⟩
        · show 0 + allocatedGpuByNode s.modelInstance node ≤ 0
          linarith
        · show 0 + allocatedGpuByNode s.modelInstance node ≤ total
          linarith [cluster.nonneg node total htotal]
    · exact h.covers node' info' hinfo'
  placed := by
    intro key r hr
    refine (h.placed key r hr).mono fun node' hnode' => ?_
    replace hnode' : (s.workerNodes.set node _).get? node' = none := hnode'
    rw [OrderedDict.get?_set] at hnode'
    split_ifs at hnode'
    exact hnode'
  queued := h.queued

/-! ## Whole runs -/

/-- What an operation must respect: a request asks for a non-negative number of GPUs, and a resize
of a distributed instance is refused for want of GPUs or asks for what the instance has. -/
def Careful (s : FcfsScheduler) : Operation cluster → Prop
  | .request _ request => 0 ≤ request.numGpus
  | .resize modelName instanceId requestedGpus =>
    ∀ r, s.modelInstance.get? (modelName, instanceId) = some r →
      r.nodeAllocations.entries = [] ∨ requestedGpus = r.numGpus ∨
        ∃ info, s.workerNodes.get? r.nodeId = some info ∧
          info.freeGpu < requestedGpus - r.numGpus
  | _ => True

/-- The states between the operations of a run that starts with empty tables. -/
def Reachable (cluster : RayCluster) (ranking : Option RiskRanking)
    (allowed : FcfsScheduler → Operation cluster → Prop) : FcfsScheduler → Prop :=
  Runs.Reachable (· = {}) (fun s operation s' => perform ranking s operation = s') allowed

theorem Accounted.init : Accounted cluster {} where
  covers := by
    intro node info hinfo
    exact absurd hinfo (by simp)
  placed := by
    intro key r hr
    exact absurd hr (by simp)
  queued := by
    intro modelName queue hqueue
    exact absurd hqueue (by simp)

theorem resizeResource_refused {s : FcfsScheduler} {modelName instanceId : String}
    {requestedGpus : ℚ} {r : Resources} {info : NodeInfo}
    (hr : s.modelInstance.get? (modelName, instanceId) = some r)
    (hinfo : s.workerNodes.get? r.nodeId = some info)
    (hfree : info.freeGpu < requestedGpus - r.numGpus) :
    ∃ failure, resizeResource s modelName instanceId requestedGpus = .error failure := by
  unfold resizeResource
  split_ifs
  · exact ⟨_, rfl⟩
  · simp [hr, hinfo, hfree]

/-- One operation. -/
theorem Accounted.perform {s : FcfsScheduler} (h : Accounted cluster s)
    (ranking : Option RiskRanking) {operation : Operation cluster} (hcareful : Careful s operation) :
    Accounted cluster (perform ranking s operation) := by
  cases operation with
  | request modelName request => exact h.queueRequest modelName hcareful
  | controlLoop observation => exact h.controlLoop ranking observation
  | allocateDistributed observation call =>
    have hfresh := h.getWorkerNodes observation
    show Accounted cluster (allocateDistributedResource s observation call).2
    unfold allocateDistributedResource
    dsimp only
    cases hreserve : Scheduler.reserveDistributed (Scheduler.getWorkerNodes s observation) call with
    | error failure => exact hfresh
    | ok reserved => exact hfresh.reserveDistributed hreserve
  | resize modelName instanceId requestedGpus =>
    unfold Scheduler.perform
    dsimp only
    cases hresize : Scheduler.resizeResource s modelName instanceId requestedGpus with
    | error failure => exact h
    | ok resized =>
      refine h.resizeResource (fun r hr => ?_) hresize
      rcases hcareful r hr with hsingle | hsame | ⟨info, hinfo, hfree⟩
      · exact .inl hsingle
      · exact .inr hsame
      · obtain ⟨failure, hfailure⟩ := resizeResource_refused hr hinfo hfree
        rw [hfailure] at hresize
        exact absurd hresize (by simp)
  | deallocate modelName instanceId => exact h.deallocateResource modelName instanceId
  | clear modelName => exact h.clearModel modelName
  | mark node state => exact h.markNodeState node state
  | refresh observation => exact h.getWorkerNodes observation

/-- **GPU balance.**  In every run whose operations are careful, the scheduler is balanced between
any two operations. -/
theorem balanced_of_reachable {ranking : Option RiskRanking} {s : FcfsScheduler}
    (h : Reachable cluster ranking Careful s) : Balanced s := by
  have haccounted : Accounted cluster s := by
    refine Runs.Reachable.invariant _ ?_ ?_ h
    · rintro _ rfl
      exact Accounted.init
    · rintro s operation _ hinv hcareful rfl
      exact hinv.perform ranking hcareful
  exact haccounted.balanced

/-- Two nodes, one with two GPUs and one with four. -/
def twoNodes : RayCluster where
  totals := ⟨[("A", 2), ("B", 4)], by decide⟩
  nonneg := by
    intro node total h
    have hmem := (OrderedDict.mem_entries_iff _).mpr h
    rcases List.mem_cons.mp hmem with heq | hmem
    · obtain ⟨-, rfl⟩ := Prod.mk.inj heq
      norm_num
    · obtain ⟨-, rfl⟩ := Prod.mk.inj (List.mem_singleton.mp hmem)
      norm_num

/-- What Ray reports when nothing else uses the two nodes. -/
def twoNodesIdle : Observation twoNodes where
  workerNodes := ⟨[("A", ⟨2, 2⟩), ("B", ⟨4, 4⟩)], by decide⟩
  availableResources := .empty
  runtimeMetadata := []
  totals := by
    intro node
    show (OrderedDict.getEntry _ _).map _ = OrderedDict.getEntry _ _
    simp only [twoNodes, OrderedDict.getEntry]
    split_ifs <;> rfl

/-- A request for one GPU, granted and registered. -/
theorem balanced_after_grant :
    Balanced (controlLoop none (queueRequest {} "m" ⟨0, "i", 1, 0, none⟩) twoNodesIdle) := by
  have hqueued : Reachable twoNodes none Careful (queueRequest {} "m" ⟨0, "i", 1, 0, none⟩) :=
    .step (a := .request "m" ⟨0, "i", 1, 0, none⟩) (.start rfl) zero_le_one rfl
  exact balanced_of_reachable (.step (a := .controlLoop twoNodesIdle) hqueued trivial rfl)

/-- Four GPUs over both nodes: one on `A`, three on `B`. -/
def overBoth : DistributedCall := ⟨"m", "i", 4, ["A", "B"], true⟩

/-- Shrinking a distributed instance books GPUs on its primary node that were never taken there:
`A` has two GPUs and ends up with four of them free. -/
theorem not_balanced_after_resize :
    ¬ ∀ s, Reachable twoNodes none (fun _ _ => True) s → Balanced s := by
  intro h
  have hreachable : Reachable twoNodes none (fun _ _ => True)
      (perform none (perform none {} (.allocateDistributed twoNodesIdle overBoth))
        (.resize "m" "i" 1 : Operation twoNodes)) :=
    .step (.step (.start rfl) trivial rfl) trivial rfl
  have hnode : (perform none (perform none {} (.allocateDistributed twoNodesIdle overBoth))
      (.resize "m" "i" 1 : Operation twoNodes)).workerNodes.get? "A" = some ⟨.ready, 4, 2⟩ := by
    decide +kernel
  exact absurd ((h _ hreachable).free "A" _ hnode).2 (by norm_num)

end Scheduler
end SpotServe
