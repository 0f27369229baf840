import SpotServe.Scheduler.Operations

/-!
# Tables that account for a load

A *load* says how many GPUs are in use on each node.  A node table *covers* a load when on each of
its nodes the free GPUs and the load fit into the node's total, and into what Ray reports for the
node (`Covers`).  Everything the scheduler does to a node table is described by what it does to
the loads the table covers:

* a refresh covers the load it was computed from (`refreshNodes_covers`);
* publishing the control loop's copy covers what the copy covered (`updateNodes_covers`);
* taking GPUs that are free adds them to the load, giving GPUs back removes them
  (`addFreeGpu_covers`, `takeAllocations_covers`, `returnAllocations_covers`).

The bound by what Ray reports is what makes the first statement go through: `total_gpu` in the
table may have been raised by a backend's report, and a refresh sets it back.
-/

namespace SpotServe
namespace Scheduler

open Py

/-- GPUs in use, by node. -/
abbrev Load := String → ℚ

variable {cluster : RayCluster}

/-- A number of GPUs that a node has, by the table and by Ray. -/
def Within (cluster : RayCluster) (node : String) (info : NodeInfo) (gpus : ℚ) : Prop :=
  gpus ≤ info.totalGpu ∧ ∀ total, cluster.totals.get? node = some total → gpus ≤ total

/-- The load fits on the nodes. -/
def Fits (cluster : RayCluster) (load : Load) (nodes : NodeTable) : Prop :=
  ∀ node info, nodes.get? node = some info → Within cluster node info (load node)

/-- A number of GPUs fits on a node beside what is free there. -/
def NodeCovers (cluster : RayCluster) (node : String) (gpus : ℚ) (info : NodeInfo) : Prop :=
  0 ≤ info.freeGpu ∧ Within cluster node info (info.freeGpu + gpus)

/-- The load fits on the nodes beside what is free there. -/
def Covers (cluster : RayCluster) (load : Load) (nodes : NodeTable) : Prop :=
  ∀ node info, nodes.get? node = some info → NodeCovers cluster node (load node) info

/-- The load is on nodes of the table only. -/
def OnNodes (load : Load) (nodes : NodeTable) : Prop :=
  ∀ node, nodes.get? node = none → load node = 0

theorem Within.mono {node : String} {info : NodeInfo} {gpus gpus' : ℚ}
    (h : Within cluster node info gpus) (hle : gpus' ≤ gpus) : Within cluster node info gpus' :=
  ⟨hle.trans h.1, fun total htotal => hle.trans (h.2 total htotal)⟩

theorem Covers.fits {load : Load} {nodes : NodeTable} (h : Covers cluster load nodes) :
    Fits cluster load nodes := fun node info hinfo =>
  (h node info hinfo).2.mono (by linarith [(h node info hinfo).1])

theorem Covers.mono {load load' : Load} {nodes : NodeTable} (h : Covers cluster load nodes)
    (hle : ∀ node, load' node ≤ load node) : Covers cluster load' nodes := fun node info hinfo =>
  ⟨(h node info hinfo).1, (h node info hinfo).2.mono (by linarith [hle node])⟩

/-! ## Refreshing and publishing -/

theorem applySchedulerCapacity_covers {node : String} {info : NodeInfo} {allocated : ℚ}
    (h : allocated ≤ info.totalGpu)
    (hray : ∀ total, cluster.totals.get? node = some total → info.totalGpu ≤ total) :
    NodeCovers cluster node allocated (applySchedulerCapacity info allocated) := by
  have hfree : (applySchedulerCapacity info allocated).freeGpu + allocated ≤ info.totalGpu := by
    have hle : max 0 (min info.totalGpu (min info.freeGpu (info.totalGpu - allocated))) ≤
        info.totalGpu - allocated :=
      max_le (by linarith) ((min_le_right _ _).trans (min_le_right _ _))
    show max 0 _ + allocated ≤ _
    linarith
  exact ⟨le_max_left _ _, hfree, fun total htotal => hfree.trans (hray total htotal)⟩

theorem NodeCovers.lowerFree {node : String} {gpus free : ℚ} {info : NodeInfo}
    (h : NodeCovers cluster node gpus info) (hfree : 0 ≤ free) (hle : free ≤ info.freeGpu) :
    NodeCovers cluster node gpus { info with freeGpu := free } := by
  refine ⟨hfree, ?_, fun total htotal => ?_⟩
  · have := h.2.1
    show free + gpus ≤ info.totalGpu
    linarith
  · have := h.2.2 total htotal
    show free + gpus ≤ total
    linarith

theorem applyRayAvailableCapacity_covers {node : String} {gpus : ℚ} {info : NodeInfo}
    (h : NodeCovers cluster node gpus info) (available : Option ℚ) :
    NodeCovers cluster node gpus (applyRayAvailableCapacity info available) := by
  unfold applyRayAvailableCapacity
  split_ifs with htotal
  · exact h
  · cases available with
    | none => exact h
    | some resource =>
      dsimp only
      split_ifs
      · exact h.lowerFree le_rfl h.1
      · exact h

theorem reportedTotals_max_pos {rows : List (String × ℤ)} {node : String} {total : ℤ}
    (h : (reportedTotals rows node).max? = some total) : 0 < total := by
  have hmem : total ∈ reportedTotals rows node := List.max?_mem h
  obtain ⟨row, hrow, rfl⟩ := List.mem_map.mp hmem
  have htest := (List.mem_filter.mp hrow).2
  exact (of_decide_eq_true htest).2

/-- A total that is replaced becomes larger. -/
theorem mergeBackendRuntimeMetadata_covers {node : String} {gpus : ℚ} {info : NodeInfo}
    (h : NodeCovers cluster node gpus info) (rows : List (String × ℤ)) :
    NodeCovers cluster node gpus (mergeBackendRuntimeMetadata rows node info) := by
  unfold mergeBackendRuntimeMetadata
  cases hmax : (reportedTotals rows node).max? with
  | none => exact h
  | some total =>
    dsimp only
    split_ifs with hless
    · refine ⟨h.1, ?_, h.2.2⟩
      have hone : (1 : ℚ) ≤ total := by exact_mod_cast reportedTotals_max_pos hmax
      have := h.2.1
      show info.freeGpu + gpus ≤ (total : ℚ)
      linarith
    · exact h

/-- The entry of a node after a refresh. -/
theorem get?_refreshNodes (observation : Observation cluster) (nodes : NodeTable) (load : Load)
    (node : String) :
    (refreshNodes observation nodes load).get? node =
      (match observation.workerNodes.get? node with
        | some report => some (refreshRayNode (nodes.get? node) report (load node)
            (observation.availableResources.get? node))
        | none => (nodes.get? node).map fun info => applySchedulerCapacity info (load node)).map
      (mergeBackendRuntimeMetadata observation.runtimeMetadata node) := by
  unfold refreshNodes
  rw [OrderedDict.get?_mapValues, OrderedDict.get?_mapValues, OrderedDict.get?_updateWith]
  cases hreport : observation.workerNodes.get? node with
  | some report => simp
  | none => cases nodes.get? node <;> simp

/-- A refresh covers the load it was computed from. -/
theorem refreshNodes_covers (observation : Observation cluster) {nodes : NodeTable} {load : Load}
    (hfits : Fits cluster load nodes) (hon : OnNodes load nodes) :
    Covers cluster load (refreshNodes observation nodes load) := by
  intro node info hinfo
  rw [get?_refreshNodes, Option.map_eq_some_iff] at hinfo
  obtain ⟨info', hinfo', rfl⟩ := hinfo
  refine mergeBackendRuntimeMetadata_covers ?_ _
  have htotal := observation.totals node
  cases hreport : observation.workerNodes.get? node with
  | none =>
    rw [hreport] at hinfo' htotal
    obtain ⟨old, hold, rfl⟩ := Option.map_eq_some_iff.mp hinfo'
    refine applySchedulerCapacity_covers (hfits node old hold).1 ?_
    intro total hray
    rw [← htotal] at hray
    exact absurd hray (by simp)
  | some report =>
    rw [hreport] at hinfo' htotal
    obtain rfl := Option.some.inj hinfo'
    refine applyRayAvailableCapacity_covers (applySchedulerCapacity_covers ?_ ?_) _
    · cases hold : nodes.get? node with
      | some old => exact (hfits node old hold).2 _ htotal.symm
      | none =>
        rw [hon node hold]
        exact cluster.nonneg node _ htotal.symm
    · intro total hray
      rw [← htotal] at hray
      exact le_of_eq (Option.some.inj hray)

/-- A refresh forgets no node. -/
theorem refreshNodes_eq_none {observation : Observation cluster} {nodes : NodeTable} {load : Load}
    {node : String} (h : (refreshNodes observation nodes load).get? node = none) :
    nodes.get? node = none := by
  rw [get?_refreshNodes, Option.map_eq_none_iff] at h
  cases hreport : observation.workerNodes.get? node with
  | some report => simp [hreport] at h
  | none => simpa [hreport] using h

theorem get?_updateNodes (current granted : NodeTable) (node : String) :
    (updateNodes current granted).get? node = (current.get? node).map fun info =>
      match granted.get? node with
      | some info' => { info' with state := info.state }
      | none => info :=
  OrderedDict.get?_mapValues ..

/-- Publishing covers what the published copy covered, if the copy knew all nodes. -/
theorem updateNodes_covers {current granted : NodeTable} {load : Load}
    (h : Covers cluster load granted)
    (hknown : ∀ node, granted.get? node = none → current.get? node = none) :
    Covers cluster load (updateNodes current granted) := by
  intro node info hinfo
  rw [get?_updateNodes, Option.map_eq_some_iff] at hinfo
  obtain ⟨old, hold, rfl⟩ := hinfo
  cases hgranted : granted.get? node with
  | none => exact absurd (hknown node hgranted) (by simp [hold])
  | some info' => exact h node info' hgranted

/-! ## Taking and giving back -/

theorem get?_addFreeGpu (nodes : NodeTable) (node node' : String) (gpus : ℚ) :
    (addFreeGpu nodes node gpus).get? node' = (nodes.get? node').map fun info =>
      if node = node' then { info with freeGpu := info.freeGpu + gpus } else info := by
  unfold addFreeGpu
  by_cases h : node = node'
  · subst h
    cases hinfo : nodes.get? node <;> simp [hinfo]
  · cases nodes.get? node with
    | none => simp [h]
    | some info => simp [h, OrderedDict.get?_set]

/-- Moving GPUs between a node's free count and its load. -/
theorem addFreeGpu_covers {nodes : NodeTable} {load load' : Load} {node : String} {gpus : ℚ}
    (h : Covers cluster load nodes)
    (hfree : ∀ info, nodes.get? node = some info → 0 ≤ info.freeGpu + gpus)
    (hload : ∀ node', load' node' = load node' - if node = node' then gpus else 0) :
    Covers cluster load' (addFreeGpu nodes node gpus) := by
  intro node' info hinfo
  rw [get?_addFreeGpu, Option.map_eq_some_iff] at hinfo
  obtain ⟨old, hold, rfl⟩ := hinfo
  have hcovers := h node' old hold
  by_cases heq : node = node'
  · subst heq
    have hsame : old.freeGpu + gpus + (load node - gpus) = old.freeGpu + load node := by ring
    rw [hload, if_pos rfl, if_pos rfl]
    refine ⟨hfree old hold, ?_⟩
    show Within cluster node _ (old.freeGpu + gpus + (load node - gpus))
    rw [hsame]
    exact hcovers.2
  · rw [hload, if_neg heq, if_neg heq, sub_zero]
    exact hcovers

theorem takeAllocations_covers {nodes : NodeTable} {load load' : Load}
    {allocations : OrderedDict String ℕ} (h : Covers cluster load nodes)
    (hfree : ∀ node count, allocations.get? node = some count →
      ∃ info, nodes.get? node = some info ∧ info.state = .ready ∧ count ≤ ⌊info.freeGpu⌋₊)
    (hload : ∀ node, load' node = load node + ((allocations.get? node).getD 0 : ℕ)) :
    Covers cluster load' (takeAllocations nodes allocations) := by
  intro node info hinfo
  rw [takeAllocations, OrderedDict.get?_mapValues, Option.map_eq_some_iff] at hinfo
  obtain ⟨old, hold, rfl⟩ := hinfo
  have hcovers := h node old hold
  cases hcount : allocations.get? node with
  | none =>
    rw [hload, hcount]
    simpa using hcovers
  | some count =>
    obtain ⟨info, hinfo, -, hle⟩ := hfree node count hcount
    obtain rfl : old = info := Option.some.inj (hold.symm.trans hinfo)
    have hle : (count : ℚ) ≤ old.freeGpu :=
      (Nat.cast_le.mpr hle).trans (Nat.floor_le hcovers.1)
    have hmax : max 0 (old.freeGpu - count) = old.freeGpu - count := max_eq_right (by linarith)
    have hsame : old.freeGpu - count + (load node + count) = old.freeGpu + load node := by ring
    rw [hload, hcount, Option.getD_some]
    dsimp only
    rw [hmax]
    refine ⟨by show 0 ≤ old.freeGpu - count; linarith, ?_⟩
    show Within cluster node _ (old.freeGpu - count + (load node + count))
    rw [hsame]
    exact hcovers.2

/-- A free count that is capped at the node's total. -/
theorem NodeCovers.giveBack {node : String} {gpus back : ℚ} {info : NodeInfo}
    (h : NodeCovers cluster node gpus info) (hback : 0 ≤ back) (hle : back ≤ gpus) :
    NodeCovers cluster node (gpus - back)
      { info with freeGpu := min info.totalGpu (info.freeGpu + back) } := by
  have hfree := h.1
  have htotal := h.2.1
  have hmin : min info.totalGpu (info.freeGpu + back) ≤ info.freeGpu + back := min_le_right _ _
  refine ⟨le_min (by linarith) (by linarith), ?_⟩
  refine h.2.mono ?_
  show min info.totalGpu (info.freeGpu + back) + (gpus - back) ≤ _
  linarith

theorem returnAllocations_covers {nodes : NodeTable} {load load' : Load}
    {allocations : OrderedDict String ℕ} (h : Covers cluster load nodes)
    (hpos : ∀ node, 0 ≤ load' node)
    (hload : ∀ node, load node = load' node + ((allocations.get? node).getD 0 : ℕ)) :
    Covers cluster load' (returnAllocations nodes allocations) := by
  intro node info hinfo
  rw [returnAllocations, OrderedDict.get?_mapValues, Option.map_eq_some_iff] at hinfo
  obtain ⟨old, hold, rfl⟩ := hinfo
  have hcovers := h node old hold
  rw [hload] at hcovers
  cases hcount : allocations.get? node with
  | none => simpa [hcount] using hcovers
  | some count =>
    rw [hcount, Option.getD_some] at hcovers
    have hle : (count : ℚ) ≤ load' node + count := by linarith [hpos node]
    have hback := hcovers.giveBack (Nat.cast_nonneg count) hle
    rwa [add_sub_cancel_right] at hback

/-! ## The load of the registered instances -/

theorem Resources.share_nonneg (r : Resources) (node : String) : 0 ≤ r.share node := by
  unfold Resources.share
  split_ifs
  · exact le_max_left _ _
  · exact le_rfl
  · exact Nat.cast_nonneg _

/-- What an instance on one node holds. -/
theorem Resources.share_single {r : Resources} (hsingle : r.nodeAllocations.entries = [])
    (hnonneg : 0 ≤ r.numGpus) (node : String) :
    r.share node = if r.nodeId = node then r.numGpus else 0 := by
  unfold Resources.share
  rw [if_pos hsingle, max_eq_right hnonneg]

/-- What a distributed instance holds. -/
theorem Resources.share_distributed {r : Resources} (h : r.nodeAllocations.entries ≠ [])
    (node : String) : r.share node = ((r.nodeAllocations.get? node).getD 0 : ℕ) := by
  unfold Resources.share
  rw [if_neg h]

theorem allocatedGpuByNode_nonneg (instances : InstanceTable) (node : String) :
    0 ≤ allocatedGpuByNode instances node := by
  refine List.sum_nonneg fun x hx => ?_
  obtain ⟨entry, -, rfl⟩ := List.mem_map.mp hx
  exact entry.2.share_nonneg node

theorem allocatedGpuByNode_erase {instances : InstanceTable} {key : String × String}
    {r : Resources} (h : instances.get? key = some r) (node : String) :
    allocatedGpuByNode instances node =
      r.share node + allocatedGpuByNode (instances.erase key) node :=
  OrderedDict.sumBy_erase h _

theorem allocatedGpuByNode_set (instances : InstanceTable) (key : String × String) (r : Resources)
    (node : String) : allocatedGpuByNode (instances.set key r) node =
      r.share node + allocatedGpuByNode (instances.erase key) node :=
  OrderedDict.sumBy_set ..

theorem allocatedGpuByNode_erase_le (instances : InstanceTable) (key : String × String)
    (node : String) :
    allocatedGpuByNode (instances.erase key) node ≤ allocatedGpuByNode instances node := by
  cases h : instances.get? key with
  | some r => linarith [allocatedGpuByNode_erase h node, r.share_nonneg node]
  | none =>
    refine le_of_eq (OrderedDict.sumBy_erase_of_none h _)

/-- What the granted requests hold that are not registered yet. -/
def grantedGpuByNode (granted : List Grant) (node : String) : ℚ :=
  (granted.map fun g => g.resources.share node).sum

theorem Grant.share_resources {g : Grant} (h : 0 ≤ g.request.numGpus) (node : String) :
    g.resources.share node = if g.nodeId = node then g.request.numGpus else 0 :=
  Resources.share_single rfl h node

theorem grantedGpuByNode_append (granted granted' : List Grant) (node : String) :
    grantedGpuByNode (granted ++ granted') node =
      grantedGpuByNode granted node + grantedGpuByNode granted' node := by
  simp [grantedGpuByNode]

/-- The control loop takes a node that is ready and has the GPUs. -/
theorem chooseNode_eq_some {ranking : Option RiskRanking} {nodes : NodeTable}
    {loading : LoadingRequest} {node : String} (h : chooseNode ranking nodes loading = some node) :
    ∃ info, nodes.get? node = some info ∧ accepts loading.request node info := by
  have htest := List.find?_some h
  cases hinfo : nodes.get? node with
  | none => simp [hinfo] at htest
  | some info => exact ⟨info, rfl, by simpa [hinfo] using htest⟩

/-- What serving a request does: nothing, or a grant on a node that accepts it. -/
theorem serveRequest_cases (ranking : Option RiskRanking) (v : Serving) (loading : LoadingRequest) :
    serveRequest ranking v loading = v ∨
      ∃ node info, chooseNode ranking v.nodes loading = some node ∧
        v.nodes.get? node = some info ∧ accepts loading.request node info ∧
        serveRequest ranking v loading =
          { queues := v.queues.set loading.modelName
              (((v.queues.get? loading.modelName).getD []).erase loading.request)
            nodes := addFreeGpu v.nodes node (-loading.request.numGpus)
            granted := v.granted ++ [⟨loading.modelName, loading.request, node⟩] } := by
  unfold serveRequest
  cases hnode : chooseNode ranking v.nodes loading with
  | none => exact .inl rfl
  | some node =>
    obtain ⟨info, hinfo, haccepts⟩ := chooseNode_eq_some hnode
    dsimp only
    split_ifs with hqueued
    · exact .inr ⟨node, info, rfl, hinfo, haccepts, rfl⟩
    · exact .inl rfl

/-- A property of all queued requests survives a removal. -/
theorem forall_queued_erase {queues : OrderedDict String (List Request)} {P : Request → Prop}
    (h : ∀ modelName queue, queues.get? modelName = some queue → ∀ request ∈ queue, P request)
    (modelName : String) (request : Request) :
    ∀ modelName' queue, (queues.set modelName
        (((queues.get? modelName).getD []).erase request)).get? modelName' = some queue →
      ∀ request' ∈ queue, P request' := by
  intro modelName' queue hqueue request' hrequest'
  rw [OrderedDict.get?_set] at hqueue
  split_ifs at hqueue with heq
  · obtain rfl := Option.some.inj hqueue
    cases hold : queues.get? modelName with
    | none => simp [hold] at hrequest'
    | some old =>
      rw [hold] at hrequest'
      exact h modelName old hold request' (List.mem_of_mem_erase hrequest')
  · exact h modelName' queue hqueue request' hrequest'

/-- A property of all queued requests survives a new request with it. -/
theorem forall_queued_queueRequest {s : FcfsScheduler} {P : Request → Prop}
    (h : ∀ modelName queue, s.modelLoadingQueues.get? modelName = some queue →
      ∀ request ∈ queue, P request) (modelName : String) {request : Request} (hrequest : P request) :
    ∀ modelName' queue, (queueRequest s modelName request).modelLoadingQueues.get? modelName' =
      some queue → ∀ request' ∈ queue, P request' := by
  intro modelName' queue hqueue request' hrequest'
  replace hqueue : (s.modelLoadingQueues.set modelName (s.queue modelName ++ [request])).get?
    modelName' = some queue := hqueue
  rw [OrderedDict.get?_set] at hqueue
  split_ifs at hqueue with heq
  · obtain rfl := Option.some.inj hqueue
    rcases List.mem_append.mp hrequest' with hold | hnew
    · unfold FcfsScheduler.queue at hold
      cases hqueue : s.modelLoadingQueues.get? modelName with
      | none => simp [hqueue] at hold
      | some old => exact h modelName old hqueue request' (by simpa [hqueue] using hold)
    · rwa [List.mem_singleton.mp hnew]
  · exact h modelName' queue hqueue request' hrequest'

/-- The requests the control loop collects are the queued ones. -/
theorem mem_loadingRequests {s : FcfsScheduler} {loading : LoadingRequest}
    (h : loading ∈ loadingRequests s) :
    ∃ queue, s.modelLoadingQueues.get? loading.modelName = some queue ∧ loading.request ∈ queue := by
  unfold loadingRequests at h
  rw [List.mem_insertionSort, List.mem_flatMap] at h
  obtain ⟨⟨modelName, queue⟩, hentry, hloading⟩ := h
  obtain ⟨⟨request, idx⟩, hitem, rfl⟩ := List.mem_map.mp hloading
  exact ⟨queue, (OrderedDict.mem_entries_iff _).mp hentry, List.fst_mem_of_mem_zipIdx hitem⟩

/-- Granting a request moves its GPUs from the free count to the load. -/
theorem grant_covers {nodes : NodeTable} {load : Load} {request : Request} {node : String}
    {info : NodeInfo} (h : Covers cluster load nodes) (hinfo : nodes.get? node = some info)
    (haccepts : accepts request node info) (hnonneg : 0 ≤ request.numGpus) (modelName : String) :
    Covers cluster (fun node' => load node' +
        (Grant.mk modelName request node).resources.share node')
      (addFreeGpu nodes node (-request.numGpus)) := by
  refine addFreeGpu_covers h (fun info' hinfo' => ?_) fun node' => ?_
  · obtain rfl : info = info' := Option.some.inj (hinfo.symm.trans hinfo')
    linarith [haccepts.2.2]
  · rw [Grant.share_resources (g := ⟨modelName, request, node⟩) hnonneg]
    split_ifs <;> ring

/-- Reserving a distributed instance moves its GPUs from the free counts to the load. -/
theorem reserve_covers {nodes : NodeTable} {load : Load} {requestedGpus : ℤ}
    {allocations : OrderedDict String ℕ} (h : Covers cluster load nodes)
    (hdivides : Divides nodes requestedGpus allocations) (primary : String) (numGpus : ℚ) :
    Covers cluster (fun node => load node + Resources.share ⟨primary, numGpus, allocations⟩ node)
      (takeAllocations nodes allocations) := by
  refine takeAllocations_covers h hdivides.fits fun node => ?_
  rw [Resources.share_distributed hdivides.nonempty]

/-- Giving the GPUs of an instance back. -/
theorem deallocateNodes_covers {nodes : NodeTable} {load load' : Load} {r : Resources}
    (h : Covers cluster load nodes) (hnonneg : 0 ≤ r.numGpus) (hpos : ∀ node, 0 ≤ load' node)
    (hload : ∀ node, load node = load' node + r.share node) :
    Covers cluster load' (deallocateNodes nodes r) := by
  unfold deallocateNodes
  split_ifs with hsingle
  · refine addFreeGpu_covers h (fun info hinfo => ?_) fun node => ?_
    · linarith [(h _ info hinfo).1]
    · rw [hload, Resources.share_single hsingle hnonneg]
      ring
  · refine returnAllocations_covers h hpos fun node => ?_
    rw [hload, Resources.share_distributed hsingle]

end Scheduler
end SpotServe
