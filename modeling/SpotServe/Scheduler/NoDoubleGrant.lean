import SpotServe.Library.Runs
import SpotServe.Scheduler.Accounting
import SpotServe.Scheduler.Interleaving

/-!
# No GPU is granted twice

A node table in some coroutine's hands is harmless as long as it covers everything that is granted
and not deallocated.  The interleaving keeps that for every table, the scheduler's own included,
when three things never happen (`Calm`):

* a refresh reads the tables while a granted instance is not registered yet;
* a grant is made while another coroutine still has a table to write;
* an instance is registered that already has an entry.

While the control loop grants from its copy the scheduler's own table lags behind; then the copy is
the one that counts (`LoopPhase.ahead`).
-/

namespace SpotServe
namespace Scheduler

open Py

variable {cluster : RayCluster}

/-- A node's GPUs by the table; an unknown node has none. -/
def totalGpu (nodes : NodeTable) (node : String) : ℚ :=
  ((nodes.get? node).map NodeInfo.totalGpu).getD 0

/-- The GPUs granted on a node and not deallocated are GPUs the node has. -/
def NoDoubleGrant (m : Machine) : Prop :=
  ∀ node, m.outstanding node ≤ totalGpu m.scheduler.workerNodes node

/-! ## Tables of the Ray nodes -/

/-- The nodes of the table are Ray nodes, with at least the GPUs that Ray reports. -/
def OfRay (cluster : RayCluster) (nodes : NodeTable) : Prop :=
  ∀ node info, nodes.get? node = some info →
    ∃ total, cluster.totals.get? node = some total ∧ total ≤ info.totalGpu

/-- All Ray nodes are in the table. -/
def Full (cluster : RayCluster) (nodes : NodeTable) : Prop :=
  ∀ node, nodes.get? node = none → cluster.totals.get? node = none

/-- Two tables of the same nodes with the same totals. -/
def SameTotals (nodes nodes' : NodeTable) : Prop :=
  ∀ node, (nodes'.get? node).map NodeInfo.totalGpu = (nodes.get? node).map NodeInfo.totalGpu

theorem OfRay.congr {nodes nodes' : NodeTable} (h : OfRay cluster nodes)
    (hsame : SameTotals nodes nodes') : OfRay cluster nodes' := by
  intro node info' hinfo'
  have htotal := hsame node
  rw [hinfo', Option.map_some] at htotal
  obtain ⟨info, hinfo, heq⟩ := Option.map_eq_some_iff.mp htotal.symm
  rw [← heq]
  exact h node info hinfo

theorem Full.congr {nodes nodes' : NodeTable} (h : Full cluster nodes)
    (hsame : SameTotals nodes nodes') : Full cluster nodes' := by
  intro node hnode
  have htotal := hsame node
  rw [hnode, Option.map_none, eq_comm, Option.map_eq_none_iff] at htotal
  exact h node htotal

theorem sameTotals_addFreeGpu (nodes : NodeTable) (node : String) (gpus : ℚ) :
    SameTotals nodes (addFreeGpu nodes node gpus) := by
  intro node'
  rw [get?_addFreeGpu, Option.map_map]
  congr 1
  funext info
  by_cases h : node = node' <;> simp [h]

theorem sameTotals_takeAllocations (nodes : NodeTable) (allocations : OrderedDict String ℕ) :
    SameTotals nodes (takeAllocations nodes allocations) := by
  intro node
  rw [takeAllocations, OrderedDict.get?_mapValues, Option.map_map]
  congr 1
  funext info
  cases allocations.get? node <;> rfl

theorem sameTotals_deallocateNodes (nodes : NodeTable) (r : Resources) :
    SameTotals nodes (deallocateNodes nodes r) := by
  unfold deallocateNodes
  split_ifs
  · exact sameTotals_addFreeGpu _ _ _
  · intro node
    rw [returnAllocations, OrderedDict.get?_mapValues, Option.map_map]
    congr 1
    funext info
    cases r.nodeAllocations.get? node <;> rfl

/-- What a table may only be: of the Ray nodes, all of them, and covering the load. -/
structure Usable (cluster : RayCluster) (load : Load) (nodes : NodeTable) : Prop where
  ofRay : OfRay cluster nodes
  full : Full cluster nodes
  covers : Covers cluster load nodes

theorem Usable.mono {load load' : Load} {nodes : NodeTable} (h : Usable cluster load nodes)
    (hle : ∀ node, load' node ≤ load node) : Usable cluster load' nodes :=
  ⟨h.ofRay, h.full, h.covers.mono hle⟩

theorem le_totalGpu_mergeBackendRuntimeMetadata (rows : List (String × ℤ)) (node : String)
    (info : NodeInfo) : info.totalGpu ≤ (mergeBackendRuntimeMetadata rows node info).totalGpu := by
  unfold mergeBackendRuntimeMetadata
  cases hmax : (reportedTotals rows node).max? with
  | none => exact le_rfl
  | some total =>
    dsimp only
    split_ifs with hless
    · have hone : (1 : ℚ) ≤ total := by exact_mod_cast reportedTotals_max_pos hmax
      show info.totalGpu ≤ (total : ℚ)
      linarith
    · exact le_rfl

theorem totalGpu_refreshRayNode (known : Option NodeInfo) (report : NodeReport) (allocated : ℚ)
    (available : Option ℚ) :
    (refreshRayNode known report allocated available).totalGpu = report.totalGpu := by
  unfold refreshRayNode applyRayAvailableCapacity
  dsimp only
  split_ifs
  · rfl
  · cases available with
    | none => rfl
    | some resource =>
      dsimp only
      split_ifs <;> rfl

/-- A refresh gives a usable table. -/
theorem refreshNodes_usable (observation : Observation cluster) {nodes : NodeTable} {load : Load}
    (hray : OfRay cluster nodes) (hfits : Fits cluster load nodes) (hon : OnNodes load nodes) :
    Usable cluster load (refreshNodes observation nodes load) where
  ofRay := by
    intro node info hinfo
    have htotal := observation.totals node
    rw [get?_refreshNodes, Option.map_eq_some_iff] at hinfo
    obtain ⟨info', hinfo', rfl⟩ := hinfo
    cases hreport : observation.workerNodes.get? node with
    | none =>
      rw [hreport] at hinfo' htotal
      obtain ⟨old, hold, -⟩ := Option.map_eq_some_iff.mp hinfo'
      obtain ⟨total, htotal', -⟩ := hray node old hold
      rw [← htotal] at htotal'
      exact absurd htotal' (by simp)
    | some report =>
      rw [hreport] at hinfo' htotal
      obtain rfl := Option.some.inj hinfo'
      refine ⟨report.totalGpu, htotal.symm, ?_⟩
      refine le_trans (le_of_eq ?_) (le_totalGpu_mergeBackendRuntimeMetadata _ _ _)
      exact (totalGpu_refreshRayNode _ _ _ _).symm
  full := by
    intro node hnode
    rw [get?_refreshNodes, Option.map_eq_none_iff] at hnode
    rw [← observation.totals node]
    cases hreport : observation.workerNodes.get? node with
    | none => rfl
    | some report => simp [hreport] at hnode
  covers := refreshNodes_covers observation hfits hon

/-- Publishing a usable copy over a table of all Ray nodes. -/
theorem updateNodes_usable {current granted : NodeTable} {load : Load}
    (hfull : Full cluster current) (h : Usable cluster load granted)
    (hray : OfRay cluster current) : Usable cluster load (updateNodes current granted) where
  ofRay := by
    intro node info hinfo
    rw [get?_updateNodes, Option.map_eq_some_iff] at hinfo
    obtain ⟨old, hold, rfl⟩ := hinfo
    cases hgranted : granted.get? node with
    | none =>
      obtain ⟨total, htotal, -⟩ := hray node old hold
      exact absurd (h.full node hgranted) (by simp [htotal])
    | some info' => exact h.ofRay node info' hgranted
  full := by
    intro node hnode
    rw [get?_updateNodes, Option.map_eq_none_iff] at hnode
    exact hfull node hnode
  covers := by
    refine updateNodes_covers h.covers fun node hnode => ?_
    by_contra hknown
    obtain ⟨old, hold⟩ := Option.ne_none_iff_exists'.mp hknown
    obtain ⟨total, htotal, -⟩ := hray node old hold
    exact absurd (h.full node hnode) (by simp [htotal])

/-! ## The invariant -/

/-- Nothing was ever granted, and no coroutine is past its refresh. -/
def Machine.Fresh (m : Machine) : Prop :=
  m.ledger = [] ∧ m.loop.ahead = false ∧ ∀ call, .reserving call ∉ m.tasks

/-- What holds between two actions. -/
structure Sound (cluster : RayCluster) (m : Machine) : Prop where
  /-- A grant that is not deallocated is either not registered yet or in the instance table. -/
  entries : m.ledger.Perm
    (m.granted.map (fun g => (g.key, g.resources)) ++ m.scheduler.modelInstance.entries)
  nonneg : ∀ entry ∈ m.ledger, 0 ≤ entry.2.numGpus
  queued : ∀ modelName queue, m.scheduler.modelLoadingQueues.get? modelName = some queue →
    ∀ request ∈ queue, 0 ≤ request.numGpus
  requests : ∀ l ∈ m.loop.requests, 0 ≤ l.request.numGpus
  within : ∀ node total, cluster.totals.get? node = some total → m.outstanding node ≤ total
  off : ∀ node, cluster.totals.get? node = none → m.outstanding node = 0
  ofRay : OfRay cluster m.scheduler.workerNodes
  started : Full cluster m.scheduler.workerNodes ∨ m.Fresh
  held : ∀ nodes ∈ m.loop.held ++ m.heldByTasks, Usable cluster m.outstanding nodes
  main : m.loop.ahead = false → Covers cluster m.outstanding m.scheduler.workerNodes

theorem Sound.outstanding_eq {m : Machine} (h : Sound cluster m) (node : String) :
    m.outstanding node =
      grantedGpuByNode m.granted node + allocatedGpuByNode m.scheduler.modelInstance node := by
  unfold Machine.outstanding grantedGpuByNode allocatedGpuByNode OrderedDict.sumBy
  rw [(h.entries.map _).sum_eq, List.map_append, List.sum_append, List.map_map]
  rfl

/-- Nothing is granted on a node the table does not have. -/
theorem Sound.onNodes {m : Machine} (h : Sound cluster m) :
    OnNodes m.outstanding m.scheduler.workerNodes := by
  intro node hnode
  rcases h.started with hfull | hfresh
  · exact h.off node (hfull node hnode)
  · simp [Machine.outstanding, hfresh.1]

theorem Sound.noDoubleGrant {m : Machine} (h : Sound cluster m) : NoDoubleGrant m := by
  intro node
  unfold totalGpu
  cases hinfo : m.scheduler.workerNodes.get? node with
  | none => exact le_of_eq (h.onNodes node hinfo)
  | some info =>
    obtain ⟨total, htotal, hle⟩ := h.ofRay node info hinfo
    exact (h.within node total htotal).trans hle

theorem Sound.init : Sound cluster {} where
  entries := List.Perm.refl _
  nonneg := by simp
  queued := by simp
  requests := by simp [LoopPhase.requests]
  within := fun node total htotal => cluster.nonneg node total htotal
  off := fun _ _ => rfl
  ofRay := by
    intro node info hinfo
    exact absurd hinfo (by simp)
  started := .inr ⟨rfl, rfl, by simp⟩
  held := by simp [LoopPhase.held, Machine.heldByTasks]
  main := by
    intro _ node info hinfo
    exact absurd hinfo (by simp)

/-! ## Reading and writing the table -/

/-- A refresh that reads when no grant waits for its registration. -/
theorem Sound.refreshed_usable {m : Machine} (h : Sound cluster m) (hgranted : m.granted = [])
    (observation : Observation cluster) :
    Usable cluster m.outstanding (m.refreshed observation) := by
  have hload : m.outstanding = allocatedGpuByNode m.scheduler.modelInstance := by
    funext node
    rw [h.outstanding_eq, hgranted]
    exact zero_add _
  have hon := h.onNodes
  have hfits : Fits cluster m.outstanding m.scheduler.workerNodes := by
    intro node info hinfo
    obtain ⟨total, htotal, hle⟩ := h.ofRay node info hinfo
    exact ⟨(h.within node total htotal).trans hle, h.within node⟩
  unfold Machine.refreshed
  rw [hload] at hfits hon ⊢
  exact refreshNodes_usable observation h.ofRay hfits hon

/-- Writing a usable table, whoever does it. -/
theorem Sound.write {m : Machine} (h : Sound cluster m) {nodes : NodeTable}
    (husable : Usable cluster m.outstanding nodes) : Sound cluster (m.write nodes) :=
  { h with
    ofRay := husable.ofRay
    started := .inl husable.full
    main := fun _ => husable.covers }

/-- A coroutine that no longer holds what it held. -/
theorem Sound.setTasks {m : Machine} (h : Sound cluster m) {tasks : List Task}
    (hheld : ∀ nodes ∈ tasks.flatMap Task.held, nodes ∈ m.heldByTasks)
    (hreserving : Full cluster m.scheduler.workerNodes ∨
      ∀ call, .reserving call ∈ tasks → .reserving call ∈ m.tasks) :
    Sound cluster { m with tasks } :=
  { h with
    started := by
      rcases h.started with hfull | ⟨hledger, hahead, hnone⟩
      · exact .inl hfull
      · rcases hreserving with hfull | hreserving
        · exact .inl hfull
        · exact .inr ⟨hledger, hahead, fun call hcall => hnone call (hreserving call hcall)⟩
    held := by
      intro nodes hnodes
      rcases List.mem_append.mp hnodes with hnodes | hnodes
      · exact h.held nodes (List.mem_append_left _ hnodes)
      · exact h.held nodes (List.mem_append_right _ (hheld nodes hnodes)) }

/-- The control loop goes on to another phase. -/
theorem Sound.setLoop {m : Machine} (h : Sound cluster m) {loop : LoopPhase}
    (hrequests : ∀ l ∈ loop.requests, 0 ≤ l.request.numGpus)
    (hheld : ∀ nodes ∈ loop.held, Usable cluster m.outstanding nodes)
    (hahead : loop.ahead = true → Full cluster m.scheduler.workerNodes)
    (hmain : loop.ahead = false → Covers cluster m.outstanding m.scheduler.workerNodes) :
    Sound cluster { m with loop } :=
  { h with
    requests := hrequests
    started := by
      rcases h.started with hfull | ⟨hledger, -, hnone⟩
      · exact .inl hfull
      · cases hphase : loop.ahead with
        | true => exact .inl (hahead hphase)
        | false => exact .inr ⟨hledger, hphase, hnone⟩
    held := by
      intro nodes hnodes
      rcases List.mem_append.mp hnodes with hnodes | hnodes
      · exact hheld nodes hnodes
      · exact h.held nodes (List.mem_append_right _ hnodes)
    main := hmain }

theorem Sound.full_of_ahead {m : Machine} (h : Sound cluster m) (hahead : m.loop.ahead = true) :
    Full cluster m.scheduler.workerNodes := by
  rcases h.started with hfull | hfresh
  · exact hfull
  · exact absurd hfresh.2.1 (by simp [hahead])

/-! ## Grants -/

/-- An entry more in the ledger. -/
theorem outstanding_append {m m' : Machine} {entry : (String × String) × Resources}
    (hledger : m'.ledger = m.ledger ++ [entry]) (node : String) :
    m'.outstanding node = m.outstanding node + entry.2.share node := by
  simp [Machine.outstanding, hledger]

/-- A table that covers the ledger bounds it. -/
theorem Usable.within {load : Load} {nodes : NodeTable} (h : Usable cluster load nodes)
    {node : String} {total : ℚ} (htotal : cluster.totals.get? node = some total) :
    load node ≤ total := by
  cases hinfo : nodes.get? node with
  | none => exact absurd (h.full node hinfo) (by simp [htotal])
  | some info => exact (h.covers.fits node info hinfo).2 total htotal

/-! ## One action -/

/-- What the coroutines must respect. -/
def Calm (ranking : Option RiskRanking) (m : Machine) : Action cluster → Prop
  | .request _ request => 0 ≤ request.numGpus
  | .register index => ∀ g ∈ m.granted[index]?, m.scheduler.modelInstance.get? g.key = none
  | .loopReads _ => m.granted = []
  | .taskReads _ _ => m.granted = []
  | .serve => m.loop.grants ranking → m.heldByTasks = []
  | .reserve index => m.loop.held ++ m.heldByTasks = [] ∧
      ∀ t ∈ m.tasks[index]?, t.New m.scheduler
  | _ => True

instance (ranking : Option RiskRanking) (m : Machine) (a : Action cluster) :
    Decidable (Calm ranking m a) := by
  cases a <;> unfold Calm <;> infer_instance

/-- A caller whose future was resolved registers its instance. -/
theorem Sound.register {m : Machine} (h : Sound cluster m) {index : ℕ} {g : Grant}
    (hg : m.granted[index]? = some g) (hnew : m.scheduler.modelInstance.get? g.key = none) :
    Sound cluster { m with
      scheduler := registerInstance m.scheduler g
      granted := m.granted.eraseIdx index } := by
  obtain ⟨hindex, hget⟩ := List.getElem?_eq_some_iff.mp hg
  have hperm : m.granted.Perm (g :: m.granted.eraseIdx index) := by
    rw [← hget]
    exact (List.perm_cons_erase (List.getElem_mem hindex)).trans
      ((List.erase_getElem hindex).cons _)
  refine { h with entries := ?_ }
  show m.ledger.Perm ((m.granted.eraseIdx index).map (fun g => (g.key, g.resources)) ++
    (m.scheduler.modelInstance.set g.key g.resources).entries)
  rw [OrderedDict.entries_set_new hnew, ← List.append_assoc]
  refine h.entries.trans (((hperm.map _).append_right _).trans ?_)
  rw [List.map_cons, List.cons_append]
  exact (List.perm_append_singleton _ _).symm

/-- The control loop grants, or does not. -/
theorem Sound.serve {m : Machine} (h : Sound cluster m) {ranking : Option RiskRanking}
    {loading : LoadingRequest} {rest : List LoadingRequest} {nodes : NodeTable}
    (hloop : m.loop = .serving (loading :: rest) nodes)
    (hcalm : m.loop.grants ranking → m.heldByTasks = []) :
    Sound cluster (m.serve ranking loading rest nodes) := by
  have husable : Usable cluster m.outstanding nodes :=
    h.held nodes (by simp [hloop, LoopPhase.held])
  have hnonneg : ∀ l ∈ loading :: rest, 0 ≤ l.request.numGpus := by
    intro l hl
    exact h.requests l (by rwa [hloop])
  have hfull : Full cluster m.scheduler.workerNodes := h.full_of_ahead (by rw [hloop]; rfl)
  unfold Machine.serve
  rcases serveRequest_cases ranking ⟨m.scheduler.modelLoadingQueues, nodes, []⟩ loading with
    heq | ⟨node, info, hchoose, hinfo, haccepts, heq⟩
  · simp only [heq, List.append_nil, List.map_nil]
    refine h.setLoop (fun l hl => hnonneg l (List.mem_cons_of_mem _ hl)) ?_ (fun _ => hfull) ?_
    · intro nodes' hnodes'
      rwa [List.mem_singleton.mp hnodes']
    · simp [LoopPhase.ahead]
  · have hnone : m.heldByTasks = [] := hcalm (by simp [hloop, LoopPhase.grants, hchoose])
    have hrequest := hnonneg loading (by simp)
    simp only [heq, List.nil_append, List.map_cons, List.map_nil]
    generalize hgrant : Grant.mk loading.modelName loading.request node = g
    have hcovers := grant_covers husable.covers hinfo haccepts hrequest loading.modelName
    rw [hgrant] at hcovers
    have hshare : ∀ node', cluster.totals.get? node' = none → g.resources.share node' = 0 := by
      intro node' hnode'
      rw [← hgrant, Grant.share_resources hrequest]
      refine if_neg ?_
      rintro rfl
      obtain ⟨total, htotal, -⟩ := husable.ofRay _ info hinfo
      exact absurd hnode' (by simp [htotal])
    have hsame := sameTotals_addFreeGpu nodes node (-loading.request.numGpus)
    have husable' : Usable cluster (fun node' => m.outstanding node' + g.resources.share node')
        (addFreeGpu nodes node (-loading.request.numGpus)) :=
      ⟨husable.ofRay.congr hsame, husable.full.congr hsame, hcovers⟩
    refine ⟨?_, ?_, forall_queued_erase h.queued _ _,
      fun l hl => hnonneg l (List.mem_cons_of_mem _ hl), ?_, ?_, h.ofRay, .inl hfull, ?_, ?_⟩
    · show (m.ledger ++ [(g.key, g.resources)]).Perm
        ((m.granted ++ [g]).map (fun g => (g.key, g.resources)) ++ m.scheduler.modelInstance.entries)
      rw [List.map_append, List.append_assoc]
      refine (h.entries.append_right _).trans ?_
      rw [List.append_assoc]
      exact List.perm_append_comm.append_left _
    · intro entry hentry
      rcases List.mem_append.mp hentry with hentry | hentry
      · exact h.nonneg entry hentry
      · rw [List.mem_singleton.mp hentry, ← hgrant]
        exact hrequest
    · intro node' total htotal
      rw [outstanding_append (m := m) rfl]
      exact husable'.within htotal
    · intro node' hnode'
      rw [outstanding_append (m := m) rfl, h.off node' hnode', hshare node' hnode', add_zero]
    · intro nodes' hnodes'
      rw [Machine.heldByTasks] at hnone
      simp only [LoopPhase.held, Machine.heldByTasks, hnone, List.append_nil,
        List.mem_singleton] at hnodes'
      rw [hnodes']
      refine husable'.mono fun node' => ?_
      rw [outstanding_append (m := m) rfl]
    · simp [LoopPhase.ahead]

theorem mem_heldByTasks_eraseIdx {m : Machine} {index : ℕ} {nodes : NodeTable}
    (h : nodes ∈ (m.tasks.eraseIdx index).flatMap Task.held) : nodes ∈ m.heldByTasks := by
  obtain ⟨t, ht, hnodes⟩ := List.mem_flatMap.mp h
  exact List.mem_flatMap.mpr ⟨t, List.mem_of_mem_eraseIdx ht, hnodes⟩

/-- A coroutine that is through. -/
theorem Sound.dropTask {m : Machine} (h : Sound cluster m) (index : ℕ) :
    Sound cluster { m with tasks := m.tasks.eraseIdx index } :=
  h.setTasks (fun _ => mem_heldByTasks_eraseIdx)
    (.inr fun _ hcall => List.mem_of_mem_eraseIdx hcall)

/-- A distributed instance is reserved, or the call raises. -/
theorem Sound.reserve {m : Machine} (h : Sound cluster m) {index : ℕ} {call : DistributedCall}
    (htask : m.tasks[index]? = some (.reserving call))
    (hnone : m.loop.held ++ m.heldByTasks = [])
    (hnew : m.scheduler.modelInstance.get? call.key = none) :
    Sound cluster (m.reserve index call) := by
  have hfull : Full cluster m.scheduler.workerNodes := by
    rcases h.started with hfull | hfresh
    · exact hfull
    · exact absurd (List.mem_of_getElem? htask) (hfresh.2.2 call)
  have hloop : m.loop.held = [] := (List.append_eq_nil_iff.mp hnone).1
  have htasks : m.heldByTasks = [] := (List.append_eq_nil_iff.mp hnone).2
  have hahead : m.loop.ahead = false := by
    cases hphase : m.loop <;> simp [hphase, LoopPhase.held] at hloop <;> rfl
  have hmain := h.main hahead
  unfold Machine.reserve reserveDistributed
  cases hallocation : distributedGpuAllocation m.scheduler.workerNodes call.targetNodeIds
      call.requestedGpus call.requireAllTargetNodes with
  | error failure => exact h.dropTask index
  | ok allocations =>
    dsimp only
    have hdivides := distributedGpuAllocation_ok hallocation
    have hsame := sameTotals_takeAllocations m.scheduler.workerNodes allocations
    generalize hr : Resources.mk (allocations.keys.headD "") call.requestedGpus allocations = r
    have hcovers := reserve_covers hmain hdivides (allocations.keys.headD "") call.requestedGpus
    rw [hr] at hcovers
    have husable : Usable cluster (fun node => m.outstanding node + r.share node)
        (takeAllocations m.scheduler.workerNodes allocations) :=
      ⟨h.ofRay.congr hsame, hfull.congr hsame, hcovers⟩
    have hshare : ∀ node, cluster.totals.get? node = none → r.share node = 0 := by
      intro node hnode
      rw [← hr, Resources.share_distributed hdivides.nonempty]
      cases hcount : allocations.get? node with
      | none => simp
      | some count =>
        obtain ⟨info, hinfo, -⟩ := hdivides.fits node count hcount
        obtain ⟨total, htotal, -⟩ := h.ofRay node info hinfo
        exact absurd hnode (by simp [htotal])
    refine ⟨?_, ?_, h.queued, h.requests, ?_, ?_, husable.ofRay, .inl husable.full, ?_, ?_⟩
    · show (m.ledger ++ [(call.key, r)]).Perm (m.granted.map (fun g => (g.key, g.resources)) ++
        (m.scheduler.modelInstance.set call.key r).entries)
      rw [OrderedDict.entries_set_new hnew, ← List.append_assoc]
      exact h.entries.append_right _
    · intro entry hentry
      rcases List.mem_append.mp hentry with hentry | hentry
      · exact h.nonneg entry hentry
      · rw [List.mem_singleton.mp hentry, ← hr]
        show (0 : ℚ) ≤ call.requestedGpus
        rw [← hdivides.sum]
        positivity
    · intro node total htotal
      rw [outstanding_append (m := m) rfl]
      exact husable.within htotal
    · intro node hnode
      rw [outstanding_append (m := m) rfl, h.off node hnode, hshare node hnode, add_zero]
    · intro nodes hnodes
      rcases List.mem_append.mp hnodes with hnodes | hnodes
      · exact absurd hnodes (by simp [hloop])
      · exact absurd (mem_heldByTasks_eraseIdx hnodes) (by simp [htasks])
    · intro _
      refine husable.covers.mono fun node => ?_
      rw [outstanding_append (m := m) rfl]

/-- An instance gives its GPUs back. -/
theorem Sound.deallocate {m : Machine} (h : Sound cluster m) (modelName instanceId : String) :
    Sound cluster (m.deallocate modelName instanceId) := by
  unfold Machine.deallocate deallocateResource
  cases hr : m.scheduler.modelInstance.get? (modelName, instanceId) with
  | none => exact h
  | some r =>
    dsimp only
    generalize hkey : (modelName, instanceId) = key at hr
    have hmem : (key, r) ∈ m.ledger := by
      refine h.entries.mem_iff.mpr (List.mem_append_right _ ?_)
      exact (OrderedDict.mem_entries_iff _).mpr hr
    have hledger : m.ledger.Perm ((key, r) :: m.ledger.erase (key, r)) := List.perm_cons_erase hmem
    have hload : ∀ node, m.outstanding node =
        ((m.ledger.erase (key, r)).map fun entry => entry.2.share node).sum + r.share node := by
      intro node
      unfold Machine.outstanding
      rw [(hledger.map _).sum_eq, List.map_cons, List.sum_cons, add_comm]
    have hless : ∀ node, ((m.ledger.erase (key, r)).map fun entry => entry.2.share node).sum ≤
        m.outstanding node := by
      intro node
      linarith [hload node, r.share_nonneg node]
    have hpos : ∀ node,
        0 ≤ ((m.ledger.erase (key, r)).map fun entry => entry.2.share node).sum := by
      intro node
      refine List.sum_nonneg fun x hx => ?_
      obtain ⟨entry, -, rfl⟩ := List.mem_map.mp hx
      exact entry.2.share_nonneg node
    have hsame := sameTotals_deallocateNodes m.scheduler.workerNodes r
    refine ⟨?_, ?_, h.queued, h.requests, ?_, ?_, h.ofRay.congr hsame, ?_, ?_, ?_⟩
    · refine List.Perm.cons_inv (a := (key, r)) (hledger.symm.trans (h.entries.trans ?_))
      refine (List.Perm.append_left _ (OrderedDict.perm_erase hr)).trans ?_
      exact List.perm_middle
    · exact fun entry hentry => h.nonneg entry (List.mem_of_mem_erase hentry)
    · exact fun node total htotal => (hless node).trans (h.within node total htotal)
    · intro node hnode
      exact le_antisymm ((hless node).trans (le_of_eq (h.off node hnode))) (hpos node)
    · rcases h.started with hfull | ⟨hempty, -, -⟩
      · exact .inl (hfull.congr hsame)
      · exact absurd hmem (by simp [hempty])
    · exact fun nodes hnodes => (h.held nodes hnodes).mono hless
    · exact fun hahead => deallocateNodes_covers (h.main hahead) (h.nonneg _ hmem) hpos hload

/-! ## Whole runs -/

/-- One action. -/
theorem Sound.step {m m' : Machine} (h : Sound cluster m) {ranking : Option RiskRanking}
    {a : Action cluster} (hcalm : Calm ranking m a) (hstep : step ranking m a = some m') :
    Sound cluster m' := by
  cases machineStep_of_step hstep with
  | requests => exact { h with queued := forall_queued_queueRequest h.queued _ hcalm }
  | registers hg => exact h.register hg (hcalm _ hg)
  | sleeps => exact h
  | collects hloop =>
    refine h.setLoop (fun l hl => ?_) (by simp [LoopPhase.held]) (by simp [LoopPhase.ahead]) ?_
    · obtain ⟨queue, hqueue, hmem⟩ := mem_loadingRequests hl
      exact h.queued _ queue hqueue _ hmem
    · exact fun _ => h.main (by rw [hloop]; rfl)
  | @reads observation requests hloop =>
    refine h.setLoop ?_ ?_ (by simp [LoopPhase.ahead]) ?_
    · exact fun l hl => h.requests l (by rwa [hloop])
    · intro nodes hnodes
      rw [List.mem_singleton.mp hnodes]
      exact h.refreshed_usable hcalm observation
    · exact fun _ => h.main (by rw [hloop]; rfl)
  | @writes requests nodes hloop =>
    have husable := h.held nodes (by simp [hloop, LoopPhase.held])
    refine (h.write husable).setLoop ?_ ?_ (fun _ => husable.full) (by simp [LoopPhase.ahead])
    · exact fun l hl => h.requests l (by rwa [hloop])
    · intro nodes' hnodes'
      rwa [List.mem_singleton.mp hnodes']
  | serves hloop => exact h.serve hloop hcalm
  | @copies nodes hloop =>
    have hfull := h.full_of_ahead (by rw [hloop]; rfl)
    have husable := h.held nodes (by simp [hloop, LoopPhase.held])
    refine h.setLoop (by simp [LoopPhase.requests]) ?_ (fun _ => hfull) (by simp [LoopPhase.ahead])
    intro nodes' hnodes'
    rw [List.mem_singleton.mp hnodes']
    exact updateNodes_usable hfull husable h.ofRay
  | @publishes nodes hloop =>
    have husable := h.held nodes (by simp [hloop, LoopPhase.held])
    exact (h.write husable).setLoop (by simp [LoopPhase.requests]) (by simp [LoopPhase.held])
      (by simp [LoopPhase.ahead]) fun _ => husable.covers
  | @taskReads observation caller =>
    refine { h with started := ?_, held := ?_ }
    · rcases h.started with hfull | ⟨hledger, hahead, hnone⟩
      · exact .inl hfull
      · exact .inr ⟨hledger, hahead, fun call => by simpa using hnone call⟩
    · intro nodes hnodes
      simp only [Machine.heldByTasks, List.flatMap_append, ← List.append_assoc] at hnodes
      rcases List.mem_append.mp hnodes with hnodes | hnodes
      · exact h.held nodes hnodes
      · obtain rfl : nodes = m.refreshed observation := by simpa [Task.held] using hnodes
        exact h.refreshed_usable hcalm observation
  | @taskEnds index nodes htask =>
    have hheld : nodes ∈ m.heldByTasks :=
      List.mem_flatMap.mpr ⟨_, List.mem_of_getElem? htask, by simp [Task.held]⟩
    exact (h.write (h.held nodes (List.mem_append_right _ hheld))).dropTask index
  | @taskGoesOn index nodes call htask =>
    have hheld : nodes ∈ m.heldByTasks :=
      List.mem_flatMap.mpr ⟨_, List.mem_of_getElem? htask, by simp [Task.held]⟩
    have husable := h.held nodes (List.mem_append_right _ hheld)
    refine (h.write husable).setTasks ?_ (.inl husable.full)
    intro nodes' hnodes'
    obtain ⟨t, ht, hnodes'⟩ := List.mem_flatMap.mp hnodes'
    rcases List.mem_or_eq_of_mem_set ht with ht | rfl
    · exact List.mem_flatMap.mpr ⟨t, ht, hnodes'⟩
    · exact absurd hnodes' (by simp [Task.held])
  | reserves htask => exact h.reserve htask hcalm.1 (hcalm.2 _ htask)
  | deallocates => exact h.deallocate _ _

/-- The states of the interleavings that start with empty tables. -/
def Interleaved (cluster : RayCluster) (ranking : Option RiskRanking)
    (allowed : Machine → Action cluster → Prop) : Machine → Prop :=
  Runs.Reachable (· = {}) (fun m a m' => step ranking m a = some m') allowed

/-- **No double grant.**  In every interleaving of calm actions, at every moment, what is granted
on a node and not deallocated is at most what the node has. -/
theorem noDoubleGrant_of_interleaved {ranking : Option RiskRanking} {m : Machine}
    (h : Interleaved cluster ranking (Calm ranking) m) : NoDoubleGrant m := by
  have hsound : Sound cluster m := by
    refine Runs.Reachable.invariant _ ?_ ?_ h
    · rintro _ rfl
      exact Sound.init
    · intro m a m' hinv hcalm hstep
      exact hinv.step hcalm hstep
  exact hsound.noDoubleGrant

/-- A node with one GPU. -/
def oneNode : RayCluster where
  totals := ⟨[("A", 1)], by decide⟩
  nonneg := by
    intro node total h
    have hmem := (OrderedDict.mem_entries_iff _).mpr h
    obtain ⟨-, rfl⟩ := Prod.mk.inj (List.mem_singleton.mp hmem)
    norm_num

/-- What Ray reports while no actor runs on the node. -/
def oneNodeIdle : Observation oneNode where
  workerNodes := ⟨[("A", ⟨1, 1⟩)], by decide⟩
  availableResources := ⟨[("A", 1)], by decide⟩
  runtimeMetadata := []
  totals := by
    intro node
    show (OrderedDict.getEntry _ _).map _ = OrderedDict.getEntry _ _
    simp only [oneNode, OrderedDict.getEntry]
    split_ifs <;> rfl

/-- A request for the GPU of the node, up to its grant. -/
def grantTheGpu : List (Action oneNode) :=
  [.request "m" ⟨0, "i", 1, 0, none⟩, .collect, .loopReads oneNodeIdle, .loopWrites, .serve]

/-- The grant, its registration, and a refresh that reads after it. -/
def readRegistered : List (Action oneNode) :=
  grantTheGpu ++ [.register 0, .taskReads oneNodeIdle none, .copyTable]

theorem noDoubleGrant_after_registration :
    ∃ m, Runs.attempt (step none) (Calm none) readRegistered {} = some m ∧
      m.outstanding "A" = 1 ∧ NoDoubleGrant m := by
  have hrun : (Runs.attempt (step none) (Calm none) readRegistered {}).map
      (Machine.outstanding · "A") = some 1 := by
    decide +kernel
  obtain ⟨m, hm, hone⟩ := Option.map_eq_some_iff.mp hrun
  have hreachable : Interleaved oneNode none (Calm none) m := .attempt (.start rfl) hm
  exact ⟨m, hm, hone, noDoubleGrant_of_interleaved hreachable⟩

/-- The grant, and a distributed instance whose refresh reads before the registration. -/
def readUnregistered : List (Action oneNode) :=
  grantTheGpu ++ [.copyTable, .publishTable, .taskReads oneNodeIdle (some ⟨"m", "j", 1, ["A"], true⟩),
    .taskWrites 0, .reserve 0]

/-- The refresh does not see the grant, and the GPU is granted again. -/
theorem not_noDoubleGrant_unregistered :
    ¬ ∀ m, Interleaved oneNode none (fun _ _ => True) m → NoDoubleGrant m := by
  intro h
  have hrun : (Runs.attempt (step none) (fun _ _ => True) readUnregistered {}).map
      (fun m => (m.outstanding "A", totalGpu m.scheduler.workerNodes "A")) = some (2, 1) := by
    decide +kernel
  obtain ⟨m, hm, hpair⟩ := Option.map_eq_some_iff.mp hrun
  obtain ⟨htwo, hone⟩ := Prod.mk.inj hpair
  have hreachable : Interleaved oneNode none (fun _ _ => True) m := .attempt (.start rfl) hm
  have hle := h m hreachable "A"
  rw [htwo, hone] at hle
  exact absurd hle (by norm_num)

end Scheduler
end SpotServe
