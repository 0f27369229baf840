import SpotServe.Reparallelization.ActiveDeployment
import SpotServe.Reparallelization.BringUp
import SpotServe.Reparallelization.ReplicaPlacement

/-!
# A plan that is read back

A decision that selects the plan being served should change nothing, so the deployment that
`snapshot` reads back must match the plan it was built for.  The sizes come back from the
configuration.  What is counted comes back from the handles: every handle has the GPUs of one
replica, and names its node once.

So a plan with GPUs left over does not match, nor does one that has fewer nodes than replicas, or
more, unless one replica spans them.  An expert placement that is missing is not written into the
configuration, where the placement of an earlier plan may still stand.  A plan is recognised
exactly when none of this happens (`ComesBack`, `plansMatch_snapshot_iff`).
-/

namespace SpotServe
namespace Reparallelization

open Py Cluster Router Runs Coroutine

/-! ## The configuration -/

section Config

variable {config : BackendConfig} {key : String} {value : Value} {items : List (String × Value)}

theorem get?_setAll_of_not_mem (h : key ∉ items.map Prod.fst) :
    (setAll config items).get? key = config.get? key := by
  induction items generalizing config with
  | nil => rfl
  | cons item items ih =>
    rw [List.map_cons, List.mem_cons, not_or] at h
    exact (ih h.2).trans (OrderedDict.get?_set_of_ne _ _ (Ne.symm h.1))

theorem get?_setAll_of_mem (hnodup : (items.map Prod.fst).Nodup) (hmem : (key, value) ∈ items) :
    (setAll config items).get? key = some value := by
  induction items generalizing config with
  | nil => exact absurd hmem (by simp)
  | cons item items ih =>
    rw [List.map_cons, List.nodup_cons] at hnodup
    rcases List.mem_cons.mp hmem with rfl | hmem
    · exact (get?_setAll_of_not_mem hnodup.1).trans (OrderedDict.get?_set_self _ _ _)
    · exact ih hnodup.2 hmem

variable (plan : ParallelPlan Dict) (placement : Dict) (placementEpoch : ℕ)

theorem nodup_planItems : ((planItems plan).map Prod.fst).Nodup := by
  unfold planItems
  split_ifs <;> simp

/-- The keys that `snapshot` reads. -/
def snapshotKeys : List String :=
  ["tensor_parallel_size", "data_parallel_size", "pipeline_parallel_size",
    "enable_expert_parallel", "placement_epoch", "expert_placement_plan"]

theorem not_mem_placementItems (hkey : key ∈ snapshotKeys) :
    key ∉ (placementItems placement placementEpoch).map Prod.fst := by
  simp only [snapshotKeys, List.mem_cons, List.not_mem_nil, or_false] at hkey
  simp only [placementItems, List.map_append, List.mem_append, not_or]
  rcases hkey with rfl | rfl | rfl | rfl | rfl | rfl
  all_goals
    refine ⟨⟨⟨by simp, ?_⟩, by simp⟩, ?_⟩
    · split_ifs <;> simp
    · split <;> simp

theorem not_mem_planItems : "expert_placement_plan" ∉ (planItems plan).map Prod.fst := by
  unfold planItems
  split_ifs <;> simp

variable {plan}

theorem get?_planBackendConfig (hitem : (key, value) ∈ planItems plan)
    (hkey : key ∈ snapshotKeys) : (planBackendConfig config plan).get? key = some value := by
  have hne : "expert_placement_plan" ≠ key := by
    rintro rfl
    exact not_mem_planItems plan (List.mem_map_of_mem hitem)
  have hget : (setAll config (planItems plan)).get? key = some value :=
    get?_setAll_of_mem (nodup_planItems plan) hitem
  unfold planBackendConfig
  dsimp only
  split
  · exact hget
  · exact hget
  · rw [get?_setAll_of_not_mem (not_mem_placementItems _ _ hkey),
      OrderedDict.get?_set_of_ne _ _ hne, hget]

/-- The plan has experts to place. -/
def Places (plan : ParallelPlan Dict) : Prop :=
  plan.expertPlacementPlan ≠ none ∧ plan.expertPlacementPlan ≠ some []

instance : Decidable (Places plan) := inferInstanceAs (Decidable (_ ∧ _))

/-- The placement that a configuration holds afterwards: that of the plan, or what stood there
before. -/
theorem configPlacement_planBackendConfig : configPlacement (planBackendConfig config plan) =
    if Places plan then plan.expertPlacementPlan else configPlacement config := by
  have hold : (setAll config (planItems plan)).get? "expert_placement_plan" =
      config.get? "expert_placement_plan" := get?_setAll_of_not_mem (not_mem_planItems plan)
  unfold planBackendConfig
  dsimp only
  split
  case h_1 hnone => rw [if_neg fun h => h.1 hnone, configPlacement, hold, configPlacement]
  case h_2 hempty => rw [if_neg fun h => h.2 hempty, configPlacement, hold, configPlacement]
  case h_3 placement hne hplacement =>
    have hplaces : Places plan := by
      rw [Places, hplacement]
      exact ⟨by simp, fun h => hne (Option.some.inj h)⟩
    rw [if_pos hplaces, hplacement, configPlacement,
      get?_setAll_of_not_mem (not_mem_placementItems _ _ (by simp [snapshotKeys])),
      OrderedDict.get?_set_self]

variable (outside : Outside) (adapter : ConfiguredAdapter)

/-- The reservation of a single replica is all that is added. -/
theorem get?_deployedConfig (hkey : key ∈ snapshotKeys) :
    (deployedConfig outside adapter plan).get? key =
      (planBackendConfig adapter.backendConfig plan).get? key := by
  have hreservation : ∀ reservation, key ∉ (reservationItems reservation).map Prod.fst := by
    intro reservation
    simp only [snapshotKeys, List.mem_cons, List.not_mem_nil, or_false] at hkey
    rcases hkey with rfl | rfl | rfl | rfl | rfl | rfl
    all_goals simp [reservationItems]
  unfold deployedConfig
  dsimp only
  split_ifs
  · split
    · exact get?_setAll_of_not_mem (hreservation _)
    · rfl
  · rfl

end Config

/-! ## The handles -/

section Handles

variable {π : Type} (outside : Outside) (adapter : VllmDeploymentAdapter) (plan : ParallelPlan π)

/-- The nodes that the scheduler grants a replica. -/
def grantedNodes (replica : ℕ) : List String :=
  if distributedAllocation adapter plan then
    (reservationOf outside replica).elim [] fun reservation =>
      (reservation.allocatedNodes ++ [reservation.startupNode]).eraseDups
  else (outside.allocateResource replica).toOption.toList

/-- A handle has the GPUs of a replica and the nodes that were granted to it. -/
def OfReplica (replica : ℕ) (h : InstanceHandle) : Prop :=
  h.numGpu = gpusPerReplica plan ∧ h.workerNodeIds = grantedNodes outside adapter plan replica

variable {outside adapter plan} {w w' : World π} {replicaGpus replica : ℕ}

theorem of_call_ok {α : Type} {r : Except String α} {a : α} (h : call r w = .ok a w') :
    r = .ok a ∧ w' = w := by
  obtain ⟨hmap, rfl⟩ := of_answer_ok h
  cases r with
  | error e => exact absurd hmap (by simp [Except.mapError])
  | ok a' => exact ⟨congrArg Except.ok (Except.ok.inj hmap), rfl⟩

/-- What was reserved is what was granted. -/
theorem reserve_grants {reservation : Reservation}
    (h : reserve outside adapter plan replicaGpus replica w = .ok reservation w') :
    (reservation.allocatedNodes ++ [reservation.startupNode]).eraseDups =
      grantedNodes outside adapter plan replica := by
  unfold reserve at h
  unfold grantedNodes reservationOf
  split_ifs at h ⊢ with hdistributed
  · cases hallocate : outside.allocateDistributedResource with
    | none =>
      rw [hallocate] at h
      exact absurd h (by simp [run_throw])
    | some allocate =>
      rw [hallocate] at h
      obtain ⟨result, w₁, hcall, hrest⟩ := of_run_bind_ok h
      obtain ⟨-, w₂, -, hanswer⟩ := of_run_bind_ok hrest
      have hresult := (of_call_ok hcall).1
      cases result with
      | none => exact absurd hanswer (by simp [run_throw])
      | some allocation =>
        have hreservation := (of_answer_ok hanswer).1
        simp [hresult, hreservation, Except.toOption]
  · obtain ⟨node, w₁, hcall, hrest⟩ := of_run_bind_ok h
    obtain ⟨-, w₂, -, hanswer⟩ := of_run_bind_ok hrest
    have hnode := (of_call_ok hcall).1
    obtain ⟨rfl, -⟩ := EStateM.Result.ok.inj hanswer
    simp [hnode, Except.toOption, List.eraseDups_cons]

/-- Starting the actor leaves GPUs and nodes of the handle as they are. -/
theorem startActor_handle {ref : ℕ} {reservation : Reservation} {handle : InstanceHandle}
    (hget : w.heap[ref]? = some handle) (hnode : handle.nodeId = some reservation.startupNode)
    (h : startActor outside ref replica reservation w = .ok () w') :
    ∃ handle', w'.heap[ref]? = some handle' ∧ handle'.numGpu = handle.numGpu ∧
      handle'.workerNodeIds = handle.workerNodeIds := by
  unfold startActor at h
  obtain ⟨actor, w₁, hstart, hrest⟩ := of_run_bind_ok h
  obtain ⟨_, w₂, hset, hrest⟩ := of_run_bind_ok hrest
  obtain ⟨_, w₃, hinit, hready⟩ := of_run_bind_ok hrest
  obtain rfl := (of_call_ok hstart).2
  obtain rfl := (EStateM.Result.ok.inj hset).2
  obtain rfl := (of_call_ok hinit).2
  obtain rfl := (EStateM.Result.ok.inj hready).2
  refine ⟨(InstanceHandle.markReady { handle with backendInstance := some actor }
    (some reservation.startupNode)).2, ?_, ?_, ?_⟩
  · show (List.modify (List.modify w₁.heap ref _) ref _)[ref]? = _
    rw [List.getElem?_modify_eq, List.getElem?_modify_eq, hget]
    rfl
  · exact InstanceHandle.markReady_numGpu _ _
  · exact InstanceHandle.markReady_workerNodeIds hnode

variable (outside adapter plan) in
/-- One turn of the loop files a handle of its replica. -/
theorem startReplica_files {deployment deployment' : VllmDeployment π}
    (hgpus : replicaGpuCount plan = .ok replicaGpus)
    (h : startReplica outside adapter plan replicaGpus deployment replica w = .ok deployment' w') :
    ∃ ref handle,
      deployment'.instances = deployment.instances.set (outside.instanceId replica) ref ∧
        SameBelow w.heap.length w w' ∧ w'.heap[ref]? = some handle ∧
          OfReplica outside adapter plan replica handle := by
  have hreplicaGpus : replicaGpus = gpusPerReplica plan := by
    unfold replicaGpuCount at hgpus
    dsimp only at hgpus
    split_ifs at hgpus
    exact (Except.ok.inj hgpus).symm
  unfold startReplica at h
  split at h
  case h_1 => exact absurd h (by simp)
  case h_2 reservation w₁ hrun =>
    obtain ⟨_, w₀, hcheck, hreserve⟩ := of_run_bind_ok hrun
    obtain rfl := (of_answer_ok hcheck).2
    have hkeep := keeps_reserve outside adapter w₀.heap.length plan replicaGpus replica w₀ le_rfl
    rw [hreserve] at hkeep
    dsimp only [newHandle] at h
    generalize hw₂ : ({ w₁ with heap := w₁.heap ++ [startingHandle outside adapter
      replicaGpus replica reservation] } : World π) = w₂ at h
    have hnew : SameBelow w₁.heap.length w₁ w₂ := by
      rw [← hw₂]
      exact keeps_newHandle w₁.heap.length _ w₁ le_rfl
    have hget : w₂.heap[w₁.heap.length]? =
        some (startingHandle outside adapter replicaGpus replica reservation) := by
      rw [← hw₂]
      exact List.getElem?_concat_length
    split at h
    case h_1 => exact absurd h (by simp)
    case h_2 w₃ hactor =>
      obtain ⟨rfl, rfl⟩ := EStateM.Result.ok.inj h
      have hact := keeps_startActor outside (le_refl w₁.heap.length) replica reservation w₂
        hnew.length
      rw [hactor] at hact
      obtain ⟨handle, hhandle, hgpu, hnodes⟩ := startActor_handle hget rfl hactor
      refine ⟨w₁.heap.length, handle, rfl, hkeep.trans ((hnew.trans hact).mono hkeep.length),
        hhandle, ?_, ?_⟩
      · rw [hgpu, ← hreplicaGpus]
        rfl
      · rw [hnodes]
        exact reserve_grants hreserve

variable (outside adapter plan) in
/-- An entry of a deployment is a handle of a replica, under the id drawn for it. -/
def Filed (w : World π) (replica : ℕ) (entry : String × ℕ) : Prop :=
  entry.1 = outside.instanceId replica ∧
    ∃ handle, w.heap[entry.2]? = some handle ∧ OfReplica outside adapter plan replica handle

theorem Filed.frame {entry : String × ℕ} (h : Filed outside adapter plan w replica entry)
    (hsame : SameBelow w.heap.length w w') : Filed outside adapter plan w' replica entry := by
  obtain ⟨hid, handle, hget, hreplica⟩ := h
  exact ⟨hid, handle, (hsame.heap _ (List.getElem?_eq_some_iff.mp hget).1).trans hget, hreplica⟩

theorem keys_of_filed {done : List ℕ} {instances : OrderedDict String ℕ}
    (h : List.Forall₂ (Filed outside adapter plan w) done instances.entries) :
    instances.keys = done.map outside.instanceId := by
  unfold OrderedDict.keys
  generalize instances.entries = entries at h
  induction h with
  | nil => rfl
  | cons hentry _ ih => rw [List.map_cons, List.map_cons, hentry.1, ih]

/-- **The replica loop**, with ids drawn once each, files the replicas in their order. -/
theorem replicaLoop_files (hgpus : replicaGpuCount plan = .ok replicaGpus) {todo : List ℕ}
    (done : List ℕ)
    {deployment deployment' : VllmDeployment π}
    (hnodup : ((done ++ todo).map outside.instanceId).Nodup)
    (hfiled : List.Forall₂ (Filed outside adapter plan w) done deployment.instances.entries)
    (h : todo.foldlM (startReplica outside adapter plan replicaGpus) deployment w =
      .ok deployment' w') :
    List.Forall₂ (Filed outside adapter plan w') (done ++ todo) deployment'.instances.entries := by
  induction todo generalizing done deployment w with
  | nil =>
    obtain ⟨rfl, rfl⟩ := EStateM.Result.ok.inj h
    rw [List.append_nil]
    exact hfiled
  | cons replica rest ih =>
    rw [List.foldlM_cons] at h
    obtain ⟨deployment₁, w₁, hturn, hrest⟩ := of_run_bind_ok h
    obtain ⟨ref, handle, hset, hsame, hget, hreplica⟩ :=
      startReplica_files outside adapter plan hgpus hturn
    have hnew : deployment.instances.get? (outside.instanceId replica) = none := by
      rw [OrderedDict.get?_eq_none_iff, keys_of_filed hfiled]
      rw [List.map_append, List.map_cons] at hnodup
      exact fun hmem => (List.nodup_append.mp hnodup).2.2 _ hmem _ List.mem_cons_self rfl
    rw [← List.singleton_append, ← List.append_assoc] at hnodup ⊢
    refine ih _ hnodup ?_ hrest
    rw [hset, OrderedDict.entries_set_new hnew]
    exact List.rel_append (hfiled.imp fun _ _ hentry => hentry.frame hsame)
      (.cons ⟨rfl, handle, hget, hreplica⟩ .nil)

/-- What `create_workers` returns is what its replica loop ended with. -/
theorem of_createWorkers_ok {target : VllmDeployment π}
    (h : createWorkers outside adapter plan w = .ok target w') :
    ∃ replicaGpus, replicaGpuCount plan = .ok replicaGpus ∧
      (List.range (replicas plan)).foldlM (startReplica outside adapter plan replicaGpus)
        { plan, resourceRequirements := ⟨adapter.numCpus.toNat, replicaGpus⟩ } w =
          .ok target w' := by
  have hspec := createWorkers_spec outside adapter plan w
  rw [h] at hspec
  obtain ⟨⟨hbackend, hmodel, ⟨replicaGpus, hgpus⟩, -⟩, -, -⟩ := hspec
  simp only [createWorkers, hbackend, hmodel, ne_eq, not_true_eq_false, if_false, run_bind,
    run_pure, answer, hgpus] at h
  refine ⟨replicaGpus, hgpus, ?_⟩
  unfold startReplicas at h
  dsimp only at h
  split at h
  case h_1 hloop =>
    obtain ⟨rfl, rfl⟩ := EStateM.Result.ok.inj h
    exact hloop
  case h_2 deployment e w₁ hloop =>
    obtain ⟨e', hfail⟩ := run_onFailure_error
      (run_throw e w₁ : (throw e : Effect π (VllmDeployment π)) w₁ = .error e w₁)
      (stopWorkers outside deployment)
    rw [hfail] at h
    exact absurd h (by simp)

/-- What `create_workers` returns, when the ids are drawn once each. -/
theorem createWorkers_files {target : VllmDeployment π}
    (hnodup : (plannedIds outside plan).Nodup)
    (h : createWorkers outside adapter plan w = .ok target w') :
    List.Forall₂ (Filed outside adapter plan w') (List.range (replicas plan))
      target.instances.entries := by
  obtain ⟨replicaGpus, hgpus, hloop⟩ := of_createWorkers_ok h
  exact replicaLoop_files hgpus [] hnodup .nil hloop

/-- Ids that are drawn twice leave fewer instances than replicas. -/
theorem length_lt_of_not_nodup {target : VllmDeployment π} {n : ℕ}
    (hup : Up n plan target w (plannedIds outside plan))
    (hnodup : ¬ (plannedIds outside plan).Nodup) :
    target.instances.entries.length < replicas plan := by
  have hkeys : target.instances.keys.length = target.instances.entries.length := List.length_map _
  have hids : (plannedIds outside plan).length = replicas plan := by
    rw [plannedIds, List.length_map, List.length_range]
  have hsub : target.instances.keys.Subperm (plannedIds outside plan) :=
    target.instances.nodup.subperm fun id hid => (hup.listed id).mp hid
  by_contra hge
  have hperm := hsub.perm_of_length_le (by omega)
  exact hnodup (hperm.nodup_iff.mp target.instances.nodup)

/-- The handles of what was filed, replica by replica. -/
theorem handlesOf_filed {done : List ℕ} {instances : OrderedDict String ℕ}
    (h : List.Forall₂ (Filed outside adapter plan w) done instances.entries) :
    List.Forall₂ (OfReplica outside adapter plan) done (handlesOf w.heap instances) := by
  unfold handlesOf OrderedDict.values
  generalize instances.entries = entries at h
  induction h with
  | nil => exact .nil
  | cons hentry _ ih =>
    obtain ⟨-, handle, hget, hreplica⟩ := hentry
    rw [List.map_cons, List.filterMap_cons, hget]
    exact .cons hreplica ih

theorem nodes_ofReplica {done : List ℕ} {handles : List InstanceHandle}
    (h : List.Forall₂ (OfReplica outside adapter plan) done handles) :
    handles.flatMap InstanceHandle.workerNodeIds =
      done.flatMap (grantedNodes outside adapter plan) := by
  induction h with
  | nil => rfl
  | cons hreplica _ ih => rw [List.flatMap_cons, List.flatMap_cons, hreplica.2, ih]

theorem gpus_ofReplica {done : List ℕ} {handles : List InstanceHandle}
    (h : List.Forall₂ (OfReplica outside adapter plan) done handles) :
    (handles.map InstanceHandle.numGpu).sum = (done.length * gpusPerReplica plan : ℕ) := by
  induction h with
  | nil => simp
  | cons hreplica _ ih =>
    rw [List.map_cons, List.sum_cons, ih, hreplica.1, List.length_cons]
    push_cast
    ring

end Handles

/-! ## Reading the plan back -/

section Recognised

theorem sortedNodes_eq_iff {left right : List String} :
    sortedNodes left = sortedNodes right ↔ left.Perm right := by
  constructor
  · intro h
    have hperm := List.perm_insertionSort (· ≤ ·) left
    rw [show left.insertionSort (· ≤ ·) = _ from h] at hperm
    exact hperm.symm.trans (List.perm_insertionSort (· ≤ ·) right)
  · intro h
    have hperm := (List.perm_insertionSort (· ≤ ·) left).trans
      (h.trans (List.perm_insertionSort (· ≤ ·) right).symm)
    exact hperm.eq_of_sortedLE List.sortedLE_insertionSort List.sortedLE_insertionSort

theorem intOr_int {n default : ℤ} (h : n ≠ 0 ∨ default = 0) :
    intOr (some (.int n)) default = .ok n := by
  by_cases hn : n = 0
  · rw [h.resolve_left (not_not.mpr hn), hn]
    rfl
  · rw [intOr, if_pos (show Value.truthy (.int n) = true from decide_eq_true hn)]
    rfl

variable {plan : ParallelPlan Dict} {adapter : ConfiguredAdapter}

/-- The sizes come back as the plan had them, the rest from the handles. -/
theorem snapshot_spec (heap : List InstanceHandle) (instances : OrderedDict String ℕ)
    (hconfig : ∀ key value, (key, value) ∈ planItems plan → key ∈ snapshotKeys →
      adapter.backendConfig.get? key = some value) :
    ∃ active, snapshot heap adapter instances = .ok active ∧
      active.plan.modelName = adapter.modelName ∧ active.plan.backend = "vllm" ∧
      active.plan.tensorParallelSize = plan.tensorParallelSize ∧
      active.plan.pipelineParallelSize = plan.pipelineParallelSize ∧
      active.plan.dataParallelSize = plan.dataParallelSize ∧
      active.plan.enableExpertParallel = plan.enableExpertParallel ∧
      active.plan.replicaCount = max 1 instances.entries.length ∧
      active.plan.numGpus =
        (max 1 ((handlesOf heap instances).map InstanceHandle.numGpu).sum).toNat ∧
      active.plan.targetNodes = nodesOf heap instances ∧
      active.plan.expertPlacementPlan = configPlacement adapter.backendConfig := by
  have htensor : adapter.backendConfig.get? "tensor_parallel_size" =
      some (.int plan.tensorParallelSize) :=
    hconfig _ _ (by simp [planItems]) (by simp [snapshotKeys])
  have hdata : adapter.backendConfig.get? "data_parallel_size" =
      some (.int plan.dataParallelSize) :=
    hconfig _ _ (by simp [planItems]) (by simp [snapshotKeys])
  have hpipeline : adapter.backendConfig.get? "pipeline_parallel_size" =
      some (.int plan.pipelineParallelSize) :=
    hconfig _ _ (by simp [planItems]) (by simp [snapshotKeys])
  have hexpert : adapter.backendConfig.get? "enable_expert_parallel" =
      some (.bool plan.enableExpertParallel) :=
    hconfig _ _ (by simp [planItems]) (by simp [snapshotKeys])
  have hepoch : adapter.backendConfig.get? "placement_epoch" = some (.int plan.placementEpoch) :=
    hconfig _ _ (by simp [planItems]) (by simp [snapshotKeys])
  have := plan.tensorParallelSize_pos
  have := plan.dataParallelSize_pos
  have := plan.pipelineParallelSize_pos
  unfold snapshot
  simp only [htensor, hdata, hpipeline, hepoch, configFlag, hexpert, intOr_int (.inr rfl),
    intOr_int (.inl (show (plan.tensorParallelSize : ℤ) ≠ 0 by omega)),
    intOr_int (.inl (show (plan.dataParallelSize : ℤ) ≠ 0 by omega)),
    intOr_int (.inl (show (plan.pipelineParallelSize : ℤ) ≠ 0 by omega))]
  refine ⟨_, rfl, rfl, rfl, ?_, ?_, ?_, rfl, rfl, rfl, rfl, rfl⟩
  all_goals
    dsimp only
    omega

/-- The fingerprints decide unless both plans have none. -/
theorem parallelPlansMatch_iff {left right : ParallelPlan Dict} :
    parallelPlansMatch left right = true ↔
      placementFingerprint left.expertPlacementPlan =
        placementFingerprint right.expertPlacementPlan ∧
      parallelShapesMatch left right = true := by
  unfold parallelPlansMatch
  dsimp only
  by_cases heq : placementFingerprint left.expertPlacementPlan =
      placementFingerprint right.expertPlacementPlan
  · simp [heq]
  · have hsome : placementFingerprint left.expertPlacementPlan ≠ "" ∨
        placementFingerprint right.expertPlacementPlan ≠ "" := by
      by_contra hnone
      rw [not_or, not_not, not_not] at hnone
      exact heq (hnone.1.trans hnone.2.symm)
    simp [heq, hsome]

end Recognised

section Nodes

variable {π : Type} (outside : Outside) (adapter : VllmDeploymentAdapter) (plan : ParallelPlan π)

/-- The scheduler grants a replica the node that it asks for. -/
def GrantsTargets : Prop :=
  distributedAllocation adapter plan = false → ∀ replica < plan.replicaCount, ∀ node target,
    outside.allocateResource replica = .ok node → targetNodeId plan replica = some target →
      node = target

/-- The nodes come back: replicas on a node of their own are as many as the nodes, and replicas that
are spread over nodes have been given, all together, the nodes of the plan. -/
def NodesComeBack : Prop :=
  if distributedAllocation adapter plan then
    ((List.range plan.replicaCount).flatMap (grantedNodes outside adapter plan)).Perm
      plan.targetNodes
  else plan.replicaCount = plan.targetNodes.length

variable {outside adapter plan}

theorem replicas_eq : replicas plan = plan.replicaCount := max_eq_left plan.replicaCount_pos

/-- On one node each, the granted nodes are the target nodes in turn. -/
theorem nodesComeBack_iff (hgrants : GrantsTargets outside adapter plan)
    (hcreates : Creates outside adapter plan) :
    ((List.range plan.replicaCount).flatMap (grantedNodes outside adapter plan)).Perm
      plan.targetNodes ↔ NodesComeBack outside adapter plan := by
  unfold NodesComeBack
  by_cases hdistributed : distributedAllocation adapter plan = true
  · rw [if_pos hdistributed]
  rw [if_neg hdistributed]
  have hnode : ∀ replica < plan.replicaCount, ∃ node,
      outside.allocateResource replica = .ok node ∧
        grantedNodes outside adapter plan replica = [node] := by
    intro replica hlt
    have hreserves := (hcreates.starts replica (replicas_eq.symm ▸ hlt)).reserves
    rw [Reserves, if_neg hdistributed] at hreserves
    obtain ⟨node, hnode⟩ := hreserves
    refine ⟨node, hnode, ?_⟩
    rw [grantedNodes, if_neg hdistributed, hnode]
    rfl
  have hgranted : ∀ replica ∈ List.range plan.replicaCount,
      grantedNodes outside adapter plan replica =
        [(grantedNodes outside adapter plan replica).headD ""] := by
    intro replica hmem
    obtain ⟨node, -, hgranted⟩ := hnode replica (List.mem_range.mp hmem)
    rw [hgranted]
    rfl
  rw [List.flatMap_congr hgranted, ← List.map_eq_flatMap]
  constructor
  · intro hperm
    simpa using hperm.length_eq
  · intro hcount
    refine List.Perm.of_eq (List.ext_getElem (by simpa using hcount) fun replica hi hlt => ?_)
    obtain ⟨node, hallocate, hgranted⟩ := hnode replica (hcount ▸ hlt)
    have htarget : targetNodeId plan replica = some plan.targetNodes[replica] := by
      rw [targetNodeId, Nat.mod_eq_of_lt hlt, List.getElem?_eq_getElem hlt]
    rw [List.getElem_map, List.getElem_range, hgranted]
    exact hgrants (Bool.eq_false_iff.mpr hdistributed) replica (hcount ▸ hlt) node _ hallocate
      htarget

end Nodes

section Recognised

variable {outside : Outside} {plan : ParallelPlan Dict} {router router' : ActiveRouter}
  {w w' : World Dict} {target : ConfiguredDeployment} {workers : Option WorkerNodes}

/-- When the plan of a deployment is recognised: the ids drawn for its instances differ, no GPU is
left over, the nodes come back, and a plan that places no experts finds no other placement in the
configuration. -/
structure ComesBack (outside : Outside) (adapter : ConfiguredAdapter) (plan : ParallelPlan Dict) :
    Prop where
  ids : (plannedIds outside plan).Nodup
  gpus : plan.numGpus = plan.replicaCount * gpusPerReplica plan
  nodes : NodesComeBack outside adapter.toAdapter plan
  placement : ¬ Places plan → placementFingerprint (configPlacement adapter.backendConfig) =
    placementFingerprint plan.expertPlacementPlan

theorem of_createConfigured_ok
    (h : createConfigured outside router.adapter plan w = .ok target w') :
    createWorkers outside router.adapter.toAdapter plan w = .ok target.toVllmDeployment w' ∧
      target.backendConfig = deployedConfig outside router.adapter plan := by
  obtain ⟨deployment, w₁, hcreate, hreturn⟩ := of_run_bind_ok h
  obtain ⟨rfl, rfl⟩ := EStateM.Result.ok.inj hreturn
  exact ⟨hcreate, rfl⟩

theorem of_switch_ok {heap : List InstanceHandle}
    (h : switchVllmDeployment workers heap router target plan = .ok router') :
    router'.pools.readyInferenceInstances = target.instances ∧
      router'.adapter.modelName = router.adapter.modelName ∧
      router'.adapter.backendConfig = target.backendConfig := by
  obtain ⟨-, h⟩ := of_require_bind h
  obtain ⟨_, -, h⟩ := of_bind_ok h
  obtain rfl := Except.ok.inj h
  exact ⟨rfl, rfl, rfl⟩

/-- What is left to compare: instances, GPUs and nodes, and the placement. -/
theorem match_iff (hcreate : createConfigured outside router.adapter plan w = .ok target w')
    (hswitch : switchVllmDeployment workers w'.heap router target plan = .ok router') :
    (∃ active, vllmActiveDeployment w'.heap router' = .ok active ∧
        parallelPlansMatch active.plan plan = true) ↔
      max 1 target.instances.entries.length = plan.replicaCount ∧
      (max 1 ((handlesOf w'.heap target.instances).map InstanceHandle.numGpu).sum).toNat =
        plan.numGpus ∧
      (nodesOf w'.heap target.instances).Perm plan.targetNodes ∧
      (¬ Places plan → placementFingerprint (configPlacement router.adapter.backendConfig) =
        placementFingerprint plan.expertPlacementPlan) := by
  obtain ⟨hworkers, hconfig⟩ := of_createConfigured_ok hcreate
  obtain ⟨hready, hmodel, hinstalled⟩ := of_switch_ok hswitch
  have hspec := createWorkers_spec outside router.adapter.toAdapter plan w
  rw [hworkers] at hspec
  obtain ⟨hcreates, -, -⟩ := hspec
  rw [hconfig] at hinstalled
  have hget : ∀ key value, (key, value) ∈ planItems plan → key ∈ snapshotKeys →
      router'.adapter.backendConfig.get? key = some value := by
    intro key value hitem hkey
    rw [hinstalled, get?_deployedConfig outside router.adapter hkey,
      get?_planBackendConfig hitem hkey]
  obtain ⟨active, hactive, hname, hbackend, htensor, hpipeline, hdata, hexpert, hreplicas, hgpus,
    hnodes, hplacement⟩ := snapshot_spec w'.heap target.instances hget
  rw [← hready] at hactive
  have hread : (∃ active, vllmActiveDeployment w'.heap router' = .ok active ∧
      parallelPlansMatch active.plan plan = true) ↔ parallelPlansMatch active.plan plan = true := by
    refine ⟨?_, fun hmatch => ⟨active, hactive, hmatch⟩⟩
    rintro ⟨other, hother, hmatch⟩
    rw [← Except.ok.inj (hother.symm.trans hactive)]
    exact hmatch
  have hfingerprint : placementFingerprint active.plan.expertPlacementPlan =
      placementFingerprint plan.expertPlacementPlan ↔
        (¬ Places plan → placementFingerprint (configPlacement router.adapter.backendConfig) =
          placementFingerprint plan.expertPlacementPlan) := by
    have hkept : configPlacement router'.adapter.backendConfig =
        if Places plan then plan.expertPlacementPlan
        else configPlacement router.adapter.backendConfig := by
      rw [← configPlacement_planBackendConfig, configPlacement, configPlacement, hinstalled,
        get?_deployedConfig outside router.adapter (by simp [snapshotKeys])]
    rw [hplacement, hkept]
    by_cases hplaces : Places plan
    · simp [hplaces]
    · simp [hplaces]
  have hshapes : parallelShapesMatch active.plan plan = true ↔
      max 1 target.instances.entries.length = plan.replicaCount ∧
      (max 1 ((handlesOf w'.heap target.instances).map InstanceHandle.numGpu).sum).toNat =
        plan.numGpus ∧ (nodesOf w'.heap target.instances).Perm plan.targetNodes := by
    simp only [parallelShapesMatch, ParallelPlan.effectiveExpertParallelSize, hname, hmodel,
      hbackend, htensor, hpipeline, hdata, hexpert, hreplicas, hgpus, hnodes, hcreates.backend,
      hcreates.model, ConfiguredAdapter.toAdapter, decide_true, Bool.true_and, Bool.and_eq_true,
      decide_eq_true_eq, sortedNodes_eq_iff, and_assoc]
  rw [hread, parallelPlansMatch_iff, hfingerprint, hshapes, and_comm, and_assoc, and_assoc]

/-- **Reading back what was installed.**  The plan of the deployment that is served matches the plan
that was installed exactly when that plan comes back. -/
theorem plansMatch_snapshot_iff (outside : Outside) (workers : Option WorkerNodes)
    (plan : ParallelPlan Dict) (router router' : ActiveRouter) (w w' : World Dict)
    (target : ConfiguredDeployment)
    (hgrants : GrantsTargets outside router.adapter.toAdapter plan)
    (hcreate : createConfigured outside router.adapter plan w = .ok target w')
    (hswitch : switchVllmDeployment workers w'.heap router target plan = .ok router') :
    (∃ active, vllmActiveDeployment w'.heap router' = .ok active ∧
      parallelPlansMatch active.plan plan = true) ↔ ComesBack outside router.adapter plan := by
  obtain ⟨hworkers, -⟩ := of_createConfigured_ok hcreate
  have hspec := createWorkers_spec outside router.adapter.toAdapter plan w
  rw [hworkers] at hspec
  obtain ⟨hcreates, -, hup⟩ := hspec
  rw [match_iff hcreate hswitch]
  by_cases hids : (plannedIds outside plan).Nodup
  · have hfiled := createWorkers_files hids hworkers
    rw [replicas_eq] at hfiled
    have hhandles := handlesOf_filed hfiled
    have hlength : target.instances.entries.length = plan.replicaCount := by
      rw [← hfiled.length_eq, List.length_range]
    have hcount : max 1 target.instances.entries.length = plan.replicaCount := by
      rw [hlength]
      exact max_eq_right plan.replicaCount_pos
    have hpos : 0 < plan.replicaCount * gpusPerReplica plan :=
      Nat.mul_pos plan.replicaCount_pos (Nat.mul_pos (Nat.mul_pos plan.tensorParallelSize_pos
        plan.pipelineParallelSize_pos) plan.dataParallelSize_pos)
    have hgpus : (max 1 ((handlesOf w'.heap target.instances).map InstanceHandle.numGpu).sum).toNat
        = plan.numGpus ↔ plan.numGpus = plan.replicaCount * gpusPerReplica plan := by
      rw [gpus_ofReplica hhandles, List.length_range]
      omega
    have hnodes : (nodesOf w'.heap target.instances).Perm plan.targetNodes ↔
        NodesComeBack outside router.adapter.toAdapter plan := by
      rw [nodesOf, nodes_ofReplica hhandles, nodesComeBack_iff hgrants hcreates]
    rw [hgpus, hnodes]
    constructor
    · rintro ⟨-, hgpus, hnodes, hplacement⟩
      exact ⟨hids, hgpus, hnodes, hplacement⟩
    · rintro ⟨-, hgpus, hnodes, hplacement⟩
      exact ⟨hcount, hgpus, hnodes, hplacement⟩
  · -- two replicas under one id are one instance
    have hfewer := length_lt_of_not_nodup hup hids
    rw [replicas_eq] at hfewer
    have htwo : 1 < plan.replicaCount := by
      by_contra hone
      have : plan.replicaCount = 1 := by have := plan.replicaCount_pos; omega
      refine hids ?_
      rw [plannedIds, replicas_eq, this]
      exact List.nodup_singleton _
    constructor
    · rintro ⟨hcount, -⟩
      omega
    · intro hback
      exact absurd hback.ids hids

end Recognised

/-! ## Two replicas -/

/-- A scheduler that grants the nodes of a list, in turn. -/
def grantsInTurn (nodes : List String) : Outside where
  instanceId replica := if replica = 0 then "m_0" else "m_1"
  allocateResource replica := .ok (nodes.getD (replica % nodes.length) "")
  startInstance _ := .ok "actor"
  initBackend _ := .ok ()
  runtimeMetadata _ := .ok true
  trafficSwitcher := .ok ()

/-- Two replicas of one GPU on the nodes of a list. -/
def replicaPair (nodes : List String) : ParallelPlan Dict where
  modelName := "m"
  backend := "vllm"
  tensorParallelSize := 1
  dataParallelSize := 1
  replicaCount := 2
  numGpus := 2
  targetNodes := nodes
  tensorParallelSize_pos := Nat.one_pos
  dataParallelSize_pos := Nat.one_pos
  pipelineParallelSize_pos := Nat.one_pos
  replicaCount_pos := Nat.two_pos
  numGpus_pos := Nat.two_pos

/-- A router that serves nothing yet. -/
def idleRouter : ActiveRouter where
  pools := { backendConfig := .empty, resourceRequirements := ⟨1, 1⟩ }
  adapter := { modelName := "m", backendConfig := .empty, resourceRequirements := ⟨1, 1⟩ }

theorem grantsTargets_inTurn (nodes : List String) :
    GrantsTargets (grantsInTurn nodes) idleRouter.adapter.toAdapter (replicaPair nodes) := by
  intro _ replica _ node target hallocate htarget
  have hnode : nodes.getD (replica % nodes.length) "" = node := Except.ok.inj hallocate
  have htarget : nodes[replica % nodes.length]? = some target := htarget
  rw [← hnode, List.getD_eq_getElem?_getD, htarget]
  rfl

/-- Creating a deployment, switching to it and reading its plan back: does it match? -/
def readsBack (outside : Outside) (router : ActiveRouter) (plan : ParallelPlan Dict) :
    Option Bool :=
  match createConfigured outside router.adapter plan { heap := [] } with
  | .error _ _ => none
  | .ok target w =>
    match switchVllmDeployment none w.heap router target plan with
    | .error _ => none
    | .ok router => (vllmActiveDeployment w.heap router).toOption.map fun active =>
      parallelPlansMatch active.plan plan

theorem of_readsBack {outside : Outside} {router : ActiveRouter} {plan : ParallelPlan Dict}
    {b : Bool} (h : readsBack outside router plan = some b) : ∃ target w router' active,
      createConfigured outside router.adapter plan { heap := [] } = .ok target w ∧
        switchVllmDeployment none w.heap router target plan = .ok router' ∧
          vllmActiveDeployment w.heap router' = .ok active ∧
            parallelPlansMatch active.plan plan = b := by
  unfold readsBack at h
  split at h
  case h_1 => exact absurd h (by simp)
  case h_2 target w hcreate =>
    split at h
    case h_1 => exact absurd h (by simp)
    case h_2 router' hswitch =>
      obtain ⟨active, hactive, hmatch⟩ := Option.map_eq_some_iff.mp h
      exact ⟨target, w, router', active, hcreate, hswitch, of_toOption hactive, hmatch⟩

/-- On a node each, the pair comes back. -/
theorem plansMatch_replicaPair : ∃ target w' router',
    createConfigured (grantsInTurn ["a", "b"]) idleRouter.adapter (replicaPair ["a", "b"])
      { heap := [] } = .ok target w' ∧
    switchVllmDeployment none w'.heap idleRouter target (replicaPair ["a", "b"]) = .ok router' ∧
    ∃ active, vllmActiveDeployment w'.heap router' = .ok active ∧
      parallelPlansMatch active.plan (replicaPair ["a", "b"]) = true := by
  obtain ⟨target, w', router', -, hcreate, hswitch, -, -⟩ :=
    of_readsBack (show readsBack (grantsInTurn ["a", "b"]) idleRouter (replicaPair ["a", "b"]) =
      some true by decide +kernel)
  refine ⟨target, w', router', hcreate, hswitch, (plansMatch_snapshot_iff (grantsInTurn ["a", "b"])
    none (replicaPair ["a", "b"]) idleRouter router' { heap := [] } w' target
      (grantsTargets_inTurn _) hcreate hswitch).mpr ⟨by decide, by decide, ?_, fun _ => rfl⟩⟩
  rw [NodesComeBack, if_neg (by decide)]
  rfl

/-- On one node, the pair is read back with that node twice. -/
theorem not_plansMatch_replicaPair : ¬ ∀ (outside : Outside) (workers : Option WorkerNodes)
    (plan : ParallelPlan Dict) (router router' : ActiveRouter) (w w' : World Dict)
    (target : ConfiguredDeployment), GrantsTargets outside router.adapter.toAdapter plan →
    createConfigured outside router.adapter plan w = .ok target w' →
    switchVllmDeployment workers w'.heap router target plan = .ok router' →
    ∃ active, vllmActiveDeployment w'.heap router' = .ok active ∧
      parallelPlansMatch active.plan plan = true := by
  intro h
  obtain ⟨target, w', router', active, hcreate, hswitch, hactive, hmatch⟩ :=
    of_readsBack (show readsBack (grantsInTurn ["a"]) idleRouter (replicaPair ["a"]) =
      some false by decide +kernel)
  obtain ⟨other, hother, hmatches⟩ := h (grantsInTurn ["a"]) none (replicaPair ["a"]) idleRouter
    router' { heap := [] } w' target (grantsTargets_inTurn _) hcreate hswitch
  rw [Except.ok.inj (hother.symm.trans hactive), hmatch] at hmatches
  exact absurd hmatches (by simp)

end Reparallelization
end SpotServe
