import SpotServe.Reparallelization.PlanCapacity
import SpotServe.ExpertPlacement.Coverage

/-!
# Placing a plan replica by replica

The planner adds up the GPUs of the nodes it selects, and `create_workers` puts whole replicas on
single nodes, in turn.  The two agree on a plan exactly when the smallest selected node holds its
share of the replicas, and the last node that gets one replica more holds that as well
(`replicas_fit_iff`): the selected nodes come in falling order of their GPUs, so these two nodes
stand for all.
-/

namespace SpotServe
namespace Reparallelization

open Py Runs Selection ExpertPlacement

section Assigned

variable {π : Type}

/-- `tensor_parallel_size * pipeline_parallel_size * data_parallel_size`. -/
def gpusPerReplica (plan : ParallelPlan π) : ℕ :=
  plan.tensorParallelSize * plan.pipelineParallelSize * plan.dataParallelSize

/-- The GPUs that the replicas of a plan ask for on a node, when each goes to its target node. -/
def assignedGpus (plan : ParallelPlan π) (node : String) : ℕ :=
  (List.range plan.replicaCount).countP (fun replica => targetNodeId plan replica = some node) *
    gpusPerReplica plan

/-- On distinct target nodes, the replicas are dealt out in turn. -/
theorem assignedGpus_get (plan : ParallelPlan π) (hnodup : plan.targetNodes.Nodup) {i : ℕ}
    (hi : i < plan.targetNodes.length) :
    assignedGpus plan plan.targetNodes[i] =
      share plan.replicaCount plan.targetNodes.length i * gpusPerReplica plan := by
  rw [assignedGpus, ← countP_mod_eq hi]
  congr 1
  refine List.countP_congr fun replica _ => ?_
  have hmod : replica % plan.targetNodes.length < plan.targetNodes.length :=
    Nat.mod_lt _ (Nat.zero_lt_of_lt hi)
  rw [decide_eq_true_iff, decide_eq_true_iff, targetNodeId, List.getElem?_eq_getElem hmod,
    Option.some_inj]
  exact hnodup.getElem_inj_iff

end Assigned

/-- The replicas of a shape fit on the nodes that are selected for its GPUs: the smallest node holds
the share of every node, and the last node with one replica more holds that one too. -/
def SharesFit (nodes : WorkerNodes) (freeOnly : Bool) (numGpus replicaCount replicaGpus : ℕ) :
    Prop :=
  ∀ selected, selectTargetNodes nodes numGpus freeOnly = .ok selected →
    let counts := selected.map (countedGpus nodes freeOnly)
    ((replicaCount / counts.length * replicaGpus : ℕ) : ℤ) ≤ counts.getD (counts.length - 1) 0 ∧
      (0 < replicaCount % counts.length →
        (((replicaCount / counts.length + 1) * replicaGpus : ℕ) : ℤ) ≤
          counts.getD (replicaCount % counts.length - 1) 0)

section Fit

variable {request : PlanRequest} {d : Decision} {plan : ParallelPlan ExpertPlacementPlan}

/-- The target nodes of a plan are those selected for its GPUs. -/
theorem targetNodes_selected (h : planDynamicReparallelization request = .ok d)
    (hplan : d.parallelPlan = some plan) :
    selectTargetNodes request.workerNodes plan.numGpus (requiresFreeGpus request) =
      .ok plan.targetNodes := by
  obtain ⟨p, selected, -, hfinish, -, hnum, -⟩ := plan_enough h hplan
  obtain ⟨targets, htargets, htarget, -⟩ := finishPlan_spec hfinish
  rw [flag_effectiveConfig p.config_eq] at htargets
  rw [hnum, htargets, htarget]

/-- A dense model: the placement planner finds no experts. -/
def denseLookups : PlacementLookups where
  topology := (0, 0)
  moeHint := false
  lookup _ _ := smallInput

/-- Two replicas of two GPUs each, on nodes with the given numbers of GPUs. -/
def twoReplicas (first second : ℤ) : PlanRequest where
  modelName := "dense"
  backend := some "vllm"
  workerNodes := ⟨[("node-a", [("total_gpu", .int first)]), ("node-b", [("total_gpu", .int second)])],
    (by decide : ["node-a", "node-b"].Nodup)⟩
  supportedConfigs := [.mapping [("tensor_parallel_size", .int 2), ("replica_count", .int 2),
    ("num_gpus", .int 4)]]
  placementLookups := denseLookups

/-- **When a selected plan can be deployed replica by replica.** -/
theorem replicas_fit_iff (h : planDynamicReparallelization request = .ok d)
    (hplan : d.parallelPlan = some plan) :
    (∀ node ∈ plan.targetNodes, (assignedGpus plan node : ℤ) ≤
        countedGpus request.workerNodes (requiresFreeGpus request) node) ↔
      SharesFit request.workerNodes (requiresFreeGpus request) plan.numGpus plan.replicaCount
        (gpusPerReplica plan) := by
  obtain ⟨-, -, -, -, -, -, henough⟩ := plan_enough h hplan
  have hfit := shares_fit_iff henough.falling (fun h => henough.ne_nil (List.map_eq_nil_iff.mp h))
    plan.replicaCount (gpusPerReplica plan)
  have hselected := targetNodes_selected h hplan
  have hcount : ∀ i (hi : i < plan.targetNodes.length),
      (plan.targetNodes.map (countedGpus request.workerNodes (requiresFreeGpus request))).getD i 0 =
        countedGpus request.workerNodes (requiresFreeGpus request) plan.targetNodes[i] := by
    intro i hi
    rw [List.getD_eq_getElem?_getD, List.getElem?_map, List.getElem?_eq_getElem hi]
    rfl
  constructor
  · intro hall selected hsel
    obtain rfl := Except.ok.inj (hsel.symm.trans hselected)
    refine hfit.mp fun i hi => ?_
    rw [List.length_map] at hi ⊢
    rw [hcount i hi, ← assignedGpus_get plan henough.nodup hi]
    exact hall _ (List.getElem_mem hi)
  · intro hshares node hnode
    obtain ⟨i, hi, rfl⟩ := List.mem_iff_getElem.mp hnode
    have hle := hfit.mpr (hshares _ hselected) i (by rw [List.length_map]; exact hi)
    rw [hcount i hi, List.length_map] at hle
    rw [assignedGpus_get plan henough.nodup hi]
    exact hle

theorem replicas_fit_twoReplicas : ∃ d plan,
    planDynamicReparallelization (twoReplicas 2 2) = .ok d ∧ d.parallelPlan = some plan ∧
      ((∀ node ∈ plan.targetNodes, (assignedGpus plan node : ℤ) ≤
          countedGpus (twoReplicas 2 2).workerNodes (requiresFreeGpus (twoReplicas 2 2)) node) ↔
        SharesFit (twoReplicas 2 2).workerNodes (requiresFreeGpus (twoReplicas 2 2)) plan.numGpus
          plan.replicaCount (gpusPerReplica plan)) := by
  have hplanned : ((planDynamicReparallelization (twoReplicas 2 2)).toOption.bind
      (·.parallelPlan)).isSome = true := by decide +kernel
  obtain ⟨plan, hplan⟩ := Option.isSome_iff_exists.mp hplanned
  obtain ⟨d, hd, hplan⟩ := Option.bind_eq_some_iff.mp hplan
  exact ⟨d, plan, of_toOption hd, hplan, replicas_fit_iff (of_toOption hd) hplan⟩

/-- Four GPUs on two nodes, three and one: the second replica is sent to the node with one. -/
theorem second_replica_does_not_fit : ∃ d plan,
    planDynamicReparallelization (twoReplicas 3 1) = .ok d ∧ d.parallelPlan = some plan ∧
      distributedAllocation { modelName := "dense" } plan = false ∧ replicaGpuCount plan = .ok 2 ∧
      "node-b" ∈ plan.targetNodes ∧
      countedGpus (twoReplicas 3 1).workerNodes (requiresFreeGpus (twoReplicas 3 1)) "node-b" <
        assignedGpus plan "node-b" := by
  have hplanned : ((planDynamicReparallelization (twoReplicas 3 1)).toOption.bind
      (·.parallelPlan)).any (fun plan =>
        distributedAllocation { modelName := "dense" } plan = false ∧
          (replicaGpuCount plan).toOption = some 2 ∧ "node-b" ∈ plan.targetNodes ∧
          countedGpus (twoReplicas 3 1).workerNodes (requiresFreeGpus (twoReplicas 3 1)) "node-b" <
            assignedGpus plan "node-b") = true := by decide +kernel
  obtain ⟨plan, hplan, hfacts⟩ := (Option.any_eq_true _ _).mp hplanned
  obtain ⟨d, hd, hplan⟩ := Option.bind_eq_some_iff.mp hplan
  obtain ⟨hsingle, hdeploys, hfit⟩ := of_decide_eq_true hfacts
  exact ⟨d, plan, of_toOption hd, hplan, hsingle, of_toOption hdeploys, hfit⟩

end Fit

end Reparallelization
end SpotServe
