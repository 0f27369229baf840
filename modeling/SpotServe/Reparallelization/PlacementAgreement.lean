import SpotServe.Reparallelization.ReplicaPlacement

/-!
# Where the experts are placed, and where the plan is deployed

The placement that a candidate is ranked with is computed for a provisional plan, whose nodes are
chosen by all their GPUs.  The plan of the decision chooses its nodes again, by their free GPUs when
`require_free_gpu_overlap` is set.  The placement of the decision names the nodes of the plan exactly
when the two choices come out the same (`placement_agrees_iff`).
-/

namespace SpotServe
namespace Reparallelization

open Py Runs Selection ExpertPlacement

/-! ## The nodes a placement names -/

section Shards

variable {input : PlannerInput} {placement : ExpertPlacementPlan}

theorem shardNode_mem {nodes : List String} (hne : nodes ≠ []) (nodeIndex : ℤ) :
    shardNode nodes nodeIndex ∈ nodes := by
  have hlength : 0 < nodes.length := List.length_pos_iff.mpr hne
  have hindex : (nodeIndex % nodes.length).toNat < nodes.length := by
    have := Int.emod_lt_of_pos nodeIndex (Int.natCast_pos.mpr hlength)
    omega
  rw [shardNode, if_neg (by simpa using hne), List.getD_eq_getElem _ _ hindex]
  exact List.getElem_mem hindex

/-- A placement is one for its target plan, and its shards are on that plan's nodes. -/
theorem build_target (h : buildLogicalExpertPlacementPlan input = .ok (some placement)) :
    placement.targetParallelPlan = input.targetParallelPlan ∧
      (targetNodes input.targetParallelPlan ≠ [] →
        ∀ shard ∈ placement.shards, shard.nodeId ∈ targetNodes input.targetParallelPlan) := by
  unfold buildLogicalExpertPlacementPlan at h
  split_ifs at h with hdense hempty
  · exact absurd (Except.ok.inj h) (by simp)
  · obtain rfl := Option.some.inj (Except.ok.inj h)
    exact ⟨rfl, fun _ shard hshard => absurd hshard List.not_mem_nil⟩
  · cases hstrategy : PlacementStrategy.ofName? (placementStrategyText input) with
    | none =>
      rw [hstrategy] at h
      obtain rfl := Option.some.inj (Except.ok.inj h)
      exact ⟨rfl, fun _ shard hshard => absurd hshard List.not_mem_nil⟩
    | some strategy =>
      obtain ⟨plan, assignments, tables, hplan, hspec⟩ := supportedPlan_spec input strategy
      rw [hstrategy] at h
      dsimp only at h
      rw [hplan] at h
      obtain rfl : plan = placement := Option.some.inj (Except.ok.inj h)
      refine ⟨hspec.target, fun hne shard hshard => ?_⟩
      rw [hspec.shards, hspec.listed.shards] at hshard
      obtain ⟨expert, -, hshard⟩ := List.mem_flatMap.mp hshard
      obtain ⟨replica, -, rfl⟩ := List.mem_map.mp hshard
      exact shardNode_mem hne _

/-- There is no placement only for a model without experts. -/
theorem build_none (h : buildLogicalExpertPlacementPlan input = .ok none) :
    input.topology = (0, 0) ∧ input.moeHint = false := by
  unfold buildLogicalExpertPlacementPlan at h
  split_ifs at h with hdense hempty
  · exact ⟨hdense.1, by simpa using hdense.2⟩
  · exact absurd (Except.ok.inj h) (by simp)
  · cases hstrategy : PlacementStrategy.ofName? (placementStrategyText input) with
    | none =>
      rw [hstrategy] at h
      exact absurd (Except.ok.inj h) (by simp)
    | some strategy =>
      obtain ⟨plan, assignments, tables, hplan, -⟩ := supportedPlan_spec input strategy
      rw [hstrategy] at h
      dsimp only at h
      rw [hplan] at h
      exact absurd (Except.ok.inj h) (by simp)

theorem build_none_iff : buildLogicalExpertPlacementPlan input = .ok none ↔
    input.topology = (0, 0) ∧ input.moeHint = false := by
  refine ⟨build_none, fun ⟨htopology, hhint⟩ => ?_⟩
  unfold buildLogicalExpertPlacementPlan
  rw [if_pos ⟨htopology, by simp [hhint]⟩]

end Shards

section Agreement

variable {request : PlanRequest} {d : Decision} {plan : ParallelPlan ExpertPlacementPlan}
  {placement : ExpertPlacementPlan} {lookups : PlacementLookups} {modelName : String}
  {placementEpoch : ℕ} {config : Dict}

@[simp] theorem targetNodes_toDict (plan : ParallelPlan ExpertPlacementPlan) :
    targetNodes plan.toDict = plan.targetNodes := by
  have hlookup : plan.toDict.lookup "target_nodes" = some (.list (plan.targetNodes.map .str)) := rfl
  rw [targetNodes, hlookup]
  show (plan.targetNodes.map Value.str).map Value.toStr = plan.targetNodes
  rw [List.map_map]
  exact List.map_id _

theorem of_mapError_ok {α ε ε' : Type} {x : Except ε α} {f : ε → ε'} {a : α}
    (h : x.mapError f = .ok a) : x = .ok a := by
  cases x with
  | error e => exact absurd h (by simp [Except.mapError])
  | ok b => exact congrArg Except.ok (Except.ok.inj h)

/-- The placement for a plan names the plan's nodes. -/
theorem expertPlacementFor_target
    (h : expertPlacementFor lookups modelName placementEpoch config plan = .ok (some placement)) :
    targetNodes placement.targetParallelPlan = plan.targetNodes ∧
      (plan.targetNodes ≠ [] → ∀ shard ∈ placement.shards, shard.nodeId ∈ plan.targetNodes) := by
  obtain ⟨htarget, hshards⟩ := build_target (of_mapError_ok h)
  have hnodes : targetNodes (placementInput lookups modelName placementEpoch plan.toDict
      config).targetParallelPlan = plan.targetNodes := targetNodes_toDict plan
  rw [hnodes] at hshards
  exact ⟨htarget ▸ hnodes, hshards⟩

/-- Whether there is a placement does not depend on the plan it is for. -/
theorem expertPlacementFor_none_iff {plan' : ParallelPlan ExpertPlacementPlan} {config' : Dict}
    {placementEpoch' : ℕ}
    (h : expertPlacementFor lookups modelName placementEpoch config plan = .ok none) :
    expertPlacementFor lookups modelName placementEpoch' config' plan' = .ok none := by
  have hdense := build_none (of_mapError_ok h)
  have hnone := build_none_iff.mpr (show (placementInput lookups modelName placementEpoch'
    plan'.toDict config').topology = (0, 0) ∧ (placementInput lookups modelName placementEpoch'
    plan'.toDict config').moeHint = false from hdense)
  rw [expertPlacementFor, hnone]
  rfl

/-- The placement of a decision is the one its candidate was ranked with, or one for its plan. -/
theorem finishPlan_placement {selected : ParallelConfig}
    (h : finishPlan request config selected = .ok (plan, some placement)) :
    placementDisabled config = false ∧ (selected.expertPlacementPlan = some placement ∨
      selected.expertPlacementPlan = none ∧ ∃ epoch plan',
        expertPlacementFor request.placementLookups request.modelName epoch config plan' =
          .ok (some placement)) := by
  unfold finishPlan at h
  obtain ⟨first, -, h⟩ := of_bind_ok h
  split_ifs at h with hdisabled
  · exact absurd (Prod.mk.inj (Except.ok.inj h)).2 (by simp)
  obtain ⟨found, hfound, h⟩ := of_bind_ok h
  have hsome : found = some placement := by
    cases found with
    | none => exact absurd (Prod.mk.inj (Except.ok.inj h)).2 (by simp)
    | some found =>
      obtain ⟨second, -, h⟩ := of_bind_ok h
      exact (Prod.mk.inj (Except.ok.inj h)).2
  subst hsome
  refine ⟨by simpa using hdisabled, ?_⟩
  unfold finalPlacement at hfound
  cases hselected : selected.expertPlacementPlan with
  | some ranked =>
    rw [hselected] at hfound
    exact Or.inl (Except.ok.inj hfound)
  | none =>
    rw [hselected] at hfound
    exact Or.inr ⟨rfl, first.placementEpoch, first, hfound⟩

theorem generatedCandidate_unplaced {gpus minReplicaCount targetReplicaGpus tensor pipeline : ℕ}
    {c : ParallelConfig}
    (h : generatedCandidate gpus minReplicaCount targetReplicaGpus tensor pipeline = some c) :
    c.expertPlacementPlan = none := by
  unfold generatedCandidate at h
  dsimp only at h
  split_ifs at h with hroom hmin
  obtain rfl := Option.some.inj h
  rfl

/-- Candidates come without a placement. -/
theorem initial_unplaced (p : Planned request) {c : ParallelConfig} (hc : c ∈ p.initial) :
    c.expertPlacementPlan = none := by
  rcases of_mem_initial p hc with ⟨candidates, h, hc⟩ | ⟨-, candidates, h, hc⟩
  · obtain ⟨limits, row, targets, -, -, -, -, -, -, rfl⟩ := of_mem_supported h hc
    rfl
  · obtain ⟨-, tensor, pipeline, minReplicaCount, targetReplicaGpus, -, hc⟩ := of_mem_generated h hc
    exact generatedCandidate_unplaced hc

/-- The placement of a decision was computed for a provisional plan: one with the nodes that are
selected for the plan's GPUs by all GPUs. -/
theorem placement_provisional (h : planDynamicReparallelization request = .ok d)
    (hplan : d.parallelPlan = some plan) (hplacement : d.expertPlacementPlan = some placement) :
    ∃ provisional, selectTargetNodes request.workerNodes plan.numGpus false = .ok provisional ∧
      targetNodes placement.targetParallelPlan = provisional ∧
      (provisional ≠ [] → ∀ shard ∈ placement.shards, shard.nodeId ∈ provisional) := by
  obtain ⟨p, selected, hselected, hfinish, -, hnum, -⟩ := plan_enough h hplan
  rw [hplacement] at hfinish
  obtain ⟨henabled, hfrom⟩ := finishPlan_placement hfinish
  obtain ⟨c', hc', hshape, c'', hplaced, hsame⟩ := of_mem_ranked p hselected
  rcases hplaced with ⟨rfl, hdisabled | ⟨strategy, candidatePlan, hnone⟩⟩ |
    ⟨strategy, candidatePlan, found, hbuild, hfound, rfl⟩
  · exact absurd (henabled.symm.trans hdisabled) (by decide)
  · -- The model has no experts, so there is no placement to begin with.
    rcases hfrom with hranked | ⟨-, epoch, plan', hfound⟩
    · rw [hsame, initial_unplaced p hc'] at hranked
      exact absurd hranked (by simp)
    · rw [expertPlacementFor_none_iff hnone] at hfound
      exact absurd (Except.ok.inj hfound) (by simp)
  · obtain ⟨targets, htargets, hbuild⟩ := of_bind_ok hbuild
    have hfound : expertPlacementFor request.placementLookups request.modelName
        (nextPlacementEpoch request.modelConfig p.config) (strategyConfig p.config strategy)
        candidatePlan = .ok (some placement) := by
      rcases hfrom with hranked | ⟨hnone, -⟩
      · rw [hfound, ← hranked, hsame]
        rfl
      · exact absurd (hsame.symm.trans hnone) (by simp [ParallelConfig.withPlacement])
    obtain ⟨htarget, hshards⟩ := expertPlacementFor_target hfound
    have hcandidate : candidatePlan.targetNodes = targets := by rw [← Except.ok.inj hbuild]
    rw [hcandidate] at htarget hshards
    refine ⟨targets, ?_, htarget, hshards⟩
    rw [hnum, hshape]
    exact htargets

/-- Choosing nodes for a number of GPUs comes out the same by free GPUs, where these are required,
and by all GPUs. -/
def SameNodes (request : PlanRequest) (numGpus : ℕ) : Prop :=
  requiresFreeGpus request = false ∨
    ∀ byAll byFree, selectTargetNodes request.workerNodes numGpus false = .ok byAll →
      selectTargetNodes request.workerNodes numGpus true = .ok byFree → byAll = byFree

/-- **When expert placement and deployment agree on nodes.** -/
theorem placement_agrees_iff (h : planDynamicReparallelization request = .ok d)
    (hplan : d.parallelPlan = some plan) (hplacement : d.expertPlacementPlan = some placement) :
    ((∀ shard ∈ placement.shards, shard.nodeId ∈ plan.targetNodes) ∧
        targetNodes placement.targetParallelPlan = plan.targetNodes) ↔
      SameNodes request plan.numGpus := by
  obtain ⟨provisional, hprovisional, htarget, hshards⟩ :=
    placement_provisional h hplan hplacement
  obtain ⟨-, -, -, -, -, -, henough⟩ := plan_enough h hplan
  have hselected := targetNodes_selected h hplan
  have hsame : SameNodes request plan.numGpus ↔ provisional = plan.targetNodes := by
    unfold SameNodes
    cases hfree : requiresFreeGpus request with
    | false =>
      rw [hfree] at hselected
      have heq : provisional = plan.targetNodes :=
        Except.ok.inj (hprovisional.symm.trans hselected)
      exact ⟨fun _ => heq, fun _ => Or.inl rfl⟩
    | true =>
      rw [hfree] at hselected
      constructor
      · rintro (habsurd | hboth)
        · exact absurd habsurd (by decide)
        · exact hboth _ _ hprovisional hselected
      · rintro heq
        refine Or.inr fun byAll byFree hall hbyFree => ?_
        rw [← Except.ok.inj (hprovisional.symm.trans hall),
          ← Except.ok.inj (hselected.symm.trans hbyFree)]
        exact heq
  rw [hsame, htarget]
  constructor
  · exact fun hagree => hagree.2
  · rintro rfl
    exact ⟨hshards henough.ne_nil, rfl⟩

theorem nodup_busyNodes : ["node-a", "node-b"].Nodup := by decide

/-- A model with two experts, on a big node that is nearly full and a small one that is free. -/
def busyRequest (requireFree : Bool) : PlanRequest where
  modelName := "moe"
  backend := some "vllm"
  workerNodes := ⟨[("node-a", [("total_gpu", .int 4), ("free_gpu", .int 1)]),
    ("node-b", [("total_gpu", .int 2), ("free_gpu", .int 2)])], nodup_busyNodes⟩
  plannerConfig := [("require_free_gpu_overlap", .bool requireFree)]
  supportedConfigs := [.mapping [("tensor_parallel_size", .int 2), ("num_gpus", .int 2),
    ("enable_expert_parallel", .bool true)]]
  placementLookups := { topology := (1, 2), moeHint := true, lookup := fun _ _ => smallInput }

theorem placement_agrees_busyRequest : ∃ d plan placement,
    planDynamicReparallelization (busyRequest false) = .ok d ∧ d.parallelPlan = some plan ∧
      d.expertPlacementPlan = some placement ∧
      (((∀ shard ∈ placement.shards, shard.nodeId ∈ plan.targetNodes) ∧
          targetNodes placement.targetParallelPlan = plan.targetNodes) ↔
        SameNodes (busyRequest false) plan.numGpus) := by
  have hplanned : (planDynamicReparallelization (busyRequest false)).toOption.any (fun d =>
      d.parallelPlan.isSome ∧ d.expertPlacementPlan.isSome) = true := by decide +kernel
  obtain ⟨d, hd, hsome⟩ := (Option.any_eq_true _ _).mp hplanned
  obtain ⟨hplan, hplacement⟩ := of_decide_eq_true hsome
  obtain ⟨plan, hplan⟩ := Option.isSome_iff_exists.mp hplan
  obtain ⟨placement, hplacement⟩ := Option.isSome_iff_exists.mp hplacement
  exact ⟨d, plan, placement, of_toOption hd, hplan, hplacement,
    placement_agrees_iff (of_toOption hd) hplan hplacement⟩

/-- The plan goes to the free node, and its experts are placed on the busy one. -/
theorem experts_placed_elsewhere : ∃ d plan placement,
    planDynamicReparallelization (busyRequest true) = .ok d ∧ d.parallelPlan = some plan ∧
      d.expertPlacementPlan = some placement ∧ plan.targetNodes = ["node-b"] ∧
      targetNodes placement.targetParallelPlan = ["node-a"] ∧
      ∃ shard ∈ placement.shards, shard.nodeId = "node-a" := by
  have hplanned : (planDynamicReparallelization (busyRequest true)).toOption.any (fun d =>
      d.parallelPlan.any (fun plan => plan.targetNodes = ["node-b"]) ∧
        d.expertPlacementPlan.any (fun placement =>
          targetNodes placement.targetParallelPlan = ["node-a"] ∧
            ∃ shard ∈ placement.shards, shard.nodeId = "node-a")) = true := by decide +kernel
  obtain ⟨d, hd, hfacts⟩ := (Option.any_eq_true _ _).mp hplanned
  obtain ⟨hplan, hplacement⟩ := of_decide_eq_true hfacts
  obtain ⟨plan, hplan, hnodes⟩ := (Option.any_eq_true _ _).mp hplan
  obtain ⟨placement, hplacement, hplaced⟩ := (Option.any_eq_true _ _).mp hplacement
  obtain ⟨htarget, hshard⟩ := of_decide_eq_true hplaced
  exact ⟨d, plan, placement, of_toOption hd, hplan, hplacement, of_decide_eq_true hnodes, htarget,
    hshard⟩

end Agreement

end Reparallelization
end SpotServe
