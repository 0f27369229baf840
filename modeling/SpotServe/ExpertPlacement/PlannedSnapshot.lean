import SpotServe.ExpertPlacement.Coverage

/-!
# The placement that a plan writes down

A plan ends in a placement snapshot of its own: the entry of an expert is that of its shard in the
first replica.  The planner also reads snapshots, to learn where the experts are now.  Both go
through texts, and what is written is read back.

* `plannedEntry`: the entry of an expert.
* `supportedPlan_planned`, `plan_cases`: what the plan of a strategy says about its choice, and its
  snapshot.
* `plannedAssignments_eq`: the planner reads its own snapshot as the assignments that it chose.
-/

namespace SpotServe
namespace ExpertPlacement

open Py Runs

variable (input : PlannerInput)

/-- The entry of an expert in the snapshot of the plan. -/
def plannedEntry (assignments : List (List ℤ)) (expert : ℕ × ℕ) : PlacementEntry where
  rankId := rankName 0 (rankAt assignments expert)
  nodeId := shardNode (targetNodes input.targetParallelPlan) (rankAt assignments expert)
  gpuId := toString (rankAt assignments expert)
  physicalExpertId := toString expert.2
  weightSizeBytes := input.policy.defaultWeightSize.getD 0

/-- The first replica speaks for the expert. -/
theorem head?_map_toEntry_shardsOf (assignments : List (List ℤ)) (expert : ℕ × ℕ) :
    ∃ shard, (shardsOf input expert.1 expert.2 (rankAt assignments expert)).head? = some shard ∧
      shard.toEntry = plannedEntry input assignments expert := by
  obtain ⟨n, hn⟩ : ∃ n, replicaCount input.targetParallelPlan = n + 1 :=
    ⟨_, (Nat.succ_pred_eq_of_pos (replicaCount_pos input.targetParallelPlan)).symm⟩
  unfold shardsOf
  rw [hn, List.range_succ_eq_map, List.map_cons, List.head?_cons]
  refine ⟨_, rfl, ?_⟩
  simp only [ExpertShard.toEntry, plannedEntry, Nat.cast_zero, zero_mul, zero_add]

/-- The snapshot lists the experts, in the order of the loops. -/
theorem entries_expertPlacementSnapshot {assignments : List (List ℤ)} {numLayers numExperts : ℕ}
    {tables : PlanTables}
    (hrun : (allExperts numLayers numExperts).foldlM (planExpert input assignments) {} =
      .ok tables) :
    tables.expertPlacementSnapshot.entries = (allExperts numLayers numExperts).map fun expert =>
      (expertKey expert.1 expert.2, plannedEntry input assignments expert) := by
  refine foldlM_of_ok (fun done tables => tables.expertPlacementSnapshot.entries =
    done.map fun expert => (expertKey expert.1 expert.2, plannedEntry input assignments expert))
    ?_ rfl hrun
  intro done expert rest tables tables' hwhole hlisted hturn
  have hnew : expert ∉ done := by
    intro hdone
    have hnodup := nodup_allExperts numLayers numExperts
    rw [hwhole, List.nodup_append] at hnodup
    exact hnodup.2.2 expert hdone expert List.mem_cons_self rfl
  obtain ⟨rank, hrank, hturn⟩ := of_bind_ok hturn
  obtain rfl : rank = rankAt assignments expert := by
    unfold rankOf at hrank
    unfold rankAt
    split at hrank
    case h_1 r hget =>
      rw [hget]
      exact (Except.ok.inj hrank).symm
    case h_2 => exact absurd hrank (by simp)
  obtain ⟨shard, hhead, hentry⟩ := head?_map_toEntry_shardsOf input assignments expert
  obtain rfl := Except.ok.inj hturn
  simp only [hhead]
  rw [OrderedDict.entries_set_new (get?_none_of_new hlisted hnew), hlisted, hentry,
    List.map_append, List.map_singleton]

/-- The choice between candidate assignments and the current ones, for the ranks of the target
plan. -/
def selected (strategy : PlacementStrategy) (candidate : List (List ℤ)) : Selection :=
  selectAssignments input strategy (targetRankCount input.targetParallelPlan) candidate

/-- What the plan of a strategy says about its choice. -/
structure IsPlanOf (strategy : PlacementStrategy) (candidate : List (List ℤ))
    (plan : ExpertPlacementPlan) : Prop where
  run : (List.range input.topology.1).mapM
    (layerAssignment input strategy (targetRankCount input.targetParallelPlan)) = .ok candidate
  placementStrategy : plan.placementStrategy = strategy
  selectionReason : plan.selectionReason = (selected input strategy candidate).reason
  movement : plan.movement = some (buildExpertMovementDiff plan.expertPlacementSnapshot
    input.currentSnapshot input.policy.defaultWeightSize input.policy.costs)
  entries : plan.expertPlacementSnapshot.entries =
    (allExperts input.topology.1 input.topology.2).map fun expert =>
      (expertKey expert.1 expert.2,
        plannedEntry input (selected input strategy candidate).assignments expert)

theorem supportedPlan_planned (strategy : PlacementStrategy) :
    ∃ candidate plan, supportedPlan input strategy = .ok plan ∧
      IsPlanOf input strategy candidate plan := by
  obtain ⟨candidate, hcandidate, hlength, hall⟩ :=
    assignments_spec input strategy (targetRankCount_pos input.targetParallelPlan)
  obtain ⟨tables, htables, -⟩ := planTables_spec input hlength fun a ha => (hall a ha).1
  unfold supportedPlan
  simp only [hcandidate, htables, bind, Except.bind, pure, Except.pure]
  exact ⟨candidate, _, rfl, hcandidate, rfl, rfl, rfl,
    entries_expertPlacementSnapshot input htables⟩

/-- The planner returns the plan of a strategy, or says why there is none. -/
theorem plan_cases {plan : ExpertPlacementPlan}
    (hbuild : buildLogicalExpertPlacementPlan input = .ok (some plan)) :
    (∃ reason, plan = unavailablePlan input reason) ∨
      0 < input.topology.1 ∧ 0 < input.topology.2 ∧
        ∃ strategy candidate, IsPlanOf input strategy candidate plan := by
  unfold buildLogicalExpertPlacementPlan at hbuild
  split at hbuild
  · exact absurd hbuild (by simp)
  split at hbuild
  · exact Or.inl ⟨_, (Option.some.inj (Except.ok.inj hbuild)).symm⟩
  rename_i htopology
  split at hbuild
  · exact Or.inl ⟨_, (Option.some.inj (Except.ok.inj hbuild)).symm⟩
  · rename_i strategy _
    obtain ⟨candidate, planned, hplanned, hplan⟩ := supportedPlan_planned input strategy
    rw [hplanned] at hbuild
    obtain rfl := Option.some.inj (Except.ok.inj hbuild)
    exact Or.inr ⟨by omega, by omega, strategy, candidate, hplan⟩

/-! ## Reading the snapshot -/

/-- The assignments that a plan writes down, as the planner reads a snapshot. -/
def plannedAssignments (plan : ExpertPlacementPlan) : Option (List (List ℤ)) :=
  (List.range input.topology.1).mapM fun layerId =>
    currentLayerAssignment plan.expertPlacementSnapshot layerId input.topology.2
      (targetRankCount input.targetParallelPlan)

section Reading

variable {input} {strategy : PlacementStrategy} {candidate : List (List ℤ)}
  {plan : ExpertPlacementPlan} (hplan : IsPlanOf input strategy candidate plan)
include hplan

/-- The assignments that were chosen have a rank for every expert. -/
theorem IsPlanOf.assignments :
    (selected input strategy candidate).assignments.length = input.topology.1 ∧
      ∀ a ∈ (selected input strategy candidate).assignments,
        IsAssignment input.topology.2 (targetRankCount input.targetParallelPlan) a := by
  obtain ⟨candidate', hrun, hlength, hall⟩ :=
    assignments_spec input strategy (targetRankCount_pos input.targetParallelPlan)
  obtain rfl := Except.ok.inj (hplan.run.symm.trans hrun)
  exact ⟨hlength, fun a ha => (hall a ha).1⟩

theorem IsPlanOf.get? {l e : ℕ} (hl : l < input.topology.1) (he : e < input.topology.2) :
    plan.expertPlacementSnapshot.get? (expertKey l e) =
      some (plannedEntry input (selected input strategy candidate).assignments (l, e)) := by
  rw [← OrderedDict.mem_entries_iff, hplan.entries]
  exact List.mem_map.mpr ⟨(l, e), mem_allExperts.mpr ⟨hl, he⟩, rfl⟩

/-- **The plan is read back**: the planner finds the assignments that it chose in the snapshot that
it wrote. -/
theorem plannedAssignments_eq :
    plannedAssignments input plan = some (selected input strategy candidate).assignments := by
  obtain ⟨hlength, hall⟩ := hplan.assignments
  have hget : ∀ l e, l < input.topology.1 → e < input.topology.2 → _ :=
    fun l e hl he => hplan.get? (l := l) (e := e) hl he
  generalize (selected input strategy candidate).assignments = assignments at *
  refine mapM_of_forall₂ (List.forall₂_iff_get.mpr ⟨by rw [List.length_range, hlength], ?_⟩)
  intro l hl hl'
  have hlayer : l < input.topology.1 := by rwa [← hlength]
  have hassignment := hall assignments[l] (List.getElem_mem hl')
  rw [List.get_eq_getElem, List.getElem_range, List.get_eq_getElem]
  refine mapM_of_forall₂ (List.forall₂_iff_get.mpr
    ⟨by rw [List.length_range, hassignment.length], ?_⟩)
  intro e he he'
  have hexpert : e < input.topology.2 := by rwa [List.length_range] at he
  obtain ⟨⟨rank, hrank, hat⟩, -⟩ :=
    rankAt_spec hlength hall (show (l, e).1 < input.topology.1 from hlayer) hexpert
  have hself : rankAt assignments (l, e) = assignments[l][e] := by
    rw [rankAt, List.getElem?_eq_getElem hl', Option.bind_some, List.getElem?_eq_getElem he',
      Option.getD_some]
  rw [List.get_eq_getElem, List.getElem_range, hget l e hlayer hexpert, Option.bind_some]
  show (rankIndex (rankName 0 (rankAt assignments (l, e))) _).map _ = _
  rw [hat, rankIndex_rankName 0 hrank, Option.map_some, ← hat, hself]
  rfl

end Reading

end ExpertPlacement
end SpotServe
