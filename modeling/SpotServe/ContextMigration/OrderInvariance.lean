import SpotServe.ContextMigration.Optimality

/-!
# The planner does not depend on the order of its inputs

Permuting the sources changes what each of them pays, because the queue cost of a source depends
on the sources before it on the same target.  The total does not change: the queue cost is a
function of the target and of the position alone (`separable_problem`), so two sources that
exchange their places exchange their queue costs as well.  Permuting the targets only renames
them.
-/

namespace SpotServe
namespace ContextMigration

open LoadAssignment

/-- The position of a source enters its cost through its target only. -/
theorem separable_problem (targets : List MigrationTarget) (config : PlannerConfig) :
    (problem targets config).Separable := by
  refine ⟨fun source j => targets[j]?.elim 0 fun target => pairCost source target config,
    fun j k => targets[j]?.elim 0 fun target => (estimateQueuePenaltyCost target config k).cost,
    fun source j k => ?_⟩
  cases hj : targets[j]? with
  | none => simp [problem, hj]
  | some target =>
    rw [problem_edge hj, estimateMigrationCost_eq]
    simp only [hj, Option.elim_some]

/-- Permuted targets are renamed targets. -/
theorem relabel_problem {targets targets' : List MigrationTarget} {e : ℕ → ℕ}
    (he : Function.Injective e) (hget : ∀ j, targets'[e j]? = targets[j]?)
    (config : PlannerConfig) :
    Relabel (problem targets config) (problem targets' config) e where
  injective := he
  capacity j := by simp only [problem, hget]
  edge source j k := by simp only [problem, hget]
  opening j := by simp only [problem, hget]
  skip := rfl

/-- One direction for the targets; the other one is the inverse permutation. -/
theorem solve_fst_le_of_perm_targets {targets targets' : List MigrationTarget}
    (h : targets.Perm targets') (config : PlannerConfig) (sources : List ContextMetadata) :
    ((problem targets' config).solve (List.range targets'.length) sources fun _ => 0).1 ≤
      ((problem targets config).solve (List.range targets.length) sources fun _ => 0).1 := by
  obtain ⟨e, he, hget⟩ := exists_injective_of_perm h
  exact solve_fst_relabel mem_range_of_capacity_pos (relabel_problem he hget config) sources

/-- **Order invariance.**  The planner's total is the same for all orders of its sources and of
its targets. -/
theorem planLowCostMigration_perm {sources sources' : List ContextMetadata}
    {targets targets' : List MigrationTarget} (hs : sources.Perm sources')
    (ht : targets.Perm targets') (config : PlannerConfig) :
    (planLowCostMigration sources targets config).totalEstimatedCost +
        unmatchedPenalty config *
          (planLowCostMigration sources targets config).unassignedContexts.length =
      (planLowCostMigration sources' targets' config).totalEstimatedCost +
        unmatchedPenalty config *
          (planLowCostMigration sources' targets' config).unassignedContexts.length := by
  have hvalue := objective_planLowCostMigration sources targets config
  have hvalue' := objective_planLowCostMigration sources' targets' config
  have hsources := solve_fst_perm (@mem_range_of_capacity_pos targets config)
    (separable_problem targets config) hs fun _ => 0
  have htargets : ((problem targets config).solve (List.range targets.length) sources'
      fun _ => 0).1 =
        ((problem targets' config).solve (List.range targets'.length) sources' fun _ => 0).1 :=
    le_antisymm (solve_fst_le_of_perm_targets ht.symm config sources')
      (solve_fst_le_of_perm_targets ht config sources')
  calc (planLowCostMigration sources targets config).objective config
      = _ := hvalue
    _ = _ := hsources
    _ = _ := htargets
    _ = (planLowCostMigration sources' targets' config).objective config := hvalue'.symm

/-- A context of `numTokens` tokens with the payload's defaults. -/
def plainContext (instanceId nodeId : String) (numTokens : ℤ) : ContextMetadata where
  requestId := none
  instanceId := instanceId
  nodeId := nodeId
  numTokens := numTokens
  contextBlocks := 0
  tokens := []
  cacheBlockSize := 0
  cacheDtype := ""
  cacheLayout := ""
  reusableTokensByTarget := []
  reusableBlocksByTarget := []
  metadata := []

/-- A target with one slot and the payload's defaults. -/
def plainTarget (instanceId nodeId : String) (warmupCost : ℚ) : MigrationTarget where
  instanceId := instanceId
  nodeId := nodeId
  capacity := 1
  warmupCost := warmupCost
  concurrency := 0
  maxQueueLength := 0
  queueDepth := none
  queuePenalty := 0
  metadata := []

/-- Two contexts and two targets, in both orders, under the default settings. -/
theorem planLowCostMigration_swap_pair :
    let a := plainContext "i0" "n0" 8
    let b := plainContext "i1" "n1" 3
    let t := plainTarget "t0" "n0" 0
    let u := plainTarget "t1" "n1" 5
    let config : PlannerConfig := ⟨fun _ => none, none⟩
    (planLowCostMigration [a, b] [t, u] config).totalEstimatedCost +
        unmatchedPenalty config *
          (planLowCostMigration [a, b] [t, u] config).unassignedContexts.length =
      (planLowCostMigration [b, a] [u, t] config).totalEstimatedCost +
        unmatchedPenalty config *
          (planLowCostMigration [b, a] [u, t] config).unassignedContexts.length :=
  planLowCostMigration_perm (List.Perm.swap _ _ _) (List.Perm.swap _ _ _) _

end ContextMigration
end SpotServe
