import Mathlib.Data.Finset.Insert
import SpotServe.ContextMigration.Cost

/-!
# The planner

`plan_low_cost_migration` asks `_fixed_warmup_assignment` for one choice per source, a target
index or `-1`, and then walks over the choices once more: it rebuilds every cost from its own
counters (which targets it has opened, how many contexts it has put on each) and records a plan
or an unassigned context.

The recursion `solve` carries the remaining capacities of the targets and a bit mask of the
targets that have been opened.  Its memo table does not change what it returns.  A choice `-1`
is `none` here.
-/

namespace SpotServe
namespace ContextMigration

/-! ## The dynamic program -/

section Solve

variable (targets : List MigrationTarget) (config : PlannerConfig) (unmatchedPenalty : ℚ)

/-- `solve` of `_fixed_warmup_assignment`, on the sources from `source_index` on. -/
def solve : List ContextMetadata → List ℕ → ℕ → ℚ × List (Option ℕ)
  | [], _, _ => (0, [])
  | source :: rest, remainingCapacities, openedTargets =>
    let skipped := solve rest remainingCapacities openedTargets
    targets.zipIdx.foldl
      (fun best (targetAt : MigrationTarget × ℕ) =>
        let target := targetAt.1
        let targetIndex := targetAt.2
        if remainingCapacities.getD targetIndex 0 ≤ 0 then best
        else
          let plannedRequestsAhead : ℤ :=
            target.capacity - (remainingCapacities.getD targetIndex 0 : ℕ)
          let cost :=
            (estimateMigrationCost source target config false plannedRequestsAhead).1 +
              if openedTargets.testBit targetIndex then 0 else target.warmupCost
          let continuation := solve rest
            (remainingCapacities.set targetIndex (remainingCapacities.getD targetIndex 0 - 1))
            (openedTargets ||| 1 <<< targetIndex)
          if cost + continuation.1 < best.1 then
            (cost + continuation.1, some targetIndex :: continuation.2)
          else best)
      (skipped.1 + unmatchedPenalty, none :: skipped.2)

/-- `_fixed_warmup_assignment`. -/
def fixedWarmupAssignment (sources : List ContextMetadata) : List (Option ℕ) :=
  (solve targets config unmatchedPenalty sources (targets.map MigrationTarget.capacity) 0).2

end Solve

/-! ## Building the plans -/

/-- What the planner records for a context it moves. -/
structure MigrationPlan where
  requestId : Option String
  oldInstanceId : String
  newInstanceId : String
  oldNodeId : String
  newNodeId : String
  estimatedCost : ℚ
  kvMigrationCost : ℚ
  reusableTokens : ℤ
  reusableContextBlocks : ℤ
  reason : String
  dispatch : ExpertDispatch
  queueDepth : ℤ
  queuePressure : ℚ
  queuePenaltyCost : ℚ

/-- The plan that moves `source` to `target`. -/
def migrationPlan (source : ContextMetadata) (target : MigrationTarget) (config : PlannerConfig)
    (includeWarmup : Bool) (plannedRequestsAhead : ℕ) : MigrationPlan :=
  let estimate :=
    estimateMigrationCost source target config includeWarmup plannedRequestsAhead
  let dispatch := estimateExpertDispatchCost source target config
  let queue := estimateQueuePenaltyCost target config plannedRequestsAhead
  { requestId := source.requestId
    oldInstanceId := source.instanceId
    newInstanceId := target.instanceId
    oldNodeId := source.nodeId
    newNodeId := target.nodeId
    estimatedCost := estimate.1
    kvMigrationCost := (estimateKvMigrationCost source target config includeWarmup).cost
    reusableTokens := estimate.2.1
    reusableContextBlocks := estimate.2.2
    reason := if dispatch.available then "kv_and_expert_locality" else "low_cost_mapping"
    dispatch := dispatch
    queueDepth := queue.queueDepth
    queuePressure := queue.queuePressure
    queuePenaltyCost := queue.cost }

/-- The counters of the plan loop and what it has recorded. -/
structure PlanState where
  plans : List MigrationPlan
  unassignedContexts : List ContextMetadata
  openedTargets : Finset ℕ
  assignedCountsByTarget : ℕ → ℕ

/-- One round of the plan loop. -/
def planStep (targets : List MigrationTarget) (config : PlannerConfig) (st : PlanState)
    (assigned : ContextMetadata × Option ℕ) : PlanState :=
  match assigned.2 with
  | none => { st with unassignedContexts := st.unassignedContexts ++ [assigned.1] }
  | some slot =>
    match targets[slot]? with
    | none => st
    | some target =>
      { plans := st.plans ++
          [migrationPlan assigned.1 target config (decide (slot ∉ st.openedTargets))
            (st.assignedCountsByTarget slot)]
        unassignedContexts := st.unassignedContexts
        openedTargets := insert slot st.openedTargets
        assignedCountsByTarget :=
          Function.update st.assignedCountsByTarget slot (st.assignedCountsByTarget slot + 1) }

/-- The plan loop before its first round. -/
def planInit : PlanState := ⟨[], [], ∅, fun _ => 0⟩

/-- `build_cost_matrix`: one column per slot of a target. -/
def buildCostMatrix (sources : List ContextMetadata) (targets : List MigrationTarget)
    (config : PlannerConfig) (includeWarmup : Bool) : List (List ℚ) :=
  sources.map fun source =>
    (targets.flatMap fun target => List.replicate target.capacity target).map fun target =>
      (estimateMigrationCost source target config includeWarmup 0).1

/-- What the planner decides to do with the contexts as a whole. -/
inductive MigrationAction where
  | noContext
  | migrate
  | noTargetCapacity
  deriving DecidableEq

/-- The planner's answer. -/
structure MigrationDecision where
  action : MigrationAction
  plans : List MigrationPlan
  unassignedContexts : List ContextMetadata
  totalEstimatedCost : ℚ
  totalReusableTokens : ℤ
  totalContextTokens : ℤ
  totalReusableContextBlocks : ℤ
  totalContextBlocks : ℤ
  reuseRatio : ℚ
  costMatrix : List (List ℚ)
  totalKvMigrationCost : ℚ
  totalExpertDispatchCost : ℚ
  totalQueuePenaltyCost : ℚ
  avgQueuePressure : ℚ
  maxQueueDepth : ℤ

/-- `unmatched_penalty`. -/
def unmatchedPenalty (config : PlannerConfig) : ℚ :=
  positiveFloat config "unmatched_penalty" 1000000

/-- `plan_low_cost_migration`. -/
def planLowCostMigration (sources : List ContextMetadata) (targets : List MigrationTarget)
    (config : PlannerConfig) : MigrationDecision :=
  let assignments := fixedWarmupAssignment targets config (unmatchedPenalty config) sources
  let st := (sources.zip assignments).foldl (planStep targets config) planInit
  let plans := st.plans
  let totalContextTokens := (sources.map ContextMetadata.numTokens).sum
  let totalContextBlocks := (sources.map ContextMetadata.contextBlocks).sum
  let totalReusableTokens := (plans.map MigrationPlan.reusableTokens).sum
  let totalReusableBlocks := (plans.map MigrationPlan.reusableContextBlocks).sum
  -- blocks are the measure when there are any, tokens otherwise
  let reuseDenominator := if totalContextBlocks = 0 then totalContextTokens else totalContextBlocks
  let reuseNumerator := if totalContextBlocks = 0 then totalReusableTokens else totalReusableBlocks
  { action :=
      if sources = [] then .noContext else if plans = [] then .noTargetCapacity else .migrate
    plans := plans
    unassignedContexts := st.unassignedContexts
    totalEstimatedCost := (plans.map MigrationPlan.estimatedCost).sum
    totalReusableTokens := totalReusableTokens
    totalContextTokens := totalContextTokens
    totalReusableContextBlocks := totalReusableBlocks
    totalContextBlocks := totalContextBlocks
    reuseRatio := if reuseDenominator = 0 then 0 else (reuseNumerator : ℚ) / reuseDenominator
    costMatrix := buildCostMatrix sources targets config false
    totalKvMigrationCost := (plans.map MigrationPlan.kvMigrationCost).sum
    totalExpertDispatchCost := (plans.map fun plan => plan.dispatch.cost).sum
    totalQueuePenaltyCost := (plans.map MigrationPlan.queuePenaltyCost).sum
    avgQueuePressure :=
      if plans = [] then 0 else (plans.map MigrationPlan.queuePressure).sum / plans.length
    maxQueueDepth := (plans.map MigrationPlan.queueDepth).foldl max 0 }

end ContextMigration
end SpotServe
