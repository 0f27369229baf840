import SpotServe.ContextMigration.ExpertDispatch

/-!
# What a migration costs

`estimate_migration_cost` adds three parts: moving the cached context, the expert dispatch the
target would cause, and the queue the context would join.  Only the last one looks at how many
contexts are already planned for the target (`planned_requests_ahead`), and only through the
target: `estimateMigrationCost_eq` is the separation the planner's order independence rests on.
-/

namespace SpotServe
namespace ContextMigration

/-! ## Reusable context -/

/-- `_reuse_value`: a per-target entry (by instance, then by node) wins over the ratio. -/
def reuseValue (source : ContextMetadata) (target : MigrationTarget)
    (valuesByTarget : List (String × ℤ)) (totalValue : ℤ) (sameNodeRatio crossNodeRatio : ℚ) : ℤ :=
  match valuesByTarget.lookup target.instanceId with
  | some value => max 0 (min totalValue value)
  | none =>
    match valuesByTarget.lookup target.nodeId with
    | some value => max 0 (min totalValue value)
    | none =>
      let ratio := if source.nodeId = target.nodeId then sameNodeRatio else crossNodeRatio
      max 0 (min totalValue (Py.round (totalValue * ratio)))

/-- `reusable_context`. -/
def reusableContext (source : ContextMetadata) (target : MigrationTarget)
    (config : PlannerConfig) : ℤ × ℤ :=
  (reuseValue source target source.reusableTokensByTarget source.numTokens
      (positiveFloat config "same_node_token_reuse_ratio" 1)
      (positiveFloat config "cross_node_token_reuse_ratio" 0),
    reuseValue source target source.reusableBlocksByTarget source.contextBlocks
      (positiveFloat config "same_node_block_reuse_ratio" 1)
      (positiveFloat config "cross_node_block_reuse_ratio" 0))

/-! ## The three parts -/

/-- What `estimate_kv_migration_cost` reports. -/
structure KvMigration where
  cost : ℚ
  baseMigrationCost : ℚ
  tokenMigrationCost : ℚ
  contextBlockMigrationCost : ℚ
  warmupCost : ℚ
  crossNodePenaltyCost : ℚ
  reusableTokens : ℤ
  reusableContextBlocks : ℤ
  nonReusableTokens : ℤ
  nonReusableContextBlocks : ℤ

/-- `estimate_kv_migration_cost`. -/
def estimateKvMigrationCost (source : ContextMetadata) (target : MigrationTarget)
    (config : PlannerConfig) (includeWarmup : Bool) : KvMigration :=
  let reusable := reusableContext source target config
  let nonReusableTokens := max (source.numTokens - reusable.1) 0
  let nonReusableBlocks := max (source.contextBlocks - reusable.2) 0
  let base := positiveFloat config "base_migration_cost" 0
  let tokenCost := nonReusableTokens * positiveFloat config "token_transfer_cost" 1
  let blockCost := nonReusableBlocks * positiveFloat config "context_block_transfer_cost" 4
  let warmup := if includeWarmup then target.warmupCost else 0
  let crossNode :=
    if source.nodeId ≠ target.nodeId then positiveFloat config "cross_node_penalty" 10 else 0
  { cost := base + tokenCost + blockCost + warmup + crossNode
    baseMigrationCost := base
    tokenMigrationCost := tokenCost
    contextBlockMigrationCost := blockCost
    warmupCost := warmup
    crossNodePenaltyCost := crossNode
    reusableTokens := reusable.1
    reusableContextBlocks := reusable.2
    nonReusableTokens := nonReusableTokens
    nonReusableContextBlocks := nonReusableBlocks }

/-- What `estimate_queue_penalty_cost` reports. -/
structure QueuePenalty where
  queueDepth : ℤ
  queueCapacity : ℤ
  queuePressure : ℚ
  cost : ℚ

/-- `estimate_queue_penalty_cost`. -/
def estimateQueuePenaltyCost (target : MigrationTarget) (config : PlannerConfig)
    (plannedRequestsAhead : ℤ) : QueuePenalty :=
  let currentDepth := target.queueDepth.getD target.concurrency
  let queueDepth := max 0 currentDepth + max 0 plannedRequestsAhead
  -- without a queue length of its own, the target is as long as what it holds and can take
  let queueCapacity :=
    if target.maxQueueLength ≤ 0 ∧ 0 < target.capacity then queueDepth + target.capacity
    else target.maxQueueLength
  let queuePressure : ℚ :=
    if 0 < queueCapacity then min 1 ((queueDepth : ℚ) / queueCapacity) else 0
  { queueDepth := queueDepth
    queueCapacity := max 0 queueCapacity
    queuePressure := queuePressure
    cost :=
      max 0 target.queuePenalty +
        queueDepth * positiveFloat config "queue_penalty_weight" 0 +
        queuePressure * positiveFloat config "queue_pressure_weight" 0 }

/-- `estimate_migration_cost`: the cost, the reusable tokens and the reusable blocks. -/
def estimateMigrationCost (source : ContextMetadata) (target : MigrationTarget)
    (config : PlannerConfig) (includeWarmup : Bool) (plannedRequestsAhead : ℤ) : ℚ × ℤ × ℤ :=
  let kv := estimateKvMigrationCost source target config includeWarmup
  (kv.cost + (estimateExpertDispatchCost source target config).cost +
      (estimateQueuePenaltyCost target config plannedRequestsAhead).cost,
    kv.reusableTokens, kv.reusableContextBlocks)

/-! ## Separation -/

/-- The part of the cost that does not depend on the position of the context. -/
def pairCost (source : ContextMetadata) (target : MigrationTarget) (config : PlannerConfig) : ℚ :=
  (estimateKvMigrationCost source target config false).cost +
    (estimateExpertDispatchCost source target config).cost

/-- **Separation.**  The position enters only through the target's queue. -/
theorem estimateMigrationCost_eq (source : ContextMetadata) (target : MigrationTarget)
    (config : PlannerConfig) (plannedRequestsAhead : ℤ) :
    (estimateMigrationCost source target config false plannedRequestsAhead).1 =
      pairCost source target config +
        (estimateQueuePenaltyCost target config plannedRequestsAhead).cost := rfl

/-- Warm-up is one summand of the cost. -/
theorem estimateMigrationCost_warmup (source : ContextMetadata) (target : MigrationTarget)
    (config : PlannerConfig) (includeWarmup : Bool) (plannedRequestsAhead : ℤ) :
    (estimateMigrationCost source target config includeWarmup plannedRequestsAhead).1 =
      (estimateMigrationCost source target config false plannedRequestsAhead).1 +
        if includeWarmup then target.warmupCost else 0 := by
  unfold estimateMigrationCost estimateKvMigrationCost
  cases includeWarmup
  · simp
  · simp only [if_true, Bool.false_eq_true, if_false]
    ring

end ContextMigration
end SpotServe
