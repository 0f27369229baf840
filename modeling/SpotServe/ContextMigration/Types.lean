import SpotServe.Library.PyValue

/-!
# Contexts, targets and the planner's settings

The data of `sllm/spot/context_migration.py`.  Costs are exact rationals.

A `PlannerConfig` is the mapping the planner is given.  Its numbers are read through
`_positive_float`, which distinguishes an absent key from an explicit `None` only by treating
both as the default; `enable_moe_expert_locality` alone may be any value.
-/

namespace SpotServe
namespace ContextMigration

open Py

/-- A context to be moved: one request on one instance. -/
structure ContextMetadata where
  requestId : Option String
  instanceId : String
  nodeId : String
  numTokens : ℤ
  contextBlocks : ℤ
  tokens : List ℤ
  cacheBlockSize : ℤ
  cacheDtype : String
  cacheLayout : String
  reusableTokensByTarget : List (String × ℤ)
  reusableBlocksByTarget : List (String × ℤ)
  metadata : Dict

/-- An instance that can take contexts over. -/
structure MigrationTarget where
  instanceId : String
  nodeId : String
  capacity : ℕ
  warmupCost : ℚ
  concurrency : ℤ
  maxQueueLength : ℤ
  queueDepth : Option ℤ
  queuePenalty : ℚ
  metadata : Dict

/-- The planner's settings: a number key is absent, `None` or a number. -/
structure PlannerConfig where
  number : String → Option (Option ℚ)
  enableMoeExpertLocality : Option Value

/-- `_positive_float`. -/
def positiveFloat (config : PlannerConfig) (key : String) (default : ℚ) : ℚ :=
  match config.number key with
  | some (some value) => max 0 value
  | some none => max 0 default
  | none => max 0 default

/-- `_to_bool`. -/
def toBool (value : Option Value) (default : Bool) : Bool :=
  match value with
  | none => default
  | some .none => default
  | some (.str s) =>
    ["1", "true", "yes", "on"].contains (lower (strip s))
  | some v => v.truthy

/-- `_as_non_negative_int`. -/
def asNonNegativeInt (value : Option Value) : Option ℕ :=
  (value.bind Value.int?).map Int.toNat

/-- `_metadata_value`: the first of the keys that is present. -/
def metadataValue (metadata : Dict) (keys : List String) : Option Value :=
  keys.findSome? fun key => metadata.lookup key

end ContextMigration
end SpotServe
