import SpotServe.Reparallelization.DynamicPlanner
import SpotServe.Reparallelization.RouteCost
import Mathlib.Data.Prod.Lex

/-!
# The calibrated recovery planner

`plan_calibrated_recovery` (`sllm/spot/moe_route_cost.py`): the group of GPUs on which a frozen
request is taken up again.  Every usable candidate gets a row with its predicted completion.  A
migration takes the smallest row.  Otherwise the best row of each tensor-parallel size becomes a
configuration, the reparallelization planner chooses among these, and the smallest row of the size
that it chose is taken.

* `recoveryRows`: the rows.
* `bestByTp`, `recoveryConfig`, `recoveryRequest`: the call of the reparallelization planner.
* `planCalibratedRecovery`: the decision.
-/

namespace SpotServe
namespace Reparallelization

open Py Runs Selection

/-- The kinds of comparison. -/
inductive RecoveryKind where
  | migration
  | reparallelization
  | overall
  deriving DecidableEq, Repr

/-- The name of a kind. -/
def RecoveryKind.name : RecoveryKind → String
  | .migration => "migration"
  | .reparallelization => "reparallelization"
  | .overall => "overall"

/-- The kind of a name. -/
def RecoveryKind.ofName? (text : String) : Option RecoveryKind :=
  [RecoveryKind.migration, .reparallelization, .overall].find? fun kind => kind.name = text

/-- `allowed`: the groups of GPUs that a kind compares. -/
def RecoveryKind.allowed : RecoveryKind → List (List ℤ)
  | .migration => [[1], [2], [3]]
  | .overall => [[1], [2], [3], [1, 3]]
  | .reparallelization => [[1], [1, 3]]

/-- A row: a prediction and what it costs to complete there. -/
structure RecoveryRow extends Prediction where
  residentEngineVerified : Bool
  engineReadyCostMs : ℚ
  selectedServiceMs : ℚ
  predictedCompletionMs : ℚ

/-- A group may be taken: the kind compares it, and its GPUs are available. -/
def usableGroup (kind : RecoveryKind) (available group : List ℤ) : Bool :=
  kind.allowed.contains group && group.all available.contains

/-- The row of a prediction. -/
def recoveryRow (moeAware : Bool) (residentGroups : List (List ℤ)) (prediction : Prediction) :
    RecoveryRow :=
  let resident := residentGroups.contains prediction.physicalGpuIndices
  let cost := if moeAware then prediction.routeServiceMs else prediction.genericServiceMs
  let ready := if resident then 0 else prediction.engineReadyMs
  { prediction with
    residentEngineVerified := resident
    engineReadyCostMs := ready
    selectedServiceMs := cost
    predictedCompletionMs := ready + prediction.hostHandoffMs + cost }

/-- `rows`. -/
def recoveryRows (kind : RecoveryKind) (moeAware : Bool) (available : List ℤ)
    (residentGroups : List (List ℤ)) (predictions : List Prediction) : List RecoveryRow :=
  (predictions.filter fun prediction =>
    usableGroup kind available prediction.physicalGpuIndices).map
      (recoveryRow moeAware residentGroups)

/-- `(row["predicted_completion_ms"], row["candidate_id"])`. -/
def completionKey (row : RecoveryRow) : ℚ ×ₗ String :=
  toLex (row.predictedCompletionMs, row.candidateId)

/-- The loop body: the row is kept where it costs less than what is kept for its size. -/
def keepByTp (found : OrderedDict ℕ RecoveryRow) (row : RecoveryRow) : OrderedDict ℕ RecoveryRow :=
  match found.get? row.tensorParallelSize with
  | some kept =>
    if row.predictedCompletionMs < kept.predictedCompletionMs then
      found.set row.tensorParallelSize row
    else found
  | none => found.set row.tensorParallelSize row

/-- `best_by_tp`: of each tensor-parallel size the first of the smallest rows. -/
def bestByTp (rows : List RecoveryRow) : OrderedDict ℕ RecoveryRow := rows.foldl keepByTp .empty

/-- `f"gpu-{g}"`. -/
def gpuNode (gpu : ℤ) : String := "gpu-" ++ toString gpu

/-- The nodes: one for each available GPU. -/
def gpuNodes (available : List ℤ) : WorkerNodes :=
  available.foldl (fun nodes gpu => nodes.set (gpuNode gpu)
    [("free_gpu", .int 1), ("total_gpu", .int 1), ("state", .str "ready")]) .empty

/-- `planner_config`. -/
def recoveryPlannerConfig : Dict :=
  [("enable_workload_cost_model", .bool true), ("disable_logical_expert_placement", .bool true),
    ("min_tensor_parallel_size", .int 1), ("max_tensor_parallel_size", .int 2),
    ("batch_size", .int 1), ("arrival_rate_req_s", .int 0), ("base_score_weight", .int 0),
    ("throughput_score_weight", .int 0), ("latency_penalty_weight", .int 1),
    ("load_time_penalty_weight", .int 1), ("migration_cost_penalty_weight", .int 1),
    ("queue_penalty_weight", .int 0), ("expert_weight_movement_penalty_weight", .int 0),
    ("replan_window_penalty_weight", .int 0)]

section Plan

variable (env : RouteCostEnvironment)

/-- A float as a value. -/
def floatValue (q : ℚ) : Value := .float q (env.floatText q)

/-- The configuration of a row. -/
def recoveryConfig (row : RecoveryRow) : Dict :=
  [("tensor_parallel_size", .int row.tensorParallelSize), ("pipeline_parallel_size", .int 1),
    ("data_parallel_size", .int 1), ("replica_count", .int 1),
    ("enable_expert_parallel", .bool false), ("num_gpus", .int row.tensorParallelSize),
    ("latency_estimate_ms", floatValue env row.selectedServiceMs),
    ("throughput_estimate_req_s", .int 0),
    ("load_time_estimate_ms", floatValue env row.engineReadyCostMs),
    ("migration_cost_estimate_ms", floatValue env row.hostHandoffMs)]

/-- The call of `plan_dynamic_reparallelization`. -/
def recoveryRequest (available : List ℤ) (candidates : List Dict) : PlanRequest where
  modelName := "granite-moe"
  workerNodes := gpuNodes available
  modelConfig := [("backend", .str "vllm"), ("num_gpus", .int 1),
    ("backend_capability", .dict [("supported_configs", .list (candidates.map .dict))])]
  plannerConfig := recoveryPlannerConfig
  event := some "calibrated_forced_recovery"
  backend := some "vllm"
  supportedConfigs := candidates.map .mapping
  placementLookups := env.placementLookups

/-- `planner["selected_tensor_parallel_size"]`. -/
def selectedTensorParallelSize (decision : Decision) : ℕ :=
  (decision.selectedConfig.map fun config => config.shape.tensorParallelSize).getD 0

/-- The decision. -/
structure RecoveryDecision where
  kind : RecoveryKind
  moeAware : Bool
  selectedCost : RecoveryRow
  candidates : List RecoveryRow
  parallelPlan : ParallelPlan ExpertPlacement.ExpertPlacementPlan
  plannerDecision : Option Decision
  frozenPrefixSha256 : String
  calibrationProtocolSha256 : Option String

/-- `parallel_plan`. -/
def recoveryPlan (selected : RecoveryRow) : ParallelPlan ExpertPlacement.ExpertPlacementPlan where
  modelName := "granite-moe"
  backend := "vllm"
  tensorParallelSize := max 1 selected.tensorParallelSize
  dataParallelSize := 1
  numGpus := max 1 selected.tensorParallelSize
  targetNodes := selected.physicalGpuIndices.map gpuNode
  reason := "prior_route_calibrated_recovery"
  tensorParallelSize_pos := lt_max_of_lt_left Nat.one_pos
  dataParallelSize_pos := Nat.one_pos
  pipelineParallelSize_pos := Nat.one_pos
  replicaCount_pos := Nat.one_pos
  numGpus_pos := lt_max_of_lt_left Nat.one_pos

/-- `min(rows, key=..)`. -/
def smallestRow (rows : List RecoveryRow) (text : String) : Except RouteCostError RecoveryRow :=
  match best completionKey rows with
  | some row => .ok row
  | none => .error (.valueError text)

/-- The choice: directly, or among the tensor-parallel sizes by the reparallelization planner. -/
def selectRow (kind : RecoveryKind) (available : List ℤ) (rows : List RecoveryRow) :
    Except RouteCostError (RecoveryRow × Option Decision) := do
  let selected ← smallestRow rows "no calibrated physical GPU plan is available"
  if kind = .migration then return (selected, none)
  else do
    let planner ← (planDynamicReparallelization (recoveryRequest env available
      ((bestByTp rows).values.map (recoveryConfig env)))).mapError .planning
    let selected ← smallestRow
      (rows.filter fun row => row.tensorParallelSize = selectedTensorParallelSize planner)
      "min() iterable argument is empty"
    return (selected, some planner)

/-- `plan_calibrated_recovery`. -/
def planCalibratedRecovery (data : CalibrationData) (sourceCase : SourceCase) (kind : String)
    (moeAware : Bool) (available : List ℤ) (residentGroups : List (List ℤ)) (signal : String) :
    Except RouteCostError RecoveryDecision :=
  match RecoveryKind.ofName? kind with
  | none => .error (.valueError "unknown comparison kind")
  | some kind => do
    let predictions ← predictCandidates env data sourceCase
      (if moeAware then signal else "removed") 20260914 (decide (kind = .overall))
    let rows := recoveryRows kind moeAware available residentGroups predictions
    let selection ← selectRow env kind available rows
    return {
      kind := kind
      moeAware := moeAware
      selectedCost := selection.1
      candidates := rows
      parallelPlan := recoveryPlan selection.1
      plannerDecision := selection.2
      frozenPrefixSha256 := sourceCase.frozen.fullPrefixSha256
      calibrationProtocolSha256 := data.protocolSha256 }

end Plan

end Reparallelization
end SpotServe
