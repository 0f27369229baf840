import SpotServe.Reparallelization.WorkerNodes
import Mathlib.Data.List.ReduceOption

/-!
# Candidate configurations

The two sources of candidates of `plan_dynamic_reparallelization`
(`sllm/spot/reparallelization.py`): the configurations a backend says it supports
(`supportedConfigCandidates`), and those that are made up from the number of GPUs when there is no
such list (`generateParallelCandidates`).

The planner's configuration and the supported configurations are payloads, read key by key; an
object among the supported configurations is the dictionary of its attributes.  Floats are exact
rationals.

`Feasible` is what both sources promise of a candidate, at least one GPU and no more than there are.
-/

namespace SpotServe
namespace Reparallelization

open Py Runs Selection ExpertPlacement

/-! ## Reading settings -/

/-- `_positive_int`. -/
def positiveInt (config : Dict) (key : String) (default : ℤ) : Except PlanningFailure ℕ :=
  (intOr (config.lookup key) default).map fun value => (max value 1).toNat

/-- `_safe_float`. -/
def safeFloat (value : Value) (default : ℚ) : ℚ := value.float?.getD default

/-- `_nonnegative_float`. -/
def nonnegativeFloat (value : Value) (default : ℚ := 0) : ℚ := max 0 (safeFloat value default)

/-- `_safe_int`. -/
def safeInt (value : Value) (default : ℤ) : ℤ := value.int?.getD default

/-- `bool(config.get(key, False))`. -/
def flag (config : Dict) (key : String) : Bool := ((config.lookup key).getD (.bool false)).truthy

/-- `config.get(key)` compared with a word. -/
def isWord (config : Dict) (key word : String) : Bool :=
  match config.lookup key with
  | some (.str text) => text = word
  | _ => false

/-! ## Candidates -/

/-- How many GPUs a configuration uses, and how. -/
structure ParallelShape where
  tensorParallelSize : ℕ
  pipelineParallelSize : ℕ
  dataParallelSize : ℕ
  replicaCount : ℕ
  totalGpus : ℕ
  enableExpertParallel : Bool
  deriving DecidableEq

/-- `effective_expert_parallel_size`. -/
def ParallelShape.effectiveExpertParallelSize (shape : ParallelShape) : ℕ :=
  if shape.enableExpertParallel then shape.tensorParallelSize * shape.dataParallelSize else 1

/-- `ParallelConfig`.  What is copied out of the placement plan for the log is left out; the plan
itself is here. -/
structure ParallelConfig where
  shape : ParallelShape
  unusedGpus : ℤ
  score : ℚ
  reason : String
  baseScore : ℚ := 0
  workloadScoreDelta : ℚ := 0
  arrivalRateReqS : ℚ := 0
  batchSize : ℕ := 0
  latencyEstimateMs : ℚ := 0
  throughputEstimateReqS : ℚ := 0
  loadTimeEstimateMs : ℚ := 0
  migrationCostEstimateMs : ℚ := 0
  expertWeightMovementCostEstimateMs : Option ℚ := some 0
  queuePenaltyMs : ℚ := 0
  replanWindowCostMs : ℚ := 0
  replanWindowPenaltyCostMs : ℚ := 0
  expertPlacementFingerprint : String := ""
  expertPlacementPlan : Option ExpertPlacementPlan := none
  placementProfileAvailable : Bool := false
  placementProfileId : String := ""
  placementProfileMatchReason : String := "not_requested"
  placementProfileWorkloadBucketId : String := ""

/-- `sorted(items, key=.., reverse=True)` on tuples of numbers; items of equal key stay in their
order. -/
def sortedDescending (key : ParallelConfig → List ℚ) (items : List ParallelConfig) :
    List ParallelConfig :=
  items.insertionSort fun a b => key b ≤ key a

@[simp] theorem mem_sortedDescending (key : ParallelConfig → List ℚ) {items : List ParallelConfig}
    {c : ParallelConfig} : c ∈ sortedDescending key items ↔ c ∈ items :=
  List.mem_insertionSort _

/-- Between two keys the first components decide, and then the others. -/
theorem of_key_cons_le {x y : ℚ} {key key' : List ℚ} (h : x :: key ≤ y :: key') :
    x < y ∨ x = y ∧ key ≤ key' := by
  rcases lt_or_eq_of_le h with h | h
  · rcases List.cons_lt_cons_iff.mp h with hlt | ⟨heq, h⟩
    · exact Or.inl hlt
    · exact Or.inr ⟨heq, h.le⟩
  · obtain ⟨heq, h⟩ := List.cons.inj h
    exact Or.inr ⟨heq, h.le⟩

/-- The first of the sorted candidates has the greatest key. -/
theorem key_le_head {key : ParallelConfig → List ℚ} {candidates rest : List ParallelConfig}
    {first c : ParallelConfig} (h : sortedDescending key candidates = first :: rest)
    (hc : c ∈ candidates) : key c ≤ key first := by
  have : Std.Total fun a b : ParallelConfig => key b ≤ key a :=
    ⟨fun a b => le_total (key b) (key a)⟩
  have : IsTrans ParallelConfig fun a b => key b ≤ key a := ⟨fun _ _ _ hab hbc => hbc.trans hab⟩
  have hsorted := List.pairwise_insertionSort (fun a b : ParallelConfig => key b ≤ key a) candidates
  rw [sortedDescending] at h
  rw [h, List.pairwise_cons] at hsorted
  have hmem : c ∈ first :: rest := by
    rw [← h]
    exact (List.mem_insertionSort _).mpr hc
  rcases List.mem_cons.mp hmem with rfl | hmem
  · exact le_rfl
  · exact hsorted.1 c hmem

/-- `_candidate_score`. -/
def candidateScore (totalGpus replicaCount replicaGpus targetReplicaGpus unusedGpus : ℤ) : ℚ :=
  ((totalGpus * 10000 + replicaCount * 100 - |replicaGpus - targetReplicaGpus| * 1000 -
    unusedGpus : ℤ) : ℚ)

/-! ## Made up candidates -/

/-- The loop body of `generate_parallel_candidates`. -/
def generatedCandidate (availableGpus minReplicaCount targetReplicaGpus tensorParallelSize
    pipelineParallelSize : ℕ) : Option ParallelConfig :=
  let replicaGpus := tensorParallelSize * pipelineParallelSize
  let replicaCount := availableGpus / replicaGpus
  let totalGpus := replicaGpus * replicaCount
  if availableGpus < replicaGpus then none
  else if replicaCount < minReplicaCount then none
  else some {
    shape := {
      tensorParallelSize := tensorParallelSize
      pipelineParallelSize := pipelineParallelSize
      dataParallelSize := 1
      replicaCount := replicaCount
      totalGpus := totalGpus
      enableExpertParallel := false }
    unusedGpus := (availableGpus : ℤ) - totalGpus
    score := candidateScore totalGpus replicaCount replicaGpus targetReplicaGpus
      ((availableGpus : ℤ) - totalGpus)
    reason := "max_gpu_utilization_then_replica_count_then_current_replica_shape" }

/-- The sort key of made up candidates. -/
def generatedKey (c : ParallelConfig) : List ℚ :=
  [c.score, c.shape.replicaCount, c.shape.tensorParallelSize, -c.shape.pipelineParallelSize,
    -c.unusedGpus]

/-- The two loops of `generate_parallel_candidates`. -/
def candidateGrid (availableGpus minTensor maxTensor maxPipeline minReplicaCount
    targetReplicaGpus : ℕ) : List ParallelConfig :=
  (List.range' minTensor (maxTensor + 1 - minTensor)).flatMap fun tensor =>
    (List.range' 1 maxPipeline).filterMap fun pipeline =>
      generatedCandidate availableGpus minReplicaCount targetReplicaGpus tensor pipeline

/-- `generate_parallel_candidates`. -/
def generateParallelCandidates (availableGpus : ℤ) (config : Dict) :
    Except PlanningFailure (List ParallelConfig) :=
  if availableGpus ≤ 0 then .ok []
  else do
    let gpus := availableGpus.toNat
    let maxTensor ← positiveInt config "max_tensor_parallel_size" availableGpus
    let minTensor ← positiveInt config "min_tensor_parallel_size" 1
    let maxPipeline ← positiveInt config "max_pipeline_parallel_size" availableGpus
    let minReplicaCount ← positiveInt config "min_replica_count" 1
    let targetReplicaGpus ← positiveInt config "target_replica_gpus" 1
    let maxTensor := min maxTensor gpus
    return sortedDescending generatedKey (candidateGrid gpus (min minTensor maxTensor) maxTensor
      (min maxPipeline gpus) minReplicaCount targetReplicaGpus)

/-! ## Supported configurations -/

/-- An entry of `supported_configs`: a mapping, or an object by its attributes. -/
inductive SupportedConfig where
  | mapping (items : Dict)
  | object (attributes : Dict)

/-- What is read off a supported configuration. -/
structure ConfigRow where
  tensorParallelSize : ℤ
  pipelineParallelSize : ℤ
  dataParallelSize : ℤ
  replicaCount : ℤ
  enableExpertParallel : Bool
  totalGpus : ℤ
  reason : String
  batchSize : ℕ := 0
  latencyEstimateMs : ℚ := 0
  throughputEstimateReqS : ℚ := 0
  loadTimeEstimateMs : ℚ := 0
  migrationCostEstimateMs : ℚ := 0
  expertWeightMovementCostEstimateMs : ℚ := 0

/-- The estimates, which are optional in both forms. -/
def ConfigRow.withEstimates (row : ConfigRow) (plan : Dict) : ConfigRow :=
  let estimate := fun keys => nonnegativeFloat (getFirst plan keys (.int 0))
  { row with
    batchSize := (safeInt ((plan.lookup "batch_size").getD (.int 0)) 0).toNat
    latencyEstimateMs := estimate ["latency_estimate_ms"]
    throughputEstimateReqS := estimate ["throughput_estimate_req_s", "throughput_req_s"]
    loadTimeEstimateMs := estimate ["load_time_estimate_ms"]
    migrationCostEstimateMs := estimate ["migration_cost_estimate_ms"]
    expertWeightMovementCostEstimateMs := estimate ["expert_weight_movement_cost_estimate_ms"] }

/-- Reading a mapping: absent and empty values count as one. -/
def readMapping (plan : Dict) : Except PlanningFailure ConfigRow := do
  let tensor ← intOr (plan.lookup "tensor_parallel_size") 1
  let pipeline ← intOr (plan.lookup "pipeline_parallel_size") 1
  let data ← intOr (plan.lookup "data_parallel_size") 1
  let replicas ← intOr ((plan.lookup "replica_count").or (plan.lookup "num_replicas")) 1
  let expert ← intOr ((plan.lookup "effective_expert_parallel_size").or
    (plan.lookup "expert_parallel_size")) 1
  let gpus ← intOr (plan.lookup "num_gpus") 1
  let row : ConfigRow := {
    tensorParallelSize := tensor
    pipelineParallelSize := pipeline
    dataParallelSize := data
    replicaCount := replicas
    enableExpertParallel :=
      match plan.lookup "enable_expert_parallel" with
      | some value => value.truthy
      | none => 1 < expert
    totalGpus := gpus
    reason := ((plan.lookup "reason").getD (.str "backend_capability")).toStr }
  return row.withEstimates plan

/-- `plan.name`. -/
def getAttribute (attributes : Dict) (name : String) : Except PlanningFailure Value :=
  match attributes.lookup name with
  | some value => .ok value
  | none => .error (.missingAttribute name)

/-- Reading an object. -/
def readObject (plan : Dict) : Except PlanningFailure ConfigRow := do
  let tensor ← getAttribute plan "tensor_parallel_size" >>= readInt
  let pipeline ← getAttribute plan "pipeline_parallel_size" >>= readInt
  let data ← getAttribute plan "data_parallel_size" >>= readInt
  let replicas ← getAttribute plan "replica_count" >>= readInt
  let expert ← getAttribute plan "enable_expert_parallel"
  let gpus ← getAttribute plan "num_gpus" >>= readInt
  let reason ← getAttribute plan "reason"
  let row : ConfigRow := {
    tensorParallelSize := tensor
    pipelineParallelSize := pipeline
    dataParallelSize := data
    replicaCount := replicas
    enableExpertParallel := expert.truthy
    totalGpus := gpus
    reason := reason.toStr }
  return row.withEstimates plan

/-- Reading a supported configuration. -/
def SupportedConfig.read : SupportedConfig → Except PlanningFailure ConfigRow
  | .mapping items => readMapping items
  | .object attributes => readObject attributes

/-- The limits of the planner's configuration. -/
structure Limits where
  targetReplicaGpus : ℕ
  minTensorParallelSize : ℕ
  maxTensorParallelSize : ℕ
  minDataParallelSize : ℕ
  maxDataParallelSize : ℕ
  minPipelineParallelSize : ℕ
  maxPipelineParallelSize : ℕ
  minReplicaCount : ℕ
  maxReplicaCount : ℕ

/-- Reading the limits. -/
def readLimits (config : Dict) (availableGpus : ℤ) : Except PlanningFailure Limits := do
  return {
    targetReplicaGpus := ← positiveInt config "target_replica_gpus" 1
    minTensorParallelSize := ← positiveInt config "min_tensor_parallel_size" 1
    maxTensorParallelSize := ← positiveInt config "max_tensor_parallel_size" availableGpus
    minDataParallelSize := ← positiveInt config "min_data_parallel_size" 1
    maxDataParallelSize := ← positiveInt config "max_data_parallel_size" availableGpus
    minPipelineParallelSize := ← positiveInt config "min_pipeline_parallel_size" 1
    maxPipelineParallelSize := ← positiveInt config "max_pipeline_parallel_size" availableGpus
    minReplicaCount := ← positiveInt config "min_replica_count" 1
    maxReplicaCount := ← positiveInt config "max_replica_count" availableGpus }

/-- The sizes of a configuration are within the limits. -/
def Limits.Admit (limits : Limits) (row : ConfigRow) : Prop :=
  (limits.minTensorParallelSize ≤ row.tensorParallelSize ∧
    row.tensorParallelSize ≤ limits.maxTensorParallelSize) ∧
  (limits.minDataParallelSize ≤ row.dataParallelSize ∧
    row.dataParallelSize ≤ limits.maxDataParallelSize) ∧
  (limits.minReplicaCount ≤ row.replicaCount ∧ row.replicaCount ≤ limits.maxReplicaCount) ∧
  limits.minPipelineParallelSize ≤ row.pipelineParallelSize ∧
    row.pipelineParallelSize ≤ limits.maxPipelineParallelSize

instance (limits : Limits) (row : ConfigRow) : Decidable (limits.Admit row) :=
  inferInstanceAs (Decidable (_ ∧ _))

/-- `tensor_parallel_size * pipeline_parallel_size * data_parallel_size`. -/
def ConfigRow.replicaGpus (row : ConfigRow) : ℤ :=
  row.tensorParallelSize * row.pipelineParallelSize * row.dataParallelSize

/-- The candidate a supported configuration becomes. -/
def ConfigRow.toCandidate (row : ConfigRow) (limits : Limits) (availableGpus : ℤ) :
    ParallelConfig where
  shape := {
    tensorParallelSize := row.tensorParallelSize.toNat
    pipelineParallelSize := row.pipelineParallelSize.toNat
    dataParallelSize := row.dataParallelSize.toNat
    replicaCount := row.replicaCount.toNat
    totalGpus := row.totalGpus.toNat
    enableExpertParallel := row.enableExpertParallel }
  unusedGpus := availableGpus - row.totalGpus
  score := candidateScore row.totalGpus row.replicaCount row.replicaGpus limits.targetReplicaGpus
    (availableGpus - row.totalGpus)
  reason := row.reason
  batchSize := row.batchSize
  latencyEstimateMs := row.latencyEstimateMs
  throughputEstimateReqS := row.throughputEstimateReqS
  loadTimeEstimateMs := row.loadTimeEstimateMs
  migrationCostEstimateMs := row.migrationCostEstimateMs
  expertWeightMovementCostEstimateMs := some row.expertWeightMovementCostEstimateMs

/-- The loop body of `_supported_config_candidates`, after reading: the sizes must be within the
limits, the GPUs available, and target nodes there. -/
def supportedCandidate (nodes : WorkerNodes) (config : Dict) (limits : Limits) (availableGpus : ℤ)
    (row : ConfigRow) : Except PlanningFailure (Option ParallelConfig) :=
  if ¬ limits.Admit row then .ok none
  else if availableGpus < row.totalGpus then .ok none
  else do
    require (¬ (isWord config "selection_policy" "spotserve_algorithm1" = true ∧
        row.totalGpus ≠ row.replicaGpus * row.replicaCount))
      PlanningFailure.profileGpuCountMismatch
    let targets ← selectTargetNodes nodes row.totalGpus (flag config "require_free_gpu_overlap")
    return if targets = [] then none else some (row.toCandidate limits availableGpus)

/-- The sort key of supported and of scored candidates. -/
def rankingKey (c : ParallelConfig) : List ℚ :=
  [c.score, c.shape.replicaCount, c.shape.tensorParallelSize, c.shape.effectiveExpertParallelSize,
    -c.shape.pipelineParallelSize, -c.unusedGpus]

/-- `_supported_config_candidates`. -/
def supportedConfigCandidates (supported : List SupportedConfig) (availableGpus : ℤ)
    (nodes : WorkerNodes) (config : Dict) : Except PlanningFailure (List ParallelConfig) :=
  if supported.isEmpty then .ok []
  else do
    let limits ← readLimits config availableGpus
    let candidates ← supported.mapM fun plan =>
      plan.read >>= supportedCandidate nodes config limits availableGpus
    return sortedDescending rankingKey candidates.reduceOption

/-! ## What the two sources promise -/

section Sources

variable {availableGpus : ℤ} {nodes : WorkerNodes} {config : Dict} {c : ParallelConfig}
  {candidates : List ParallelConfig}

/-- A candidate asks for at least one GPU and for no more than are available. -/
structure Feasible (availableGpus : ℤ) (shape : ParallelShape) : Prop where
  pos : 0 < shape.totalGpus
  le_available : (shape.totalGpus : ℤ) ≤ availableGpus

/-- What a made up candidate is made from. -/
theorem generatedCandidate_spec {gpus minReplicaCount targetReplicaGpus tensor pipeline : ℕ}
    (h : generatedCandidate gpus minReplicaCount targetReplicaGpus tensor pipeline = some c) :
    tensor * pipeline ≤ gpus ∧ minReplicaCount ≤ gpus / (tensor * pipeline) ∧
      c.shape.tensorParallelSize = tensor ∧
      c.shape.pipelineParallelSize = pipeline ∧ c.shape.dataParallelSize = 1 ∧
      c.shape.replicaCount = gpus / (tensor * pipeline) ∧
      c.shape.totalGpus = tensor * pipeline * (gpus / (tensor * pipeline)) := by
  unfold generatedCandidate at h
  dsimp only at h
  split_ifs at h with hroom hmin
  obtain rfl := Option.some.inj h
  exact ⟨not_lt.mp hroom, not_lt.mp hmin, rfl, rfl, rfl, rfl, rfl⟩

theorem positiveInt_pos {key : String} {default : ℤ} {n : ℕ}
    (h : positiveInt config key default = .ok n) : 0 < n := by
  unfold positiveInt at h
  obtain ⟨value, -, rfl⟩ := of_map_ok h
  exact Int.pos_iff_toNat_pos.mp (Int.zero_lt_one.trans_le (le_max_right value 1))

theorem mem_candidateGrid {availableGpus minTensor maxTensor maxPipeline minReplicaCount
    targetReplicaGpus : ℕ} :
    c ∈ candidateGrid availableGpus minTensor maxTensor maxPipeline minReplicaCount
        targetReplicaGpus ↔
      ∃ tensor pipeline, minTensor ≤ tensor ∧ tensor ≤ maxTensor ∧ 0 < pipeline ∧
        pipeline ≤ maxPipeline ∧
        generatedCandidate availableGpus minReplicaCount targetReplicaGpus tensor pipeline =
          some c := by
  unfold candidateGrid
  constructor
  · intro hc
    obtain ⟨tensor, htensor, hc⟩ := List.mem_flatMap.mp hc
    obtain ⟨pipeline, hpipeline, hc⟩ := List.mem_filterMap.mp hc
    rw [List.mem_range'_1] at htensor hpipeline
    exact ⟨tensor, pipeline, htensor.1, by omega, by omega, by omega, hc⟩
  · rintro ⟨tensor, pipeline, hge, hle, hpos, hle', hc⟩
    refine List.mem_flatMap.mpr ⟨tensor, ?_, List.mem_filterMap.mpr ⟨pipeline, ?_, hc⟩⟩
    · rw [List.mem_range'_1]
      omega
    · rw [List.mem_range'_1]
      omega

/-- The sizes that `generate_parallel_candidates` goes through, as its settings bound them. -/
structure InRange (config : Dict) (availableGpus : ℤ) (tensor pipeline minReplicaCount : ℕ) :
    Prop where
  tensor_ge : ∃ maxTensor minTensor,
    positiveInt config "max_tensor_parallel_size" availableGpus = .ok maxTensor ∧
    positiveInt config "min_tensor_parallel_size" 1 = .ok minTensor ∧
    min minTensor (min maxTensor availableGpus.toNat) ≤ tensor ∧
    tensor ≤ min maxTensor availableGpus.toNat
  tensor_pos : 0 < tensor
  pipeline_le : ∃ maxPipeline,
    positiveInt config "max_pipeline_parallel_size" availableGpus = .ok maxPipeline ∧
    pipeline ≤ min maxPipeline availableGpus.toNat
  pipeline_pos : 0 < pipeline
  minReplicaCount_eq : positiveInt config "min_replica_count" 1 = .ok minReplicaCount

/-- Where a made up candidate comes from. -/
theorem of_mem_generated (h : generateParallelCandidates availableGpus config = .ok candidates)
    (hc : c ∈ candidates) :
    0 < availableGpus ∧ ∃ tensor pipeline minReplicaCount targetReplicaGpus,
      InRange config availableGpus tensor pipeline minReplicaCount ∧
      generatedCandidate availableGpus.toNat minReplicaCount targetReplicaGpus tensor pipeline =
        some c := by
  unfold generateParallelCandidates at h
  split_ifs at h with hpos
  · obtain rfl := Except.ok.inj h
    exact absurd hc List.not_mem_nil
  obtain ⟨maxTensor, hmaxTensor, h⟩ := of_bind_ok h
  obtain ⟨minTensor, hminTensor, h⟩ := of_bind_ok h
  obtain ⟨maxPipeline, hmaxPipeline, h⟩ := of_bind_ok h
  obtain ⟨minReplicaCount, hminReplicaCount, h⟩ := of_bind_ok h
  obtain ⟨targetReplicaGpus, -, h⟩ := of_bind_ok h
  obtain rfl := Except.ok.inj h
  obtain ⟨tensor, pipeline, hge, hle, hpipeline, hpipeline', hc⟩ :=
    mem_candidateGrid.mp ((mem_sortedDescending _).mp hc)
  have := positiveInt_pos hmaxTensor
  have := positiveInt_pos hminTensor
  exact ⟨not_le.mp hpos, tensor, pipeline, minReplicaCount, targetReplicaGpus,
    ⟨⟨maxTensor, minTensor, hmaxTensor, hminTensor, hge, hle⟩, by omega,
      ⟨maxPipeline, hmaxPipeline, hpipeline'⟩, hpipeline, hminReplicaCount⟩, hc⟩

theorem generated_feasible (h : generateParallelCandidates availableGpus config = .ok candidates)
    (hc : c ∈ candidates) : Feasible availableGpus c.shape := by
  obtain ⟨hpos, tensor, pipeline, _, _, hrange, hc⟩ := of_mem_generated h hc
  obtain ⟨hroom, -, -, -, -, -, htotal⟩ := generatedCandidate_spec hc
  have hsize : 0 < tensor * pipeline := Nat.mul_pos hrange.tensor_pos hrange.pipeline_pos
  have hle := Nat.mul_div_le availableGpus.toNat (tensor * pipeline)
  constructor
  · rw [htotal]
    exact Nat.mul_pos hsize (Nat.div_pos hroom hsize)
  · rw [htotal]
    omega

/-- What a supported configuration must meet to become a candidate. -/
theorem supportedCandidate_some {limits : Limits} {row : ConfigRow}
    (h : supportedCandidate nodes config limits availableGpus row = .ok (some c)) :
    limits.Admit row ∧ row.totalGpus ≤ availableGpus ∧
      c = row.toCandidate limits availableGpus ∧
      ∃ targets, selectTargetNodes nodes row.totalGpus (flag config "require_free_gpu_overlap") =
        .ok targets ∧ targets ≠ [] := by
  unfold supportedCandidate at h
  by_cases hadmitted : limits.Admit row
  · rw [if_neg (not_not.mpr hadmitted)] at h
    by_cases havailable : availableGpus < row.totalGpus
    · rw [if_pos havailable] at h
      exact absurd (Except.ok.inj h) (by simp)
    · rw [if_neg havailable] at h
      obtain ⟨-, h⟩ := of_require_bind h
      obtain ⟨targets, htargets, h⟩ := of_bind_ok h
      have h := Except.ok.inj h
      split_ifs at h with hnone
      exact ⟨hadmitted, not_lt.mp havailable, (Option.some.inj h).symm, targets, htargets, hnone⟩
  · rw [if_pos hadmitted] at h
    exact absurd (Except.ok.inj h) (by simp)

/-- Where a supported candidate comes from: a configuration within the limits, with target nodes. -/
theorem of_mem_supported {supported : List SupportedConfig}
    (h : supportedConfigCandidates supported availableGpus nodes config = .ok candidates)
    (hc : c ∈ candidates) :
    ∃ limits row targets, readLimits config availableGpus = .ok limits ∧
      (∃ plan ∈ supported, plan.read = .ok row) ∧ limits.Admit row ∧
      row.totalGpus ≤ availableGpus ∧
      selectTargetNodes nodes row.totalGpus (flag config "require_free_gpu_overlap") =
        .ok targets ∧ targets ≠ [] ∧ c = row.toCandidate limits availableGpus := by
  unfold supportedConfigCandidates at h
  split_ifs at h with hempty
  · obtain rfl := Except.ok.inj h
    exact absurd hc List.not_mem_nil
  obtain ⟨limits, hlimits, h⟩ := of_bind_ok h
  obtain ⟨found, hfound, h⟩ := of_bind_ok h
  obtain rfl := Except.ok.inj h
  have hc := List.reduceOption_mem_iff.mp ((mem_sortedDescending _).mp hc)
  obtain ⟨plan, hplan, hread⟩ := exists_of_mem_right (forall₂_of_mapM_ok hfound) hc
  obtain ⟨row, hrow, hcandidate⟩ := of_bind_ok hread
  obtain ⟨hadmitted, havailable, rfl, targets, htargets, hne⟩ := supportedCandidate_some hcandidate
  exact ⟨limits, row, targets, hlimits, ⟨plan, hplan, hrow⟩, hadmitted, havailable, htargets, hne, rfl⟩

theorem supported_feasible {supported : List SupportedConfig}
    (h : supportedConfigCandidates supported availableGpus nodes config = .ok candidates)
    (hc : c ∈ candidates) : Feasible availableGpus c.shape := by
  obtain ⟨limits, row, targets, -, -, -, hle, htargets, hne, rfl⟩ := of_mem_supported h hc
  obtain ⟨hpos, -⟩ := selectTargetNodes_enough htargets hne
  constructor
  · show 0 < row.totalGpus.toNat
    omega
  · show (row.totalGpus.toNat : ℤ) ≤ availableGpus
    omega

end Sources

end Reparallelization
end SpotServe
