import SpotServe.Reparallelization.Candidates
import SpotServe.Reparallelization.Deployment

/-!
# Enriching and ranking the candidates

What `plan_dynamic_reparallelization` does with its candidates before it takes the first one
(`sllm/spot/reparallelization.py`): a placement of the experts is computed for each
(`attachExpertPlacementMovementEstimates`), measured profiles are looked up
(`attachExactPlacementProfiles`), and a cost model or Algorithm 1 puts them in order
(`scoreParallelCandidatesForWorkload`).

None of this changes how a candidate uses its GPUs: `StaysAmong` says that every candidate after a
stage has the shape and the placement of one before it.
-/

namespace SpotServe
namespace Reparallelization

open Py Runs Selection ExpertPlacement

/-! ## Plans -/

/-- `str(text).strip()`. -/
def stripped (text : String) : String := String.ofList (strip text)

/-- `build_parallel_plan`.  The constructor of the plan raises every count to at least one. -/
def buildParallelPlan (modelName backend : String) (config : ParallelConfig) (nodes : WorkerNodes)
    (placementEpoch : ℕ) (expertPlacementPlan : Option ExpertPlacementPlan) (reason : String)
    (requireFreeGpuOverlap : Bool) :
    Except PlanningFailure (ParallelPlan ExpertPlacementPlan) := do
  let targetNodes ← selectTargetNodes nodes config.shape.totalGpus requireFreeGpuOverlap
  return {
    modelName := modelName
    backend := backend
    tensorParallelSize := max 1 config.shape.tensorParallelSize
    dataParallelSize := max 1 config.shape.dataParallelSize
    pipelineParallelSize := max 1 config.shape.pipelineParallelSize
    replicaCount := max 1 config.shape.replicaCount
    enableExpertParallel := config.shape.enableExpertParallel
    numGpus := max 1 config.shape.totalGpus
    batchSize := config.batchSize
    targetNodes := targetNodes
    placementEpoch := placementEpoch
    expertPlacementPlan := expertPlacementPlan
    reason := reason
    tensorParallelSize_pos := lt_max_of_lt_left Nat.one_pos
    dataParallelSize_pos := lt_max_of_lt_left Nat.one_pos
    pipelineParallelSize_pos := lt_max_of_lt_left Nat.one_pos
    replicaCount_pos := lt_max_of_lt_left Nat.one_pos
    numGpus_pos := lt_max_of_lt_left Nat.one_pos }

/-- `effective_expert_parallel_size` of a plan. -/
def effectiveExpertParallelSize {π : Type} (plan : ParallelPlan π) : ℕ :=
  if plan.enableExpertParallel then plan.tensorParallelSize * plan.dataParallelSize else 1

/-- `expert_placement_available` of a placement plan. -/
def expertPlacementAvailable (plan : ExpertPlacementPlan) : Bool :=
  !plan.expertToTargetRank.entries.isEmpty || !plan.shards.isEmpty

/-- `ParallelPlan.to_dict`, without the payload of the placement plan. -/
def ParallelPlan.toDict (plan : ParallelPlan ExpertPlacementPlan) : Dict :=
  let count : ℕ → Value := fun n => .int n
  let effective := count (effectiveExpertParallelSize plan)
  [("model_name", .str plan.modelName),
    ("backend", .str plan.backend),
    ("tensor_parallel_size", count plan.tensorParallelSize),
    ("data_parallel_size", count plan.dataParallelSize),
    ("vllm_data_parallel_size", count plan.dataParallelSize),
    ("pipeline_parallel_size", count plan.pipelineParallelSize),
    ("replica_count", count plan.replicaCount),
    ("sllm_replica_count", count plan.replicaCount),
    ("enable_expert_parallel", .bool plan.enableExpertParallel),
    ("effective_expert_parallel_size", effective),
    ("runtime_effective_expert_parallel_size", effective),
    ("derived_effective_expert_parallel_size", effective),
    ("expert_parallel_size", effective),
    ("expert_parallel_size_source",
      .str (if plan.enableExpertParallel then "derived_from_tp_dp" else "disabled")),
    ("num_replicas", count plan.replicaCount),
    ("num_gpus", count plan.numGpus),
    ("batch_size", count plan.batchSize),
    ("target_nodes", .list (plan.targetNodes.map .str)),
    ("placement_epoch", count plan.placementEpoch),
    ("placement_version", count plan.placementEpoch),
    ("expert_placement_epoch", count plan.placementEpoch),
    ("expert_placement_plan_available",
      .bool (plan.expertPlacementPlan.any expertPlacementAvailable)),
    ("expert_placement_fingerprint",
      .str ((plan.expertPlacementPlan.map (·.placementFingerprint)).getD "")),
    ("reason", .str plan.reason)]

/-! ## What a stage keeps -/

/-- Every candidate after a stage uses its GPUs and places its experts as one before it. -/
def StaysAmong (before after : List ParallelConfig) : Prop :=
  ∀ c ∈ after, ∃ c' ∈ before,
    c.shape = c'.shape ∧ c.expertPlacementPlan = c'.expertPlacementPlan

theorem StaysAmong.refl (candidates : List ParallelConfig) : StaysAmong candidates candidates :=
  fun c hc => ⟨c, hc, rfl, rfl⟩

theorem StaysAmong.trans {first second third : List ParallelConfig} (h : StaysAmong first second)
    (h' : StaysAmong second third) : StaysAmong first third := by
  intro c hc
  obtain ⟨c', hc', hshape, hplan⟩ := h' c hc
  obtain ⟨c'', hc'', hshape', hplan'⟩ := h c' hc'
  exact ⟨c'', hc'', hshape.trans hshape', hplan.trans hplan'⟩

theorem StaysAmong.of_subset {before after : List ParallelConfig} (h : after ⊆ before) :
    StaysAmong before after :=
  fun c hc => ⟨c, h hc, rfl, rfl⟩

theorem StaysAmong.map {before : List ParallelConfig} {f : ParallelConfig → ParallelConfig}
    (h : ∀ c, (f c).shape = c.shape ∧ (f c).expertPlacementPlan = c.expertPlacementPlan) :
    StaysAmong before (before.map f) := by
  intro c hc
  obtain ⟨c', hc', rfl⟩ := List.mem_map.mp hc
  exact ⟨c', hc', h c'⟩

theorem StaysAmong.eq_nil {after : List ParallelConfig} (h : StaysAmong [] after) : after = [] := by
  cases after with
  | nil => rfl
  | cons c rest =>
    obtain ⟨c', hc', -⟩ := h c List.mem_cons_self
    exact absurd hc' List.not_mem_nil

theorem staysAmong_sortedDescending (key : ParallelConfig → List ℚ)
    (candidates : List ParallelConfig) : StaysAmong candidates (sortedDescending key candidates) :=
  .of_subset fun _ hc => (mem_sortedDescending _).mp hc

/-! ## Placements of the experts -/

/-- What the placement planner is given besides the target plan and the configuration.  Whether the
model has experts, and how many, it reads off the model alone. -/
structure PlacementLookups where
  /-- `infer_moe_topology(model_config)`. -/
  topology : ℕ × ℕ
  /-- The other signs by which `looks_like_moe_model` knows one. -/
  moeHint : Bool
  /-- The results of the other lookups, for a target plan and a configuration. -/
  lookup : Dict → Dict → PlannerInput

/-- The call of `build_logical_expert_placement_plan`. -/
def placementInput (lookups : PlacementLookups) (modelName : String) (placementEpoch : ℕ)
    (targetPlan config : Dict) : PlannerInput :=
  { lookups.lookup targetPlan config with
    modelName := modelName
    targetParallelPlan := targetPlan
    plannerConfig := config
    placementEpoch := placementEpoch
    topology := lookups.topology
    moeHint := lookups.moeHint }

/-- `build_logical_expert_placement_plan` for a parallel plan. -/
def expertPlacementFor (lookups : PlacementLookups) (modelName : String) (placementEpoch : ℕ)
    (config : Dict) (plan : ParallelPlan ExpertPlacementPlan) :
    Except PlanningFailure (Option ExpertPlacementPlan) :=
  (buildLogicalExpertPlacementPlan
    (placementInput lookups modelName placementEpoch plan.toDict config)).mapError .placement

/-- `disable_logical_expert_placement is True`. -/
def placementDisabled (config : Dict) : Bool :=
  match config.lookup "disable_logical_expert_placement" with
  | some (.bool disabled) => disabled
  | _ => false

/-- `placement_candidate_strategies`, absent values and `None` alike. -/
def rawStrategies (config : Dict) : Option Value :=
  match config.lookup "placement_candidate_strategies" with
  | some .none | none =>
    if flag config "expert_placement_profiles" then
      some (.list [.str "linear", .str "round_robin", .str "hotness_balanced"])
    else none
  | some value => some value

/-- `strategies`: the empty one stands for the configured default. -/
def placementStrategies (config : Dict) : List String :=
  let named := match rawStrategies config with
    | some (.str text) => (splitOn (· = ',') text).map stripped
    | some (.list values) => (values.filter Value.truthy).map fun value : Value => stripped value.toStr
    | _ => [stripped (strOr (config.lookup "target_expert_placement_strategy") "")]
  let named := named.filter (· ≠ "")
  if named.isEmpty then [""] else named

/-- `candidate_planner_config`. -/
def strategyConfig (config : Dict) (strategy : String) : Dict :=
  if strategy = "" then config
  else OrderedDict.setEntry config "target_expert_placement_strategy" (.str strategy)

/-- By what two candidates with placements count as the same. -/
structure DedupeKey where
  tensorParallelSize : ℕ
  pipelineParallelSize : ℕ
  dataParallelSize : ℕ
  replicaCount : ℕ
  placementFingerprint : String
  deriving DecidableEq

/-- A candidate with its placement. -/
def ParallelConfig.withPlacement (c : ParallelConfig) (plan : ExpertPlacementPlan) :
    ParallelConfig :=
  { c with
    expertWeightMovementCostEstimateMs :=
      (plan.movement.bind (·.estimatedExpertWeightMovementCostMs)).map (max 0)
    expertPlacementFingerprint := plan.placementFingerprint
    expertPlacementPlan := some plan }

/-- What the loop over candidates and strategies builds. -/
structure Enriched where
  enriched : List ParallelConfig := []
  seenMappings : List DedupeKey := []

section Attach

variable (lookups : PlacementLookups) (modelName backend : String) (nodes : WorkerNodes)
  (config : Dict) (placementEpoch : ℕ) (reason : String)

/-- The loop body of `_attach_expert_placement_movement_estimates`.  The plan a placement is
computed for chooses its nodes by all their GPUs, busy or not. -/
def attachPlacement (state : Enriched) (turn : ParallelConfig × String) :
    Except PlanningFailure Enriched := do
  let candidate := turn.1
  let candidatePlan ← buildParallelPlan modelName backend candidate nodes placementEpoch none
    reason false
  let placement ← expertPlacementFor lookups modelName placementEpoch
    (strategyConfig config turn.2) candidatePlan
  match placement with
  | none => return { state with enriched := state.enriched ++ [candidate] }
  | some plan =>
    let key : DedupeKey := ⟨candidate.shape.tensorParallelSize,
      candidate.shape.pipelineParallelSize, candidate.shape.dataParallelSize,
      candidate.shape.replicaCount, plan.placementFingerprint⟩
    if key ∈ state.seenMappings then return state
    else return ⟨state.enriched ++ [candidate.withPlacement plan], key :: state.seenMappings⟩

/-- `_attach_expert_placement_movement_estimates`. -/
def attachExpertPlacementMovementEstimates (candidates : List ParallelConfig) :
    Except PlanningFailure (List ParallelConfig) :=
  if candidates.isEmpty || placementDisabled config then .ok candidates
  else do
    let turns := candidates.flatMap fun c => (placementStrategies config).map fun s => (c, s)
    let state ← turns.foldlM
      (attachPlacement lookups modelName backend nodes config placementEpoch reason) {}
    return state.enriched

end Attach

section Attached

variable {lookups : PlacementLookups} {modelName backend : String} {nodes : WorkerNodes}
  {config : Dict} {placementEpoch : ℕ} {reason : String}

/-- `c` is the candidate `c'` itself, where there is no placement, or `c'` with the placement of one
of the strategies, computed for the plan whose nodes are chosen by all their GPUs. -/
def Placed (lookups : PlacementLookups) (modelName backend : String) (nodes : WorkerNodes)
    (config : Dict) (placementEpoch : ℕ) (reason : String) (c' c : ParallelConfig) : Prop :=
  (c = c' ∧ (placementDisabled config = true ∨ ∃ strategy candidatePlan,
    expertPlacementFor lookups modelName placementEpoch (strategyConfig config strategy)
      candidatePlan = .ok none)) ∨
  ∃ strategy candidatePlan plan,
    buildParallelPlan modelName backend c' nodes placementEpoch none reason false =
      .ok candidatePlan ∧
    expertPlacementFor lookups modelName placementEpoch (strategyConfig config strategy)
      candidatePlan = .ok (some plan) ∧ c = c'.withPlacement plan

theorem attachPlacement_placed {state state' : Enriched} {turn : ParallelConfig × String}
    (h : attachPlacement lookups modelName backend nodes config placementEpoch reason state turn =
      .ok state') {c : ParallelConfig} (hc : c ∈ state'.enriched) :
    c ∈ state.enriched ∨
      Placed lookups modelName backend nodes config placementEpoch reason turn.1 c := by
  unfold attachPlacement at h
  obtain ⟨candidatePlan, hplan, h⟩ := of_bind_ok h
  obtain ⟨placement, hplacement, h⟩ := of_bind_ok h
  cases placement with
  | none =>
    obtain rfl := Except.ok.inj h
    rcases List.mem_append.mp hc with hc | hc
    · exact Or.inl hc
    · exact Or.inr (Or.inl ⟨List.mem_singleton.mp hc, Or.inr ⟨turn.2, candidatePlan, hplacement⟩⟩)
  | some plan =>
    dsimp only at h
    split_ifs at h with hseen
    · obtain rfl := Except.ok.inj h
      exact Or.inl hc
    · obtain rfl := Except.ok.inj h
      rcases List.mem_append.mp hc with hc | hc
      · exact Or.inl hc
      · exact Or.inr (Or.inr ⟨turn.2, candidatePlan, plan, hplan, hplacement,
          List.mem_singleton.mp hc⟩)

theorem of_mem_attached {candidates enriched : List ParallelConfig} {c : ParallelConfig}
    (h : attachExpertPlacementMovementEstimates lookups modelName backend nodes config
      placementEpoch reason candidates = .ok enriched) (hc : c ∈ enriched) :
    ∃ c' ∈ candidates,
      Placed lookups modelName backend nodes config placementEpoch reason c' c := by
  unfold attachExpertPlacementMovementEstimates at h
  split_ifs at h with hskip
  · obtain rfl := Except.ok.inj h
    rcases Bool.or_eq_true_iff.mp hskip with hempty | hdisabled
    · exact absurd hc (List.isEmpty_iff.mp hempty ▸ List.not_mem_nil)
    · exact ⟨c, hc, Or.inl ⟨rfl, Or.inl hdisabled⟩⟩
  obtain ⟨state, hrun, h⟩ := of_bind_ok h
  obtain rfl := Except.ok.inj h
  refine foldlM_of_ok (fun _ (state : Enriched) => ∀ c ∈ state.enriched, ∃ c' ∈ candidates,
    Placed lookups modelName backend nodes config placementEpoch reason c' c) ?_ ?_ hrun c hc
  · intro done turn rest state state' hwhole hinv hstep c hc
    rcases attachPlacement_placed hstep hc with hc | hc
    · exact hinv c hc
    · have hturn : turn ∈ candidates.flatMap fun c => (placementStrategies config).map (c, ·) := by
        rw [hwhole]
        exact List.mem_append_right _ List.mem_cons_self
      obtain ⟨c', hc', hturn⟩ := List.mem_flatMap.mp hturn
      obtain ⟨strategy, -, rfl⟩ := List.mem_map.mp hturn
      exact ⟨c', hc', hc⟩
  · exact fun c hc => absurd hc List.not_mem_nil

end Attached

/-! ## Measured profiles -/

/-- `_truthy_flag`. -/
def truthyFlag : Value → Bool
  | .str text => ["1", "true", "yes", "on"].contains (normalizedText text)
  | value => value.truthy

/-- The mapping under a key, empty when there is none. -/
def mappingAt (config : Dict) (key : String) : Dict :=
  match config.lookup key with
  | some (.dict items) => items
  | _ => []

/-- `required_context_fields`. -/
def requiredContextFields : List String :=
  ["model_id", "gpu_type", "runtime_fingerprint", "dtype", "quantization", "moe_backend"]

/-- `str(row.get(key) or "")`. -/
def textAt (row : Dict) (key : String) : String := strOr (row.lookup key) ""

/-- What the lookup goes by, read off the planner's configuration. -/
structure ProfileContext where
  manifestId : String
  manifestValidated : Value
  contextMismatches : List String
  workloadBucketId : String
  requireValidation : Bool
  maxPredictionError : ℚ

/-- `context_mismatches`. -/
def contextMismatches (active manifest : Dict) : List String :=
  requiredContextFields.filter fun key =>
    ((active.lookup key).getD .none).toStr ≠ ((manifest.lookup key).getD .none).toStr

/-- The shape a profile was measured for. -/
def profileShape (row : Dict) : List ℤ :=
  let size := fun keys => safeInt (getFirst row keys .none) 0
  [size ["tensor_parallel_size"], size ["pipeline_parallel_size"],
    size ["vllm_data_parallel_size", "data_parallel_size"],
    size ["effective_expert_parallel_size"], size ["sllm_replica_count", "replica_count"]]

/-- `expected_shape`. -/
def expectedShape (c : ParallelConfig) : List ℤ :=
  [c.shape.tensorParallelSize, c.shape.pipelineParallelSize, c.shape.dataParallelSize,
    c.shape.effectiveExpertParallelSize, c.shape.replicaCount]

/-- The measured latency of a profile. -/
def profileLatency (row : Dict) : ℚ :=
  nonnegativeFloat (getFirst row ["service_latency_mean_ms", "latency_estimate_ms"] (.int 0))

/-- The measured throughput of a profile. -/
def profileThroughput (row : Dict) : ℚ :=
  nonnegativeFloat (getFirst row ["throughput_req_s", "throughput_estimate_req_s"] (.int 0))

/-- What the loop over the profiles makes of a row: it is another candidate's, it is rejected, or it
is the one. -/
inductive ProfileVerdict where
  | other
  | rejected (reason : String)
  | accepted

/-- The loop body over the profiles. -/
def judgeProfile (context : ProfileContext) (c : ParallelConfig) (row : Dict) : ProfileVerdict :=
  if context.manifestId ≠ "" ∧ textAt row "manifest_id" ≠ context.manifestId then .other
  else if textAt row "workload_bucket_id" ≠ context.workloadBucketId then .other
  else if textAt row "placement_fingerprint" ≠ c.expertPlacementFingerprint then .other
  else if profileShape row ≠ expectedShape c then .other
  else if context.requireValidation ∧
      ¬ truthyFlag ((row.lookup "prediction_validated").getD context.manifestValidated) then
    .rejected "profile_prediction_not_validated"
  else if context.maxPredictionError <
      nonnegativeFloat ((row.lookup "held_out_prediction_error_ratio").getD (.int 0)) then
    .rejected "profile_prediction_error_exceeded"
  else if safeInt ((row.lookup "sample_count").getD .none) 0 ≤ 0 ∨ profileLatency row ≤ 0 ∨
      profileThroughput row ≤ 0 then
    .rejected "profile_measurements_incomplete"
  else .accepted

/-- The profile of a candidate, or why there is none. -/
def findProfile (context : ProfileContext) (c : ParallelConfig) (reason : String) :
    List Dict → Except String Dict
  | [] => .error reason
  | row :: rows =>
    match judgeProfile context c row with
    | .other => findProfile context c reason rows
    | .rejected reason' => findProfile context c reason' rows
    | .accepted => .ok row

/-- The loop body over the candidates: the measurements of its profile, or none. -/
def attachProfile (context : ProfileContext) (profiles : List Dict) (c : ParallelConfig) :
    ParallelConfig :=
  let found :=
    if context.contextMismatches.isEmpty then findProfile context c "profile_unavailable" profiles
    else .error "profile_manifest_context_mismatch"
  match found with
  | .error reason =>
    { c with
      latencyEstimateMs := 0
      throughputEstimateReqS := 0
      placementProfileAvailable := false
      placementProfileMatchReason := reason
      placementProfileWorkloadBucketId := context.workloadBucketId }
  | .ok row =>
    { c with
      latencyEstimateMs := profileLatency row
      throughputEstimateReqS := profileThroughput row
      placementProfileAvailable := true
      placementProfileId := textAt row "profile_id"
      placementProfileMatchReason := "exact_match"
      placementProfileWorkloadBucketId := context.workloadBucketId }

/-- `raw_profiles is not None`. -/
def placementProfileMode (config : Dict) : Bool :=
  match config.lookup "expert_placement_profiles" with
  | some .none | none => false
  | some _ => true

/-- The profiles, which must be a list; entries that are no mappings are passed over. -/
def profileRows (config : Dict) : Except PlanningFailure (List Dict) :=
  match config.lookup "expert_placement_profiles" with
  | some (.list rows) => .ok <| rows.filterMap fun row =>
    match row with
    | .dict items => some items
    | _ => none
  | _ => .error .profilesMustBeAList

/-- `_attach_exact_placement_profiles`. -/
def attachExactPlacementProfiles (candidates : List ParallelConfig) (config : Dict) :
    Except PlanningFailure (List ParallelConfig) :=
  if ¬ placementProfileMode config then .ok candidates
  else do
    let profiles ← profileRows config
    let manifest := mappingAt config "expert_placement_profile_manifest"
    let missing := ("manifest_id" :: requiredContextFields).filter fun key => ¬ hasKey manifest key
    require (missing = []) (PlanningFailure.profileManifestMissingFields missing)
    let maxConditions := max 1 (safeInt ((manifest.lookup "max_conditions").getD .none) 6)
    let conditions := (profiles.map fun row =>
      (textAt row "placement_fingerprint", textAt row "workload_bucket_id")).dedup
    require ((conditions.length : ℤ) ≤ maxConditions) PlanningFailure.profileConditionLimitExceeded
    let context : ProfileContext := {
      manifestId := textAt manifest "manifest_id"
      manifestValidated := (manifest.lookup "prediction_validated").getD (.bool false)
      contextMismatches :=
        contextMismatches (mappingAt config "placement_profile_context") manifest
      workloadBucketId := textAt config "workload_bucket_id"
      requireValidation :=
        !truthyFlag ((config.lookup "allow_unvalidated_placement_profiles").getD (.bool false))
      maxPredictionError := safeFloat
        ((config.lookup "maximum_profile_prediction_error_ratio").getD (.int 1)) 1 }
    return candidates.map (attachProfile context profiles)

theorem attachProfile_keeps (context : ProfileContext) (profiles : List Dict) (c : ParallelConfig) :
    (attachProfile context profiles c).shape = c.shape ∧
      (attachProfile context profiles c).expertPlacementPlan = c.expertPlacementPlan := by
  unfold attachProfile
  dsimp only
  split <;> exact ⟨rfl, rfl⟩

/-- Looking profiles up goes candidate by candidate, and keeps what each does with its GPUs. -/
theorem attachExactPlacementProfiles_eq_map {candidates attached : List ParallelConfig}
    {config : Dict} (h : attachExactPlacementProfiles candidates config = .ok attached) :
    ∃ f : ParallelConfig → ParallelConfig,
      (∀ c, (f c).shape = c.shape ∧ (f c).expertPlacementPlan = c.expertPlacementPlan) ∧
        attached = candidates.map f := by
  unfold attachExactPlacementProfiles at h
  by_cases hmode : placementProfileMode config = true
  · rw [if_neg (not_not.mpr hmode)] at h
    obtain ⟨profiles, -, h⟩ := of_bind_ok h
    obtain ⟨-, h⟩ := of_require_bind h
    obtain ⟨-, h⟩ := of_require_bind h
    exact ⟨_, attachProfile_keeps _ _, (Except.ok.inj h).symm⟩
  · rw [if_pos hmode] at h
    exact ⟨id, fun c => ⟨rfl, rfl⟩, by rw [List.map_id, Except.ok.inj h]⟩

theorem attachExactPlacementProfiles_stays {candidates attached : List ParallelConfig}
    {config : Dict} (h : attachExactPlacementProfiles candidates config = .ok attached) :
    StaysAmong candidates attached := by
  obtain ⟨f, hf, rfl⟩ := attachExactPlacementProfiles_eq_map h
  exact .map hf

/-! ## The cost model -/

/-- `_planner_value`: the settings of the running workload come before those of the plan, and a
value that must be positive is passed over when it is not. -/
def plannerValue (config : Dict) (key : String) (default : Value) (positiveOnly : Bool := false) :
    Value :=
  ([mappingAt config "runtime_workload", mappingAt config "workload", config].findSome?
    fun source => (source.lookup key).filter fun value =>
      !(positiveOnly && decide (safeFloat value 0 ≤ 0))).getD default

/-- `_workload_cost_model_snapshot`. -/
structure WorkloadSnapshot where
  enabled : Bool
  arrivalRateReqS : ℚ
  batchSize : ℕ
  latencyEstimateMs : ℚ
  modelLoadTimeMs : ℚ
  loadTimePerGpuMs : ℚ
  migrationCostMs : ℚ
  migrationCostPerGpuMs : ℚ
  migrationCostPerReplicaMs : ℚ
  queuePenaltyMsPerReqS : ℚ
  baseScoreWeight : ℚ
  throughputScoreWeight : ℚ
  latencyPenaltyWeight : ℚ
  loadTimePenaltyWeight : ℚ
  migrationCostPenaltyWeight : ℚ
  expertWeightMovementPenaltyWeight : ℚ
  queuePenaltyWeight : ℚ
  replanWindowPenaltyWeight : ℚ

/-- A setting that is a number. -/
def plannerNumber (config : Dict) (key : String) (default : ℤ) : ℚ :=
  safeFloat (plannerValue config key (.int default)) default

@[inherit_doc WorkloadSnapshot]
def workloadCostModelSnapshot (config modelConfig : Dict) : WorkloadSnapshot :=
  let number := plannerNumber config
  let backendConfig := mappingAt modelConfig "backend_config"
  { enabled := (getFirst config ["enable_workload_cost_model", "workload_cost_model"]
      (.bool false)).truthy
    arrivalRateReqS := max 0 (number "arrival_rate_req_s" 0)
    batchSize := (max 1 (safeInt (plannerValue config "batch_size"
      ((backendConfig.lookup "max_num_seqs").getD (.int 1))) 1)).toNat
    latencyEstimateMs := max 0 (safeFloat (plannerValue config "latency_estimate_ms"
      (plannerValue config "default_latency_estimate_ms" (.int 0)) true) 0)
    modelLoadTimeMs := max 0 (number "model_load_time_ms" 0)
    loadTimePerGpuMs := max 0 (number "load_time_per_gpu_ms" 0)
    migrationCostMs := max 0 (number "migration_cost_ms" 0)
    migrationCostPerGpuMs := max 0 (number "migration_cost_per_gpu_ms" 0)
    migrationCostPerReplicaMs := max 0 (number "migration_cost_per_replica_ms" 0)
    queuePenaltyMsPerReqS := max 0 (number "queue_penalty_ms_per_req_s" 1000)
    baseScoreWeight := number "base_score_weight" 1
    throughputScoreWeight := number "throughput_score_weight" 100
    latencyPenaltyWeight := number "latency_penalty_weight" 0
    loadTimePenaltyWeight := number "load_time_penalty_weight" 1
    migrationCostPenaltyWeight := number "migration_cost_penalty_weight" 1
    expertWeightMovementPenaltyWeight := number "expert_weight_movement_penalty_weight" 1
    queuePenaltyWeight := number "queue_penalty_weight" 1
    replanWindowPenaltyWeight := number "replan_window_penalty_weight" 0 }

/-- Which of a candidate set's estimates can be compared. -/
structure Comparable where
  /-- `comparable_placement_profiles`. -/
  placementProfiles : Bool
  /-- `movement_costs_comparable`. -/
  movementCosts : Bool

@[inherit_doc Comparable]
def comparableIn (config : Dict) (candidates : List ParallelConfig) : Comparable where
  placementProfiles := !placementProfileMode config ||
    candidates.all (·.placementProfileAvailable)
  movementCosts := candidates.all (·.expertWeightMovementCostEstimateMs.isSome)

/-- The loop body of `_score_parallel_candidates_for_workload`. -/
def scoreCandidate (snapshot : WorkloadSnapshot) (comparable : Comparable) (c : ParallelConfig) :
    ParallelConfig :=
  let baseScore := if c.baseScore ≠ 0 then c.baseScore else c.score
  let latency :=
    if comparable.placementProfiles then
      if 0 < c.latencyEstimateMs then c.latencyEstimateMs else snapshot.latencyEstimateMs
    else 0
  let latencyS := latency / 1000
  let measured := if comparable.placementProfiles then c.throughputEstimateReqS else 0
  let throughput :=
    if measured ≤ 0 ∧ 0 < latencyS then (c.shape.replicaCount * snapshot.batchSize) / latencyS
    else measured
  let loadTime :=
    if c.loadTimeEstimateMs ≤ 0 then
      snapshot.modelLoadTimeMs + c.shape.totalGpus * snapshot.loadTimePerGpuMs
    else c.loadTimeEstimateMs
  let migrationCost :=
    if c.migrationCostEstimateMs ≤ 0 then
      snapshot.migrationCostMs + c.shape.totalGpus * snapshot.migrationCostPerGpuMs +
        c.shape.replicaCount * snapshot.migrationCostPerReplicaMs
    else c.migrationCostEstimateMs
  let queuePenalty :=
    if comparable.placementProfiles then
      max 0 (snapshot.arrivalRateReqS - throughput) * snapshot.queuePenaltyMsPerReqS
    else 0
  let movementCost :=
    if comparable.movementCosts then c.expertWeightMovementCostEstimateMs.getD 0 else 0
  let windowCost := loadTime + migrationCost + movementCost + queuePenalty
  -- A cost that has a component of its own is not counted again here.
  let windowPenaltyCost :=
    (if snapshot.loadTimePenaltyWeight = 0 then loadTime else 0) +
      (if snapshot.migrationCostPenaltyWeight = 0 then migrationCost else 0) +
      (if snapshot.queuePenaltyWeight = 0 then queuePenalty else 0)
  let score := baseScore * snapshot.baseScoreWeight +
    throughput * snapshot.throughputScoreWeight - latency * snapshot.latencyPenaltyWeight -
    loadTime * snapshot.loadTimePenaltyWeight -
    migrationCost * snapshot.migrationCostPenaltyWeight -
    movementCost * snapshot.expertWeightMovementPenaltyWeight -
    queuePenalty * snapshot.queuePenaltyWeight -
    windowPenaltyCost * snapshot.replanWindowPenaltyWeight
  { c with
    score := score
    baseScore := baseScore
    workloadScoreDelta := score - baseScore
    arrivalRateReqS := snapshot.arrivalRateReqS
    batchSize := snapshot.batchSize
    latencyEstimateMs := latency
    throughputEstimateReqS := throughput
    loadTimeEstimateMs := loadTime
    migrationCostEstimateMs := migrationCost
    queuePenaltyMs := queuePenalty
    replanWindowCostMs := windowCost
    replanWindowPenaltyCostMs := windowPenaltyCost }

/-! ## Algorithm 1 -/

/-- The queue models. -/
inductive QueueModel where
  | none
  | md1Aggregate
  deriving DecidableEq

/-- `queue_model`. -/
def queueModelOf (config : Dict) : Except PlanningFailure QueueModel :=
  let name := ((config.lookup "queue_model").getD (.str "none")).toStr
  if name = "none" then .ok .none
  else if name = "md1_aggregate" then .ok .md1Aggregate
  else .error (.unsupportedPaperQueueModel name)

/-- `latency(c)`; `none` is infinity. -/
def queueLatency (queueModel : QueueModel) (alpha : ℚ) (c : ParallelConfig) : Option ℚ :=
  match queueModel with
  | .none => some c.latencyEstimateMs
  | .md1Aggregate =>
    let rho := alpha / c.throughputEstimateReqS
    if rho < 1 then
      some (c.latencyEstimateMs + 1000 * rho / (2 * c.throughputEstimateReqS * (1 - rho)))
    else .none

/-- A latency in a sort key: infinity after every number. -/
def latencyKey : Option ℚ → List ℚ
  | some latency => [0, latency]
  | none => [1, 0]

/-- `stable_shape(c)`. -/
def stableShape (c : ParallelConfig) : List ℚ :=
  [c.shape.totalGpus, c.shape.replicaCount, c.shape.pipelineParallelSize,
    c.shape.tensorParallelSize, c.shape.dataParallelSize, c.batchSize]

/-- `sorted(items, key=..)`. -/
def sortedAscending (key : ParallelConfig → List ℚ) (items : List ParallelConfig) :
    List ParallelConfig :=
  items.insertionSort fun a b => key a ≤ key b

/-- `_select_profiled_candidates`. -/
def selectProfiledCandidates (candidates : List ParallelConfig) (snapshot : WorkloadSnapshot)
    (config : Dict) : Except PlanningFailure (List ParallelConfig) := do
  let queueModel ← queueModelOf config
  let alpha := snapshot.arrivalRateReqS
  require (0 ≤ alpha) PlanningFailure.invalidArrivalRate
  let profiled := candidates.filter fun c => 0 < c.throughputEstimateReqS ∧ 0 < c.latencyEstimateMs
  let feasible := profiled.filter fun c => alpha ≤ c.throughputEstimateReqS
  let latency := queueLatency queueModel alpha
  let ranked :=
    if feasible.isEmpty then
      sortedAscending (fun c => -c.throughputEstimateReqS :: c.latencyEstimateMs :: stableShape c)
        profiled
    else
      sortedAscending (fun c => latencyKey (latency c) ++ stableShape c) feasible ++
        sortedAscending (fun c => -c.throughputEstimateReqS :: stableShape c)
          (profiled.filter fun c => ¬ alpha ≤ c.throughputEstimateReqS)
  return ranked.map fun c =>
    { c with
      arrivalRateReqS := alpha
      queuePenaltyMs := ((latency c).map (· - c.latencyEstimateMs)).getD 0 }

@[simp] theorem mem_sortedAscending {key : ParallelConfig → List ℚ} {items : List ParallelConfig}
    {c : ParallelConfig} : c ∈ sortedAscending key items ↔ c ∈ items :=
  List.mem_insertionSort _

theorem selectProfiledCandidates_stays {candidates ranked : List ParallelConfig}
    {snapshot : WorkloadSnapshot} {config : Dict}
    (h : selectProfiledCandidates candidates snapshot config = .ok ranked) :
    StaysAmong candidates ranked := by
  unfold selectProfiledCandidates at h
  obtain ⟨queueModel, -, h⟩ := of_bind_ok h
  obtain ⟨-, h⟩ := of_require_bind h
  obtain rfl := Except.ok.inj h
  refine StaysAmong.trans (.of_subset fun c hc => ?_) (.map fun c => ⟨rfl, rfl⟩)
  split_ifs at hc with hfeasible
  · exact List.mem_of_mem_filter (mem_sortedAscending.mp hc)
  · rcases List.mem_append.mp hc with hc | hc
    · exact List.mem_of_mem_filter (List.mem_of_mem_filter (mem_sortedAscending.mp hc))
    · exact List.mem_of_mem_filter (List.mem_of_mem_filter (mem_sortedAscending.mp hc))

/-- `_score_parallel_candidates_for_workload`. -/
def scoreParallelCandidatesForWorkload (candidates : List ParallelConfig)
    (config modelConfig : Dict) : Except PlanningFailure (List ParallelConfig) :=
  let snapshot := workloadCostModelSnapshot config modelConfig
  let policy := ((config.lookup "selection_policy").getD (.str "weighted_score")).toStr
  if policy = "spotserve_algorithm1" then selectProfiledCandidates candidates snapshot config
  else if policy ≠ "weighted_score" then .error (.unsupportedSelectionPolicy policy)
  else if !snapshot.enabled || candidates.isEmpty then .ok candidates
  else .ok (sortedDescending rankingKey
    (candidates.map (scoreCandidate snapshot (comparableIn config candidates))))

theorem scoreParallelCandidatesForWorkload_stays {candidates ranked : List ParallelConfig}
    {config modelConfig : Dict}
    (h : scoreParallelCandidatesForWorkload candidates config modelConfig = .ok ranked) :
    StaysAmong candidates ranked := by
  unfold scoreParallelCandidatesForWorkload at h
  dsimp only at h
  split_ifs at h with hprofiled hweighted hkept
  · exact selectProfiledCandidates_stays h
  · obtain rfl := Except.ok.inj h
    exact .refl _
  · obtain rfl := Except.ok.inj h
    have hscored : StaysAmong candidates (candidates.map
        (scoreCandidate (workloadCostModelSnapshot config modelConfig)
          (comparableIn config candidates))) := .map fun c => ⟨rfl, rfl⟩
    exact hscored.trans (staysAmong_sortedDescending _ _)

end Reparallelization
end SpotServe
