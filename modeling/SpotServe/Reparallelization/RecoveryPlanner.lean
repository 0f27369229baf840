import SpotServe.Reparallelization.CalibratedRecovery

/-!
# The planner among the rows of a recovery

What `plan_dynamic_reparallelization` does with the configurations that the calibrated recovery
planner hands it.  Each row becomes a configuration whose estimates are its times, with a negative
time read as zero, and none of the stages in between drops one: the sizes are one or two, there are
GPUs enough, placements and profiles are off.  All weights but those of the three times are zero, so
the score is minus their sum (`score_recovery`), and the first of the sorted candidates has the
least sum; where two sums are the same, the larger tensor-parallel size is first.

* `plannerCost`: the sum that the planner compares.
* `initialCandidates_recovery`, `rankedCandidates_recovery`: the stages.
* `planner_choice`: the choice.
-/

namespace SpotServe
namespace Reparallelization

open Py Runs Selection

/-- The planner's settings after the rewriting. -/
def recoveryEffectiveConfig : Dict := recoveryPlannerConfig ++ [("target_replica_gpus", .int 1)]

variable {env : RouteCostEnvironment} {available : List ℤ}

/-! ## Settings and configurations -/

theorem effectiveConfig_recoveryRequest (candidates : List Dict) :
    effectiveConfig (recoveryRequest env available candidates) = .ok recoveryEffectiveConfig := by
  rfl

/-- The limits that the settings mean for a number of GPUs. -/
def recoveryLimits (n : ℤ) : Limits where
  targetReplicaGpus := 1
  minTensorParallelSize := 1
  maxTensorParallelSize := 2
  minDataParallelSize := 1
  maxDataParallelSize := (max n 1).toNat
  minPipelineParallelSize := 1
  maxPipelineParallelSize := (max n 1).toNat
  minReplicaCount := 1
  maxReplicaCount := (max n 1).toNat

theorem readLimits_recovery (n : ℤ) :
    readLimits recoveryEffectiveConfig n = .ok (recoveryLimits n) := by
  rfl

/-- What is read off the configuration of a row: its times, none below zero. -/
def recoveryConfigRow (row : RecoveryRow) : ConfigRow where
  tensorParallelSize := row.tensorParallelSize
  pipelineParallelSize := 1
  dataParallelSize := 1
  replicaCount := 1
  enableExpertParallel := false
  totalGpus := row.tensorParallelSize
  reason := "backend_capability"
  latencyEstimateMs := max 0 row.selectedServiceMs
  loadTimeEstimateMs := max 0 row.engineReadyCostMs
  migrationCostEstimateMs := max 0 row.hostHandoffMs

theorem read_recoveryConfig (row : RecoveryRow) (h : 0 < row.tensorParallelSize) :
    (SupportedConfig.mapping (recoveryConfig env row)).read = .ok (recoveryConfigRow row) := by
  have hsize : intOr (some (.int row.tensorParallelSize)) 1 =
      .ok (row.tensorParallelSize : ℤ) := by
    have hne : (row.tensorParallelSize : ℤ) ≠ 0 := by omega
    rw [intOr, if_pos (show (Value.int row.tensorParallelSize).truthy = true from
      decide_eq_true hne)]
    rfl
  show readMapping (recoveryConfig env row) = _
  rw [readMapping]
  refine bind_ok hsize (bind_ok rfl (bind_ok rfl (bind_ok rfl (bind_ok rfl (bind_ok hsize ?_)))))
  rfl

/-- The cost model of the settings: the weights of the three times are one, the others zero. -/
def recoveryCostModel : WorkloadSnapshot where
  enabled := true
  arrivalRateReqS := 0
  batchSize := 1
  latencyEstimateMs := 0
  modelLoadTimeMs := 0
  loadTimePerGpuMs := 0
  migrationCostMs := 0
  migrationCostPerGpuMs := 0
  migrationCostPerReplicaMs := 0
  queuePenaltyMsPerReqS := 1000
  baseScoreWeight := 0
  throughputScoreWeight := 0
  latencyPenaltyWeight := 1
  loadTimePenaltyWeight := 1
  migrationCostPenaltyWeight := 1
  expertWeightMovementPenaltyWeight := 0
  queuePenaltyWeight := 0
  replanWindowPenaltyWeight := 0

theorem workloadCostModelSnapshot_recovery (candidates : List Dict) :
    workloadCostModelSnapshot recoveryEffectiveConfig
      (recoveryRequest env available candidates).modelConfig = recoveryCostModel := by
  rfl

/-! ## The nodes -/

/-- The entry of every node. -/
def gpuInfo : Dict := [("free_gpu", .int 1), ("total_gpu", .int 1), ("state", .str "ready")]

theorem gpuNodes_concat (available : List ℤ) (gpu : ℤ) :
    gpuNodes (available ++ [gpu]) = (gpuNodes available).set (gpuNode gpu) gpuInfo := by
  rw [gpuNodes, List.foldl_append]
  rfl

theorem mem_keys_gpuNodes {available : List ℤ} {gpu : ℤ} (h : gpu ∈ available) :
    gpuNode gpu ∈ (gpuNodes available).keys := by
  induction available using List.reverseRecOn with
  | nil => exact absurd h List.not_mem_nil
  | append_singleton available last ih =>
    rw [gpuNodes_concat, OrderedDict.mem_keys_set]
    rcases List.mem_append.mp h with h | h
    · exact Or.inr (ih h)
    · rw [List.mem_singleton.mp h]
      exact Or.inl rfl

/-- Every node is ready and has one GPU. -/
theorem get?_gpuNodes {available : List ℤ} {node : String} {info : Dict}
    (h : (gpuNodes available).get? node = some info) : info = gpuInfo := by
  induction available using List.reverseRecOn with
  | nil => exact absurd h (by simp [gpuNodes])
  | append_singleton available last ih =>
    rw [gpuNodes_concat, OrderedDict.get?_set] at h
    split_ifs at h with hnode
    · exact (Option.some.inj h).symm
    · exact ih h

/-- The available GPUs are counted node by node. -/
theorem weight_readyGpus {ready : List (String × ℤ)}
    (h : readyGpus (gpuNodes available) false = .ok ready) :
    weight ready = (gpuNodes available).keys.length := by
  have hinfo : ∀ entry ∈ (gpuNodes available).entries, entry.2 = gpuInfo := fun entry hentry =>
    get?_gpuNodes ((gpuNodes available).mem_entries_iff.mp hentry)
  have hready : (gpuNodes available).entries.filter (fun node => hasState node.2 "ready") =
      (gpuNodes available).entries := by
    refine List.filter_eq_self.mpr fun entry hentry => ?_
    rw [hinfo entry hentry]
    rfl
  have hone : (gpuNodes available).entries.map (fun node => gpusOf false node.2) =
      (gpuNodes available).entries.map fun _ => (1 : ℤ) := by
    refine List.map_congr_left fun entry hentry => ?_
    rw [hinfo entry hentry]
    rfl
  rw [readyGpus_eq h, hready, weight, List.map_map, OrderedDict.keys, List.length_map]
  show ((gpuNodes available).entries.map fun node => gpusOf false node.2).sum = _
  rw [hone]
  simp

/-- A group of distinct available GPUs is not larger than the number of nodes. -/
theorem length_le_nodes {group : List ℤ} (hgroup : ∀ gpu ∈ group, gpu ∈ available)
    (hnodup : (group.map gpuNode).Nodup) : group.length ≤ (gpuNodes available).keys.length := by
  have hsub : group.map gpuNode ⊆ (gpuNodes available).keys := by
    intro node hnode
    obtain ⟨gpu, hgpu, rfl⟩ := List.mem_map.mp hnode
    exact mem_keys_gpuNodes (hgroup gpu hgpu)
  rw [← List.length_map (f := gpuNode)]
  exact (hnodup.subperm hsub).length_le

/-! ## The stages -/

/-- The candidate of a row, for a number of GPUs. -/
def recoveryCandidate (n : ℤ) (row : RecoveryRow) : ParallelConfig :=
  (recoveryConfigRow row).toCandidate (recoveryLimits n) n

/-- A row whose configuration fits: one or two GPUs, and as many there. -/
def FitsNodes (n : ℤ) (row : RecoveryRow) : Prop :=
  0 < row.tensorParallelSize ∧ row.tensorParallelSize ≤ 2 ∧ (row.tensorParallelSize : ℤ) ≤ n

/-- A row that fits becomes a candidate. -/
theorem supportedCandidate_recovery {ready : List (String × ℤ)} {row : RecoveryRow}
    (hready : readyGpus (gpuNodes available) false = .ok ready)
    (hfits : FitsNodes (weight ready) row) :
    supportedCandidate (gpuNodes available) recoveryEffectiveConfig
      (recoveryLimits (weight ready)) (weight ready) (recoveryConfigRow row) =
        .ok (some (recoveryCandidate (weight ready) row)) := by
  obtain ⟨hpos, htwo, hroom⟩ := hfits
  have hone : (1 : ℤ) ≤ (max (weight ready) 1).toNat := by omega
  have hadmit : (recoveryLimits (weight ready)).Admit (recoveryConfigRow row) := by
    refine ⟨⟨?_, ?_⟩, ⟨le_rfl, hone⟩, ⟨le_rfl, hone⟩, le_rfl, hone⟩
    · show (1 : ℤ) ≤ row.tensorParallelSize
      omega
    · show (row.tensorParallelSize : ℤ) ≤ 2
      omega
  obtain ⟨targets, htargets, hne⟩ :=
    exists_selectTargetNodes hready (Int.natCast_pos.mpr hpos) hroom
  rw [supportedCandidate, if_neg (not_not.mpr hadmit),
    if_neg (not_lt.mpr (show (recoveryConfigRow row).totalGpus ≤ weight ready from hroom))]
  refine bind_ok (require_eq_ok.mpr ?_) (bind_ok htargets (congrArg Except.ok (if_neg hne)))
  rintro ⟨hword, -⟩
  exact absurd hword (by decide)

/-- **Every row becomes a candidate.** -/
theorem initialCandidates_recovery {ready : List (String × ℤ)} {rows : List RecoveryRow}
    (hready : readyGpus (gpuNodes available) false = .ok ready) (hne : rows ≠ [])
    (hfits : ∀ row ∈ rows, FitsNodes (weight ready) row) :
    initialCandidates (recoveryRequest env available (rows.map (recoveryConfig env)))
      recoveryEffectiveConfig (weight ready) =
        .ok (sortedDescending rankingKey (rows.map (recoveryCandidate (weight ready)))) := by
  have hsupported : (recoveryRequest env available
      (rows.map (recoveryConfig env))).supportedConfigs.isEmpty = false := by
    rw [recoveryRequest, List.isEmpty_map, List.isEmpty_map, List.isEmpty_eq_false_iff]
    exact hne
  have hall : (recoveryRequest env available
      (rows.map (recoveryConfig env))).supportedConfigs.mapM (fun plan =>
        plan.read >>= supportedCandidate (gpuNodes available) recoveryEffectiveConfig
          (recoveryLimits (weight ready)) (weight ready)) =
      .ok (rows.map fun row => some (recoveryCandidate (weight ready) row)) := by
    rw [recoveryRequest, List.mapM_map, List.mapM_map]
    exact mapM_eq_ok_map fun row hrow => bind_ok (read_recoveryConfig row (hfits row hrow).1)
      (supportedCandidate_recovery hready (hfits row hrow))
  have hsome : (rows.map fun row => some (recoveryCandidate (weight ready) row)).reduceOption =
      rows.map (recoveryCandidate (weight ready)) := by
    rw [List.reduceOption, List.filterMap_map]
    simp [List.filterMap_eq_map']
  have hcandidates : supportedConfigCandidates (recoveryRequest env available
      (rows.map (recoveryConfig env))).supportedConfigs (weight ready) (gpuNodes available)
      recoveryEffectiveConfig =
        .ok (sortedDescending rankingKey (rows.map (recoveryCandidate (weight ready)))) := by
    rw [supportedConfigCandidates, if_neg (by rw [hsupported]; simp)]
    refine bind_ok (readLimits_recovery _) (bind_ok hall ?_)
    rw [hsome]
    rfl
  rw [initialCandidates]
  refine bind_ok hcandidates ?_
  rw [hsupported, Bool.and_false]
  rfl

/-- A time that is zero is replaced by its default, which is zero. -/
theorem default_of_nonpos {time : ℚ} (h : 0 ≤ time) : (if time ≤ 0 then 0 else time) = time := by
  split_ifs with hzero
  · exact le_antisymm h hzero
  · rfl

theorem default_of_not_pos {time : ℚ} (h : 0 ≤ time) : (if 0 < time then time else 0) = time := by
  split_ifs with hpos
  · rfl
  · exact le_antisymm h (not_lt.mp hpos)

/-- **The score of a candidate**: all weights but those of the three times are zero. -/
theorem score_recovery {comparable : Comparable} (hcomparable : comparable.placementProfiles = true)
    {c : ParallelConfig} (hlatency : 0 ≤ c.latencyEstimateMs) (hload : 0 ≤ c.loadTimeEstimateMs)
    (hmigration : 0 ≤ c.migrationCostEstimateMs) :
    (scoreCandidate recoveryCostModel comparable c).score =
      -(c.latencyEstimateMs + c.loadTimeEstimateMs + c.migrationCostEstimateMs) := by
  rw [recoveryCostModel, scoreCandidate, hcomparable]
  simp only [if_true, mul_zero, mul_one, add_zero, default_of_nonpos hload,
    default_of_nonpos hmigration, default_of_not_pos hlatency]
  ring

/-- The candidates after the ranking. -/
theorem rankedCandidates_recovery (env : RouteCostEnvironment) (available : List ℤ)
    (configs : List Dict) (candidates : List ParallelConfig) :
    ∃ comparable : Comparable, comparable.placementProfiles = true ∧
      rankedCandidates (recoveryRequest env available configs) recoveryEffectiveConfig candidates =
        .ok (if candidates = [] then [] else sortedDescending rankingKey
          (candidates.map (scoreCandidate recoveryCostModel comparable))) := by
  refine ⟨comparableIn recoveryEffectiveConfig candidates, rfl, ?_⟩
  have hattach : ∀ lookups modelName backend nodes epoch reason,
      attachExpertPlacementMovementEstimates lookups modelName backend nodes
        recoveryEffectiveConfig epoch reason candidates = .ok candidates := by
    intro lookups modelName backend nodes epoch reason
    rw [attachExpertPlacementMovementEstimates, show placementDisabled recoveryEffectiveConfig =
      true from rfl, Bool.or_true]
    rfl
  rw [rankedCandidates]
  refine bind_ok (hattach _ _ _ _ _ _) (bind_ok rfl ?_)
  have hpolicy : ((recoveryEffectiveConfig.lookup "selection_policy").getD
      (.str "weighted_score")).toStr = "weighted_score" := rfl
  rw [scoreParallelCandidatesForWorkload, hpolicy, workloadCostModelSnapshot_recovery]
  by_cases hempty : candidates = []
  · subst hempty
    rfl
  · have henabled : (!recoveryCostModel.enabled || candidates.isEmpty) = false := by
      rw [List.isEmpty_eq_false_iff.mpr hempty]
      rfl
    rw [if_neg hempty, henabled]
    rfl

/-! ## The choice -/

/-- The sum of a row's times, none below zero: what the planner compares. -/
def plannerCost (row : RecoveryRow) : ℚ :=
  max 0 row.selectedServiceMs + max 0 row.engineReadyCostMs + max 0 row.hostHandoffMs

/-- Between two keys the scores decide, then the numbers of replicas, then the sizes. -/
theorem of_rankingKey_le {a b : ParallelConfig} (h : rankingKey a ≤ rankingKey b)
    (hreplicas : a.shape.replicaCount = b.shape.replicaCount) :
    a.score < b.score ∨
      a.score = b.score ∧ a.shape.tensorParallelSize ≤ b.shape.tensorParallelSize := by
  rcases of_key_cons_le h with hscore | ⟨hscore, h⟩
  · exact Or.inl hscore
  · rw [hreplicas] at h
    rcases of_key_cons_le h with hreplica | ⟨-, h⟩
    · exact absurd hreplica (lt_irrefl _)
    · rcases of_key_cons_le h with hsize | ⟨hsize, -⟩
      · exact Or.inr ⟨hscore, by exact_mod_cast hsize.le⟩
      · exact Or.inr ⟨hscore, by exact_mod_cast hsize.le⟩

/-- **The planner's choice**: a row of the least sum, and among these one of the largest size. -/
theorem planner_choice {rows : List RecoveryRow} (hne : rows ≠ [])
    (hfits : ∀ row ∈ rows, FitsNodes (gpuNodes available).keys.length row) {decision : Decision}
    (h : planDynamicReparallelization
      (recoveryRequest env available (rows.map (recoveryConfig env))) = .ok decision) :
    ∃ row ∈ rows, selectedTensorParallelSize decision = row.tensorParallelSize ∧
      ∀ other ∈ rows, plannerCost row < plannerCost other ∨
        plannerCost row = plannerCost other ∧
          other.tensorParallelSize ≤ row.tensorParallelSize := by
  obtain ⟨p, hselected, -⟩ := decision_spec h
  obtain ⟨config, availability, overlap, initial, ranked, hconfig, havailability, hoverlap,
    hinitial, hranked⟩ := p
  obtain rfl := Except.ok.inj (hconfig.symm.trans (effectiveConfig_recoveryRequest _))
  obtain ⟨ready, hready, havailable⟩ := summarize_available havailability
  have hweight := weight_readyGpus hready
  rw [show candidateAvailableGpus recoveryEffectiveConfig availability overlap =
    availability.availableGpus from rfl, havailable] at hinitial
  obtain rfl := Except.ok.inj (hinitial.symm.trans (initialCandidates_recovery hready hne
    fun row hrow => hweight ▸ hfits row hrow))
  obtain ⟨comparable, hcomparable, hscored⟩ := rankedCandidates_recovery env available
    (rows.map (recoveryConfig env))
    (sortedDescending rankingKey (rows.map (recoveryCandidate (weight ready))))
  have hranked := Except.ok.inj (hranked.symm.trans hscored)
  have hmem : ∀ c, c ∈ sortedDescending rankingKey (rows.map (recoveryCandidate (weight ready))) ↔
      ∃ row ∈ rows, recoveryCandidate (weight ready) row = c := by
    intro c
    rw [mem_sortedDescending, List.mem_map]
  have hscored : ∀ row ∈ rows,
      scoreCandidate recoveryCostModel comparable (recoveryCandidate (weight ready) row) ∈
        (sortedDescending rankingKey (rows.map (recoveryCandidate (weight ready)))).map
          (scoreCandidate recoveryCostModel comparable) := fun row hrow =>
    List.mem_map.mpr ⟨_, (hmem _).mpr ⟨row, hrow, rfl⟩, rfl⟩
  have hscore : ∀ row, (scoreCandidate recoveryCostModel comparable
      (recoveryCandidate (weight ready) row)).score = -plannerCost row := fun row =>
    score_recovery hcomparable (le_max_left _ _) (le_max_left _ _) (le_max_left _ _)
  have hsize : ∀ row : RecoveryRow,
      (recoveryCandidate (weight ready) row).shape.tensorParallelSize = row.tensorParallelSize :=
    fun row => Int.toNat_natCast _
  obtain ⟨row, hrow⟩ := List.exists_mem_of_ne_nil rows hne
  rw [if_neg (List.ne_nil_of_mem ((hmem _).mpr ⟨row, hrow, rfl⟩))] at hranked
  cases ranked with
  | nil =>
    have habsurd := (mem_sortedDescending rankingKey).mpr (hscored row hrow)
    rw [← hranked] at habsurd
    exact absurd habsurd List.not_mem_nil
  | cons first rest =>
    have hfirst := (mem_sortedDescending rankingKey).mp (hranked ▸ List.mem_cons_self)
    obtain ⟨c, hc, rfl⟩ := List.mem_map.mp hfirst
    obtain ⟨row, hrow, rfl⟩ := (hmem c).mp hc
    refine ⟨row, hrow, ?_, fun other hother => ?_⟩
    · rw [selectedTensorParallelSize, hselected]
      exact hsize row
    · rcases of_rankingKey_le (key_le_head hranked.symm (hscored other hother)) rfl with
        hlt | ⟨heq, hle⟩
      · rw [hscore, hscore] at hlt
        exact Or.inl (neg_lt_neg_iff.mp hlt)
      · rw [hscore, hscore] at heq
        exact Or.inr ⟨(neg_injective heq).symm,
          (hsize other).symm.trans_le (hle.trans_eq (hsize row))⟩

end Reparallelization
end SpotServe
