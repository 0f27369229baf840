import SpotServe.Reparallelization.ReplicaPlacement

/-!
# The shape of live remap plans

With live expert remapping on, the planner lowers the limits on replicas and on pipeline stages to
one.  Supported configurations are held to both.  Made up candidates are held to the second only:
`generate_parallel_candidates` never reads `max_replica_count`, and fills the GPUs with as many
replicas as fit.

So a plan has one replica whenever the backend lists its configurations, and otherwise when no
tensor size leaves room for a second replica or, as long as candidates are ranked by their score
alone, when a size without that room scores above all sizes with it (`live_remap_shape`).
-/

namespace SpotServe
namespace Reparallelization

open Py Runs Selection ExpertPlacement

/-! ## The lowered limits -/

section Limits

variable {request : PlanRequest} {config : Dict}

/-- A lowered limit is one. -/
theorem lookup_lowerLimit_self {key : String} {before : Dict}
    (h : lowerLimit key before = .ok config) : config.lookup key = some (.int 1) := by
  obtain ⟨limit, hlimit, h⟩ := of_bind_ok h
  rw [← Except.ok.inj h, OrderedDict.lookup_setEntry, if_pos rfl,
    Nat.min_eq_right (positiveInt_pos hlimit)]
  rfl

/-- Live remapping leaves one for both limits. -/
theorem lookup_live (hlive : liveRemapEnabled request.plannerConfig = true)
    (h : effectiveConfig request = .ok config) :
    config.lookup "max_replica_count" = some (.int 1) ∧
      config.lookup "max_pipeline_parallel_size" = some (.int 1) := by
  obtain ⟨limited, hlimited, h⟩ := of_bind_ok h
  rw [withLiveRemapLimits, if_pos hlive] at hlimited
  obtain ⟨first, hfirst, hsecond⟩ := of_bind_ok hlimited
  constructor
  · rw [lookup_withTargetReplicaGpus h (by decide), lookup_lowerLimit hsecond (by decide)]
    exact lookup_lowerLimit_self hfirst
  · rw [lookup_withTargetReplicaGpus h (by decide)]
    exact lookup_lowerLimit_self hsecond

theorem positiveInt_of_lookup {key : String} {default : ℤ}
    (h : config.lookup key = some (.int 1)) : positiveInt config key default = .ok 1 := by
  rw [positiveInt, h]
  rfl

theorem limits_live {limits : Limits} {availableGpus : ℤ}
    (hreplicas : config.lookup "max_replica_count" = some (.int 1))
    (hpipeline : config.lookup "max_pipeline_parallel_size" = some (.int 1))
    (h : readLimits config availableGpus = .ok limits) :
    limits.maxReplicaCount = 1 ∧ limits.maxPipelineParallelSize = 1 := by
  unfold readLimits at h
  obtain ⟨_, -, h⟩ := of_bind_ok h
  obtain ⟨_, -, h⟩ := of_bind_ok h
  obtain ⟨_, -, h⟩ := of_bind_ok h
  obtain ⟨_, -, h⟩ := of_bind_ok h
  obtain ⟨_, -, h⟩ := of_bind_ok h
  obtain ⟨_, -, h⟩ := of_bind_ok h
  obtain ⟨pipeline, hpipeline', h⟩ := of_bind_ok h
  obtain ⟨_, -, h⟩ := of_bind_ok h
  obtain ⟨replicas, hreplicas', h⟩ := of_bind_ok h
  rw [← Except.ok.inj h]
  rw [positiveInt_of_lookup hpipeline] at hpipeline'
  rw [positiveInt_of_lookup hreplicas] at hreplicas'
  exact ⟨(Except.ok.inj hreplicas').symm, (Except.ok.inj hpipeline').symm⟩

end Limits

/-! ## The first candidate stays the first -/

section First

variable {request : PlanRequest}

theorem placementStrategies_ne_nil (config : Dict) : placementStrategies config ≠ [] := by
  unfold placementStrategies
  dsimp only
  split_ifs with h
  · simp
  · exact fun hnil => h (List.isEmpty_iff.mpr hnil)

/-- Enriching keeps the first candidate first, with its shape. -/
theorem attached_head {lookups : PlacementLookups} {modelName backend reason : String}
    {nodes : WorkerNodes} {config : Dict} {placementEpoch : ℕ} {first : ParallelConfig}
    {rest enriched : List ParallelConfig}
    (h : attachExpertPlacementMovementEstimates lookups modelName backend nodes config
      placementEpoch reason (first :: rest) = .ok enriched) :
    ∃ c ∈ enriched.head?, c.shape = first.shape := by
  unfold attachExpertPlacementMovementEstimates at h
  split_ifs at h with hskip
  · obtain rfl := Except.ok.inj h
    exact ⟨first, rfl, rfl⟩
  obtain ⟨state, hrun, h⟩ := of_bind_ok h
  obtain rfl := Except.ok.inj h
  obtain ⟨strategy, strategies, hstrategies⟩ :=
    List.exists_cons_of_ne_nil (placementStrategies_ne_nil config)
  rw [List.flatMap_cons, hstrategies, List.map_cons, List.cons_append, List.foldlM_cons] at hrun
  obtain ⟨started, hfirst, hrun⟩ := of_bind_ok hrun
  -- Nothing has been seen yet, so the first turn adds the first candidate.
  have hstarted : ∃ c ∈ started.enriched.head?, c.shape = first.shape := by
    unfold attachPlacement at hfirst
    obtain ⟨candidatePlan, -, hfirst⟩ := of_bind_ok hfirst
    obtain ⟨placement, -, hfirst⟩ := of_bind_ok hfirst
    cases placement with
    | none =>
      obtain rfl := Except.ok.inj hfirst
      exact ⟨first, rfl, rfl⟩
    | some plan =>
      dsimp only at hfirst
      rw [if_neg List.not_mem_nil] at hfirst
      obtain rfl := Except.ok.inj hfirst
      exact ⟨first.withPlacement plan, rfl, rfl⟩
  refine foldlM_of_ok (fun _ (state : Enriched) => ∃ c ∈ state.enriched.head?,
    c.shape = first.shape) ?_ hstarted hrun
  rintro done turn rest state state' - ⟨c, hc, hshape⟩ hstep
  refine ⟨c, ?_, hshape⟩
  unfold attachPlacement at hstep
  obtain ⟨candidatePlan, -, hstep⟩ := of_bind_ok hstep
  obtain ⟨placement, -, hstep⟩ := of_bind_ok hstep
  cases placement with
  | none =>
    obtain rfl := Except.ok.inj hstep
    exact List.mem_head?_append_of_mem_head? hc
  | some plan =>
    dsimp only at hstep
    split_ifs at hstep
    · obtain rfl := Except.ok.inj hstep
      exact hc
    · obtain rfl := Except.ok.inj hstep
      exact List.mem_head?_append_of_mem_head? hc

/-- Candidates are ranked by the score they came with: the weighted policy, without the cost
model. -/
def RanksByScore (request : PlanRequest) : Prop :=
  ((request.plannerConfig.lookup "selection_policy").getD (.str "weighted_score")).toStr =
      "weighted_score" ∧
    (getFirst request.plannerConfig ["enable_workload_cost_model", "workload_cost_model"]
      (.bool false)).truthy = false

/-- Ranked by their scores, the candidates keep the first one first. -/
theorem ranked_head (p : Planned request) (hscore : RanksByScore request) {first : ParallelConfig}
    {rest : List ParallelConfig} (hinitial : p.initial = first :: rest) :
    ∃ c ∈ p.ranked.head?, c.shape = first.shape := by
  obtain ⟨enriched, henriched, h⟩ := of_bind_ok p.ranked_eq
  obtain ⟨profiled, hprofiled, h⟩ := of_bind_ok h
  rw [hinitial] at henriched
  obtain ⟨c, hc, hshape⟩ := attached_head henriched
  have hlookup : ∀ key, "target_replica_gpus" ≠ key → "max_replica_count" ≠ key →
      "max_pipeline_parallel_size" ≠ key →
      p.config.lookup key = request.plannerConfig.lookup key :=
    fun key => lookup_effectiveConfig p.config_eq
  -- Looking profiles up maps the list, and the score stage returns it unchanged.
  have hkept : p.ranked = profiled := by
    unfold scoreParallelCandidatesForWorkload at h
    dsimp only at h
    rw [hlookup _ (by decide) (by decide) (by decide), hscore.1, if_neg (by decide),
      if_neg (by decide)] at h
    have hoff : (workloadCostModelSnapshot p.config request.modelConfig).enabled = false := by
      have hsame : getFirst p.config ["enable_workload_cost_model", "workload_cost_model"]
          (.bool false) = getFirst request.plannerConfig
            ["enable_workload_cost_model", "workload_cost_model"] (.bool false) := by
        unfold getFirst
        rw [List.findSome?_cons, List.findSome?_cons, List.findSome?_cons, List.findSome?_cons,
          hlookup _ (by decide) (by decide) (by decide),
          hlookup _ (by decide) (by decide) (by decide)]
        rfl
      exact (congrArg Value.truthy hsame).trans hscore.2
    rw [hoff] at h
    exact (Except.ok.inj h).symm
  obtain ⟨f, hf, hmap⟩ := attachExactPlacementProfiles_eq_map hprofiled
  refine ⟨f c, ?_, (hf c).1.trans hshape⟩
  rw [hkept, hmap, List.head?_map]
  exact Option.mem_map_of_mem f hc

end First

/-! ## Sizes without room for a second replica -/

section Sizes

/-- The score of a tensor size. -/
def sizeScore (availableGpus targetReplicaGpus tensor : ℕ) : ℚ :=
  candidateScore (tensor * (availableGpus / tensor) : ℕ) (availableGpus / tensor : ℕ) tensor
    targetReplicaGpus ((availableGpus : ℤ) - (tensor * (availableGpus / tensor) : ℕ))

/-- Some size without room for a second replica scores above all sizes with it. -/
def OneReplicaScoresBest (availableGpus minTensor maxTensor minReplicaCount targetReplicaGpus : ℕ) :
    Prop :=
  ∃ tensor, minTensor ≤ tensor ∧ tensor ≤ maxTensor ∧
    minReplicaCount ≤ availableGpus / tensor ∧ availableGpus < 2 * tensor ∧
    ∀ tensor', minTensor ≤ tensor' → tensor' ≤ maxTensor →
      minReplicaCount ≤ availableGpus / tensor' → 2 * tensor' ≤ availableGpus →
      sizeScore availableGpus targetReplicaGpus tensor' <
        sizeScore availableGpus targetReplicaGpus tensor

theorem score_generatedCandidate {availableGpus minReplicaCount targetReplicaGpus tensor : ℕ}
    {c : ParallelConfig}
    (h : generatedCandidate availableGpus minReplicaCount targetReplicaGpus tensor 1 = some c) :
    c.score = sizeScore availableGpus targetReplicaGpus tensor := by
  unfold generatedCandidate at h
  dsimp only at h
  rw [Nat.mul_one] at h
  split_ifs at h with hroom hmin
  obtain rfl := Option.some.inj h
  rfl

theorem exists_generatedCandidate {availableGpus minReplicaCount tensor : ℕ} (targetReplicaGpus : ℕ)
    (hroom : tensor ≤ availableGpus) (hmin : minReplicaCount ≤ availableGpus / tensor) :
    ∃ c, generatedCandidate availableGpus minReplicaCount targetReplicaGpus tensor 1 = some c := by
  unfold generatedCandidate
  dsimp only
  rw [Nat.mul_one, if_neg (not_lt.mpr hroom), if_neg (not_lt.mpr hmin)]
  exact ⟨_, rfl⟩

/-- Between two keys, the scores decide, and then the numbers of replicas. -/
theorem score_le_of_key_le {a b : ParallelConfig} (h : generatedKey a ≤ generatedKey b) :
    a.score < b.score ∨
      a.score = b.score ∧ a.shape.replicaCount ≤ b.shape.replicaCount := by
  rcases of_key_cons_le h with hscore | ⟨hscore, h⟩
  · exact Or.inl hscore
  · rcases of_key_cons_le h with hreplicas | ⟨hreplicas, -⟩
    · exact Or.inr ⟨hscore, by exact_mod_cast hreplicas.le⟩
    · exact Or.inr ⟨hscore, by exact_mod_cast hreplicas.le⟩

end Sizes

/-! ## The shape of the plan -/

section Shape

variable {request : PlanRequest} {d : Decision} {plan : ParallelPlan ExpertPlacementPlan}

/-- What bounds made up candidates: the GPUs, the tensor sizes, and the replicas and the replica size
that are asked for. -/
structure Bounds where
  gpus : ℕ
  minTensor : ℕ
  maxTensor : ℕ
  minReplicaCount : ℕ
  targetReplicaGpus : ℕ

/-- The bounds that a request sets. -/
def boundsOf (request : PlanRequest) : Except PlanningFailure Bounds := do
  let config ← effectiveConfig request
  let availability ← summarizeGpuAvailability request.workerNodes
  let overlap ← overlapAvailableGpus request.workerNodes
  let available := candidateAvailableGpus config availability overlap
  let maxTensor ← positiveInt config "max_tensor_parallel_size" available
  let minTensor ← positiveInt config "min_tensor_parallel_size" 1
  let minReplicaCount ← positiveInt config "min_replica_count" 1
  let targetReplicaGpus ← positiveInt config "target_replica_gpus" 1
  return {
    gpus := available.toNat
    minTensor := min minTensor (min maxTensor available.toNat)
    maxTensor := min maxTensor available.toNat
    minReplicaCount := minReplicaCount
    targetReplicaGpus := targetReplicaGpus }

/-- One replica is all there can be, or what the ranking prefers: the backend lists its
configurations, or the smallest tensor size leaves no room for a second replica, or a size without
that room scores best. -/
def OneReplicaOnly (request : PlanRequest) : Prop :=
  request.supportedConfigs ≠ [] ∨ ∀ b, boundsOf request = .ok b →
    b.gpus / b.minTensor ≤ 1 ∨ b.gpus / b.minTensor < b.minReplicaCount ∨
      RanksByScore request ∧ OneReplicaScoresBest b.gpus b.minTensor b.maxTensor b.minReplicaCount
        b.targetReplicaGpus

/-- Under live remapping, the made up candidates are one for each tensor size. -/
theorem initial_eq_grid (hlive : liveRemapEnabled request.plannerConfig = true)
    (p : Planned request) (hempty : request.supportedConfigs = []) (hne : p.initial ≠ []) :
    ∃ b, boundsOf request = .ok b ∧ 0 < b.minTensor ∧ b.maxTensor ≤ b.gpus ∧
      p.initial = sortedDescending generatedKey (candidateGrid b.gpus b.minTensor b.maxTensor 1
        b.minReplicaCount b.targetReplicaGpus) := by
  have hinitial := p.initial_eq
  rw [initialCandidates, hempty] at hinitial
  have hgenerated : generateParallelCandidates
      (candidateAvailableGpus p.config p.availability p.overlap) p.config = .ok p.initial := hinitial
  unfold generateParallelCandidates at hgenerated
  split_ifs at hgenerated with hpos
  · exact absurd (Except.ok.inj hgenerated).symm hne
  obtain ⟨maxTensor, hmaxTensor, h⟩ := of_bind_ok hgenerated
  obtain ⟨minTensor, hminTensor, h⟩ := of_bind_ok h
  obtain ⟨maxPipeline, hmaxPipeline, h⟩ := of_bind_ok h
  obtain ⟨minReplicaCount, hminReplicaCount, h⟩ := of_bind_ok h
  obtain ⟨targetReplicaGpus, htargetReplicaGpus, h⟩ := of_bind_ok h
  rw [positiveInt_of_lookup (lookup_live hlive p.config_eq).2] at hmaxPipeline
  obtain rfl := Except.ok.inj hmaxPipeline
  have hgpus : 0 < (candidateAvailableGpus p.config p.availability p.overlap).toNat := by omega
  have := positiveInt_pos hmaxTensor
  have := positiveInt_pos hminTensor
  refine ⟨_, bind_ok p.config_eq (bind_ok p.availability_eq (bind_ok p.overlap_eq
    (bind_ok hmaxTensor (bind_ok hminTensor (bind_ok hminReplicaCount
      (bind_ok htargetReplicaGpus rfl)))))), ?_, ?_, ?_⟩
  · show 0 < min minTensor (min maxTensor _)
    omega
  · exact min_le_right _ _
  · rw [← Except.ok.inj h, Nat.min_eq_left hgpus]

theorem mem_grid_one {b : Bounds} {c : ParallelConfig} :
    c ∈ candidateGrid b.gpus b.minTensor b.maxTensor 1 b.minReplicaCount b.targetReplicaGpus ↔
      ∃ tensor, b.minTensor ≤ tensor ∧ tensor ≤ b.maxTensor ∧
        generatedCandidate b.gpus b.minReplicaCount b.targetReplicaGpus tensor 1 = some c := by
  rw [mem_candidateGrid]
  constructor
  · rintro ⟨tensor, pipeline, hge, hle, hpos, hle', hc⟩
    obtain rfl : pipeline = 1 := by omega
    exact ⟨tensor, hge, hle, hc⟩
  · rintro ⟨tensor, hge, hle, hc⟩
    exact ⟨tensor, 1, hge, hle, Nat.one_pos, le_rfl, hc⟩

/-- A supported candidate under live remapping has the supported shape. -/
theorem supported_shape (hlive : liveRemapEnabled request.plannerConfig = true) (p : Planned request)
    {c : ParallelConfig} {candidates : List ParallelConfig}
    (h : supportedConfigCandidates request.supportedConfigs p.available request.workerNodes
      p.config = .ok candidates) (hc : c ∈ candidates) :
    c.shape.replicaCount ≤ 1 ∧ c.shape.pipelineParallelSize ≤ 1 := by
  obtain ⟨limits, row, targets, hlimits, -, hadmitted, -, -, -, rfl⟩ := of_mem_supported h hc
  obtain ⟨hreplicas, hpipeline⟩ := lookup_live hlive p.config_eq
  obtain ⟨hmaxReplicas, hmaxPipeline⟩ := limits_live hreplicas hpipeline hlimits
  obtain ⟨-, -, ⟨-, hreplicas⟩, -, hpipeline⟩ := hadmitted
  rw [hmaxReplicas] at hreplicas
  rw [hmaxPipeline] at hpipeline
  constructor
  · show row.replicaCount.toNat ≤ 1
    omega
  · show row.pipelineParallelSize.toNat ≤ 1
    omega

/-- The pipeline has one stage in every candidate. -/
theorem initial_pipeline (hlive : liveRemapEnabled request.plannerConfig = true)
    (p : Planned request) {c : ParallelConfig} (hc : c ∈ p.initial) :
    c.shape.pipelineParallelSize ≤ 1 := by
  rcases of_mem_initial p hc with ⟨candidates, h, hmem⟩ | ⟨hempty, -⟩
  · exact (supported_shape hlive p h hmem).2
  · obtain ⟨b, -, -, -, hgrid⟩ := initial_eq_grid hlive p hempty (List.ne_nil_of_mem hc)
    rw [hgrid, mem_sortedDescending, mem_grid_one] at hc
    obtain ⟨tensor, -, -, hc⟩ := hc
    obtain ⟨-, -, -, hpipeline, -⟩ := generatedCandidate_spec hc
    exact hpipeline.le

/-- The facts about a made up candidate of one pipeline stage. -/
theorem of_generated_one {b : Bounds} {tensor : ℕ} {c : ParallelConfig}
    (h : generatedCandidate b.gpus b.minReplicaCount b.targetReplicaGpus tensor 1 = some c) :
    b.minReplicaCount ≤ b.gpus / tensor ∧ c.shape.replicaCount = b.gpus / tensor ∧
      c.score = sizeScore b.gpus b.targetReplicaGpus tensor := by
  obtain ⟨-, hmin, -, -, -, hreplicas, -⟩ := generatedCandidate_spec h
  rw [Nat.mul_one] at hmin hreplicas
  exact ⟨hmin, hreplicas, score_generatedCandidate h⟩

/-- Ranked by their scores, the first candidate leaves no room for a second replica exactly when such
a size scores best. -/
theorem first_replicas_iff {b : Bounds} (hpos : 0 < b.minTensor) (hle : b.maxTensor ≤ b.gpus)
    {first : ParallelConfig} {rest : List ParallelConfig}
    (h : sortedDescending generatedKey (candidateGrid b.gpus b.minTensor b.maxTensor 1
      b.minReplicaCount b.targetReplicaGpus) = first :: rest) :
    first.shape.replicaCount ≤ 1 ↔
      OneReplicaScoresBest b.gpus b.minTensor b.maxTensor b.minReplicaCount
        b.targetReplicaGpus := by
  have hmem : first ∈ candidateGrid b.gpus b.minTensor b.maxTensor 1 b.minReplicaCount
      b.targetReplicaGpus := by
    rw [← mem_sortedDescending generatedKey, h]
    exact List.mem_cons_self
  obtain ⟨best, hbestGe, hbestLe, hbest⟩ := mem_grid_one.mp hmem
  obtain ⟨hbestMin, hbestReplicas, hbestScore⟩ := of_generated_one hbest
  -- A size in range has a candidate, which does not come before the first one.
  have hkey : ∀ tensor, b.minTensor ≤ tensor → tensor ≤ b.maxTensor →
      b.minReplicaCount ≤ b.gpus / tensor →
      sizeScore b.gpus b.targetReplicaGpus tensor < first.score ∨
        sizeScore b.gpus b.targetReplicaGpus tensor = first.score ∧
          b.gpus / tensor ≤ first.shape.replicaCount := by
    intro tensor hge hle' hmin
    obtain ⟨c, hc⟩ := exists_generatedCandidate b.targetReplicaGpus
      (hle'.trans hle) hmin
    obtain ⟨-, hreplicas, hscore⟩ := of_generated_one hc
    rw [← hscore, ← hreplicas]
    exact score_le_of_key_le (key_le_head h (mem_grid_one.mpr ⟨tensor, hge, hle', hc⟩))
  have htwo : ∀ tensor, b.minTensor ≤ tensor → (b.gpus / tensor ≤ 1 ↔ b.gpus < 2 * tensor) := by
    intro tensor hge
    rw [← Nat.div_lt_iff_lt_mul (hpos.trans_le hge)]
    omega
  constructor
  · intro hone
    rw [hbestReplicas] at hone
    refine ⟨best, hbestGe, hbestLe, hbestMin, (htwo best hbestGe).mp hone, ?_⟩
    intro tensor hge hle' hmin hroom
    rw [← hbestScore]
    rcases hkey tensor hge hle' hmin with hlt | ⟨-, hreplicas⟩
    · exact hlt
    · have hsecond := (htwo tensor hge).not.mpr (by omega)
      omega
  · rintro ⟨tensor, hge, hle', hmin, hnoroom, hbeats⟩
    by_contra hmore
    rw [hbestReplicas] at hmore
    have hroom := (htwo best hbestGe).not.mp hmore
    have hlt := hbeats best hbestGe hbestLe hbestMin (by omega)
    rw [← hbestScore] at hlt
    rcases hkey tensor hge hle' hmin with hgt | ⟨heq, -⟩
    · exact lt_asymm hlt hgt
    · exact hlt.ne' heq

/-- The first made up candidate decides about the plan's replicas when candidates are ranked by their
scores. -/
theorem selected_replicas_iff (hlive : liveRemapEnabled request.plannerConfig = true)
    (p : Planned request) (hempty : request.supportedConfigs = []) (hscore : RanksByScore request)
    {selected : ParallelConfig} {rest : List ParallelConfig} (hranked : p.ranked = selected :: rest)
    (hne : p.initial ≠ []) {b : Bounds} (hb : boundsOf request = .ok b) :
    selected.shape.replicaCount ≤ 1 ↔
      OneReplicaScoresBest b.gpus b.minTensor b.maxTensor b.minReplicaCount
        b.targetReplicaGpus := by
  obtain ⟨b', hb', hpos, hle, hgrid⟩ := initial_eq_grid hlive p hempty hne
  obtain rfl : b = b' := Except.ok.inj (hb.symm.trans hb')
  obtain ⟨first, others, hfirst⟩ := List.exists_cons_of_ne_nil hne
  obtain ⟨c, hc, hshape⟩ := ranked_head p hscore hfirst
  rw [hranked] at hc
  obtain rfl : selected = c := Option.some.inj hc
  rw [hshape]
  exact first_replicas_iff hpos hle (hgrid.symm.trans hfirst)

/-- **Live remap plans and the supported shape.**  A plan has one replica and one pipeline stage
where one replica is all there can be or what the ranking prefers; with candidates ranked by their
scores alone, it has so only there. -/
theorem live_remap_shape (hlive : liveRemapEnabled request.plannerConfig = true)
    (h : planDynamicReparallelization request = .ok d) (hplan : d.parallelPlan = some plan) :
    (OneReplicaOnly request → plan.replicaCount = 1 ∧ plan.pipelineParallelSize = 1) ∧
      (RanksByScore request → plan.replicaCount = 1 ∧ plan.pipelineParallelSize = 1 →
        OneReplicaOnly request) := by
  obtain ⟨p, ⟨-, -, hnone, -⟩ | ⟨selected, rest, plan', placement, hranked, hfinish, -, hplan',
    -⟩⟩ := plan_spec h
  · exact absurd (hplan.symm.trans hnone) (by simp)
  obtain rfl : plan = plan' := Option.some.inj (hplan.symm.trans hplan')
  obtain ⟨c, hc, hshape, -⟩ := of_mem_ranked p (hranked ▸ List.mem_cons_self)
  have hne : p.initial ≠ [] := List.ne_nil_of_mem hc
  obtain ⟨targets, -, -, -, -, hpipeline, hreplicas, -⟩ := finishPlan_spec hfinish
  have hstages : plan.pipelineParallelSize = 1 := by
    rw [hpipeline, hshape]
    exact max_eq_left (initial_pipeline hlive p hc)
  have hone : plan.replicaCount = 1 ↔ selected.shape.replicaCount ≤ 1 := by
    rw [hreplicas]
    exact max_eq_left_iff
  constructor
  · intro honly
    refine ⟨hone.mpr ?_, hstages⟩
    rcases of_mem_initial p hc with ⟨candidates, hsupported, hmem⟩ | ⟨hempty, -⟩
    · rw [hshape]
      exact (supported_shape hlive p hsupported hmem).1
    · obtain ⟨b, hb, hpos, hle, hgrid⟩ := initial_eq_grid hlive p hempty hne
      have hin : c ∈ candidateGrid b.gpus b.minTensor b.maxTensor 1 b.minReplicaCount
          b.targetReplicaGpus := by
        rw [← mem_sortedDescending generatedKey, ← hgrid]
        exact hc
      obtain ⟨tensor, hge, -, hgenerated⟩ := mem_grid_one.mp hin
      obtain ⟨hmin, hcount, -⟩ := of_generated_one hgenerated
      have hfewer : b.gpus / tensor ≤ b.gpus / b.minTensor := Nat.div_le_div_left hge hpos
      rcases honly.resolve_left (not_not.mpr hempty) b hb with hsmall | hnone | ⟨hscore, hbest⟩
      · rw [hshape, hcount]
        exact hfewer.trans hsmall
      · omega
      · exact (selected_replicas_iff hlive p hempty hscore hranked hne hb).mpr hbest
  · rintro hscore ⟨hcount, -⟩
    by_cases hempty : request.supportedConfigs = []
    · refine Or.inr fun b hb => Or.inr (Or.inr ⟨hscore, ?_⟩)
      exact (selected_replicas_iff hlive p hempty hscore hranked hne hb).mp (hone.mp hcount)
    · exact Or.inl hempty

/-- Live remapping asked for on one node, with the given number of GPUs and without a list of
configurations. -/
def liveRequest (gpus target : ℤ) : PlanRequest where
  modelName := "moe"
  backend := some "vllm"
  workerNodes := ⟨[("node-a", [("total_gpu", .int gpus)])], (by decide : ["node-a"].Nodup)⟩
  plannerConfig := [("enable_live_expert_remap", .bool true), ("target_replica_gpus", .int target)]
  placementLookups := denseLookups

theorem live_remap_shape_liveRequest : ∃ d plan,
    planDynamicReparallelization (liveRequest 4 4) = .ok d ∧ d.parallelPlan = some plan ∧
      (OneReplicaOnly (liveRequest 4 4) →
        plan.replicaCount = 1 ∧ plan.pipelineParallelSize = 1) ∧
      (RanksByScore (liveRequest 4 4) → plan.replicaCount = 1 ∧ plan.pipelineParallelSize = 1 →
        OneReplicaOnly (liveRequest 4 4)) := by
  have hplanned : ((planDynamicReparallelization (liveRequest 4 4)).toOption.bind
      (·.parallelPlan)).isSome = true := by decide +kernel
  obtain ⟨plan, hplan⟩ := Option.isSome_iff_exists.mp hplanned
  obtain ⟨d, hd, hplan⟩ := Option.bind_eq_some_iff.mp hplan
  exact ⟨d, plan, of_toOption hd, hplan,
    live_remap_shape (by decide +kernel) (of_toOption hd) hplan⟩

/-- Four GPUs and replicas of one: the plan has four replicas. -/
theorem live_remap_plans_four_replicas : ∃ d plan,
    liveRemapEnabled (liveRequest 4 1).plannerConfig = true ∧
      planDynamicReparallelization (liveRequest 4 1) = .ok d ∧ d.parallelPlan = some plan ∧
      plan.replicaCount = 4 := by
  have hplanned : ((planDynamicReparallelization (liveRequest 4 1)).toOption.bind
      (·.parallelPlan)).any (fun plan => plan.replicaCount = 4) = true := by decide +kernel
  obtain ⟨plan, hplan, hreplicas⟩ := (Option.any_eq_true _ _).mp hplanned
  obtain ⟨d, hd, hplan⟩ := Option.bind_eq_some_iff.mp hplan
  exact ⟨d, plan, by decide +kernel, of_toOption hd, hplan, of_decide_eq_true hreplicas⟩

end Shape

end Reparallelization
end SpotServe
