import SpotServe.Reparallelization.DynamicPlanner

/-!
# A decision never promises GPUs that are not there

Every candidate, wherever it comes from, asks for at least one GPU and for no more than the ready
nodes have (`initial_feasible`), and no stage of the planner changes what a candidate asks for
(`of_mem_ranked`).  So the nodes that `finishPlan` chooses from the table are enough for whichever
candidate came first.
-/

namespace SpotServe
namespace Reparallelization

open Py Runs Selection ExpertPlacement

/-! ## Settings that the rewriting leaves alone -/

section Settings

variable {request : PlanRequest} {config : Dict}

theorem lookup_lowerLimit {key key' : String} {before : Dict}
    (h : lowerLimit key before = .ok config) (hne : key ≠ key') :
    config.lookup key' = before.lookup key' := by
  obtain ⟨limit, -, h⟩ := of_bind_ok h
  rw [← Except.ok.inj h, OrderedDict.lookup_setEntry, if_neg hne]

theorem lookup_withTargetReplicaGpus {modelConfig before : Dict} {key : String}
    (h : withTargetReplicaGpus modelConfig before = .ok config)
    (hne : "target_replica_gpus" ≠ key) : config.lookup key = before.lookup key := by
  unfold withTargetReplicaGpus at h
  split_ifs at h with hset
  · rw [Except.ok.inj h]
  · obtain ⟨gpus, -, h⟩ := of_bind_ok h
    rw [← Except.ok.inj h, OrderedDict.lookup_setEntry, if_neg hne]

/-- The planner rewrites two limits and the target size, and reads everything else as it was
given. -/
theorem lookup_effectiveConfig {key : String} (h : effectiveConfig request = .ok config)
    (htarget : "target_replica_gpus" ≠ key) (hreplicas : "max_replica_count" ≠ key)
    (hpipeline : "max_pipeline_parallel_size" ≠ key) :
    config.lookup key = request.plannerConfig.lookup key := by
  obtain ⟨limited, hlimited, h⟩ := of_bind_ok h
  rw [lookup_withTargetReplicaGpus h htarget]
  unfold withLiveRemapLimits at hlimited
  split_ifs at hlimited with hlive
  · obtain ⟨first, hfirst, hsecond⟩ := of_bind_ok hlimited
    rw [lookup_lowerLimit hsecond hpipeline, lookup_lowerLimit hfirst hreplicas]
  · rw [Except.ok.inj hlimited]

/-- `require_free_gpu_overlap` is set. -/
def requiresFreeGpus (request : PlanRequest) : Bool :=
  flag request.plannerConfig "require_free_gpu_overlap"

theorem flag_effectiveConfig (h : effectiveConfig request = .ok config) :
    flag config "require_free_gpu_overlap" = requiresFreeGpus request := by
  rw [flag, lookup_effectiveConfig h (by decide) (by decide) (by decide)]
  rfl

end Settings

/-! ## Where the candidates come from -/

section Candidates

variable {request : PlanRequest} {d : Decision}

/-- The number of GPUs the planner takes as available. -/
def Planned.available (p : Planned request) : ℤ :=
  candidateAvailableGpus p.config p.availability p.overlap

/-- A candidate is a supported one, or made up because there are no supported ones. -/
theorem of_mem_initial (p : Planned request) {c : ParallelConfig} (hc : c ∈ p.initial) :
    (∃ candidates, supportedConfigCandidates request.supportedConfigs p.available
        request.workerNodes p.config = .ok candidates ∧ c ∈ candidates) ∨
      (request.supportedConfigs = [] ∧ ∃ candidates,
        generateParallelCandidates p.available p.config = .ok candidates ∧ c ∈ candidates) := by
  obtain ⟨candidates, hcandidates, h⟩ := of_bind_ok p.initial_eq
  split_ifs at h with hnone
  · rw [Bool.and_eq_true, List.isEmpty_iff, List.isEmpty_iff] at hnone
    exact Or.inr ⟨hnone.2, p.initial, h, hc⟩
  · obtain rfl := Except.ok.inj h
    exact Or.inl ⟨p.initial, hcandidates, hc⟩

theorem initial_feasible (p : Planned request) {c : ParallelConfig} (hc : c ∈ p.initial) :
    Feasible p.available c.shape := by
  rcases of_mem_initial p hc with ⟨candidates, h, hc⟩ | ⟨-, candidates, h, hc⟩
  · exact supported_feasible h hc
  · exact generated_feasible h hc

/-- A ranked candidate uses its GPUs like one of the candidates, and its placement, if it has one,
is that candidate's or was computed for it. -/
theorem of_mem_ranked (p : Planned request) {c : ParallelConfig} (hc : c ∈ p.ranked) :
    ∃ c' ∈ p.initial, c.shape = c'.shape ∧
      ∃ c'', Placed request.placementLookups request.modelName (backendName request)
        request.workerNodes p.config (nextPlacementEpoch request.modelConfig p.config)
        (planReason request.event) c' c'' ∧ c.expertPlacementPlan = c''.expertPlacementPlan := by
  obtain ⟨enriched, henriched, h⟩ := of_bind_ok p.ranked_eq
  obtain ⟨profiled, hprofiled, h⟩ := of_bind_ok h
  have hstays := (attachExactPlacementProfiles_stays hprofiled).trans
    (scoreParallelCandidatesForWorkload_stays h)
  obtain ⟨c'', hc'', hshape, hplan⟩ := hstays c hc
  obtain ⟨c', hc', hplaced⟩ := of_mem_attached henriched hc''
  refine ⟨c', hc', hshape.trans ?_, c'', hplaced, hplan⟩
  rcases hplaced with ⟨rfl, -⟩ | ⟨_, _, _, -, -, rfl⟩ <;> rfl

theorem ranked_feasible (p : Planned request) {c : ParallelConfig} (hc : c ∈ p.ranked) :
    Feasible p.available c.shape := by
  obtain ⟨c', hc', hshape, -⟩ := of_mem_ranked p hc
  rw [hshape]
  exact initial_feasible p hc'

/-- The available GPUs are no more than what is counted on the ready nodes. -/
theorem available_le_weight (p : Planned request) :
    ∃ ready, readyGpus request.workerNodes (requiresFreeGpus request) = .ok ready ∧
      p.available ≤ weight ready := by
  obtain ⟨total, htotal, havailable⟩ := summarize_available p.availability_eq
  obtain ⟨free, hfree, hoverlap⟩ := overlap_eq p.overlap_eq
  rw [Planned.available, candidateAvailableGpus, flag_effectiveConfig p.config_eq]
  cases requiresFreeGpus request with
  | false => exact ⟨total, htotal, havailable.le⟩
  | true => exact ⟨free, hfree, (min_le_right _ _).trans hoverlap.le⟩

/-- The plan of a decision has target nodes with enough GPUs, and the shape of a candidate. -/
theorem plan_enough (h : planDynamicReparallelization request = .ok d)
    {plan : ParallelPlan ExpertPlacementPlan} (hplan : d.parallelPlan = some plan) :
    ∃ (p : Planned request) (selected : ParallelConfig), selected ∈ p.ranked ∧
      finishPlan request p.config selected = .ok (plan, d.expertPlacementPlan) ∧
      0 < selected.shape.totalGpus ∧ plan.numGpus = selected.shape.totalGpus ∧
      Enough request.workerNodes (requiresFreeGpus request) plan.numGpus plan.targetNodes := by
  obtain ⟨p, ⟨-, -, hnone, -⟩ | ⟨selected, rest, plan', placement, hranked, hfinish, -, hplan',
    hplacement⟩⟩ := plan_spec h
  · exact absurd (hplan.symm.trans hnone) (by simp)
  obtain rfl : plan = plan' := Option.some.inj (hplan.symm.trans hplan')
  have hmem : selected ∈ p.ranked := hranked ▸ List.mem_cons_self
  have hfeasible := ranked_feasible p hmem
  obtain ⟨targets, htargets, htarget, -, -, -, -, hnum⟩ := finishPlan_spec hfinish
  have hnum : plan.numGpus = selected.shape.totalGpus := by
    rw [hnum]
    exact max_eq_right hfeasible.pos
  obtain ⟨ready, hready, hle⟩ := available_le_weight p
  obtain ⟨targets', htargets', hne⟩ := exists_selectTargetNodes hready
    (Int.natCast_pos.mpr hfeasible.pos) (hfeasible.le_available.trans hle)
  rw [flag_effectiveConfig p.config_eq] at htargets
  obtain rfl : targets = targets' := Except.ok.inj (htargets.symm.trans htargets')
  refine ⟨p, selected, hmem, hplacement ▸ hfinish, hfeasible.pos, hnum, ?_⟩
  rw [hnum, htarget]
  exact (selectTargetNodes_enough htargets hne).2

/-! ## Soundness of the decision -/

end Candidates

end Reparallelization
end SpotServe
