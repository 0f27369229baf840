import SpotServe.Reparallelization.Ranking

/-!
# The reparallelization planner

`plan_dynamic_reparallelization` (`sllm/spot/reparallelization.py`): from a table of worker nodes,
the configurations of the backend and the settings of the planner to a parallel plan with target
nodes, or to the answer that there is no capacity.

* `effectiveConfig`: the settings as the planner rewrites them.  Live expert remapping lowers two of
  the limits to one.
* `initialCandidates`, `rankedCandidates`: the candidates, and the order in which they are taken.
* `finishPlan`: the plan of the first one.  Its nodes are chosen here, from the table again.
* `planDynamicReparallelization`: the decision.  `decision_spec` takes it apart, and every result about
  the planner starts from there.
-/

namespace SpotServe
namespace Reparallelization

open Py Runs Selection ExpertPlacement

/-- The arguments, with the backend's configurations and the lookups of the placement planner. -/
structure PlanRequest where
  modelName : String
  workerNodes : WorkerNodes
  modelConfig : Dict := []
  plannerConfig : Dict := []
  event : Option String := none
  nodeId : Option String := none
  instanceId : Option String := none
  backend : Option String := none
  /-- `supported_configs` of `_get_backend_capability(model_config)`, empty when there is none. -/
  supportedConfigs : List SupportedConfig := []
  placementLookups : PlacementLookups

/-- `action`. -/
inductive Action where
  | reparallelize
  | noCapacity
  deriving DecidableEq

/-- The decision.  The entries that repeat fields of the selected configuration or of the placement
plan under other names are left out. -/
structure Decision where
  model : String
  backend : String
  event : Option String
  nodeId : Option String
  instanceId : Option String
  action : Action
  candidateCount : ℕ
  availability : GpuAvailability
  transitionAvailableGpus : ℤ
  readyFreeGpus : ℤ
  parallelPlan : Option (ParallelPlan ExpertPlacementPlan)
  expertPlacementPlan : Option ExpertPlacementPlan
  selectedConfig : Option ParallelConfig
  topCandidates : List ParallelConfig

/-- `str(backend or model_config.get("backend", "unknown"))`. -/
def backendName (request : PlanRequest) : String :=
  match request.backend with
  | some name =>
    if name ≠ "" then name
    else ((request.modelConfig.lookup "backend").getD (.str "unknown")).toStr
  | none => ((request.modelConfig.lookup "backend").getD (.str "unknown")).toStr

/-- `f"{event or 'manual'}_replan"`. -/
def planReason (event : Option String) : String :=
  (match event with
    | some event => if event ≠ "" then event else "manual"
    | none => "manual") ++ "_replan"

/-- A limit that live expert remapping lowers to one. -/
def lowerLimit (key : String) (config : Dict) : Except PlanningFailure Dict := do
  let limit ← positiveInt config key 1
  return OrderedDict.setEntry config key (.int (min limit 1 : ℕ))

/-- `target_replica_gpus`, where it is not set. -/
def withTargetReplicaGpus (modelConfig config : Dict) : Except PlanningFailure Dict :=
  if hasKey config "target_replica_gpus" then .ok config
  else do
    let gpus ← intOr
      (((config.lookup "model_gpu_requirement").filter Value.truthy).or
        (modelConfig.lookup "num_gpus")) 1
    return OrderedDict.setEntry config "target_replica_gpus" (.int (max gpus 1))

/-- `live_remap_enabled`. -/
def liveRemapEnabled (config : Dict) : Bool := configSwitch config "enable_live_expert_remap"

/-- The limits under live expert remapping. -/
def withLiveRemapLimits (config : Dict) : Except PlanningFailure Dict :=
  if liveRemapEnabled config then
    lowerLimit "max_replica_count" config >>= lowerLimit "max_pipeline_parallel_size"
  else .ok config

/-- The planner's settings after the rewriting. -/
def effectiveConfig (request : PlanRequest) : Except PlanningFailure Dict :=
  withLiveRemapLimits request.plannerConfig >>= withTargetReplicaGpus request.modelConfig

/-- `_next_placement_epoch`. -/
def nextPlacementEpoch (modelConfig config : Dict) : ℕ :=
  let epoch := fun (source : Dict) (key : String) => safeInt ((source.lookup key).getD .none) 0
  let current := max (max (max (epoch config "placement_epoch")
    (epoch config "current_placement_epoch"))
    (epoch (mappingAt modelConfig "backend_config") "placement_epoch"))
    (epoch modelConfig "placement_epoch")
  (max 1 (current + 1)).toNat

/-- `candidate_available_gpus`. -/
def candidateAvailableGpus (config : Dict) (availability : GpuAvailability) (overlap : ℤ) : ℤ :=
  if flag config "require_free_gpu_overlap" then min availability.availableGpus overlap
  else availability.availableGpus

/-- The candidates: those the backend supports, and made up ones only when it says nothing. -/
def initialCandidates (request : PlanRequest) (config : Dict) (availableGpus : ℤ) :
    Except PlanningFailure (List ParallelConfig) := do
  let candidates ← supportedConfigCandidates request.supportedConfigs availableGpus
    request.workerNodes config
  if candidates.isEmpty && request.supportedConfigs.isEmpty then
    generateParallelCandidates availableGpus config
  else return candidates

/-- The stages between the candidates and the choice. -/
def rankedCandidates (request : PlanRequest) (config : Dict) (candidates : List ParallelConfig) :
    Except PlanningFailure (List ParallelConfig) := do
  let enriched ← attachExpertPlacementMovementEstimates request.placementLookups request.modelName
    (backendName request) request.workerNodes config
    (nextPlacementEpoch request.modelConfig config) (planReason request.event) candidates
  let profiled ← attachExactPlacementProfiles enriched config
  scoreParallelCandidatesForWorkload profiled config request.modelConfig

/-- The placement of the selected candidate's experts: the one it was ranked with, or else one for
the plan itself. -/
def finalPlacement (request : PlanRequest) (config : Dict) (selected : ParallelConfig)
    (plan : ParallelPlan ExpertPlacementPlan) :
    Except PlanningFailure (Option ExpertPlacementPlan) :=
  match selected.expertPlacementPlan with
  | some placement => .ok (some placement)
  | none =>
    expertPlacementFor request.placementLookups request.modelName plan.placementEpoch config plan

/-- The plan of the selected candidate, with the placement of its experts. -/
def finishPlan (request : PlanRequest) (config : Dict) (selected : ParallelConfig) :
    Except PlanningFailure
      (ParallelPlan ExpertPlacementPlan × Option ExpertPlacementPlan) := do
  let placementEpoch := nextPlacementEpoch request.modelConfig config
  let build := fun epoch placement =>
    buildParallelPlan request.modelName (backendName request) selected request.workerNodes epoch
      placement (planReason request.event) (flag config "require_free_gpu_overlap")
  let plan ← build placementEpoch none
  if placementDisabled config then return (plan, none)
  else do
    let placement ← finalPlacement request config selected plan
    match placement with
    | none => return (plan, none)
    | some placement =>
      let plan ← build plan.placementEpoch (some placement)
      return (plan, some placement)

/-- `plan_dynamic_reparallelization`. -/
def planDynamicReparallelization (request : PlanRequest) : Except PlanningFailure Decision := do
  let config ← effectiveConfig request
  let availability ← summarizeGpuAvailability request.workerNodes
  let overlap ← overlapAvailableGpus request.workerNodes
  let available := candidateAvailableGpus config availability overlap
  let initial ← initialCandidates request config available
  let candidates ← rankedCandidates request config initial
  let decision := fun action plan placement => ({
    model := request.modelName
    backend := backendName request
    event := request.event
    nodeId := request.nodeId
    instanceId := request.instanceId
    action := action
    candidateCount := candidates.length
    availability := availability
    transitionAvailableGpus := available
    readyFreeGpus := overlap
    parallelPlan := plan
    expertPlacementPlan := placement
    selectedConfig := candidates.head?
    topCandidates := candidates.take 5 } : Decision)
  match candidates with
  | [] => return decision .noCapacity none none
  | selected :: _ => do
    let (plan, placement) ← finishPlan request config selected
    return decision .reparallelize (some plan) placement

/-! ## What a decision is made of -/

section Spec

variable {request : PlanRequest} {d : Decision}

/-- The parts a decision was made of. -/
structure Planned (request : PlanRequest) where
  config : Dict
  availability : GpuAvailability
  overlap : ℤ
  initial : List ParallelConfig
  ranked : List ParallelConfig
  config_eq : effectiveConfig request = .ok config
  availability_eq : summarizeGpuAvailability request.workerNodes = .ok availability
  overlap_eq : overlapAvailableGpus request.workerNodes = .ok overlap
  initial_eq : initialCandidates request config
    (candidateAvailableGpus config availability overlap) = .ok initial
  ranked_eq : rankedCandidates request config initial = .ok ranked

/-- How a decision comes about: the first of the ranked candidates is selected, without one there is
no capacity, and otherwise its plan is the decision's. -/
theorem decision_spec (h : planDynamicReparallelization request = .ok d) :
    ∃ p : Planned request, d.selectedConfig = p.ranked.head? ∧
      ((p.ranked = [] ∧ d.action = .noCapacity ∧ d.parallelPlan = none ∧
        d.expertPlacementPlan = none) ∨
      ∃ selected rest plan placement, p.ranked = selected :: rest ∧
        finishPlan request p.config selected = .ok (plan, placement) ∧
        d.action = .reparallelize ∧ d.parallelPlan = some plan ∧
        d.expertPlacementPlan = placement) := by
  unfold planDynamicReparallelization at h
  obtain ⟨config, hconfig, h⟩ := of_bind_ok h
  obtain ⟨availability, havailability, h⟩ := of_bind_ok h
  obtain ⟨overlap, hoverlap, h⟩ := of_bind_ok h
  obtain ⟨initial, hinitial, h⟩ := of_bind_ok h
  obtain ⟨ranked, hranked, h⟩ := of_bind_ok h
  refine ⟨⟨config, availability, overlap, initial, ranked, hconfig, havailability, hoverlap,
    hinitial, hranked⟩, ?_⟩
  cases ranked with
  | nil =>
    obtain rfl := Except.ok.inj h
    exact ⟨rfl, Or.inl ⟨rfl, rfl, rfl, rfl⟩⟩
  | cons selected rest =>
    obtain ⟨⟨plan, placement⟩, hfinish, h⟩ := of_bind_ok h
    obtain rfl := Except.ok.inj h
    exact ⟨rfl, Or.inr ⟨selected, rest, plan, placement, rfl, hfinish, rfl, rfl, rfl⟩⟩

/-- The plan of a decision: without candidates there is none, and otherwise the first one's. -/
theorem plan_spec (h : planDynamicReparallelization request = .ok d) :
    ∃ p : Planned request,
      (p.ranked = [] ∧ d.action = .noCapacity ∧ d.parallelPlan = none ∧
        d.expertPlacementPlan = none) ∨
      ∃ selected rest plan placement, p.ranked = selected :: rest ∧
        finishPlan request p.config selected = .ok (plan, placement) ∧
        d.action = .reparallelize ∧ d.parallelPlan = some plan ∧
        d.expertPlacementPlan = placement := by
  obtain ⟨p, -, hcases⟩ := decision_spec h
  exact ⟨p, hcases⟩

/-- The plan of a decision is built from the selected candidate, with the placement of the
decision. -/
theorem finishPlan_spec {config : Dict} {selected : ParallelConfig}
    {plan : ParallelPlan ExpertPlacementPlan} {placement : Option ExpertPlacementPlan}
    (h : finishPlan request config selected = .ok (plan, placement)) :
    ∃ targets, selectTargetNodes request.workerNodes selected.shape.totalGpus
        (flag config "require_free_gpu_overlap") = .ok targets ∧
      plan.targetNodes = targets ∧
      plan.tensorParallelSize = max 1 selected.shape.tensorParallelSize ∧
      plan.dataParallelSize = max 1 selected.shape.dataParallelSize ∧
      plan.pipelineParallelSize = max 1 selected.shape.pipelineParallelSize ∧
      plan.replicaCount = max 1 selected.shape.replicaCount ∧
      plan.numGpus = max 1 selected.shape.totalGpus := by
  unfold finishPlan at h
  obtain ⟨first, hfirst, h⟩ := of_bind_ok h
  obtain ⟨targets, htargets, hfirst⟩ := of_bind_ok hfirst
  have hfirst := Except.ok.inj hfirst
  refine ⟨targets, htargets, ?_⟩
  split_ifs at h with hdisabled
  · obtain ⟨rfl, -⟩ := Prod.mk.inj (Except.ok.inj h)
    subst hfirst
    exact ⟨rfl, rfl, rfl, rfl, rfl, rfl⟩
  obtain ⟨found, -, h⟩ := of_bind_ok h
  cases found with
  | none =>
    obtain ⟨rfl, -⟩ := Prod.mk.inj (Except.ok.inj h)
    subst hfirst
    exact ⟨rfl, rfl, rfl, rfl, rfl, rfl⟩
  | some placed =>
    obtain ⟨second, hsecond, h⟩ := of_bind_ok h
    obtain ⟨targets', htargets', hsecond⟩ := of_bind_ok hsecond
    obtain rfl : targets' = targets := Except.ok.inj (htargets'.symm.trans htargets)
    have hsecond := Except.ok.inj hsecond
    obtain ⟨rfl, -⟩ := Prod.mk.inj (Except.ok.inj h)
    subst hsecond
    exact ⟨rfl, rfl, rfl, rfl, rfl, rfl⟩

end Spec

end Reparallelization
end SpotServe
