import SpotServe.ExpertPlacement.Movement
import SpotServe.Library.PyValue

/-!
# The logical expert placement planner

`build_logical_expert_placement_plan` (`sllm/spot/moe_placement.py`): a rank for every expert of
every layer, for the shape that the target parallel plan describes.

The target plan and the planner's own switches are read from their mappings here.  What the
planner looks up through chains of nested configuration sources (the topology, the current
placement, the hotness snapshot, the routed tokens by source rank, budgets and costs) is a field of
`PlannerInput`, so that a statement for every input covers every outcome of those lookups.

* `layerAssignment`: the strategies, with their fall-backs.
* `retainReason`: when the greedy strategies keep the current placement instead.
* `shardsOf`, `buildLogicalExpertPlacementPlan`: the plan.
-/

namespace SpotServe
namespace ExpertPlacement

open Py

/-- The supported strategies. -/
inductive PlacementStrategy where
  | linear
  | roundRobin
  | hotness
  | hotspot
  | hotspotAware
  | hotnessBalanced
  | hotnessLocality
  deriving DecidableEq, Repr

/-- The name of a strategy in the configuration. -/
def PlacementStrategy.name : PlacementStrategy → String
  | .linear => "linear"
  | .roundRobin => "round_robin"
  | .hotness => "hotness"
  | .hotspot => "hotspot"
  | .hotspotAware => "hotspot_aware"
  | .hotnessBalanced => "hotness_balanced"
  | .hotnessLocality => "hotness_locality"

/-- `supported_strategies`. -/
def supportedStrategies : List PlacementStrategy :=
  [.linear, .roundRobin, .hotness, .hotspot, .hotspotAware, .hotnessBalanced, .hotnessLocality]

/-- The strategy of a configured name. -/
def PlacementStrategy.ofName? (text : String) : Option PlacementStrategy :=
  supportedStrategies.find? fun strategy => strategy.name = text

/-- `HotnessSnapshot`, as far as the planner reads it. -/
structure HotnessSnapshot where
  snapshotId : String
  available : Bool
  reason : String
  hotness : Hotness
  layerCoverage : ℚ

/-- Budgets and weights for the decision to move experts. -/
structure MovementPolicy where
  minimumImprovement : ℚ
  maxMovedExperts : ℕ
  maxMovedBytes : ℕ
  maxMovementCostMs : ℚ
  movementWeight : ℚ
  movementReferenceMs : ℚ
  cooldownS : ℚ
  lastChangeS : Option ℚ
  snapshotTimeS : ℚ
  requireKnownMovement : Bool
  defaultWeightSize : Option ℕ
  costs : MovementCosts

/-- What the planner is called with. -/
structure PlannerInput where
  modelName : String
  targetParallelPlan : Dict
  plannerConfig : Dict
  backendConfig : Dict
  modelBackend : Value
  placementEpoch : ℤ
  /-- `infer_moe_topology(model_config)`. -/
  topology : ℕ × ℕ
  /-- The other signs by which `looks_like_moe_model` knows one. -/
  moeHint : Bool
  currentSnapshot : Snapshot
  movementSource : String
  hotnessSnapshot : HotnessSnapshot
  /-- The histograms that `_expert_hotness_lookup` adds up. -/
  hotnessHistograms : List (List (String × ℚ))
  /-- `_source_rank_expert_snapshot`, which is asked for `hotness_locality` only. -/
  sourceRankSnapshot : SourceCounts × String
  localityWeight : ℚ
  policy : MovementPolicy
  /-- `_plan_fingerprint` of the plan's ranks. -/
  fingerprint : OrderedDict String (List String) → String

/-! ## Reading the target plan and the switches -/

/-- `_as_positive_int`. -/
def asPositiveInt (value : Value) (default : ℕ) : ℕ :=
  match value.int? with
  | some n => if n ≤ 0 then default else n.toNat
  | none => default

/-- `plan.get(k₁, plan.get(k₂, … default))`. -/
def getFirst (plan : Dict) (keys : List String) (default : Value) : Value :=
  (keys.findSome? fun key => plan.lookup key).getD default

/-- `replica_count`. -/
def replicaCount (plan : Dict) : ℕ :=
  asPositiveInt (getFirst plan ["sllm_replica_count", "replica_count"] (.int 1)) 1

/-- `target_rank_count`. -/
def targetRankCount (plan : Dict) : ℕ :=
  max 1 <|
    if ((plan.lookup "enable_expert_parallel").getD (.bool false)).truthy then
      asPositiveInt (getFirst plan
        ["runtime_effective_expert_parallel_size", "effective_expert_parallel_size",
          "expert_parallel_size"] (.int 1)) 1
    else 1

/-- `target_nodes`, a list in every plan the program makes. -/
def targetNodes (plan : Dict) : List String :=
  match plan.lookup "target_nodes" with
  | some (.list nodes) => nodes.map Value.toStr
  | _ => []

/-- `text.strip().lower()`. -/
def normalizedText (text : String) : String := lower (strip text)

/-- A switch of the planner configuration: a word, or any value by its truth. -/
def configSwitch (config : Dict) (key : String) : Bool :=
  match config.lookup key with
  | some (.str text) => ["1", "true", "yes", "on"].contains (normalizedText text)
  | some value => value.truthy
  | none => false

/-- `placement_strategy`, as configured. -/
def placementStrategyText (input : PlannerInput) : String :=
  let backend :=
    lower ((input.targetParallelPlan.lookup "backend").getD input.modelBackend).toStr.toList
  let default := if backend = "vllm" then "linear" else "round_robin"
  normalizedText (strOr (input.plannerConfig.lookup "target_expert_placement_strategy")
    (strOr (input.backendConfig.lookup "expert_placement_strategy") default))

/-! ## Assignments -/

/-- The keys under which a histogram may count an expert. -/
def hotnessCandidates (layerId expertId : ℕ) : List String :=
  [expertKey layerId expertId, "layer:" ++ toString layerId, "expert:" ++ toString expertId,
    toString expertId]

/-- `_expert_hotness_lookup`. -/
def expertHotnessLookup (histograms : List (List (String × ℚ))) (layerId expertId : ℕ) : ℚ :=
  (histograms.map fun histogram =>
    ((histogram.filter fun entry => (hotnessCandidates layerId expertId).contains entry.1).map
      Prod.snd).sum).sum

/-- `_current_layer_assignment`. -/
def currentLayerAssignment (snapshot : Snapshot) (layerId numExperts rankCount : ℕ) :
    Option (List ℤ) :=
  (List.range numExperts).mapM fun expertId =>
    (snapshot.get? (expertKey layerId expertId)).bind fun entry =>
      (rankIndex entry.rankId rankCount).map fun rank : ℕ => (rank : ℤ)

section Build

variable (input : PlannerInput)

/-- The source counts that a strategy works with. -/
def sourceCountsFor (strategy : PlacementStrategy) : SourceCounts × String :=
  if strategy = .hotnessLocality then input.sourceRankSnapshot else (.empty, "not_requested")

/-- The assignment of one layer. -/
def layerAssignment (strategy : PlacementStrategy) (rankCount layerId : ℕ) :
    Except PlanError (List ℤ) :=
  let numExperts := input.topology.2
  let current := currentLayerAssignment input.currentSnapshot layerId numExperts rankCount
  let hotness := hotnessOf input.hotnessSnapshot.hotness layerId
  -- Without usable hotness the greedy strategies keep what is there.
  let fallback := Except.ok (current.getD (linearAssignment numExperts rankCount))
  match strategy with
  | .linear => .ok (linearAssignment numExperts rankCount)
  | .roundRobin => .ok (roundRobinAssignment numExperts rankCount)
  | .hotness | .hotspot | .hotspotAware =>
    .ok (hotnessGroups (expertHotnessLookup input.hotnessHistograms layerId) numExperts rankCount)
  | .hotnessLocality =>
    let sourceExpertCounts := (sourceCountsFor input strategy).1
    if input.hotnessSnapshot.available ∧ sourceExpertCounts.entries ≠ [] then
      hotnessLocalityAssignment layerId numExperts rankCount hotness sourceExpertCounts
        input.localityWeight current
    else fallback
  | .hotnessBalanced =>
    if input.hotnessSnapshot.available then
      hotnessBalancedAssignment numExperts rankCount hotness current
    else fallback

/-- `current_assignments`, when every layer has one. -/
def currentAssignments (rankCount : ℕ) : Option (List (List ℤ)) :=
  (List.range input.topology.1).mapM fun layerId =>
    currentLayerAssignment input.currentSnapshot layerId input.topology.2 rankCount

/-! ## Keeping the current placement -/

/-- The keys of the experts whose rank differs between two lists of assignments. -/
def movedExperts (current candidate : List (List ℤ)) : List (ℕ × ℕ) :=
  candidate.zipIdx.flatMap fun layer =>
    (layer.1.zipIdx.filter fun expert => current[layer.2]?.bind (·[expert.2]?) ≠ some expert.1).map
      fun expert => (layer.2, expert.2)

/-- `load_balance_penalty` plus, for `hotness_locality`, the weighted remote share. -/
def selectionObjective (strategy : PlacementStrategy) (rankCount : ℕ)
    (assignments : List (List ℤ)) : ℚ :=
  (loadDiagnostics assignments input.hotnessSnapshot.hotness rankCount).penalty +
    if strategy = .hotnessLocality then
      input.localityWeight *
        ((remoteDispatchDiagnostics assignments (sourceCountsFor input strategy).1).ratio).getD 0
    else 0

/-- `predicted_improvement_ratio`. -/
def predictedImprovementRatio (current candidate : ℚ) : ℚ :=
  if 0 < current then max 0 ((current - candidate) / current) else 0

/-- `estimated_moved_bytes`: the weights of the experts that would move, when all are known. -/
def estimatedMovedBytes (moved : List (ℕ × ℕ)) : Option ℕ :=
  (moved.mapM fun expert =>
    entryWeightSizeBytes [(input.currentSnapshot.get? (expertKey expert.1 expert.2)).getD {}]
      input.policy.defaultWeightSize).map List.sum

/-- `retain_reason`, empty when the candidate is taken. -/
def retainReason (currentObjective candidateObjective : ℚ) (moved : List (ℕ × ℕ)) : String :=
  let policy := input.policy
  let bytes := estimatedMovedBytes input moved
  let cost := estimateExpertWeightMovementCostMs bytes moved.length policy.costs
  if moved = [] then "current_already_selected"
  else if currentObjective ≤ 0 then "current_already_balanced"
  else if predictedImprovementRatio currentObjective candidateObjective < policy.minimumImprovement
  then "minimum_improvement_not_met"
  else if 0 < policy.maxMovedExperts ∧ policy.maxMovedExperts < moved.length then
    "moved_expert_budget_exceeded"
  else if 0 < policy.maxMovedBytes ∧ bytes.any (policy.maxMovedBytes < ·) then
    "moved_byte_budget_exceeded"
  else if policy.requireKnownMovement ∧ bytes = none then "movement_cost_unknown"
  else if 0 < policy.maxMovementCostMs ∧ cost.any (policy.maxMovementCostMs < ·) then
    "movement_time_budget_exceeded"
  else if 0 < policy.movementWeight ∧ policy.movementReferenceMs ≤ 0 then
    "movement_normalization_reference_missing"
  else if 0 < policy.movementWeight ∧ cost = none then "movement_cost_unknown"
  else if 0 < policy.movementWeight ∧
      cost.any (fun cost => currentObjective ≤
        candidateObjective + policy.movementWeight * cost / policy.movementReferenceMs) then
    "movement_adjusted_objective_not_improved"
  else if 0 < policy.cooldownS ∧
      policy.lastChangeS.any (fun last => policy.snapshotTimeS - last < policy.cooldownS) then
    "placement_cooldown_active"
  else ""

/-- The assignments that are planned, why, and the improvement that was predicted. -/
structure Selection where
  assignments : List (List ℤ)
  reason : String
  improvement : ℚ

/-- The choice between the candidate assignments and the current ones. -/
def selectAssignments (strategy : PlacementStrategy) (rankCount : ℕ)
    (candidate : List (List ℤ)) : Selection :=
  let current := currentAssignments input rankCount
  let source := sourceCountsFor input strategy
  let fallbackReason := fun reason =>
    (if current.isSome then "retain_current:" else "deterministic_linear_fallback:") ++ reason
  if strategy ≠ .hotnessBalanced ∧ strategy ≠ .hotnessLocality then
    ⟨candidate, "configured_strategy", 0⟩
  else if !input.hotnessSnapshot.available then
    ⟨candidate, fallbackReason input.hotnessSnapshot.reason, 0⟩
  else if strategy = .hotnessLocality ∧ source.1.entries = [] then
    ⟨candidate, fallbackReason source.2, 0⟩
  else
    match current with
    | none => ⟨candidate, "hotness_balance_without_current_reference", 0⟩
    | some current =>
      let currentObjective := selectionObjective input strategy rankCount current
      let candidateObjective := selectionObjective input strategy rankCount candidate
      let improvement := predictedImprovementRatio currentObjective candidateObjective
      let retain := retainReason input currentObjective candidateObjective
        (movedExperts current candidate)
      if retain ≠ "" then ⟨current, "retain_current:" ++ retain, improvement⟩
      else if strategy = .hotnessLocality then
        ⟨candidate, "source_rank_locality_improvement_accepted", improvement⟩
      else ⟨candidate, "hotness_balance_improvement_accepted", improvement⟩

/-! ## The plan -/

/-- `ExpertShard`, without the counters that the planner leaves at zero. -/
structure ExpertShard where
  layerId : ℕ
  expertId : ℕ
  rankId : String
  nodeId : String
  gpuId : String
  physicalExpertId : ℕ
  weightSizeBytes : Option ℕ
  weightResident : Bool
  loadScore : ℚ

/-- The entry of a shard in `expert_placement_snapshot`. -/
def ExpertShard.toEntry (shard : ExpertShard) : PlacementEntry where
  rankId := shard.rankId
  nodeId := shard.nodeId
  gpuId := shard.gpuId
  physicalExpertId := toString shard.physicalExpertId
  weightSizeBytes := shard.weightSizeBytes.getD 0

/-- `target_nodes[node_index % len(target_nodes)]`. -/
def shardNode (nodes : List String) (nodeIndex : ℤ) : String :=
  if nodes.isEmpty then "" else nodes.getD (nodeIndex % nodes.length).toNat ""

/-- The shards of an expert, one for each replica. -/
def shardsOf (layerId expertId : ℕ) (rank : ℤ) : List ExpertShard :=
  (List.range (replicaCount input.targetParallelPlan)).map fun replicaId : ℕ =>
    { layerId := layerId
      expertId := expertId
      rankId := rankName replicaId rank
      nodeId := shardNode (targetNodes input.targetParallelPlan)
        (replicaId * targetRankCount input.targetParallelPlan + rank)
      gpuId := toString rank
      physicalExpertId := expertId
      weightSizeBytes := input.policy.defaultWeightSize
      weightResident := false
      loadScore := hotnessOf input.hotnessSnapshot.hotness layerId expertId }

/-- The tables that the loop over the experts builds. -/
structure PlanTables where
  shards : List ExpertShard := []
  expertToTargetRank : OrderedDict String String := .empty
  expertToTargetRanks : OrderedDict String (List String) := .empty
  expertPlacementSnapshot : Snapshot := .empty

/-- `layer_assignments[layer_id][expert_id]`. -/
def rankOf (assignments : List (List ℤ)) (layerId expertId : ℕ) : Except PlanError ℤ :=
  match assignments[layerId]?.bind (·[expertId]?) with
  | some rank => .ok rank
  | none => .error .listIndexOutOfRange

/-- One turn of the loop.  The first replica speaks for the expert. -/
def planExpert (assignments : List (List ℤ)) (tables : PlanTables) (expert : ℕ × ℕ) :
    Except PlanError PlanTables := do
  let rank ← rankOf assignments expert.1 expert.2
  let key := expertKey expert.1 expert.2
  let shards := shardsOf input expert.1 expert.2 rank
  return {
    shards := tables.shards ++ shards
    expertToTargetRank :=
      match shards.head? with
      | some shard => tables.expertToTargetRank.set key shard.rankId
      | none => tables.expertToTargetRank
    expertToTargetRanks := tables.expertToTargetRanks.set key (shards.map ExpertShard.rankId)
    expertPlacementSnapshot :=
      match shards.head? with
      | some shard => tables.expertPlacementSnapshot.set key shard.toEntry
      | none => tables.expertPlacementSnapshot }

/-- The experts of all layers, in the order of the loops. -/
def allExperts (numLayers numExperts : ℕ) : List (ℕ × ℕ) :=
  (List.range numLayers).flatMap fun layerId =>
    (List.range numExperts).map fun expertId => (layerId, expertId)

/-- `ExpertPlacementPlan`. -/
structure ExpertPlacementPlan where
  modelName : String
  targetParallelPlan : Dict
  expertToTargetRank : OrderedDict String String := .empty
  expertToTargetRanks : OrderedDict String (List String) := .empty
  placementEpoch : ℕ := 0
  placementSource : String := "unavailable"
  placementFingerprint : String := ""
  requiredExpertCount : ℕ := 0
  coveredExpertCount : ℕ := 0
  plannedShardCount : ℕ := 0
  targetRankCount : ℕ := 0
  expertPhysicalReplicationFactor : ℕ := 1
  sllmReplicaCount : ℕ := 1
  physicalWeightMigration : Bool := false
  liveExpertRemap : Bool := false
  allowActiveRequests : Bool := false
  requireCrossNode : Bool := false
  physicalMigrationRequired : Bool := false
  expertPlacementSnapshot : Snapshot := .empty
  shards : List ExpertShard := []
  movement : Option MovementDiff := none
  movementSource : String := "unavailable"
  load : Option LoadDiagnostics := none
  placementStrategy : PlacementStrategy := .linear
  selectionReason : String := "configured_strategy"
  hotnessSnapshotId : String := ""
  hotnessSnapshotAvailable : Bool := false
  hotnessSnapshotReason : String := "not_requested"
  hotnessLayerCoverage : ℚ := 0
  predictedImprovementRatio : ℚ := 0
  placementObjective : Option ℚ := none
  sourceRankLocalityAvailable : Bool := false
  sourceRankLocalityReason : String := "not_requested"
  remoteDispatch : Option RemoteDispatch := none
  reason : String := "metadata_only"

/-- A plan that says why there is none. -/
def unavailablePlan (reason : String) : ExpertPlacementPlan where
  modelName := input.modelName
  targetParallelPlan := input.targetParallelPlan
  placementEpoch := input.placementEpoch.toNat
  placementSource := "unavailable"
  reason := reason

/-- The hotness by which the final load is reported: uniform when there is none. -/
def reportedHotness (numLayers numExperts : ℕ) : Hotness :=
  if input.hotnessSnapshot.hotness.entries.isEmpty then
    (allExperts numLayers numExperts).foldl
      (fun hotness expert => hotness.set (expertKey expert.1 expert.2) (1 / numExperts)) .empty
  else input.hotnessSnapshot.hotness

/-- `placement_objective`. -/
def placementObjective (strategy : PlacementStrategy) (penalty : ℚ) (remoteRatio : Option ℚ)
    (movementCost : Option ℚ) : Option ℚ :=
  let policy := input.policy
  let objective := penalty +
    if strategy = .hotnessLocality then (remoteRatio.map (input.localityWeight * ·)).getD 0 else 0
  if 0 < policy.movementWeight then
    match movementCost with
    | some cost =>
      if policy.movementReferenceMs ≤ 0 then none
      else some (objective + policy.movementWeight * cost / policy.movementReferenceMs)
    | none => none
  else some objective

/-- The plan of a supported strategy. -/
def supportedPlan (strategy : PlacementStrategy) : Except PlanError ExpertPlacementPlan := do
  let numLayers := input.topology.1
  let numExperts := input.topology.2
  let plan := input.targetParallelPlan
  let rankCount := targetRankCount plan
  let candidate ← (List.range numLayers).mapM (layerAssignment input strategy rankCount)
  let selection := selectAssignments input strategy rankCount candidate
  let tables ← (allExperts numLayers numExperts).foldlM (planExpert input selection.assignments) {}
  let movement := buildExpertMovementDiff tables.expertPlacementSnapshot input.currentSnapshot
    input.policy.defaultWeightSize input.policy.costs
  let load := loadDiagnostics selection.assignments
    (reportedHotness input numLayers numExperts) rankCount
  let source := sourceCountsFor input strategy
  let remote := remoteDispatchDiagnostics selection.assignments source.1
  let live := configSwitch input.plannerConfig "enable_live_expert_remap"
  return {
    modelName := input.modelName
    targetParallelPlan := plan
    expertToTargetRank := tables.expertToTargetRank
    expertToTargetRanks := tables.expertToTargetRanks
    placementEpoch := input.placementEpoch.toNat
    placementSource := "logical_reparallelization_planner"
    placementFingerprint := input.fingerprint tables.expertToTargetRanks
    requiredExpertCount := numLayers * numExperts
    coveredExpertCount := tables.expertToTargetRank.entries.length
    plannedShardCount := tables.shards.length
    targetRankCount := rankCount
    sllmReplicaCount := replicaCount plan
    liveExpertRemap := live
    allowActiveRequests :=
      live && configSwitch input.plannerConfig "allow_active_expert_remap_requests"
    requireCrossNode :=
      live && configSwitch input.plannerConfig "require_cross_node_expert_migration"
    physicalMigrationRequired := live
    expertPlacementSnapshot := tables.expertPlacementSnapshot
    shards := tables.shards
    movement := some movement
    movementSource := input.movementSource
    load := some load
    placementStrategy := strategy
    selectionReason := selection.reason
    hotnessSnapshotId := input.hotnessSnapshot.snapshotId
    hotnessSnapshotAvailable := input.hotnessSnapshot.available
    hotnessSnapshotReason := input.hotnessSnapshot.reason
    hotnessLayerCoverage := input.hotnessSnapshot.layerCoverage
    predictedImprovementRatio := selection.improvement
    placementObjective := placementObjective input strategy load.penalty remote.ratio
      movement.estimatedExpertWeightMovementCostMs
    sourceRankLocalityAvailable := !source.1.entries.isEmpty
    sourceRankLocalityReason := source.2
    remoteDispatch := some remote
    reason := "logical_expert_placement_plan" }

/-- `build_logical_expert_placement_plan`. -/
def buildLogicalExpertPlacementPlan : Except PlanError (Option ExpertPlacementPlan) :=
  if input.topology = (0, 0) ∧ !input.moeHint then .ok none
  else if input.topology.1 = 0 ∨ input.topology.2 = 0 then
    .ok (some (unavailablePlan input "moe_topology_unavailable"))
  else
    match PlacementStrategy.ofName? (placementStrategyText input) with
    | none => .ok (some (unavailablePlan input "unsupported_expert_placement_strategy"))
    | some strategy => (supportedPlan input strategy).map some

end Build

end ExpertPlacement
end SpotServe
