import SpotServe.ExpertPlacement.Planner
import SpotServe.Library.Distributions

/-!
# Freezing the routing counters

`build_hotness_snapshot` (`sllm/spot/moe_placement.py`): the routed-assignment counters of one
deployment, read once, checked, and turned into a hotness for every expert.  Two histograms come in,
the counts since the last reset and those of a recent window; either may be missing, and each may be
full (every expert of a layer has an entry) or sparse (an expert without an entry counts as zero,
when the source says so).

* `modelConfigSources`, `configSources`: the mappings in which a setting is looked up.
* `hotnessContractSource`: the mapping that carries the histograms.
* `canonicalHistogram`: a histogram with its keys read and written again, or why it is refused.
* `freezeLayer`: the hotness of one layer.
* `buildHotnessSnapshot`: the snapshot.
-/

namespace SpotServe
namespace ExpertPlacement

open Py

/-! ## Settings -/

/-- A value as a mapping. -/
def mapping? : Option Value → Option Dict
  | some (.dict items) => some items
  | _ => none

/-- The keys under which a configuration nests others. -/
def nestedConfigKeys : List String :=
  ["runtime_metadata", "model_config", "hf_config", "moe_config"]

/-- The mappings nested in a configuration, each followed by its resource profile. -/
def nestedSources (config : Dict) : List Dict :=
  nestedConfigKeys.flatMap fun key =>
    match mapping? (config.lookup key) with
    | some nested => nested :: (mapping? (nested.lookup "model_resource_profile")).toList
    | none => []

/-- `str(model_path)`. -/
def modelPath (backendConfig : Dict) : String :=
  match (backendConfig.lookup "pretrained_model_name_or_path").getD .none with
  | .none => ((backendConfig.lookup "model").getD .none).toStr
  | path => path.toStr

/-- `_model_config_sources`, for what the configuration file at a model's path holds. -/
def modelConfigSources (configFile : String → Option Dict) (modelConfig : Dict) : List Dict :=
  modelConfig :: nestedSources modelConfig ++
    match mapping? (some ((modelConfig.lookup "backend_config").getD (.dict []))) with
    | some backendConfig =>
      backendConfig :: nestedSources backendConfig ++ (configFile (modelPath backendConfig)).toList
    | none => []

/-- `_config_sources`. -/
def configSources (configFile : String → Option Dict) (plannerConfig modelConfig : Dict) :
    List Dict :=
  plannerConfig :: (mapping? (plannerConfig.lookup "moe_planner_config")).toList ++
    (mapping? (plannerConfig.lookup "expert_placement_config")).toList ++
    modelConfigSources configFile modelConfig

/-- `_first_config_value`. -/
def firstConfigValue (sources : List Dict) (key : String) : Value :=
  (sources.findSome? fun source => source.lookup key).getD .none

/-- `_first_non_negative_float`. -/
def firstNonNegativeFloat (sources : List Dict) (key : String) (default : ℚ) : ℚ :=
  match (firstConfigValue sources key).float? with
  | some value => max 0 value
  | none => default

/-- `_as_non_negative_int`. -/
def asNonNegativeInt (value : Value) (default : ℤ) : ℤ :=
  match value.int? with
  | some n => if n < 0 then default else n
  | none => default

/-- `_to_bool`. -/
def toBool (value : Value) (default : Bool) : Bool :=
  match value with
  | .none => default
  | .bool b => b
  | .str text =>
    if ["1", "true", "yes", "on"].contains (normalizedText text) then true
    else if ["0", "false", "no", "off", ""].contains (normalizedText text) then false
    else (Value.str text).truthy
  | value => value.truthy

/-- `value is False`. -/
def isBoolFalse : Option Value → Bool
  | some (.bool b) => !b
  | _ => false

/-- `alpha`: a number that is not between zero and one counts as none. -/
def alphaOf (value : Option ℚ) : ℚ :=
  match value with
  | some alpha => if 0 ≤ alpha ∧ alpha ≤ 1 then alpha else 8 / 10
  | none => 8 / 10

/-- The weight of the recent window, as configured. -/
def hotnessAlpha (sources : List Dict) : ℚ :=
  match firstConfigValue sources "hotness_alpha" with
  | .none => alphaOf (some (8 / 10))
  | value => alphaOf value.float?

/-! ## Histograms -/

/-- `_canonical_expert_key`: `layer:(\d+)/expert:(\d+)`, and nothing else. -/
def canonicalExpertKey (key : String) : Option (ℕ × ℕ) := do
  let text ← matchLiteral "layer:".toList key.toList
  let layer ← readDigits text
  let text ← matchLiteral "/expert:".toList layer.2
  let expert ← readDigits text
  if expert.2.isEmpty then some (layer.1, expert.1) else none

/-- `_hotness_contract_source`: the first mapping that holds a histogram. -/
def hotnessContractSource (modelConfig plannerConfig : Dict) : Dict × String :=
  let backendConfig := (mapping? (modelConfig.lookup "backend_config")).getD []
  let candidates :=
    [(mapping? (plannerConfig.lookup "hotness_snapshot"), "planner.hotness_snapshot"),
      (some plannerConfig, "planner_config"),
      (mapping? (modelConfig.lookup "runtime_metadata"), "runtime_metadata"),
      (mapping? (backendConfig.lookup "runtime_metadata"), "backend.runtime_metadata"),
      (some backendConfig, "backend_config"),
      (some modelConfig, "model_config")]
  let carries := fun candidate : Dict =>
    (mapping? (candidate.lookup "global_expert_hotness")).isSome ||
      (mapping? (candidate.lookup "recent_window_expert_hotness")).isSome
  (candidates.findSome? fun candidate =>
    (candidate.1.filter carries).map fun source => (source, candidate.2)).getD ([], "unavailable")

section Histograms

variable (numLayers numExperts : ℕ)

/-- The loop of `_canonical_histogram`.  Of two keys that name one expert the later counts. -/
def canonicalItems : Dict → Hotness → Hotness × String
  | [], normalized => (normalized, "ok")
  | (key, value) :: items, normalized =>
    match canonicalExpertKey key with
    | none =>
      if value.float?.any (0 < ·) then (.empty, "noncanonical_expert_key")
      else canonicalItems items normalized
    | some (layerId, expertId) =>
      if numLayers ≤ layerId ∨ numExperts ≤ expertId then (.empty, "expert_key_out_of_range")
      else
        match value.float? with
        | some count =>
          if count < 0 then (.empty, "invalid_histogram_value")
          else canonicalItems items (normalized.set (expertKey layerId expertId) count)
        | none => (.empty, "invalid_histogram_value")

/-- `_canonical_histogram`. -/
def canonicalHistogram (raw : Option Value) : Hotness × String :=
  match raw with
  | none => (.empty, "missing")
  | some .none => (.empty, "missing")
  | some (.dict items) => canonicalItems numLayers numExperts items .empty
  | some _ => (.empty, "not_mapping")

/-- Whether a histogram speaks for every expert of a layer. -/
def layerComplete (completeSparse : Bool) (counts : Hotness) (layerId : ℕ) : Bool :=
  completeSparse ||
    (List.range numExperts).all fun expertId => (counts.get? (expertKey layerId expertId)).isSome

/-- `sum(counts.get(key, 0.0) for key in keys)`. -/
def countedTotal (counts : Hotness) (layerId : ℕ) : ℚ :=
  ((List.range numExperts).map (hotnessOf counts layerId)).sum

/-- `global_valid`, `recent_valid`. -/
def layerValid (completeSparse : Bool) (counts : Hotness) (layerId : ℕ) : Bool :=
  layerComplete numExperts completeSparse counts layerId &&
    decide (0 < countedTotal numExperts counts layerId)

/-- `global_share`, `recent_share`. -/
def shareOf (completeSparse : Bool) (counts : Hotness) (layerId expertId : ℕ) : ℚ :=
  if layerValid numExperts completeSparse counts layerId then
    hotnessOf counts layerId expertId / countedTotal numExperts counts layerId
  else 0

/-- What the loop over the layers fills. -/
structure LayerTables where
  hotness : Hotness := .empty
  layerSampleCounts : OrderedDict String ℤ := .empty
  coveredLayers : ℕ := 0

variable (alpha : ℚ) (completeSparse : Bool) (globalCounts recentCounts : Hotness)

/-- The hotness of an expert of a sampled layer. -/
def expertHotness (layerId expertId : ℕ) : ℚ :=
  let globalShare := shareOf numExperts completeSparse globalCounts layerId expertId
  let recentShare := shareOf numExperts completeSparse recentCounts layerId expertId
  let globalValid := layerValid numExperts completeSparse globalCounts layerId
  let recentValid := layerValid numExperts completeSparse recentCounts layerId
  if globalValid && recentValid then alpha * recentShare + (1 - alpha) * globalShare
  else if recentValid then recentShare
  else globalShare

/-- One turn of the loop over the layers. -/
def freezeLayer (tables : LayerTables) (layerId : ℕ) : LayerTables :=
  let globalValid := layerValid numExperts completeSparse globalCounts layerId
  let recentValid := layerValid numExperts completeSparse recentCounts layerId
  if !globalValid && !recentValid then tables
  else
    { hotness := (List.range numExperts).foldl
        (fun hotness expertId => hotness.set (expertKey layerId expertId)
          (expertHotness numExperts alpha completeSparse globalCounts recentCounts layerId
            expertId))
        tables.hotness
      layerSampleCounts := tables.layerSampleCounts.set (toString layerId)
        (truncate (countedTotal numExperts (if globalValid then globalCounts else recentCounts)
          layerId))
      coveredLayers := tables.coveredLayers + 1 }

/-- The loop over the layers. -/
def freezeLayers : LayerTables :=
  (List.range numLayers).foldl
    (freezeLayer numExperts alpha completeSparse globalCounts recentCounts) {}

end Histograms

/-! ## The snapshot -/

/-- What the source of the histograms says about them. -/
structure HotnessContract where
  completeSparse : Bool
  counterUnit : String
  aggregationScope : String
  keyGranularity : String
  globalResetMarker : String
  observationTimeS : Option ℚ
  explicitAgeS : Option ℚ
  recentEventCount : ℤ

/-- The contract, read from its source. -/
def hotnessContract (source : Dict) : HotnessContract where
  completeSparse := toBool (getFirst source
    ["moe_route_histogram_complete_sparse", "hotness_histogram_complete_sparse"] .none) false
  counterUnit := strOr (source.lookup "moe_route_counter_unit")
    (strOr (source.lookup "counter_unit") "topk_routed_assignments")
  aggregationScope := strOr (source.lookup "moe_route_aggregation_scope")
    (strOr (source.lookup "aggregation_scope") "deployment")
  keyGranularity := strOr (source.lookup "moe_route_histogram_key_granularity")
    (strOr (source.lookup "key_granularity") "layer_expert")
  globalResetMarker := strOr (source.lookup "moe_route_global_reset_marker")
    (strOr (source.lookup "global_reset_marker") "")
  observationTimeS := (getFirst source
    ["moe_route_last_observation_time_s", "routing_last_observation_time_s"] .none).float?
  explicitAgeS := ((source.lookup "moe_route_histogram_age_s").getD .none).float?
  recentEventCount :=
    asNonNegativeInt ((source.lookup "moe_route_recent_event_count").getD .none) 0

/-- Why the histograms of a source are not used, empty when they are. -/
def contractReason (source : Dict) (sourceLabel globalReason recentReason : String) : String :=
  let contract := hotnessContract source
  if sourceLabel = "unavailable" then "hotness_histogram_unavailable"
  else if globalReason ≠ "ok" ∧ globalReason ≠ "missing" then
    "invalid_global_histogram:" ++ globalReason
  else if recentReason ≠ "ok" ∧ recentReason ≠ "missing" then
    "invalid_recent_histogram:" ++ recentReason
  else if contract.counterUnit ≠ "topk_routed_assignments" then "unsupported_counter_unit"
  else if contract.keyGranularity ≠ "layer_expert" then "unsupported_key_granularity"
  else if ¬ ["deployment", "engine", "ep_group"].contains contract.aggregationScope then
    "unsupported_aggregation_scope"
  else if isBoolFalse (source.lookup "moe_route_metadata_consistent") then
    "inconsistent_routing_metadata"
  else if ["unverified", "sum_unverified_tp_workers"].contains
      (strOr (source.lookup "moe_route_tp_aggregation") "") then
    "unverified_tp_aggregation"
  else ""

/-- What the fingerprint of a snapshot covers. -/
structure FingerprintPayload where
  alpha : ℚ
  globalCounts : Hotness
  recentCounts : Hotness
  source : String
  counterUnit : String
  aggregationScope : String
  keyGranularity : String
  globalResetMarker : String

/-- What a snapshot takes from outside its arguments. -/
structure HotnessEnvironment where
  /-- The configuration file at a model's path. -/
  configFile : String → Option Dict
  /-- `time.time()`. -/
  time : ℚ
  /-- `_plan_fingerprint`. -/
  planFingerprint : FingerprintPayload → String

/-- `HotnessSnapshot`, with the fields that the planner hands on without reading them. -/
structure FrozenHotness extends HotnessSnapshot where
  alpha : ℚ
  globalCounts : Hotness
  recentCounts : Hotness
  layerSampleCounts : OrderedDict String ℤ
  sampleCount : ℤ
  recentEventCount : ℤ
  observationTimeS : Option ℚ
  ageS : Option ℚ
  source : String
  counterUnit : String
  aggregationScope : String
  keyGranularity : String
  completeSparse : Bool
  globalResetMarker : String

/-- `age_s`. -/
def histogramAge (env : HotnessEnvironment) (sources : List Dict) (contract : HotnessContract) :
    Option ℚ :=
  let now := (firstConfigValue sources "hotness_snapshot_time_s").float?.getD env.time
  contract.explicitAgeS.or (contract.observationTimeS.map fun observed => max 0 (now - observed))

/-- `invalid_reason` in the end, empty for a snapshot that is available. -/
def invalidReason (sources : List Dict) (reason : String) (tables : LayerTables)
    (contract : HotnessContract) (ageS : Option ℚ) : String :=
  let minimumSamples := asNonNegativeInt (firstConfigValue sources "minimum_hotness_samples") 1
  let maxAgeS := firstNonNegativeFloat sources "hotness_max_age_s" 0
  let requireResetMarker := toBool (firstConfigValue sources "require_hotness_reset_marker") false
  if reason ≠ "" then reason
  else if tables.hotness.entries.isEmpty then "no_complete_sampled_layers"
  else if tables.layerSampleCounts.values.sum < minimumSamples then "insufficient_hotness_samples"
  else if 0 < maxAgeS ∧ ageS = none then "hotness_freshness_unknown"
  else if 0 < maxAgeS ∧ ageS.any (maxAgeS < ·) then "stale_hotness_snapshot"
  else if requireResetMarker ∧ contract.globalResetMarker = "" then
    "global_counter_reset_marker_unknown"
  else ""

/-- `build_hotness_snapshot`. -/
def buildHotnessSnapshot (env : HotnessEnvironment) (numLayers numExperts : ℕ)
    (modelConfig plannerConfig : Dict) : FrozenHotness :=
  let sources := configSources env.configFile plannerConfig modelConfig
  let alpha := hotnessAlpha sources
  let source := hotnessContractSource modelConfig plannerConfig
  let globalCounts :=
    canonicalHistogram numLayers numExperts (source.1.lookup "global_expert_hotness")
  let recentCounts :=
    canonicalHistogram numLayers numExperts (source.1.lookup "recent_window_expert_hotness")
  let contract := hotnessContract source.1
  let ageS := histogramAge env sources contract
  let reason := contractReason source.1 source.2 globalCounts.2 recentCounts.2
  let tables := if reason = "" then
      freezeLayers numLayers numExperts alpha contract.completeSparse globalCounts.1 recentCounts.1
    else {}
  let invalid := invalidReason sources reason tables contract ageS
  { snapshotId := env.planFingerprint
      { alpha := alpha
        globalCounts := globalCounts.1
        recentCounts := recentCounts.1
        source := source.2
        counterUnit := contract.counterUnit
        aggregationScope := contract.aggregationScope
        keyGranularity := contract.keyGranularity
        globalResetMarker := contract.globalResetMarker }
    available := invalid = ""
    reason := if invalid = "" then "valid_hotness_snapshot" else invalid
    hotness := tables.hotness
    layerCoverage := if 0 < numLayers then tables.coveredLayers / numLayers else 0
    alpha := alpha
    globalCounts := globalCounts.1
    recentCounts := recentCounts.1
    layerSampleCounts := tables.layerSampleCounts
    sampleCount := tables.layerSampleCounts.values.sum
    recentEventCount := contract.recentEventCount
    observationTimeS := contract.observationTimeS
    ageS := ageS
    source := source.2
    counterUnit := contract.counterUnit
    aggregationScope := contract.aggregationScope
    keyGranularity := contract.keyGranularity
    completeSparse := contract.completeSparse
    globalResetMarker := contract.globalResetMarker }

end ExpertPlacement
end SpotServe
