import SpotServe.ContextMigration.Types

/-!
# The expert dispatch estimate

`estimate_expert_dispatch_cost` compares the experts a request routed its tokens to with the
experts a target's placement snapshot names.  The histogram and the placement are nested
payloads of any shape; both are flattened to keys `layer:l/expert:e`.

Histograms are association lists in insertion order, as Python's dictionaries are.
-/

namespace SpotServe
namespace ContextMigration

open Py

/-- Tokens by key, in insertion order. -/
abbrev Histogram := List (String × ℕ)

/-- `histogram[key] = histogram.get(key, 0) + tokens`. -/
def addTokens (histogram : Histogram) (key : String) (tokens : ℕ) : Histogram :=
  match histogram with
  | [] => [(key, tokens)]
  | (k, n) :: rest => if k = key then (k, n + tokens) :: rest else (k, n) :: addTokens rest key tokens

/-- `sum(histogram.values())`. -/
def totalTokens (histogram : Histogram) : ℕ :=
  (histogram.map Prod.snd).sum

/-- `_expert_key_from_parts`, the parts already printed. -/
def expertKeyFromParts (parts : List String) : String :=
  let cleaned := parts.filter fun part => part ≠ "" && part ≠ "None"
  match cleaned.reverse with
  | [] => ""
  | [only] => only
  | e :: l :: _ =>
    if isDigits e && isDigits l then "layer:" ++ l ++ "/expert:" ++ e
    else "/".intercalate cleaned

/-- The record form `{layer_id, expert_id, routed_tokens}` of a histogram entry. -/
def isExpertRecord (items : Dict) : Bool :=
  hasKey items "layer_id" && hasKey items "expert_id"

/-- The key of a record entry. -/
def recordKey (items : Dict) : String :=
  expertKeyFromParts
    [((items.lookup "layer_id").getD .none).toStr, ((items.lookup "expert_id").getD .none).toStr]

/-- `node.get("routed_tokens", node.get("tokens", 0))`. -/
def recordTokens (items : Dict) : Value :=
  match items.lookup "routed_tokens" with
  | some v => v
  | none => (items.lookup "tokens").getD (.int 0)

mutual

/-- `visit` of `_flatten_expert_histogram`. -/
def visitHistogram (parts : List String) (histogram : Histogram) : Value → Histogram
  | .list xs => visitList parts 0 histogram xs
  | .dict items =>
    if isExpertRecord items then
      match asNonNegativeInt (some (recordTokens items)) with
      | some (n + 1) => addTokens histogram (recordKey items) (n + 1)
      | _ => histogram
    else visitItems parts histogram items
  | node =>
    match asNonNegativeInt (some node) with
    | some (n + 1) =>
      if expertKeyFromParts parts = "" then histogram
      else addTokens histogram (expertKeyFromParts parts) (n + 1)
    | _ => histogram

/-- The entries of a list, with their indices as parts. -/
def visitList (parts : List String) (index : ℕ) (histogram : Histogram) : List Value → Histogram
  | [] => histogram
  | x :: xs =>
    visitList parts (index + 1) (visitHistogram (parts ++ [toString index]) histogram x) xs

/-- The items of a mapping, with their keys as parts. -/
def visitItems (parts : List String) (histogram : Histogram) : List (String × Value) → Histogram
  | [] => histogram
  | (key, child) :: items =>
    visitItems parts (visitHistogram (parts ++ [key]) histogram child) items

end

/-- `_flatten_expert_histogram`. -/
def flattenExpertHistogram (value : Option Value) (requestId : Option String) : Histogram :=
  match value with
  | some (.dict items) =>
    match requestId.bind fun key => if key = "" then none else items.lookup key with
    | some (.dict inner) => visitHistogram [] [] (.dict inner)
    | _ => visitHistogram [] [] (.dict items)
  | _ => []

/-- `_normalize_expert_key`. -/
def normalizeExpertKey (text : String) : String :=
  if contains "layer:" text && contains "expert:" text then text
  else
    match ((splitOn (fun c => c = '/' || c = ':') text).filter (· ≠ "")).reverse with
    | e :: l :: _ => if isDigits e && isDigits l then expertKeyFromParts [l, e] else text
    | _ => text

/-- `_expert_layer_key`. -/
def expertLayerKey (expertKey : String) : String :=
  ((splitOn (· = '/') expertKey).find? fun part => "layer:".toList <+: part.toList).getD
    "layer:unknown"

/-- `_routed_tokens_by_layer`. -/
def routedTokensByLayer (histogram : Histogram) : Histogram :=
  histogram.foldl (fun acc kn => addTokens acc (expertLayerKey kn.1) kn.2) []

mutual

/-- `visit` of `_placement_expert_keys`. -/
def visitPlacement (parentKey : Option String) : Value → List String
  | .dict items =>
    (if isExpertRecord items then [recordKey items]
      else (parentKey.map normalizeExpertKey).toList) ++ visitPlacementItems items
  | .list xs => visitPlacementList xs
  | _ => []

/-- The entries of a list are visited without a parent key. -/
def visitPlacementList : List Value → List String
  | [] => []
  | x :: xs => visitPlacement none x ++ visitPlacementList xs

/-- A key that mentions an expert or a layer is a placement key itself. -/
def visitPlacementItems : List (String × Value) → List String
  | [] => []
  | (key, child) :: items =>
    (if contains "expert" key || contains "layer" key then [normalizeExpertKey key] else []) ++
      visitPlacement (some key) child ++ visitPlacementItems items

end

/-- `_placement_expert_keys`; only membership in the result is ever asked. -/
def placementExpertKeys (value : Option Value) : List String :=
  match value with
  | some v => (visitPlacement none v).filter (· ≠ "")
  | none => []

/-- `source_expert_route_histogram`. -/
def sourceExpertRouteHistogram (source : ContextMetadata) : Histogram :=
  flattenExpertHistogram
    (metadataValue source.metadata ["per_request_expert_route_histogram"]) source.requestId

/-- `target_expert_placement_keys`. -/
def targetExpertPlacementKeys (target : MigrationTarget) : List String :=
  let runtime :=
    if toBool (metadataValue target.metadata ["runtime_expert_placement_available"]) false then
      metadataValue target.metadata ["runtime_expert_placement_shards"]
    else none
  match runtime with
  | some .none | none =>
    placementExpertKeys
      (metadataValue target.metadata ["expert_placement_snapshot", "expert_placement"])
  | some raw => placementExpertKeys (some raw)

/-- What `estimate_expert_dispatch_cost` reports. -/
structure ExpertDispatch where
  available : Bool
  histogramAvailable : Bool
  placementAvailable : Bool
  localityRatio : ℚ
  remoteRoutingRatio : ℚ
  routedTokens : ℕ
  localRoutedTokens : ℕ
  remoteRoutedTokens : ℕ
  localRoutedTokensByExpert : Histogram
  remoteRoutedTokensByExpert : Histogram
  localRoutedTokensByLayer : Histogram
  remoteRoutedTokensByLayer : Histogram
  localityDefinition : String
  localityGranularity : String
  remoteRoutingDefinition : String
  cost : ℚ
  routeHistogramSource : String
  routeHistogramKind : String

/-- The histogram under normalized keys, restricted to the keys that satisfy `p`. -/
def normalizedPart (p : String → Bool) (histogram : Histogram) : Histogram :=
  histogram.foldl
    (fun acc kn =>
      if p (normalizeExpertKey kn.1) then addTokens acc (normalizeExpertKey kn.1) kn.2 else acc) []

/-- Whether the estimate is switched on: by its own key, else by the presence of a weight. -/
def expertLocalityEnabled (config : PlannerConfig) : Bool :=
  toBool config.enableMoeExpertLocality (config.number "expert_dispatch_weight").isSome

/-- The fields both reports of `estimate_expert_dispatch_cost` leave out or set to zero. -/
def unavailableDispatch (source : ContextMetadata) (histogramAvailable placementAvailable : Bool) :
    ExpertDispatch where
  available := false
  histogramAvailable := histogramAvailable
  placementAvailable := placementAvailable
  localityRatio := 0
  remoteRoutingRatio := 0
  routedTokens := 0
  localRoutedTokens := 0
  remoteRoutedTokens := 0
  localRoutedTokensByExpert := []
  remoteRoutedTokensByExpert := []
  localRoutedTokensByLayer := []
  remoteRoutedTokensByLayer := []
  -- no observation is not evidence of target placement coverage
  localityDefinition := "unavailable"
  localityGranularity := "unavailable"
  remoteRoutingDefinition := "unavailable"
  cost := 0
  routeHistogramSource :=
    strOr (metadataValue source.metadata ["moe_route_histogram_source"]) "unavailable"
  routeHistogramKind :=
    strOr (metadataValue source.metadata ["moe_route_histogram_kind"]) "unavailable"

/-- `estimate_expert_dispatch_cost`. -/
def estimateExpertDispatchCost (source : ContextMetadata) (target : MigrationTarget)
    (config : PlannerConfig) : ExpertDispatch :=
  let histogram := sourceExpertRouteHistogram source
  let placementKeys := targetExpertPlacementKeys target
  let histogramAvailable := !histogram.isEmpty
  let placementAvailable := !placementKeys.isEmpty
  let sourceDeclares :=
    toBool (metadataValue source.metadata ["moe_route_histogram_available"]) histogramAvailable
  let targetDeclares :=
    toBool (metadataValue target.metadata ["expert_placement_available"]) placementAvailable
  if !expertLocalityEnabled config || !histogramAvailable || !placementAvailable ||
      !sourceDeclares || !targetDeclares then
    unavailableDispatch source histogramAvailable placementAvailable
  else
    let total := totalTokens histogram
    let here := normalizedPart (fun key => placementKeys.contains key) histogram
    let there := normalizedPart (fun key => !placementKeys.contains key) histogram
    let localityRatio : ℚ := if total = 0 then 0 else (totalTokens here : ℚ) / total
    let remoteRatio : ℚ := if total = 0 then 0 else 1 - localityRatio
    { available := true
      histogramAvailable := true
      placementAvailable := true
      localityRatio := localityRatio
      remoteRoutingRatio := remoteRatio
      routedTokens := total
      localRoutedTokens := totalTokens here
      remoteRoutedTokens := totalTokens there
      localRoutedTokensByExpert := here
      remoteRoutedTokensByExpert := there
      localRoutedTokensByLayer := routedTokensByLayer here
      remoteRoutedTokensByLayer := routedTokensByLayer there
      localityDefinition := "target_placement_coverage"
      localityGranularity := "target_instance_or_deployment"
      remoteRoutingDefinition := "missing_from_target_placement_snapshot"
      cost := remoteRatio * positiveFloat config "expert_dispatch_weight" 1
      routeHistogramSource :=
        strOr (metadataValue source.metadata ["moe_route_histogram_source"])
          "runtime_or_instrumentation"
      routeHistogramKind :=
        strOr (metadataValue source.metadata ["moe_route_histogram_kind"])
          "instrumentation_derived" }

end ContextMigration
end SpotServe
