import SpotServe.ExpertPlacement.Assignment

/-!
# Load, traffic and movement of a placement

What the planner computes to judge a placement: how evenly the hotness is spread over the ranks
(`loadDiagnostics`), how many tokens travel to another rank (`remoteDispatchDiagnostics`), how long
moving the weights takes (`estimateExpertWeightMovementCostMs`), and which experts a plan moves
(`buildExpertMovementDiff`).  The coefficient of variation per layer, which is a square root and is
reported only, is left out.
-/

namespace SpotServe
namespace ExpertPlacement

open Py

/-- Hotness by expert key. -/
abbrev Hotness := OrderedDict String ℚ

/-- `float(hotness.get(f"layer:{layer_id}/expert:{expert_id}", 0.0))`. -/
def hotnessOf (hotness : Hotness) (layerId expertId : ℕ) : ℚ :=
  (hotness.get? (expertKey layerId expertId)).getD 0

/-! ## Load -/

/-- The place that an index means in a list of the given length; negative ones count from the
end. -/
def placeOf (length : ℕ) (index : ℤ) : ℕ :=
  if index < 0 then (index + length).toNat else index.toNat

/-- The hotness on each rank of one layer. -/
def rankLoads (hotness : Hotness) (rankCount layerId : ℕ) (assignment : List ℤ) : List ℚ :=
  assignment.zipIdx.foldl
    (fun load entry => load.modify (placeOf rankCount entry.1) (· + hotnessOf hotness layerId entry.2))
    (List.replicate rankCount 0)

/-- What `_load_diagnostics` returns; layers without hotness are left out. -/
structure LoadDiagnostics where
  perLayerRankLoad : List (ℕ × List ℚ)
  perLayerImbalance : List (ℕ × ℚ)
  penalty : ℚ

/-- `_load_diagnostics`. -/
def loadDiagnostics (assignments : List (List ℤ)) (hotness : Hotness) (rankCount : ℕ) :
    LoadDiagnostics :=
  let loads := assignments.zipIdx.map fun entry =>
    (entry.2, rankLoads hotness rankCount entry.2 entry.1)
  let mean := fun load : List ℚ => load.sum / rankCount
  let loaded := loads.filter fun layer => 0 < mean layer.2
  let imbalance := loaded.map fun layer => (layer.1, layer.2.foldl max 0 / mean layer.2 - 1)
  { perLayerRankLoad := loaded
    perLayerImbalance := imbalance
    penalty :=
      if imbalance.isEmpty then 0 else (imbalance.map Prod.snd).sum / imbalance.length }

/-! ## Traffic -/

/-- What `_remote_dispatch_diagnostics` returns. -/
structure RemoteDispatch where
  remote : ℚ
  total : ℚ
  ratio : Option ℚ
  perSource : OrderedDict String ℚ

/-- `_remote_dispatch_diagnostics`. -/
def remoteDispatchDiagnostics (assignments : List (List ℤ)) (sourceExpertCounts : SourceCounts) :
    RemoteDispatch :=
  let known := sourceExpertCounts.entries.filterMap fun entry =>
    ((assignments[entry.1.2.1]?).bind (·[entry.1.2.2]?)).map fun rank => (entry.1.1, rank, entry.2)
  let moved := known.filter fun (source, rank, _) => rank ≠ (source : ℤ)
  let total := (known.map fun (_, _, count) => count).sum
  let remote := (moved.map fun (_, _, count) => count).sum
  { remote := remote
    total := total
    ratio := if 0 < total then some (remote / total) else none
    perSource := moved.foldl
      (fun acc (source, _, count) =>
        acc.set (toString source) ((acc.get? (toString source)).getD 0 + count)) .empty }

/-! ## Movement -/

/-- An entry of a placement snapshot.  Texts are empty and sizes zero where a key is absent. -/
structure PlacementEntry where
  rankId : String := ""
  nodeId : String := ""
  gpuId : String := ""
  physicalExpertId : String := ""
  weightSizeBytes : ℕ := 0
  expertWeightSizeBytes : ℕ := 0
  deriving DecidableEq

/-- A placement by expert key. -/
abbrev Snapshot := OrderedDict String PlacementEntry

/-- `_entry_weight_size_bytes`: the first positive size. -/
def entryWeightSizeBytes (entries : List PlacementEntry) (default : Option ℕ) : Option ℕ :=
  ((entries.flatMap fun entry => [entry.weightSizeBytes, entry.expertWeightSizeBytes]).find?
    (0 < ·)).or (default.filter (0 < ·))

/-- The costs of moving weights that the configuration gives, zero where it gives none. -/
structure MovementCosts where
  costMs : ℚ
  costMsPerGib : ℚ
  costMsPerExpert : ℚ
  bandwidthBytesPerS : ℚ

/-- `_estimate_expert_weight_movement_cost_ms`. -/
def estimateExpertWeightMovementCostMs (movedWeightBytes : Option ℕ) (movedExpertCount : ℕ)
    (costs : MovementCosts) : Option ℚ :=
  if movedExpertCount = 0 then some 0
  else if ¬ (0 < costs.costMs ∨ 0 < costs.costMsPerGib ∨ 0 < costs.costMsPerExpert ∨
      0 < costs.bandwidthBytesPerS) then none
  else
    match movedWeightBytes with
    | none =>
      if 0 < costs.costMsPerGib ∨ 0 < costs.bandwidthBytesPerS then none
      else if costs.costMs ≤ 0 ∧ costs.costMsPerExpert ≤ 0 then none
      else some (costs.costMs + movedExpertCount * costs.costMsPerExpert)
    | some bytes =>
      let transfer :=
        if 0 < costs.costMsPerGib then (bytes : ℚ) / 1024 ^ 3 * costs.costMsPerGib
        else if 0 < costs.bandwidthBytesPerS ∧ 0 < bytes then
          bytes / costs.bandwidthBytesPerS * 1000
        else 0
      some (costs.costMs + transfer + movedExpertCount * costs.costMsPerExpert)

/-- `_placement_changed`: whether a placement is a different one, when that can be told, and why. -/
def placementChanged (current planned : PlacementEntry) : Option Bool × String :=
  let currentRank := rankSignature current.rankId
  if currentRank ≠ "" ∧ currentRank ≠ rankSignature planned.rankId then (some true, "rank_changed")
  else
    let fields := [(current.nodeId, planned.nodeId, "node_changed"),
      (current.gpuId, planned.gpuId, "gpu_changed"),
      (current.physicalExpertId, planned.physicalExpertId, "physical_expert_changed")]
    match fields.find? fun (now, target, _) => now ≠ "" ∧ now ≠ target with
    | some (_, _, reason) => (some true, reason)
    | none =>
      if currentRank = "" ∧ fields.all (fun (now, _, _) => now = "") then
        (none, "current_location_unavailable")
      else (some false, "placement_unchanged")

/-- A row of `expert_movement_diff`. -/
structure MovementRow where
  status : String
  reason : String
  weightSizeBytes : Option ℕ
  source : Option PlacementEntry
  target : PlacementEntry

/-- What `_build_expert_movement_diff` returns. -/
structure MovementDiff where
  movementObservationAvailable : Bool
  movedExpertCount : ℕ
  stationaryExpertCount : ℕ
  unknownMovementExpertCount : ℕ
  movedWeightBytes : Option ℕ
  estimatedExpertWeightMovementCostMs : Option ℚ
  expertMovementDiff : List (String × MovementRow)

/-- What the loop says about one expert: nothing when it stays. -/
def movementRow (current : Snapshot) (defaultWeightSize : Option ℕ) (key : String)
    (planned : PlacementEntry) : Option MovementRow :=
  match current.get? key with
  | none => some ⟨"unknown", "missing_current_expert", none, none, planned⟩
  | some entry =>
    match placementChanged entry planned with
    | (none, reason) => some ⟨"unknown", reason, none, none, planned⟩
    | (some true, reason) =>
      some ⟨"moved", reason, entryWeightSizeBytes [planned, entry] defaultWeightSize, some entry,
        planned⟩
    | (some false, _) => none

/-- `_build_expert_movement_diff`. -/
def buildExpertMovementDiff (planned current : Snapshot) (defaultWeightSize : Option ℕ)
    (costs : MovementCosts) : MovementDiff :=
  if current.entries.isEmpty then
    { movementObservationAvailable := false
      movedExpertCount := 0
      stationaryExpertCount := 0
      unknownMovementExpertCount := planned.entries.length
      movedWeightBytes := none
      estimatedExpertWeightMovementCostMs := none
      expertMovementDiff := [] }
  else
    let rows := planned.entries.filterMap fun entry =>
      (movementRow current defaultWeightSize entry.1 entry.2).map (entry.1, ·)
    let moved := rows.filter fun row => row.2.status = "moved"
    let unknown := rows.filter fun row => row.2.status = "unknown"
    let sizes := moved.mapM fun row => row.2.weightSizeBytes
    let bytes := if unknown.isEmpty then sizes.map List.sum else none
    { movementObservationAvailable := true
      movedExpertCount := moved.length
      stationaryExpertCount := planned.entries.length - rows.length
      unknownMovementExpertCount := unknown.length
      movedWeightBytes := bytes
      estimatedExpertWeightMovementCostMs :=
        if unknown.isEmpty then estimateExpertWeightMovementCostMs bytes moved.length costs
        else none
      expertMovementDiff := rows }

end ExpertPlacement
end SpotServe
