import SpotServe.ExpertPlacement.Keys
import SpotServe.Library.OrderedDict
import SpotServe.Library.PyValue
import SpotServe.Library.Runs
import SpotServe.SparseA2A.Dispatch

/-!
# What a worker accepts as an expert remap

`sllm/vllm_expert_remap.py` moves experts between the ranks of a fixed expert parallel group, in
place.  Every rank first checks the plan against its own model: `_layers_for_plan`.

A model is the list of its named modules.  A fused MoE module has an expert map, which gives the
local slot of each global expert, and two weight tensors, whose rows are the slots.  The contents of
a row are of any type `T`, those of the other modules of any type `O`.
-/

namespace SpotServe
namespace ExpertRemap

open Py Runs ExpertPlacement
open SparseA2A (ExpertMap)

/-- A weight tensor of the local experts, one row for each slot. -/
structure ExpertWeight (T : Type) where
  rows : List T
  rowShape : List ℕ
  dtype : String
  contiguous : Bool

/-- `tuple(weight.shape)`. -/
def ExpertWeight.shape {T : Type} (weight : ExpertWeight T) : List ℕ :=
  weight.rows.length :: weight.rowShape

/-- A `FusedMoE` module.  `unquantized` is about the method that a modular one wraps, and `weights`
are the tensors that the module or its method gives out. -/
structure FusedMoE (T : Type) where
  unquantized : Bool
  useEp : Bool
  enableEplb : Bool
  numFusedSharedExperts : ℕ
  rocmAiterFmoeEnabled : Bool
  all2allBackend : String
  epRank : ℕ
  epSize : ℕ
  tensorParallelSize : ℤ
  dataParallelSize : ℤ
  localNumExperts : ℕ
  globalNumExperts : ℕ
  expertMap : Option ExpertMap
  weights : List (ExpertWeight T)

/-- A module of a model. -/
inductive NnModule (T O : Type) where
  | fusedMoE (layer : FusedMoE T)
  | other (content : O)

/-- `model.named_modules()`. -/
abbrev Model (T O : Type) := List (String × NnModule T O)

/-- The mapping that a worker gets as the plan. -/
structure RemapPlan where
  liveExpertRemap : Bool
  sllmReplicaCount : ℤ
  expertPhysicalReplicationFactor : ℤ
  expertToTargetRank : OrderedDict String String
  placementFingerprint : String
  targetRankCount : Option ℤ
  targetParallelPlan : Dict
  dpEngineCoordinated : Bool
  dpEngineCount : ℤ
  requireCrossNode : Bool
  requireCrossFailureDomain : Bool

/-- What preparing or running a remap can raise.  The last one is a collective operation in which
the ranks do not agree, which hangs or fails inside the library. -/
inductive RemapError where
  | liveExpertRemapNotEnabled
  | liveExpertRemapNotRequested
  | modelUnavailable
  | multipleReplicasNotSupported
  | expertReplicationNotSupported
  | expertToTargetRankRequired
  | placementFingerprintRequired
  | atLeastTwoEpRanksRequired
  | changingEpSizeNotSupported
  | targetDisablesExpertParallel
  | moeLayerIdUnavailable (name : String)
  | quantizedExpertRemapNotSupported
  | unsupportedMoeLayout
  | allToAllBackendDoesNotSupportCustomMap
  | epGroupMismatch
  | dataParallelExpertRemapNotCoordinated
  | changingSizeNotSupported (field : String)
  | invalidInteger (field : String)
  | unevenOrEmptyEpPartitionNotSupported
  | expertMapUnavailable
  | invalidLocalExpertMap
  | incompleteLocalExpertMap
  | missingTargetExpert (key : String)
  | unsupportedTargetRank (value : String)
  | localExpertCountChange (name : String)
  | unsupportedExpertWeightLayout
  | noFusedMoeLayers
  | unexpectedTargetExperts
  | duplicateMoeLayerIds
  | mixedExpertWeightLayoutNotSupported
  | crossNodeRequiresDistinctPhysicalHostIds
  | crossFailureDomainRequiresDistinctFailureDomainIds
  | currentExpertCoverageInvalid
  | planDoesNotMoveExpertsAcrossPhysicalHosts
  | planDoesNotMoveExpertsAcrossFailureDomains
  | duplicateResidentExpert (key : String)
  | currentWeightCoverageInvalid
  | expertWeightDigestMismatchAfterTransfer
  | collectiveMismatch
  deriving DecidableEq, Repr

/-- The texts of the exceptions. -/
def RemapError.message : RemapError → Option String
  | .liveExpertRemapNotEnabled => some "live_expert_remap_not_enabled"
  | .liveExpertRemapNotRequested => some "live_expert_remap_not_requested"
  | .modelUnavailable => some "model_unavailable"
  | .multipleReplicasNotSupported => some "multiple_replicas_not_supported"
  | .expertReplicationNotSupported => some "expert_replication_not_supported"
  | .expertToTargetRankRequired => some "expert_to_target_rank_required"
  | .placementFingerprintRequired => some "placement_fingerprint_required"
  | .atLeastTwoEpRanksRequired => some "at_least_two_ep_ranks_required"
  | .changingEpSizeNotSupported => some "changing_ep_size_not_supported"
  | .targetDisablesExpertParallel => some "target_disables_expert_parallel"
  | .moeLayerIdUnavailable name => some ("moe_layer_id_unavailable:" ++ name)
  | .quantizedExpertRemapNotSupported => some "quantized_expert_remap_not_supported"
  | .unsupportedMoeLayout => some "unsupported_moe_layout"
  | .allToAllBackendDoesNotSupportCustomMap =>
    some "all_to_all_backend_does_not_support_custom_map"
  | .epGroupMismatch => some "ep_group_mismatch"
  | .dataParallelExpertRemapNotCoordinated => some "data_parallel_expert_remap_not_coordinated"
  | .changingSizeNotSupported field => some ("changing_" ++ field ++ "_not_supported")
  | .invalidInteger _ => none
  | .unevenOrEmptyEpPartitionNotSupported => some "uneven_or_empty_ep_partition_not_supported"
  | .expertMapUnavailable => some "expert_map_unavailable"
  | .invalidLocalExpertMap => some "invalid_local_expert_map"
  | .incompleteLocalExpertMap => some "incomplete_local_expert_map"
  | .missingTargetExpert key => some ("missing_target_expert:" ++ key)
  | .unsupportedTargetRank value => some ("unsupported_target_rank:" ++ value)
  | .localExpertCountChange name => some ("local_expert_count_change:" ++ name)
  | .unsupportedExpertWeightLayout => some "unsupported_expert_weight_layout"
  | .noFusedMoeLayers => some "no_fused_moe_layers"
  | .unexpectedTargetExperts => some "unexpected_target_experts"
  | .duplicateMoeLayerIds => some "duplicate_moe_layer_ids"
  | .mixedExpertWeightLayoutNotSupported => some "mixed_expert_weight_layout_not_supported"
  | .crossNodeRequiresDistinctPhysicalHostIds =>
    some "cross_node_requires_distinct_physical_host_ids"
  | .crossFailureDomainRequiresDistinctFailureDomainIds =>
    some "cross_failure_domain_requires_distinct_failure_domain_ids"
  | .currentExpertCoverageInvalid => some "current_expert_coverage_invalid"
  | .planDoesNotMoveExpertsAcrossPhysicalHosts =>
    some "plan_does_not_move_experts_across_physical_hosts"
  | .planDoesNotMoveExpertsAcrossFailureDomains =>
    some "plan_does_not_move_experts_across_failure_domains"
  | .duplicateResidentExpert key => some ("duplicate_resident_expert:" ++ key)
  | .currentWeightCoverageInvalid => some "current_weight_coverage_invalid"
  | .expertWeightDigestMismatchAfterTransfer =>
    some "expert_weight_digest_mismatch_after_transfer"
  | .collectiveMismatch => none

/-! ## Reading names -/

/-- `layers\.(\d+)(?:\.|$)` at the start of a text. -/
def layerIdHere (text : List Char) : Option ℕ :=
  (matchLiteral "layers.".toList text).bind fun rest =>
    (readDigits rest).bind fun (layerId, rest) =>
      if rest = [] ∨ rest = ['\n'] ∨ rest.head? = some '.' then some layerId else none

/-- The same behind a dot. -/
def layerIdAfterDot (text : List Char) : Option ℕ :=
  (matchLiteral ['.'] text).bind layerIdHere

/-- `_LAYER_RE.search(name)`. -/
def layerIdOf (name : String) : Option ℕ :=
  (layerIdHere name.toList).or (search layerIdAfterDot name.toList)

/-- `_target_ep_rank`. -/
def targetEpRank (value : String) (epSize : ℕ) : Except RemapError ℕ :=
  let text := (matchLiteral "replica:0/".toList value.toList).getD value.toList
  match (matchLiteral "ep-rank:".toList text).bind readDigits with
  | some (rank, []) => if rank < epSize then .ok rank else .error (.unsupportedTargetRank value)
  | _ => .error (.unsupportedTargetRank value)

/-- The rank that a plan gives an expert. -/
def targetOf (rankMap : OrderedDict String String) (epSize layerId expertId : ℕ) :
    Except RemapError ℕ :=
  match rankMap.get? (expertKey layerId expertId) with
  | none => .error (.missingTargetExpert (expertKey layerId expertId))
  | some value => targetEpRank value epSize

/-! ## The checks -/

/-- The checks on the plan, before the modules are looked at. -/
def checkPlan (enabled : Bool) (modelAvailable : Bool) (epSize : ℕ) (plan : RemapPlan) :
    Except RemapError Unit := do
  require (enabled = true) .liveExpertRemapNotEnabled
  require (plan.liveExpertRemap = true) .liveExpertRemapNotRequested
  require (modelAvailable = true) .modelUnavailable
  require (plan.sllmReplicaCount = 1) .multipleReplicasNotSupported
  require (plan.expertPhysicalReplicationFactor = 1) .expertReplicationNotSupported
  require (plan.expertToTargetRank.entries ≠ []) .expertToTargetRankRequired
  require (plan.placementFingerprint ≠ "") .placementFingerprintRequired
  require (2 ≤ epSize) .atLeastTwoEpRanksRequired
  require (∀ count ∈ plan.targetRankCount, count = epSize) .changingEpSizeNotSupported
  require (¬ ((plan.targetParallelPlan.lookup "enable_expert_parallel").any fun
    | .bool false => true
    | _ => false)) .targetDisablesExpertParallel

/-- A size that the target plan names must be the one at run time. -/
def checkSize (plan : Dict) (field : String) (current : ℤ) : Except RemapError Unit :=
  match plan.lookup field with
  | none | some .none => .ok ()
  | some value =>
    match value.int? with
    | none => .error (.invalidInteger field)
    | some size => require (size = current) (.changingSizeNotSupported field)

/-- The checks on the layout of a module. -/
def checkLayout {T : Type} (epSize epRank : ℕ) (plan : RemapPlan) (m : FusedMoE T) :
    Except RemapError Unit := do
  require (m.unquantized = true) .quantizedExpertRemapNotSupported
  require (m.useEp = true ∧ m.enableEplb = false ∧ m.numFusedSharedExperts = 0 ∧
    m.rocmAiterFmoeEnabled = false) .unsupportedMoeLayout
  require (m.all2allBackend ∈ ["naive", "allgather_reducescatter", "spotserve_sparse"])
    .allToAllBackendDoesNotSupportCustomMap
  require (m.epRank = epRank ∧ m.epSize = epSize) .epGroupMismatch
  require (m.dataParallelSize = 1 ∨
    plan.dpEngineCoordinated = true ∧ plan.dpEngineCount = m.dataParallelSize)
    .dataParallelExpertRemapNotCoordinated
  checkSize plan.targetParallelPlan "tensor_parallel_size" m.tensorParallelSize
  checkSize plan.targetParallelPlan "data_parallel_size" m.dataParallelSize
  require (1 ≤ m.localNumExperts ∧ m.globalNumExperts = epSize * m.localNumExperts)
    .unevenOrEmptyEpPartitionNotSupported

/-- `old_local` and `seen_slots` while the entries of the map are read. -/
structure OldSlots where
  oldLocal : List ℕ
  seenSlots : List ℕ

/-- One entry of the expert map. -/
def readSlot (localCount : ℕ) (slots : OldSlots) (entry : ℤ × ℕ) : Except RemapError OldSlots :=
  if entry.1 < 0 then .ok slots
  else if localCount ≤ entry.1.toNat ∨ entry.1.toNat ∈ slots.seenSlots then
    .error .invalidLocalExpertMap
  else .ok ⟨slots.oldLocal.set entry.1.toNat entry.2, entry.1.toNat :: slots.seenSlots⟩

/-- The experts in the local slots, from the expert map. -/
def oldLocalIds (localCount : ℕ) (entries : List ℤ) : Except RemapError (List ℕ) := do
  let slots ← entries.zipIdx.foldlM (readSlot localCount) ⟨List.replicate localCount 0, []⟩
  require (slots.seenSlots.length = localCount) .incompleteLocalExpertMap
  return slots.oldLocal

/-- The experts that the plan gives a rank, in the order of their ids. -/
def newLocalIds (rankMap : OrderedDict String String) (epSize epRank layerId expertCount : ℕ) :
    Except RemapError (List ℕ) :=
  (List.range expertCount).foldlM (fun newLocal expertId => do
    let rank ← targetOf rankMap epSize layerId expertId
    return if rank = epRank then newLocal ++ [expertId] else newLocal) []

/-- `_Layer`; `position` is where the module stands in the model. -/
structure Layer (T : Type) where
  name : String
  index : ℕ
  position : ℕ
  module : FusedMoE T
  expertMap : ExpertMap
  oldLocalIds : List ℕ
  newLocalIds : List ℕ

section Layers

variable {T O : Type}

/-- The turn of the loop over the modules for a fused MoE module. -/
def layerOf (epSize epRank : ℕ) (plan : RemapPlan) (name : String) (position : ℕ)
    (m : FusedMoE T) : Except RemapError (Layer T) :=
  match layerIdOf name with
  | none => .error (.moeLayerIdUnavailable name)
  | some layerId => do
    checkLayout epSize epRank plan m
    match m.expertMap with
    | none => .error .expertMapUnavailable
    | some expertMap => do
      require (expertMap.entries.length = m.globalNumExperts) .expertMapUnavailable
      let oldLocal ← oldLocalIds m.localNumExperts expertMap.entries
      let newLocal ← newLocalIds plan.expertToTargetRank epSize epRank layerId m.globalNumExperts
      require (newLocal.length = m.localNumExperts) (.localExpertCountChange name)
      require (m.weights.length = 2 ∧ ∀ weight ∈ m.weights,
        weight.rows.length = m.localNumExperts ∧ weight.contiguous = true)
        .unsupportedExpertWeightLayout
      return ⟨name, layerId, position, m, expertMap, oldLocal, newLocal⟩

/-- The fused MoE modules of a model, with their names and positions. -/
def fusedModules (model : Model T O) : List (String × ℕ × FusedMoE T) :=
  model.zipIdx.filterMap fun ((name, m), position) =>
    match m with
    | .fusedMoE layer => some (name, position, layer)
    | .other _ => none

/-- `all_keys`. -/
def layerKeys (layers : List (Layer T)) : List String :=
  layers.flatMap fun layer =>
    (List.range layer.module.globalNumExperts).map (expertKey layer.index)

/-- The checks on all layers together. -/
def checkLayers (plan : RemapPlan) (layers : List (Layer T)) : Except RemapError (List (Layer T)) := do
  require (layers ≠ []) .noFusedMoeLayers
  require (∀ key, key ∈ plan.expertToTargetRank.keys → key ∈ layerKeys layers)
    .unexpectedTargetExperts
  let sorted := layers.insertionSort fun a b => a.index ≤ b.index
  require ((sorted.map Layer.index).Nodup) .duplicateMoeLayerIds
  let layout := fun layer : Layer T =>
    (layer.module.weights.map ExpertWeight.shape, layer.module.weights.map ExpertWeight.dtype)
  require (∀ layer ∈ sorted, some (layout layer) = sorted.head?.map layout)
    .mixedExpertWeightLayoutNotSupported
  return sorted

/-- `_layers_for_plan` on one rank. -/
def layersForPlan (enabled : Bool) (epSize epRank : ℕ) (model : Option (Model T O))
    (plan : RemapPlan) : Except RemapError (List (Layer T)) := do
  checkPlan enabled model.isSome epSize plan
  let layers ← (fusedModules (model.getD [])).mapM fun (name, position, m) =>
    layerOf epSize epRank plan name position m
  checkLayers plan layers

end Layers

end ExpertRemap
end SpotServe
