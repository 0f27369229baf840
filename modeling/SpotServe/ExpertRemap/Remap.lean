import SpotServe.ExpertRemap.Layers
import SpotServe.Library.Writes

/-!
# Moving the experts

`remap_expert_weights` (`sllm/vllm_expert_remap.py`) on all ranks of a group.  The ranks run the
same code in step, with collective operations between them, so that the run is a function of the
models of all ranks.  Ranks that do not agree in a collective are an error of their own.

`rearrange_expert_weights_inplace`, which carries the rows between the ranks, belongs to the
inference engine and is a parameter here, and so is the digest by which the rows are compared before
and after.  `copy_` raises the version counter of an expert map by `bump`.
-/

namespace SpotServe
namespace ExpertRemap

open Py Runs ExpertPlacement Writes
open SparseA2A (ExpertMap everyRank)

/-- `physical_host_identity()`, as far as the remap reads it. -/
structure HostIdentity where
  physicalHostId : String
  physicalHostIdentitySource : String
  failureDomainId : String
  failureDomainIdentitySource : String

/-- Rows by layer, tensor and slot. -/
abbrev Weights (T : Type) := List (List (List T))

/-- `rearrange_expert_weights_inplace` on all ranks: each one gives the old and the new table of
experts by global slot, and its own rows. -/
abbrev Rearrange (W : ℕ) (T : Type) :=
  (Fin W → List (List ℕ)) → (Fin W → List (List ℕ)) → (Fin W → Weights T) → Fin W → Weights T

section Tables

variable {T : Type} {W : ℕ}

/-- `[layer.weights for layer in layers]`. -/
def layerWeights (layers : List (Layer T)) : Weights T :=
  layers.map fun layer => layer.module.weights.map ExpertWeight.rows

/-- `old_indices` on a rank: for each of its layers the experts by slot, rank after rank. -/
def oldIndices (layers : Fin W → List (Layer T)) (rank : Fin W) : List (List ℕ) :=
  (List.range (layers rank).length).map fun i =>
    (List.finRange W).flatMap fun r => (((layers r)[i]?).map Layer.oldLocalIds).getD []

/-- `new_indices` on a rank. -/
def newIndices (W : ℕ) (plan : RemapPlan) (layers : List (Layer T)) : List (List ℕ) :=
  layers.map fun layer =>
    (List.finRange W).flatMap fun rank : Fin W =>
      (List.range layer.module.globalNumExperts).filter fun expertId =>
        targetOf plan.expertToTargetRank W layer.index expertId = .ok (rank : ℕ)

/-- The shape of the tensor that a rank gives to `all_gather`. -/
def gatherShape (layers : List (Layer T)) : List ℕ :=
  layers.map fun layer => layer.oldLocalIds.length

/-- `sorted(row) == list(range(layer.module.global_num_experts))` for every layer. -/
def coversExperts (layers : List (Layer T)) (rows : List (List ℕ)) : Prop :=
  ∀ entry ∈ rows.zip layers,
    entry.1.insertionSort (· ≤ ·) = List.range entry.2.module.globalNumExperts

instance (layers : List (Layer T)) (rows : List (List ℕ)) : Decidable (coversExperts layers rows) :=
  inferInstanceAs (Decidable (∀ entry ∈ rows.zip layers,
    entry.1.insertionSort (· ≤ ·) = List.range entry.2.module.globalNumExperts))

/-- `_cross_node_movement`: the experts that a rank gets from another host. -/
def crossNodeMovement (layers : List (Layer T)) (rows : List (List ℕ)) (hostIds : List String)
    (localRank : ℕ) : ℕ :=
  if hostIds = [] ∨ "" ∈ hostIds then 0
  else ((layers.zip rows).map fun (layer, row) =>
    layer.newLocalIds.countP fun expertId =>
      hostIds[row.idxOf expertId / layer.oldLocalIds.length]? ≠ hostIds[localRank]?).sum

/-- Whether the hosts of the ranks are known and differ. -/
def distinctHosts (ids sources : List String) : Prop :=
  "" ∉ ids ∧ 2 ≤ ids.dedup.length ∧ ∀ source ∈ sources, source = "ray_node_resource"

instance (ids sources : List String) : Decidable (distinctHosts ids sources) :=
  inferInstanceAs (Decidable ("" ∉ ids ∧ 2 ≤ ids.dedup.length ∧
    ∀ source ∈ sources, source = "ray_node_resource"))

end Tables

/-! ## Digests -/

section Digests

variable {T D : Type} {W : ℕ}

/-- The rows of a slot, one for each tensor. -/
def slotRows (tensors : List (List T)) (slot : ℕ) : List T :=
  tensors.filterMap (·[slot]?)

/-- `_weight_digests`: the digest of each local expert, by its key. -/
def weightDigests (digest : List T → D) (layers : List (Layer T)) (ids : Layer T → List ℕ)
    (weights : Weights T) : OrderedDict String D :=
  ((layers.zip weights).flatMap fun (layer, tensors) =>
    (ids layer).zipIdx.map fun (expertId, slot) =>
      (expertKey layer.index expertId, digest (slotRows tensors slot))).foldl
    (fun digests entry => digests.set entry.1 entry.2) .empty

/-- `_gather_digests`. -/
def gatherDigests (locals : Fin W → OrderedDict String D) :
    Except RemapError (OrderedDict String D) :=
  ((List.finRange W).flatMap fun r => (locals r).entries).foldlM
    (fun merged entry =>
      if entry.1 ∈ merged.keys then .error (.duplicateResidentExpert entry.1)
      else .ok (merged.set entry.1 entry.2)) .empty

/-- Equality of dictionaries, whatever the order of their keys. -/
def sameEntries (a b : OrderedDict String D) : Prop :=
  a.entries.length = b.entries.length ∧ ∀ entry ∈ a.entries, b.get? entry.1 = some entry.2

instance [DecidableEq D] (a b : OrderedDict String D) : Decidable (sameEntries a b) :=
  inferInstanceAs (Decidable (a.entries.length = b.entries.length ∧
    ∀ entry ∈ a.entries, b.get? entry.1 = some entry.2))

end Digests

/-! ## The run -/

section Remap

variable {T O D : Type} {W : ℕ}

/-- The rows after the transfer, which takes place unless nothing moves. -/
def transfer (rearrange : Rearrange W T) (old new : Fin W → List (List ℕ))
    (weights : Fin W → Weights T) : Except RemapError (Fin W → Weights T) :=
  if ∀ r, old r = new r then .ok weights
  else if ∀ r, old r ≠ new r then .ok (rearrange old new weights)
  else .error .collectiveMismatch

/-- The expert map after the remap, copied into the tensor that is there. -/
def updatedMap (bump : ℕ) (layer : Layer T) : ExpertMap where
  dataPtr := layer.expertMap.dataPtr
  version := layer.expertMap.version + bump
  entries := writeAll (layer.newLocalIds.zipIdx.map fun (expertId, slot) => (expertId, (slot : ℤ)))
    (List.replicate layer.expertMap.entries.length (-1))

/-- The module of a layer after the remap. -/
def updatedModule (bump : ℕ) (layer : Layer T) (tensors : List (List T)) : FusedMoE T :=
  { layer.module with
    expertMap := some (updatedMap bump layer)
    weights := List.zipWith (fun weight rows => { weight with rows := rows }) layer.module.weights
      tensors }

/-- The model after the remap. -/
def updatedModel (bump : ℕ) (model : Model T O) (layers : List (Layer T)) (weights : Weights T) :
    Model T O :=
  writeAll ((layers.zip weights).map fun (layer, tensors) =>
    (layer.position, (layer.name, .fusedMoE (updatedModule bump layer tensors)))) model

/-- The requirements on hosts and failure domains, from what the ranks report. -/
def checkHosts (plan : RemapPlan) (hosts : Fin W → HostIdentity) : Except RemapError Unit := do
  let all := (List.finRange W).map hosts
  require (plan.requireCrossNode = true →
    distinctHosts (all.map HostIdentity.physicalHostId)
      (all.map HostIdentity.physicalHostIdentitySource)) .crossNodeRequiresDistinctPhysicalHostIds
  require (plan.requireCrossFailureDomain = true →
    distinctHosts (all.map HostIdentity.failureDomainId)
      (all.map HostIdentity.failureDomainIdentitySource))
    .crossFailureDomainRequiresDistinctFailureDomainIds

/-- The requirements that the plan moves experts across hosts or failure domains. -/
def checkMovement (plan : RemapPlan) (hosts : Fin W → HostIdentity)
    (layers : Fin W → List (Layer T)) : Except RemapError Unit := do
  let all := (List.finRange W).map hosts
  let moved := fun ids => ((List.finRange W).map fun r : Fin W =>
    crossNodeMovement (layers r) (oldIndices layers r) ids r).sum
  require (plan.requireCrossNode = true → moved (all.map HostIdentity.physicalHostId) ≠ 0)
    .planDoesNotMoveExpertsAcrossPhysicalHosts
  require (plan.requireCrossFailureDomain = true → moved (all.map HostIdentity.failureDomainId) ≠ 0)
    .planDoesNotMoveExpertsAcrossFailureDomains

/-- `remap_expert_weights` on all ranks. -/
def remapExpertWeights [DecidableEq D] (rearrange : Rearrange W T) (digest : List T → D) (bump : ℕ)
    (enabled : Fin W → Bool) (hosts : Fin W → HostIdentity) (models : Fin W → Model T O)
    (plan : RemapPlan) : Except RemapError (Fin W → Model T O) := do
  let layers ← everyRank fun r => layersForPlan (enabled r) W r (some (models r)) plan
  require (∀ r r', gatherShape (layers r) = gatherShape (layers r')) .collectiveMismatch
  checkHosts plan hosts
  require (∀ r, coversExperts (layers r) (oldIndices layers r)) .currentExpertCoverageInvalid
  checkMovement plan hosts layers
  let weights := fun r => layerWeights (layers r)
  let before ← gatherDigests fun r => weightDigests digest (layers r) Layer.oldLocalIds (weights r)
  require (before.entries.length = plan.expertToTargetRank.entries.length)
    .currentWeightCoverageInvalid
  let moved ← transfer rearrange (oldIndices layers) (fun r => newIndices W plan (layers r)) weights
  let after ← gatherDigests fun r => weightDigests digest (layers r) Layer.newLocalIds (moved r)
  require (sameEntries before after) .expertWeightDigestMismatchAfterTransfer
  return fun r => updatedModel bump (models r) (layers r) (moved r)

end Remap

end ExpertRemap
end SpotServe
