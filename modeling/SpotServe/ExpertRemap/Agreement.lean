import SpotServe.ExpertRemap.Acceptance
import SpotServe.ExpertRemap.Remap
import SpotServe.SparseA2A.DispatchPlan

/-!
# The ranks derive the same tables

Each rank works out for itself which layers it has, what the old and the new table of experts are
and whether anything moves.  The ranks see different models and only share the plan; that they
agree is a consequence of all of them accepting it.

* `index_eq`, `numExperts_eq`: the `i`-th layer is the same layer, with as many experts, on all
  ranks.
* `newIndices_eq`: the rows of the new table are the lists of the ranks, one after the other.
-/

namespace SpotServe
namespace ExpertRemap

open Py Runs ExpertPlacement

variable {T O : Type} {W : ℕ} {plan : RemapPlan} {models : Fin W → Model T O}
  {layers : Fin W → List (Layer T)}

theorem mem_layerKeys {layers : List (Layer T)} {l e : ℕ} :
    expertKey l e ∈ layerKeys layers ↔
      ∃ layer ∈ layers, layer.index = l ∧ e < layer.module.globalNumExperts := by
  unfold layerKeys
  rw [List.mem_flatMap]
  constructor
  · rintro ⟨layer, hlayer, hmem⟩
    obtain ⟨e', he', heq⟩ := List.mem_map.mp hmem
    obtain ⟨rfl, rfl⟩ := expertKey_inj.mp heq
    exact ⟨layer, hlayer, rfl, List.mem_range.mp he'⟩
  · rintro ⟨layer, hlayer, rfl, he⟩
    exact ⟨layer, hlayer, List.mem_map.mpr ⟨e, List.mem_range.mpr he, rfl⟩⟩

/-- The plan names every expert of a layer that is ready. -/
theorem LayerReady.target {epSize epRank : ℕ} {layer : Layer T}
    (h : LayerReady epSize epRank plan layer) {e : ℕ} (he : e < layer.module.globalNumExperts) :
    ∃ rank, targetOf plan.expertToTargetRank epSize layer.index e = .ok rank :=
  (newLocalIds_spec h.new).1 e he

theorem LayerReady.mem_keys {epSize epRank : ℕ} {layer : Layer T}
    (h : LayerReady epSize epRank plan layer) {e : ℕ} (he : e < layer.module.globalNumExperts) :
    expertKey layer.index e ∈ plan.expertToTargetRank.keys := by
  obtain ⟨rank, hrank⟩ := h.target he
  unfold targetOf at hrank
  split at hrank
  · exact absurd hrank (by simp)
  next value hvalue => exact (OrderedDict.mem_keys_iff _).mpr ⟨value, hvalue⟩

/-- The keys of the plan are the experts of the rank's layers. -/
theorem Accepted.mem_keys_iff {epSize epRank : ℕ} {model : Model T O} {layers : List (Layer T)}
    (h : Accepted epSize epRank plan model layers) {l e : ℕ} :
    expertKey l e ∈ plan.expertToTargetRank.keys ↔
      ∃ layer ∈ layers, layer.index = l ∧ e < layer.module.globalNumExperts := by
  constructor
  · exact fun hkey => mem_layerKeys.mp (h.keys _ hkey)
  · rintro ⟨layer, hlayer, rfl, he⟩
    exact (h.ready layer hlayer).mem_keys he

theorem LayerReady.numExperts_pos {epSize epRank : ℕ} {layer : Layer T}
    (h : LayerReady epSize epRank plan layer) (hsize : 2 ≤ epSize) :
    0 < layer.module.globalNumExperts := by
  rw [h.even]
  exact Nat.mul_pos (by omega) h.local_pos

section Group

variable (haccepted : ∀ r : Fin W, Accepted W r plan (models r) (layers r))
include haccepted

theorem mem_index_iff (r : Fin W) (l : ℕ) :
    l ∈ (layers r).map Layer.index ↔ expertKey l 0 ∈ plan.expertToTargetRank.keys := by
  rw [(haccepted r).mem_keys_iff, List.mem_map]
  constructor
  · rintro ⟨layer, hlayer, rfl⟩
    exact ⟨layer, hlayer, rfl,
      ((haccepted r).ready layer hlayer).numExperts_pos (haccepted r).two_ranks⟩
  · rintro ⟨layer, hlayer, rfl, -⟩
    exact ⟨layer, hlayer, rfl⟩

/-- All ranks have the same layers, in the same order. -/
theorem index_eq (r r' : Fin W) : (layers r).map Layer.index = (layers r').map Layer.index := by
  have hnodup : ∀ r, ((layers r).map Layer.index).Nodup :=
    fun r => (haccepted r).sorted.imp fun h => Nat.ne_of_lt h
  have hperm : ((layers r).map Layer.index).Perm ((layers r').map Layer.index) :=
    (List.perm_ext_iff_of_nodup (hnodup r) (hnodup r')).mpr fun l => by
      rw [mem_index_iff haccepted r, mem_index_iff haccepted r']
  exact hperm.eq_of_pairwise (fun a b _ _ hab hba => absurd hab (Nat.not_lt.mpr hba.le))
    (haccepted r).sorted (haccepted r').sorted

theorem length_eq (r r' : Fin W) : (layers r).length = (layers r').length := by
  have h := congrArg List.length (index_eq haccepted r r')
  rwa [List.length_map, List.length_map] at h

/-- A layer is the same on all ranks, and has as many experts. -/
theorem numExperts_eq {r r' : Fin W} {layer layer' : Layer T} (hlayer : layer ∈ layers r)
    (hlayer' : layer' ∈ layers r') (hindex : layer.index = layer'.index) :
    layer.module.globalNumExperts = layer'.module.globalNumExperts := by
  have hle : ∀ {r r' : Fin W} {layer layer' : Layer T}, layer ∈ layers r → layer' ∈ layers r' →
      layer.index = layer'.index →
      layer.module.globalNumExperts ≤ layer'.module.globalNumExperts := by
    intro r r' layer layer' hlayer hlayer' hindex
    by_contra hlt
    -- An expert that only one rank knows would be a key that the other rejects.
    have hkey := ((haccepted r).ready layer hlayer).mem_keys
      (show layer'.module.globalNumExperts < layer.module.globalNumExperts by omega)
    obtain ⟨other, hother, hoi, hoe⟩ := (haccepted r').mem_keys_iff.mp hkey
    have hsame : other = layer' :=
      (haccepted r').eq_of_index_eq hother hlayer' (hoi.trans hindex)
    rw [hsame] at hoe
    omega
  exact Nat.le_antisymm (hle hlayer hlayer' hindex) (hle hlayer' hlayer hindex.symm)

/-! ## The rows of the tables -/

omit haccepted in
theorem LayerReady.length_old {epSize epRank : ℕ} {layer : Layer T}
    (h : LayerReady epSize epRank plan layer) :
    layer.oldLocalIds.length = layer.module.localNumExperts :=
  (oldLocalIds_spec h.old).1

/-- The `i`-th layer of every rank. -/
def IsRow (layers : Fin W → List (Layer T)) (i : ℕ) (row : Fin W → Layer T) : Prop :=
  ∀ r, (layers r)[i]? = some (row r)

omit haccepted in
theorem IsRow.mem {i : ℕ} {row : Fin W → Layer T} (h : IsRow layers i row) (r : Fin W) :
    row r ∈ layers r :=
  List.mem_of_getElem? (h r)

theorem IsRow.ready {i : ℕ} {row : Fin W → Layer T} (h : IsRow layers i row) (r : Fin W) :
    LayerReady W r plan (row r) :=
  (haccepted r).ready _ (h.mem r)

theorem exists_row_of_lt {r : Fin W} {i : ℕ} (hi : i < (layers r).length) :
    ∃ row, IsRow layers i row := by
  have hlt : ∀ r', i < (layers r').length := fun r' => by
    rw [length_eq haccepted r' r]
    exact hi
  exact ⟨fun r' => (layers r').get ⟨i, hlt r'⟩, fun r' => List.getElem?_eq_getElem (hlt r')⟩

/-- Every layer of a rank is part of a row. -/
theorem exists_row {r : Fin W} {layer : Layer T} (hlayer : layer ∈ layers r) :
    ∃ i row, IsRow layers i row ∧ row r = layer := by
  obtain ⟨i, hi, rfl⟩ := List.mem_iff_getElem.mp hlayer
  obtain ⟨row, hrow⟩ := exists_row_of_lt haccepted hi
  have hget := hrow r
  rw [List.getElem?_eq_getElem hi, Option.some_inj] at hget
  exact ⟨i, row, hrow, hget.symm⟩

theorem IsRow.index_eq {i : ℕ} {row : Fin W → Layer T} (h : IsRow layers i row) (r r' : Fin W) :
    (row r).index = (row r').index := by
  have heq := congrArg (·[i]?) (ExpertRemap.index_eq haccepted r r')
  simp only [List.getElem?_map, h r, h r', Option.map_some, Option.some_inj] at heq
  exact heq

theorem IsRow.numExperts_eq {i : ℕ} {row : Fin W → Layer T} (h : IsRow layers i row)
    (r r' : Fin W) :
    (row r).module.globalNumExperts = (row r').module.globalNumExperts :=
  ExpertRemap.numExperts_eq haccepted (h.mem r) (h.mem r') (h.index_eq haccepted r r')

theorem IsRow.localNumExperts_eq {i : ℕ} {row : Fin W → Layer T} (h : IsRow layers i row)
    (r r' : Fin W) :
    (row r).module.localNumExperts = (row r').module.localNumExperts := by
  have heq := h.numExperts_eq haccepted r r'
  rw [(h.ready haccepted r).even, (h.ready haccepted r').even] at heq
  exact Nat.eq_of_mul_eq_mul_left (by have := (haccepted r).two_ranks; omega) heq

omit haccepted in
theorem IsRow.oldIndices_get {i : ℕ} {row : Fin W → Layer T} (h : IsRow layers i row) (r : Fin W) :
    (oldIndices layers r)[i]? =
      some ((List.finRange W).flatMap fun r' => (row r').oldLocalIds) := by
  have hi : i < (layers r).length := (List.getElem?_eq_some_iff.mp (h r)).1
  rw [oldIndices, List.getElem?_map, List.getElem?_range hi, Option.map_some]
  congr 1
  refine List.flatMap_congr fun r' _ => ?_
  rw [h r', Option.map_some, Option.getD_some]

/-- **The new table** lists the new experts of the ranks, one rank after the other. -/
theorem IsRow.newIndices_get {i : ℕ} {row : Fin W → Layer T} (h : IsRow layers i row) (r : Fin W) :
    (newIndices W plan (layers r))[i]? =
      some ((List.finRange W).flatMap fun r' => (row r').newLocalIds) := by
  rw [newIndices, List.getElem?_map, h r, Option.map_some]
  congr 1
  refine List.flatMap_congr fun r' _ => ?_
  rw [(newLocalIds_spec (h.ready haccepted r').new).2, h.numExperts_eq haccepted r r',
    h.index_eq haccepted r r']

theorem oldIndices_eq (r r' : Fin W) : oldIndices layers r = oldIndices layers r' := by
  rw [oldIndices, oldIndices, length_eq haccepted r r']

theorem newIndices_eq (r r' : Fin W) :
    newIndices W plan (layers r) = newIndices W plan (layers r') := by
  refine List.ext_getElem? fun i => ?_
  by_cases hi : i < (layers r).length
  · obtain ⟨row, hrow⟩ := exists_row_of_lt haccepted hi
    rw [hrow.newIndices_get haccepted r, hrow.newIndices_get haccepted r']
  · have hi' : ¬ i < (layers r').length := by rwa [length_eq haccepted r' r]
    rw [List.getElem?_eq_none (by simpa [newIndices] using hi),
      List.getElem?_eq_none (by simpa [newIndices] using hi')]

end Group

end ExpertRemap
end SpotServe
