import SpotServe.ExpertRemap.Agreement

/-!
# A remap puts every expert where the plan says

The weights of a layer are spread over the slots of all ranks; the expert maps say which slot holds
which expert.  After a remap the maps describe the plan, and every slot they name holds the rows
that its expert had before, wherever these were.

* `Rearranges`: what the engine documents of `rearrange_expert_weights_inplace`.
* `LayerCorrect`: what a remap does to one layer.
* `remap_correct`: every layer of the plan is moved correctly, everything else stays.
-/

namespace SpotServe
namespace ExpertRemap

open Py Runs ExpertPlacement Writes Segments
open SparseA2A (ExpertMap everyRank of_everyRank_ok)

variable {T O D : Type} {W : ℕ}

/-! ## What is where -/

/-- The row of a slot in a tensor of a layer. -/
def rowAt (weights : Weights T) (i j s : ℕ) : Option T :=
  ((weights[i]?).bind (·[j]?)).bind (·[s]?)

/-- The slot that the expert map of a module gives an expert, `-1` when it is elsewhere. -/
def slotOf (m : FusedMoE T) (e : ℕ) : ℤ := (m.expertMap.bind (·.entries[e]?)).getD (-1)

/-- What a slot of a module holds, tensor by tensor. -/
def rowsAt (m : FusedMoE T) (s : ℕ) : List (Option T) := m.weights.map (·.rows[s]?)

/-- The weights of an expert of a layer, wherever they are. -/
def expertWeights (group : Fin W → FusedMoE T) (e : ℕ) : List (Option T) :=
  ((List.finRange W).findSome? fun r =>
    if 0 ≤ slotOf (group r) e then some (rowsAt (group r) (slotOf (group r) e).toNat)
    else none).getD []

/-- The fused MoE module of a layer. -/
def moeLayer (model : Model T O) (l : ℕ) : Option (FusedMoE T) :=
  model.findSome? fun (name, m) =>
    match m with
    | .fusedMoE layer => if layerIdOf name = some l then some layer else none
    | .other _ => none

/-- All ranks have `count` layers of `tensorCount` tensors of `n` rows. -/
def UniformWeights (count tensorCount n : ℕ) (weights : Fin W → Weights T) : Prop :=
  ∀ r, (weights r).length = count ∧ ∀ tensors ∈ weights r, tensors.length = tensorCount ∧
    ∀ rows ∈ tensors, rows.length = n

/-- The documented behaviour of `rearrange_expert_weights_inplace`.  Physical slot `s` of rank `r`
has the number `r * n + s`; the tables say which expert is in which physical slot before and after.
The tensors keep their shapes, and a slot gets the rows that its new expert had. -/
structure Rearranges (rearrange : Rearrange W T) : Prop where
  shape : ∀ (old new : List (List ℕ)) (weights : Fin W → Weights T) (count tensorCount n : ℕ),
    UniformWeights count tensorCount n weights →
    UniformWeights count tensorCount n (rearrange (fun _ => old) (fun _ => new) weights)
  moved : ∀ (old new : List (List ℕ)) (weights : Fin W → Weights T) (count tensorCount n : ℕ),
    UniformWeights count tensorCount n weights → (∀ row ∈ old, row.Nodup) →
    ∀ (i j s s' : ℕ) (r r' : Fin W) (e : ℕ), s < n → s' < n →
      (old[i]?).bind (·[r' * n + s']?) = some e → (new[i]?).bind (·[r * n + s]?) = some e →
      rowAt (rearrange (fun _ => old) (fun _ => new) weights r) i j s = rowAt (weights r') i j s'

/-- The number of a physical slot determines the rank and the local slot. -/
theorem slot_eq_of_number_eq {n r r' s s' : ℕ} (hs : s < n) (hs' : s' < n)
    (h : r * n + s = r' * n + s') : r = r' ∧ s = s' := by
  have hpos : 0 < n := by omega
  have hdiv := congrArg (· / n) h
  have hmod := congrArg (· % n) h
  simp only [Nat.mul_comm r n, Nat.mul_comm r' n, Nat.mul_add_div hpos, Nat.mul_add_mod,
    Nat.div_eq_of_lt hs, Nat.div_eq_of_lt hs', Nat.mod_eq_of_lt hs, Nat.mod_eq_of_lt hs',
    Nat.add_zero] at hdiv hmod
  exact ⟨hdiv, hmod⟩

/-- What a remap does to one layer. -/
structure LayerCorrect (plan : RemapPlan) (l : ℕ) (before after : Fin W → FusedMoE T) : Prop where
  /-- Nothing but the expert map and the weights changes. -/
  frame : ∀ r, ∃ map weights, after r = { before r with expertMap := some map, weights := weights }
  /-- Every expert is resident on exactly one rank. -/
  resident : ∀ r e, e < (before r).globalNumExperts → ∃! r' : Fin W, 0 ≤ slotOf (after r') e
  /-- That rank is the one the plan names. -/
  target : ∀ r e, e < (before r).globalNumExperts →
    (0 ≤ slotOf (after r) e ↔ targetOf plan.expertToTargetRank W l e = .ok (r : ℕ))
  /-- The map names a slot or says that the expert is elsewhere. -/
  entry : ∀ r e, slotOf (after r) e = -1 ∨
    ∃ s < (before r).localNumExperts, slotOf (after r) e = ((s : ℕ) : ℤ)
  /-- A slot that the map names holds the weights that the expert had before. -/
  holds : ∀ r e (s : ℕ), slotOf (after r) e = s → rowsAt (after r) s = expertWeights before e
  /-- Every slot is named by one expert. -/
  slots : ∀ r s, s < (before r).localNumExperts →
    ∃! e, e < (before r).globalNumExperts ∧ slotOf (after r) e = (s : ℤ)
  /-- Where no two experts have the same weights, the map names a slot exactly when it holds the
  expert's weights. -/
  exact : ∀ r e s, e < (before r).globalNumExperts → s < (before r).localNumExperts →
    (∀ e' < (before r).globalNumExperts, expertWeights before e' = expertWeights before e → e' = e) →
    (slotOf (after r) e = (s : ℤ) ↔ rowsAt (after r) s = expertWeights before e)

/-- The weights of an expert that one rank holds. -/
theorem expertWeights_eq {group : Fin W → FusedMoE T} {e s : ℕ} {r : Fin W}
    (hslot : slotOf (group r) e = s) (hunique : ∀ r', 0 ≤ slotOf (group r') e → r' = r) :
    expertWeights group e = rowsAt (group r) s := by
  have hsome : ∀ r', (if 0 ≤ slotOf (group r') e then
      some (rowsAt (group r') (slotOf (group r') e).toNat) else none) =
      if r' = r then some (rowsAt (group r) s) else none := by
    intro r'
    by_cases hr : r' = r
    · subst hr
      rw [if_pos rfl, hslot, if_pos (Int.natCast_nonneg s), Int.toNat_natCast]
    · rw [if_neg hr]
      exact if_neg fun hpos => hr (hunique r' hpos)
  unfold expertWeights
  simp only [hsome]
  cases hfind : (List.finRange W).findSome? fun r' =>
      if r' = r then some (rowsAt (group r) s) else none with
  | none =>
    have := List.findSome?_eq_none_iff.mp hfind r (List.mem_finRange r)
    exact absurd this (by simp)
  | some rows =>
    obtain ⟨r', -, hrows⟩ := List.exists_of_findSome?_eq_some hfind
    split_ifs at hrows
    rw [Option.getD_some]
    exact (Option.some.inj hrows).symm

/-! ## The new maps -/

/-- The entries of a new map: the slot of each new expert, `-1` for the others. -/
theorem entries_updatedMap (bump : ℕ) {layer : Layer T} (hnodup : layer.newLocalIds.Nodup) {e : ℕ}
    (he : e < layer.expertMap.entries.length) :
    (∀ s : ℕ, layer.newLocalIds[s]? = some e →
        (updatedMap bump layer).entries[e]? = some (s : ℤ)) ∧
      (e ∉ layer.newLocalIds → (updatedMap bump layer).entries[e]? = some (-1)) := by
  have hfst : ∀ f : ℕ × ℕ → ℕ × ℤ, (∀ row, (f row).1 = row.1) →
      (layer.newLocalIds.zipIdx.map f).map Prod.fst = layer.newLocalIds := by
    intro f hf
    have hcomp : Prod.fst ∘ f = Prod.fst := funext hf
    rw [List.map_map, hcomp]
    exact List.zipIdx_map_fst 0 _
  constructor
  · intro s hs
    refine getElem?_writeAll (by rw [hfst _ fun _ => rfl]; exact hnodup) ?_ (by simpa using he)
    exact List.mem_map.mpr ⟨(e, s), List.mem_zipIdx_iff_getElem?.mpr hs, rfl⟩
  · intro hout
    rw [updatedMap, getElem?_writeAll_of_notMem (by rw [hfst _ fun _ => rfl]; exact hout),
      List.getElem?_replicate_of_lt he]

theorem slotOf_updatedModule (bump : ℕ) {layer : Layer T} (hnodup : layer.newLocalIds.Nodup)
    (hlt : ∀ e ∈ layer.newLocalIds, e < layer.expertMap.entries.length) (tensors : List (List T))
    (e : ℕ) :
    (∀ s : ℕ, slotOf (updatedModule bump layer tensors) e = s ↔
        layer.newLocalIds[s]? = some e) ∧
      (e ∉ layer.newLocalIds → slotOf (updatedModule bump layer tensors) e = -1) := by
  have hslot : slotOf (updatedModule bump layer tensors) e =
      ((updatedMap bump layer).entries[e]?).getD (-1) := rfl
  rw [hslot]
  by_cases hmem : e ∈ layer.newLocalIds
  · obtain ⟨s₀, hs₀⟩ := List.mem_iff_getElem?.mp hmem
    rw [(entries_updatedMap bump hnodup (hlt e hmem)).1 s₀ hs₀, Option.getD_some]
    refine ⟨fun s => ?_, fun hout => absurd hmem hout⟩
    rw [Nat.cast_inj]
    constructor
    · rintro rfl
      exact hs₀
    · intro hs
      exact (List.getElem?_inj (List.getElem?_eq_some_iff.mp hs₀).1 hnodup).mp
        (hs₀.trans hs.symm)
  · have hnone : ((updatedMap bump layer).entries[e]?).getD (-1) = -1 := by
      by_cases he : e < layer.expertMap.entries.length
      · rw [(entries_updatedMap bump hnodup he).2 hmem, Option.getD_some]
      · rw [List.getElem?_eq_none (by simpa [updatedMap] using he), Option.getD_none]
    rw [hnone]
    refine ⟨fun s => ⟨fun h => absurd h (by omega), fun hs => ?_⟩, fun _ => rfl⟩
    exact absurd (List.mem_of_getElem? hs) hmem

/-- The rows of a slot after the remap. -/
theorem rowsAt_updatedModule (bump : ℕ) (layer : Layer T) {tensors : List (List T)}
    (hlength : tensors.length = layer.module.weights.length) (s : ℕ) :
    rowsAt (updatedModule bump layer tensors) s = tensors.map (·[s]?) := by
  unfold rowsAt updatedModule
  refine List.ext_getElem? fun j => ?_
  simp only [List.getElem?_map, List.getElem?_zipWith]
  by_cases hj : j < tensors.length
  · have hj' : j < layer.module.weights.length := by omega
    simp [List.getElem?_eq_getElem hj, List.getElem?_eq_getElem hj']
  · simp [List.getElem?_eq_none (not_lt.mp hj)]

/-! ## Before the remap -/

section Group

variable {plan : RemapPlan} {models : Fin W → Model T O} {layers : Fin W → List (Layer T)}
  (haccepted : ∀ r : Fin W, Accepted W r plan (models r) (layers r))
include haccepted

theorem IsRow.slotOf_before {i : ℕ} {row : Fin W → Layer T} (h : IsRow layers i row) (r : Fin W)
    (e s : ℕ) : slotOf (row r).module e = s ↔ (row r).oldLocalIds[s]? = some e := by
  have hready := h.ready haccepted r
  rw [← (oldLocalIds_spec hready.old).2 e s, slotOf, hready.expertMap, Option.bind_some]
  cases (row r).expertMap.entries[e]? with
  | none => simp
  | some v => simp

theorem IsRow.uniform {i : ℕ} {row : Fin W → Layer T} (h : IsRow layers i row) (r₀ r : Fin W) :
    (row r).oldLocalIds.length = (row r₀).module.localNumExperts ∧
      (row r).newLocalIds.length = (row r₀).module.localNumExperts := by
  have hready := h.ready haccepted r
  rw [h.localNumExperts_eq haccepted r₀ r]
  exact ⟨hready.length_old, hready.new_length⟩

omit haccepted in
/-- The experts of a row, rank after rank, are all experts of the layer. -/
theorem IsRow.covered (hcover : ∀ r, coversExperts (layers r) (oldIndices layers r)) {i : ℕ}
    {row : Fin W → Layer T} (h : IsRow layers i row) (r : Fin W) :
    ((List.finRange W).flatMap fun r' => (row r').oldLocalIds).Perm
      (List.range (row r).module.globalNumExperts) := by
  have hmem : ((List.finRange W).flatMap (fun r' => (row r').oldLocalIds), row r) ∈
      (oldIndices layers r).zip (layers r) :=
    List.mem_iff_getElem?.mpr ⟨i, List.getElem?_zip_eq_some.mpr ⟨h.oldIndices_get r, h r⟩⟩
  have hsorted := hcover r _ hmem
  rw [← hsorted]
  exact (List.perm_insertionSort _ _).symm

omit haccepted in
/-- Every expert is in a slot of some rank. -/
theorem IsRow.exists_holder (hcover : ∀ r, coversExperts (layers r) (oldIndices layers r)) {i : ℕ}
    {row : Fin W → Layer T} (h : IsRow layers i row) (r₀ : Fin W) {e : ℕ}
    (he : e < (row r₀).module.globalNumExperts) :
    ∃ (r : Fin W) (s : ℕ), (row r).oldLocalIds[s]? = some e := by
  have hmem : e ∈ (List.finRange W).flatMap fun r' => (row r').oldLocalIds := by
    rw [(h.covered hcover r₀).mem_iff, List.mem_range]
    exact he
  obtain ⟨r, -, hin⟩ := List.mem_flatMap.mp hmem
  obtain ⟨s, hs⟩ := List.mem_iff_getElem?.mp hin
  exact ⟨r, s, hs⟩

/-- No expert is in two slots. -/
theorem IsRow.holder_unique (hcover : ∀ r, coversExperts (layers r) (oldIndices layers r)) {i : ℕ}
    {row : Fin W → Layer T} (h : IsRow layers i row) {e : ℕ} {r r' : Fin W} {s s' : ℕ}
    (hold : (row r).oldLocalIds[s]? = some e) (hold' : (row r').oldLocalIds[s']? = some e) :
    r = r' ∧ s = s' := by
  have hlength := fun d => (h.uniform haccepted r d).1
  have hs : s < (row r).module.localNumExperts := by
    rw [← hlength r]
    exact (List.getElem?_eq_some_iff.mp hold).1
  have hs' : s' < (row r).module.localNumExperts := by
    rw [← hlength r']
    exact (List.getElem?_eq_some_iff.mp hold').1
  have hnodup := (h.covered hcover r).nodup_iff.mpr List.nodup_range
  have hget := getElem?_flatMap_uniform hlength r hs
  have hget' := getElem?_flatMap_uniform hlength r' hs'
  rw [hold] at hget
  rw [hold'] at hget'
  have hindex := (List.getElem?_inj (List.getElem?_eq_some_iff.mp hget).1 hnodup).mp
    (hget.trans hget'.symm)
  obtain ⟨hr, hs⟩ := slot_eq_of_number_eq hs hs' hindex
  exact ⟨Fin.ext hr, hs⟩

/-! ## The transfer -/

omit haccepted in
theorem IsRow.layerWeights_get {i : ℕ} {row : Fin W → Layer T} (h : IsRow layers i row)
    (r : Fin W) :
    (layerWeights (layers r))[i]? = some ((row r).module.weights.map ExpertWeight.rows) := by
  rw [layerWeights, List.getElem?_map, h r, Option.map_some]

/-- All ranks have as many layers, of two tensors with a row for each slot. -/
theorem uniformWeights_layerWeights {i : ℕ} {row : Fin W → Layer T} (h : IsRow layers i row)
    (r₀ : Fin W) :
    UniformWeights (layers r₀).length 2 (row r₀).module.localNumExperts
      fun r => layerWeights (layers r) := by
  intro r
  refine ⟨?_, fun tensors ht => ?_⟩
  · show (layerWeights (layers r)).length = _
    rw [layerWeights, List.length_map, length_eq haccepted r r₀]
  obtain ⟨layer, hlayer, rfl⟩ := List.mem_map.mp ht
  have hready := (haccepted r).ready layer hlayer
  refine ⟨by rw [List.length_map, hready.weight_count], fun rows hrows => ?_⟩
  obtain ⟨weight, hweight, rfl⟩ := List.mem_map.mp hrows
  rw [hready.rows weight hweight, (haccepted r).uniform layer hlayer (row r) (h.mem r),
    h.localNumExperts_eq haccepted r r₀]

/-- **The transfer** keeps the shapes, and brings every new expert's rows from the slot where they
were. -/
theorem transfer_spec {rearrange : Rearrange W T} (hrearrange : Rearranges rearrange)
    (hcover : ∀ r, coversExperts (layers r) (oldIndices layers r)) {moved : Fin W → Weights T}
    (htransfer : transfer rearrange (oldIndices layers) (fun r => newIndices W plan (layers r))
      (fun r => layerWeights (layers r)) = .ok moved)
    {i : ℕ} {row : Fin W → Layer T} (h : IsRow layers i row) (r₀ : Fin W) :
    UniformWeights (layers r₀).length 2 (row r₀).module.localNumExperts moved ∧
      ∀ {r r' : Fin W} {s s' e : ℕ} (j : ℕ), (row r).newLocalIds[s]? = some e →
        (row r').oldLocalIds[s']? = some e →
        rowAt (moved r) i j s = rowAt (layerWeights (layers r')) i j s' := by
  have huniform := uniformWeights_layerWeights haccepted h r₀
  have hlength := fun d => (h.uniform haccepted r₀ d).1
  have hlength' := fun d => (h.uniform haccepted r₀ d).2
  unfold transfer at htransfer
  split_ifs at htransfer with hsame hdiffer
  · -- Nothing moves: the new experts of a rank are the old ones.
    obtain rfl := Except.ok.inj htransfer
    refine ⟨huniform, fun {r r' s s' e} j hnew hold => ?_⟩
    have hs : s < (row r₀).module.localNumExperts := by
      rw [← hlength' r]
      exact (List.getElem?_eq_some_iff.mp hnew).1
    have hrows := congrArg (·[i]?) (hsame r)
    simp only [h.oldIndices_get r, h.newIndices_get haccepted r, Option.some_inj] at hrows
    have hget := getElem?_flatMap_uniform hlength r hs
    rw [hrows, getElem?_flatMap_uniform hlength' r hs, hnew] at hget
    obtain ⟨rfl, rfl⟩ := h.holder_unique haccepted hcover hget.symm hold
    rfl
  · obtain rfl := Except.ok.inj htransfer
    have hold : oldIndices layers = fun _ => oldIndices layers r₀ :=
      funext fun r => oldIndices_eq haccepted r r₀
    have hnew : (fun r => newIndices W plan (layers r)) = fun _ => newIndices W plan (layers r₀) :=
      funext fun r => newIndices_eq haccepted r r₀
    rw [hold, hnew]
    have hnodup : ∀ experts ∈ oldIndices layers r₀, experts.Nodup := by
      intro experts hexperts
      obtain ⟨k, hk⟩ := List.mem_iff_getElem?.mp hexperts
      have hlt : k < (layers r₀).length := by
        have := (List.getElem?_eq_some_iff.mp hk).1
        simpa [oldIndices] using this
      obtain ⟨row', hrow'⟩ := exists_row_of_lt haccepted hlt
      rw [hrow'.oldIndices_get r₀, Option.some_inj] at hk
      rw [← hk]
      exact (hrow'.covered hcover r₀).nodup_iff.mpr List.nodup_range
    refine ⟨hrearrange.shape _ _ _ _ _ _ huniform, fun {r r' s s' e} j hnew hold => ?_⟩
    have hs : s < (row r₀).module.localNumExperts := by
      rw [← hlength' r]
      exact (List.getElem?_eq_some_iff.mp hnew).1
    have hs' : s' < (row r₀).module.localNumExperts := by
      rw [← hlength r']
      exact (List.getElem?_eq_some_iff.mp hold).1
    refine hrearrange.moved _ _ _ _ _ _ huniform hnodup i j s s' r r' e hs hs' ?_ ?_
    · rw [h.oldIndices_get r₀, Option.bind_some, getElem?_flatMap_uniform hlength r' hs', hold]
    · rw [h.newIndices_get haccepted r₀, Option.bind_some, getElem?_flatMap_uniform hlength' r hs,
        hnew]

/-- The transfer gives every layer of every rank its rows. -/
theorem length_moved {rearrange : Rearrange W T} (hrearrange : Rearranges rearrange)
    (hcover : ∀ r, coversExperts (layers r) (oldIndices layers r)) {moved : Fin W → Weights T}
    (htransfer : transfer rearrange (oldIndices layers) (fun r => newIndices W plan (layers r))
      (fun r => layerWeights (layers r)) = .ok moved) (r : Fin W) :
    (moved r).length = (layers r).length := by
  obtain ⟨layer, hlayer⟩ := List.exists_mem_of_ne_nil _ (haccepted r).nonempty
  obtain ⟨i, row, hrow, -⟩ := exists_row haccepted hlayer
  exact ((transfer_spec haccepted hrearrange hcover htransfer hrow r).1 r).1

omit haccepted in
theorem IsRow.exists_tensors {moved : Fin W → Weights T}
    (hlength : ∀ r, (moved r).length = (layers r).length) {i : ℕ} {row : Fin W → Layer T}
    (h : IsRow layers i row) : ∃ tensors : Fin W → List (List T), ∀ r, (moved r)[i]? = some (tensors r) := by
  have hlt : ∀ r, i < (moved r).length := fun r => by
    rw [hlength r]
    exact (List.getElem?_eq_some_iff.mp (h r)).1
  exact ⟨fun r => (moved r).get ⟨i, hlt r⟩, fun r => List.getElem?_eq_getElem (hlt r)⟩

/-! ## After the remap -/

theorem IsRow.nodup_new {i : ℕ} {row : Fin W → Layer T} (h : IsRow layers i row) (r : Fin W) :
    (row r).newLocalIds.Nodup := by
  rw [(newLocalIds_spec (h.ready haccepted r).new).2]
  exact List.nodup_range.filter _

theorem IsRow.mem_new {i : ℕ} {row : Fin W → Layer T} (h : IsRow layers i row) (r : Fin W)
    {e : ℕ} :
    e ∈ (row r).newLocalIds ↔ e < (row r).module.globalNumExperts ∧
      targetOf plan.expertToTargetRank W (row r).index e = .ok (r : ℕ) := by
  rw [(newLocalIds_spec (h.ready haccepted r).new).2, List.mem_filter, List.mem_range,
    decide_eq_true_iff]

theorem IsRow.slotOf_after (bump : ℕ) {i : ℕ} {row : Fin W → Layer T} (h : IsRow layers i row)
    (r : Fin W) (tensors : List (List T)) (e : ℕ) :
    (∀ s : ℕ, slotOf (updatedModule bump (row r) tensors) e = s ↔
        (row r).newLocalIds[s]? = some e) ∧
      (e ∉ (row r).newLocalIds → slotOf (updatedModule bump (row r) tensors) e = -1) := by
  refine slotOf_updatedModule bump (h.nodup_new haccepted r) (fun e he => ?_) tensors e
  rw [(h.ready haccepted r).map_length]
  exact ((h.mem_new haccepted r).mp he).1

/-- An expert is on a rank after the remap exactly when the plan gives it to the rank. -/
theorem IsRow.nonneg_slotOf_after (bump : ℕ) {i : ℕ} {row : Fin W → Layer T}
    (h : IsRow layers i row) (r : Fin W) (tensors : List (List T)) (e : ℕ) :
    0 ≤ slotOf (updatedModule bump (row r) tensors) e ↔ e ∈ (row r).newLocalIds := by
  obtain ⟨hslot, hout⟩ := h.slotOf_after haccepted bump r tensors e
  constructor
  · intro hpos
    by_contra hmem
    rw [hout hmem] at hpos
    exact absurd hpos (by decide)
  · intro hmem
    obtain ⟨s, hs⟩ := List.mem_iff_getElem?.mp hmem
    rw [(hslot s).mpr hs]
    exact Int.natCast_nonneg s

/-- The weights of an expert are those of the slot that holds it. -/
theorem IsRow.expertWeights_before (hcover : ∀ r, coversExperts (layers r) (oldIndices layers r))
    {i : ℕ} {row : Fin W → Layer T} (h : IsRow layers i row) {r : Fin W} {s e : ℕ}
    (hold : (row r).oldLocalIds[s]? = some e) :
    expertWeights (fun r => (row r).module) e = rowsAt (row r).module s := by
  have hslot := (h.slotOf_before haccepted r e s).mpr hold
  refine expertWeights_eq hslot fun r' hpos => ?_
  have hold' : (row r').oldLocalIds[(slotOf (row r').module e).toNat]? = some e :=
    (h.slotOf_before haccepted r' e _).mp (Int.toNat_of_nonneg hpos).symm
  exact (h.holder_unique haccepted hcover hold' hold).1

/-- The slot of a new expert holds the weights that the expert had. -/
theorem IsRow.rowsAt_after (bump : ℕ) (hcover : ∀ r, coversExperts (layers r) (oldIndices layers r))
    {rearrange : Rearrange W T} (hrearrange : Rearranges rearrange) {moved : Fin W → Weights T}
    (htransfer : transfer rearrange (oldIndices layers) (fun r => newIndices W plan (layers r))
      (fun r => layerWeights (layers r)) = .ok moved)
    {i : ℕ} {row : Fin W → Layer T} (h : IsRow layers i row) {r : Fin W} {tensors : List (List T)}
    (htensors : (moved r)[i]? = some tensors) {e s : ℕ}
    (hnew : (row r).newLocalIds[s]? = some e) :
    rowsAt (updatedModule bump (row r) tensors) s =
      expertWeights (fun r => (row r).module) e := by
  obtain ⟨huniform, hmoved⟩ := transfer_spec haccepted hrearrange hcover htransfer h r
  have hlength : tensors.length = 2 :=
    ((huniform r).2 tensors (List.mem_of_getElem? htensors)).1
  have he := ((h.mem_new haccepted r).mp (List.mem_of_getElem? hnew)).1
  obtain ⟨r', s', hold⟩ := h.exists_holder hcover r he
  rw [h.expertWeights_before haccepted hcover hold,
    rowsAt_updatedModule bump (row r) (by rw [hlength, (h.ready haccepted r).weight_count])]
  refine List.ext_getElem (by
    rw [List.length_map, rowsAt, List.length_map, hlength,
      (h.ready haccepted r').weight_count]) fun j hj hj' => ?_
  have hrow := hmoved j hnew hold
  rw [List.length_map] at hj
  rw [rowsAt, List.length_map] at hj'
  simp only [rowAt, htensors, h.layerWeights_get r', Option.bind_some, List.getElem?_map,
    List.getElem?_eq_getElem hj, List.getElem?_eq_getElem hj', Option.map_some] at hrow
  simpa [rowsAt] using hrow

/-- **One layer.** -/
theorem IsRow.layerCorrect (bump : ℕ) (hcover : ∀ r, coversExperts (layers r) (oldIndices layers r))
    {rearrange : Rearrange W T} (hrearrange : Rearranges rearrange) {moved : Fin W → Weights T}
    (htransfer : transfer rearrange (oldIndices layers) (fun r => newIndices W plan (layers r))
      (fun r => layerWeights (layers r)) = .ok moved)
    {i : ℕ} {row : Fin W → Layer T} (h : IsRow layers i row) {l : ℕ}
    (hl : ∀ r, (row r).index = l) {tensors : Fin W → List (List T)}
    (htensors : ∀ r, (moved r)[i]? = some (tensors r)) :
    LayerCorrect plan l (fun r => (row r).module)
      fun r => updatedModule bump (row r) (tensors r) := by
  have hslot := fun r e => (h.slotOf_after haccepted bump r (tensors r) e).1
  have hnonneg := fun r e => h.nonneg_slotOf_after haccepted bump r (tensors r) e
  have htarget : ∀ r e, e < (row r).module.globalNumExperts →
      (0 ≤ slotOf (updatedModule bump (row r) (tensors r)) e ↔
        targetOf plan.expertToTargetRank W l e = .ok (r : ℕ)) := by
    intro r e he
    rw [hnonneg r e, h.mem_new haccepted r, hl r]
    exact ⟨fun h => h.2, fun h => ⟨he, h⟩⟩
  have hholds : ∀ r e (s : ℕ), slotOf (updatedModule bump (row r) (tensors r)) e = s →
      rowsAt (updatedModule bump (row r) (tensors r)) s =
        expertWeights (fun r => (row r).module) e :=
    fun r e s hs =>
      h.rowsAt_after haccepted bump hcover hrearrange htransfer (htensors r) ((hslot r e s).mp hs)
  have hslots : ∀ r s, s < (row r).module.localNumExperts →
      ∃! e, e < (row r).module.globalNumExperts ∧
        slotOf (updatedModule bump (row r) (tensors r)) e = (s : ℤ) := by
    intro r s hs
    rw [← (h.ready haccepted r).new_length] at hs
    have hget := List.getElem?_eq_getElem hs
    refine ⟨(row r).newLocalIds[s], ⟨?_, (hslot r _ s).mpr hget⟩, fun e he => ?_⟩
    · exact ((h.mem_new haccepted r).mp (List.getElem_mem hs)).1
    · have hget' := (hslot r e s).mp he.2
      rw [hget, Option.some_inj] at hget'
      exact hget'.symm
  refine ⟨fun r => ⟨_, _, rfl⟩, fun r e he => ?_, htarget, fun r e => ?_, hholds, hslots, ?_⟩
  · obtain ⟨rank, hrank⟩ := (h.ready haccepted r).target he
    rw [hl r] at hrank
    have he' : ∀ r', e < (row r').module.globalNumExperts := fun r' => by
      rw [h.numExperts_eq haccepted r' r]
      exact he
    refine ⟨⟨rank, targetOf_lt hrank⟩, (htarget _ e (he' _)).mpr hrank, fun r' hr' => ?_⟩
    have hrank' := (htarget r' e (he' r')).mp hr'
    rw [hrank] at hrank'
    exact Fin.ext (Except.ok.inj hrank').symm
  · by_cases hmem : e ∈ (row r).newLocalIds
    · obtain ⟨s, hs⟩ := List.mem_iff_getElem?.mp hmem
      refine Or.inr ⟨s, ?_, (hslot r e s).mpr hs⟩
      rw [← (h.ready haccepted r).new_length]
      exact (List.getElem?_eq_some_iff.mp hs).1
    · exact Or.inl ((h.slotOf_after haccepted bump r (tensors r) e).2 hmem)
  · intro r e s he hs hdistinct
    refine ⟨hholds r e s, fun hrows => ?_⟩
    -- The expert that the slot belongs to has the same weights, and so is this one.
    obtain ⟨e₀, ⟨he₀, hslot₀⟩, -⟩ := hslots r s hs
    rw [hholds r e₀ s hslot₀] at hrows
    rw [← hdistinct e₀ he₀ hrows]
    exact hslot₀

end Group

/-! ## The whole model -/

section Whole

variable {plan : RemapPlan}

/-- A layer that only one module of a model carries. -/
theorem moeLayer_eq_some {model : Model T O} {p l : ℕ} {name : String} {m : FusedMoE T}
    (hget : model[p]? = some (name, .fusedMoE m)) (hid : layerIdOf name = some l)
    (hunique : ∀ p' name' m', model[p']? = some (name', .fusedMoE m') →
      layerIdOf name' = some l → p' = p) : moeLayer model l = some m := by
  unfold moeLayer
  cases hfind : model.findSome? fun ((name, m) : String × NnModule T O) =>
      match m with
      | .fusedMoE layer => if layerIdOf name = some l then some layer else none
      | .other _ => none with
  | none =>
    have hnone := List.findSome?_eq_none_iff.mp hfind _ (List.mem_of_getElem? hget)
    exact absurd hnone (by simp [hid])
  | some m' =>
    obtain ⟨⟨name', module'⟩, hmem, hsome⟩ := List.exists_of_findSome?_eq_some hfind
    obtain ⟨p', hget'⟩ := List.mem_iff_getElem?.mp hmem
    cases module' with
    | other content => exact absurd hsome (by simp)
    | fusedMoE layer =>
      dsimp only at hsome
      split_ifs at hsome with hid'
      obtain rfl := hunique p' name' layer hget' hid'
      rw [hget] at hget'
      cases hget'
      exact hsome.symm

/-- A fused MoE module of the model is one of the layers. -/
theorem Accepted.layer_at {epSize epRank : ℕ} {model : Model T O} {layers : List (Layer T)}
    (h : Accepted epSize epRank plan model layers) {p : ℕ} {name : String} {m : FusedMoE T}
    (hget : model[p]? = some (name, .fusedMoE m)) :
    ∃ layer ∈ layers, layer.position = p ∧ layer.name = name ∧ layer.module = m := by
  obtain ⟨layer, hlayer, rfl⟩ := h.all p name m hget
  have hplaced := h.placed layer hlayer
  rw [hget] at hplaced
  cases hplaced
  exact ⟨layer, hlayer, rfl, rfl, rfl⟩

theorem Accepted.moeLayer_before {epSize epRank : ℕ} {model : Model T O} {layers : List (Layer T)}
    (h : Accepted epSize epRank plan model layers) {layer : Layer T} (hlayer : layer ∈ layers) :
    moeLayer model layer.index = some layer.module := by
  refine moeLayer_eq_some (h.placed layer hlayer) (h.ready layer hlayer).layerId ?_
  intro p' name' m' hget' hid'
  obtain ⟨layer', hlayer', rfl, rfl, rfl⟩ := h.layer_at hget'
  rw [(h.ready layer' hlayer').layerId, Option.some_inj] at hid'
  rw [h.eq_of_index_eq hlayer' hlayer hid']

section Updated

variable {epSize epRank : ℕ} {model : Model T O} {layers : List (Layer T)}
  (h : Accepted epSize epRank plan model layers) (bump : ℕ) {weights : Weights T}
  (hlength : weights.length = layers.length)
include h hlength

omit h in
theorem positions_updates : ((layers.zip weights).map fun (layer, tensors) =>
    (layer.position, ((layer.name, .fusedMoE (updatedModule bump layer tensors)) :
      String × NnModule T O))).map Prod.fst = layers.map Layer.position := by
  rw [List.map_map]
  have hzip : (layers.zip weights).map Prod.fst = layers :=
    List.map_fst_zip (by omega)
  calc (layers.zip weights).map _
      = ((layers.zip weights).map Prod.fst).map Layer.position := by
        rw [List.map_map]
        rfl
    _ = layers.map Layer.position := by rw [hzip]

theorem Accepted.updatedModel_layer {i : ℕ} {layer : Layer T} {tensors : List (List T)}
    (hlayer : layers[i]? = some layer) (htensors : weights[i]? = some tensors) :
    (updatedModel bump model layers weights)[layer.position]? =
      some (layer.name, .fusedMoE (updatedModule bump layer tensors)) := by
  have hplaced := h.placed layer (List.mem_of_getElem? hlayer)
  refine getElem?_writeAll ?_ ?_ (List.getElem?_eq_some_iff.mp hplaced).1
  · rw [positions_updates bump hlength]
    exact h.positions
  · refine List.mem_map.mpr ⟨(layer, tensors), ?_, rfl⟩
    exact List.mem_iff_getElem?.mpr ⟨i, List.getElem?_zip_eq_some.mpr ⟨hlayer, htensors⟩⟩

omit h in
theorem updatedModel_outside {p : ℕ} (hp : p ∉ layers.map Layer.position) :
    (updatedModel bump model layers weights)[p]? = model[p]? :=
  getElem?_writeAll_of_notMem (by rw [positions_updates bump hlength]; exact hp)

/-- The modules after a remap: those of the layers are new, under the old names, and the others are
as before. -/
theorem Accepted.updatedModel_get {p : ℕ} {name : String} {content : O} :
    (updatedModel bump model layers weights)[p]? = some (name, .other content) ↔
      model[p]? = some (name, .other content) := by
  by_cases hp : p ∈ layers.map Layer.position
  · obtain ⟨layer, hmem, rfl⟩ := List.mem_map.mp hp
    obtain ⟨i, hi⟩ := List.mem_iff_getElem?.mp hmem
    have hlt : i < weights.length := by
      rw [hlength]
      exact (List.getElem?_eq_some_iff.mp hi).1
    rw [h.updatedModel_layer bump hlength hi (List.getElem?_eq_getElem hlt), h.placed layer hmem]
    simp
  · rw [updatedModel_outside bump hlength hp]

theorem Accepted.moeLayer_after {i : ℕ} {layer : Layer T} {tensors : List (List T)}
    (hlayer : layers[i]? = some layer) (htensors : weights[i]? = some tensors) :
    moeLayer (updatedModel bump model layers weights) layer.index =
      some (updatedModule bump layer tensors) := by
  have hmem := List.mem_of_getElem? hlayer
  refine moeLayer_eq_some (h.updatedModel_layer bump hlength hlayer htensors)
    (h.ready layer hmem).layerId ?_
  intro p' name' m' hget' hid'
  have hp : p' ∈ layers.map Layer.position := by
    by_contra hout
    rw [updatedModel_outside bump hlength hout] at hget'
    obtain ⟨layer', hlayer', rfl, -⟩ := h.layer_at hget'
    exact hout (List.mem_map.mpr ⟨layer', hlayer', rfl⟩)
  obtain ⟨layer', hmem', rfl⟩ := List.mem_map.mp hp
  obtain ⟨i', hi'⟩ := List.mem_iff_getElem?.mp hmem'
  have hlt : i' < weights.length := by
    rw [hlength]
    exact (List.getElem?_eq_some_iff.mp hi').1
  rw [h.updatedModel_layer bump hlength hi' (List.getElem?_eq_getElem hlt)] at hget'
  cases hget'
  rw [(h.ready layer' hmem').layerId, Option.some_inj] at hid'
  rw [h.eq_of_index_eq hmem' hmem hid']

end Updated

end Whole

/-! ## A remap that ran -/

section Run

variable [DecidableEq D] {rearrange : Rearrange W T} {digest : List T → D} {bump : ℕ}
  {enabled : Fin W → Bool} {hosts : Fin W → HostIdentity} {models models' : Fin W → Model T O}
  {plan : RemapPlan}

/-- What a remap that ran has passed, and what it leaves. -/
theorem remapExpertWeights_ok
    (hrun : remapExpertWeights rearrange digest bump enabled hosts models plan = .ok models') :
    ∃ (layers : Fin W → List (Layer T)) (moved : Fin W → Weights T),
      (∀ r : Fin W, Accepted W r plan (models r) (layers r)) ∧
      (∀ r, coversExperts (layers r) (oldIndices layers r)) ∧
      transfer rearrange (oldIndices layers) (fun r => newIndices W plan (layers r))
        (fun r => layerWeights (layers r)) = .ok moved ∧
      models' = fun r => updatedModel bump (models r) (layers r) (moved r) := by
  obtain ⟨layers, hlayers, hrun⟩ := of_bind_ok hrun
  obtain ⟨-, hrun⟩ := of_require_bind hrun
  obtain ⟨_, -, hrun⟩ := of_bind_ok hrun
  obtain ⟨hcover, hrun⟩ := of_require_bind hrun
  obtain ⟨_, -, hrun⟩ := of_bind_ok hrun
  obtain ⟨before, -, hrun⟩ := of_bind_ok hrun
  obtain ⟨-, hrun⟩ := of_require_bind hrun
  obtain ⟨moved, htransfer, hrun⟩ := of_bind_ok hrun
  obtain ⟨after, -, hrun⟩ := of_bind_ok hrun
  obtain ⟨-, hrun⟩ := of_require_bind hrun
  exact ⟨layers, moved, fun r => layersForPlan_ok (of_everyRank_ok hlayers r), hcover, htransfer,
    (Except.ok.inj hrun).symm⟩

/-- What a remap does to the models of all ranks: every fused MoE layer of every rank is moved
correctly, every other module stays. -/
structure RemapCorrect (plan : RemapPlan) (models models' : Fin W → Model T O) : Prop where
  others : ∀ (r : Fin W) (p : ℕ) (name : String) (content : O),
    (models' r)[p]? = some (name, .other content) ↔ (models r)[p]? = some (name, .other content)
  layers : ∀ (r : Fin W) (p : ℕ) (name : String) (m : FusedMoE T),
    (models r)[p]? = some (name, .fusedMoE m) →
    ∃ (l : ℕ) (before after : Fin W → FusedMoE T), layerIdOf name = some l ∧ before r = m ∧
      (models' r)[p]? = some (name, .fusedMoE (after r)) ∧
      (∀ r', moeLayer (models r') l = some (before r')) ∧
      (∀ r', moeLayer (models' r') l = some (after r')) ∧ LayerCorrect plan l before after

/-- **Expert remap correctness.**  When a remap has run on all ranks, which it does only with a plan
that all of them accept, every expert of every layer is on the rank the plan names and nowhere else,
its slot holds the weights it had before, and all other modules are unchanged. -/
theorem remap_correct (hrearrange : Rearranges rearrange)
    (hrun : remapExpertWeights rearrange digest bump enabled hosts models plan = .ok models') :
    RemapCorrect plan models models' := by
  obtain ⟨layers, moved, haccepted, hcover, htransfer, rfl⟩ := remapExpertWeights_ok hrun
  have hlength := length_moved haccepted hrearrange hcover htransfer
  refine ⟨fun r p name content => (haccepted r).updatedModel_get bump (hlength r), ?_⟩
  intro r p name m hget
  obtain ⟨layer, hlayer, rfl, rfl, rfl⟩ := (haccepted r).layer_at hget
  obtain ⟨i, row, hrow, rfl⟩ := exists_row haccepted hlayer
  obtain ⟨tensors, htensors⟩ := hrow.exists_tensors hlength
  have hindex : ∀ r', (row r').index = (row r).index := fun r' => hrow.index_eq haccepted r' r
  refine ⟨(row r).index, fun r' => (row r').module,
    fun r' => updatedModule bump (row r') (tensors r'),
    ((haccepted r).ready _ hlayer).layerId, rfl,
    (haccepted r).updatedModel_layer bump (hlength r) (hrow r) (htensors r), fun r' => ?_,
    fun r' => ?_, hrow.layerCorrect haccepted bump hcover hrearrange htransfer hindex htensors⟩
  · rw [← hindex r']
    exact (haccepted r').moeLayer_before (hrow.mem r')
  · rw [← hindex r']
    exact (haccepted r').moeLayer_after bump (hlength r') (hrow r') (htensors r')

end Run

/-! ## An exact transfer -/

/-- A transfer on lists that does what the engine's documents: each slot takes the row from the
physical slot that held its new expert. -/
def exactRearrange : Rearrange W T := fun old new weights r =>
  (weights r).mapIdx fun i tensors => tensors.mapIdx fun j rows => rows.mapIdx fun s row =>
    let source := do
      let e ← ((new r)[i]?).bind (·[r * rows.length + s]?)
      let p ← ((old r)[i]?).map (List.idxOf e)
      if h : p / rows.length < W then rowAt (weights ⟨p / rows.length, h⟩) i j (p % rows.length)
      else none
    source.getD row

theorem rearranges_exactRearrange : Rearranges (exactRearrange : Rearrange W T) := by
  constructor
  · intro old new weights count tensorCount n huniform r
    obtain ⟨hcount, htensors⟩ := huniform r
    refine ⟨by rw [exactRearrange, List.length_mapIdx, hcount], fun tensors hmem => ?_⟩
    obtain ⟨i, hi, rfl⟩ := List.mem_mapIdx.mp hmem
    obtain ⟨hlength, hrows⟩ := htensors _ (List.getElem_mem hi)
    refine ⟨by rw [List.length_mapIdx, hlength], fun rows hmem' => ?_⟩
    obtain ⟨j, hj, rfl⟩ := List.mem_mapIdx.mp hmem'
    rw [List.length_mapIdx]
    exact hrows _ (List.getElem_mem hj)
  · intro old new weights count tensorCount n huniform hnodup i j s s' r r' e hs hs' hold hnew
    obtain ⟨oldRow, holdRow, hold⟩ := Option.bind_eq_some_iff.mp hold
    have hdiv : (r' * n + s') / n = r' := by
      rw [Nat.mul_comm, Nat.mul_add_div (by omega), Nat.div_eq_of_lt hs', Nat.add_zero]
    have hmod : (r' * n + s') % n = s' := by
      rw [Nat.mul_comm, Nat.mul_add_mod, Nat.mod_eq_of_lt hs']
    have hindex : oldRow.idxOf e = r' * n + s' := by
      obtain ⟨hlt, heq⟩ := List.getElem?_eq_some_iff.mp hold
      rw [← heq]
      exact (hnodup oldRow (List.mem_of_getElem? holdRow)).idxOf_getElem _ hlt
    -- Both ranks have the same tensors, so either both sides are rows or neither is.
    obtain ⟨hcount, htensors⟩ := huniform r
    obtain ⟨hcount', htensors'⟩ := huniform r'
    by_cases hi : i < count
    · have hget := List.getElem?_eq_getElem (hcount.symm ▸ hi)
      have hget' := List.getElem?_eq_getElem (hcount'.symm ▸ hi)
      obtain ⟨hlength, hrows⟩ := htensors _ (List.mem_of_getElem? hget)
      obtain ⟨hlength', hrows'⟩ := htensors' _ (List.mem_of_getElem? hget')
      by_cases hj : j < tensorCount
      · have hrow := List.getElem?_eq_getElem (hlength.symm ▸ hj)
        have hrow' := List.getElem?_eq_getElem (hlength'.symm ▸ hj)
        have hn := hrows _ (List.mem_of_getElem? hrow)
        have hslot := List.getElem?_eq_getElem (hn.symm ▸ hs)
        obtain ⟨row, hsource⟩ : ∃ row, rowAt (weights r') i j s' = some row := by
          rw [rowAt, hget', Option.bind_some, hrow', Option.bind_some]
          exact ⟨_, List.getElem?_eq_getElem ((hrows' _ (List.mem_of_getElem? hrow')).symm ▸ hs')⟩
        rw [hsource, rowAt, exactRearrange, List.getElem?_mapIdx, hget]
        simp only [Option.map_some, Option.bind_some, List.getElem?_mapIdx, hrow, hslot, hn, hnew,
          holdRow, hindex, hdiv, hmod, Fin.is_lt, dite_true, Fin.eta, hsource, bind,
          Option.getD_some]
      · have hrow := List.getElem?_eq_none (hlength.symm ▸ Nat.le_of_not_lt hj)
        have hrow' := List.getElem?_eq_none (hlength'.symm ▸ Nat.le_of_not_lt hj)
        rw [rowAt, rowAt, exactRearrange, List.getElem?_mapIdx, hget, hget']
        simp only [Option.map_some, Option.bind_some, List.getElem?_mapIdx, hrow, hrow',
          Option.map_none, Option.bind_none]
    · have hget := List.getElem?_eq_none (hcount.symm ▸ Nat.le_of_not_lt hi)
      have hget' := List.getElem?_eq_none (hcount'.symm ▸ Nat.le_of_not_lt hi)
      rw [rowAt, rowAt, exactRearrange, List.getElem?_mapIdx, hget, hget']
      rfl

/-! ## Two ranks that exchange an expert -/

/-- One layer of four experts, two on each of two ranks. -/
def pairGroup (r : Fin 2) : Model ℕ Unit :=
  [("model.norm", .other ()),
    ("model.layers.0.mlp.experts", .fusedMoE {
      unquantized := true
      useEp := true
      enableEplb := false
      numFusedSharedExperts := 0
      rocmAiterFmoeEnabled := false
      all2allBackend := "spotserve_sparse"
      epRank := r
      epSize := 2
      tensorParallelSize := 2
      dataParallelSize := 1
      localNumExperts := 2
      globalNumExperts := 4
      expertMap := some ⟨0, 0, if r = 0 then [0, 1, -1, -1] else [-1, -1, 0, 1]⟩
      weights := [⟨if r = 0 then [10, 11] else [12, 13], [], "bfloat16", true⟩,
        ⟨if r = 0 then [20, 21] else [22, 23], [], "bfloat16", true⟩] })]

/-- Experts 1 and 3 change places. -/
def exchangePlan : RemapPlan where
  liveExpertRemap := true
  sllmReplicaCount := 1
  expertPhysicalReplicationFactor := 1
  expertToTargetRank := [("layer:0/expert:0", "replica:0/ep-rank:0"),
    ("layer:0/expert:1", "replica:0/ep-rank:1"), ("layer:0/expert:2", "replica:0/ep-rank:1"),
    ("layer:0/expert:3", "replica:0/ep-rank:0")].foldl
    (fun ranks entry => ranks.set entry.1 entry.2) .empty
  placementFingerprint := "exchange"
  targetRankCount := some 2
  targetParallelPlan := []
  dpEngineCoordinated := false
  dpEngineCount := 1
  requireCrossNode := false
  requireCrossFailureDomain := false

/-- The exchange on both ranks, with the rows themselves as digests. -/
def exchange : Except RemapError (Fin 2 → Model ℕ Unit) :=
  remapExpertWeights exactRearrange id 1 (fun _ => true) (fun _ => ⟨"", "", "", ""⟩) pairGroup
    exchangePlan

theorem remap_correct_exchange :
    ∃ models', exchange = .ok models' ∧ RemapCorrect exchangePlan pairGroup models' := by
  cases hrun : exchange with
  | ok models' => exact ⟨models', rfl, remap_correct rearranges_exactRearrange hrun⟩
  | error e =>
    have hok : exchange.toOption.isSome = true := by decide +kernel
    rw [hrun] at hok
    exact absurd hok Bool.false_ne_true

end ExpertRemap
end SpotServe
