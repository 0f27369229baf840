import SpotServe.ExpertRemap.Correctness

/-!
# A plan that all ranks accept is carried out

After the checks of the single ranks a remap still compares what the ranks gather: the shapes of the
tables, the digests of the weights before and after, and whether anything moves.  When every rank
accepts the plan and the current experts are complete, all of these pass, so that the remap fails
only for the plan's own requirements on hosts and failure domains.

* `Spread`: no expert of a layer is named by two ranks, or twice by one.
* `gatherDigests_spread`: the digests of such a naming are gathered without a duplicate.
* `perm_digestKeys`: both namings name exactly the experts of the plan.
* `remap_runs_iff`: when a remap runs.
-/

namespace SpotServe
namespace ExpertRemap

open Py Runs ExpertPlacement
open SparseA2A (everyRank everyRank_ok of_everyRank_ok)

variable {T O D : Type} {W : ℕ}

/-! ## Gathering digests -/

section Gather

variable {digest : List T → D}

/-- The digests of a rank, in the order in which they are computed. -/
def digestEntries (digest : List T → D) (layers : List (Layer T)) (ids : Layer T → List ℕ)
    (weights : Weights T) : List (String × D) :=
  (layers.zip weights).flatMap fun (layer, tensors) =>
    (ids layer).zipIdx.map fun (expertId, slot) =>
      (expertKey layer.index expertId, digest (slotRows tensors slot))

theorem mem_digestEntries {layers : List (Layer T)} {ids : Layer T → List ℕ} {weights : Weights T}
    {key : String} {value : D} :
    (key, value) ∈ digestEntries digest layers ids weights ↔
      ∃ (i : ℕ) (layer : Layer T) (tensors : List (List T)) (e s : ℕ),
        layers[i]? = some layer ∧ weights[i]? = some tensors ∧ (ids layer)[s]? = some e ∧
          key = expertKey layer.index e ∧ value = digest (slotRows tensors s) := by
  unfold digestEntries
  rw [List.mem_flatMap]
  constructor
  · rintro ⟨⟨layer, tensors⟩, hzip, hmem⟩
    obtain ⟨i, hi⟩ := List.mem_iff_getElem?.mp hzip
    obtain ⟨hlayer, htensors⟩ := List.getElem?_zip_eq_some.mp hi
    obtain ⟨⟨e, s⟩, hslot, heq⟩ := List.mem_map.mp hmem
    obtain ⟨rfl, rfl⟩ := Prod.mk.inj heq
    exact ⟨i, layer, tensors, e, s, hlayer, htensors, List.mem_zipIdx_iff_getElem?.mp hslot, rfl, rfl⟩
  · rintro ⟨i, layer, tensors, e, s, hlayer, htensors, hslot, rfl, rfl⟩
    refine ⟨(layer, tensors), List.mem_iff_getElem?.mpr
      ⟨i, List.getElem?_zip_eq_some.mpr ⟨hlayer, htensors⟩⟩, ?_⟩
    exact List.mem_map.mpr ⟨(e, s), List.mem_zipIdx_iff_getElem?.mpr hslot, rfl⟩

/-- The keys of the digests of a rank. -/
def digestKeys (layers : List (Layer T)) (ids : Layer T → List ℕ) : List String :=
  layers.flatMap fun layer => (ids layer).map (expertKey layer.index)

theorem mem_digestKeys {layers : List (Layer T)} {ids : Layer T → List ℕ} {key : String} :
    key ∈ digestKeys layers ids ↔
      ∃ layer ∈ layers, ∃ e ∈ ids layer, expertKey layer.index e = key := by
  simp only [digestKeys, List.mem_flatMap, List.mem_map]

theorem map_fst_digestEntries {layers : List (Layer T)} (ids : Layer T → List ℕ)
    {weights : Weights T} (hlength : weights.length = layers.length) :
    (digestEntries digest layers ids weights).map Prod.fst = digestKeys layers ids := by
  have hzip : (layers.zip weights).map Prod.fst = layers := List.map_fst_zip (by omega)
  calc (digestEntries digest layers ids weights).map Prod.fst
      = (layers.zip weights).flatMap fun entry => (ids entry.1).map (expertKey entry.1.index) := by
        rw [digestEntries, List.map_flatMap]
        refine List.flatMap_congr fun entry _ => ?_
        conv_rhs => rw [← List.zipIdx_map_fst 0 (ids entry.1)]
        rw [List.map_map, List.map_map]
        rfl
    _ = ((layers.zip weights).map Prod.fst).flatMap
          fun layer => (ids layer).map (expertKey layer.index) := by
        rw [List.flatMap_map]
    _ = digestKeys layers ids := by rw [hzip, digestKeys]

/-- No expert of a layer is named twice, by one rank or by two. -/
structure Spread (layers : Fin W → List (Layer T)) (ids : Layer T → List ℕ) : Prop where
  nodup : ∀ r, ∀ layer ∈ layers r, (ids layer).Nodup
  disjoint : ∀ r r', ∀ layer ∈ layers r, ∀ layer' ∈ layers r', ∀ e,
    layer.index = layer'.index → e ∈ ids layer → e ∈ ids layer' → r = r'

theorem Spread.nodup_digestKeys {layers : Fin W → List (Layer T)} {ids : Layer T → List ℕ}
    (h : Spread layers ids) (hindex : ∀ r, ((layers r).map Layer.index).Nodup) :
    ((List.finRange W).flatMap fun r => digestKeys (layers r) ids).Nodup := by
  refine List.nodup_flatMap.mpr ⟨fun r _ => ?_, ?_⟩
  · refine List.nodup_flatMap.mpr ⟨fun layer hlayer => ?_, ?_⟩
    · exact (h.nodup r layer hlayer).map fun e e' heq => (expertKey_inj.mp heq).2
    · refine (List.pairwise_map.mp (hindex r)).imp fun {layer layer'} hne => ?_
      intro key hkey hkey'
      obtain ⟨e, -, rfl⟩ := List.mem_map.mp hkey
      obtain ⟨e', -, heq⟩ := List.mem_map.mp hkey'
      exact hne (expertKey_inj.mp heq).1.symm
  · refine (List.nodup_finRange W).imp fun {r r'} hne => ?_
    intro key hkey hkey'
    obtain ⟨layer, hlayer, e, he, rfl⟩ := mem_digestKeys.mp hkey
    obtain ⟨layer', hlayer', e', he', heq⟩ := mem_digestKeys.mp hkey'
    obtain ⟨hindex, rfl⟩ := expertKey_inj.mp heq
    exact hne (h.disjoint r r' layer hlayer layer' hlayer' _ hindex.symm he he')

/-- Dictionaries that share no key are gathered as they are. -/
theorem gatherDigests_ok {locals : Fin W → OrderedDict String D}
    (h : (((List.finRange W).flatMap fun r => (locals r).entries).map Prod.fst).Nodup) :
    ∃ merged, gatherDigests locals = .ok merged ∧
      merged.entries = (List.finRange W).flatMap fun r => (locals r).entries := by
  refine foldlM_inv (fun done (merged : OrderedDict String D) => merged.entries = done) ?_ rfl
  intro done entry rest merged hwhole hmerged
  have hnew : entry.1 ∉ merged.keys := by
    rw [hwhole, List.map_append, List.map_cons] at h
    rw [OrderedDict.keys, hmerged]
    exact fun hmem => (List.nodup_append.mp h).2.2 _ hmem _ List.mem_cons_self rfl
  refine ⟨merged.set entry.1 entry.2, if_neg hnew, ?_⟩
  rw [OrderedDict.entries_set_new ((OrderedDict.get?_eq_none_iff _).mpr hnew), hmerged]

/-- **Gathering** the digests of experts that are spread over the ranks. -/
theorem gatherDigests_spread (digest : List T → D) {layers : Fin W → List (Layer T)} {ids : Layer T → List ℕ}
    {weights : Fin W → Weights T} (h : Spread layers ids)
    (hindex : ∀ r, ((layers r).map Layer.index).Nodup)
    (hlength : ∀ r, (weights r).length = (layers r).length) :
    ∃ merged, gatherDigests (fun r => weightDigests digest (layers r) ids (weights r)) = .ok merged ∧
      merged.entries =
        (List.finRange W).flatMap fun r => digestEntries digest (layers r) ids (weights r) := by
  have hkeys := h.nodup_digestKeys hindex
  have hlocal : ∀ r, (weightDigests digest (layers r) ids (weights r)).entries =
      digestEntries digest (layers r) ids (weights r) := by
    intro r
    refine OrderedDict.entries_foldl_set_new (d := .empty) ?_
    show ((digestEntries digest (layers r) ids (weights r)).map Prod.fst).Nodup
    rw [map_fst_digestEntries ids (hlength r)]
    exact (List.nodup_flatMap.mp hkeys).1 r (List.mem_finRange r)
  have hall : ((List.finRange W).flatMap fun r =>
      (weightDigests digest (layers r) ids (weights r)).entries) =
      (List.finRange W).flatMap fun r => digestEntries digest (layers r) ids (weights r) :=
    List.flatMap_congr fun r _ => hlocal r
  rw [← hall]
  refine gatherDigests_ok ?_
  rw [hall, List.map_flatMap, List.flatMap_congr fun r _ => map_fst_digestEntries ids (hlength r)]
  exact hkeys

end Gather

/-! ## The group -/

section Group

variable {plan : RemapPlan} {models : Fin W → Model T O} {layers : Fin W → List (Layer T)}
  (haccepted : ∀ r : Fin W, Accepted W r plan (models r) (layers r))
include haccepted

theorem nodup_index (r : Fin W) : ((layers r).map Layer.index).Nodup :=
  (haccepted r).sorted.imp fun h => Nat.ne_of_lt h

/-- The ranks give tensors of one shape to `all_gather`. -/
theorem gatherShape_eq (r r' : Fin W) : gatherShape (layers r) = gatherShape (layers r') := by
  refine List.ext_getElem? fun i => ?_
  by_cases hi : i < (layers r).length
  · obtain ⟨row, hrow⟩ := exists_row_of_lt haccepted hi
    rw [gatherShape, gatherShape, List.getElem?_map, List.getElem?_map, hrow r, hrow r',
      Option.map_some, Option.map_some, (hrow.uniform haccepted r r).1,
      (hrow.uniform haccepted r r').1]
  · have hi' : ¬ i < (layers r').length := by rwa [length_eq haccepted r' r]
    rw [List.getElem?_eq_none (by simpa [gatherShape] using hi),
      List.getElem?_eq_none (by simpa [gatherShape] using hi')]

/-- The ranks agree on whether anything moves. -/
theorem exists_transfer (rearrange : Rearrange W T) (weights : Fin W → Weights T) :
    ∃ moved, transfer rearrange (oldIndices layers) (fun r => newIndices W plan (layers r)) weights =
      .ok moved := by
  unfold transfer
  by_cases hsame : ∀ r, oldIndices layers r = newIndices W plan (layers r)
  · exact ⟨_, if_pos hsame⟩
  · have hdiffer : ∀ r, oldIndices layers r ≠ newIndices W plan (layers r) := by
      intro r heq
      refine hsame fun r' => ?_
      rw [oldIndices_eq haccepted r' r, newIndices_eq haccepted r' r, heq]
    rw [if_neg hsame, if_pos hdiffer]
    exact ⟨_, rfl⟩

/-- Two ranks' versions of one layer, as part of a row. -/
theorem exists_common_row {r r' : Fin W} {layer layer' : Layer T} (hlayer : layer ∈ layers r)
    (hlayer' : layer' ∈ layers r') (hindex : layer.index = layer'.index) :
    ∃ i row, IsRow layers i row ∧ row r = layer ∧ row r' = layer' := by
  obtain ⟨i, row, hrow, rfl⟩ := exists_row haccepted hlayer
  refine ⟨i, row, hrow, rfl, ?_⟩
  exact (haccepted r').eq_of_index_eq (hrow.mem r') hlayer'
    ((hrow.index_eq haccepted r' r).trans hindex)

theorem spread_old (hcover : ∀ r, coversExperts (layers r) (oldIndices layers r)) :
    Spread layers Layer.oldLocalIds := by
  constructor
  · intro r layer hlayer
    obtain ⟨i, row, hrow, rfl⟩ := exists_row haccepted hlayer
    have hnodup := (hrow.covered hcover r).nodup_iff.mpr List.nodup_range
    exact (List.nodup_flatMap.mp hnodup).1 r (List.mem_finRange r)
  · intro r r' layer hlayer layer' hlayer' e hindex he he'
    obtain ⟨i, row, hrow, rfl, rfl⟩ := exists_common_row haccepted hlayer hlayer' hindex
    obtain ⟨s, hs⟩ := List.mem_iff_getElem?.mp he
    obtain ⟨s', hs'⟩ := List.mem_iff_getElem?.mp he'
    exact (hrow.holder_unique haccepted hcover hs hs').1

theorem spread_new : Spread layers Layer.newLocalIds := by
  constructor
  · intro r layer hlayer
    obtain ⟨i, row, hrow, rfl⟩ := exists_row haccepted hlayer
    exact hrow.nodup_new haccepted r
  · intro r r' layer hlayer layer' hlayer' e hindex he he'
    obtain ⟨i, row, hrow, rfl, rfl⟩ := exists_common_row haccepted hlayer hlayer' hindex
    have htarget := ((hrow.mem_new haccepted r).mp he).2
    have htarget' := ((hrow.mem_new haccepted r').mp he').2
    rw [← hindex, htarget] at htarget'
    exact Fin.ext (Except.ok.inj htarget')

omit haccepted in
/-- A rank has an expert in its slots only if the layer has it. -/
theorem IsRow.lt_of_old (hcover : ∀ r, coversExperts (layers r) (oldIndices layers r)) {i : ℕ}
    {row : Fin W → Layer T} (h : IsRow layers i row) {r : Fin W} {e : ℕ}
    (he : e ∈ (row r).oldLocalIds) : e < (row r).module.globalNumExperts := by
  rw [← List.mem_range, ← (h.covered hcover r).mem_iff]
  exact List.mem_flatMap.mpr ⟨r, List.mem_finRange r, he⟩

/-- The rank that the plan gives an expert has a slot for it. -/
theorem IsRow.exists_target {i : ℕ} {row : Fin W → Layer T} (h : IsRow layers i row) (r₀ : Fin W)
    {e : ℕ} (he : e < (row r₀).module.globalNumExperts) :
    ∃ (r : Fin W) (s : ℕ), (row r).newLocalIds[s]? = some e := by
  obtain ⟨rank, hrank⟩ := (h.ready haccepted r₀).target he
  refine ⟨⟨rank, targetOf_lt hrank⟩, List.mem_iff_getElem?.mp ((h.mem_new haccepted _).mpr ⟨?_, ?_⟩)⟩
  · rwa [h.numExperts_eq haccepted _ r₀]
  · rwa [h.index_eq haccepted _ r₀]

/-- **What is named.**  A naming that gives every layer's experts, and no others, gives the experts
of the plan. -/
theorem perm_digestKeys {ids : Layer T → List ℕ} (hspread : Spread layers ids)
    (hlt : ∀ r, ∀ layer ∈ layers r, ∀ e ∈ ids layer, e < layer.module.globalNumExperts)
    (hall : ∀ {i : ℕ} {row : Fin W → Layer T}, IsRow layers i row → ∀ r₀ e,
      e < (row r₀).module.globalNumExperts → ∃ r, e ∈ ids (row r)) (r₀ : Fin W) :
    ((List.finRange W).flatMap fun r => digestKeys (layers r) ids).Perm
      plan.expertToTargetRank.keys := by
  refine (List.perm_ext_iff_of_nodup (hspread.nodup_digestKeys (nodup_index haccepted))
    plan.expertToTargetRank.nodup).mpr fun key => ?_
  constructor
  · intro hkey
    obtain ⟨r, -, hkey⟩ := List.mem_flatMap.mp hkey
    obtain ⟨layer, hlayer, e, he, rfl⟩ := mem_digestKeys.mp hkey
    exact ((haccepted r).ready layer hlayer).mem_keys (hlt r layer hlayer e he)
  · intro hkey
    have hknown := (haccepted r₀).keys key hkey
    obtain ⟨layer, hlayer, hmem⟩ := List.mem_flatMap.mp hknown
    obtain ⟨e, he, rfl⟩ := List.mem_map.mp hmem
    obtain ⟨i, row, hrow, rfl⟩ := exists_row haccepted hlayer
    obtain ⟨r, hr⟩ := hall hrow r₀ e (List.mem_range.mp he)
    refine List.mem_flatMap.mpr ⟨r, List.mem_finRange r, mem_digestKeys.mpr
      ⟨row r, hrow.mem r, e, hr, ?_⟩⟩
    rw [hrow.index_eq haccepted r r₀]

theorem perm_old (hcover : ∀ r, coversExperts (layers r) (oldIndices layers r)) (r₀ : Fin W) :
    ((List.finRange W).flatMap fun r => digestKeys (layers r) Layer.oldLocalIds).Perm
      plan.expertToTargetRank.keys := by
  refine perm_digestKeys haccepted (spread_old haccepted hcover) ?_ ?_ r₀
  · intro r layer hlayer e he
    obtain ⟨i, row, hrow, rfl⟩ := exists_row haccepted hlayer
    exact hrow.lt_of_old hcover he
  · intro i row hrow r e he
    obtain ⟨r', s, hs⟩ := hrow.exists_holder hcover r he
    exact ⟨r', List.mem_of_getElem? hs⟩

theorem perm_new (r₀ : Fin W) :
    ((List.finRange W).flatMap fun r => digestKeys (layers r) Layer.newLocalIds).Perm
      plan.expertToTargetRank.keys := by
  refine perm_digestKeys haccepted (spread_new haccepted) ?_ ?_ r₀
  · intro r layer hlayer e he
    obtain ⟨i, row, hrow, rfl⟩ := exists_row haccepted hlayer
    exact ((hrow.mem_new haccepted r).mp he).1
  · intro i row hrow r e he
    obtain ⟨r', s, hs⟩ := hrow.exists_target haccepted r he
    exact ⟨r', List.mem_of_getElem? hs⟩

/-! ## Digests before and after -/

omit haccepted in
theorem slotRows_eq {tensors tensors' : List (List T)} {s s' : ℕ}
    (h : ∀ j : ℕ, (tensors[j]?).bind (·[s]?) = (tensors'[j]?).bind (·[s']?))
    (hlength : tensors.length = tensors'.length) : slotRows tensors s = slotRows tensors' s' := by
  have hmap : tensors.map (·[s]?) = tensors'.map (·[s']?) := by
    refine List.ext_getElem (by simpa using hlength) fun j hj hj' => ?_
    rw [List.length_map] at hj hj'
    have hrow := h j
    rw [List.getElem?_eq_getElem hj, List.getElem?_eq_getElem hj', Option.bind_some,
      Option.bind_some] at hrow
    simpa using hrow
  have hfilter : ∀ (tensors : List (List T)) (s : ℕ),
      slotRows tensors s = (tensors.map (·[s]?)).filterMap id := by
    intro tensors s
    rw [List.filterMap_map]
    rfl
  rw [hfilter, hfilter, hmap]

/-- The digest of an expert is the same after the transfer as before. -/
theorem mem_digestEntries_moved {digest : List T → D} {rearrange : Rearrange W T}
    (hrearrange : Rearranges rearrange)
    (hcover : ∀ r, coversExperts (layers r) (oldIndices layers r)) {moved : Fin W → Weights T}
    (htransfer : transfer rearrange (oldIndices layers) (fun r => newIndices W plan (layers r))
      (fun r => layerWeights (layers r)) = .ok moved) {r' : Fin W} {entry : String × D}
    (hentry : entry ∈ digestEntries digest (layers r') Layer.oldLocalIds (layerWeights (layers r'))) :
    ∃ r, entry ∈ digestEntries digest (layers r) Layer.newLocalIds (moved r) := by
  obtain ⟨key, value⟩ := entry
  obtain ⟨i, layer, tensors', e, s', hlayer, htensors', hold, rfl, rfl⟩ :=
    mem_digestEntries.mp hentry
  obtain ⟨row, hrow⟩ := exists_row_of_lt haccepted (List.getElem?_eq_some_iff.mp hlayer).1
  have heq := hrow r'
  rw [hlayer, Option.some_inj] at heq
  subst heq
  have he := hrow.lt_of_old hcover (List.mem_of_getElem? hold)
  obtain ⟨r, s, hnew⟩ := hrow.exists_target haccepted r' he
  obtain ⟨huniform, hmoved⟩ := transfer_spec haccepted hrearrange hcover htransfer hrow r'
  obtain ⟨tensors, htensors⟩ :=
    hrow.exists_tensors (length_moved haccepted hrearrange hcover htransfer)
  refine ⟨r, mem_digestEntries.mpr ⟨i, row r, tensors r, e, s, hrow r, htensors r, hnew, ?_, ?_⟩⟩
  · rw [hrow.index_eq haccepted r' r]
  · refine congrArg digest (slotRows_eq (fun j => ?_) ?_).symm
    · have hsame := hmoved j hnew hold
      rwa [rowAt, rowAt, htensors r, htensors', Option.bind_some, Option.bind_some] at hsame
    · have hbefore := uniformWeights_layerWeights haccepted hrow r'
      rw [((huniform r).2 _ (List.mem_of_getElem? (htensors r))).1,
        ((hbefore r').2 _ (List.mem_of_getElem? htensors')).1]

omit haccepted in
/-- There are as many digests as the plan has experts. -/
theorem length_digests {digest : List T → D} {ids : Layer T → List ℕ} {weights : Fin W → Weights T}
    {merged : OrderedDict String D}
    (hperm : ((List.finRange W).flatMap fun r => digestKeys (layers r) ids).Perm
      plan.expertToTargetRank.keys)
    (hlength : ∀ r, (weights r).length = (layers r).length)
    (hmerged : merged.entries =
      (List.finRange W).flatMap fun r => digestEntries digest (layers r) ids (weights r)) :
    merged.entries.length = plan.expertToTargetRank.entries.length := by
  have hkeys : merged.entries.map Prod.fst =
      (List.finRange W).flatMap fun r => digestKeys (layers r) ids := by
    rw [hmerged, List.map_flatMap]
    exact List.flatMap_congr fun r _ => map_fst_digestEntries ids (hlength r)
  calc merged.entries.length
      = (merged.entries.map Prod.fst).length := (List.length_map _).symm
    _ = plan.expertToTargetRank.keys.length := by rw [hkeys, hperm.length_eq]
    _ = plan.expertToTargetRank.entries.length := List.length_map _

omit haccepted in
theorem length_layerWeights (layers : List (Layer T)) : (layerWeights layers).length = layers.length :=
  List.length_map _

end Group

/-! ## When a remap runs -/

section Run

variable [DecidableEq D] {rearrange : Rearrange W T} {digest : List T → D} {bump : ℕ}
  {enabled : Fin W → Bool} {hosts : Fin W → HostIdentity} {models : Fin W → Model T O}
  {plan : RemapPlan}

/-- **A plan that all ranks accept is carried out**, when the experts are complete and the hosts are
as the plan requires: neither a collective operation nor a comparison of digests fails. -/
theorem remapExpertWeights_runs (hrearrange : Rearranges rearrange) (hW : 0 < W)
    {layers : Fin W → List (Layer T)}
    (hlayers : ∀ r : Fin W, layersForPlan (enabled r) W r (some (models r)) plan = .ok (layers r))
    (hhosts : checkHosts plan hosts = .ok ())
    (hcover : ∀ r, coversExperts (layers r) (oldIndices layers r))
    (hmovement : checkMovement plan hosts layers = .ok ()) :
    ∃ models', remapExpertWeights rearrange digest bump enabled hosts models plan = .ok models' := by
  have haccepted : ∀ r : Fin W, Accepted W r plan (models r) (layers r) :=
    fun r => layersForPlan_ok (hlayers r)
  have r₀ : Fin W := ⟨0, hW⟩
  obtain ⟨moved, htransfer⟩ := exists_transfer haccepted rearrange fun r => layerWeights (layers r)
  have hlength := length_moved haccepted hrearrange hcover htransfer
  obtain ⟨before, hgather, hbefore⟩ := gatherDigests_spread digest
    (spread_old haccepted hcover) (nodup_index haccepted) fun r => length_layerWeights (layers r)
  obtain ⟨after, hgather', hafter⟩ := gatherDigests_spread digest
    (spread_new haccepted) (nodup_index haccepted) hlength
  have hcount := length_digests (perm_old haccepted hcover r₀)
    (fun r => length_layerWeights (layers r)) hbefore
  have hcount' := length_digests (perm_new haccepted r₀) hlength hafter
  have hsame : sameEntries before after := by
    refine ⟨hcount.trans hcount'.symm, fun entry hentry => ?_⟩
    rw [hbefore] at hentry
    obtain ⟨r', -, hentry⟩ := List.mem_flatMap.mp hentry
    obtain ⟨r, hmem⟩ := mem_digestEntries_moved haccepted hrearrange hcover htransfer hentry
    rw [← OrderedDict.mem_entries_iff, hafter]
    exact List.mem_flatMap.mpr ⟨r, List.mem_finRange r, hmem⟩
  refine ⟨fun r => updatedModel bump (models r) (layers r) (moved r), ?_⟩
  refine bind_ok (everyRank_ok hlayers) ?_
  refine bind_ok (require_eq_ok.mpr (gatherShape_eq haccepted)) ?_
  refine bind_ok hhosts ?_
  refine bind_ok (require_eq_ok.mpr hcover) ?_
  refine bind_ok hmovement ?_
  refine bind_ok hgather ?_
  refine bind_ok (require_eq_ok.mpr hcount) ?_
  refine bind_ok htransfer ?_
  refine bind_ok hgather' ?_
  exact bind_ok (require_eq_ok.mpr hsame) rfl

/-- A remap runs exactly when every rank accepts the plan, the experts are complete and the
plan's requirements on hosts and failure domains are met. -/
theorem remap_runs_iff (hrearrange : Rearranges rearrange) (hW : 0 < W) :
    (∃ models', remapExpertWeights rearrange digest bump enabled hosts models plan = .ok models') ↔
      ∃ layers : Fin W → List (Layer T),
        (∀ r : Fin W, layersForPlan (enabled r) W r (some (models r)) plan = .ok (layers r)) ∧
        checkHosts plan hosts = .ok () ∧ (∀ r, coversExperts (layers r) (oldIndices layers r)) ∧
        checkMovement plan hosts layers = .ok () := by
  constructor
  · rintro ⟨models', hrun⟩
    obtain ⟨layers, hlayers, hrun⟩ := of_bind_ok hrun
    obtain ⟨-, hrun⟩ := of_require_bind hrun
    obtain ⟨_, hhosts, hrun⟩ := of_bind_ok hrun
    obtain ⟨hcover, hrun⟩ := of_require_bind hrun
    obtain ⟨_, hmovement, -⟩ := of_bind_ok hrun
    exact ⟨layers, of_everyRank_ok hlayers, hhosts, hcover, hmovement⟩
  · rintro ⟨layers, hlayers, hhosts, hcover, hmovement⟩
    exact remapExpertWeights_runs hrearrange hW hlayers hhosts hcover hmovement

end Run

end ExpertRemap
end SpotServe
