import SpotServe.ExpertRemap.Layers

/-!
# What an accepted plan guarantees

`_layers_for_plan` returns on a rank only if the rank's expert maps are bijections between its
slots and the experts it holds, and if the plan names a rank for every expert of its layers and
gives this rank as many experts as it has slots.

* `oldLocalIds_spec`: the list of experts by slot is the inverse of the expert map.
* `newLocalIds_spec`: the experts that the plan gives the rank.
* `LayerReady`, `layersForPlan_ok`: what holds of every layer of an accepted plan.
-/

namespace SpotServe
namespace ExpertRemap

open Py Runs ExpertPlacement
open SparseA2A (ExpertMap)

/-! ## The experts in the slots -/

/-- After the entries `done`: the slots seen so far are known, and their experts are recorded. -/
structure SlotsRead (localCount : ℕ) (done : List (ℤ × ℕ)) (slots : OldSlots) : Prop where
  length : slots.oldLocal.length = localCount
  nodup : slots.seenSlots.Nodup
  lt : ∀ s ∈ slots.seenSlots, s < localCount
  seen : ∀ s ∈ slots.seenSlots, ∃ e, ((s : ℤ), e) ∈ done
  recorded : ∀ (s e : ℕ), ((s : ℤ), e) ∈ done → s ∈ slots.seenSlots ∧ slots.oldLocal[s]? = some e

theorem SlotsRead.readSlot {localCount : ℕ} {done : List (ℤ × ℕ)} {slots slots' : OldSlots}
    {entry : ℤ × ℕ} (h : SlotsRead localCount done slots)
    (hread : readSlot localCount slots entry = .ok slots') :
    SlotsRead localCount (done ++ [entry]) slots' := by
  unfold ExpertRemap.readSlot at hread
  split_ifs at hread with hneg hbad
  · -- An expert that is elsewhere.
    obtain rfl := Except.ok.inj hread
    refine ⟨h.length, h.nodup, h.lt, fun s hs => ?_, fun s e hmem => ?_⟩
    · obtain ⟨e, he⟩ := h.seen s hs
      exact ⟨e, List.mem_append_left _ he⟩
    · rcases List.mem_append.mp hmem with hold | hnew
      · exact h.recorded s e hold
      · obtain rfl := List.mem_singleton.mp hnew
        exact absurd hneg (by simp)
  · obtain rfl := Except.ok.inj hread
    obtain ⟨v, expert⟩ := entry
    obtain ⟨slot, rfl⟩ : ∃ slot : ℕ, v = (slot : ℤ) := ⟨v.toNat, by simp only at hneg; omega⟩
    simp only [Int.toNat_natCast, not_or, not_le] at hbad ⊢
    refine ⟨by rw [List.length_set, h.length], List.nodup_cons.mpr ⟨hbad.2, h.nodup⟩,
      fun s hs => ?_, fun s hs => ?_, fun s e hmem => ?_⟩
    · rcases List.mem_cons.mp hs with rfl | hold
      · exact hbad.1
      · exact h.lt s hold
    · rcases List.mem_cons.mp hs with rfl | hold
      · exact ⟨expert, by simp⟩
      · obtain ⟨e, he⟩ := h.seen s hold
        exact ⟨e, List.mem_append_left _ he⟩
    · rcases List.mem_append.mp hmem with hold | hnew
      · obtain ⟨hseen, hget⟩ := h.recorded s e hold
        have hne : slot ≠ s := fun heq => hbad.2 (heq ▸ hseen)
        exact ⟨List.mem_cons_of_mem _ hseen, by rw [List.getElem?_set_ne hne, hget]⟩
      · obtain ⟨hslot, rfl⟩ := Prod.mk.inj (List.mem_singleton.mp hnew)
        obtain rfl := Nat.cast_injective hslot
        exact ⟨List.mem_cons_self, List.getElem?_set_self (by rw [h.length]; exact hbad.1)⟩

/-- **The experts by slot** are the inverse of the expert map. -/
theorem oldLocalIds_spec {localCount : ℕ} {entries : List ℤ} {oldLocal : List ℕ}
    (h : oldLocalIds localCount entries = .ok oldLocal) :
    oldLocal.length = localCount ∧
      ∀ e s : ℕ, entries[e]? = some (s : ℤ) ↔ oldLocal[s]? = some e := by
  obtain ⟨slots, hrun, hcheck⟩ := of_bind_ok h
  obtain ⟨hfull, hreturn⟩ := of_require_bind hcheck
  obtain rfl : slots.oldLocal = oldLocal := Except.ok.inj hreturn
  have hread : SlotsRead localCount entries.zipIdx slots :=
    foldlM_of_ok (SlotsRead localCount)
      (fun done entry rest st st' _ hinv hstep => hinv.readSlot hstep)
      ⟨List.length_replicate, List.nodup_nil, by simp, by simp, by simp⟩ hrun
  have hzip : ∀ (s e : ℕ), ((s : ℤ), e) ∈ entries.zipIdx ↔ entries[e]? = some (s : ℤ) :=
    fun s e => List.mem_zipIdx_iff_getElem?
  refine ⟨hread.length, fun e s => ⟨fun hentry => ?_, fun hslot => ?_⟩⟩
  · exact (hread.recorded s e ((hzip s e).mpr hentry)).2
  · -- All slots have been seen, so this one has an entry, and the entry is of this expert.
    have hs : s < localCount := by
      rw [← hread.length]
      exact (List.getElem?_eq_some_iff.mp hslot).1
    have hseen : s ∈ slots.seenSlots := by
      have hsub : slots.seenSlots ⊆ List.range localCount :=
        fun s hs => List.mem_range.mpr (hread.lt s hs)
      have hperm := (hread.nodup.subperm hsub).perm_of_length_le (by rw [List.length_range, hfull])
      rw [hperm.mem_iff, List.mem_range]
      exact hs
    obtain ⟨e', he'⟩ := hread.seen s hseen
    obtain ⟨-, hget⟩ := hread.recorded s e' he'
    obtain rfl : e = e' := by
      rw [hslot, Option.some_inj] at hget
      exact hget
    exact (hzip s e).mp he'

/-! ## The experts that the plan gives a rank -/

theorem targetEpRank_lt {value : String} {epSize rank : ℕ}
    (h : targetEpRank value epSize = .ok rank) : rank < epSize := by
  unfold targetEpRank at h
  dsimp only at h
  split at h
  · split_ifs at h with hlt
    cases h
    exact hlt
  · exact absurd h (by simp)

theorem targetOf_lt {rankMap : OrderedDict String String} {epSize layerId expertId rank : ℕ}
    (h : targetOf rankMap epSize layerId expertId = .ok rank) : rank < epSize := by
  unfold targetOf at h
  split at h
  · exact absurd h (by simp)
  · exact targetEpRank_lt h

theorem newLocalIds_spec {rankMap : OrderedDict String String}
    {epSize epRank layerId expertCount : ℕ} {newLocal : List ℕ}
    (h : newLocalIds rankMap epSize epRank layerId expertCount = .ok newLocal) :
    (∀ e < expertCount, ∃ rank, targetOf rankMap epSize layerId e = .ok rank) ∧
      newLocal = (List.range expertCount).filter fun e =>
        targetOf rankMap epSize layerId e = .ok epRank := by
  have hinv := foldlM_of_ok (fun (done : List ℕ) (newLocal : List ℕ) =>
      (∀ e ∈ done, ∃ rank, targetOf rankMap epSize layerId e = .ok rank) ∧
        newLocal = done.filter fun e => targetOf rankMap epSize layerId e = .ok epRank)
    (fun done e rest newLocal newLocal' _ hinv hstep => by
      obtain ⟨rank, hrank, hreturn⟩ := of_bind_ok hstep
      obtain rfl := Except.ok.inj hreturn
      refine ⟨fun e' he' => ?_, ?_⟩
      · rcases List.mem_append.mp he' with hold | hnew
        · exact hinv.1 e' hold
        · rw [List.mem_singleton.mp hnew]
          exact ⟨rank, hrank⟩
      · rw [List.filter_append, ← hinv.2, List.filter_singleton, hrank]
        by_cases heq : rank = epRank
        · simp [heq]
        · simp [heq])
    ⟨by simp, by simp⟩ h
  exact ⟨fun e he => hinv.1 e (List.mem_range.mpr he), hinv.2⟩

/-! ## Layers -/

section Layers

variable {T O : Type} {epSize epRank : ℕ} {plan : RemapPlan}

/-- What the checks on one module guarantee. -/
structure LayerReady (epSize epRank : ℕ) (plan : RemapPlan) (layer : Layer T) : Prop where
  layerId : layerIdOf layer.name = some layer.index
  expertMap : layer.module.expertMap = some layer.expertMap
  local_pos : 1 ≤ layer.module.localNumExperts
  even : layer.module.globalNumExperts = epSize * layer.module.localNumExperts
  map_length : layer.expertMap.entries.length = layer.module.globalNumExperts
  old : oldLocalIds layer.module.localNumExperts layer.expertMap.entries = .ok layer.oldLocalIds
  new : newLocalIds plan.expertToTargetRank epSize epRank layer.index
    layer.module.globalNumExperts = .ok layer.newLocalIds
  new_length : layer.newLocalIds.length = layer.module.localNumExperts
  weight_count : layer.module.weights.length = 2
  rows : ∀ weight ∈ layer.module.weights, weight.rows.length = layer.module.localNumExperts

/-- The first dimension of the first weight is the number of slots. -/
theorem LayerReady.length_firstRow {layer : Layer T} (h : LayerReady epSize epRank plan layer) :
    ((layer.module.weights.map ExpertWeight.shape).head?.bind List.head?).getD 0 =
      layer.module.localNumExperts := by
  have hcount := h.weight_count
  cases hweights : layer.module.weights with
  | nil =>
    rw [hweights] at hcount
    exact absurd hcount (by simp)
  | cons weight rest =>
    have hrows := h.rows weight (by rw [hweights]; exact List.mem_cons_self)
    simpa [ExpertWeight.shape] using hrows

theorem checkLayout_ok {m : FusedMoE T} (h : checkLayout epSize epRank plan m = .ok ()) :
    1 ≤ m.localNumExperts ∧ m.globalNumExperts = epSize * m.localNumExperts := by
  obtain ⟨-, h⟩ := of_require_bind h
  obtain ⟨-, h⟩ := of_require_bind h
  obtain ⟨-, h⟩ := of_require_bind h
  obtain ⟨-, h⟩ := of_require_bind h
  obtain ⟨-, h⟩ := of_require_bind h
  obtain ⟨_, -, h⟩ := of_bind_ok h
  obtain ⟨_, -, h⟩ := of_bind_ok h
  exact require_eq_ok.mp h

theorem layerOf_ok {name : String} {position : ℕ} {m : FusedMoE T} {layer : Layer T}
    (h : layerOf epSize epRank plan name position m = .ok layer) :
    layer.name = name ∧ layer.position = position ∧ layer.module = m ∧
      LayerReady epSize epRank plan layer := by
  unfold layerOf at h
  split at h
  · exact absurd h (by simp)
  next layerId hid =>
    obtain ⟨_, hlayout, h⟩ := of_bind_ok h
    obtain ⟨hpos, heven⟩ := checkLayout_ok hlayout
    split at h
    · exact absurd h (by simp)
    next expertMap hmap =>
      obtain ⟨hlength, h⟩ := of_require_bind h
      obtain ⟨oldLocal, hold, h⟩ := of_bind_ok h
      obtain ⟨newLocal, hnew, h⟩ := of_bind_ok h
      obtain ⟨hcount, h⟩ := of_require_bind h
      obtain ⟨hweights, h⟩ := of_require_bind h
      obtain rfl := Except.ok.inj h
      exact ⟨rfl, rfl, rfl, hid, hmap, hpos, heven, hlength, hold, hnew, hcount, hweights.1,
        fun weight hweight => (hweights.2 weight hweight).1⟩

theorem mem_fusedModules {model : Model T O} {name : String} {position : ℕ} {m : FusedMoE T} :
    (name, position, m) ∈ fusedModules model ↔ model[position]? = some (name, .fusedMoE m) := by
  unfold fusedModules
  rw [List.mem_filterMap]
  constructor
  · rintro ⟨⟨⟨name', m'⟩, position'⟩, hmem, heq⟩
    rw [List.mem_zipIdx_iff_getElem?] at hmem
    cases m' with
    | other content => exact absurd heq (by simp)
    | fusedMoE layer =>
      simp only [Option.some.injEq, Prod.mk.injEq] at heq
      obtain ⟨rfl, rfl, rfl⟩ := heq
      exact hmem
  · intro h
    exact ⟨((name, .fusedMoE m), position), List.mem_zipIdx_iff_getElem?.mpr h, rfl⟩

theorem nodup_positions (model : Model T O) :
    ((fusedModules model).map fun entry => entry.2.1).Nodup := by
  have hsub : List.Sublist ((fusedModules model).map fun entry => entry.2.1)
      (model.zipIdx.map Prod.snd) := by
    unfold fusedModules
    induction model.zipIdx with
    | nil => exact List.Sublist.slnil
    | cons entry rest ih =>
      obtain ⟨⟨name, m⟩, position⟩ := entry
      cases m with
      | other content => exact ih.cons position
      | fusedMoE layer => exact ih.cons_cons position
  refine List.Nodup.sublist hsub ?_
  rw [List.zipIdx_map_snd]
  exact List.nodup_range'

/-- **What an accepted plan guarantees on a rank.** -/
structure Accepted (epSize epRank : ℕ) (plan : RemapPlan) (model : Model T O)
    (layers : List (Layer T)) : Prop where
  two_ranks : 2 ≤ epSize
  nonempty : layers ≠ []
  ready : ∀ layer ∈ layers, LayerReady epSize epRank plan layer
  placed : ∀ layer ∈ layers, model[layer.position]? = some (layer.name, .fusedMoE layer.module)
  all : ∀ p name m, model[p]? = some (name, .fusedMoE m) → ∃ layer ∈ layers, layer.position = p
  positions : (layers.map Layer.position).Nodup
  keys : ∀ key ∈ plan.expertToTargetRank.keys, key ∈ layerKeys layers
  sorted : (layers.map Layer.index).Pairwise (· < ·)
  uniform : ∀ layer ∈ layers, ∀ layer' ∈ layers,
    layer.module.localNumExperts = layer'.module.localNumExperts

/-- The layers of an accepted plan have different ids. -/
theorem Accepted.eq_of_index_eq {epSize epRank : ℕ} {model : Model T O} {layers : List (Layer T)}
    (h : Accepted epSize epRank plan model layers) {layer layer' : Layer T} (hlayer : layer ∈ layers)
    (hlayer' : layer' ∈ layers) (hindex : layer.index = layer'.index) : layer = layer' :=
  List.inj_on_of_nodup_map (h.sorted.imp fun h => Nat.ne_of_lt h) hlayer hlayer' hindex

theorem checkPlan_ok {enabled available : Bool} (h : checkPlan enabled available epSize plan = .ok ()) :
    2 ≤ epSize := by
  obtain ⟨-, h⟩ := of_require_bind h
  obtain ⟨-, h⟩ := of_require_bind h
  obtain ⟨-, h⟩ := of_require_bind h
  obtain ⟨-, h⟩ := of_require_bind h
  obtain ⟨-, h⟩ := of_require_bind h
  obtain ⟨-, h⟩ := of_require_bind h
  obtain ⟨-, h⟩ := of_require_bind h
  obtain ⟨htwo, -⟩ := of_require_bind h
  exact htwo

theorem checkLayers_ok {layers sorted : List (Layer T)} (h : checkLayers plan layers = .ok sorted) :
    sorted.Perm layers ∧ layers ≠ [] ∧
      (∀ key ∈ plan.expertToTargetRank.keys, key ∈ layerKeys layers) ∧
      (sorted.map Layer.index).Pairwise (· < ·) ∧
      ∀ layer ∈ sorted, ∀ layer' ∈ sorted,
        layer.module.weights.map ExpertWeight.shape =
          layer'.module.weights.map ExpertWeight.shape := by
  obtain ⟨hne, h⟩ := of_require_bind h
  obtain ⟨hkeys, h⟩ := of_require_bind h
  obtain ⟨hnodup, h⟩ := of_require_bind h
  obtain ⟨hlayout, h⟩ := of_require_bind h
  obtain rfl := Except.ok.inj h
  refine ⟨List.perm_insertionSort _ _, hne, hkeys, ?_, ?_⟩
  · have hle := List.pairwise_insertionSort (fun a b : Layer T => a.index ≤ b.index) layers
    have hle' := List.pairwise_map.mpr hle
    exact (hle'.and hnodup).imp fun h => lt_of_le_of_ne h.1 h.2
  · intro layer hlayer layer' hlayer'
    have heq := (hlayout layer hlayer).trans (hlayout layer' hlayer').symm
    exact (Prod.mk.inj (Option.some.inj heq)).1

theorem layersForPlan_ok {enabled : Bool} {model : Model T O} {layers : List (Layer T)}
    (h : layersForPlan enabled epSize epRank (some model) plan = .ok layers) :
    Accepted epSize epRank plan model layers := by
  obtain ⟨_, hplan, h⟩ := of_bind_ok h
  obtain ⟨unsorted, hmap, hcheck⟩ := of_bind_ok h
  obtain ⟨hperm, hne, hkeys, hsorted, hshapes⟩ := checkLayers_ok hcheck
  have hall := forall₂_of_mapM_ok hmap
  have hready : ∀ layer ∈ unsorted, LayerReady epSize epRank plan layer ∧
      model[layer.position]? = some (layer.name, .fusedMoE layer.module) := by
    intro layer hlayer
    obtain ⟨⟨name, position, m⟩, hmem, hlayerOf⟩ := exists_of_mem_right hall hlayer
    obtain ⟨rfl, rfl, rfl, hready⟩ := layerOf_ok hlayerOf
    exact ⟨hready, mem_fusedModules.mp hmem⟩
  have hpositions : unsorted.map Layer.position =
      (fusedModules model).map fun entry => entry.2.1 := by
    refine (List.forall₂_eq_eq_eq ▸ List.forall₂_map_left_iff.mpr
      (List.forall₂_map_right_iff.mpr (hall.imp fun entry layer hlayerOf => ?_)) :
        (fusedModules model).map (fun entry => entry.2.1) = unsorted.map Layer.position).symm
    exact (layerOf_ok hlayerOf).2.1.symm
  refine ⟨checkPlan_ok hplan, ?_, fun layer hlayer => (hready layer (hperm.mem_iff.mp hlayer)).1,
    fun layer hlayer => (hready layer (hperm.mem_iff.mp hlayer)).2, ?_, ?_, ?_, hsorted, ?_⟩
  · intro hempty
    rw [hempty] at hperm
    exact hne hperm.symm.eq_nil
  · intro p name m hget
    obtain ⟨layer, hlayer, hlayerOf⟩ := exists_of_mem_left hall (mem_fusedModules.mpr hget)
    exact ⟨layer, hperm.mem_iff.mpr hlayer, (layerOf_ok hlayerOf).2.1⟩
  · rw [(hperm.map Layer.position).nodup_iff, hpositions]
    exact nodup_positions model
  · intro key hkey
    obtain ⟨layer, hlayer, hmem⟩ := List.mem_flatMap.mp (hkeys key hkey)
    exact List.mem_flatMap.mpr ⟨layer, hperm.mem_iff.mpr hlayer, hmem⟩
  · intro layer hlayer layer' hlayer'
    rw [← (hready layer (hperm.mem_iff.mp hlayer)).1.length_firstRow,
      ← (hready layer' (hperm.mem_iff.mp hlayer')).1.length_firstRow,
      hshapes layer hlayer layer' hlayer']

end Layers

end ExpertRemap
end SpotServe
