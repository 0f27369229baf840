import SpotServe.ExpertPlacement.HotnessSnapshot

/-!
# Hotness is a distribution per layer

The balancing strategies compare the loads of ranks across layers, so a layer that was sampled ten
times must not weigh less than one that was sampled a thousand times.  They rely on the snapshot for
it: in a snapshot that is available every layer with hotness has it for all of its experts, and it
sums to one, whichever of the two histograms was usable and whatever their form.

* `recordedCount`, `SampledBy`: what a histogram says, read off as it was handed over.
* `canonicalHistogram_spec`: an accepted histogram keeps its counts.
* `isDistribution_expertHotness`: a layer that one of the histograms covers.
* `Frozen.freezeLayer`, `frozen_freezeLayers`: one layer, and the loop.
* `hotness_isDistribution`: the snapshot.
* `sum_rankLoads_of_available`: what the balancing relies on.
-/

namespace SpotServe
namespace ExpertPlacement

open Py Distributions

/-! ## What a histogram says -/

/-- The counts that the items of a mapping give an expert, in their order. -/
def countsOf (items : Dict) (layerId expertId : ℕ) : List ℚ :=
  items.filterMap fun item =>
    if canonicalExpertKey item.1 = some (layerId, expertId) then item.2.float? else none

/-- The count that a histogram records for an expert; the last of several entries counts. -/
def recordedCount (raw : Option Value) (layerId expertId : ℕ) : Option ℚ :=
  match raw with
  | some (.dict items) => (countsOf items layerId expertId).getLast?
  | _ => none

/-- A layer that a histogram samples: every expert is spoken for, and the total is positive. -/
def SampledBy (raw : Option Value) (completeSparse : Bool) (numExperts layerId : ℕ) : Prop :=
  (completeSparse = true ∨
    ∀ expertId < numExperts, (recordedCount raw layerId expertId).isSome = true) ∧
  0 < ((List.range numExperts).map fun expertId =>
    (recordedCount raw layerId expertId).getD 0).sum

instance (raw : Option Value) (completeSparse : Bool) (numExperts layerId : ℕ) :
    Decidable (SampledBy raw completeSparse numExperts layerId) :=
  inferInstanceAs (Decidable (_ ∧ _))

theorem getLast?_countsOf_cons (item : String × Value) (items : Dict) (layerId expertId : ℕ) :
    (countsOf (item :: items) layerId expertId).getLast? =
      (countsOf items layerId expertId).getLast?.or
        (if canonicalExpertKey item.1 = some (layerId, expertId) then item.2.float? else none) := by
  unfold countsOf
  rw [List.filterMap_cons]
  split
  · rename_i hnone
    rw [hnone, Option.or_none]
  · rename_i count hsome
    rw [hsome, List.getLast?_cons]
    cases (items.filterMap fun item =>
      if canonicalExpertKey item.1 = some (layerId, expertId) then item.2.float?
      else none).getLast? <;> rfl

/-- What one item of an accepted histogram does: it names no expert and is passed over, or it sets
the count of the expert that it names. -/
theorem canonicalItems_cons {numLayers numExperts : ℕ} {item : String × Value} {items : Dict}
    {normalized : Hotness}
    (h : (canonicalItems numLayers numExperts (item :: items) normalized).2 = "ok") :
    (canonicalExpertKey item.1 = none ∧
      canonicalItems numLayers numExperts (item :: items) normalized =
        canonicalItems numLayers numExperts items normalized) ∨
    ∃ layerId expertId count, canonicalExpertKey item.1 = some (layerId, expertId) ∧
      item.2.float? = some count ∧ 0 ≤ count ∧
      canonicalItems numLayers numExperts (item :: items) normalized =
        canonicalItems numLayers numExperts items
          (normalized.set (expertKey layerId expertId) count) := by
  obtain ⟨key, value⟩ := item
  rw [canonicalItems] at h ⊢
  cases hkey : canonicalExpertKey key with
  | none =>
    rw [hkey] at h
    simp only at h ⊢
    by_cases hvalue : value.float?.any (0 < ·) = true
    · rw [if_pos hvalue] at h
      exact absurd h (by simp)
    · rw [if_neg hvalue]
      exact Or.inl ⟨trivial, rfl⟩
  | some expert =>
    obtain ⟨layerId, expertId⟩ := expert
    rw [hkey] at h
    simp only at h ⊢
    by_cases hrange : numLayers ≤ layerId ∨ numExperts ≤ expertId
    · rw [if_pos hrange] at h
      exact absurd h (by simp)
    rw [if_neg hrange] at h ⊢
    cases hvalue : value.float? with
    | none =>
      rw [hvalue] at h
      exact absurd h (by simp)
    | some count =>
      rw [hvalue] at h
      simp only at h ⊢
      by_cases hcount : count < 0
      · rw [if_pos hcount] at h
        exact absurd h (by simp)
      · rw [if_neg hcount]
        exact Or.inr ⟨layerId, expertId, count, rfl, rfl, not_lt.mp hcount, rfl⟩

/-- No count of a histogram is negative. -/
def NonnegCounts (counts : Hotness) : Prop :=
  ∀ key count, counts.get? key = some count → 0 ≤ count

theorem NonnegCounts.set {counts : Hotness} (h : NonnegCounts counts) (key : String) {count : ℚ}
    (hcount : 0 ≤ count) : NonnegCounts (counts.set key count) := by
  intro key' count' hget
  rw [OrderedDict.get?_set] at hget
  split_ifs at hget with heq
  · cases hget
    exact hcount
  · exact h key' count' hget

theorem NonnegCounts.hotnessOf {counts : Hotness} (h : NonnegCounts counts)
    (layerId expertId : ℕ) : 0 ≤ hotnessOf counts layerId expertId := by
  rw [ExpertPlacement.hotnessOf]
  cases hget : counts.get? (expertKey layerId expertId) with
  | none => exact le_rfl
  | some count => exact h _ _ hget

/-- **The loop over the items**: over what is written already stands what the items record. -/
theorem canonicalItems_spec {numLayers numExperts : ℕ} {items : Dict} {normalized : Hotness}
    (h : (canonicalItems numLayers numExperts items normalized).2 = "ok")
    (hnonneg : NonnegCounts normalized) :
    (∀ layerId expertId,
      (canonicalItems numLayers numExperts items normalized).1.get? (expertKey layerId expertId) =
        (countsOf items layerId expertId).getLast?.or
          (normalized.get? (expertKey layerId expertId))) ∧
    NonnegCounts (canonicalItems numLayers numExperts items normalized).1 := by
  induction items generalizing normalized with
  | nil => exact ⟨fun layerId expertId => rfl, hnonneg⟩
  | cons item items ih =>
    obtain ⟨hkey, heq⟩ | ⟨layer, index, count, hkey, hvalue, hcount, heq⟩ := canonicalItems_cons h
    · rw [heq] at h ⊢
      obtain ⟨hcounts, hresult⟩ := ih h hnonneg
      refine ⟨fun layerId expertId => ?_, hresult⟩
      rw [hcounts, getLast?_countsOf_cons, hkey, if_neg (by simp), Option.or_none]
    · rw [heq] at h ⊢
      obtain ⟨hcounts, hresult⟩ := ih h (hnonneg.set _ hcount)
      refine ⟨fun layerId expertId => ?_, hresult⟩
      rw [hcounts, getLast?_countsOf_cons, OrderedDict.get?_set, Option.or_assoc, hkey, hvalue]
      by_cases hexpert : layer = layerId ∧ index = expertId
      · rw [if_pos (expertKey_inj.mpr hexpert), if_pos (by rw [hexpert.1, hexpert.2]),
          Option.some_or]
      · rw [if_neg fun htext => hexpert (expertKey_inj.mp htext),
          if_neg fun hpair => hexpert (Prod.mk.inj (Option.some.inj hpair)), Option.none_or]

theorem canonicalItems_ne_missing {numLayers numExperts : ℕ} (items : Dict)
    (normalized : Hotness) :
    (canonicalItems numLayers numExperts items normalized).2 ≠ "missing" := by
  induction items generalizing normalized with
  | nil => simp [canonicalItems]
  | cons item items ih =>
    rw [canonicalItems]
    split
    · split_ifs
      · simp
      · exact ih _
    · split_ifs
      · simp
      · split
        · split_ifs
          · simp
          · exact ih _
        · simp

/-- Counts that are what a histogram records, none of them negative. -/
structure Reads (raw : Option Value) (counts : Hotness) : Prop where
  counts_eq : ∀ layerId expertId,
    counts.get? (expertKey layerId expertId) = recordedCount raw layerId expertId
  nonneg : NonnegCounts counts

/-- **An accepted histogram keeps its counts**, and none of them is negative. -/
theorem canonicalHistogram_spec {numLayers numExperts : ℕ} {raw : Option Value}
    (h : (canonicalHistogram numLayers numExperts raw).2 = "ok" ∨
      (canonicalHistogram numLayers numExperts raw).2 = "missing") :
    Reads raw (canonicalHistogram numLayers numExperts raw).1 := by
  have hempty : NonnegCounts .empty := fun key count hget => absurd hget (by simp)
  cases raw with
  | none => exact ⟨fun layerId expertId => rfl, hempty⟩
  | some value =>
    cases value with
    | none => exact ⟨fun layerId expertId => rfl, hempty⟩
    | dict items =>
      have hok : (canonicalItems numLayers numExperts items .empty).2 = "ok" :=
        h.resolve_right (canonicalItems_ne_missing _ _)
      obtain ⟨hcounts, hnonneg⟩ := canonicalItems_spec hok hempty
      refine ⟨fun layerId expertId => ?_, hnonneg⟩
      rw [canonicalHistogram, hcounts, OrderedDict.get?_empty, Option.or_none, recordedCount]
    | bool b => simp [canonicalHistogram] at h
    | int n => simp [canonicalHistogram] at h
    | float q text => simp [canonicalHistogram] at h
    | str s => simp [canonicalHistogram] at h
    | list xs => simp [canonicalHistogram] at h

/-! ## One layer -/

/-- The validity that the code computes is the sampling of the histogram as it was handed over. -/
theorem Reads.layerValid_iff {raw : Option Value} {counts : Hotness} (h : Reads raw counts)
    (completeSparse : Bool) (numExperts layerId : ℕ) :
    layerValid numExperts completeSparse counts layerId = true ↔
      SampledBy raw completeSparse numExperts layerId := by
  have hread : hotnessOf counts layerId =
      fun expertId => (recordedCount raw layerId expertId).getD 0 := by
    funext expertId
    rw [hotnessOf, h.counts_eq]
  simp [layerValid, layerComplete, countedTotal, SampledBy, hread, h.counts_eq]

/-- **The shares of a valid layer are a distribution.** -/
theorem isDistribution_shareOf {numExperts layerId : ℕ} {completeSparse : Bool} {counts : Hotness}
    (hnonneg : NonnegCounts counts)
    (hvalid : layerValid numExperts completeSparse counts layerId = true) :
    IsDistribution (List.range numExperts) (shareOf numExperts completeSparse counts layerId) := by
  have htotal : 0 < ((List.range numExperts).map (hotnessOf counts layerId)).sum := by
    rw [layerValid, Bool.and_eq_true, decide_eq_true_iff] at hvalid
    exact hvalid.2
  refine (IsDistribution.share (fun expertId _ => hnonneg.hotnessOf layerId expertId)
    htotal).congr fun expertId _ => ?_
  rw [shareOf, if_pos hvalid, countedTotal]

section Layers

variable (numExperts : ℕ) (alpha : ℚ) (completeSparse : Bool) (globalCounts recentCounts : Hotness)

/-- A layer that one of the two histograms covers. -/
def layerCovered (layerId : ℕ) : Bool :=
  layerValid numExperts completeSparse globalCounts layerId ||
    layerValid numExperts completeSparse recentCounts layerId

/-- **The hotness of a covered layer is a distribution**, in each of the three cases. -/
theorem isDistribution_expertHotness {alpha : ℚ} (halpha : 0 ≤ alpha ∧ alpha ≤ 1)
    {globalCounts recentCounts : Hotness} (hglobal : NonnegCounts globalCounts)
    (hrecent : NonnegCounts recentCounts) {layerId : ℕ}
    (hcovered : layerCovered numExperts completeSparse globalCounts recentCounts layerId = true) :
    IsDistribution (List.range numExperts)
      (expertHotness numExperts alpha completeSparse globalCounts recentCounts layerId) := by
  rw [layerCovered, Bool.or_eq_true] at hcovered
  by_cases hr : layerValid numExperts completeSparse recentCounts layerId = true
  · have hshares := isDistribution_shareOf hrecent hr
    by_cases hg : layerValid numExperts completeSparse globalCounts layerId = true
    · refine (hshares.mix (isDistribution_shareOf hglobal hg) halpha.1 halpha.2).congr
        fun expertId _ => ?_
      simp [expertHotness, hg, hr]
    · exact hshares.congr fun expertId _ => by simp [expertHotness, hg, hr]
  · have hg := hcovered.resolve_right hr
    exact (isDistribution_shareOf hglobal hg).congr fun expertId _ => by
      simp [expertHotness, hr]

/-! ## The loop over the layers -/

/-- The inner loop writes the experts of its layer and nothing else. -/
theorem get?_foldl_set (value : ℕ → ℚ) (hotness : Hotness) (layerId count : ℕ)
    (layerId' expertId' : ℕ) :
    ((List.range count).foldl
      (fun hotness expertId => hotness.set (expertKey layerId expertId) (value expertId))
      hotness).get? (expertKey layerId' expertId') =
      if layerId' = layerId ∧ expertId' < count then some (value expertId')
      else hotness.get? (expertKey layerId' expertId') := by
  induction count with
  | zero => simp
  | succ count ih =>
    rw [List.range_succ, List.foldl_append, List.foldl_cons, List.foldl_nil, OrderedDict.get?_set,
      ih]
    by_cases hexpert : layerId = layerId' ∧ count = expertId'
    · obtain ⟨rfl, rfl⟩ := hexpert
      rw [if_pos rfl, if_pos ⟨rfl, Nat.lt_succ_self count⟩]
    · rw [if_neg fun htext => hexpert (expertKey_inj.mp htext)]
      refine if_congr (and_congr_right fun hlayer => ?_) rfl rfl
      have hne : count ≠ expertId' := fun heq => hexpert ⟨hlayer.symm, heq⟩
      omega

theorem mem_keys_foldl_set {value : ℕ → ℚ} {hotness : Hotness} {layerId count : ℕ} {key : String}
    (h : key ∈ ((List.range count).foldl
      (fun hotness expertId => hotness.set (expertKey layerId expertId) (value expertId))
      hotness).keys) :
    (∃ expertId < count, key = expertKey layerId expertId) ∨ key ∈ hotness.keys := by
  induction count with
  | zero => exact Or.inr h
  | succ count ih =>
    rw [List.range_succ, List.foldl_append, List.foldl_cons, List.foldl_nil,
      OrderedDict.mem_keys_set] at h
    rcases h with rfl | h
    · exact Or.inl ⟨count, Nat.lt_succ_self count, rfl⟩
    · obtain ⟨expertId, hlt, hkey⟩ | hold := ih h
      · exact Or.inl ⟨expertId, Nat.lt_succ_of_lt hlt, hkey⟩
      · exact Or.inr hold

/-- The tables after the first layers: the experts of the covered ones have their hotness. -/
structure Frozen (layers : ℕ) (tables : LayerTables) : Prop where
  get?_eq : ∀ layerId expertId, tables.hotness.get? (expertKey layerId expertId) =
    if (layerId < layers ∧ expertId < numExperts) ∧
        layerCovered numExperts completeSparse globalCounts recentCounts layerId = true then
      some (expertHotness numExperts alpha completeSparse globalCounts recentCounts layerId
        expertId)
    else none
  keys : ∀ key ∈ tables.hotness.keys,
    ∃ layerId < layers, ∃ expertId < numExperts, key = expertKey layerId expertId
  covered : tables.coveredLayers =
    (List.range layers).countP (layerCovered numExperts completeSparse globalCounts recentCounts)

variable {numExperts alpha completeSparse globalCounts recentCounts}

/-- A layer that no histogram covers is passed over. -/
theorem freezeLayer_of_not_covered (tables : LayerTables) {layerId : ℕ}
    (h : layerCovered numExperts completeSparse globalCounts recentCounts layerId = false) :
    freezeLayer numExperts alpha completeSparse globalCounts recentCounts tables layerId =
      tables := by
  rw [layerCovered, Bool.or_eq_false_iff] at h
  simp [freezeLayer, h]

/-- A covered layer is counted, and its experts are written. -/
theorem freezeLayer_of_covered (alpha : ℚ) (tables : LayerTables) {layerId : ℕ}
    (h : layerCovered numExperts completeSparse globalCounts recentCounts layerId = true) :
    (freezeLayer numExperts alpha completeSparse globalCounts recentCounts tables layerId).hotness =
      (List.range numExperts).foldl
        (fun hotness expertId => hotness.set (expertKey layerId expertId)
          (expertHotness numExperts alpha completeSparse globalCounts recentCounts layerId
            expertId))
        tables.hotness ∧
    (freezeLayer numExperts alpha completeSparse globalCounts recentCounts tables
      layerId).coveredLayers = tables.coveredLayers + 1 := by
  rw [layerCovered, Bool.or_eq_true] at h
  rcases h with h | h <;> simp [freezeLayer, h]

/-- **One layer.** -/
theorem Frozen.freezeLayer {layers : ℕ} {tables : LayerTables}
    (h : Frozen numExperts alpha completeSparse globalCounts recentCounts layers tables) :
    Frozen numExperts alpha completeSparse globalCounts recentCounts (layers + 1)
      (freezeLayer numExperts alpha completeSparse globalCounts recentCounts tables layers) := by
  have hweaken : ∀ key, (∃ layerId < layers, ∃ expertId < numExperts,
      key = expertKey layerId expertId) →
      ∃ layerId < layers + 1, ∃ expertId < numExperts, key = expertKey layerId expertId :=
    fun key ⟨layerId, hlt, hkey⟩ => ⟨layerId, Nat.lt_succ_of_lt hlt, hkey⟩
  cases hcovered : layerCovered numExperts completeSparse globalCounts recentCounts layers with
  | false =>
    rw [freezeLayer_of_not_covered tables hcovered]
    refine ⟨fun layerId expertId => ?_, fun key hkey => hweaken key (h.keys key hkey), ?_⟩
    · rw [h.get?_eq]
      refine if_congr (and_congr_left fun hvalid => and_congr_left fun _ => ?_) rfl rfl
      have hne : layerId ≠ layers := by
        rintro rfl
        rw [hcovered] at hvalid
        exact absurd hvalid (by simp)
      omega
    · rw [List.range_succ, List.countP_append, List.countP_singleton, hcovered, h.covered]
      rfl
  | true =>
    obtain ⟨hhotness, hcount⟩ := freezeLayer_of_covered alpha tables hcovered
    refine ⟨fun layerId expertId => ?_, fun key hkey => ?_, ?_⟩
    · rw [hhotness, get?_foldl_set, h.get?_eq]
      by_cases hlayer : layerId = layers
      · subst hlayer
        simp [hcovered]
      · rw [if_neg fun hboth => hlayer hboth.1]
        refine if_congr (and_congr_left fun _ => and_congr_left fun _ => ?_) rfl rfl
        omega
    · rw [hhotness] at hkey
      obtain ⟨expertId, hlt, rfl⟩ | hold := mem_keys_foldl_set hkey
      · exact ⟨layers, Nat.lt_succ_self layers, expertId, hlt, rfl⟩
      · exact hweaken key (h.keys key hold)
    · rw [hcount, List.range_succ, List.countP_append, List.countP_singleton, hcovered, h.covered]
      rfl

variable (numExperts alpha completeSparse globalCounts recentCounts)

/-- **The loop over the layers.** -/
theorem frozen_freezeLayers (numLayers : ℕ) :
    Frozen numExperts alpha completeSparse globalCounts recentCounts numLayers
      (freezeLayers numLayers numExperts alpha completeSparse globalCounts recentCounts) := by
  induction numLayers with
  | zero => exact ⟨fun layerId expertId => by simp [freezeLayers], by simp [freezeLayers], rfl⟩
  | succ layers ih =>
    rw [freezeLayers, List.range_succ, List.foldl_append, List.foldl_cons, List.foldl_nil]
    exact ih.freezeLayer

end Layers

/-! ## The snapshot -/

/-- The global histogram, as it is handed over. -/
def globalHistogram (modelConfig plannerConfig : Dict) : Option Value :=
  (hotnessContractSource modelConfig plannerConfig).1.lookup "global_expert_hotness"

/-- The histogram of the recent window, as it is handed over. -/
def recentHistogram (modelConfig plannerConfig : Dict) : Option Value :=
  (hotnessContractSource modelConfig plannerConfig).1.lookup "recent_window_expert_hotness"

/-- A layer that the global or the recent histogram samples. -/
def SampledLayer (modelConfig plannerConfig : Dict) (numExperts layerId : ℕ) : Prop :=
  let completeSparse :=
    (hotnessContract (hotnessContractSource modelConfig plannerConfig).1).completeSparse
  SampledBy (globalHistogram modelConfig plannerConfig) completeSparse numExperts layerId ∨
    SampledBy (recentHistogram modelConfig plannerConfig) completeSparse numExperts layerId

instance (modelConfig plannerConfig : Dict) (numExperts layerId : ℕ) :
    Decidable (SampledLayer modelConfig plannerConfig numExperts layerId) :=
  inferInstanceAs (Decidable (_ ∨ _))

/-- Some expert of a layer has a hotness entry. -/
def HasEntries (hotness : Hotness) (numExperts layerId : ℕ) : Prop :=
  ∃ expertId < numExperts, expertKey layerId expertId ∈ hotness.keys

/-- What a snapshot says about the layers: none or all experts of a layer have an entry, the entries
of a layer are a distribution, a layer has entries exactly when it is sampled, and the coverage
counts these layers. -/
structure LayersNormalized (snapshot : FrozenHotness) (numLayers numExperts : ℕ)
    (sampled : ℕ → Prop) [DecidablePred sampled] : Prop where
  all_or_none : ∀ layerId < numLayers, HasEntries snapshot.hotness numExperts layerId →
    ∀ expertId < numExperts, expertKey layerId expertId ∈ snapshot.hotness.keys
  isDistribution : ∀ layerId < numLayers, HasEntries snapshot.hotness numExperts layerId →
    IsDistribution (List.range numExperts) (hotnessOf snapshot.hotness layerId)
  hasEntries_iff : ∀ layerId < numLayers,
    HasEntries snapshot.hotness numExperts layerId ↔ sampled layerId
  keys : ∀ key ∈ snapshot.hotness.keys,
    ∃ layerId < numLayers, ∃ expertId < numExperts, key = expertKey layerId expertId
  layerCoverage : snapshot.layerCoverage * numLayers =
    (List.range numLayers).countP fun layerId => sampled layerId

theorem alphaOf_mem (value : Option ℚ) : 0 ≤ alphaOf value ∧ alphaOf value ≤ 1 := by
  have hdefault : (0 : ℚ) ≤ 8 / 10 ∧ (8 / 10 : ℚ) ≤ 1 := by norm_num
  cases value with
  | none => exact hdefault
  | some alpha =>
    rw [alphaOf]
    split_ifs with halpha
    · exact halpha
    · exact hdefault

theorem hotnessAlpha_mem (sources : List Dict) :
    0 ≤ hotnessAlpha sources ∧ hotnessAlpha sources ≤ 1 := by
  rw [hotnessAlpha]
  split
  · exact alphaOf_mem _
  · exact alphaOf_mem _

theorem reason_of_invalidReason {sources : List Dict} {reason : String} {tables : LayerTables}
    {contract : HotnessContract} {ageS : Option ℚ}
    (h : invalidReason sources reason tables contract ageS = "") : reason = "" := by
  by_contra hreason
  simp only [invalidReason, if_pos (show reason ≠ "" from hreason)] at h
  exact hreason h

/-- Where the contract holds, both histograms were accepted or missing. -/
theorem accepted_of_contractReason {source : Dict} {sourceLabel globalReason recentReason : String}
    (h : contractReason source sourceLabel globalReason recentReason = "") :
    (globalReason = "ok" ∨ globalReason = "missing") ∧
      (recentReason = "ok" ∨ recentReason = "missing") := by
  simp only [contractReason] at h
  by_cases hlabel : sourceLabel = "unavailable"
  · rw [if_pos hlabel] at h
    exact absurd h (by simp)
  rw [if_neg hlabel] at h
  by_cases hglobal : globalReason ≠ "ok" ∧ globalReason ≠ "missing"
  · rw [if_pos hglobal] at h
    exact absurd h (by simp)
  rw [if_neg hglobal] at h
  by_cases hrecent : recentReason ≠ "ok" ∧ recentReason ≠ "missing"
  · rw [if_pos hrecent] at h
    exact absurd h (by simp)
  · exact ⟨by tauto, by tauto⟩

/-- Covered layers are the sampled ones. -/
theorem Reads.layerCovered_iff {globalRaw recentRaw : Option Value}
    {globalCounts recentCounts : Hotness} (hglobal : Reads globalRaw globalCounts)
    (hrecent : Reads recentRaw recentCounts) (completeSparse : Bool) (numExperts layerId : ℕ) :
    layerCovered numExperts completeSparse globalCounts recentCounts layerId = true ↔
      SampledBy globalRaw completeSparse numExperts layerId ∨
        SampledBy recentRaw completeSparse numExperts layerId := by
  rw [layerCovered, Bool.or_eq_true, hglobal.layerValid_iff, hrecent.layerValid_iff]

/-- A covered layer has experts. -/
theorem pos_of_layerCovered {numExperts : ℕ} {completeSparse : Bool}
    {globalCounts recentCounts : Hotness} {layerId : ℕ}
    (h : layerCovered numExperts completeSparse globalCounts recentCounts layerId = true) :
    0 < numExperts := by
  rw [Nat.pos_iff_ne_zero]
  rintro rfl
  simp [layerCovered, layerValid, countedTotal] at h

/-- **Frozen tables answer for the snapshot that carries them.** -/
theorem Frozen.layersNormalized {numLayers numExperts : ℕ} {alpha : ℚ} {completeSparse : Bool}
    {globalCounts recentCounts : Hotness} {tables : LayerTables} {snapshot : FrozenHotness}
    {sampled : ℕ → Prop} [DecidablePred sampled]
    (h : Frozen numExperts alpha completeSparse globalCounts recentCounts numLayers tables)
    (halpha : 0 ≤ alpha ∧ alpha ≤ 1) (hglobal : NonnegCounts globalCounts)
    (hrecent : NonnegCounts recentCounts)
    (hsampled : ∀ layerId,
      layerCovered numExperts completeSparse globalCounts recentCounts layerId = true ↔
        sampled layerId)
    (hhotness : snapshot.hotness = tables.hotness)
    (hcoverage : snapshot.layerCoverage =
      if 0 < numLayers then (tables.coveredLayers : ℚ) / numLayers else 0) :
    LayersNormalized snapshot numLayers numExperts sampled := by
  have hentry : ∀ layerId < numLayers, ∀ expertId < numExperts, sampled layerId →
      snapshot.hotness.get? (expertKey layerId expertId) = some
        (expertHotness numExperts alpha completeSparse globalCounts recentCounts layerId
          expertId) := by
    intro layerId hlayer expertId hexpert hs
    rw [hhotness, h.get?_eq, if_pos ⟨⟨hlayer, hexpert⟩, (hsampled layerId).mpr hs⟩]
  have hmem : ∀ layerId < numLayers, ∀ expertId < numExperts,
      (expertKey layerId expertId ∈ snapshot.hotness.keys ↔ sampled layerId) := by
    intro layerId hlayer expertId hexpert
    rw [OrderedDict.mem_keys_iff]
    constructor
    · rintro ⟨value, hvalue⟩
      rw [hhotness, h.get?_eq] at hvalue
      split_ifs at hvalue with hcovered
      exact (hsampled layerId).mp hcovered.2
    · exact fun hs => ⟨_, hentry layerId hlayer expertId hexpert hs⟩
  have hsome : ∀ layerId < numLayers,
      (HasEntries snapshot.hotness numExperts layerId ↔ sampled layerId) := by
    intro layerId hlayer
    constructor
    · rintro ⟨expertId, hexpert, hkey⟩
      exact (hmem layerId hlayer expertId hexpert).mp hkey
    · intro hs
      have hpos := pos_of_layerCovered ((hsampled layerId).mpr hs)
      exact ⟨0, hpos, (hmem layerId hlayer 0 hpos).mpr hs⟩
  refine ⟨fun layerId hlayer hhas expertId hexpert => ?_, fun layerId hlayer hhas => ?_, hsome,
    fun key hkey => h.keys key (hhotness ▸ hkey), ?_⟩
  · exact (hmem layerId hlayer expertId hexpert).mpr ((hsome layerId hlayer).mp hhas)
  · have hs := (hsome layerId hlayer).mp hhas
    refine (isDistribution_expertHotness numExperts completeSparse halpha hglobal hrecent
      ((hsampled layerId).mpr hs)).congr fun expertId hexpert => ?_
    rw [hotnessOf, hentry layerId hlayer expertId (List.mem_range.mp hexpert) hs, Option.getD_some]
  · rw [hcoverage]
    rcases Nat.eq_zero_or_pos numLayers with rfl | hpos
    · simp
    · have hne : (numLayers : ℚ) ≠ 0 := Nat.cast_ne_zero.mpr hpos.ne'
      rw [if_pos hpos, div_mul_cancel₀ _ hne, h.covered]
      congr 1
      refine List.countP_congr fun layerId _ => ?_
      rw [decide_eq_true_iff, hsampled]

/-- **An available snapshot is normalized**, whatever the histograms, their form and the weight of
the recent window. -/
theorem layersNormalized_of_available (env : HotnessEnvironment) (numLayers numExperts : ℕ)
    (modelConfig plannerConfig : Dict)
    (h : (buildHotnessSnapshot env numLayers numExperts modelConfig plannerConfig).available =
      true) :
    LayersNormalized (buildHotnessSnapshot env numLayers numExperts modelConfig plannerConfig)
      numLayers numExperts (SampledLayer modelConfig plannerConfig numExperts) := by
  have hreason := reason_of_invalidReason (of_decide_eq_true h)
  obtain ⟨hglobal, hrecent⟩ := accepted_of_contractReason hreason
  have hreadGlobal := canonicalHistogram_spec hglobal
  have hreadRecent := canonicalHistogram_spec hrecent
  have hfrozen := frozen_freezeLayers numExperts
    (hotnessAlpha (configSources env.configFile plannerConfig modelConfig))
    (hotnessContract (hotnessContractSource modelConfig plannerConfig).1).completeSparse
    (canonicalHistogram numLayers numExperts (globalHistogram modelConfig plannerConfig)).1
    (canonicalHistogram numLayers numExperts (recentHistogram modelConfig plannerConfig)).1
    numLayers
  rw [← if_pos (t := freezeLayers ..) (e := {}) hreason] at hfrozen
  exact hfrozen.layersNormalized (hotnessAlpha_mem _) hreadGlobal.nonneg hreadRecent.nonneg
    (hreadGlobal.layerCovered_iff hreadRecent _ numExperts) rfl rfl

/-- **Hotness is a distribution per layer.**  In a snapshot that is available the entries of a layer
are those of none or of all of its experts, they are not negative and sum to one, a layer has
entries exactly when its global or its recent histogram is complete with a positive total, and the
coverage counts these layers. -/
theorem hotness_isDistribution (env : HotnessEnvironment) (numLayers numExperts : ℕ)
    (modelConfig plannerConfig : Dict) (snapshot : FrozenHotness)
    (hsnapshot : snapshot = buildHotnessSnapshot env numLayers numExperts modelConfig plannerConfig)
    (h : snapshot.available = true) :
    (∀ layerId < numLayers,
      (∀ expertId < numExperts, expertKey layerId expertId ∉ snapshot.hotness.keys) ∨
        ((∀ expertId < numExperts, expertKey layerId expertId ∈ snapshot.hotness.keys) ∧
          (∀ expertId < numExperts, 0 ≤ hotnessOf snapshot.hotness layerId expertId) ∧
          ((List.range numExperts).map (hotnessOf snapshot.hotness layerId)).sum = 1)) ∧
    (∀ layerId < numLayers,
      ((∃ expertId < numExperts, expertKey layerId expertId ∈ snapshot.hotness.keys) ↔
        SampledLayer modelConfig plannerConfig numExperts layerId)) ∧
    (∀ key ∈ snapshot.hotness.keys,
      ∃ layerId < numLayers, ∃ expertId < numExperts, key = expertKey layerId expertId) ∧
    snapshot.layerCoverage * numLayers = (List.range numLayers).countP fun layerId =>
      SampledLayer modelConfig plannerConfig numExperts layerId := by
  subst hsnapshot
  have hnormalized := layersNormalized_of_available env numLayers numExperts modelConfig
    plannerConfig h
  refine ⟨fun layerId hlayer => ?_, hnormalized.hasEntries_iff, hnormalized.keys,
    hnormalized.layerCoverage⟩
  by_cases hhas : HasEntries (buildHotnessSnapshot env numLayers numExperts modelConfig
      plannerConfig).hotness numExperts layerId
  · have hdistribution := hnormalized.isDistribution layerId hlayer hhas
    exact Or.inr ⟨hnormalized.all_or_none layerId hlayer hhas,
      fun expertId hexpert => hdistribution.nonneg expertId (List.mem_range.mpr hexpert),
      hdistribution.sum_eq_one⟩
  · exact Or.inl fun expertId hexpert hkey => hhas ⟨expertId, hexpert, hkey⟩

/-- Global counts of 80 and 20 and recent ones of 20 and 80, in the form the workers report. -/
def mixedHistograms : Dict :=
  [("runtime_metadata", .dict
    [("global_expert_hotness",
        .dict [("layer:0/expert:0", .int 80), ("layer:0/expert:1", .int 20)]),
      ("recent_window_expert_hotness",
        .dict [("layer:0/expert:0", .int 20), ("layer:0/expert:1", .int 80)]),
      ("moe_route_histogram_complete_sparse", .bool true),
      ("moe_route_counter_unit", .str "topk_routed_assignments"),
      ("moe_route_histogram_key_granularity", .str "layer_expert"),
      ("moe_route_global_reset_marker", .str "test-normalization")])]

/-- The snapshot of these histograms; there is no configuration file. -/
def mixedSnapshot : FrozenHotness :=
  buildHotnessSnapshot ⟨fun _ => none, 0, fun _ => "2f8d7b2a"⟩ 1 2 mixedHistograms
    [("hotness_alpha", .float (3 / 4) "0.75")]

theorem hotness_isDistribution_mixed :
    (∀ layerId < 1,
      (∀ expertId < 2, expertKey layerId expertId ∉ mixedSnapshot.hotness.keys) ∨
        ((∀ expertId < 2, expertKey layerId expertId ∈ mixedSnapshot.hotness.keys) ∧
          (∀ expertId < 2, 0 ≤ hotnessOf mixedSnapshot.hotness layerId expertId) ∧
          ((List.range 2).map (hotnessOf mixedSnapshot.hotness layerId)).sum = 1)) ∧
    hotnessOf mixedSnapshot.hotness 0 0 = 7 / 20 :=
  ⟨(hotness_isDistribution _ 1 2 _ _ mixedSnapshot rfl (by decide +kernel)).1, by decide +kernel⟩

/-! ## What the balancing relies on -/

theorem sum_modify_add {load : List ℚ} {rank : ℕ} (h : rank < load.length) (x : ℚ) :
    (load.modify rank (· + x)).sum = load.sum + x := by
  induction load generalizing rank with
  | nil => exact absurd h (Nat.not_lt_zero rank)
  | cons first rest ih =>
    cases rank with
    | zero =>
      rw [List.modify_zero_cons, List.sum_cons, List.sum_cons]
      ring
    | succ rank =>
      rw [List.modify_succ_cons, List.sum_cons, List.sum_cons, ih (Nat.lt_of_succ_lt_succ h)]
      ring

/-- Every expert adds its hotness to one rank. -/
theorem sum_rankLoads (hotness : Hotness) {numExperts rankCount : ℕ} (layerId : ℕ)
    {assignment : List ℤ} (h : IsAssignment numExperts rankCount assignment) :
    (rankLoads hotness rankCount layerId assignment).sum =
      ((List.range numExperts).map (hotnessOf hotness layerId)).sum := by
  have hloop : ∀ (entries : List (ℤ × ℕ)) (load : List ℚ),
      (∀ entry ∈ entries, placeOf rankCount entry.1 < load.length) →
      (entries.foldl (fun load entry =>
        load.modify (placeOf rankCount entry.1) (· + hotnessOf hotness layerId entry.2)) load).sum =
        load.sum + (entries.map fun entry => hotnessOf hotness layerId entry.2).sum := by
    intro entries
    induction entries with
    | nil => simp
    | cons entry entries ih =>
      intro load hplace
      rw [List.foldl_cons, ih _ fun entry' hentry' => ?_,
        sum_modify_add (hplace entry List.mem_cons_self), List.map_cons, List.sum_cons, add_assoc]
      rw [List.length_modify]
      exact hplace entry' (List.mem_cons_of_mem entry hentry')
  have hplaces : ∀ entry ∈ assignment.zipIdx,
      placeOf rankCount entry.1 < (List.replicate rankCount (0 : ℚ)).length := by
    intro entry hentry
    obtain ⟨rank, hrank, heq⟩ := h.rank entry.1 (List.fst_mem_of_mem_zipIdx hentry)
    rw [List.length_replicate, heq, placeOf, if_neg (not_lt.mpr (Int.natCast_nonneg rank))]
    exact hrank
  have hzero : (List.replicate rankCount (0 : ℚ)).sum = 0 := by simp
  rw [rankLoads, hloop _ _ hplaces, hzero, zero_add, ← h.length, List.range_eq_range',
    ← List.zipIdx_map_snd, List.map_map]
  rfl

/-- **The loads of a layer sum to one**, so that layers compare whatever the number of samples. -/
theorem sum_rankLoads_of_available (env : HotnessEnvironment) {numLayers numExperts rankCount : ℕ}
    (modelConfig plannerConfig : Dict)
    (h : (buildHotnessSnapshot env numLayers numExperts modelConfig plannerConfig).available = true)
    {layerId : ℕ} (hlayer : layerId < numLayers)
    (hsampled : SampledLayer modelConfig plannerConfig numExperts layerId) {assignment : List ℤ}
    (hassignment : IsAssignment numExperts rankCount assignment) :
    (rankLoads (buildHotnessSnapshot env numLayers numExperts modelConfig plannerConfig).hotness
      rankCount layerId assignment).sum = 1 := by
  have hnormalized := layersNormalized_of_available env numLayers numExperts modelConfig
    plannerConfig h
  rw [sum_rankLoads _ layerId hassignment]
  exact (hnormalized.isDistribution layerId hlayer
    ((hnormalized.hasEntries_iff layerId hlayer).mpr hsampled)).sum_eq_one

end ExpertPlacement
end SpotServe
