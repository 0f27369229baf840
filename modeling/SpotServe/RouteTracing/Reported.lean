import SpotServe.ExpertPlacement.HotnessDistribution
import SpotServe.ExpertPlacement.SourceCounters
import SpotServe.RouteTracing.Deployment

/-!
# The counters as the planner reads them

What a deployment tells about routes is a dictionary of texts and numbers, and the planner reads the
counts back out of its keys.  Where the names of the layers carry plain numbers it reads what was
counted: no key is refused, two keys never mean one expert, and what is recent is part of the whole.

* `RouteMetadata.toDict`: the dictionary.
* `PlainLayers`: layers with plain numbers; `printed_global`, `printed_recent`: the keys they give.
* `recordedCount_histogram`: the counts that the planner reads.
* `recentHotness_le`, `recentSourceHotness_le`: a recent choice is one of all choices.
* `RouteMetadata.sourceCounters`: the counters by source rank; `printed_sourceCounters`: their keys.
-/

namespace SpotServe
namespace RouteTracing

open Py ExpertPlacement

/-! ## The dictionary -/

/-- A histogram, as it is sent. -/
def histogramItems (t : Tally String) : Dict :=
  t.counts.entries.map fun entry => (entry.1, .int (entry.2 : ℤ))

/-- What `get_moe_runtime_metadata` says about routes, for the text of a time. -/
def RouteMetadata.toDict (timeText : ℚ → String) (m : RouteMetadata) : Dict :=
  [("moe_route_tracing_enabled", .bool m.tracingEnabled),
    ("moe_route_histogram_available", .bool m.histogramAvailable),
    ("moe_route_histogram_source", .str m.histogramSource),
    ("moe_route_histogram_kind", .str m.histogramKind),
    ("global_expert_hotness", .dict (histogramItems m.globalExpertHotness)),
    ("recent_window_expert_hotness", .dict (histogramItems m.recentWindowExpertHotness)),
    ("global_source_rank_expert_hotness",
      .dict (histogramItems m.globalSourceRankExpertHotness)),
    ("recent_window_source_rank_expert_hotness",
      .dict (histogramItems m.recentWindowSourceRankExpertHotness)),
    ("moe_source_rank_expert_histogram_available",
      .bool !m.globalSourceRankExpertHotness.isEmpty),
    ("moe_source_rank_expert_observation_point", .str "pre_dispatch"),
    ("moe_source_rank_expert_key_granularity", .str "source_rank_layer_expert"),
    ("moe_source_rank_semantics", .str "vllm_dp_rank_equals_effective_ep_rank"),
    ("moe_route_counter_unit", .str m.counterUnit),
    ("moe_route_aggregation_scope", .str m.aggregationScope),
    ("moe_route_histogram_key_granularity", .str m.keyGranularity),
    ("moe_route_histogram_complete_sparse", .bool m.completeSparse),
    ("moe_route_global_sample_count", .int m.globalExpertHotness.total),
    ("moe_route_recent_sample_count", .int m.recentWindowExpertHotness.total),
    ("moe_route_recent_event_count", .int m.recentEventCount),
    ("moe_route_last_observation_time_s",
      (m.lastObservationTimeS.map fun time => Value.float time (timeText time)).getD .none),
    ("moe_route_global_reset_marker", .str m.globalResetMarker)] ++
  (if m.tpAggregation = "" then [] else [("moe_route_tp_aggregation", .str m.tpAggregation)]) ++
  (m.metadataConsistent.map fun b => ("moe_route_metadata_consistent", Value.bool b)).toList

/-! ## Reading histograms -/

/-- All keys name an expert of a layer by their numbers. -/
def Printed (t : Tally String) : Prop :=
  ∀ key, 0 < t.count key → ∃ l e, key = ExpertPlacement.expertKey l e

/-- A printed key is read back. -/
theorem canonicalExpertKey_expertKey (l e : ℕ) :
    canonicalExpertKey (ExpertPlacement.expertKey l e) = some (l, e) := by
  have hexpert : ∀ rest, EndsNumber ("/expert:".toList ++ rest) := fun rest => endsNumber_slash _
  unfold canonicalExpertKey
  simp only [toList_expertKey, Option.bind_eq_bind, matchLiteral_append, Option.bind_some,
    readDigits_toDigits l (hexpert _), readDigits_toDigits e endsNumber_nil, List.isEmpty_nil,
    if_true]

/-- Of printed keys, one at most names an expert. -/
theorem countsOf_printed {entries : List (String × ℕ)} (hnodup : (entries.map Prod.fst).Nodup)
    (hprinted : ∀ entry ∈ entries, ∃ l e, entry.1 = ExpertPlacement.expertKey l e) (l e : ℕ) :
    countsOf (entries.map fun entry => (entry.1, .int (entry.2 : ℤ))) l e =
      ((OrderedDict.getEntry entries (ExpertPlacement.expertKey l e)).map
        fun n : ℕ => (n : ℚ)).toList := by
  induction entries with
  | nil => rfl
  | cons entry entries ih =>
    obtain ⟨key, n⟩ := entry
    rw [List.map_cons, List.nodup_cons] at hnodup
    replace ih := ih hnodup.2 fun entry hentry => hprinted entry (List.mem_cons_of_mem _ hentry)
    obtain ⟨l', e', rfl⟩ : ∃ l' e', key = _ := hprinted _ List.mem_cons_self
    rw [countsOf, List.map_cons, List.filterMap_cons, canonicalExpertKey_expertKey,
      OrderedDict.getEntry]
    by_cases hsame : l' = l ∧ e' = e
    · obtain ⟨rfl, rfl⟩ := hsame
      rw [OrderedDict.getEntry_eq_none_iff.mpr hnodup.1] at ih
      rw [if_pos rfl, if_pos rfl]
      exact congrArg ((n : ℚ) :: ·) ih
    · rw [if_neg fun h => hsame (Prod.mk.inj (Option.some.inj h)),
        if_neg fun h => hsame (ExpertPlacement.expertKey_inj.mp h)]
      exact ih

/-- **The planner reads what was counted.** -/
theorem recordedCount_histogram {t : Tally String} (h : Printed t) (l e : ℕ) :
    (recordedCount (some (.dict (histogramItems t))) l e).getD 0 =
      (t.count (ExpertPlacement.expertKey l e) : ℚ) := by
  have hread := countsOf_printed t.counts.nodup (fun entry hentry => h entry.1
    ((t.mem_keys_iff entry.1).mp (List.mem_map.mpr ⟨entry, hentry, rfl⟩))) l e
  rw [recordedCount, histogramItems, hread, Tally.count, OrderedDict.get?]
  cases OrderedDict.getEntry t.counts.entries (ExpertPlacement.expertKey l e) with
  | none => exact Nat.cast_zero.symm
  | some n => rfl

/-! ## Layers with plain numbers -/

/-- The layers of a run have names that carry a number, without leading zeros. -/
def PlainLayers (run : EngineRun) : Prop :=
  ∀ step ∈ run.steps, ∀ layer ∈ step.layers,
    ∃ l : ℕ, layerIdFromName (some layer) = toString l

theorem toString_ne_unknown (l : ℕ) : toString l ≠ "unknown" := by
  intro h
  have hdigits : (toString l).toList = Nat.toDigits 10 l := toList_toString l
  rw [h] at hdigits
  have hdigit := Nat.isDigit_of_mem_toDigits (b := 10) (n := l) (c := 'u') (by decide) (by decide)
    (hdigits ▸ by decide)
  exact absurd hdigit (by decide)

theorem expertKey_of_layerId {layer : Option String} {l : ℕ}
    (h : layerIdFromName layer = toString l) (e : ℕ) : expertKey layer e = ExpertPlacement.expertKey l e := by
  rw [expertKey, h, if_neg (toString_ne_unknown l)]
  rfl

section Runs

variable {run : EngineRun}

/-- What a run chose has a printed key. -/
theorem PlainLayers.exists_expertKey (h : PlainLayers run) {assignment : Assignment}
    (hmem : assignment ∈ run.chosen) : ∃ l e, assignment.2 = ExpertPlacement.expertKey l e := by
  obtain ⟨step, hstep, hchosen⟩ := mem_chosenIn.mp hmem
  obtain ⟨layer, hlayer, -, e, hkey⟩ := mem_chosen hchosen
  obtain ⟨l, hl⟩ := h step hstep layer hlayer
  exact ⟨l, e, hkey.trans (expertKey_of_layerId hl e)⟩

/-- The window of a worker shows some of what is observed. -/
theorem count_lastEvents_le (events : List (List String)) (key : String) :
    (lastEvents events).flatten.count key ≤ events.flatten.count key :=
  (((List.drop_sublist _ _).trans List.filter_sublist).flatten).count_le key

variable (run)

variable {run} in
/-- The workers of an engine show some of what their stages chose. -/
theorem EngineRun.count_recent_le {field : RouteMetadata → Tally String} {key : String}
    {p : Assignment → Prop} [DecidablePred p]
    (h : ∀ w ∈ run.workers, ∃ events : List (List String),
      (field (runtimeMetadata w.env (runWorker w.env w.actions))).count key =
        (lastEvents events).flatten.count key ∧
      events.flatten.count key = (chosenIn w.stage run.steps).countP p) :
    (Tally.mergeMaxAll .empty ((run.workers.map fun w =>
        runtimeMetadata w.env (runWorker w.env w.actions)).map field)).count key ≤
      run.chosen.countP p := by
  refine Tally.count_mergeMaxAll_le (Nat.zero_le _) fun tally htally => ?_
  rw [List.map_map] at htally
  obtain ⟨w, hw, rfl⟩ := List.mem_map.mp htally
  obtain ⟨events, hshown, hchosen⟩ := h w hw
  calc (field (runtimeMetadata w.env (runWorker w.env w.actions))).count key
      ≤ events.flatten.count key := hshown.trans_le (count_lastEvents_le _ key)
    _ = (chosenIn w.stage run.steps).countP p := hchosen
    _ ≤ run.chosen.countP p := Multiset.countP_le_of_le _ (chosenIn_le w.stage run.steps)

theorem EngineRun.recentHotness_le (key : String) :
    run.metadata.recentWindowExpertHotness.count key ≤ run.chosen.countP fun a => a.2 = key := by
  refine EngineRun.count_recent_le fun w hw =>
    ⟨_, (run.tracks hw).recentEvents.count_mergeAll key, ?_⟩
  have hglobal := run.globalHistogram_count hw key
  rwa [(run.tracks hw).globalHistogram, observed, List.map_flatten] at hglobal

theorem EngineRun.recentSourceHotness_le (key : String) :
    run.metadata.recentWindowSourceRankExpertHotness.count key ≤
      run.chosen.countP fun a => sourceKey run.rank a.2 = key := by
  refine EngineRun.count_recent_le fun w hw =>
    ⟨_, (run.tracks hw).recentSourceEvents.count_mergeAll key, ?_⟩
  have hglobal := run.globalSourceExpert_count hw key
  have hflatten : sourceKeys w.env (observed w.actions) =
      ((w.actions.flatMap eventsOf).map (sourceKeys w.env)).flatten := by
    unfold sourceKeys
    split
    · rw [observed, List.map_flatten]
    · rw [List.map_const', List.flatten_replicate_nil]
  rwa [(run.tracks hw).globalSourceExpert, hflatten] at hglobal

end Runs

/-! ## Deployments -/

section Deployments

variable (run : EngineRun) (others : List EngineRun)

/-- What the deployment of some engines tells. -/
def told : RouteMetadata := deploymentMetadata run.metadata (others.map EngineRun.metadata)

variable {run others} in
/-- A histogram that the engines merge by adding. -/
theorem count_told {field : RouteMetadata → Tally String}
    (hfield : ∀ engines, field (aggregateMoeMetadata engines) =
      Tally.mergeAll .empty (engines.map field)) (key : String) :
    (field (told run others)).count key =
      ((run :: others).map fun r => (field r.metadata).count key).sum := by
  rw [told, deploymentMetadata]
  split_ifs with hnone
  · rw [List.isEmpty_iff, List.map_eq_nil_iff] at hnone
    rw [hnone, List.map_singleton, List.sum_singleton]
  · rw [hfield, Tally.count_mergeAll, Tally.count_empty, Nat.zero_add, ← List.map_cons,
      List.map_map, List.map_map]
    rfl

theorem recentHotness_le (key : String) :
    (told run others).recentWindowExpertHotness.count key ≤
      (told run others).globalExpertHotness.count key := by
  rw [count_told fun _ => rfl, count_told fun _ => rfl]
  exact List.sum_le_sum fun r _ =>
    (r.recentHotness_le key).trans_eq (r.globalExpertHotness_count key).symm

theorem recentSourceHotness_le (key : String) :
    (told run others).recentWindowSourceRankExpertHotness.count key ≤
      (told run others).globalSourceRankExpertHotness.count key := by
  rw [count_told fun _ => rfl, count_told fun _ => rfl]
  exact List.sum_le_sum fun r _ =>
    (r.recentSourceHotness_le key).trans_eq (r.sourceRankHotness_count key).symm

theorem sourceRankHotness_told (key : String) :
    (told run others).globalSourceRankExpertHotness.count key =
      ((run :: others).map fun r => r.chosen.countP fun a => sourceKey r.rank a.2 = key).sum :=
  (count_told (fun _ => rfl) key).trans
    (congrArg List.sum (List.map_congr_left fun r _ => r.sourceRankHotness_count key))

/-- The counters by source rank that the planner reads: those of the recent window, if there are
any. -/
def RouteMetadata.sourceCounters (m : RouteMetadata) : Tally String :=
  if m.recentWindowSourceRankExpertHotness.isEmpty then m.globalSourceRankExpertHotness
  else m.recentWindowSourceRankExpertHotness

variable {run others} (hplain : ∀ r ∈ run :: others, PlainLayers r)
include hplain

/-- The keys of the counters by source rank. -/
theorem printed_sourceCounters {key : String}
    (hpos : 0 < (told run others).sourceCounters.count key) :
    ∃ expert, key = ExpertPlacement.sourceExpertKey expert := by
  have hglobal : 0 < (told run others).globalSourceRankExpertHotness.count key := by
    unfold RouteMetadata.sourceCounters at hpos
    split_ifs at hpos
    · exact hpos
    · exact hpos.trans_le (recentSourceHotness_le run others key)
  rw [sourceRankHotness_told, Nat.pos_iff_ne_zero, Ne, List.sum_eq_zero_iff] at hglobal
  push Not at hglobal
  obtain ⟨n, hn, hne⟩ := hglobal
  obtain ⟨r, hr, rfl⟩ := List.mem_map.mp hn
  obtain ⟨assignment, hmem, rfl⟩ := Multiset.countP_pos.mp (Nat.pos_of_ne_zero hne)
  obtain ⟨l, e, hkey⟩ := (hplain r hr).exists_expertKey hmem
  exact ⟨(r.rank, l, e), congrArg (sourceKey r.rank) hkey⟩

theorem printed_global : Printed (told run others).globalExpertHotness := by
  intro key hpos
  rw [told, globalExpertHotness_deployment, Nat.pos_iff_ne_zero, Ne, List.sum_eq_zero_iff] at hpos
  push Not at hpos
  obtain ⟨n, hn, hne⟩ := hpos
  obtain ⟨r, hr, rfl⟩ := List.mem_map.mp hn
  obtain ⟨assignment, hmem, rfl⟩ := Multiset.countP_pos.mp (Nat.pos_of_ne_zero hne)
  exact (hplain r hr).exists_expertKey hmem

theorem printed_recent : Printed (told run others).recentWindowExpertHotness :=
  fun key hpos => printed_global hplain key (hpos.trans_le (recentHotness_le run others key))

/-- **What the deployment tells is complete**: an expert without an entry was not chosen. -/
theorem completeSparse_told : (told run others).completeSparse = true := by
  have hcanonical : ∀ {t : Tally String}, Printed t → ∀ key ∈ t.counts.keys,
      (canonicalExpertKey key).isSome = true := by
    intro t ht key hkey
    obtain ⟨l, e, rfl⟩ := ht key ((t.mem_keys_iff key).mp hkey)
    rw [canonicalExpertKey_expertKey]
    rfl
  have hglobal := hcanonical (printed_global hplain)
  have hrecent := hcanonical (printed_recent hplain)
  unfold told deploymentMetadata at hglobal hrecent ⊢
  split_ifs at hglobal hrecent ⊢ with hnone
  · rfl
  · show (_ && _ && _) = true
    rw [Bool.and_eq_true, Bool.and_eq_true]
    refine ⟨⟨List.all_eq_true.mpr fun key hkey => ?_, rfl⟩, List.all_eq_true.mpr ?_⟩
    · rcases List.mem_append.mp hkey with hkey | hkey
      · exact hglobal key hkey
      · exact hrecent key hkey
    · rw [← List.map_cons]
      intro engine hengine
      obtain ⟨r, -, rfl⟩ := List.mem_map.mp hengine
      rfl

end Deployments

end RouteTracing
end SpotServe
