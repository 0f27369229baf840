import SpotServe.ExpertPlacement.HotnessSnapshot

/-!
# Reading the counters by source rank

`_source_rank_expert_snapshot` (`sllm/spot/moe_placement.py`): the strategy `hotness_locality` asks
how often the rows of each rank chose each expert.  The counters come from the same mapping as the
hotness, say with what they were made, and have keys of the form
`source-rank:s/layer:l/expert:e`.

* `sourceExpertKey?`: the pattern that reads a key.
* `sourceItems`, `sourceRankExpertSnapshot`: the counters, or why they are refused.
* `get?_sourceItems`: counters whose keys are printed are read as they are, if they are read.
-/

namespace SpotServe
namespace ExpertPlacement

open Py

/-- `_SOURCE_EXPERT_KEY.fullmatch`. -/
def sourceExpertKey? (key : String) : Option (ℕ × ℕ × ℕ) := do
  let text ← matchLiteral "source-rank:".toList key.toList
  let sourceRank ← readDigits text
  let text ← matchLiteral "/layer:".toList sourceRank.2
  let layer ← readDigits text
  let text ← matchLiteral "/expert:".toList layer.2
  let expert ← readDigits text
  if expert.2.isEmpty then some (sourceRank.1, layer.1, expert.1) else none

/-- The loop over the items.  The reason is empty when none of them is refused. -/
def sourceItems (rankCount : ℕ) : Dict → SourceCounts → SourceCounts × String
  | [], parsed => (parsed, "")
  | (key, value) :: items, parsed =>
    match sourceExpertKey? key, value.float? with
    | some expert, some count =>
      if count < 0 then (.empty, "source_rank_expert_histogram_invalid")
      else if rankCount ≤ expert.1 then (.empty, "source_rank_out_of_range")
      else sourceItems rankCount items (if 0 < count then parsed.set expert count else parsed)
    | _, _ => (.empty, "source_rank_expert_histogram_invalid")

/-- The histogram that is read: that of the recent window, or else that since the last reset. -/
def sourceHistogram (source : Dict) : Option (Dict × String) :=
  ["recent_window_source_rank_expert_hotness", "global_source_rank_expert_hotness"].findSome?
    fun key => ((mapping? (source.lookup key)).filter (! ·.isEmpty)).map fun items => (items, key)

/-- `_source_rank_expert_snapshot`. -/
def sourceRankExpertSnapshot (rankCount : ℕ) (modelConfig plannerConfig : Dict) :
    SourceCounts × String :=
  let source := (hotnessContractSource modelConfig plannerConfig).1
  if !toBool ((source.lookup "moe_source_rank_expert_histogram_available").getD .none) false then
    (.empty, "source_rank_expert_histogram_unavailable")
  else if strOr (source.lookup "moe_source_rank_expert_observation_point") "" ≠ "pre_dispatch" then
    (.empty, "source_rank_observation_point_not_pre_dispatch")
  else if strOr (source.lookup "moe_source_rank_expert_key_granularity") "" ≠
      "source_rank_layer_expert" then
    (.empty, "source_rank_key_granularity_mismatch")
  else if strOr (source.lookup "moe_source_rank_semantics") "" ≠
      "vllm_dp_rank_equals_effective_ep_rank" then
    (.empty, "source_rank_semantics_unsupported")
  else
    match sourceHistogram source with
    | none => (.empty, "source_rank_expert_histogram_empty")
    | some (items, histogramSource) =>
      let parsed := sourceItems rankCount items .empty
      if parsed.2 ≠ "" then parsed
      else if parsed.1.entries.isEmpty then (.empty, "source_rank_expert_histogram_empty")
      else (parsed.1, histogramSource)

/-- Counters that are refused leave nothing. -/
theorem sourceItems_refused {rankCount : ℕ} {items : Dict} {parsed : SourceCounts}
    (h : (sourceItems rankCount items parsed).2 ≠ "") :
    (sourceItems rankCount items parsed).1 = .empty := by
  induction items generalizing parsed with
  | nil => exact absurd rfl h
  | cons item items ih =>
    obtain ⟨key, value⟩ := item
    rw [sourceItems] at h ⊢
    split at h
    · split_ifs at h ⊢
      · rfl
      · rfl
      · exact ih h
      · exact ih h
    · rfl

/-! ## Printed keys -/

/-- `f"source-rank:{source_rank}/{expert_key}"`. -/
def sourceExpertKey (expert : ℕ × ℕ × ℕ) : String :=
  "source-rank:" ++ toString expert.1 ++ "/" ++ expertKey expert.2.1 expert.2.2

/-- A printed key is read back. -/
theorem sourceExpertKey?_sourceExpertKey (expert : ℕ × ℕ × ℕ) :
    sourceExpertKey? (sourceExpertKey expert) = some expert := by
  obtain ⟨s, l, e⟩ := expert
  have htext : (sourceExpertKey (s, l, e)).toList =
      "source-rank:".toList ++ (Nat.toDigits 10 s ++ ("/layer:".toList ++ (Nat.toDigits 10 l ++
        ("/expert:".toList ++ (Nat.toDigits 10 e ++ []))))) := by
    have hslash : "/layer:".toList = '/' :: "layer:".toList := rfl
    simp only [sourceExpertKey, String.toList_append, toList_toString, toList_expertKey,
      List.append_assoc, hslash, List.cons_append]
    rfl
  have hlayer : ∀ rest, EndsNumber ("/layer:".toList ++ rest) := fun rest => endsNumber_slash _
  have hexpert : ∀ rest, EndsNumber ("/expert:".toList ++ rest) := fun rest => endsNumber_slash _
  unfold sourceExpertKey?
  simp only [htext, Option.bind_eq_bind, matchLiteral_append, Option.bind_some,
    readDigits_toDigits s (hlayer _), readDigits_toDigits l (hexpert _),
    readDigits_toDigits e endsNumber_nil, List.isEmpty_nil, if_true]

theorem sourceExpertKey_inj {expert expert' : ℕ × ℕ × ℕ} :
    sourceExpertKey expert = sourceExpertKey expert' ↔ expert = expert' := by
  refine ⟨fun h => ?_, congrArg sourceExpertKey⟩
  have hread := sourceExpertKey?_sourceExpertKey expert
  rw [h, sourceExpertKey?_sourceExpertKey] at hread
  exact (Option.some.inj hread).symm

/-- **Counters with printed keys** and positive counts are read as they are, if they are read. -/
theorem get?_sourceItems {rankCount : ℕ} {entries : List (String × ℕ)}
    (hnodup : (entries.map Prod.fst).Nodup)
    (hprinted : ∀ entry ∈ entries, 0 < entry.2 ∧ ∃ expert, entry.1 = sourceExpertKey expert)
    {parsed : SourceCounts}
    (hread : (sourceItems rankCount (entries.map fun entry => (entry.1, .int (entry.2 : ℤ)))
      parsed).2 = "") (expert : ℕ × ℕ × ℕ) :
    ((sourceItems rankCount (entries.map fun entry => (entry.1, .int (entry.2 : ℤ)))
        parsed).1.get? expert).getD 0 =
      ((OrderedDict.getEntry entries (sourceExpertKey expert)).map
        fun n : ℕ => (n : ℚ)).getD ((parsed.get? expert).getD 0) := by
  induction entries generalizing parsed with
  | nil => rfl
  | cons entry entries ih =>
    obtain ⟨key, n⟩ := entry
    obtain ⟨hpos, expert', rfl⟩ := hprinted _ List.mem_cons_self
    have hcount : (0 : ℚ) < n := Nat.cast_pos.mpr hpos
    rw [List.map_cons, List.nodup_cons] at hnodup
    rw [List.map_cons, sourceItems, sourceExpertKey?_sourceExpertKey] at hread ⊢
    simp only [Value.float?, Int.cast_natCast] at hread ⊢
    rw [if_neg (not_lt.mpr hcount.le)] at hread ⊢
    by_cases hrank : rankCount ≤ expert'.1
    · rw [if_pos hrank] at hread
      exact absurd hread (by simp)
    · rw [if_neg hrank, if_pos hcount] at hread ⊢
      rw [ih hnodup.2 (fun entry hentry => hprinted entry (List.mem_cons_of_mem _ hentry)) hread,
        OrderedDict.get?_set, OrderedDict.getEntry]
      by_cases hsame : expert' = expert
      · subst hsame
        rw [OrderedDict.getEntry_eq_none_iff.mpr hnodup.1]
        simp
      · rw [if_neg hsame, if_neg fun h => hsame (sourceExpertKey_inj.mp h)]

end ExpertPlacement
end SpotServe
