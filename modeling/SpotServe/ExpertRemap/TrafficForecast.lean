import SpotServe.ExpertRemap.LoadForecast
import SpotServe.SparseA2A.Traffic

/-!
# The traffic that a plan forecasts

Under `hotness_locality` a plan reports how many tokens each rank will send to others: the choices
that it counted on the rank, of experts that it gives to another one.  When the plan has been
carried out and the rows come back that were counted, the ranks send what `prepare` makes of them.
That is never more than the forecast.  It is less where one rank holds two experts of a row, since
the row travels to it once.

* `RankGroup.rowsSent`: the rows that a rank sends in a pass.
* `sourceCounts_told`: the counts that the planner reads, in what a deployment tells.
* `traffic_forecast`: the forecast against the rows of a batch that repeats what was counted.
-/

namespace SpotServe
namespace ExpertRemap

open Py Runs ExpertPlacement
open SparseA2A (ExpertMap TokenRow SparseError RankState DispatchState Coherent prepare
  prepare_spec pendingDispatch sentTo ownerTable selections Separate)
open RouteTracing (EngineRun PlainLayers told)

/-! ## What a rank sends -/

section Passes

variable {T O R V : Type} {W : ℕ} [Semiring R] [AddCommMonoid V] [Module R V]

/-- How many rows a rank sends to the others in a pass. -/
def RankGroup.rowsSent (g : RankGroup T O W) (pass : Pass R V W) (r : Fin W) :
    Except SparseError ℕ := do
  let (_, states) ← prepare (g.objects pass.layer) (g.inputs pass)
  let dispatch ← pendingDispatch (states r)
  return dispatch.remoteTokens.length

variable {g : RankGroup T O W} {pass : Pass R V W} {group : Fin W → FusedMoE T}
  {maps : Fin W → ExpertMap}

/-- A layer that serves sends what its maps say. -/
theorem Serves.rowsSent_eq (h : Serves g.models pass.layer pass.numExperts group maps)
    (hcoherent : Coherent maps pass.numExperts (g.objects pass.layer))
    (honInput : pass.onInput = true → pass.topk = 1) (r : Fin W) :
    g.rowsSent pass r =
      .ok (∑ d, (sentTo (ownerTable maps pass.numExperts) (pass.rows r) r d).length) := by
  obtain ⟨sentinel, states, -, -, hstate, hprepare⟩ :=
    prepare_spec pass.rows hcoherent h.owners h.length h.elsewhere honInput
  rw [← h.inputs_eq] at hprepare
  refine bind_ok hprepare ?_
  have hpending : pendingDispatch (states r) = .ok (SparseA2A.dispatchOf maps pass.rows r) := by
    rw [pendingDispatch, hstate r]
  refine bind_ok hpending (congrArg Except.ok ?_)
  show ((List.finRange W).flatMap (SparseA2A.sent maps pass.rows r)).length = _
  rw [List.length_flatMap, ← Fin.sum_univ_def]
  rfl

omit [Semiring R] [AddCommMonoid V] [Module R V] in
theorem Serves.holds_iff {l E : ℕ} (h : Serves g.models l E group maps) (d : Fin W) (e : ℕ) :
    g.holds l d e ↔ (maps d).owns e = true := by
  rw [owns_iff (h.map d)]
  constructor
  · rintro ⟨m, hm, hpos⟩
    rw [h.layer d] at hm
    exact (Option.some.inj hm) ▸ hpos
  · exact fun hpos => ⟨group d, h.layer d, hpos⟩

omit [Semiring R] [AddCommMonoid V] [Module R V] in
/-- The objects of a layer that serves are coherent. -/
theorem GroupInv.coherent {models₀ : Fin W → Model T O} (hinv : GroupInv models₀ g) (r₀ : Fin W)
    {l E : ℕ} (h : Serves g.models l E group maps) : Coherent maps E (g.objects l) := by
  rcases hinv l with huntouched | ⟨E', group₀, group', maps₀, maps', hlayer⟩
  · exact (huntouched.layerInv h).coherent
  · obtain ⟨rfl, rfl⟩ := h.unique hlayer.now
    obtain rfl : E' = E := (hlayer.now.length r₀).symm.trans (h.length r₀)
    exact hlayer.coherent

/-- What a rank sends in a pass of a layer, against the choices of the experts of other ranks. -/
theorem Serves.rowsSent_le (h : Serves g.models pass.layer pass.numExperts group maps)
    (hcoherent : Coherent maps pass.numExperts (g.objects pass.layer))
    (honInput : pass.onInput = true → pass.topk = 1) {ranks : ℕ → ℕ}
    (howns : ∀ r, ∀ e < pass.numExperts, (maps r).owns e = true ↔ ranks e = (r : ℕ)) (r : Fin W) :
    ∃ sent, g.rowsSent pass r = .ok sent ∧
      sent ≤ ∑ e ∈ Finset.range pass.numExperts with ranks e ≠ r, selections (pass.rows r) e ∧
      (sent = ∑ e ∈ Finset.range pass.numExperts with ranks e ≠ r, selections (pass.rows r) e ↔
        ∀ row ∈ pass.rows r, ∀ j j' d, d ≠ r → g.holds pass.layer d (row.ids j) →
          g.holds pass.layer d (row.ids j') → j = j') := by
  have helsewhere : (Finset.range pass.numExperts).filter (fun e => ranks e ≠ r) =
      (Finset.range pass.numExperts).filter fun e => (maps r).owns e = false := by
    refine Finset.filter_congr fun e he => ?_
    rw [← Bool.not_eq_true, howns r e (Finset.mem_range.mp he)]
  refine ⟨_, h.rowsSent_eq hcoherent honInput r, ?_, ?_⟩
  · rw [helsewhere]
    exact SparseA2A.sum_sentTo_le r h.owners (pass.rows r)
  · rw [helsewhere, SparseA2A.sum_sentTo_eq_iff r h.owners (pass.rows r)]
    simp only [Separate, h.holds_iff]

end Passes

/-! ## The counts that the planner reads -/

/-- The fields of the counters that the traffic is read from. -/
def trafficFields : List String :=
  ["recent_window_source_rank_expert_hotness", "global_source_rank_expert_hotness"]

section Counters

variable {run : EngineRun} {others : List EngineRun} {timeText : ℚ → String}
  {modelConfig plannerConfig : Dict}

/-- The histogram that is read. -/
theorem sourceHistogram_told {source : Dict}
    (hsource : Carries source trafficFields timeText (told run others)) {read : Dict × String}
    (hread : sourceHistogram source = some read) :
    read.1 = RouteTracing.histogramItems (told run others).sourceCounters := by
  have hrecent : source.lookup "recent_window_source_rank_expert_hotness" = some (.dict
      (RouteTracing.histogramItems (told run others).recentWindowSourceRankExpertHotness)) :=
    hsource "recent_window_source_rank_expert_hotness" (by decide)
  have hglobal : source.lookup "global_source_rank_expert_hotness" = some (.dict
      (RouteTracing.histogramItems (told run others).globalSourceRankExpertHotness)) :=
    hsource "global_source_rank_expert_hotness" (by decide)
  have hempty : ∀ t : Tally String, (RouteTracing.histogramItems t).isEmpty = t.isEmpty :=
    fun t => List.isEmpty_map
  unfold sourceHistogram at hread
  simp only [List.findSome?_cons, List.findSome?_nil, hrecent, hglobal, mapping?,
    Option.filter_some, hempty] at hread
  unfold RouteTracing.RouteMetadata.sourceCounters
  cases hnone : (told run others).recentWindowSourceRankExpertHotness.isEmpty with
  | false =>
    simp only [hnone, Bool.not_false, if_true, Option.map_some, Option.some_inj] at hread
    rw [← hread, if_neg (by simp)]
  | true =>
    cases hnone' : (told run others).globalSourceRankExpertHotness.isEmpty with
    | true => simp [hnone, hnone'] at hread
    | false =>
      simp only [hnone, hnone', Bool.not_true, Bool.not_false, if_true, Option.map_some] at hread
      simp only [Bool.false_eq_true, if_false, Option.map_none, Option.some_inj] at hread
      rw [← hread, if_pos rfl]

/-- **The counts that the planner reads** are those that the deployment tells. -/
theorem sourceCounts_told (hplain : ∀ r ∈ run :: others, PlainLayers r)
    (hsource : Carries (hotnessContractSource modelConfig plannerConfig).1 trafficFields timeText
      (told run others)) {rankCount : ℕ}
    (hread : (sourceRankExpertSnapshot rankCount modelConfig plannerConfig).1.entries ≠ [])
    (expert : ℕ × ℕ × ℕ) :
    ((sourceRankExpertSnapshot rankCount modelConfig plannerConfig).1.get? expert).getD 0 =
      ((told run others).sourceCounters.count (sourceExpertKey expert) : ℚ) := by
  unfold sourceRankExpertSnapshot at hread ⊢
  simp only at hread ⊢
  split_ifs at hread ⊢
  all_goals first | exact absurd rfl hread | skip
  cases hhistogram : sourceHistogram (hotnessContractSource modelConfig plannerConfig).1 with
  | none =>
    rw [hhistogram] at hread
    exact absurd rfl hread
  | some read =>
    obtain ⟨items, name⟩ := read
    obtain rfl : items = _ := sourceHistogram_told hsource hhistogram
    simp only [hhistogram] at hread ⊢
    have hdone : (sourceItems rankCount
        (RouteTracing.histogramItems (told run others).sourceCounters) .empty).2 = "" := by
      by_contra hrefused
      rw [if_pos hrefused, sourceItems_refused hrefused] at hread
      exact hread rfl
    rw [if_neg (not_not.mpr hdone)] at hread ⊢
    split_ifs at hread ⊢
    · exact absurd rfl hread
    · have hprinted : ∀ entry ∈ (told run others).sourceCounters.counts.entries,
          0 < entry.2 ∧ ∃ expert, entry.1 = sourceExpertKey expert := fun entry hentry =>
        ⟨(told run others).sourceCounters.positive entry hentry,
          RouteTracing.printed_sourceCounters hplain (((told run others).sourceCounters.mem_keys_iff
            entry.1).mp (List.mem_map.mpr ⟨entry, hentry, rfl⟩))⟩
      rw [RouteTracing.histogramItems] at hdone ⊢
      rw [get?_sourceItems (told run others).sourceCounters.counts.nodup hprinted hdone expert,
        OrderedDict.get?_empty, Tally.count, OrderedDict.get?]
      cases OrderedDict.getEntry (told run others).sourceCounters.counts.entries
          (sourceExpertKey expert) with
      | none => exact Nat.cast_zero.symm
      | some n => rfl

end Counters

/-! ## The forecast -/

section Forecast

variable {T O D R V : Type} {W : ℕ} [DecidableEq D] [Semiring R] [AddCommMonoid V] [Module R V]
  {rearrange : Rearrange W T} {digest : List T → D} {bump : ℕ} {enabled : Fin W → Bool}
  {hosts : Fin W → HostIdentity} {models₀ models' : Fin W → Model T O} {g : RankGroup T O W}

/-- **The traffic that a plan forecasts.**  A deployment counts on each rank which experts its rows
choose; the planner reads the counters and makes a plan with `hotness_locality`; a group of ranks,
whatever it has done before, runs the plan.  Then come rows that choose on a rank what was counted
on it.  Every layer sends its rows, and the rows that the rank sends in all layers together are not
more than the plan reports for it; they are just as many if and only if no row chooses two experts
that are on one other rank. -/
theorem traffic_forecast {run : EngineRun} {others : List EngineRun}
    (hplain : ∀ r ∈ run :: others, PlainLayers r) {timeText : ℚ → String}
    {modelConfig plannerConfig : Dict}
    (hsource : Carries (hotnessContractSource modelConfig plannerConfig).1 trafficFields timeText
      (told run others))
    {input : PlannerInput}
    (hsnapshot : input.sourceRankSnapshot = sourceRankExpertSnapshot
      (targetRankCount input.targetParallelPlan) modelConfig plannerConfig)
    (hread : input.sourceRankSnapshot.1.entries ≠ []) {plan : ExpertPlacementPlan}
    (hbuild : buildLogicalExpertPlacementPlan input = .ok (some plan))
    (hstrategy : plan.placementStrategy = .hotnessLocality) {traffic : RemoteDispatch}
    (htraffic : plan.remoteDispatch = some traffic) (hinv : GroupInv models₀ g)
    (hrearrange : Rearranges rearrange) (hbump : 0 < bump) {coordinated crossDomain : Bool}
    {engines : ℤ}
    (hrun : remapExpertWeights rearrange digest bump enabled hosts g.models
      (ofPlacementPlan plan coordinated engines crossDomain) = .ok models')
    {k : ℕ} {onInput : Bool} (honInput : onInput = true → k = 1)
    (rows : ℕ → Fin W → List (TokenRow R V k input.topology.2)) (s : Fin W)
    (hreplay : ∀ l < input.topology.1, ∀ e < input.topology.2, selections (rows l s) e =
      (told run others).sourceCounters.count (sourceExpertKey (s, l, e))) :
    ∃ sent : ℕ → ℕ,
      (∀ l < input.topology.1, { g with models := models' }.rowsSent
        ⟨l, k, input.topology.2, onInput, rows l⟩ s = .ok (sent l)) ∧
      (∑ l ∈ Finset.range input.topology.1, sent l : ℚ) ≤
        (traffic.perSource.get? (toString (s : ℕ))).getD 0 ∧
      ((∑ l ∈ Finset.range input.topology.1, sent l : ℚ) =
          (traffic.perSource.get? (toString (s : ℕ))).getD 0 ↔
        ∀ l < input.topology.1, ∀ row ∈ rows l s, ∀ j j' d, d ≠ s →
          { g with models := models' }.holds l d (row.ids j) →
          { g with models := models' }.holds l d (row.ids j') → j = j') := by
  obtain ⟨strategy, assignments, tables, hplan, -, hremote, hexperts⟩ :=
    plan_forecasts input hbuild (Or.inr (by rw [htraffic]; simp))
  obtain rfl : strategy = .hotnessLocality := hplan.strategy.symm.trans hstrategy
  obtain rfl : traffic = remoteDispatchDiagnostics assignments input.sourceRankSnapshot.1 :=
    Option.some.inj (htraffic.symm.trans hremote)
  have hlayer : ∀ l < input.topology.1, ∃ sent,
      { g with models := models' }.rowsSent ⟨l, k, input.topology.2, onInput, rows l⟩ s =
        .ok sent ∧
      sent ≤ ∑ e ∈ Finset.range input.topology.2 with rankNumber assignments l e ≠ s,
        selections (rows l s) e ∧
      (sent = ∑ e ∈ Finset.range input.topology.2 with rankNumber assignments l e ≠ s,
          selections (rows l s) e ↔
        ∀ row ∈ rows l s, ∀ j j' d, d ≠ s →
          { g with models := models' }.holds l d (row.ids j) →
          { g with models := models' }.holds l d (row.ids j') → j = j') := by
    intro l hl
    obtain ⟨-, group, maps, hserves, howns⟩ := planned_layer hplan hrearrange hrun s hl hexperts
    have hcoherent := (hinv.after_remap hrearrange hbump hrun).coherent s hserves
    exact Serves.rowsSent_le hserves hcoherent honInput howns s
  choose! sent hsent hle hiff using hlayer
  -- What the plan reports is what the rows choose of the other ranks.
  have hforecast : ((remoteDispatchDiagnostics assignments
      input.sourceRankSnapshot.1).perSource.get? (toString (s : ℕ))).getD 0 =
      ((∑ l ∈ Finset.range input.topology.1, ∑ e ∈ Finset.range input.topology.2 with
        rankNumber assignments l e ≠ s, selections (rows l s) e : ℕ) : ℚ) := by
    rw [perSource_remoteDispatch _ hplan.rankAt?_eq]
    push_cast
    refine Finset.sum_congr rfl fun l hl => Finset.sum_congr rfl fun e he => ?_
    have he' := Finset.mem_range.mp (Finset.mem_filter.mp he).1
    rw [hreplay l (Finset.mem_range.mp hl) e he', hsnapshot]
    exact sourceCounts_told hplain hsource (hsnapshot ▸ hread) _
  have hterms : ∀ l ∈ Finset.range input.topology.1, sent l ≤ _ :=
    fun l hl => hle l (Finset.mem_range.mp hl)
  refine ⟨sent, hsent, ?_, ?_⟩
  · rw [hforecast]
    exact_mod_cast Finset.sum_le_sum hterms
  · rw [hforecast, ← Nat.cast_sum, Nat.cast_inj, Finset.sum_eq_sum_iff_of_le hterms]
    exact ⟨fun h l hl => (hiff l hl).mp (h l (Finset.mem_range.mpr hl)),
      fun h l hl => (hiff l (Finset.mem_range.mp hl)).mpr (h l (Finset.mem_range.mp hl))⟩

end Forecast

/-- The planner with the strategy that counts the sources, and the counters that it reads. -/
def localInput : PlannerInput :=
  { countedInput with
    plannerConfig := [("target_expert_placement_strategy", .str "hotness_locality"),
      ("enable_live_expert_remap", .bool true)]
    sourceRankSnapshot := sourceRankExpertSnapshot 2 countedConfig [] }

/-- The rows that were counted on the first of two ranks. -/
def countedRows (_ : ℕ) (r : Fin 2) : List (TokenRow ℤ ℤ 2 4) :=
  if (r : ℕ) = 0 then
    [⟨0, fun j => ⟨j, by omega⟩, fun _ => 1⟩, ⟨0, fun j => ⟨2 * j, by omega⟩, fun _ => 1⟩]
  else []

/-- These rows come back, and the first rank sends what the plan reports or less. -/
theorem traffic_forecast_counted : ∃ plan traffic, ∃ models' : Fin 2 → Model ℕ Unit,
    remapExpertWeights exactRearrange id 1 (fun _ => true) (fun _ => ⟨"", "", "", ""⟩) pairGroup
        (ofPlacementPlan plan false 1 false) = .ok models' ∧
      plan.remoteDispatch = some traffic ∧ ∃ sent : ℕ → ℕ,
      (∀ l < 1, { RankGroup.new pairGroup with models := models' }.rowsSent
        ⟨l, 2, 4, false, countedRows l⟩ 0 = .ok (sent l)) ∧
      (∑ l ∈ Finset.range 1, sent l : ℚ) ≤ (traffic.perSource.get? (toString 0)).getD 0 ∧
      ((∑ l ∈ Finset.range 1, sent l : ℚ) = (traffic.perSource.get? (toString 0)).getD 0 ↔
        ∀ l < 1, ∀ row ∈ countedRows l 0, ∀ j j' d, d ≠ 0 →
          { RankGroup.new pairGroup with models := models' }.holds l d (row.ids j) →
          { RankGroup.new pairGroup with models := models' }.holds l d (row.ids j') → j = j') := by
  have hsome : (plannedRemap localInput).any (fun o => o.1.remoteDispatch.isSome &&
      o.1.placementStrategy = .hotnessLocality) = true := by
    decide +kernel
  obtain ⟨⟨plan, models'⟩, hremap, hany⟩ := (Option.any_eq_true _ _).mp hsome
  obtain ⟨htraffic, hstrategy⟩ := Bool.and_eq_true_iff.mp hany
  obtain ⟨traffic, htraffic⟩ := Option.isSome_iff_exists.mp htraffic
  obtain ⟨hbuild, hrun⟩ := of_plannedRemap hremap
  have hplain : ∀ run ∈ countedEngine :: [], PlainLayers run :=
    List.forall_mem_singleton.mpr plainLayers_countedEngine
  have hsource : Carries (hotnessContractSource countedConfig []).1 trafficFields (fun _ => "0.0")
      (told countedEngine []) := fun _ _ => rfl
  refine ⟨plan, traffic, models', hrun, htraffic, ?_⟩
  exact traffic_forecast hplain hsource rfl (by decide +kernel) hbuild
    (of_decide_eq_true hstrategy) htraffic (groupInv_new pairGroup) rearranges_exactRearrange
    Nat.one_pos hrun (by simp) countedRows 0 (by decide +kernel)

end ExpertRemap
end SpotServe
