import SpotServe.ExpertRemap.PlannedLayers
import SpotServe.RouteTracing.Reported

/-!
# The load that a plan forecasts

The workers count which experts the rows choose, the planner turns the counts into the load of every
rank under its assignments, and the workers move the experts.  Four subsystems take part, and they
share nothing but the texts of keys.  Still the numbers mean what they say: the load that the plan
reports for a rank is the share of the observed choices that fall on the experts which the rank
holds when the plan has been carried out.

* `blendedShare`: the share of some experts in the counts of a layer, as the snapshot weighs them.
* `sum_hotness_told`: the hotness of a snapshot, read off the counters that a deployment tells.
* `load_forecast`: the forecast, from the rows of the engines to the expert maps of the workers.
-/

namespace SpotServe
namespace ExpertRemap

open Py Runs ExpertPlacement Distributions
open SparseA2A (ExpertMap)
open RouteTracing (EngineRun PlainLayers told)

/-! ## Shares -/

section Shares

variable (numExperts : ℕ)

/-- The share of some experts in the choices of a layer: that in the recent ones, where there are
some, weighed against that in all of them. -/
def blendedShare (alpha : ℚ) (all recent : ℕ → ℚ) (on : ℕ → Bool) : ℚ :=
  if 0 < ((List.range numExperts).map recent).sum then
    alpha * shareOn (List.range numExperts) recent on +
      (1 - alpha) * shareOn (List.range numExperts) all on
  else shareOn (List.range numExperts) all on

variable {numExperts}

theorem layerValid_complete {counts : Hotness} {layerId : ℕ} :
    layerValid numExperts true counts layerId = true ↔
      0 < ((List.range numExperts).map (hotnessOf counts layerId)).sum := by
  rw [layerValid, layerComplete, Bool.true_or, Bool.true_and, decide_eq_true_iff, countedTotal]

/-- The hotness of some experts of a layer that the histograms cover, where what is recent is part
of the whole. -/
theorem sum_expertHotness {alpha : ℚ} {globalCounts recentCounts : Hotness} {layerId : ℕ}
    (hcovered : layerCovered numExperts true globalCounts recentCounts layerId = true)
    (hpart : ∀ e, hotnessOf recentCounts layerId e ≤ hotnessOf globalCounts layerId e)
    (on : ℕ → Bool) :
    (((List.range numExperts).filter on).map
        (expertHotness numExperts alpha true globalCounts recentCounts layerId)).sum =
      blendedShare numExperts alpha (hotnessOf globalCounts layerId)
        (hotnessOf recentCounts layerId) on := by
  have hshare : ∀ counts : Hotness, layerValid numExperts true counts layerId = true →
      (((List.range numExperts).filter on).map (shareOf numExperts true counts layerId)).sum =
        shareOn (List.range numExperts) (hotnessOf counts layerId) on := by
    intro counts hvalid
    rw [← sum_filter_share]
    refine congrArg List.sum (List.map_congr_left fun e _ => ?_)
    rw [shareOf, if_pos hvalid, countedTotal]
  have hwhole : layerValid numExperts true recentCounts layerId = true →
      layerValid numExperts true globalCounts layerId = true := by
    rw [layerValid_complete, layerValid_complete]
    exact fun h => h.trans_le (List.sum_le_sum fun e _ => hpart e)
  rw [layerCovered, Bool.or_eq_true] at hcovered
  have hglobal := hcovered.elim id hwhole
  by_cases hrecent : layerValid numExperts true recentCounts layerId = true
  · rw [blendedShare, if_pos (layerValid_complete.mp hrecent), ← hshare _ hglobal,
      ← hshare _ hrecent, ← sum_mix]
    refine congrArg List.sum (List.map_congr_left fun e _ => ?_)
    simp [expertHotness, hglobal, hrecent]
  · rw [blendedShare, if_neg fun h => hrecent (layerValid_complete.mpr h), ← hshare _ hglobal]
    refine congrArg List.sum (List.map_congr_left fun e _ => ?_)
    simp [expertHotness, hrecent]

/-- The hotness of some experts of a layer, in frozen tables that say something of the layer. -/
theorem sum_hotness_frozen {alpha : ℚ} {globalCounts recentCounts : Hotness} {numLayers : ℕ}
    {tables : LayerTables}
    (h : Frozen numExperts alpha true globalCounts recentCounts numLayers tables) {l : ℕ}
    (hl : l < numLayers)
    (hpart : ∀ e, hotnessOf recentCounts l e ≤ hotnessOf globalCounts l e)
    (hpos : 0 < ((List.range numExperts).map (hotnessOf tables.hotness l)).sum) (on : ℕ → Bool) :
    (((List.range numExperts).filter on).map (hotnessOf tables.hotness l)).sum =
      blendedShare numExperts alpha (hotnessOf globalCounts l) (hotnessOf recentCounts l) on := by
  by_cases hcovered : layerCovered numExperts true globalCounts recentCounts l = true
  · rw [← sum_expertHotness hcovered hpart]
    refine congrArg List.sum (List.map_congr_left fun e he => ?_)
    have hexpert := List.mem_range.mp (List.mem_of_mem_filter he)
    rw [hotnessOf, h.get?_eq, if_pos ⟨⟨hl, hexpert⟩, hcovered⟩, Option.getD_some]
  · refine absurd hpos (not_lt.mpr (le_of_eq (List.sum_eq_zero fun x hx => ?_)))
    obtain ⟨e, -, rfl⟩ := List.mem_map.mp hx
    rw [hotnessOf, h.get?_eq, if_neg fun h => hcovered h.2, Option.getD_none]

end Shares

/-! ## Snapshots -/

/-- The fields of the counters that the hotness is read from. -/
def hotnessFields : List String :=
  ["global_expert_hotness", "recent_window_expert_hotness", "moe_route_histogram_complete_sparse"]

/-- A mapping carries fields of what a deployment tells. -/
def Carries (source : Dict) (fields : List String) (timeText : ℚ → String)
    (metadata : RouteTracing.RouteMetadata) : Prop :=
  ∀ field ∈ fields, source.lookup field = (metadata.toDict timeText).lookup field

section Snapshots

variable {run : EngineRun} {others : List EngineRun} {timeText : ℚ → String} {source : Dict}

theorem Carries.completeSparse (hplain : ∀ r ∈ run :: others, PlainLayers r)
    (h : Carries source hotnessFields timeText (told run others)) :
    (hotnessContract source).completeSparse = true := by
  have hlookup : source.lookup "moe_route_histogram_complete_sparse" =
      some (.bool (told run others).completeSparse) :=
    h "moe_route_histogram_complete_sparse" (by decide)
  rw [RouteTracing.completeSparse_told hplain] at hlookup
  show toBool ((["moe_route_histogram_complete_sparse",
    "hotness_histogram_complete_sparse"].findSome? fun key => source.lookup key).getD .none)
      false = true
  rw [List.findSome?_cons_of_isSome (by rw [hlookup]; rfl), hlookup]
  rfl

/-- **The hotness of a snapshot** of what a deployment tells, read off the counters. -/
theorem sum_hotness_told (hplain : ∀ r ∈ run :: others, PlainLayers r)
    (env : HotnessEnvironment) {numLayers numExperts : ℕ} {modelConfig plannerConfig : Dict}
    (hsource : Carries (hotnessContractSource modelConfig plannerConfig).1 hotnessFields timeText
      (told run others))
    (havailable : (buildHotnessSnapshot env numLayers numExperts modelConfig
      plannerConfig).available = true) {l : ℕ} (hl : l < numLayers)
    (hpos : 0 < ((List.range numExperts).map (hotnessOf (buildHotnessSnapshot env numLayers
      numExperts modelConfig plannerConfig).hotness l)).sum) (on : ℕ → Bool) :
    (((List.range numExperts).filter on).map (hotnessOf (buildHotnessSnapshot env numLayers
        numExperts modelConfig plannerConfig).hotness l)).sum =
      blendedShare numExperts
        (hotnessAlpha (configSources env.configFile plannerConfig modelConfig))
        (fun e => (told run others).globalExpertHotness.count (expertKey l e))
        (fun e => (told run others).recentWindowExpertHotness.count (expertKey l e)) on := by
  have hreason := reason_of_invalidReason (of_decide_eq_true havailable)
  obtain ⟨hglobal, hrecent⟩ := accepted_of_contractReason hreason
  have hreadGlobal := canonicalHistogram_spec hglobal
  have hreadRecent := canonicalHistogram_spec hrecent
  have hfrozen := frozen_freezeLayers numExperts
    (hotnessAlpha (configSources env.configFile plannerConfig modelConfig))
    (hotnessContract (hotnessContractSource modelConfig plannerConfig).1).completeSparse
    (canonicalHistogram numLayers numExperts (globalHistogram modelConfig plannerConfig)).1
    (canonicalHistogram numLayers numExperts (recentHistogram modelConfig plannerConfig)).1
    numLayers
  have hhotness : (buildHotnessSnapshot env numLayers numExperts modelConfig
      plannerConfig).hotness = (freezeLayers numLayers numExperts _ _ _ _).hotness :=
    congrArg LayerTables.hotness (if_pos hreason)
  rw [hhotness] at hpos ⊢
  rw [hsource.completeSparse hplain] at hfrozen hpos ⊢
  -- The counts of the snapshot are those that the deployment tells.
  have hread : ∀ {field : String} {t : Tally String} {counts : Hotness},
      (hotnessContractSource modelConfig plannerConfig).1.lookup field =
        some (.dict (RouteTracing.histogramItems t)) → RouteTracing.Printed t →
      Reads ((hotnessContractSource modelConfig plannerConfig).1.lookup field) counts →
      hotnessOf counts l = fun e => (t.count (expertKey l e) : ℚ) := by
    intro field t counts hfield hprinted hreads
    funext e
    rw [hotnessOf, hreads.counts_eq, hfield, RouteTracing.recordedCount_histogram hprinted]
  have hall := hread (hsource "global_expert_hotness" (by decide))
    (RouteTracing.printed_global hplain) hreadGlobal
  have hwindow := hread (hsource "recent_window_expert_hotness" (by decide))
    (RouteTracing.printed_recent hplain) hreadRecent
  refine (sum_hotness_frozen hfrozen hl (fun e => ?_) hpos on).trans
    (congrArg₂ (fun all recent => blendedShare numExperts _ all recent on) hall hwindow)
  have hle := RouteTracing.recentHotness_le run others (expertKey l e)
  exact (congrFun hwindow e).trans_le ((Nat.cast_le.mpr hle).trans_eq (congrFun hall e).symm)

theorem hotness_of_invalidReason {sources : List Dict} {reason : String} {tables : LayerTables}
    {contract : HotnessContract} {ageS : Option ℚ}
    (h : invalidReason sources reason tables contract ageS = "") :
    tables.hotness.entries.isEmpty = false := by
  rw [← Bool.not_eq_true]
  intro hempty
  simp [invalidReason, reason_of_invalidReason h, List.isEmpty_iff.mp hempty] at h

/-- A snapshot that is available is the hotness that a plan reports. -/
theorem reportedHotness_of_available (env : HotnessEnvironment) {input : PlannerInput}
    {modelConfig plannerConfig : Dict}
    (hsnapshot : input.hotnessSnapshot = (buildHotnessSnapshot env input.topology.1
      input.topology.2 modelConfig plannerConfig).toHotnessSnapshot)
    (havailable : input.hotnessSnapshot.available = true) :
    reportedHotness input input.topology.1 input.topology.2 = input.hotnessSnapshot.hotness := by
  rw [hsnapshot] at havailable
  have hsome := hotness_of_invalidReason (of_decide_eq_true havailable)
  rw [reportedHotness, if_neg]
  rw [hsnapshot]
  exact Bool.eq_false_iff.mp hsome

end Snapshots

/-! ## The forecast -/

section Forecast

variable {T O D : Type} {W : ℕ} [DecidableEq D] {rearrange : Rearrange W T} {digest : List T → D}
  {bump : ℕ} {enabled : Fin W → Bool} {hosts : Fin W → HostIdentity}
  {models models' : Fin W → Model T O}

/-- How often the rows of some engines chose what a key names. -/
def timesChosen (runs : List EngineRun) (key : String) : ℕ :=
  (runs.map fun r => r.chosen.countP fun a => a.2 = key).sum

/-- **The load that a plan forecasts.**  Engines whose layers have plain names count what their rows
choose; the planner has a snapshot of what they tell, and makes a plan; the workers run it.  Then
the load that the plan reports for a rank is the share that the experts which the rank holds after
the remap have in the choices: in the reported recent ones and in all that the rows of the engines
ever made, blended as the configuration says. -/
theorem load_forecast {run : EngineRun} {others : List EngineRun}
    (hplain : ∀ r ∈ run :: others, PlainLayers r) {timeText : ℚ → String}
    {env : HotnessEnvironment} {modelConfig plannerConfig : Dict}
    (hsource : Carries (hotnessContractSource modelConfig plannerConfig).1 hotnessFields timeText
      (told run others))
    {input : PlannerInput}
    (hsnapshot : input.hotnessSnapshot = (buildHotnessSnapshot env input.topology.1
      input.topology.2 modelConfig plannerConfig).toHotnessSnapshot)
    (havailable : input.hotnessSnapshot.available = true) {plan : ExpertPlacementPlan}
    (hbuild : buildLogicalExpertPlacementPlan input = .ok (some plan)) {load : LoadDiagnostics}
    (hload : plan.load = some load) (hrearrange : Rearranges rearrange)
    {coordinated crossDomain : Bool} {engines : ℤ}
    (hrun : remapExpertWeights rearrange digest bump enabled hosts models
      (ofPlacementPlan plan coordinated engines crossDomain) = .ok models')
    {l : ℕ} {loads : List ℚ} (hreported : (l, loads) ∈ load.perLayerRankLoad) (r : Fin W) :
    loads.length = W ∧
      ∃ (group : Fin W → FusedMoE T) (maps : Fin W → ExpertMap),
        Serves models' l input.topology.2 group maps ∧
        loads[(r : ℕ)]? = some (blendedShare input.topology.2
          (hotnessAlpha (configSources env.configFile plannerConfig modelConfig))
          (fun e => timesChosen (run :: others) (expertKey l e))
          (fun e => (told run others).recentWindowExpertHotness.count (expertKey l e))
          (maps r).owns) := by
  obtain ⟨strategy, assignments, tables, hplan, hloadEq, -, hexperts⟩ :=
    plan_forecasts input hbuild (Or.inl (by rw [hload]; simp))
  rw [hload, Option.some_inj] at hloadEq
  rw [hloadEq, reportedHotness_of_available env hsnapshot havailable] at hreported
  obtain ⟨a, ha, rfl, hpos⟩ := mem_perLayerRankLoad hreported
  have hl : l < input.topology.1 := by
    rw [← hplan.length]
    exact (List.getElem?_eq_some_iff.mp ha).1
  have hassignment := hplan.assignment a (List.mem_of_getElem? ha)
  have htotal : 0 < ((List.range input.topology.2).map
      (hotnessOf input.hotnessSnapshot.hotness l)).sum := by
    rw [← sum_rankLoads _ l hassignment]
    by_contra hneg
    exact absurd hpos (not_lt.mpr (div_nonpos_of_nonpos_of_nonneg (not_lt.mp hneg)
      (Nat.cast_nonneg _)))
  obtain ⟨hcount, group, maps, hserves, howns⟩ := planned_layer hplan hrearrange hrun r hl hexperts
  refine ⟨(length_rankLoads ..).trans hcount.symm, group, maps, hserves, ?_⟩
  rw [hplan.getElem?_assignments hl, Option.some_inj] at ha
  rw [← ha, getElem?_rankLoads _ _ (hcount ▸ r.isLt), List.filter_congr fun e he =>
    Bool.eq_iff_iff.mpr (decide_eq_true_iff.trans (howns r e (List.mem_range.mp he)).symm)]
  rw [hsnapshot] at htotal havailable ⊢
  rw [sum_hotness_told hplain env hsource havailable hl htotal]
  simp only [told, RouteTracing.globalExpertHotness_deployment, timesChosen]

end Forecast

/-- Two rows of one request, in a layer with four experts. -/
def countedCall : RouteTracing.RoutingCall :=
  ⟨some "model.layers.0.mlp", ⟨2, [[0, 1], [0, 2]], by decide⟩, 0⟩

/-- An engine with one worker, which runs these rows. -/
def countedEngine : EngineRun where
  rank := 0
  steps := [.execute [("r", 2)] {"model.layers.0.mlp"} fun _ => [[0, 1], [0, 2]]]
  workers := [⟨⟨true, some 0, "p", 0⟩, RouteTracing.everyLayer,
    [.execute [("r", 2)] [countedCall]]⟩]
  nonempty := List.cons_ne_nil _ _
  enabled := fun _ hw => List.mem_singleton.mp hw ▸ rfl
  ranked := fun _ hw => List.mem_singleton.mp hw ▸ rfl
  follows := fun w hw => by
    obtain rfl := List.mem_singleton.mp hw
    refine List.Forall₂.cons (.execute ⟨fun call hcall => ?_, fun call hcall => ?_, ?_⟩) .nil
    · rw [List.mem_singleton.mp hcall]
      exact Nat.two_pos
    · rw [List.mem_singleton.mp hcall]
      exact ⟨Finset.mem_singleton_self _, rfl⟩
    · intro layer hlayer _
      rw [Finset.mem_singleton.mp hlayer]
      rfl
  covered := fun _ _ _ _ => ⟨_, List.mem_singleton_self _, rfl⟩

theorem plainLayers_countedEngine : PlainLayers countedEngine := by
  intro step hstep layer hlayer
  obtain rfl := List.mem_singleton.mp hstep
  obtain rfl := Finset.mem_singleton.mp hlayer
  exact ⟨0, by decide +kernel⟩

/-- What the planner is given. -/
def countedConfig : Dict :=
  [("runtime_metadata", .dict ((told countedEngine []).toDict fun _ => "0.0"))]

/-- Where it reads that: no file of the disk, at some time. -/
def countedEnvironment : HotnessEnvironment := ⟨fun _ => none, 0, fun _ => "counted"⟩

/-- What it plans, with the hotness that it reads there. -/
def countedInput : PlannerInput :=
  { liveInput with
    hotnessSnapshot := (buildHotnessSnapshot countedEnvironment 1 4 countedConfig
      []).toHotnessSnapshot }

theorem carries_countedConfig : Carries (hotnessContractSource countedConfig []).1 hotnessFields
    (fun _ => "0.0") (told countedEngine []) := by
  intro field _
  rfl

/-- A plan for two workers, and the workers after the remap. -/
def plannedRemap (input : PlannerInput) :
    Option (ExpertPlacementPlan × (Fin 2 → Model ℕ Unit)) := do
  let plan ← (buildLogicalExpertPlacementPlan input).toOption.join
  let models ← (remapExpertWeights exactRearrange id 1 (fun _ => true) (fun _ => ⟨"", "", "", ""⟩)
    pairGroup (ofPlacementPlan plan false 1 false)).toOption
  return (plan, models)

theorem of_plannedRemap {input : PlannerInput} {plan : ExpertPlacementPlan}
    {models' : Fin 2 → Model ℕ Unit} (h : plannedRemap input = some (plan, models')) :
    buildLogicalExpertPlacementPlan input = .ok (some plan) ∧
      remapExpertWeights exactRearrange id 1 (fun _ => true) (fun _ => ⟨"", "", "", ""⟩) pairGroup
        (ofPlacementPlan plan false 1 false) = .ok models' := by
  obtain ⟨_, hplan, h⟩ := Option.bind_eq_some_iff.mp h
  obtain ⟨_, hmodels, h⟩ := Option.bind_eq_some_iff.mp h
  obtain ⟨rfl, rfl⟩ : _ = plan ∧ _ = models' := by
    simpa only [pure, Option.some_inj, Prod.mk.injEq] using h
  exact ⟨of_toOption (Option.join_eq_some_iff.mp hplan), of_toOption hmodels⟩

/-- The plan for the four experts and the two workers, which reports the load of layer 0. -/
theorem load_forecast_counted : ∃ plan load, ∃ models' : Fin 2 → Model ℕ Unit, ∃ loads,
    remapExpertWeights exactRearrange id 1 (fun _ => true) (fun _ => ⟨"", "", "", ""⟩) pairGroup
        (ofPlacementPlan plan false 1 false) = .ok models' ∧ plan.load = some load ∧
      (0, loads) ∈ load.perLayerRankLoad ∧ ∀ r : Fin 2, loads.length = 2 ∧
        ∃ (group : Fin 2 → FusedMoE ℕ) (maps : Fin 2 → ExpertMap),
          Serves models' 0 4 group maps ∧
          loads[(r : ℕ)]? = some (blendedShare 4
            (hotnessAlpha (configSources countedEnvironment.configFile [] countedConfig))
            (fun e => timesChosen [countedEngine] (expertKey 0 e))
            (fun e => (told countedEngine []).recentWindowExpertHotness.count (expertKey 0 e))
            (maps r).owns) := by
  have hsome : (plannedRemap countedInput).any (fun o => o.1.load.any fun load =>
      load.perLayerRankLoad.any (·.1 = 0)) = true := by
    decide +kernel
  obtain ⟨⟨plan, models'⟩, hremap, hany⟩ := (Option.any_eq_true _ _).mp hsome
  obtain ⟨load, hload, hany⟩ := (Option.any_eq_true _ _).mp hany
  obtain ⟨⟨_, loads⟩, hmem, hzero⟩ := List.any_eq_true.mp hany
  obtain rfl := of_decide_eq_true hzero
  obtain ⟨hbuild, hrun⟩ := of_plannedRemap hremap
  have hplain : ∀ run ∈ countedEngine :: [], PlainLayers run :=
    List.forall_mem_singleton.mpr plainLayers_countedEngine
  refine ⟨plan, load, models', loads, hrun, hload, hmem, fun r => ?_⟩
  exact load_forecast hplain carries_countedConfig rfl (by decide +kernel) hbuild hload
    rearranges_exactRearrange hrun hmem r

end ExpertRemap
end SpotServe
