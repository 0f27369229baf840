import Mathlib.Algebra.Order.BigOperators.Group.Finset
import Mathlib.Algebra.Order.Group.Multiset
import SpotServe.ExpertPlacement.HotnessSnapshot
import SpotServe.RouteTracing.History

/-!
# The counters of an engine and of a deployment

The workers of an engine run the same batches.  Those of one pipeline stage hold the same layers and
see the same rows, those of different stages see different layers; so an engine takes for each key
the largest count of its workers.  The engines of a deployment run requests of their own, and their
counts are added.

* `engineMetadata`, `engineRequestReport`: what an engine tells (`EngineCore`).
* `aggregateMoeMetadata`, `deploymentMetadata`: what a deployment tells.
* `EngineRun`: an engine and its workers, whose rows are cut into calls as it comes.
* `deploymentMetadata_counts`: what the engines tell is what the rows chose, over all engines and
  for each of them under its rank.
* `EngineRun.requestReport_exact_iff`: a request is told in full by a worker that holds its layers.
-/

namespace SpotServe
namespace RouteTracing

open Py

/-! ## Engines -/

/-- `",".join(sorted(texts))` for a set of texts without the empty one. -/
def joinSorted (texts : List String) : String :=
  String.intercalate "," ((texts.filter (· ≠ "")).dedup.insertionSort (· ≤ ·))

/-- `max(values)`, with a value for no values. -/
def maxTime (times : List ℚ) : Option ℚ := times.max?

/-- `get_moe_runtime_metadata` of an engine, for what its workers tell. -/
def engineMetadata (snapshots : List RouteMetadata) : RouteMetadata :=
  let globalHistogram := Tally.mergeMaxAll .empty (snapshots.map (·.globalExpertHotness))
  let available := !globalHistogram.isEmpty
  { tracingEnabled := snapshots.any (·.tracingEnabled)
    histogramAvailable := available
    histogramSource := if available then "vllm_runtime_topk" else "unavailable"
    histogramKind := if available then "runtime_observed_topk" else "unavailable"
    globalExpertHotness := globalHistogram
    recentWindowExpertHotness :=
      Tally.mergeMaxAll .empty (snapshots.map (·.recentWindowExpertHotness))
    globalSourceRankExpertHotness :=
      Tally.mergeMaxAll .empty (snapshots.map (·.globalSourceRankExpertHotness))
    recentWindowSourceRankExpertHotness :=
      Tally.mergeMaxAll .empty (snapshots.map (·.recentWindowSourceRankExpertHotness))
    counterUnit := "topk_routed_assignments"
    aggregationScope := "engine"
    keyGranularity := "layer_expert"
    completeSparse := true
    recentEventCount := ((snapshots.map (·.recentEventCount)).max?).getD 0
    lastObservationTimeS := maxTime (snapshots.filterMap (·.lastObservationTimeS))
    globalResetMarker := joinSorted (snapshots.map (·.globalResetMarker))
    tpAggregation := "per_key_max_across_tp_workers" }

/-- What an engine tells about a request. -/
structure EngineRequestReport where
  histogram : Option (Tally String)
  source : String
  kind : String
  reason : String
  workerHistograms : OrderedDict String (Tally String)

/-- The turn of the loop over the workers: the first of the largest histograms is kept. -/
def selectHistogram (selected : Tally String) (histogram : Tally String) : Tally String :=
  if selected.isEmpty ∨ selected.total < histogram.total then histogram else selected

/-- `get_request_moe_metadata` of an engine, for what its workers tell. -/
def engineRequestReport (snapshots : List RequestReport) : EngineRequestReport :=
  let histograms := (snapshots.filterMap (·.histogram)).filter (!·.isEmpty)
  let selected := histograms.foldl selectHistogram .empty
  let sources := joinSorted (snapshots.map (·.source))
  let reasons := joinSorted (snapshots.map (·.reason))
  let source := if sources = "" then "vllm_runtime_topk" else sources
  if selected.isEmpty then
    { histogram := none
      source := source
      kind := ""
      reason := if reasons = "" then "no_moe_route_histogram" else reasons
      workerHistograms := .empty }
  else
    { histogram := some selected
      source := source
      kind := "runtime_observed_topk"
      reason := ""
      workerHistograms := snapshots.foldl
        (fun histograms snapshot =>
          match snapshot.histogram with
          | some histogram =>
            if histogram.isEmpty then histograms
            else histograms.set (toString snapshot.workerRank) histogram
          | none => histograms)
        .empty }

/-! ## Deployments -/

/-- The one text of a set, or a default. -/
def onlyText (texts : List String) (default : String) : String :=
  match (texts.filter (· ≠ "")).dedup with
  | [text] => text
  | _ => default

/-- `aggregate_dp_engine_moe_metadata`, for what the engines tell. -/
def aggregateMoeMetadata (engines : List RouteMetadata) : RouteMetadata :=
  let globalHotness := Tally.mergeAll .empty (engines.map (·.globalExpertHotness))
  let recentHotness := Tally.mergeAll .empty (engines.map (·.recentWindowExpertHotness))
  let available := !globalHotness.isEmpty
  let canonicalKeys := (globalHotness.counts.keys ++ recentHotness.counts.keys).all fun key =>
    (ExpertPlacement.canonicalExpertKey key).isSome
  let counterUnits := engines.map (·.counterUnit)
  let keyGranularities := engines.map (·.keyGranularity)
  let tpAggregations := engines.map (·.tpAggregation)
  { tracingEnabled := engines.any (·.tracingEnabled)
    histogramAvailable := available
    histogramSource := if available then "vllm_runtime_topk" else "unavailable"
    histogramKind := if available then "runtime_observed_topk" else "unavailable"
    globalExpertHotness := globalHotness
    recentWindowExpertHotness := recentHotness
    globalSourceRankExpertHotness :=
      Tally.mergeAll .empty (engines.map (·.globalSourceRankExpertHotness))
    recentWindowSourceRankExpertHotness :=
      Tally.mergeAll .empty (engines.map (·.recentWindowSourceRankExpertHotness))
    counterUnit := onlyText counterUnits "topk_routed_assignments"
    aggregationScope := "deployment"
    keyGranularity :=
      onlyText keyGranularities (if canonicalKeys then "layer_expert" else "unknown")
    completeSparse := canonicalKeys && !engines.isEmpty && engines.all (·.completeSparse)
    recentEventCount := (engines.map (·.recentEventCount)).sum
    lastObservationTimeS :=
      maxTime ((engines.filterMap (·.lastObservationTimeS)).filter (0 < ·))
    globalResetMarker := joinSorted (engines.map (·.globalResetMarker))
    tpAggregation := onlyText tpAggregations "unverified"
    metadataConsistent := some
      (decide (((counterUnits.filter (· ≠ "")).dedup.length ≤ 1 ∧
        (keyGranularities.filter (· ≠ "")).dedup.length ≤ 1) ∧
        (tpAggregations.filter (· ≠ "")).dedup.length ≤ 1)) }

/-- `AsyncLLM.get_moe_runtime_metadata`: engines are added up where there are several. -/
def deploymentMetadata (engine : RouteMetadata) (others : List RouteMetadata) : RouteMetadata :=
  if others.isEmpty then engine else aggregateMoeMetadata (engine :: others)

/-! ## What the rows of an engine choose -/

/-- A step of an engine, for all its workers: finished requests are forgotten, a batch is run, for
whose rows the routers of the layers choose experts, or the model is run without one. -/
inductive EngineStep where
  | finish (requestIds : List String)
  | execute (batch : Batch) (layers : Finset String) (rows : String → List (List ℤ))
  | dummyRun

/-- A set of layers, by their numbers. -/
abbrev Stage := String → Bool

/-- Every layer. -/
def everyLayer : Stage := fun _ => true

/-- What is chosen in a step for the layers of a stage. -/
def EngineStep.chosen (stage : Stage) : EngineStep → Multiset Assignment
  | .finish _ => 0
  | .execute batch layers rows =>
    ∑ layer ∈ layers with stage (layerIdFromName (some layer)),
      (assignments (owners batch) (some layer) (rows layer) : Multiset Assignment)
  | .dummyRun => 0

/-- What is chosen in several steps. -/
def chosenIn (stage : Stage) (steps : List EngineStep) : Multiset Assignment :=
  (steps.map (EngineStep.chosen stage)).sum

/-- Whether a step forgets a request. -/
def EngineStep.finishes (requestId : String) : EngineStep → Bool
  | .finish requestIds => requestIds.contains requestId
  | _ => false

/-- The steps since a request was last forgotten. -/
def sinceFinished (requestId : String) (steps : List EngineStep) : List EngineStep :=
  steps.rtakeWhile fun step => !step.finishes requestId

/-- The calls of a worker hand over the rows of the layers that it holds. -/
structure HandsOver (stage : Stage) (layers : Finset String) (rows : String → List (List ℤ))
    (calls : List RoutingCall) : Prop where
  topk : ∀ call ∈ calls, 0 < call.ids.topk
  held : ∀ call ∈ calls, layerKey call.layerName ∈ layers ∧ stage (layerIdFromName call.layerName)
  complete : ∀ layer ∈ layers, stage (layerIdFromName (some layer)) →
    seenRows calls layer = rows layer

/-- What a worker that holds a stage does in a step of its engine. -/
inductive Follows (stage : Stage) : EngineStep → RunnerAction → Prop
  | finish (requestIds : List String) : Follows stage (.finish requestIds) (.finish requestIds)
  | execute {batch : Batch} {layers : Finset String} {rows : String → List (List ℤ)}
      {calls : List RoutingCall} (h : HandsOver stage layers rows calls) :
      Follows stage (.execute batch layers rows) (.execute batch calls)
  | dummyRun (calls : List RoutingCall) : Follows stage .dummyRun (.dummyRun calls)

theorem chosen_le (stage : Stage) (step : EngineStep) :
    step.chosen stage ≤ step.chosen everyLayer := by
  cases step with
  | finish requestIds => exact le_rfl
  | execute batch layers rows =>
    refine Finset.sum_le_sum_of_subset fun layer hlayer => ?_
    rw [Finset.mem_filter] at hlayer ⊢
    exact ⟨hlayer.1, rfl⟩
  | dummyRun => exact le_rfl

/-- What a worker reports in a step is what is chosen for its layers. -/
theorem Follows.flatten_eventsOf {stage : Stage} {step : EngineStep} {action : RunnerAction}
    (h : Follows stage step action) :
    ((eventsOf action).flatten : Multiset Assignment) = step.chosen stage := by
  cases h with
  | finish requestIds => rfl
  | dummyRun calls => rfl
  | @execute batch layers rows calls h =>
    have hsum : ((passEvents (owners batch) [] calls).flatten : Multiset Assignment) =
        ∑ layer ∈ layersOf calls,
          ↑(assignments (owners batch) (some layer) (seenRows calls layer)) := by
      ext assignment
      rw [Multiset.count_sum', Multiset.count, Multiset.coe_countP, countP_passEvents]
      rfl
    show ((passEvents (owners batch) [] calls).flatten : Multiset Assignment) = _
    rw [hsum, EngineStep.chosen]
    have hheld : ∀ layer ∈ layersOf calls,
        layer ∈ layers ∧ stage (layerIdFromName (some layer)) := by
      intro layer hlayer
      obtain ⟨call, hcall, rfl⟩ := List.mem_map.mp (List.mem_toFinset.mp hlayer)
      rw [layerIdFromName_layerKey]
      exact h.held call hcall
    refine Finset.sum_subset_zero_on_sdiff (fun layer hlayer => ?_) (fun layer hlayer => ?_)
      fun layer hlayer => ?_
    · exact Finset.mem_filter.mpr (hheld layer hlayer)
    · -- The layer makes no call, so it has no rows.
      rw [Finset.mem_sdiff, Finset.mem_filter] at hlayer
      have hnone : seenRows calls layer = [] := by
        rw [seenRows, List.flatMap_eq_nil_iff]
        intro call hcall
        rw [List.mem_filter, decide_eq_true_eq] at hcall
        exact absurd (List.mem_toFinset.mpr (List.mem_map.mpr ⟨call, hcall⟩)) hlayer.2
      rw [← h.complete layer hlayer.1.1 hlayer.1.2, hnone]
      rfl
    · rw [h.complete layer (hheld layer hlayer).1 (hheld layer hlayer).2]

theorem Follows.finishes {stage : Stage} {step : EngineStep} {action : RunnerAction}
    (h : Follows stage step action) (requestId : String) :
    step.finishes requestId = RouteTracing.finishes requestId action := by
  cases h <;> rfl

theorem Follows.routed {stage : Stage} {step : EngineStep} {action : RunnerAction}
    (h : Follows stage step action) : action.Routed := by
  cases h with
  | finish requestIds => trivial
  | dummyRun calls => trivial
  | execute h => exact h.topk

theorem routed_of_follows {stage : Stage} {steps : List EngineStep} {actions : List RunnerAction}
    (h : List.Forall₂ (Follows stage) steps actions) : ∀ action ∈ actions, action.Routed := by
  induction h with
  | nil => exact fun _ h => absurd h List.not_mem_nil
  | cons hstep _ ih => exact List.forall_mem_cons.mpr ⟨hstep.routed, ih⟩

/-- **What a worker reports in a run.** -/
theorem observed_of_follows {stage : Stage} {steps : List EngineStep} {actions : List RunnerAction}
    (h : List.Forall₂ (Follows stage) steps actions) :
    (observed actions : Multiset Assignment) = chosenIn stage steps := by
  induction h with
  | nil => rfl
  | cons hstep _ ih =>
    rw [chosenIn, List.map_cons, List.sum_cons, ← chosenIn, ← ih, ← hstep.flatten_eventsOf,
      observed, List.flatMap_cons, List.flatten_append, ← Multiset.coe_add, observed]

theorem chosenIn_le (stage : Stage) (steps : List EngineStep) :
    chosenIn stage steps ≤ chosenIn everyLayer steps :=
  List.sum_le_sum fun step _ => chosen_le stage step

theorem forall₂_takeWhile {α β : Type*} {R : α → β → Prop} {p : α → Bool} {q : β → Bool}
    (hpq : ∀ a b, R a b → p a = q b) {l : List α} {m : List β} (h : List.Forall₂ R l m) :
    List.Forall₂ R (l.takeWhile p) (m.takeWhile q) := by
  induction h with
  | nil => exact List.Forall₂.nil
  | @cons a b l m hab _ ih =>
    rw [List.takeWhile_cons, List.takeWhile_cons, hpq a b hab]
    split
    · exact List.Forall₂.cons hab ih
    · exact List.Forall₂.nil

theorem forall₂_sinceFinish {stage : Stage} {steps : List EngineStep} {actions : List RunnerAction}
    (h : List.Forall₂ (Follows stage) steps actions) (requestId : String) :
    List.Forall₂ (Follows stage) (sinceFinished requestId steps)
      (sinceFinish requestId actions) := by
  unfold sinceFinished sinceFinish List.rtakeWhile
  refine List.rel_reverse (forall₂_takeWhile (fun step action hfollows => ?_) (List.rel_reverse h))
  rw [hfollows.finishes]

/-! ## Keys and layers -/

theorem mem_assignments {owners : List String} {layer : Option String} {rows : List (List ℤ)}
    {assignment : Assignment} (h : assignment ∈ assignments owners layer rows) :
    ∃ expertId, assignment.2 = expertKey layer expertId := by
  obtain ⟨pair, -, hpair⟩ := List.mem_flatMap.mp h
  obtain ⟨expertId, -, rfl⟩ := List.mem_map.mp hpair
  exact ⟨expertId, rfl⟩

/-- The layers of a step. -/
def EngineStep.layers : EngineStep → Finset String
  | .execute _ layers _ => layers
  | _ => ∅

/-- What is chosen has the key of an expert of some layer of the step. -/
theorem mem_chosen {step : EngineStep} {stage : Stage} {assignment : Assignment}
    (h : assignment ∈ step.chosen stage) :
    ∃ layer ∈ step.layers, stage (layerIdFromName (some layer)) = true ∧
      ∃ expertId, assignment.2 = expertKey (some layer) expertId := by
  cases step with
  | finish requestIds => exact absurd h (Multiset.notMem_zero _)
  | execute batch layers rows =>
    obtain ⟨layer, hlayer, hmem⟩ := Multiset.mem_sum.mp h
    rw [Finset.mem_filter] at hlayer
    exact ⟨layer, hlayer.1, hlayer.2, mem_assignments (Multiset.mem_coe.mp hmem)⟩
  | dummyRun => exact absurd h (Multiset.notMem_zero _)

theorem mem_chosenIn {steps : List EngineStep} {stage : Stage} {assignment : Assignment} :
    assignment ∈ chosenIn stage steps ↔ ∃ step ∈ steps, assignment ∈ step.chosen stage := by
  induction steps with
  | nil => simp [chosenIn]
  | cons step steps ih =>
    rw [chosenIn, List.map_cons, List.sum_cons, ← chosenIn, Multiset.mem_add, ih]
    simp

/-- A worker that holds all layers in question reports all of what is asked for. -/
theorem countP_chosen {stage : Stage} {p : Assignment → Prop} [DecidablePred p]
    (h : ∀ requestId layer expertId, p (requestId, expertKey (some layer) expertId) →
      stage (layerIdFromName (some layer)) = true) (step : EngineStep) :
    (step.chosen stage).countP p = (step.chosen everyLayer).countP p := by
  cases step with
  | finish requestIds => rfl
  | execute batch layers rows =>
    have hall : layers.filter (fun layer => everyLayer (layerIdFromName (some layer)) = true) =
        layers := Finset.filter_true_of_mem fun _ _ => rfl
    rw [EngineStep.chosen, EngineStep.chosen, hall, ← Multiset.coe_countPAddMonoidHom, map_sum,
      map_sum]
    refine Finset.sum_filter_of_ne fun layer _ hne => ?_
    rw [Multiset.coe_countPAddMonoidHom] at hne
    obtain ⟨assignment, hmem, hp⟩ := Multiset.countP_pos.mp (Nat.pos_of_ne_zero hne)
    obtain ⟨expertId, hkey⟩ := mem_assignments (Multiset.mem_coe.mp hmem)
    exact h assignment.1 layer expertId (hkey ▸ hp)
  | dummyRun => rfl

theorem countP_chosenIn {stage : Stage} {p : Assignment → Prop} [DecidablePred p]
    (h : ∀ requestId layer expertId, p (requestId, expertKey (some layer) expertId) →
      stage (layerIdFromName (some layer)) = true) (steps : List EngineStep) :
    (chosenIn stage steps).countP p = (chosenIn everyLayer steps).countP p := by
  rw [chosenIn, chosenIn, ← Multiset.coe_countPAddMonoidHom, map_list_sum, map_list_sum,
    List.map_map, List.map_map]
  exact congrArg List.sum (List.map_congr_left fun step _ => countP_chosen h step)

/-! ## Runs -/

/-- A worker of an engine: the layers that it holds, and its steps. -/
structure EngineWorker where
  env : TracerEnv
  stage : Stage
  actions : List RunnerAction

/-- A run of an engine with tracing on.  Every worker follows its steps; together they hold every
layer that the rows of a batch go through. -/
structure EngineRun where
  rank : ℕ
  steps : List EngineStep
  workers : List EngineWorker
  nonempty : workers ≠ []
  enabled : ∀ w ∈ workers, w.env.enabled = true
  ranked : ∀ w ∈ workers, w.env.dpRank = some (rank : ℤ)
  follows : ∀ w ∈ workers, List.Forall₂ (Follows w.stage) steps w.actions
  covered : ∀ step ∈ steps, ∀ layer ∈ step.layers,
    ∃ w ∈ workers, w.stage (layerIdFromName (some layer)) = true

/-- What the engine tells after its run. -/
def EngineRun.metadata (run : EngineRun) : RouteMetadata :=
  engineMetadata (run.workers.map fun w => runtimeMetadata w.env (runWorker w.env w.actions))

/-- What the engine tells about a request after its run. -/
def EngineRun.requestReport (run : EngineRun) (requestId : String) : EngineRequestReport :=
  engineRequestReport <| run.workers.map fun w =>
    RouteTracing.requestReport w.env (runWorker w.env w.actions) requestId

/-- All that the rows of the engine chose. -/
def EngineRun.chosen (run : EngineRun) : Multiset Assignment := chosenIn everyLayer run.steps

/-- What the rows of a request chose since it was last forgotten. -/
def EngineRun.chosenFor (run : EngineRun) (requestId : String) : Multiset Assignment :=
  chosenIn everyLayer (sinceFinished requestId run.steps)

section Runs

variable (run : EngineRun)

theorem EngineRun.tracks {w : EngineWorker} (hw : w ∈ run.workers) :
    Tracks w.env w.actions (runWorker w.env w.actions) := by
  exact tracks_runWorker (run.enabled w hw) (routed_of_follows (run.follows w hw))

/-- What a worker counts in total is what is chosen for its layers. -/
theorem EngineRun.globalHistogram_count {w : EngineWorker} (hw : w ∈ run.workers) (key : String) :
    (runWorker w.env w.actions).tracer.globalHistogram.count key =
      (chosenIn w.stage run.steps).countP fun assignment => assignment.2 = key := by
  rw [(run.tracks hw).globalHistogram, ← observed_of_follows (run.follows w hw),
    Multiset.coe_countP, count_map_snd]
  rfl

/-- The same under the rank of the engine. -/
theorem EngineRun.globalSourceExpert_count {w : EngineWorker} (hw : w ∈ run.workers)
    (key : String) :
    (runWorker w.env w.actions).tracer.globalSourceExpert.count key =
      (chosenIn w.stage run.steps).countP fun assignment =>
        sourceKey run.rank assignment.2 = key := by
  have hrank : fixedRank w.env = some run.rank := by
    have hnonneg : ¬ (run.rank : ℤ) < 0 := (Int.natCast_nonneg _).not_gt
    rw [fixedRank, sourceRank, Option.none_or, run.ranked w hw, Option.bind_some, if_neg hnonneg,
      Int.toNat_natCast]
  rw [(run.tracks hw).globalSourceExpert, ← observed_of_follows (run.follows w hw),
    Multiset.coe_countP, sourceKeys, hrank, List.count_eq_countP, List.countP_map]
  rfl

/-- What a worker counts for a request is what the request chose for its layers. -/
theorem EngineRun.perRequest_count {w : EngineWorker} (hw : w ∈ run.workers)
    (requestId key : String) :
    countFor (runWorker w.env w.actions).tracer.perRequest requestId key =
      (chosenIn w.stage (sinceFinished requestId run.steps)).countP (· = (requestId, key)) := by
  rw [(run.tracks hw).perRequest,
    ← observed_of_follows (forall₂_sinceFinish (run.follows w hw) requestId), Multiset.coe_countP,
    List.count_eq_countP]
  refine List.countP_congr fun assignment _ => ?_
  rw [beq_iff_eq, decide_eq_true_eq]

/-- **The largest count of the workers** is the count of all that was chosen, for a property that
tells of one key. -/
theorem EngineRun.count_mergeMaxAll {f : EngineWorker → Tally String} {key : String}
    {p : Assignment → Prop} [DecidablePred p]
    (hf : ∀ w ∈ run.workers, (f w).count key = (chosenIn w.stage run.steps).countP p)
    (hp : ∀ a b, p a → p b → a.2 = b.2) :
    (Tally.mergeMaxAll .empty (run.workers.map f)).count key = run.chosen.countP p := by
  have hle : ∀ source ∈ run.workers.map f, source.count key ≤ run.chosen.countP p := by
    intro source hsource
    obtain ⟨w, hw, rfl⟩ := List.mem_map.mp hsource
    rw [hf w hw]
    exact Multiset.countP_le_of_le p (chosenIn_le w.stage run.steps)
  refine Tally.count_mergeMaxAll_eq (Nat.zero_le _) hle ?_
  rcases Nat.eq_zero_or_pos (run.chosen.countP p) with hzero | hpos
  · exact Or.inl hzero.symm
  · obtain ⟨a, ha, hpa⟩ := Multiset.countP_pos.mp hpos
    obtain ⟨step, hstep, hmem⟩ := mem_chosenIn.mp ha
    obtain ⟨layer, hlayer, -, expertId, hkey⟩ := mem_chosen hmem
    obtain ⟨w, hw, hstage⟩ := run.covered step hstep layer hlayer
    refine Or.inr ⟨f w, List.mem_map.mpr ⟨w, hw, rfl⟩, ?_⟩
    rw [hf w hw]
    -- What else has the property has the key of the same layer.
    refine countP_chosenIn (fun requestId layer' expertId' h => ?_) run.steps
    have hsame : expertKey (some layer') expertId' = expertKey (some layer) expertId :=
      (hp _ _ h hpa).trans hkey
    rw [(expertKey_inj hsame).1]
    exact hstage

/-- **What an engine tells** over its whole run: every assignment of its rows, once. -/
theorem EngineRun.globalExpertHotness_count (key : String) :
    run.metadata.globalExpertHotness.count key = run.chosen.countP fun a => a.2 = key := by
  show (Tally.mergeMaxAll .empty
    ((run.workers.map fun w => runtimeMetadata w.env (runWorker w.env w.actions)).map
      (·.globalExpertHotness))).count key = _
  rw [List.map_map]
  exact run.count_mergeMaxAll (fun w hw => run.globalHistogram_count hw key)
    fun a b ha hb => ha.trans hb.symm

theorem EngineRun.sourceRankHotness_count (key : String) :
    run.metadata.globalSourceRankExpertHotness.count key =
      run.chosen.countP fun a => sourceKey run.rank a.2 = key := by
  show (Tally.mergeMaxAll .empty
    ((run.workers.map fun w => runtimeMetadata w.env (runWorker w.env w.actions)).map
      (·.globalSourceRankExpertHotness))).count key = _
  rw [List.map_map]
  exact run.count_mergeMaxAll (fun w hw => run.globalSourceExpert_count hw key)
    fun a b ha hb => sourceKey_injective run.rank (ha.trans hb.symm)

/-- The keys of what was chosen, in some order. -/
theorem EngineRun.exists_keys : ∃ keys : List String, keys.length = Multiset.card run.chosen ∧
    ∀ key, keys.count key = run.chosen.countP fun a => a.2 = key := by
  refine ⟨(run.chosen.map Prod.snd).toList, ?_, fun key => ?_⟩
  · rw [Multiset.length_toList, Multiset.card_map]
  · rw [← Multiset.coe_count, Multiset.coe_toList, Multiset.count_map,
      Multiset.countP_eq_card_filter]
    simp only [eq_comm]

/-- A source key tells the rank and the key. -/
theorem sourceKey_inj {rank rank' : ℕ} {key key' : String}
    (h : sourceKey rank key = sourceKey rank' key') : rank = rank' ∧ key = key' := by
  have hread : ∀ (r : ℕ) (k : String),
      (matchLiteral "source-rank:".toList (sourceKey r k).toList).bind readDigits =
        some (r, '/' :: k.toList) := by
    intro r k
    have hslash : EndsNumber ('/' :: k.toList) := endsNumber_cons (by decide)
    have htext : (sourceKey r k).toList =
        "source-rank:".toList ++ (Nat.toDigits 10 r ++ '/' :: k.toList) := by
      simp [sourceKey, Nat.toString_eq_repr]
    rw [htext, matchLiteral_append, Option.bind_some, readDigits_toDigits r hslash]
  have hboth := hread rank key
  rw [h, hread rank' key', Option.some_inj, Prod.mk.injEq, List.cons.injEq] at hboth
  exact ⟨hboth.1.symm, String.toList_inj.mp hboth.2.2.symm⟩

end Runs

/-! ## Deployments -/

theorem globalExpertHotness_aggregate (engines : List RouteMetadata) (key : String) :
    (aggregateMoeMetadata engines).globalExpertHotness.count key =
      (engines.map fun engine => engine.globalExpertHotness.count key).sum := by
  show (Tally.mergeAll .empty (engines.map (·.globalExpertHotness))).count key = _
  rw [Tally.count_mergeAll, Tally.count_empty, Nat.zero_add, List.map_map]
  rfl

theorem sourceRankHotness_aggregate (engines : List RouteMetadata) (key : String) :
    (aggregateMoeMetadata engines).globalSourceRankExpertHotness.count key =
      (engines.map fun engine => engine.globalSourceRankExpertHotness.count key).sum := by
  show (Tally.mergeAll .empty (engines.map (·.globalSourceRankExpertHotness))).count key = _
  rw [Tally.count_mergeAll, Tally.count_empty, Nat.zero_add, List.map_map]
  rfl

/-- A sum in which only one item of a list without repetition counts. -/
theorem sum_map_of_nodup {α β : Type*} {items : List α} {f : α → β} {g : α → ℕ} {a : α}
    (hnodup : (items.map f).Nodup) (ha : a ∈ items) (hzero : ∀ b ∈ items, f b ≠ f a → g b = 0) :
    (items.map g).sum = g a := by
  induction items with
  | nil => exact absurd ha List.not_mem_nil
  | cons item items ih =>
    rw [List.map_cons, List.nodup_cons] at hnodup
    rw [List.map_cons, List.sum_cons]
    rcases List.mem_cons.mp ha with rfl | ha
    · have hrest : (items.map g).sum = 0 := by
        rw [List.sum_eq_zero_iff]
        intro n hn
        obtain ⟨b, hb, rfl⟩ := List.mem_map.mp hn
        refine hzero b (List.mem_cons_of_mem a hb) fun hsame => hnodup.1 ?_
        exact hsame ▸ List.mem_map.mpr ⟨b, hb, rfl⟩
      rw [hrest, Nat.add_zero]
    · have hne : f item ≠ f a := fun hsame => hnodup.1 (hsame ▸ List.mem_map.mpr ⟨a, ha, rfl⟩)
      rw [hzero item List.mem_cons_self hne, Nat.zero_add]
      exact ih hnodup.2 ha fun b hb => hzero b (List.mem_cons_of_mem item hb)

theorem globalExpertHotness_deployment (run : EngineRun) (others : List EngineRun) (key : String) :
    (deploymentMetadata run.metadata (others.map EngineRun.metadata)).globalExpertHotness.count
      key = ((run :: others).map fun r => r.chosen.countP fun a => a.2 = key).sum := by
  rw [deploymentMetadata]
  split_ifs with hnone
  · rw [List.isEmpty_iff, List.map_eq_nil_iff] at hnone
    rw [hnone, List.map_singleton, List.sum_singleton, run.globalExpertHotness_count]
  · rw [globalExpertHotness_aggregate, ← List.map_cons, List.map_map]
    exact congrArg List.sum (List.map_congr_left fun r _ => r.globalExpertHotness_count key)

/-- **What a deployment tells.**  Its engines have different ranks; each has any number of workers,
of which those of one stage see the same rows, cut into calls as it comes, and those of different
stages different layers.  Then the count of an expert is the number of times that a row of some
engine chose it since tracing began, the counts together are all choices, and the counts under the
rank of an engine are those of that engine alone. -/
theorem deploymentMetadata_counts (run : EngineRun) (others : List EngineRun)
    (hranks : ((run :: others).map EngineRun.rank).Nodup) :
    (∀ key,
      (deploymentMetadata run.metadata (others.map EngineRun.metadata)).globalExpertHotness.count
        key = ((run :: others).map fun r => r.chosen.countP fun a => a.2 = key).sum) ∧
    (deploymentMetadata run.metadata (others.map EngineRun.metadata)).globalExpertHotness.total =
      ((run :: others).map fun r => Multiset.card r.chosen).sum ∧
    ∀ r ∈ run :: others, ∀ key,
      (deploymentMetadata run.metadata
          (others.map EngineRun.metadata)).globalSourceRankExpertHotness.count
        (sourceKey r.rank key) = r.chosen.countP fun a => a.2 = key := by
  have hcount := globalExpertHotness_deployment run others
  refine ⟨hcount, ?_, fun r hr key => ?_⟩
  · choose keys hlength hkeys using EngineRun.exists_keys
    have hlist : ∀ key,
        (deploymentMetadata run.metadata (others.map EngineRun.metadata)).globalExpertHotness.count
          key = ((run :: others).flatMap keys).count key := by
      intro key
      rw [hcount, List.count_flatMap]
      exact congrArg List.sum (List.map_congr_left fun r _ => (hkeys r key).symm)
    rw [Tally.total_of_count_eq hlist, List.length_flatMap]
    exact congrArg List.sum (List.map_congr_left fun r _ => hlength r)
  · have hown : r.metadata.globalSourceRankExpertHotness.count (sourceKey r.rank key) =
        r.chosen.countP fun a => a.2 = key := by
      rw [r.sourceRankHotness_count]
      refine Multiset.countP_congr rfl fun a _ => ?_
      rw [(sourceKey_injective r.rank).eq_iff]
    rw [deploymentMetadata]
    split_ifs with hnone
    · rw [List.isEmpty_iff, List.map_eq_nil_iff] at hnone
      obtain rfl : r = run := by simpa [hnone] using hr
      exact hown
    · rw [sourceRankHotness_aggregate, ← List.map_cons, List.map_map, ← hown]
      refine sum_map_of_nodup (g := fun engine : EngineRun =>
        engine.metadata.globalSourceRankExpertHotness.count (sourceKey r.rank key)) hranks hr ?_
      -- Another engine has no counts under this rank.
      intro engine _ hne
      rw [engine.sourceRankHotness_count, Multiset.countP_eq_zero]
      intro a _ hsame
      exact hne (sourceKey_inj hsame).1

/-- A layer hands over one row, which chose the experts 1 and 5. -/
def oneRow : RoutingCall :=
  ⟨some "model.layers.3.mlp", ⟨2, [[1, 5]], fun _ h => List.mem_singleton.mp h ▸ rfl⟩, 0⟩

/-- An engine with two workers that hold every layer, and one row. -/
def twoWorkers (rank : ℕ) : EngineRun where
  rank := rank
  steps := [.execute [("r", 1)] {"model.layers.3.mlp"} fun _ => [[1, 5]]]
  workers := List.replicate 2
    ⟨⟨true, some (rank : ℤ), "p", rank⟩, everyLayer, [.execute [("r", 1)] [oneRow]]⟩
  nonempty := List.cons_ne_nil _ _
  enabled := fun _ hw => List.eq_of_mem_replicate hw ▸ rfl
  ranked := fun _ hw => List.eq_of_mem_replicate hw ▸ rfl
  follows := fun w hw => by
    obtain rfl := List.eq_of_mem_replicate hw
    refine List.Forall₂.cons (.execute ⟨fun call hcall => ?_, fun call hcall => ?_, ?_⟩) .nil
    · rw [List.mem_singleton.mp hcall]
      exact Nat.two_pos
    · rw [List.mem_singleton.mp hcall]
      exact ⟨Finset.mem_singleton_self _, rfl⟩
    · intro layer hlayer _
      rw [Finset.mem_singleton.mp hlayer]
      rfl
  covered := fun _ _ _ _ => ⟨_, List.mem_replicate.mpr ⟨two_ne_zero, rfl⟩, rfl⟩

theorem deploymentMetadata_counts_twoWorkers :
    (deploymentMetadata (twoWorkers 0).metadata
        [(twoWorkers 1).metadata]).globalExpertHotness.total =
      Multiset.card (twoWorkers 0).chosen + (Multiset.card (twoWorkers 1).chosen + 0) :=
  (deploymentMetadata_counts (twoWorkers 0) [twoWorkers 1] (by decide)).2.1

/-! ## Requests -/

theorem total_eq_zero_of_isEmpty {t : Tally String} (h : t.isEmpty = true) : t.total = 0 := by
  have htotal : t.total = (Tally.empty : Tally String).total :=
    Tally.total_congr ((Tally.isEmpty_iff t).mp h)
  rw [htotal]
  rfl

/-- The kept histogram is one of those that came by, and none of them is larger. -/
theorem foldl_selectHistogram (histograms : List (Tally String)) (selected : Tally String) :
    (histograms.foldl selectHistogram selected = selected ∨
        histograms.foldl selectHistogram selected ∈ histograms) ∧
      selected.total ≤ (histograms.foldl selectHistogram selected).total ∧
      ∀ histogram ∈ histograms,
        histogram.total ≤ (histograms.foldl selectHistogram selected).total := by
  induction histograms generalizing selected with
  | nil => exact ⟨Or.inl rfl, le_rfl, fun _ h => absurd h List.not_mem_nil⟩
  | cons histogram histograms ih =>
    obtain ⟨hmem, hle, hall⟩ := ih (selectHistogram selected histogram)
    have hstep : (selectHistogram selected histogram = selected ∨
          selectHistogram selected histogram = histogram) ∧
        selected.total ≤ (selectHistogram selected histogram).total ∧
        histogram.total ≤ (selectHistogram selected histogram).total := by
      rw [selectHistogram]
      split_ifs with h
      · refine ⟨Or.inr rfl, ?_, le_rfl⟩
        rcases h with h | h
        · rw [total_eq_zero_of_isEmpty h]
          exact Nat.zero_le _
        · exact h.le
      · rw [not_or, not_lt] at h
        exact ⟨Or.inl rfl, le_rfl, h.2⟩
    rw [List.foldl_cons]
    refine ⟨?_, hstep.2.1.trans hle, List.forall_mem_cons.mpr ⟨hstep.2.2.trans hle, hall⟩⟩
    rcases hmem with hmem | hmem
    · rw [hmem, List.mem_cons]
      exact hstep.1.imp_right Or.inl
    · exact Or.inr (List.mem_cons_of_mem _ hmem)

theorem histogram_engineRequestReport (snapshots : List RequestReport) (key : String) :
    ((engineRequestReport snapshots).histogram.getD .empty).count key =
      (((snapshots.filterMap (·.histogram)).filter (!·.isEmpty)).foldl selectHistogram .empty).count
        key := by
  have hite : ∀ (t : Tally String) (a b : EngineRequestReport), a.histogram = none →
      b.histogram = some t →
      ((if t.isEmpty = true then a else b).histogram.getD .empty).count key = t.count key := by
    intro t a b ha hb
    split_ifs with hempty
    · rw [ha, Option.getD_none, (Tally.isEmpty_iff t).mp hempty key]
      rfl
    · rw [hb, Option.getD_some]
  exact hite _ _ _ rfl rfl

section Requests

variable (run : EngineRun) (requestId : String)

/-- The histograms that the workers send for a request. -/
def EngineRun.histograms : List (Tally String) :=
  ((run.workers.map fun w =>
    RouteTracing.requestReport w.env (runWorker w.env w.actions) requestId).filterMap
      (·.histogram)).filter (!·.isEmpty)

/-- A histogram that is sent holds what its worker counts. -/
theorem EngineRun.exists_of_mem_histograms {t : Tally String}
    (h : t ∈ run.histograms requestId) : ∃ w ∈ run.workers, ∀ key, t.count key =
      (chosenIn w.stage (sinceFinished requestId run.steps)).countP (· = (requestId, key)) := by
  obtain ⟨snapshot, hsnapshot, hsome⟩ := List.mem_filterMap.mp (List.mem_of_mem_filter h)
  obtain ⟨w, hw, rfl⟩ := List.mem_map.mp hsnapshot
  refine ⟨w, hw, fun key => ?_⟩
  rw [← run.perRequest_count hw, ← count_requestReport w.env, hsome, Option.getD_some]

/-- A worker that counts something sends it. -/
theorem EngineRun.exists_mem_histograms {w : EngineWorker} (hw : w ∈ run.workers) {key : String}
    (hpos : 0 < (chosenIn w.stage (sinceFinished requestId run.steps)).countP
      (· = (requestId, key))) :
    ∃ t ∈ run.histograms requestId, ∀ key', t.count key' =
      (chosenIn w.stage (sinceFinished requestId run.steps)).countP (· = (requestId, key')) := by
  rw [← run.perRequest_count hw, ← count_requestReport w.env] at hpos
  cases hsome :
    (RouteTracing.requestReport w.env (runWorker w.env w.actions) requestId).histogram with
  | none =>
    rw [hsome] at hpos
    exact absurd hpos (Nat.lt_irrefl 0)
  | some t =>
    refine ⟨t, ?_, fun key' => ?_⟩
    · rw [EngineRun.histograms, List.mem_filter, List.mem_filterMap]
      refine ⟨⟨_, List.mem_map.mpr ⟨w, hw, rfl⟩, hsome⟩, ?_⟩
      rw [Bool.not_eq_true', ← Bool.not_eq_true, Tally.isEmpty_iff]
      intro hzero
      rw [hsome, Option.getD_some, hzero key] at hpos
      exact absurd hpos (Nat.lt_irrefl 0)
    · rw [← run.perRequest_count hw, ← count_requestReport w.env, hsome, Option.getD_some]

/-- The histogram that an engine keeps. -/
def EngineRun.selected : Tally String := (run.histograms requestId).foldl selectHistogram .empty

theorem EngineRun.count_requestReport (key : String) :
    ((run.requestReport requestId).histogram.getD .empty).count key =
      (run.selected requestId).count key :=
  histogram_engineRequestReport _ key

theorem total_pos_of_count_pos {t : Tally String} {key : String} (h : 0 < t.count key) :
    0 < t.total := by
  by_contra hzero
  have htotal : (Tally.empty : Tally String).total = t.total := (Nat.eq_zero_of_not_pos hzero).symm
  have hcount := Tally.count_eq_of_total_eq (t := .empty) (fun key => Nat.zero_le _) htotal key
  exact absurd hcount h.ne

/-- The kept histogram is what one of the workers counts. -/
theorem EngineRun.exists_selected : ∃ w ∈ run.workers, ∀ key, (run.selected requestId).count key =
    (chosenIn w.stage (sinceFinished requestId run.steps)).countP (· = (requestId, key)) := by
  obtain ⟨hmem, -, hmax⟩ := foldl_selectHistogram (run.histograms requestId) .empty
  rcases hmem with hnone | hmem
  · -- Nothing is sent, so any worker will do.
    obtain ⟨w, hw⟩ := List.exists_mem_of_ne_nil _ run.nonempty
    refine ⟨w, hw, fun key => ?_⟩
    rcases Nat.eq_zero_or_pos ((chosenIn w.stage (sinceFinished requestId run.steps)).countP
      (· = (requestId, key))) with hzero | hpos
    · rw [hzero, EngineRun.selected, hnone]
      rfl
    · obtain ⟨t, ht, hcount⟩ := run.exists_mem_histograms requestId hw hpos
      have htotal := hmax t ht
      rw [hnone] at htotal
      rw [← hcount] at hpos
      exact absurd (total_pos_of_count_pos hpos) (Nat.not_lt.mpr htotal)
  · exact run.exists_of_mem_histograms requestId hmem

/-- A worker that counts at least as much of everything counts the same. -/
theorem EngineRun.selected_eq {w : EngineWorker} (hw : w ∈ run.workers)
    (hle : ∀ key, (run.selected requestId).count key ≤
      (chosenIn w.stage (sinceFinished requestId run.steps)).countP (· = (requestId, key)))
    (key : String) : (run.selected requestId).count key =
      (chosenIn w.stage (sinceFinished requestId run.steps)).countP (· = (requestId, key)) := by
  rcases Nat.eq_zero_or_pos ((chosenIn w.stage (sinceFinished requestId run.steps)).countP
    (· = (requestId, key))) with hzero | hpos
  · have hkey := hle key
    omega
  · obtain ⟨t, ht, hcount⟩ := run.exists_mem_histograms requestId hw hpos
    have hle' : ∀ key', (run.selected requestId).count key' ≤ t.count key' := fun key' => by
      rw [hcount]
      exact hle key'
    have htotal : (run.selected requestId).total = t.total :=
      le_antisymm (Tally.total_le_total hle')
        ((foldl_selectHistogram (run.histograms requestId) .empty).2.2 t ht)
    rw [← hcount]
    exact Tally.count_eq_of_total_eq hle' htotal key

/-- **What an engine tells about a request** is what one of its workers saw.  It is all that the
request chose since it was last forgotten exactly when one worker holds all layers in which the
request chose an expert: counts of different pipeline stages are not put together. -/
theorem EngineRun.requestReport_exact_iff :
    (∃ w ∈ run.workers, ∀ key, ((run.requestReport requestId).histogram.getD .empty).count key =
      (chosenIn w.stage (sinceFinished requestId run.steps)).countP (· = (requestId, key))) ∧
    ((∀ key, ((run.requestReport requestId).histogram.getD .empty).count key =
        (run.chosenFor requestId).countP (· = (requestId, key))) ↔
      ∃ w ∈ run.workers, ∀ layer expertId,
        (requestId, expertKey (some layer) expertId) ∈ run.chosenFor requestId →
          w.stage (layerIdFromName (some layer)) = true) := by
  simp only [run.count_requestReport]
  obtain ⟨w, hw, hselected⟩ := run.exists_selected requestId
  refine ⟨⟨w, hw, hselected⟩, fun hexact => ⟨w, hw, fun layer expertId hmem => ?_⟩, ?_⟩
  · have hpos : 0 < (chosenIn w.stage (sinceFinished requestId run.steps)).countP
        (· = (requestId, expertKey (some layer) expertId)) := by
      rw [← hselected, hexact, Multiset.countP_pos]
      exact ⟨_, hmem, rfl⟩
    obtain ⟨assignment, hheld, rfl⟩ := Multiset.countP_pos.mp hpos
    obtain ⟨step, -, hchosen⟩ := mem_chosenIn.mp hheld
    obtain ⟨layer', -, hstage, expertId', hkey⟩ := mem_chosen hchosen
    rw [(expertKey_inj hkey).1]
    exact hstage
  · rintro ⟨w', hw', hholds⟩
    have hall : ∀ key, (chosenIn w'.stage (sinceFinished requestId run.steps)).countP
        (· = (requestId, key)) = (run.chosenFor requestId).countP (· = (requestId, key)) := by
      intro key
      rcases Nat.eq_zero_or_pos ((run.chosenFor requestId).countP (· = (requestId, key)))
        with hzero | hpos
      · have hle := Multiset.countP_le_of_le (· = (requestId, key))
          (chosenIn_le w'.stage (sinceFinished requestId run.steps))
        rw [hzero]
        exact Nat.le_zero.mp (hzero ▸ hle)
      · obtain ⟨assignment, hmem, rfl⟩ := Multiset.countP_pos.mp hpos
        refine countP_chosenIn (fun requestId' layer expertId hsame => ?_) _
        exact hholds layer expertId ((Prod.mk.inj hsame).2 ▸ hmem)
    intro key
    rw [← hall]
    refine run.selected_eq requestId hw' (fun key' => ?_) key
    rw [hselected, hall]
    exact Multiset.countP_le_of_le _ (chosenIn_le w.stage (sinceFinished requestId run.steps))

end Requests

end RouteTracing
end SpotServe
