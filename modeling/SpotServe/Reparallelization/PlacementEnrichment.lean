import SpotServe.Library.Dedupe
import SpotServe.Reparallelization.Ranking
import SpotServe.ExpertPlacement.Coverage

/-!
# What enriching the candidates with placements keeps

`_attach_expert_placement_movement_estimates` (`sllm/spot/reparallelization.py`) goes over all
candidates and strategies.  A placement is left out when its key has been met, and the key names the
parallel sizes, the replicas and the placement's fingerprint, not the batch size and not whether the
experts are parallel; a candidate without a placement is listed once for every strategy.

* `attachExpertPlacementMovementEstimates_eq`: the loop is `Dedupe.keepFirst` on the placements of
  all candidates, in order.
* `represented_iff`: a candidate is in the result exactly when some strategy leaves it without a
  placement, or with one whose key no earlier candidate has.
* `unrepeated_iff`: nothing is in the result twice exactly when no candidate is left without a
  placement by two strategies.

`placement_enrichment_keeps_iff` puts them together.
-/

namespace SpotServe
namespace Reparallelization

open Py Runs Selection ExpertPlacement Dedupe

/-! ## What makes a candidate -/

/-- What tells the candidates apart. -/
structure CandidateIdentity where
  tensorParallelSize : ℕ
  pipelineParallelSize : ℕ
  dataParallelSize : ℕ
  replicaCount : ℕ
  batchSize : ℕ
  enableExpertParallel : Bool
  deriving DecidableEq

/-- The identity of a candidate. -/
def ParallelConfig.identity (c : ParallelConfig) : CandidateIdentity :=
  ⟨c.shape.tensorParallelSize, c.shape.pipelineParallelSize, c.shape.dataParallelSize,
    c.shape.replicaCount, c.batchSize, c.shape.enableExpertParallel⟩

/-- The estimates of how a candidate performs. -/
structure PerformanceEstimates where
  latencyMs : ℚ
  throughputReqS : ℚ
  loadTimeMs : ℚ
  migrationCostMs : ℚ
  deriving DecidableEq

/-- The estimates a candidate comes with. -/
def ParallelConfig.performance (c : ParallelConfig) : PerformanceEstimates :=
  ⟨c.latencyEstimateMs, c.throughputEstimateReqS, c.loadTimeEstimateMs, c.migrationCostEstimateMs⟩

/-- `dedupe_key`. -/
def dedupeKey (c : ParallelConfig) (plan : ExpertPlacementPlan) : DedupeKey :=
  ⟨c.shape.tensorParallelSize, c.shape.pipelineParallelSize, c.shape.dataParallelSize,
    c.shape.replicaCount, plan.placementFingerprint⟩

/-! ## The loop -/

/-- A candidate and the placement that a strategy gives it. -/
abbrev Outcome := ParallelConfig × Option ExpertPlacementPlan

/-- The key of an outcome; without a placement there is none. -/
def Outcome.key (outcome : Outcome) : Option DedupeKey := outcome.2.map (dedupeKey outcome.1)

/-- The entry for an outcome. -/
def Outcome.entry (outcome : Outcome) : ParallelConfig :=
  match outcome.2 with
  | none => outcome.1
  | some plan => outcome.1.withPlacement plan

@[simp] theorem Outcome.identity_entry (outcome : Outcome) :
    outcome.entry.identity = outcome.1.identity := by
  unfold Outcome.entry
  split <;> rfl

@[simp] theorem Outcome.performance_entry (outcome : Outcome) :
    outcome.entry.performance = outcome.1.performance := by
  unfold Outcome.entry
  split <;> rfl

/-- What the enrichment is called with, besides the candidates. -/
structure EnrichmentInput where
  lookups : PlacementLookups
  modelName : String
  backend : String
  nodes : WorkerNodes
  config : Dict
  placementEpoch : ℕ
  reason : String

section Attach

variable (input : EnrichmentInput)

/-- `_attach_expert_placement_movement_estimates`. -/
def EnrichmentInput.attach (candidates : List ParallelConfig) :
    Except PlanningFailure (List ParallelConfig) :=
  attachExpertPlacementMovementEstimates input.lookups input.modelName input.backend input.nodes
    input.config input.placementEpoch input.reason candidates

/-- Its loop body. -/
def EnrichmentInput.turn (state : Enriched) (turn : ParallelConfig × String) :
    Except PlanningFailure Enriched :=
  attachPlacement input.lookups input.modelName input.backend input.nodes input.config
    input.placementEpoch input.reason state turn

/-- The placement that a strategy gives a candidate. -/
def EnrichmentInput.placement (c : ParallelConfig) (strategy : String) :
    Except PlanningFailure (Option ExpertPlacementPlan) := do
  let candidatePlan ← buildParallelPlan input.modelName input.backend c input.nodes
    input.placementEpoch none input.reason false
  expertPlacementFor input.lookups input.modelName input.placementEpoch
    (strategyConfig input.config strategy) candidatePlan

/-- The outcomes of all strategies for a candidate, in order. -/
def EnrichmentInput.outcomes (c : ParallelConfig) : List Outcome :=
  (placementStrategies input.config).map fun strategy =>
    (c, (input.placement c strategy).toOption.join)

/-- A turn raises what the placement raises, and otherwise goes by it. -/
theorem EnrichmentInput.turn_eq (state : Enriched) (c : ParallelConfig) (strategy : String) :
    input.turn state (c, strategy) = input.placement c strategy >>= fun placement =>
      match placement with
      | none => .ok { state with enriched := state.enriched ++ [c] }
      | some plan =>
        if dedupeKey c plan ∈ state.seenMappings then .ok state
        else .ok ⟨state.enriched ++ [c.withPlacement plan],
          dedupeKey c plan :: state.seenMappings⟩ := by
  unfold EnrichmentInput.turn attachPlacement EnrichmentInput.placement
  rw [bind_assoc]
  rfl

variable {input}

/-- The loop, when no placement raises. -/
theorem EnrichmentInput.foldlM_turn {turns : List (ParallelConfig × String)}
    (hok : ∀ turn ∈ turns, ∃ placement, input.placement turn.1 turn.2 = .ok placement)
    (state : Enriched) :
    ∃ seen, turns.foldlM input.turn state =
      .ok ⟨state.enriched ++ (keepFirst Outcome.key state.seenMappings (turns.map fun turn =>
        (turn.1, (input.placement turn.1 turn.2).toOption.join))).map Outcome.entry, seen⟩ := by
  induction turns generalizing state with
  | nil => exact ⟨state.seenMappings, by simp [keepFirst, pure, Except.pure]⟩
  | cons turn rest ih =>
    obtain ⟨⟨placement, hplacement⟩, hrest⟩ := List.forall_mem_cons.mp hok
    have hturn := input.turn_eq state turn.1 turn.2
    rw [hplacement] at hturn
    rw [List.foldlM_cons, List.map_cons, hplacement]
    cases placement with
    | none =>
      have hkey : Outcome.key (turn.1, none) = none := rfl
      obtain ⟨seen, hseen⟩ := ih hrest { state with enriched := state.enriched ++ [turn.1] }
      refine ⟨seen, ?_⟩
      rw [hturn]
      refine hseen.trans ?_
      show _ = Except.ok (Enriched.mk (state.enriched ++ (keepFirst Outcome.key state.seenMappings
        ((turn.1, none) :: _)).map Outcome.entry) seen)
      rw [keepFirst_cons_of_none hkey, List.map_cons, List.append_assoc]
      rfl
    | some plan =>
      have hkey : Outcome.key (turn.1, some plan) = some (dedupeKey turn.1 plan) := rfl
      by_cases hmet : dedupeKey turn.1 plan ∈ state.seenMappings
      · obtain ⟨seen, hseen⟩ := ih hrest state
        refine ⟨seen, ?_⟩
        rw [hturn]
        show (if dedupeKey turn.1 plan ∈ state.seenMappings then Except.ok state else _) >>= _ = _
        rw [if_pos hmet]
        refine hseen.trans ?_
        show _ = Except.ok (Enriched.mk (state.enriched ++ (keepFirst Outcome.key
          state.seenMappings ((turn.1, some plan) :: _)).map Outcome.entry) seen)
        rw [keepFirst_cons_of_mem hkey hmet]
      · obtain ⟨seen, hseen⟩ := ih hrest ⟨state.enriched ++ [turn.1.withPlacement plan],
          dedupeKey turn.1 plan :: state.seenMappings⟩
        refine ⟨seen, ?_⟩
        rw [hturn]
        show (if dedupeKey turn.1 plan ∈ state.seenMappings then Except.ok state else _) >>= _ = _
        rw [if_neg hmet]
        refine hseen.trans ?_
        show _ = Except.ok (Enriched.mk (state.enriched ++ (keepFirst Outcome.key
          state.seenMappings ((turn.1, some plan) :: _)).map Outcome.entry) seen)
        rw [keepFirst_cons_of_notMem hkey hmet, List.map_cons, List.append_assoc]
        rfl

/-- The enriched candidates are the first outcomes of every key. -/
theorem EnrichmentInput.attach_eq {candidates : List ParallelConfig}
    (hactive : placementDisabled input.config = false)
    (hok : ∀ c ∈ candidates, ∀ strategy ∈ placementStrategies input.config,
      ∃ placement, input.placement c strategy = .ok placement) :
    input.attach candidates =
      .ok ((keepFirst Outcome.key [] (candidates.flatMap input.outcomes)).map Outcome.entry) := by
  unfold EnrichmentInput.attach attachExpertPlacementMovementEstimates
  rw [hactive, Bool.or_false]
  split_ifs with hempty
  · rw [List.isEmpty_iff.mp hempty]
    rfl
  have hturns : ∀ turn ∈ candidates.flatMap fun c =>
      (placementStrategies input.config).map fun s => (c, s),
      ∃ placement, input.placement turn.1 turn.2 = .ok placement := by
    intro turn hturn
    obtain ⟨c, hc, hturn⟩ := List.mem_flatMap.mp hturn
    obtain ⟨strategy, hstrategy, rfl⟩ := List.mem_map.mp hturn
    exact hok c hc strategy hstrategy
  obtain ⟨seen, hseen⟩ := EnrichmentInput.foldlM_turn hturns {}
  refine bind_ok hseen ?_
  rw [List.map_flatMap]
  simp only [List.map_map]
  rfl

/-- A run that does not raise has asked for every placement. -/
theorem EnrichmentInput.placement_ok {candidates enriched : List ParallelConfig}
    (hactive : placementDisabled input.config = false) (h : input.attach candidates = .ok enriched)
    {c : ParallelConfig} (hc : c ∈ candidates) {strategy : String}
    (hstrategy : strategy ∈ placementStrategies input.config) :
    ∃ placement, input.placement c strategy = .ok placement := by
  cases hplacement : input.placement c strategy with
  | ok placement => exact ⟨placement, rfl⟩
  | error e =>
    unfold EnrichmentInput.attach attachExpertPlacementMovementEstimates at h
    rw [hactive, Bool.or_false, if_neg (by simpa using List.ne_nil_of_mem hc)] at h
    obtain ⟨state, hstate, -⟩ := of_bind_ok h
    have hmem : (c, strategy) ∈ candidates.flatMap fun c =>
        (placementStrategies input.config).map fun s => (c, s) :=
      List.mem_flatMap.mpr ⟨c, hc, List.mem_map.mpr ⟨strategy, hstrategy, rfl⟩⟩
    have hraise : ∀ state, ∃ e', input.turn state (c, strategy) = .error e' := by
      intro state
      rw [input.turn_eq, hplacement]
      exact ⟨e, rfl⟩
    obtain ⟨e', he'⟩ := foldlM_error hmem hraise {}
    exact absurd (hstate.symm.trans he') (by simp)

/-! ## What is represented, and what is repeated -/

/-- Every candidate is in the result, with its own estimates, and nothing is in it twice. -/
structure KeepsCandidates (candidates enriched : List ParallelConfig) : Prop where
  represented : ∀ c ∈ candidates, ∃ entry ∈ enriched,
    entry.identity = c.identity ∧ entry.performance = c.performance
  unrepeated : enriched.Pairwise fun entry entry' =>
    ¬ (entry.identity = entry'.identity ∧
      entry.expertPlacementPlan = entry'.expertPlacementPlan)

theorem EnrichmentInput.mem_outcomes {c : ParallelConfig} {outcome : Outcome}
    (h : outcome ∈ input.outcomes c) : outcome.1 = c := by
  obtain ⟨strategy, -, rfl⟩ := List.mem_map.mp h
  rfl

/-- Between earlier and later candidates, what stays of the outcomes of a candidate. -/
theorem EnrichmentInput.keepFirst_split (earlier later : List ParallelConfig) (c : ParallelConfig) :
    keepFirst Outcome.key [] ((earlier ++ c :: later).flatMap input.outcomes) =
      keepFirst Outcome.key [] (earlier.flatMap input.outcomes) ++
        (keepFirst Outcome.key ((earlier.flatMap input.outcomes).filterMap Outcome.key)
            (input.outcomes c) ++
          keepFirst Outcome.key ((input.outcomes c).filterMap Outcome.key ++
            (earlier.flatMap input.outcomes).filterMap Outcome.key)
              (later.flatMap input.outcomes)) := by
  rw [List.flatMap_append, List.flatMap_cons, keepFirst_append, keepFirst_append, List.append_nil]

/-- A candidate has an entry exactly when not all its keys have been met on earlier candidates. -/
theorem EnrichmentInput.represented_iff {earlier later : List ParallelConfig} {c : ParallelConfig}
    (hnodup : ((earlier ++ c :: later).map ParallelConfig.identity).Nodup) :
    (∃ outcome ∈ keepFirst Outcome.key [] ((earlier ++ c :: later).flatMap input.outcomes),
        outcome.1.identity = c.identity) ↔
      ∃ outcome ∈ input.outcomes c, ∀ k, outcome.key = some k →
        ∀ c' ∈ earlier, ∀ outcome' ∈ input.outcomes c', outcome'.key ≠ some k := by
  have hblock : (∃ outcome ∈ input.outcomes c, ∀ k, outcome.key = some k →
        ∀ c' ∈ earlier, ∀ outcome' ∈ input.outcomes c', outcome'.key ≠ some k) ↔
      keepFirst Outcome.key ((earlier.flatMap input.outcomes).filterMap Outcome.key)
        (input.outcomes c) ≠ [] := by
    rw [Ne, keepFirst_eq_nil_iff]
    push Not
    refine exists_congr fun outcome => and_congr_right fun _ => ?_
    constructor
    · intro h k hk hkey
      obtain ⟨outcome', houtcome', hkey'⟩ := List.mem_filterMap.mp hk
      obtain ⟨c', hc', houtcome'⟩ := List.mem_flatMap.mp houtcome'
      exact h k hkey c' hc' outcome' houtcome' hkey'
    · intro h k hkey c' hc' outcome' houtcome' hkey'
      exact h k (List.mem_filterMap.mpr
        ⟨outcome', List.mem_flatMap.mpr ⟨c', hc', houtcome'⟩, hkey'⟩) hkey
  rw [hblock, input.keepFirst_split]
  have hother : ∀ others : List ParallelConfig, (∀ c' ∈ others, c'.identity ≠ c.identity) →
      ∀ seen, ∀ outcome ∈ keepFirst Outcome.key seen (others.flatMap input.outcomes),
        outcome.1.identity ≠ c.identity := by
    intro others hothers seen outcome houtcome
    obtain ⟨c', hc', houtcome⟩ := List.mem_flatMap.mp ((keepFirst_sublist _ _ _).subset houtcome)
    rw [EnrichmentInput.mem_outcomes houtcome]
    exact hothers c' hc'
  rw [List.map_append, List.map_cons] at hnodup
  obtain ⟨-, htail, hdisjoint⟩ := List.nodup_append.mp hnodup
  have hearlier : ∀ c' ∈ earlier, c'.identity ≠ c.identity := fun c' hc' =>
    hdisjoint _ (List.mem_map_of_mem hc') _ List.mem_cons_self
  have hlater : ∀ c' ∈ later, c'.identity ≠ c.identity := fun c' hc' heq =>
    (List.nodup_cons.mp htail).1 (heq ▸ List.mem_map_of_mem hc')
  constructor
  · rintro ⟨outcome, houtcome, hidentity⟩ hnil
    rw [hnil, List.nil_append] at houtcome
    rcases List.mem_append.mp houtcome with houtcome | houtcome
    · exact hother earlier hearlier _ outcome houtcome hidentity
    · exact hother later hlater _ outcome houtcome hidentity
  · intro hne
    obtain ⟨outcome, houtcome⟩ := List.exists_mem_of_ne_nil _ hne
    refine ⟨outcome, List.mem_append_right _ (List.mem_append_left _ houtcome), ?_⟩
    rw [EnrichmentInput.mem_outcomes ((keepFirst_sublist _ _ _).subset houtcome)]

/-- Nothing stays twice exactly when no two strategies leave a candidate without a placement. -/
theorem EnrichmentInput.unrepeated_iff {candidates : List ParallelConfig}
    (hnodup : (candidates.map ParallelConfig.identity).Nodup)
    (hfresh : ∀ c ∈ candidates, c.expertPlacementPlan = none) :
    ((keepFirst Outcome.key [] (candidates.flatMap input.outcomes)).map Outcome.entry).Pairwise
        (fun entry entry' => ¬ (entry.identity = entry'.identity ∧
          entry.expertPlacementPlan = entry'.expertPlacementPlan)) ↔
      ∀ c ∈ candidates, (input.outcomes c).Pairwise fun outcome outcome' =>
        ¬ (outcome.2 = none ∧ outcome'.2 = none) := by
  have hinj : ∀ c ∈ candidates, ∀ c' ∈ candidates, c.identity = c'.identity → c = c' :=
    fun c hc c' hc' => List.inj_on_of_nodup_map hnodup hc hc'
  rw [List.pairwise_map]
  constructor
  · intro h c hc
    have hblock : (input.outcomes c).Sublist (candidates.flatMap input.outcomes) := by
      rw [List.flatMap_def]
      exact List.sublist_flatten_of_mem (List.mem_map_of_mem hc)
    have hsub : ((input.outcomes c).filter fun outcome => outcome.key.isNone).Sublist
        (keepFirst Outcome.key [] (candidates.flatMap input.outcomes)) :=
      (hblock.filter _).trans (keyless_sublist_keepFirst _ [] _)
    refine (List.pairwise_filter.mp (h.sublist hsub)).imp_of_mem ?_
    rintro outcome outcome' houtcome houtcome' hdiffer ⟨hnone, hnone'⟩
    have hentry : outcome.entry = outcome'.entry := by
      unfold Outcome.entry
      rw [hnone, hnone', EnrichmentInput.mem_outcomes houtcome,
        EnrichmentInput.mem_outcomes houtcome']
    refine hdiffer ?_ ?_ ⟨by rw [hentry], by rw [hentry]⟩
    · rw [Outcome.key, hnone]
      rfl
    · rw [Outcome.key, hnone']
      rfl
  · intro h
    -- two outcomes without a placement, of one candidate
    have hkeyless : (candidates.flatMap input.outcomes).Pairwise fun outcome outcome' =>
        outcome.1.identity = outcome'.1.identity → ¬ (outcome.2 = none ∧ outcome'.2 = none) := by
      refine List.pairwise_flatMap.mpr ⟨fun c hc => ?_, ?_⟩
      · refine (h c hc).imp ?_
        exact fun hnot _ => hnot
      refine (List.pairwise_map.mp hnodup).imp fun hne outcome houtcome outcome' houtcome' heq => ?_
      rw [EnrichmentInput.mem_outcomes houtcome, EnrichmentInput.mem_outcomes houtcome'] at heq
      exact absurd heq hne
    have hkept := (hkeyless.sublist (keepFirst_sublist Outcome.key [] _)).and
      (pairwise_keepFirst Outcome.key [] (candidates.flatMap input.outcomes))
    refine hkept.imp_of_mem ?_
    rintro outcome outcome' houtcome houtcome' ⟨hkeyless, hkeys⟩ ⟨hidentity, hplan⟩
    rw [Outcome.identity_entry, Outcome.identity_entry] at hidentity
    obtain ⟨c, hc, hmem⟩ := List.mem_flatMap.mp ((keepFirst_sublist _ _ _).subset houtcome)
    obtain ⟨c', hc', hmem'⟩ := List.mem_flatMap.mp ((keepFirst_sublist _ _ _).subset houtcome')
    have hfirst := EnrichmentInput.mem_outcomes hmem
    have hfirst' := EnrichmentInput.mem_outcomes hmem'
    have hsame : c = c' := hinj c hc c' hc' (by rw [← hfirst, ← hfirst', hidentity])
    have hfreshEntry := hfresh c hc
    rw [← hfirst] at hfreshEntry
    have hfreshEntry' := hfresh c' hc'
    rw [← hfirst'] at hfreshEntry'
    cases hplacement : outcome.2 with
    | none =>
      cases hplacement' : outcome'.2 with
      | none => exact hkeyless hidentity ⟨hplacement, hplacement'⟩
      | some plan' =>
        simp only [Outcome.entry, hplacement, hplacement', hfreshEntry] at hplan
        exact absurd hplan (by simp [ParallelConfig.withPlacement])
    | some plan =>
      cases hplacement' : outcome'.2 with
      | none =>
        simp only [Outcome.entry, hplacement, hplacement', hfreshEntry'] at hplan
        exact absurd hplan (by simp [ParallelConfig.withPlacement])
      | some plan' =>
        simp only [Outcome.entry, hplacement, hplacement', ParallelConfig.withPlacement] at hplan
        obtain rfl := Option.some.inj hplan
        refine hkeys (dedupeKey outcome.1 plan) (by rw [Outcome.key, hplacement]; rfl) ?_
        rw [Outcome.key, hplacement', hfirst', ← hsame, ← hfirst]
        rfl

/-! ## When enrichment keeps the candidates -/

/-- What the placements must be for every candidate to stay, and to stay once. -/
structure EnrichmentInput.PlacementsKeep (input : EnrichmentInput)
    (candidates : List ParallelConfig) : Prop where
  /-- No placement raises. -/
  placed : ∀ c ∈ candidates, ∀ strategy ∈ placementStrategies input.config,
    ∃ placement, input.placement c strategy = .ok placement
  /-- Some strategy gives a candidate a placement that no earlier one has under its key, or none. -/
  unshadowed : ∀ earlier c later, candidates = earlier ++ c :: later →
    ∃ strategy ∈ placementStrategies input.config,
      ∀ plan, input.placement c strategy = .ok (some plan) →
        ∀ c' ∈ earlier, ∀ strategy' ∈ placementStrategies input.config,
          ∀ plan', input.placement c' strategy' = .ok (some plan') →
            dedupeKey c' plan' ≠ dedupeKey c plan
  /-- No two strategies leave a candidate without a placement. -/
  onceWithout : ∀ c ∈ candidates, (placementStrategies input.config).Pairwise
    fun strategy strategy' =>
      ¬ (input.placement c strategy = .ok none ∧ input.placement c strategy' = .ok none)

theorem join_eq_some_iff {placement : Except PlanningFailure (Option ExpertPlacementPlan)}
    {plan : ExpertPlacementPlan} :
    placement.toOption.join = some plan ↔ placement = .ok (some plan) := by
  cases placement with
  | error e => simp [Except.toOption]
  | ok placement => simp [Except.toOption]

/-- The keys of the outcomes are those of the placements. -/
theorem EnrichmentInput.key_outcome_iff {c : ParallelConfig} {strategy : String} {k : DedupeKey} :
    Outcome.key (c, (input.placement c strategy).toOption.join) = some k ↔
      ∃ plan, input.placement c strategy = .ok (some plan) ∧ dedupeKey c plan = k := by
  rw [Outcome.key, Option.map_eq_some_iff]
  exact exists_congr fun plan => and_congr_left fun _ => join_eq_some_iff

/-- Where no placement raises, the outcomes without a placement are the strategies without one. -/
theorem EnrichmentInput.onceWithout_iff {candidates : List ParallelConfig}
    (hplaced : ∀ c ∈ candidates, ∀ strategy ∈ placementStrategies input.config,
      ∃ placement, input.placement c strategy = .ok placement) :
    (∀ c ∈ candidates, (input.outcomes c).Pairwise fun outcome outcome' =>
        ¬ (outcome.2 = none ∧ outcome'.2 = none)) ↔
      ∀ c ∈ candidates, (placementStrategies input.config).Pairwise fun strategy strategy' =>
        ¬ (input.placement c strategy = .ok none ∧ input.placement c strategy' = .ok none) := by
  refine forall₂_congr fun c hc => ?_
  have hnone : ∀ strategy ∈ placementStrategies input.config,
      (input.placement c strategy).toOption.join = none ↔
        input.placement c strategy = .ok none := by
    intro strategy hstrategy
    obtain ⟨placement, hplacement⟩ := hplaced c hc strategy hstrategy
    rw [hplacement]
    simp [Except.toOption]
  rw [EnrichmentInput.outcomes, List.pairwise_map]
  refine List.Pairwise.iff_of_mem fun {strategy strategy'} hstrategy hstrategy' => ?_
  rw [hnone strategy hstrategy, hnone strategy' hstrategy']

/-- **When enriching the candidates keeps every one of them, once for every placement.** -/
theorem placement_enrichment_keeps_iff (input : EnrichmentInput) {candidates : List ParallelConfig}
    (hidentity : (candidates.map ParallelConfig.identity).Nodup)
    (hfresh : ∀ c ∈ candidates, c.expertPlacementPlan = none) :
    (∃ enriched, input.attach candidates = .ok enriched ∧ KeepsCandidates candidates enriched) ↔
      placementDisabled input.config = true ∨ input.PlacementsKeep candidates := by
  cases hactive : placementDisabled input.config with
  | true =>
    refine ⟨fun _ => Or.inl rfl, fun _ => ⟨candidates, ?_, ?_, ?_⟩⟩
    · unfold EnrichmentInput.attach attachExpertPlacementMovementEstimates
      rw [hactive, Bool.or_true, if_pos rfl]
    · exact fun c hc => ⟨c, hc, rfl, rfl⟩
    · exact (List.pairwise_map.mp hidentity).imp fun hne hsame => hne hsame.1
  | false =>
    constructor
    · rintro ⟨enriched, hrun, hkeeps⟩
      have hplaced : ∀ c ∈ candidates, ∀ strategy ∈ placementStrategies input.config,
          ∃ placement, input.placement c strategy = .ok placement :=
        fun c hc strategy hstrategy => input.placement_ok hactive hrun hc hstrategy
      have hresult := Except.ok.inj (hrun.symm.trans (input.attach_eq hactive hplaced))
      subst hresult
      refine Or.inr ⟨hplaced, ?_, ?_⟩
      · rintro earlier c later rfl
        have hmem : c ∈ earlier ++ c :: later := by simp
        obtain ⟨entry, hentry, hsame, -⟩ := hkeeps.represented c hmem
        obtain ⟨outcome, houtcome, rfl⟩ := List.mem_map.mp hentry
        rw [Outcome.identity_entry] at hsame
        obtain ⟨outcome, houtcome, hnew⟩ :=
          (input.represented_iff hidentity).mp ⟨outcome, houtcome, hsame⟩
        obtain ⟨strategy, hstrategy, rfl⟩ := List.mem_map.mp houtcome
        refine ⟨strategy, hstrategy, fun plan hplan c' hc' strategy' hstrategy' plan' hplan' hkey =>
          ?_⟩
        exact hnew (dedupeKey c plan) (input.key_outcome_iff.mpr ⟨plan, hplan, rfl⟩) c' hc' _
          (List.mem_map_of_mem hstrategy') (input.key_outcome_iff.mpr ⟨plan', hplan', hkey⟩)
      · exact (input.onceWithout_iff hplaced).mp
          ((input.unrepeated_iff hidentity hfresh).mp hkeeps.unrepeated)
    · rintro (hdisabled | hkeep)
      · exact absurd hdisabled (by simp)
      refine ⟨_, input.attach_eq hactive hkeep.placed, ?_, ?_⟩
      · intro c hc
        obtain ⟨earlier, later, rfl⟩ := List.append_of_mem hc
        obtain ⟨strategy, hstrategy, hnew⟩ := hkeep.unshadowed earlier c later rfl
        obtain ⟨outcome, houtcome, hsame⟩ := (input.represented_iff hidentity).mpr
          ⟨_, List.mem_map_of_mem hstrategy, by
            intro k hk c' hc' outcome' houtcome' hk'
            obtain ⟨plan, hplan, rfl⟩ := input.key_outcome_iff.mp hk
            obtain ⟨strategy', hstrategy', rfl⟩ := List.mem_map.mp houtcome'
            obtain ⟨plan', hplan', hkey⟩ := input.key_outcome_iff.mp hk'
            exact hnew plan hplan c' hc' strategy' hstrategy' plan' hplan' hkey⟩
        have hcandidate : outcome.1 = c := by
          obtain ⟨c', hc', hmem⟩ := List.mem_flatMap.mp ((keepFirst_sublist _ _ _).subset houtcome)
          rw [EnrichmentInput.mem_outcomes hmem] at hsame ⊢
          exact List.inj_on_of_nodup_map hidentity hc' hc hsame
        refine ⟨outcome.entry, List.mem_map_of_mem houtcome, ?_, ?_⟩
        · rw [Outcome.identity_entry, hcandidate]
        · rw [Outcome.performance_entry, hcandidate]
      · exact (input.unrepeated_iff hidentity hfresh).mpr
          ((input.onceWithout_iff hkeep.placed).mpr hkeep.onceWithout)

/-- What the two sources make comes without a placement. -/
theorem sources_fresh {availableGpus : ℤ} {nodes : WorkerNodes} {config : Dict}
    {supported : List SupportedConfig} {candidates : List ParallelConfig}
    (h : generateParallelCandidates availableGpus config = .ok candidates ∨
      supportedConfigCandidates supported availableGpus nodes config = .ok candidates) :
    ∀ c ∈ candidates, c.expertPlacementPlan = none := by
  intro c hc
  rcases h with h | h
  · obtain ⟨-, tensor, pipeline, _, _, -, hmade⟩ := of_mem_generated h hc
    unfold generatedCandidate at hmade
    dsimp only at hmade
    split_ifs at hmade
    obtain rfl := Option.some.inj hmade
    rfl
  · obtain ⟨limits, row, targets, -, -, -, -, -, -, rfl⟩ := of_mem_supported h hc
    rfl

/-- A model that its name tells to have experts, without a topology: its placements are all the
same, an empty fingerprint. -/
def enrichedModel (strategies : String) (moeHint : Bool) : EnrichmentInput where
  lookups := { topology := (0, 0), moeHint := moeHint, lookup := fun _ _ => smallInput }
  modelName := "moe"
  backend := "vllm"
  nodes := ⟨[("node-a", [("total_gpu", .int 2)])], List.nodup_singleton _⟩
  config := [("placement_candidate_strategies", .str strategies)]
  placementEpoch := 0
  reason := "manual_replan"

/-- A candidate of two GPUs for batches of the given size. -/
def batched (batchSize : ℕ) : ParallelConfig where
  shape := ⟨2, 1, 1, 1, 2, false⟩
  unusedGpus := 0
  score := 0
  reason := "backend_capability"
  batchSize := batchSize

theorem placement_enrichment_keeps_one :
    (∃ enriched, (enrichedModel "linear" true).attach [batched 4] = .ok enriched ∧
        KeepsCandidates [batched 4] enriched) ↔
      placementDisabled (enrichedModel "linear" true).config = true ∨
        (enrichedModel "linear" true).PlacementsKeep [batched 4] :=
  placement_enrichment_keeps_iff _ (List.nodup_singleton _)
    (fun c hc => by rw [List.mem_singleton.mp hc]; rfl)

/-- Of two candidates that differ in the batch size, the second is lost; without a placement, a
candidate is listed for every strategy. -/
theorem batch_size_lost :
    ¬ (∃ enriched, (enrichedModel "linear" true).attach [batched 4, batched 8] = .ok enriched ∧
      KeepsCandidates [batched 4, batched 8] enriched) ∧
    ¬ (∃ enriched, (enrichedModel "linear,round_robin" false).attach [batched 4] = .ok enriched ∧
      KeepsCandidates [batched 4] enriched) := by
  constructor
  · rintro ⟨enriched, hrun, hkeeps⟩
    have hsizes : ((enrichedModel "linear" true).attach [batched 4, batched 8]).toOption.map
        (List.map (·.batchSize)) = some [4] := by decide +kernel
    rw [hrun] at hsizes
    have hmap : enriched.map (·.batchSize) = [4] := Option.some.inj hsizes
    obtain ⟨entry, hentry, hidentity, -⟩ := hkeeps.represented (batched 8) (by simp)
    have hbatch : entry.batchSize = 8 := congrArg CandidateIdentity.batchSize hidentity
    have hmem : entry.batchSize ∈ [4] := hmap ▸ List.mem_map_of_mem hentry
    rw [hbatch] at hmem
    exact absurd hmem (by decide)
  · rintro ⟨enriched, hrun, hkeeps⟩
    have hentries : ((enrichedModel "linear,round_robin" false).attach [batched 4]).toOption.map
        (List.map fun entry => (entry.identity, entry.expertPlacementPlan.isSome)) =
          some [((batched 4).identity, false), ((batched 4).identity, false)] := by decide +kernel
    rw [hrun] at hentries
    have hmap := Option.some.inj hentries
    obtain ⟨first, rest, rfl, hfirst, hrest⟩ := List.map_eq_cons_iff.mp hmap
    obtain ⟨second, rest, rfl, hsecond, -⟩ := List.map_eq_cons_iff.mp hrest
    obtain ⟨hidentity, hplan⟩ := Prod.mk.inj hfirst
    obtain ⟨hidentity', hplan'⟩ := Prod.mk.inj hsecond
    refine (List.pairwise_cons.mp hkeeps.unrepeated).1 second List.mem_cons_self
      ⟨hidentity.trans hidentity'.symm, ?_⟩
    rw [Option.isSome_eq_false_iff, Option.isNone_iff_eq_none] at hplan hplan'
    rw [hplan, hplan']

end Attach

end Reparallelization
end SpotServe
