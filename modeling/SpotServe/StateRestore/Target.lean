import Mathlib.Data.Prod.Lex
import Mathlib.Data.String.Basic
import SpotServe.Library.OrderedDict
import SpotServe.Library.Runs
import SpotServe.Library.Selection
import SpotServe.ContextMigration.ExpertDispatch
import SpotServe.StateRestore.Compatibility

/-!
# Choosing a target for an exported state

`plan_compatible_state_target` of `sllm/spot/stateful_recovery.py` passes the candidates through a
row of filters, scores those that are left, and sorts the scores.  An exported state is restored on
the first of them, and replayed from its tokens when there is none.

* `consider_eq_accepted_iff`: the filters leave the `Eligible` candidates.
* `mem_scores_iff`: what is ranked.
* `rankKey_injOn`: instance ids that are all different tell the ranked scores apart, so the sort
  never gets to compare the dictionaries behind them.
* `plan_restores_best`: the chosen target is eligible and cheapest, a replay is decided only when
  there is none, and the order of the candidates is of no matter.
-/

namespace SpotServe
namespace StateRestore

open Py ContextMigration

/-! ## Scores -/

/-- `str(candidate.get("instance_id", ""))` -/
def instanceIdOf (candidate : Dict) : String :=
  match candidate.lookup "instance_id" with
  | some value => value.toStr
  | none => ""

/-- `str(candidate.get("node_id", "") or "")` -/
def nodeIdOf (candidate : Dict) : String := strOr (candidate.lookup "node_id") ""

/-- `bool(candidate.get(key, False))` -/
def flag (candidate : Dict) (key : String) : Bool :=
  match candidate.lookup key with
  | some value => value.truthy
  | none => false

/-- `metadata.update(items)` -/
def updateMetadata (metadata items : Dict) : Dict :=
  items.foldl (fun known item => OrderedDict.setEntry known item.1 item.2) metadata

/-- `_merged_candidate_metadata` -/
def mergedCandidateMetadata (candidate : Dict) : Dict :=
  updateMetadata
    (updateMetadata (updateMetadata [] (mappingAt candidate "model_resource_profile"))
      (mappingAt candidate "metadata"))
    (candidate.filter fun item => item.1 ∉ ["model_resource_profile", "metadata"])

/-- `_state_context_metadata` -/
def stateContextMetadata (state : InferenceState) : ContextMetadata where
  requestId := state.requestId
  instanceId := state.instanceId
  nodeId := state.nodeId
  numTokens := if state.completedTokens = 0 then state.tokens.length else state.completedTokens
  contextBlocks := max 0 ((readInt? state.metadata "kv_block_count").getD 0)
  tokens := state.tokens
  cacheBlockSize := 0
  cacheDtype := ""
  cacheLayout := ""
  reusableTokensByTarget := []
  reusableBlocksByTarget := []
  metadata := state.metadata

/-- `max(0, int(candidate.get("concurrency", 0) or 0))`, when it does not raise. -/
def concurrencyOf (candidate : Dict) : Option ℤ := (readInt? candidate "concurrency").map (max 0)

/-- `_candidate_migration_target`, when it does not raise. -/
def candidateMigrationTarget (candidate : Dict) : Option MigrationTarget := do
  let warmupCost ← readFloat? candidate "warmup_cost"
  let concurrency ← concurrencyOf candidate
  return {
    instanceId := instanceIdOf candidate
    nodeId := nodeIdOf candidate
    capacity := 1
    warmupCost := warmupCost
    concurrency := concurrency
    maxQueueLength := 0
    queueDepth := none
    queuePenalty := 0
    metadata := mergedCandidateMetadata candidate }

/-- `float(planner_config.get(key, default) or 0.0)` -/
def configNumber (config : PlannerConfig) (key : String) (default : ℚ) : ℚ :=
  match config.number key with
  | some (some value) => value
  | some none => 0
  | none => default

/-- What `_candidate_restore_score` returns, less what it copies of the placement for the log. -/
structure Score where
  instanceId : String
  nodeId : String
  sameNode : Bool
  modelSemantic : Check
  stateSerialization : Check
  kvLayout : Check
  epLayout : EpCheck
  restoreScopeCost : ℚ
  warmupCost : ℚ
  concurrency : ℤ
  totalEstimatedCost : ℚ
  locality : ExpertDispatch

/-- `kv_restore_compatible` -/
def Score.kvRestoreCompatible (score : Score) : Bool :=
  score.modelSemantic.compatible && score.stateSerialization.compatible &&
    score.kvLayout.compatible && score.epLayout.compatible

/-- `_candidate_restore_score`, when it does not raise. -/
def candidateRestoreScore (state : InferenceState) (candidate : Dict) (config : PlannerConfig) :
    Option Score := do
  let target ← candidateMigrationTarget candidate
  let locality := estimateExpertDispatchCost (stateContextMetadata state) target config
  let sameNode := state.nodeId ≠ "" ∧ nodeIdOf candidate ≠ "" ∧ state.nodeId = nodeIdOf candidate
  let scopeCost := if sameNode then 0 else configNumber config "cross_node_restore_cost" 1
  return {
    instanceId := instanceIdOf candidate
    nodeId := nodeIdOf candidate
    sameNode := sameNode
    modelSemantic := modelSemanticCompatible state candidate
    stateSerialization := stateSerializationCompatible state candidate
    kvLayout := kvLayoutCompatible state candidate
    epLayout := epLayoutCompatible state candidate
    restoreScopeCost := scopeCost
    warmupCost := target.warmupCost
    concurrency := target.concurrency
    totalEstimatedCost := scopeCost + target.warmupCost + locality.cost +
      configNumber config "concurrency_weight" 0 * target.concurrency
    locality := locality }

/-! ## The planner -/

/-- An entry of `rejected`. -/
structure Rejection where
  instanceId : String
  reason : String
  compatibility : Option Score

/-- What the loop makes of a candidate. -/
inductive Verdict where
  | passedOver
  | rejected (rejection : Rejection)
  | accepted (score : Score)

/-- `allow_cross_node` -/
def allowCrossNode (state : InferenceState) : Bool := flag state.metadata "can_restore_cross_node"

/-- The reason given for a score that is not compatible. -/
def Score.rejectionReason (score : Score) : String :=
  if ¬ score.epLayout.compatible then score.epLayout.reason
  else if ¬ score.kvLayout.compatible then score.kvLayout.reason
  else if ¬ score.stateSerialization.compatible then score.stateSerialization.reason
  else score.modelSemantic.reason

/-- The loop body, when it does not raise. -/
def consider (state : InferenceState) (sourceInstanceId : String) (config : PlannerConfig)
    (candidate : Dict) : Option Verdict :=
  let instanceId := instanceIdOf candidate
  let sourceNode := state.nodeId
  let targetNode := nodeIdOf candidate
  if instanceId = "" ∨ instanceId = sourceInstanceId then some .passedOver
  else if flag candidate "ready" = false then some .passedOver
  else if flag candidate "supports_state_restore" = false then
    some (.rejected ⟨instanceId, "target_restore_unsupported", none⟩)
  else if sourceNode ≠ "" ∧ targetNode ≠ "" ∧ sourceNode ≠ targetNode ∧
      allowCrossNode state = false then
    some (.rejected ⟨instanceId, "cross_node_restore_unsupported", none⟩)
  else
    (candidateRestoreScore state candidate config).map fun score =>
      if score.kvRestoreCompatible = false then
        .rejected ⟨instanceId, score.rejectionReason, some score⟩
      else .accepted score

/-- The entries of `rejected`. -/
def Verdict.rejection? : Verdict → Option Rejection
  | .rejected rejection => some rejection
  | _ => none

/-- The scores in `ranked`. -/
def Verdict.score? : Verdict → Option Score
  | .accepted score => some score
  | _ => none

/-- The tuples that are sorted, without the score at their end. -/
def rankKey (state : InferenceState) (score : Score) : ℚ ×ₗ ℕ ×ₗ ℚ ×ₗ ℤ ×ₗ String :=
  toLex (score.totalEstimatedCost, toLex (if state.nodeId = score.nodeId then 0 else 1,
    toLex (score.warmupCost, toLex (score.concurrency, score.instanceId))))

/-- `ranked.sort()` -/
def rankScores (state : InferenceState) (scores : List Score) : List Score :=
  scores.insertionSort fun a b => rankKey state a ≤ rankKey state b

/-- What `plan_compatible_state_target` returns. -/
inductive TargetPlan where
  /-- With the rejected candidates. -/
  | fallbackTokenReplay (reason : String) (rejected : List Rejection)
  /-- With the selected candidate, all the ranked ones and the rejected ones. -/
  | restoreState (selected : Score) (ranked : List Score) (rejected : List Rejection)

/-- What is returned for the scores that are ranked. -/
def planOfRanked (rejected : List Rejection) : List Score → TargetPlan
  | [] => .fallbackTokenReplay "no_compatible_ready_target" rejected
  | selected :: rest => .restoreState selected (selected :: rest) rejected

/-- `plan_compatible_state_target`, when it does not raise. -/
def planCompatibleStateTarget (state : InferenceState) (candidates : List Dict)
    (sourceInstanceId : String) (config : PlannerConfig) : Option TargetPlan :=
  if ¬ state.AdvertisesRestore then some (.fallbackTokenReplay "state_restore_not_advertised" [])
  else do
    let verdicts ← candidates.mapM (consider state sourceInstanceId config)
    return planOfRanked (verdicts.filterMap Verdict.rejection?)
      (rankScores state (verdicts.filterMap Verdict.score?))

/-- `target_instance_id` -/
def TargetPlan.targetInstanceId : TargetPlan → Option String
  | .fallbackTokenReplay _ _ => none
  | .restoreState selected _ _ => some selected.instanceId

/-! ## What the filters leave -/

/-- The numbers of a candidate's costs can be read. -/
def CostsReadable (candidate : Dict) : Prop :=
  (readFloat? candidate "warmup_cost").isSome = true ∧
    (readInt? candidate "concurrency").isSome = true

instance (candidate : Dict) : Decidable (CostsReadable candidate) :=
  inferInstanceAs (Decidable (_ ∧ _))

/-- A candidate on which the state may be restored. -/
structure Eligible (state : InferenceState) (sourceInstanceId : String) (candidate : Dict) :
    Prop where
  named : instanceIdOf candidate ≠ ""
  notSource : instanceIdOf candidate ≠ sourceInstanceId
  ready : flag candidate "ready" = true
  supports : flag candidate "supports_state_restore" = true
  node : ¬ (state.nodeId ≠ "" ∧ nodeIdOf candidate ≠ "" ∧ state.nodeId ≠ nodeIdOf candidate) ∨
    allowCrossNode state = true
  experts : epRequired state candidate = true → Agree state candidate epLayoutKeys
  cache : Agree state candidate kvLayoutKeys
  serialization : ReadsState state candidate
  model : SameModel state candidate

theorem exists_score {candidate : Dict} (h : CostsReadable candidate) (state : InferenceState)
    (config : PlannerConfig) :
    ∃ score, candidateRestoreScore state candidate config = some score := by
  obtain ⟨warmupCost, hwarmup⟩ := Option.isSome_iff_exists.mp h.1
  obtain ⟨concurrency, hconcurrency⟩ := Option.isSome_iff_exists.mp h.2
  unfold candidateRestoreScore candidateMigrationTarget concurrencyOf
  rw [hwarmup, hconcurrency]
  exact ⟨_, rfl⟩

/-- What a score says of its candidate. -/
theorem of_candidateRestoreScore {state : InferenceState} {candidate : Dict}
    {config : PlannerConfig} {score : Score}
    (h : candidateRestoreScore state candidate config = some score) :
    score.instanceId = instanceIdOf candidate ∧
      score.modelSemantic = modelSemanticCompatible state candidate ∧
      score.stateSerialization = stateSerializationCompatible state candidate ∧
      score.kvLayout = kvLayoutCompatible state candidate ∧
      score.epLayout = epLayoutCompatible state candidate := by
  unfold candidateRestoreScore at h
  obtain ⟨target, -, hscore⟩ := Option.bind_eq_some_iff.mp h
  obtain rfl := Option.some.inj hscore
  exact ⟨rfl, rfl, rfl, rfl, rfl⟩

theorem kvRestoreCompatible_iff {state : InferenceState} {candidate : Dict}
    {config : PlannerConfig} {score : Score}
    (h : candidateRestoreScore state candidate config = some score) :
    score.kvRestoreCompatible = true ↔
      ((SameModel state candidate ∧ ReadsState state candidate) ∧
        Agree state candidate kvLayoutKeys) ∧
        (epRequired state candidate = true → Agree state candidate epLayoutKeys) := by
  obtain ⟨-, hmodel, hserialization, hcache, hexperts⟩ := of_candidateRestoreScore h
  rw [Score.kvRestoreCompatible, hmodel, hserialization, hcache, hexperts, Bool.and_eq_true,
    Bool.and_eq_true, Bool.and_eq_true, modelSemanticCompatible_iff,
    stateSerializationCompatible_iff, kvLayoutCompatible_iff, epLayoutCompatible_iff]

/-- The filters leave the eligible candidates. -/
theorem consider_eq_accepted_iff {state : InferenceState} {sourceInstanceId : String}
    {config : PlannerConfig} {candidate : Dict} {score : Score} :
    consider state sourceInstanceId config candidate = some (.accepted score) ↔
      Eligible state sourceInstanceId candidate ∧
        candidateRestoreScore state candidate config = some score := by
  unfold consider
  dsimp only
  split
  case isTrue hid =>
    refine iff_of_false (by simp) fun h => ?_
    rcases hid with hempty | hsource
    · exact h.1.named hempty
    · exact h.1.notSource hsource
  case isFalse hid =>
  rw [not_or] at hid
  split
  case isTrue hready => exact iff_of_false (by simp) fun h => by simp [h.1.ready] at hready
  case isFalse hready =>
  split
  case isTrue hsupports => exact iff_of_false (by simp) fun h => by simp [h.1.supports] at hsupports
  case isFalse hsupports =>
  split
  case isTrue hnode =>
    refine iff_of_false (by simp) fun h => ?_
    obtain ⟨hsource, htarget, hdiffer, hallow⟩ := hnode
    rcases h.1.node with hsame | hallowed
    · exact hsame ⟨hsource, htarget, hdiffer⟩
    · rw [hallow] at hallowed
      exact Bool.false_ne_true hallowed
  case isFalse hnode =>
  rw [Option.map_eq_some_iff]
  constructor
  · rintro ⟨score', hscore, haccepted⟩
    split_ifs at haccepted with hcompatible
    obtain rfl := Verdict.accepted.inj haccepted
    obtain ⟨⟨⟨hmodel, hserialization⟩, hcache⟩, hexperts⟩ :=
      (kvRestoreCompatible_iff hscore).mp (Bool.not_eq_false _ ▸ hcompatible)
    refine ⟨⟨hid.1, hid.2, by simpa using hready, by simpa using hsupports, ?_, hexperts, hcache,
      hserialization, hmodel⟩, hscore⟩
    by_cases hallow : allowCrossNode state = true
    · exact Or.inr hallow
    · refine Or.inl fun hfar => hnode ⟨hfar.1, hfar.2.1, hfar.2.2, by simpa using hallow⟩
  · rintro ⟨heligible, hscore⟩
    refine ⟨score, hscore, if_neg ?_⟩
    rw [(kvRestoreCompatible_iff hscore).mpr ⟨⟨⟨heligible.model, heligible.serialization⟩,
      heligible.cache⟩, heligible.experts⟩]
    exact Bool.true_eq_false_eq_False

theorem exists_verdict {candidate : Dict} (h : CostsReadable candidate) (state : InferenceState)
    (sourceInstanceId : String) (config : PlannerConfig) :
    ∃ verdict, consider state sourceInstanceId config candidate = some verdict := by
  obtain ⟨score, hscore⟩ := exists_score h state config
  unfold consider
  rw [hscore]
  dsimp only
  split_ifs
  all_goals exact ⟨_, rfl⟩

/-- The scores of the candidates that the filters leave. -/
def acceptedScores (state : InferenceState) (sourceInstanceId : String) (config : PlannerConfig)
    (candidates : List Dict) : List Score :=
  candidates.filterMap fun candidate =>
    (consider state sourceInstanceId config candidate).bind Verdict.score?

theorem score?_eq_some_iff {verdict : Verdict} {score : Score} :
    verdict.score? = some score ↔ verdict = .accepted score := by
  cases verdict with
  | passedOver => simp [Verdict.score?]
  | rejected rejection => simp [Verdict.score?]
  | accepted score' => simp [Verdict.score?]

theorem mem_acceptedScores_iff {state : InferenceState} {sourceInstanceId : String}
    {config : PlannerConfig} {candidates : List Dict} {score : Score} :
    score ∈ acceptedScores state sourceInstanceId config candidates ↔
      ∃ candidate ∈ candidates, Eligible state sourceInstanceId candidate ∧
        candidateRestoreScore state candidate config = some score := by
  rw [acceptedScores, List.mem_filterMap]
  refine exists_congr fun candidate => and_congr_right fun _ => ?_
  rw [Option.bind_eq_some_iff, ← consider_eq_accepted_iff]
  constructor
  · rintro ⟨verdict, hverdict, hscore⟩
    rw [hverdict, score?_eq_some_iff.mp hscore]
  · exact fun h => ⟨_, h, rfl⟩

theorem filterMap_score? {state : InferenceState} {sourceInstanceId : String}
    {config : PlannerConfig} {candidates : List Dict} {verdicts : List Verdict}
    (h : List.Forall₂ (fun candidate verdict =>
      consider state sourceInstanceId config candidate = some verdict) candidates verdicts) :
    verdicts.filterMap Verdict.score? =
      acceptedScores state sourceInstanceId config candidates := by
  induction h with
  | nil => rfl
  | @cons candidate verdict rest verdicts hverdict hrest ih =>
    rw [List.filterMap_cons, acceptedScores, List.filterMap_cons, hverdict, Option.bind_some, ih]
    rfl

/-! ## The choice -/

/-- Candidates with instance ids that are all different have scores that the ranking tells
apart. -/
theorem rankKey_injOn {state : InferenceState} {sourceInstanceId : String} {config : PlannerConfig}
    {candidates : List Dict} (hids : (candidates.map instanceIdOf).Nodup) :
    ∀ a ∈ acceptedScores state sourceInstanceId config candidates,
      ∀ b ∈ acceptedScores state sourceInstanceId config candidates,
        rankKey state a = rankKey state b → a = b := by
  intro a ha b hb hkey
  obtain ⟨candidate, hcandidate, -, ha⟩ := mem_acceptedScores_iff.mp ha
  obtain ⟨candidate', hcandidate', -, hb⟩ := mem_acceptedScores_iff.mp hb
  have hid : a.instanceId = b.instanceId :=
    congrArg (fun key : ℚ ×ₗ ℕ ×ₗ ℚ ×ₗ ℤ ×ₗ String => key.2.2.2.2) hkey
  rw [(of_candidateRestoreScore ha).1, (of_candidateRestoreScore hb).1] at hid
  obtain rfl := List.inj_on_of_nodup_map hids hcandidate hcandidate' hid
  exact Option.some.inj (ha.symm.trans hb)

/-- The smaller tuple is not the dearer one. -/
theorem totalEstimatedCost_le_of_rankKey_le {state : InferenceState} {a b : Score}
    (h : rankKey state a ≤ rankKey state b) : a.totalEstimatedCost ≤ b.totalEstimatedCost := by
  rcases Prod.Lex.toLex_le_toLex.mp h with hlt | heq
  · exact le_of_lt hlt
  · exact le_of_eq heq.1

/-- What the planner returns for a state that can be restored. -/
theorem plan_of_advertised {state : InferenceState} {candidates : List Dict}
    (hstate : state.AdvertisesRestore) (hcosts : ∀ candidate ∈ candidates, CostsReadable candidate)
    (sourceInstanceId : String) (config : PlannerConfig) :
    ∃ rejected, planCompatibleStateTarget state candidates sourceInstanceId config =
      some (planOfRanked rejected
        (rankScores state (acceptedScores state sourceInstanceId config candidates))) := by
  obtain ⟨verdicts, hverdicts⟩ := Runs.mapM_some fun candidate hcandidate =>
    exists_verdict (hcosts candidate hcandidate) state sourceInstanceId config
  refine ⟨verdicts.filterMap Verdict.rejection?, ?_⟩
  rw [planCompatibleStateTarget, if_neg (not_not.mpr hstate), hverdicts,
    ← filterMap_score? (Runs.forall₂_of_mapM hverdicts)]
  rfl

/-- The first of the ranked scores is the best of all. -/
theorem planOfRanked_eq_restoreState {state : InferenceState} {scores ranked : List Score}
    {selected : Score} {rejected rejected' : List Rejection}
    (h : planOfRanked rejected (rankScores state scores) =
      .restoreState selected ranked rejected') :
    Selection.best (rankKey state) scores = some selected := by
  show (rankScores state scores).head? = some selected
  cases hranked : rankScores state scores with
  | nil =>
    rw [hranked] at h
    exact absurd h (by simp [planOfRanked])
  | cons first rest =>
    rw [hranked] at h
    rw [List.head?_cons, (TargetPlan.restoreState.inj h).1]

theorem planOfRanked_eq_fallback_iff {state : InferenceState} {scores : List Score}
    {rejected : List Rejection} :
    (∃ reason rejected', planOfRanked rejected (rankScores state scores) =
      .fallbackTokenReplay reason rejected') ↔ scores = [] := by
  rw [← List.length_eq_zero_iff, ← List.length_insertionSort
    (fun a b => rankKey state a ≤ rankKey state b), List.length_eq_zero_iff]
  show _ ↔ rankScores state scores = []
  cases rankScores state scores with
  | nil => exact iff_of_true ⟨_, _, rfl⟩ rfl
  | cons first rest => exact iff_of_false (by simp [planOfRanked]) (by simp)

/-- The chosen instance is that of the best score. -/
theorem targetInstanceId_planOfRanked (state : InferenceState) (scores : List Score)
    (rejected : List Rejection) :
    (planOfRanked rejected (rankScores state scores)).targetInstanceId =
      (Selection.best (rankKey state) scores).map Score.instanceId := by
  show _ = (rankScores state scores).head?.map Score.instanceId
  cases rankScores state scores with
  | nil => rfl
  | cons first rest => rfl

/-- What the choice of a target should be. -/
structure RestoresBest (state : InferenceState) (candidates : List Dict)
    (sourceInstanceId : String) (config : PlannerConfig) : Prop where
  returns : (planCompatibleStateTarget state candidates sourceInstanceId config).isSome = true
  target : ∀ selected ranked rejected,
    planCompatibleStateTarget state candidates sourceInstanceId config =
        some (.restoreState selected ranked rejected) →
      ∃ candidate ∈ candidates, selected.instanceId = instanceIdOf candidate ∧
        Eligible state sourceInstanceId candidate ∧
        candidateRestoreScore state candidate config = some selected ∧
        ∀ other ∈ candidates, Eligible state sourceInstanceId other →
          ∀ score, candidateRestoreScore state other config = some score →
            selected.totalEstimatedCost ≤ score.totalEstimatedCost
  fallback : (∃ reason rejected,
      planCompatibleStateTarget state candidates sourceInstanceId config =
        some (.fallbackTokenReplay reason rejected)) ↔
    ¬ state.AdvertisesRestore ∨
      ∀ candidate ∈ candidates, ¬ Eligible state sourceInstanceId candidate
  orderFree : ∀ candidates', candidates.Perm candidates' →
    (planCompatibleStateTarget state candidates' sourceInstanceId config).map
        TargetPlan.targetInstanceId =
      (planCompatibleStateTarget state candidates sourceInstanceId config).map
        TargetPlan.targetInstanceId

/-- A state that does not say that it can be restored is replayed. -/
theorem plan_of_not_advertised {state : InferenceState} (hstate : ¬ state.AdvertisesRestore)
    (candidates : List Dict) (sourceInstanceId : String) (config : PlannerConfig) :
    planCompatibleStateTarget state candidates sourceInstanceId config =
      some (.fallbackTokenReplay "state_restore_not_advertised" []) := if_pos hstate

/-- No score is left exactly when no candidate is eligible. -/
theorem acceptedScores_eq_nil_iff {state : InferenceState} {candidates : List Dict}
    (hcosts : ∀ candidate ∈ candidates, CostsReadable candidate) {sourceInstanceId : String}
    {config : PlannerConfig} :
    acceptedScores state sourceInstanceId config candidates = [] ↔
      ∀ candidate ∈ candidates, ¬ Eligible state sourceInstanceId candidate := by
  rw [List.eq_nil_iff_forall_not_mem]
  constructor
  · intro h candidate hcandidate heligible
    obtain ⟨score, hscore⟩ := exists_score (hcosts candidate hcandidate) state config
    exact h score (mem_acceptedScores_iff.mpr ⟨candidate, hcandidate, heligible, hscore⟩)
  · intro h score hscore
    obtain ⟨candidate, hcandidate, heligible, -⟩ := mem_acceptedScores_iff.mp hscore
    exact h candidate hcandidate heligible

/-- **The chosen target is eligible, cheapest and independent of the order.** -/
theorem plan_restores_best {state : InferenceState} {candidates : List Dict}
    (hids : (candidates.map instanceIdOf).Nodup)
    (hcosts : ∀ candidate ∈ candidates, CostsReadable candidate) (sourceInstanceId : String)
    (config : PlannerConfig) : RestoresBest state candidates sourceInstanceId config := by
  by_cases hstate : state.AdvertisesRestore
  · obtain ⟨rejected, hplan⟩ := plan_of_advertised hstate hcosts sourceInstanceId config
    refine ⟨?_, ?_, ?_, ?_⟩
    · rw [hplan]
      rfl
    · intro selected ranked rejected' hrestore
      rw [hplan] at hrestore
      have hbest := planOfRanked_eq_restoreState (Option.some.inj hrestore)
      obtain ⟨candidate, hcandidate, heligible, hscore⟩ :=
        mem_acceptedScores_iff.mp (Selection.mem_of_best hbest)
      refine ⟨candidate, hcandidate, (of_candidateRestoreScore hscore).1, heligible, hscore, ?_⟩
      intro other hother heligible' score hscore'
      have hmem : score ∈ acceptedScores state sourceInstanceId config candidates :=
        mem_acceptedScores_iff.mpr ⟨other, hother, heligible', hscore'⟩
      exact totalEstimatedCost_le_of_rankKey_le (Selection.key_le_of_best hbest hmem)
    · rw [hplan, or_iff_right (not_not.mpr hstate), ← acceptedScores_eq_nil_iff hcosts,
        ← planOfRanked_eq_fallback_iff]
      exact exists₂_congr fun reason rejected' => Option.some_inj
    · intro candidates' hperm
      have hcosts' : ∀ candidate ∈ candidates', CostsReadable candidate :=
        fun candidate hcandidate => hcosts candidate (hperm.symm.subset hcandidate)
      obtain ⟨rejected', hplan'⟩ := plan_of_advertised hstate hcosts' sourceInstanceId config
      have hscores : (acceptedScores state sourceInstanceId config candidates).Perm
          (acceptedScores state sourceInstanceId config candidates') := hperm.filterMap _
      rw [hplan, hplan', Option.map_some, Option.map_some, targetInstanceId_planOfRanked,
        targetInstanceId_planOfRanked, Selection.best_perm hscores (rankKey_injOn hids)]
  · refine ⟨?_, ?_, ?_, ?_⟩
    · rw [plan_of_not_advertised hstate]
      rfl
    · intro selected ranked rejected hrestore
      rw [plan_of_not_advertised hstate] at hrestore
      exact absurd (Option.some.inj hrestore) (by simp)
    · exact iff_of_true ⟨_, _, plan_of_not_advertised hstate _ _ _⟩ (Or.inl hstate)
    · intro candidates' hperm
      rw [plan_of_not_advertised hstate, plan_of_not_advertised hstate]

/-- An exported KV snapshot. -/
def exportedSnapshot : InferenceState where
  requestId := some "request"
  instanceId := "instance-source"
  nodeId := "node-a"
  backend := "vllm"
  modelName := "model"
  tokens := [1, 2]
  completedTokens := 2
  stateKind := "vllm_kv_snapshot"
  supportsRestore := true
  metadata := [("tensor_parallel_size", .int 2)]

/-- A candidate that is ready, with its tensor-parallel size. -/
def readyCandidate (instanceId : String) (tensorParallelSize : ℤ) : Dict :=
  [("instance_id", .str instanceId), ("node_id", .str "node-a"), ("ready", .bool true),
    ("supports_state_restore", .bool true), ("tensor_parallel_size", .int tensorParallelSize)]

/-- The settings left at their defaults. -/
def defaultSettings : PlannerConfig where
  number := fun _ => none
  enableMoeExpertLocality := none

theorem plan_restores_best_readyCandidates :
    RestoresBest exportedSnapshot
      [readyCandidate "instance-1" 4, readyCandidate "instance-2" 2] "instance-source"
      defaultSettings :=
  plan_restores_best (by decide) (by decide) _ _

end StateRestore
end SpotServe
