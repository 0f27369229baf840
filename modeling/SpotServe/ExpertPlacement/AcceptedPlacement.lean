import SpotServe.ExpertPlacement.MovementRules

/-!
# An accepted placement against the current one

A plan that reports an improvement should not be worse than what it replaces.  The candidate comes
from a greedy loop that knows nothing of the current objective, and the predicted improvement is cut
off at zero before it is compared with the minimum that is asked for, so that with the minimum left
at zero a candidate that is worse passes.

* `NotWorse`: what a plan that reports an improvement owes.
* `Guarded`: a configuration that asks for some improvement, weighs the movement, or lets nothing
  move at the moment.
* `notWorse_iff_guarded`: these are the configurations whose accepted plans are never worse.
* `loadedInput`: a placement that the greedy loop makes worse.
-/

namespace SpotServe
namespace ExpertPlacement

open Py Runs

variable (input : PlannerInput)

/-- The objective of assignments for the ranks of the target plan. -/
def objectiveOf (strategy : PlacementStrategy) (assignments : List (List ℤ)) : ℚ :=
  selectionObjective input strategy (targetRankCount input.targetParallelPlan) assignments

/-- A plan that says that a candidate was accepted writes down a placement whose objective is at
most that of the current one. -/
def NotWorse : Prop :=
  ∀ plan current, buildLogicalExpertPlacementPlan input = .ok (some plan) →
    currentAssignments input (targetRankCount input.targetParallelPlan) = some current →
    input.hotnessSnapshot.available → plan.selectionReason ∈ acceptedReasons →
    ∃ planned, plannedAssignments input plan = some planned ∧
      objectiveOf input plan.placementStrategy planned ≤
        objectiveOf input plan.placementStrategy current

/-! ## What the greedy loop keeps -/

theorem sum_single (rank n : ℕ) :
    ((List.range n).map fun other : ℕ => if ((rank : ℤ) == (other : ℤ)) = true then 1 else 0).sum =
      if rank < n then 1 else 0 := by
  induction n with
  | zero => simp
  | succ n ih =>
    rw [List.range_succ, List.map_append, List.sum_append, ih]
    simp only [List.map_cons, List.map_nil, List.sum_singleton, beq_iff_eq, Nat.cast_inj]
    split_ifs <;> omega

/-- The ranks of an assignment count all of its experts. -/
theorem sum_counts {numExperts rankCount : ℕ} {assignment : List ℤ}
    (h : IsAssignment numExperts rankCount assignment) :
    ((List.range rankCount).map fun rank : ℕ => assignment.count (rank : ℤ)).sum = numExperts := by
  obtain ⟨hlength, hrank⟩ := h
  rw [← hlength]
  clear hlength
  induction assignment with
  | nil => simp
  | cons r assignment ih =>
    obtain ⟨rank, hlt, rfl⟩ := hrank r List.mem_cons_self
    simp only [List.count_cons]
    rw [List.sum_map_add, ih fun r hr => hrank r (List.mem_cons_of_mem _ hr), sum_single,
      if_pos hlt, List.length_cons]

/-- **The greedy loop keeps the number of experts of every rank.** -/
theorem count_layerAssignment {strategy : PlacementStrategy} {rankCount layerId : ℕ}
    (hpos : 0 < rankCount)
    (hstrategy : strategy = .hotnessBalanced ∨
      strategy = .hotnessLocality ∧ (sourceCountsFor input strategy).1.entries ≠ [])
    (havailable : input.hotnessSnapshot.available) {current candidate : List ℤ}
    (hcurrent : currentLayerAssignment input.currentSnapshot layerId input.topology.2 rankCount =
      some current)
    (hrun : layerAssignment input strategy rankCount layerId = .ok candidate) :
    current.length = candidate.length ∧ ∀ r ∈ candidate, current.count r = candidate.count r := by
  have hassignment := isAssignment_current hcurrent
  have hkeeps : ∀ score, greedyAssignment input.topology.2
      (defaultSlotCapacities input.topology.2 rankCount (some current))
      (hotnessOf input.hotnessSnapshot.hotness layerId) score = .ok candidate →
      current.length = candidate.length ∧
        ∀ r ∈ candidate, current.count r = candidate.count r := by
    intro score hgreedy
    obtain ⟨assignment, hrun', hcomplete, hcount⟩ := greedyAssignment_spec
      (hotnessOf input.hotnessSnapshot.hotness layerId) score
      (sum_defaultSlotCapacities input.topology.2 (some current) hpos)
    obtain rfl := Except.ok.inj (hgreedy.symm.trans hrun')
    refine ⟨by rw [hassignment.length, hcomplete.length], fun r hr => ?_⟩
    obtain ⟨rank, hrank, rfl⟩ := hcomplete.rank r hr
    rw [length_defaultSlotCapacities] at hrank
    rw [hcount rank, defaultSlotCapacities, if_pos (sum_counts hassignment),
      List.getD_eq_getElem?_getD, List.getElem?_map, List.getElem?_range hrank]
    rfl
  unfold layerAssignment at hrun
  rcases hstrategy with rfl | ⟨rfl, hsource⟩
  · simp only [if_pos havailable, hcurrent] at hrun
    exact hkeeps _ hrun
  · simp only [if_pos (And.intro havailable hsource), hcurrent] at hrun
    exact hkeeps _ hrun

/-- A candidate of a greedy strategy moves no expert or at least two. -/
theorem two_le_length_moved {strategy : PlacementStrategy} {rankCount : ℕ} (hpos : 0 < rankCount)
    (hstrategy : strategy = .hotnessBalanced ∨
      strategy = .hotnessLocality ∧ (sourceCountsFor input strategy).1.entries ≠ [])
    (havailable : input.hotnessSnapshot.available) {current candidate : List (List ℤ)}
    (hcurrent : currentAssignments input rankCount = some current)
    (hrun : (List.range input.topology.1).mapM (layerAssignment input strategy rankCount) =
      .ok candidate)
    (hmoves : movedExperts current candidate ≠ []) :
    2 ≤ (movedExperts current candidate).length := by
  have hlayers := forall₂_of_mapM hcurrent
  have hlayers' := forall₂_of_mapM_ok hrun
  have hlayer : ∀ (l : ℕ) (a c : List ℤ), current[l]? = some a → candidate[l]? = some c →
      currentLayerAssignment input.currentSnapshot l input.topology.2 rankCount = some a ∧
        layerAssignment input strategy rankCount l = .ok c := by
    intro l a c ha hc
    obtain ⟨hl, rfl⟩ := List.getElem?_eq_some_iff.mp ha
    obtain ⟨hl', rfl⟩ := List.getElem?_eq_some_iff.mp hc
    have hrange : l < (List.range input.topology.1).length := by rw [hlayers.length_eq]; exact hl
    have hget := hlayers.get hrange hl
    have hget' := hlayers'.get hrange hl'
    rw [List.get_eq_getElem, List.getElem_range] at hget hget'
    exact ⟨hget, hget'⟩
  refine two_le_length_movedExperts ?_ (?_ : ∀ c ∈ candidate, c.length = input.topology.2) ?_
    hmoves
  · rw [← hlayers.length_eq, hlayers'.length_eq]
  · intro c hc
    obtain ⟨l, hl, hrun⟩ := exists_of_mem_right hlayers' hc
    obtain ⟨assignment, hrun', hassignment, -⟩ := layerAssignment_spec input strategy hpos l
    obtain rfl := Except.ok.inj (hrun.symm.trans hrun')
    exact hassignment.length
  · intro l a c ha hc
    obtain ⟨hcurrent, hrun⟩ := hlayer l a c ha hc
    exact count_layerAssignment input hpos hstrategy havailable hcurrent hrun

/-! ## Configurations that guard -/

/-- The budgets let two experts move: two bytes with known weights, which is the least, or unknown
weights where the configuration assumes none. -/
def MovementPolicy.LetsTwoMove (policy : MovementPolicy) : Prop :=
  policy.Allows (some 2) 2 ∨
    policy.defaultWeightSize.filter (0 < ·) = none ∧ policy.Allows none 2

/-- The configuration asks for some improvement, weighs the movement against it, is cooling down,
or has budgets under which nothing moves. -/
def MovementPolicy.Guarded (policy : MovementPolicy) : Prop :=
  0 < policy.minimumImprovement ∨ 0 < policy.movementWeight ∨ policy.CoolingDown ∨
    ¬ policy.LetsTwoMove

/-- What the budgets allow to move of two experts or more, they allow of two. -/
theorem letsTwoMove_of_allows (hcosts : input.policy.costs.Nonneg) {moved : List (ℕ × ℕ)}
    (htwo : 2 ≤ moved.length)
    (hallowed : input.policy.Allows (estimatedMovedBytes input moved) moved.length) :
    input.policy.LetsTwoMove := by
  cases hbytes : estimatedMovedBytes input moved with
  | some bytes =>
    rw [hbytes] at hallowed
    have hle := htwo.trans (length_le_of_estimatedMovedBytes input hbytes)
    exact Or.inl (hallowed.mono hcosts (.some hle) (by decide) htwo)
  | none =>
    rw [hbytes] at hallowed
    exact Or.inr ⟨defaultWeightSize_of_estimatedMovedBytes input hbytes,
      hallowed.mono hcosts .none (by decide) htwo⟩

/-- A candidate that passes the rules of a configuration that guards is better. -/
theorem Acceptable.candidate_lt (hcosts : input.policy.costs.Nonneg)
    (hguarded : input.policy.Guarded) {currentObjective candidateObjective : ℚ}
    {moved : List (ℕ × ℕ)} (htwo : 2 ≤ moved.length)
    (h : Acceptable input currentObjective candidateObjective moved) :
    candidateObjective < currentObjective := by
  rcases hguarded with hminimum | hweight | hcooling | hbudgets
  · -- Cut off at zero or not, an improvement that is positive is one.
    have hpos := lt_of_lt_of_le hminimum h.improves
    rw [predictedImprovementRatio, if_pos h.unbalanced, lt_max_iff] at hpos
    have hratio := hpos.resolve_left (lt_irrefl 0)
    have := (div_pos_iff_of_pos_right h.unbalanced).mp hratio
    linarith
  · obtain ⟨hreference, cost, hcost, hbetter⟩ := h.worthwhile hweight
    have hnonneg := estimateExpertWeightMovementCostMs_nonneg hcosts hcost
    have : 0 ≤ input.policy.movementWeight * cost / input.policy.movementReferenceMs := by
      positivity
    linarith
  · exact absurd hcooling h.settled
  · exact absurd (letsTwoMove_of_allows input hcosts htwo h.allowed) hbudgets

theorem unavailablePlan_not_accepted (reason : String) :
    (unavailablePlan input reason).selectionReason ∉ acceptedReasons := by
  show "configured_strategy" ∉ acceptedReasons
  decide

/-- A plan that says that a candidate was accepted is the plan of a strategy. -/
theorem IsPlanOf.of_accepted {plan : ExpertPlacementPlan}
    (hbuild : buildLogicalExpertPlacementPlan input = .ok (some plan))
    (haccepted : plan.selectionReason ∈ acceptedReasons) :
    ∃ strategy candidate, IsPlanOf input strategy candidate plan := by
  rcases plan_cases input hbuild with ⟨reason, rfl⟩ | ⟨-, -, hplan⟩
  · exact absurd haccepted (unavailablePlan_not_accepted input reason)
  · exact hplan

theorem notWorse_of_guarded (hcosts : input.policy.costs.Nonneg)
    (hguarded : input.policy.Guarded) : NotWorse input := by
  intro plan current hbuild hcurrent havailable haccepted
  obtain ⟨strategy, candidate, hplan⟩ := IsPlanOf.of_accepted input hbuild haccepted
  rw [hplan.selectionReason] at haccepted
  obtain ⟨current', hcurrent', hchosen, hstrategy, -, hacceptable⟩ :=
    selectAssignments_accepted input haccepted
  obtain rfl := Option.some.inj (hcurrent.symm.trans hcurrent')
  have htwo := two_le_length_moved input (targetRankCount_pos input.targetParallelPlan) hstrategy
    havailable hcurrent hplan.run hacceptable.moves
  refine ⟨candidate, ?_, ?_⟩
  · rw [plannedAssignments_eq hplan, selected, hchosen]
  · rw [hplan.placementStrategy]
    exact (hacceptable.candidate_lt input hcosts hguarded htwo).le

/-! ## A placement that the greedy loop makes worse -/

/-- One layer of five experts on two ranks, of a byte each or of unknown weights. -/
def loadedSnapshot (weighed : Bool) : Snapshot :=
  let entry := fun rankId : String =>
    ({ rankId := rankId, weightSizeBytes := weighed.toNat } : PlacementEntry)
  ((((OrderedDict.empty.set "layer:0/expert:0" (entry "ep-rank:0")).set
    "layer:0/expert:1" (entry "ep-rank:0")).set "layer:0/expert:2" (entry "ep-rank:1")).set
    "layer:0/expert:3" (entry "ep-rank:1")).set "layer:0/expert:4" (entry "ep-rank:1")

/-- The ranks carry 61 and 60. -/
def loadedHotness : Hotness where
  entries := [("layer:0/expert:0", 31), ("layer:0/expert:1", 30), ("layer:0/expert:2", 20),
    ("layer:0/expert:3", 20), ("layer:0/expert:4", 20)]
  nodup := by decide

/-- The planner is asked to balance them. -/
def loadedInput (policy : MovementPolicy) (weighed : Bool) : PlannerInput where
  modelName := "moe"
  targetParallelPlan := [("enable_expert_parallel", .bool true), ("expert_parallel_size", .int 2)]
  plannerConfig := [("target_expert_placement_strategy", .str "hotness_balanced")]
  backendConfig := []
  modelBackend := .str "vllm"
  placementEpoch := 0
  topology := (1, 5)
  moeHint := true
  currentSnapshot := loadedSnapshot weighed
  movementSource := "current_expert_placement_snapshot"
  hotnessSnapshot := ⟨"snapshot", true, "valid_hotness_snapshot", loadedHotness, 1⟩
  hotnessHistograms := []
  sourceRankSnapshot := (.empty, "not_requested")
  localityWeight := 1
  policy := policy
  fingerprint := fun _ => "00000000"

section Loaded

variable (policy : MovementPolicy) (weighed : Bool)

theorem targetRankCount_loaded :
    targetRankCount (loadedInput policy weighed).targetParallelPlan = 2 := by
  show targetRankCount (loadedInput unconfiguredPolicy true).targetParallelPlan = 2
  decide +kernel

theorem strategy_loaded :
    PlacementStrategy.ofName? (placementStrategyText (loadedInput policy weighed)) =
      some .hotnessBalanced := by
  show PlacementStrategy.ofName? (placementStrategyText (loadedInput unconfiguredPolicy true)) = _
  decide +kernel

theorem currentAssignments_loaded :
    currentAssignments (loadedInput policy weighed) 2 = some [[0, 0, 1, 1, 1]] := by
  show currentAssignments (loadedInput unconfiguredPolicy weighed) 2 = _
  cases weighed <;> decide +kernel

/-- The greedy loop separates the two hottest experts and then fills up the rank of the second. -/
theorem candidate_loaded :
    (List.range 1).mapM (layerAssignment (loadedInput policy weighed) .hotnessBalanced 2) =
      .ok [[0, 1, 1, 0, 1]] := by
  show (List.range 1).mapM
    (layerAssignment (loadedInput unconfiguredPolicy weighed) .hotnessBalanced 2) = _
  cases weighed <;> decide +kernel

theorem objective_loaded :
    selectionObjective (loadedInput policy weighed) .hotnessBalanced 2 [[0, 0, 1, 1, 1]] = 1 / 121 ∧
      selectionObjective (loadedInput policy weighed) .hotnessBalanced 2 [[0, 1, 1, 0, 1]] =
        19 / 121 := by
  show selectionObjective (loadedInput unconfiguredPolicy true) .hotnessBalanced 2 _ = _ ∧
    selectionObjective (loadedInput unconfiguredPolicy true) .hotnessBalanced 2 _ = _
  decide +kernel

theorem moved_loaded :
    movedExperts [[0, 0, 1, 1, 1]] [[0, 1, 1, 0, 1]] = [(0, 1), (0, 3)] := by
  decide +kernel

/-- The weights of the two experts that move. -/
theorem estimatedMovedBytes_loaded :
    estimatedMovedBytes (loadedInput policy true) [(0, 1), (0, 3)] = some 2 ∧
      (policy.defaultWeightSize.filter (0 < ·) = none →
        estimatedMovedBytes (loadedInput policy false) [(0, 1), (0, 3)] = none) := by
  have hentries : ∀ weighed,
      (loadedSnapshot weighed).get? (expertKey 0 1) =
          some { rankId := "ep-rank:0", weightSizeBytes := weighed.toNat } ∧
        (loadedSnapshot weighed).get? (expertKey 0 3) =
          some { rankId := "ep-rank:1", weightSizeBytes := weighed.toNat } := by
    decide +kernel
  constructor
  · have hsnapshot : (loadedInput policy true).currentSnapshot = loadedSnapshot true := rfl
    rw [estimatedMovedBytes, List.mapM_cons, List.mapM_cons, List.mapM_nil, hsnapshot,
      (hentries true).1, (hentries true).2]
    rfl
  · intro hdefault
    have hunknown : entryWeightSizeBytes [{ rankId := "ep-rank:0", weightSizeBytes := 0 }]
        policy.defaultWeightSize = none := by
      rw [entryWeightSizeBytes, hdefault]
      rfl
    have hsnapshot : (loadedInput policy false).currentSnapshot = loadedSnapshot false := rfl
    rw [estimatedMovedBytes, List.mapM_cons, hsnapshot, (hentries false).1]
    show Option.map List.sum ((entryWeightSizeBytes [{ rankId := "ep-rank:0", weightSizeBytes := 0 }]
      policy.defaultWeightSize).bind _) = none
    rw [hunknown]
    rfl

variable {policy weighed}

/-- The rules accept the candidate, which is worse. -/
theorem not_notWorse_loaded (h : Acceptable (loadedInput policy weighed) (1 / 121) (19 / 121)
    [(0, 1), (0, 3)]) : ¬ NotWorse (loadedInput policy weighed) := by
  intro hnot
  obtain ⟨candidate, plan, hplanned, hplan⟩ :=
    supportedPlan_planned (loadedInput policy weighed) .hotnessBalanced
  have hbuild : buildLogicalExpertPlacementPlan (loadedInput policy weighed) = .ok (some plan) := by
    rw [build_eq _ (by decide : 0 < 1) (by decide : 0 < 5) (strategy_loaded policy weighed),
      hplanned]
    rfl
  have hrun := hplan.run
  have hcurrent := currentAssignments_loaded policy weighed
  rw [targetRankCount_loaded] at hrun
  obtain rfl := Except.ok.inj (hrun.symm.trans (candidate_loaded policy weighed))
  obtain ⟨hcurrentObjective, hcandidateObjective⟩ := objective_loaded policy weighed
  have hselected : selected (loadedInput policy weighed) .hotnessBalanced [[0, 1, 1, 0, 1]] =
      ⟨[[0, 1, 1, 0, 1]], "hotness_balance_improvement_accepted",
        predictedImprovementRatio (1 / 121) (19 / 121)⟩ := by
    have hretain : retainReason (loadedInput policy weighed) (1 / 121) (19 / 121)
        [(0, 1), (0, 3)] = "" := (retainReason_eq_empty_iff _).mpr h
    unfold selected selectAssignments
    simp only [targetRankCount_loaded, hcurrent, hcurrentObjective, hcandidateObjective,
      moved_loaded, hretain]
    simp [loadedInput]
  have hreason := hplan.selectionReason
  rw [hselected] at hreason
  obtain ⟨planned, hread, hle⟩ := hnot plan [[0, 0, 1, 1, 1]] hbuild
    (by rw [targetRankCount_loaded]; exact hcurrent) rfl (by rw [hreason]; decide)
  rw [plannedAssignments_eq hplan, hselected] at hread
  obtain rfl := Option.some.inj hread
  rw [hplan.placementStrategy, objectiveOf, objectiveOf, targetRankCount_loaded,
    hcurrentObjective, hcandidateObjective] at hle
  norm_num at hle

theorem acceptable_loaded (hguarded : ¬ policy.Guarded)
    (hallowed : policy.Allows (estimatedMovedBytes (loadedInput policy weighed) [(0, 1), (0, 3)])
      2) : Acceptable (loadedInput policy weighed) (1 / 121) (19 / 121) [(0, 1), (0, 3)] where
  moves := by simp
  unbalanced := by norm_num
  improves := by
    have hminimum : policy.minimumImprovement ≤ 0 := not_lt.mp fun h => hguarded (Or.inl h)
    refine hminimum.trans ?_
    rw [predictedImprovementRatio, if_pos (by norm_num)]
    exact le_max_left 0 _
  allowed := hallowed
  worthwhile hweight := absurd (Or.inr (Or.inl hweight)) hguarded
  settled hcooling := hguarded (Or.inr (Or.inr (Or.inl hcooling)))

end Loaded

/-- **The configurations whose accepted plans are never worse** are those that guard: they ask for
some improvement, weigh the movement against it, are cooling down, or have budgets under which no
two experts may move. -/
theorem notWorse_iff_guarded (policy : MovementPolicy) (hcosts : policy.costs.Nonneg) :
    (∀ input : PlannerInput, input.policy = policy → NotWorse input) ↔ policy.Guarded := by
  constructor
  · intro h
    by_contra hguarded
    have htwo : policy.LetsTwoMove :=
      not_not.mp fun hnot => hguarded (Or.inr (Or.inr (Or.inr hnot)))
    obtain ⟨hknown, hunknown⟩ := estimatedMovedBytes_loaded policy
    rcases htwo with hallowed | ⟨hdefault, hallowed⟩
    · refine not_notWorse_loaded (acceptable_loaded hguarded ?_)
        (h (loadedInput policy true) rfl)
      rw [hknown]
      exact hallowed
    · refine not_notWorse_loaded (acceptable_loaded hguarded ?_)
        (h (loadedInput policy false) rfl)
      rw [hunknown hdefault]
      exact hallowed
  · rintro hguarded input rfl
    exact notWorse_of_guarded input hcosts hguarded

/-- A twentieth is asked for, and nothing else. -/
def twentiethPolicy : MovementPolicy := { unconfiguredPolicy with minimumImprovement := 1 / 20 }

theorem notWorse_iff_guarded_twentieth :
    twentiethPolicy.costs.Nonneg ∧ twentiethPolicy.Guarded ∧
      ((∀ input : PlannerInput, input.policy = twentiethPolicy → NotWorse input) ↔
        twentiethPolicy.Guarded) := by
  have hcosts : twentiethPolicy.costs.Nonneg := ⟨le_refl 0, le_refl 0, le_refl 0, le_refl 0⟩
  have hminimum : 0 < twentiethPolicy.minimumImprovement := by
    show (0 : ℚ) < 1 / 20
    norm_num
  exact ⟨hcosts, Or.inl hminimum, notWorse_iff_guarded _ hcosts⟩

theorem not_guarded_unconfigured : ¬ unconfiguredPolicy.Guarded := by
  rintro (hminimum | hweight | hcooling | hbudgets)
  · exact absurd hminimum (lt_irrefl 0)
  · exact absurd hweight (lt_irrefl 0)
  · exact absurd hcooling.1 (lt_irrefl 0)
  · exact hbudgets (Or.inl allows_unconfigured)

/-- Where nothing is configured the greedy candidate replaces the loads 61 and 60 by 51 and 70. -/
theorem not_notWorse_unconfigured : ¬ NotWorse (loadedInput unconfiguredPolicy true) := by
  refine not_notWorse_loaded (acceptable_loaded not_guarded_unconfigured ?_)
  rw [(estimatedMovedBytes_loaded unconfiguredPolicy).1]
  exact allows_unconfigured

end ExpertPlacement
end SpotServe
