import SpotServe.ExpertPlacement.MovementRules

/-!
# The movement report and the movement budget

The budget counts an expert as moved when its rank differs, where a rank is the number that one
pattern finds in a text.  The report asks whether the expert is where the plan puts it, which is
more: the text of the rank as a second pair of patterns reads it, the node, the GPU and the physical
expert.  An expert that keeps its rank while the nodes change is reported as moved, even when the
plan keeps the current placement.

* `Describes`: an entry says where its expert is as the planner would say it, or says less.
* `placementChanged_fst`: an expert is reported as moved when its entry does not describe the
  planned one.
* `reportsPlaces`: the reported count.
* `countsAgree_iff_describes`: budget and report count the same experts in every plan for a current
  placement if and only if all of its entries describe their ranks.
-/

namespace SpotServe
namespace ExpertPlacement

open Py Runs

/-! ## What an entry says -/

/-- The entry of an expert on a rank, as the planner writes it for the first replica. -/
def entryAt (plan : Dict) (expertId : ℕ) (rank : ℤ) : PlacementEntry where
  rankId := rankName 0 rank
  nodeId := shardNode (targetNodes plan) rank
  gpuId := toString rank
  physicalExpertId := toString expertId

/-- An entry says of the rank, the node, the GPU and the physical expert what the planned one
does, or nothing; of the rank it says something. -/
structure Describes (current planned : PlacementEntry) : Prop where
  rank : rankSignature current.rankId = rankSignature planned.rankId
  node : current.nodeId = "" ∨ current.nodeId = planned.nodeId
  gpu : current.gpuId = "" ∨ current.gpuId = planned.gpuId
  physical : current.physicalExpertId = "" ∨ current.physicalExpertId = planned.physicalExpertId

instance (current planned : PlacementEntry) : Decidable (Describes current planned) :=
  decidable_of_iff (rankSignature current.rankId = rankSignature planned.rankId ∧
      (current.nodeId = "" ∨ current.nodeId = planned.nodeId) ∧
      (current.gpuId = "" ∨ current.gpuId = planned.gpuId) ∧
      (current.physicalExpertId = "" ∨ current.physicalExpertId = planned.physicalExpertId))
    ⟨fun ⟨hrank, hnode, hgpu, hphysical⟩ => ⟨hrank, hnode, hgpu, hphysical⟩,
      fun h => ⟨h.rank, h.node, h.gpu, h.physical⟩⟩

theorem rankSignature_ne_empty {value : String} {rankCount rank : ℕ}
    (h : rankIndex value rankCount = some rank) : rankSignature value ≠ "" := by
  unfold rankSignature
  split
  · simp
  split
  · simp
  · rintro rfl
    have hnone : rankIndex "" rankCount = none := rfl
    exact absurd (hnone.symm.trans h) (by simp)

/-- **What is reported as moved.** -/
theorem placementChanged_fst {current planned : PlacementEntry}
    (hrank : rankSignature current.rankId ≠ "") :
    ((placementChanged current planned).1 = some true ↔ ¬ Describes current planned) ∧
      (placementChanged current planned).1 ≠ none := by
  unfold placementChanged
  dsimp only
  by_cases hsame : rankSignature current.rankId = rankSignature planned.rankId
  · rw [if_neg fun h => h.2 hsame]
    split
    case h_1 now target reason hfind =>
      -- The first field that differs is one in which the entry does not describe the other.
      have hmem := List.mem_of_find?_eq_some hfind
      have hdiffers := List.find?_some hfind
      simp only [ne_eq, decide_eq_true_eq] at hdiffers
      refine ⟨iff_of_true rfl fun h => ?_, by simp⟩
      have hfield : now = "" ∨ now = target := by
        simp only [List.mem_cons, Prod.mk.injEq, List.not_mem_nil, or_false] at hmem
        rcases hmem with ⟨rfl, rfl, -⟩ | ⟨rfl, rfl, -⟩ | ⟨rfl, rfl, -⟩
        · exact h.node
        · exact h.gpu
        · exact h.physical
      exact hfield.elim hdiffers.1 hdiffers.2
    case h_2 hfind =>
      rw [if_neg fun h => hrank h.1]
      have hfields : ∀ now target reason, (now, target, reason) ∈
          [(current.nodeId, planned.nodeId, "node_changed"),
            (current.gpuId, planned.gpuId, "gpu_changed"),
            (current.physicalExpertId, planned.physicalExpertId, "physical_expert_changed")] →
          now = "" ∨ now = target := by
        intro now target reason hmem
        have hnot := List.find?_eq_none.mp hfind _ hmem
        simpa [or_iff_not_imp_left] using hnot
      refine ⟨iff_of_false (by simp) (not_not.mpr ?_), by simp⟩
      exact ⟨hsame, hfields _ _ "node_changed" (by simp), hfields _ _ "gpu_changed" (by simp),
        hfields _ _ "physical_expert_changed" (by simp)⟩
  · rw [if_pos ⟨hrank, hsame⟩]
    simp only [true_iff, ne_eq, reduceCtorEq, not_false_eq_true, and_true]
    exact fun h => hsame h.rank

/-! ## The reported count -/

/-- The report has an expert among the moved ones. -/
def ReportedMoved (current : Snapshot) (entry : String × PlacementEntry) : Prop :=
  ∃ now, current.get? entry.1 = some now ∧ (placementChanged now entry.2).1 = some true

instance (current : Snapshot) : DecidablePred (ReportedMoved current) := fun entry =>
  match h : current.get? entry.1 with
  | some now => decidable_of_iff ((placementChanged now entry.2).1 = some true)
      ⟨fun hmoved => ⟨now, h, hmoved⟩, fun ⟨_, hget, hmoved⟩ =>
        Option.some.inj (h.symm.trans hget) ▸ hmoved⟩
  | none => isFalse fun ⟨_, hget, _⟩ => Option.some_ne_none _ (hget.symm.trans h)

theorem movementRow_moved_iff (current : Snapshot) (defaultWeightSize : Option ℕ)
    (entry : String × PlacementEntry) :
    (∃ row, movementRow current defaultWeightSize entry.1 entry.2 = some row ∧
      row.status = "moved") ↔ ReportedMoved current entry := by
  unfold movementRow ReportedMoved
  cases hget : current.get? entry.1 with
  | none => simp
  | some now =>
    dsimp only
    split
    case h_1 reason hchanged => simp [hchanged]
    case h_2 reason hchanged => simp [hchanged]
    case h_3 reason hchanged => simp [hchanged]

/-- **The report counts the planned entries that it finds moved.** -/
theorem movedExpertCount_eq (planned : Snapshot) {current : Snapshot} (h : current.entries ≠ [])
    (defaultWeightSize : Option ℕ) (costs : MovementCosts) :
    (buildExpertMovementDiff planned current defaultWeightSize costs).movedExpertCount =
      (planned.entries.filter fun entry => ReportedMoved current entry).length := by
  unfold buildExpertMovementDiff
  rw [if_neg (by simpa using h)]
  dsimp only
  rw [List.filter_filterMap, List.length_filterMap_eq_countP, ← List.countP_eq_length_filter]
  refine List.countP_congr fun entry _ => ?_
  rw [decide_eq_true_iff, ← movementRow_moved_iff current defaultWeightSize entry]
  cases movementRow current defaultWeightSize entry.1 entry.2 with
  | none => simp
  | some row => simp

/-! ## Plans that keep the current placement -/

section Retained

variable (input : PlannerInput) {strategy : PlacementStrategy} {rankCount : ℕ}
  {current candidate : List (List ℤ)}
  (hcurrent : currentAssignments input rankCount = some current)
  (hrun : (List.range input.topology.1).mapM (layerAssignment input strategy rankCount) =
    .ok candidate)
include hcurrent hrun

/-- Without usable hotness the candidate is the current placement. -/
theorem candidate_eq_current
    (hkeeps : ∀ l a, currentLayerAssignment input.currentSnapshot l input.topology.2 rankCount =
      some a → layerAssignment input strategy rankCount l = .ok a) : candidate = current := by
  have hlayers := forall₂_of_mapM hcurrent
  have hlayers' := forall₂_of_mapM_ok hrun
  refine List.ext_getElem (by rw [← hlayers.length_eq, ← hlayers'.length_eq]) fun l hl hl' => ?_
  have hrange : l < (List.range input.topology.1).length := by rw [hlayers.length_eq]; exact hl'
  have hkept := hkeeps _ _ (hlayers.get hrange hl')
  exact Except.ok.inj ((hlayers'.get hrange hl).symm.trans hkept)

/-- **A plan that says that it keeps the current placement keeps it.** -/
theorem selectAssignments_retained {reason : String}
    (h : (selectAssignments input strategy rankCount candidate).reason =
      "retain_current:" ++ reason) :
    (selectAssignments input strategy rankCount candidate).assignments = current := by
  have hother : ∀ text : String, text.toList.head? ≠ some 'r' →
      text ≠ "retain_current:" ++ reason := by
    rintro text hhead rfl
    exact hhead (by rw [String.toList_append]; rfl)
  unfold selectAssignments at h ⊢
  rw [hcurrent] at h ⊢
  simp only [Option.isSome_some, if_true] at h ⊢
  split_ifs at h ⊢ with hgreedy havailable hsource hretain hlocality
  · exact absurd h (hother "configured_strategy" (by decide))
  · refine candidate_eq_current input hcurrent hrun fun l a hl => ?_
    have hunavailable : ¬ input.hotnessSnapshot.available = true := by simpa using havailable
    rcases not_and_or.mp hgreedy with hbalanced | hlocality
    · obtain rfl := not_not.mp hbalanced
      simp only [layerAssignment, hl, Option.getD_some]
      exact if_neg hunavailable
    · obtain rfl := not_not.mp hlocality
      simp only [layerAssignment, hl, Option.getD_some]
      exact if_neg fun h => hunavailable h.1
  · obtain ⟨rfl, hempty⟩ := hsource
    refine candidate_eq_current input hcurrent hrun fun l a hl => ?_
    simp only [layerAssignment, hl, Option.getD_some]
    exact if_neg fun h => h.2 hempty
  · rfl
  · exact absurd h (hother "source_rank_locality_improvement_accepted" (by decide))
  · exact absurd h (hother "hotness_balance_improvement_accepted" (by decide))

end Retained

/-! ## The two counts -/

section Counts

/-- The current placement has a rank for every expert. -/
def KnowsRanks (topology : ℕ × ℕ) (plan : Dict) (snapshot : Snapshot) : Prop :=
  ∀ l < topology.1, ∀ e < topology.2, ∃ now rank, snapshot.get? (expertKey l e) = some now ∧
    rankIndex now.rankId (targetRankCount plan) = some rank

/-- The entries of the current placement describe their ranks as the planner would. -/
def DescribesRanks (topology : ℕ × ℕ) (plan : Dict) (snapshot : Snapshot) : Prop :=
  ∀ l < topology.1, ∀ e < topology.2, ∀ now rank, snapshot.get? (expertKey l e) = some now →
    rankIndex now.rankId (targetRankCount plan) = some rank →
    Describes now (entryAt plan e (rank : ℤ))

variable (input : PlannerInput)

/-- The current entry of an expert describes the place of a rank. -/
def DescribesPlace (assignments : List (List ℤ)) (expert : ℕ × ℕ) : Prop :=
  ((input.currentSnapshot.get? (expertKey expert.1 expert.2)).any fun now =>
    Describes now (entryAt input.targetParallelPlan expert.2 (rankAt assignments expert))) = true

instance (assignments : List (List ℤ)) : DecidablePred (DescribesPlace input assignments) :=
  fun _ => inferInstanceAs (Decidable (_ = true))

/-- The plan reports as moved the experts whose current entries do not describe the places that it
gives them. -/
def ReportsPlaces : Prop :=
  ∀ plan report current, buildLogicalExpertPlacementPlan input = .ok (some plan) →
    plan.movement = some report →
    currentAssignments input (targetRankCount input.targetParallelPlan) = some current →
    ∃ planned, plannedAssignments input plan = some planned ∧
      report.movedExpertCount = ((allExperts input.topology.1 input.topology.2).filter
        fun expert => ¬ DescribesPlace input planned expert).length

/-- The plan reports as moved as many experts as get another rank.  So it reports none when it
keeps the current placement, and no more than the budget when it accepts a candidate. -/
def CountsAgree : Prop :=
  ∀ plan report current, buildLogicalExpertPlacementPlan input = .ok (some plan) →
    plan.movement = some report →
    currentAssignments input (targetRankCount input.targetParallelPlan) = some current →
    (∃ planned, plannedAssignments input plan = some planned ∧
      report.movedExpertCount = (movedExperts current planned).length) ∧
    (∀ reason, plan.selectionReason = "retain_current:" ++ reason →
      report.movedExpertCount = 0) ∧
    (plan.selectionReason ∈ acceptedReasons → 0 < input.policy.maxMovedExperts →
      report.movedExpertCount ≤ input.policy.maxMovedExperts)

variable {input}

theorem currentAssignments_spec {rankCount : ℕ} {current : List (List ℤ)}
    (hcurrent : currentAssignments input rankCount = some current) {l e : ℕ}
    (hl : l < input.topology.1) (he : e < input.topology.2) :
    ∃ now rank, input.currentSnapshot.get? (expertKey l e) = some now ∧
      rankIndex now.rankId rankCount = some rank ∧
      rankOf? current (l, e) = some ((rank : ℕ) : ℤ) := by
  have hlayers := forall₂_of_mapM hcurrent
  have hl' : l < current.length := by rw [← hlayers.length_eq, List.length_range]; exact hl
  have hlayer := hlayers.get (by rwa [List.length_range]) hl'
  rw [List.get_eq_getElem, List.getElem_range] at hlayer
  have hexperts := forall₂_of_mapM hlayer
  have he' : e < current[l].length := by
    rw [List.get_eq_getElem] at hexperts
    rw [← hexperts.length_eq, List.length_range]
    exact he
  have hexpert := hexperts.get (by rwa [List.length_range]) he'
  rw [List.get_eq_getElem, List.getElem_range] at hexpert
  obtain ⟨now, hnow, hrank⟩ := Option.bind_eq_some_iff.mp hexpert
  obtain ⟨rank, hindex, hrank⟩ := Option.map_eq_some_iff.mp hrank
  refine ⟨now, rank, hnow, hindex, ?_⟩
  rw [rankOf?, List.getElem?_eq_getElem hl', Option.bind_some, List.getElem?_eq_getElem he', hrank]
  rfl

theorem isAssignment_of_currentAssignments {rankCount : ℕ} {current : List (List ℤ)}
    (hcurrent : currentAssignments input rankCount = some current) :
    current.length = input.topology.1 ∧
      ∀ a ∈ current, IsAssignment input.topology.2 rankCount a := by
  have hlayers := forall₂_of_mapM hcurrent
  refine ⟨by rw [← hlayers.length_eq, List.length_range], fun a ha => ?_⟩
  obtain ⟨l, -, hl⟩ := exists_of_mem_right hlayers ha
  exact isAssignment_current hl

section Planned

variable {strategy : PlacementStrategy} {candidate current : List (List ℤ)}
  {plan : ExpertPlacementPlan} (hplan : IsPlanOf input strategy candidate plan)
  (hcurrent : currentAssignments input (targetRankCount input.targetParallelPlan) = some current)
include hplan hcurrent

/-- The report compares every entry with that of the planned rank. -/
theorem IsPlanOf.reportedMoved_iff {l e : ℕ} (hl : l < input.topology.1)
    (he : e < input.topology.2) :
    ∃ now, ∃ rank planned : ℕ, input.currentSnapshot.get? (expertKey l e) = some now ∧
      rankIndex now.rankId (targetRankCount input.targetParallelPlan) = some rank ∧
      rankOf? current (l, e) = some (rank : ℤ) ∧
      rankOf? (selected input strategy candidate).assignments (l, e) = some (planned : ℤ) ∧
      rankAt (selected input strategy candidate).assignments (l, e) = planned ∧
      (ReportedMoved input.currentSnapshot (expertKey l e,
          plannedEntry input (selected input strategy candidate).assignments (l, e)) ↔
        ¬ Describes now (entryAt input.targetParallelPlan e planned)) := by
  obtain ⟨now, rank, hnow, hindex, hrank⟩ := currentAssignments_spec hcurrent hl he
  obtain ⟨hlength, hall⟩ := hplan.assignments
  obtain ⟨planned, hplanned, hat⟩ :=
    rankOf?_spec hlength hall (show (l, e).1 < input.topology.1 from hl) he
  refine ⟨now, rank, planned, hnow, hindex, hrank, hplanned, hat, ?_⟩
  have hentry : Describes now (plannedEntry input (selected input strategy candidate).assignments
      (l, e)) ↔ Describes now (entryAt input.targetParallelPlan e planned) := by
    rw [← hat]
    exact ⟨fun h => ⟨h.rank, h.node, h.gpu, h.physical⟩,
      fun h => ⟨h.rank, h.node, h.gpu, h.physical⟩⟩
  rw [← hentry, ← (placementChanged_fst (rankSignature_ne_empty hindex)).1]
  constructor
  · rintro ⟨now', hnow', hmoved⟩
    obtain rfl := Option.some.inj (hnow.symm.trans hnow')
    exact hmoved
  · exact fun hmoved => ⟨now, hnow, hmoved⟩

/-- The report counts the experts whose entries do not match the plan. -/
theorem IsPlanOf.movedExpertCount {report : MovementDiff} (hreport : plan.movement = some report)
    (hlayers : 0 < input.topology.1) (hexperts : 0 < input.topology.2) :
    report.movedExpertCount =
      ((allExperts input.topology.1 input.topology.2).filter fun expert =>
        ReportedMoved input.currentSnapshot (expertKey expert.1 expert.2,
          plannedEntry input (selected input strategy candidate).assignments expert)).length := by
  have hnonempty : input.currentSnapshot.entries ≠ [] := by
    intro hempty
    obtain ⟨now, -, hnow, -⟩ := currentAssignments_spec hcurrent hlayers hexperts
    rw [← OrderedDict.mem_entries_iff, hempty] at hnow
    exact absurd hnow (by simp)
  rw [hplan.movement] at hreport
  obtain rfl := Option.some.inj hreport
  rw [movedExpertCount_eq _ hnonempty, hplan.entries, List.filter_map, List.length_map]
  rfl

omit hcurrent in
/-- The budget counts the experts whose ranks differ. -/
theorem IsPlanOf.movedExperts_eq :
    movedExperts current (selected input strategy candidate).assignments =
      (allExperts input.topology.1 input.topology.2).filter fun expert =>
        rankOf? current expert ≠
          rankOf? (selected input strategy candidate).assignments expert := by
  obtain ⟨hlength, hall⟩ := hplan.assignments
  exact ExpertPlacement.movedExperts_eq hlength (fun a ha => (hall a ha).length) current

end Planned

theorem epRank_inj {i j : ℕ} (h : "ep-rank:" ++ toString i = "ep-rank:" ++ toString j) :
    i = j := by
  have htext := congrArg String.toList h
  rw [String.toList_append, String.toList_append, toList_toString, toList_toString] at htext
  have hdigits := congrArg readDigits (List.append_cancel_left htext)
  have hread := fun n => readDigits_toDigits n endsNumber_nil
  simp only [List.append_nil] at hread
  rw [hread, hread, Option.some_inj, Prod.mk.injEq] at hdigits
  exact hdigits.1

/-- An entry describes one rank. -/
theorem Describes.rank_unique {plan : Dict} {now : PlacementEntry} {e i j : ℕ}
    (h : Describes now (entryAt plan e (i : ℤ))) (h' : Describes now (entryAt plan e (j : ℤ))) :
    i = j := by
  have hsame := h.rank.symm.trans h'.rank
  rw [entryAt, entryAt, rankSignature_rankName, rankSignature_rankName] at hsame
  exact epRank_inj hsame

theorem movedExperts_self {current : List (List ℤ)}
    (hall : ∀ a ∈ current, a.length = input.topology.2) : movedExperts current current = [] := by
  rw [movedExperts_eq rfl hall]
  simp

/-- **What the report counts.** -/
theorem reportsPlaces (input : PlannerInput) : ReportsPlaces input := by
  intro plan report current hbuild hreport hcurrent
  rcases plan_cases input hbuild with ⟨reason, rfl⟩ | ⟨hlayers, hexperts, strategy, candidate, hplan⟩
  · exact absurd hreport (by simp [unavailablePlan])
  refine ⟨_, plannedAssignments_eq hplan, ?_⟩
  rw [hplan.movedExpertCount hcurrent hreport hlayers hexperts]
  refine congrArg List.length (List.filter_congr fun expert hexpert => ?_)
  obtain ⟨hl, he⟩ := mem_allExperts.mp hexpert
  obtain ⟨now, rank, planned, hnow, -, -, -, hat, hmoved⟩ := hplan.reportedMoved_iff hcurrent hl he
  rw [decide_eq_decide, hmoved, DescribesPlace, hnow, hat, Option.any_some, decide_eq_true_iff]

/-- Entries that describe their ranks are reported as moved when their experts are. -/
theorem countsAgree_of_describes (hdescribes : DescribesRanks input.topology
    input.targetParallelPlan input.currentSnapshot) : CountsAgree input := by
  intro plan report current hbuild hreport hcurrent
  rcases plan_cases input hbuild with ⟨reason, rfl⟩ | ⟨hlayers, hexperts, strategy, candidate, hplan⟩
  · exact absurd hreport (by simp [unavailablePlan])
  have hcount : report.movedExpertCount =
      (movedExperts current (selected input strategy candidate).assignments).length := by
    rw [hplan.movedExpertCount hcurrent hreport hlayers hexperts, hplan.movedExperts_eq]
    refine congrArg List.length (List.filter_congr fun expert hexpert => ?_)
    obtain ⟨hl, he⟩ := mem_allExperts.mp hexpert
    obtain ⟨now, rank, planned, hnow, hindex, hrank, hplanned, -, hmoved⟩ :=
      hplan.reportedMoved_iff hcurrent hl he
    have hnowDescribes := hdescribes _ hl _ he now rank hnow hindex
    rw [decide_eq_decide, hmoved, hrank, hplanned]
    constructor
    · rintro hnot heq
      obtain rfl : rank = planned := by simpa using heq
      exact hnot hnowDescribes
    · rintro hne hplannedDescribes
      exact hne (by rw [hnowDescribes.rank_unique hplannedDescribes])
  refine ⟨⟨_, plannedAssignments_eq hplan, hcount⟩, fun reason hreason => ?_,
    fun haccepted hbudget => ?_⟩
  · rw [hplan.selectionReason] at hreason
    have hkept := selectAssignments_retained input hcurrent hplan.run hreason
    obtain ⟨-, hall⟩ := isAssignment_of_currentAssignments hcurrent
    rw [hcount, selected, hkept, movedExperts_self fun a ha => (hall a ha).length, List.length_nil]
  · rw [hplan.selectionReason] at haccepted
    obtain ⟨current', hcurrent', hchosen, -, -, hacceptable⟩ :=
      selectAssignments_accepted input haccepted
    obtain rfl := Option.some.inj (hcurrent.symm.trans hcurrent')
    rw [hcount, selected, hchosen]
    exact hacceptable.allowed.experts hbudget

end Counts

/-! ## A planner that keeps everything -/

/-- The planner is asked to balance the experts and has no usable hotness. -/
def retainingInput (topology : ℕ × ℕ) (plan : Dict) (snapshot : Snapshot) : PlannerInput where
  modelName := "moe"
  targetParallelPlan := plan
  plannerConfig := [("target_expert_placement_strategy", .str "hotness_balanced")]
  backendConfig := []
  modelBackend := .str "vllm"
  placementEpoch := 0
  topology := topology
  moeHint := true
  currentSnapshot := snapshot
  movementSource := "current_expert_placement_snapshot"
  hotnessSnapshot := ⟨"", false, "hotness_unavailable", .empty, 0⟩
  hotnessHistograms := []
  sourceRankSnapshot := (.empty, "not_requested")
  localityWeight := 1
  policy := unconfiguredPolicy
  fingerprint := fun _ => "00000000"

section Retaining

variable {topology : ℕ × ℕ} {plan : Dict} {snapshot : Snapshot}

theorem strategy_retaining :
    PlacementStrategy.ofName? (placementStrategyText (retainingInput topology plan snapshot)) =
      some .hotnessBalanced := by
  show PlacementStrategy.ofName? (normalizedText "hotness_balanced") = _
  decide +kernel

theorem currentAssignments_of_knowsRanks (hknows : KnowsRanks topology plan snapshot) :
    ∃ current, currentAssignments (retainingInput topology plan snapshot) (targetRankCount plan) =
      some current := by
  refine mapM_some fun l hl => mapM_some fun e he => ?_
  obtain ⟨now, rank, hnow, hrank⟩ :=
    hknows l (List.mem_range.mp hl) e (List.mem_range.mp he)
  refine ⟨(rank : ℤ), ?_⟩
  show ((snapshot.get? (expertKey l e)).bind _) = _
  rw [hnow, Option.bind_some, hrank, Option.map_some]

theorem reason_retaining {candidate : List (List ℤ)} {rankCount : ℕ} {current : List (List ℤ)}
    (hcurrent : currentAssignments (retainingInput topology plan snapshot) rankCount =
      some current) :
    (selectAssignments (retainingInput topology plan snapshot) .hotnessBalanced rankCount
      candidate).reason = "retain_current:" ++ "hotness_unavailable" := by
  unfold selectAssignments
  rw [hcurrent]
  rfl

/-- A plan that keeps everything reports nothing only if the entries describe their ranks. -/
theorem describes_of_countsAgree (hknows : KnowsRanks topology plan snapshot)
    (h : CountsAgree (retainingInput topology plan snapshot)) :
    DescribesRanks topology plan snapshot := by
  intro l hl e he now rank hnow hindex
  have hlayers : 0 < topology.1 := by omega
  have hexperts : 0 < topology.2 := by omega
  obtain ⟨current, hcurrent⟩ := currentAssignments_of_knowsRanks hknows
  obtain ⟨candidate, planned, hplanned, hplan⟩ :=
    supportedPlan_planned (retainingInput topology plan snapshot) .hotnessBalanced
  have hbuild : buildLogicalExpertPlacementPlan (retainingInput topology plan snapshot) =
      .ok (some planned) := by
    rw [build_eq _ hlayers hexperts strategy_retaining, hplanned]
    rfl
  have hreason : (selected (retainingInput topology plan snapshot) .hotnessBalanced
      candidate).reason = "retain_current:" ++ "hotness_unavailable" := reason_retaining hcurrent
  have hkept : (selected (retainingInput topology plan snapshot) .hotnessBalanced
      candidate).assignments = current :=
    selectAssignments_retained _ hcurrent hplan.run hreason
  have hnone := (h planned _ current hbuild hplan.movement hcurrent).2.1 _
    (hplan.selectionReason.trans hreason)
  rw [hplan.movedExpertCount hcurrent hplan.movement hlayers hexperts, List.length_eq_zero_iff,
    List.filter_eq_nil_iff] at hnone
  obtain ⟨now', rank', rank'', hnow', hindex', hrank', hrank'', -, hmoved⟩ :=
    hplan.reportedMoved_iff hcurrent hl he
  obtain rfl := Option.some.inj (hnow.symm.trans hnow')
  obtain rfl := Option.some.inj (hindex.symm.trans hindex')
  rw [hkept, hrank', Option.some_inj, Nat.cast_inj] at hrank''
  obtain rfl := hrank''
  have hunmoved := hnone (l, e) (mem_allExperts.mpr ⟨hl, he⟩)
  rw [decide_eq_true_iff, hmoved, not_not] at hunmoved
  exact hunmoved

end Retaining

/-- **The current placements for which budget and report always agree** are those whose entries
describe their ranks as the planner would: the text of the rank reads as `ep-rank:` with the same
number, and the node, the GPU and the physical expert are those of that rank or left out. -/
theorem countsAgree_iff_describes {topology : ℕ × ℕ} {plan : Dict} {snapshot : Snapshot}
    (hknows : KnowsRanks topology plan snapshot) :
    (∀ input : PlannerInput, input.topology = topology → input.targetParallelPlan = plan →
      input.currentSnapshot = snapshot → CountsAgree input) ↔
      DescribesRanks topology plan snapshot := by
  constructor
  · intro h
    exact describes_of_countsAgree hknows (h (retainingInput topology plan snapshot) rfl rfl rfl)
  · rintro hdescribes input rfl rfl rfl
    exact countsAgree_of_describes hdescribes

/-- **The report against the budget.**  Every plan reports as moved the experts whose current
entries do not describe the places that it gives them.  When the entries describe their own ranks
these are the experts that get another rank; then a plan that keeps the current placement reports
none, and one that accepts a candidate reports no more than the budget allows. -/
theorem movement_report (input : PlannerInput) :
    ReportsPlaces input ∧
      (DescribesRanks input.topology input.targetParallelPlan input.currentSnapshot →
        CountsAgree input) :=
  ⟨reportsPlaces input, countsAgree_of_describes⟩

/-! ## A move to other nodes -/

/-- Two ranks on two nodes. -/
def twoNodes : Dict :=
  [("enable_expert_parallel", .bool true), ("expert_parallel_size", .int 2),
    ("target_nodes", .list [.str "node-b", .str "node-c"])]

/-- Two experts, one on each rank, both on the same node. -/
def nodeSnapshot (node : String) : Snapshot :=
  (OrderedDict.empty.set (expertKey 0 0) { rankId := "ep-rank:0", nodeId := node }).set
    (expertKey 0 1) { rankId := "ep-rank:1", nodeId := node }

theorem get?_nodeSnapshot (node : String) :
    (nodeSnapshot node).get? (expertKey 0 0) = some { rankId := "ep-rank:0", nodeId := node } ∧
      (nodeSnapshot node).get? (expertKey 0 1) =
        some { rankId := "ep-rank:1", nodeId := node } := by
  have hne : expertKey 0 1 ≠ expertKey 0 0 := fun h => absurd (expertKey_inj.mp h).2 (by decide)
  unfold nodeSnapshot
  rw [OrderedDict.get?_set_of_ne _ _ hne, OrderedDict.get?_set_self, OrderedDict.get?_set_self]
  exact ⟨rfl, rfl⟩

theorem rankIndex_nodeSnapshot :
    rankIndex "ep-rank:0" (targetRankCount twoNodes) = some 0 ∧
      rankIndex "ep-rank:1" (targetRankCount twoNodes) = some 1 := by
  decide +kernel

theorem knowsRanks_node (node : String) : KnowsRanks (1, 2) twoNodes (nodeSnapshot node) := by
  obtain ⟨hget, hget'⟩ := get?_nodeSnapshot node
  obtain ⟨hindex, hindex'⟩ := rankIndex_nodeSnapshot
  intro l hl e he
  obtain rfl : l = 0 := by omega
  obtain rfl | rfl : e = 0 ∨ e = 1 := by omega
  · exact ⟨_, 0, hget, hindex⟩
  · exact ⟨_, 1, hget', hindex'⟩

/-- Entries that name no node leave it open. -/
theorem movement_report_unnamed :
    DescribesRanks (1, 2) twoNodes (nodeSnapshot "") ∧
      CountsAgree (retainingInput (1, 2) twoNodes (nodeSnapshot "")) := by
  have hdescribes : DescribesRanks (1, 2) twoNodes (nodeSnapshot "") := by
    obtain ⟨hget, hget'⟩ := get?_nodeSnapshot ""
    obtain ⟨hindex, hindex'⟩ := rankIndex_nodeSnapshot
    intro l hl e he now rank hnow hrank
    obtain rfl : l = 0 := by omega
    obtain rfl | rfl : e = 0 ∨ e = 1 := by omega
    · obtain rfl := Option.some.inj (hget.symm.trans hnow)
      obtain rfl := Option.some.inj (hindex.symm.trans hrank)
      decide +kernel
    · obtain rfl := Option.some.inj (hget'.symm.trans hnow)
      obtain rfl := Option.some.inj (hindex'.symm.trans hrank)
      decide +kernel
  exact ⟨hdescribes, (movement_report _).2 hdescribes⟩

/-- Experts that keep their ranks on other nodes are kept, and reported as moved. -/
theorem not_countsAgree_node :
    ¬ CountsAgree (retainingInput (1, 2) twoNodes (nodeSnapshot "node-a")) := by
  intro h
  have hdescribes := describes_of_countsAgree (knowsRanks_node "node-a") h 0 (by decide) 0
    (by decide) _ 0 (get?_nodeSnapshot "node-a").1 rankIndex_nodeSnapshot.1
  exact absurd hdescribes.node (by decide +kernel)

end ExpertPlacement
end SpotServe
