import SpotServe.ExpertPlacement.PlannedSnapshot

/-!
# When the planner moves experts

With a complete current placement the greedy strategies propose a candidate, and a chain of rules
decides whether it replaces what is there.

* `movedExperts_eq`: the experts that a candidate moves are those whose rank it changes.
* `estimateExpertWeightMovementCostMs_mono`: moving less is never estimated to cost more.
* `Allows`, `Acceptable`: what the rules ask; `retainReason_eq_empty_iff`.
* `selectAssignments_accepted`: a plan that says that a candidate was accepted has accepted it.
* `two_le_length_movedExperts`: a candidate that moves an expert moves two, because it gives every
  rank as many experts as the rank has.
-/

namespace SpotServe
namespace ExpertPlacement

open Py Runs Writes

variable (input : PlannerInput)

/-! ## The experts that move -/

/-- The rank that a list of assignments gives an expert, if it does. -/
def rankOf? (assignments : List (List ℤ)) (expert : ℕ × ℕ) : Option ℤ :=
  (assignments[expert.1]?).bind (·[expert.2]?)

theorem rankOf?_spec {numLayers numExperts rankCount : ℕ} {assignments : List (List ℤ)}
    (hlength : assignments.length = numLayers)
    (hall : ∀ a ∈ assignments, IsAssignment numExperts rankCount a) {expert : ℕ × ℕ}
    (hlayer : expert.1 < numLayers) (hexpert : expert.2 < numExperts) :
    ∃ rank : ℕ, rankOf? assignments expert = some (rank : ℤ) ∧
      rankAt assignments expert = rank := by
  obtain ⟨⟨rank, -, hat⟩, hrank⟩ := rankAt_spec hlength hall hlayer hexpert
  refine ⟨rank, ?_, hat⟩
  unfold rankOf at hrank
  split at hrank
  case h_1 r hget => rw [rankOf?, hget, Except.ok.inj hrank, hat]
  case h_2 => exact absurd hrank (by simp)

theorem zipIdx_eq_map {α : Type*} (xs : List α) (default : α) :
    xs.zipIdx = (List.range xs.length).map fun i => (xs.getD i default, i) := by
  refine List.ext_getElem (by simp) fun i hi _ => ?_
  have hlt : i < xs.length := by simpa using hi
  simp [List.getD_eq_getElem?_getD, hlt]

/-- The experts that a candidate moves, in the order of the loops. -/
theorem movedExperts_eq {numLayers numExperts : ℕ} {candidate : List (List ℤ)}
    (hlength : candidate.length = numLayers) (hall : ∀ a ∈ candidate, a.length = numExperts)
    (current : List (List ℤ)) :
    movedExperts current candidate = (allExperts numLayers numExperts).filter fun expert =>
      rankOf? current expert ≠ rankOf? candidate expert := by
  unfold movedExperts allExperts
  rw [zipIdx_eq_map candidate [], List.flatMap_map, List.filter_flatMap, hlength]
  refine List.flatMap_congr fun l hl => ?_
  have hlt : l < candidate.length := by rw [hlength]; exact List.mem_range.mp hl
  have hlayer := hall candidate[l] (List.getElem_mem hlt)
  rw [List.getD_eq_getElem?_getD, List.getElem?_eq_getElem hlt, Option.getD_some,
    zipIdx_eq_map candidate[l] 0, hlayer, List.filter_map, List.map_map, List.filter_map]
  refine congrArg _ (List.filter_congr fun e he => ?_)
  have helt : e < candidate[l].length := by rw [hlayer]; exact List.mem_range.mp he
  simp only [Function.comp_apply, rankOf?, List.getD_eq_getElem?_getD,
    List.getElem?_eq_getElem hlt, List.getElem?_eq_getElem helt, Option.getD_some,
    Option.bind_some]

/-- **Moving one expert moves another.**  When the candidate gives every rank as many experts of a
layer as the current assignments do, it moves no expert or at least two. -/
theorem two_le_length_movedExperts {numExperts : ℕ} {current candidate : List (List ℤ)}
    (hlength : current.length = candidate.length)
    (hall : ∀ a ∈ candidate, a.length = numExperts)
    (hcount : ∀ (l : ℕ) (a c : List ℤ), current[l]? = some a → candidate[l]? = some c →
      a.length = c.length ∧ ∀ r ∈ c, a.count r = c.count r)
    (hmoved : movedExperts current candidate ≠ []) :
    2 ≤ (movedExperts current candidate).length := by
  rw [movedExperts_eq rfl hall] at hmoved ⊢
  obtain ⟨⟨l, e⟩, hexpert⟩ := List.exists_mem_of_ne_nil _ hmoved
  obtain ⟨hmem, hne⟩ := List.mem_filter.mp hexpert
  obtain ⟨hl, he⟩ := mem_allExperts.mp hmem
  have hl' : l < current.length := by rw [hlength]; exact hl
  have hlayer : candidate[l]? = some candidate[l] := List.getElem?_eq_getElem hl
  have hlayer' : current[l]? = some current[l] := List.getElem?_eq_getElem hl'
  obtain ⟨hlengths, hcounts⟩ := hcount l _ _ hlayer' hlayer
  have hdiffer : current[l][e]? ≠ candidate[l][e]? := by
    simpa [rankOf?, hlayer, hlayer'] using hne
  obtain ⟨e', hother, hdiffer'⟩ := exists_second_difference hlengths hcounts hdiffer
  have he' : e' < numExperts := by
    by_contra hout
    have hnum : candidate[l].length = numExperts := hall _ (List.getElem_mem hl)
    exact hdiffer' (by
      rw [List.getElem?_eq_none (by omega), List.getElem?_eq_none (by omega)])
  have hexpert' : (l, e') ∈ (allExperts candidate.length numExperts).filter fun expert =>
      rankOf? current expert ≠ rankOf? candidate expert := by
    refine List.mem_filter.mpr ⟨mem_allExperts.mpr ⟨hl, he'⟩, ?_⟩
    simpa [rankOf?, hlayer, hlayer'] using hdiffer'
  have hpair : [(l, e), (l, e')].Nodup := by
    simpa using fun h : e = e' => hother h.symm
  refine (List.subperm_of_subset hpair ?_).length_le
  intro expert h
  rcases List.mem_cons.mp h with rfl | h
  · exact hexpert
  · obtain rfl := List.mem_singleton.mp h
    exact hexpert'

/-! ## The cost of a move -/

/-- Costs as they are read from a configuration, where negative ones count as zero. -/
structure MovementCosts.Nonneg (costs : MovementCosts) : Prop where
  costMs : 0 ≤ costs.costMs
  costMsPerGib : 0 ≤ costs.costMsPerGib
  costMsPerExpert : 0 ≤ costs.costMsPerExpert
  bandwidthBytesPerS : 0 ≤ costs.bandwidthBytesPerS

/-- Moving less is never estimated to cost more. -/
theorem estimateExpertWeightMovementCostMs_mono {costs : MovementCosts} (hcosts : costs.Nonneg)
    {bytes bytes' : Option ℕ} (hbytes : Option.Rel (· ≤ ·) bytes bytes') {count count' : ℕ}
    (hpos : 0 < count) (hcount : count ≤ count') {cost : ℚ}
    (hcost : estimateExpertWeightMovementCostMs bytes count costs = some cost) :
    ∃ cost', estimateExpertWeightMovementCostMs bytes' count' costs = some cost' ∧
      cost ≤ cost' := by
  have hexperts : (count : ℚ) * costs.costMsPerExpert ≤ count' * costs.costMsPerExpert :=
    mul_le_mul_of_nonneg_right (by exact_mod_cast hcount) hcosts.costMsPerExpert
  unfold estimateExpertWeightMovementCostMs at hcost ⊢
  rw [if_neg (by omega)] at hcost ⊢
  split at hcost
  · exact absurd hcost (by simp)
  · rename_i hpriced
    rw [if_neg hpriced]
    cases hbytes with
    | none =>
      dsimp only at hcost ⊢
      split_ifs at hcost ⊢
      obtain rfl := Option.some.inj hcost
      exact ⟨_, rfl, by linarith⟩
    | @some b b' hle =>
      have hle' : (b : ℚ) ≤ b' := by exact_mod_cast hle
      dsimp only at hcost ⊢
      obtain rfl := Option.some.inj hcost
      refine ⟨_, rfl, ?_⟩
      have htransfer : (if 0 < costs.costMsPerGib then (b : ℚ) / 1024 ^ 3 * costs.costMsPerGib
          else if 0 < costs.bandwidthBytesPerS ∧ 0 < b then
            b / costs.bandwidthBytesPerS * 1000 else 0) ≤
          if 0 < costs.costMsPerGib then (b' : ℚ) / 1024 ^ 3 * costs.costMsPerGib
          else if 0 < costs.bandwidthBytesPerS ∧ 0 < b' then
            b' / costs.bandwidthBytesPerS * 1000 else 0 := by
        by_cases hgib : 0 < costs.costMsPerGib
        · rw [if_pos hgib, if_pos hgib]
          gcongr
        rw [if_neg hgib, if_neg hgib]
        by_cases hband : 0 < costs.bandwidthBytesPerS ∧ 0 < b
        · rw [if_pos hband, if_pos ⟨hband.1, Nat.lt_of_lt_of_le hband.2 hle⟩]
          have := hband.1
          gcongr
        · rw [if_neg hband]
          have hnonneg := hcosts.bandwidthBytesPerS
          split_ifs
          · positivity
          · exact le_refl 0
      linarith

theorem estimateExpertWeightMovementCostMs_nonneg {costs : MovementCosts} (hcosts : costs.Nonneg)
    {bytes : Option ℕ} {count : ℕ} {cost : ℚ}
    (hcost : estimateExpertWeightMovementCostMs bytes count costs = some cost) : 0 ≤ cost := by
  obtain ⟨hms, hgib, hexpert, hband⟩ := hcosts
  unfold estimateExpertWeightMovementCostMs at hcost
  split at hcost
  · obtain rfl := Option.some.inj hcost
    exact le_refl 0
  split at hcost
  · exact absurd hcost (by simp)
  cases bytes with
  | none =>
    dsimp only at hcost
    split_ifs at hcost
    obtain rfl := Option.some.inj hcost
    positivity
  | some b =>
    dsimp only at hcost
    obtain rfl := Option.some.inj hcost
    split_ifs <;> positivity

/-! ## The weights of what moves -/

theorem entryWeightSizeBytes_pos {entries : List PlacementEntry} {default : Option ℕ} {size : ℕ}
    (h : entryWeightSizeBytes entries default = some size) : 0 < size := by
  unfold entryWeightSizeBytes at h
  rcases Option.or_eq_some_iff.mp h with hentry | ⟨-, hdefault⟩
  · simpa using List.find?_some hentry
  · simpa using (Option.filter_eq_some_iff.mp hdefault).2

/-- Every expert that moves has a byte. -/
theorem length_le_of_estimatedMovedBytes {moved : List (ℕ × ℕ)} {bytes : ℕ}
    (h : estimatedMovedBytes input moved = some bytes) : moved.length ≤ bytes := by
  obtain ⟨sizes, hsizes, rfl⟩ := Option.map_eq_some_iff.mp h
  have hall := forall₂_of_mapM hsizes
  rw [hall.length_eq]
  refine List.length_le_sum_of_one_le _ fun size hsize => ?_
  obtain ⟨expert, -, hexpert⟩ := exists_of_mem_right hall hsize
  exact entryWeightSizeBytes_pos hexpert

/-- Bytes that are not known leave nothing to assume. -/
theorem defaultWeightSize_of_estimatedMovedBytes {moved : List (ℕ × ℕ)}
    (h : estimatedMovedBytes input moved = none) :
    input.policy.defaultWeightSize.filter (0 < ·) = none := by
  by_contra hdefault
  obtain ⟨size, hsize⟩ := Option.ne_none_iff_exists'.mp hdefault
  have hknown : ∀ entries, ∃ size, entryWeightSizeBytes entries input.policy.defaultWeightSize =
      some size := by
    intro entries
    unfold entryWeightSizeBytes
    rw [hsize]
    cases (entries.flatMap fun entry => [entry.weightSizeBytes, entry.expertWeightSizeBytes]).find?
        (0 < ·) with
    | none => exact ⟨size, rfl⟩
    | some own => exact ⟨own, rfl⟩
  rw [estimatedMovedBytes, Option.map_eq_none_iff] at h
  obtain ⟨sizes, hsizes⟩ := mapM_some fun (expert : ℕ × ℕ) (_ : expert ∈ moved) =>
    hknown [(input.currentSnapshot.get? (expertKey expert.1 expert.2)).getD {}]
  rw [hsizes] at h
  exact absurd h (by simp)

/-! ## The rules -/

/-- What the budgets allow one plan to move: so many experts, with so many bytes when that is
known. -/
structure MovementPolicy.Allows (policy : MovementPolicy) (movedBytes : Option ℕ) (count : ℕ) :
    Prop where
  experts : 0 < policy.maxMovedExperts → count ≤ policy.maxMovedExperts
  bytes : 0 < policy.maxMovedBytes → ∀ b, movedBytes = some b → b ≤ policy.maxMovedBytes
  known : policy.requireKnownMovement → movedBytes ≠ none
  cost : 0 < policy.maxMovementCostMs → ∀ cost,
    estimateExpertWeightMovementCostMs movedBytes count policy.costs = some cost →
      cost ≤ policy.maxMovementCostMs

/-- What is allowed to move is allowed to stay in part. -/
theorem MovementPolicy.Allows.mono {policy : MovementPolicy} (hcosts : policy.costs.Nonneg)
    {bytes bytes' : Option ℕ} (hbytes : Option.Rel (· ≤ ·) bytes bytes') {count count' : ℕ}
    (hpos : 0 < count) (hcount : count ≤ count') (h : policy.Allows bytes' count') :
    policy.Allows bytes count where
  experts hmax := hcount.trans (h.experts hmax)
  bytes hmax b hb := by
    subst hb
    cases hbytes with
    | some hle => exact hle.trans (h.bytes hmax _ rfl)
  known hknown := by
    cases hbytes with
    | some hle => simp
    | none => exact h.known hknown
  cost hmax cost hcost := by
    obtain ⟨cost', hcost', hle⟩ :=
      estimateExpertWeightMovementCostMs_mono hcosts hbytes hpos hcount hcost
    exact hle.trans (h.cost hmax cost' hcost')

/-- The last change is too recent for another one. -/
def MovementPolicy.CoolingDown (policy : MovementPolicy) : Prop :=
  0 < policy.cooldownS ∧
    ∃ last, policy.lastChangeS = some last ∧ policy.snapshotTimeS - last < policy.cooldownS

/-- What a candidate has to be to replace the current placement. -/
structure Acceptable (currentObjective candidateObjective : ℚ) (moved : List (ℕ × ℕ)) : Prop where
  moves : moved ≠ []
  unbalanced : 0 < currentObjective
  improves : input.policy.minimumImprovement ≤
    predictedImprovementRatio currentObjective candidateObjective
  allowed : input.policy.Allows (estimatedMovedBytes input moved) moved.length
  worthwhile : 0 < input.policy.movementWeight → 0 < input.policy.movementReferenceMs ∧
    ∃ cost, estimateExpertWeightMovementCostMs (estimatedMovedBytes input moved) moved.length
        input.policy.costs = some cost ∧
      candidateObjective + input.policy.movementWeight * cost / input.policy.movementReferenceMs <
        currentObjective
  settled : ¬ input.policy.CoolingDown

/-- What the planner works with where nothing is configured. -/
def unconfiguredPolicy : MovementPolicy where
  minimumImprovement := 0
  maxMovedExperts := 0
  maxMovedBytes := 0
  maxMovementCostMs := 0
  movementWeight := 0
  movementReferenceMs := 0
  cooldownS := 0
  lastChangeS := none
  snapshotTimeS := 0
  requireKnownMovement := true
  defaultWeightSize := none
  costs := ⟨0, 0, 0, 0⟩

/-- Budgets of zero are none. -/
theorem allows_unconfigured : unconfiguredPolicy.Allows (some 2) 2 where
  experts h := absurd h (lt_irrefl 0)
  bytes h := absurd h (lt_irrefl 0)
  known _ := by simp
  cost h := absurd h (lt_irrefl 0)

/-- A rule that does not fire passes on to the next. -/
theorem rule_eq_empty_iff {c : Prop} [Decidable c] {reason rest : String} (h : reason ≠ "") :
    (if c then reason else rest) = "" ↔ ¬ c ∧ rest = "" := by
  split_ifs with hc
  · simp [h, hc]
  · simp [hc]

/-- **The rules together.** -/
theorem retainReason_eq_empty_iff {currentObjective candidateObjective : ℚ}
    {moved : List (ℕ × ℕ)} :
    retainReason input currentObjective candidateObjective moved = "" ↔
      Acceptable input currentObjective candidateObjective moved := by
  unfold retainReason
  dsimp only
  rw [rule_eq_empty_iff (by decide), rule_eq_empty_iff (by decide), rule_eq_empty_iff (by decide),
    rule_eq_empty_iff (by decide), rule_eq_empty_iff (by decide), rule_eq_empty_iff (by decide),
    rule_eq_empty_iff (by decide), rule_eq_empty_iff (by decide), rule_eq_empty_iff (by decide),
    rule_eq_empty_iff (by decide), rule_eq_empty_iff (by decide)]
  simp only [Option.any_eq_true, decide_eq_true_eq, not_and, not_exists, not_lt, not_le, and_true]
  constructor
  · rintro ⟨hmoved, hcurrent, hminimum, hexperts, hbytes, hknown, hcost, hreference, hpriced,
      hadjusted, hcooldown⟩
    refine ⟨hmoved, hcurrent, hminimum, ⟨hexperts, hbytes, hknown, hcost⟩, ?_, ?_⟩
    · intro hweight
      obtain ⟨cost, hsome⟩ := Option.ne_none_iff_exists'.mp (hpriced hweight)
      exact ⟨hreference hweight, cost, hsome, hadjusted hweight cost hsome⟩
    · rintro ⟨hpos, last, hlast, hrecent⟩
      exact absurd (hcooldown hpos last hlast) (not_le.mpr hrecent)
  · intro h
    refine ⟨h.moves, h.unbalanced, h.improves, h.allowed.experts, h.allowed.bytes, h.allowed.known,
      h.allowed.cost, fun hweight => (h.worthwhile hweight).1, ?_, ?_, ?_⟩
    · intro hweight hnone
      obtain ⟨-, cost, hsome, -⟩ := h.worthwhile hweight
      rw [hnone] at hsome
      exact absurd hsome (by simp)
    · intro hweight cost hsome
      obtain ⟨-, cost', hsome', hbetter⟩ := h.worthwhile hweight
      obtain rfl := Option.some.inj (hsome.symm.trans hsome')
      exact hbetter
    · intro hpos last hlast
      exact not_lt.mp fun hrecent => h.settled ⟨hpos, last, hlast, hrecent⟩

/-! ## Accepted candidates -/

/-- The reasons with which a plan says that the candidate was accepted. -/
def acceptedReasons : List String :=
  ["hotness_balance_improvement_accepted", "source_rank_locality_improvement_accepted"]

theorem append_ne_of_head {first text : String} {c c' : Char} {letters letters' : List Char}
    (hfirst : first.toList = c :: letters) (htext : text.toList = c' :: letters') (hne : c ≠ c')
    (rest : String) : first ++ rest ≠ text := by
  intro h
  have htoList := congrArg String.toList h
  rw [String.toList_append, hfirst, htext, List.cons_append] at htoList
  exact hne (List.cons.inj htoList).1

theorem retain_current_not_accepted (reason : String) :
    "retain_current:" ++ reason ∉ acceptedReasons := by
  simp only [acceptedReasons, List.mem_cons, List.not_mem_nil, or_false, not_or]
  exact ⟨append_ne_of_head rfl rfl (by decide) _, append_ne_of_head rfl rfl (by decide) _⟩

theorem deterministic_fallback_not_accepted (reason : String) :
    "deterministic_linear_fallback:" ++ reason ∉ acceptedReasons := by
  simp only [acceptedReasons, List.mem_cons, List.not_mem_nil, or_false, not_or]
  exact ⟨append_ne_of_head rfl rfl (by decide) _, append_ne_of_head rfl rfl (by decide) _⟩

/-- **A plan that says that a candidate was accepted has accepted it**, by the rules. -/
theorem selectAssignments_accepted {strategy : PlacementStrategy} {rankCount : ℕ}
    {candidate : List (List ℤ)}
    (h : (selectAssignments input strategy rankCount candidate).reason ∈ acceptedReasons) :
    ∃ current, currentAssignments input rankCount = some current ∧
      (selectAssignments input strategy rankCount candidate).assignments = candidate ∧
      (strategy = .hotnessBalanced ∨
        strategy = .hotnessLocality ∧ (sourceCountsFor input strategy).1.entries ≠ []) ∧
      input.hotnessSnapshot.available ∧
      Acceptable input (selectionObjective input strategy rankCount current)
        (selectionObjective input strategy rankCount candidate) (movedExperts current candidate) := by
  have hconfigured : "configured_strategy" ∉ acceptedReasons := by decide
  have hwithout : "hotness_balance_without_current_reference" ∉ acceptedReasons := by decide
  unfold selectAssignments at h ⊢
  cases hcurrent : currentAssignments input rankCount with
  | none =>
    rw [hcurrent] at h
    simp only [Option.isSome_none, Bool.false_eq_true, if_false] at h
    split_ifs at h
    · exact absurd h hconfigured
    · exact absurd h (deterministic_fallback_not_accepted _)
    · exact absurd h (deterministic_fallback_not_accepted _)
    · exact absurd h hwithout
  | some current =>
    rw [hcurrent] at h
    simp only [Option.isSome_some, if_true] at h ⊢
    split_ifs at h ⊢ with hgreedy havailable hsource hretain hlocality
    · exact absurd h hconfigured
    · exact absurd h (retain_current_not_accepted _)
    · exact absurd h (retain_current_not_accepted _)
    · exact absurd h (retain_current_not_accepted _)
    all_goals
      refine ⟨current, rfl, rfl, ?_, by simpa using havailable,
        (retainReason_eq_empty_iff input).mp (not_ne_iff.mp hretain)⟩
    · exact Or.inr ⟨hlocality, fun hempty => hsource ⟨hlocality, hempty⟩⟩
    · exact Or.inl (not_not.mp fun hbalanced => hgreedy ⟨hbalanced, hlocality⟩)

end ExpertPlacement
end SpotServe
