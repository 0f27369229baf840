import Mathlib.Algebra.Order.Ring.Rat
import Mathlib.Data.List.Count
import Mathlib.Data.List.Sort
import SpotServe.Library.Capacities
import SpotServe.Library.OrderedDict
import SpotServe.Library.Runs
import SpotServe.Library.Writes
import SpotServe.ExpertPlacement.Keys

/-!
# Assigning the experts of a layer to ranks

The placement planner gives every expert of a layer a rank.  There are five ways to do it: in
blocks, round robin, in blocks of the experts ordered by hotness, and two greedy ones that fill the
ranks up to a number of slots.  Scores and loads are exact rationals.

* `linearAssignment`, `roundRobinAssignment`, `hotnessGroups`: computed from the position.
* `greedyAssignment`: the loop that `_hotness_balanced_assignment` and
  `_hotness_locality_assignment` share; they differ in the score of a candidate rank.
* `IsAssignment`: every expert has a rank that exists.
* `greedyAssignment_spec`: the loop never runs out of slots, and fills them all.
-/

namespace SpotServe
namespace ExpertPlacement

open Py Capacities Writes

/-- What the planner can raise. -/
inductive PlanError where
  | expertSlotCapacityExhausted
  | listIndexOutOfRange
  deriving DecidableEq, Repr

/-- The texts of the exceptions. -/
def PlanError.message : PlanError → String
  | .expertSlotCapacityExhausted => "expert_slot_capacity_exhausted"
  | .listIndexOutOfRange => "list index out of range"

/-! ## Slots -/

/-- `base + int(rank < remainder)` for every rank. -/
def evenCapacities (numExperts rankCount : ℕ) : List ℕ :=
  (List.range rankCount).map fun rank =>
    numExperts / rankCount + if rank < numExperts % rankCount then 1 else 0

/-- `_default_slot_capacities`.  Counts are never negative, which the source checks as well. -/
def defaultSlotCapacities (numExperts rankCount : ℕ) (currentAssignment : Option (List ℤ)) :
    List ℕ :=
  match currentAssignment with
  | some current =>
    let counts := (List.range rankCount).map fun rank : ℕ => current.count (rank : ℤ)
    if counts.sum = numExperts then counts else evenCapacities numExperts rankCount
  | none => evenCapacities numExperts rankCount

/-! ## Assignments computed from the position -/

/-- The experts in blocks, the first blocks one longer when the ranks do not divide them. -/
def linearAssignment (numExperts rankCount : ℕ) : List ℤ :=
  (List.range rankCount).flatMap fun rank : ℕ =>
    List.replicate
      (numExperts / rankCount + if rank < numExperts % rankCount then 1 else 0) (rank : ℤ)

/-- `expert_id % target_rank_count`. -/
def roundRobinAssignment (numExperts rankCount : ℕ) : List ℤ :=
  (List.range numExperts).map fun expertId : ℕ => ((expertId % rankCount : ℕ) : ℤ)

/-- Sorting by `(-hotness, expert_id)`. -/
def hotterThan (hotness : ℕ → ℚ) (a b : ℕ) : Prop :=
  hotness b < hotness a ∨ hotness a = hotness b ∧ a ≤ b

instance (hotness : ℕ → ℚ) : DecidableRel (hotterThan hotness) := fun a b =>
  inferInstanceAs (Decidable (hotness b < hotness a ∨ hotness a = hotness b ∧ a ≤ b))

/-- The experts from the hottest to the coldest, equal ones by their id. -/
def hotnessOrder (hotness : ℕ → ℚ) (numExperts : ℕ) : List ℕ :=
  (List.range numExperts).insertionSort (hotterThan hotness)

/-- The strategies `hotness`, `hotspot` and `hotspot_aware`: the experts in the order of hotness,
cut into consecutive groups. -/
def hotnessGroups (hotness : ℕ → ℚ) (numExperts rankCount : ℕ) : List ℤ :=
  let ordered := hotnessOrder hotness numExperts
  ordered.zipIdx.foldl
    (fun assignment entry =>
      assignment.set entry.1
        (min (entry.2 * rankCount / max 1 ordered.length) (rankCount - 1) : ℕ))
    (List.replicate numExperts 0)

/-! ## The greedy loop -/

/-- The arrays that the greedy loop works on. -/
structure Slots where
  assignment : List ℤ
  rankLoad : List ℚ
  rankCounts : List ℕ

/-- The order of the keys `(score, not owner, rank)`. -/
def keyLt (a b : ℚ × ℕ × ℕ) : Bool :=
  a.1 < b.1 || (a.1 = b.1 && (a.2.1 < b.2.1 || (a.2.1 = b.2.1 && a.2.2 < b.2.2)))

/-- `min(feasible, key=score)`: the first candidate of least score. -/
def leastScore (score : ℕ → ℚ × ℕ × ℕ) (first : ℕ) (rest : List ℕ) : ℕ :=
  rest.foldl (fun best candidate => if keyLt (score candidate) (score best) then candidate else best)
    first

/-- One turn: the expert gets the feasible rank of least score. -/
def placeExpert (capacities : List ℕ) (hotness : ℕ → ℚ) (score : List ℚ → ℕ → ℕ → ℚ × ℕ × ℕ)
    (slots : Slots) (expertId : ℕ) : Except PlanError Slots :=
  let feasible := (List.range capacities.length).filter fun rank =>
    slots.rankCounts.getD rank 0 < capacities.getD rank 0
  match feasible with
  | [] => .error .expertSlotCapacityExhausted
  | first :: rest =>
    let rank := leastScore (score slots.rankLoad expertId) first rest
    .ok {
      assignment := slots.assignment.set expertId rank
      rankLoad := slots.rankLoad.modify rank (· + hotness expertId)
      rankCounts := take slots.rankCounts rank }

/-- The loop over the experts from hot to cold. -/
def greedyAssignment (numExperts : ℕ) (capacities : List ℕ) (hotness : ℕ → ℚ)
    (score : List ℚ → ℕ → ℕ → ℚ × ℕ × ℕ) : Except PlanError (List ℤ) :=
  ((hotnessOrder hotness numExperts).foldlM (placeExpert capacities hotness score)
    ⟨List.replicate numExperts (-1), List.replicate capacities.length 0,
      List.replicate capacities.length 0⟩).map Slots.assignment

/-- `0 if candidate == owner else 1`. -/
def ownerPenalty (currentAssignment : Option (List ℤ)) (expertId candidate : ℕ) : ℕ :=
  if currentAssignment.bind (·[expertId]?) = some (candidate : ℤ) then 0 else 1

/-- `_hotness_balanced_assignment`: the rank that carries least. -/
def hotnessBalancedAssignment (numExperts rankCount : ℕ) (hotness : ℕ → ℚ)
    (currentAssignment : Option (List ℤ)) : Except PlanError (List ℤ) :=
  greedyAssignment numExperts (defaultSlotCapacities numExperts rankCount currentAssignment) hotness
    fun rankLoad expertId candidate =>
      (rankLoad.getD candidate 0, ownerPenalty currentAssignment expertId candidate, candidate)

/-- Routed tokens by source rank, layer and expert. -/
abbrev SourceCounts := OrderedDict (ℕ × ℕ × ℕ) ℚ

/-- The share of a layer's tokens that would be sent to an expert on `candidate` from elsewhere. -/
def remoteShare (sourceExpertCounts : SourceCounts) (layerId rankCount expertId candidate : ℕ) :
    ℚ :=
  let layerTotal := ((sourceExpertCounts.filter fun key _ => key.2.1 = layerId).values).sum
  let remote := (((List.range rankCount).filter (· ≠ candidate)).map fun sourceRank =>
    (sourceExpertCounts.get? (sourceRank, layerId, expertId)).getD 0).sum
  if 0 < layerTotal then remote / layerTotal else 0

/-- `_hotness_locality_assignment`: the load is weighed against the tokens that would travel. -/
def hotnessLocalityAssignment (layerId numExperts rankCount : ℕ) (hotness : ℕ → ℚ)
    (sourceExpertCounts : SourceCounts) (localityWeight : ℚ)
    (currentAssignment : Option (List ℤ)) : Except PlanError (List ℤ) :=
  greedyAssignment numExperts (defaultSlotCapacities numExperts rankCount currentAssignment) hotness
    fun rankLoad expertId candidate =>
      (rankLoad.getD candidate 0 + hotness expertId +
          localityWeight * remoteShare sourceExpertCounts layerId rankCount expertId candidate,
        ownerPenalty currentAssignment expertId candidate, candidate)

/-! ## What an assignment is -/

/-- Every expert has a rank, and the rank exists. -/
structure IsAssignment (numExperts rankCount : ℕ) (assignment : List ℤ) : Prop where
  length : assignment.length = numExperts
  rank : ∀ r ∈ assignment, ∃ rank < rankCount, r = ((rank : ℕ) : ℤ)

/-- Every rank has the same number of experts. -/
def IsEven (numExperts rankCount : ℕ) (assignment : List ℤ) : Prop :=
  ∀ rank < rankCount, assignment.count ((rank : ℕ) : ℤ) = numExperts / rankCount

theorem sum_indicator (m n : ℕ) :
    ((List.range n).map fun r => if r < m then 1 else 0).sum = min m n := by
  induction n with
  | zero => simp
  | succ n ih =>
    rw [List.range_succ, List.map_append, List.sum_append, ih]
    by_cases h : n < m
    · simp [h]
      omega
    · simp [h]
      omega

@[simp] theorem length_evenCapacities (numExperts rankCount : ℕ) :
    (evenCapacities numExperts rankCount).length = rankCount := by
  simp [evenCapacities]

theorem sum_evenCapacities (numExperts : ℕ) {rankCount : ℕ} (h : 0 < rankCount) :
    (evenCapacities numExperts rankCount).sum = numExperts := by
  have hmod := Nat.mod_lt numExperts h
  have hdiv := Nat.div_add_mod numExperts rankCount
  unfold evenCapacities
  rw [List.sum_map_add, sum_indicator, List.map_const', List.sum_replicate_nat, List.length_range]
  omega

@[simp] theorem length_defaultSlotCapacities (numExperts rankCount : ℕ)
    (currentAssignment : Option (List ℤ)) :
    (defaultSlotCapacities numExperts rankCount currentAssignment).length = rankCount := by
  unfold defaultSlotCapacities
  cases currentAssignment with
  | none => simp
  | some current =>
    dsimp only
    split_ifs <;> simp

theorem sum_defaultSlotCapacities (numExperts : ℕ) {rankCount : ℕ}
    (currentAssignment : Option (List ℤ)) (h : 0 < rankCount) :
    (defaultSlotCapacities numExperts rankCount currentAssignment).sum = numExperts := by
  unfold defaultSlotCapacities
  cases currentAssignment with
  | none => exact sum_evenCapacities numExperts h
  | some current =>
    dsimp only
    split_ifs with hsum
    · exact hsum
    · exact sum_evenCapacities numExperts h

/-- With a current assignment that is even, or none, the slots are even. -/
theorem getD_defaultSlotCapacities {numExperts rankCount : ℕ} (hdvd : rankCount ∣ numExperts)
    {currentAssignment : Option (List ℤ)}
    (hcurrent : ∀ current ∈ currentAssignment, IsEven numExperts rankCount current) {rank : ℕ}
    (hrank : rank < rankCount) :
    (defaultSlotCapacities numExperts rankCount currentAssignment).getD rank 0 =
      numExperts / rankCount := by
  have hmod : numExperts % rankCount = 0 := Nat.mod_eq_zero_of_dvd hdvd
  have heven : (evenCapacities numExperts rankCount).getD rank 0 = numExperts / rankCount := by
    simp [evenCapacities, List.getD_eq_getElem?_getD, hrank, hmod]
  unfold defaultSlotCapacities
  cases currentAssignment with
  | none => exact heven
  | some current =>
    dsimp only
    split_ifs with hsum
    · rw [List.getD_eq_getElem?_getD, List.getElem?_map, List.getElem?_range hrank]
      exact hcurrent current rfl rank hrank
    · exact heven

/-! ## Assignments computed from the position are complete -/

theorem count_blocks (f : ℕ → ℕ) (n rank : ℕ) :
    ((List.range n).flatMap fun r : ℕ => List.replicate (f r) (r : ℤ)).count (rank : ℤ) =
      if rank < n then f rank else 0 := by
  induction n with
  | zero => simp
  | succ n ih =>
    rw [List.range_succ, List.flatMap_append, List.count_append, ih, List.flatMap_singleton,
      List.count_replicate]
    by_cases h : n = rank
    · subst h
      simp
    · have hne : ((n : ℤ) == (rank : ℤ)) = false := by
        rw [beq_eq_false_iff_ne, Ne, Nat.cast_inj]
        exact h
      rw [hne]
      simp only [Bool.false_eq_true, if_false, Nat.add_zero]
      congr 1
      exact propext (by omega)

theorem isAssignment_linear (numExperts : ℕ) {rankCount : ℕ} (h : 0 < rankCount) :
    IsAssignment numExperts rankCount (linearAssignment numExperts rankCount) where
  length := by
    rw [linearAssignment, List.length_flatMap]
    simp only [List.length_replicate]
    exact sum_evenCapacities numExperts h
  rank r hr := by
    obtain ⟨rank, hrank, hmem⟩ := List.mem_flatMap.mp hr
    exact ⟨rank, List.mem_range.mp hrank, List.eq_of_mem_replicate hmem⟩

theorem isEven_linear {numExperts rankCount : ℕ} (hdvd : rankCount ∣ numExperts) :
    IsEven numExperts rankCount (linearAssignment numExperts rankCount) := by
  intro rank hrank
  rw [linearAssignment, count_blocks, if_pos hrank, Nat.mod_eq_zero_of_dvd hdvd]
  simp

theorem isAssignment_roundRobin (numExperts : ℕ) {rankCount : ℕ} (h : 0 < rankCount) :
    IsAssignment numExperts rankCount (roundRobinAssignment numExperts rankCount) where
  length := by simp [roundRobinAssignment]
  rank r hr := by
    obtain ⟨e, -, rfl⟩ := List.mem_map.mp hr
    exact ⟨e % rankCount, Nat.mod_lt e h, rfl⟩

theorem isEven_roundRobin {numExperts rankCount : ℕ} (hdvd : rankCount ∣ numExperts) :
    IsEven numExperts rankCount (roundRobinAssignment numExperts rankCount) := by
  obtain ⟨q, rfl⟩ := hdvd
  intro rank hrank
  have hpos : 0 < rankCount := by omega
  rw [Nat.mul_div_cancel_left q hpos, roundRobinAssignment]
  induction q with
  | zero => simp
  | succ q ih =>
    have hround : (List.range rankCount).map
        ((fun e : ℕ => ((e % rankCount : ℕ) : ℤ)) ∘ (rankCount * q + ·)) =
        (List.range rankCount).map fun e : ℕ => (e : ℤ) := by
      refine List.map_congr_left fun e he => ?_
      rw [Function.comp_apply, Nat.mul_add_mod, Nat.mod_eq_of_lt (List.mem_range.mp he)]
    rw [Nat.mul_succ, List.range_add, List.map_append, List.count_append, ih, List.map_map, hround,
      List.count_map_of_injective _ _ Nat.cast_injective,
      List.count_eq_one_of_mem List.nodup_range (List.mem_range.mpr hrank)]

theorem hotnessOrder_perm (hotness : ℕ → ℚ) (numExperts : ℕ) :
    (hotnessOrder hotness numExperts).Perm (List.range numExperts) :=
  List.perm_insertionSort _ _

/-- The groups are those of the positions in the order of hotness. -/
theorem hotnessGroups_perm (hotness : ℕ → ℚ) (numExperts rankCount : ℕ) :
    (hotnessGroups hotness numExperts rankCount).Perm
      ((List.range numExperts).map fun position : ℕ =>
        ((min (position * rankCount / max 1 numExperts) (rankCount - 1) : ℕ) : ℤ)) := by
  have hperm := hotnessOrder_perm hotness numExperts
  have hlength : (hotnessOrder hotness numExperts).length = numExperts := by
    rw [hperm.length_eq, List.length_range]
  have hwrites := writeAll_perm hperm (fun position : ℕ =>
      ((min (position * rankCount / max 1 numExperts) (rankCount - 1) : ℕ) : ℤ))
    (List.length_replicate (n := numExperts) (a := (0 : ℤ)))
  unfold hotnessGroups
  simp only [hlength]
  rwa [writeAll, List.foldl_map] at hwrites

theorem isAssignment_hotnessGroups (hotness : ℕ → ℚ) (numExperts : ℕ) {rankCount : ℕ}
    (h : 0 < rankCount) :
    IsAssignment numExperts rankCount (hotnessGroups hotness numExperts rankCount) where
  length := by rw [(hotnessGroups_perm hotness numExperts rankCount).length_eq]; simp
  rank r hr := by
    rw [(hotnessGroups_perm hotness numExperts rankCount).mem_iff] at hr
    obtain ⟨position, -, rfl⟩ := List.mem_map.mp hr
    exact ⟨_, by omega, rfl⟩

/-- `q` places for each of `n` ranks, one rank after the other. -/
theorem count_div (q n rank : ℕ) (hq : 0 < q) :
    ((List.range (n * q)).map fun i : ℕ => ((i / q : ℕ) : ℤ)).count (rank : ℤ) =
      if rank < n then q else 0 := by
  have hblocks : ((List.range (n * q)).map fun i : ℕ => ((i / q : ℕ) : ℤ)) =
      (List.range n).flatMap fun r : ℕ => List.replicate q (r : ℤ) := by
    induction n with
    | zero => simp
    | succ n ih =>
      have hblock : (List.range q).map ((fun i : ℕ => ((i / q : ℕ) : ℤ)) ∘ (n * q + ·)) =
          List.replicate q (n : ℤ) := by
        refine List.eq_replicate_iff.mpr ⟨by simp, fun r hr => ?_⟩
        obtain ⟨i, hi, rfl⟩ := List.mem_map.mp hr
        rw [Function.comp_apply, Nat.mul_comm n q, Nat.mul_add_div hq,
          Nat.div_eq_of_lt (List.mem_range.mp hi), Nat.add_zero]
      rw [Nat.succ_mul, List.range_add, List.map_append, ih, List.map_map, hblock, List.range_succ,
        List.flatMap_append, List.flatMap_singleton]
  rw [hblocks, count_blocks]

theorem isEven_hotnessGroups (hotness : ℕ → ℚ) {numExperts rankCount : ℕ}
    (hdvd : rankCount ∣ numExperts) :
    IsEven numExperts rankCount (hotnessGroups hotness numExperts rankCount) := by
  intro rank hrank
  rw [(hotnessGroups_perm hotness numExperts rankCount).count_eq]
  obtain ⟨q, rfl⟩ := hdvd
  have hpos : 0 < rankCount := by omega
  rw [Nat.mul_div_cancel_left q hpos]
  rcases Nat.eq_zero_or_pos q with rfl | hq
  · simp
  · have hcut : ((List.range (rankCount * q)).map fun position : ℕ =>
        ((min (position * rankCount / max 1 (rankCount * q)) (rankCount - 1) : ℕ) : ℤ)) =
        (List.range (rankCount * q)).map fun position : ℕ => ((position / q : ℕ) : ℤ) := by
      refine List.map_congr_left fun position hposition => ?_
      have hmax : max 1 (rankCount * q) = rankCount * q :=
        Nat.max_eq_right (Nat.mul_pos hpos hq)
      have hlt : position / q < rankCount :=
        Nat.div_lt_of_lt_mul (by rw [Nat.mul_comm]; exact List.mem_range.mp hposition)
      rw [hmax, Nat.mul_comm position, Nat.mul_div_mul_left _ _ hpos,
        Nat.min_eq_left (by omega)]
    rw [hcut, count_div q rankCount rank hq, if_pos hrank]

/-! ## The greedy loop fills the slots -/

theorem leastScore_mem (score : ℕ → ℚ × ℕ × ℕ) (first : ℕ) (rest : List ℕ) :
    leastScore score first rest ∈ first :: rest := by
  unfold leastScore
  induction rest generalizing first with
  | nil => exact List.mem_singleton.mpr rfl
  | cons candidate rest ih =>
    rw [List.foldl_cons]
    have hmem := ih (if keyLt (score candidate) (score first) then candidate else first)
    rcases List.mem_cons.mp hmem with heq | hrest
    · rw [heq]
      split_ifs <;> simp
    · exact List.mem_cons_of_mem _ (List.mem_cons_of_mem _ hrest)

/-- One turn, when there is room: some rank with room gets the expert. -/
theorem placeExpert_spec {capacities : List ℕ} (hotness : ℕ → ℚ)
    (score : List ℚ → ℕ → ℕ → ℚ × ℕ × ℕ) {slots : Slots} (expertId : ℕ)
    (hwithin : Within slots.rankCounts capacities)
    (hroom : slots.rankCounts.sum < capacities.sum) :
    ∃ (rank : ℕ) (rankLoad : List ℚ), rank < capacities.length ∧
      slots.rankCounts.getD rank 0 < capacities.getD rank 0 ∧
      placeExpert capacities hotness score slots expertId = .ok {
        assignment := slots.assignment.set expertId rank
        rankLoad := rankLoad
        rankCounts := take slots.rankCounts rank } := by
  unfold placeExpert
  dsimp only
  split
  case h_1 hnone =>
    obtain ⟨i, hi, hlt⟩ := hwithin.exists_room hroom
    have hout := List.filter_eq_nil_iff.mp hnone i (List.mem_range.mpr hi)
    exact absurd hlt (by simpa using hout)
  case h_2 first rest hfeasible =>
    have hmem := leastScore_mem (score slots.rankLoad expertId) first rest
    rw [← hfeasible, List.mem_filter, List.mem_range, decide_eq_true_iff] at hmem
    exact ⟨_, _, hmem.1, hmem.2, rfl⟩

/-- After the experts `done`: they have ranks and the others have none, and the counts are those of
the assignment. -/
structure Filled (numExperts : ℕ) (capacities : List ℕ) (done : List ℕ) (slots : Slots) : Prop where
  length : slots.assignment.length = numExperts
  within : Within slots.rankCounts capacities
  sum : slots.rankCounts.sum = done.length
  count : ∀ rank : ℕ, slots.assignment.count (rank : ℤ) = slots.rankCounts.getD rank 0
  placed : ∀ e ∈ done, ∃ rank < capacities.length, slots.assignment[e]? = some ((rank : ℕ) : ℤ)
  unplaced : ∀ e < numExperts, e ∉ done → slots.assignment[e]? = some (-1)

theorem filled_start (numExperts : ℕ) (capacities : List ℕ) :
    Filled numExperts capacities []
      ⟨List.replicate numExperts (-1), List.replicate capacities.length 0,
        List.replicate capacities.length 0⟩ where
  length := List.length_replicate
  within := within_zero capacities
  sum := by simp
  count rank := by
    rw [List.count_replicate, if_neg (by simp), List.getD_eq_getElem?_getD,
      List.getElem?_replicate]
    split_ifs <;> rfl
  placed := by simp
  unplaced e he _ := by simp [he]

theorem Filled.place {numExperts : ℕ} {capacities done : List ℕ} {slots : Slots}
    (h : Filled numExperts capacities done slots) {e rank : ℕ} (he : e < numExperts)
    (hnew : e ∉ done) (hrank : rank < capacities.length)
    (hroom : slots.rankCounts.getD rank 0 < capacities.getD rank 0) (rankLoad : List ℚ) :
    Filled numExperts capacities (done ++ [e])
      ⟨slots.assignment.set e rank, rankLoad, take slots.rankCounts rank⟩ where
  length := by rw [List.length_set, h.length]
  within := h.within.take hroom
  sum := by
    have hlen : rank < slots.rankCounts.length := by
      rw [List.Forall₂.length_eq h.within]
      exact hrank
    rw [sum_take hlen, h.sum, List.length_append, List.length_singleton]
  count r := by
    have hlen : rank < slots.rankCounts.length := by
      rw [List.Forall₂.length_eq h.within]
      exact hrank
    have hlt : e < slots.assignment.length := by rw [h.length]; exact he
    have hold : slots.assignment[e] = -1 := by
      have := h.unplaced e he hnew
      rwa [List.getElem?_eq_getElem hlt, Option.some_inj] at this
    have hne : ((-1 : ℤ) == (r : ℤ)) = false := by
      rw [beq_eq_false_iff_ne]
      omega
    have heq : ((rank : ℤ) == (r : ℤ)) = decide (rank = r) := by
      rw [Bool.eq_iff_iff, beq_iff_eq, decide_eq_true_iff, Nat.cast_inj]
    rw [List.count_set hlt, hold, hne, heq, h.count r, getD_take hlen]
    simp
  placed e' he' := by
    rcases List.mem_append.mp he' with hdone | hself
    · obtain ⟨r, hr, hget⟩ := h.placed e' hdone
      have hne : e ≠ e' := fun heq => hnew (heq ▸ hdone)
      exact ⟨r, hr, by rw [List.getElem?_set_ne hne, hget]⟩
    · rw [List.mem_singleton.mp hself]
      have hlt : e < slots.assignment.length := by rw [h.length]; exact he
      exact ⟨rank, hrank, List.getElem?_set_self hlt⟩
  unplaced e' he' hout := by
    rw [List.mem_append, not_or, List.mem_singleton] at hout
    rw [List.getElem?_set_ne (Ne.symm hout.2), h.unplaced e' he' hout.1]

/-- **The greedy loop** never runs out of slots; every rank gets as many experts as it has slots. -/
theorem greedyAssignment_spec {numExperts : ℕ} {capacities : List ℕ} (hotness : ℕ → ℚ)
    (score : List ℚ → ℕ → ℕ → ℚ × ℕ × ℕ) (hsum : capacities.sum = numExperts) :
    ∃ assignment, greedyAssignment numExperts capacities hotness score = .ok assignment ∧
      IsAssignment numExperts capacities.length assignment ∧
      ∀ rank : ℕ, assignment.count (rank : ℤ) = capacities.getD rank 0 := by
  have hperm := hotnessOrder_perm hotness numExperts
  have hnodup : (hotnessOrder hotness numExperts).Nodup := hperm.nodup_iff.mpr List.nodup_range
  have hturn : ∀ done e rest slots, hotnessOrder hotness numExperts = done ++ e :: rest →
      Filled numExperts capacities done slots →
      ∃ slots', placeExpert capacities hotness score slots e = .ok slots' ∧
        Filled numExperts capacities (done ++ [e]) slots' := by
    intro done e rest slots hwhole hfilled
    have he : e < numExperts := by
      rw [← List.mem_range, ← hperm.mem_iff, hwhole]
      simp
    have hnew : e ∉ done := by
      intro hdone
      rw [hwhole, List.nodup_append] at hnodup
      exact hnodup.2.2 e hdone e List.mem_cons_self rfl
    have hlen : done.length < numExperts := by
      have := hperm.length_eq
      rw [hwhole, List.length_append, List.length_cons, List.length_range] at this
      omega
    obtain ⟨rank, rankLoad, hrank, hroom, hplace⟩ :=
      placeExpert_spec hotness score e hfilled.within (by rw [hfilled.sum, hsum]; exact hlen)
    exact ⟨_, hplace, hfilled.place he hnew hrank hroom rankLoad⟩
  obtain ⟨slots, hrun, hfilled⟩ :=
    Runs.foldlM_inv (Filled numExperts capacities) hturn (filled_start numExperts capacities)
  have hfull : slots.rankCounts = capacities := by
    refine hfilled.within.eq_of_sum_eq ?_
    rw [hfilled.sum, hperm.length_eq, List.length_range, hsum]
  refine ⟨slots.assignment, ?_, ⟨hfilled.length, ?_⟩, ?_⟩
  · rw [greedyAssignment, hrun]
    rfl
  · intro r hr
    obtain ⟨e, he, rfl⟩ := List.mem_iff_getElem.mp hr
    have hmem : e ∈ hotnessOrder hotness numExperts := by
      rw [hperm.mem_iff, List.mem_range, ← hfilled.length]
      exact he
    obtain ⟨rank, hrank, hget⟩ := hfilled.placed e hmem
    rw [List.getElem?_eq_getElem he, Option.some_inj] at hget
    exact ⟨rank, hrank, hget⟩
  · intro rank
    rw [hfilled.count rank, hfull]

end ExpertPlacement
end SpotServe
