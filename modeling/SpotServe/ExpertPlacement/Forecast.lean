import Mathlib.Algebra.BigOperators.Group.Finset.Basic
import Mathlib.Algebra.BigOperators.Group.Finset.Piecewise
import Mathlib.Algebra.BigOperators.Group.Finset.Sigma
import SpotServe.ExpertPlacement.Coverage
import SpotServe.ExpertPlacement.HotnessDistribution

/-!
# What a plan forecasts

With its assignments a plan reports the load of every rank (`_load_diagnostics`) and the traffic
that leaves every rank (`_remote_dispatch_diagnostics`).  Both are loops that add numbers to a list
or a dictionary.  Read as sums they are over the experts that the plan gives a rank, and over those
that it gives another one.

* `getElem?_rankLoads`: the load of a rank.
* `perSource_remoteDispatch`: the traffic of a rank.
* `plan_forecasts`: a plan reports them for the assignments that it writes down.
-/

namespace SpotServe
namespace ExpertPlacement

open Py

/-! ## Loads -/

@[simp] theorem placeOf_natCast (length rank : ℕ) : placeOf length (rank : ℤ) = rank := by
  rw [placeOf, if_neg (Int.natCast_nonneg rank).not_gt, Int.toNat_natCast]

section Loads

variable (hotness : Hotness) (layerId : ℕ)

/-- The loop adds to the place of every entry what its expert weighs. -/
theorem getElem?_foldl_modify (entries : List (ℤ × ℕ)) (load : List ℚ) (length rank : ℕ) :
    (entries.foldl (fun load entry =>
        load.modify (placeOf length entry.1) (· + hotnessOf hotness layerId entry.2)) load)[rank]? =
      (load[rank]?).map (· + ((entries.filter fun entry => placeOf length entry.1 = rank).map
        fun entry => hotnessOf hotness layerId entry.2).sum) := by
  induction entries generalizing load with
  | nil => simp
  | cons entry entries ih =>
    rw [List.foldl_cons, ih, List.getElem?_modify, Option.map_eq_map, Option.map_map]
    congr 1
    funext x
    by_cases hplace : placeOf length entry.1 = rank
    · rw [List.filter_cons_of_pos (by simpa using hplace), List.map_cons, List.sum_cons]
      simp [hplace, add_assoc]
    · rw [List.filter_cons_of_neg (by simpa using hplace)]
      simp [hplace]

/-- **The load of a rank** is the hotness of its experts. -/
theorem getElem?_rankLoads {numExperts rankCount : ℕ} {ranks : ℕ → ℕ} {rank : ℕ}
    (hrank : rank < rankCount) :
    (rankLoads hotness rankCount layerId
        ((List.range numExperts).map fun e => (ranks e : ℤ)))[rank]? =
      some (((List.range numExperts).filter fun e => ranks e = rank).map
        (hotnessOf hotness layerId)).sum := by
  have hzip : ((List.range numExperts).map fun e => (ranks e : ℤ)).zipIdx =
      (List.range numExperts).map fun e => ((ranks e : ℤ), e) :=
    List.ext_getElem (by simp) fun i hi hi' => by simp
  rw [rankLoads, hzip, getElem?_foldl_modify, List.getElem?_replicate, if_pos hrank,
    Option.map_some, zero_add, List.filter_map, List.map_map]
  simp only [Function.comp_def, placeOf_natCast]

theorem length_rankLoads (rankCount : ℕ) (assignment : List ℤ) :
    (rankLoads hotness rankCount layerId assignment).length = rankCount := by
  have hloop : ∀ (entries : List (ℤ × ℕ)) (load : List ℚ),
      (entries.foldl (fun load entry => load.modify (placeOf rankCount entry.1)
        (· + hotnessOf hotness layerId entry.2)) load).length = load.length := by
    intro entries
    induction entries with
    | nil => exact fun _ => rfl
    | cons entry entries ih => exact fun load => (ih _).trans (List.length_modify ..)
  rw [rankLoads, hloop, List.length_replicate]

end Loads

/-- The layers that are reported, with their loads. -/
theorem mem_perLayerRankLoad {assignments : List (List ℤ)} {hotness : Hotness} {rankCount l : ℕ}
    {loads : List ℚ}
    (h : (l, loads) ∈ (loadDiagnostics assignments hotness rankCount).perLayerRankLoad) :
    ∃ a, assignments[l]? = some a ∧ loads = rankLoads hotness rankCount l a ∧
      0 < loads.sum / rankCount := by
  obtain ⟨hmem, hpos⟩ := List.mem_filter.mp h
  obtain ⟨⟨a, i⟩, hentry, heq⟩ := List.mem_map.mp hmem
  obtain ⟨rfl, rfl⟩ := Prod.mk.inj heq
  exact ⟨a, List.mem_zipIdx_iff_getElem?.mp hentry, rfl, of_decide_eq_true hpos⟩

/-! ## Traffic -/

section Traffic

variable (assignments : List (List ℤ)) (counts : SourceCounts)

/-- The rank that the assignments give an expert, if they know it. -/
def rankAt? (layerId expertId : ℕ) : Option ℤ := (assignments[layerId]?).bind (·[expertId]?)

/-- Whether the tokens that a key counts travel to another rank. -/
def travels (key : ℕ × ℕ × ℕ) : Bool :=
  (rankAt? assignments key.2.1 key.2.2).any fun rank => rank ≠ (key.1 : ℤ)

/-- The loop over the counts that travel adds each to the entry of its source. -/
theorem get?_foldl_perSource (moved : List (ℕ × ℤ × ℚ)) (acc : OrderedDict String ℚ) (s : ℕ) :
    ((moved.foldl (fun acc (source, _, count) =>
        acc.set (toString source) ((acc.get? (toString source)).getD 0 + count)) acc).get?
          (toString s)).getD 0 =
      (acc.get? (toString s)).getD 0 +
        ((moved.filter fun entry => entry.1 = s).map fun entry => entry.2.2).sum := by
  induction moved generalizing acc with
  | nil => simp
  | cons entry moved ih =>
    obtain ⟨source, rank, count⟩ := entry
    rw [List.foldl_cons, ih, OrderedDict.get?_set]
    by_cases hsource : source = s
    · subst hsource
      rw [if_pos rfl, Option.getD_some, List.filter_cons_of_pos (by simp), List.map_cons,
        List.sum_cons, add_assoc]
    · rw [if_neg fun h => hsource (eq_of_toString_eq h), List.filter_cons_of_neg (by simpa)]

/-- What travels from a source, summed up over the counts. -/
theorem perSource_eq_sumBy (s : ℕ) :
    ((remoteDispatchDiagnostics assignments counts).perSource.get? (toString s)).getD 0 =
      counts.sumBy fun key count => if key.1 = s ∧ travels assignments key then count else 0 := by
  have hloop : ∀ entries : List ((ℕ × ℕ × ℕ) × ℚ),
      ((((entries.filterMap fun entry => (rankAt? assignments entry.1.2.1 entry.1.2.2).map
          fun rank => (entry.1.1, rank, entry.2)).filter fun entry : ℕ × ℤ × ℚ =>
            decide (entry.2.1 ≠ (entry.1 : ℤ))).filter fun entry => entry.1 = s).map
              fun entry => entry.2.2).sum =
        (entries.map fun entry =>
          if entry.1.1 = s ∧ travels assignments entry.1 then entry.2 else 0).sum := by
    intro entries
    induction entries with
    | nil => rfl
    | cons entry entries ih =>
      rw [List.map_cons, List.sum_cons, ← ih, List.filterMap_cons, travels]
      cases hrank : rankAt? assignments entry.1.2.1 entry.1.2.2 with
      | none => simp
      | some rank =>
        rw [Option.map_some, Option.any_some]
        by_cases htravels : rank = (entry.1.1 : ℤ)
        · rw [List.filter_cons_of_neg (by simpa using htravels), if_neg (by simp [htravels]),
            zero_add]
        · rw [List.filter_cons_of_pos (by simpa using htravels)]
          by_cases hsource : entry.1.1 = s
          · rw [List.filter_cons_of_pos (by simpa using hsource), List.map_cons, List.sum_cons,
              if_pos ⟨hsource, by simpa using htravels⟩]
          · rw [List.filter_cons_of_neg (by simpa using hsource), if_neg fun h => hsource h.1,
              zero_add]
  refine (get?_foldl_perSource _ _ s).trans ?_
  rw [OrderedDict.get?_empty, Option.getD_none, zero_add]
  exact hloop counts.entries

/-- Sums over a dictionary, summed up. -/
theorem sum_sumBy {ι α β M : Type*} [DecidableEq α] [AddCommMonoid M] (d : OrderedDict α β)
    (s : Finset ι) (f : ι → α → β → M) :
    ∑ i ∈ s, d.sumBy (f i) = d.sumBy fun key value => ∑ i ∈ s, f i key value := by
  classical
  induction s using Finset.induction_on with
  | empty => simp
  | insert i s hi ih => simp only [Finset.sum_insert hi, ih, OrderedDict.sumBy_add]

variable {assignments}

/-- **The traffic of a rank** is what it counts for the experts of the other ranks, where the
assignments know all experts of all layers. -/
theorem perSource_remoteDispatch {numLayers numExperts : ℕ} {ranks : ℕ → ℕ → ℕ}
    (hranks : ∀ l e, rankAt? assignments l e =
      if l < numLayers ∧ e < numExperts then some (ranks l e : ℤ) else none) (s : ℕ) :
    ((remoteDispatchDiagnostics assignments counts).perSource.get? (toString s)).getD 0 =
      ∑ l ∈ Finset.range numLayers, ∑ e ∈ Finset.range numExperts with ranks l e ≠ s,
        (counts.get? (s, l, e)).getD 0 := by
  have hread : ∀ expert : ℕ × ℕ,
      (if ranks expert.1 expert.2 ≠ s then (counts.get? (s, expert.1, expert.2)).getD 0 else 0) =
        counts.sumBy fun key count =>
          if ranks expert.1 expert.2 ≠ s ∧ key = (s, expert.1, expert.2) then count else 0 := by
    intro expert
    by_cases hrank : ranks expert.1 expert.2 = s
    · simp only [hrank, ne_eq, not_true_eq_false, false_and, if_false, OrderedDict.sumBy_zero]
    · rw [if_pos hrank, OrderedDict.getD_eq_sumBy]
      simp only [hrank, ne_eq, not_false_eq_true, true_and]
  simp only [Finset.sum_filter]
  rw [perSource_eq_sumBy, ← Finset.sum_product', Finset.sum_congr rfl fun expert _ => hread expert,
    sum_sumBy]
  refine OrderedDict.sumBy_congr fun key count _ => ?_
  obtain ⟨source, l, e⟩ := key
  have hother : ∀ expert ∈ Finset.range numLayers ×ˢ Finset.range numExperts, expert ≠ (l, e) →
      (if ranks expert.1 expert.2 ≠ s ∧ (source, l, e) = (s, expert.1, expert.2) then count
        else 0) = 0 :=
    fun expert _ hne => if_neg fun h => hne (by rw [(Prod.mk.inj h.2).2])
  by_cases hknown : l < numLayers ∧ e < numExperts
  · have hmem : (l, e) ∈ Finset.range numLayers ×ˢ Finset.range numExperts :=
      Finset.mem_product.mpr (hknown.imp Finset.mem_range.mpr Finset.mem_range.mpr)
    rw [Finset.sum_eq_single (l, e) hother fun hout => absurd hmem hout]
    refine if_congr ?_ rfl rfl
    rw [travels, hranks, if_pos hknown, Option.any_some, decide_eq_true_eq, Prod.mk.injEq]
    constructor
    · rintro ⟨rfl, htravels⟩
      exact ⟨fun h => htravels (congrArg Nat.cast h), rfl, rfl⟩
    · rintro ⟨htravels, rfl, -⟩
      exact ⟨rfl, fun h => htravels (Nat.cast_inj.mp h)⟩
  · -- Nothing is known of the expert, and it does not occur in the sum.
    rw [if_neg fun h => ?_, Finset.sum_eq_zero fun expert hmem => hother expert hmem ?_]
    · rintro rfl
      exact hknown ((Finset.mem_product.mp hmem).imp Finset.mem_range.mp Finset.mem_range.mp)
    · rw [travels, hranks, if_neg hknown] at h
      exact absurd h.2 (by simp)

end Traffic

/-! ## Plans -/

section Plans

variable {input : PlannerInput}

/-- The rank of an expert, as a number. -/
def rankNumber (assignments : List (List ℤ)) (layerId expertId : ℕ) : ℕ :=
  (rankAt assignments (layerId, expertId)).toNat

theorem IsPlanFor.rankAt_eq {strategy : PlacementStrategy} {plan : ExpertPlacementPlan}
    {assignments : List (List ℤ)} {tables : PlanTables}
    (h : IsPlanFor input strategy plan assignments tables) {l e : ℕ} (hl : l < input.topology.1)
    (he : e < input.topology.2) :
    rankAt assignments (l, e) = (rankNumber assignments l e : ℤ) := by
  obtain ⟨⟨rank, -, hrank⟩, -⟩ :=
    rankAt_spec h.length h.assignment (show (l, e).1 < input.topology.1 from hl) he
  rw [rankNumber, hrank, Int.toNat_natCast]

theorem IsPlanFor.getElem?_assignments {strategy : PlacementStrategy} {plan : ExpertPlacementPlan}
    {assignments : List (List ℤ)} {tables : PlanTables}
    (h : IsPlanFor input strategy plan assignments tables) {l : ℕ} (hl : l < input.topology.1) :
    assignments[l]? =
      some ((List.range input.topology.2).map fun e => (rankNumber assignments l e : ℤ)) := by
  have hlt : l < assignments.length := by rw [h.length]; exact hl
  have hlength := (h.assignment _ (List.getElem_mem hlt)).length
  rw [List.getElem?_eq_getElem hlt]
  refine congrArg some (List.ext_getElem (by simp [hlength]) fun e he he' => ?_)
  rw [List.getElem_map, List.getElem_range, ← h.rankAt_eq hl (by rwa [hlength] at he), rankAt,
    List.getElem?_eq_getElem hlt, Option.bind_some, List.getElem?_eq_getElem he, Option.getD_some]

theorem IsPlanFor.rankAt?_eq {strategy : PlacementStrategy} {plan : ExpertPlacementPlan}
    {assignments : List (List ℤ)} {tables : PlanTables}
    (h : IsPlanFor input strategy plan assignments tables) (l e : ℕ) :
    rankAt? assignments l e =
      if l < input.topology.1 ∧ e < input.topology.2 then some (rankNumber assignments l e : ℤ)
      else none := by
  rw [rankAt?]
  by_cases hl : l < input.topology.1
  · rw [h.getElem?_assignments hl, Option.bind_some, List.getElem?_map]
    by_cases he : e < input.topology.2
    · rw [if_pos ⟨hl, he⟩, List.getElem?_range he, Option.map_some]
    · rw [if_neg fun hboth => he hboth.2, List.getElem?_eq_none (by simpa using he),
        Option.map_none]
  · rw [List.getElem?_eq_none (by rw [h.length]; omega), if_neg fun hboth => hl hboth.1]
    rfl

variable (input)

theorem supportedPlan_forecasts (strategy : PlacementStrategy) :
    ∃ (plan : ExpertPlacementPlan) (assignments : List (List ℤ)) (tables : PlanTables),
      supportedPlan input strategy = .ok plan ∧ IsPlanFor input strategy plan assignments tables ∧
      plan.load = some (loadDiagnostics assignments
        (reportedHotness input input.topology.1 input.topology.2)
        (targetRankCount input.targetParallelPlan)) ∧
      plan.remoteDispatch =
        some (remoteDispatchDiagnostics assignments (sourceCountsFor input strategy).1) := by
  obtain ⟨candidate, hcandidate, hlength, hall⟩ :=
    assignments_spec input strategy (targetRankCount_pos input.targetParallelPlan)
  obtain ⟨tables, htables, hlisted⟩ := planTables_spec input hlength fun a ha => (hall a ha).1
  unfold supportedPlan
  simp only [hcandidate, htables, bind, Except.bind, pure, Except.pure]
  refine ⟨_, _, tables, rfl, ?_, rfl, rfl⟩
  exact ⟨hlength, fun a ha => (hall a ha).1,
    fun hdvd hcurrent a ha => (hall a ha).2 hdvd hcurrent, hlisted, rfl, rfl, rfl, rfl, rfl, rfl,
    rfl, rfl, rfl, rfl, rfl, rfl⟩

/-- **A plan that reports load or traffic** reports those of the assignments it writes down. -/
theorem plan_forecasts {plan : ExpertPlacementPlan}
    (hbuild : buildLogicalExpertPlacementPlan input = .ok (some plan))
    (hmade : plan.load ≠ none ∨ plan.remoteDispatch ≠ none) :
    ∃ (strategy : PlacementStrategy) (assignments : List (List ℤ)) (tables : PlanTables),
      IsPlanFor input strategy plan assignments tables ∧
      plan.load = some (loadDiagnostics assignments
        (reportedHotness input input.topology.1 input.topology.2)
        (targetRankCount input.targetParallelPlan)) ∧
      plan.remoteDispatch =
        some (remoteDispatchDiagnostics assignments (sourceCountsFor input strategy).1) ∧
      0 < input.topology.2 := by
  have hunavailable : ∀ reason, plan ≠ unavailablePlan input reason := by
    rintro reason rfl
    exact hmade.elim (fun h => h rfl) fun h => h rfl
  unfold buildLogicalExpertPlacementPlan at hbuild
  split_ifs at hbuild with hnone htopology
  · exact absurd hbuild (by simp)
  · exact absurd (Option.some.inj (Except.ok.inj hbuild)).symm (hunavailable _)
  · split at hbuild
    · exact absurd (Option.some.inj (Except.ok.inj hbuild)).symm (hunavailable _)
    · rename_i strategy _
      obtain ⟨planned, assignments, tables, hplanned, hplan, hload, hremote⟩ :=
        supportedPlan_forecasts input strategy
      rw [hplanned] at hbuild
      obtain rfl := Option.some.inj (Except.ok.inj hbuild)
      exact ⟨strategy, assignments, tables, hplan, hload, hremote,
        Nat.pos_of_ne_zero fun h => htopology (Or.inr h)⟩

end Plans

end ExpertPlacement
end SpotServe
