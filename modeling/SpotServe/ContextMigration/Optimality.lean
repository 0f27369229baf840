import SpotServe.Library.LoadAssignment
import SpotServe.ContextMigration.Planner

/-!
# The planner is optimal

The recursion of `_fixed_warmup_assignment` is the recursion of `LoadAssignment` on the target
indices: the remaining capacity of a target is its capacity less its load, and its bit in the
mask says whether its load is positive (`Represents`, `solve_eq`).  The plan loop keeps the same
loads in its own counters (`Counts`), so the costs it rebuilds are those the recursion charged.

`planLowCostMigration_optimal` puts the two together: what the planner returns is an assignment
that respects the capacities, and its cost is minimal among all of them.
-/

namespace SpotServe
namespace ContextMigration

open LoadAssignment

/-! ## The assignment problem of the planner -/

/-- The planner's problem, on target indices.  An index past the end is a target without room. -/
def problem (targets : List MigrationTarget) (config : PlannerConfig) :
    Problem ContextMetadata ℕ ℚ where
  capacity j := (targets[j]?.map MigrationTarget.capacity).getD 0
  edge source j k :=
    match targets[j]? with
    | some target => (estimateMigrationCost source target config false k).1
    | none => 0
  opening j := (targets[j]?.map MigrationTarget.warmupCost).getD 0
  skip := unmatchedPenalty config

variable {targets : List MigrationTarget} {config : PlannerConfig}

theorem problem_capacity {j : ℕ} {target : MigrationTarget} (h : targets[j]? = some target) :
    (problem targets config).capacity j = target.capacity := by
  simp only [problem, h, Option.map_some, Option.getD_some]

theorem problem_opening {j : ℕ} {target : MigrationTarget} (h : targets[j]? = some target) :
    (problem targets config).opening j = target.warmupCost := by
  simp only [problem, h, Option.map_some, Option.getD_some]

theorem problem_edge {j : ℕ} {target : MigrationTarget} (h : targets[j]? = some target)
    (source : ContextMetadata) (k : ℕ) :
    (problem targets config).edge source j k =
      (estimateMigrationCost source target config false k).1 := by
  simp only [problem, h]

/-- Only a real target has room. -/
theorem lt_length_of_capacity_pos {j : ℕ} (h : 0 < (problem targets config).capacity j) :
    j < targets.length := by
  by_contra hj
  simp [problem, List.getElem?_eq_none (not_lt.mp hj)] at h

theorem mem_range_of_capacity_pos (j : ℕ) (h : 0 < (problem targets config).capacity j) :
    j ∈ List.range targets.length :=
  List.mem_range.mpr (lt_length_of_capacity_pos h)

/-! ## The recursion of the source -/

/-- The capacities and the mask that `solve` carries when the targets have the given loads. -/
structure Represents (targets : List MigrationTarget) (load : ℕ → ℕ) (remaining : List ℕ)
    (opened : ℕ) : Prop where
  remaining_eq : ∀ j target, targets[j]? = some target →
    remaining[j]? = some (target.capacity - load j)
  load_le : ∀ j target, targets[j]? = some target → load j ≤ target.capacity
  opened_eq : ∀ j, opened.testBit j = decide (load j ≠ 0)

theorem represents_init (targets : List MigrationTarget) :
    Represents targets (fun _ => 0) (targets.map MigrationTarget.capacity) 0 where
  remaining_eq j target h := by simp [h]
  load_le j target _ := Nat.zero_le _
  opened_eq j := by simp

/-- Placing a context on a target with room keeps the representation. -/
theorem Represents.bump {load : ℕ → ℕ} {remaining : List ℕ} {opened : ℕ}
    (h : Represents targets load remaining opened) {j : ℕ} {target : MigrationTarget}
    (hj : targets[j]? = some target) (hlt : load j < target.capacity) :
    Represents targets (bump load j) (remaining.set j (remaining.getD j 0 - 1))
      (opened ||| 1 <<< j) where
  remaining_eq i other hi := by
    have hlen : j < remaining.length := (List.getElem?_eq_some_iff.mp (h.remaining_eq j target hj)).1
    by_cases hij : i = j
    · subst hij
      rw [hj] at hi
      obtain rfl := Option.some.inj hi
      rw [List.getElem?_set_self hlen, bump_self, List.getD_eq_getElem?_getD,
        h.remaining_eq i target hj, Option.getD_some, Nat.sub_sub]
    · rw [List.getElem?_set_ne (Ne.symm hij), bump_of_ne hij]
      exact h.remaining_eq i other hi
  load_le i other hi := by
    by_cases hij : i = j
    · subst hij
      rw [hj] at hi
      obtain rfl := Option.some.inj hi
      rw [bump_self]
      omega
    · rw [bump_of_ne hij]
      exact h.load_le i other hi
  opened_eq i := by
    rw [Nat.testBit_or, h.opened_eq i, Nat.one_shiftLeft, Nat.testBit_two_pow]
    by_cases hij : i = j
    · subst hij
      simp
    · simp [bump_of_ne hij, Ne.symm hij]

/-- **Refinement.**  The recursion of the source is the recursion on loads. -/
theorem solve_eq (sources : List ContextMetadata) {load : ℕ → ℕ} {remaining : List ℕ}
    {opened : ℕ} (h : Represents targets load remaining opened) :
    solve targets config (unmatchedPenalty config) sources remaining opened =
      (problem targets config).solve (List.range targets.length) sources load := by
  induction sources generalizing load remaining opened with
  | nil => rfl
  | cons source rest ih =>
    have hrange : List.range targets.length = targets.zipIdx.map Prod.snd := by
      rw [List.zipIdx_map_snd, List.range_eq_range']
    rw [solve, Problem.solve]
    unfold improveAll
    conv_rhs => rw [hrange, List.foldl_map]
    have hinit : (solve targets config (unmatchedPenalty config) rest remaining opened).1 +
        unmatchedPenalty config =
          (problem targets config).skip +
            ((problem targets config).solve (List.range targets.length) rest load).1 := by
      rw [ih h, add_comm]
      rfl
    rw [hinit, ih h, hrange]
    refine List.foldl_ext _ _ _ fun best targetAt hmem => ?_
    obtain ⟨target, j⟩ := targetAt
    have hj : targets[j]? = some target := List.mem_zipIdx_iff_getElem?.mp hmem
    have hrem : remaining.getD j 0 = target.capacity - load j := by
      rw [List.getD_eq_getElem?_getD, h.remaining_eq j target hj, Option.getD_some]
    have hle := h.load_le j target hj
    dsimp only
    by_cases hroom : load j < target.capacity
    · have hpos : ¬ remaining.getD j 0 ≤ 0 := by omega
      have hopen : load j < (problem targets config).capacity j := by
        rwa [problem_capacity hj]
      have hahead : (target.capacity : ℤ) - (remaining.getD j 0 : ℕ) = load j := by omega
      have hcharge : (estimateMigrationCost source target config false (load j)).1 +
          (if opened.testBit j then 0 else target.warmupCost) =
            (problem targets config).charge source j (load j) := by
        rw [Problem.charge, problem_edge hj, problem_opening hj, h.opened_eq j]
        by_cases h0 : load j = 0 <;> simp [h0]
      rw [if_neg hpos, if_pos hopen, hahead, hcharge, ih (h.bump hj hroom), hrange]
      rfl
    · have hzero : remaining.getD j 0 ≤ 0 := by omega
      have hclosed : ¬ load j < (problem targets config).capacity j := by
        rwa [problem_capacity hj]
      rw [if_pos hzero, if_neg hclosed]

/-- What `_fixed_warmup_assignment` returns, read on loads. -/
theorem fixedWarmupAssignment_eq (sources : List ContextMetadata) :
    fixedWarmupAssignment targets config (unmatchedPenalty config) sources =
      ((problem targets config).solve (List.range targets.length) sources fun _ => 0).2 := by
  rw [fixedWarmupAssignment, solve_eq sources (represents_init targets)]

/-! ## The plan loop -/

/-- The counters of the plan loop are the loads. -/
structure Counts (load : ℕ → ℕ) (st : PlanState) : Prop where
  counts_eq : st.assignedCountsByTarget = load
  mem_opened : ∀ j, j ∈ st.openedTargets ↔ load j ≠ 0

theorem counts_init : Counts (fun _ => 0) planInit where
  counts_eq := rfl
  mem_opened j := by simp [planInit]

theorem planStep_none (st : PlanState) (source : ContextMetadata) :
    planStep targets config st (source, none) =
      { st with unassignedContexts := st.unassignedContexts ++ [source] } := rfl

theorem planStep_some {j : ℕ} {target : MigrationTarget} (hj : targets[j]? = some target)
    (st : PlanState) (source : ContextMetadata) :
    planStep targets config st (source, some j) =
      { plans := st.plans ++
          [migrationPlan source target config (decide (j ∉ st.openedTargets))
            (st.assignedCountsByTarget j)]
        unassignedContexts := st.unassignedContexts
        openedTargets := insert j st.openedTargets
        assignedCountsByTarget :=
          Function.update st.assignedCountsByTarget j (st.assignedCountsByTarget j + 1) } := by
  simp only [planStep, hj]

theorem Counts.step_none {load : ℕ → ℕ} {st : PlanState} (h : Counts load st)
    (source : ContextMetadata) : Counts load (planStep targets config st (source, none)) :=
  ⟨h.counts_eq, h.mem_opened⟩

theorem Counts.step_some {load : ℕ → ℕ} {st : PlanState} (h : Counts load st) {j : ℕ}
    {target : MigrationTarget} (hj : targets[j]? = some target) (source : ContextMetadata) :
    Counts (bump load j) (planStep targets config st (source, some j)) := by
  rw [planStep_some hj]
  refine ⟨by rw [h.counts_eq]; rfl, fun i => ?_⟩
  rw [Finset.mem_insert, h.mem_opened]
  by_cases hij : i = j
  · simp [hij]
  · simp [hij, bump_of_ne hij]

/-- The plan of a context that finds `k` contexts on its target. -/
def planAt (config : PlannerConfig) (source : ContextMetadata) (target : MigrationTarget)
    (k : ℕ) : MigrationPlan :=
  migrationPlan source target config (decide (k = 0)) k

/-- The warm-up is paid by the first context of a target. -/
theorem planAt_estimatedCost {j : ℕ} {target : MigrationTarget} (hj : targets[j]? = some target)
    (source : ContextMetadata) (k : ℕ) :
    (planAt config source target k).estimatedCost =
      (problem targets config).charge source j k := by
  have hcost : (planAt config source target k).estimatedCost =
      (estimateMigrationCost source target config (decide (k = 0)) k).1 := rfl
  rw [hcost, estimateMigrationCost_warmup, Problem.charge, problem_edge hj, problem_opening hj]
  by_cases h : k = 0 <;> simp [h]

theorem Counts.plan_eq {load : ℕ → ℕ} {st : PlanState} (h : Counts load st) (j : ℕ)
    (source : ContextMetadata) (target : MigrationTarget) :
    migrationPlan source target config (decide (j ∉ st.openedTargets))
        (st.assignedCountsByTarget j) = planAt config source target (load j) := by
  have hopened : decide (j ∉ st.openedTargets) = decide (load j = 0) := by
    simp [h.mem_opened j]
  rw [planAt, hopened, h.counts_eq]

/-- The costs that the plan loop rebuilds, with the penalties of what it leaves out. -/
def PlanState.objective (config : PlannerConfig) (st : PlanState) : ℚ :=
  (st.plans.map MigrationPlan.estimatedCost).sum +
    unmatchedPenalty config * st.unassignedContexts.length

/-- **The rebuilt costs.**  The plan loop adds what the choices cost. -/
theorem objective_foldl_planStep (sources : List ContextMetadata) (choices : List (Option ℕ))
    (hlen : choices.length = sources.length)
    (hlt : ∀ j, some j ∈ choices → j < targets.length) {load : ℕ → ℕ} {st : PlanState}
    (h : Counts load st) :
    ((sources.zip choices).foldl (planStep targets config) st).objective config =
      st.objective config + (problem targets config).runCost sources choices load := by
  induction sources generalizing choices load st with
  | nil => simp
  | cons source rest ih =>
    obtain _ | ⟨c, choices⟩ := choices
    · simp at hlen
    have hlen' : choices.length = rest.length := by simpa using hlen
    have hlt' : ∀ j, some j ∈ choices → j < targets.length := fun j hj =>
      hlt j (List.mem_cons_of_mem _ hj)
    rw [List.zip_cons_cons, List.foldl_cons]
    cases c with
    | none =>
      rw [ih choices hlen' hlt' (h.step_none source), runCost_none, ← add_assoc]
      congr 1
      simp only [PlanState.objective, planStep_none, List.length_append, List.length_cons,
        List.length_nil, Nat.cast_add, Nat.cast_one, problem]
      ring
    | some j =>
      have hlast : j < targets.length := hlt j (List.mem_cons_self ..)
      have hj : targets[j]? = some targets[j] := List.getElem?_eq_getElem hlast
      rw [ih choices hlen' hlt' (h.step_some hj source), runCost_some, ← add_assoc]
      congr 1
      rw [← planAt_estimatedCost hj, ← h.plan_eq j source targets[j]]
      simp only [PlanState.objective, planStep_some hj, List.map_append, List.sum_append,
        List.map_cons, List.map_nil, List.sum_cons, List.sum_nil, add_zero]
      ring

/-- The plan of source `i` under the assignment `f`, if it has one: it finds the contexts of the
loop's start and the earlier sources on its target. -/
def recorded (config : PlannerConfig) {n : ℕ} (s : Fin n → ContextMetadata)
    (f : Fin n → Option (Fin targets.length)) (load : ℕ → ℕ) (i : Fin n) : Option MigrationPlan :=
  (f i).map fun j => planAt config (s i) (targets.get j) (load j + ahead f i)

theorem recorded_succ {n : ℕ} (s : Fin (n + 1) → ContextMetadata)
    (f : Fin (n + 1) → Option (Fin targets.length)) {load load' : ℕ → ℕ} {i : Fin n}
    (hload : ∀ j : Fin targets.length, f i.succ = some j →
      load' j = load j + if f 0 = some j then 1 else 0) :
    recorded config s f load i.succ =
      recorded config (fun i => s i.succ) (fun i => f i.succ) load' i := by
  unfold recorded
  cases hf : f i.succ with
  | none => simp only [hf, Option.map_none]
  | some j => simp only [Option.map_some, ahead_succ, hf, hload j hf, Nat.add_assoc]

/-- **The recorded plans.**  The plan loop records, in the order of the sources, one plan for
each context that has a target and one unassigned context for each that has none. -/
theorem foldl_planStep_ofFn {n : ℕ} (s : Fin n → ContextMetadata)
    (f : Fin n → Option (Fin targets.length)) {load : ℕ → ℕ} {st : PlanState}
    (h : Counts load st) :
    (((List.ofFn s).zip (List.ofFn fun i => (f i).map Fin.val)).foldl
        (planStep targets config) st).plans =
        st.plans ++ (List.finRange n).filterMap (recorded config s f load) ∧
      (((List.ofFn s).zip (List.ofFn fun i => (f i).map Fin.val)).foldl
        (planStep targets config) st).unassignedContexts =
        st.unassignedContexts ++ ((List.finRange n).filter fun i => f i = none).map s := by
  induction n generalizing load st with
  | zero => simp
  | succ n ih =>
    rw [List.ofFn_succ, List.ofFn_succ, List.zip_cons_cons, List.foldl_cons, List.finRange_succ,
      List.filterMap_cons, List.filter_cons, List.filterMap_map, List.filter_map]
    cases h0 : f 0 with
    | none =>
      obtain ⟨hplans, hun⟩ := ih (fun i => s i.succ) (fun i => f i.succ)
        (@Counts.step_none targets config load st h (s 0))
      have hrec : recorded config s f load ∘ Fin.succ =
          recorded config (fun i => s i.succ) (fun i => f i.succ) load :=
        funext fun i => recorded_succ s f fun j _ => by simp [h0]
      have hzero : recorded config s f load 0 = none := by rw [recorded, h0, Option.map_none]
      rw [Option.map_none, hplans, hun, hrec, hzero]
      refine ⟨rfl, ?_⟩
      simp [planStep_none, Function.comp_def]
    | some j =>
      have hj : targets[(j : ℕ)]? = some (targets.get j) := by simp
      obtain ⟨hplans, hun⟩ := ih (fun i => s i.succ) (fun i => f i.succ)
        (@Counts.step_some targets config load st h j _ hj (s 0))
      have hrec : recorded config s f load ∘ Fin.succ =
          recorded config (fun i => s i.succ) (fun i => f i.succ) (bump load j) :=
        funext fun i => recorded_succ s f fun j' _ => by
          by_cases he : j = j'
          · subst he
            simp [h0]
          · rw [bump_of_ne (fun hv => he (Fin.ext hv.symm)), h0, if_neg (by simpa using he),
              Nat.add_zero]
      have hzero : recorded config s f load 0 =
          some (planAt config (s 0) (targets.get j) (load j)) := by
        rw [recorded, h0, Option.map_some, ahead_zero]
        rfl
      rw [Option.map_some, hplans, hun, hrec, hzero, planStep_some hj, h.plan_eq]
      refine ⟨by simp, ?_⟩
      simp [Function.comp_def]

/-! ## Assignments -/

section Assignments

variable (sources : List ContextMetadata) (targets : List MigrationTarget)
  (config : PlannerConfig)

/-- No target is given more sources than its capacity. -/
def CapacityRespecting (f : Fin sources.length → Option (Fin targets.length)) : Prop :=
  ∀ j, (Finset.univ.filter fun i => f i = some j).card ≤ (targets.get j).capacity

/-- What an assignment costs: every assigned source pays its migration cost behind the earlier
sources on its target, every target that is used its warm-up once, and every source left out
the penalty. -/
def assignmentCost (f : Fin sources.length → Option (Fin targets.length)) : ℚ :=
  (∑ i, match f i with
    | some j => (estimateMigrationCost (sources.get i) (targets.get j) config false (ahead f i)).1
    | none => 0) +
  (∑ j, if ∃ i, f i = some j then (targets.get j).warmupCost else 0) +
  unmatchedPenalty config * (Finset.univ.filter fun i => f i = none).card

variable {sources targets config}

theorem ahead_map_val {n m : ℕ} (f : Fin n → Option (Fin m)) (i : Fin n) :
    ahead (fun i => (f i).map Fin.val) i = ahead f i := by
  unfold ahead
  simp only [(Option.map_injective Fin.val_injective).eq_iff]

/-- The cost of an assignment is the cost of its list of choices. -/
theorem assignmentCost_eq (f : Fin sources.length → Option (Fin targets.length)) :
    assignmentCost sources targets config f =
      (problem targets config).runCost sources (List.ofFn fun i => (f i).map Fin.val)
        fun _ => 0 := by
  have hlist : sources = List.ofFn sources.get := (List.ofFn_get sources).symm
  have hrun := runCost_ofFn (problem targets config) sources.get (fun i => (f i).map Fin.val)
    (fun _ => 0) (Finset.range targets.length) (fun i t h => by
      obtain ⟨j, -, rfl⟩ := Option.map_eq_some_iff.mp h
      exact Finset.mem_range.mpr j.isLt)
  rw [← hlist] at hrun
  rw [hrun]
  have hplace : ∀ i, (problem targets config).placement sources.get
      (fun i => (f i).map Fin.val) (fun _ => 0) i =
        (match f i with
          | some j =>
            (estimateMigrationCost (sources.get i) (targets.get j) config false (ahead f i)).1
          | none => 0) +
        if f i = none then unmatchedPenalty config else 0 := by
    intro i
    unfold Problem.placement
    cases hf : f i with
    | none =>
      simp only [hf, Option.map_none, if_true, zero_add]
      rfl
    | some j =>
      have hj : targets[(j : ℕ)]? = some (targets.get j) := by simp
      simp only [hf, Option.map_some, problem_edge hj, ahead_map_val, Nat.zero_add, reduceCtorEq,
        if_false, add_zero]
  have hopen : (problem targets config).openings (Finset.range targets.length)
      (fun i => (f i).map Fin.val) (fun _ => 0) =
        ∑ j, if ∃ i, f i = some j then (targets.get j).warmupCost else 0 := by
    unfold Problem.openings
    rw [Finset.sum_range]
    refine Finset.sum_congr rfl fun j _ => ?_
    have hj : targets[(j : ℕ)]? = some (targets.get j) := by simp
    have hex : (∃ i, (f i).map Fin.val = some (j : ℕ)) ↔ ∃ i, f i = some j :=
      exists_congr fun i => by simp [Option.map_eq_some_iff, Fin.val_inj]
    simp only [true_and, hex, problem_opening hj]
  have hskip : (∑ i, if f i = none then unmatchedPenalty config else 0) =
      unmatchedPenalty config * (Finset.univ.filter fun i => f i = none).card := by
    rw [← Finset.sum_filter, Finset.sum_const, nsmul_eq_mul, mul_comm]
  rw [Finset.sum_congr rfl fun i _ => hplace i, Finset.sum_add_distrib, hopen, hskip,
    assignmentCost]
  ring

theorem count_ofFn_map_val {n m : ℕ} (f : Fin n → Option (Fin m)) (j : Fin m) :
    (List.ofFn fun i => (f i).map Fin.val).count (some (j : ℕ)) =
      (Finset.univ.filter fun i => f i = some j).card := by
  rw [count_ofFn]
  congr 1
  ext i
  simp [Option.map_eq_some_iff, Fin.val_inj]

/-- The lists of choices of the assignments that respect the capacities are the feasible ones. -/
theorem feasible_ofFn_iff (f : Fin sources.length → Option (Fin targets.length)) :
    (problem targets config).Feasible (List.ofFn fun i => (f i).map Fin.val) (fun _ => 0) ↔
      CapacityRespecting sources targets f := by
  constructor
  · intro h j
    have hj : targets[(j : ℕ)]? = some (targets.get j) := by simp
    have := count_le_of_feasible _ h (j : ℕ) (Nat.zero_le _)
    rwa [count_ofFn_map_val, Nat.zero_add, problem_capacity hj] at this
  · intro h
    refine feasible_of_count_le _ fun j => ?_
    by_cases hlt : j < targets.length
    · have hj : targets[j]? = some (targets.get ⟨j, hlt⟩) := by simp
      rw [Nat.zero_add, count_ofFn_map_val f ⟨j, hlt⟩, problem_capacity hj]
      exact h ⟨j, hlt⟩
    · have hnot : some j ∉ List.ofFn fun i => (f i).map Fin.val := by
        rw [List.mem_ofFn]
        rintro ⟨i, hi⟩
        obtain ⟨j', -, rfl⟩ := Option.map_eq_some_iff.mp hi
        exact hlt j'.isLt
      rw [List.count_eq_zero_of_not_mem hnot]
      exact Nat.zero_le _

/-- Every feasible list of choices is the list of an assignment. -/
theorem exists_ofFn_of_feasible {choices : List (Option ℕ)}
    (hlen : choices.length = sources.length)
    (h : (problem targets config).Feasible choices fun _ => 0) :
    ∃ f : Fin sources.length → Option (Fin targets.length),
      choices = List.ofFn fun i => (f i).map Fin.val := by
  have hlt : ∀ j, some j ∈ choices → j < targets.length := by
    intro j hj
    refine @lt_length_of_capacity_pos targets config j ?_
    have := count_le_of_feasible _ h j (Nat.zero_le _)
    have hpos := List.count_pos_iff.mpr hj
    omega
  refine ⟨fun i => (choices.get (i.cast hlen.symm)).bind fun j =>
    if hj : j < targets.length then some ⟨j, hj⟩ else none, ?_⟩
  refine List.ext_get (by rw [List.length_ofFn, hlen]) fun i h₁ h₂ => ?_
  rw [List.get_ofFn]
  simp only [Fin.cast_mk, List.get_eq_getElem]
  cases hc : choices[i] with
  | none => rfl
  | some j =>
    have hj : j < targets.length := hlt j (hc ▸ List.getElem_mem h₁)
    simp [hj]

end Assignments

/-! ## The planner's answer -/

/-- The total the planner minimises: the costs of its plans and a penalty for every context
without a target. -/
def MigrationDecision.objective (config : PlannerConfig) (decision : MigrationDecision) : ℚ :=
  decision.totalEstimatedCost + unmatchedPenalty config * decision.unassignedContexts.length

/-- The planner's total is the value of its recursion. -/
theorem objective_planLowCostMigration (sources : List ContextMetadata)
    (targets : List MigrationTarget) (config : PlannerConfig) :
    (planLowCostMigration sources targets config).objective config =
      ((problem targets config).solve (List.range targets.length) sources fun _ => 0).1 := by
  set best := (problem targets config).solve (List.range targets.length) sources fun _ => 0
    with hbest
  have hlen : best.2.length = sources.length := length_solve sources _
  obtain ⟨f, hf⟩ := exists_ofFn_of_feasible hlen (feasible_solve sources _)
  have hlt : ∀ j, some j ∈ best.2 → j < targets.length := by
    intro j hj
    rw [hf, List.mem_ofFn] at hj
    obtain ⟨i, hi⟩ := hj
    obtain ⟨j', -, rfl⟩ := Option.map_eq_some_iff.mp hi
    exact j'.isLt
  have hloop := @objective_foldl_planStep targets config sources _ hlen hlt _ _ counts_init
  have hdecision : (planLowCostMigration sources targets config).objective config =
      ((sources.zip (fixedWarmupAssignment targets config (unmatchedPenalty config) sources)).foldl
        (planStep targets config) planInit).objective config := rfl
  rw [hdecision, fixedWarmupAssignment_eq, hloop, hbest, runCost_solve]
  simp [PlanState.objective, planInit]

/-- **Optimality.**  The planner's answer is an assignment `f` that respects the capacities:
every source has one plan, behind the earlier sources on its target, or is listed as
unassigned.  The costs rebuilt for the plans add up to the value the recursion found, and no
assignment that respects the capacities is cheaper. -/
theorem planLowCostMigration_optimal (sources : List ContextMetadata)
    (targets : List MigrationTarget) (config : PlannerConfig) :
    ∃ f : Fin sources.length → Option (Fin targets.length),
      CapacityRespecting sources targets f ∧
      (planLowCostMigration sources targets config).plans =
        (List.finRange sources.length).filterMap (fun i => (f i).map fun j =>
          migrationPlan (sources.get i) (targets.get j) config (decide (ahead f i = 0))
            (ahead f i)) ∧
      (planLowCostMigration sources targets config).unassignedContexts =
        ((List.finRange sources.length).filter fun i => f i = none).map sources.get ∧
      (planLowCostMigration sources targets config).totalEstimatedCost +
          unmatchedPenalty config *
            (planLowCostMigration sources targets config).unassignedContexts.length =
        assignmentCost sources targets config f ∧
      (solve targets config (unmatchedPenalty config) sources
          (targets.map MigrationTarget.capacity) 0).1 = assignmentCost sources targets config f ∧
      ∀ g, CapacityRespecting sources targets g →
        (planLowCostMigration sources targets config).totalEstimatedCost +
            unmatchedPenalty config *
              (planLowCostMigration sources targets config).unassignedContexts.length ≤
          assignmentCost sources targets config g := by
  set P := problem targets config with hP
  set best := P.solve (List.range targets.length) sources fun _ => 0 with hbest
  have hfeas : P.Feasible best.2 fun _ => 0 := feasible_solve sources _
  have hcost : P.runCost sources best.2 (fun _ => 0) = best.1 := runCost_solve sources _
  obtain ⟨f, hf⟩ := exists_ofFn_of_feasible (length_solve sources _) hfeas
  have hobj : (planLowCostMigration sources targets config).objective config = best.1 :=
    objective_planLowCostMigration sources targets config
  have hvalue : best.1 = assignmentCost sources targets config f := by
    rw [assignmentCost_eq, ← hf, hcost]
  have hloop := @foldl_planStep_ofFn targets config _ sources.get f _ _ counts_init
  rw [List.ofFn_get, ← hf, ← fixedWarmupAssignment_eq] at hloop
  refine ⟨f, ?_, ?_, ?_, hobj.trans hvalue, ?_, fun g hg => ?_⟩
  · rw [hf] at hfeas
    exact (feasible_ofFn_iff f).mp hfeas
  · have hrec : recorded config sources.get f (fun _ => 0) = fun i => (f i).map fun j =>
        migrationPlan (sources.get i) (targets.get j) config (decide (ahead f i = 0))
          (ahead f i) := by
      funext i
      simp only [recorded, planAt, Nat.zero_add]
    rw [← hrec]
    exact hloop.1
  · exact hloop.2
  · rw [solve_eq sources (represents_init targets)]
    exact hvalue
  · refine hobj.le.trans ?_
    rw [assignmentCost_eq]
    exact solve_le_runCost mem_range_of_capacity_pos (List.length_ofFn ..)
      ((feasible_ofFn_iff g).mpr hg)

end ContextMigration
end SpotServe
