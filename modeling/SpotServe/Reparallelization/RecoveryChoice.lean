import SpotServe.Reparallelization.RecoveryEstimates
import SpotServe.Reparallelization.ReplicaPlacement

/-!
# The choice of a recovery

When the row that `plan_calibrated_recovery` selects is the one that completes first.  A migration
takes it directly.  The other kinds go through the reparallelization planner, which reads a negative
time as zero: it compares, for each tensor-parallel size, the completion of the best row and what
that row's service is short of zero.  Its choice is the one of the direct comparison exactly when
these sums stand in the order of the completions (`planner_minimal_iff`).

The transition times and the latencies of a calibration are checked, so no predicted service of the
calibrated shape is negative.  For another shape the service is put together from the measured times
to the first token, which are not checked, and it may be anything.

* `get?_bestByTp`: what is kept for a size.
* `planner_minimal_iff`: the choice among rows.
* `selectsFirst_iff`: the recovery.
-/

namespace SpotServe
namespace Reparallelization

open Py Runs Selection

/-! ## The rows that are kept -/

theorem get?_keepByTp (found : OrderedDict ℕ RecoveryRow) (row : RecoveryRow) (size : ℕ) :
    (keepByTp found row).get? size =
      if row.tensorParallelSize = size then
        keepLess RecoveryRow.predictedCompletionMs (found.get? size) (some row)
      else found.get? size := by
  rw [keepByTp]
  split_ifs with hsize
  · subst hsize
    cases hkept : found.get? row.tensorParallelSize with
    | none => exact OrderedDict.get?_set_self found _ row
    | some kept =>
      rw [keepLess]
      show (if row.predictedCompletionMs < kept.predictedCompletionMs then
        found.set row.tensorParallelSize row else found).get? row.tensorParallelSize = _
      split_ifs with hless
      · exact OrderedDict.get?_set_self found _ row
      · exact hkept
  · cases hkept : found.get? row.tensorParallelSize with
    | none => exact OrderedDict.get?_set_of_ne found row hsize
    | some kept =>
      show (if row.predictedCompletionMs < kept.predictedCompletionMs then
        found.set row.tensorParallelSize row else found).get? size = _
      split_ifs with hless
      · exact OrderedDict.get?_set_of_ne found row hsize
      · rfl

/-- **What is kept for a size**: the first of the rows of that size that complete first. -/
theorem get?_bestByTp (rows : List RecoveryRow) (size : ℕ) :
    (bestByTp rows).get? size = best RecoveryRow.predictedCompletionMs
      (rows.filter fun row => row.tensorParallelSize = size) := by
  induction rows using List.reverseRecOn with
  | nil => rfl
  | append_singleton rows row ih =>
    rw [bestByTp, List.foldl_append, List.foldl_cons, List.foldl_nil, ← bestByTp, get?_keepByTp, ih,
      List.filter_append]
    by_cases hsize : row.tensorParallelSize = size
    · rw [if_pos hsize, List.filter_singleton, decide_eq_true hsize, ← best_concat]
      rfl
    · rw [if_neg hsize, List.filter_singleton, decide_eq_false hsize]
      exact congrArg _ (List.append_nil _).symm

/-- A row that is kept is kept for its own size. -/
theorem mem_values_bestByTp {rows : List RecoveryRow} {row : RecoveryRow} :
    row ∈ (bestByTp rows).values ↔ best RecoveryRow.predictedCompletionMs
      (rows.filter fun other => other.tensorParallelSize = row.tensorParallelSize) = some row := by
  rw [OrderedDict.mem_values_iff]
  constructor
  · rintro ⟨size, h⟩
    rw [get?_bestByTp] at h
    have hsize : row.tensorParallelSize = size :=
      of_decide_eq_true (List.mem_filter.mp (mem_of_best h)).2
    rw [hsize]
    exact h
  · intro h
    exact ⟨row.tensorParallelSize, (get?_bestByTp rows _).trans h⟩

/-- Each size has a row that is kept for it, and none of that size completes before it. -/
theorem exists_kept {rows : List RecoveryRow} {row : RecoveryRow} (h : row ∈ rows) :
    ∃ kept ∈ (bestByTp rows).values, kept.tensorParallelSize = row.tensorParallelSize ∧
      kept.predictedCompletionMs ≤ row.predictedCompletionMs := by
  have hmem : row ∈ rows.filter fun other => other.tensorParallelSize = row.tensorParallelSize :=
    List.mem_filter.mpr ⟨h, decide_eq_true rfl⟩
  obtain ⟨kept, hbest⟩ := exists_best RecoveryRow.predictedCompletionMs hmem
  have hsize : kept.tensorParallelSize = row.tensorParallelSize :=
    of_decide_eq_true (List.mem_filter.mp (mem_of_best hbest)).2
  refine ⟨kept, mem_values_bestByTp.mpr ?_, hsize, key_le_of_best hbest hmem⟩
  rw [hsize]
  exact hbest

/-- Two rows that are kept for one size are the same. -/
theorem kept_unique {rows : List RecoveryRow} {row other : RecoveryRow}
    (hrow : row ∈ (bestByTp rows).values) (hother : other ∈ (bestByTp rows).values)
    (h : row.tensorParallelSize = other.tensorParallelSize) : row = other := by
  have hrow := mem_values_bestByTp.mp hrow
  rw [h] at hrow
  exact Option.some.inj (hrow.symm.trans (mem_values_bestByTp.mp hother))

theorem mem_of_kept {rows : List RecoveryRow} {row : RecoveryRow}
    (h : row ∈ (bestByTp rows).values) : row ∈ rows :=
  (List.mem_filter.mp (mem_of_best (mem_values_bestByTp.mp h))).1

/-! ## The choice among the rows -/

/-- The planner takes a row of the least sum, and among these one of the largest size. -/
def PlannerTakes (rows : List RecoveryRow) (kept : RecoveryRow) : Prop :=
  kept ∈ (bestByTp rows).values ∧ ∀ other ∈ (bestByTp rows).values,
    plannerCost kept < plannerCost other ∨
      plannerCost kept = plannerCost other ∧ other.tensorParallelSize ≤ kept.tensorParallelSize

/-- The rows of a size that are kept are those of the table. -/
theorem mem_get?_bestByTp {rows : List RecoveryRow} {row : RecoveryRow} {size : ℕ} :
    row ∈ (bestByTp rows).get? size ↔
      row ∈ (bestByTp rows).values ∧ row.tensorParallelSize = size := by
  constructor
  · intro h
    refine ⟨(OrderedDict.mem_values_iff _).mpr ⟨size, h⟩, ?_⟩
    rw [Option.mem_def, get?_bestByTp] at h
    exact of_decide_eq_true (List.mem_filter.mp (mem_of_best h)).2
  · rintro ⟨h, rfl⟩
    exact (get?_bestByTp rows _).trans (mem_values_bestByTp.mp h)

/-- **The planner against the minimum.**  With one and two as the only sizes, the row that the
planner takes completes first exactly when the planner's sums of the two kept rows stand in the
order of their completions; where the sums are the same the larger size must not be the later. -/
theorem planner_minimal_iff {rows : List RecoveryRow} {kept : RecoveryRow}
    (hsizes : ∀ row ∈ rows, row.tensorParallelSize = 1 ∨ row.tensorParallelSize = 2)
    (hkept : PlannerTakes rows kept) :
    (∀ row ∈ rows, kept.predictedCompletionMs ≤ row.predictedCompletionMs) ↔
      ∀ one ∈ (bestByTp rows).get? 1, ∀ two ∈ (bestByTp rows).get? 2,
        (one.predictedCompletionMs < two.predictedCompletionMs →
          plannerCost one < plannerCost two) ∧
        (two.predictedCompletionMs < one.predictedCompletionMs →
          plannerCost two ≤ plannerCost one) := by
  obtain ⟨hmem, hleast⟩ := hkept
  constructor
  · intro hmin one hone two htwo
    obtain ⟨hone, honesize⟩ := mem_get?_bestByTp.mp hone
    obtain ⟨htwo, htwosize⟩ := mem_get?_bestByTp.mp htwo
    rcases hsizes kept (mem_of_kept hmem) with hsize | hsize
    · obtain rfl := kept_unique hmem hone (hsize.trans honesize.symm)
      refine ⟨fun _ => ?_, fun hlt => absurd hlt (not_lt.mpr (hmin two (mem_of_kept htwo)))⟩
      rcases hleast two htwo with hlt | ⟨-, hle⟩
      · exact hlt
      · omega
    · obtain rfl := kept_unique hmem htwo (hsize.trans htwosize.symm)
      refine ⟨fun hlt => absurd hlt (not_lt.mpr (hmin one (mem_of_kept hone))), fun _ => ?_⟩
      rcases hleast one hone with hlt | ⟨heq, -⟩
      · exact hlt.le
      · exact heq.le
  · intro horder row hrow
    obtain ⟨other, hother, hothersize, hle⟩ := exists_kept hrow
    refine le_trans ?_ hle
    by_contra hlt
    rw [not_le] at hlt
    have hne : kept.tensorParallelSize ≠ other.tensorParallelSize := by
      intro heq
      rw [kept_unique hmem hother heq] at hlt
      exact lt_irrefl _ hlt
    rcases hsizes kept (mem_of_kept hmem) with hsize | hsize
    · -- the planner took the smaller size, and the larger one completes before it
      have hothersize : other.tensorParallelSize = 2 :=
        (hsizes other (mem_of_kept hother)).resolve_left fun h => hne (hsize.trans h.symm)
      have hcost := (horder kept (mem_get?_bestByTp.mpr ⟨hmem, hsize⟩) other
        (mem_get?_bestByTp.mpr ⟨hother, hothersize⟩)).2 hlt
      rcases hleast other hother with hcost' | ⟨-, hle⟩
      · exact absurd hcost (not_le.mpr hcost')
      · omega
    · have hothersize : other.tensorParallelSize = 1 :=
        (hsizes other (mem_of_kept hother)).resolve_right fun h => hne (hsize.trans h.symm)
      have hcost := (horder other (mem_get?_bestByTp.mpr ⟨hother, hothersize⟩) kept
        (mem_get?_bestByTp.mpr ⟨hmem, hsize⟩)).1 hlt
      rcases hleast other hother with hcost' | ⟨heq, -⟩
      · exact absurd hcost (not_lt.mpr hcost'.le)
      · exact absurd hcost (not_lt.mpr heq.le)

/-! ## The choice of a recovery -/

variable {env : RouteCostEnvironment} {data : CalibrationData} {sourceCase : SourceCase}
  {moeAware : Bool} {available : List ℤ} {residentGroups : List (List ℤ)} {signal : String}

/-- The groups that are compared have one or two GPUs, no node twice. -/
theorem of_mem_allowed {kind : RecoveryKind} {group : List ℤ} (h : group ∈ kind.allowed) :
    (group.length = 1 ∨ group.length = 2) ∧ (group.map gpuNode).Nodup := by
  have hgroups : ∀ group ∈ [[1], [2], [3], [1, 3]], (group.length = 1 ∨ group.length = 2) ∧
      (group.map gpuNode).Nodup := by decide
  refine hgroups group ?_
  cases kind with
  | migration => exact List.mem_append_left [[1, 3]] h
  | overall => exact h
  | reparallelization =>
    rcases List.mem_cons.mp h with rfl | h
    · exact List.mem_cons_self
    · exact List.mem_append_right [[1], [2], [3]] h

/-- A row whose size is that of a group that may be taken fits. -/
theorem fitsNodes_of_usableGroup {kind : RecoveryKind} {group : List ℤ} {row : RecoveryRow}
    (h : usableGroup kind available group = true) (hsize : row.tensorParallelSize = group.length) :
    FitsNodes (gpuNodes available).keys.length row := by
  obtain ⟨hallowed, havailable⟩ := Bool.and_eq_true_iff.mp h
  obtain ⟨hlength, hnodup⟩ := of_mem_allowed (List.contains_iff_mem.mp hallowed)
  have hroom := length_le_nodes (fun gpu hgpu =>
    List.contains_iff_mem.mp (List.all_eq_true.mp havailable gpu hgpu)) hnodup
  rw [FitsNodes, hsize]
  exact ⟨by omega, by omega, by exact_mod_cast hroom⟩

/-- The rows of candidates whose size is the number of their GPUs fit. -/
theorem fitsNodes_of_rows {kind : RecoveryKind} {training : List String} {frozen : FrozenRequest}
    {variableShape : Bool} {found : List (ℚ × String)} {rows : List RecoveryRow}
    (hsize : ∀ candidate ∈ data.candidates.values,
      candidate.tp = candidate.physicalGpuIndices.length)
    (hrows : rows = (data.candidates.entries.filter fun entry =>
      usableGroup kind available entry.2.physicalGpuIndices).map
        (candidateRow training frozen signal variableShape moeAware found residentGroups)) :
    ∀ row ∈ rows, FitsNodes (gpuNodes available).keys.length row := by
  intro row hrow
  rw [hrows] at hrow
  obtain ⟨entry, hentry, rfl⟩ := List.mem_map.mp hrow
  obtain ⟨hentry, husable⟩ := List.mem_filter.mp hentry
  exact fitsNodes_of_usableGroup husable (hsize entry.2 (List.mem_map_of_mem hentry))

theorem smallestRow_spec {rows : List RecoveryRow} {text : String} {row : RecoveryRow}
    (h : smallestRow rows text = .ok row) :
    row ∈ rows ∧ ∀ other ∈ rows, row.predictedCompletionMs ≤ other.predictedCompletionMs := by
  rw [smallestRow] at h
  cases hbest : best completionKey rows with
  | none =>
    rw [hbest] at h
    exact absurd h (by simp)
  | some found =>
    rw [hbest] at h
    obtain rfl := Except.ok.inj h
    exact ⟨mem_of_best hbest, fun other hother =>
      Prod.Lex.monotone_fst _ _ (key_le_of_best hbest hother)⟩

/-- **The selected row**: the one that completes first of all, or of those of the size of the row
that the planner takes. -/
theorem selectRow_spec {kind : RecoveryKind} {rows : List RecoveryRow}
    {selection : RecoveryRow × Option Decision}
    (hfits : ∀ row ∈ rows, FitsNodes (gpuNodes available).keys.length row)
    (h : selectRow env kind available rows = .ok selection) :
    selection.1 ∈ rows ∧ ((kind = .migration ∧
      ∀ row ∈ rows, selection.1.predictedCompletionMs ≤ row.predictedCompletionMs) ∨
    kind ≠ .migration ∧ ∃ kept, PlannerTakes rows kept ∧
      selection.1.predictedCompletionMs = kept.predictedCompletionMs) := by
  rw [selectRow] at h
  obtain ⟨smallest, hsmallest, h⟩ := of_bind_ok h
  obtain ⟨hmem, hleast⟩ := smallestRow_spec hsmallest
  split_ifs at h with hkind
  · obtain rfl := Except.ok.inj h
    exact ⟨hmem, Or.inl ⟨hkind, hleast⟩⟩
  · obtain ⟨decision, hdecision, h⟩ := of_bind_ok h
    obtain ⟨selected, hselected, h⟩ := of_bind_ok h
    obtain rfl := Except.ok.inj h
    obtain ⟨hselected, hleast⟩ := smallestRow_spec hselected
    obtain ⟨hselected, hselectedsize⟩ := List.mem_filter.mp hselected
    refine ⟨hselected, Or.inr ⟨hkind, ?_⟩⟩
    obtain ⟨first, hfirst, -, -⟩ := exists_kept hmem
    obtain ⟨kept, hkept, hsize, hsmallest⟩ := planner_choice (List.ne_nil_of_mem hfirst)
      (fun row hrow => hfits row (mem_of_kept hrow)) (of_mapError_ok hdecision)
    refine ⟨kept, ⟨hkept, hsmallest⟩, le_antisymm ?_ ?_⟩
    · refine hleast kept (List.mem_filter.mpr ⟨mem_of_kept hkept, ?_⟩)
      exact decide_eq_true hsize.symm
    · refine key_le_of_best (mem_values_bestByTp.mp hkept) (List.mem_filter.mpr ⟨hselected, ?_⟩)
      rw [← hsize]
      exact hselectedsize

/-- The services that are compared are those of the weights. -/
theorem exists_overallWeights {found : List (ℚ × String)}
    (hfound : routeNeighbours env (trainingCases data) sourceCase
      (if moeAware then signal else "removed") 20260914 = .ok found) :
    ∃ weights, overallWeights env data sourceCase moeAware signal = .ok weights ∧
      ∀ (residentGroups : List (List ℤ)) (entry : String × CalibratedCandidate),
        (candidateRow ((trainingCases data).map Prod.fst) sourceCase.frozen
          (if moeAware then signal else "removed") true moeAware found residentGroups
            entry).selectedServiceMs = entry.2.scaled sourceCase.frozen weights := by
  have hgeneric : ∀ entry : String × CalibratedCandidate,
      entry.2.genericService ((trainingCases data).map Prod.fst) sourceCase.frozen true =
        entry.2.scaled sourceCase.frozen ((trainingCases data).map fun entry => (entry.1, 1)) := by
    intro entry
    rw [CalibratedCandidate.genericService, if_pos rfl, List.map_map]
    rfl
  cases moeAware with
  | false =>
    refine ⟨(trainingCases data).map fun entry => (entry.1, 1), ?_, fun _ entry => ?_⟩
    · rw [overallWeights, if_neg (by simp)]
    · rw [← hgeneric]
      rfl
  | true =>
    rw [if_pos rfl] at hfound ⊢
    by_cases hsignal : signal = "removed"
    · refine ⟨(trainingCases data).map fun entry => (entry.1, 1), ?_, fun _ entry => ?_⟩
      · rw [overallWeights, if_neg (by simp [hsignal])]
      · rw [← hgeneric]
        exact if_pos hsignal
    · refine ⟨neighbourWeights found, ?_, fun _ entry => if_neg hsignal⟩
      rw [overallWeights, if_pos ⟨rfl, hsignal⟩, hfound]
      rfl

/-- Of each size the same candidate completes first among the rows and among the estimates. -/
theorem get?_bestByTp_candidateRow (data : CalibrationData)
    (estimate : CalibratedCandidate → Estimate) {row : String × CalibratedCandidate → RecoveryRow}
    (hrow : ∀ entry, (row entry).predictedCompletionMs = (estimate entry.2).completionMs)
    (hsize : ∀ entry, (row entry).tensorParallelSize = entry.2.tp)
    (usable : CalibratedCandidate → Bool) (size : ℕ) :
    ∃ found : Option (String × CalibratedCandidate),
      (bestByTp ((data.candidates.entries.filter fun entry => usable entry.2).map row)).get? size =
        found.map row ∧
      best Estimate.completionMs ((data.candidates.values.filter fun candidate =>
        candidate.tp = size ∧ usable candidate = true).map estimate) =
          found.map fun entry => estimate entry.2 := by
  refine ⟨best (fun entry => (estimate entry.2).completionMs)
    ((data.candidates.entries.filter fun entry => usable entry.2).filter fun entry =>
      entry.2.tp = size), ?_, ?_⟩
  · have hsizes : (fun entry => decide ((row entry).tensorParallelSize = size)) =
        fun entry : String × CalibratedCandidate => decide (entry.2.tp = size) :=
      funext fun entry => by rw [hsize]
    rw [get?_bestByTp, List.filter_map, best_map]
    show (best (fun entry => (row entry).predictedCompletionMs) (List.filter
      (fun entry => decide ((row entry).tensorParallelSize = size)) _)).map row = _
    rw [hsizes, funext hrow]
  · rw [OrderedDict.values, List.filter_map, List.map_map, best_map, List.filter_filter]
    simp only [Bool.decide_and, Bool.decide_eq_true]
    rfl

/-- What the planner compares for the row of a candidate. -/
theorem plannerCost_candidateRow (training : List String) (frozen : FrozenRequest)
    (variableShape : Bool) (found : List (ℚ × String)) (entry : String × CalibratedCandidate) :
    plannerCost (candidateRow training frozen signal variableShape moeAware found residentGroups
      entry) =
        (candidateRow training frozen signal variableShape moeAware found residentGroups
          entry).predictedCompletionMs +
        max 0 (-(candidateRow training frozen signal variableShape moeAware found residentGroups
          entry).selectedServiceMs) :=
  plannerCost_recoveryRow moeAware residentGroups (meanTransition_nonneg entry.2 _)
    (meanTransition_nonneg entry.2 _)

/-- The row of a candidate is its estimate, for a service that is the scaled one. -/
theorem candidateRow_estimate {training : List String} {frozen : FrozenRequest}
    {variableShape : Bool} {found : List (ℚ × String)} {weights : List (String × ℚ)}
    {entry : String × CalibratedCandidate}
    (hservice : (candidateRow training frozen signal variableShape moeAware found residentGroups
      entry).selectedServiceMs = entry.2.scaled frozen weights) :
    (candidateRow training frozen signal variableShape moeAware found residentGroups
        entry).predictedCompletionMs =
      (entry.2.estimate frozen weights residentGroups).completionMs ∧
    plannerCost (candidateRow training frozen signal variableShape moeAware found residentGroups
        entry) =
      (entry.2.estimate frozen weights residentGroups).completionMs +
        (entry.2.estimate frozen weights residentGroups).shortfallMs := by
  have hcompletion : (candidateRow training frozen signal variableShape moeAware found
      residentGroups entry).predictedCompletionMs =
        (entry.2.estimate frozen weights residentGroups).completionMs := by
    rw [Estimate.completionMs, CalibratedCandidate.estimate, ← hservice]
    rfl
  refine ⟨hcompletion, ?_⟩
  rw [plannerCost_candidateRow, hcompletion, hservice]
  rfl

/-- The planner takes the row that completes first exactly when the estimates keep their order. -/
theorem overall_minimal_iff {found : List (ℚ × String)} {rows : List RecoveryRow}
    {kept : RecoveryRow}
    (hfound : routeNeighbours env (trainingCases data) sourceCase
      (if moeAware then signal else "removed") 20260914 = .ok found)
    (hrows : rows = (data.candidates.entries.filter fun entry =>
      usableGroup .overall available entry.2.physicalGpuIndices).map
        (candidateRow ((trainingCases data).map Prod.fst) sourceCase.frozen
          (if moeAware then signal else "removed") true moeAware found residentGroups))
    (hsizes : ∀ row ∈ rows, row.tensorParallelSize = 1 ∨ row.tensorParallelSize = 2)
    (hkept : PlannerTakes rows kept) :
    (∀ row ∈ rows, kept.predictedCompletionMs ≤ row.predictedCompletionMs) ↔
      OverallOrderKept env data sourceCase moeAware available residentGroups signal := by
  obtain ⟨weights, hweights, hservice⟩ := exists_overallWeights hfound
  have hestimate := fun entry => candidateRow_estimate (hservice residentGroups entry)
  have hsize : ∀ entry : String × CalibratedCandidate,
      (candidateRow ((trainingCases data).map Prod.fst) sourceCase.frozen
        (if moeAware then signal else "removed") true moeAware found residentGroups
          entry).tensorParallelSize = entry.2.tp := fun _ => rfl
  obtain ⟨one, hone, hone'⟩ := get?_bestByTp_candidateRow data
    (fun candidate => candidate.estimate sourceCase.frozen weights residentGroups)
    (fun entry => (hestimate entry).1) hsize
    (fun candidate => usableGroup .overall available candidate.physicalGpuIndices) 1
  obtain ⟨two, htwo, htwo'⟩ := get?_bestByTp_candidateRow data
    (fun candidate => candidate.estimate sourceCase.frozen weights residentGroups)
    (fun entry => (hestimate entry).1) hsize
    (fun candidate => usableGroup .overall available candidate.physicalGpuIndices) 2
  rw [planner_minimal_iff hsizes hkept, hrows, hone, htwo, Option.forall_mem_map]
  constructor
  · intro h weights' hweights' first hfirst second hsecond
    obtain rfl := Except.ok.inj (hweights'.symm.trans hweights)
    rw [overallEstimates, hone'] at hfirst
    rw [overallEstimates, htwo'] at hsecond
    obtain ⟨first, hfirstmem, rfl⟩ := Option.mem_map.mp hfirst
    obtain ⟨second, hsecondmem, rfl⟩ := Option.mem_map.mp hsecond
    have hpair := h first hfirstmem _ (Option.mem_map_of_mem _ hsecondmem)
    rw [(hestimate _).1, (hestimate _).1, (hestimate _).2, (hestimate _).2] at hpair
    exact hpair
  · intro h first hfirst row hrow
    obtain ⟨second, hsecond, rfl⟩ := Option.mem_map.mp hrow
    rw [(hestimate _).1, (hestimate _).1, (hestimate _).2, (hestimate _).2]
    refine h weights hweights _ ?_ _ ?_
    · rw [overallEstimates, hone']
      exact Option.mem_map_of_mem _ hfirst
    · rw [overallEstimates, htwo']
      exact Option.mem_map_of_mem _ hsecond

/-- For the calibrated shape the planner takes the row that completes first. -/
theorem calibrated_minimal {kind : RecoveryKind} {seed : ℕ} {found : List (ℚ × String)}
    {rows : List RecoveryRow} {kept : RecoveryRow}
    (hdata : validateCalibration env data = .ok (trainingCases data))
    (hfound : routeNeighbours env (trainingCases data) sourceCase signal seed = .ok found)
    (hrows : rows = (data.candidates.entries.filter fun entry =>
      usableGroup kind available entry.2.physicalGpuIndices).map
        (candidateRow ((trainingCases data).map Prod.fst) sourceCase.frozen signal false moeAware
          found residentGroups))
    (hsizes : ∀ row ∈ rows, row.tensorParallelSize = 1 ∨ row.tensorParallelSize = 2)
    (hkept : PlannerTakes rows kept) :
    ∀ row ∈ rows, kept.predictedCompletionMs ≤ row.predictedCompletionMs := by
  have hcost : ∀ row ∈ rows, plannerCost row = row.predictedCompletionMs := by
    intro row hrow
    rw [hrows] at hrow
    obtain ⟨entry, hentry, rfl⟩ := List.mem_map.mp hrow
    have hservice : 0 ≤ (candidateRow ((trainingCases data).map Prod.fst) sourceCase.frozen signal
        false moeAware found residentGroups entry).selectedServiceMs :=
      service_nonneg hdata hfound (List.mem_filter.mp hentry).1 residentGroups
    rw [plannerCost_candidateRow, max_eq_left (neg_nonpos.mpr hservice), add_zero]
  refine (planner_minimal_iff hsizes hkept).mpr fun one hone two htwo => ?_
  rw [hcost one (mem_of_kept (mem_get?_bestByTp.mp hone).1),
    hcost two (mem_of_kept (mem_get?_bestByTp.mp htwo).1)]
  exact ⟨id, le_of_lt⟩

/-- The selected row is one of the returned ones, and none of them completes before it. -/
def RecoveryDecision.SelectsFirst (decision : RecoveryDecision) : Prop :=
  decision.selectedCost ∈ decision.candidates ∧ ∀ row ∈ decision.candidates,
    decision.selectedCost.predictedCompletionMs ≤ row.predictedCompletionMs

theorem name_of_ofName? {text : String} {kind : RecoveryKind}
    (h : RecoveryKind.ofName? text = some kind) : kind.name = text := by
  have hfound := List.find?_some h
  simpa using hfound

/-- **The recovery planner and the direct minimum.**  With candidates whose size is the number of
their GPUs, the selected row completes first of those that are returned, for a migration and a
reparallelization always, and for the comparison of all groups exactly when the cheapest candidates
of one and of two GPUs keep their order. -/
theorem selectsFirst_iff {kind : String} {decision : RecoveryDecision}
    (hsize : ∀ candidate ∈ data.candidates.values,
      candidate.tp = candidate.physicalGpuIndices.length)
    (h : planCalibratedRecovery env data sourceCase kind moeAware available residentGroups signal =
      .ok decision) :
    decision.SelectsFirst ↔ (kind = "overall" →
      OverallOrderKept env data sourceCase moeAware available residentGroups signal) := by
  rw [planCalibratedRecovery] at h
  cases hofName : RecoveryKind.ofName? kind with
  | none =>
    rw [hofName] at h
    exact absurd h (by simp)
  | some found =>
    rw [hofName] at h
    obtain rfl := name_of_ofName? hofName
    obtain ⟨predictions, hpredictions, h⟩ := of_bind_ok h
    obtain ⟨selection, hselection, h⟩ := of_bind_ok h
    obtain rfl := Except.ok.inj h
    obtain ⟨hdata, -, neighbours, hneighbours, hall⟩ := predictCandidates_spec hpredictions
    have hrows := recoveryRows_eq hall found moeAware available residentGroups
    have hfits := fitsNodes_of_rows hsize hrows
    obtain ⟨hmem, hcases⟩ := selectRow_spec hfits hselection
    show (selection.1 ∈ recoveryRows found moeAware available residentGroups predictions ∧
      ∀ row ∈ recoveryRows found moeAware available residentGroups predictions,
        selection.1.predictedCompletionMs ≤ row.predictedCompletionMs) ↔ _
    rw [and_iff_right hmem]
    rcases hcases with ⟨rfl, hleast⟩ | ⟨hkind, kept, hkept, hcompletion⟩
    · exact ⟨fun _ hname => absurd hname (by decide), fun _ => hleast⟩
    · have hsizes : ∀ row ∈ recoveryRows found moeAware available residentGroups predictions,
          row.tensorParallelSize = 1 ∨ row.tensorParallelSize = 2 := fun row hrow => by
        obtain ⟨hpos, htwo, -⟩ := hfits row hrow
        omega
      rw [hcompletion]
      cases found with
      | migration => exact absurd rfl hkind
      | overall =>
        rw [overall_minimal_iff hneighbours hrows hsizes hkept]
        exact ⟨fun h _ => h, fun h => h rfl⟩
      | reparallelization =>
        exact ⟨fun _ hname => absurd hname (by decide),
          fun _ => calibrated_minimal hdata hneighbours hrows hsizes hkept⟩

/-! ## Two calibrated groups -/

/-- The digests of prompts of one token, repeated: 4352 times for the first six, 4556 times for the
last. -/
def prefixDigests : List String :=
  ["460e334e0dc40bb3c5910912e720674f618bfdba0f2cb65c7ce98cc9925fb80e",
    "e7a3e2ba83fd68fa6e46251174b9874a110ad2cb4fe465a1e988cfe7419977ae",
    "100be33a71ce5669d001bcaa32e19b70e702d7821a663856325faf8b09ad71ab",
    "e59f8a88fcb3dfe996568089a56671cdddbf17e5b00763468cb591545538b810",
    "4289bdd97ae19cc92a16b5dbfe32762ccbc7e27021dbbc76f3dd27ab34a5f39c",
    "3c9bd1abe41349b64e0e39354bb1573d9f6d5a01803c13c0142dfd5de0dc8a75",
    "6c50c5506cf462ddee2106178e9b2c2ff9654fbda9d55df03b5e325dfbdf747f"]

/-- The signature of the runtime for a number of GPUs. -/
def pilotSignature (tp : ℤ) : String :=
  if tp = 1 then "991132836aa692086c355e3c1fc2ee258ac79dcd7bf2ccdce031332bb0c68d09"
  else "a44f543b2b12bbf196f079845693039bee8a9cefa6c7a2cffe500040d935e507"

/-- The digests of what is hashed below. -/
def pilotDigest : Value → String
  | .list (.int token :: _) => prefixDigests.getD token.toNat ""
  | .dict (("config_sha256", _) :: fields) =>
    match fields.lookup "tp" with
    | some (.int tp) => pilotSignature tp
    | _ => ""
  | .dict (("revision", _) :: _) =>
    "d3e98a8608094ddc4227a318bd3ec2732fcda5d10ebf3accc9d69820d01f2b2a"
  | _ => "32304a17b847dfaff1534ea184a3817ba355c1bd14b65dac0a0b9680b90b073e"

/-- The texts of the times below. -/
def pilotTexts : List (ℚ × String) :=
  [(0, "0.0"), (600, "600.0"), (2000, "2000.0"), (-4375 / 8, "-546.875"),
    (11575 / 16, "723.4375"), (16375 / 16, "1023.4375")]

/-- The square root is that of the histograms below, or of no distance; nothing is shuffled. -/
def pilotEnvironment : RouteCostEnvironment where
  digest := pilotDigest
  sqrt q := if q = 2048 then 45254833995939045 / 10 ^ 15 else 0
  shuffle _ vectors := vectors
  floatText time := (pilotTexts.lookup time).getD ""
  placementLookups := denseLookups

/-- Each layer sends all its tokens to one expert. -/
def pilotRoutes : Dict :=
  [("histogram", .dict ((List.range 32).map fun layer =>
      ("layer:" ++ toString layer ++ "/expert:0", .int 8))),
    ("histogram_sha256",
      .str "32304a17b847dfaff1534ea184a3817ba355c1bd14b65dac0a0b9680b90b073e"),
    ("origin", .str "live_frontend_routed_experts_chunks")]

/-- A request whose prefix repeats one token. -/
def pilotCase (name : String) (token : ℕ) (tokens : ℕ) (completed : ℤ) : SourceCase where
  workloadId := some name
  frozen := {
    tokens := List.replicate tokens token
    fullPrefixSha256 := prefixDigests.getD token ""
    remainingTokens := 512 - completed
    completedTokens := completed
    strictRequestedBoundaryVerified := true }
  routes := pilotRoutes

/-- The training workloads; each repeats its own number. -/
def pilotTraining : List String :=
  ["train-0", "train-1", "train-2", "train-3", "train-4", "train-5"]

/-- A measurement. -/
def pilotRow (token : ℕ) (latencyS ttftS : ℚ) (requestId : String) : CaseRow where
  requestId := requestId
  matchesUninterruptedReference := true
  timedJitWarnings := []
  generatedTokens := 256
  finishReason := "length"
  ackFrozenPrefixSha256 := prefixDigests.getD token ""
  ackInstallMode := "host_token_handoff_excluding_gpu_prefill"
  latencyS := latencyS
  ttftS := ttftS

/-- A group with three transitions, and three measurements of each training workload. -/
def pilotCandidate (group : List ℤ) (latencyS ttftS : ℚ) (readyMs : ℤ) : CalibratedCandidate where
  physicalGpuIndices := group
  tp := group.length
  runtime := profileRuntimeFields.map (fun field => (field, .str "x")) ++
    [("tp", .int group.length), ("execution", .dict [
      ("physical_gpu_indices", .list (group.map .int)), ("model_revision", .str "r1")])]
  runtimeSignature := pilotSignature group.length
  readySamples := ["a", "b", "c"].map fun artifact =>
    ⟨artifact, pilotSignature group.length, .int readyMs, .int 0⟩
  cases := pilotTraining.zipIdx.foldl (fun cases training => cases.set training.1
    (["a", "b", "c"].map (pilotRow training.2 latencyS ttftS))) .empty

/-- One GPU, ready after 2 s, with the given time to the first token of 1.5 s in all; and two GPUs,
ready after 0.6 s, with half a second of 3 s. -/
def pilotCalibration (ttftS : ℚ) : CalibrationData where
  status := some "passed"
  scope := some "independent_prior_calibration_not_formal_runs"
  protocol := [("revision", .str "r1"), ("initial_prompt_tokens", .int 4096),
    ("source_output_tokens", .int 512), ("native_freeze_generated_tokens", .int 256),
    ("concurrency", .int 1)]
  protocolSha256 := some "d3e98a8608094ddc4227a318bd3ec2732fcda5d10ebf3accc9d69820d01f2b2a"
  sourceCases := pilotTraining.zipIdx.foldl (fun cases training => cases.set training.1
    (pilotCase training.1 training.2 4352 256)) .empty
  candidates := (OrderedDict.empty.set "gpu1" (pilotCandidate [1] (3 / 2) ttftS 2000)).set "gpu1_3"
    (pilotCandidate [1, 3] 3 (1 / 2) 600)

/-- A request of 460 completed tokens, for which both groups may be taken. -/
def pilotPlan (ttftS : ℚ) : Except RouteCostError RecoveryDecision :=
  planCalibratedRecovery pilotEnvironment (pilotCalibration ttftS) (pilotCase "held-out" 6 4556 460)
    "overall" false [1, 3] [] "routes"

/-- Both calibrations are accepted.  Where the first token came a second early, the one GPU would
complete in 1453.125 ms, and the two GPUs that are selected in 1623.4375 ms. -/
theorem pilotPlan_rows :
    (pilotPlan (1 / 2)).isOk = true ∧
      (pilotPlan (-1)).toOption.map (fun decision =>
        (decision.selectedCost.predictedCompletionMs,
          decision.candidates.map RecoveryRow.predictedCompletionMs)) =
        some (25975 / 16, [11625 / 8, 25975 / 16]) := by
  decide +kernel

theorem pilot_sizes (ttftS : ℚ) : ∀ candidate ∈ (pilotCalibration ttftS).candidates.values,
    candidate.tp = candidate.physicalGpuIndices.length := by
  intro candidate hcandidate
  rcases List.mem_cons.mp hcandidate with rfl | hcandidate
  · rfl
  · rw [List.mem_singleton.mp hcandidate]
    rfl

theorem selectsFirst_iff_pilot : ∃ decision, pilotPlan (1 / 2) = .ok decision ∧
    (decision.SelectsFirst ↔ ("overall" = "overall" →
      OverallOrderKept pilotEnvironment (pilotCalibration (1 / 2)) (pilotCase "held-out" 6 4556 460)
        false [1, 3] [] "routes")) := by
  cases hplan : pilotPlan (1 / 2) with
  | error e =>
    have hok := pilotPlan_rows.1
    rw [hplan] at hok
    exact absurd hok (by simp [Except.isOk, Except.toBool])
  | ok decision => exact ⟨decision, rfl, selectsFirst_iff (pilot_sizes _) hplan⟩

/-- A first token that came before its request: the planner reads the negative service as zero, and
takes the group that completes later. -/
theorem not_selectsFirst_pilot : ∃ decision, pilotPlan (-1) = .ok decision ∧
    (∀ candidate ∈ (pilotCalibration (-1)).candidates.values,
      candidate.tp = candidate.physicalGpuIndices.length) ∧
    ¬ decision.SelectsFirst := by
  obtain ⟨decision, hplan, hrows⟩ := Option.map_eq_some_iff.mp pilotPlan_rows.2
  obtain ⟨hselected, hcandidates⟩ := Prod.mk.inj hrows
  refine ⟨decision, of_toOption hplan, pilot_sizes _, fun h => ?_⟩
  have hmem : (11625 / 8 : ℚ) ∈ decision.candidates.map RecoveryRow.predictedCompletionMs := by
    rw [hcandidates]
    exact List.mem_cons_self
  obtain ⟨row, hrow, hcompletion⟩ := List.mem_map.mp hmem
  have hle := h.2 row hrow
  rw [hselected, hcompletion] at hle
  norm_num at hle

end Reparallelization
end SpotServe
