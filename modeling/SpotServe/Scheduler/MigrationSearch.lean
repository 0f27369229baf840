import Mathlib.Data.List.Sublists
import SpotServe.Scheduler.MigrationPlans

/-!
# What the search for migration plans finds

A selection of instances is a sublist of the migratable ones.  Moving them one after another, each
to its target in the store table its predecessors leave, gives a plan and its latency (`evaluate`).
`CompleteAndOptimal` says that the search returns a cheapest plan among the selections that free
enough, and none only if there is no such selection.

The cells of the first row other than `dp[0][0]` have no store table, and looking for a target in
one of them raises, which ends the search.  So an instance of fewer GPUs than the shortage ends it:
the row of that instance looks at such a cell.  An instance of more GPUs is never looked at.

* `evaluate_spec`, `exists_evaluate_iff`: what moving a selection takes, and when it is possible.
* `RunsThrough`, `exists_fillTable_iff`: when the table is filled without an exception.
* `Filled`, `Filled.nextRow`: the rows of a table, where only the first and the last cell count.
* `completeAndOptimal_iff`: when the search is complete and optimal.
* `plans_of_getMigrationPlans`: a plan moves one instance only, the first of the cheapest.
-/

namespace SpotServe
namespace Scheduler
namespace StorageAware

open Py Runs Selection

/-! ## Selections -/

/-- The plan that moves these instances one after another. -/
def evaluate (tables : MigrationTables) (sourceNodeId : String) (selection : List InstanceStatus) :
    Except LoopError Cell :=
  selection.foldlM (extend tables sourceNodeId) (start tables)

/-- The GPUs the instances hold. -/
def freed (selection : List InstanceStatus) : ℕ := (selection.map InstanceStatus.numGpu).sum

/-- A selection that frees at least `gpuShortage` GPUs, with a target for each instance, and its
plan. -/
structure Frees (tables : MigrationTables) (sourceNodeId : String) (gpuShortage : ℚ)
    (instances selection : List InstanceStatus) (plan : Cell) : Prop where
  sublist : selection.Sublist instances
  evaluate : evaluate tables sourceNodeId selection = .ok plan
  enough : gpuShortage ≤ freed selection

/-- **The search returns a cheapest plan that frees enough**, and none only if there is none. -/
def CompleteAndOptimal (tables : MigrationTables) (sourceNodeId : String) (gpuShortage : ℚ)
    (instances : List InstanceStatus) : Prop :=
  match getMigrationPlans tables sourceNodeId gpuShortage instances with
  | none => ¬ ∃ selection plan, Frees tables sourceNodeId gpuShortage instances selection plan
  | some plan =>
    (∃ selection, Frees tables sourceNodeId gpuShortage instances selection plan) ∧
      ∀ selection plan', Frees tables sourceNodeId gpuShortage instances selection plan' →
        plan.totalLatency ≤ plan'.totalLatency

/-- An instance has a target before anything is planned. -/
def HasTarget (tables : MigrationTables) (sourceNodeId : String)
    (currentInstance : InstanceStatus) : Prop :=
  (cost tables sourceNodeId currentInstance).isSome

instance hasTargetDecidable (tables : MigrationTables) (sourceNodeId : String) :
    DecidablePred (HasTarget tables sourceNodeId) :=
  fun _ => inferInstanceAs (Decidable (_ = true))

@[simp] theorem freed_nil : freed [] = 0 := rfl

@[simp] theorem freed_cons (currentInstance : InstanceStatus) (selection : List InstanceStatus) :
    freed (currentInstance :: selection) = currentInstance.numGpu + freed selection :=
  List.sum_cons

@[simp] theorem freed_append (done rest : List InstanceStatus) :
    freed (done ++ rest) = freed done + freed rest := by
  simp [freed]

theorem freed_le_of_sublist {selection instances : List InstanceStatus}
    (h : selection.Sublist instances) : freed selection ≤ freed instances :=
  (h.map _).sum_le_sum fun _ _ => Nat.zero_le _

/-- What a plan says about its selection. -/
structure PlanOf (tables : MigrationTables) (sourceNodeId : String)
    (selection : List InstanceStatus) (plan : Cell) : Prop where
  reached : plan.Reached tables
  evictedGPUs : plan.evictedGPUs = freed selection
  alone_le : ∀ i ∈ selection, ∃ alone, cost tables sourceNodeId i = some alone ∧
    (alone : WithTop ℚ) ≤ plan.totalLatency

/-- One instance more. -/
theorem PlanOf.extend {tables : MeasuredTables} {sourceNodeId : String}
    {selection : List InstanceStatus} {plan plan' : Cell} {currentInstance : InstanceStatus}
    (h : PlanOf tables sourceNodeId selection plan)
    (hextend : extend tables sourceNodeId plan currentInstance = .ok plan') :
    PlanOf tables sourceNodeId (selection ++ [currentInstance]) plan' := by
  obtain ⟨hreached, hevicted, hmore, halone⟩ := extend_spec h.reached hextend
  refine ⟨hreached, ?_, ?_⟩
  · rw [hevicted, h.evictedGPUs, freed_append, freed_cons, freed_nil, add_zero]
  · intro i hi
    rcases List.mem_append.mp hi with hi | hi
    · obtain ⟨alone, hcost, hle⟩ := h.alone_le i hi
      exact ⟨alone, hcost, hle.trans hmore⟩
    · rw [List.mem_singleton.mp hi]
      exact halone

theorem planOf_start (tables : MigrationTables) (sourceNodeId : String) :
    PlanOf tables sourceNodeId [] (start tables) :=
  ⟨reached_start tables, rfl, fun _ hi => absurd hi (by simp)⟩

theorem evaluate_spec {tables : MeasuredTables} {sourceNodeId : String}
    {selection : List InstanceStatus} {plan : Cell}
    (h : evaluate tables sourceNodeId selection = .ok plan) :
    PlanOf tables sourceNodeId selection plan :=
  foldlM_of_ok (PlanOf tables sourceNodeId) (fun _ _ _ _ _ _ hinv hstep => hinv.extend hstep)
    (planOf_start tables sourceNodeId) h

/-- **A selection can be moved** exactly when each of its instances has a target. -/
theorem exists_evaluate_iff (tables : MeasuredTables) (sourceNodeId : String)
    (selection : List InstanceStatus) :
    (∃ plan, evaluate tables sourceNodeId selection = .ok plan) ↔
      ∀ i ∈ selection, HasTarget tables sourceNodeId i := by
  constructor
  · rintro ⟨plan, hplan⟩ i hi
    obtain ⟨alone, hcost, -⟩ := (evaluate_spec hplan).alone_le i hi
    exact Option.isSome_iff_exists.mpr ⟨alone, hcost⟩
  · intro htargets
    have hstep : ∀ done i rest plan, selection = done ++ i :: rest →
        PlanOf tables sourceNodeId done plan →
        ∃ plan', extend tables sourceNodeId plan i = .ok plan' ∧
          PlanOf tables sourceNodeId (done ++ [i]) plan' := by
      intro done i rest plan hwhole hinv
      have hi : i ∈ selection := hwhole ▸ List.mem_append_right _ List.mem_cons_self
      obtain ⟨plan', hextend⟩ := (exists_extend_iff hinv.reached i).mpr (htargets i hi)
      exact ⟨plan', hextend, hinv.extend hextend⟩
    obtain ⟨plan, hplan, -⟩ := foldlM_inv _ hstep (planOf_start tables sourceNodeId)
    exact ⟨plan, hplan⟩

/-- The instances with a target can all be moved, and no selection frees more. -/
theorem exists_frees_iff (tables : MeasuredTables) (sourceNodeId : String) (gpuShortage : ℚ)
    (instances : List InstanceStatus) :
    (∃ selection plan, Frees tables sourceNodeId gpuShortage instances selection plan) ↔
      gpuShortage ≤ freed (instances.filter (HasTarget tables sourceNodeId)) := by
  constructor
  · rintro ⟨selection, plan, hfrees⟩
    have htargets := (exists_evaluate_iff tables sourceNodeId selection).mp ⟨plan, hfrees.evaluate⟩
    have hsublist : selection.Sublist (instances.filter (HasTarget tables sourceNodeId)) := by
      have hself : selection.filter (HasTarget tables sourceNodeId) = selection :=
        List.filter_eq_self.mpr fun i hi => decide_eq_true (htargets i hi)
      exact hself ▸ hfrees.sublist.filter _
    exact hfrees.enough.trans (Nat.cast_le.mpr (freed_le_of_sublist hsublist))
  · intro henough
    obtain ⟨plan, hplan⟩ := (exists_evaluate_iff tables sourceNodeId
      (instances.filter (HasTarget tables sourceNodeId))).mpr fun i hi =>
        of_decide_eq_true (List.mem_filter.mp hi).2
    exact ⟨_, plan, List.filter_sublist, hplan, henough⟩

/-! ## One row of the table -/

section Row

variable {tables : MeasuredTables} {sourceNodeId : String} {gpuShortage : ℕ}
  {done : List InstanceStatus} {prev row : List Cell} {currentInstance : InstanceStatus}

/-- The instances of `gpuShortage` GPUs that have a target, with the latencies of moving them
alone. -/
def offers (tables : MigrationTables) (sourceNodeId : String) (gpuShortage : ℕ)
    (instances : List InstanceStatus) : List (InstanceStatus × ℚ) :=
  (instances.filter fun i => i.numGpu = gpuShortage).filterMap fun i =>
    (cost tables sourceNodeId i).map (Prod.mk i)

/-- The first of the cheapest of them. -/
def cheapest (tables : MigrationTables) (sourceNodeId : String) (gpuShortage : ℕ)
    (instances : List InstanceStatus) : Option (InstanceStatus × ℚ) :=
  best Prod.snd (offers tables sourceNodeId gpuShortage instances)

/-- The cell holds the plan of one instance of `gpuShortage` GPUs, the first of the cheapest. -/
def CheapestAlone (tables : MigrationTables) (sourceNodeId : String) (gpuShortage : ℕ)
    (done : List InstanceStatus) (cell : Cell) : Prop :=
  ∃ i alone, cheapest tables sourceNodeId gpuShortage done = some (i, alone) ∧
    extend tables sourceNodeId (start tables) i = .ok cell

/-- The row after the instances `done`.  Only its first and its last cell may be reached. -/
structure Filled (tables : MigrationTables) (sourceNodeId : String) (gpuShortage : ℕ)
    (done : List InstanceStatus) (row : List Cell) : Prop where
  length : row.length = gpuShortage + 1
  first : row.getD 0 {} = start tables
  between : ∀ j, 0 < j → j < gpuShortage → row.getD j {} = {}
  last : (∀ i ∈ done, i.numGpu ≠ gpuShortage) ∧ row.getD gpuShortage {} = {} ∨
    CheapestAlone tables sourceNodeId gpuShortage done (row.getD gpuShortage {})

/-- The row of this instance is filled without an exception: its cells are not looked at, or it has
a target and the only cell looked at is the first, or the only other one has been reached. -/
def StepsThrough (tables : MigrationTables) (sourceNodeId : String) (gpuShortage : ℕ)
    (done : List InstanceStatus) (currentInstance : InstanceStatus) : Prop :=
  gpuShortage < currentInstance.numGpu ∨
    HasTarget tables sourceNodeId currentInstance ∧
      (currentInstance.numGpu = gpuShortage ∨
        gpuShortage = 1 ∧ currentInstance.numGpu = 0 ∧ ∃ i ∈ done, i.numGpu = gpuShortage)

/-- The cells of the next row, one by one. -/
theorem of_nextRow_ok (h : nextRow tables sourceNodeId gpuShortage prev currentInstance = .ok row) :
    row.length = gpuShortage + 1 ∧ ∀ j ≤ gpuShortage,
      nextCell tables sourceNodeId prev currentInstance j = .ok (row.getD j {}) := by
  have hall := forall₂_of_mapM_ok h
  have hlength : row.length = gpuShortage + 1 := by rw [← hall.length_eq, List.length_range]
  refine ⟨hlength, fun j hj => ?_⟩
  have hrange : j < (List.range (gpuShortage + 1)).length := by
    rw [List.length_range]
    omega
  have hrow : j < row.length := by omega
  have hcell := hall.get hrange hrow
  rw [List.get_eq_getElem, List.getElem_range] at hcell
  rw [List.getD_eq_getElem _ _ hrow]
  exact hcell

theorem mem_offers {instances : List InstanceStatus} {i : InstanceStatus} {alone : ℚ} :
    (i, alone) ∈ offers tables sourceNodeId gpuShortage instances ↔
      i ∈ instances ∧ i.numGpu = gpuShortage ∧ cost tables sourceNodeId i = some alone := by
  unfold offers
  rw [List.mem_filterMap]
  constructor
  · rintro ⟨k, hk, hoffer⟩
    obtain ⟨alone', hcost, hpair⟩ := Option.map_eq_some_iff.mp hoffer
    obtain ⟨rfl, rfl⟩ := Prod.mk.inj hpair
    obtain ⟨hmem, hgpus⟩ := List.mem_filter.mp hk
    exact ⟨hmem, of_decide_eq_true hgpus, hcost⟩
  · rintro ⟨hmem, hgpus, hcost⟩
    exact ⟨i, List.mem_filter.mpr ⟨hmem, decide_eq_true hgpus⟩, by rw [hcost, Option.map_some]⟩

theorem cheapest_append_of_ne (hne : currentInstance.numGpu ≠ gpuShortage) :
    cheapest tables sourceNodeId gpuShortage (done ++ [currentInstance]) =
      cheapest tables sourceNodeId gpuShortage done := by
  simp [cheapest, offers, hne]

theorem cheapest_append_of_eq (heq : currentInstance.numGpu = gpuShortage) {alone : ℚ}
    (hcost : cost tables sourceNodeId currentInstance = some alone) :
    cheapest tables sourceNodeId gpuShortage (done ++ [currentInstance]) =
      keepLess Prod.snd (cheapest tables sourceNodeId gpuShortage done)
        (some (currentInstance, alone)) := by
  have happend : offers tables sourceNodeId gpuShortage (done ++ [currentInstance]) =
      offers tables sourceNodeId gpuShortage done ++ [(currentInstance, alone)] := by
    simp [offers, heq, hcost]
  rw [cheapest, happend, best_concat]
  rfl

/-- No instance of the size is cheaper. -/
theorem CheapestAlone.spec {cell : Cell}
    (h : CheapestAlone tables sourceNodeId gpuShortage done cell) :
    ∃ i ∈ done, i.numGpu = gpuShortage ∧ extend tables sourceNodeId (start tables) i = .ok cell ∧
      ∀ k ∈ done, k.numGpu = gpuShortage → ∀ alone, cost tables sourceNodeId k = some alone →
        cell.totalLatency ≤ (alone : WithTop ℚ) := by
  obtain ⟨i, alone, hcheapest, hextend⟩ := h
  obtain ⟨hi, hgpus, hcost⟩ := mem_offers.mp (mem_of_best hcheapest)
  obtain ⟨alone', hcost', hlatency⟩ := extend_start hextend
  obtain rfl := Option.some.inj (hcost.symm.trans hcost')
  refine ⟨i, hi, hgpus, hextend, fun k hk hkgpus other hother => ?_⟩
  rw [hlatency]
  exact WithTop.coe_le_coe.mpr (key_le_of_best hcheapest (mem_offers.mpr ⟨hk, hkgpus, hother⟩))

theorem CheapestAlone.reached {cell : Cell}
    (h : CheapestAlone tables sourceNodeId gpuShortage done cell) : cell.Reached tables := by
  obtain ⟨i, -, -, hextend⟩ := h
  exact (extend_spec (reached_start tables) hextend).1

/-- An instance of another size leaves the choice as it is. -/
theorem CheapestAlone.append_of_ne {cell : Cell}
    (h : CheapestAlone tables sourceNodeId gpuShortage done cell)
    (hne : currentInstance.numGpu ≠ gpuShortage) :
    CheapestAlone tables sourceNodeId gpuShortage (done ++ [currentInstance]) cell := by
  obtain ⟨i, alone, hcheapest, hextend⟩ := h
  exact ⟨i, alone, (cheapest_append_of_ne hne).trans hcheapest, hextend⟩

/-- An instance of another size, whose row is the one before. -/
theorem Filled.append_of_ne (h : Filled tables sourceNodeId gpuShortage done prev)
    (hne : currentInstance.numGpu ≠ gpuShortage) (hlength : row.length = gpuShortage + 1)
    (hsame : ∀ j ≤ gpuShortage, row.getD j {} = prev.getD j {}) :
    Filled tables sourceNodeId gpuShortage (done ++ [currentInstance]) row where
  length := hlength
  first := (hsame 0 (Nat.zero_le _)).trans h.first
  between j hpos hj := (hsame j hj.le).trans (h.between j hpos hj)
  last := by
    rw [hsame gpuShortage le_rfl]
    rcases h.last with ⟨hnone, hlast⟩ | hcheapest
    · refine Or.inl ⟨fun i hi => ?_, hlast⟩
      rcases List.mem_append.mp hi with hi | hi
      · exact hnone i hi
      · rwa [List.mem_singleton.mp hi]
    · exact Or.inr (hcheapest.append_of_ne hne)

/-- A reached cell is kept by an instance without GPUs. -/
theorem kept_of_reached {j : ℕ} {cell : Cell} (hzero : currentInstance.numGpu = 0)
    (hreached : (prev.getD j {}).Reached tables)
    (hcell : nextCell tables sourceNodeId prev currentInstance j = .ok cell) :
    cell = prev.getD j {} := by
  obtain ⟨taken, htaken, rfl⟩ := of_nextCell_ok (hzero ▸ Nat.zero_le j) hcell
  rw [hzero, Nat.sub_zero] at htaken
  exact if_neg (not_lt.mpr (extend_spec hreached htaken).2.2.1)

/-- The last cell, after an instance of as many GPUs as the shortage. -/
theorem Filled.last_of_eq (h : Filled tables sourceNodeId gpuShortage done prev) {cell : Cell}
    (heq : currentInstance.numGpu = gpuShortage)
    (hcell : nextCell tables sourceNodeId prev currentInstance gpuShortage = .ok cell) :
    CheapestAlone tables sourceNodeId gpuShortage (done ++ [currentInstance]) cell := by
  obtain ⟨taken, htaken, rfl⟩ := of_nextCell_ok heq.le hcell
  rw [heq, Nat.sub_self, h.first] at htaken
  obtain ⟨alone, hcost, hlatency⟩ := extend_start htaken
  have hchoice : cheapest tables sourceNodeId gpuShortage (done ++ [currentInstance]) = _ :=
    cheapest_append_of_eq heq hcost
  rcases h.last with ⟨hnone, hlast⟩ | ⟨i, alone', hcheapest, hextend⟩
  · have hless : taken.totalLatency < (prev.getD gpuShortage {}).totalLatency := by
      rw [hlast, hlatency]
      exact WithTop.coe_lt_top alone
    have hempty : cheapest tables sourceNodeId gpuShortage done = none := by
      refine best_eq_none_iff.mpr (List.eq_nil_iff_forall_not_mem.mpr fun offer hoffer => ?_)
      obtain ⟨hmem, hgpus, -⟩ := mem_offers.mp hoffer
      exact hnone _ hmem hgpus
    rw [if_pos hless]
    rw [hempty, keepLess_none_left] at hchoice
    exact ⟨currentInstance, alone, hchoice, htaken⟩
  · have hcost' := (mem_offers.mp (mem_of_best hcheapest)).2.2
    obtain ⟨first, hfirst, hlatency'⟩ := extend_start hextend
    obtain rfl := Option.some.inj (hcost'.symm.trans hfirst)
    rw [hcheapest, keepLess] at hchoice
    have hlt : taken.totalLatency < (prev.getD gpuShortage {}).totalLatency ↔ alone < alone' := by
      rw [hlatency, hlatency', WithTop.coe_lt_coe]
    split_ifs with hless
    · exact ⟨currentInstance, alone, hchoice.trans (if_pos (hlt.mp hless)), htaken⟩
    · exact ⟨i, alone', hchoice.trans (if_neg fun h => hless (hlt.mpr h)), hextend⟩

/-- **A row that is filled steps through**: it looks at no cell that was not reached. -/
theorem Filled.stepsThrough (h : Filled tables sourceNodeId gpuShortage done prev)
    (hrow : nextRow tables sourceNodeId gpuShortage prev currentInstance = .ok row) :
    StepsThrough tables sourceNodeId gpuShortage done currentInstance := by
  obtain ⟨-, hcells⟩ := of_nextRow_ok hrow
  rcases lt_or_ge gpuShortage currentInstance.numGpu with hlt | hle
  · exact Or.inl hlt
  -- its own cell takes it from the first one
  obtain ⟨taken, htaken, -⟩ := of_nextCell_ok le_rfl (hcells _ hle)
  rw [Nat.sub_self, h.first] at htaken
  refine Or.inr ⟨(exists_extend_iff (reached_start tables) _).mp ⟨taken, htaken⟩, ?_⟩
  rcases hle.eq_or_lt with heq | hlt
  · exact Or.inl heq
  -- the cell after it takes it from the second one, which must have been reached
  obtain ⟨taken', htaken', -⟩ := of_nextCell_ok (Nat.le_succ _) (hcells _ hlt)
  have hsecond : currentInstance.numGpu.succ - currentInstance.numGpu = 1 := by omega
  rw [hsecond] at htaken'
  have hlooked : ¬ prev.getD 1 {} = {} := by
    intro hunreached
    obtain ⟨e, he⟩ := extend_unreached tables sourceNodeId currentInstance
    rw [hunreached, he] at htaken'
    exact absurd htaken' (by simp)
  obtain rfl : gpuShortage = 1 := by
    by_contra hne
    exact hlooked (h.between 1 one_pos (by omega))
  rcases h.last with ⟨-, hlast⟩ | hcheapest
  · exact absurd hlast hlooked
  obtain ⟨i, hi, hgpus, -⟩ := hcheapest.spec
  exact Or.inr ⟨rfl, by omega, i, hi, hgpus⟩

/-- For a shortage of one GPU both cells are reached once an instance of one GPU was there. -/
theorem Filled.reached_of_one (h : Filled tables sourceNodeId 1 done prev) {i : InstanceStatus}
    (hi : i ∈ done) (hgpus : i.numGpu = 1) {j : ℕ} (hj : j ≤ 1) :
    (prev.getD j {}).Reached tables := by
  obtain rfl | rfl : j = 0 ∨ j = 1 := by omega
  · rw [h.first]
    exact reached_start tables
  · rcases h.last with ⟨hnone, -⟩ | hcheapest
    · exact absurd hgpus (hnone i hi)
    · exact hcheapest.reached

/-- **The next row of a filled row** is filled. -/
theorem Filled.nextRow (h : Filled tables sourceNodeId gpuShortage done prev)
    (hpos : 1 ≤ gpuShortage)
    (hrow : nextRow tables sourceNodeId gpuShortage prev currentInstance = .ok row) :
    Filled tables sourceNodeId gpuShortage (done ++ [currentInstance]) row := by
  obtain ⟨hlength, hcells⟩ := of_nextRow_ok hrow
  have hskipped : ∀ j ≤ gpuShortage, j < currentInstance.numGpu →
      row.getD j {} = prev.getD j {} := by
    intro j hj hlt
    exact (Except.ok.inj ((nextCell_of_lt hlt).symm.trans (hcells j hj))).symm
  rcases h.stepsThrough hrow with hlt | ⟨-, heq | ⟨rfl, hzero, i, hi, hgpus⟩⟩
  · exact h.append_of_ne hlt.ne' hlength fun j hj => hskipped j hj (by omega)
  · refine ⟨hlength, ?_, fun j hj hlt => ?_, Or.inr (h.last_of_eq heq (hcells _ le_rfl))⟩
    · exact (hskipped 0 (Nat.zero_le _) (by omega)).trans h.first
    · exact (hskipped j hlt.le (by omega)).trans (h.between j hj hlt)
  · refine h.append_of_ne (by omega) hlength fun j hj => ?_
    exact kept_of_reached hzero (h.reached_of_one hi hgpus hj) (hcells j hj)

/-- An instance that steps through has its row. -/
theorem Filled.exists_nextRow (h : Filled tables sourceNodeId gpuShortage done prev)
    (hsteps : StepsThrough tables sourceNodeId gpuShortage done currentInstance) :
    ∃ row, StorageAware.nextRow tables sourceNodeId gpuShortage prev currentInstance = .ok row := by
  have hcells : ∀ j ∈ List.range (gpuShortage + 1), ∃ cell,
      nextCell tables sourceNodeId prev currentInstance j = .ok cell ∧ True := by
    intro j hj
    rw [List.mem_range] at hj
    rcases lt_or_ge j currentInstance.numGpu with hlt | hle
    · exact ⟨_, nextCell_of_lt hlt, trivial⟩
    have hreached : HasTarget tables sourceNodeId currentInstance ∧
        (prev.getD (j - currentInstance.numGpu) {}).Reached tables := by
      rcases hsteps with hlarge | ⟨htarget, heq | ⟨rfl, hzero, i, hi, hgpus⟩⟩
      · omega
      · refine ⟨htarget, ?_⟩
        have hj' : j - currentInstance.numGpu = 0 := by omega
        rw [hj', h.first]
        exact reached_start tables
      · exact ⟨htarget, h.reached_of_one hi hgpus (by omega)⟩
    obtain ⟨taken, htaken⟩ := (exists_extend_iff hreached.2 _).mpr hreached.1
    exact ⟨_, nextCell_of_extend hle htaken, trivial⟩
  obtain ⟨row, hrow, -⟩ := mapM_ok hcells
  exact ⟨row, hrow⟩

end Row

/-! ## The table -/

/-- The table is filled without an exception: every row is. -/
def RunsThrough (tables : MigrationTables) (sourceNodeId : String) (gpuShortage : ℕ)
    (instances : List InstanceStatus) : Prop :=
  ∀ done i rest, instances = done ++ i :: rest →
    StepsThrough tables sourceNodeId gpuShortage done i

section Table

variable {tables : MeasuredTables} {sourceNodeId : String} {gpuShortage : ℕ}
  {instances : List InstanceStatus}

theorem runsThrough_append {done : List InstanceStatus} {i : InstanceStatus}
    (hdone : RunsThrough tables sourceNodeId gpuShortage done)
    (hi : StepsThrough tables sourceNodeId gpuShortage done i) :
    RunsThrough tables sourceNodeId gpuShortage (done ++ [i]) := by
  intro done' i' rest hsplit
  rcases List.eq_nil_or_concat rest with rfl | ⟨rest, last, rfl⟩
  · obtain ⟨rfl, hlast⟩ := List.append_inj' hsplit rfl
    obtain rfl := (List.cons.inj hlast).1
    exact hi
  · have hsplit' : done ++ [i] = (done' ++ i' :: rest) ++ [last] := by
      rw [hsplit, List.concat_eq_append, List.append_assoc, List.cons_append]
    exact hdone done' i' rest (List.append_inj' hsplit' rfl).1

theorem filled_firstRow (tables : MeasuredTables) (sourceNodeId : String) (hpos : 1 ≤ gpuShortage) :
    Filled tables sourceNodeId gpuShortage [] (firstRow tables gpuShortage) := by
  have hcell : ∀ j, 0 < j → (firstRow tables gpuShortage).getD j {} = {} := by
    intro j hj
    obtain ⟨j, rfl⟩ := Nat.exists_eq_succ_of_ne_zero hj.ne'
    show (List.replicate gpuShortage ({} : Cell)).getD j {} = {}
    rw [List.getD_eq_getElem?_getD, List.getElem?_replicate]
    split_ifs <;> rfl
  refine ⟨?_, rfl, fun j hj _ => hcell j hj, Or.inl ⟨fun i hi => absurd hi (by simp), hcell _ hpos⟩⟩
  rw [firstRow, List.length_cons, List.length_replicate]

theorem fillTable_ok (hpos : 1 ≤ gpuShortage) {row : List Cell}
    (h : fillTable tables sourceNodeId gpuShortage instances = .ok row) :
    RunsThrough tables sourceNodeId gpuShortage instances ∧
      Filled tables sourceNodeId gpuShortage instances row := by
  refine foldlM_of_ok (fun done row => RunsThrough tables sourceNodeId gpuShortage done ∧
    Filled tables sourceNodeId gpuShortage done row) ?_ ⟨?_, filled_firstRow _ _ hpos⟩ h
  · rintro done i rest prev row - ⟨hruns, hfilled⟩ hrow
    exact ⟨runsThrough_append hruns (hfilled.stepsThrough hrow), hfilled.nextRow hpos hrow⟩
  · intro done i rest hsplit
    exact absurd hsplit (by simp)

/-- **The table is filled** exactly when every row is. -/
theorem exists_fillTable_iff (hpos : 1 ≤ gpuShortage) :
    (∃ row, fillTable tables sourceNodeId gpuShortage instances = .ok row) ↔
      RunsThrough tables sourceNodeId gpuShortage instances := by
  constructor
  · rintro ⟨row, hrow⟩
    exact (fillTable_ok hpos hrow).1
  · intro hruns
    have hstep : ∀ done i rest prev, instances = done ++ i :: rest →
        Filled tables sourceNodeId gpuShortage done prev →
        ∃ row, nextRow tables sourceNodeId gpuShortage prev i = .ok row ∧
          Filled tables sourceNodeId gpuShortage (done ++ [i]) row := by
      intro done i rest prev hsplit hfilled
      obtain ⟨row, hrow⟩ := hfilled.exists_nextRow (hruns done i rest hsplit)
      exact ⟨row, hrow, hfilled.nextRow hpos hrow⟩
    obtain ⟨row, hrow, -⟩ := foldlM_inv _ hstep (filled_firstRow tables sourceNodeId hpos)
    exact ⟨row, hrow⟩

/-- Cells that free too little, or were not reached, are not chosen. -/
theorem foldl_optimalPlans_none {cells : List Cell}
    (h : ∀ cell ∈ cells, ¬ (cell.totalLatency < ⊤ ∧ gpuShortage ≤ cell.evictedGPUs)) :
    optimalPlans gpuShortage cells = none := by
  unfold optimalPlans
  induction cells with
  | nil => rfl
  | cons cell cells ih =>
    rw [List.foldl_cons, Option.elim_none, if_neg (h cell List.mem_cons_self)]
    exact ih fun cell' hcell' => h cell' (List.mem_cons_of_mem cell hcell')

/-- Of a filled row the last cell is chosen, if it was reached. -/
theorem Filled.optimalPlans_eq {row : List Cell} (hpos : 1 ≤ gpuShortage)
    (h : Filled tables sourceNodeId gpuShortage instances row) :
    optimalPlans gpuShortage row =
      if (row.getD gpuShortage {}).totalLatency < ⊤ ∧
          gpuShortage ≤ (row.getD gpuShortage {}).evictedGPUs then
        some (row.getD gpuShortage {})
      else none := by
  have hlast : gpuShortage < row.length := by
    rw [h.length]
    omega
  have hsplit : row = row.take gpuShortage ++ [row.getD gpuShortage {}] := by
    rw [List.getD_eq_getElem _ _ hlast, List.take_append_getElem, ← h.length, List.take_length]
  have hinit : optimalPlans gpuShortage (row.take gpuShortage) = none := by
    refine foldl_optimalPlans_none fun cell hcell => ?_
    obtain ⟨j, hj, rfl⟩ := List.mem_iff_getElem.mp hcell
    rw [List.length_take] at hj
    rw [List.getElem_take, ← List.getD_eq_getElem _ {} (by omega)]
    rcases Nat.eq_zero_or_pos j with rfl | hjpos
    · rw [h.first]
      rintro ⟨-, hevicted⟩
      exact absurd hevicted (by simp only [start]; omega)
    · rw [h.between j hjpos (by omega)]
      rintro ⟨hlatency, -⟩
      exact absurd hlatency (lt_irrefl _)
  unfold optimalPlans at hinit ⊢
  conv_lhs => rw [hsplit]
  rw [List.foldl_append, hinit]
  rfl

/-- The search finds a plan when it runs through and an instance has as many GPUs as the
shortage. -/
def FindsPlan (tables : MigrationTables) (sourceNodeId : String) (gpuShortage : ℕ)
    (instances : List InstanceStatus) : Prop :=
  RunsThrough tables sourceNodeId gpuShortage instances ∧
    ∃ i ∈ instances, i.numGpu = gpuShortage

/-- **What the search returns.** -/
theorem getMigrationPlans_spec (tables : MeasuredTables) (sourceNodeId : String) {shortage : ℚ}
    (hshortage : 1 ≤ shortage) (instances : List InstanceStatus) :
    ¬ FindsPlan tables sourceNodeId ⌊shortage⌋₊ instances ∧
        getMigrationPlans tables sourceNodeId shortage instances = none ∨
      FindsPlan tables sourceNodeId ⌊shortage⌋₊ instances ∧
        ∃ plan, getMigrationPlans tables sourceNodeId shortage instances = some plan ∧
          CheapestAlone tables sourceNodeId ⌊shortage⌋₊ instances plan := by
  have hpos : 1 ≤ ⌊shortage⌋₊ := Nat.le_floor (by simpa using hshortage)
  unfold getMigrationPlans
  by_cases hempty : instances = []
  · subst hempty
    refine Or.inl ⟨?_, rfl⟩
    rintro ⟨-, i, hi, -⟩
    exact absurd hi (by simp)
  rw [if_neg hempty, if_neg (by linarith)]
  dsimp only
  cases hfill : fillTable tables sourceNodeId ⌊shortage⌋₊ instances with
  | error e =>
    refine Or.inl ⟨?_, rfl⟩
    rintro ⟨hruns, -⟩
    obtain ⟨row, hrow⟩ := (exists_fillTable_iff hpos).mpr hruns
    rw [hfill] at hrow
    exact absurd hrow (by simp)
  | ok row =>
    obtain ⟨hruns, hfilled⟩ := fillTable_ok hpos hfill
    dsimp only
    rw [hfilled.optimalPlans_eq hpos]
    rcases hfilled.last with ⟨hnone, hlast⟩ | hcheapest
    · rw [hlast, if_neg fun h => absurd h.1 (lt_irrefl _)]
      refine Or.inl ⟨?_, rfl⟩
      rintro ⟨-, i, hi, hgpus⟩
      exact hnone i hi hgpus
    · obtain ⟨i, hi, hgpus, hextend, -⟩ := hcheapest.spec
      obtain ⟨alone, -, hlatency⟩ := extend_start hextend
      obtain ⟨-, hevicted, -⟩ := extend_spec (reached_start _) hextend
      rw [if_pos ⟨hlatency ▸ WithTop.coe_lt_top alone, by omega⟩]
      exact Or.inr ⟨⟨hruns, i, hi, hgpus⟩, _, rfl, hcheapest⟩

/-! ## When the search is complete and optimal -/

/-- If the search finds a plan, the shortage is a whole number and one of the instances with exactly
that many GPUs is as cheap as every larger instance that has a target.  If it finds none, the
instances that have a target free too little together. -/
def MeetsShortage (tables : MigrationTables) (sourceNodeId : String) (shortage : ℚ)
    (instances : List InstanceStatus) : Prop :=
  (FindsPlan tables sourceNodeId ⌊shortage⌋₊ instances →
    (⌊shortage⌋₊ : ℚ) = shortage ∧
      ∃ i ∈ instances, i.numGpu = ⌊shortage⌋₊ ∧
        ∃ alone, cost tables sourceNodeId i = some alone ∧
          ∀ k ∈ instances, ⌊shortage⌋₊ < k.numGpu →
            ∀ larger, cost tables sourceNodeId k = some larger → alone ≤ larger) ∧
  (¬ FindsPlan tables sourceNodeId ⌊shortage⌋₊ instances →
    (freed (instances.filter (HasTarget tables sourceNodeId)) : ℚ) < shortage)

/-- The plan of one instance. -/
theorem frees_singleton {i : InstanceStatus} {plan : Cell} {shortage : ℚ} (hi : i ∈ instances)
    (hextend : extend tables sourceNodeId (start tables) i = .ok plan)
    (henough : shortage ≤ i.numGpu) :
    Frees tables sourceNodeId shortage instances [i] plan where
  sublist := List.singleton_sublist.mpr hi
  evaluate := bind_ok hextend rfl
  enough := by rwa [freed_cons, freed_nil, add_zero]

/-- When the table is filled, a selection that frees enough has an instance that does. -/
theorem exists_large_of_frees (hruns : RunsThrough tables sourceNodeId gpuShortage instances)
    {selection : List InstanceStatus} {plan : Cell} {shortage : ℚ} (hshortage : 0 < shortage)
    (h : Frees tables sourceNodeId shortage instances selection plan) :
    ∃ k ∈ selection, gpuShortage ≤ k.numGpu := by
  by_contra hnone
  push Not at hnone
  have hzero : freed selection = 0 := by
    refine List.sum_eq_zero fun gpus hgpus => ?_
    obtain ⟨k, hk, rfl⟩ := List.mem_map.mp hgpus
    obtain ⟨done, rest, hsplit⟩ := List.append_of_mem (h.sublist.subset hk)
    have hsmall := hnone k hk
    rcases hruns done k rest hsplit with hlarge | ⟨-, heq | ⟨-, hzero, -⟩⟩
    · omega
    · omega
    · exact hzero
  have henough := h.enough
  rw [hzero, Nat.cast_zero] at henough
  exact absurd hshortage (not_lt.mpr henough)

/-- A chosen plan frees what it should when the shortage is a whole number, and is cheapest when no
larger instance is cheaper. -/
theorem chosen_optimal_iff {plan : Cell} {shortage : ℚ} (hshortage : 1 ≤ shortage)
    (hruns : RunsThrough tables sourceNodeId ⌊shortage⌋₊ instances)
    (hplan : CheapestAlone tables sourceNodeId ⌊shortage⌋₊ instances plan) :
    ((∃ selection, Frees tables sourceNodeId shortage instances selection plan) ∧
        ∀ selection plan', Frees tables sourceNodeId shortage instances selection plan' →
          plan.totalLatency ≤ plan'.totalLatency) ↔
      (⌊shortage⌋₊ : ℚ) = shortage ∧
        ∃ i ∈ instances, i.numGpu = ⌊shortage⌋₊ ∧
          ∃ alone, cost tables sourceNodeId i = some alone ∧
            ∀ k ∈ instances, ⌊shortage⌋₊ < k.numGpu →
              ∀ larger, cost tables sourceNodeId k = some larger → alone ≤ larger := by
  obtain ⟨i, hi, hgpus, hextend, hcheapest⟩ := hplan.spec
  obtain ⟨alone, hcost, hlatency⟩ := extend_start hextend
  constructor
  · rintro ⟨⟨selection, hfrees⟩, hoptimal⟩
    have hevicted : i.numGpu = freed selection := by
      have hplan := (extend_spec (reached_start _) hextend).2.1
      rw [(evaluate_spec hfrees.evaluate).evictedGPUs] at hplan
      rw [hplan]
      exact (zero_add _).symm
    have hwhole : (⌊shortage⌋₊ : ℚ) = shortage := by
      refine le_antisymm (Nat.floor_le (by linarith)) ?_
      rw [← hgpus, hevicted]
      exact hfrees.enough
    refine ⟨hwhole, i, hi, hgpus, alone, hcost, fun k hk hlarge larger hlarger => ?_⟩
    obtain ⟨plan', hextend'⟩ := (exists_extend_iff (reached_start _) k).mpr
      (Option.isSome_iff_exists.mpr ⟨larger, hlarger⟩)
    have hle := hoptimal [k] plan' (frees_singleton hk hextend'
      (hwhole ▸ Nat.cast_le.mpr hlarge.le))
    obtain ⟨larger', hlarger', hlatency'⟩ := extend_start hextend'
    rw [hlatency, hlatency', WithTop.coe_le_coe] at hle
    rwa [Option.some.inj (hlarger.symm.trans hlarger')]
  · rintro ⟨hwhole, i', hi', hgpus', alone', hcost', hlarger⟩
    refine ⟨⟨[i], frees_singleton hi hextend (by rw [hgpus, hwhole])⟩, ?_⟩
    intro selection plan' hfrees
    obtain ⟨k, hk, hlarge⟩ := exists_large_of_frees hruns (by linarith) hfrees
    obtain ⟨larger, hcostk, hle⟩ := (evaluate_spec hfrees.evaluate).alone_le k hk
    refine le_trans ?_ hle
    have hmem := hfrees.sublist.subset hk
    rcases hlarge.eq_or_lt with heq | hlt
    · exact hcheapest k hmem heq.symm larger hcostk
    · calc plan.totalLatency ≤ (alone' : WithTop ℚ) := hcheapest i' hi' hgpus' alone' hcost'
        _ ≤ (larger : WithTop ℚ) := WithTop.coe_le_coe.mpr (hlarger k hmem hlt larger hcostk)

/-- **The search is complete and optimal** exactly when it meets the shortage: no combination of
several instances is ever found, and no instance larger than the shortage. -/
theorem completeAndOptimal_iff (tables : MeasuredTables) (sourceNodeId : String) {shortage : ℚ}
    (hshortage : 1 ≤ shortage) (instances : List InstanceStatus) :
    CompleteAndOptimal tables sourceNodeId shortage instances ↔
      MeetsShortage tables sourceNodeId shortage instances := by
  unfold CompleteAndOptimal MeetsShortage
  rcases getMigrationPlans_spec tables sourceNodeId hshortage instances with
    ⟨hfinds, hplans⟩ | ⟨hfinds, plan, hplans, hchosen⟩
  · rw [hplans]
    dsimp only
    rw [exists_frees_iff, not_le]
    exact ⟨fun h => ⟨fun hfinds' => absurd hfinds' hfinds, fun _ => h⟩, fun h => h.2 hfinds⟩
  · rw [hplans]
    dsimp only
    rw [chosen_optimal_iff hshortage hfinds.1 hchosen]
    exact ⟨fun h => ⟨fun _ => h, fun hfinds' => absurd hfinds hfinds'⟩, fun h => h.1 hfinds⟩

/-- **A plan moves one instance**, the first of the cheapest of as many GPUs as the shortage, to
its target. -/
theorem plans_of_getMigrationPlans {shortage : ℚ} {plan : Cell} (hshortage : 1 ≤ shortage)
    (h : getMigrationPlans tables sourceNodeId shortage instances = some plan) :
    ∃ i alone target, cheapest tables sourceNodeId ⌊shortage⌋₊ instances = some (i, alone) ∧
      getMigrationTarget tables i.modelName i.numGpu sourceNodeId (some tables.storeInfo) =
        .ok (some target) ∧ plan.plans = [(target.1, i)] := by
  rcases getMigrationPlans_spec tables sourceNodeId hshortage instances with
    ⟨-, hnone⟩ | ⟨-, plan', hplan, i, alone, hcheapest, hextend⟩
  · rw [hnone] at h
    exact absurd h (by simp)
  · obtain rfl := Option.some.inj (hplan.symm.trans h)
    obtain ⟨target, htarget, rfl⟩ := of_extend_ok hextend
    exact ⟨i, alone, target, hcheapest, htarget, rfl⟩

/-- For less than one GPU nothing moves. -/
theorem plans_of_getMigrationPlans_of_lt_one {shortage : ℚ} {plan : Cell}
    (hshortage : shortage < 1)
    (h : getMigrationPlans tables sourceNodeId shortage instances = some plan) :
    plan.plans = [] := by
  have hfloor : ⌊shortage⌋₊ = 0 := Nat.floor_eq_zero.mpr hshortage
  unfold getMigrationPlans at h
  split_ifs at h
  rw [hfloor] at h
  dsimp only at h
  split at h
  · exact absurd h (by simp)
  case h_2 row hrow =>
  have hstart : row = [start tables] := by
    refine foldlM_of_ok (fun _ row => row = [start tables]) ?_ rfl hrow
    rintro done i rest prev row - rfl hnext
    obtain ⟨hlength, hcells⟩ := of_nextRow_ok hnext
    have hcell : row.getD 0 {} = start tables := by
      rcases Nat.eq_zero_or_pos i.numGpu with hzero | hlarge
      · exact kept_of_reached hzero (reached_start tables) (hcells 0 le_rfl)
      · exact (Except.ok.inj ((nextCell_of_lt hlarge).symm.trans (hcells 0 le_rfl))).symm
    obtain ⟨cell, rfl⟩ := List.length_eq_one_iff.mp hlength
    exact congrArg (fun cell => [cell]) hcell
  rw [hstart] at h
  simp only [optimalPlans, List.foldl_cons, List.foldl_nil] at h
  split_ifs at h
  rw [← Option.some.inj h]
  rfl

end Table

/-- A node without free GPUs and one with two, on which loading the model takes a second. -/
def twoNodes : MeasuredTables where
  workerNodes := ⟨[("full", ⟨.ready, 0, 2⟩), ("free", ⟨.ready, 2, 2⟩)], by decide⟩
  modelInfo := ⟨[("model", 1)], by decide⟩
  storeInfo := ⟨[("free", ⟨["model"], [], 0⟩)], by decide⟩
  hardwareInfo := ⟨[("free", ⟨1, 1⟩)], by decide⟩
  size_nonneg _ _ h := by
    have hmem := (OrderedDict.mem_entries_iff _).mpr h
    obtain ⟨-, rfl⟩ := Prod.mk.inj (List.mem_singleton.mp hmem)
    exact zero_le_one
  waitingTime_nonneg _ _ h := by
    have hmem := (OrderedDict.mem_entries_iff _).mpr h
    obtain ⟨-, rfl⟩ := Prod.mk.inj (List.mem_singleton.mp hmem)
    exact le_rfl
  bandwidth_nonneg _ _ h := by
    have hmem := (OrderedDict.mem_entries_iff _).mpr h
    obtain ⟨-, rfl⟩ := Prod.mk.inj (List.mem_singleton.mp hmem)
    exact ⟨zero_le_one, zero_le_one⟩

/-- An instance of one GPU that resumes at once. -/
def smallInstance (instanceId : String) : InstanceStatus :=
  ⟨instanceId, "model", 1, none, InstanceStatus.nonneg_none⟩

/-- One GPU short, with one instance of one GPU. -/
theorem completeAndOptimal_oneShort :
    CompleteAndOptimal twoNodes "full" 1 [smallInstance "a"] := by
  refine (completeAndOptimal_iff twoNodes "full" le_rfl [smallInstance "a"]).mpr ?_
  have hcost : cost twoNodes "full" (smallInstance "a") = some 1 := by decide +kernel
  have hfloor : ⌊(1 : ℚ)⌋₊ = 1 := Nat.floor_one
  unfold MeetsShortage
  rw [hfloor]
  refine ⟨fun _ => ⟨Nat.cast_one, _, List.mem_singleton_self _, rfl, 1, hcost, ?_⟩, fun hnone => ?_⟩
  · intro k hk hlarge
    rw [List.mem_singleton.mp hk] at hlarge
    exact absurd hlarge (lt_irrefl 1)
  · refine absurd ⟨?_, _, List.mem_singleton_self _, rfl⟩ hnone
    intro done i rest hsplit
    have hi : i = smallInstance "a" :=
      List.mem_singleton.mp (hsplit ▸ List.mem_append_right done List.mem_cons_self)
    subst hi
    exact Or.inr ⟨Option.isSome_iff_exists.mpr ⟨1, hcost⟩, Or.inl rfl⟩

/-- Two GPUs short: two instances of one GPU each could both move, and no plan is returned. -/
theorem not_completeAndOptimal_twoShort :
    ¬ CompleteAndOptimal twoNodes "full" 2 [smallInstance "a", smallInstance "b"] := by
  have hplans : getMigrationPlans twoNodes "full" 2 [smallInstance "a", smallInstance "b"] =
      none := by
    have hnone : (getMigrationPlans twoNodes "full" 2
        [smallInstance "a", smallInstance "b"]).isNone = true := by decide +kernel
    exact Option.isNone_iff_eq_none.mp hnone
  have hfreed : freed ([smallInstance "a", smallInstance "b"].filter
      (HasTarget twoNodes "full")) = 2 := by decide +kernel
  unfold CompleteAndOptimal
  rw [hplans]
  exact not_not.mpr ((exists_frees_iff twoNodes "full" 2 _).mpr (by rw [hfreed]; norm_num))

end StorageAware
end Scheduler
end SpotServe
