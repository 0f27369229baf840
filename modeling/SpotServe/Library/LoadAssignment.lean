import Mathlib

/-!
# Assigning a list of jobs to targets at load-dependent costs

Jobs arrive in a list and are placed one after the other.  A job may be skipped, at a fixed
price, or put on a target that still has room.  What a placement costs may depend on how many
jobs the target already carries (its *load*), and the first job of a target also pays for
opening it.

* `runCost`: what a list of choices costs, read from left to right.
* `solve`: the exhaustive recursion that keeps the strictly cheaper of two continuations.  Its
  answer is feasible (`feasible_solve`), costs what it says (`runCost_solve`) and is no dearer
  than any feasible list of choices (`solve_le_runCost`).
* `runCost_ofFn`: a list of choices read as a function, with the load of a target given as the
  number of earlier jobs on it.
* `solve_fst_perm`: when the load enters the price of an edge only through a summand that does
  not depend on the job, the optimum does not depend on the order of the jobs.
* `solve_fst_relabel`: renaming the targets does not change the optimum, and
  `exists_injective_of_perm` reads a permutation of a list as such a renaming.
-/

namespace LoadAssignment

/-- Capacities of the targets, the price of putting a job on a target that already carries `k`
jobs, the price of opening a target, and the price of leaving a job out. -/
structure Problem (S T K : Type*) where
  capacity : T → ℕ
  edge : S → T → ℕ → K
  opening : T → K
  skip : K

section Loads

variable {T : Type*} [DecidableEq T]

/-- One more job on `t`. -/
def bump (load : T → ℕ) (t : T) : T → ℕ :=
  Function.update load t (load t + 1)

@[simp] theorem bump_self (load : T → ℕ) (t : T) : bump load t t = load t + 1 :=
  Function.update_self ..

theorem bump_of_ne {load : T → ℕ} {t t' : T} (h : t' ≠ t) : bump load t t' = load t' :=
  Function.update_of_ne h ..

theorem bump_comm (load : T → ℕ) (t t' : T) : bump (bump load t) t' = bump (bump load t') t := by
  by_cases h : t = t'
  · rw [h]
  · unfold bump
    rw [Function.update_of_ne (Ne.symm h), Function.update_of_ne h, Function.update_comm h]

variable {S K : Type*} (P : Problem S T K)

/-- No choice goes to a target that is full when it is made. -/
def Problem.Feasible : List (Option T) → (T → ℕ) → Prop
  | [], _ => True
  | none :: cs, load => Problem.Feasible cs load
  | some t :: cs, load => load t < P.capacity t ∧ Problem.Feasible cs (bump load t)

@[simp] theorem feasible_nil (load : T → ℕ) : P.Feasible [] load := trivial

@[simp] theorem feasible_none (cs : List (Option T)) (load : T → ℕ) :
    P.Feasible (none :: cs) load ↔ P.Feasible cs load := Iff.rfl

@[simp] theorem feasible_some (t : T) (cs : List (Option T)) (load : T → ℕ) :
    P.Feasible (some t :: cs) load ↔ load t < P.capacity t ∧ P.Feasible cs (bump load t) :=
  Iff.rfl

/-- A feasible list of choices puts at most the remaining room on every target. -/
theorem count_le_of_feasible {cs : List (Option T)} {load : T → ℕ} (h : P.Feasible cs load)
    (t : T) (ht : load t ≤ P.capacity t) : load t + cs.count (some t) ≤ P.capacity t := by
  induction cs generalizing load with
  | nil => simpa using ht
  | cons c cs ih =>
    cases c with
    | none =>
      rw [List.count_cons_of_ne (by simp)]
      exact ih h ht
    | some t' =>
      obtain ⟨hlt, hrest⟩ := h
      by_cases he : t' = t
      · subst he
        have := ih hrest (by rw [bump_self]; omega)
        rw [bump_self] at this
        rw [List.count_cons_self]
        omega
      · have := ih hrest (by rw [bump_of_ne (Ne.symm he)]; exact ht)
        rw [bump_of_ne (Ne.symm he)] at this
        rw [List.count_cons_of_ne (by simpa using he)]
        exact this

/-- A list of choices that puts at most the remaining room on every target is feasible. -/
theorem feasible_of_count_le {cs : List (Option T)} {load : T → ℕ}
    (h : ∀ t, load t + cs.count (some t) ≤ P.capacity t) : P.Feasible cs load := by
  induction cs generalizing load with
  | nil => trivial
  | cons c cs ih =>
    cases c with
    | none =>
      refine ih fun t => ?_
      have := h t
      rwa [List.count_cons_of_ne (by simp)] at this
    | some t' =>
      have ht' := h t'
      rw [List.count_cons_self] at ht'
      refine ⟨by omega, ih fun t => ?_⟩
      by_cases he : t' = t
      · subst he
        rw [bump_self]
        omega
      · have := h t
        rw [List.count_cons_of_ne (by simpa using he)] at this
        rwa [bump_of_ne (Ne.symm he)]

end Loads

section Run

variable {S T K : Type*} [DecidableEq T] [AddCommMonoid K] (P : Problem S T K)

/-- What putting `s` on `t` costs when `t` carries `k` jobs: the edge, and the opening of `t`
when `s` is its first job. -/
def Problem.charge (s : S) (t : T) (k : ℕ) : K :=
  P.edge s t k + if k = 0 then P.opening t else 0

/-- What a list of choices costs, `none` being a job that is left out. -/
def Problem.runCost : List S → List (Option T) → (T → ℕ) → K
  | _ :: ss, none :: cs, load => P.skip + Problem.runCost ss cs load
  | s :: ss, some t :: cs, load => P.charge s t (load t) + Problem.runCost ss cs (bump load t)
  | [], _, _ => 0
  | _ :: _, [], _ => 0

@[simp] theorem runCost_nil (cs : List (Option T)) (load : T → ℕ) :
    P.runCost [] cs load = 0 := by
  cases cs <;> rfl

@[simp] theorem runCost_none (s : S) (ss : List S) (cs : List (Option T)) (load : T → ℕ) :
    P.runCost (s :: ss) (none :: cs) load = P.skip + P.runCost ss cs load := rfl

@[simp] theorem runCost_some (s : S) (ss : List S) (t : T) (cs : List (Option T))
    (load : T → ℕ) :
    P.runCost (s :: ss) (some t :: cs) load =
      P.charge s t (load t) + P.runCost ss cs (bump load t) := rfl

/-! ## Choices as a function -/

omit [AddCommMonoid K] in
theorem count_ofFn {n : ℕ} (f : Fin n → Option T) (c : Option T) :
    (List.ofFn f).count c = (Finset.univ.filter fun i => f i = c).card := by
  induction n with
  | zero => simp
  | succ n ih =>
    rw [List.ofFn_succ, List.count_cons, ih, Fin.card_filter_univ_succ]
    by_cases h : f 0 = c
    · simp [h]
    · simp [h]

/-- The number of jobs before `i` that make the choice of `i`. -/
def ahead {n : ℕ} (f : Fin n → Option T) (i : Fin n) : ℕ :=
  (Finset.univ.filter fun i' => i' < i ∧ f i' = f i).card

theorem ahead_zero {n : ℕ} (f : Fin (n + 1) → Option T) : ahead f 0 = 0 := by
  unfold ahead
  rw [Finset.card_eq_zero, Finset.filter_eq_empty_iff]
  intro i' _ h
  exact absurd h.1 (Fin.not_lt_zero i')

theorem ahead_succ {n : ℕ} (f : Fin (n + 1) → Option T) (i : Fin n) :
    ahead f i.succ = (if f 0 = f i.succ then 1 else 0) + ahead (fun i => f i.succ) i := by
  unfold ahead
  rw [Fin.card_filter_univ_succ]
  simp only [Fin.succ_pos, true_and, Fin.succ_lt_succ_iff]
  split_ifs
  · rw [Nat.add_comm]
  · rw [Nat.zero_add]

/-- What job `i` pays under `f`, the opening of its target apart. -/
def Problem.placement {n : ℕ} (s : Fin n → S) (f : Fin n → Option T) (load : T → ℕ)
    (i : Fin n) : K :=
  match f i with
  | none => P.skip
  | some t => P.edge (s i) t (load t + ahead f i)

omit [AddCommMonoid K] in
theorem placement_succ {n : ℕ} (s : Fin (n + 1) → S) (f : Fin (n + 1) → Option T)
    (load load' : T → ℕ) (i : Fin n)
    (hload : ∀ t, f i.succ = some t → load' t = load t + if f 0 = some t then 1 else 0) :
    P.placement s f load i.succ =
      P.placement (fun i => s i.succ) (fun i => f i.succ) load' i := by
  unfold Problem.placement
  cases hf : f i.succ with
  | none => simp only [hf]
  | some t =>
    have h := hload t hf
    simp only [ahead_succ, hf, h, Nat.add_assoc]

/-- The opening fees that `f` still has to pay when the targets carry `load`. -/
def Problem.openings {n : ℕ} (A : Finset T) (f : Fin n → Option T) (load : T → ℕ) : K :=
  ∑ t ∈ A, if load t = 0 ∧ ∃ i, f i = some t then P.opening t else 0

theorem openings_none {n : ℕ} (A : Finset T) (f : Fin (n + 1) → Option T) (load : T → ℕ)
    (h0 : f 0 = none) :
    P.openings A f load = P.openings A (fun i => f i.succ) load := by
  unfold Problem.openings
  refine Finset.sum_congr rfl fun t _ => ?_
  have hex : (∃ i, f i = some t) ↔ ∃ i : Fin n, f i.succ = some t := by
    rw [Fin.exists_fin_succ]
    simp [h0]
  simp only [hex]

/-- The first job of a closed target opens it; afterwards its fee is no longer due. -/
theorem openings_some {n : ℕ} {A : Finset T} {f : Fin (n + 1) → Option T} {load : T → ℕ} {t : T}
    (h0 : f 0 = some t) (ht : t ∈ A) :
    P.openings A f load =
      (if load t = 0 then P.opening t else 0) +
        P.openings A (fun i => f i.succ) (bump load t) := by
  unfold Problem.openings
  rw [← Finset.add_sum_erase A _ ht, ← Finset.add_sum_erase A (fun t' => ite _ _ _) ht]
  have hself : ¬(bump load t t = 0 ∧ ∃ i : Fin n, f i.succ = some t) := by
    rw [bump_self]
    omega
  rw [if_neg hself, zero_add]
  congr 1
  · simp only [show (∃ i, f i = some t) ↔ True from iff_true_intro ⟨0, h0⟩, and_true]
  · refine Finset.sum_congr rfl fun t' ht' => ?_
    have hne : t' ≠ t := Finset.ne_of_mem_erase ht'
    have hex : (∃ i, f i = some t') ↔ ∃ i : Fin n, f i.succ = some t' := by
      rw [Fin.exists_fin_succ, h0]
      simp [Ne.symm hne]
    simp only [hex, bump_of_ne hne]

/-- **A list of choices, read as a function.**  Each job pays for the number of earlier jobs on
its target, and every target that is used pays its opening once. -/
theorem runCost_ofFn {n : ℕ} (s : Fin n → S) (f : Fin n → Option T) (load : T → ℕ)
    (A : Finset T) (hA : ∀ i t, f i = some t → t ∈ A) :
    P.runCost (List.ofFn s) (List.ofFn f) load =
      (∑ i, P.placement s f load i) + P.openings A f load := by
  induction n generalizing load with
  | zero => simp [Problem.openings]
  | succ n ih =>
    rw [List.ofFn_succ, List.ofFn_succ, Fin.sum_univ_succ]
    have hA' : ∀ (i : Fin n) t, f i.succ = some t → t ∈ A := fun i => hA i.succ
    cases h0 : f 0 with
    | none =>
      have hp : ∀ i : Fin n, P.placement s f load i.succ =
          P.placement (fun i => s i.succ) (fun i => f i.succ) load i := fun i =>
        placement_succ P s f load load i fun t _ => by simp [h0]
      rw [runCost_none, ih _ _ load hA', Finset.sum_congr rfl fun i _ => hp i,
        openings_none P A f load h0, Problem.placement, h0, add_assoc]
    | some t =>
      have hp : ∀ i : Fin n, P.placement s f load i.succ =
          P.placement (fun i => s i.succ) (fun i => f i.succ) (bump load t) i := fun i =>
        placement_succ P s f load (bump load t) i fun t' _ => by
          by_cases he : t = t'
          · subst he
            simp [h0]
          · rw [bump_of_ne (Ne.symm he), h0, if_neg (by simpa using he), Nat.add_zero]
      rw [runCost_some, ih _ _ (bump load t) hA', Finset.sum_congr rfl fun i _ => hp i,
        openings_some P h0 (hA 0 t h0), Problem.placement, h0, Problem.charge]
      simp only [ahead_zero, Nat.add_zero]
      abel

end Run

/-! ## The exhaustive recursion -/

section Improve

variable {K α : Type*} [LinearOrder K]

/-- The running best: replaced only by something strictly cheaper. -/
def improve (best x : K × α) : K × α :=
  if x.1 < best.1 then x else best

theorem improve_fst (best x : K × α) : (improve best x).1 = min best.1 x.1 := by
  unfold improve
  split_ifs with h
  · exact (min_eq_right h.le).symm
  · exact (min_eq_left (not_lt.mp h)).symm

theorem improve_eq_or (best x : K × α) : improve best x = best ∨ improve best x = x := by
  unfold improve
  split_ifs
  · exact Or.inr rfl
  · exact Or.inl rfl

/-- A loop over `ts` that offers `cand t` to the running best whenever `open t` holds. -/
def improveAll {T : Type*} (isOpen : T → Prop) [DecidablePred isOpen] (cand : T → K × α)
    (ts : List T) (best : K × α) : K × α :=
  ts.foldl (fun best t => if isOpen t then improve best (cand t) else best) best

variable {T : Type*} {isOpen : T → Prop} [DecidablePred isOpen] {cand : T → K × α}

theorem improveAll_cons (t : T) (ts : List T) (best : K × α) :
    improveAll isOpen cand (t :: ts) best =
      improveAll isOpen cand ts (if isOpen t then improve best (cand t) else best) := rfl

/-- The loop ends with what it began with, or with one of the offers. -/
theorem improveAll_eq_or (ts : List T) (best : K × α) :
    improveAll isOpen cand ts best = best ∨
      ∃ t ∈ ts, isOpen t ∧ improveAll isOpen cand ts best = cand t := by
  induction ts generalizing best with
  | nil => exact Or.inl rfl
  | cons t ts ih =>
    rw [improveAll_cons]
    rcases ih (if isOpen t then improve best (cand t) else best) with h | ⟨t', ht', ho, h⟩
    · by_cases ho : isOpen t
      · rw [if_pos ho] at h ⊢
        rcases improve_eq_or best (cand t) with hb | hb
        · exact Or.inl (h.trans hb)
        · exact Or.inr ⟨t, List.mem_cons_self .., ho, h.trans hb⟩
      · rw [if_neg ho] at h ⊢
        exact Or.inl h
    · exact Or.inr ⟨t', List.mem_cons_of_mem _ ht', ho, h⟩

theorem improveAll_fst_le_init (ts : List T) (best : K × α) :
    (improveAll isOpen cand ts best).1 ≤ best.1 := by
  induction ts generalizing best with
  | nil => exact le_rfl
  | cons t ts ih =>
    rw [improveAll_cons]
    refine (ih _).trans ?_
    split_ifs
    · rw [improve_fst]
      exact min_le_left ..
    · exact le_rfl

theorem improveAll_fst_le {ts : List T} {t : T} (ht : t ∈ ts) (ho : isOpen t) (best : K × α) :
    (improveAll isOpen cand ts best).1 ≤ (cand t).1 := by
  induction ts generalizing best with
  | nil => simp at ht
  | cons t' ts ih =>
    rw [improveAll_cons]
    rcases List.mem_cons.mp ht with rfl | ht
    · refine (improveAll_fst_le_init ts _).trans ?_
      rw [if_pos ho, improve_fst]
      exact min_le_right ..
    · exact ih ht _

end Improve

section Solve

variable {S T K : Type*} [DecidableEq T] [AddCommMonoid K] [LinearOrder K]

/-- Leave the first job out, or put it on a target with room, whichever is cheaper together
with the best continuation. -/
def Problem.solve (P : Problem S T K) (ts : List T) : List S → (T → ℕ) → K × List (Option T)
  | [], _ => (0, [])
  | s :: ss, load =>
    improveAll (fun t => load t < P.capacity t)
      (fun t =>
        (P.charge s t (load t) + (Problem.solve P ts ss (bump load t)).1,
          some t :: (Problem.solve P ts ss (bump load t)).2))
      ts
      (P.skip + (Problem.solve P ts ss load).1, none :: (Problem.solve P ts ss load).2)

variable {P : Problem S T K} {ts : List T}

/-- The two forms of an answer. -/
theorem solve_cons_eq_or (P : Problem S T K) (ts : List T) (s : S) (ss : List S) (load : T → ℕ) :
    P.solve ts (s :: ss) load =
        (P.skip + (P.solve ts ss load).1, none :: (P.solve ts ss load).2) ∨
      ∃ t ∈ ts, load t < P.capacity t ∧
        P.solve ts (s :: ss) load =
          (P.charge s t (load t) + (P.solve ts ss (bump load t)).1,
            some t :: (P.solve ts ss (bump load t)).2) :=
  improveAll_eq_or ts _

@[simp] theorem length_solve (ss : List S) (load : T → ℕ) :
    (P.solve ts ss load).2.length = ss.length := by
  induction ss generalizing load with
  | nil => rfl
  | cons s ss ih =>
    rcases solve_cons_eq_or P ts s ss load with h | ⟨t, -, -, h⟩
    · rw [h, List.length_cons, ih, List.length_cons]
    · rw [h, List.length_cons, ih, List.length_cons]

/-- The answer never overfills a target. -/
theorem feasible_solve (ss : List S) (load : T → ℕ) :
    P.Feasible (P.solve ts ss load).2 load := by
  induction ss generalizing load with
  | nil => trivial
  | cons s ss ih =>
    rcases solve_cons_eq_or P ts s ss load with h | ⟨t, -, hlt, h⟩
    · rw [h]
      exact ih load
    · rw [h]
      exact ⟨hlt, ih (bump load t)⟩

/-- The answer costs what it says. -/
theorem runCost_solve (ss : List S) (load : T → ℕ) :
    P.runCost ss (P.solve ts ss load).2 load = (P.solve ts ss load).1 := by
  induction ss generalizing load with
  | nil => rfl
  | cons s ss ih =>
    rcases solve_cons_eq_or P ts s ss load with h | ⟨t, -, -, h⟩
    · rw [h, runCost_none, ih]
    · rw [h, runCost_some, ih]

variable [IsOrderedAddMonoid K]

/-- **Optimality.**  No feasible list of choices is cheaper, provided the loop tries every
target that has any room at all. -/
theorem solve_le_runCost (hts : ∀ t, 0 < P.capacity t → t ∈ ts) {ss : List S}
    {cs : List (Option T)} {load : T → ℕ} (hlen : cs.length = ss.length)
    (hf : P.Feasible cs load) : (P.solve ts ss load).1 ≤ P.runCost ss cs load := by
  induction ss generalizing cs load with
  | nil => rw [runCost_nil]; exact le_rfl
  | cons s ss ih =>
    obtain _ | ⟨c, cs⟩ := cs
    · simp at hlen
    have hlen' : cs.length = ss.length := by simpa using hlen
    cases c with
    | none =>
      rw [runCost_none]
      refine (improveAll_fst_le_init ts _).trans ?_
      exact add_le_add_right (ih hlen' hf) _
    | some t =>
      obtain ⟨hlt, hrest⟩ := hf
      rw [runCost_some]
      refine (improveAll_fst_le (hts t (Nat.zero_lt_of_lt hlt)) hlt _).trans ?_
      exact add_le_add_right (ih hlen' hrest) _

/-- Two job lists whose choices can be translated at equal cost: the first optimum is at most
the second. -/
theorem solve_fst_le_of_translate {S' T' : Type*} [DecidableEq T'] {P' : Problem S' T' K}
    {ts' : List T'} (hts : ∀ t, 0 < P.capacity t → t ∈ ts) {ss : List S} {ss' : List S'}
    {load : T → ℕ} {load' : T' → ℕ}
    (htr : ∀ cs', cs'.length = ss'.length → P'.Feasible cs' load' →
      ∃ cs, cs.length = ss.length ∧ P.Feasible cs load ∧
        P.runCost ss cs load ≤ P'.runCost ss' cs' load') :
    (P.solve ts ss load).1 ≤ (P'.solve ts' ss' load').1 := by
  obtain ⟨cs, hlen, hf, hle⟩ := htr _ (length_solve ss' load') (feasible_solve ss' load')
  rw [runCost_solve] at hle
  exact (solve_le_runCost hts hlen hf).trans hle

/-! ## The order of the jobs -/

/-- The load enters the price of an edge only through a summand of the target. -/
def Problem.Separable (P : Problem S T K) : Prop :=
  ∃ (base : S → T → K) (queue : T → ℕ → K), ∀ s t k, P.edge s t k = base s t + queue t k

omit [LinearOrder K] [IsOrderedAddMonoid K] in
/-- Two jobs may exchange places together with their choices: each then finds the load the
other one found. -/
theorem exists_swap (hsep : P.Separable) (a b : S) (ss : List S) {cs : List (Option T)}
    {load : T → ℕ} (hlen : cs.length = (a :: b :: ss).length) (hf : P.Feasible cs load) :
    ∃ cs', cs'.length = (b :: a :: ss).length ∧ P.Feasible cs' load ∧
      P.runCost (b :: a :: ss) cs' load = P.runCost (a :: b :: ss) cs load := by
  obtain ⟨base, queue, hedge⟩ := hsep
  obtain _ | ⟨x, _ | ⟨y, cs⟩⟩ := cs
  · simp at hlen
  · simp at hlen
  refine ⟨y :: x :: cs, hlen, ?_⟩
  cases x with
  | none =>
    cases y with
    | none => exact ⟨hf, rfl⟩
    | some t' =>
      simp only [runCost_some, runCost_none]
      exact ⟨hf, add_left_comm ..⟩
  | some t =>
    cases y with
    | none =>
      simp only [runCost_some, runCost_none]
      exact ⟨hf, add_left_comm ..⟩
    | some t' =>
      obtain ⟨ht, ht', hrest⟩ := hf
      by_cases he : t = t'
      · subst he
        refine ⟨⟨ht, ht', hrest⟩, ?_⟩
        simp only [runCost_some, Problem.charge, bump_self, hedge]
        abel
      · rw [bump_of_ne (Ne.symm he)] at ht'
        refine ⟨⟨ht', by rwa [bump_of_ne he], by rwa [bump_comm] at hrest⟩, ?_⟩
        simp only [runCost_some, bump_of_ne he, bump_of_ne (Ne.symm he), bump_comm load t t']
        exact add_left_comm ..

/-- The optimum of `s :: ss` is determined by the optima of `ss`. -/
theorem solve_fst_cons_le (hts : ∀ t, 0 < P.capacity t → t ∈ ts) (s : S) {ss ss' : List S}
    (h : ∀ load, (P.solve ts ss load).1 ≤ (P.solve ts ss' load).1) (load : T → ℕ) :
    (P.solve ts (s :: ss) load).1 ≤ (P.solve ts (s :: ss') load).1 := by
  rcases solve_cons_eq_or P ts s ss' load with he | ⟨t, -, hlt, he⟩
  · rw [he]
    exact (improveAll_fst_le_init ts _).trans (add_le_add_right (h load) _)
  · rw [he]
    exact (improveAll_fst_le (hts t (Nat.zero_lt_of_lt hlt)) hlt _).trans
      (add_le_add_right (h (bump load t)) _)

/-- **Order of the jobs.**  With separable prices the optimum is a function of the multiset of
the jobs. -/
theorem solve_fst_perm (hts : ∀ t, 0 < P.capacity t → t ∈ ts) (hsep : P.Separable)
    {ss ss' : List S} (h : ss.Perm ss') (load : T → ℕ) :
    (P.solve ts ss load).1 = (P.solve ts ss' load).1 := by
  induction h generalizing load with
  | nil => rfl
  | cons s _ ih =>
    exact le_antisymm (solve_fst_cons_le hts s (fun l => (ih l).le) load)
      (solve_fst_cons_le hts s (fun l => (ih l).ge) load)
  | swap a b ss =>
    refine le_antisymm (solve_fst_le_of_translate hts fun cs' hlen hf => ?_)
      (solve_fst_le_of_translate hts fun cs' hlen hf => ?_)
    · obtain ⟨cs, hlen', hf', he⟩ := exists_swap hsep a b ss hlen hf
      exact ⟨cs, hlen', hf', he.le⟩
    · obtain ⟨cs, hlen', hf', he⟩ := exists_swap hsep b a ss hlen hf
      exact ⟨cs, hlen', hf', he.le⟩
  | trans _ _ ih ih' => exact (ih load).trans (ih' load)

/-! ## The names of the targets -/

/-- `P'` is `P` with its targets renamed by `e`. -/
structure Relabel {T' : Type*} (P : Problem S T K) (P' : Problem S T' K) (e : T → T') :
    Prop where
  injective : Function.Injective e
  capacity : ∀ t, P'.capacity (e t) = P.capacity t
  edge : ∀ s t k, P'.edge s (e t) k = P.edge s t k
  opening : ∀ t, P'.opening (e t) = P.opening t
  skip : P'.skip = P.skip

variable {T' : Type*} [DecidableEq T'] {P' : Problem S T' K} {e : T → T'}

omit [AddCommMonoid K] [LinearOrder K] [IsOrderedAddMonoid K] in
theorem bump_comp (he : Function.Injective e) (load : T' → ℕ) (t : T) :
    bump load (e t) ∘ e = bump (load ∘ e) t := by
  funext t'
  by_cases h : t' = t
  · rw [h, Function.comp_apply, bump_self, bump_self, Function.comp_apply]
  · rw [Function.comp_apply, bump_of_ne (he.ne h), bump_of_ne h, Function.comp_apply]

omit [AddCommMonoid K] [LinearOrder K] [IsOrderedAddMonoid K] in
theorem feasible_map (hr : Relabel P P' e) {cs : List (Option T)} {load : T' → ℕ}
    (hf : P.Feasible cs (load ∘ e)) : P'.Feasible (cs.map (Option.map e)) load := by
  induction cs generalizing load with
  | nil => trivial
  | cons c cs ih =>
    cases c with
    | none => exact ih hf
    | some t =>
      obtain ⟨hlt, hrest⟩ := hf
      refine ⟨by rwa [hr.capacity], ih ?_⟩
      rwa [bump_comp hr.injective]

omit [LinearOrder K] [IsOrderedAddMonoid K] in
theorem runCost_map (hr : Relabel P P' e) (ss : List S) (cs : List (Option T))
    (load : T' → ℕ) :
    P'.runCost ss (cs.map (Option.map e)) load = P.runCost ss cs (load ∘ e) := by
  induction cs generalizing ss load with
  | nil => cases ss <;> rfl
  | cons c cs ih =>
    cases ss with
    | nil => rw [runCost_nil, runCost_nil]
    | cons s ss =>
      cases c with
      | none =>
        rw [List.map_cons, Option.map_none, runCost_none, runCost_none, ih, hr.skip]
      | some t =>
        rw [List.map_cons, Option.map_some, runCost_some, runCost_some, ih,
          bump_comp hr.injective, Problem.charge, Problem.charge, hr.edge, hr.opening,
          Function.comp_apply]

/-- **Names of the targets.**  Renaming the targets cannot make the optimum dearer. -/
theorem solve_fst_relabel {ts' : List T'} (hts' : ∀ t, 0 < P'.capacity t → t ∈ ts')
    (hr : Relabel P P' e) (ss : List S) :
    (P'.solve ts' ss fun _ => 0).1 ≤ (P.solve ts ss fun _ => 0).1 :=
  solve_fst_le_of_translate hts' fun cs hlen hf =>
    ⟨cs.map (Option.map e), by rw [List.length_map, hlen],
      feasible_map hr hf, (runCost_map hr ss cs fun _ => 0).le⟩

end Solve

/-- A permutation of a list is a renaming of its positions. -/
theorem exists_injective_of_perm {α : Type*} {l l' : List α} (h : l.Perm l') :
    ∃ e : ℕ → ℕ, Function.Injective e ∧ ∀ j, l'[e j]? = l[j]? := by
  induction h with
  | nil => exact ⟨id, Function.injective_id, fun _ => rfl⟩
  | cons a _ ih =>
    obtain ⟨e, he, hget⟩ := ih
    refine ⟨fun j => match j with
      | 0 => 0
      | j + 1 => e j + 1, ?_, ?_⟩
    · intro i j hij
      rcases i with _ | i <;> rcases j with _ | j
      · rfl
      · simp at hij
      · simp at hij
      · have h := Nat.succ.inj hij
        rw [he h]
    · intro j
      rcases j with _ | j
      · rfl
      · exact hget j
  | swap a b l =>
    refine ⟨Equiv.swap 0 1, (Equiv.swap 0 1).injective, fun j => ?_⟩
    rcases j with _ | _ | j
    · rfl
    · rfl
    · rw [Equiv.swap_apply_of_ne_of_ne (by omega) (by omega)]
      rfl
  | trans _ _ ih ih' =>
    obtain ⟨e, he, hget⟩ := ih
    obtain ⟨e', he', hget'⟩ := ih'
    exact ⟨e' ∘ e, he'.comp he, fun j => (hget' (e j)).trans (hget j)⟩

end LoadAssignment
