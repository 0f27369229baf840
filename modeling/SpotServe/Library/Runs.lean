import Mathlib.Data.List.Basic
import Mathlib.Data.List.Forall2
import Mathlib.Tactic.SplitIfs

/-!
# Invariants carried along a loop

A loop over a list that may raise is `List.foldlM` in `Except`.  `foldlM_inv` is the rule for it:
a property of the part already processed and of the state, kept by every turn of the loop, holds
at the end, and the loop does end without raising; `foldlM_of_ok` is for a loop of which it is known
that it did not raise.  A comprehension over something that may raise is `List.mapM`; `mapM_ok` is
the rule for it, and `forall₂_of_mapM` and `forall₂_of_mapM_ok` read a result item by item.
`require` raises unless a condition holds, `of_bind_ok` takes a computation that did not raise
apart, and `of_bind_error` one that did.  `EndAlike` relates two computations that run the same on
different data: they raise the same, or return related results.

A system that takes step after step is a relation between states, and `Reachable` holds of the
states its runs pass through.  `Reachable.invariant` is the rule for it.
-/

namespace Runs

variable {α ε σ : Type*}

/-- **The loop rule.**  `Inv done st` is the invariant after the turns `done`; a turn sees how the
whole list splits around it. -/
theorem foldlM_inv {step : σ → α → Except ε σ} (Inv : List α → σ → Prop) {whole : List α}
    (hstep : ∀ done a rest st, whole = done ++ a :: rest → Inv done st →
      ∃ st', step st a = .ok st' ∧ Inv (done ++ [a]) st')
    {st : σ} (hinv : Inv [] st) : ∃ st', whole.foldlM step st = .ok st' ∧ Inv whole st' := by
  suffices h : ∀ rest done st, whole = done ++ rest → Inv done st →
      ∃ st', rest.foldlM step st = .ok st' ∧ Inv whole st' from h whole [] st rfl hinv
  intro rest
  induction rest with
  | nil =>
    intro done st hwhole hinv
    refine ⟨st, rfl, ?_⟩
    rw [hwhole, List.append_nil]
    exact hinv
  | cons a rest ih =>
    intro done st hwhole hinv
    obtain ⟨st', hst', hinv'⟩ := hstep done a rest st hwhole hinv
    obtain ⟨st'', hst'', hinv''⟩ := ih (done ++ [a]) st' (by simpa using hwhole) hinv'
    refine ⟨st'', ?_, hinv''⟩
    rw [List.foldlM_cons, hst']
    exact hst''

/-- The loop rule for a loop that did not raise. -/
theorem foldlM_of_ok {step : σ → α → Except ε σ} (Inv : List α → σ → Prop) {whole : List α}
    (hstep : ∀ done a rest st st', whole = done ++ a :: rest → Inv done st → step st a = .ok st' →
      Inv (done ++ [a]) st')
    {st st' : σ} (hinv : Inv [] st) (hrun : whole.foldlM step st = .ok st') : Inv whole st' := by
  suffices h : ∀ rest done st, whole = done ++ rest → Inv done st →
      rest.foldlM step st = .ok st' → Inv whole st' from h whole [] st rfl hinv hrun
  intro rest
  induction rest with
  | nil =>
    intro done st hwhole hinv hrun
    obtain rfl : st = st' := Except.ok.inj hrun
    rw [hwhole, List.append_nil]
    exact hinv
  | cons a rest ih =>
    intro done st hwhole hinv hrun
    rw [List.foldlM_cons] at hrun
    cases hst : step st a with
    | error e =>
      rw [hst] at hrun
      exact absurd hrun (by simp [bind, Except.bind])
    | ok mid =>
      rw [hst] at hrun
      exact ih (done ++ [a]) mid (by simpa using hwhole)
        (hstep done a rest st mid hwhole hinv hst) hrun

/-- A loop that meets an item on which every turn raises does raise. -/
theorem foldlM_error {step : σ → α → Except ε σ} {items : List α} {a : α} (ha : a ∈ items)
    (hstep : ∀ st, ∃ e, step st a = .error e) (st : σ) : ∃ e, items.foldlM step st = .error e := by
  induction items generalizing st with
  | nil => exact absurd ha (by simp)
  | cons b items ih =>
    rw [List.foldlM_cons]
    cases hb : step st b with
    | error e => exact ⟨e, rfl⟩
    | ok st' =>
      rcases List.mem_cons.mp ha with rfl | ha
      · obtain ⟨e, he⟩ := hstep st
        rw [he] at hb
        exact absurd hb (by simp)
      · exact ih ha st'

/-- `if not c: raise e`. -/
def require (c : Prop) [Decidable c] (e : ε) : Except ε Unit := if c then .ok () else .error e

@[simp] theorem require_eq_ok {c : Prop} [Decidable c] {e : ε} :
    require c e = .ok () ↔ c := by
  unfold require
  split_ifs with h <;> simp [h]

theorem of_bind_ok {α β : Type} {x : Except ε α} {f : α → Except ε β} {b : β}
    (h : (x >>= f) = .ok b) : ∃ a, x = .ok a ∧ f a = .ok b := by
  cases x with
  | error e => exact absurd h (by simp [bind, Except.bind])
  | ok a => exact ⟨a, rfl, h⟩

theorem of_map_ok {β : Type*} {x : Except ε α} {f : α → β} {b : β} (h : x.map f = .ok b) :
    ∃ a, x = .ok a ∧ f a = b := by
  cases x with
  | error e => exact absurd h (by simp [Except.map])
  | ok a => exact ⟨a, rfl, Except.ok.inj h⟩

theorem of_mapError_ok {ε' : Type*} {x : Except ε α} {f : ε → ε'} {a : α}
    (h : x.mapError f = .ok a) : x = .ok a := by
  cases x with
  | error e => exact absurd h (by simp [Except.mapError])
  | ok b => exact congrArg Except.ok (Except.ok.inj h)

theorem bind_ok {α β : Type} {x : Except ε α} {f : α → Except ε β} {a : α} {b : β}
    (hx : x = .ok a) (hf : f a = .ok b) : (x >>= f) = .ok b := by
  rw [hx]
  exact hf

/-- A check that did not raise, and what comes after it. -/
theorem of_require_bind {β : Type} {c : Prop} [Decidable c] {e : ε} {x : Except ε β} {b : β}
    (h : (require c e >>= fun _ => x) = .ok b) : c ∧ x = .ok b := by
  obtain ⟨_, hc, hx⟩ := of_bind_ok h
  exact ⟨require_eq_ok.mp hc, hx⟩

theorem of_toOption {α : Type} {x : Except ε α} {a : α} (h : x.toOption = some a) : x = .ok a := by
  cases x with
  | error e => exact absurd h (by simp [Except.toOption])
  | ok b => exact congrArg Except.ok (Option.some.inj h)

/-- What a computation raises comes from its first part or from what follows. -/
theorem of_bind_error {α β : Type} {x : Except ε α} {f : α → Except ε β} {e : ε}
    (h : (x >>= f) = .error e) : x = .error e ∨ ∃ a, x = .ok a ∧ f a = .error e := by
  cases x with
  | error e' => exact Or.inl (congrArg Except.error (Except.error.inj h))
  | ok a => exact Or.inr ⟨a, rfl, h⟩

theorem of_require_error {c : Prop} [Decidable c] {e e' : ε} (h : require c e = .error e') :
    ¬ c ∧ e' = e := by
  unfold require at h
  split_ifs at h with hc
  exact ⟨hc, (Except.error.inj h).symm⟩

/-- What a loop raises, one of its turns does. -/
theorem of_foldlM_error {σ : Type} {step : σ → α → Except ε σ} {items : List α} {st : σ} {e : ε}
    (h : items.foldlM step st = .error e) : ∃ st', ∃ a ∈ items, step st' a = .error e := by
  induction items generalizing st with
  | nil => exact absurd h (by simp [pure, Except.pure])
  | cons a items ih =>
    rw [List.foldlM_cons] at h
    rcases of_bind_error h with ha | ⟨mid, -, h⟩
    · exact ⟨st, a, List.mem_cons_self, ha⟩
    · obtain ⟨st', a', ha', hraise⟩ := ih h
      exact ⟨st', a', List.mem_cons_of_mem a ha', hraise⟩

/-- A comprehension none of whose items raises. -/
theorem mapM_ok {β : Type*} {f : α → Except ε β} {P : α → β → Prop} {items : List α}
    (h : ∀ a ∈ items, ∃ b, f a = .ok b ∧ P a b) :
    ∃ results, items.mapM f = .ok results ∧ List.Forall₂ P items results := by
  induction items with
  | nil => exact ⟨[], rfl, List.Forall₂.nil⟩
  | cons a items ih =>
    obtain ⟨b, hb, hP⟩ := h a List.mem_cons_self
    obtain ⟨results, hresults, hall⟩ := ih fun a' ha' => h a' (List.mem_cons_of_mem a ha')
    refine ⟨b :: results, ?_, List.Forall₂.cons hP hall⟩
    rw [List.mapM_cons, hb, hresults]
    rfl

/-- A comprehension whose body is a plain function on its items. -/
theorem mapM_eq_ok_map {β : Type*} {f : α → Except ε β} {g : α → β} {items : List α}
    (h : ∀ a ∈ items, f a = .ok (g a)) : items.mapM f = .ok (items.map g) := by
  induction items with
  | nil => rfl
  | cons a items ih =>
    rw [List.mapM_cons, h a List.mem_cons_self, ih fun a' ha' => h a' (List.mem_cons_of_mem a ha')]
    rfl

theorem forall₂_of_mapM {β : Type*} {f : α → Option β} {items : List α} {results : List β}
    (h : items.mapM f = some results) : List.Forall₂ (fun a b => f a = some b) items results := by
  induction items generalizing results with
  | nil =>
    obtain rfl : results = [] := by simpa using h
    exact List.Forall₂.nil
  | cons a items ih =>
    rw [List.mapM_cons] at h
    obtain ⟨b, hb, h⟩ := Option.bind_eq_some_iff.mp h
    obtain ⟨rest, hrest, h⟩ := Option.bind_eq_some_iff.mp h
    obtain rfl := Option.some.inj h
    exact List.Forall₂.cons hb (ih hrest)

theorem mapM_of_forall₂ {β : Type*} {f : α → Option β} {items : List α} {results : List β}
    (h : List.Forall₂ (fun a b => f a = some b) items results) : items.mapM f = some results := by
  induction h with
  | nil => rfl
  | cons ha _ ih =>
    rw [List.mapM_cons, ha, ih]
    rfl

/-- A comprehension each of whose items gives something. -/
theorem mapM_some {β : Type*} {f : α → Option β} {items : List α}
    (h : ∀ a ∈ items, ∃ b, f a = some b) : ∃ results, items.mapM f = some results := by
  induction items with
  | nil => exact ⟨[], rfl⟩
  | cons a items ih =>
    obtain ⟨b, hb⟩ := h a List.mem_cons_self
    obtain ⟨results, hresults⟩ := ih fun a' ha' => h a' (List.mem_cons_of_mem a ha')
    refine ⟨b :: results, ?_⟩
    rw [List.mapM_cons, hb, hresults]
    rfl

theorem forall₂_of_mapM_ok {β : Type} {f : α → Except ε β} {items : List α} {results : List β}
    (h : items.mapM f = .ok results) : List.Forall₂ (fun a b => f a = .ok b) items results := by
  induction items generalizing results with
  | nil =>
    obtain rfl : [] = results := Except.ok.inj h
    exact List.Forall₂.nil
  | cons a items ih =>
    rw [List.mapM_cons] at h
    obtain ⟨b, hb, h⟩ := of_bind_ok h
    obtain ⟨rest, hrest, h⟩ := of_bind_ok h
    obtain rfl := Except.ok.inj h
    exact List.Forall₂.cons hb (ih hrest)

/-- A comprehension that came through is a plain one, over what its body returns. -/
theorem eq_map_of_mapM_ok {β : Type} {f : α → Except ε β} {g : α → β} {items : List α}
    {results : List β} (hg : ∀ a b, f a = .ok b → b = g a) (h : items.mapM f = .ok results) :
    results = items.map g := by
  have hall := forall₂_of_mapM_ok h
  clear h
  induction hall with
  | nil => rfl
  | cons ha _ ih => rw [List.map_cons, ← hg _ _ ha, ← ih]

/-- What a comprehension raises, one of its items does. -/
theorem of_mapM_error {β : Type} {f : α → Except ε β} {items : List α} {e : ε}
    (h : items.mapM f = .error e) : ∃ a ∈ items, f a = .error e := by
  induction items with
  | nil => exact absurd h (by simp [pure, Except.pure])
  | cons a items ih =>
    rw [List.mapM_cons] at h
    rcases of_bind_error h with ha | ⟨b, -, h⟩
    · exact ⟨a, List.mem_cons_self, ha⟩
    · rcases of_bind_error h with hrest | ⟨results, -, h⟩
      · obtain ⟨a', ha', hraise⟩ := ih hrest
        exact ⟨a', List.mem_cons_of_mem a ha', hraise⟩
      · exact absurd h (by simp [pure, Except.pure])

theorem exists_of_mem_right {β : Type*} {R : α → β → Prop} {items : List α} {results : List β}
    (h : List.Forall₂ R items results) {b : β} (hb : b ∈ results) : ∃ a ∈ items, R a b := by
  obtain ⟨i, hi, rfl⟩ := List.mem_iff_getElem.mp hb
  have hi' : i < items.length := by rw [h.length_eq]; exact hi
  exact ⟨items[i], List.getElem_mem hi', h.get hi' hi⟩

theorem exists_of_mem_left {β : Type*} {R : α → β → Prop} {items : List α} {results : List β}
    (h : List.Forall₂ R items results) {a : α} (ha : a ∈ items) : ∃ b ∈ results, R a b := by
  obtain ⟨i, hi, rfl⟩ := List.mem_iff_getElem.mp ha
  have hi' : i < results.length := by rw [← h.length_eq]; exact hi
  exact ⟨results[i], List.getElem_mem hi', h.get hi hi'⟩

/-- Two computations that end alike: they raise the same, or what they return is related. -/
inductive EndAlike {β : Type*} (R : α → β → Prop) : Except ε α → Except ε β → Prop
  | error (e : ε) : EndAlike R (.error e) (.error e)
  | ok {a : α} {b : β} : R a b → EndAlike R (.ok a) (.ok b)

theorem EndAlike.refl {R : α → α → Prop} (hrefl : ∀ a, R a a) (x : Except ε α) :
    EndAlike R x x := by
  cases x with
  | error e => exact .error e
  | ok a => exact .ok (hrefl a)

theorem EndAlike.bind {α β γ δ : Type} {R : α → β → Prop} {Q : γ → δ → Prop} {x : Except ε α}
    {y : Except ε β} {f : α → Except ε γ} {g : β → Except ε δ} (h : EndAlike R x y)
    (hnext : ∀ a b, R a b → EndAlike Q (f a) (g b)) : EndAlike Q (x >>= f) (y >>= g) := by
  cases h with
  | error e => exact .error e
  | ok hab => exact hnext _ _ hab

theorem EndAlike.map {α β γ δ : Type*} {R : α → β → Prop} {Q : γ → δ → Prop} {x : Except ε α}
    {y : Except ε β} {f : α → γ} {g : β → δ} (h : EndAlike R x y)
    (hresults : ∀ a b, R a b → Q (f a) (g b)) : EndAlike Q (x.map f) (y.map g) := by
  cases h with
  | error e => exact .error e
  | ok hab => exact .ok (hresults _ _ hab)

/-- A comprehension over one list, in two runs. -/
theorem EndAlike.mapM {γ : Type*} {α β : Type} {R : α → β → Prop} {f : γ → Except ε α}
    {g : γ → Except ε β} {items : List γ} (h : ∀ c ∈ items, EndAlike R (f c) (g c)) :
    EndAlike (List.Forall₂ R) (items.mapM f) (items.mapM g) := by
  induction items with
  | nil => exact .ok .nil
  | cons c items ih =>
    rw [List.mapM_cons, List.mapM_cons]
    refine (h c List.mem_cons_self).bind fun a b hab => ?_
    refine (ih fun c' hc' => h c' (List.mem_cons_of_mem c hc')).bind fun as bs habs => ?_
    exact .ok (.cons hab habs)

theorem EndAlike.of_ok_left {β : Type*} {R : α → β → Prop} {a : α} {y : Except ε β}
    (h : EndAlike R (.ok a) y) : ∃ b, y = .ok b ∧ R a b := by
  cases h with
  | ok hab => exact ⟨_, rfl, hab⟩

theorem EndAlike.of_ok_right {β : Type*} {R : α → β → Prop} {x : Except ε α} {b : β}
    (h : EndAlike R x (.ok b)) : ∃ a, x = .ok a ∧ R a b := by
  cases h with
  | ok hab => exact ⟨_, rfl, hab⟩

/-- The states passed by the runs that start in `start`, take steps of `step` and take them only
where `allowed` permits. -/
inductive Reachable (start : σ → Prop) (step : σ → α → σ → Prop) (allowed : σ → α → Prop) :
    σ → Prop
  | start {s : σ} : start s → Reachable start step allowed s
  | step {s s' : σ} {a : α} : Reachable start step allowed s → allowed s a → step s a s' →
      Reachable start step allowed s'

/-- **The invariant rule.** -/
theorem Reachable.invariant {start : σ → Prop} {step : σ → α → σ → Prop}
    {allowed : σ → α → Prop} (Inv : σ → Prop) (hstart : ∀ s, start s → Inv s)
    (hstep : ∀ s a s', Inv s → allowed s a → step s a s' → Inv s') {s : σ}
    (h : Reachable start step allowed s) : Inv s := by
  induction h with
  | start hs => exact hstart _ hs
  | step _ hallowed hss' ih => exact hstep _ _ _ ih hallowed hss'

/-- A run that keeps to more rules is a run. -/
theorem Reachable.mono {start : σ → Prop} {step : σ → α → σ → Prop} {allowed allowed' : σ → α → Prop}
    (hallowed : ∀ s a, allowed s a → allowed' s a) {s : σ} (h : Reachable start step allowed s) :
    Reachable start step allowed' s := by
  induction h with
  | start hs => exact .start hs
  | step _ ha hss' ih => exact ih.step (hallowed _ _ ha) hss'

/-- Trying a run out: each step is tested and taken. -/
def attempt (f : σ → α → Option σ) (allowed : σ → α → Prop) [∀ s a, Decidable (allowed s a)]
    (actions : List α) (s : σ) : Option σ :=
  actions.foldlM (fun s a => if allowed s a then f s a else none) s

/-- A run that was tried out is one. -/
theorem Reachable.attempt {start : σ → Prop} {f : σ → α → Option σ} {allowed : σ → α → Prop}
    [∀ s a, Decidable (allowed s a)] {s s' : σ} {actions : List α}
    (h : Reachable start (fun s a s' => f s a = some s') allowed s)
    (hrun : attempt f allowed actions s = some s') :
    Reachable start (fun s a s' => f s a = some s') allowed s' := by
  unfold Runs.attempt at hrun
  induction actions generalizing s with
  | nil =>
    obtain rfl := Option.some.inj hrun
    exact h
  | cons a actions ih =>
    rw [List.foldlM_cons] at hrun
    obtain ⟨mid, hmid, hrest⟩ := Option.bind_eq_some_iff.mp hrun
    split_ifs at hmid with hallowed
    exact ih (.step h hallowed hmid) hrest

end Runs
