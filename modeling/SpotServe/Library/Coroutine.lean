import Mathlib.Order.Defs.Unbundled

/-!
# Coroutines that raise without undoing their effects

A Python coroutine run to its end either returns or raises, and what it did to the objects it
reached stays done in both cases.  That is `EStateM ε σ`.

* `finalState`: the state a run ends in, whichever way it ends.
* `Keeps R x`: every run of `x` relates its first state to its last one by `R`.  For a reflexive
  and transitive `R` this is kept by sequencing (`Keeps.bind`), by a loop (`Keeps.forM`) and by
  the cleanup of `onFailure`.
* `run_onFailure_error`: a failure with its cleanup done, then raised again.
* `Erases f y x`: `y` is `x` with something recorded beside its state, which `f` forgets.
-/

namespace Coroutine

variable {ε σ α β : Type}

/-- The state in which a run ends. -/
def finalState : EStateM.Result ε σ α → σ
  | .ok _ s => s
  | .error _ s => s

@[simp] theorem finalState_ok (a : α) (s : σ) :
    finalState (.ok a s : EStateM.Result ε σ α) = s := rfl

@[simp] theorem finalState_error (e : ε) (s : σ) :
    finalState (.error e s : EStateM.Result ε σ α) = s := rfl

/-- `x`, and when it raises, `cleanup` before the exception goes on:
`try: x except Exception: cleanup; raise`. -/
def onFailure (x : EStateM ε σ α) (cleanup : EStateM ε σ PUnit) : EStateM ε σ α := fun s =>
  match x s with
  | .ok a s' => .ok a s'
  | .error e s' =>
    match cleanup s' with
    | .ok _ s'' => .error e s''
    | .error e' s'' => .error e' s''

/-- Raising or returning what an outside call answered. -/
def answer : Except ε α → EStateM ε σ α
  | .ok a => pure a
  | .error e => throw e

theorem run_bind (x : EStateM ε σ α) (f : α → EStateM ε σ β) (s : σ) :
    (x >>= f) s = match x s with
      | .ok a s' => f a s'
      | .error e s' => .error e s' := rfl

theorem run_pure (a : α) (s : σ) : (pure a : EStateM ε σ α) s = .ok a s := rfl

theorem run_throw (e : ε) (s : σ) : (throw e : EStateM ε σ α) s = .error e s := rfl

theorem run_modify (f : σ → σ) (s : σ) :
    (modify f : EStateM ε σ PUnit) s = .ok PUnit.unit (f s) := rfl

theorem run_get (s : σ) : (get : EStateM ε σ σ) s = .ok s s := rfl

/-- A sequence that returned, taken apart. -/
theorem of_run_bind_ok {x : EStateM ε σ α} {f : α → EStateM ε σ β} {s s'' : σ} {b : β}
    (h : (x >>= f) s = .ok b s'') : ∃ a s', x s = .ok a s' ∧ f a s' = .ok b s'' := by
  rw [run_bind] at h
  cases hx : x s with
  | error e s' =>
    rw [hx] at h
    exact absurd h (by simp)
  | ok a s' =>
    rw [hx] at h
    exact ⟨a, s', rfl, h⟩

theorem of_answer_ok {x : Except ε α} {a : α} {s s' : σ} (h : answer x s = .ok a s') :
    x = .ok a ∧ s' = s := by
  cases x with
  | error e => exact absurd h (by simp [answer, run_throw])
  | ok a' =>
    obtain ⟨rfl, rfl⟩ := EStateM.Result.ok.inj h
    exact ⟨rfl, rfl⟩

theorem run_onFailure_ok {x : EStateM ε σ α} {s s' : σ} {a : α} (h : x s = .ok a s')
    (cleanup : EStateM ε σ PUnit) : onFailure x cleanup s = .ok a s' := by
  simp only [onFailure, h]

/-- A failed run still fails after its cleanup, in the state that the cleanup left. -/
theorem run_onFailure_error {x : EStateM ε σ α} {s s' : σ} {e : ε} (h : x s = .error e s')
    (cleanup : EStateM ε σ PUnit) :
    ∃ e', onFailure x cleanup s = .error e' (finalState (cleanup s')) := by
  simp only [onFailure, h]
  cases cleanup s' with
  | ok u s'' => exact ⟨e, rfl⟩
  | error e' s'' => exact ⟨e', rfl⟩

/-- Every run relates the state before to the state after. -/
def Keeps (R : σ → σ → Prop) (x : EStateM ε σ α) : Prop :=
  ∀ s, R s (finalState (x s))

section Rules

variable {R : σ → σ → Prop}

theorem Keeps.pure [Std.Refl R] (a : α) : Keeps R (pure a : EStateM ε σ α) :=
  fun s => Std.Refl.refl s

theorem Keeps.throw [Std.Refl R] (e : ε) : Keeps R (throw e : EStateM ε σ α) :=
  fun s => Std.Refl.refl s

theorem Keeps.modify {f : σ → σ} (h : ∀ s, R s (f s)) :
    Keeps R (modify f : EStateM ε σ PUnit) := h

theorem Keeps.answer [Std.Refl R] (r : Except ε α) :
    Keeps R (answer r : EStateM ε σ α) := by
  cases r with
  | ok a => exact Keeps.pure a
  | error e => exact Keeps.throw e

theorem Keeps.bind [IsTrans σ R] {x : EStateM ε σ α} {f : α → EStateM ε σ β} (hx : Keeps R x)
    (hf : ∀ a, Keeps R (f a)) : Keeps R (x >>= f) := by
  intro s
  have hs := hx s
  rw [run_bind]
  cases h : x s with
  | ok a s' =>
    rw [h] at hs
    exact IsTrans.trans _ _ _ hs (hf a s')
  | error e s' =>
    rw [h] at hs
    exact hs

theorem Keeps.forM [Std.Refl R] [IsTrans σ R] {f : α → EStateM ε σ PUnit} {l : List α}
    (hf : ∀ a ∈ l, Keeps R (f a)) : Keeps R (l.forM f) := by
  induction l with
  | nil => exact Keeps.pure _
  | cons a l ih =>
    refine Keeps.bind (hf a List.mem_cons_self) fun _ => ?_
    exact ih fun b hb => hf b (List.mem_cons_of_mem a hb)

theorem Keeps.onFailure [IsTrans σ R] {x : EStateM ε σ α} {cleanup : EStateM ε σ PUnit}
    (hx : Keeps R x) (hc : Keeps R cleanup) : Keeps R (onFailure x cleanup) := by
  intro s
  have hs := hx s
  unfold Coroutine.onFailure
  cases h : x s with
  | ok a s' =>
    rw [h] at hs
    exact hs
  | error e s' =>
    rw [h] at hs
    have hc' := hc s'
    cases hcl : cleanup s' with
    | ok u s'' =>
      rw [hcl] at hc'
      refine IsTrans.trans _ s' _ hs ?_
      simp only [hcl, finalState_ok, finalState_error] at hc' ⊢
      exact hc'
    | error e' s'' =>
      rw [hcl] at hc'
      refine IsTrans.trans _ s' _ hs ?_
      simp only [hcl, finalState_error] at hc' ⊢
      exact hc'

end Rules

/-! ## Recording -/

section Erasure

variable {τ : Type} {f : τ → σ}

/-- A result in a state with less in it. -/
def mapState (f : τ → σ) : EStateM.Result ε τ α → EStateM.Result ε σ α
  | .ok a t => .ok a (f t)
  | .error e t => .error e (f t)

/-- Forgetting what `y` records gives `x`. -/
def Erases (f : τ → σ) (y : EStateM ε τ α) (x : EStateM ε σ α) : Prop :=
  ∀ t, mapState f (y t) = x (f t)

theorem Erases.pure (a : α) : Erases f (pure a : EStateM ε τ α) (pure a) := fun _ => rfl

theorem Erases.throw (e : ε) : Erases f (throw e : EStateM ε τ α) (throw e) := fun _ => rfl

theorem Erases.modify {g : τ → τ} {h : σ → σ} (heq : ∀ t, f (g t) = h (f t)) :
    Erases f (modify g : EStateM ε τ PUnit) (modify h) := by
  intro t
  show EStateM.Result.ok _ (f (g t)) = EStateM.Result.ok _ (h (f t))
  rw [heq]

theorem Erases.answer (r : Except ε α) : Erases f (answer r : EStateM ε τ α) (answer r) := by
  cases r with
  | ok a => exact Erases.pure a
  | error e => exact Erases.throw e

theorem Erases.bind {y : EStateM ε τ α} {x : EStateM ε σ α} {g : α → EStateM ε τ β}
    {h : α → EStateM ε σ β} (hyx : Erases f y x) (hgh : ∀ a, Erases f (g a) (h a)) :
    Erases f (y >>= g) (x >>= h) := by
  intro t
  have ht := hyx t
  rw [run_bind, run_bind, ← ht]
  cases y t with
  | ok a t' => exact hgh a t'
  | error e t' => rfl

theorem Erases.forM {g : α → EStateM ε τ PUnit} {h : α → EStateM ε σ PUnit} {l : List α}
    (hgh : ∀ a ∈ l, Erases f (g a) (h a)) : Erases f (l.forM g) (l.forM h) := by
  induction l with
  | nil => exact Erases.pure _
  | cons a l ih =>
    refine Erases.bind (hgh a List.mem_cons_self) fun _ => ?_
    exact ih fun b hb => hgh b (List.mem_cons_of_mem a hb)

theorem Erases.foldlM {g : β → α → EStateM ε τ β} {h : β → α → EStateM ε σ β} {l : List α}
    (hgh : ∀ b a, Erases f (g b a) (h b a)) (b : β) : Erases f (l.foldlM g b) (l.foldlM h b) := by
  induction l generalizing b with
  | nil => exact Erases.pure b
  | cons a l ih =>
    rw [List.foldlM_cons, List.foldlM_cons]
    exact Erases.bind (hgh b a) ih

theorem Erases.onFailure {y : EStateM ε τ α} {x : EStateM ε σ α} {c : EStateM ε τ PUnit}
    {d : EStateM ε σ PUnit} (hyx : Erases f y x) (hcd : Erases f c d) :
    Erases f (onFailure y c) (onFailure x d) := by
  intro t
  have ht := hyx t
  unfold Coroutine.onFailure
  rw [← ht]
  cases y t with
  | ok a t' => rfl
  | error e t' =>
    have ht' := hcd t'
    simp only [mapState, ← ht']
    cases c t' with
    | ok u t'' => rfl
    | error e' t'' => rfl

end Erasure

end Coroutine
