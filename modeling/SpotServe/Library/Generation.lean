import Mathlib.Algebra.Order.Group.Nat
import Mathlib.Data.List.Basic

/-!
# Generating a text token by token

A decoder appends to a text the token that it chooses for it, again and again, until it has chosen a
token that ends the text or has appended as many as it may.  Decoding is a function of the text, so
that it can be interrupted after any token and taken up again; how many tokens there are is what
this file is about.

* `Decoder.extend`, `Decoder.generate`: tokens without an end, and until the end or the budget.
* `Decoder.Open`: the first tokens do not end the text.
* `Decoder.stops_eq_of_open`, `Decoder.stops_eq_of_end`: where the generation stops.
-/

namespace Generation

/-- What is chosen for a text, and which tokens end it. -/
structure Decoder (τ : Type*) where
  next : List τ → τ
  ends : τ → Bool

namespace Decoder

variable {τ : Type*} (decoder : Decoder τ)

/-- A text with `n` tokens more. -/
def extend : ℕ → List τ → List τ
  | 0, text => text
  | n + 1, text => extend n (text ++ [decoder.next text])

/-- The tokens until one ends the text, and at most `budget` of them. -/
def generate : ℕ → List τ → List τ
  | 0, text => text
  | budget + 1, text =>
    let token := decoder.next text
    if decoder.ends token then text ++ [token] else generate budget (text ++ [token])

/-- None of the first `n` tokens ends the text. -/
def Open (text : List τ) (n : ℕ) : Prop :=
  ∀ i < n, decoder.ends (decoder.next (decoder.extend i text)) = false

instance (text : List τ) (n : ℕ) : Decidable (decoder.Open text n) :=
  inferInstanceAs (Decidable (∀ i < n, decoder.ends (decoder.next (decoder.extend i text)) = false))

@[simp] theorem extend_zero (text : List τ) : decoder.extend 0 text = text := rfl

theorem extend_succ (n : ℕ) (text : List τ) :
    decoder.extend (n + 1) text = decoder.extend n (text ++ [decoder.next text]) := rfl

theorem extend_add (m n : ℕ) (text : List τ) :
    decoder.extend (m + n) text = decoder.extend n (decoder.extend m text) := by
  induction m generalizing text with
  | zero => rw [Nat.zero_add, extend_zero]
  | succ m ih => rw [Nat.succ_add, extend_succ, extend_succ, ih]

/-- The last token comes after the others. -/
theorem extend_succ_last (n : ℕ) (text : List τ) :
    decoder.extend (n + 1) text =
      decoder.extend n text ++ [decoder.next (decoder.extend n text)] := by
  rw [extend_add, extend_succ, extend_zero]

@[simp] theorem length_extend (n : ℕ) (text : List τ) :
    (decoder.extend n text).length = text.length + n := by
  induction n generalizing text with
  | zero => rfl
  | succ n ih =>
    rw [extend_succ, ih, List.length_append, List.length_singleton]
    omega

/-- How long a text has become tells how many tokens there are. -/
theorem extend_inj {m n : ℕ} {text : List τ} :
    decoder.extend m text = decoder.extend n text ↔ m = n := by
  constructor
  · intro h
    have hlength := congrArg List.length h
    rw [length_extend, length_extend] at hlength
    omega
  · rintro rfl
    rfl

/-! ## How many tokens there are -/

/-- The number of tokens that are generated. -/
def stops : ℕ → List τ → ℕ
  | 0, _ => 0
  | budget + 1, text =>
    if decoder.ends (decoder.next text) then 1
    else stops budget (text ++ [decoder.next text]) + 1

theorem generate_eq_extend (budget : ℕ) (text : List τ) :
    decoder.generate budget text = decoder.extend (decoder.stops budget text) text := by
  induction budget generalizing text with
  | zero => rfl
  | succ budget ih =>
    rw [generate, stops]
    split_ifs
    · rfl
    · rw [ih, extend_succ]

theorem open_succ {text : List τ} {n : ℕ} :
    decoder.Open text (n + 1) ↔ decoder.ends (decoder.next text) = false ∧
      decoder.Open (text ++ [decoder.next text]) n := by
  constructor
  · intro h
    refine ⟨h 0 (Nat.succ_pos n), fun i hi => ?_⟩
    rw [← extend_succ]
    exact h (i + 1) (Nat.succ_lt_succ hi)
  · rintro ⟨hfirst, hrest⟩ i hi
    cases i with
    | zero => exact hfirst
    | succ i =>
      rw [extend_succ]
      exact hrest i (Nat.lt_of_succ_lt_succ hi)

theorem open_succ_last {text : List τ} {n : ℕ} :
    decoder.Open text (n + 1) ↔
      decoder.Open text n ∧ decoder.ends (decoder.next (decoder.extend n text)) = false := by
  constructor
  · exact fun h => ⟨fun i hi => h i (Nat.lt_succ_of_lt hi), h n (Nat.lt_succ_self n)⟩
  · rintro ⟨hbefore, hlast⟩ i hi
    rcases Nat.lt_succ_iff_lt_or_eq.mp hi with hlt | rfl
    · exact hbefore i hlt
    · exact hlast

/-- While a text is open the tokens are those before and those after. -/
theorem stops_add {text : List τ} {m : ℕ} (h : decoder.Open text m) (budget : ℕ) :
    decoder.stops (m + budget) text = m + decoder.stops budget (decoder.extend m text) := by
  induction m generalizing text with
  | zero => rw [Nat.zero_add, Nat.zero_add, extend_zero]
  | succ m ih =>
    obtain ⟨hfirst, hrest⟩ := (decoder.open_succ).mp h
    rw [Nat.succ_add, stops, if_neg (by rw [hfirst]; exact Bool.false_ne_true), ih hrest,
      extend_succ]
    omega

theorem stops_eq_of_open {text : List τ} {budget : ℕ} (h : decoder.Open text budget) :
    decoder.stops budget text = budget := by
  have hadd := decoder.stops_add h 0
  rwa [Nat.add_zero, stops, Nat.add_zero] at hadd

/-- An end within the budget decides how many tokens there are. -/
theorem stops_eq_of_end {text : List τ} {i budget : ℕ} (hopen : decoder.Open text i)
    (hend : decoder.ends (decoder.next (decoder.extend i text)) = true) (hi : i < budget) :
    decoder.stops budget text = i + 1 := by
  obtain ⟨rest, rfl⟩ := Nat.exists_eq_add_of_lt hi
  rw [Nat.add_assoc, decoder.stops_add hopen, stops, if_pos hend]

end Decoder

end Generation
