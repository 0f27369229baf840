import Mathlib.Data.List.Forall2
import Mathlib.Algebra.BigOperators.Group.List.Basic
import Mathlib.Algebra.Order.BigOperators.Group.List
import Mathlib.Algebra.Order.Ring.Nat

/-!
# Filling slots of limited capacity

A row of slots has a capacity each, and things are put in one at a time, always where there is
room.  As long as fewer things are in than fit altogether, some slot has room (`exists_room`); when
as many are in as fit, every slot is full (`eq_of_sum_eq`).
-/

namespace Capacities

variable {used capacities : List ℕ}

/-- Slot by slot, what is used does not exceed the capacity. -/
def Within (used capacities : List ℕ) : Prop := List.Forall₂ (· ≤ ·) used capacities

/-- One more thing in slot `i`. -/
def take (used : List ℕ) (i : ℕ) : List ℕ := used.modify i (· + 1)

theorem within_zero (capacities : List ℕ) :
    Within (List.replicate capacities.length 0) capacities := by
  induction capacities with
  | nil => exact List.Forall₂.nil
  | cons c capacities ih => exact List.Forall₂.cons (Nat.zero_le c) ih

theorem Within.exists_room (h : Within used capacities) (hsum : used.sum < capacities.sum) :
    ∃ i < capacities.length, used.getD i 0 < capacities.getD i 0 := by
  induction h with
  | nil => exact absurd hsum (by simp)
  | @cons u c used capacities hle _ ih =>
    by_cases hroom : u < c
    · exact ⟨0, by simp, by simpa using hroom⟩
    · obtain ⟨i, hi, hlt⟩ := ih (by simp only [List.sum_cons] at hsum; omega)
      exact ⟨i + 1, by simpa using hi, by simpa using hlt⟩

theorem Within.eq_of_sum_eq (h : Within used capacities) (hsum : used.sum = capacities.sum) :
    used = capacities := by
  induction h with
  | nil => rfl
  | @cons u c used capacities hle hrest ih =>
    have hsums : used.sum ≤ capacities.sum := List.Forall₂.sum_le_sum hrest
    simp only [List.sum_cons] at hsum
    rw [ih (by omega), show u = c by omega]

theorem Within.take {i : ℕ} (h : Within used capacities)
    (hroom : used.getD i 0 < capacities.getD i 0) : Within (take used i) capacities := by
  induction h generalizing i with
  | nil => exact absurd hroom (by simp)
  | @cons u c used capacities hle hrest ih =>
    cases i with
    | zero => exact List.Forall₂.cons (Nat.succ_le_of_lt (by simpa using hroom)) hrest
    | succ i => exact List.Forall₂.cons hle (ih (by simpa using hroom))

@[simp] theorem length_take (used : List ℕ) (i : ℕ) : (take used i).length = used.length :=
  List.length_modify ..

theorem sum_take {i : ℕ} (hi : i < used.length) : (take used i).sum = used.sum + 1 := by
  induction used generalizing i with
  | nil => exact absurd hi (by simp)
  | cons u used ih =>
    cases i with
    | zero =>
      show u + 1 + used.sum = u + used.sum + 1
      omega
    | succ i =>
      show u + (Capacities.take used i).sum = u + used.sum + 1
      rw [ih (by simpa using hi)]
      omega

theorem getD_take {i : ℕ} (hi : i < used.length) (j : ℕ) :
    (take used i).getD j 0 = used.getD j 0 + if i = j then 1 else 0 := by
  rw [take, List.getD_eq_getElem?_getD, List.getElem?_modify, List.getD_eq_getElem?_getD]
  by_cases hij : i = j
  · subst hij
    simp [hi]
  · simp [hij]

end Capacities
