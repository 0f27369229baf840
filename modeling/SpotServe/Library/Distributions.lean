import Mathlib.Algebra.BigOperators.Ring.List
import Mathlib.Algebra.Order.BigOperators.Group.List
import Mathlib.Algebra.Order.Field.Basic
import Mathlib.Tactic.Ring

/-!
# Distributions over a list of places

Weights that are not negative and sum to one.  Counts become a distribution by dividing by their
total, and two distributions are blended by a convex combination; which places carry the weights
does not matter, so that the places stay a plain list.

* `IsDistribution.share`: the shares of counts in their total; `shareOn`: that of some places.
* `IsDistribution.mix`: the blend of two distributions; `sum_mix`: its sum over some places.
-/

namespace Distributions

variable {ι K : Type*} [Field K] [LinearOrder K]

/-- Weights on a list of places that are not negative and sum to one. -/
structure IsDistribution (places : List ι) (weight : ι → K) : Prop where
  nonneg : ∀ i ∈ places, 0 ≤ weight i
  sum_eq_one : (places.map weight).sum = 1

variable {places : List ι} {p q : ι → K}

/-- Only the weights on the places count. -/
theorem IsDistribution.congr (hp : IsDistribution places p) (h : ∀ i ∈ places, q i = p i) :
    IsDistribution places q := by
  constructor
  · intro i hi
    rw [h i hi]
    exact hp.nonneg i hi
  · rw [List.map_congr_left h, hp.sum_eq_one]

variable [IsStrictOrderedRing K]

/-- **The shares of counts in their total.** -/
theorem IsDistribution.share {count : ι → K} (hcount : ∀ i ∈ places, 0 ≤ count i)
    (htotal : 0 < (places.map count).sum) :
    IsDistribution places fun i => count i / (places.map count).sum := by
  constructor
  · intro i hi
    exact div_nonneg (hcount i hi) htotal.le
  · have hmul : (places.map fun i => count i / (places.map count).sum).sum =
        (places.map count).sum * ((places.map count).sum)⁻¹ := by
      rw [← List.sum_map_mul_right]
      simp only [div_eq_mul_inv]
    rw [hmul, mul_inv_cancel₀ htotal.ne']

/-- **The blend of two distributions.** -/
theorem IsDistribution.mix (hp : IsDistribution places p) (hq : IsDistribution places q) {a : K}
    (ha : 0 ≤ a) (ha' : a ≤ 1) : IsDistribution places fun i => a * p i + (1 - a) * q i := by
  constructor
  · intro i hi
    have hfirst : 0 ≤ a * p i := mul_nonneg ha (hp.nonneg i hi)
    have hsecond : 0 ≤ (1 - a) * q i := mul_nonneg (sub_nonneg.mpr ha') (hq.nonneg i hi)
    exact add_nonneg hfirst hsecond
  · rw [List.sum_map_add, List.sum_map_mul_left, List.sum_map_mul_left, hp.sum_eq_one,
      hq.sum_eq_one]
    ring

omit [IsStrictOrderedRing K] [LinearOrder K]

/-- What counts put on some of the places, as a share of their total. -/
def shareOn (places : List ι) (count : ι → K) (on : ι → Bool) : K :=
  ((places.filter on).map count).sum / (places.map count).sum

theorem sum_filter_share (places : List ι) (count : ι → K) (on : ι → Bool) :
    ((places.filter on).map fun i => count i / (places.map count).sum).sum =
      shareOn places count on := by
  simp only [div_eq_mul_inv, List.sum_map_mul_right, shareOn]

theorem sum_mix (places : List ι) (p q : ι → K) (a b : K) :
    (places.map fun i => a * p i + b * q i).sum =
      a * (places.map p).sum + b * (places.map q).sum := by
  rw [List.sum_map_add, List.sum_map_mul_left, List.sum_map_mul_left]

end Distributions
