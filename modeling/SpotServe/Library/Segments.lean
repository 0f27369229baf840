import Mathlib.Algebra.GroupWithZero.Nat
import Mathlib.Data.List.FinRange
import Mathlib.Data.List.Basic
import Mathlib.Algebra.BigOperators.Group.List.Basic
import Mathlib.Logic.Function.Basic

/-!
# Lists in segments, and stable sorting by a bucket number

A list that is sent to `n` receivers is cut into `n` consecutive segments of given lengths.

* `segment_flatMap`: cutting a concatenation at the lengths of its parts gives the parts back.
* `getElem?_flatMap_uniform`: reading a concatenation of parts of one length.
* `perm_flatMap_filter`: going through the keys one after the other regroups a list.
* `mergeSort_eq_flatMap_filter`: a stable sort by a key with `n` values is the concatenation of the
  `n` buckets, each in the order of the original list.
-/

namespace Segments

variable {α : Type*} {n : ℕ}

/-! ## Cutting -/

/-- Where the segment of `d` starts. -/
def start (counts : Fin n → ℕ) (d : Fin n) : ℕ :=
  (((List.finRange n).take d).map counts).sum

/-- The segment of `d`, when a list is cut at the lengths `counts`. -/
def segment (counts : Fin n → ℕ) (l : List α) (d : Fin n) : List α :=
  (l.drop (start counts d)).take (counts d)

theorem finRange_split (d : Fin n) :
    List.finRange n = (List.finRange n).take d ++ d :: (List.finRange n).drop (d + 1) := by
  have hlt : (d : ℕ) < (List.finRange n).length := by
    rw [List.length_finRange]
    exact d.isLt
  have hget : (List.finRange n)[(d : ℕ)] = d := by simp
  calc List.finRange n
      = (List.finRange n).take d ++ (List.finRange n).drop d := (List.take_append_drop _ _).symm
    _ = (List.finRange n).take d ++ d :: (List.finRange n).drop (d + 1) := by
        rw [List.drop_eq_getElem_cons hlt, hget]

/-- **Cutting a concatenation.** -/
theorem segment_flatMap (parts : Fin n → List α) {counts : Fin n → ℕ}
    (hcounts : ∀ d, counts d = (parts d).length) (d : Fin n) :
    segment counts ((List.finRange n).flatMap parts) d = parts d := by
  have hstart : start counts d = (((List.finRange n).take d).flatMap parts).length := by
    rw [start, List.length_flatMap]
    exact congrArg List.sum (List.map_congr_left fun d' _ => hcounts d')
  unfold segment
  rw [hstart, hcounts d, finRange_split d, List.flatMap_append, List.flatMap_cons]
  have htake : ((List.finRange n).take d ++ d :: (List.finRange n).drop (d + 1)).take d =
      (List.finRange n).take d := by rw [← finRange_split d]
  rw [htake, List.drop_left, List.take_left]

theorem sum_counts_flatMap (parts : Fin n → List α) {counts : Fin n → ℕ}
    (hcounts : ∀ d, counts d = (parts d).length) :
    ((List.finRange n).map counts).sum = ((List.finRange n).flatMap parts).length := by
  rw [List.length_flatMap]
  exact congrArg List.sum (List.map_congr_left fun d _ => hcounts d)

/-- Reading a concatenation of parts that all have the same length. -/
theorem getElem?_flatMap_uniform {parts : Fin n → List α} {m : ℕ}
    (hlength : ∀ d, (parts d).length = m) (d : Fin n) {s : ℕ} (hs : s < m) :
    ((List.finRange n).flatMap parts)[d * m + s]? = (parts d)[s]? := by
  have hbefore : (((List.finRange n).take d).flatMap parts).length = d * m := by
    rw [List.length_flatMap, List.map_congr_left fun d' _ => hlength d', List.map_const',
      List.sum_replicate_nat, List.length_take, List.length_finRange,
      Nat.min_eq_left d.isLt.le]
  rw [finRange_split d, List.flatMap_append, List.flatMap_cons,
    List.getElem?_append_right (by rw [hbefore]; omega), hbefore, Nat.add_sub_cancel_left,
    List.getElem?_append_left (by rw [hlength d]; exact hs)]

/-! ## Regrouping -/

/-- **Regrouping by keys** that leave out none loses nothing and doubles nothing. -/
theorem perm_flatMap_filter {κ : Type*} [DecidableEq κ] (key : α → κ) {keys : List κ}
    (hkeys : keys.Nodup) {l : List α} (h : ∀ a ∈ l, key a ∈ keys) :
    (keys.flatMap fun k => l.filter fun a => key a = k).Perm l := by
  induction keys generalizing l with
  | nil =>
    obtain rfl : l = [] := List.eq_nil_iff_forall_not_mem.mpr fun a ha => List.not_mem_nil (h a ha)
    exact List.Perm.refl []
  | cons k keys ih =>
    obtain ⟨hnew, hkeys⟩ := List.nodup_cons.mp hkeys
    have hrest : ∀ a ∈ l.filter (fun a => !decide (key a = k)), key a ∈ keys := by
      intro a ha
      obtain ⟨hmem, hne⟩ := List.mem_filter.mp ha
      exact (List.mem_cons.mp (h a hmem)).resolve_left (by simpa using hne)
    have hsame : (keys.flatMap fun k' => l.filter fun a => key a = k') =
        keys.flatMap fun k' =>
          (l.filter fun a => !decide (key a = k)).filter fun a => key a = k' := by
      refine List.flatMap_congr fun k' hk' => ?_
      rw [List.filter_filter]
      refine List.filter_congr fun a _ => ?_
      by_cases heq : key a = k'
      · have hne : key a ≠ k := fun hk => hnew (hk ▸ heq ▸ hk')
        simp [heq, heq ▸ hne]
      · simp [heq]
    rw [List.flatMap_cons, hsame]
    exact ((ih hkeys hrest).append_left _).trans (List.filter_append_perm _ l)

/-! ## Stable sorting by buckets -/

/-- Putting an item in front of the first bucket that is not empty puts it in front of the
concatenation. -/
theorem flatMap_update_cons {buckets : List (Fin n)} (hsorted : buckets.Pairwise (· < ·))
    {f : Fin n → List α} {c : Fin n} (hc : c ∈ buckets) (hempty : ∀ d < c, f d = []) (a : α) :
    buckets.flatMap (Function.update f c (a :: f c)) = a :: buckets.flatMap f := by
  induction buckets with
  | nil => exact absurd hc (by simp)
  | cons d rest ih =>
    obtain ⟨hfirst, hrest⟩ := List.pairwise_cons.mp hsorted
    rw [List.flatMap_cons, List.flatMap_cons]
    by_cases hd : d = c
    · subst hd
      rw [Function.update_self, List.cons_append]
      congr 2
      refine List.flatMap_congr fun d' hd' => ?_
      exact Function.update_of_ne (ne_of_gt (hfirst d' hd')) _ _
    · have hmem : c ∈ rest := by
        rcases List.mem_cons.mp hc with h | h
        · exact absurd h.symm hd
        · exact h
      rw [Function.update_of_ne hd, hempty d (hfirst c hmem), List.nil_append, List.nil_append]
      exact ih hrest hmem

/-- A list sorted by a bucket number is the concatenation of its buckets. -/
theorem eq_flatMap_filter (key : α → Fin n) {l : List α}
    (hsorted : l.Pairwise fun a b => key a ≤ key b) :
    l = (List.finRange n).flatMap fun d => l.filter fun a => key a = d := by
  induction l with
  | nil => simp
  | cons a l ih =>
    obtain ⟨hfirst, hrest⟩ := List.pairwise_cons.mp hsorted
    have hupdate : (fun d => (a :: l).filter fun b => key b = d) =
        Function.update (fun d => l.filter fun b => key b = d) (key a)
          (a :: l.filter fun b => key b = key a) := by
      funext d
      by_cases hd : key a = d
      · subst hd
        rw [Function.update_self, List.filter_cons_of_pos (by simp)]
      · rw [Function.update_of_ne (Ne.symm hd), List.filter_cons_of_neg (by simpa using hd)]
    have hempty : ∀ d < key a, (l.filter fun b => key b = d) = [] := by
      intro d hd
      rw [List.filter_eq_nil_iff]
      intro b hb heq
      have := hfirst b hb
      rw [of_decide_eq_true heq] at this
      exact absurd hd (not_lt.mpr this)
    rw [hupdate, flatMap_update_cons (List.pairwise_lt_finRange n) (List.mem_finRange _) hempty,
      ← ih hrest]

section Stable

variable (key : α → Fin n)

theorem key_trans (a b c : α) (hab : decide (key a ≤ key b) = true)
    (hbc : decide (key b ≤ key c) = true) : decide (key a ≤ key c) = true :=
  decide_eq_true ((of_decide_eq_true hab).trans (of_decide_eq_true hbc))

theorem key_total (a b : α) : (decide (key a ≤ key b) || decide (key b ≤ key a)) = true := by
  simpa using le_total (key a) (key b)

/-- A stable sort keeps every bucket as it was. -/
theorem filter_mergeSort (l : List α) (d : Fin n) :
    ((l.mergeSort fun a b => key a ≤ key b).filter fun a => key a = d) =
      l.filter fun a => key a = d := by
  have hbucket : (l.filter fun a => key a = d).Pairwise
      fun a b => decide (key a ≤ key b) = true := by
    refine List.pairwise_of_forall_mem_list fun a ha b hb => decide_eq_true ?_
    rw [of_decide_eq_true (List.mem_filter.mp ha).2, of_decide_eq_true (List.mem_filter.mp hb).2]
  have hsub := (List.sublist_mergeSort (key_trans key) (key_total key) hbucket
    List.filter_sublist).filter fun a => decide (key a = d)
  rw [List.filter_filter] at hsub
  simp only [Bool.and_self] at hsub
  refine (hsub.eq_of_length ?_).symm
  exact ((List.mergeSort_perm l _).filter _).length_eq.symm

/-- **Stable bucket sort.** -/
theorem mergeSort_eq_flatMap_filter (l : List α) :
    (l.mergeSort fun a b => key a ≤ key b) =
      (List.finRange n).flatMap fun d => l.filter fun a => key a = d := by
  have hsorted := List.pairwise_mergeSort (key_trans key) (key_total key) l
  rw [eq_flatMap_filter key (hsorted.imp fun h => of_decide_eq_true h)]
  exact List.flatMap_congr fun d _ => filter_mergeSort key l d

end Stable

end Segments
