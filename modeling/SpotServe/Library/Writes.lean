import Mathlib.Data.List.Count
import Mathlib.Data.List.Induction
import Mathlib.Data.List.Perm.Basic
import Mathlib.Data.List.Nodup
import Mathlib.Data.List.Range

/-!
# Writing at distinct places of a list

A loop that assigns to the places of a list, no place twice: each place ends up with what was
written there (`getElem?_writeAll`), the others keep what they had (`getElem?_writeAll_of_notMem`),
and a loop that visits all places in some order permutes what it writes (`writeAll_perm`).  Two
lists in which everything occurs equally often never differ at one place only
(`exists_second_difference`).
-/

namespace Writes

variable {α : Type*}

/-- `for place, value in pairs: values[place] = value`. -/
def writeAll (pairs : List (ℕ × α)) (values : List α) : List α :=
  pairs.foldl (fun values p => values.set p.1 p.2) values

@[simp] theorem length_writeAll (pairs : List (ℕ × α)) (values : List α) :
    (writeAll pairs values).length = values.length := by
  unfold writeAll
  induction pairs generalizing values with
  | nil => rfl
  | cons p pairs ih => rw [List.foldl_cons, ih, List.length_set]

theorem getElem?_writeAll_of_notMem {pairs : List (ℕ × α)} {values : List α} {k : ℕ}
    (hk : k ∉ pairs.map Prod.fst) : (writeAll pairs values)[k]? = values[k]? := by
  unfold writeAll
  induction pairs generalizing values with
  | nil => rfl
  | cons p pairs ih =>
    rw [List.map_cons, List.mem_cons, not_or] at hk
    rw [List.foldl_cons, ih hk.2, List.getElem?_set_ne (Ne.symm hk.1)]

/-- Each place keeps what was written there. -/
theorem getElem?_writeAll {pairs : List (ℕ × α)} (hnodup : (pairs.map Prod.fst).Nodup)
    {values : List α} {k : ℕ} {v : α} (hmem : (k, v) ∈ pairs) (hk : k < values.length) :
    (writeAll pairs values)[k]? = some v := by
  unfold writeAll
  induction pairs using List.reverseRecOn with
  | nil => exact absurd hmem (by simp)
  | append_singleton pairs p ih =>
    rw [List.map_append, List.nodup_append] at hnodup
    rw [List.foldl_append, List.foldl_cons, List.foldl_nil]
    rcases List.mem_append.mp hmem with hold | hnew
    · have hne : p.1 ≠ k := fun h => hnodup.2.2 k (List.mem_map.mpr ⟨_, hold, rfl⟩) p.1 (by simp)
        h.symm
      rw [List.getElem?_set_ne hne, ih hnodup.1 hold]
    · obtain rfl := List.mem_singleton.mp hnew
      exact List.getElem?_set_self (by rw [← writeAll, length_writeAll]; exact hk)

/-- Going through all places in some order and writing what the position in that order says. -/
theorem writeAll_perm {ordered : List ℕ} {n : ℕ} (hperm : ordered.Perm (List.range n)) (f : ℕ → α)
    {values : List α} (hlength : values.length = n) :
    (writeAll (ordered.zipIdx.map fun entry => (entry.1, f entry.2)) values).Perm
      ((List.range n).map f) := by
  have hnodup : ordered.Nodup := hperm.nodup_iff.mpr List.nodup_range
  have hordered : ordered.length = n := by rw [hperm.length_eq, List.length_range]
  have hfst : ((ordered.zipIdx.map fun entry : ℕ × ℕ => (entry.1, f entry.2)).map Prod.fst) =
      ordered := by
    rw [List.map_map]
    exact List.zipIdx_map_fst 0 ordered
  have hwritten : writeAll (ordered.zipIdx.map fun entry => (entry.1, f entry.2)) values =
      (List.range n).map fun e => f (ordered.idxOf e) := by
    refine List.ext_getElem? fun e => ?_
    by_cases he : e < n
    · have hmem : e ∈ ordered := by rw [hperm.mem_iff, List.mem_range]; exact he
      have hidx := List.idxOf_lt_length_iff.mpr hmem
      rw [List.getElem?_map, List.getElem?_range he, Option.map_some]
      refine getElem?_writeAll (by rw [hfst]; exact hnodup) (List.mem_map.mpr
        ⟨(e, ordered.idxOf e), ?_, rfl⟩) (by rw [hlength]; exact he)
      rw [List.mem_zipIdx_iff_getElem?, List.getElem?_eq_getElem hidx, List.getElem_idxOf]
    · rw [List.getElem?_eq_none (by rw [length_writeAll, hlength]; omega),
        List.getElem?_eq_none (by simpa using he)]
  have hread : ordered.map (fun e => f (ordered.idxOf e)) = (List.range n).map f := by
    refine List.ext_getElem (by simp [hordered]) fun i hi _ => ?_
    rw [List.getElem_map, List.getElem_map, List.getElem_range, hnodup.idxOf_getElem]
  rw [hwritten, ← hread]
  exact hperm.symm.map _

/-- Changing one place of a list changes how often something occurs. -/
theorem exists_second_difference [DecidableEq α] {xs ys : List α} (hlength : xs.length = ys.length)
    (hcount : ∀ a ∈ ys, xs.count a = ys.count a) {i : ℕ} (hdiffer : xs[i]? ≠ ys[i]?) :
    ∃ j, j ≠ i ∧ xs[j]? ≠ ys[j]? := by
  by_contra hsame
  have hothers : ∀ j, j ≠ i → xs[j]? = ys[j]? := by
    intro j hj
    by_contra hne
    exact hsame ⟨j, hj, hne⟩
  by_cases hi : i < ys.length
  · have hi' : i < xs.length := by rw [hlength]; exact hi
    have hset : ys = xs.set i ys[i] := by
      refine List.ext_getElem? fun j => ?_
      by_cases hj : j = i
      · rw [hj, List.getElem?_set_self hi', List.getElem?_eq_getElem hi]
      · rw [List.getElem?_set_ne (Ne.symm hj), hothers j hj]
    have hne : (xs[i] == ys[i]) = false := by
      rw [beq_eq_false_iff_ne]
      intro h
      exact hdiffer (by rw [List.getElem?_eq_getElem hi', List.getElem?_eq_getElem hi, h])
    have hmore : (xs.set i ys[i]).count ys[i] = xs.count ys[i] + 1 := by
      rw [List.count_set hi', hne]
      simp
    have hwhole := congrArg (List.count ys[i]) hset
    have hequal := hcount ys[i] (List.getElem_mem hi)
    omega
  · have hi' : xs.length ≤ i := by omega
    exact hdiffer (by rw [List.getElem?_eq_none hi', List.getElem?_eq_none (by omega)])

end Writes
