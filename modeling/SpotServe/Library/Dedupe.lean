import Mathlib.Data.List.Basic
import Mathlib.Tactic.SplitIfs

/-!
# The first item of every key

`keepFirst key seen items` goes along a list and leaves out the items whose key has been met, in
`seen` or on an earlier item.  An item may have no key, and then it always stays.

* `keepFirst_append`: what stays of a list that comes after another one, whose keys have been met.
* `keepFirst_eq_nil_iff`: nothing stays exactly when every item has a key that was met before.
* `pairwise_keepFirst`: the keys of what stays are different; `keyless_sublist_keepFirst`: the items
  without a key stay as often as they come.
-/

namespace Dedupe

variable {α κ : Type*} [DecidableEq κ] (key : α → Option κ)

/-- The items without a key, and the first one of every key that is not in `seen`. -/
def keepFirst : List κ → List α → List α
  | _, [] => []
  | seen, a :: rest =>
    match key a with
    | none => a :: keepFirst seen rest
    | some k => if k ∈ seen then keepFirst seen rest else a :: keepFirst (k :: seen) rest

variable {key}

theorem keepFirst_cons_of_none {a : α} (h : key a = none) (seen : List κ) (rest : List α) :
    keepFirst key seen (a :: rest) = a :: keepFirst key seen rest := by
  simp only [keepFirst, h]

theorem keepFirst_cons_of_mem {a : α} {k : κ} (h : key a = some k) {seen : List κ} (hk : k ∈ seen)
    (rest : List α) : keepFirst key seen (a :: rest) = keepFirst key seen rest := by
  simp only [keepFirst, h, if_pos hk]

theorem keepFirst_cons_of_notMem {a : α} {k : κ} (h : key a = some k) {seen : List κ}
    (hk : k ∉ seen) (rest : List α) :
    keepFirst key seen (a :: rest) = a :: keepFirst key (k :: seen) rest := by
  simp only [keepFirst, h, if_neg hk]

/-- Only which keys have been met matters. -/
theorem keepFirst_congr {seen seen' : List κ} (h : ∀ k, k ∈ seen ↔ k ∈ seen') (items : List α) :
    keepFirst key seen items = keepFirst key seen' items := by
  induction items generalizing seen seen' with
  | nil => rfl
  | cons a rest ih =>
    cases hkey : key a with
    | none => rw [keepFirst_cons_of_none hkey, keepFirst_cons_of_none hkey, ih h]
    | some k =>
      by_cases hk : k ∈ seen
      · rw [keepFirst_cons_of_mem hkey hk, keepFirst_cons_of_mem hkey ((h k).mp hk), ih h]
      · have hcons : ∀ j, j ∈ k :: seen ↔ j ∈ k :: seen' := fun j => by
          rw [List.mem_cons, List.mem_cons, h j]
        rw [keepFirst_cons_of_notMem hkey hk,
          keepFirst_cons_of_notMem hkey (fun hmem => hk ((h k).mpr hmem)), ih hcons]

/-- After the items of another list, their keys have been met. -/
theorem keepFirst_append (seen : List κ) (items items' : List α) :
    keepFirst key seen (items ++ items') =
      keepFirst key seen items ++ keepFirst key (items.filterMap key ++ seen) items' := by
  induction items generalizing seen with
  | nil => rfl
  | cons a rest ih =>
    cases hkey : key a with
    | none =>
      rw [List.cons_append, keepFirst_cons_of_none hkey, keepFirst_cons_of_none hkey, ih,
        List.filterMap_cons_none hkey, List.cons_append]
    | some k =>
      rw [List.cons_append, List.filterMap_cons_some hkey]
      by_cases hk : k ∈ seen
      · have hmet : ∀ j, j ∈ rest.filterMap key ++ seen ↔ j ∈ k :: rest.filterMap key ++ seen := by
          intro j
          rw [List.cons_append, List.mem_cons]
          exact ⟨Or.inr, fun hj => hj.elim (fun hjk => List.mem_append_right _ (hjk ▸ hk)) id⟩
        rw [keepFirst_cons_of_mem hkey hk, keepFirst_cons_of_mem hkey hk, ih,
          keepFirst_congr hmet]
      · have hmet : ∀ j, j ∈ rest.filterMap key ++ k :: seen ↔
            j ∈ k :: rest.filterMap key ++ seen := by
          intro j
          simp only [List.cons_append, List.mem_append, List.mem_cons]
          tauto
        rw [keepFirst_cons_of_notMem hkey hk, keepFirst_cons_of_notMem hkey hk, ih,
          keepFirst_congr hmet]
        exact (List.cons_append).symm

variable (key) in
theorem keepFirst_sublist (seen : List κ) (items : List α) :
    (keepFirst key seen items).Sublist items := by
  induction items generalizing seen with
  | nil => exact List.Sublist.slnil
  | cons a rest ih =>
    cases hkey : key a with
    | none =>
      rw [keepFirst_cons_of_none hkey]
      exact (ih seen).cons_cons a
    | some k =>
      by_cases hk : k ∈ seen
      · rw [keepFirst_cons_of_mem hkey hk]
        exact (ih seen).cons a
      · rw [keepFirst_cons_of_notMem hkey hk]
        exact (ih (k :: seen)).cons_cons a

/-- Nothing stays exactly when all keys have been met before. -/
theorem keepFirst_eq_nil_iff {seen : List κ} {items : List α} :
    keepFirst key seen items = [] ↔ ∀ a ∈ items, ∃ k ∈ seen, key a = some k := by
  induction items with
  | nil => simp [keepFirst]
  | cons a rest ih =>
    rw [List.forall_mem_cons]
    cases hkey : key a with
    | none =>
      rw [keepFirst_cons_of_none hkey]
      simp
    | some k =>
      by_cases hk : k ∈ seen
      · rw [keepFirst_cons_of_mem hkey hk, ih]
        exact ⟨fun h => ⟨⟨k, hk, rfl⟩, h⟩, And.right⟩
      · rw [keepFirst_cons_of_notMem hkey hk]
        refine ⟨fun h => absurd h (List.cons_ne_nil _ _), ?_⟩
        rintro ⟨⟨k', hk', heq⟩, -⟩
        obtain rfl := Option.some.inj heq
        exact absurd hk' hk

/-- What stays has a key that was not met, or none. -/
theorem notMem_of_mem_keepFirst {seen : List κ} {items : List α} {a : α}
    (ha : a ∈ keepFirst key seen items) {k : κ} (hkey : key a = some k) : k ∉ seen := by
  induction items generalizing seen with
  | nil => exact absurd ha List.not_mem_nil
  | cons b rest ih =>
    cases hb : key b with
    | none =>
      rw [keepFirst_cons_of_none hb] at ha
      rcases List.mem_cons.mp ha with rfl | ha
      · exact absurd (hb.symm.trans hkey) (by simp)
      · exact ih ha
    | some j =>
      by_cases hj : j ∈ seen
      · rw [keepFirst_cons_of_mem hb hj] at ha
        exact ih ha
      · rw [keepFirst_cons_of_notMem hb hj] at ha
        rcases List.mem_cons.mp ha with rfl | ha
        · obtain rfl := Option.some.inj (hb.symm.trans hkey)
          exact hj
        · exact fun hmem => ih ha (List.mem_cons_of_mem _ hmem)

variable (key) in
/-- What stays has different keys, where it has any. -/
theorem pairwise_keepFirst (seen : List κ) (items : List α) :
    (keepFirst key seen items).Pairwise fun a b => ∀ k, key a = some k → key b ≠ some k := by
  induction items generalizing seen with
  | nil => exact List.Pairwise.nil
  | cons a rest ih =>
    cases hkey : key a with
    | none =>
      rw [keepFirst_cons_of_none hkey]
      refine List.Pairwise.cons (fun b _ k ha => ?_) (ih seen)
      exact absurd (hkey.symm.trans ha) (by simp)
    | some j =>
      by_cases hj : j ∈ seen
      · rw [keepFirst_cons_of_mem hkey hj]
        exact ih seen
      · rw [keepFirst_cons_of_notMem hkey hj]
        refine List.Pairwise.cons (fun b hb k ha hbk => ?_) (ih (j :: seen))
        obtain rfl := Option.some.inj (hkey.symm.trans ha)
        exact notMem_of_mem_keepFirst hb hbk List.mem_cons_self

variable (key) in
/-- The items without a key all stay. -/
theorem keyless_sublist_keepFirst (seen : List κ) (items : List α) :
    (items.filter fun a => (key a).isNone).Sublist (keepFirst key seen items) := by
  induction items generalizing seen with
  | nil => exact List.Sublist.slnil
  | cons a rest ih =>
    cases hkey : key a with
    | none =>
      rw [keepFirst_cons_of_none hkey, List.filter_cons_of_pos (by rw [hkey]; rfl)]
      exact (ih seen).cons_cons a
    | some k =>
      rw [List.filter_cons_of_neg (by rw [hkey]; simp)]
      by_cases hk : k ∈ seen
      · rw [keepFirst_cons_of_mem hkey hk]
        exact ih seen
      · rw [keepFirst_cons_of_notMem hkey hk]
        exact (ih (k :: seen)).cons a

end Dedupe
