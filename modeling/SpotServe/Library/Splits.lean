import Mathlib.Data.List.Forall2
import Mathlib.Algebra.BigOperators.Group.List.Basic
import Mathlib.Algebra.Order.BigOperators.Group.List
import Mathlib.Algebra.Order.Group.Unbundled.Int
import Mathlib.Algebra.Order.Group.Unbundled.Abs
import Mathlib.Order.WellFounded
import Mathlib.Tactic.Ring

/-!
# Cutting a list into consecutive parts of limited size

`Fitting size limits items parts` says that `items` is cut into nonempty consecutive `parts`, one
for each of the `limits`, none of them larger than its limit.

* `fitting_snoc_iff`: a split for one more limit is a split of a prefix, and a last part.
* `Fitting.take`: the first parts of a split are a split of what they cover.
* `spread_pair`, `lastGap_singleton`: for two parts, how far the last one is from the others is how
  far the parts are apart.
* `exists_least_spread`: one of the splits has the least spread.
-/

namespace Splits

variable {α : Type*} (size : α → ℤ)

/-- The size of a list of items. -/
def total (items : List α) : ℤ := (items.map size).sum

/-- Consecutive nonempty parts, each within its limit. -/
structure Fitting (limits : List ℤ) (items : List α) (parts : List (List α)) : Prop where
  flatten : parts.flatten = items
  nonempty : ∀ part ∈ parts, part ≠ []
  fits : List.Forall₂ (fun part limit => total size part ≤ limit) parts limits

/-- The largest of some numbers less the smallest. -/
def spread (sizes : List ℤ) : ℤ := sizes.max?.getD 0 - sizes.min?.getD 0

/-- The largest of the differences between the last number and those before it, of numbers that are
not negative. -/
def lastGap (fronts : List ℤ) (last : ℤ) : ℤ :=
  match fronts.min? with
  | none => 0
  | some least => max |least - last| |fronts.foldl max 0 - last|

@[simp] theorem total_nil : total size [] = 0 := rfl

@[simp] theorem total_cons (item : α) (items : List α) :
    total size (item :: items) = size item + total size items := List.sum_cons

theorem total_append (items items' : List α) :
    total size (items ++ items') = total size items + total size items' := by
  rw [total, List.map_append, List.sum_append]
  rfl

/-- The items that pass a test, and those that do not. -/
theorem total_filter_add (p : α → Bool) (items : List α) :
    total size (items.filter p) + total size (items.filter fun item => !p item) =
      total size items := by
  induction items with
  | nil => rfl
  | cons item rest ih =>
    cases hp : p item with
    | false =>
      rw [List.filter_cons_of_neg (by simp [hp]), List.filter_cons_of_pos (by simp [hp]),
        total_cons, total_cons, ← ih]
      omega
    | true =>
      rw [List.filter_cons_of_pos (by simp [hp]), List.filter_cons_of_neg (by simp [hp]),
        total_cons, total_cons, ← ih]
      omega

/-- Each item is as much smaller. -/
theorem total_sub_const (c : ℤ) (items : List α) :
    total (fun item => size item - c) items = total size items - c * items.length := by
  induction items with
  | nil => simp
  | cons item rest ih =>
    rw [total_cons, total_cons, ih, List.length_cons]
    push_cast
    ring

variable {size} in
/-- One item has another size. -/
theorem total_update [DecidableEq α] {size' : α → ℤ} {item : α} {items : List α}
    (hnodup : items.Nodup) (h : ∀ item' ∈ items, item' ≠ item → size' item' = size item') :
    total size' items =
      total size items + if item ∈ items then size' item - size item else 0 := by
  induction items with
  | nil => rfl
  | cons first rest ih =>
    obtain ⟨hfirst, hrest⟩ := List.nodup_cons.mp hnodup
    have ih := ih hrest fun item' hitem' => h item' (List.mem_cons_of_mem first hitem')
    rw [total_cons, total_cons, ih]
    by_cases heq : first = item
    · rw [if_neg (heq ▸ hfirst), if_pos (heq ▸ List.mem_cons_self), heq]
      omega
    · rw [h first List.mem_cons_self heq]
      simp only [List.mem_cons, Ne.symm heq, false_or]
      omega

/-- The smallest number, of one more. -/
theorem min?_concat (sizes : List ℤ) (last : ℤ) :
    (sizes ++ [last]).min? = match sizes.min? with
      | none => some last
      | some least => some (min least last) := by
  cases sizes with
  | nil => rfl
  | cons first rest =>
    rw [List.cons_append, List.min?_cons', List.min?_cons', List.foldl_append]
    rfl

theorem spread_singleton (a : ℤ) : spread [a] = 0 := sub_self a

/-- **Two parts.** -/
theorem spread_pair (a b : ℤ) : spread [a, b] = |a - b| := by
  show max a b - min a b = |a - b|
  exact max_sub_min_eq_abs' a b

theorem lastGap_singleton {a : ℤ} (ha : 0 ≤ a) (b : ℤ) : lastGap [a] b = |a - b| := by
  show max |a - b| |max 0 a - b| = |a - b|
  rw [max_eq_right ha, max_self]

/-- The largest number is not below the smallest one. -/
theorem spread_nonneg (sizes : List ℤ) : 0 ≤ spread sizes := by
  cases hmax : sizes.max? with
  | none =>
    rw [List.max?_eq_none_iff.mp hmax]
    exact le_rfl
  | some most =>
    cases hmin : sizes.min? with
    | none =>
      rw [List.min?_eq_none_iff.mp hmin]
      exact le_rfl
    | some least =>
      rw [spread, hmax, hmin, Option.getD_some, Option.getD_some]
      exact sub_nonneg.mpr ((List.min?_eq_some_iff.mp hmin).2 _ (List.max?_mem hmax))

variable {size}

namespace Fitting

variable {limits : List ℤ} {items : List α} {parts : List (List α)}

theorem length_eq (h : Fitting size limits items parts) : parts.length = limits.length :=
  h.fits.length_eq

/-- No limit is left over for fewer items. -/
theorem length_le (h : Fitting size limits items parts) : limits.length ≤ items.length := by
  have hlength : parts.length ≤ parts.flatten.length := by
    have hnonempty := h.nonempty
    clear h
    induction parts with
    | nil => exact Nat.zero_le _
    | cons part rest ih =>
      rw [List.flatten_cons, List.length_append, List.length_cons]
      have hpart := List.length_pos_iff.mpr (hnonempty part List.mem_cons_self)
      have hrest := ih fun part' hpart' => hnonempty part' (List.mem_cons_of_mem part hpart')
      omega
  rw [← h.length_eq, ← h.flatten]
  exact hlength

/-- **The first parts.** -/
theorem take (h : Fitting size limits items parts) (k : ℕ) :
    Fitting size (limits.take k) (parts.take k).flatten (parts.take k) where
  flatten := rfl
  nonempty := fun part hpart => h.nonempty part (List.mem_of_mem_take hpart)
  fits := List.forall₂_take k h.fits

/-- A part is within its limit. -/
theorem total_le_of_getElem? (h : Fitting size limits items parts) {k : ℕ} {part : List α}
    (hpart : parts[k]? = some part) :
    ∃ limit, limits[k]? = some limit ∧ total size part ≤ limit := by
  obtain ⟨hk, rfl⟩ := List.getElem?_eq_some_iff.mp hpart
  have hk' : k < limits.length := h.length_eq ▸ hk
  exact ⟨limits[k], List.getElem?_eq_getElem hk', h.fits.get hk hk'⟩

theorem nil : Fitting size [] ([] : List α) [] where
  flatten := rfl
  nonempty := fun _ hpart => absurd hpart List.not_mem_nil
  fits := .nil

/-- One more part. -/
theorem snoc (h : Fitting size limits items parts) {part : List α} {limit : ℤ} (hne : part ≠ [])
    (hfits : total size part ≤ limit) :
    Fitting size (limits ++ [limit]) (items ++ part) (parts ++ [part]) where
  flatten := by rw [List.flatten_append, h.flatten, List.flatten_singleton]
  nonempty := by
    intro part' hpart'
    rcases List.mem_append.mp hpart' with hpart' | hpart'
    · exact h.nonempty part' hpart'
    · rw [List.mem_singleton.mp hpart']
      exact hne
  fits := List.rel_append h.fits (.cons hfits .nil)

end Fitting

/-- Among all splits one has the least spread. -/
theorem exists_least_spread {limits : List ℤ} {items : List α} {parts : List (List α)}
    (h : Fitting size limits items parts) :
    ∃ best, Fitting size limits items best ∧ ∀ parts', Fitting size limits items parts' →
      spread (best.map (total size)) ≤ spread (parts'.map (total size)) := by
  obtain ⟨best, hbest, hleast⟩ := (measure fun parts : List (List α) =>
    (spread (parts.map (total size))).toNat).wf.has_min {parts | Fitting size limits items parts}
      ⟨parts, h⟩
  refine ⟨best, hbest, fun parts' hparts' => ?_⟩
  have hle : (spread (best.map (total size))).toNat ≤ (spread (parts'.map (total size))).toNat :=
    not_lt.mp (hleast parts' hparts')
  have hnonneg := spread_nonneg (parts'.map (total size))
  omega

/-- **A split for one more limit.** -/
theorem fitting_snoc_iff {limits : List ℤ} {limit : ℤ} {items : List α} {parts : List (List α)} :
    Fitting size (limits ++ [limit]) items parts ↔
      ∃ front part, ∃ fronts, items = front ++ part ∧ parts = fronts ++ [part] ∧
        Fitting size limits front fronts ∧ part ≠ [] ∧ total size part ≤ limit := by
  constructor
  · intro h
    have hne : parts ≠ [] := by
      rintro rfl
      have hlength := h.length_eq
      simp at hlength
    obtain ⟨fronts, part, rfl⟩ := List.eq_nil_or_concat' parts |>.resolve_left hne
    have hlength : fronts.length = limits.length := by
      have hlength := h.length_eq
      simpa using hlength
    have hfronts := List.forall₂_take_append _ _ _ h.fits
    have hlast := List.forall₂_drop_append _ _ _ h.fits
    rw [← hlength, List.take_left] at hfronts
    rw [← hlength, List.drop_left, List.forall₂_cons] at hlast
    refine ⟨fronts.flatten, part, fronts, ?_, rfl, ⟨rfl, ?_, hfronts⟩, ?_, hlast.1⟩
    · rw [← h.flatten, List.flatten_append, List.flatten_singleton]
    · exact fun part' hpart' => h.nonempty part' (List.mem_append_left _ hpart')
    · exact h.nonempty part (List.mem_append_right _ List.mem_cons_self)
  · rintro ⟨front, part, fronts, rfl, rfl, h, hne, hfits⟩
    exact h.snoc hne hfits

end Splits
