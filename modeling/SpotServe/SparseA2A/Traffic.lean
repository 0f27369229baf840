import Mathlib.Algebra.Order.BigOperators.Group.Finset
import SpotServe.SparseA2A.Equivalence

/-!
# How many rows travel

A rank sends a row once to every other rank that holds one of its experts.  So each choice of an
expert that is elsewhere costs one row at most, and the choices of a row whose experts are on one
other rank cost one row together.

* `selections`: how often some rows select an expert.
* `Separate`: a row without two choices for one other rank.
* `sum_sentTo_le`, `sum_sentTo_eq_iff`: the rows that a rank sends, against the choices.
-/

namespace SpotServe
namespace SparseA2A

variable {R V : Type} {W k E : ℕ}

/-- How often some rows select an expert. -/
def selections (rows : List (TokenRow R V k E)) (e : ℕ) : ℕ :=
  (rows.map fun row => (Finset.univ.filter fun j => (row.ids j : ℕ) = e).card).sum

variable (maps : Fin W → ExpertMap) (r : Fin W)

/-- The choices of a row whose experts the rank does not hold. -/
def choicesElsewhere (row : TokenRow R V k E) : Finset (Fin k) :=
  Finset.univ.filter fun j => (maps r).owns (row.ids j) = false

/-- The other ranks that a row goes to. -/
def ranksElsewhere (row : TokenRow R V k E) : Finset (Fin W) :=
  Finset.univ.filter fun d => d ≠ r ∧ ∃ j, (maps d).owns (row.ids j) = true

/-- No two choices of a row are for the same other rank. -/
def Separate (row : TokenRow R V k E) : Prop :=
  ∀ j j' d, d ≠ r → (maps d).owns (row.ids j) = true → (maps d).owns (row.ids j') = true → j = j'

/-! ## One row -/

section Row

variable {maps} {r} (h : UniqueOwners maps E)
include h

/-- The ranks are the owners of the choices. -/
theorem exists_image_choicesElsewhere (row : TokenRow R V k E) :
    ∃ owner : Fin k → Fin W, (∀ j d, (maps d).owns (row.ids j) = true ↔ owner j = d) ∧
      ranksElsewhere maps r row = (choicesElsewhere maps r row).image owner := by
  choose owner howner hunique using fun j => h (row.ids j) (row.ids j).isLt
  have howns : ∀ j d, (maps d).owns (row.ids j) = true ↔ owner j = d :=
    fun j d => ⟨fun hd => (hunique j d hd).symm, fun hd => hd ▸ howner j⟩
  refine ⟨owner, howns, ?_⟩
  ext d
  simp only [ranksElsewhere, choicesElsewhere, Finset.mem_filter, Finset.mem_univ, true_and,
    Finset.mem_image, ← Bool.not_eq_true, howns]
  constructor
  · rintro ⟨hne, j, rfl⟩
    exact ⟨j, hne, rfl⟩
  · rintro ⟨j, hne, rfl⟩
    exact ⟨hne, j, rfl⟩

theorem card_ranksElsewhere_le (row : TokenRow R V k E) :
    (ranksElsewhere maps r row).card ≤ (choicesElsewhere maps r row).card := by
  obtain ⟨owner, -, himage⟩ := exists_image_choicesElsewhere h row
  rw [himage]
  exact Finset.card_image_le

theorem card_ranksElsewhere_eq_iff (row : TokenRow R V k E) :
    (ranksElsewhere maps r row).card = (choicesElsewhere maps r row).card ↔
      Separate maps r row := by
  obtain ⟨owner, howns, himage⟩ := exists_image_choicesElsewhere h row
  have hmem : ∀ j, j ∈ choicesElsewhere maps r row ↔ owner j ≠ r := by
    intro j
    rw [choicesElsewhere, Finset.mem_filter, ← Bool.not_eq_true, howns]
    exact and_iff_right (Finset.mem_univ j)
  rw [himage, Finset.card_image_iff]
  constructor
  · intro hinj j j' d hd hj hj'
    obtain rfl := (howns j d).mp hj
    have hsame := (howns j' _).mp hj'
    exact hinj ((hmem j).mpr hd) ((hmem j').mpr (hsame ▸ hd)) hsame.symm
  · intro hseparate j hj j' hj' hsame
    exact hseparate j j' (owner j) ((hmem j).mp hj) ((howns j _).mpr rfl)
      ((howns j' _).mpr hsame.symm)

end Row

/-! ## All rows -/

/-- Sums over the items of a list, summed up. -/
theorem sum_sum_map {ι α : Type*} (s : Finset ι) (f : ι → α → ℕ) (items : List α) :
    ∑ i ∈ s, (items.map (f i)).sum = (items.map fun a => ∑ i ∈ s, f i a).sum := by
  induction items with
  | nil => simp
  | cons a items ih => simp only [List.map_cons, List.sum_cons, Finset.sum_add_distrib, ih]

/-- Two sums that agree term by term, if the terms of one are never below those of the other. -/
theorem sum_map_eq_iff {α : Type*} {f g : α → ℕ} {items : List α}
    (hle : ∀ a ∈ items, f a ≤ g a) :
    (items.map f).sum = (items.map g).sum ↔ ∀ a ∈ items, f a = g a := by
  induction items with
  | nil => simp
  | cons a items ih =>
    have hrest := fun b hb => hle b (List.mem_cons_of_mem a hb)
    have hfirst := hle a List.mem_cons_self
    have hsum : (items.map f).sum ≤ (items.map g).sum := List.sum_le_sum hrest
    rw [List.forall_mem_cons, ← ih hrest, List.map_cons, List.map_cons, List.sum_cons,
      List.sum_cons]
    omega

/-- The tokens for a destination, counted row by row. -/
theorem length_tokensFor (owners : List ℕ) (rows : List (TokenRow R V k E)) (d : Fin W) :
    (tokensFor owners rows d).length =
      (rows.map fun row => if goesTo owners row d = true then 1 else 0).sum := by
  unfold tokensFor
  induction rows with
  | nil => rfl
  | cons row rows ih =>
    have hrest : (((List.range rows.length).map Nat.succ).filter fun t =>
        (row :: rows)[t]?.any fun row => goesTo owners row d).length =
          (rows.map fun row => if goesTo owners row d = true then 1 else 0).sum := by
      rw [List.filter_map, List.length_map, ← ih]
      rfl
    rw [List.length_cons, List.range_succ_eq_map, List.map_cons, List.sum_cons, ← hrest]
    by_cases hgoes : goesTo owners row d = true
    · rw [List.filter_cons_of_pos (by simpa using hgoes), List.length_cons, if_pos hgoes,
        Nat.add_comm]
    · rw [List.filter_cons_of_neg (by simpa using hgoes), if_neg hgoes, Nat.zero_add]

variable {maps} (h : UniqueOwners maps E) (rows : List (TokenRow R V k E))
include h

/-- What a rank sends, counted row by row. -/
theorem sum_sentTo :
    ∑ d, (sentTo (ownerTable maps E) rows r d).length =
      (rows.map fun row => (ranksElsewhere maps r row).card).sum := by
  have hlength : ∀ d, (sentTo (ownerTable maps E) rows r d).length = (rows.map fun row =>
      if d ≠ r ∧ ∃ j, (maps d).owns (row.ids j) = true then 1 else 0).sum := by
    intro d
    rw [sentTo]
    by_cases hd : d = r
    · simp [hd]
    · rw [if_neg hd, length_tokensFor]
      simp only [goesTo_iff h, ne_eq, hd, not_false_eq_true, true_and]
  rw [Finset.sum_congr rfl fun d _ => hlength d, sum_sum_map]
  simp only [ranksElsewhere, Finset.card_filter]

omit h in
/-- The choices of experts that are elsewhere, counted row by row. -/
theorem sum_selections :
    ∑ e ∈ Finset.range E with (maps r).owns e = false, selections rows e =
      (rows.map fun row => (choicesElsewhere maps r row).card).sum := by
  simp only [selections]
  rw [sum_sum_map]
  refine congrArg List.sum (List.map_congr_left fun row _ => ?_)
  have hinto : ∀ j ∈ choicesElsewhere maps r row,
      (row.ids j : ℕ) ∈ (Finset.range E).filter fun e => (maps r).owns e = false := by
    intro j hj
    exact Finset.mem_filter.mpr
      ⟨Finset.mem_range.mpr (row.ids j).isLt, (Finset.mem_filter.mp hj).2⟩
  rw [Finset.card_eq_sum_card_fiberwise hinto]
  refine Finset.sum_congr rfl fun e he => congrArg Finset.card ?_
  ext j
  rw [choicesElsewhere, Finset.filter_filter, Finset.mem_filter, Finset.mem_filter]
  refine and_congr_right fun _ => ⟨fun hj => ⟨hj ▸ (Finset.mem_filter.mp he).2, hj⟩, And.right⟩

/-- **A rank sends a row at most** for each choice of an expert that is elsewhere. -/
theorem sum_sentTo_le :
    ∑ d, (sentTo (ownerTable maps E) rows r d).length ≤
      ∑ e ∈ Finset.range E with (maps r).owns e = false, selections rows e := by
  rw [sum_sentTo r h, sum_selections r rows]
  exact List.sum_le_sum fun row _ => card_ranksElsewhere_le h row

/-- It sends one for each if no row has two choices for one other rank. -/
theorem sum_sentTo_eq_iff :
    ∑ d, (sentTo (ownerTable maps E) rows r d).length =
      ∑ e ∈ Finset.range E with (maps r).owns e = false, selections rows e ↔
        ∀ row ∈ rows, Separate maps r row := by
  rw [sum_sentTo r h, sum_selections r rows,
    sum_map_eq_iff fun row _ => card_ranksElsewhere_le h row]
  exact forall₂_congr fun row _ => card_ranksElsewhere_eq_iff h row

end SparseA2A
end SpotServe
