import Mathlib.Data.Int.CardIntervalMod
import Mathlib.Data.List.Nodup
import Mathlib.Data.List.Forall2
import Mathlib.Data.List.GetD
import Mathlib.Data.List.Sort
import Mathlib.Algebra.BigOperators.Group.List.Basic
import Mathlib.Algebra.Order.BigOperators.Group.List
import Mathlib.Tactic.Linarith

/-!
# Choosing weighted items, and dealing things out over them

`pickUntil required selected items` goes along a list of weighted items, leaves out those without
weight, and stops as soon as what is picked, on top of `selected`, reaches `required`.

* `pickUntil_sublist`: what is picked is a sublist of the items with weight, in their order.
* `required_le_pickUntil_iff`: the picked items reach `required` exactly when all items together do.

`best key items` is the item of the least key, the first of them in the list
(`key_le_of_best`); smaller keys give a smaller least key (`key_best_le`), and the order of the
items is of no matter when their keys tell them apart (`best_perm`).  A loop that keeps the least
item so far (`keepLess`) ends with one of them (`mem_of_foldl_keepLess`), and with one of the least
key (`key_foldl_keepLess_le`); that is how the least item of a list comes about
(`best_cons`, `best_concat`).

Things that are dealt out in turn over `slots` slots leave `share things slots i` of them in slot
`i` (`countP_mod_eq`).  When the slots' capacities never increase, all shares fit exactly when two
of them do, the one of the last slot and the one of the last slot that gets one more
(`shares_fit_iff`).
-/

namespace Selection

section Pick

variable {α : Type*}

/-- The total weight of a list of items. -/
def weight (items : List (α × ℤ)) : ℤ := (items.map Prod.snd).sum

/-- The items with weight, until `required` is reached. -/
def pickUntil (required : ℤ) : ℤ → List (α × ℤ) → List (α × ℤ)
  | _, [] => []
  | selected, item :: rest =>
    if item.2 ≤ 0 then pickUntil required selected rest
    else if required ≤ selected + item.2 then [item]
    else item :: pickUntil required (selected + item.2) rest

/-- The items that have weight. -/
def weighty (items : List (α × ℤ)) : List (α × ℤ) := items.filter fun item => 0 < item.2

@[simp] theorem weight_nil : weight ([] : List (α × ℤ)) = 0 := rfl

@[simp] theorem weight_cons (item : α × ℤ) (rest : List (α × ℤ)) :
    weight (item :: rest) = item.2 + weight rest := by simp [weight]

theorem weighty_cons_of_pos {item : α × ℤ} (h : 0 < item.2) (rest : List (α × ℤ)) :
    weighty (item :: rest) = item :: weighty rest := by simp [weighty, h]

theorem weighty_cons_of_not_pos {item : α × ℤ} (h : item.2 ≤ 0) (rest : List (α × ℤ)) :
    weighty (item :: rest) = weighty rest := by simp [weighty, not_lt.mpr h]

theorem weight_nonneg {items : List (α × ℤ)} (h : ∀ item ∈ items, 0 ≤ item.2) :
    0 ≤ weight items := by
  refine List.sum_nonneg fun w hw => ?_
  obtain ⟨item, hitem, rfl⟩ := List.mem_map.mp hw
  exact h item hitem

theorem weight_weighty_nonneg (items : List (α × ℤ)) : 0 ≤ weight (weighty items) :=
  weight_nonneg fun item hitem => (by simpa using (List.mem_filter.mp hitem).2 : 0 < item.2).le

/-- Leaving out items without weight loses no weight. -/
theorem weight_le_weight_weighty (items : List (α × ℤ)) :
    weight items ≤ weight (weighty items) := by
  induction items with
  | nil => simp [weighty]
  | cons item rest ih =>
    by_cases h : 0 < item.2
    · rw [weighty_cons_of_pos h, weight_cons, weight_cons]
      exact Int.add_le_add_left ih _
    · rw [weighty_cons_of_not_pos (not_lt.mp h), weight_cons]
      linarith [not_lt.mp h]

theorem weight_perm {items items' : List (α × ℤ)} (h : items.Perm items') :
    weight items = weight items' := (h.map Prod.snd).sum_eq

theorem pickUntil_sublist (required selected : ℤ) (items : List (α × ℤ)) :
    (pickUntil required selected items).Sublist (weighty items) := by
  induction items generalizing selected with
  | nil => simp [pickUntil, weighty]
  | cons item rest ih =>
    rw [pickUntil]
    split_ifs with hweight hreached
    · rw [weighty_cons_of_not_pos hweight]
      exact ih selected
    · rw [weighty_cons_of_pos (not_le.mp hweight)]
      exact (List.nil_sublist _).cons_cons item
    · rw [weighty_cons_of_pos (not_le.mp hweight)]
      exact (ih _).cons_cons item

theorem required_le_pickUntil_iff (required selected : ℤ) (items : List (α × ℤ)) :
    required ≤ selected + weight (pickUntil required selected items) ↔
      required ≤ selected + weight (weighty items) := by
  induction items generalizing selected with
  | nil => simp [pickUntil, weighty]
  | cons item rest ih =>
    rw [pickUntil]
    split_ifs with hweight hreached
    · rw [weighty_cons_of_not_pos hweight]
      exact ih selected
    · have hrest := weight_weighty_nonneg rest
      rw [weighty_cons_of_pos (not_le.mp hweight), weight_cons, weight_cons, weight_nil]
      constructor <;> intro <;> linarith
    · rw [weighty_cons_of_pos (not_le.mp hweight), weight_cons, weight_cons, ← add_assoc,
        ← add_assoc]
      exact ih _

/-- A positive requirement is reached by a list that is not empty. -/
theorem ne_nil_of_le_weight {required : ℤ} {items : List (α × ℤ)} (hpos : 0 < required)
    (h : required ≤ weight items) : items ≠ [] := by
  rintro rfl
  rw [weight_nil] at h
  omega

end Pick

section Best

variable {α β κ : Type*} [LinearOrder κ]

/-- The head of a stable sort by `key`. -/
def best (key : α → κ) (items : List α) : Option α :=
  (items.insertionSort fun a b => key a ≤ key b).head?

theorem best_eq_none_iff {key : α → κ} {items : List α} : best key items = none ↔ items = [] := by
  unfold best
  rw [List.head?_eq_none_iff, ← List.length_eq_zero_iff, List.length_insertionSort,
    List.length_eq_zero_iff]

/-- A list that has an item has a first least one. -/
theorem exists_best (key : α → κ) {items : List α} {a : α} (h : a ∈ items) :
    ∃ b, best key items = some b := by
  rw [← Option.isSome_iff_exists, Option.isSome_iff_ne_none, Ne, best_eq_none_iff]
  exact List.ne_nil_of_mem h

theorem mem_of_best {key : α → κ} {items : List α} {a : α} (h : best key items = some a) :
    a ∈ items :=
  (List.mem_insertionSort _).mp (List.mem_of_mem_head? h)

theorem key_le_of_best {key : α → κ} {items : List α} {a b : α} (h : best key items = some a)
    (hb : b ∈ items) : key a ≤ key b := by
  have : Std.Total fun a b : α => key a ≤ key b := ⟨fun a b => le_total (key a) (key b)⟩
  have : IsTrans α fun a b => key a ≤ key b := ⟨fun _ _ _ => le_trans⟩
  have hsorted := List.pairwise_insertionSort (fun a b => key a ≤ key b) items
  unfold best at h
  have hmem : b ∈ items.insertionSort fun a b => key a ≤ key b := (List.mem_insertionSort _).mpr hb
  obtain ⟨rest, hrest⟩ := List.head?_eq_some_iff.mp h
  rw [hrest] at hsorted hmem
  rcases List.mem_cons.mp hmem with rfl | hmem
  · exact le_rfl
  · exact (List.pairwise_cons.mp hsorted).1 b hmem

/-- Items that their keys tell apart have the same first one in whatever order they come. -/
theorem best_perm {key : α → κ} {items items' : List α} (hperm : items.Perm items')
    (hinj : ∀ a ∈ items, ∀ b ∈ items, key a = key b → a = b) :
    best key items = best key items' := by
  cases hleft : best key items with
  | none =>
    obtain rfl := best_eq_none_iff.mp hleft
    obtain rfl := hperm.nil_eq
    exact hleft.symm
  | some a =>
    cases hright : best key items' with
    | none =>
      obtain rfl := best_eq_none_iff.mp hright
      obtain rfl := hperm.eq_nil
      exact absurd hleft (by simp [best])
    | some b =>
      have ha : a ∈ items' := hperm.subset (mem_of_best hleft)
      have hb : b ∈ items := hperm.symm.subset (mem_of_best hright)
      have hkey : key a = key b := le_antisymm (key_le_of_best hleft hb) (key_le_of_best hright ha)
      rw [hinj a (mem_of_best hleft) b hb hkey]

/-- Two lists of items whose keys are in order, one by one. -/
theorem key_best_le {key : α → κ} {key' : β → κ} {items : List α} {items' : List β}
    (h : List.Forall₂ (fun a b => key a ≤ key' b) items items') :
    Option.Rel (fun a b => key a ≤ key' b) (best key items) (best key' items') := by
  cases hleft : best key items with
  | none =>
    obtain rfl := best_eq_none_iff.mp hleft
    obtain rfl := List.forall₂_nil_left_iff.mp h
    exact .none
  | some a =>
    cases hright : best key' items' with
    | none =>
      obtain rfl := best_eq_none_iff.mp hright
      obtain rfl := List.forall₂_nil_right_iff.mp h
      exact absurd hleft (by simp [best])
    | some b =>
      -- the item that stands over `b` is at most `b`, and `a` is at most that item
      obtain ⟨i, hi, hb⟩ := List.mem_iff_getElem.mp (mem_of_best hright)
      have hi' : i < items.length := h.length_eq ▸ hi
      refine .some ((key_le_of_best hleft (List.getElem_mem hi')).trans ?_)
      rw [← hb]
      exact h.get hi' hi

/-- The candidate, if it is less than what is kept. -/
def keepLess (key : α → κ) : Option α → Option α → Option α
  | kept, none => kept
  | none, some candidate => some candidate
  | some kept, some candidate => if key candidate < key kept then some candidate else some kept

theorem mem_of_foldl_keepLess {key : α → κ} {candidates : List (Option α)} {kept : Option α} {a : α}
    (h : candidates.foldl (keepLess key) kept = some a) : kept = some a ∨ some a ∈ candidates := by
  induction candidates generalizing kept with
  | nil => exact Or.inl h
  | cons candidate rest ih =>
    rw [List.foldl_cons] at h
    rcases ih h with hkept | hrest
    · cases kept with
      | none =>
        cases candidate with
        | none => exact absurd hkept (by simp [keepLess])
        | some b => exact Or.inr (List.mem_cons.mpr (Or.inl hkept.symm))
      | some c =>
        cases candidate with
        | none => exact Or.inl hkept
        | some b =>
          rw [keepLess] at hkept
          split_ifs at hkept
          · exact Or.inr (List.mem_cons.mpr (Or.inl hkept.symm))
          · exact Or.inl hkept
    · exact Or.inr (List.mem_cons_of_mem _ hrest)

/-- What is kept does not get greater. -/
theorem key_keepLess_le (key : α → κ) {kept candidate : Option α} {a : α}
    (h : kept = some a ∨ candidate = some a) :
    ∃ b, keepLess key kept candidate = some b ∧ key b ≤ key a := by
  cases kept with
  | none =>
    obtain rfl := h.resolve_left (by simp)
    exact ⟨a, rfl, le_rfl⟩
  | some c =>
    cases candidate with
    | none =>
      obtain rfl := Option.some.inj (h.resolve_right (by simp))
      exact ⟨c, rfl, le_rfl⟩
    | some b =>
      rw [keepLess]
      split_ifs with hlt
      · refine ⟨b, rfl, ?_⟩
        rcases h with hc | hb
        · exact (Option.some.inj hc) ▸ hlt.le
        · exact le_of_eq (congrArg key (Option.some.inj hb))
      · refine ⟨c, rfl, ?_⟩
        rcases h with hc | hb
        · exact le_of_eq (congrArg key (Option.some.inj hc))
        · exact (Option.some.inj hb) ▸ not_lt.mp hlt

theorem key_foldl_keepLess_le {key : α → κ} {candidates : List (Option α)} {kept : Option α} {a : α}
    (h : kept = some a ∨ some a ∈ candidates) :
    ∃ b, candidates.foldl (keepLess key) kept = some b ∧ key b ≤ key a := by
  induction candidates generalizing kept a with
  | nil =>
    obtain rfl := h.resolve_right List.not_mem_nil
    exact ⟨a, rfl, le_rfl⟩
  | cons candidate rest ih =>
    rw [List.foldl_cons]
    rcases or_assoc.mpr (h.imp_right List.mem_cons.mp) with hfirst | hrest
    · obtain ⟨b, hb, hle⟩ := key_keepLess_le key (hfirst.imp_right fun heq => heq.symm)
      obtain ⟨c, hc, hle'⟩ := ih (Or.inl hb)
      exact ⟨c, hc, hle'.trans hle⟩
    · exact ih (Or.inr hrest)

theorem keepLess_none_left (key : α → κ) (b : Option α) : keepLess key none b = b := by
  cases b <;> rfl

theorem keepLess_none_right (key : α → κ) (a : Option α) : keepLess key a none = a := by
  cases a <;> rfl

/-- Keeping the less of three in either grouping. -/
theorem keepLess_assoc (key : α → κ) (a b c : Option α) :
    keepLess key (keepLess key a b) c = keepLess key a (keepLess key b c) := by
  cases a with
  | none => rw [keepLess_none_left, keepLess_none_left]
  | some a =>
    cases b with
    | none => rw [keepLess_none_right, keepLess_none_left]
    | some b =>
      cases c with
      | none => rw [keepLess_none_right, keepLess_none_right]
      | some c =>
        by_cases hba : key b < key a
        · by_cases hcb : key c < key b
          · simp [keepLess, hba, hcb, hcb.trans hba]
          · simp [keepLess, hba, hcb]
        · by_cases hcb : key c < key b
          · simp [keepLess, hba, hcb]
          · have hca : ¬ key c < key a := fun h => hba ((not_lt.mp hcb).trans_lt h)
            simp [keepLess, hba, hcb, hca]

theorem best_cons (key : α → κ) (a : α) (items : List α) :
    best key (a :: items) = keepLess key (some a) (best key items) := by
  rw [best, best, List.insertionSort_cons]
  cases items.insertionSort fun a b => key a ≤ key b with
  | nil => rfl
  | cons b rest =>
    rw [List.orderedInsert_cons, List.head?_cons, keepLess]
    by_cases h : key a ≤ key b
    · rw [if_pos h, if_neg (not_lt.mpr h), List.head?_cons]
    · rw [if_neg h, if_pos (not_le.mp h), List.head?_cons]

/-- The first of the least items: one that comes last must be less than all before it. -/
theorem best_concat (key : α → κ) (items : List α) (a : α) :
    best key (items ++ [a]) = keepLess key (best key items) (some a) := by
  induction items with
  | nil => rfl
  | cons c items ih => rw [List.cons_append, best_cons, ih, best_cons, keepLess_assoc]

theorem best_map (key : β → κ) (f : α → β) (items : List α) :
    best key (items.map f) = (best (fun a => key (f a)) items).map f := by
  induction items with
  | nil => rfl
  | cons a items ih =>
    rw [List.map_cons, best_cons, best_cons, ih]
    cases best (fun a => key (f a)) items with
    | none => rfl
    | some b =>
      rw [Option.map_some, keepLess, keepLess]
      split_ifs <;> rfl

end Best

section Shares

/-- How many of the `things` that are dealt out in turn over the `slots` land in slot `i`. -/
def share (things slots i : ℕ) : ℕ := things / slots + if i < things % slots then 1 else 0

theorem countP_mod_eq {slots i : ℕ} (hi : i < slots) (things : ℕ) :
    (List.range things).countP (fun thing => thing % slots = i) = share things slots i := by
  have hcount := Nat.count_modEq_card things (Nat.zero_lt_of_lt hi) i
  rw [Nat.mod_eq_of_lt hi] at hcount
  rw [share, ← hcount, Nat.count]
  refine List.countP_congr fun thing _ => ?_
  rw [decide_eq_true_iff, decide_eq_true_iff, Nat.ModEq, Nat.mod_eq_of_lt hi]

/-- Over slots of falling capacity, all shares of things of size `size` fit when the smallest slot
holds the common share and the last slot that gets one more holds that one too. -/
theorem shares_fit_iff {capacities : List ℤ} (hdesc : capacities.Pairwise (· ≥ ·))
    (hne : capacities ≠ []) (things size : ℕ) :
    (∀ i < capacities.length,
        ((share things capacities.length i * size : ℕ) : ℤ) ≤ capacities.getD i 0) ↔
      ((things / capacities.length * size : ℕ) : ℤ) ≤ capacities.getD (capacities.length - 1) 0 ∧
        (0 < things % capacities.length →
          (((things / capacities.length + 1) * size : ℕ) : ℤ) ≤
            capacities.getD (things % capacities.length - 1) 0) := by
  have hlen : 0 < capacities.length := List.length_pos_iff.mpr hne
  have hmod : things % capacities.length < capacities.length := Nat.mod_lt _ hlen
  have hget : ∀ i j, i ≤ j → j < capacities.length →
      capacities.getD j 0 ≤ capacities.getD i 0 := by
    intro i j hij hj
    rw [List.getD_eq_getElem _ _ hj, List.getD_eq_getElem _ _ (hij.trans_lt hj)]
    rcases hij.eq_or_lt with rfl | hlt
    · exact le_rfl
    · exact List.pairwise_iff_get.mp hdesc ⟨i, hij.trans_lt hj⟩ ⟨j, hj⟩ hlt
  constructor
  · intro h
    constructor
    · have hlast := h (capacities.length - 1) (by omega)
      rw [share, if_neg (by omega), Nat.add_zero] at hlast
      exact hlast
    · intro hpos
      have hextra := h (things % capacities.length - 1) (by omega)
      rw [share, if_pos (by omega)] at hextra
      exact hextra
  · rintro ⟨hlast, hextra⟩ i hi
    by_cases h : i < things % capacities.length
    · rw [share, if_pos h]
      exact (hextra (by omega)).trans (hget i _ (by omega) (by omega))
    · rw [share, if_neg h, Nat.add_zero]
      exact hlast.trans (hget i _ (by omega) (by omega))

end Shares

end Selection
