import Mathlib.Algebra.GroupWithZero.Nat
import Mathlib.Data.List.Basic
import Mathlib.Algebra.BigOperators.Group.List.Basic
import Mathlib.Tactic.SplitIfs

/-!
# Items packed one after the other, and ranges copied between memories

`pack size s l` gives the items of `l` consecutive addresses from `s` on.  The ranges lie inside
`[s, s + total)` (`bounds_of_mem_pack`), are pairwise disjoint (`pairwise_pack`) and leave no
address out (`exists_mem_pack`).

A memory is a function on addresses, and `slice` lists a range of it.  `copyRange` copies a range of
one memory into another, `copyAll` runs a list of such copies out of one memory, and `copyEach` a
list of copies that each have a memory of their own.  When the target ranges are pairwise disjoint,
every copy is still there at the end (`copyAll_apply`); when they overlap but agree, what they agree
on is (`copyEach_apply`).
-/

namespace Packing

section Pack

variable {α : Type*} (size : α → ℕ)

/-- The room a list of items takes. -/
def total (l : List α) : ℕ := (l.map size).sum

/-- The items of a list with the addresses they get, the first one at `s`. -/
def pack (s : ℕ) : List α → List (α × ℕ)
  | [] => []
  | a :: l => (a, s) :: pack (s + size a) l

@[simp] theorem total_nil : total size [] = 0 := rfl

@[simp] theorem total_cons (a : α) (l : List α) : total size (a :: l) = size a + total size l := by
  simp [total]

@[simp] theorem total_append (l l' : List α) :
    total size (l ++ l') = total size l + total size l' := by
  simp [total]

theorem pack_append (s : ℕ) (l l' : List α) :
    pack size s (l ++ l') = pack size s l ++ pack size (s + total size l) l' := by
  induction l generalizing s with
  | nil => simp [pack]
  | cons a l ih =>
    rw [List.cons_append, pack, pack, ih, total_cons, List.cons_append, Nat.add_assoc]

theorem mem_of_mem_pack {s : ℕ} {l : List α} {a : α} {o : ℕ} (h : (a, o) ∈ pack size s l) :
    a ∈ l := by
  induction l generalizing s with
  | nil => exact absurd h (by simp [pack])
  | cons b l ih =>
    rw [pack, List.mem_cons, Prod.mk.injEq] at h
    rcases h with ⟨rfl, -⟩ | h
    · exact List.mem_cons_self
    · exact List.mem_cons_of_mem b (ih h)

theorem exists_of_mem {l : List α} {a : α} (h : a ∈ l) (s : ℕ) : ∃ o, (a, o) ∈ pack size s l := by
  induction l generalizing s with
  | nil => exact absurd h (by simp)
  | cons b l ih =>
    rcases List.mem_cons.mp h with rfl | h
    · exact ⟨s, List.mem_cons_self⟩
    · obtain ⟨o, ho⟩ := ih h (s + size b)
      exact ⟨o, List.mem_cons_of_mem _ ho⟩

/-- Every range lies inside the packed room. -/
theorem bounds_of_mem_pack {s : ℕ} {l : List α} {a : α} {o : ℕ} (h : (a, o) ∈ pack size s l) :
    s ≤ o ∧ o + size a ≤ s + total size l := by
  induction l generalizing s with
  | nil => exact absurd h (by simp [pack])
  | cons b l ih =>
    rw [pack, List.mem_cons, Prod.mk.injEq] at h
    rw [total_cons]
    rcases h with ⟨rfl, rfl⟩ | h
    · omega
    · have := ih h
      omega

/-- A later item starts where an earlier one has ended. -/
theorem pairwise_pack (s : ℕ) (l : List α) :
    (pack size s l).Pairwise fun x y => x.2 + size x.1 ≤ y.2 := by
  induction l generalizing s with
  | nil => exact List.Pairwise.nil
  | cons a l ih =>
    refine List.Pairwise.cons ?_ (ih _)
    rintro ⟨b, o⟩ hb
    exact (bounds_of_mem_pack size hb).1

/-- Every address of the packed room belongs to an item. -/
theorem exists_mem_pack {s : ℕ} {l : List α} {b : ℕ} (hs : s ≤ b) (hb : b < s + total size l) :
    ∃ a o, (a, o) ∈ pack size s l ∧ o ≤ b ∧ b < o + size a := by
  induction l generalizing s with
  | nil =>
    rw [total_nil] at hb
    omega
  | cons a l ih =>
    rw [total_cons] at hb
    by_cases h : b < s + size a
    · exact ⟨a, s, List.mem_cons_self, hs, h⟩
    · obtain ⟨a', o, hmem, hlo, hhi⟩ := ih (s := s + size a) (by omega) (by omega)
      exact ⟨a', o, List.mem_cons_of_mem _ hmem, hlo, hhi⟩

/-- In a list without repetition an item stands behind those before it. -/
theorem eq_total_of_mem_pack [DecidableEq α] {s : ℕ} {l : List α} (hl : l.Nodup) {a : α} {o : ℕ}
    (h : (a, o) ∈ pack size s l) : o = s + total size (l.takeWhile (· ≠ a)) := by
  induction l generalizing s with
  | nil => exact absurd h (by simp [pack])
  | cons b l ih =>
    obtain ⟨hb, hl⟩ := List.nodup_cons.mp hl
    rw [pack, List.mem_cons, Prod.mk.injEq] at h
    rcases h with ⟨rfl, rfl⟩ | h
    · rw [List.takeWhile_cons_of_neg (by simp)]
      rfl
    · have hne : b ≠ a := fun heq => hb (heq ▸ mem_of_mem_pack size h)
      rw [ih hl h, List.takeWhile_cons_of_pos (by simpa using hne), total_cons, Nat.add_assoc]

/-- The ranges of two different items share no address. -/
theorem disjoint_of_mem_pack {s : ℕ} {l : List α} {a a' : α} {o o' i j : ℕ} (hne : a ≠ a')
    (h : (a, o) ∈ pack size s l) (h' : (a', o') ∈ pack size s l) (hi : i < size a)
    (hj : j < size a') : o + i ≠ o' + j := by
  induction l generalizing s with
  | nil => exact absurd h (by simp [pack])
  | cons b l ih =>
    rw [pack, List.mem_cons, Prod.mk.injEq] at h h'
    rcases h with ⟨rfl, rfl⟩ | h
    · rcases h' with ⟨rfl, -⟩ | h'
      · exact absurd rfl hne
      · have := (bounds_of_mem_pack size h').1
        omega
    · rcases h' with ⟨rfl, rfl⟩ | h'
      · have := (bounds_of_mem_pack size h).1
        omega
      · exact ih h h'

end Pack

section Copy

variable {B : Type*}

/-- The memory `target` after `count` bytes of `source` at `src` were copied to `dst`. -/
def copyRange (source : ℕ → B) (src count dst : ℕ) (target : ℕ → B) : ℕ → B := fun a =>
  if dst ≤ a ∧ a < dst + count then source (src + (a - dst)) else target a

theorem copyRange_inside (source : ℕ → B) (src count dst : ℕ) (target : ℕ → B) {i : ℕ}
    (hi : i < count) : copyRange source src count dst target (dst + i) = source (src + i) := by
  rw [copyRange, if_pos (by omega), Nat.add_sub_cancel_left]

theorem copyRange_outside (source : ℕ → B) (src count dst : ℕ) (target : ℕ → B) {a : ℕ}
    (ha : a < dst ∨ dst + count ≤ a) : copyRange source src count dst target a = target a := by
  rw [copyRange, if_neg (by omega)]

theorem copyRange_congr {source source' : ℕ → B} {src count dst : ℕ} {target : ℕ → B}
    (h : ∀ i < count, source (src + i) = source' (src + i)) :
    copyRange source src count dst target = copyRange source' src count dst target := by
  funext a
  unfold copyRange
  split_ifs with ha
  · exact h (a - dst) (by omega)
  · rfl

/-- The `count` bytes of a memory from `start` on. -/
def slice (memory : ℕ → B) (start count : ℕ) : List B :=
  (List.range count).map fun i => memory (start + i)

@[simp] theorem length_slice (memory : ℕ → B) (start count : ℕ) :
    (slice memory start count).length = count := by
  simp [slice]

@[simp] theorem slice_zero (memory : ℕ → B) (start : ℕ) : slice memory start 0 = [] := rfl

theorem getElem?_slice (memory : ℕ → B) {start count i : ℕ} (hi : i < count) :
    (slice memory start count)[i]? = some (memory (start + i)) := by
  simp [slice, hi]

theorem slice_add (memory : ℕ → B) (start count count' : ℕ) :
    slice memory start (count + count') =
      slice memory start count ++ slice memory (start + count) count' := by
  unfold slice
  rw [List.range_add, List.map_append, List.map_map]
  congr 2
  funext i
  rw [Function.comp_apply, Nat.add_assoc]

theorem slice_congr {memory memory' : ℕ → B} {start start' count : ℕ}
    (h : ∀ i < count, memory (start + i) = memory' (start' + i)) :
    slice memory start count = slice memory' start' count :=
  List.map_congr_left fun i hi => h i (List.mem_range.mp hi)

/-- A buffer filled up to `dst` and then by a copy. -/
theorem slice_copyRange (source : ℕ → B) (src count dst : ℕ) (target : ℕ → B) :
    slice (copyRange source src count dst target) 0 (dst + count) =
      slice target 0 dst ++ slice source src count := by
  rw [slice_add, Nat.zero_add]
  congr 1
  · exact slice_congr fun i hi => copyRange_outside source src count dst target (by omega)
  · exact slice_congr fun i hi => copyRange_inside source src count dst target hi

variable {γ : Type*} (src count dst : γ → ℕ)

/-- A list of copies out of one memory, run in order. -/
def copyAll (source : ℕ → B) (chunks : List γ) (target : ℕ → B) : ℕ → B :=
  chunks.foldl (fun mem c => copyRange source (src c) (count c) (dst c) mem) target

/-- A list of copies, each out of a memory of its own, run in order. -/
def copyEach (source : γ → ℕ → B) (chunks : List γ) (target : ℕ → B) : ℕ → B :=
  chunks.foldl (fun mem c => copyRange (source c) (src c) (count c) (dst c) mem) target

theorem copyEach_outside (source : γ → ℕ → B) {chunks : List γ} (target : ℕ → B) {a : ℕ}
    (h : ∀ c ∈ chunks, a < dst c ∨ dst c + count c ≤ a) :
    copyEach src count dst source chunks target a = target a := by
  induction chunks generalizing target with
  | nil => rfl
  | cons c chunks ih =>
    have hc := h c List.mem_cons_self
    have hrest := ih (copyRange (source c) (src c) (count c) (dst c) target)
      fun c' hc' => h c' (List.mem_cons_of_mem c hc')
    exact hrest.trans (copyRange_outside (source c) _ _ _ target hc)

/-- Copies out of one memory are copies each out of its own. -/
theorem copyAll_outside (source : ℕ → B) {chunks : List γ} (target : ℕ → B) {a : ℕ}
    (h : ∀ c ∈ chunks, a < dst c ∨ dst c + count c ≤ a) :
    copyAll src count dst source chunks target a = target a :=
  copyEach_outside src count dst (fun _ => source) target h

/-- **Reading a copy back.**  When the targets follow each other, every copied range is intact
after the whole list has run. -/
theorem copyAll_apply (source : ℕ → B) {chunks : List γ} (target : ℕ → B)
    (hp : chunks.Pairwise fun x y => dst x + count x ≤ dst y) {c : γ} (hc : c ∈ chunks) {i : ℕ}
    (hi : i < count c) :
    copyAll src count dst source chunks target (dst c + i) = source (src c + i) := by
  induction chunks generalizing target with
  | nil => exact absurd hc (by simp)
  | cons c' chunks ih =>
    obtain ⟨hfirst, hrest⟩ := List.pairwise_cons.mp hp
    rcases List.mem_cons.mp hc with rfl | hc
    · have hlater : ∀ c' ∈ chunks, dst c + i < dst c' ∨ dst c' + count c' ≤ dst c + i := by
        intro c' hc'
        have := hfirst c' hc'
        omega
      exact (copyAll_outside src count dst source _ hlater).trans
        (copyRange_inside source _ _ _ target hi)
    · exact ih _ hrest hc

/-- **Copies that agree.**  When all copies that reach an address bring the same byte, and one of
them does, that byte is there at the end, in whatever order they run. -/
theorem copyEach_apply (source : γ → ℕ → B) {chunks : List γ} (target : ℕ → B) {a : ℕ} {b : B}
    (hagree : ∀ c ∈ chunks, dst c ≤ a → a < dst c + count c → source c (src c + (a - dst c)) = b)
    (hex : ∃ c ∈ chunks, dst c ≤ a ∧ a < dst c + count c) :
    copyEach src count dst source chunks target a = b := by
  induction chunks generalizing target with
  | nil =>
    obtain ⟨c, hc, -⟩ := hex
    exact absurd hc (by simp)
  | cons c chunks ih =>
    have hlater := fun c' hc' => hagree c' (List.mem_cons_of_mem c hc')
    by_cases hrest : ∃ c' ∈ chunks, dst c' ≤ a ∧ a < dst c' + count c'
    · exact ih _ hlater hrest
    · obtain ⟨c', hc', hlo, hhi⟩ := hex
      obtain rfl : c' = c := by
        rcases List.mem_cons.mp hc' with h | h
        · exact h
        · exact absurd ⟨c', h, hlo, hhi⟩ hrest
      have houtside : ∀ c ∈ chunks, a < dst c ∨ dst c + count c ≤ a := by
        intro c hc
        by_contra hin
        exact hrest ⟨c, hc, by omega, by omega⟩
      calc copyEach src count dst source (c' :: chunks) target a
          = copyRange (source c') (src c') (count c') (dst c') target a :=
            copyEach_outside src count dst source _ houtside
        _ = source c' (src c' + (a - dst c')) := by rw [copyRange, if_pos ⟨hlo, hhi⟩]
        _ = b := hagree c' hc' hlo hhi

end Copy

end Packing
