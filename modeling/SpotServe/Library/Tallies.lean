import Mathlib.Data.List.Count
import Mathlib.Algebra.Order.Ring.Nat
import SpotServe.Library.OrderedDict

/-!
# Tallies

A tally is a dictionary of positive numbers: what a program keeps that counts events under keys and
never stores a zero.  A key that is not there counts zero.

* `Tally.put`, `Tally.add`, `Tally.raise`: writing a count, adding to it, raising it to a value.
* `Tally.merge`, `Tally.mergeMax`: one tally into another, by sum or by maximum; `count_merge`,
  `count_mergeMax` read the results.
* `mergeAll`, `mergeMaxAll`: a list of tallies into one.
* `Tally.ofList`: how often the items of a list occur.
-/

namespace Py

/-- A dictionary of positive numbers. -/
structure Tally (κ : Type*) where
  counts : OrderedDict κ ℕ
  positive : ∀ entry ∈ counts.entries, 0 < entry.2

namespace Tally

section Entries

variable {κ : Type*} [DecidableEq κ]

instance : DecidableEq (Tally κ) := fun t t' =>
  decidable_of_iff (t.counts = t'.counts)
    ⟨fun h => by cases t; cases t'; cases h; rfl, fun h => h ▸ rfl⟩

/-- The tally without keys. -/
def empty : Tally κ := ⟨.empty, fun _ h => absurd h List.not_mem_nil⟩

/-- `t.get(key, 0)`. -/
def count (t : Tally κ) (key : κ) : ℕ := (t.counts.get? key).getD 0

/-- `not t`. -/
def isEmpty (t : Tally κ) : Bool := t.counts.entries.isEmpty

/-- `sum(t.values())`. -/
def total (t : Tally κ) : ℕ := t.counts.sumBy fun _ n => n

@[simp] theorem count_empty (key : κ) : (empty : Tally κ).count key = 0 := rfl

theorem positive_set (t : Tally κ) {key : κ} {n : ℕ} (hn : 0 < n) :
    ∀ entry ∈ (t.counts.set key n).entries, 0 < entry.2 := by
  rintro ⟨key', m⟩ hmem
  have hget := (OrderedDict.mem_entries_iff _).mp hmem
  rw [OrderedDict.get?_set] at hget
  split_ifs at hget
  · exact Option.some.inj hget ▸ hn
  · exact t.positive _ (t.counts.mem_entries_iff.mpr hget)

/-- `t[key] = n`, for a count that is positive. -/
def put (t : Tally κ) (key : κ) (n : ℕ) : Tally κ :=
  if h : 0 < n then ⟨t.counts.set key n, t.positive_set h⟩ else t

/-- `if n > 0: t[key] = t.get(key, 0) + n`. -/
def add (t : Tally κ) (key : κ) (n : ℕ) : Tally κ :=
  if 0 < n then t.put key (t.count key + n) else t

/-- `if n > 0: t[key] = max(t.get(key, 0), n)`. -/
def raise (t : Tally κ) (key : κ) (n : ℕ) : Tally κ :=
  if 0 < n then t.put key (max (t.count key) n) else t

/-- `for key, n in source.items()`: every count is added. -/
def merge (target source : Tally κ) : Tally κ :=
  source.counts.entries.foldl (fun t entry => t.add entry.1 entry.2) target

/-- `for key, n in source.items()`: every count raises that of its key. -/
def mergeMax (target source : Tally κ) : Tally κ :=
  source.counts.entries.foldl (fun t entry => t.raise entry.1 entry.2) target

/-- Tallies merged into one, one after the other. -/
def mergeAll (target : Tally κ) (sources : List (Tally κ)) : Tally κ := sources.foldl merge target

/-- Tallies merged into one by the maximum, one after the other. -/
def mergeMaxAll (target : Tally κ) (sources : List (Tally κ)) : Tally κ :=
  sources.foldl mergeMax target

/-- How often each item of a list occurs. -/
def ofList (keys : List κ) : Tally κ := keys.foldl (fun t key => t.add key 1) empty

/-! ## Reading and writing -/

theorem count_put (t : Tally κ) {key : κ} {n : ℕ} (hn : 0 < n) (key' : κ) :
    (t.put key n).count key' = if key = key' then n else t.count key' := by
  rw [put, dif_pos hn, count, OrderedDict.get?_set]
  split_ifs
  · rfl
  · rfl

theorem count_add (t : Tally κ) (key : κ) (n : ℕ) (key' : κ) :
    (t.add key n).count key' = t.count key' + if key = key' then n else 0 := by
  unfold add
  split_ifs with hn hkey hkey
  · rw [count_put t (Nat.add_pos_right _ hn), if_pos hkey, hkey]
  · rw [count_put t (Nat.add_pos_right _ hn), if_neg hkey, Nat.add_zero]
  · omega
  · omega

theorem count_raise (t : Tally κ) (key : κ) (n : ℕ) (key' : κ) :
    (t.raise key n).count key' = max (t.count key') (if key = key' then n else 0) := by
  unfold raise
  split_ifs with hn hkey hkey
  · rw [count_put t (lt_max_of_lt_right hn), if_pos hkey, hkey]
  · rw [count_put t (lt_max_of_lt_right hn), if_neg hkey, Nat.max_zero]
  · rw [Nat.eq_zero_of_not_pos hn, Nat.max_zero]
  · rw [Nat.max_zero]

/-- A key is there exactly when its count is not zero. -/
theorem mem_keys_iff (t : Tally κ) (key : κ) : key ∈ t.counts.keys ↔ 0 < t.count key := by
  rw [OrderedDict.mem_keys_iff, count]
  constructor
  · rintro ⟨n, hn⟩
    rw [hn, Option.getD_some]
    exact t.positive _ (t.counts.mem_entries_iff.mpr hn)
  · intro h
    cases hget : t.counts.get? key with
    | none =>
      rw [hget] at h
      exact absurd h (Nat.lt_irrefl 0)
    | some n => exact ⟨n, rfl⟩

/-- Nothing is counted exactly when there is no entry. -/
theorem isEmpty_iff (t : Tally κ) : t.isEmpty = true ↔ ∀ key, t.count key = 0 := by
  rw [isEmpty, List.isEmpty_iff]
  constructor
  · intro h key
    have hkey : key ∉ t.counts.keys := by
      rw [OrderedDict.keys, h]
      exact List.not_mem_nil
    rw [mem_keys_iff] at hkey
    omega
  · intro h
    rw [List.eq_nil_iff_forall_not_mem]
    rintro ⟨key, n⟩ hmem
    have hkey := (t.mem_keys_iff key).mp (List.mem_map.mpr ⟨_, hmem, rfl⟩)
    rw [h key] at hkey
    exact absurd hkey (Nat.lt_irrefl 0)

/-! ## Merging -/

/-- A loop over the entries of a tally, each of which changes the count of its own key. -/
theorem count_foldl_entries (op : Tally κ → κ → ℕ → Tally κ) (f : ℕ → ℕ → ℕ)
    (hzero : ∀ n, f n 0 = n)
    (hop : ∀ t key n key', (op t key n).count key' =
      f (t.count key') (if key = key' then n else 0))
    (target source : Tally κ) (key : κ) :
    (source.counts.entries.foldl (fun t entry => op t entry.1 entry.2) target).count key =
      f (target.count key) (source.count key) := by
  obtain ⟨⟨entries, nodup⟩, hpositive⟩ := source
  show (entries.foldl (fun t entry => op t entry.1 entry.2) target).count key =
    f (target.count key) ((OrderedDict.getEntry entries key).getD 0)
  clear hpositive
  induction entries generalizing target with
  | nil => rw [List.foldl_nil, OrderedDict.getEntry, Option.getD_none, hzero]
  | cons entry rest ih =>
    obtain ⟨k, n⟩ := entry
    rw [List.map_cons, List.nodup_cons] at nodup
    rw [List.foldl_cons, ih _ nodup.2, hop, OrderedDict.getEntry]
    split_ifs with hkey
    · subst hkey
      rw [OrderedDict.getEntry_eq_none_iff.mpr nodup.1, Option.getD_none, hzero, Option.getD_some]
    · rw [hzero]

/-- **Merging adds the counts.** -/
@[simp] theorem count_merge (target source : Tally κ) (key : κ) :
    (target.merge source).count key = target.count key + source.count key :=
  count_foldl_entries add (· + ·) (fun _ => rfl) count_add target source key

/-- **Merging by the maximum.** -/
@[simp] theorem count_mergeMax (target source : Tally κ) (key : κ) :
    (target.mergeMax source).count key = max (target.count key) (source.count key) :=
  count_foldl_entries raise max (fun _ => Nat.max_zero _) count_raise target source key

theorem count_mergeAll (target : Tally κ) (sources : List (Tally κ)) (key : κ) :
    (target.mergeAll sources).count key =
      target.count key + (sources.map fun source => source.count key).sum := by
  induction sources generalizing target with
  | nil => rfl
  | cons source rest ih =>
    rw [mergeAll, List.foldl_cons, ← mergeAll, ih, count_merge, List.map_cons, List.sum_cons,
      Nat.add_assoc]

theorem count_mergeMaxAll_le {target : Tally κ} {sources : List (Tally κ)} {key : κ} {n : ℕ}
    (htarget : target.count key ≤ n) (hle : ∀ source ∈ sources, source.count key ≤ n) :
    (target.mergeMaxAll sources).count key ≤ n := by
  induction sources generalizing target with
  | nil => exact htarget
  | cons source rest ih =>
    rw [mergeMaxAll, List.foldl_cons, ← mergeMaxAll]
    refine ih ?_ fun s hs => hle s (List.mem_cons_of_mem source hs)
    rw [count_mergeMax]
    exact max_le htarget (hle source List.mem_cons_self)

/-- The maximum over a list of tallies is the count of one that no other exceeds. -/
theorem count_mergeMaxAll_eq {target : Tally κ} {sources : List (Tally κ)} {key : κ} {n : ℕ}
    (htarget : target.count key ≤ n) (hle : ∀ source ∈ sources, source.count key ≤ n)
    (hattained : target.count key = n ∨ ∃ source ∈ sources, source.count key = n) :
    (target.mergeMaxAll sources).count key = n := by
  induction sources generalizing target with
  | nil => exact hattained.resolve_right (by simp)
  | cons source rest ih =>
    rw [mergeMaxAll, List.foldl_cons, ← mergeMaxAll]
    have hsource := hle source List.mem_cons_self
    refine ih ?_ (fun s hs => hle s (List.mem_cons_of_mem source hs)) ?_
    · rw [count_mergeMax]
      exact max_le htarget hsource
    · rw [count_mergeMax]
      rcases hattained with h | ⟨s, hs, h⟩
      · exact Or.inl (by omega)
      · rcases List.mem_cons.mp hs with rfl | hs
        · exact Or.inl (by omega)
        · exact Or.inr ⟨s, hs, h⟩

theorem count_foldl_add (target : Tally κ) (keys : List κ) (key : κ) :
    (keys.foldl (fun t key => t.add key 1) target).count key =
      target.count key + keys.count key := by
  induction keys generalizing target with
  | nil => rfl
  | cons k rest ih =>
    rw [List.foldl_cons, ih, count_add, List.count_cons]
    simp only [beq_iff_eq]
    omega

/-- **A tally of a list** counts its items. -/
@[simp] theorem count_ofList (keys : List κ) (key : κ) :
    (ofList keys).count key = keys.count key := by
  rw [ofList, count_foldl_add, count_empty, Nat.zero_add]

/-! ## Totals -/

/-- The total, summed up over any dictionary whose keys hold all counts. -/
theorem total_eq_sumBy {β : Type*} (t : Tally κ) (d : OrderedDict κ β)
    (h : ∀ key, 0 < t.count key → key ∈ d.keys) : t.total = d.sumBy fun key _ => t.count key := by
  refine (OrderedDict.sumBy_getD d t.counts fun key n hget => h key ?_).symm
  rw [count, hget, Option.getD_some]
  exact t.positive _ (t.counts.mem_entries_iff.mpr hget)

/-- Tallies that count alike have the same total. -/
theorem total_congr {t t' : Tally κ} (h : ∀ key, t.count key = t'.count key) :
    t.total = t'.total := by
  rw [t.total_eq_sumBy t.counts fun key => (t.mem_keys_iff key).mpr,
    t'.total_eq_sumBy t.counts fun key hkey => (t.mem_keys_iff key).mpr (by rw [h]; exact hkey)]
  exact OrderedDict.sumBy_congr fun key _ _ => h key

theorem total_add (t : Tally κ) (key : κ) {n : ℕ} (hn : 0 < n) :
    (t.add key n).total = t.total + n := by
  rw [add, if_pos hn, put, dif_pos (Nat.add_pos_right _ hn)]
  exact OrderedDict.sumBy_set_getD_add t.counts key n

/-- **The total of a list's tally** is its length. -/
theorem total_ofList (keys : List κ) : (ofList keys).total = keys.length := by
  suffices h : ∀ start : Tally κ, (keys.foldl (fun t key => t.add key 1) start).total =
      start.total + keys.length from (h empty).trans (Nat.zero_add _)
  induction keys with
  | nil => exact fun start => rfl
  | cons key rest ih =>
    intro start
    rw [List.foldl_cons, ih, total_add start key Nat.one_pos, List.length_cons]
    omega

theorem total_of_count_eq {t : Tally κ} {keys : List κ} (h : ∀ key, t.count key = keys.count key) :
    t.total = keys.length := by
  rw [← total_ofList keys]
  exact total_congr fun key => (h key).trans (count_ofList keys key).symm

/-- The total grows with the counts. -/
theorem total_le_total {t t' : Tally κ} (h : ∀ key, t.count key ≤ t'.count key) :
    t.total ≤ t'.total := by
  rw [t.total_eq_sumBy t'.counts fun key hkey =>
      (t'.mem_keys_iff key).mpr (lt_of_lt_of_le hkey (h key)),
    t'.total_eq_sumBy t'.counts fun key => (t'.mem_keys_iff key).mpr]
  exact OrderedDict.sumBy_le fun key _ _ => h key

/-- Of two tallies of which one nowhere counts more, the totals are equal only when the counts
are. -/
theorem count_eq_of_total_eq {t t' : Tally κ} (h : ∀ key, t.count key ≤ t'.count key)
    (htotal : t.total = t'.total) (key : κ) : t.count key = t'.count key := by
  by_contra hne
  have hlt : t.count key < t'.count key := lt_of_le_of_ne (h key) hne
  obtain ⟨n, hn⟩ := t'.counts.mem_keys_iff.mp
    ((t'.mem_keys_iff key).mpr (Nat.zero_lt_of_lt hlt))
  -- the key's own part of both sums, split off
  rw [t.total_eq_sumBy t'.counts fun k hk => (t'.mem_keys_iff k).mpr (lt_of_lt_of_le hk (h k)),
    t'.total_eq_sumBy t'.counts fun k => (t'.mem_keys_iff k).mpr,
    OrderedDict.sumBy_erase hn, OrderedDict.sumBy_erase hn] at htotal
  have hrest : ((t'.counts.erase key).sumBy fun k _ => t.count k) ≤
      (t'.counts.erase key).sumBy fun k _ => t'.count k := OrderedDict.sumBy_le fun k _ _ => h k
  omega

end Entries

end Tally

end Py
