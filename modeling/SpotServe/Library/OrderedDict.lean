import Mathlib.Data.List.Nodup
import Mathlib.Data.List.Basic
import Mathlib.Algebra.BigOperators.Group.List.Basic
import Mathlib.Algebra.Order.BigOperators.Group.List
import Mathlib.Tactic.SplitIfs
import Mathlib.Tactic.Abel

/-!
# Dictionaries in insertion order

A Python dictionary is a finite map that remembers the order in which its keys came in:
assigning to a known key keeps the key's place, assigning to a new one appends.  Here it is the
list of its entries, together with the fact that no key is listed twice.

* `get?` reads, `set` assigns, `erase` deletes, and `get?_set`, `get?_erase` say how these
  compose.
* `mem_entries_iff`: iterating over the entries and looking keys up see the same map.
-/

namespace Py

/-- A dictionary: its entries in insertion order, no key twice. -/
structure OrderedDict (α β : Type*) where
  entries : List (α × β)
  nodup : (entries.map Prod.fst).Nodup
  deriving DecidableEq

namespace OrderedDict

section Entries

variable {α β : Type*} [DecidableEq α]

/-- Looking a key up in a list of entries. -/
def getEntry : List (α × β) → α → Option β
  | [], _ => none
  | (k, v) :: rest, key => if k = key then some v else getEntry rest key

/-- Assigning to a key of a list of entries. -/
def setEntry : List (α × β) → α → β → List (α × β)
  | [], key, value => [(key, value)]
  | (k, v) :: rest, key, value =>
    if k = key then (key, value) :: rest else (k, v) :: setEntry rest key value

theorem getEntry_eq_none_iff {entries : List (α × β)} {key : α} :
    getEntry entries key = none ↔ key ∉ entries.map Prod.fst := by
  induction entries with
  | nil => simp [getEntry]
  | cons kv rest ih =>
    obtain ⟨k, v⟩ := kv
    by_cases h : k = key
    · simp [getEntry, h]
    · simp [getEntry, h, ih, Ne.symm h]

theorem getEntry_eq_some_iff {entries : List (α × β)} (nodup : (entries.map Prod.fst).Nodup)
    {key : α} {value : β} : getEntry entries key = some value ↔ (key, value) ∈ entries := by
  induction entries with
  | nil => simp [getEntry]
  | cons kv rest ih =>
    obtain ⟨k, v⟩ := kv
    rw [List.map_cons, List.nodup_cons] at nodup
    obtain ⟨hk, hrest⟩ := nodup
    by_cases h : k = key
    · subst h
      have hout : (k, value) ∉ rest := fun hin => hk (List.mem_map.mpr ⟨_, hin, rfl⟩)
      simp [getEntry, hout, eq_comm]
    · simp [getEntry, h, ih hrest, Ne.symm h]

theorem getEntry_setEntry (entries : List (α × β)) (key key' : α) (value : β) :
    getEntry (setEntry entries key value) key' =
      if key = key' then some value else getEntry entries key' := by
  induction entries with
  | nil => simp [setEntry, getEntry]
  | cons kv rest ih =>
    obtain ⟨k, v⟩ := kv
    by_cases h : k = key
    · subst h
      by_cases h' : k = key' <;> simp [setEntry, getEntry, h']
    · by_cases h' : k = key'
      · subst h'
        simp [setEntry, getEntry, h, Ne.symm h]
      · simp [setEntry, getEntry, h, h', ih]

theorem map_fst_setEntry (entries : List (α × β)) (key : α) (value : β) :
    (setEntry entries key value).map Prod.fst =
      if key ∈ entries.map Prod.fst then entries.map Prod.fst
      else entries.map Prod.fst ++ [key] := by
  induction entries with
  | nil => simp [setEntry]
  | cons kv rest ih =>
    obtain ⟨k, v⟩ := kv
    by_cases h : k = key
    · subst h
      simp [setEntry]
    · rw [setEntry, if_neg h, List.map_cons, ih]
      by_cases h' : key ∈ rest.map Prod.fst
      · rw [if_pos h', if_pos (by simpa using Or.inr (by simpa using h')), List.map_cons]
      · rw [if_neg h', if_neg (by simpa [Ne.symm h] using h'), List.map_cons, List.cons_append]

theorem nodup_setEntry {entries : List (α × β)} (nodup : (entries.map Prod.fst).Nodup) (key : α)
    (value : β) : ((setEntry entries key value).map Prod.fst).Nodup := by
  rw [map_fst_setEntry]
  split_ifs with h
  · exact nodup
  · refine List.nodup_append.mpr ⟨nodup, List.nodup_singleton key, ?_⟩
    intro a ha b hb hab
    rw [List.mem_singleton] at hb
    exact h (hb ▸ hab ▸ ha)

theorem lookup_eq_getEntry (entries : List (α × β)) (key : α) :
    entries.lookup key = getEntry entries key := by
  induction entries with
  | nil => rfl
  | cons kv rest ih =>
    obtain ⟨k, v⟩ := kv
    rw [List.lookup_cons, getEntry, ih]
    by_cases h : k = key
    · rw [if_pos h, beq_iff_eq.mpr h.symm]
    · rw [if_neg h, beq_eq_false_iff_ne.mpr (Ne.symm h)]

theorem lookup_setEntry (entries : List (α × β)) (key key' : α) (value : β) :
    (setEntry entries key value).lookup key' =
      if key = key' then some value else entries.lookup key' := by
  rw [lookup_eq_getEntry, lookup_eq_getEntry, getEntry_setEntry]

end Entries

variable {α β : Type*} [DecidableEq α]

/-- The empty dictionary. -/
def empty : OrderedDict α β := ⟨[], List.nodup_nil⟩

/-- The keys, in insertion order. -/
def keys (d : OrderedDict α β) : List α := d.entries.map Prod.fst

/-- The values, in insertion order of their keys. -/
def values (d : OrderedDict α β) : List β := d.entries.map Prod.snd

/-- `d.get(key)`. -/
def get? (d : OrderedDict α β) (key : α) : Option β := getEntry d.entries key

/-- The entries that pass a test. -/
def filter (d : OrderedDict α β) (p : α → β → Bool) : OrderedDict α β :=
  ⟨d.entries.filter fun entry => p entry.1 entry.2,
    d.nodup.sublist (List.filter_sublist.map Prod.fst)⟩

/-- `d.pop(key, None)`: the dictionary without the key. -/
def erase (d : OrderedDict α β) (key : α) : OrderedDict α β := d.filter fun k _ => k ≠ key

/-- `d.popitem()`: the dictionary without its last entry. -/
def popItem (d : OrderedDict α β) : OrderedDict α β :=
  ⟨d.entries.dropLast, d.nodup.sublist ((List.dropLast_sublist d.entries).map Prod.fst)⟩

/-- `{key: f(key, value) for key, value in d.items()}`. -/
def mapValues {γ : Type*} (d : OrderedDict α β) (f : α → β → γ) : OrderedDict α γ :=
  ⟨d.entries.map fun entry => (entry.1, f entry.1 entry.2), by
    rw [List.map_map]
    exact d.nodup⟩

/-- `d[key] = value`. -/
def set (d : OrderedDict α β) (key : α) (value : β) : OrderedDict α β :=
  ⟨setEntry d.entries key value, nodup_setEntry d.nodup key value⟩

/-- Visiting the entries of `e` in their order and assigning to each of its keys, from what stood
there and from the value `e` gives. -/
def updateWith {γ : Type*} (d : OrderedDict α β) (e : OrderedDict α γ)
    (f : α → Option β → γ → β) : OrderedDict α β :=
  e.entries.foldl (fun acc entry => acc.set entry.1 (f entry.1 (acc.get? entry.1) entry.2)) d

@[simp] theorem get?_empty (key : α) : (empty : OrderedDict α β).get? key = none := rfl

omit [DecidableEq α] in
@[simp] theorem keys_empty : (empty : OrderedDict α β).keys = [] := rfl

theorem get?_set (d : OrderedDict α β) (key key' : α) (value : β) :
    (d.set key value).get? key' = if key = key' then some value else d.get? key' :=
  getEntry_setEntry d.entries key key' value

@[simp] theorem get?_set_self (d : OrderedDict α β) (key : α) (value : β) :
    (d.set key value).get? key = some value := by
  rw [get?_set, if_pos rfl]

theorem get?_set_of_ne (d : OrderedDict α β) {key key' : α} (value : β) (h : key ≠ key') :
    (d.set key value).get? key' = d.get? key' := by
  rw [get?_set, if_neg h]

/-- Iteration and lookup see the same entries. -/
theorem mem_entries_iff (d : OrderedDict α β) {key : α} {value : β} :
    (key, value) ∈ d.entries ↔ d.get? key = some value :=
  (getEntry_eq_some_iff d.nodup).symm

theorem get?_eq_none_iff (d : OrderedDict α β) {key : α} : d.get? key = none ↔ key ∉ d.keys :=
  getEntry_eq_none_iff

theorem mem_keys_iff (d : OrderedDict α β) {key : α} :
    key ∈ d.keys ↔ ∃ value, d.get? key = some value := by
  rw [← Option.isSome_iff_exists, Option.isSome_iff_ne_none, Ne, get?_eq_none_iff, not_not]

theorem mem_values_iff (d : OrderedDict α β) {value : β} :
    value ∈ d.values ↔ ∃ key, d.get? key = some value := by
  constructor
  · intro h
    obtain ⟨⟨key, v⟩, hmem, rfl⟩ := List.mem_map.mp h
    exact ⟨key, d.mem_entries_iff.mp hmem⟩
  · rintro ⟨key, h⟩
    exact List.mem_map.mpr ⟨_, d.mem_entries_iff.mpr h, rfl⟩

theorem keys_set (d : OrderedDict α β) (key : α) (value : β) :
    (d.set key value).keys = if key ∈ d.keys then d.keys else d.keys ++ [key] :=
  map_fst_setEntry d.entries key value

theorem mem_keys_set {d : OrderedDict α β} {key key' : α} {value : β} :
    key' ∈ (d.set key value).keys ↔ key' = key ∨ key' ∈ d.keys := by
  rw [keys_set]
  split_ifs with hin
  · exact ⟨Or.inr, fun h => h.elim (fun heq => heq ▸ hin) id⟩
  · rw [List.mem_append, List.mem_singleton, or_comm]

/-- A new key is appended. -/
theorem entries_set_new {d : OrderedDict α β} {key : α} (h : d.get? key = none) (value : β) :
    (d.set key value).entries = d.entries ++ [(key, value)] := by
  obtain ⟨entries, nodup⟩ := d
  show setEntry entries key value = entries ++ [(key, value)]
  replace h : getEntry entries key = none := h
  clear nodup
  induction entries with
  | nil => rfl
  | cons entry rest ih =>
    obtain ⟨k, v⟩ := entry
    by_cases hk : k = key
    · exact absurd h (by simp [getEntry, hk])
    · rw [getEntry, if_neg hk] at h
      rw [setEntry, if_neg hk, ih h, List.cons_append]

/-- Assigning to new keys, one after the other, appends the entries. -/
theorem entries_foldl_set_new {l : List (α × β)} {d : OrderedDict α β}
    (h : ((d.entries ++ l).map Prod.fst).Nodup) :
    (l.foldl (fun d entry => d.set entry.1 entry.2) d).entries = d.entries ++ l := by
  induction l generalizing d with
  | nil => rw [List.foldl_nil, List.append_nil]
  | cons entry rest ih =>
    have hnew : d.get? entry.1 = none := by
      rw [get?_eq_none_iff]
      rw [List.map_append, List.map_cons] at h
      exact fun hmem => (List.nodup_append.mp h).2.2 _ hmem _ List.mem_cons_self rfl
    have hentries : (d.set entry.1 entry.2).entries ++ rest = d.entries ++ entry :: rest := by
      rw [entries_set_new hnew, List.append_assoc, List.singleton_append]
    rw [List.foldl_cons, ih (by rw [hentries]; exact h), hentries]

/-- The keys after several assignments. -/
theorem mem_keys_foldl_set {l : List (α × β)} {d : OrderedDict α β} {key : α} :
    key ∈ (l.foldl (fun d entry => d.set entry.1 entry.2) d).keys ↔
      key ∈ l.map Prod.fst ∨ key ∈ d.keys := by
  induction l generalizing d with
  | nil => exact ⟨Or.inr, fun h => h.resolve_left List.not_mem_nil⟩
  | cons entry rest ih =>
    rw [List.foldl_cons, ih, mem_keys_set, List.map_cons, List.mem_cons, or_left_comm, or_assoc]

/-- An entry after several assignments was assigned or was there. -/
theorem mem_entries_of_foldl_set {l : List (α × β)} {d : OrderedDict α β} {entry : α × β}
    (h : entry ∈ (l.foldl (fun d entry => d.set entry.1 entry.2) d).entries) :
    entry ∈ l ∨ entry ∈ d.entries := by
  induction l generalizing d with
  | nil => exact Or.inr h
  | cons first rest ih =>
    rcases ih h with hrest | hset
    · exact Or.inl (List.mem_cons_of_mem first hrest)
    · rw [mem_entries_iff, get?_set] at hset
      split_ifs at hset with hkey
      · obtain rfl : first = entry := Prod.ext hkey (Option.some.inj hset)
        exact Or.inl List.mem_cons_self
      · exact Or.inr (mem_entries_iff _ |>.mpr hset)

theorem get?_filter (d : OrderedDict α β) (p : α → β → Bool) {key : α} {value : β} :
    (d.filter p).get? key = some value ↔ d.get? key = some value ∧ p key value := by
  rw [← mem_entries_iff, ← mem_entries_iff]
  simp [filter]

theorem get?_erase (d : OrderedDict α β) (key key' : α) :
    (d.erase key).get? key' = if key = key' then none else d.get? key' := by
  refine Option.ext fun value => ?_
  rw [erase, get?_filter]
  split_ifs with h
  · simp [h]
  · simp [Ne.symm h]

theorem mem_keys_erase {d : OrderedDict α β} {key key' : α} :
    key' ∈ (d.erase key).keys ↔ key' ≠ key ∧ key' ∈ d.keys := by
  rw [mem_keys_iff, mem_keys_iff]
  simp only [get?_erase]
  split_ifs with h
  · simp [h]
  · simp [Ne.symm h]

omit [DecidableEq α] in
/-- A test of the keys alone. -/
theorem keys_filter (d : OrderedDict α β) (p : α → Bool) :
    (d.filter fun key _ => p key).keys = d.keys.filter p :=
  List.filter_map.symm

theorem keys_erase (d : OrderedDict α β) (key : α) :
    (d.erase key).keys = d.keys.filter fun key' => key' ≠ key :=
  keys_filter d _

theorem notMem_keys_erase (d : OrderedDict α β) (key : α) : key ∉ (d.erase key).keys :=
  fun h => (mem_keys_erase.mp h).1 rfl

theorem mem_keys_erase_of_ne (d : OrderedDict α β) {key key' : α} (h : key ≠ key') :
    key' ∈ (d.erase key).keys ↔ key' ∈ d.keys :=
  mem_keys_erase.trans (and_iff_right h.symm)

theorem mem_keys_set_of_ne (d : OrderedDict α β) {key key' : α} (h : key ≠ key') (value : β) :
    key' ∈ (d.set key value).keys ↔ key' ∈ d.keys :=
  mem_keys_set.trans (or_iff_right fun heq => h heq.symm)

theorem get?_mapValues {γ : Type*} (d : OrderedDict α β) (f : α → β → γ) (key : α) :
    (d.mapValues f).get? key = (d.get? key).map (f key) := by
  refine Option.ext fun value => ?_
  rw [← mem_entries_iff, Option.map_eq_some_iff]
  constructor
  · intro h
    obtain ⟨⟨k, v⟩, hmem, heq⟩ := List.mem_map.mp h
    obtain ⟨rfl, rfl⟩ := Prod.mk.inj heq
    exact ⟨v, d.mem_entries_iff.mp hmem, rfl⟩
  · rintro ⟨v, hv, rfl⟩
    exact List.mem_map.mpr ⟨_, d.mem_entries_iff.mpr hv, rfl⟩

omit [DecidableEq α] in
@[simp] theorem keys_mapValues {γ : Type*} (d : OrderedDict α β) (f : α → β → γ) :
    (d.mapValues f).keys = d.keys := by
  simp [keys, mapValues]

theorem mapValues_congr {γ : Type*} {d : OrderedDict α β} {f g : α → β → γ}
    (h : ∀ key value, d.get? key = some value → f key value = g key value) :
    d.mapValues f = d.mapValues g := by
  simp only [mapValues, mk.injEq]
  refine List.map_congr_left fun entry hentry => ?_
  rw [h _ _ (d.mem_entries_iff.mp hentry)]

/-- Each key of `e` is visited once, so it is assigned from what stood in `d`. -/
theorem get?_updateWith {γ : Type*} (d : OrderedDict α β) (e : OrderedDict α γ)
    (f : α → Option β → γ → β) (key : α) :
    (d.updateWith e f).get? key =
      match e.get? key with
      | some value => some (f key (d.get? key) value)
      | none => d.get? key := by
  obtain ⟨entries, nodup⟩ := e
  show (entries.foldl _ d).get? key = match getEntry entries key with
    | some value => some (f key (d.get? key) value)
    | none => d.get? key
  induction entries generalizing d with
  | nil => rfl
  | cons entry rest ih =>
    obtain ⟨k, v⟩ := entry
    rw [List.map_cons, List.nodup_cons] at nodup
    rw [List.foldl_cons, ih _ nodup.2]
    by_cases h : k = key
    · subst h
      rw [getEntry_eq_none_iff.mpr nodup.1]
      simp [getEntry]
    · simp only [getEntry, if_neg h, get?_set_of_ne _ _ h]

theorem mem_keys_updateWith {γ : Type*} {d : OrderedDict α β} {e : OrderedDict α γ}
    {f : α → Option β → γ → β} {key : α} :
    key ∈ (d.updateWith e f).keys ↔ key ∈ d.keys ∨ key ∈ e.keys := by
  rw [mem_keys_iff, mem_keys_iff, mem_keys_iff, get?_updateWith]
  cases e.get? key <;> simp

/-- The entries with one key split off. -/
theorem perm_erase {d : OrderedDict α β} {key : α} {value : β} (h : d.get? key = some value) :
    d.entries.Perm ((key, value) :: (d.erase key).entries) := by
  obtain ⟨entries, nodup⟩ := d
  show entries.Perm ((key, value) :: entries.filter _)
  replace h : getEntry entries key = some value := h
  induction entries with
  | nil => exact absurd h (by simp [getEntry])
  | cons entry rest ih =>
    obtain ⟨k, v⟩ := entry
    rw [List.map_cons, List.nodup_cons] at nodup
    by_cases hk : k = key
    · subst hk
      have hrest : rest.filter (fun entry => entry.1 ≠ k) = rest := by
        refine List.filter_eq_self.mpr fun entry hentry => ?_
        have hne : entry.1 ≠ k := fun heq => nodup.1 (List.mem_map.mpr ⟨entry, hentry, heq⟩)
        simpa using hne
      have hv : v = value := by simpa [getEntry] using h
      rw [List.filter_cons_of_neg (by simp), hrest, hv]
    · rw [getEntry, if_neg hk] at h
      rw [List.filter_cons_of_pos (by simpa using hk)]
      exact ((ih nodup.2 h).cons _).trans (List.Perm.swap ..)

section Sums

variable {M : Type*} [AddCommMonoid M]

/-- The sum of a quantity over all entries. -/
def sumBy (d : OrderedDict α β) (f : α → β → M) : M :=
  (d.entries.map fun entry => f entry.1 entry.2).sum

theorem sumBy_congr {d : OrderedDict α β} {f g : α → β → M}
    (h : ∀ key value, d.get? key = some value → f key value = g key value) :
    d.sumBy f = d.sumBy g := by
  unfold sumBy
  congr 1
  exact List.map_congr_left fun entry hentry => h _ _ (d.mem_entries_iff.mp hentry)

omit [DecidableEq α] in
@[simp] theorem sumBy_zero (d : OrderedDict α β) : (d.sumBy fun _ _ => (0 : M)) = 0 := by
  simp [sumBy]

omit [DecidableEq α] in
theorem sumBy_add (d : OrderedDict α β) (f g : α → β → M) :
    (d.sumBy fun key value => f key value + g key value) = d.sumBy f + d.sumBy g :=
  List.sum_map_add

theorem sumBy_le [PartialOrder M] [IsOrderedAddMonoid M] {d : OrderedDict α β} {f g : α → β → M}
    (h : ∀ key value, d.get? key = some value → f key value ≤ g key value) :
    d.sumBy f ≤ d.sumBy g :=
  List.sum_le_sum fun _ hentry => h _ _ (d.mem_entries_iff.mp hentry)

omit [DecidableEq α] in
/-- Two sums may be taken in either order. -/
theorem sumBy_comm {γ δ : Type*} (d : OrderedDict α β) (e : OrderedDict γ δ)
    (f : α → β → γ → δ → M) :
    (d.sumBy fun a b => e.sumBy fun c x => f a b c x) =
      e.sumBy fun c x => d.sumBy fun a b => f a b c x := by
  obtain ⟨entries, nodup⟩ := d
  show (entries.map fun entry => e.sumBy fun c x => f entry.1 entry.2 c x).sum =
    e.sumBy fun c x => (entries.map fun entry => f entry.1 entry.2 c x).sum
  clear nodup
  induction entries with
  | nil => simp
  | cons entry rest ih =>
    simp only [List.map_cons, List.sum_cons, ih]
    simp only [sumBy, List.sum_map_add]

/-- A key's own part of a sum, split off. -/
theorem sumBy_erase {d : OrderedDict α β} {key : α} {value : β} (h : d.get? key = some value)
    (f : α → β → M) : d.sumBy f = f key value + (d.erase key).sumBy f := by
  unfold sumBy
  rw [((perm_erase h).map _).sum_eq, List.map_cons, List.sum_cons]

/-- A sum to which one key alone adds. -/
theorem sumBy_eq_single {d : OrderedDict α β} {key : α} {value : β}
    (h : d.get? key = some value) (f : α → β → M)
    (hf : ∀ key' value', key' ≠ key → f key' value' = 0) : d.sumBy f = f key value := by
  rw [sumBy_erase h f, sumBy_congr (g := fun _ _ => 0), sumBy_zero, add_zero]
  intro key' value' h'
  rw [get?_erase] at h'
  split_ifs at h' with hkey
  exact hf _ _ (Ne.symm hkey)

/-- What a dictionary of numbers holds at a key, written as a sum. -/
theorem getD_eq_sumBy (e : OrderedDict α M) (key : α) :
    (e.get? key).getD 0 = e.sumBy fun k v => if k = key then v else 0 := by
  cases h : e.get? key with
  | some v =>
    rw [sumBy_eq_single h _ fun k _ hk => if_neg hk]
    simp
  | none =>
    rw [sumBy_congr (g := fun _ _ => 0), sumBy_zero, Option.getD_none]
    intro k v hk
    refine if_neg ?_
    rintro rfl
    rw [h] at hk
    exact absurd hk (by simp)

/-- A dictionary of numbers, summed up over the keys of a larger one. -/
theorem sumBy_getD (d : OrderedDict α β) (e : OrderedDict α M)
    (hkeys : ∀ key value, e.get? key = some value → key ∈ d.keys) :
    (d.sumBy fun key _ => (e.get? key).getD 0) = e.sumBy fun _ value => value := by
  simp only [getD_eq_sumBy]
  rw [sumBy_comm]
  refine sumBy_congr fun key value h => ?_
  obtain ⟨v, hv⟩ := d.mem_keys_iff.mp (hkeys key value h)
  rw [sumBy_eq_single hv _ fun key' _ hne => if_neg (Ne.symm hne), if_pos rfl]

omit [DecidableEq α] in
/-- Dropping entries that add nothing. -/
theorem sumBy_filter (d : OrderedDict α β) {p : α → β → Bool} {f : α → β → M}
    (h : ∀ key value, p key value = false → f key value = 0) :
    (d.filter p).sumBy f = d.sumBy f := by
  obtain ⟨entries, nodup⟩ := d
  show ((entries.filter _).map _).sum = (entries.map _).sum
  clear nodup
  induction entries with
  | nil => rfl
  | cons entry rest ih =>
    cases hp : p entry.1 entry.2 with
    | false => simp [hp, h _ _ hp, ih]
    | true => simp [hp, ih]

theorem sumBy_erase_of_none {d : OrderedDict α β} {key : α} (h : d.get? key = none)
    (f : α → β → M) : (d.erase key).sumBy f = d.sumBy f := by
  have hall : d.entries.filter (fun entry => entry.1 ≠ key) = d.entries := by
    refine List.filter_eq_self.mpr fun entry hentry => ?_
    have hne : entry.1 ≠ key := by
      rintro rfl
      exact d.get?_eq_none_iff.mp h (List.mem_map.mpr ⟨entry, hentry, rfl⟩)
    simpa using hne
  show ((d.entries.filter _).map _).sum = _
  rw [hall]
  rfl

/-- Assigning to a key: what the rest of the dictionary holds does not change. -/
theorem sumBy_set (d : OrderedDict α β) (key : α) (value : β) (f : α → β → M) :
    (d.set key value).sumBy f = f key value + (d.erase key).sumBy f := by
  rw [sumBy_erase (get?_set_self d key value) f]
  congr 1
  obtain ⟨entries, nodup⟩ := d
  show (((setEntry entries key value).filter _).map _).sum = ((entries.filter _).map _).sum
  congr 2
  induction entries with
  | nil => simp [setEntry]
  | cons entry rest ih =>
    obtain ⟨k, v⟩ := entry
    rw [List.map_cons, List.nodup_cons] at nodup
    by_cases hk : k = key
    · simp [setEntry, hk]
    · rw [setEntry, if_neg hk, List.filter_cons_of_pos (by simpa using hk),
        List.filter_cons_of_pos (by simpa using hk), ih nodup.2]

omit [DecidableEq α] in
/-- A sum split by a test. -/
theorem sumBy_filter_add_filter_not (d : OrderedDict α β) (p : α → β → Bool) (f : α → β → M) :
    (d.filter p).sumBy f + (d.filter fun key value => !p key value).sumBy f = d.sumBy f := by
  obtain ⟨entries, nodup⟩ := d
  show ((entries.filter _).map _).sum + ((entries.filter _).map _).sum = (entries.map _).sum
  clear nodup
  induction entries with
  | nil => simp
  | cons entry rest ih =>
    cases hp : p entry.1 entry.2 with
    | false =>
      simp only [List.filter_cons, hp, Bool.false_eq_true, if_false, Bool.not_false, if_true,
        List.map_cons, List.sum_cons, ← ih]
      abel
    | true =>
      simp only [List.filter_cons, hp, Bool.false_eq_true, if_false, Bool.not_true, if_true,
        List.map_cons, List.sum_cons, ← ih]
      abel

/-- Adding to a number in place. -/
theorem sumBy_set_getD_add (e : OrderedDict α M) (key : α) (x : M) :
    ((e.set key ((e.get? key).getD 0 + x)).sumBy fun _ v => v) = (e.sumBy fun _ v => v) + x := by
  cases h : e.get? key with
  | none => rw [sumBy_set, sumBy_erase_of_none h, Option.getD_none, zero_add, add_comm]
  | some v =>
    rw [sumBy_set, sumBy_erase h, Option.getD_some]
    abel

omit [DecidableEq α] in
theorem map_sumBy {N : Type*} [AddCommMonoid N] (φ : M →+ N) (d : OrderedDict α β)
    (f : α → β → M) : φ (d.sumBy f) = d.sumBy fun key value => φ (f key value) := by
  rw [sumBy, map_list_sum, List.map_map]
  rfl

end Sums

end OrderedDict

end Py
