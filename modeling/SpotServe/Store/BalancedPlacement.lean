import SpotServe.Store.DevicePlacement

/-!
# The balanced placement

`_get_balanced_placement` fills a table: the cell of the first `i` modules and `k` devices keeps one
split of them, the one with the least gap.  What it takes for the gap is the largest difference
between the last part and the parts before it.  That is the gap for two parts, but not for more.

* `cellAt_sound`, `cellAt_complete`: a cell is filled exactly when there is a fitting split, and it
  has one.
* `getBalancedPlacement_of_fitting`, `getBalancedPlacement_of_not_fitting`: what comes of the table;
  without a split it is an empty placement.
* `Decided.exists_cellAt`: a split all of whose beginnings end nearest is followed by the table.
* `exists_decided`: with at most two devices, one of the most even splits is.
* `balancedAsClaimed`: when the placement is as balanced as can be, and when failure is reported.
-/

namespace SpotServe
namespace Store
namespace DevicePlacement

open Py Splits Selection

variable {modules : ModuleSizes} {memory : List ℤ}

/-! ## The table -/

theorem extendCell_eq_some_iff {limit : ℤ} {k i j : ℕ} {previous : Option Cell} {c : Cell} :
    extendCell modules limit k i j previous = some c ↔
      partitionSize modules ((modules.keys.take i).drop j) ≤ limit ∧
        ∃ cell, previous = some cell ∧
          cell.extend k ((modules.keys.take i).drop j)
            (partitionSize modules ((modules.keys.take i).drop j)) = c := by
  unfold extendCell
  dsimp only
  split_ifs with hlarge
  · exact iff_of_false (by simp) fun h => absurd h.1 (not_le.mpr hlarge)
  · rw [Option.map_eq_some_iff, and_iff_right (not_lt.mp hlarge)]

/-- A filled cell comes from a cell of fewer devices. -/
theorem exists_of_cellAt_succ {k i : ℕ} {c : Cell} (h : cellAt modules memory (k + 1) i = some c) :
    ∃ j < i, extendCell modules (memory.getD k 0) k i j (cellAt modules memory k j) = some c := by
  rw [cellAt] at h
  have hmem := (mem_of_foldl_keepLess h).resolve_left (by simp)
  obtain ⟨j, hj, hcell⟩ := List.mem_map.mp hmem
  exact ⟨j, List.mem_range.mp hj, hcell⟩

/-- A cell keeps the least of the gaps that are compared. -/
theorem gap_cellAt_succ_le {k i j : ℕ} {c : Cell} (hj : j < i)
    (h : extendCell modules (memory.getD k 0) k i j (cellAt modules memory k j) = some c) :
    ∃ c', cellAt modules memory (k + 1) i = some c' ∧ c'.gap ≤ c.gap := by
  rw [cellAt]
  refine key_foldl_keepLess_le (Or.inr (List.mem_map.mpr ⟨j, List.mem_range.mpr hj, h⟩))

/-- What a filled cell stands for. -/
structure CellSplit (modules : ModuleSizes) (memory : List ℤ) (k i : ℕ) (c : Cell)
    (parts : List (List String)) : Prop where
  fitting : Fitting (moduleSize modules) (memory.take k) (modules.keys.take i) parts
  partitions : c.partitions = parts ++ List.replicate (memory.length - k) []
  minSize : c.minSize = (parts.map (partitionSize modules)).min?
  maxSize : c.maxSize = (parts.map (partitionSize modules)).foldl max 0
  gap : ∀ fronts part, parts = fronts ++ [part] →
    c.gap = lastGap (fronts.map (partitionSize modules)) (partitionSize modules part)

theorem take_succ_getD {k : ℕ} (hk : k < memory.length) :
    memory.take (k + 1) = memory.take k ++ [memory.getD k 0] := by
  rw [List.take_succ_eq_append_getElem hk, List.getD_eq_getElem _ _ hk]

theorem take_append_drop_take {j i : ℕ} (hj : j ≤ i) :
    modules.keys.take j ++ (modules.keys.take i).drop j = modules.keys.take i := by
  conv_rhs => rw [← List.take_append_drop j (modules.keys.take i)]
  rw [List.take_take, Nat.min_eq_left hj]

/-- A first part and a last part of the first `i` modules. -/
theorem of_take_eq_append {i : ℕ} {front part : List String} (hi : i ≤ modules.keys.length)
    (h : modules.keys.take i = front ++ part) (hne : part ≠ []) :
    front.length < i ∧ front = modules.keys.take front.length ∧
      part = (modules.keys.take i).drop front.length := by
  have hlength := congrArg List.length h
  rw [List.length_take, Nat.min_eq_left hi, List.length_append] at hlength
  have hpart := List.length_pos_iff.mpr hne
  refine ⟨by omega, ?_, ?_⟩
  · have hfront : (modules.keys.take i).take front.length = front := by rw [h, List.take_left]
    rw [List.take_take, Nat.min_eq_left (by omega)] at hfront
    exact hfront.symm
  · rw [h, List.drop_left]

/-- The partition on device `k` takes the place of an empty one. -/
theorem set_partitions {parts : List (List String)} {k : ℕ} (hparts : parts.length = k)
    (hk : k < memory.length) (part : List String) :
    (parts ++ List.replicate (memory.length - k) []).set k part =
      (parts ++ [part]) ++ List.replicate (memory.length - (k + 1)) [] := by
  obtain ⟨rest, hrest⟩ := Nat.exists_eq_add_of_lt hk
  have hleft : memory.length - k = rest + 1 := by omega
  have hless : memory.length - (k + 1) = rest := by omega
  rw [hleft, hless, List.set_append_right _ _ (le_of_eq hparts), hparts, Nat.sub_self,
    List.replicate_succ, List.set_cons_zero, List.append_assoc, List.singleton_append]

/-- **One more partition.** -/
theorem CellSplit.extend {k i j : ℕ} {c : Cell} {parts : List (List String)}
    (hk : k < memory.length) (hi : i ≤ modules.keys.length) (hj : j < i)
    (h : CellSplit modules memory k j c parts)
    (hfits : partitionSize modules ((modules.keys.take i).drop j) ≤ memory.getD k 0) :
    CellSplit modules memory (k + 1) i
      (c.extend k ((modules.keys.take i).drop j)
        (partitionSize modules ((modules.keys.take i).drop j)))
      (parts ++ [(modules.keys.take i).drop j]) where
  fitting := by
    have hne : (modules.keys.take i).drop j ≠ [] := by
      rw [← List.length_pos_iff, List.length_drop, List.length_take]
      omega
    have hsplit := h.fitting.snoc hne hfits
    rw [take_append_drop_take hj.le] at hsplit
    rw [take_succ_getD hk]
    exact hsplit
  partitions := by
    have hlength : parts.length = k := by
      rw [h.fitting.length_eq, List.length_take, Nat.min_eq_left hk.le]
    show c.partitions.set k _ = _
    rw [h.partitions, set_partitions hlength hk]
  minSize := by
    rw [List.map_append, List.map_singleton, min?_concat, ← h.minSize]
    rfl
  maxSize := by
    rw [List.map_append, List.map_singleton, List.foldl_append, ← h.maxSize]
    rfl
  gap := by
    intro fronts part heq
    obtain ⟨rfl, hpart⟩ := List.append_inj' heq rfl
    obtain rfl := List.singleton_inj.mp hpart
    rw [lastGap, ← h.minSize, ← h.maxSize]
    rfl

/-- **A filled cell holds a fitting split.** -/
theorem cellAt_sound {k i : ℕ} {c : Cell} (hk : k ≤ memory.length) (hi : i ≤ modules.keys.length)
    (h : cellAt modules memory k i = some c) : ∃ parts, CellSplit modules memory k i c parts := by
  induction k generalizing i c with
  | zero =>
    cases i with
    | zero =>
      obtain rfl := Option.some.inj h
      exact ⟨[], .nil, rfl, rfl, rfl, fun fronts part heq => absurd heq (by simp)⟩
    | succ i => exact absurd h (by simp [cellAt])
  | succ k ih =>
    obtain ⟨j, hj, hcell⟩ := exists_of_cellAt_succ h
    obtain ⟨hfits, cell, hprevious, rfl⟩ := extendCell_eq_some_iff.mp hcell
    obtain ⟨parts, hsplit⟩ := ih (by omega) (by omega) hprevious
    exact ⟨_, hsplit.extend hk hi hj hfits⟩

/-- **Every fitting split fills its cell.** -/
theorem cellAt_complete {k i : ℕ} {parts : List (List String)} (hk : k ≤ memory.length)
    (hi : i ≤ modules.keys.length)
    (h : Fitting (moduleSize modules) (memory.take k) (modules.keys.take i) parts) :
    ∃ c, cellAt modules memory k i = some c := by
  induction k generalizing i parts with
  | zero =>
    have hnil : parts = [] := List.length_eq_zero_iff.mp h.length_eq
    have hflatten := h.flatten
    rw [hnil, List.flatten_nil] at hflatten
    cases i with
    | zero => exact ⟨_, rfl⟩
    | succ i =>
      have hlength := congrArg List.length hflatten
      rw [List.length_take, List.length_nil] at hlength
      omega
  | succ k ih =>
    rw [take_succ_getD (by omega), fitting_snoc_iff] at h
    obtain ⟨front, part, fronts, hitems, -, hfitting, hne, hfits⟩ := h
    obtain ⟨hlt, hfront, hpart⟩ := of_take_eq_append hi hitems hne
    rw [hfront] at hfitting
    obtain ⟨cell, hcell⟩ := ih (by omega) (by omega) hfitting
    rw [hpart] at hfits
    obtain ⟨c, hc, -⟩ := gap_cellAt_succ_le hlt
      (extendCell_eq_some_iff.mpr ⟨hfits, cell, hcell, rfl⟩)
    exact ⟨c, hc⟩

/-! ## The map that is made of a split -/

/-- The modules are placed part by part, the first part on the first device. -/
def PlacedAs (placement : Placement) (parts : List (List String)) : Prop :=
  ∀ module device, placement.get? module = some device ↔
    ∃ part, parts[device]? = some part ∧ module ∈ part

theorem map_fst_placementEntries (parts : List (List String)) :
    (placementEntries parts).map Prod.fst = parts.flatten := by
  unfold placementEntries
  generalize 0 = start
  induction parts generalizing start with
  | nil => rfl
  | cons part rest ih =>
    rw [List.zipIdx_cons, List.flatMap_cons, List.map_append, ih, List.flatten_cons, List.map_map]
    congr 1
    exact List.map_id part

theorem entries_placementOf {parts : List (List String)} (h : parts.flatten.Nodup) :
    (placementOf (placementEntries parts)).entries = placementEntries parts := by
  refine (OrderedDict.entries_foldl_set_new ?_).trans (List.nil_append _)
  rw [show (OrderedDict.empty : Placement).entries = [] from rfl, List.nil_append,
    map_fst_placementEntries]
  exact h

theorem keys_placementOf {parts : List (List String)} (h : parts.flatten.Nodup) :
    (placementOf (placementEntries parts)).keys = parts.flatten := by
  rw [OrderedDict.keys, entries_placementOf h, map_fst_placementEntries]

theorem placedAs_placementOf {parts : List (List String)} (h : parts.flatten.Nodup) :
    PlacedAs (placementOf (placementEntries parts)) parts := by
  intro module device
  rw [← OrderedDict.mem_entries_iff, entries_placementOf h, placementEntries, List.mem_flatMap]
  constructor
  · rintro ⟨⟨part, index⟩, hpart, hmodule⟩
    obtain ⟨m, hm, heq⟩ := List.mem_map.mp hmodule
    obtain ⟨rfl, rfl⟩ := Prod.mk.inj heq
    exact ⟨part, List.mk_mem_zipIdx_iff_getElem?.mp hpart, hm⟩
  · rintro ⟨part, hpart, hmodule⟩
    exact ⟨(part, device), List.mk_mem_zipIdx_iff_getElem?.mpr hpart,
      List.mem_map.mpr ⟨module, hmodule, rfl⟩⟩

/-- A part has the modules that are on its device, in their order. -/
theorem PlacedAs.part_eq {placement : Placement} {parts : List (List String)}
    (h : PlacedAs placement parts) (hnodup : parts.flatten.Nodup) (device : ℕ) {part : List String}
    (hpart : parts[device]? = some part) :
    part = parts.flatten.filter fun module => placement.get? module = some device := by
  have hon : ∀ module, placement.get? module = some device ↔ module ∈ part := by
    intro module
    rw [h, hpart]
    simp
  obtain ⟨hlt, rfl⟩ := List.getElem?_eq_some_iff.mp hpart
  simp only [hon]
  have hsplit : parts.flatten =
      (parts.take device).flatten ++ (parts[device] ++ (parts.drop (device + 1)).flatten) := by
    conv_lhs => rw [← List.take_append_drop device parts, List.drop_eq_getElem_cons hlt]
    rw [List.flatten_append, List.flatten_cons]
  rw [hsplit] at hnodup ⊢
  rw [List.nodup_append', List.nodup_append'] at hnodup
  obtain ⟨-, ⟨-, -, hback⟩, hfront⟩ := hnodup
  rw [List.filter_append, List.filter_append, List.filter_eq_nil_iff.mpr, List.nil_append,
    List.filter_eq_self.mpr, List.filter_eq_nil_iff.mpr, List.append_nil]
  · exact fun module hmodule hin => hback (of_decide_eq_true hin) hmodule
  · exact fun module hmodule => decide_eq_true hmodule
  · exact fun module hmodule hin =>
      hfront hmodule (List.mem_append_left _ (of_decide_eq_true hin))

/-- There is a split of the modules that fits the devices. -/
def Splittable (modules : ModuleSizes) (memory : List ℤ) : Prop :=
  ∃ parts, Fitting (moduleSize modules) memory modules.keys parts

theorem splittable_iff_cellAt : Splittable modules memory ↔
    ∃ c, cellAt modules memory memory.length modules.keys.length = some c := by
  constructor
  · rintro ⟨parts, h⟩
    rw [← List.take_length (l := memory), ← List.take_length (l := modules.keys)] at h
    exact cellAt_complete le_rfl le_rfl h
  · rintro ⟨c, hc⟩
    obtain ⟨parts, hfitting, -⟩ := cellAt_sound le_rfl le_rfl hc
    rw [List.take_length, List.take_length] at hfitting
    exact ⟨parts, hfitting⟩

/-- The split in the last cell of the table. -/
theorem exists_split_of_cellAt {c : Cell}
    (h : cellAt modules memory memory.length modules.keys.length = some c) :
    Fitting (moduleSize modules) memory modules.keys c.partitions := by
  obtain ⟨parts, hfitting, hpartitions⟩ := cellAt_sound le_rfl le_rfl h
  rw [List.take_length, List.take_length] at hfitting
  rw [Nat.sub_self, List.replicate_zero, List.append_nil] at hpartitions
  rw [hpartitions]
  exact hfitting

/-- `_get_balanced_placement` past its checks. -/
theorem getBalancedPlacement_eq (hne : modules.keys ≠ [])
    (hlength : memory.length ≤ modules.keys.length) (hmemory : memory ≠ [])
    {deviceMemory : GpuMemory} (horder : memoryInOrder deviceMemory = some memory) :
    getBalancedPlacement modules deviceMemory =
      .ok (some (placementOf (placementEntries (lastPartitions modules memory)))) := by
  have hpos := List.length_pos_iff.mpr hne
  have hdevices := List.length_pos_iff.mpr hmemory
  have hcount := (memoryInOrder_eq_some_iff.mp horder).1
  unfold getBalancedPlacement
  dsimp only
  rw [← hcount, if_neg (not_not.mpr ⟨hpos, hlength⟩), if_neg (by omega), horder]

/-- More devices than modules fail the assertion. -/
theorem getBalancedPlacement_of_lt {deviceMemory : GpuMemory}
    (h : modules.keys.length < deviceMemory.keys.length) :
    getBalancedPlacement modules deviceMemory = .error .assertionError :=
  if_pos fun hboth => absurd hboth.2 (by omega)

/-- A number below `n` without a device is looked up. -/
theorem getBalancedPlacement_of_none (hne : modules.keys ≠ []) {deviceMemory : GpuMemory}
    (hdevices : deviceMemory.keys ≠ [])
    (hlength : deviceMemory.keys.length ≤ modules.keys.length)
    (horder : memoryInOrder deviceMemory = none) :
    getBalancedPlacement modules deviceMemory = .error .keyError := by
  have hpos := List.length_pos_iff.mpr hne
  have hdevices := List.length_pos_iff.mpr hdevices
  unfold getBalancedPlacement
  dsimp only
  rw [if_neg (not_not.mpr ⟨hpos, hlength⟩), if_neg (by omega), horder]

/-- **What comes of a table with a split.** -/
theorem getBalancedPlacement_of_fitting (hne : modules.keys ≠ []) {deviceMemory : GpuMemory}
    (horder : memoryInOrder deviceMemory = some memory) {c : Cell}
    (h : cellAt modules memory memory.length modules.keys.length = some c) :
    getBalancedPlacement modules deviceMemory =
      .ok (some (placementOf (placementEntries c.partitions))) := by
  have hfitting := exists_split_of_cellAt h
  have hmemory : memory ≠ [] := by
    rintro rfl
    have hflatten := hfitting.flatten
    rw [List.length_eq_zero_iff.mp hfitting.length_eq] at hflatten
    exact hne hflatten.symm
  rw [getBalancedPlacement_eq hne hfitting.length_le hmemory horder, lastPartitions, h]

/-- Without a split the table ends in an empty placement. -/
theorem getBalancedPlacement_of_not_fitting (hne : modules.keys ≠ [])
    (hlength : memory.length ≤ modules.keys.length) (hmemory : memory ≠ [])
    {deviceMemory : GpuMemory} (horder : memoryInOrder deviceMemory = some memory)
    (h : ¬ Splittable modules memory) :
    getBalancedPlacement modules deviceMemory = .ok (some .empty) := by
  have hcell : cellAt modules memory memory.length modules.keys.length = none := by
    rw [splittable_iff_cellAt, not_exists] at h
    exact Option.eq_none_iff_forall_ne_some.mpr h
  rw [getBalancedPlacement_eq hne hlength hmemory horder, lastPartitions, hcell]
  rfl

/-- The second of two modules is too large for either device. -/
example : getBalancedPlacement ((OrderedDict.empty.set "a" 2).set "b" 9)
    ((OrderedDict.empty.set 0 8).set 1 8) = .ok (some .empty) := by decide +kernel

/-! ## Balance -/

/-- The sizes of the parts of a split. -/
def partSizes (modules : ModuleSizes) (parts : List (List String)) : List ℤ :=
  parts.map (partitionSize modules)

/-- The gap between the parts of a split. -/
def splitSpread (modules : ModuleSizes) (parts : List (List String)) : ℤ :=
  spread (partSizes modules parts)

/-- What is compared decides: this split is one of the most even ones, its beginnings end nearer to
the parts before than other splits of the same modules do, and a split that ends as near is as even.
-/
structure Decided (modules : ModuleSizes) (memory : List ℤ) (parts : List (List String)) :
    Prop where
  fitting : Fitting (moduleSize modules) memory modules.keys parts
  best : ∀ parts', Fitting (moduleSize modules) memory modules.keys parts' →
    splitSpread modules parts ≤ splitSpread modules parts'
  beginnings : ∀ fronts part rest, parts = fronts ++ part :: rest → rest ≠ [] →
    ∀ fronts' part', Fitting (moduleSize modules) (memory.take (fronts.length + 1))
        (fronts ++ [part]).flatten (fronts' ++ [part']) →
      lastGap (partSizes modules fronts') (partitionSize modules part') ≤
        lastGap (partSizes modules fronts) (partitionSize modules part) →
      fronts' ++ [part'] = fronts ++ [part]
  whole : ∀ fronts part, parts = fronts ++ [part] →
    ∀ fronts' part', Fitting (moduleSize modules) memory modules.keys (fronts' ++ [part']) →
      lastGap (partSizes modules fronts') (partitionSize modules part') ≤
        lastGap (partSizes modules fronts) (partitionSize modules part) →
      splitSpread modules (fronts' ++ [part']) ≤ splitSpread modules parts

/-- **A split that can be reached is compared**: the cell after its last part keeps a split that
ends no farther from its other parts. -/
theorem exists_cellAt_concat {fronts : List (List String)} {part : List String} {limit : ℤ}
    {c : Cell} {i : ℕ} (hlimit : memory[fronts.length]? = some limit) (hi : i ≤ modules.keys.length)
    (hitems : modules.keys.take i = (fronts ++ [part]).flatten) (hne : part ≠ [])
    (hfits : partitionSize modules part ≤ limit)
    (hcell : cellAt modules memory fronts.length fronts.flatten.length = some c)
    (hsplit : CellSplit modules memory fronts.length fronts.flatten.length c fronts) :
    ∃ c' fronts' part', cellAt modules memory (fronts.length + 1) i = some c' ∧
      CellSplit modules memory (fronts.length + 1) i c' (fronts' ++ [part']) ∧
      lastGap (partSizes modules fronts') (partitionSize modules part') ≤
        lastGap (partSizes modules fronts) (partitionSize modules part) := by
  obtain ⟨hk, hget⟩ := List.getElem?_eq_some_iff.mp hlimit
  rw [List.flatten_append, List.flatten_singleton] at hitems
  obtain ⟨hj, -, hpart⟩ := of_take_eq_append hi hitems hne
  have hfits' : partitionSize modules ((modules.keys.take i).drop fronts.flatten.length) ≤
      memory.getD fronts.length 0 := by
    rw [← hpart, List.getD_eq_getElem _ _ hk, hget]
    exact hfits
  obtain ⟨c', hc', hle⟩ := gap_cellAt_succ_le hj
    (extendCell_eq_some_iff.mpr ⟨hfits', c, hcell, rfl⟩)
  rw [(hsplit.extend hk hi hj hfits').gap _ _ rfl, ← hpart] at hle
  obtain ⟨parts', hsplit'⟩ := cellAt_sound hk hi hc'
  have hparts' : parts' ≠ [] := by
    rintro rfl
    have hlength := hsplit'.fitting.length_eq
    rw [List.length_nil, List.length_take] at hlength
    omega
  obtain ⟨fronts', part', rfl⟩ := (List.eq_nil_or_concat' parts').resolve_left hparts'
  rw [hsplit'.gap _ _ rfl] at hle
  exact ⟨c', fronts', part', hc', hsplit', hle⟩

namespace Decided

variable {parts : List (List String)}

/-- The modules of the first parts. -/
theorem take_keys (h : Decided modules memory parts) {fronts rest : List (List String)}
    (hparts : parts = fronts ++ rest) :
    modules.keys.take fronts.flatten.length = fronts.flatten ∧
      fronts.flatten.length ≤ modules.keys.length := by
  rw [← h.fitting.flatten, hparts, List.flatten_append, List.length_append]
  exact ⟨List.take_left, Nat.le_add_right _ _⟩

/-- **The beginnings of the split are in the table.** -/
theorem exists_cellAt (h : Decided modules memory parts) {fronts rest : List (List String)}
    (hparts : parts = fronts ++ rest) (hrest : rest ≠ []) :
    ∃ c, cellAt modules memory fronts.length fronts.flatten.length = some c ∧
      CellSplit modules memory fronts.length fronts.flatten.length c fronts := by
  -- by induction from the first part on: each cell has one candidate that is nearest
  induction fronts using List.reverseRecOn generalizing rest with
  | nil => exact ⟨_, rfl, .nil, rfl, rfl, rfl, fun fronts part heq => absurd heq (by simp)⟩
  | append_singleton fronts part ih =>
    obtain ⟨hitems, hi⟩ := h.take_keys hparts
    have hparts' : parts = fronts ++ part :: rest := by
      rw [hparts, List.append_assoc, List.singleton_append]
    obtain ⟨c, hcell, hsplit⟩ := ih hparts' (List.cons_ne_nil part rest)
    have hpart : parts[fronts.length]? = some part := by
      rw [hparts', List.getElem?_append_right le_rfl, Nat.sub_self]
      rfl
    obtain ⟨limit, hlimit, hfits⟩ := h.fitting.total_le_of_getElem? hpart
    have hne := h.fitting.nonempty part (List.mem_of_getElem? hpart)
    obtain ⟨c', fronts', part', hc', hsplit', hle⟩ :=
      exists_cellAt_concat hlimit hi hitems hne hfits hcell hsplit
    have hfitting := hsplit'.fitting
    rw [hitems] at hfitting
    have heq := h.beginnings fronts part rest hparts' hrest fronts' part' hfitting hle
    rw [heq] at hsplit'
    rw [List.length_append, List.length_singleton]
    exact ⟨c', hc', hsplit'⟩

/-- **The last cell has one of the most even splits.** -/
theorem exists_last (h : Decided modules memory parts) (hne : modules.keys ≠ []) :
    ∃ c, cellAt modules memory memory.length modules.keys.length = some c ∧
      splitSpread modules c.partitions ≤ splitSpread modules parts := by
  have hparts : parts ≠ [] := by
    rintro rfl
    exact hne h.fitting.flatten.symm
  obtain ⟨fronts, part, heq⟩ := (List.eq_nil_or_concat' parts).resolve_left hparts
  obtain ⟨c, hcell, hsplit⟩ := h.exists_cellAt heq (List.cons_ne_nil part [])
  have hpart : parts[fronts.length]? = some part := by rw [heq, List.getElem?_concat_length]
  obtain ⟨limit, hlimit, hfits⟩ := h.fitting.total_le_of_getElem? hpart
  have hitems : modules.keys.take modules.keys.length = (fronts ++ [part]).flatten := by
    rw [List.take_length, ← heq, h.fitting.flatten]
  obtain ⟨c', fronts', part', hc', hsplit', hle⟩ := exists_cellAt_concat hlimit le_rfl hitems
    (h.fitting.nonempty part (List.mem_of_getElem? hpart)) hfits hcell hsplit
  have hcount : fronts.length + 1 = memory.length := by
    rw [← h.fitting.length_eq, heq, List.length_append, List.length_singleton]
  rw [hcount] at hc' hsplit'
  have hfitting := hsplit'.fitting
  rw [List.take_length, List.take_length] at hfitting
  have hpartitions := hsplit'.partitions
  rw [Nat.sub_self, List.replicate_zero, List.append_nil] at hpartitions
  refine ⟨c', hc', ?_⟩
  rw [hpartitions]
  exact h.whole fronts part heq fronts' part' hfitting hle

end Decided

theorem partitionSize_nonneg (hpos : ∀ module ∈ modules.keys, 0 < moduleSize modules module)
    {part : List String} (hpart : ∀ module ∈ part, module ∈ modules.keys) :
    0 ≤ partitionSize modules part := by
  refine List.sum_nonneg fun s hs => ?_
  obtain ⟨module, hmodule, rfl⟩ := List.mem_map.mp hs
  exact (hpos module (hpart module hmodule)).le

/-- With two devices, what is compared is the spread. -/
theorem lastGap_of_length_eq_two (hpos : ∀ module ∈ modules.keys, 0 < moduleSize modules module)
    (htwo : memory.length = 2) {fronts : List (List String)} {part : List String}
    (h : Fitting (moduleSize modules) memory modules.keys (fronts ++ [part])) :
    lastGap (partSizes modules fronts) (partitionSize modules part) =
      splitSpread modules (fronts ++ [part]) := by
  have hlength := h.length_eq
  rw [htwo, List.length_append, List.length_singleton] at hlength
  obtain ⟨first, rfl⟩ := List.length_eq_one_iff.mp (Nat.succ_injective hlength)
  have hfirst : 0 ≤ partitionSize modules first := by
    refine partitionSize_nonneg hpos fun module hmodule => ?_
    rw [← h.flatten]
    exact List.mem_flatten_of_mem List.mem_cons_self hmodule
  show lastGap [_] _ = spread [_, _]
  rw [lastGap_singleton hfirst, spread_pair]

/-- **At most two devices.** -/
theorem exists_decided (hpos : ∀ module ∈ modules.keys, 0 < moduleSize modules module)
    (htwo : memory.length ≤ 2) (h : Splittable modules memory) :
    ∃ parts, Decided modules memory parts := by
  obtain ⟨parts, hparts⟩ := h
  obtain ⟨best, hbest, hleast⟩ := exists_least_spread hparts
  have hlength := hbest.length_eq
  refine ⟨best, hbest, hleast, ?_, ?_⟩
  · -- a beginning that is not the whole split has one part
    intro fronts part rest heq hrest fronts' part' hfitting _
    have hpos := List.length_pos_iff.mpr hrest
    rw [heq, List.length_append, List.length_cons] at hlength
    obtain rfl : fronts = [] := List.length_eq_zero_iff.mp (by omega)
    have hlength' := hfitting.length_eq
    rw [List.length_append, List.length_singleton, List.length_take, List.length_nil] at hlength'
    obtain rfl : fronts' = [] := List.length_eq_zero_iff.mp (by omega)
    have hflatten := hfitting.flatten
    simpa using hflatten
  · intro fronts part heq fronts' part' hfitting hle
    rw [heq] at hbest hlength ⊢
    by_cases hone : memory.length = 1
    · -- a single part is all there is
      have hlength' := hfitting.length_eq
      rw [List.length_append, List.length_singleton] at hlength hlength'
      obtain rfl : fronts = [] := List.length_eq_zero_iff.mp (by omega)
      obtain rfl : fronts' = [] := List.length_eq_zero_iff.mp (by omega)
      show spread [_] ≤ spread [_]
      rw [spread_singleton, spread_singleton]
    · have htwo' : memory.length = 2 := by
        rw [List.length_append, List.length_singleton] at hlength
        omega
      rw [lastGap_of_length_eq_two hpos htwo' hfitting,
        lastGap_of_length_eq_two hpos htwo' hbest] at hle
      exact hle

/-! ## The claim -/

/-- So many devices, numbered from zero. -/
def numbered (memory : List ℤ) : GpuMemory where
  entries := memory.zipIdx.map Prod.swap
  nodup := by
    rw [List.map_map]
    show (memory.zipIdx.map Prod.snd).Nodup
    rw [List.zipIdx_map_snd]
    exact List.nodup_range'

theorem values_numbered (memory : List ℤ) : (numbered memory).values = memory := by
  show (memory.zipIdx.map Prod.swap).map Prod.snd = memory
  rw [List.map_map]
  exact List.zipIdx_map_fst 0 memory

theorem memoryInOrder_numbered (memory : List ℤ) :
    memoryInOrder (numbered memory) = some memory := by
  refine memoryInOrder_eq_some_iff.mpr ⟨?_, fun k limit hlimit => ?_⟩
  · rw [OrderedDict.keys, numbered, List.length_map, List.length_map, List.length_zipIdx]
  · rw [← OrderedDict.mem_entries_iff]
    exact List.mem_map.mpr ⟨(limit, k), List.mk_mem_zipIdx_iff_getElem?.mpr hlimit, rfl⟩

/-- What a balanced placement should be: as even as any split that fits, and a failure when there is
none. -/
structure BalancedAsClaimed (modules : ModuleSizes) (memory : List ℤ) : Prop where
  optimal : Splittable modules memory →
    ∃ placement parts, getBalancedPlacement modules (numbered memory) = .ok (some placement) ∧
      Fitting (moduleSize modules) memory modules.keys parts ∧ PlacedAs placement parts ∧
      ∀ parts', Fitting (moduleSize modules) memory modules.keys parts' →
        splitSpread modules parts ≤ splitSpread modules parts'
  failure : ¬ Splittable modules memory → ∀ deviceMap ∈ ["auto", "balanced"],
    ∃ e, computeDevicePlacementFromMapFast modules [] (numbered memory) deviceMap = .error e

/-- All splits that fit are equally even. -/
def SpreadsAgree (modules : ModuleSizes) (memory : List ℤ) : Prop :=
  ∀ parts parts', Fitting (moduleSize modules) memory modules.keys parts →
    Fitting (moduleSize modules) memory modules.keys parts' →
      splitSpread modules parts = splitSpread modules parts'

theorem fast_of_balanced {deviceMap : String} (h : deviceMap ∈ ["auto", "balanced"])
    (modules : ModuleSizes) (memory : GpuMemory) :
    computeDevicePlacementFromMapFast modules [] memory deviceMap =
      (placeFolded modules memory deviceMap).map fun placement => placement :=
  fast_eq (List.mem_append_left ["sequential"] h) modules [] memory

theorem placeOn_of_balanced {deviceMap : String} (h : deviceMap ∈ ["auto", "balanced"])
    (modules : ModuleSizes) (memory : GpuMemory) :
    placeOn modules memory deviceMap = getBalancedPlacement modules memory :=
  if_pos (List.mem_pair.mp h)

/-- Without a split, failure is reported exactly when an earlier check finds the model too large. -/
theorem fast_fails_iff (hne : modules.keys ≠ []) (hlength : memory.length ≤ modules.keys.length)
    (h : ¬ Splittable modules memory) {deviceMap : String}
    (hmap : deviceMap ∈ ["auto", "balanced"]) :
    (∃ e, computeDevicePlacementFromMapFast modules [] (numbered memory) deviceMap = .error e) ↔
      ¬ FirstFits modules (numbered memory) ∨ memory.sum < modules.values.sum := by
  rw [fast_of_balanced hmap]
  by_cases hfirst : FirstFits modules (numbered memory)
  · rw [placeFolded_of_firstFits hfirst, values_numbered, or_iff_right (not_not.mpr hfirst)]
    by_cases hsum : memory.sum < modules.values.sum
    · rw [if_pos hsum]
      exact iff_of_true ⟨_, rfl⟩ hsum
    · obtain ⟨_, _, limit, hlimit, _⟩ := hfirst
      have hmemory : memory ≠ [] := by
        rintro rfl
        exact absurd hlimit (by simp [numbered, OrderedDict.values])
      rw [if_neg hsum, placeOn_of_balanced hmap, getBalancedPlacement_of_not_fitting hne hlength
        hmemory (memoryInOrder_numbered memory) h]
      refine iff_of_false ?_ hsum
      rintro ⟨e, he⟩
      exact absurd he (by simp [placementFound, bind, Except.bind, Except.map])
  · rw [placeFolded_of_not_firstFits hfirst]
    exact iff_of_true ⟨_, rfl⟩ (Or.inl hfirst)

/-- A split that is as even as can be is placed. -/
theorem exists_placed_of_cellAt (hne : modules.keys ≠ []) {c : Cell}
    (h : cellAt modules memory memory.length modules.keys.length = some c)
    (hbest : ∀ parts', Fitting (moduleSize modules) memory modules.keys parts' →
      splitSpread modules c.partitions ≤ splitSpread modules parts') :
    ∃ placement parts, getBalancedPlacement modules (numbered memory) = .ok (some placement) ∧
      Fitting (moduleSize modules) memory modules.keys parts ∧ PlacedAs placement parts ∧
      ∀ parts', Fitting (moduleSize modules) memory modules.keys parts' →
        splitSpread modules parts ≤ splitSpread modules parts' := by
  have hfitting := exists_split_of_cellAt h
  have hnodup : c.partitions.flatten.Nodup := by
    rw [hfitting.flatten]
    exact modules.nodup
  exact ⟨_, _, getBalancedPlacement_of_fitting hne (memoryInOrder_numbered memory) h, hfitting,
    placedAs_placementOf hnodup, hbest⟩

/-- **When the placement is as balanced as can be, and when failure is reported.** -/
theorem balancedAsClaimed (hne : modules.keys ≠ [])
    (hpos : ∀ module ∈ modules.keys, 0 < moduleSize modules module)
    (hlength : memory.length ≤ modules.keys.length) :
    (Splittable modules memory →
      memory.length ≤ 2 ∨ SpreadsAgree modules memory ∨ (∃ parts, Decided modules memory parts) →
        BalancedAsClaimed modules memory) ∧
      (¬ Splittable modules memory → (BalancedAsClaimed modules memory ↔
        ¬ FirstFits modules (numbered memory) ∨ memory.sum < modules.values.sum)) := by
  refine ⟨fun hsplit hcondition => ⟨fun _ => ?_, fun hno => absurd hsplit hno⟩, fun hno => ⟨?_, ?_⟩⟩
  · by_cases hagree : SpreadsAgree modules memory
    · obtain ⟨c, hc⟩ := splittable_iff_cellAt.mp hsplit
      exact exists_placed_of_cellAt hne hc fun parts' hparts' =>
        le_of_eq (hagree _ _ (exists_split_of_cellAt hc) hparts')
    · have hdecided : ∃ parts, Decided modules memory parts :=
        hcondition.elim (fun htwo => exists_decided hpos htwo hsplit) fun h =>
          h.resolve_left hagree
      obtain ⟨parts, hdecided⟩ := hdecided
      obtain ⟨c, hc, hle⟩ := hdecided.exists_last hne
      exact exists_placed_of_cellAt hne hc fun parts' hparts' =>
        hle.trans (hdecided.best parts' hparts')
  · intro hclaim
    exact (fast_fails_iff hne hlength hno List.mem_cons_self).mp
      (hclaim.failure hno _ List.mem_cons_self)
  · exact fun hcondition => ⟨fun hsplit => absurd hsplit hno, fun _ deviceMap hmap =>
      (fast_fails_iff hne hlength hno hmap).mpr hcondition⟩

theorem balancedAsClaimed_two_devices :
    let modules : ModuleSizes := (OrderedDict.empty.set "a" 2).set "b" 3
    BalancedAsClaimed modules [4, 4] :=
  (balancedAsClaimed (by decide) (by decide) (by decide)).1
    ⟨[["a"], ["b"]], rfl, by decide, .cons (by decide) (.cons (by decide) .nil)⟩ (Or.inl le_rfl)

/-- Four modules whose most even split is not the one that is found. -/
def unevenModules : ModuleSizes :=
  (((OrderedDict.empty.set "a" 1).set "b" 4).set "c" 1).set "d" 3

/-- **A more even split is missed.**  The middle two modules are placed together, with parts of 1, 5
and 3, where 1, 4 and 4 would do. -/
theorem balanced_misses_best :
    (∀ module ∈ unevenModules.keys, 0 < moduleSize unevenModules module) ∧
      ¬ BalancedAsClaimed unevenModules [9, 9, 9] := by
  refine ⟨by decide, fun hclaim => ?_⟩
  have hbetter : Fitting (moduleSize unevenModules) [9, 9, 9] unevenModules.keys
      [["a"], ["b"], ["c", "d"]] :=
    ⟨rfl, by decide, .cons (by decide) (.cons (by decide) (.cons (by decide) .nil))⟩
  obtain ⟨placement, parts, hget, hfitting, hplaced, hbest⟩ := hclaim.optimal ⟨_, hbetter⟩
  have hfound : getBalancedPlacement unevenModules (numbered [9, 9, 9]) =
      .ok (some (placementOf [("a", 0), ("b", 1), ("c", 1), ("d", 2)])) := by decide +kernel
  rw [hfound] at hget
  obtain rfl := Option.some.inj (Except.ok.inj hget)
  have hnodup : parts.flatten.Nodup := by
    rw [hfitting.flatten]
    decide
  obtain ⟨first, second, third, rfl⟩ := List.length_eq_three.mp hfitting.length_eq
  have hfirst := hplaced.part_eq hnodup 0 rfl
  have hsecond := hplaced.part_eq hnodup 1 rfl
  have hthird := hplaced.part_eq hnodup 2 rfl
  rw [hfitting.flatten] at hfirst hsecond hthird
  have hle := hbest _ hbetter
  rw [hfirst, hsecond, hthird] at hle
  exact absurd hle (by decide +kernel)

end DevicePlacement
end Store
end SpotServe
