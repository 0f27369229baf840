import SpotServe.Library.OrderedDict
import SpotServe.Library.Selection
import SpotServe.Library.Splits

/-!
# Placing modules on devices

`_compute_device_placement_from_map_fast` (`sllm_store/sllm_store/device_map_utils.py`) folds groups
of tied modules into single modules, places these on the GPUs, balanced or one after the other, and
gives the members of a group the device of the module they were folded into.

The memory of the GPUs is what `get_max_memory` returns, less the entry for the cpu.  Sizes are
integers.

* `popDevices_eq`: the first device has room for the first module, or all devices are popped.
* `placeFolded_of_firstFits`, `placeFolded_of_not_firstFits`: what is placed, and when.
-/

namespace SpotServe
namespace Store
namespace DevicePlacement

open Py

/-- How the placement can fail. -/
inductive PlacementError where
  | valueError
  | stopIteration
  | runtimeError
  | assertionError
  | notImplementedError
  | keyError
  deriving DecidableEq

/-- The sizes of the modules, in their order. -/
abbrev ModuleSizes := OrderedDict String ℤ

/-- An entry of `tied_modules`: the names of a group, and the size that they share. -/
abbrev TiedGroup := List String × ℤ

/-- The device of each module. -/
abbrev Placement := OrderedDict String ℕ

/-- The memory of the GPUs by their number. -/
abbrev GpuMemory := OrderedDict ℕ ℤ

/-- `no_split_modules[module]`, for a module that is there. -/
def moduleSize (modules : ModuleSizes) (module : String) : ℤ := (modules.get? module).getD 0

/-! ## Tied groups -/

/-- The members of the group that are folded into its first member. -/
def foldedInto (modules : ModuleSizes) (group : TiedGroup) (module : String) : List String :=
  modules.keys.filter fun m => m ∈ group.1 ∧ m ≠ module

/-- `tied_size` -/
def tiedSize (modules : ModuleSizes) (group : TiedGroup) (module : String) : ℤ :=
  moduleSize modules module +
    ((foldedInto modules group module).map fun m => moduleSize modules m - group.2).sum

/-- The loop body over `tied_modules` that folds a group. -/
def foldGroup (modules : ModuleSizes) (group : TiedGroup) : ModuleSizes :=
  match modules.keys.find? fun module => module ∈ group.1 with
  | none => modules
  | some module =>
    (modules.filter fun m _ => m ∉ foldedInto modules group module).set module
      (tiedSize modules group module)

/-- The loop that treats each group as a single module. -/
def foldTied (modules : ModuleSizes) (tied : List TiedGroup) : ModuleSizes :=
  tied.foldl foldGroup modules

variable {γ : Type*}

/-- `placement[m] = placement[module]`, for another member of the group. -/
def reassign (module : String) (placement : OrderedDict String γ) (m : String) :
    OrderedDict String γ :=
  match placement.get? module with
  | some device => if m ≠ module then placement.set m device else placement
  | none => placement

/-- The loop over the members of the group of a module. -/
def reassignFrom (group : TiedGroup) (placement : OrderedDict String γ) (module : String) :
    OrderedDict String γ :=
  if module ∈ group.1 then group.1.foldl (reassign module) placement else placement

/-- The loop body over `tied_modules` that unfolds a group. -/
def unfoldGroup (placement : OrderedDict String γ) (group : TiedGroup) : OrderedDict String γ :=
  placement.keys.foldl (reassignFrom group) placement

/-- The loop that reassigns tied modules to the same device. -/
def unfoldTied (placement : OrderedDict String γ) (tied : List TiedGroup) : OrderedDict String γ :=
  tied.foldl unfoldGroup placement

/-! ## The devices -/

/-- The loop that pops devices, the last one first, until the first device holds the first module;
of so many devices at most. -/
def popDevices (firstSize : ℤ) : ℕ → GpuMemory → Except PlacementError GpuMemory
  | 0, _ => .error .stopIteration
  | left + 1, maxMemory =>
    match maxMemory.values.head? with
    | none => .error .stopIteration
    | some memory =>
      if memory < firstSize then popDevices firstSize left maxMemory.popItem else .ok maxMemory

/-- `device_memory[k]` for the numbers below `len(device_memory)`. -/
def memoryInOrder (deviceMemory : GpuMemory) : Option (List ℤ) :=
  (List.range deviceMemory.keys.length).mapM deviceMemory.get?

/-! ## `_get_balanced_placement` -/

/-- A cell of the table: `[gap, min_size, max_size, partitions]`, where no smallest size stands for
an infinite one.  A cell with an infinite gap is no cell. -/
structure Cell where
  gap : ℤ
  minSize : Option ℤ
  maxSize : ℤ
  partitions : List (List String)

/-- `sum([module_size[module] for module in current_partition])` -/
def partitionSize (modules : ModuleSizes) (partition : List String) : ℤ :=
  Splits.total (moduleSize modules) partition

/-- A cell with one more partition, on device `k`. -/
def Cell.extend (cell : Cell) (k : ℕ) (currentPartition : List String) (currentSize : ℤ) :
    Cell where
  gap := match cell.minSize with
    | none => 0
    | some minSize => max |minSize - currentSize| |cell.maxSize - currentSize|
  minSize := match cell.minSize with
    | none => some currentSize
    | some minSize => some (min minSize currentSize)
  maxSize := max cell.maxSize currentSize
  partitions := cell.partitions.set k currentPartition

/-- The candidate for `dp[i][k + 1]` that puts `module_names[j:i]` on device `k`. -/
def extendCell (modules : ModuleSizes) (memory : ℤ) (k i j : ℕ) (previous : Option Cell) :
    Option Cell :=
  let currentPartition := (modules.keys.take i).drop j
  let currentSize := partitionSize modules currentPartition
  if memory < currentSize then none
  else previous.map fun cell => cell.extend k currentPartition currentSize

/-- `dp[i][k]`: each candidate replaces what is kept when its gap is smaller. -/
def cellAt (modules : ModuleSizes) (memory : List ℤ) : ℕ → ℕ → Option Cell
  | 0, 0 => some ⟨0, none, 0, List.replicate memory.length []⟩
  | 0, _ + 1 => none
  | k + 1, i =>
    ((List.range i).map fun j => extendCell modules (memory.getD k 0) k i j
      (cellAt modules memory k j)).foldl (Selection.keepLess Cell.gap) none

/-- `dp[length][n][-1]`; a cell with an infinite gap has no partitions. -/
def lastPartitions (modules : ModuleSizes) (memory : List ℤ) : List (List String) :=
  match cellAt modules memory memory.length modules.keys.length with
  | some cell => cell.partitions
  | none => []

/-- The entries of `result_device_map`. -/
def placementEntries (partitions : List (List String)) : List (String × ℕ) :=
  partitions.zipIdx.flatMap fun part => part.1.map fun module => (module, part.2)

/-- The loop that fills a map. -/
def placementOf (entries : List (String × ℕ)) : Placement :=
  entries.foldl (fun placement entry => placement.set entry.1 entry.2) .empty

/-- `_get_balanced_placement` -/
def getBalancedPlacement (moduleSizes : ModuleSizes) (deviceMemory : GpuMemory) :
    Except PlacementError (Option Placement) :=
  let length := moduleSizes.keys.length
  let n := deviceMemory.keys.length
  if ¬ (0 < length ∧ n ≤ length) then .error .assertionError
  else if n = 0 ∨ length = 0 then .ok none
  else
    -- the turn for the first module looks up every number below `n`
    match memoryInOrder deviceMemory with
    | none => .error .keyError
    | some memory =>
      .ok (some (placementOf (placementEntries (lastPartitions moduleSizes memory))))

/-! ## `_get_sequential_placement` -/

/-- The inner loop from the current device on, of which there are so many up to `n`. -/
def nextDevice (deviceMemory : GpuMemory) (size : ℤ) : ℕ → ℕ → Except PlacementError ℕ
  | 0, currentDevice => .ok currentDevice
  | left + 1, currentDevice =>
    match deviceMemory.get? currentDevice with
    | none => .error .keyError
    | some memory =>
      if memory < size then nextDevice deviceMemory size left (currentDevice + 1)
      else .ok currentDevice

/-- The loop over the modules. -/
def placeInTurn (deviceMemory : GpuMemory) :
    ℕ → List (String × ℤ) → Placement → Except PlacementError Placement
  | _, [], placement => .ok placement
  | currentDevice, (module, size) :: rest, placement => do
    let currentDevice ← nextDevice deviceMemory size (deviceMemory.keys.length - currentDevice)
      currentDevice
    match deviceMemory.get? currentDevice with
    | none => .error .keyError
    | some memory =>
      if size ≤ memory then
        placeInTurn deviceMemory currentDevice rest (placement.set module currentDevice)
      else .error .runtimeError

/-- `_get_sequential_placement` -/
def getSequentialPlacement (moduleSizes : ModuleSizes) (deviceMemory : GpuMemory) :
    Except PlacementError (Option Placement) :=
  let length := moduleSizes.keys.length
  let n := deviceMemory.keys.length
  if ¬ (0 < length ∧ n ≤ length) then .error .assertionError
  else if n = 0 ∨ length = 0 then .ok none
  else (placeInTurn deviceMemory 0 moduleSizes.entries .empty).map some

/-! ## The placement -/

/-- What is placed on the devices that are left. -/
def placeOn (folded : ModuleSizes) (maxMemory : GpuMemory) (deviceMap : String) :
    Except PlacementError (Option Placement) :=
  if deviceMap = "auto" ∨ deviceMap = "balanced" then getBalancedPlacement folded maxMemory
  else if deviceMap = "balanced_low_0" then .error .notImplementedError
  else getSequentialPlacement folded maxMemory

/-- A placement, or the error that none was found. -/
def placementFound : Option Placement → Except PlacementError Placement
  | none => .error .runtimeError
  | some placement => .ok placement

/-- The placement of the folded modules. -/
def placeFolded (folded : ModuleSizes) (maxMemory : GpuMemory) (deviceMap : String) :
    Except PlacementError Placement :=
  match folded.values.head? with
  | none => .error .stopIteration
  | some firstSize => do
    let maxMemory ← popDevices firstSize maxMemory.keys.length maxMemory
    if maxMemory.values.sum < folded.values.sum then .error .runtimeError
    else
      let placement ← placeOn folded maxMemory deviceMap
      placementFound placement

/-- `_compute_device_placement_from_map_fast`, for a device map that is a string. -/
def computeDevicePlacementFromMapFast (noSplitModules : ModuleSizes) (tiedModules : List TiedGroup)
    (maxMemory : GpuMemory) (deviceMap : String) : Except PlacementError Placement :=
  if deviceMap ∉ ["auto", "balanced", "balanced_low_0", "sequential"] then .error .valueError
  else (placeFolded (foldTied noSplitModules tiedModules) maxMemory deviceMap).map fun placement =>
    unfoldTied placement tiedModules

/-- A known device map, of those that are implemented. -/
theorem fast_eq {deviceMap : String}
    (hmap : deviceMap ∈ ["auto", "balanced", "sequential"]) (modules : ModuleSizes)
    (tied : List TiedGroup) (memory : GpuMemory) :
    computeDevicePlacementFromMapFast modules tied memory deviceMap =
      (placeFolded (foldTied modules tied) memory deviceMap).map fun placement =>
        unfoldTied placement tied := by
  have hknown : deviceMap ∈ ["auto", "balanced", "balanced_low_0", "sequential"] := by
    simp only [List.mem_cons, List.not_mem_nil, or_false] at hmap ⊢
    rcases hmap with rfl | rfl | rfl
    · exact Or.inl rfl
    · exact Or.inr (Or.inl rfl)
    · exact Or.inr (Or.inr (Or.inr rfl))
  rw [computeDevicePlacementFromMapFast, if_neg (not_not.mpr hknown)]

/-! ## Looking the devices up -/

theorem mapM_eq_some_iff {α β : Type*} {f : α → Option β} {l : List α} {l' : List β} :
    l.mapM f = some l' ↔ List.Forall₂ (fun a b => f a = some b) l l' := by
  induction l generalizing l' with
  | nil => simp [eq_comm]
  | cons a l ih =>
    rw [List.mapM_cons, List.forall₂_cons_left_iff]
    simp only [Option.bind_eq_bind, Option.bind_eq_some_iff, Option.pure_def, Option.some.injEq,
      ← ih]
    constructor
    · rintro ⟨b, hb, rest, hrest, rfl⟩
      exact ⟨b, rest, hb, hrest, rfl⟩
    · rintro ⟨b, rest, hb, hrest, rfl⟩
      exact ⟨b, hb, rest, hrest, rfl⟩

/-- The numbers below `n` all have a device. -/
theorem memoryInOrder_eq_some_iff {deviceMemory : GpuMemory} {memory : List ℤ} :
    memoryInOrder deviceMemory = some memory ↔ memory.length = deviceMemory.keys.length ∧
      ∀ k limit, memory[k]? = some limit → deviceMemory.get? k = some limit := by
  rw [memoryInOrder, mapM_eq_some_iff, List.forall₂_iff_get]
  constructor
  · rintro ⟨hlength, h⟩
    refine ⟨by rw [← hlength, List.length_range], fun k limit hk => ?_⟩
    obtain ⟨hlt, rfl⟩ := List.getElem?_eq_some_iff.mp hk
    have hget := h k (hlength ▸ hlt) hlt
    rwa [List.get_eq_getElem, List.getElem_range] at hget
  · rintro ⟨hlength, h⟩
    refine ⟨by rw [hlength, List.length_range], fun k hk hk' => ?_⟩
    rw [List.get_eq_getElem, List.getElem_range]
    exact h k _ (List.getElem?_eq_getElem hk')

/-! ## The first module and the devices -/

/-- There are a first module and a first device, and the device holds the module. -/
def FirstFits (modules : ModuleSizes) (memory : GpuMemory) : Prop :=
  ∃ size ∈ modules.values.head?, ∃ limit ∈ memory.values.head?, size ≤ limit

theorem values_popItem (memory : GpuMemory) : memory.popItem.values = memory.values.dropLast :=
  List.map_dropLast

/-- Popping a device leaves the first one in place, unless it was the only one. -/
theorem head?_popItem {memory : GpuMemory} {limit limit' : ℤ}
    (h : memory.values.head? = some limit) (h' : memory.popItem.values.head? = some limit') :
    limit' = limit := by
  rw [values_popItem, List.dropLast_eq_take, List.head?_take] at h'
  split_ifs at h'
  rw [h] at h'
  exact (Option.some.inj h').symm

theorem popDevices_of_small {firstSize limit : ℤ} (hsmall : limit < firstSize) (left : ℕ)
    {memory : GpuMemory} (h : memory.values.head? = some limit) :
    popDevices firstSize left memory = .error .stopIteration := by
  induction left generalizing memory with
  | zero => rfl
  | succ left ih =>
    simp only [popDevices, h, if_pos hsmall]
    cases hpop : memory.popItem.values.head? with
    | none =>
      cases left with
      | zero => rfl
      | succ left => simp only [popDevices, hpop]
    | some limit' =>
      obtain rfl := head?_popItem h hpop
      exact ih hpop

/-- **All devices are left, or none.** -/
theorem popDevices_eq {firstSize limit : ℤ} {memory : GpuMemory}
    (h : memory.values.head? = some limit) :
    popDevices firstSize memory.keys.length memory =
      if limit < firstSize then .error .stopIteration else .ok memory := by
  by_cases hsmall : limit < firstSize
  · rw [if_pos hsmall, popDevices_of_small hsmall _ h]
  · rw [if_neg hsmall]
    have hlength : memory.keys.length = memory.values.length := by
      rw [OrderedDict.keys, OrderedDict.values, List.length_map, List.length_map]
    obtain ⟨rest, hrest⟩ := List.head?_eq_some_iff.mp h
    rw [hlength, hrest, List.length_cons]
    simp only [popDevices, h, if_neg hsmall]

variable {folded : ModuleSizes} {memory : GpuMemory} {deviceMap : String}

theorem placeFolded_of_not_firstFits (h : ¬ FirstFits folded memory) :
    placeFolded folded memory deviceMap = .error .stopIteration := by
  unfold placeFolded
  cases hfirst : folded.values.head? with
  | none => rfl
  | some size =>
    have hpop : popDevices size memory.keys.length memory = .error .stopIteration := by
      cases hlimit : memory.values.head? with
      | none =>
        cases memory.keys.length with
        | zero => rfl
        | succ left => simp only [popDevices, hlimit]
      | some limit =>
        have hsmall : limit < size :=
          not_le.mp fun hle => h ⟨size, hfirst, limit, hlimit, hle⟩
        rw [popDevices_eq hlimit, if_pos hsmall]
    show (popDevices size memory.keys.length memory >>= _) = _
    rw [hpop]
    rfl

theorem placeFolded_of_firstFits (h : FirstFits folded memory) :
    placeFolded folded memory deviceMap =
      if memory.values.sum < folded.values.sum then .error .runtimeError
      else placeOn folded memory deviceMap >>= placementFound := by
  obtain ⟨size, hfirst, limit, hlimit, hle⟩ := h
  unfold placeFolded
  rw [Option.mem_def.mp hfirst]
  show (popDevices size memory.keys.length memory >>= _) = _
  rw [popDevices_eq hlimit, if_neg (not_lt.mpr hle)]
  rfl

end DevicePlacement
end Store
end SpotServe
