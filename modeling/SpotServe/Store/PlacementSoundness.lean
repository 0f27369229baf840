import SpotServe.Store.SequentialPlacement
import SpotServe.Store.TiedModules

/-!
# When the placement is sound

A placement is sound when all modules have a device, the members of a tied group have the same one,
and each device has room for its modules, where a part that several of them share is counted once.

* `loadOn_foldGroup`: what folding a group takes off the load of its device.
* `loadOn_foldTied_ge`, `loadOn_foldTied_eq`: a device holds at least what its modules take, and
  just that when the groups do not overlap.
* `sound_of_partsFit`, `partsFit_of_sound`: a placement is sound when each part of the folded
  modules fits its device.
* `soundOrRefused`: when the placement is sound, or refused with a `RuntimeError`.
-/

namespace SpotServe
namespace Store
namespace DevicePlacement

open Py Splits

/-! ## Loads -/

/-- The modules on a device. -/
def modulesOn (modules : List String) (deviceOf : String → Option ℕ) (device : ℕ) : List String :=
  modules.filter fun m => deviceOf m = some device

/-- The sizes of the modules on a device. -/
def loadOn (modules : ModuleSizes) (deviceOf : String → Option ℕ) (device : ℕ) : ℤ :=
  total (moduleSize modules) (modulesOn modules.keys deviceOf device)

/-- How often a device has what the members of a group share, less once. -/
def sharedTwice (modules : List String) (deviceOf : String → Option ℕ) (device : ℕ)
    (group : TiedGroup) : ℕ :=
  ((modulesOn modules deviceOf device).filter fun m => m ∈ group.1).length - 1

/-- What the modules on a device take there, with shared parts counted once. -/
def deviceLoad (modules : ModuleSizes) (tied : List TiedGroup) (deviceOf : String → Option ℕ)
    (device : ℕ) : ℤ :=
  loadOn modules deviceOf device -
    (tied.map fun group => group.2 * sharedTwice modules.keys deviceOf device group).sum

variable {modules : ModuleSizes} {tied : List TiedGroup} {group : TiedGroup}
  {deviceOf : String → Option ℕ} {device : ℕ}

/-- All members of a group but one are folded. -/
theorem length_foldedInto {module : String}
    (h : modules.keys.find? (· ∈ group.1) = some module) :
    (foldedInto modules group module).length =
      (modules.keys.filter fun m => m ∈ group.1).length - 1 := by
  have hmember : module ∈ group.1 := by simpa using List.find?_some h
  have hin : module ∈ modules.keys.filter fun m => m ∈ group.1 :=
    List.mem_filter.mpr ⟨List.mem_of_find?_eq_some h, decide_eq_true hmember⟩
  have hnodup : (modules.keys.filter fun m => m ∈ group.1).Nodup := modules.nodup.filter _
  rw [← List.length_erase_of_mem hin, hnodup.erase_eq_filter, List.filter_filter, foldedInto]
  congr 1
  refine List.filter_congr fun m _ => ?_
  by_cases heq : m = module
  · simp [heq]
  · simp [heq]

section FoldGroup

variable {module : String}

/-- What stays on a device when a group is folded. -/
theorem modulesOn_foldGroup (hfind : modules.keys.find? (· ∈ group.1) = some module) :
    modulesOn (foldGroup modules group).keys deviceOf device =
      (modulesOn modules.keys deviceOf device).filter fun m =>
        !decide (m ∈ foldedInto modules group module) := by
  rw [modulesOn, keys_foldGroup_of_some hfind, modulesOn, List.filter_comm]
  simp only [decide_not]

/-- The first member alone has another size than before. -/
theorem loadOn_foldGroup_of_some (hfind : modules.keys.find? (· ∈ group.1) = some module) :
    loadOn (foldGroup modules group) deviceOf device =
      total (moduleSize modules) (modulesOn (foldGroup modules group).keys deviceOf device) +
        if deviceOf module = some device
          then tiedSize modules group module - moduleSize modules module else 0 := by
  have hnodup : (modulesOn (foldGroup modules group).keys deviceOf device).Nodup :=
    (foldGroup modules group).nodup.filter _
  have hsize : ∀ m ∈ modulesOn (foldGroup modules group).keys deviceOf device,
      moduleSize (foldGroup modules group) m =
        if m = module then tiedSize modules group module else moduleSize modules m :=
    fun m hm => moduleSize_foldGroup hfind (List.mem_of_mem_filter hm)
  have hin : module ∈ modulesOn (foldGroup modules group).keys deviceOf device ↔
      deviceOf module = some device := by
    have hmodule := List.mem_of_find?_eq_some hfind
    rw [modulesOn_foldGroup hfind, List.mem_filter, modulesOn, List.mem_filter]
    simp [hmodule, mem_foldedInto]
  rw [loadOn, total_update hnodup fun m hm hne => (hsize m hm).trans (if_neg hne)]
  congr 1
  by_cases hon : deviceOf module = some device
  · rw [if_pos (hin.mpr hon), if_pos hon, hsize module (hin.mpr hon), if_pos rfl]
  · rw [if_neg (mt hin.mp hon), if_neg hon]

/-- A device that has the group has all that is folded. -/
theorem filter_foldedInto (hall : ∀ m ∈ modules.keys, m ∈ group.1 → deviceOf m = some device)
    (module : String) :
    (modulesOn modules.keys deviceOf device).filter (fun m => m ∈ foldedInto modules group module) =
      foldedInto modules group module := by
  rw [modulesOn, List.filter_filter]
  conv_rhs => rw [foldedInto]
  refine List.filter_congr fun m hm => ?_
  by_cases hin : m ∈ group.1
  · simp [mem_foldedInto, hm, hin, hall m hm hin]
  · simp [mem_foldedInto, hin]

/-- It has what they share once for each of them, too. -/
theorem sharedTwice_of_all (hfind : modules.keys.find? (· ∈ group.1) = some module)
    (hall : ∀ m ∈ modules.keys, m ∈ group.1 → deviceOf m = some device) :
    sharedTwice modules.keys deviceOf device group = (foldedInto modules group module).length := by
  rw [length_foldedInto hfind, sharedTwice, modulesOn, List.filter_filter]
  congr 2
  refine List.filter_congr fun m hm => ?_
  by_cases hin : m ∈ group.1
  · simp [hin, hall m hm hin]
  · simp [hin]

/-- A device that has none of the group shares nothing. -/
theorem sharedTwice_of_none (hnone : ∀ m ∈ modulesOn modules.keys deviceOf device, m ∉ group.1) :
    sharedTwice modules.keys deviceOf device group = 0 := by
  have hfilter : (modulesOn modules.keys deviceOf device).filter (fun m => m ∈ group.1) = [] :=
    List.filter_eq_nil_iff.mpr fun m hm hin => hnone m hm (of_decide_eq_true hin)
  rw [sharedTwice, hfilter]
  rfl

end FoldGroup

/-- **What folding a group takes off the load of its device.** -/
theorem loadOn_foldGroup (hsame : ∀ m ∈ modules.keys, ∀ m' ∈ modules.keys, m ∈ group.1 →
      m' ∈ group.1 → deviceOf m = deviceOf m') (device : ℕ) :
    loadOn modules deviceOf device = loadOn (foldGroup modules group) deviceOf device +
      group.2 * sharedTwice modules.keys deviceOf device group := by
  cases hfind : modules.keys.find? (· ∈ group.1) with
  | none =>
    have hnone : ∀ m ∈ modulesOn modules.keys deviceOf device, m ∉ group.1 := fun m hm hin =>
      List.find?_eq_none.mp hfind m (List.mem_of_mem_filter hm) (decide_eq_true hin)
    rw [foldGroup_of_none hfind, sharedTwice_of_none hnone, Nat.cast_zero, mul_zero, add_zero]
  | some module =>
    have hmember : module ∈ group.1 := by simpa using List.find?_some hfind
    have hmodule : module ∈ modules.keys := List.mem_of_find?_eq_some hfind
    rw [loadOn, ← total_filter_add _ fun m => m ∈ foldedInto modules group module,
      loadOn_foldGroup_of_some hfind, ← modulesOn_foldGroup hfind]
    -- the group is on the device as a whole, or not at all
    by_cases hon : deviceOf module = some device
    · have hall : ∀ m ∈ modules.keys, m ∈ group.1 → deviceOf m = some device :=
        fun m hm hin => (hsame m hm module hmodule hin hmember).trans hon
      have hsub := total_sub_const (moduleSize modules) group.2 (foldedInto modules group module)
      rw [total] at hsub
      rw [filter_foldedInto hall, sharedTwice_of_all hfind hall, if_pos hon, tiedSize]
      omega
    · have hnone : ∀ m ∈ modulesOn modules.keys deviceOf device, m ∉ group.1 := by
        intro m hm hin
        rw [modulesOn, List.mem_filter, decide_eq_true_iff] at hm
        exact hon ((hsame module hmodule m hm.1 hmember hin).trans hm.2)
      have hothers : (modulesOn modules.keys deviceOf device).filter
          (fun m => m ∈ foldedInto modules group module) = [] :=
        List.filter_eq_nil_iff.mpr fun m hm hin =>
          hnone m hm (mem_foldedInto.mp (of_decide_eq_true hin)).2.1
      rw [hothers, sharedTwice_of_none hnone, if_neg hon, total_nil, Nat.cast_zero, mul_zero,
        zero_add, add_zero, add_zero]

/-- What is shared on a device does not get more when modules are left out. -/
theorem sharedTwice_mono {kept all : List String} (h : kept.Sublist all) (group : TiedGroup) :
    sharedTwice kept deviceOf device group ≤ sharedTwice all deviceOf device group :=
  Nat.sub_le_sub_right ((h.filter _).filter _).length_le 1

/-- **A device holds at least what its modules take.** -/
theorem loadOn_foldTied_ge (hshared : ∀ group ∈ tied, 0 ≤ group.2) {all : List String}
    (hall : modules.keys.Sublist all) (hsame : ∀ group ∈ tied, ∀ m ∈ all, ∀ m' ∈ all, m ∈ group.1 →
      m' ∈ group.1 → deviceOf m = deviceOf m') (device : ℕ) :
    loadOn modules deviceOf device -
        (tied.map fun group => group.2 * sharedTwice all deviceOf device group).sum ≤
      loadOn (foldTied modules tied) deviceOf device := by
  induction tied generalizing modules with
  | nil =>
    rw [List.map_nil, List.sum_nil, sub_zero]
    exact le_rfl
  | cons group rest ih =>
    have hfold := loadOn_foldGroup (fun m hm m' hm' =>
      hsame group List.mem_cons_self m (hall.subset hm) m' (hall.subset hm')) device
    have hkeys : (foldGroup modules group).keys.Sublist all := by
      rw [keys_foldGroup]
      exact List.filter_sublist.trans hall
    have hrest := ih (fun group' hgroup' => hshared group' (List.mem_cons_of_mem group hgroup'))
      hkeys fun group' hgroup' => hsame group' (List.mem_cons_of_mem group hgroup')
    have hmore : group.2 * sharedTwice modules.keys deviceOf device group ≤
        group.2 * sharedTwice all deviceOf device group := by
      refine mul_le_mul_of_nonneg_left ?_ (hshared group List.mem_cons_self)
      exact_mod_cast sharedTwice_mono hall group
    have htied : foldTied modules (group :: rest) = foldTied (foldGroup modules group) rest := rfl
    rw [List.map_cons, List.sum_cons, htied]
    omega

/-- Folding a group leaves what another group shares. -/
theorem sharedTwice_foldGroup {group' : TiedGroup} (h : group.1.Disjoint group'.1) :
    sharedTwice (foldGroup modules group).keys deviceOf device group' =
      sharedTwice modules.keys deviceOf device group' := by
  rw [sharedTwice, sharedTwice, modulesOn, modulesOn, keys_foldGroup]
  simp only [List.filter_filter]
  congr 2
  refine List.filter_congr fun m _ => ?_
  by_cases hin : m ∈ group'.1
  · have hnot : m ∉ group.1 := fun hboth => h hboth hin
    simp [hnot]
  · simp [hin]

/-- **Without overlap a device holds just what its modules take.** -/
theorem loadOn_foldTied_eq (hdisjoint : DisjointGroups tied) (hsame : ∀ group ∈ tied,
      ∀ m ∈ modules.keys, ∀ m' ∈ modules.keys, m ∈ group.1 → m' ∈ group.1 →
        deviceOf m = deviceOf m') (device : ℕ) :
    deviceLoad modules tied deviceOf device = loadOn (foldTied modules tied) deviceOf device := by
  induction tied generalizing modules with
  | nil => exact sub_zero _
  | cons group rest ih =>
    obtain ⟨hfirst, hrest⟩ := List.pairwise_cons.mp hdisjoint
    have hfold := loadOn_foldGroup (hsame group List.mem_cons_self) device
    have hshared : (rest.map fun group' =>
          group'.2 * (sharedTwice (foldGroup modules group).keys deviceOf device group' : ℤ)) =
        rest.map fun group' => group'.2 * (sharedTwice modules.keys deviceOf device group' : ℤ) :=
      List.map_congr_left fun group' hgroup' => by
        rw [sharedTwice_foldGroup (hfirst group' hgroup')]
    have hkept : ∀ group' ∈ rest, ∀ m ∈ (foldGroup modules group).keys,
        ∀ m' ∈ (foldGroup modules group).keys, m ∈ group'.1 → m' ∈ group'.1 →
          deviceOf m = deviceOf m' := fun group' hgroup' m hm m' hm' =>
      hsame group' (List.mem_cons_of_mem group hgroup') m (mem_keys_of_foldGroup hm) m'
        (mem_keys_of_foldGroup hm')
    have hih := ih hrest hkept
    have htied : foldTied modules (group :: rest) = foldTied (foldGroup modules group) rest := rfl
    rw [deviceLoad, hshared] at hih
    rw [deviceLoad, List.map_cons, List.sum_cons, htied]
    omega

/-! ## Soundness -/

/-- All modules have a device, groups are together, and each device has room. -/
structure SoundPlacement (modules : ModuleSizes) (tied : List TiedGroup) (memory : GpuMemory)
    (placement : Placement) : Prop where
  placed : ∀ m ∈ modules.keys, ∃ device, placement.get? m = some device
  together : ∀ group ∈ tied, ∀ m ∈ group.1, ∀ m' ∈ group.1, ∀ device device',
    placement.get? m = some device → placement.get? m' = some device' → device = device'
  fits : ∀ device, ∀ m ∈ modules.keys, placement.get? m = some device →
    ∃ limit, memory.get? device = some limit ∧
      deviceLoad modules tied placement.get? device ≤ limit

section Parts

variable {parts : List (List String)} {memory : GpuMemory}

/-- The placement of the folded modules, part by part. -/
theorem nodup_flatten (hparts : parts.flatten = (foldTied modules tied).keys) :
    parts.flatten.Nodup := by
  rw [hparts]
  exact (foldTied modules tied).nodup

/-- The device of a module is that of its folded module. -/
theorem get?_unfolded (hparts : parts.flatten = (foldTied modules tied).keys) (m : String) :
    (unfoldTied (placementOf (placementEntries parts)) tied).get? m =
      ((unfoldedNames modules tied).get? m).bind (placementOf (placementEntries parts)).get? := by
  have hkeys := keys_placementOf (nodup_flatten hparts)
  rw [get?_unfoldTied (hkeys.trans hparts)]
  cases hname : (unfoldedNames modules tied).get? m with
  | none => rfl
  | some name =>
    have hin := (ownNames_unfoldedNames modules tied).among m name hname
    rw [← hparts, ← hkeys] at hin
    obtain ⟨device, hdevice⟩ := OrderedDict.mem_keys_iff _ |>.mp hin
    show some ((OrderedDict.get? _ name).getD 0) = OrderedDict.get? _ name
    rw [hdevice, Option.getD_some]

/-- A device on which a module is has a part. -/
theorem exists_part (hparts : parts.flatten = (foldTied modules tied).keys) {m : String}
    {device : ℕ}
    (h : (unfoldTied (placementOf (placementEntries parts)) tied).get? m = some device) :
    ∃ part, parts[device]? = some part ∧ part ≠ [] := by
  rw [get?_unfolded hparts] at h
  obtain ⟨name, -, hname⟩ := Option.bind_eq_some_iff.mp h
  obtain ⟨part, hpart, hin⟩ := (placedAs_placementOf (nodup_flatten hparts) name device).mp hname
  exact ⟨part, hpart, List.ne_nil_of_mem hin⟩

/-- The folded modules on a device are its part. -/
theorem loadOn_unfolded (hparts : parts.flatten = (foldTied modules tied).keys) {device : ℕ}
    {part : List String} (hpart : parts[device]? = some part) :
    loadOn (foldTied modules tied)
        (unfoldTied (placementOf (placementEntries parts)) tied).get? device =
      total (moduleSize (foldTied modules tied)) part := by
  have hplaced := placedAs_placementOf (nodup_flatten hparts)
  rw [hplaced.part_eq (nodup_flatten hparts) device hpart, hparts, loadOn, modulesOn]
  congr 1
  refine List.filter_congr fun m hm => ?_
  rw [get?_unfolded hparts, (ownNames_unfoldedNames modules tied).own m hm, Option.bind_some]

/-- The members of a group have one device. -/
theorem get?_unfolded_eq (hties : TiesRespected modules tied)
    (hparts : parts.flatten = (foldTied modules tied).keys) :
    ∀ group ∈ tied, ∀ m ∈ modules.keys, ∀ m' ∈ modules.keys, m ∈ group.1 → m' ∈ group.1 →
      (unfoldTied (placementOf (placementEntries parts)) tied).get? m =
        (unfoldTied (placementOf (placementEntries parts)) tied).get? m' := by
  intro group hgroup m hm m' hm' hin hin'
  obtain ⟨name, hname⟩ := hties.placed m hm
  obtain ⟨name', hname'⟩ := hties.placed m' hm'
  rw [get?_unfolded hparts, get?_unfolded hparts, hname, hname',
    hties.together group hgroup m hin m' hin' name name' hname hname']

/-- **Parts that fit make a sound placement.** -/
theorem sound_of_partsFit (hties : TiesRespected modules tied)
    (hparts : parts.flatten = (foldTied modules tied).keys)
    (hfit : PartsFit (moduleSize (foldTied modules tied)) memory 0 parts) :
    SoundPlacement modules tied memory
      (unfoldTied (placementOf (placementEntries parts)) tied) where
  placed := by
    intro m hm
    obtain ⟨name, hname⟩ := hties.placed m hm
    have hin := (ownNames_unfoldedNames modules tied).among m name hname
    rw [← hparts, ← keys_placementOf (nodup_flatten hparts)] at hin
    obtain ⟨device, hdevice⟩ := OrderedDict.mem_keys_iff _ |>.mp hin
    exact ⟨device, by rw [get?_unfolded hparts, hname, Option.bind_some, hdevice]⟩
  together := by
    intro group hgroup m hin m' hin' device device' hdevice hdevice'
    rw [get?_unfolded hparts] at hdevice hdevice'
    obtain ⟨name, hname, hdevice⟩ := Option.bind_eq_some_iff.mp hdevice
    obtain ⟨name', hname', hdevice'⟩ := Option.bind_eq_some_iff.mp hdevice'
    rw [hties.together group hgroup m hin m' hin' name name' hname hname', hdevice'] at hdevice
    exact (Option.some.inj hdevice).symm
  fits := by
    intro device m hm hdevice
    obtain ⟨part, hpart, hne⟩ := exists_part hparts hdevice
    obtain ⟨limit, hlimit, hle⟩ := hfit device part hpart hne
    rw [Nat.zero_add] at hlimit
    rw [← loadOn_unfolded hparts hpart] at hle
    refine ⟨limit, hlimit, le_trans ?_ hle⟩
    have hsame := get?_unfolded_eq hties hparts
    rcases hties.shared with hdisjoint | hshared
    · exact (loadOn_foldTied_eq hdisjoint hsame device).le
    · exact loadOn_foldTied_ge hshared (List.Sublist.refl _) hsame device

/-- **Without overlap the parts of a sound placement fit.** -/
theorem partsFit_of_sound (hdisjoint : DisjointGroups tied)
    (hparts : parts.flatten = (foldTied modules tied).keys)
    (hsound : SoundPlacement modules tied memory
      (unfoldTied (placementOf (placementEntries parts)) tied)) :
    PartsFit (moduleSize (foldTied modules tied)) memory 0 parts := by
  intro device part hpart hne
  obtain ⟨m, hm⟩ := List.exists_mem_of_ne_nil part hne
  have hfolded : m ∈ (foldTied modules tied).keys := by
    rw [← hparts]
    exact List.mem_flatten_of_mem (List.mem_of_getElem? hpart) hm
  have hdevice : (unfoldTied (placementOf (placementEntries parts)) tied).get? m = some device := by
    rw [get?_unfolded hparts, (ownNames_unfoldedNames modules tied).own m hfolded, Option.bind_some]
    exact (placedAs_placementOf (nodup_flatten hparts) m device).mpr ⟨part, hpart, hm⟩
  obtain ⟨limit, hlimit, hle⟩ := hsound.fits device m (mem_keys_of_foldTied tied hfolded) hdevice
  have hsame := get?_unfolded_eq (tiesRespected_of_disjoint hdisjoint modules) hparts
  rw [Nat.zero_add, ← loadOn_unfolded hparts hpart, ← loadOn_foldTied_eq hdisjoint hsame]
  exact ⟨limit, hlimit, hle⟩

end Parts

/-! ## What is placed on the devices -/

/-- The folded modules find room: they can be split among the devices, or each device has room for
the run of modules that it gets. -/
def FindsRoom (folded : ModuleSizes) (memory : GpuMemory) (deviceMap : String) : Prop :=
  if deviceMap = "sequential" then
    memory.keys.length ≤ folded.keys.length ∧
      FitsInRuns memory memory.keys.length 0 folded.entries
  else ∃ inOrder, memoryInOrder memory = some inOrder ∧ Splittable folded inOrder

/-- What is placed: all modules, part by part, or none at all; or there is an error. -/
def Outcome (folded : ModuleSizes) (memory : GpuMemory) (room : Prop)
    (result : Except PlacementError (Option Placement)) : Prop :=
  (∃ parts, result = .ok (some (placementOf (placementEntries parts))) ∧
    parts.flatten = folded.keys ∧ (room ↔ PartsFit (moduleSize folded) memory 0 parts)) ∨
  ((result = .ok (some .empty) ∨ ∃ e, e ≠ .runtimeError ∧ result = .error e) ∧ ¬ room)

section Outcomes

variable {folded : ModuleSizes} {memory : GpuMemory}

theorem outcome_balanced (hne : folded.keys ≠ []) (hdevices : memory.keys ≠ []) :
    Outcome folded memory
      (∃ inOrder, memoryInOrder memory = some inOrder ∧ Splittable folded inOrder)
      (getBalancedPlacement folded memory) := by
  by_cases hlength : folded.keys.length < memory.keys.length
  · refine Or.inr ⟨Or.inr ⟨_, by decide, getBalancedPlacement_of_lt hlength⟩, ?_⟩
    rintro ⟨inOrder, horder, parts, hfitting⟩
    have hle := hfitting.length_le
    rw [(memoryInOrder_eq_some_iff.mp horder).1] at hle
    omega
  · cases horder : memoryInOrder memory with
    | none =>
      refine Or.inr ⟨Or.inr ⟨_, by decide,
        getBalancedPlacement_of_none hne hdevices (not_lt.mp hlength) horder⟩, ?_⟩
      rintro ⟨inOrder, horder', -⟩
      exact absurd horder' (by simp)
    | some inOrder =>
      obtain ⟨hcount, hlookup⟩ := memoryInOrder_eq_some_iff.mp horder
      by_cases hsplit : Splittable folded inOrder
      · obtain ⟨c, hc⟩ := splittable_iff_cellAt.mp hsplit
        have hfitting := exists_split_of_cellAt hc
        refine Or.inl ⟨c.partitions, getBalancedPlacement_of_fitting hne horder hc,
          hfitting.flatten, iff_of_true ⟨inOrder, rfl, hsplit⟩ fun k part hpart _ => ?_⟩
        obtain ⟨limit, hlimit, hle⟩ := hfitting.total_le_of_getElem? hpart
        rw [Nat.zero_add]
        exact ⟨limit, hlookup k limit hlimit, hle⟩
      · have hinOrder : inOrder ≠ [] := by
          rintro rfl
          exact hdevices (List.length_eq_zero_iff.mp hcount.symm)
        refine Or.inr ⟨Or.inl (getBalancedPlacement_of_not_fitting hne
          (hcount ▸ not_lt.mp hlength) hinOrder horder hsplit), ?_⟩
        rintro ⟨inOrder', horder', hsplit'⟩
        exact hsplit (Option.some.inj horder' ▸ hsplit')

theorem outcome_sequential (hne : folded.keys ≠ []) (hdevices : memory.keys ≠ []) :
    Outcome folded memory
      (memory.keys.length ≤ folded.keys.length ∧
        FitsInRuns memory memory.keys.length 0 folded.entries)
      (getSequentialPlacement folded memory) := by
  by_cases hlength : folded.keys.length < memory.keys.length
  · refine Or.inr ⟨Or.inr ⟨_, by decide, getSequentialPlacement_of_lt hlength⟩, ?_⟩
    rintro ⟨hle, -⟩
    omega
  · have hle := not_lt.mp hlength
    have hsize : ∀ entry ∈ folded.entries, moduleSize folded entry.1 = entry.2 := by
      intro entry hentry
      rw [moduleSize, folded.mem_entries_iff.mp hentry, Option.getD_some]
    obtain ⟨hsome, hnone⟩ := getSequentialPlacement_eq hne hdevices hle
    rw [and_iff_right hle, fitsInRuns_iff memory.keys.length 0 hsize]
    cases hruns : runsFrom memory memory.keys.length 0 folded.entries with
    | none =>
      refine Or.inr ⟨Or.inr ⟨_, by decide, hnone hruns⟩, ?_⟩
      rintro ⟨runs, hruns', -⟩
      exact absurd hruns' (by simp)
    | some runs =>
      refine Or.inl ⟨runs, hsome runs hruns, flatten_runsFrom hruns, ?_,
        fun hfit => ⟨runs, rfl, hfit⟩⟩
      rintro ⟨runs', hruns', hfit⟩
      exact Option.some.inj hruns' ▸ hfit

theorem outcome_placeOn (hne : folded.keys ≠ []) (hdevices : memory.keys ≠ []) {deviceMap : String}
    (hmap : deviceMap ∈ ["auto", "balanced", "sequential"]) :
    Outcome folded memory (FindsRoom folded memory deviceMap)
      (placeOn folded memory deviceMap) := by
  have hbalanced := outcome_balanced hne hdevices
  simp only [List.mem_cons, List.not_mem_nil, or_false] at hmap
  rcases hmap with rfl | rfl | rfl
  · exact hbalanced
  · exact hbalanced
  · exact outcome_sequential hne hdevices

end Outcomes

/-! ## The claim -/

/-- A placement that comes back is sound, and otherwise there is a `RuntimeError`. -/
structure SoundOrRefused (modules : ModuleSizes) (tied : List TiedGroup) (memory : GpuMemory)
    (deviceMap : String) : Prop where
  sound : ∀ placement, computeDevicePlacementFromMapFast modules tied memory deviceMap =
    .ok placement → SoundPlacement modules tied memory placement
  refused : ∀ e, computeDevicePlacementFromMapFast modules tied memory deviceMap = .error e →
    e = .runtimeError

/-- The first device has room for the first of the folded modules, and all devices together are too
small, or the groups are kept together and the folded modules find room. -/
def RoomOrTooLarge (modules : ModuleSizes) (tied : List TiedGroup) (memory : GpuMemory)
    (deviceMap : String) : Prop :=
  FirstFits (foldTied modules tied) memory ∧
    (memory.values.sum < (foldTied modules tied).values.sum ∨
      TiesRespected modules tied ∧ FindsRoom (foldTied modules tied) memory deviceMap)

section Claim

variable {memory : GpuMemory} {deviceMap : String}

/-- Of some modules one is left when the groups are folded. -/
theorem keys_foldTied_ne_nil (hne : modules.keys ≠ []) (tied : List TiedGroup) :
    (foldTied modules tied).keys ≠ [] := by
  induction tied generalizing modules with
  | nil => exact hne
  | cons group rest ih =>
    refine ih (List.ne_nil_of_mem (a := ?_) ?_)
    · exact ((modules.keys.find? (· ∈ group.1)).getD (modules.keys.head hne))
    · rw [keys_foldGroup, List.mem_filter, decide_eq_true_iff]
      cases hfind : modules.keys.find? (· ∈ group.1) with
      | none =>
        have hnot := List.find?_eq_none.mp hfind _ (List.head_mem hne)
        exact ⟨List.head_mem hne, Or.inl (by simpa using hnot)⟩
      | some module => exact ⟨List.mem_of_find?_eq_some hfind, Or.inr rfl⟩

/-- An empty placement is not sound. -/
theorem not_sound_empty (hne : modules.keys ≠ []) :
    ¬ SoundPlacement modules tied memory (unfoldTied .empty tied) := by
  intro hsound
  have hempty : unfoldTied (OrderedDict.empty : Placement) tied = .empty := by
    clear hsound
    induction tied with
    | nil => rfl
    | cons group rest ih => exact ih
  obtain ⟨device, hdevice⟩ := hsound.placed _ (List.head_mem hne)
  rw [hempty, OrderedDict.get?_empty] at hdevice
  exact absurd hdevice (by simp)

/-- A result is as claimed when it is sound. -/
theorem soundOrRefused_iff_of_ok {placement : Placement}
    (h : computeDevicePlacementFromMapFast modules tied memory deviceMap = .ok placement) :
    SoundOrRefused modules tied memory deviceMap ↔
      SoundPlacement modules tied memory placement := by
  refine ⟨fun hclaim => hclaim.sound placement h, fun hsound => ⟨fun placement' h' => ?_, ?_⟩⟩
  · rw [h] at h'
    exact Except.ok.inj h' ▸ hsound
  · intro e he
    rw [h] at he
    exact absurd he (by simp)

/-- An error is as claimed when it is a `RuntimeError`. -/
theorem soundOrRefused_iff_of_error {e : PlacementError}
    (h : computeDevicePlacementFromMapFast modules tied memory deviceMap = .error e) :
    SoundOrRefused modules tied memory deviceMap ↔ e = .runtimeError := by
  refine ⟨fun hclaim => hclaim.refused e h, fun hrefused => ⟨fun placement h' => ?_, ?_⟩⟩
  · rw [h] at h'
    exact absurd h' (by simp)
  · intro e' he'
    rw [h] at he'
    exact Except.error.inj he' ▸ hrefused

/-- Past the checks, the claim is about what is placed on the devices. -/
theorem soundOrRefused_iff_of_firstFits (hne : modules.keys ≠ [])
    (hmap : deviceMap ∈ ["auto", "balanced", "sequential"])
    (hfirst : FirstFits (foldTied modules tied) memory)
    (hsum : ¬ memory.values.sum < (foldTied modules tied).values.sum) :
    (TiesRespected modules tied → FindsRoom (foldTied modules tied) memory deviceMap →
      SoundOrRefused modules tied memory deviceMap) ∧
    (DisjointGroups tied → SoundOrRefused modules tied memory deviceMap →
      FindsRoom (foldTied modules tied) memory deviceMap) := by
  have hdevices : memory.keys ≠ [] := by
    obtain ⟨_, _, limit, hlimit, _⟩ := hfirst
    intro hnil
    rw [OrderedDict.keys, List.map_eq_nil_iff] at hnil
    rw [OrderedDict.values, hnil] at hlimit
    exact absurd hlimit (by simp)
  have hplace : computeDevicePlacementFromMapFast modules tied memory deviceMap =
      (placeOn (foldTied modules tied) memory deviceMap >>= placementFound).map fun placement =>
        unfoldTied placement tied := by
    rw [fast_eq hmap, placeFolded_of_firstFits hfirst, if_neg hsum]
  rcases outcome_placeOn (keys_foldTied_ne_nil hne tied) hdevices hmap with
    ⟨parts, hresult, hparts, hroom⟩ | ⟨hresult, hroom⟩
  · rw [hresult] at hplace
    rw [soundOrRefused_iff_of_ok hplace, hroom]
    exact ⟨fun hties hfit => sound_of_partsFit hties hparts hfit,
      fun hdisjoint hsound => partsFit_of_sound hdisjoint hparts hsound⟩
  · have hnot : ¬ SoundOrRefused modules tied memory deviceMap := by
      rcases hresult with hresult | ⟨e, he, hresult⟩
      · rw [hresult] at hplace
        rw [soundOrRefused_iff_of_ok hplace]
        exact not_sound_empty hne
      · rw [hresult] at hplace
        rw [soundOrRefused_iff_of_error hplace]
        exact he
    exact ⟨fun _ h => absurd h hroom, fun _ h => absurd h hnot⟩

/-- **When the placement is sound or refused.**  Without overlap between the groups the condition is
necessary, too. -/
theorem soundOrRefused (hne : modules.keys ≠ [])
    (hmap : deviceMap ∈ ["auto", "balanced", "sequential"]) :
    (RoomOrTooLarge modules tied memory deviceMap →
      SoundOrRefused modules tied memory deviceMap) ∧
    (DisjointGroups tied → SoundOrRefused modules tied memory deviceMap →
      RoomOrTooLarge modules tied memory deviceMap) := by
  by_cases hfirst : FirstFits (foldTied modules tied) memory
  · by_cases hsum : memory.values.sum < (foldTied modules tied).values.sum
    · have hrefused : computeDevicePlacementFromMapFast modules tied memory deviceMap =
          .error .runtimeError := by
        rw [fast_eq hmap, placeFolded_of_firstFits hfirst, if_pos hsum]
        rfl
      exact ⟨fun _ => (soundOrRefused_iff_of_error hrefused).mpr rfl,
        fun _ _ => ⟨hfirst, Or.inl hsum⟩⟩
    · obtain ⟨henough, hneeded⟩ := soundOrRefused_iff_of_firstFits hne hmap hfirst hsum
      refine ⟨fun hroom => ?_, fun hdisjoint hclaim => ⟨hfirst, Or.inr
        ⟨tiesRespected_of_disjoint hdisjoint modules, hneeded hdisjoint hclaim⟩⟩⟩
      obtain ⟨hties, hroom⟩ := hroom.2.resolve_left hsum
      exact henough hties hroom
  · have hstopped : computeDevicePlacementFromMapFast modules tied memory deviceMap =
        .error .stopIteration := by
      rw [fast_eq hmap, placeFolded_of_not_firstFits hfirst]
      rfl
    rw [soundOrRefused_iff_of_error hstopped]
    exact ⟨fun hroom => absurd hroom.1 hfirst, fun _ h => absurd h (by decide)⟩

/-- Two modules that share a part, folded and placed beside a third one. -/
theorem soundOrRefused_shared :
    let modules : ModuleSizes := ((OrderedDict.empty.set "a" 5).set "b" 4).set "c" 3
    SoundOrRefused modules [(["a", "c"], 1)] (numbered [8, 8]) "auto" := by
  refine (soundOrRefused (by decide) (by decide)).1 ⟨⟨7, rfl, 8, rfl, by decide⟩, Or.inr
    ⟨tiesRespected_of_disjoint (List.pairwise_singleton _ _) _, [8, 8], rfl, [["a"], ["b"]], rfl,
      by decide, .cons (by decide) (.cons (by decide) .nil)⟩⟩

/-- **A device is given more than it holds.**  Each module alone would fit. -/
theorem sequential_overfills :
    ¬ SoundOrRefused ((OrderedDict.empty.set "a" 5).set "b" 5) [] (numbered [9, 1])
      "sequential" := by
  intro hclaim
  have hplaced : computeDevicePlacementFromMapFast ((OrderedDict.empty.set "a" 5).set "b" 5) []
      (numbered [9, 1]) "sequential" = .ok ((OrderedDict.empty.set "a" 0).set "b" 0) := by
    decide +kernel
  obtain ⟨limit, hlimit, hle⟩ := (hclaim.sound _ hplaced).fits 0 "a" (by decide) rfl
  obtain rfl : 9 = limit := Option.some.inj hlimit
  exact absurd hle (by decide)

/-- The second group takes the shared module to another device. -/
example : computeDevicePlacementFromMapFast
    (((OrderedDict.empty.set "a" 5).set "b" 5).set "c" 5) [(["a", "b"], 1), (["b", "c"], 1)]
      (numbered [9, 9]) "balanced" =
    .ok (((OrderedDict.empty.set "a" 0).set "c" 1).set "b" 1) := by decide +kernel

end Claim

end DevicePlacement
end Store
end SpotServe
