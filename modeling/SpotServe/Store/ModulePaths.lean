import SpotServe.Library.Selection
import SpotServe.Store.Checkpoint

/-!
# Expanding a device map by module paths

`_expand_tensor_name` (`sllm_store/device_map_utils.py`) gives a tensor the device of the last key
of the device map that its name starts with.  A key names a module, and the tensors of a module are
those whose name is the key or goes on after it with a dot (`IsModulePath`).  The two agree when a
name starts with keys of one device only.

* `get?_expandEntries`: the loop, name by name.
* `longestPathKey_eq_some`, `longestPathKey_eq_none_iff`: the key that should decide.
* `expand_tensor_name_iff`: when the device map is expanded by modules.
-/

namespace SpotServe
namespace Store

open Py Selection

variable {δ : Type*}

/-! ## What the loop computes -/

/-- `name.startswith(key)`. -/
def StartsWith (name key : String) : Prop := key.toList.isPrefixOf name.toList = true

instance (name key : String) : Decidable (StartsWith name key) :=
  inferInstanceAs (Decidable (_ = _))

/-- The device of the last entry that the name starts with. -/
def lastMatch (name : String) : List (String × δ) → Option δ
  | [] => none
  | (key, device) :: rest =>
    (lastMatch name rest).or (if StartsWith name key then some device else none)

theorem lastMatch_append (name : String) (entries entries' : List (String × δ)) :
    lastMatch name (entries ++ entries') =
      (lastMatch name entries').or (lastMatch name entries) := by
  induction entries with
  | nil => rw [List.nil_append, lastMatch, Option.or_none]
  | cons entry rest ih =>
    rw [List.cons_append, lastMatch, ih, lastMatch, Option.or_assoc]

theorem mem_of_lastMatch {name : String} {entries : List (String × δ)} {device : δ}
    (h : lastMatch name entries = some device) :
    ∃ key, (key, device) ∈ entries ∧ StartsWith name key := by
  induction entries with
  | nil => exact absurd h (by simp [lastMatch])
  | cons entry rest ih =>
    rw [lastMatch, Option.or_eq_some_iff] at h
    rcases h with h | ⟨-, h⟩
    · obtain ⟨key, hmem, hstarts⟩ := ih h
      exact ⟨key, List.mem_cons_of_mem _ hmem, hstarts⟩
    · split_ifs at h with hstarts
      obtain rfl := Option.some.inj h
      exact ⟨entry.1, List.mem_cons_self, hstarts⟩

theorem lastMatch_eq_none_iff {name : String} {entries : List (String × δ)} :
    lastMatch name entries = none ↔ ∀ entry ∈ entries, ¬ StartsWith name entry.1 := by
  induction entries with
  | nil => simp [lastMatch]
  | cons entry rest ih =>
    rw [lastMatch, Option.or_eq_none_iff, ih, List.forall_mem_cons, and_comm]
    refine and_congr_left fun _ => ?_
    split_ifs with hstarts <;> simp [hstarts]

theorem get?_expandKey (tensorNames : List String) (key : String) (device : δ)
    (expanded : DeviceMap δ) (name : String) :
    (expandKey tensorNames key device expanded).get? name =
      if name ∈ tensorNames ∧ StartsWith name key then some device else expanded.get? name := by
  unfold expandKey
  induction tensorNames generalizing expanded with
  | nil => simp
  | cons other rest ih =>
    rw [List.foldl_cons, ih]
    by_cases hrest : name ∈ rest ∧ StartsWith name key
    · rw [if_pos hrest, if_pos ⟨List.mem_cons_of_mem _ hrest.1, hrest.2⟩]
    · rw [if_neg hrest]
      by_cases hother : other = name
      · subst hother
        by_cases hstarts : StartsWith other key
        · have hprefix : key.toList.isPrefixOf other.toList = true := hstarts
          rw [if_pos hprefix, OrderedDict.get?_set_self, if_pos ⟨List.mem_cons_self, hstarts⟩]
        · have hprefix : ¬ key.toList.isPrefixOf other.toList = true := hstarts
          rw [if_neg hprefix, if_neg fun h => hstarts h.2]
      · have hmem : ¬ (name ∈ other :: rest ∧ StartsWith name key) := by
          rintro ⟨hmem, hstarts⟩
          rcases List.mem_cons.mp hmem with rfl | hmem
          · exact hother rfl
          · exact hrest ⟨hmem, hstarts⟩
        rw [if_neg hmem]
        split_ifs with hstarts
        · exact OrderedDict.get?_set_of_ne _ _ hother
        · rfl

/-- The loop, name by name. -/
theorem get?_expandEntries {tensorNames : List String} {entries : List (String × δ)}
    (hkeys : "" ∉ entries.map Prod.fst) (expanded : DeviceMap δ) (name : String) :
    (expandEntries tensorNames entries expanded).get? name =
      if name ∈ tensorNames then (lastMatch name entries).or (expanded.get? name)
      else expanded.get? name := by
  induction entries generalizing expanded with
  | nil => simp [expandEntries, lastMatch]
  | cons entry rest ih =>
    rw [List.map_cons, List.mem_cons, not_or] at hkeys
    rw [expandEntries, if_neg (Ne.symm hkeys.1), ih hkeys.2, get?_expandKey, lastMatch]
    by_cases hname : name ∈ tensorNames
    · rw [if_pos hname, if_pos hname, Option.or_assoc]
      by_cases hstarts : StartsWith name entry.1
      · rw [if_pos ⟨hname, hstarts⟩, if_pos hstarts, Option.some_or]
      · rw [if_neg fun h => hstarts h.2, if_neg hstarts, Option.none_or]
    · rw [if_neg hname, if_neg hname, if_neg fun h => hname h.1]

/-! ## What a key stands for -/

/-- The key is the name, or a module on the way to it: a prefix that ends at a dot. -/
def IsModulePath (key name : String) : Prop :=
  key = name ∨ (key.toList ++ ['.']).isPrefixOf name.toList = true

instance (key name : String) : Decidable (IsModulePath key name) :=
  inferInstanceAs (Decidable (_ ∨ _))

theorem IsModulePath.startsWith {key name : String} (h : IsModulePath key name) :
    StartsWith name key := by
  rcases h with rfl | h
  · exact List.isPrefixOf_iff_prefix.mpr List.prefix_rfl
  · exact List.isPrefixOf_iff_prefix.mpr
      ((List.prefix_append _ _).trans (List.isPrefixOf_iff_prefix.mp h))

/-- The longest key that is the name or a module on the way to it. -/
def longestPathKey (deviceMap : DeviceMap δ) (name : String) : Option String :=
  best (fun key => OrderDual.toDual key.length)
    (deviceMap.keys.filter fun key => IsModulePath key name)

/-- The device of that key. -/
def pathDevice (deviceMap : DeviceMap δ) (name : String) : Option δ :=
  (longestPathKey deviceMap name).bind deviceMap.get?

theorem longestPathKey_eq_some {deviceMap : DeviceMap δ} {name key : String}
    (h : longestPathKey deviceMap name = some key) :
    key ∈ deviceMap.keys ∧ IsModulePath key name ∧
      ∀ key' ∈ deviceMap.keys, IsModulePath key' name → key'.length ≤ key.length := by
  unfold longestPathKey at h
  have hmem := List.mem_filter.mp (mem_of_best h)
  refine ⟨hmem.1, of_decide_eq_true hmem.2, fun key' hkey' hpath => ?_⟩
  have hmem' : key' ∈ deviceMap.keys.filter fun key => IsModulePath key name :=
    List.mem_filter.mpr ⟨hkey', decide_eq_true hpath⟩
  have hle := key_le_of_best h hmem'
  exact OrderDual.toDual_le_toDual.mp hle

theorem longestPathKey_eq_none_iff {deviceMap : DeviceMap δ} {name : String} :
    longestPathKey deviceMap name = none ↔
      ∀ key ∈ deviceMap.keys, ¬ IsModulePath key name := by
  rw [longestPathKey, best_eq_none_iff, List.filter_eq_nil_iff]
  exact forall₂_congr fun key _ => by rw [decide_eq_true_eq]

/-! ## Expansion by modules -/

/-- Every tensor gets the device of its longest key, in whatever order the entries come. -/
structure ExpandsByModule (deviceMap : DeviceMap δ) (tensorNames : List String) : Prop where
  placed : ∃ expanded, expandTensorName deviceMap tensorNames = .ok expanded ∧
    ∀ name, expanded.get? name = if name ∈ tensorNames then pathDevice deviceMap name else none
  orderFree : ∀ deviceMap' : DeviceMap δ, deviceMap.entries.Perm deviceMap'.entries →
    ∀ expanded expanded', expandTensorName deviceMap tensorNames = .ok expanded →
      expandTensorName deviceMap' tensorNames = .ok expanded' →
        ∀ name, expanded'.get? name = expanded.get? name

/-- A name starts with keys of one device only, that of its longest key. -/
def OneDevice (deviceMap : DeviceMap δ) (tensorNames : List String) : Prop :=
  ∀ name ∈ tensorNames, ∀ key device, deviceMap.get? key = some device →
    StartsWith name key → pathDevice deviceMap name = some device

theorem expandTensorName_ok {deviceMap : DeviceMap δ} (hempty : "" ∉ deviceMap.keys)
    (tensorNames : List String) :
    ∃ expanded, expandTensorName deviceMap tensorNames = .ok expanded ∧
      ∀ name, expanded.get? name =
        if name ∈ tensorNames then lastMatch name deviceMap.entries else none := by
  refine ⟨_, if_pos fun h => absurd h hempty, fun name => ?_⟩
  rw [get?_expandEntries hempty, OrderedDict.get?_empty, Option.or_none]

/-- Under `OneDevice`, the last key that a name starts with has the device of the longest. -/
theorem OneDevice.lastMatch_eq {deviceMap : DeviceMap δ} {tensorNames : List String}
    (h : OneDevice deviceMap tensorNames) {name : String} (hname : name ∈ tensorNames)
    {entries : List (String × δ)} (hperm : deviceMap.entries.Perm entries) :
    lastMatch name entries = pathDevice deviceMap name := by
  cases hlast : lastMatch name entries with
  | some device =>
    obtain ⟨key, hmem, hstarts⟩ := mem_of_lastMatch hlast
    have hget : deviceMap.get? key = some device :=
      deviceMap.mem_entries_iff.mp (hperm.symm.subset hmem)
    exact (h name hname key device hget hstarts).symm
  | none =>
    have hnone : longestPathKey deviceMap name = none := by
      refine longestPathKey_eq_none_iff.mpr fun key hkey hpath => ?_
      obtain ⟨device, hget⟩ := deviceMap.mem_keys_iff.mp hkey
      exact lastMatch_eq_none_iff.mp hlast (key, device)
        (hperm.subset (deviceMap.mem_entries_iff.mpr hget)) hpath.startsWith
    rw [pathDevice, hnone]
    rfl

/-- **When a device map is expanded by module paths.** -/
theorem expand_tensor_name_iff {deviceMap : DeviceMap δ} (hempty : "" ∉ deviceMap.keys)
    (tensorNames : List String) :
    ExpandsByModule deviceMap tensorNames ↔ OneDevice deviceMap tensorNames := by
  obtain ⟨expanded, hok, hget⟩ := expandTensorName_ok hempty tensorNames
  constructor
  · rintro ⟨⟨placed, hplaced, hpath⟩, horder⟩ name hname key device hkey hstarts
    obtain rfl := Except.ok.inj (hok.symm.trans hplaced)
    -- with the entry of the key at the end, the key decides
    have hmem : (key, device) ∈ deviceMap.entries := deviceMap.mem_entries_iff.mpr hkey
    obtain ⟨front, back, hsplit⟩ := List.append_of_mem hmem
    have hperm : deviceMap.entries.Perm (front ++ back ++ [(key, device)]) := by
      rw [hsplit]
      exact List.perm_middle.trans (List.perm_append_singleton _ _).symm
    let deviceMap' : DeviceMap δ := ⟨front ++ back ++ [(key, device)],
      (hperm.map Prod.fst).nodup_iff.mp deviceMap.nodup⟩
    have hempty' : "" ∉ deviceMap'.keys := fun h => hempty ((hperm.map Prod.fst).symm.subset h)
    obtain ⟨expanded', hok', hget'⟩ := expandTensorName_ok hempty' tensorNames
    have hlast : lastMatch name deviceMap'.entries = some device := by
      show lastMatch name (front ++ back ++ [(key, device)]) = some device
      rw [lastMatch_append, lastMatch, if_pos hstarts]
      rfl
    have hsame := horder deviceMap' hperm expanded expanded' hok hok' name
    rw [hget', if_pos hname, hlast, hpath, if_pos hname] at hsame
    exact hsame.symm
  · intro hdevice
    refine ⟨⟨expanded, hok, fun name => ?_⟩, ?_⟩
    · rw [hget]
      split_ifs with hname
      · exact hdevice.lastMatch_eq hname (List.Perm.refl _)
      · rfl
    · intro deviceMap' hperm other other' hother hother' name
      obtain rfl := Except.ok.inj (hok.symm.trans hother)
      have hempty' : "" ∉ deviceMap'.keys := fun h => hempty ((hperm.map Prod.fst).symm.subset h)
      obtain ⟨expanded', hok', hget'⟩ := expandTensorName_ok hempty' tensorNames
      obtain rfl := Except.ok.inj (hok'.symm.trans hother')
      rw [hget, hget']
      split_ifs with hname
      · rw [hdevice.lastMatch_eq hname hperm, hdevice.lastMatch_eq hname (List.Perm.refl _)]
      · rfl

/-- Two neighbouring layers, the second one first. -/
def twoLayers (first second : ℕ) : DeviceMap ℕ := OrderedDict.set
  (OrderedDict.set .empty "layer.10" first) "layer.1" second

/-- The key of the first layer takes the tensors of the tenth. -/
theorem neighbour_overwritten : ¬ ExpandsByModule (twoLayers 1 0) ["layer.10.weight"] := by
  rintro ⟨⟨expanded, hok, hget⟩, -⟩
  have hcode : (expandTensorName (twoLayers 1 0) ["layer.10.weight"]).toOption.bind
      (·.get? "layer.10.weight") = some 0 := by decide +kernel
  have hshould : pathDevice (twoLayers 1 0) "layer.10.weight" = some 1 := by decide +kernel
  have hpath := hget "layer.10.weight"
  rw [if_pos List.mem_cons_self, hshould] at hpath
  rw [hok] at hcode
  exact absurd (hpath.symm.trans hcode) (by decide)

theorem expand_tensor_name_twoLayers :
    ExpandsByModule (twoLayers 1 1) ["layer.10.weight", "norm"] ↔
      OneDevice (twoLayers 1 1) ["layer.10.weight", "norm"] :=
  expand_tensor_name_iff (by decide) _

end Store
end SpotServe
