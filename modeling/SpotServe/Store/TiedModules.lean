import SpotServe.Store.DevicePlacement

/-!
# Folding and unfolding tied modules

Before the placement each group of tied modules is folded into its first member, and after it the
groups are unfolded again, in the same order.

* `get?_unfoldGroup`: unfolding a group gives all its members what the first of them has.
* `Follows.unfoldTied`: what unfolding does to the devices it does to the names, so that
  `unfoldedNames` says for every module where its device comes from.
* `keys_foldGroup`, `moduleSize_foldGroup`: what is left when a group is folded.
* `ownNames_unfoldedNames`: a folded module keeps its place.
* `tiesRespected_of_disjoint`: every module gets a device, and a group only one, when the groups do
  not overlap.
-/

namespace SpotServe
namespace Store
namespace DevicePlacement

open Py

variable {γ : Type*}

/-! ## Unfolding a group -/

theorem get?_reassign {module : String} {placement : OrderedDict String γ} {device : γ}
    (h : placement.get? module = some device) (m m' : String) :
    (reassign module placement m).get? m' = if m' = m then some device else placement.get? m' := by
  unfold reassign
  simp only [h]
  by_cases hm : m = module
  · rw [if_neg (not_not.mpr hm), hm]
    split_ifs with hm'
    · rw [hm', h]
    · rfl
  · rw [if_pos hm]
    split_ifs with hm'
    · rw [hm', OrderedDict.get?_set_self]
    · exact OrderedDict.get?_set_of_ne _ _ (Ne.symm hm')

/-- The members get the device of the module. -/
theorem get?_foldl_reassign {module : String} {placement : OrderedDict String γ} {device : γ}
    (h : placement.get? module = some device) (names : List String) (m : String) :
    (names.foldl (reassign module) placement).get? m =
      if m ∈ names then some device else placement.get? m := by
  induction names generalizing placement with
  | nil => rw [if_neg List.not_mem_nil, List.foldl_nil]
  | cons name rest ih =>
    have hmodule : (reassign module placement name).get? module = some device := by
      rw [get?_reassign h]
      split_ifs
      · rfl
      · exact h
    rw [List.foldl_cons, ih hmodule, get?_reassign h]
    simp only [List.mem_cons]
    by_cases hrest : m ∈ rest
    · rw [if_pos hrest, if_pos (Or.inr hrest)]
    · simp only [hrest, or_false, if_false]

theorem get?_reassignFrom {group : TiedGroup} {module : String} {placement : OrderedDict String γ}
    {device : γ} (h : placement.get? module = some device) (m : String) :
    (reassignFrom group placement module).get? m =
      if module ∈ group.1 ∧ m ∈ group.1 then some device else placement.get? m := by
  unfold reassignFrom
  by_cases hmodule : module ∈ group.1
  · rw [if_pos hmodule, get?_foldl_reassign h]
    simp only [hmodule, true_and]
  · rw [if_neg hmodule, if_neg fun hboth => hmodule hboth.1]

/-- Once the members agree, nothing changes any more. -/
theorem get?_foldl_reassignFrom_of_agree {group : TiedGroup} {placement : OrderedDict String γ}
    {device : γ} (h : ∀ m ∈ group.1, placement.get? m = some device) (modules : List String)
    (m : String) : (modules.foldl (reassignFrom group) placement).get? m = placement.get? m := by
  induction modules generalizing placement with
  | nil => rfl
  | cons module rest ih =>
    have hstep : ∀ m, (reassignFrom group placement module).get? m = placement.get? m := by
      intro m
      by_cases hmodule : module ∈ group.1
      · rw [get?_reassignFrom (h module hmodule)]
        split_ifs with hboth
        · exact (h m hboth.2).symm
        · rfl
      · rw [reassignFrom, if_neg hmodule]
    rw [List.foldl_cons, ih fun m hm => (hstep m).trans (h m hm), hstep]

theorem foldl_reassignFrom_of_none {group : TiedGroup} {modules : List String}
    (h : ∀ module ∈ modules, module ∉ group.1) (placement : OrderedDict String γ) :
    modules.foldl (reassignFrom group) placement = placement := by
  induction modules with
  | nil => rfl
  | cons module rest ih =>
    rw [List.foldl_cons, reassignFrom, if_neg (h module List.mem_cons_self)]
    exact ih fun module' hmodule' => h module' (List.mem_cons_of_mem module hmodule')

/-- **Unfolding a group.**  Its members get what the first of them has that is placed. -/
theorem get?_unfoldGroup {group : TiedGroup} {placement : OrderedDict String γ} {module : String}
    {device : γ} (hmodule : placement.keys.find? (· ∈ group.1) = some module)
    (h : placement.get? module = some device) (m : String) :
    (unfoldGroup placement group).get? m =
      if m ∈ group.1 then some device else placement.get? m := by
  obtain ⟨hin, front, back, hkeys, hfront⟩ := List.find?_eq_some_iff_append.mp hmodule
  have hin : module ∈ group.1 := of_decide_eq_true hin
  have hnone : ∀ module' ∈ front, module' ∉ group.1 :=
    fun module' hmodule' => by simpa using hfront module' hmodule'
  have hreassigned : ∀ m, (reassignFrom group placement module).get? m =
      if m ∈ group.1 then some device else placement.get? m := by
    intro m
    rw [get?_reassignFrom h]
    simp only [hin, true_and]
  rw [unfoldGroup, hkeys, List.foldl_append, foldl_reassignFrom_of_none hnone, List.foldl_cons,
    get?_foldl_reassignFrom_of_agree fun m hm => (hreassigned m).trans (if_pos hm), hreassigned]

theorem unfoldGroup_of_none {group : TiedGroup} {placement : OrderedDict String γ}
    (h : ∀ module ∈ placement.keys, module ∉ group.1) : unfoldGroup placement group = placement :=
  foldl_reassignFrom_of_none h placement

/-- What is not in the group stays. -/
theorem get?_unfoldGroup_of_notMem {group : TiedGroup} (placement : OrderedDict String γ)
    {m : String} (hm : m ∉ group.1) : (unfoldGroup placement group).get? m = placement.get? m := by
  cases hfind : placement.keys.find? (· ∈ group.1) with
  | none =>
    rw [unfoldGroup_of_none]
    simpa using hfind
  | some module =>
    obtain ⟨device, hdevice⟩ := placement.mem_keys_iff.mp (List.mem_of_find?_eq_some hfind)
    rw [get?_unfoldGroup hfind hdevice, if_neg hm]

/-! ## Names in place of devices -/

/-- One placement has the devices where the other has names of them. -/
structure Follows {δ : Type*} (f : γ → δ) (names : OrderedDict String γ)
    (placement : OrderedDict String δ) : Prop where
  keys : placement.keys = names.keys
  get : ∀ m, placement.get? m = (names.get? m).map f

namespace Follows

variable {δ : Type*} {f : γ → δ} {names : OrderedDict String γ} {placement : OrderedDict String δ}

theorem set (h : Follows f names placement) (m : String) (name : γ) :
    Follows f (names.set m name) (placement.set m (f name)) where
  keys := by rw [OrderedDict.keys_set, OrderedDict.keys_set, h.keys]
  get := by
    intro m'
    rw [OrderedDict.get?_set, OrderedDict.get?_set, h.get]
    split_ifs
    · rfl
    · rfl

theorem reassign (h : Follows f names placement) (module m : String) :
    Follows f (reassign module names m) (reassign module placement m) := by
  unfold DevicePlacement.reassign
  rw [h.get]
  cases names.get? module with
  | none => exact h
  | some name =>
    simp only [Option.map_some]
    split_ifs
    · exact h.set m name
    · exact h

theorem reassignFrom (h : Follows f names placement) (group : TiedGroup) (module : String) :
    Follows f (reassignFrom group names module) (reassignFrom group placement module) := by
  unfold DevicePlacement.reassignFrom
  split_ifs
  · induction group.1 generalizing names placement with
    | nil => exact h
    | cons m rest ih => exact ih (h.reassign module m)
  · exact h

theorem unfoldGroup (h : Follows f names placement) (group : TiedGroup) :
    Follows f (unfoldGroup names group) (unfoldGroup placement group) := by
  unfold DevicePlacement.unfoldGroup
  rw [h.keys]
  induction names.keys generalizing names placement with
  | nil => exact h
  | cons module rest ih => exact ih (h.reassignFrom group module)

/-- **Unfolding looks at names alone.** -/
theorem unfoldTied (h : Follows f names placement) (tied : List TiedGroup) :
    Follows f (unfoldTied names tied) (unfoldTied placement tied) := by
  induction tied generalizing names placement with
  | nil => exact h
  | cons group rest ih => exact ih (h.unfoldGroup group)

end Follows

/-- For each module the folded module whose device it gets. -/
def unfoldedNames (modules : ModuleSizes) (tied : List TiedGroup) : OrderedDict String String :=
  unfoldTied ((foldTied modules tied).mapValues fun module _ => module) tied

/-- No two groups have a name in common. -/
def DisjointGroups (tied : List TiedGroup) : Prop :=
  tied.Pairwise fun group group' => group.1.Disjoint group'.1

/-- The groups are kept together: every module gets a device, and all members of a group get that
of one folded module.  Where groups overlap, what they share is not negative. -/
structure TiesRespected (modules : ModuleSizes) (tied : List TiedGroup) : Prop where
  placed : ∀ m ∈ modules.keys, ∃ name, (unfoldedNames modules tied).get? m = some name
  together : ∀ group ∈ tied, ∀ m ∈ group.1, ∀ m' ∈ group.1, ∀ name name',
    (unfoldedNames modules tied).get? m = some name →
      (unfoldedNames modules tied).get? m' = some name' → name = name'
  shared : DisjointGroups tied ∨ ∀ group ∈ tied, 0 ≤ group.2

/-- The device of a module is that of the module it was folded into. -/
theorem get?_unfoldTied {modules : ModuleSizes} {tied : List TiedGroup} {placement : Placement}
    (hkeys : placement.keys = (foldTied modules tied).keys) (m : String) :
    (unfoldTied placement tied).get? m =
      ((unfoldedNames modules tied).get? m).map fun name => (placement.get? name).getD 0 := by
  have hfollows : Follows (fun name => (placement.get? name).getD 0)
      ((foldTied modules tied).mapValues fun module _ => module) placement := by
    refine ⟨by rw [hkeys, OrderedDict.keys_mapValues], fun m => ?_⟩
    rw [OrderedDict.get?_mapValues, Option.map_map]
    cases hm : (foldTied modules tied).get? m with
    | none =>
      rw [OrderedDict.get?_eq_none_iff, ← hkeys] at hm
      rw [placement.get?_eq_none_iff.mpr hm]
      rfl
    | some size =>
      have hin : m ∈ placement.keys := by
        rw [hkeys]
        exact (foldTied modules tied).mem_keys_iff.mpr ⟨size, hm⟩
      obtain ⟨device, hdevice⟩ := placement.mem_keys_iff.mp hin
      rw [hdevice]
      show some device = some ((placement.get? m).getD 0)
      rw [hdevice, Option.getD_some]
  exact (hfollows.unfoldTied tied).get m

/-! ## Folding -/

theorem mem_foldedInto {modules : ModuleSizes} {group : TiedGroup} {module m : String} :
    m ∈ foldedInto modules group module ↔ m ∈ modules.keys ∧ m ∈ group.1 ∧ m ≠ module := by
  rw [foldedInto, List.mem_filter, decide_eq_true_iff]

theorem foldGroup_of_none {modules : ModuleSizes} {group : TiedGroup}
    (h : modules.keys.find? (· ∈ group.1) = none) : foldGroup modules group = modules := by
  rw [foldGroup, h]

theorem foldGroup_of_some {modules : ModuleSizes} {group : TiedGroup} {module : String}
    (h : modules.keys.find? (· ∈ group.1) = some module) :
    foldGroup modules group =
      (modules.filter fun m _ => m ∉ foldedInto modules group module).set module
        (tiedSize modules group module) := by
  rw [foldGroup, h]

theorem keys_foldGroup_of_some {modules : ModuleSizes} {group : TiedGroup} {module : String}
    (h : modules.keys.find? (· ∈ group.1) = some module) :
    (foldGroup modules group).keys =
      modules.keys.filter fun m => m ∉ foldedInto modules group module := by
  have hkeys : (modules.filter fun m _ => m ∉ foldedInto modules group module).keys =
      modules.keys.filter fun m => m ∉ foldedInto modules group module :=
    OrderedDict.keys_filter modules fun m => decide (m ∉ foldedInto modules group module)
  rw [foldGroup_of_some h, OrderedDict.keys_set, hkeys, if_pos]
  rw [List.mem_filter, decide_eq_true_iff, mem_foldedInto]
  exact ⟨List.mem_of_find?_eq_some h, fun hboth => hboth.2.2 rfl⟩

/-- **What is left of the modules when a group is folded**: its first member, and what is not in
it. -/
theorem keys_foldGroup (modules : ModuleSizes) (group : TiedGroup) :
    (foldGroup modules group).keys = modules.keys.filter fun m =>
      m ∉ group.1 ∨ modules.keys.find? (· ∈ group.1) = some m := by
  cases hfind : modules.keys.find? (· ∈ group.1) with
  | none =>
    rw [foldGroup_of_none hfind, List.filter_eq_self.mpr]
    intro m hm
    have hnot := List.find?_eq_none.mp hfind m hm
    simpa using hnot
  | some module =>
    rw [keys_foldGroup_of_some hfind]
    refine List.filter_congr fun m hm => decide_eq_decide.mpr ?_
    rw [mem_foldedInto, and_iff_right hm, Option.some.injEq, not_and_not_right, imp_iff_not_or,
      @eq_comm _ m]

/-- The first member of a folded group has the size of the group, and no other size changes. -/
theorem moduleSize_foldGroup {modules : ModuleSizes} {group : TiedGroup} {module m : String}
    (h : modules.keys.find? (· ∈ group.1) = some module)
    (hm : m ∈ (foldGroup modules group).keys) :
    moduleSize (foldGroup modules group) m =
      if m = module then tiedSize modules group module else moduleSize modules m := by
  rw [keys_foldGroup_of_some h, List.mem_filter, decide_eq_true_iff] at hm
  rw [moduleSize, foldGroup_of_some h, OrderedDict.get?_set]
  by_cases heq : m = module
  · rw [if_pos heq.symm, if_pos heq]
    rfl
  · rw [if_neg (Ne.symm heq), if_neg heq, moduleSize]
    obtain ⟨size, hsize⟩ := modules.mem_keys_iff.mp hm.1
    rw [hsize, (OrderedDict.get?_filter modules _).mpr ⟨hsize, decide_eq_true hm.2⟩]

theorem mem_keys_of_foldGroup {modules : ModuleSizes} {group : TiedGroup} {m : String}
    (h : m ∈ (foldGroup modules group).keys) : m ∈ modules.keys := by
  rw [keys_foldGroup] at h
  exact List.mem_of_mem_filter h

theorem mem_keys_of_foldTied (tied : List TiedGroup) {modules : ModuleSizes} {m : String}
    (h : m ∈ (foldTied modules tied).keys) : m ∈ modules.keys := by
  induction tied generalizing modules with
  | nil => exact h
  | cons group rest ih => exact mem_keys_of_foldGroup (ih h)

/-- Of each group at most one module is left. -/
theorem eq_of_mem_foldTied {tied : List TiedGroup} {modules : ModuleSizes} {group : TiedGroup}
    (hgroup : group ∈ tied) {m m' : String} (hm : m ∈ (foldTied modules tied).keys)
    (hm' : m' ∈ (foldTied modules tied).keys) (hin : m ∈ group.1) (hin' : m' ∈ group.1) :
    m = m' := by
  induction tied generalizing modules with
  | nil => exact absurd hgroup List.not_mem_nil
  | cons first rest ih =>
    rcases List.mem_cons.mp hgroup with rfl | hgroup
    · have hleft : ∀ m ∈ (foldTied modules (group :: rest)).keys, m ∈ group.1 →
          modules.keys.find? (· ∈ group.1) = some m := by
        intro m hm hin
        have hfolded := mem_keys_of_foldTied rest hm
        rw [keys_foldGroup, List.mem_filter, decide_eq_true_iff] at hfolded
        exact hfolded.2.resolve_left fun hnot => hnot hin
      exact Option.some.inj ((hleft m hm hin).symm.trans (hleft m' hm' hin'))
    · exact ih hgroup hm hm'

/-- What is in no group is left. -/
theorem mem_foldTied_of_notMem {tied : List TiedGroup} {modules : ModuleSizes} {m : String}
    (hm : m ∈ modules.keys) (hnot : ∀ group ∈ tied, m ∉ group.1) :
    m ∈ (foldTied modules tied).keys := by
  induction tied generalizing modules with
  | nil => exact hm
  | cons group rest ih =>
    refine ih ?_ fun group' hgroup' => hnot group' (List.mem_cons_of_mem group hgroup')
    rw [keys_foldGroup, List.mem_filter, decide_eq_true_iff]
    exact ⟨hm, Or.inl (hnot group List.mem_cons_self)⟩

/-! ## The names of the folded modules -/

theorem keys_prefix_foldl {β : Type*} {f : OrderedDict String γ → β → OrderedDict String γ}
    (h : ∀ placement b, placement.keys <+: (f placement b).keys) (l : List β)
    (placement : OrderedDict String γ) : placement.keys <+: (l.foldl f placement).keys := by
  induction l generalizing placement with
  | nil => exact List.prefix_rfl
  | cons b rest ih => exact (h placement b).trans (ih (f placement b))

theorem keys_prefix_reassign (module : String) (placement : OrderedDict String γ) (m : String) :
    placement.keys <+: (reassign module placement m).keys := by
  unfold reassign
  cases placement.get? module with
  | none => exact List.prefix_rfl
  | some device =>
    simp only
    split_ifs
    · rw [OrderedDict.keys_set]
      split_ifs
      · exact List.prefix_rfl
      · exact List.prefix_append _ _
    · exact List.prefix_rfl

/-- New modules are placed behind those that are there. -/
theorem keys_prefix_unfoldGroup (placement : OrderedDict String γ) (group : TiedGroup) :
    placement.keys <+: (unfoldGroup placement group).keys := by
  refine keys_prefix_foldl (fun placement module => ?_) placement.keys placement
  unfold reassignFrom
  split_ifs
  · exact keys_prefix_foldl (keys_prefix_reassign module) group.1 placement
  · exact List.prefix_rfl

/-- Some modules come first, under their own names, and all others have names of these. -/
structure OwnNames (modules : List String) (names : OrderedDict String String) : Prop where
  first : modules <+: names.keys
  own : ∀ m ∈ modules, names.get? m = some m
  among : ∀ m name, names.get? m = some name → name ∈ modules

/-- A group whose only module among the first ones is known. -/
def OnlyMember (modules : List String) (group : TiedGroup) : Prop :=
  ∀ m ∈ modules, ∀ m' ∈ modules, m ∈ group.1 → m' ∈ group.1 → m = m'

namespace OwnNames

variable {modules : List String} {names : OrderedDict String String}

theorem find?_eq (h : OwnNames modules names) {group : TiedGroup}
    (hgroup : OnlyMember modules group) {m : String} (hm : m ∈ modules) (hin : m ∈ group.1) :
    names.keys.find? (· ∈ group.1) = some m := by
  obtain ⟨back, hback⟩ := h.first
  rw [← hback, List.find?_append]
  cases hfind : modules.find? (· ∈ group.1) with
  | none => exact absurd (List.find?_eq_none.mp hfind m hm) (by simpa using hin)
  | some m' =>
    have hin' : m' ∈ group.1 := by simpa using List.find?_some hfind
    rw [hgroup m hm m' (List.mem_of_find?_eq_some hfind) hin hin']
    rfl

/-- The members of a group get the name of their module. -/
theorem get?_unfoldGroup (h : OwnNames modules names) {group : TiedGroup}
    (hgroup : OnlyMember modules group) {m : String} (hm : m ∈ modules) (hin : m ∈ group.1)
    {m' : String} (hin' : m' ∈ group.1) : (unfoldGroup names group).get? m' = some m := by
  rw [DevicePlacement.get?_unfoldGroup (h.find?_eq hgroup hm hin) (h.own m hm), if_pos hin']

/-- **The first modules keep their names.** -/
theorem unfoldGroup (h : OwnNames modules names) {group : TiedGroup}
    (hgroup : OnlyMember modules group) : OwnNames modules (unfoldGroup names group) where
  first := h.first.trans (keys_prefix_unfoldGroup names group)
  own := by
    intro m hm
    by_cases hin : m ∈ group.1
    · exact h.get?_unfoldGroup hgroup hm hin hin
    · rw [get?_unfoldGroup_of_notMem names hin, h.own m hm]
  among := by
    intro m name hname
    cases hfind : names.keys.find? (· ∈ group.1) with
    | none =>
      rw [unfoldGroup_of_none (by simpa using hfind)] at hname
      exact h.among m name hname
    | some module =>
      obtain ⟨name', hname'⟩ := names.mem_keys_iff.mp (List.mem_of_find?_eq_some hfind)
      rw [DevicePlacement.get?_unfoldGroup hfind hname'] at hname
      split_ifs at hname
      · exact Option.some.inj hname ▸ h.among module name' hname'
      · exact h.among m name hname

theorem unfoldTied (h : OwnNames modules names) {tied : List TiedGroup}
    (htied : ∀ group ∈ tied, OnlyMember modules group) :
    OwnNames modules (unfoldTied names tied) := by
  induction tied generalizing names with
  | nil => exact h
  | cons group rest ih =>
    exact ih (h.unfoldGroup (htied group List.mem_cons_self)) fun group' hgroup' =>
      htied group' (List.mem_cons_of_mem group hgroup')

end OwnNames

theorem ownNames_foldTied (modules : ModuleSizes) (tied : List TiedGroup) :
    OwnNames (foldTied modules tied).keys
      ((foldTied modules tied).mapValues fun module _ => module) where
  first := by rw [OrderedDict.keys_mapValues]
  own := by
    intro m hm
    obtain ⟨size, hsize⟩ := (foldTied modules tied).mem_keys_iff.mp hm
    rw [OrderedDict.get?_mapValues, hsize]
    rfl
  among := by
    intro m name hname
    rw [OrderedDict.get?_mapValues] at hname
    obtain ⟨size, hsize, rfl⟩ := Option.map_eq_some_iff.mp hname
    exact (foldTied modules tied).mem_keys_iff.mpr ⟨size, hsize⟩

theorem onlyMember_foldTied {modules : ModuleSizes} {tied : List TiedGroup} {group : TiedGroup}
    (hgroup : group ∈ tied) : OnlyMember (foldTied modules tied).keys group :=
  fun _ hm _ hm' hin hin' => eq_of_mem_foldTied hgroup hm hm' hin hin'

/-- **A folded module keeps its place**, and the others have the place of a folded module. -/
theorem ownNames_unfoldedNames (modules : ModuleSizes) (tied : List TiedGroup) :
    OwnNames (foldTied modules tied).keys (unfoldedNames modules tied) :=
  (ownNames_foldTied modules tied).unfoldTied fun _ hgroup => onlyMember_foldTied hgroup

/-! ## Groups that do not overlap -/

section Disjoint

variable {tied : List TiedGroup} {group : TiedGroup}

/-- What is in no group keeps its device. -/
theorem get?_unfoldTied_of_notMem {m : String} (hnot : ∀ group ∈ tied, m ∉ group.1)
    (placement : OrderedDict String γ) :
    (unfoldTied placement tied).get? m = placement.get? m := by
  induction tied generalizing placement with
  | nil => rfl
  | cons group rest ih =>
    have hrest := ih (fun group' hgroup' => hnot group' (List.mem_cons_of_mem group hgroup'))
      (unfoldGroup placement group)
    exact hrest.trans (get?_unfoldGroup_of_notMem placement (hnot group List.mem_cons_self))

/-- A group of which a module is there still has one when the groups are folded. -/
theorem exists_mem_foldTied (hdisjoint : DisjointGroups tied) (hgroup : group ∈ tied)
    {modules : ModuleSizes} {m : String} (hm : m ∈ modules.keys) (hin : m ∈ group.1) :
    ∃ m' ∈ (foldTied modules tied).keys, m' ∈ group.1 := by
  induction tied generalizing modules with
  | nil => exact absurd hgroup List.not_mem_nil
  | cons first rest ih =>
    obtain ⟨hfirst, hrest⟩ := List.pairwise_cons.mp hdisjoint
    rcases List.mem_cons.mp hgroup with rfl | hgroup
    · cases hfind : modules.keys.find? (· ∈ group.1) with
      | none => exact absurd (List.find?_eq_none.mp hfind m hm) (by simpa using hin)
      | some m' =>
        have hin' : m' ∈ group.1 := by simpa using List.find?_some hfind
        have hleft : m' ∈ (foldGroup modules group).keys := by
          rw [keys_foldGroup, List.mem_filter, decide_eq_true_iff]
          exact ⟨List.mem_of_find?_eq_some hfind, Or.inr hfind⟩
        have hstays : m' ∈ (foldTied (foldGroup modules group) rest).keys :=
          mem_foldTied_of_notMem hleft fun group' hgroup' => hfirst group' hgroup' hin'
        exact ⟨m', hstays, hin'⟩
    · refine ih hrest hgroup ?_
      rw [keys_foldGroup, List.mem_filter, decide_eq_true_iff]
      exact ⟨hm, Or.inl fun hboth => hfirst group hgroup hboth hin⟩

/-- **The members of a group get the name of its module.** -/
theorem OwnNames.get?_unfoldTied {modules : List String} {names : OrderedDict String String}
    (h : OwnNames modules names) (hdisjoint : DisjointGroups tied)
    (htied : ∀ group ∈ tied, OnlyMember modules group) (hgroup : group ∈ tied) {m : String}
    (hm : m ∈ modules) (hin : m ∈ group.1) {m' : String} (hin' : m' ∈ group.1) :
    (DevicePlacement.unfoldTied names tied).get? m' = some m := by
  induction tied generalizing names with
  | nil => exact absurd hgroup List.not_mem_nil
  | cons first rest ih =>
    obtain ⟨hfirst, hrest⟩ := List.pairwise_cons.mp hdisjoint
    have honly := htied first List.mem_cons_self
    rcases List.mem_cons.mp hgroup with rfl | hgroup
    · have hlater : (DevicePlacement.unfoldTied (DevicePlacement.unfoldGroup names group) rest).get?
          m' = (DevicePlacement.unfoldGroup names group).get? m' :=
        get?_unfoldTied_of_notMem (fun group' hgroup' => hfirst group' hgroup' hin') _
      exact hlater.trans (h.get?_unfoldGroup honly hm hin hin')
    · exact ih (h.unfoldGroup honly) hrest
        (fun group' hgroup' => htied group' (List.mem_cons_of_mem first hgroup')) hgroup

/-- A group none of whose members is there is not placed. -/
theorem get?_unfoldTied_of_none (hdisjoint : DisjointGroups tied) (hgroup : group ∈ tied)
    {placement : OrderedDict String γ} (hnone : ∀ m ∈ group.1, m ∉ placement.keys) {m : String}
    (hin : m ∈ group.1) : (unfoldTied placement tied).get? m = none := by
  induction tied generalizing placement with
  | nil => exact absurd hgroup List.not_mem_nil
  | cons first rest ih =>
    obtain ⟨hfirst, hrest⟩ := List.pairwise_cons.mp hdisjoint
    rcases List.mem_cons.mp hgroup with rfl | hgroup
    · have hsame : unfoldGroup placement group = placement :=
        unfoldGroup_of_none fun m hm hboth => hnone m hboth hm
      have hlater : (unfoldTied (unfoldGroup placement group) rest).get? m =
          (unfoldGroup placement group).get? m :=
        get?_unfoldTied_of_notMem (fun group' hgroup' => hfirst group' hgroup' hin) _
      show (unfoldTied (unfoldGroup placement group) rest).get? m = none
      rw [hlater, hsame]
      exact placement.get?_eq_none_iff.mpr (hnone m hin)
    · refine ih hrest hgroup fun m hm => ?_
      have hother : m ∉ first.1 := fun hboth => hfirst group hgroup hboth hm
      rw [← OrderedDict.get?_eq_none_iff, get?_unfoldGroup_of_notMem placement hother]
      exact placement.get?_eq_none_iff.mpr (hnone m hm)

/-- **Groups that do not overlap are kept together.** -/
theorem tiesRespected_of_disjoint (hdisjoint : DisjointGroups tied) (modules : ModuleSizes) :
    TiesRespected modules tied := by
  have hown := ownNames_foldTied modules tied
  have honly : ∀ group ∈ tied, OnlyMember (foldTied modules tied).keys group :=
    fun _ hgroup => onlyMember_foldTied hgroup
  refine ⟨fun m hm => ?_, fun group hgroup m hin m' hin' name name' hname hname' => ?_,
    Or.inl hdisjoint⟩
  · by_cases hgroup : ∃ group ∈ tied, m ∈ group.1
    · obtain ⟨group, hgroup, hin⟩ := hgroup
      obtain ⟨module, hmodule, hin'⟩ := exists_mem_foldTied hdisjoint hgroup hm hin
      exact ⟨module, hown.get?_unfoldTied hdisjoint honly hgroup hmodule hin' hin⟩
    · have hnot : ∀ group ∈ tied, m ∉ group.1 :=
        fun group hmem hin => hgroup ⟨group, hmem, hin⟩
      exact ⟨m, (ownNames_unfoldedNames modules tied).own m (mem_foldTied_of_notMem hm hnot)⟩
  · by_cases hmodule : ∃ module ∈ (foldTied modules tied).keys, module ∈ group.1
    · obtain ⟨module, hmodule, hin''⟩ := hmodule
      have hall : ∀ m ∈ group.1, (unfoldedNames modules tied).get? m = some module := fun m hin =>
        hown.get?_unfoldTied hdisjoint honly hgroup hmodule hin'' hin
      rw [hall m hin] at hname
      rw [hall m' hin'] at hname'
      exact Option.some.inj (hname.symm.trans hname')
    · have hnone : (unfoldedNames modules tied).get? m = none := by
        refine get?_unfoldTied_of_none hdisjoint hgroup (fun m hin hm => hmodule ⟨m, ?_, hin⟩) hin
        rw [OrderedDict.keys_mapValues] at hm
        exact hm
      rw [hnone] at hname
      exact absurd hname (by simp)

end Disjoint

end DevicePlacement
end Store
end SpotServe
