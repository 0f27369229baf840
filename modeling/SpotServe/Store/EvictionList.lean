import SpotServe.Library.Runs
import SpotServe.Store.CheckpointStore

/-!
# Which models the eviction list names

The eviction loop of `LoadModelFromDisk` looks every path of `model_last_access_time_` up in
`model_map_`.  As long as the first table names registered models only (`Listed`) the loop meets no
null pointer and makes no entry (`Registered.evict`), and every operation keeps it so but one:
`ClearMem` empties the second table and leaves the first.

* `Sound.step`: one operation, `ClearMem` with an empty list of times included.
* `safeRun_iff`: a run is as it should be exactly when every `ClearMem` finds that list empty.
-/

namespace SpotServe
namespace Store

open Py

/-! ## One model between two operations -/

namespace HostModel

/-- Nothing is loading, and memory that the state speaks of is there. -/
structure Resting (m : HostModel) : Prop where
  state : m.state ≠ .loading
  replicas : ¬ m.replicaLoading
  memory : m.state ≠ .uninitialized → m.state ≠ .unallocated → m.pinnedMem ≠ none

variable {m : HostModel}

theorem Resting.unallocate (h : m.Resting) (pinnedMem : Option ℕ) :
    Resting { m with pinnedMem := pinnedMem, state := .unallocated } :=
  ⟨by simp, h.replicas, fun _ hstate => absurd rfl hstate⟩

theorem Resting.reset (h : m.Resting) (hinit : m.state ≠ .uninitialized)
    (halloc : m.state ≠ .unallocated) :
    ∃ chunks m', m.reset = .ok (chunks, m') ∧ m'.Resting := by
  obtain ⟨chunks, hchunks⟩ := Option.ne_none_iff_exists'.mp (h.memory hinit halloc)
  refine ⟨chunks, _, ?_, h.unallocate none⟩
  rw [HostModel.reset, hchunks]

theorem Resting.tryFreeHost (h : m.Resting) :
    ∃ ret m' chunks, m.tryFreeHost = .ok (ret, m', chunks) ∧ m'.Resting := by
  unfold HostModel.tryFreeHost
  split_ifs with hunused
  · exact ⟨0, m, 0, rfl, h⟩
  · exact ⟨-1, m, 0, rfl, h⟩
  · push Not at hunused
    obtain ⟨chunks, m', hreset, hresting⟩ := h.reset hunused.1 hunused.2
    exact ⟨toInt chunks, m', chunks, by rw [hreset]; rfl, hresting⟩

theorem Resting.freeHost (h : m.Resting) :
    ∃ ret m' chunks, m.freeHost = .ok (ret, m', chunks) ∧ m'.Resting := by
  unfold HostModel.freeHost
  split_ifs with hunused hloading
  · exact ⟨1, m, 0, rfl, h⟩
  · exact absurd hloading (not_or.mpr ⟨h.state, h.replicas⟩)
  · push Not at hunused
    obtain ⟨chunks, m', hreset, hresting⟩ := h.reset hunused.1 hunused.2
    exact ⟨0, m', chunks, by rw [hreset]; rfl, hresting⟩

theorem Resting.allocatePinnedMemory (h : m.Resting) (cfg : StoreConfig) (free : ℕ) :
    (m.allocatePinnedMemory cfg free).2.1.Resting := by
  by_cases halloc : m.state = .unallocated
  · simp only [HostModel.allocatePinnedMemory, halloc, reduceCtorEq, if_false, ne_eq,
      not_true_eq_false]
    split_ifs
    · exact h.unallocate _
    · exact ⟨by simp, h.replicas, by simp⟩
    · exact h.unallocate _
  · unfold HostModel.allocatePinnedMemory
    rw [if_pos halloc]
    split_ifs
    · exact h
    · exact h

theorem Resting.toHost (h : m.Resting) (outcome : ReadOutcome) :
    (m.toHost outcome).2.1.Resting := by
  unfold HostModel.toHost
  cases outcome with
  | notOpened =>
    split_ifs
    all_goals exact h
  | failed =>
    split_ifs
    · exact h
    · exact h
    · exact h
    · exact h.unallocate none
  | done =>
    split_ifs with _ _ hnone
    · exact h
    · exact h
    · exact h
    · refine ⟨by simp, h.replicas, fun _ _ hnull => hnone ?_⟩
      change m.pinnedMem = none at hnull
      rw [hnull, Option.getD_none]

theorem Resting.toGpu (h : m.Resting) (replicaUuid : String) (copied : Bool) :
    (m.toGpu replicaUuid copied).2.Resting := by
  have hreplicas : ∀ uuid, m.gpuReplicas.get? uuid ≠ some .loading := fun uuid huuid =>
    h.replicas ((OrderedDict.mem_values_iff _).mpr ⟨uuid, huuid⟩)
  unfold HostModel.toGpu
  split_ifs
  · refine ⟨h.state, fun hloading => ?_, h.memory⟩
    obtain ⟨uuid, huuid⟩ := (OrderedDict.mem_values_iff _).mp hloading
    rw [OrderedDict.get?_set] at huuid
    split_ifs at huuid
    · exact absurd huuid (by simp)
    · exact hreplicas uuid huuid
  · refine ⟨h.state, fun hloading => ?_, h.memory⟩
    obtain ⟨uuid, huuid⟩ := (OrderedDict.mem_values_iff _).mp hloading
    rw [OrderedDict.get?_erase] at huuid
    split_ifs at huuid
    exact hreplicas uuid huuid

end HostModel

/-! ## The two tables -/

namespace CheckpointStore

variable (s : CheckpointStore)

/-- Every path of the list of times is the path of a registered model. -/
def Listed : Prop :=
  ∀ modelPath ∈ s.modelLastAccessTime.keys, ∃ m, s.modelMap.get? modelPath = some (some m)

/-- No pointer in the map is null, and no model is loading. -/
def Registered : Prop :=
  ∀ modelPath entry, s.modelMap.get? modelPath = some entry → ∃ m, entry = some m ∧ m.Resting

variable {s} {s' s'' : CheckpointStore}

theorem Registered.getModelPtr (h : s.Registered) {modelPath : String}
    (hmem : modelPath ∈ s.modelMap.keys) : ∃ m, s.getModelPtr modelPath = some m ∧ m.Resting := by
  obtain ⟨entry, hentry⟩ := (OrderedDict.mem_keys_iff _).mp hmem
  obtain ⟨m, rfl, hm⟩ := h modelPath entry hentry
  exact ⟨m, by rw [CheckpointStore.getModelPtr, hentry, Option.join_some], hm⟩

theorem mem_keys_of_getModelPtr {modelPath : String} {m : HostModel}
    (h : s.getModelPtr modelPath = some m) :
    modelPath ∈ s.modelMap.keys ∧ s.modelMap.get? modelPath = some (some m) := by
  have hentry : s.modelMap.get? modelPath = some (some m) := Option.join_eq_some_iff.mp h
  exact ⟨(OrderedDict.mem_keys_iff _).mpr ⟨_, hentry⟩, hentry⟩

/-- What an operation on registered models leaves: the same paths, and the same times. -/
structure Kept (s s' : CheckpointStore) : Prop where
  registered : s'.Registered
  keys : s'.modelMap.keys = s.modelMap.keys
  times : s'.modelLastAccessTime = s.modelLastAccessTime

theorem Kept.trans (h : Kept s s') (h' : Kept s' s'') : Kept s s'' :=
  ⟨h'.registered, h'.keys.trans h.keys, h'.times.trans h.times⟩

theorem Kept.listed (h : Kept s s') (hlisted : s.Listed) : s'.Listed := by
  intro modelPath hmem
  rw [h.times] at hmem
  obtain ⟨m, hm⟩ := hlisted modelPath hmem
  have hkey : modelPath ∈ s'.modelMap.keys := by
    rw [h.keys]
    exact (OrderedDict.mem_keys_iff _).mpr ⟨_, hm⟩
  obtain ⟨m', hm', -⟩ := h.registered.getModelPtr hkey
  exact ⟨m', (mem_keys_of_getModelPtr hm').2⟩

/-- A registered model changes. -/
theorem Registered.set (h : s.Registered) {modelPath : String}
    (hmem : modelPath ∈ s.modelMap.keys) {m : HostModel} (hm : m.Resting) (freeChunks : ℕ) :
    Kept s { s with
      modelMap := s.modelMap.set modelPath (some m)
      freeChunks := freeChunks } := by
  refine ⟨fun path entry hentry => ?_, ?_, rfl⟩
  · change (s.modelMap.set modelPath (some m)).get? path = some entry at hentry
    rw [OrderedDict.get?_set] at hentry
    split_ifs at hentry
    · exact ⟨m, (Option.some.inj hentry).symm, hm⟩
    · exact h path entry hentry
  · show (s.modelMap.set modelPath (some m)).keys = _
    rw [OrderedDict.keys_set, if_pos hmem]

/-- **The eviction loop** meets registered models only, and makes no entry. -/
theorem Registered.evict (h : s.Registered) (needed : ℤ) {list : List (String × ℕ)}
    (hlist : ∀ item ∈ list, item.1 ∈ s.modelMap.keys) :
    ∃ needed' s', evict list needed s = .ok (needed', s') ∧ Kept s s' := by
  induction list generalizing s needed with
  | nil => exact ⟨needed, s, rfl, h, rfl, rfl⟩
  | cons item rest ih =>
    obtain ⟨modelPath, time⟩ := item
    have hmem := hlist (modelPath, time) List.mem_cons_self
    obtain ⟨m, hptr, hm⟩ := h.getModelPtr hmem
    obtain ⟨freed, m', chunks, hfree, hm'⟩ := hm.tryFreeHost
    have hkept : Kept s (s.setModel modelPath m' chunks) := h.set hmem hm' _
    unfold CheckpointStore.evict
    simp only [hptr, hfree]
    split_ifs
    · exact ⟨_, _, rfl, hkept⟩
    all_goals
      obtain ⟨needed', s', hrest, hkept'⟩ := ih hkept.registered _ fun item hitem => by
        rw [hkept.keys]
        exact hlist item (List.mem_cons_of_mem _ hitem)
      exact ⟨needed', s', hrest, hkept.trans hkept'⟩

theorem Registered.allocate (h : s.Registered) (cfg : StoreConfig) {modelPath : String}
    {m : HostModel} (hptr : s.getModelPtr modelPath = some m) :
    Kept s (s.allocate cfg modelPath m).2 := by
  obtain ⟨hmem, hentry⟩ := mem_keys_of_getModelPtr hptr
  obtain ⟨m', hm', hresting⟩ := h modelPath _ hentry
  obtain rfl := Option.some.inj hm'
  exact h.set hmem (hresting.allocatePinnedMemory cfg s.freeChunks) _

theorem Registered.fetch (h : s.Registered) {modelPath : String}
    (hmem : modelPath ∈ s.modelMap.keys) (outcome : ReadOutcome) :
    ∃ ret s', s.fetch modelPath outcome = .ok (ret, s') ∧ Kept s s' := by
  obtain ⟨m, hptr, hm⟩ := h.getModelPtr hmem
  have hread := hm.toHost outcome
  have hkept : Kept s (s.setModel modelPath (m.toHost outcome).2.1 (m.toHost outcome).2.2) :=
    h.set hmem hread _
  unfold CheckpointStore.fetch
  simp only [hptr]
  split_ifs
  · exact ⟨_, _, rfl, hkept⟩
  · obtain ⟨ret, m', chunks, hfree, hm'⟩ := hread.freeHost
    rw [hfree]
    refine ⟨_, _, rfl, hkept.trans (hkept.registered.set ?_ hm' _)⟩
    rw [hkept.keys]
    exact hmem

/-- What every operation but `ClearMem` does to a store that is in order. -/
structure Sound (s : CheckpointStore) : Prop where
  registered : s.Registered
  listed : s.Listed

theorem Sound.note (h : s.Sound) {modelPath : String} (hmem : modelPath ∈ s.modelMap.keys)
    (now : ℕ) :
    Sound { s with modelLastAccessTime := s.modelLastAccessTime.set modelPath now } := by
  refine ⟨h.registered, fun path hpath => ?_⟩
  change path ∈ (s.modelLastAccessTime.set modelPath now).keys at hpath
  rw [OrderedDict.mem_keys_iff] at hpath
  obtain ⟨time, htime⟩ := hpath
  rw [OrderedDict.get?_set] at htime
  split_ifs at htime with hsame
  · obtain ⟨m, hm, -⟩ := h.registered.getModelPtr hmem
    exact ⟨m, hsame ▸ (mem_keys_of_getModelPtr hm).2⟩
  · exact h.listed path ((OrderedDict.mem_keys_iff _).mpr ⟨time, htime⟩)

theorem Sound.kept (h : s.Sound) (hkept : Kept s s') : s'.Sound :=
  ⟨hkept.registered, hkept.listed h.listed⟩

theorem Sound.noteAndFetch (h : s.Sound) {modelPath : String}
    (hmem : modelPath ∈ s.modelMap.keys) (now : ℕ) (outcome : ReadOutcome) :
    ∃ ret s', s.noteAndFetch modelPath now outcome = .ok (ret, s') ∧ s'.Sound ∧
      s'.modelMap.keys = s.modelMap.keys := by
  have hnote := h.note hmem now
  obtain ⟨ret, s', hfetch, hkept⟩ := hnote.registered.fetch hmem outcome
  exact ⟨ret, s', hfetch, hnote.kept hkept, hkept.keys⟩

/-- **`LoadModelFromDisk`** runs through, and registers nothing. -/
theorem Sound.loadModelFromDisk (h : s.Sound) (cfg : StoreConfig) (modelPath : String)
    (order : EvictionOrder) (now : ℕ) (outcome : ReadOutcome) :
    ∃ ret s', s.loadModelFromDisk cfg modelPath order now outcome = .ok (ret, s') ∧ s'.Sound ∧
      s'.modelMap.keys = s.modelMap.keys := by
  unfold CheckpointStore.loadModelFromDisk
  cases hptr : s.getModelPtr modelPath with
  | none => exact ⟨-1, s, rfl, h, rfl⟩
  | some m =>
    have hmem := (mem_keys_of_getModelPtr hptr).1
    have hkept := h.registered.allocate cfg hptr
    dsimp only
    generalize s.allocate cfg modelPath m = allocated at *
    obtain ⟨remainingSize, s₁⟩ := allocated
    dsimp only at *
    have hsound := h.kept hkept
    have hmem₁ : modelPath ∈ s₁.modelMap.keys := by
      rw [hkept.keys]
      exact hmem
    split_ifs
    · exact ⟨-1, s₁, rfl, hsound, hkept.keys⟩
    · obtain ⟨ret, s', hfetch, hsound', hkeys⟩ := hsound.noteAndFetch hmem₁ now outcome
      exact ⟨ret, s', hfetch, hsound', hkeys.trans hkept.keys⟩
    · have hlist : ∀ item ∈ order.list s₁.modelLastAccessTime, item.1 ∈ s₁.modelMap.keys := by
        intro item hitem
        have hentry := (order.perm s₁.modelLastAccessTime).mem_iff.mp hitem
        obtain ⟨m', hm'⟩ := hsound.listed item.1 (List.mem_map_of_mem hentry)
        exact (OrderedDict.mem_keys_iff _).mpr ⟨_, hm'⟩
      obtain ⟨needed, s₂, hevict, hkept₂⟩ := hsound.registered.evict remainingSize hlist
      rw [hevict]
      dsimp only
      have hsound₂ := hsound.kept hkept₂
      have hkeys₂ := hkept₂.keys.trans hkept.keys
      split_ifs
      · exact ⟨-1, s₂, rfl, hsound₂, hkeys₂⟩
      · have hmem₂ : modelPath ∈ s₂.modelMap.keys := by
          rw [hkeys₂]
          exact hmem
        obtain ⟨m₂, hptr₂, -⟩ := hsound₂.registered.getModelPtr hmem₂
        rw [hptr₂]
        have hkept₃ := hsound₂.registered.allocate cfg hptr₂
        dsimp only
        generalize s₂.allocate cfg modelPath m₂ = allocated at *
        obtain ⟨remainingSize', s₃⟩ := allocated
        dsimp only at *
        have hsound₃ := hsound₂.kept hkept₃
        have hkeys₃ := hkept₃.keys.trans hkeys₂
        split_ifs
        · exact ⟨-1, s₃, rfl, hsound₃, hkeys₃⟩
        · have hmem₃ : modelPath ∈ s₃.modelMap.keys := by
            rw [hkeys₃]
            exact hmem
          obtain ⟨ret, s', hfetch, hsound', hkeys⟩ := hsound₃.noteAndFetch hmem₃ now outcome
          exact ⟨ret, s', hfetch, hsound', hkeys.trans hkeys₃⟩

theorem Sound.registerModelInfo (h : s.Sound) (modelPath : String) (found : Option ℕ) :
    ∃ ret s', s.registerModelInfo modelPath found = .ok (ret, s') ∧ s'.Sound := by
  unfold CheckpointStore.registerModelInfo
  cases hentry : s.modelMap.get? modelPath with
  | some entry =>
    obtain ⟨m, rfl, -⟩ := h.registered modelPath entry hentry
    exact ⟨m.modelSize, s, rfl, h⟩
  | none =>
    dsimp only
    split
    case h_2 => exact ⟨-1, s, rfl, h⟩
    case h_1 size =>
      refine ⟨_, _, rfl, fun path entry hpath => ?_, fun path hpath => ?_⟩
      · change (s.modelMap.set modelPath _).get? path = some entry at hpath
        rw [OrderedDict.get?_set] at hpath
        split_ifs at hpath
        · obtain rfl := Option.some.inj hpath
          exact ⟨_, rfl, by simp, by simp [HostModel.replicaLoading, OrderedDict.values,
            OrderedDict.empty], by simp⟩
        · exact h.registered path entry hpath
      · obtain ⟨m, hm⟩ := h.listed path hpath
        have hne : modelPath ≠ path := by
          rintro rfl
          rw [hm] at hentry
          exact absurd hentry (by simp)
        exact ⟨m, (OrderedDict.get?_set_of_ne _ _ hne).trans hm⟩

theorem Sound.loadModelFromMem (h : s.Sound) (modelPath replicaUuid : String)
    (handles chunks now : ℕ) (copied : Bool) :
    (s.loadModelFromMem modelPath replicaUuid handles chunks now copied).2.Sound := by
  unfold CheckpointStore.loadModelFromMem
  split_ifs
  · exact h
  · cases hptr : s.getModelPtr modelPath with
    | none => exact h
    | some m =>
      obtain ⟨hmem, hentry⟩ := mem_keys_of_getModelPtr hptr
      obtain ⟨m', hm', hresting⟩ := h.registered modelPath _ hentry
      obtain rfl := Option.some.inj hm'
      have hnote := h.note hmem now
      exact hnote.kept (hnote.registered.set hmem (hresting.toGpu replicaUuid copied) _)

theorem Sound.unloadModelFromHost (h : s.Sound) (modelPath : String) :
    ∃ ret s', s.unloadModelFromHost modelPath = .ok (ret, s') ∧ s'.Sound := by
  unfold CheckpointStore.unloadModelFromHost
  cases hentry : s.modelMap.get? modelPath with
  | none => exact ⟨1, s, rfl, h⟩
  | some entry =>
    obtain ⟨m, rfl, hm⟩ := h.registered modelPath entry hentry
    obtain ⟨ret, m', chunks, hfree, hm'⟩ := hm.freeHost
    have hmem := (OrderedDict.mem_keys_iff _).mpr ⟨_, hentry⟩
    dsimp only
    rw [hfree]
    exact ⟨ret, _, rfl, h.kept (h.registered.set hmem hm' _)⟩

/-- `ClearMem` runs through; what it leaves is in order when no times are kept. -/
theorem Registered.clearMem (h : s.Registered) :
    ∃ chunks, s.clearMem = .ok (0, { s with
      modelMap := .empty
      freeChunks := s.freeChunks + chunks }) := by
  have hloop : ∀ entries : List (String × Option HostModel),
      (∀ item ∈ entries, ∃ m, item.2 = some m ∧ m.Resting) →
      ∃ chunks, freeModels entries = .ok chunks := by
    intro entries
    induction entries with
    | nil => exact fun _ => ⟨0, rfl⟩
    | cons item rest ih =>
      intro hentries
      obtain ⟨path, entry⟩ := item
      obtain ⟨m, hentry, hm⟩ := hentries _ List.mem_cons_self
      obtain rfl : entry = some m := hentry
      obtain ⟨ret, m', chunks, hfree, -⟩ := hm.freeHost
      obtain ⟨more, hmore⟩ := ih fun item hitem => hentries item (List.mem_cons_of_mem _ hitem)
      exact ⟨chunks + more, by rw [freeModels, hfree, hmore]; rfl⟩
  obtain ⟨chunks, hchunks⟩ := hloop s.modelMap.entries fun item hitem =>
    h item.1 item.2 ((OrderedDict.mem_entries_iff _).mp hitem)
  exact ⟨chunks, by rw [CheckpointStore.clearMem, hchunks]; rfl⟩

/-- `ClearMem` finds no times. -/
def ClearsUnlisted (s : CheckpointStore) : Operation → Prop
  | .clearMem => s.modelLastAccessTime.keys = []
  | _ => True

/-- `LoadModelFromDisk` makes no entry in the map. -/
def InsertsNothing (s s' : CheckpointStore) : Operation → Prop
  | .loadModelFromDisk _ _ _ _ => s'.modelMap.keys = s.modelMap.keys
  | _ => True

/-- **One operation.** -/
theorem Sound.step (h : s.Sound) (cfg : StoreConfig) {op : Operation}
    (hclears : s.ClearsUnlisted op) :
    ∃ ret s', s.step cfg op = .ok (ret, s') ∧ s'.Sound ∧ InsertsNothing s s' op := by
  cases op with
  | registerModelInfo modelPath found =>
    obtain ⟨ret, s', hstep, hsound⟩ := h.registerModelInfo modelPath found
    exact ⟨ret, s', hstep, hsound, trivial⟩
  | loadModelFromDisk modelPath order now outcome =>
    exact h.loadModelFromDisk cfg modelPath order now outcome
  | loadModelFromMem modelPath replicaUuid handles chunks now copied =>
    exact ⟨_, _, rfl, h.loadModelFromMem modelPath replicaUuid handles chunks now copied, trivial⟩
  | unloadModelFromHost modelPath =>
    obtain ⟨ret, s', hstep, hsound⟩ := h.unloadModelFromHost modelPath
    exact ⟨ret, s', hstep, hsound, trivial⟩
  | clearMem =>
    obtain ⟨chunks, hclear⟩ := h.registered.clearMem
    refine ⟨0, _, hclear, ⟨fun _ _ hentry => absurd hentry (by simp), fun path hpath => ?_⟩, trivial⟩
    rw [show s.modelLastAccessTime.keys = [] from hclears] at hpath
    exact absurd hpath (by simp)

end CheckpointStore

/-! ## Runs -/

section Runs

variable (cfg : StoreConfig)

/-- In every state of the run the times are those of registered models, every operation returns,
and the eviction loop makes no entry. -/
def SafeRun : CheckpointStore → List Operation → Prop
  | s, [] => s.Listed
  | s, op :: ops => s.Listed ∧ ∃ ret s', s.step cfg op = .ok (ret, s') ∧
      CheckpointStore.InsertsNothing s s' op ∧ SafeRun s' ops

/-- Every `ClearMem` of the run finds no times. -/
def ClearsUnlisted : CheckpointStore → List Operation → Prop
  | _, [] => True
  | s, op :: ops => s.ClearsUnlisted op ∧
      ∀ ret s', s.step cfg op = .ok (ret, s') → ClearsUnlisted s' ops

variable {cfg}

theorem safeRun_of_clearsUnlisted {s : CheckpointStore} (h : s.Sound) {ops : List Operation}
    (hclears : ClearsUnlisted cfg s ops) : SafeRun cfg s ops := by
  induction ops generalizing s with
  | nil => exact h.listed
  | cons op ops ih =>
    obtain ⟨ret, s', hstep, hsound, hinserts⟩ := h.step cfg hclears.1
    exact ⟨h.listed, ret, s', hstep, hinserts, ih hsound (hclears.2 ret s' hstep)⟩

theorem SafeRun.listed {s : CheckpointStore} {ops : List Operation} (h : SafeRun cfg s ops) :
    s.Listed := by
  cases ops with
  | nil => exact h
  | cons op ops => exact h.1

/-- A `ClearMem` that finds times leaves them without their models. -/
theorem clearsUnlisted_of_safeRun {s : CheckpointStore} {ops : List Operation}
    (h : SafeRun cfg s ops) : ClearsUnlisted cfg s ops := by
  induction ops generalizing s with
  | nil => trivial
  | cons op ops ih =>
    obtain ⟨-, ret, s', hstep, -, hrest⟩ := h
    refine ⟨?_, fun ret' s'' hstep' => ?_⟩
    · cases op
      case clearMem =>
        change s.clearMem = _ at hstep
        rw [CheckpointStore.clearMem] at hstep
        obtain ⟨chunks, -, hresult⟩ := Runs.of_map_ok hstep
        obtain ⟨-, rfl⟩ := Prod.mk.inj hresult
        refine List.eq_nil_iff_forall_not_mem.mpr fun path hpath => ?_
        obtain ⟨m, hm⟩ := hrest.listed path hpath
        exact absurd hm (by simp)
      all_goals trivial
    · obtain ⟨-, rfl⟩ := Prod.mk.inj (Except.ok.inj (hstep.symm.trans hstep'))
      exact ih hrest

variable (cfg)

/-- The run, up to its last state. -/
def run (s : CheckpointStore) (ops : List Operation) : Except Fault CheckpointStore :=
  ops.foldlM (fun s op => (s.step cfg op).map Prod.snd) s

variable {cfg} in
theorem SafeRun.returns {s : CheckpointStore} {ops : List Operation} (h : SafeRun cfg s ops) :
    ∃ s', run cfg s ops = .ok s' := by
  induction ops generalizing s with
  | nil => exact ⟨s, rfl⟩
  | cons op ops ih =>
    obtain ⟨-, ret, s', hstep, -, hrest⟩ := h
    obtain ⟨last, hlast⟩ := ih hrest
    refine ⟨last, ?_⟩
    rw [run, List.foldlM_cons, hstep]
    exact hlast

/-- **The eviction list** of a run names registered models only, exactly when every `ClearMem`
finds it empty. -/
theorem safeRun_iff (freeChunks : ℕ) (ops : List Operation) :
    SafeRun cfg ⟨.empty, .empty, freeChunks⟩ ops ↔
      ClearsUnlisted cfg ⟨.empty, .empty, freeChunks⟩ ops := by
  have hempty : CheckpointStore.Sound ⟨.empty, .empty, freeChunks⟩ :=
    ⟨fun _ _ hentry => absurd hentry (by simp), fun _ hpath => absurd hpath (by simp)⟩
  exact ⟨clearsUnlisted_of_safeRun, safeRun_of_clearsUnlisted hempty⟩

end Runs

/-- Chunks of one byte. -/
def byteChunks : StoreConfig := ⟨1, 1, Nat.one_pos, Nat.one_pos⟩

/-- A model is loaded, everything is cleared, and a larger model is loaded. -/
def clearedAndShort : List Operation :=
  [.registerModelInfo "a" (some 1), .loadModelFromDisk "a" .stable 0 .done, .clearMem,
    .registerModelInfo "b" (some 2), .loadModelFromDisk "b" .stable 1 .done]

/-- In a pool of one chunk the second load looks for the cleared model, and finds a null pointer. -/
theorem not_safeRun_clearedAndShort :
    ¬ ∀ cfg freeChunks ops, SafeRun cfg ⟨.empty, .empty, freeChunks⟩ ops := by
  intro h
  have hfault : (run byteChunks ⟨.empty, .empty, 1⟩ clearedAndShort).map (fun _ => ()) =
      .error (.nullModel "a") := by
    decide +kernel
  obtain ⟨s', hrun⟩ := (h byteChunks 1 clearedAndShort).returns
  rw [hrun] at hfault
  exact absurd hfault (by simp [Except.map])

end Store
end SpotServe
