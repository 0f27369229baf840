import SpotServe.Store.EvictionList

/-!
# What a load evicts

`LoadModelFromDisk` frees models until the memory suffices, and it learns whether it does only as
it goes.  So a load that fails for lack of memory has freed all it could, and one that goes on has
freed the shortest prefix of the models that can be freed, in the order of their last access, that
brings the missing chunks.

* `evict_spec`: the loop, by induction on the list of times.
* `loadModelFromDisk_evicts`: the load, up to the reading of the files.
* `Evicted.noteAndFetch`: the reading changes nothing about the other models.

The states here may have models that are loading: `TryFreeHost` refuses those.
-/

namespace SpotServe
namespace Store

open Py

namespace HostModel

/-- The chunks that `TryFreeHost` brings. -/
def freeable (m : HostModel) : ℕ :=
  if m.state = .uninitialized ∨ m.state = .unallocated ∨ m.state = .loading ∨ m.replicaLoading
  then 0 else m.pinnedMem.getD 0

/-- The model without its memory. -/
def unloaded (m : HostModel) : HostModel :=
  { m with pinnedMem := none, state := .unallocated }

/-- A model that is allocated has chunks, as many as an allocation can give. -/
def HasMemory (m : HostModel) : Prop :=
  m.state ≠ .uninitialized → m.state ≠ .unallocated →
    ∃ chunks, 0 < chunks ∧ chunks < 2 ^ 31 ∧ m.pinnedMem = some chunks

/-- A model that an allocation is made for. -/
def NeedsMemory (m : HostModel) : Prop :=
  m.state = .unallocated ∧ m.modelSize ≠ 0

/-- The chunks of the model can be counted: its size is rounded up in 64 bits, and their number is
an `int`. -/
def Countable (cfg : StoreConfig) (m : HostModel) : Prop :=
  m.modelSize + cfg.chunkSize ≤ 2 ^ 64 ∧ cfg.numChunks m.modelSize < 2 ^ 31

instance (cfg : StoreConfig) (m : HostModel) : Decidable (m.Countable cfg) :=
  inferInstanceAs (Decidable (_ ∧ _))

variable {m : HostModel}

/-- The count is then the right one. -/
theorem Countable.toSize_buffersNeeded {cfg : StoreConfig} (h : m.Countable cfg) :
    toSize (buffersNeeded cfg.chunkSize m.modelSize) = cfg.numChunks m.modelSize := by
  obtain ⟨hsum, hfits⟩ := h
  rw [buffersNeeded_of_le hsum, toSize_toInt, ← StoreConfig.numChunks,
    Nat.mod_eq_of_lt (by omega), if_pos hfits]

theorem Countable.allocateCount_of_lt {cfg : StoreConfig} (h : m.Countable cfg)
    (hsize : m.modelSize ≠ 0) {free : ℕ} (hfree : free < cfg.numChunks m.modelSize) :
    allocateCount cfg.chunkSize free m.modelSize =
      (((cfg.numChunks m.modelSize - free : ℕ) : ℤ), 0) := by
  have hfits := h.2
  unfold allocateCount
  rw [if_neg hsize, h.toSize_buffersNeeded]
  dsimp only
  rw [if_pos hfree, toInt_of_lt (by omega)]

theorem Countable.allocateCount_of_le {cfg : StoreConfig} (h : m.Countable cfg)
    (hsize : m.modelSize ≠ 0) {free : ℕ} (hfree : cfg.numChunks m.modelSize ≤ free) :
    allocateCount cfg.chunkSize free m.modelSize = (0, cfg.numChunks m.modelSize) := by
  unfold allocateCount
  rw [if_neg hsize, h.toSize_buffersNeeded]
  exact if_neg (not_lt.mpr hfree)

theorem freeable_of_unallocated (h : m.state = .unallocated) : m.freeable = 0 := by
  rw [freeable, if_pos (Or.inr (Or.inl h))]

/-- `TryFreeHost` refuses a model and leaves it alone, or takes all its chunks. -/
theorem HasMemory.tryFreeHost (h : m.HasMemory) :
    (m.freeable = 0 ∧ ∃ ret : ℤ, ret ≤ 0 ∧ m.tryFreeHost = .ok (ret, m, 0)) ∨
      (0 < m.freeable ∧ m.tryFreeHost = .ok ((m.freeable : ℤ), m.unloaded, m.freeable)) := by
  unfold HostModel.tryFreeHost freeable
  by_cases hunused : m.state = .uninitialized ∨ m.state = .unallocated
  · rw [if_pos hunused, if_pos (by tauto)]
    exact Or.inl ⟨rfl, 0, le_rfl, rfl⟩
  · by_cases hloading : m.state = .loading ∨ m.replicaLoading
    · rw [if_neg hunused, if_pos hloading, if_pos (by tauto)]
      exact Or.inl ⟨rfl, -1, by decide, rfl⟩
    · rw [if_neg hunused, if_neg hloading, if_neg (by tauto)]
      push Not at hunused
      obtain ⟨chunks, hpos, hfits, hchunks⟩ := h hunused.1 hunused.2
      rw [HostModel.reset, hchunks]
      refine Or.inr ⟨hpos, ?_⟩
      show Except.ok (toInt chunks, m.unloaded, chunks) = _
      rw [toInt_of_lt hfits]
      rfl

end HostModel

namespace CheckpointStore

variable (s : CheckpointStore)

/-- The chunks that the model of a path can give back. -/
def freeableAt (modelPath : String) : ℕ :=
  ((s.getModelPtr modelPath).map HostModel.freeable).getD 0

/-- The chunks that the models of some paths can give back. -/
def chunksOf (paths : List String) : ℕ :=
  (paths.map s.freeableAt).sum

/-- The models that can be freed, in the order in which the loop comes to them. -/
def candidates (list : List (String × ℕ)) : List String :=
  (list.map Prod.fst).filter fun modelPath => 0 < s.freeableAt modelPath

/-- Every path of the list of times is the path of a model, and its memory is there. -/
def Evictable : Prop :=
  ∀ modelPath ∈ s.modelLastAccessTime.keys, ∃ m, s.getModelPtr modelPath = some m ∧ m.HasMemory

/-- `s'` is `s` without the memory of these models. -/
structure Evicted (s s' : CheckpointStore) (paths : List String) : Prop where
  freed : ∀ path ∈ paths, ∃ m, s.getModelPtr path = some m ∧ s'.getModelPtr path = some m.unloaded
  kept : ∀ path, path ∉ paths → s'.getModelPtr path = s.getModelPtr path
  freeChunks : s'.freeChunks = s.freeChunks + s.chunksOf paths
  times : s'.modelLastAccessTime = s.modelLastAccessTime

@[simp] theorem chunksOf_nil : s.chunksOf [] = 0 := rfl

@[simp] theorem chunksOf_cons (modelPath : String) (paths : List String) :
    s.chunksOf (modelPath :: paths) = s.freeableAt modelPath + s.chunksOf paths :=
  List.sum_cons

/-- A part of the models has a part of the chunks. -/
theorem chunksOf_take_le (paths : List String) (k : ℕ) :
    s.chunksOf (paths.take k) ≤ s.chunksOf paths := by
  conv_rhs => rw [← List.take_append_drop k paths]
  rw [chunksOf, chunksOf, List.map_append, List.sum_append]
  exact Nat.le_add_right _ _

variable {s} {s' : CheckpointStore}

theorem getModelPtr_set (modelPath path : String) (m : HostModel) (freed : ℕ) :
    (s.setModel modelPath m freed).getModelPtr path =
      if modelPath = path then some m else s.getModelPtr path := by
  show ((s.modelMap.set modelPath (some m)).get? path).join = _
  rw [OrderedDict.get?_set]
  split_ifs
  · rfl
  · rfl

/-- Chunks and candidates depend on the models that are looked up. -/
theorem chunksOf_congr {paths : List String}
    (h : ∀ path ∈ paths, s'.getModelPtr path = s.getModelPtr path) :
    s'.chunksOf paths = s.chunksOf paths := by
  unfold chunksOf
  congr 1
  refine List.map_congr_left fun path hpath => ?_
  rw [freeableAt, freeableAt, h path hpath]

theorem candidates_congr {list : List (String × ℕ)}
    (h : ∀ item ∈ list, s'.freeableAt item.1 = s.freeableAt item.1) :
    s'.candidates list = s.candidates list := by
  unfold candidates
  refine List.filter_congr fun path hpath => ?_
  obtain ⟨item, hitem, rfl⟩ := List.mem_map.mp hpath
  rw [h item hitem]

/-! ## The loop -/

/-- The loop refuses a model and goes on. -/
theorem candidates_cons_of_zero {modelPath : String} {time : ℕ} {rest : List (String × ℕ)}
    (h : s.freeableAt modelPath = 0) :
    s.candidates ((modelPath, time) :: rest) = s.candidates rest := by
  unfold candidates
  rw [List.map_cons, List.filter_cons_of_neg (by simp [h])]

theorem candidates_cons_of_pos {modelPath : String} {time : ℕ} {rest : List (String × ℕ)}
    (h : 0 < s.freeableAt modelPath) :
    s.candidates ((modelPath, time) :: rest) = modelPath :: s.candidates rest := by
  unfold candidates
  rw [List.map_cons, List.filter_cons_of_pos (by simp [h])]

/-- How the loop ends: it has freed the shortest prefix of the candidates that is enough, or all of
them. -/
structure EvictsPrefix (s s' : CheckpointStore) (candidates : List String) (needed left : ℤ)
    (k : ℕ) : Prop where
  evicted : Evicted s s' (candidates.take k)
  remaining : left = needed - s.chunksOf (candidates.take k)
  shortest : ∀ j < k, (s.chunksOf (candidates.take j) : ℤ) < needed
  ends : left ≤ 0 ∨ candidates.length ≤ k

/-- The same for a store with the same models. -/
theorem EvictsPrefix.of_same {s₁ s₂ : CheckpointStore} {candidates : List String}
    {needed left : ℤ} {k : ℕ} (h : EvictsPrefix s₁ s₂ candidates needed left k)
    (hptr : ∀ path, s₁.getModelPtr path = s.getModelPtr path)
    (hfree : s₁.freeChunks = s.freeChunks)
    (htimes : s₁.modelLastAccessTime = s.modelLastAccessTime) :
    EvictsPrefix s s₂ candidates needed left k := by
  have hchunks : ∀ paths, s₁.chunksOf paths = s.chunksOf paths := fun paths =>
    chunksOf_congr fun path _ => hptr path
  obtain ⟨⟨hfreed, hkept, hfreeChunks, htimes'⟩, hleft, hshortest, hends⟩ := h
  simp only [hptr, hchunks, hfree, htimes] at *
  exact ⟨⟨hfreed, hkept, hfreeChunks, htimes'⟩, hleft, hshortest, hends⟩

/-- Nothing has been freed. -/
theorem EvictsPrefix.refl {candidates : List String} {needed : ℤ}
    (hends : needed ≤ 0 ∨ candidates.length ≤ 0) : EvictsPrefix s s candidates needed needed 0 where
  evicted := ⟨fun _ h => absurd h (by simp), fun _ _ => rfl, rfl, rfl⟩
  remaining := by simp
  shortest := fun j hj => absurd hj (Nat.not_lt_zero j)
  ends := hends

/-- One model is freed first. -/
theorem EvictsPrefix.cons {modelPath : String} {m : HostModel} {candidates : List String}
    {needed left : ℤ} {k : ℕ} (hneeded : 0 < needed) (hptr : s.getModelPtr modelPath = some m)
    (hnew : modelPath ∉ candidates)
    (h : EvictsPrefix (s.setModel modelPath m.unloaded m.freeable) s' candidates
      (needed - m.freeable) left k) :
    EvictsPrefix s s' (modelPath :: candidates) needed left (k + 1) := by
  have hfreeable : s.freeableAt modelPath = m.freeable := by
    rw [freeableAt, hptr]
    rfl
  have hother : ∀ path, path ≠ modelPath →
      (s.setModel modelPath m.unloaded m.freeable).getModelPtr path = s.getModelPtr path := by
    intro path hne
    rw [getModelPtr_set, if_neg hne.symm]
  have hmem : ∀ j, ∀ path ∈ candidates.take j, path ≠ modelPath := fun j path hpath heq =>
    hnew (heq ▸ List.mem_of_mem_take hpath)
  have hchunks : ∀ j, (s.setModel modelPath m.unloaded m.freeable).chunksOf (candidates.take j) =
      s.chunksOf (candidates.take j) := fun j =>
    chunksOf_congr fun path hpath => hother path (hmem j path hpath)
  have hremaining := h.remaining
  have hfree := h.evicted.freeChunks
  rw [hchunks] at hremaining hfree
  refine ⟨⟨?_, ?_, ?_, h.evicted.times⟩, ?_, ?_, ?_⟩
  · intro path hpath
    rw [List.take_succ_cons, List.mem_cons] at hpath
    rcases hpath with rfl | hpath
    · refine ⟨m, hptr, ?_⟩
      rw [h.evicted.kept path fun hin => hmem k path hin rfl, getModelPtr_set, if_pos rfl]
    · obtain ⟨m', hm', hgone⟩ := h.evicted.freed path hpath
      rw [hother path (hmem k path hpath)] at hm'
      exact ⟨m', hm', hgone⟩
  · intro path hpath
    rw [List.take_succ_cons, List.mem_cons, not_or] at hpath
    rw [h.evicted.kept path hpath.2, hother path hpath.1]
  · rw [hfree, List.take_succ_cons, chunksOf_cons, hfreeable]
    exact Nat.add_assoc _ _ _
  · rw [hremaining, List.take_succ_cons, chunksOf_cons, hfreeable]
    omega
  · intro j hj
    cases j with
    | zero => exact hneeded
    | succ j =>
      have hshort := h.shortest j (Nat.lt_of_succ_lt_succ hj)
      rw [hchunks] at hshort
      rw [List.take_succ_cons, chunksOf_cons, hfreeable]
      omega
  · exact h.ends.imp_right Nat.succ_le_succ

/-- **The eviction loop.** -/
theorem evict_spec {list : List (String × ℕ)} {needed : ℤ} (hneeded : 0 < needed)
    (hlist : ∀ item ∈ list, ∃ m, s.getModelPtr item.1 = some m ∧ m.HasMemory)
    (hnodup : (list.map Prod.fst).Nodup) :
    ∃ left s' k, evict list needed s = .ok (left, s') ∧
      EvictsPrefix s s' (s.candidates list) needed left k := by
  induction list generalizing s needed with
  | nil =>
    exact ⟨needed, s, 0, rfl, .refl (Or.inr le_rfl)⟩
  | cons item rest ih =>
    obtain ⟨modelPath, time⟩ := item
    obtain ⟨m, hptr, hmemory⟩ := hlist (modelPath, time) List.mem_cons_self
    obtain ⟨hnew, hnodup⟩ := List.nodup_cons.mp hnodup
    have hfreeable : s.freeableAt modelPath = m.freeable := by
      rw [freeableAt, hptr]
      rfl
    have hne : ∀ item ∈ rest, modelPath ≠ item.1 := by
      rintro item hitem rfl
      exact hnew (show item.1 ∈ rest.map Prod.fst from List.mem_map_of_mem hitem)
    -- the models that follow are looked up as before
    have hsame : ∀ (m' : HostModel) (freed : ℕ), ∀ item ∈ rest,
        (s.setModel modelPath m' freed).getModelPtr item.1 = s.getModelPtr item.1 := by
      intro m' freed item hitem
      rw [getModelPtr_set, if_neg (hne item hitem)]
    have hrest : ∀ (m' : HostModel) (freed : ℕ), ∀ item ∈ rest,
        ∃ m, (s.setModel modelPath m' freed).getModelPtr item.1 = some m ∧ m.HasMemory := by
      intro m' freed item hitem
      rw [hsame m' freed item hitem]
      exact hlist item (List.mem_cons_of_mem _ hitem)
    have hcandidates : ∀ (m' : HostModel) (freed : ℕ),
        (s.setModel modelPath m' freed).candidates rest = s.candidates rest := by
      intro m' freed
      refine candidates_congr fun item hitem => ?_
      rw [freeableAt, freeableAt, hsame m' freed item hitem]
    rw [evict]
    simp only [hptr]
    rcases hmemory.tryFreeHost with ⟨hzero, ret, hret, hfree⟩ | ⟨hpos, hfree⟩
    · -- refused: the table keeps its models
      have hall : ∀ path, (s.setModel modelPath m 0).getModelPtr path = s.getModelPtr path := by
        intro path
        rw [getModelPtr_set]
        split_ifs with heq
        · rw [← heq, hptr]
        · rfl
      obtain ⟨left, s', k, hevict, hprefix⟩ := ih hneeded (hrest m 0) hnodup
      rw [hcandidates] at hprefix
      rw [hfree]
      dsimp only
      rw [if_neg (by omega), if_neg (by omega), candidates_cons_of_zero (hfreeable.trans hzero)]
      exact ⟨left, s', k, hevict, hprefix.of_same hall (Nat.add_zero _) rfl⟩
    · have hout : modelPath ∉ s.candidates rest := fun hin => hnew (List.mem_of_mem_filter hin)
      rw [hfree, candidates_cons_of_pos (hfreeable.symm ▸ hpos)]
      dsimp only
      split_ifs with henough hleft
      · exact ⟨_, _, 1, rfl, .cons hneeded hptr hout (.refl (Or.inl henough.2))⟩
      · have hmore : 0 < needed - (m.freeable : ℤ) := by omega
        obtain ⟨left, s', k, hevict, hprefix⟩ := ih hmore (hrest m.unloaded m.freeable) hnodup
        rw [hcandidates] at hprefix
        exact ⟨left, s', k + 1, hevict, hprefix.cons hneeded hptr hout⟩
      · exact absurd (by exact_mod_cast hpos) hleft

/-! ## The order -/

/-- When a model was last asked for. -/
def lastAccess (s : CheckpointStore) (modelPath : String) : ℕ :=
  (s.modelLastAccessTime.get? modelPath).getD 0

theorem nodup_order (order : EvictionOrder) (s : CheckpointStore) :
    ((order.list s.modelLastAccessTime).map Prod.fst).Nodup :=
  ((order.perm s.modelLastAccessTime).map Prod.fst).nodup_iff.mpr s.modelLastAccessTime.nodup

/-- The models that can be freed, in the order of a load. -/
def victims (s : CheckpointStore) (order : EvictionOrder) : List String :=
  s.candidates (order.list s.modelLastAccessTime)

/-- The loop comes to them in the order of their last access. -/
theorem pairwise_victims (s : CheckpointStore) (order : EvictionOrder) :
    (s.victims order).Pairwise
      fun path path' => s.lastAccess path ≤ s.lastAccess path' := by
  refine List.Pairwise.filter _ (List.pairwise_map.mpr ?_)
  have htime : ∀ item ∈ order.list s.modelLastAccessTime, s.lastAccess item.1 = item.2 := by
    intro item hitem
    have hentry := (order.perm s.modelLastAccessTime).mem_iff.mp hitem
    rw [lastAccess, (OrderedDict.mem_entries_iff _).mp hentry, Option.getD_some]
  refine (order.sorted s.modelLastAccessTime).imp_of_mem fun {item item'} hitem hitem' hle => ?_
  rw [htime item hitem, htime item' hitem']
  exact hle

/-! ## The load -/

/-- The chunks that an allocation for the model does not find. -/
def missing (cfg : StoreConfig) (s : CheckpointStore) (m : HostModel) : ℕ :=
  cfg.numChunks m.modelSize - (s.freeChunks + m.pinnedMem.getD 0)

/-- `s'` is `s` without the memory of these models, the model at `modelPath` apart. -/
structure EvictedFor (modelPath : String) (s s' : CheckpointStore) (paths : List String) :
    Prop where
  freed : ∀ path ∈ paths, path ≠ modelPath ∧
    ∃ m, s.getModelPtr path = some m ∧ s'.getModelPtr path = some m.unloaded
  kept : ∀ path, path ∉ paths → path ≠ modelPath → s'.getModelPtr path = s.getModelPtr path

section Allocate

variable {cfg : StoreConfig} {modelPath : String} {m : HostModel}

theorem getModelPtr_allocate (path : String) : (s.allocate cfg modelPath m).2.getModelPtr path =
    if modelPath = path then some (m.allocatePinnedMemory cfg s.freeChunks).2.1
    else s.getModelPtr path :=
  getModelPtr_set modelPath path _ 0

theorem evictedFor_allocate : EvictedFor modelPath s (s.allocate cfg modelPath m).2 [] where
  freed := fun _ h => absurd h (by simp)
  kept := fun path _ hne => by rw [getModelPtr_allocate, if_neg hne.symm]

/-- An allocation that finds too little memory. -/
theorem allocatePinnedMemory_of_pos (h : m.NeedsMemory) (hcount : m.Countable cfg)
    (hmissing : 0 < missing cfg s m) :
    m.allocatePinnedMemory cfg s.freeChunks =
      ((missing cfg s m : ℤ), { m with pinnedMem := some 0 },
        s.freeChunks + m.pinnedMem.getD 0) := by
  unfold missing at *
  unfold HostModel.allocatePinnedMemory
  rw [if_neg (by rw [h.1]; decide), if_neg (not_not.mpr h.1)]
  dsimp only
  rw [hcount.allocateCount_of_lt h.2 (by omega)]
  exact if_pos (by omega)

/-- An allocation that finds enough. -/
theorem allocatePinnedMemory_of_le (h : m.NeedsMemory) (hcount : m.Countable cfg)
    (hfree : cfg.numChunks m.modelSize ≤ s.freeChunks + m.pinnedMem.getD 0) :
    (m.allocatePinnedMemory cfg s.freeChunks).1 = 0 ∧
      (m.allocatePinnedMemory cfg s.freeChunks).2.1 =
        { m with pinnedMem := some (cfg.numChunks m.modelSize), state := .allocated } := by
  unfold HostModel.allocatePinnedMemory
  have hpos : 0 < cfg.numChunks m.modelSize := by
    rw [cfg.lt_numChunks_iff, Nat.zero_mul]
    exact Nat.pos_of_ne_zero h.2
  rw [if_neg (by rw [h.1]; decide), if_neg (not_not.mpr h.1)]
  dsimp only
  rw [hcount.allocateCount_of_le h.2 hfree, if_neg (not_not.mpr rfl), if_neg hpos.ne']
  exact ⟨rfl, rfl⟩

/-- Without a need for memory nothing is missed. -/
theorem allocatePinnedMemory_of_not (h : ¬ m.NeedsMemory) :
    (m.allocatePinnedMemory cfg s.freeChunks).1 ≤ 0 := by
  unfold HostModel.allocatePinnedMemory
  by_cases hinit : m.state = .uninitialized
  · rw [if_pos hinit]
    exact Int.neg_nonpos_of_nonneg Int.one_nonneg
  · rw [if_neg hinit]
    by_cases hstate : m.state = .unallocated
    · have hsize : m.modelSize = 0 := by_contra fun hsize => h ⟨hstate, hsize⟩
      rw [if_neg (not_not.mpr hstate), hsize]
      exact Int.neg_nonpos_of_nonneg Int.one_nonneg
    · rw [if_pos hstate]

end Allocate

section Load

variable {cfg : StoreConfig} {modelPath : String} {m : HostModel}

/-- The reading of the files is about one model. -/
theorem getModelPtr_noteAndFetch {now : ℕ} {outcome : ReadOutcome} {ret : ℤ}
    (h : s.noteAndFetch modelPath now outcome = .ok (ret, s')) {path : String}
    (hne : path ≠ modelPath) : s'.getModelPtr path = s.getModelPtr path := by
  unfold noteAndFetch fetch at h
  dsimp only at h
  split at h
  · exact absurd h (by simp)
  · split_ifs at h
    · obtain ⟨-, rfl⟩ := Prod.mk.inj (Except.ok.inj h)
      rw [getModelPtr_set, if_neg hne.symm]
      rfl
    · rename_i m' hptr hret
      obtain ⟨freed, -, hresult⟩ := Runs.of_map_ok h
      obtain ⟨-, rfl⟩ := Prod.mk.inj hresult
      rw [getModelPtr_set, if_neg hne.symm, getModelPtr_set, if_neg hne.symm]
      rfl

theorem EvictedFor.noteAndFetch {paths : List String} (h : EvictedFor modelPath s s' paths)
    {now : ℕ} {outcome : ReadOutcome} {ret : ℤ} {s'' : CheckpointStore}
    (hfetch : s'.noteAndFetch modelPath now outcome = .ok (ret, s'')) :
    EvictedFor modelPath s s'' paths where
  freed := by
    intro path hpath
    obtain ⟨hne, m, hm, hgone⟩ := h.freed path hpath
    exact ⟨hne, m, hm, (getModelPtr_noteAndFetch hfetch hne).trans hgone⟩
  kept := by
    intro path hpath hne
    exact (getModelPtr_noteAndFetch hfetch hne).trans (h.kept path hpath hne)

/-- When the files are read, the model is loaded with the chunks that it was given. -/
theorem noteAndFetch_done {chunks : ℕ} (hptr : s.getModelPtr modelPath = some m)
    (hstate : m.state = .allocated) (hpos : 0 < chunks) (hchunks : m.pinnedMem = some chunks)
    (now : ℕ) : ∃ s', s.noteAndFetch modelPath now .done = .ok (0, s') ∧
      s'.getModelPtr modelPath = some { m with state := .loaded } := by
  have hread : m.toHost .done = (0, { m with state := .loaded }, 0) := by
    unfold HostModel.toHost
    rw [if_neg (by rw [hstate]; decide), if_neg (not_not.mpr hstate), hchunks, Option.getD_some]
    exact if_neg hpos.ne'
  have hptr' : ({ s with modelLastAccessTime := s.modelLastAccessTime.set modelPath now } :
      CheckpointStore).getModelPtr modelPath = some m := hptr
  unfold noteAndFetch fetch
  rw [hptr']
  dsimp only
  rw [hread]
  exact ⟨_, rfl, by rw [getModelPtr_set, if_pos rfl]⟩

/-- A load for which memory is missing, up to the end of the eviction loop. -/
theorem exists_evict (h : s.Evictable) (hptr : s.getModelPtr modelPath = some m)
    (hneeds : m.NeedsMemory) (hcount : m.Countable cfg) (hmissing : 0 < missing cfg s m)
    (order : EvictionOrder) :
    ∃ left s₂ k, evict (order.list s.modelLastAccessTime) (missing cfg s m)
        (s.allocate cfg modelPath m).2 = .ok (left, s₂) ∧
      EvictedFor modelPath s s₂ ((s.victims order).take k) ∧
      s₂.getModelPtr modelPath = some { m with pinnedMem := some 0 } ∧
      s₂.freeChunks = s.freeChunks + m.pinnedMem.getD 0 +
        s.chunksOf ((s.victims order).take k) ∧
      left = missing cfg s m - s.chunksOf ((s.victims order).take k) ∧
      (∀ j < k, s.chunksOf ((s.victims order).take j) < missing cfg s m) ∧
      (left ≤ 0 ∨ (s.victims order).length ≤ k) := by
  have halloc := allocatePinnedMemory_of_pos hneeds hcount hmissing
  set s₁ := (s.allocate cfg modelPath m).2 with hs₁
  have hptr₁ : ∀ path, s₁.getModelPtr path =
      if modelPath = path then some { m with pinnedMem := some 0 } else s.getModelPtr path := by
    intro path
    rw [hs₁, getModelPtr_allocate, halloc]
  have hfree₁ : s₁.freeChunks = s.freeChunks + m.pinnedMem.getD 0 := by
    show (m.allocatePinnedMemory cfg s.freeChunks).2.2 = _
    rw [halloc]
  -- the model itself has nothing to give, before and after
  have hfreeable : ∀ path, s₁.freeableAt path = s.freeableAt path := by
    intro path
    rw [freeableAt, freeableAt, hptr₁]
    split_ifs with heq
    · rw [← heq, hptr, Option.map_some, Option.map_some, HostModel.freeable_of_unallocated hneeds.1]
      exact congrArg (fun n => (some n).getD 0) (HostModel.freeable_of_unallocated hneeds.1)
    · rfl
  have hcandidates : ∀ list, s₁.candidates list = s.candidates list := fun list =>
    candidates_congr fun item _ => hfreeable item.1
  have hchunks : ∀ paths, s₁.chunksOf paths = s.chunksOf paths := fun paths => by
    rw [chunksOf, chunksOf, List.map_congr_left fun path _ => hfreeable path]
  have hout : ∀ k, modelPath ∉ (s.victims order).take k := by
    intro k hin
    have hpos := of_decide_eq_true (List.mem_filter.mp (List.mem_of_mem_take hin)).2
    rw [freeableAt, hptr, Option.map_some, HostModel.freeable_of_unallocated hneeds.1] at hpos
    exact absurd hpos (lt_irrefl 0)
  have hlist : ∀ item ∈ order.list s.modelLastAccessTime,
      ∃ m, s₁.getModelPtr item.1 = some m ∧ m.HasMemory := by
    intro item hitem
    rw [hptr₁]
    split_ifs
    · exact ⟨_, rfl, fun _ hstate => absurd hneeds.1 hstate⟩
    · have hentry := (order.perm s.modelLastAccessTime).mem_iff.mp hitem
      exact h item.1 (List.mem_map_of_mem hentry)
  obtain ⟨left, s₂, k, hevict, hprefix⟩ := evict_spec (s := s₁)
    (by exact_mod_cast hmissing : (0 : ℤ) < missing cfg s m) hlist (nodup_order order s)
  rw [hcandidates] at hprefix
  change EvictsPrefix s₁ s₂ (s.victims order) _ _ _ at hprefix
  obtain ⟨⟨hfreed, hkept, hfreeChunks, -⟩, hremaining, hshortest, hends⟩ := hprefix
  rw [hchunks] at hfreeChunks hremaining
  refine ⟨left, s₂, k, hevict, ⟨?_, ?_⟩, ?_, ?_, hremaining, ?_, hends⟩
  · intro path hpath
    have hne : path ≠ modelPath := fun heq => hout k (heq ▸ hpath)
    obtain ⟨m', hm', hgone⟩ := hfreed path hpath
    rw [hptr₁, if_neg hne.symm] at hm'
    exact ⟨hne, m', hm', hgone⟩
  · intro path hpath hne
    rw [hkept path hpath, hptr₁, if_neg hne.symm]
  · rw [hkept modelPath (hout k), hptr₁, if_pos rfl]
  · rw [hfreeChunks, hfree₁]
  · intro j hj
    have hshort := hshortest j hj
    rw [hchunks] at hshort
    exact_mod_cast hshort

/-- The load of a registered model. -/
theorem loadModelFromDisk_of_ptr (hptr : s.getModelPtr modelPath = some m) {order : EvictionOrder}
    {now : ℕ} {outcome : ReadOutcome} :
    s.loadModelFromDisk cfg modelPath order now outcome =
      if (s.allocate cfg modelPath m).1 < 0 then .ok (-1, (s.allocate cfg modelPath m).2)
      else if (s.allocate cfg modelPath m).1 = 0 then
        (s.allocate cfg modelPath m).2.noteAndFetch modelPath now outcome
      else
        match evict (order.list (s.allocate cfg modelPath m).2.modelLastAccessTime)
            (s.allocate cfg modelPath m).1 (s.allocate cfg modelPath m).2 with
        | .error fault => .error fault
        | .ok (needed, s) =>
          if 0 < needed then .ok (-1, s)
          else
            match s.getModelPtr modelPath with
            | none => .error (.nullModel modelPath)
            | some m =>
              if (s.allocate cfg modelPath m).1 < 0 then .ok (-1, (s.allocate cfg modelPath m).2)
              else (s.allocate cfg modelPath m).2.noteAndFetch modelPath now outcome := by
  unfold loadModelFromDisk
  split
  case h_1 hnone => exact absurd (hptr.symm.trans hnone) (by simp)
  case h_2 m' hm' =>
    obtain rfl := Option.some.inj (hptr.symm.trans hm')
    rfl

/-- The load of a model for which memory is missing. -/
theorem loadModelFromDisk_of_missing (hptr : s.getModelPtr modelPath = some m)
    (hneeds : m.NeedsMemory) (hcount : m.Countable cfg) (hmissing : 0 < missing cfg s m)
    {order : EvictionOrder} {now : ℕ} {outcome : ReadOutcome} :
    s.loadModelFromDisk cfg modelPath order now outcome =
      match evict (order.list s.modelLastAccessTime) (missing cfg s m)
          (s.allocate cfg modelPath m).2 with
      | .error fault => .error fault
      | .ok (needed, s) =>
        if 0 < needed then .ok (-1, s)
        else
          match s.getModelPtr modelPath with
          | none => .error (.nullModel modelPath)
          | some m =>
            if (s.allocate cfg modelPath m).1 < 0 then .ok (-1, (s.allocate cfg modelPath m).2)
            else (s.allocate cfg modelPath m).2.noteAndFetch modelPath now outcome := by
  have hret : (s.allocate cfg modelPath m).1 = missing cfg s m :=
    congrArg Prod.fst (allocatePinnedMemory_of_pos hneeds hcount hmissing)
  rw [loadModelFromDisk_of_ptr hptr, if_neg (by omega), if_neg (by omega), hret]
  rfl

/-- A load that goes on has freed the shortest prefix of the models that can be freed that is
enough, has its chunks when the reading starts, and keeps them when the files are read. -/
structure GoesOn (cfg : StoreConfig) (s : CheckpointStore) (modelPath : String) (m : HostModel)
    (order : EvictionOrder) (now : ℕ) (outcome : ReadOutcome) (k : ℕ) : Prop where
  shortest : ∀ j < k, s.chunksOf ((s.victims order).take j) < missing cfg s m
  enough : missing cfg s m ≤ s.chunksOf ((s.victims order).take k)
  evicted : ∀ ret s', s.loadModelFromDisk cfg modelPath order now outcome = .ok (ret, s') →
    EvictedFor modelPath s s' ((s.victims order).take k)
  holds : ∃ s₂ : CheckpointStore, s.loadModelFromDisk cfg modelPath order now outcome =
      s₂.noteAndFetch modelPath now outcome ∧
    s₂.getModelPtr modelPath =
      some { m with pinnedMem := some (cfg.numChunks m.modelSize), state := .allocated }
  done : outcome = .done →
    ∃ s', s.loadModelFromDisk cfg modelPath order now outcome = .ok (0, s') ∧
      s'.getModelPtr modelPath =
        some { m with pinnedMem := some (cfg.numChunks m.modelSize), state := .loaded }

/-- The load goes on from a store in which the model has its chunks. -/
theorem goesOn_of_eq {order : EvictionOrder} {now : ℕ} {outcome : ReadOutcome} {k : ℕ}
    {s₂ : CheckpointStore} (hneeds : m.NeedsMemory)
    (hshortest : ∀ j < k, s.chunksOf ((s.victims order).take j) < missing cfg s m)
    (henough : missing cfg s m ≤ s.chunksOf ((s.victims order).take k))
    (hevicted : EvictedFor modelPath s s₂ ((s.victims order).take k))
    (hptr : s₂.getModelPtr modelPath =
      some { m with pinnedMem := some (cfg.numChunks m.modelSize), state := .allocated })
    (hload : s.loadModelFromDisk cfg modelPath order now outcome =
      s₂.noteAndFetch modelPath now outcome) :
    GoesOn cfg s modelPath m order now outcome k where
  shortest := hshortest
  enough := henough
  evicted := fun ret s' h => hevicted.noteAndFetch (hload.symm.trans h)
  holds := ⟨s₂, hload, hptr⟩
  done := by
    rintro rfl
    have hpos : 0 < cfg.numChunks m.modelSize := by
      rw [cfg.lt_numChunks_iff, Nat.zero_mul]
      exact Nat.pos_of_ne_zero hneeds.2
    obtain ⟨s', hfetch, hptr'⟩ := noteAndFetch_done hptr rfl hpos rfl now
    exact ⟨s', hload.trans hfetch, hptr'⟩

/-- **What a load evicts.**  Nothing, when the model needs no memory; all that can be freed, when
that is not enough, and the load fails; else the shortest prefix, by last access, that is.  The last
two are for models whose chunks can be counted. -/
theorem loadModelFromDisk_evicts (h : s.Evictable) (hptr : s.getModelPtr modelPath = some m)
    (order : EvictionOrder) (now : ℕ) (outcome : ReadOutcome) :
    (s.victims order).Pairwise (fun path path' => s.lastAccess path ≤ s.lastAccess path') ∧
    (¬ m.NeedsMemory → ∀ ret s',
      s.loadModelFromDisk cfg modelPath order now outcome = .ok (ret, s') →
        EvictedFor modelPath s s' []) ∧
    (m.NeedsMemory → m.Countable cfg → s.chunksOf (s.victims order) < missing cfg s m →
      ∃ s', s.loadModelFromDisk cfg modelPath order now outcome = .ok (-1, s') ∧
        EvictedFor modelPath s s' (s.victims order)) ∧
    (m.NeedsMemory → m.Countable cfg → missing cfg s m ≤ s.chunksOf (s.victims order) →
      ∃ k, GoesOn cfg s modelPath m order now outcome k) := by
  have hallocated : EvictedFor modelPath s (s.allocate cfg modelPath m).2 [] := evictedFor_allocate
  refine ⟨s.pairwise_victims order, ?_, ?_, ?_⟩
  · intro hneeds ret s' hload
    have hret : (s.allocate cfg modelPath m).1 ≤ 0 := allocatePinnedMemory_of_not hneeds
    rw [loadModelFromDisk_of_ptr hptr] at hload
    split_ifs at hload with hnegative hzero
    · obtain ⟨-, rfl⟩ := Prod.mk.inj (Except.ok.inj hload)
      exact hallocated
    · exact hallocated.noteAndFetch hload
    · omega
  · intro hneeds hcount hshort
    obtain ⟨left, s₂, k, hevict, hgone, -, -, hleft, -, hends⟩ :=
      exists_evict h hptr hneeds hcount (Nat.zero_lt_of_lt hshort) order
    have hall : (s.victims order).take k = s.victims order := by
      refine List.take_of_length_le ?_
      rcases hends with hends | hends
      · have hle := s.chunksOf_take_le (s.victims order) k
        omega
      · exact hends
    rw [hall] at hgone hleft
    refine ⟨s₂, ?_, hgone⟩
    rw [loadModelFromDisk_of_missing hptr hneeds hcount (Nat.zero_lt_of_lt hshort), hevict]
    exact if_pos (by omega)
  · intro hneeds hcount henough
    rcases Nat.eq_zero_or_pos (missing cfg s m) with hzero | hmissing
    · -- nothing is missing, and nothing is freed
      have hfree : cfg.numChunks m.modelSize ≤ s.freeChunks + m.pinnedMem.getD 0 :=
        Nat.le_of_sub_eq_zero hzero
      obtain ⟨hret, hmodel⟩ := allocatePinnedMemory_of_le (s := s) hneeds hcount hfree
      refine ⟨0, goesOn_of_eq hneeds (fun j hj => absurd hj (Nat.not_lt_zero j)) ?_ hallocated
        ?_ ?_⟩
      · rw [hzero]
        exact Nat.zero_le _
      · rw [getModelPtr_allocate, if_pos rfl, hmodel]
      · have hret' : (s.allocate cfg modelPath m).1 = 0 := hret
        rw [loadModelFromDisk_of_ptr hptr, if_neg (by omega), if_pos hret']
    · obtain ⟨left, s₂, k, hevict, hgone, hptr₂, hfree, hleft, hshortest, hends⟩ :=
        exists_evict h hptr hneeds hcount hmissing order
      have hdone : left ≤ 0 := by
        rcases hends with hends | hends
        · exact hends
        · rw [List.take_of_length_le hends] at hleft
          omega
      have hneeds₂ : HostModel.NeedsMemory { m with pinnedMem := some 0 } := hneeds
      have hfits : cfg.numChunks m.modelSize ≤ s₂.freeChunks + 0 := by
        unfold missing at hleft
        omega
      obtain ⟨hret, hmodel⟩ := allocatePinnedMemory_of_le (s := s₂) hneeds₂ hcount hfits
      set s₃ := (s₂.allocate cfg modelPath { m with pinnedMem := some 0 }).2 with hs₃
      have hgone₃ : EvictedFor modelPath s s₃ ((s.victims order).take k) := by
        refine ⟨fun path hpath => ?_, fun path hpath hne => ?_⟩
        · obtain ⟨hne, m', hm', hgone'⟩ := hgone.freed path hpath
          exact ⟨hne, m', hm', (evictedFor_allocate.kept path (by simp) hne).trans hgone'⟩
        · exact (evictedFor_allocate.kept path (by simp) hne).trans (hgone.kept path hpath hne)
      have hptr₃ : s₃.getModelPtr modelPath =
          some { m with pinnedMem := some (cfg.numChunks m.modelSize), state := .allocated } := by
        rw [hs₃, getModelPtr_allocate, if_pos rfl, hmodel]
      have hload : s.loadModelFromDisk cfg modelPath order now outcome =
          s₃.noteAndFetch modelPath now outcome := by
        rw [loadModelFromDisk_of_missing hptr hneeds hcount hmissing, hevict]
        dsimp only
        rw [if_neg (by omega), hptr₂]
        have hret' : (s₂.allocate cfg modelPath { m with pinnedMem := some 0 }).1 = 0 := hret
        exact if_neg (by omega)
      exact ⟨k, goesOn_of_eq hneeds hshortest (by omega) hgone₃ hptr₃ hload⟩

end Load

/-- A loaded model of one chunk, and another one that needs two; no chunk is free. -/
def twoWanted : CheckpointStore where
  modelMap := ⟨[("a", some ⟨.loaded, 1, some 1, .empty⟩),
    ("b", some ⟨.unallocated, 2, none, .empty⟩)], by decide⟩
  modelLastAccessTime := ⟨[("a", 0)], by decide⟩
  freeChunks := 0

theorem evictable_twoWanted : twoWanted.Evictable := by
  intro path hpath
  obtain rfl : path = "a" := by simpa [twoWanted, OrderedDict.keys] using hpath
  exact ⟨⟨.loaded, 1, some 1, .empty⟩, rfl, fun _ _ => ⟨1, by decide, by decide, rfl⟩⟩

/-- Three loaded models of one chunk each, and one that needs two; no chunk is free. -/
def threeLoaded : CheckpointStore where
  modelMap := ⟨[("a", some ⟨.loaded, 1, some 1, .empty⟩), ("b", some ⟨.loaded, 1, some 1, .empty⟩),
    ("c", some ⟨.loaded, 1, some 1, .empty⟩), ("d", some ⟨.unallocated, 2, none, .empty⟩)],
    by decide⟩
  modelLastAccessTime := ⟨[("a", 2), ("b", 0), ("c", 1)], by decide⟩
  freeChunks := 0

theorem evictable_threeLoaded : threeLoaded.Evictable := by
  intro path hpath
  refine ⟨⟨.loaded, 1, some 1, .empty⟩, ?_, fun _ _ => ⟨1, by decide, by decide, rfl⟩⟩
  simp only [threeLoaded, OrderedDict.keys, List.map_cons, List.map_nil, List.mem_cons,
    List.not_mem_nil, or_false] at hpath
  rcases hpath with rfl | rfl | rfl <;> rfl

/-- All that can be freed is not enough for one load; the other needs the two models that were asked
for longest ago. -/
theorem loadModelFromDisk_evicts_twoWanted :
    (∃ s', twoWanted.loadModelFromDisk byteChunks "b" .stable 1 .done = .ok (-1, s') ∧
      EvictedFor "b" twoWanted s' ["a"]) ∧
    ∃ s', threeLoaded.loadModelFromDisk byteChunks "d" .stable 3 .done = .ok (0, s') ∧
      EvictedFor "d" threeLoaded s' ["b", "c"] := by
  have hcount : HostModel.Countable byteChunks ⟨.unallocated, 2, none, .empty⟩ := by decide
  constructor
  · have hall : twoWanted.victims .stable = ["a"] := by decide +kernel
    rw [← hall]
    exact (loadModelFromDisk_evicts evictable_twoWanted rfl .stable 1 .done).2.2.1 ⟨rfl, by decide⟩
      hcount (by decide +kernel)
  · have hall : threeLoaded.victims .stable = ["b", "c", "a"] := by decide +kernel
    obtain ⟨k, hgoes⟩ : ∃ k, GoesOn byteChunks threeLoaded "d" ⟨.unallocated, 2, none, .empty⟩
        .stable 3 .done k :=
      (loadModelFromDisk_evicts evictable_threeLoaded rfl .stable 3 .done).2.2.2 ⟨rfl, by decide⟩
        hcount (by decide +kernel)
    have henough := hgoes.enough
    obtain ⟨s', hload, -⟩ := hgoes.done rfl
    have hgone := hgoes.evicted 0 s' hload
    rw [hall] at henough hgone
    -- one of them is too few, and two are enough
    obtain rfl | rfl | rfl | hk : k = 0 ∨ k = 1 ∨ k = 2 ∨ 2 < k := by omega
    · exact absurd henough (by decide +kernel)
    · exact absurd henough (by decide +kernel)
    · exact ⟨s', hload, hgone⟩
    · have hshort := hgoes.shortest 2 hk
      rw [hall] at hshort
      exact absurd hshort (by decide +kernel)

/-- The load of the other model fails, and the loaded one is gone. -/
theorem not_allOrNothing_twoWanted :
    ¬ ∀ (cfg : StoreConfig) (s : CheckpointStore) (modelPath : String) (m : HostModel)
      (order : EvictionOrder) (now : ℕ) (s' : CheckpointStore), s.Evictable →
      s.getModelPtr modelPath = some m → m.NeedsMemory →
      s.loadModelFromDisk cfg modelPath order now .done = .ok (-1, s') →
        ∀ path, path ≠ modelPath → s'.getModelPtr path = s.getModelPtr path := by
  intro h
  have hload : (twoWanted.loadModelFromDisk byteChunks "b" .stable 1 .done).toOption.map
      (fun result => (result.1, (result.2.getModelPtr "a").map HostModel.pinnedMem)) =
        some (-1, some none) := by
    decide +kernel
  cases hresult : twoWanted.loadModelFromDisk byteChunks "b" .stable 1 .done with
  | error fault =>
    rw [hresult] at hload
    exact absurd hload (by simp [Except.toOption])
  | ok result =>
    obtain ⟨ret, s'⟩ := result
    rw [hresult] at hload
    obtain ⟨rfl, hgone⟩ := Prod.mk.inj (Option.some.inj hload)
    have hkept := h byteChunks twoWanted "b" _ .stable 1 s' evictable_twoWanted rfl
      ⟨rfl, by decide⟩ hresult "a" (by decide)
    rw [hkept] at hgone
    exact absurd hgone (by decide)

end CheckpointStore

end Store
end SpotServe
