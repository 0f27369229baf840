import Mathlib.Data.Finset.SDiff
import Mathlib.Data.Finset.Basic
import Mathlib.Data.List.Sort
import Mathlib.Data.Rat.Defs
import Mathlib.Algebra.Order.Ring.Rat
import SpotServe.Library.OrderedDict
import SpotServe.Library.Runs

/-!
# The store manager's view of a node

`SllmLocalStore` (`sllm/store_manager.py`) keeps a ledger of the pinned memory that the checkpoint
store of a node has spent on models: a model is registered with the size of its files, waits in a
queue after `load_to_host`, and is loaded by `loading_loop`, which first evicts models until the
ledger has room.

The checkpoint store itself is behind `client`.  It knows a size for every path and holds the paths
that were loaded and not unloaded.  A call may fail: a registration then answers `-1`, a load
`False`.

* `evictLoop_spec`: the eviction loop evicts the shortest prefix that is enough, or everything it
  may.
* `Reachable` and `WellFormed`: what the steps keep.
-/

namespace SpotServe
namespace Store

open Py

/-- What a local store is made with. -/
structure LocalConfig where
  memPoolSize : ℕ
  chunkSize : ℕ
  diskBandwidth : ℚ
  chunkSize_pos : 0 < chunkSize

namespace LocalConfig

/-- `pinned_memory_pool_chunks` -/
def pinnedMemoryPoolChunks (cfg : LocalConfig) : ℕ := cfg.memPoolSize / cfg.chunkSize

/-- `(size + chunk_size - 1) // chunk_size` -/
def chunks (cfg : LocalConfig) (size : ℤ) : ℤ := (size + cfg.chunkSize - 1) / cfg.chunkSize

end LocalConfig

/-- An entry of `io_queue`. -/
structure QueuedLoad where
  modelName : String
  estimatedTime : ℚ

/-- `SllmLocalStore`, with what the checkpoint store behind `client` holds. -/
structure LocalStore where
  /-- The paths of a model and the size it was registered with. -/
  diskModels : OrderedDict String (List String × ℤ)
  queuedModels : OrderedDict String Bool
  pinnedMemoryPool : OrderedDict String ℚ
  pinnedMemoryPoolUsage : ℤ
  ioQueue : List QueuedLoad
  /-- The paths that the checkpoint store holds in memory. -/
  held : Finset String

namespace LocalStore

/-- A new store. -/
def init : LocalStore where
  diskModels := .empty
  queuedModels := .empty
  pinnedMemoryPool := .empty
  pinnedMemoryPoolUsage := 0
  ioQueue := []
  held := ∅

/-- `self.disk_models[model_name]`; the names it is asked for are registered. -/
def diskModel (s : LocalStore) (modelName : String) : List String × ℤ :=
  (s.diskModels.get? modelName).getD ([], 0)

/-! ## Registering and queueing -/

/-- `os.path.join(a, b)` -/
def joinPath (a b : String) : String :=
  if "/".toList <+: b.toList then b
  else if a = "" ∨ "/".toList <:+ a.toList then a ++ b
  else a ++ "/" ++ b

/-- The paths of a model, unless the backend is neither of the two. -/
def modelPathList (modelName backend : String) (tensorParallelSize : ℤ) : Option (List String) :=
  let modelPath := joinPath backend modelName
  if backend = "transformers" then some [modelPath]
  else if backend = "vllm" then
    some ((List.range tensorParallelSize.toNat).map fun rank =>
      joinPath modelPath ("rank_" ++ toString rank))
  else none

/-- `client.register_model`, which answers `-1` when the call fails. -/
def registerPath (fileSize : String → ℕ) (answered : String → Bool) (path : String) : ℤ :=
  if answered path then fileSize path else -1

/-- `register_model`.  For another backend than the two it raises at its end, since `model_size` was
never assigned; the store stays as it is. -/
def registerModel (fileSize : String → ℕ) (answered : String → Bool) (modelName backend : String)
    (tensorParallelSize : ℤ) (s : LocalStore) : LocalStore :=
  if modelName ∈ s.diskModels.keys then s
  else
    match modelPathList modelName backend tensorParallelSize with
    | none => s
    | some paths =>
      let modelSize := (paths.map (registerPath fileSize answered)).sum
      { s with diskModels := s.diskModels.set modelName (paths, modelSize) }

/-- `load_to_host`, at a time; `none` stands for the division by a bandwidth of zero. -/
def loadToHost (cfg : LocalConfig) (now : ℚ) (modelName : String) (s : LocalStore) :
    Option Bool × LocalStore :=
  if modelName ∉ s.diskModels.keys then (some false, s)
  else if modelName ∈ s.pinnedMemoryPool.keys then (some true, s)
  else if modelName ∈ s.queuedModels.keys then (some true, s)
  else if cfg.diskBandwidth = 0 then (none, s)
  else
    let startTime := match s.ioQueue.getLast? with
      | some last => max last.estimatedTime now
      | none => now
    let estimatedCompletionTime := startTime + (s.diskModel modelName).2 / cfg.diskBandwidth
    (some true, { s with
      ioQueue := s.ioQueue ++ [⟨modelName, estimatedCompletionTime⟩]
      queuedModels := s.queuedModels.set modelName true })

/-! ## Evicting -/

/-- The body of the eviction loop for a model that is not queued. -/
def evictModel (cfg : LocalConfig) (modelName : String) (s : LocalStore) : LocalStore :=
  { s with
    held := s.held \ (s.diskModel modelName).1.toFinset
    pinnedMemoryPool := s.pinnedMemoryPool.erase modelName
    pinnedMemoryPoolUsage := s.pinnedMemoryPoolUsage - cfg.chunks (s.diskModel modelName).2 }

/-- The pool has room for so many more chunks. -/
def HasRoom (cfg : LocalConfig) (requiredChunks : ℤ) (s : LocalStore) : Prop :=
  s.pinnedMemoryPoolUsage + requiredChunks ≤ cfg.pinnedMemoryPoolChunks

instance (cfg : LocalConfig) (requiredChunks : ℤ) (s : LocalStore) :
    Decidable (s.HasRoom cfg requiredChunks) :=
  inferInstanceAs (Decidable (_ ≤ _))

/-- The eviction loop. -/
def evictLoop (cfg : LocalConfig) (requiredChunks : ℤ) : List String → LocalStore → LocalStore
  | [], s => s
  | modelName :: rest, s =>
    if s.HasRoom cfg requiredChunks then s
    else if modelName ∈ s.queuedModels.keys then evictLoop cfg requiredChunks rest s
    else evictLoop cfg requiredChunks rest (s.evictModel cfg modelName)

/-- `sorted_models`, the names. -/
def sortedModels (s : LocalStore) : List String :=
  (s.pinnedMemoryPool.entries.insertionSort fun a b => a.2 ≤ b.2).map Prod.fst

/-- `_lru_eviction` -/
def lruEviction (cfg : LocalConfig) (modelSize : ℤ) (s : LocalStore) : Bool × LocalStore :=
  let requiredChunks := cfg.chunks modelSize
  let s' := evictLoop cfg requiredChunks s.sortedModels s
  (s'.HasRoom cfg requiredChunks, s')

/-! ## Loading -/

/-- `ret = ret and self.client.load_into_cpu(model_path)` over the paths: what came of it, and what
the checkpoint store then holds. -/
def loadPaths (loaded : String → Bool) : List String → Finset String → Bool × Finset String
  | [], held => (true, held)
  | path :: rest, held =>
    if loaded path then loadPaths loaded rest (insert path held) else (false, held)

/-- The head of the queue is done with. -/
def popLoad (modelName : String) (held : Finset String) (s : LocalStore) : LocalStore :=
  { s with
    held := held
    ioQueue := s.ioQueue.tail
    queuedModels := s.queuedModels.erase modelName }

/-- The model is in memory. -/
def noteLoaded (cfg : LocalConfig) (now : ℚ) (modelName : String) (s : LocalStore) : LocalStore :=
  { s with
    pinnedMemoryPool := s.pinnedMemoryPool.set modelName now
    pinnedMemoryPoolUsage := s.pinnedMemoryPoolUsage + cfg.chunks (s.diskModel modelName).2 }

/-- One turn of `loading_loop`. -/
def loadingTurn (cfg : LocalConfig) (now : ℚ) (loaded : String → Bool) (s : LocalStore) :
    LocalStore :=
  match s.ioQueue with
  | [] => s
  | modelInfo :: _ =>
    let modelName := modelInfo.modelName
    let model := s.diskModel modelName
    let eviction := s.lruEviction cfg model.2
    if eviction.1 = false then eviction.2
    else
      let load := loadPaths loaded model.1 eviction.2.held
      let popped := eviction.2.popLoad modelName load.2
      if load.1 = false then popped else popped.noteLoaded cfg now modelName

/-- What can happen to a store. -/
inductive Event where
  | registerModel (modelName backend : String) (tensorParallelSize : ℤ) (answered : String → Bool)
  | loadToHost (modelName : String)
  | loadingTurn (loaded : String → Bool)
  | lruEviction (modelSize : ℤ)

/-- The store after an event. -/
def after (cfg : LocalConfig) (fileSize : String → ℕ) (now : ℚ) (s : LocalStore) :
    Event → LocalStore
  | .registerModel modelName backend tensorParallelSize answered =>
    s.registerModel fileSize answered modelName backend tensorParallelSize
  | .loadToHost modelName => (s.loadToHost cfg now modelName).2
  | .loadingTurn loaded => s.loadingTurn cfg now loaded
  | .lruEviction modelSize => (s.lruEviction cfg modelSize).2

/-- A step of a run: any event, at any time. -/
def step (cfg : LocalConfig) (fileSize : String → ℕ) (s : LocalStore) (event : Event × ℚ) :
    Option LocalStore :=
  some (s.after cfg fileSize event.2 event.1)

/-! ## What is evicted -/

section Evict

variable (cfg : LocalConfig) (s : LocalStore)

/-- The chunks that the ledger has for some models. -/
def chunksOf (names : List String) : ℤ :=
  (names.map fun modelName => cfg.chunks (s.diskModel modelName).2).sum

/-- The store without some of its models. -/
def evictAll (names : List String) : LocalStore :=
  { s with
    held := s.held \ (names.flatMap fun modelName => (s.diskModel modelName).1).toFinset
    pinnedMemoryPool := s.pinnedMemoryPool.filter fun modelName _ => modelName ∉ names
    pinnedMemoryPoolUsage := s.pinnedMemoryPoolUsage - s.chunksOf cfg names }

/-- The models of a list that may be evicted. -/
def removable (names : List String) : List String :=
  names.filter fun modelName => modelName ∉ s.queuedModels.keys

@[simp] theorem chunksOf_nil : s.chunksOf cfg [] = 0 := rfl

@[simp] theorem chunksOf_cons (modelName : String) (names : List String) :
    s.chunksOf cfg (modelName :: names) =
      cfg.chunks (s.diskModel modelName).2 + s.chunksOf cfg names :=
  List.sum_cons

theorem evictAll_nil : s.evictAll cfg [] = s := by
  obtain ⟨disk, queued, ⟨entries, nodup⟩, usage, queue, held⟩ := s
  simp [evictAll, OrderedDict.filter, chunksOf]

theorem evictAll_cons (modelName : String) (names : List String) :
    (s.evictModel cfg modelName).evictAll cfg names = s.evictAll cfg (modelName :: names) := by
  have hpool : (s.pinnedMemoryPool.erase modelName).filter (fun name _ => name ∉ names) =
      s.pinnedMemoryPool.filter fun name _ => name ∉ modelName :: names := by
    simp only [OrderedDict.erase, OrderedDict.filter, List.filter_filter, OrderedDict.mk.injEq]
    refine List.filter_congr fun entry _ => ?_
    rw [Bool.and_comm]
    simp [not_or]
  have hheld : (s.held \ (s.diskModel modelName).1.toFinset) \
      (names.flatMap fun name => (s.diskModel name).1).toFinset =
        s.held \ ((modelName :: names).flatMap fun name => (s.diskModel name).1).toFinset := by
    ext path
    simp [not_or, and_assoc]
  have husage : s.pinnedMemoryPoolUsage - cfg.chunks (s.diskModel modelName).2 -
      s.chunksOf cfg names = s.pinnedMemoryPoolUsage - s.chunksOf cfg (modelName :: names) := by
    rw [chunksOf_cons]
    omega
  unfold evictAll
  rw [← hpool, ← hheld, ← husage]
  rfl

/-- `s'` is `s` without the first `k` models of a list, and no fewer would have been enough. -/
structure EvictsPrefix (requiredChunks : ℤ) (names : List String) (s' : LocalStore) (k : ℕ) :
    Prop where
  evicted : s' = s.evictAll cfg (names.take k)
  shortest : ∀ j < k, ¬ (s.evictAll cfg (names.take j)).HasRoom cfg requiredChunks
  ends : s'.HasRoom cfg requiredChunks ∨ names.length ≤ k

/-- **The eviction loop.** -/
theorem evictLoop_spec (requiredChunks : ℤ) (names : List String) :
    ∃ k, EvictsPrefix cfg s requiredChunks (s.removable names)
      (evictLoop cfg requiredChunks names s) k := by
  induction names generalizing s with
  | nil =>
    refine ⟨0, ?_, fun j hj => absurd hj (Nat.not_lt_zero j), Or.inr le_rfl⟩
    rw [List.take_zero, evictAll_nil]
    rfl
  | cons modelName rest ih =>
    by_cases hroom : s.HasRoom cfg requiredChunks
    · rw [evictLoop, if_pos hroom]
      refine ⟨0, ?_, fun j hj => absurd hj (Nat.not_lt_zero j), Or.inl hroom⟩
      rw [List.take_zero, evictAll_nil]
    · by_cases hqueued : modelName ∈ s.queuedModels.keys
      · rw [evictLoop, if_neg hroom, if_pos hqueued, removable,
          List.filter_cons_of_neg (by simpa using hqueued)]
        exact ih s
      · rw [evictLoop, if_neg hroom, if_neg hqueued, removable,
          List.filter_cons_of_pos (by simpa using hqueued)]
        obtain ⟨k, hevicted, hshortest, hends⟩ := ih (s.evictModel cfg modelName)
        refine ⟨k + 1, ?_, ?_, hends.imp_right Nat.succ_le_succ⟩
        · rw [hevicted, List.take_succ_cons, evictAll_cons]
          rfl
        · intro j hj
          cases j with
          | zero =>
            rw [List.take_zero, evictAll_nil]
            exact hroom
          | succ j =>
            rw [List.take_succ_cons, ← evictAll_cons]
            exact hshortest j (Nat.lt_of_succ_lt_succ hj)

end Evict

/-! ## What the steps keep -/

/-- What is queued or resident is registered, the queue and its table name the same models, and no
model is queued and resident. -/
structure WellFormed (s : LocalStore) : Prop where
  resident : ∀ modelName ∈ s.pinnedMemoryPool.keys, modelName ∈ s.diskModels.keys
  queue : s.ioQueue.map QueuedLoad.modelName = s.queuedModels.keys
  queued : ∀ modelName ∈ s.queuedModels.keys,
    modelName ∈ s.diskModels.keys ∧ modelName ∉ s.pinnedMemoryPool.keys

section Steps

variable {cfg : LocalConfig} {s : LocalStore}

theorem wellFormed_init : init.WellFormed where
  resident := by simp [init]
  queue := rfl
  queued := by simp [init]

theorem mem_keys_filter {d : OrderedDict String ℚ} {p : String → ℚ → Bool} {modelName : String}
    (h : modelName ∈ (d.filter p).keys) : modelName ∈ d.keys :=
  (List.filter_sublist.map Prod.fst).subset h

theorem WellFormed.evictAll (h : s.WellFormed) (names : List String) :
    (s.evictAll cfg names).WellFormed where
  resident := fun modelName hmem => h.resident modelName (mem_keys_filter hmem)
  queue := h.queue
  queued := fun modelName hmem =>
    ⟨(h.queued modelName hmem).1, fun hin => (h.queued modelName hmem).2 (mem_keys_filter hin)⟩

/-- What `_lru_eviction` does and what it answers. -/
theorem lruEviction_spec (cfg : LocalConfig) (modelSize : ℤ) (s : LocalStore) :
    ∃ k, EvictsPrefix cfg s (cfg.chunks modelSize) (s.removable s.sortedModels)
      (s.lruEviction cfg modelSize).2 k ∧
      ((s.lruEviction cfg modelSize).1 = true ↔
        (s.lruEviction cfg modelSize).2.HasRoom cfg (cfg.chunks modelSize)) := by
  obtain ⟨k, hprefix⟩ := evictLoop_spec cfg s (cfg.chunks modelSize) s.sortedModels
  exact ⟨k, hprefix, decide_eq_true_iff⟩

theorem loadPaths_fst {loaded : String → Bool} {paths : List String} {held : Finset String} :
    (loadPaths loaded paths held).1 = true ↔ ∀ path ∈ paths, loaded path = true := by
  induction paths generalizing held with
  | nil => exact iff_of_true rfl fun path hpath => absurd hpath List.not_mem_nil
  | cons path rest ih =>
    rw [loadPaths, List.forall_mem_cons]
    by_cases hloaded : loaded path = true
    · rw [if_pos hloaded, ih, and_iff_right hloaded]
    · rw [if_neg hloaded]
      exact iff_of_false Bool.false_ne_true fun h => hloaded h.1

/-- A load that goes through leaves all paths in memory. -/
theorem loadPaths_snd {loaded : String → Bool} {paths : List String} {held : Finset String}
    (h : ∀ path ∈ paths, loaded path = true) :
    (loadPaths loaded paths held).2 = held ∪ paths.toFinset := by
  induction paths generalizing held with
  | nil => simp [loadPaths]
  | cons path rest ih =>
    rw [loadPaths, if_pos (h path List.mem_cons_self),
      ih fun path' hpath' => h path' (List.mem_cons_of_mem path hpath')]
    ext path'
    simp only [Finset.mem_union, Finset.mem_insert, List.mem_toFinset, List.mem_cons]
    tauto

/-- How a turn of the loading loop ends. -/
inductive TurnEnd (cfg : LocalConfig) (now : ℚ) (loaded : String → Bool) (s : LocalStore) :
    LocalStore → Prop where
  | idle : s.ioQueue = [] → TurnEnd cfg now loaded s s
  | refused {modelInfo : QueuedLoad} {rest : List QueuedLoad} {evicted : LocalStore} :
    s.ioQueue = modelInfo :: rest →
    s.lruEviction cfg (s.diskModel modelInfo.modelName).2 = (false, evicted) →
    TurnEnd cfg now loaded s evicted
  | failed {modelInfo : QueuedLoad} {rest : List QueuedLoad} {evicted : LocalStore} :
    s.ioQueue = modelInfo :: rest →
    s.lruEviction cfg (s.diskModel modelInfo.modelName).2 = (true, evicted) →
    (¬ ∀ path ∈ (s.diskModel modelInfo.modelName).1, loaded path = true) →
    TurnEnd cfg now loaded s (evicted.popLoad modelInfo.modelName
      (loadPaths loaded (s.diskModel modelInfo.modelName).1 evicted.held).2)
  | loaded {modelInfo : QueuedLoad} {rest : List QueuedLoad} {evicted : LocalStore} :
    s.ioQueue = modelInfo :: rest →
    s.lruEviction cfg (s.diskModel modelInfo.modelName).2 = (true, evicted) →
    (∀ path ∈ (s.diskModel modelInfo.modelName).1, loaded path = true) →
    TurnEnd cfg now loaded s ((evicted.popLoad modelInfo.modelName
      (evicted.held ∪ (s.diskModel modelInfo.modelName).1.toFinset)).noteLoaded cfg now
        modelInfo.modelName)

theorem loadingTurn_ends (cfg : LocalConfig) (now : ℚ) (loaded : String → Bool) (s : LocalStore) :
    TurnEnd cfg now loaded s (s.loadingTurn cfg now loaded) := by
  unfold loadingTurn
  cases hqueue : s.ioQueue with
  | nil => exact .idle hqueue
  | cons modelInfo rest =>
    dsimp only
    cases heviction : s.lruEviction cfg (s.diskModel modelInfo.modelName).2 with
    | mk admitted evicted =>
      cases admitted with
      | false => exact .refused hqueue heviction
      | true =>
        dsimp only
        rw [if_neg (by decide)]
        by_cases hall : ∀ path ∈ (s.diskModel modelInfo.modelName).1, loaded path = true
        · rw [loadPaths_fst.mpr hall, loadPaths_snd hall, if_neg (by decide)]
          exact .loaded hqueue heviction hall
        · rw [if_pos (Bool.eq_false_iff.mpr fun h => hall (loadPaths_fst.mp h))]
          exact .failed hqueue heviction hall

/-- The head of the queue leaves it and its table. -/
theorem WellFormed.popLoad {modelInfo : QueuedLoad} {rest : List QueuedLoad} (h : s.WellFormed)
    (hqueue : s.ioQueue = modelInfo :: rest) (held : Finset String) :
    (s.popLoad modelInfo.modelName held).WellFormed := by
  have hkeys := h.queue
  rw [hqueue, List.map_cons] at hkeys
  have hnodup : s.queuedModels.keys.Nodup := s.queuedModels.nodup
  rw [← hkeys, List.nodup_cons] at hnodup
  refine ⟨h.resident, ?_, ?_⟩
  · show s.ioQueue.tail.map QueuedLoad.modelName = (s.queuedModels.erase modelInfo.modelName).keys
    rw [OrderedDict.keys_erase, ← hkeys, hqueue, List.tail_cons, List.filter_cons_of_neg (by simp),
      List.filter_eq_self.mpr]
    rintro modelName hmem
    rw [decide_eq_true_iff]
    rintro rfl
    exact hnodup.1 hmem
  · intro modelName hmem
    exact h.queued modelName (OrderedDict.mem_keys_erase.mp hmem).2

theorem WellFormed.noteLoaded {modelName : String} (h : s.WellFormed)
    (hdisk : modelName ∈ s.diskModels.keys) (hqueued : modelName ∉ s.queuedModels.keys)
    (now : ℚ) : (s.noteLoaded cfg now modelName).WellFormed where
  resident := by
    intro modelName' hmem
    rcases OrderedDict.mem_keys_set.mp hmem with rfl | hmem
    · exact hdisk
    · exact h.resident modelName' hmem
  queue := h.queue
  queued := by
    intro modelName' hmem
    refine ⟨(h.queued modelName' hmem).1, fun hin => ?_⟩
    rcases OrderedDict.mem_keys_set.mp hin with rfl | hin
    · exact hqueued hmem
    · exact (h.queued modelName' hmem).2 hin

theorem perm_sortedModels (s : LocalStore) : s.sortedModels.Perm s.pinnedMemoryPool.keys :=
  (List.perm_insertionSort _ _).map Prod.fst

/-- The eviction takes some of the resident models out of memory and leaves all else. -/
theorem exists_evictAll {modelSize : ℤ} {admitted : Bool} {evicted : LocalStore}
    (h : s.lruEviction cfg modelSize = (admitted, evicted)) :
    ∃ names, evicted = s.evictAll cfg names ∧ names.Nodup ∧ names ⊆ s.pinnedMemoryPool.keys := by
  obtain ⟨k, hprefix, -⟩ := lruEviction_spec cfg modelSize s
  rw [h] at hprefix
  have hsub : ((s.removable s.sortedModels).take k).Sublist s.sortedModels :=
    (List.take_sublist _ _).trans List.filter_sublist
  have hnodup : s.sortedModels.Nodup := s.perm_sortedModels.nodup_iff.mpr s.pinnedMemoryPool.nodup
  exact ⟨_, hprefix.evicted, hnodup.sublist hsub, fun modelName hmem =>
    s.perm_sortedModels.subset (hsub.subset hmem)⟩

theorem WellFormed.head_registered {modelInfo : QueuedLoad} {rest : List QueuedLoad}
    (h : s.WellFormed) (hqueue : s.ioQueue = modelInfo :: rest) :
    modelInfo.modelName ∈ s.diskModels.keys ∧ modelInfo.modelName ∉ s.pinnedMemoryPool.keys := by
  refine h.queued _ ?_
  rw [← h.queue, hqueue, List.map_cons]
  exact List.mem_cons_self

variable (cfg) in
theorem WellFormed.loadingTurn (h : s.WellFormed) (now : ℚ) (loaded : String → Bool) :
    (s.loadingTurn cfg now loaded).WellFormed := by
  have hend := loadingTurn_ends cfg now loaded s
  generalize s.loadingTurn cfg now loaded = s' at hend ⊢
  cases hend with
  | idle => exact h
  | refused _ heviction =>
    obtain ⟨names, rfl, -⟩ := exists_evictAll heviction
    exact h.evictAll names
  | failed hqueue heviction _ =>
    obtain ⟨names, rfl, -⟩ := exists_evictAll heviction
    exact (h.evictAll names).popLoad hqueue _
  | loaded hqueue heviction _ =>
    obtain ⟨names, rfl, -⟩ := exists_evictAll heviction
    exact ((h.evictAll names).popLoad hqueue _).noteLoaded (h.head_registered hqueue).1
      (OrderedDict.notMem_keys_erase _ _) now

theorem WellFormed.registerModel (h : s.WellFormed) (fileSize : String → ℕ)
    (answered : String → Bool) (modelName backend : String) (tensorParallelSize : ℤ) :
    (s.registerModel fileSize answered modelName backend tensorParallelSize).WellFormed := by
  unfold LocalStore.registerModel
  split_ifs with hknown
  · exact h
  · cases modelPathList modelName backend tensorParallelSize with
    | none => exact h
    | some paths =>
      refine ⟨fun name hname => ?_, h.queue, fun name hname => ⟨?_, (h.queued name hname).2⟩⟩
      · exact OrderedDict.mem_keys_set.mpr (Or.inr (h.resident name hname))
      · exact OrderedDict.mem_keys_set.mpr (Or.inr (h.queued name hname).1)

variable (cfg) in
theorem WellFormed.loadToHost (h : s.WellFormed) (now : ℚ) (modelName : String) :
    (s.loadToHost cfg now modelName).2.WellFormed := by
  unfold LocalStore.loadToHost
  by_cases hdisk : modelName ∈ s.diskModels.keys
  · rw [if_neg (not_not.mpr hdisk)]
    split_ifs with hresident hqueued hbandwidth
    · exact h
    · exact h
    · exact h
    · refine ⟨h.resident, ?_, ?_⟩
      · show (s.ioQueue ++ [_]).map QueuedLoad.modelName = (s.queuedModels.set modelName true).keys
        rw [List.map_append, OrderedDict.keys_set, if_neg hqueued, h.queue]
        rfl
      · intro name hname
        rcases OrderedDict.mem_keys_set.mp hname with rfl | hname
        · exact ⟨hdisk, hresident⟩
        · exact h.queued name hname
  · rw [if_pos hdisk]
    exact h

/-- **What every event keeps.** -/
theorem WellFormed.after (h : s.WellFormed) (fileSize : String → ℕ) (now : ℚ) (e : Event) :
    (s.after cfg fileSize now e).WellFormed := by
  cases e with
  | registerModel modelName backend tensorParallelSize answered =>
    exact h.registerModel fileSize answered modelName backend tensorParallelSize
  | loadToHost modelName => exact h.loadToHost cfg now modelName
  | loadingTurn loaded => exact h.loadingTurn cfg now loaded
  | lruEviction modelSize =>
    obtain ⟨names, hevicted, -⟩ := exists_evictAll (Prod.eta (s.lruEviction cfg modelSize)).symm
    show (s.lruEviction cfg modelSize).2.WellFormed
    rw [hevicted]
    exact h.evictAll names

end Steps

end LocalStore

end Store
end SpotServe
