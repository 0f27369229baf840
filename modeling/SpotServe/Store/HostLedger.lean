import Mathlib.Algebra.BigOperators.Group.Finset.Basic
import Mathlib.Algebra.Order.BigOperators.Group.Finset
import SpotServe.Store.LocalStore

/-!
# The ledger of pinned memory and the memory that is held

`pinned_memory_pool_usage` counts the chunks of a model from its registered size, the sum over its
paths.  The checkpoint store allocates path by path (`PinnedMemory::Allocate`), each in whole
chunks, and keeps the paths of a model that were loaded when the load of a later one fails.

* `heldChunks_le`: a ledger that covers every path covers all that is held.
* `Ledger.after`: every event that loads what the ledger counts (`LoadsWhole`) keeps it so.
* `usage_covers_held`: in a run of such events memory is never underestimated.
-/

namespace SpotServe
namespace Store

open Py LocalStore

namespace LocalStore

section Chunks

variable (cfg : LocalConfig) (fileSize : String → ℕ)

/-- The chunks that some paths take, each by itself. -/
def pathChunks (paths : List String) : ℤ :=
  (paths.map fun path => cfg.chunks (fileSize path)).sum

/-- The chunks that the checkpoint store holds. -/
def heldChunks (s : LocalStore) : ℤ := ∑ path ∈ s.held, cfg.chunks (fileSize path)

theorem chunks_nonneg (size : ℕ) : 0 ≤ cfg.chunks size := by
  refine Int.ediv_nonneg ?_ (Int.natCast_nonneg _)
  have := cfg.chunkSize_pos
  omega

theorem pathChunks_nonneg (paths : List String) : 0 ≤ pathChunks cfg fileSize paths := by
  refine List.sum_nonneg fun chunks hchunks => ?_
  obtain ⟨path, -, rfl⟩ := List.mem_map.mp hchunks
  exact chunks_nonneg cfg _

@[simp] theorem pathChunks_cons (path : String) (paths : List String) :
    pathChunks cfg fileSize (path :: paths) =
      cfg.chunks (fileSize path) + pathChunks cfg fileSize paths :=
  List.sum_cons

theorem pathChunks_append (paths paths' : List String) :
    pathChunks cfg fileSize (paths ++ paths') =
      pathChunks cfg fileSize paths + pathChunks cfg fileSize paths' := by
  rw [pathChunks, List.map_append, List.sum_append]
  rfl

/-- Paths that are held once take no more than paths that are listed. -/
theorem sum_toFinset_le (paths : List String) :
    ∑ path ∈ paths.toFinset, cfg.chunks (fileSize path) ≤ pathChunks cfg fileSize paths := by
  induction paths with
  | nil => exact le_rfl
  | cons path rest ih =>
    have hpath := chunks_nonneg cfg (fileSize path)
    rw [List.toFinset_cons, pathChunks_cons]
    by_cases hmem : path ∈ rest.toFinset
    · rw [Finset.insert_eq_of_mem hmem]
      omega
    · rw [Finset.sum_insert hmem]
      omega

end Chunks

/-- The ledger covers what is held, path by path. -/
structure Ledger (cfg : LocalConfig) (fileSize : String → ℕ) (s : LocalStore) : Prop where
  wellFormed : s.WellFormed
  owned : ∀ path ∈ s.held, ∃ modelName ∈ s.pinnedMemoryPool.keys,
    path ∈ (s.diskModel modelName).1
  whole : ∀ modelName ∈ s.pinnedMemoryPool.keys,
    pathChunks cfg fileSize (s.diskModel modelName).1 ≤ cfg.chunks (s.diskModel modelName).2
  usage : s.chunksOf cfg s.pinnedMemoryPool.keys ≤ s.pinnedMemoryPoolUsage
  fits : s.pinnedMemoryPoolUsage ≤ cfg.pinnedMemoryPoolChunks

/-- The model takes no more chunks path by path than its registered size does and all its paths are
loaded, or the load fails at the first of them. -/
def LoadsAsCounted (cfg : LocalConfig) (fileSize : String → ℕ) (loaded : String → Bool)
    (model : List String × ℤ) : Prop :=
  ((∀ path ∈ model.1, loaded path = true) ∧
      pathChunks cfg fileSize model.1 ≤ cfg.chunks model.2) ∨
    model.1.head?.map loaded = some false

instance (cfg : LocalConfig) (fileSize : String → ℕ) (loaded : String → Bool)
    (model : List String × ℤ) : Decidable (LoadsAsCounted cfg fileSize loaded model) :=
  inferInstanceAs (Decidable (_ ∨ _))

/-- The condition on an event: a load that there is room for goes as it is counted. -/
def LoadsWhole (cfg : LocalConfig) (fileSize : String → ℕ) (s : LocalStore)
    (event : Event × ℚ) : Prop :=
  match event.1 with
  | .loadingTurn loaded => ∀ modelInfo ∈ s.ioQueue.head?,
    (s.lruEviction cfg (s.diskModel modelInfo.modelName).2).1 = true →
      LoadsAsCounted cfg fileSize loaded (s.diskModel modelInfo.modelName)
  | _ => True

instance (cfg : LocalConfig) (fileSize : String → ℕ) (s : LocalStore) (event : Event × ℚ) :
    Decidable (s.LoadsWhole cfg fileSize event) :=
  match event with
  | (.registerModel _ _ _ _, _) => inferInstanceAs (Decidable True)
  | (.loadToHost _, _) => inferInstanceAs (Decidable True)
  | (.loadingTurn _, _) => inferInstanceAs (Decidable (∀ modelInfo ∈ s.ioQueue.head?, _))
  | (.lruEviction _, _) => inferInstanceAs (Decidable True)

/-- What the ledger should be. -/
structure UsageCoversHeld (cfg : LocalConfig) (fileSize : String → ℕ) (s : LocalStore) : Prop where
  covers : s.heldChunks cfg fileSize ≤ s.pinnedMemoryPoolUsage
  fits : s.heldChunks cfg fileSize ≤ cfg.pinnedMemoryPoolChunks

namespace Ledger

variable {cfg : LocalConfig} {fileSize : String → ℕ} {s : LocalStore}

/-- Path by path, the resident models take what the ledger has for them. -/
theorem pathChunks_flatMap_le {names : List String}
    (h : ∀ modelName ∈ names, pathChunks cfg fileSize (s.diskModel modelName).1 ≤
      cfg.chunks (s.diskModel modelName).2) :
    pathChunks cfg fileSize (names.flatMap fun modelName => (s.diskModel modelName).1) ≤
      s.chunksOf cfg names := by
  induction names with
  | nil => exact le_rfl
  | cons modelName rest ih =>
    rw [List.flatMap_cons, pathChunks_append, chunksOf_cons]
    exact add_le_add (h modelName List.mem_cons_self)
      (ih fun name hname => h name (List.mem_cons_of_mem _ hname))

/-- **A ledger that covers every path covers all that is held.** -/
theorem heldChunks_le (h : s.Ledger cfg fileSize) :
    s.heldChunks cfg fileSize ≤ s.pinnedMemoryPoolUsage := by
  set paths := s.pinnedMemoryPool.keys.flatMap fun modelName => (s.diskModel modelName).1
  have hsub : s.held ⊆ paths.toFinset := by
    intro path hpath
    obtain ⟨modelName, hresident, hin⟩ := h.owned path hpath
    exact List.mem_toFinset.mpr (List.mem_flatMap.mpr ⟨modelName, hresident, hin⟩)
  calc s.heldChunks cfg fileSize
      ≤ ∑ path ∈ paths.toFinset, cfg.chunks (fileSize path) :=
        Finset.sum_le_sum_of_subset_of_nonneg hsub fun path _ _ => chunks_nonneg cfg _
    _ ≤ pathChunks cfg fileSize paths := sum_toFinset_le cfg fileSize paths
    _ ≤ s.chunksOf cfg s.pinnedMemoryPool.keys := pathChunks_flatMap_le h.whole
    _ ≤ s.pinnedMemoryPoolUsage := h.usage

theorem init : Ledger cfg fileSize .init where
  wellFormed := wellFormed_init
  owned := fun path hpath => absurd hpath (Finset.notMem_empty path)
  whole := fun _ hmem => absurd hmem List.not_mem_nil
  usage := le_rfl
  fits := Int.natCast_nonneg _

variable (cfg s) in
/-- What the ledger has for some models, and for the others. -/
theorem chunksOf_filter_add {names keys : List String} (hkeys : keys.Nodup)
    (hnames : names.Nodup) (hsub : names ⊆ keys) :
    s.chunksOf cfg names + s.chunksOf cfg (keys.filter fun modelName => modelName ∉ names) =
      s.chunksOf cfg keys := by
  have hnodup : (names ++ keys.filter fun modelName => modelName ∉ names).Nodup := by
    refine List.nodup_append.mpr ⟨hnames, hkeys.filter _, ?_⟩
    rintro modelName hin other hout rfl
    simp [hin] at hout
  have hperm : (names ++ keys.filter fun modelName => modelName ∉ names).Perm keys := by
    rw [List.perm_ext_iff_of_nodup hnodup hkeys]
    intro modelName
    rw [List.mem_append, List.mem_filter, decide_eq_true_iff]
    constructor
    · rintro (hin | hout)
      · exact hsub hin
      · exact hout.1
    · intro hin
      by_cases hname : modelName ∈ names
      · exact Or.inl hname
      · exact Or.inr ⟨hin, hname⟩
  rw [chunksOf, chunksOf, ← List.sum_append, ← List.map_append]
  exact (hperm.map _).sum_eq

/-- The ledger has chunks for the models it is whole for. -/
theorem chunksOf_nonneg (h : s.Ledger cfg fileSize) {names : List String}
    (hsub : names ⊆ s.pinnedMemoryPool.keys) : 0 ≤ s.chunksOf cfg names := by
  refine List.sum_nonneg fun chunks hchunks => ?_
  obtain ⟨modelName, hmem, rfl⟩ := List.mem_map.mp hchunks
  exact (pathChunks_nonneg cfg fileSize _).trans (h.whole modelName (hsub hmem))

/-- Evicting gives back what the ledger has, or less. -/
theorem evictAll (h : s.Ledger cfg fileSize) {names : List String} (hnames : names.Nodup)
    (hsub : names ⊆ s.pinnedMemoryPool.keys) : (s.evictAll cfg names).Ledger cfg fileSize where
  wellFormed := h.wellFormed.evictAll names
  owned := by
    intro path hpath
    obtain ⟨hheld, hkept⟩ := Finset.mem_sdiff.mp hpath
    obtain ⟨modelName, hresident, hin⟩ := h.owned path hheld
    refine ⟨modelName, ?_, hin⟩
    show modelName ∈ (s.pinnedMemoryPool.filter fun name _ => name ∉ names).keys
    rw [OrderedDict.keys_filter, List.mem_filter, decide_eq_true_iff]
    refine ⟨hresident, fun hname => hkept ?_⟩
    exact List.mem_toFinset.mpr (List.mem_flatMap.mpr ⟨modelName, hname, hin⟩)
  whole := fun modelName hmem => h.whole modelName (mem_keys_filter hmem)
  usage := by
    have hsum := chunksOf_filter_add cfg s s.pinnedMemoryPool.nodup hnames hsub
    have husage := h.usage
    show s.chunksOf cfg (s.pinnedMemoryPool.filter fun name _ => name ∉ names).keys ≤
      s.pinnedMemoryPoolUsage - s.chunksOf cfg names
    rw [OrderedDict.keys_filter]
    have hkeys : s.pinnedMemoryPool.keys = s.pinnedMemoryPool.entries.map Prod.fst := rfl
    rw [← hkeys] at hsum
    omega
  fits := by
    have hchunks := h.chunksOf_nonneg hsub
    have hfits := h.fits
    show s.pinnedMemoryPoolUsage - s.chunksOf cfg names ≤ cfg.pinnedMemoryPoolChunks
    omega

/-- A load that leaves nothing behind. -/
theorem popLoad (h : s.Ledger cfg fileSize) {modelInfo : QueuedLoad} {rest : List QueuedLoad}
    (hqueue : s.ioQueue = modelInfo :: rest) :
    (s.popLoad modelInfo.modelName s.held).Ledger cfg fileSize where
  wellFormed := h.wellFormed.popLoad hqueue _
  owned := h.owned
  whole := h.whole
  usage := h.usage
  fits := h.fits

/-- A load that goes through. -/
theorem noteLoaded (h : s.Ledger cfg fileSize) {modelInfo : QueuedLoad} {rest : List QueuedLoad}
    (hqueue : s.ioQueue = modelInfo :: rest) (now : ℚ)
    (hwhole : pathChunks cfg fileSize (s.diskModel modelInfo.modelName).1 ≤
      cfg.chunks (s.diskModel modelInfo.modelName).2)
    (hroom : s.HasRoom cfg (cfg.chunks (s.diskModel modelInfo.modelName).2)) :
    Ledger cfg fileSize ((s.popLoad modelInfo.modelName
      (s.held ∪ (s.diskModel modelInfo.modelName).1.toFinset)).noteLoaded cfg now
        modelInfo.modelName) where
  wellFormed := (h.wellFormed.popLoad hqueue _).noteLoaded (h.wellFormed.head_registered hqueue).1
    (OrderedDict.notMem_keys_erase _ _) now
  owned := by
    intro path hpath
    rcases Finset.mem_union.mp hpath with hheld | hloaded
    · obtain ⟨modelName, hresident, hin⟩ := h.owned path hheld
      exact ⟨modelName, OrderedDict.mem_keys_set.mpr (Or.inr hresident), hin⟩
    · exact ⟨modelInfo.modelName, OrderedDict.mem_keys_set.mpr (Or.inl rfl),
        List.mem_toFinset.mp hloaded⟩
  whole := by
    intro modelName hmem
    rcases OrderedDict.mem_keys_set.mp hmem with rfl | hmem
    · exact hwhole
    · exact h.whole modelName hmem
  usage := by
    have husage := h.usage
    show s.chunksOf cfg (s.pinnedMemoryPool.set modelInfo.modelName now).keys ≤
      s.pinnedMemoryPoolUsage + cfg.chunks (s.diskModel modelInfo.modelName).2
    rw [OrderedDict.keys_set, if_neg (h.wellFormed.head_registered hqueue).2, chunksOf,
      List.map_append, List.sum_append]
    exact add_le_add husage (le_of_eq (List.sum_singleton))
  fits := hroom

/-- The condition on a turn, for the model at the head of the queue. -/
theorem of_loadsWhole {modelInfo : QueuedLoad} {rest : List QueuedLoad} {evicted : LocalStore}
    {now : ℚ} {loaded : String → Bool}
    (h : s.LoadsWhole cfg fileSize (.loadingTurn loaded, now))
    (hqueue : s.ioQueue = modelInfo :: rest)
    (heviction : s.lruEviction cfg (s.diskModel modelInfo.modelName).2 = (true, evicted)) :
    LoadsAsCounted cfg fileSize loaded (s.diskModel modelInfo.modelName) := by
  refine h modelInfo ?_ (congrArg Prod.fst heviction)
  rw [hqueue]
  rfl

/-- A load that fails at the first path leaves nothing behind. -/
theorem loadPaths_of_head {loaded : String → Bool} {paths : List String} {held : Finset String}
    (h : paths.head?.map loaded = some false) : loadPaths loaded paths held = (false, held) := by
  cases paths with
  | nil => exact absurd h (by simp)
  | cons path rest =>
    rw [List.head?_cons, Option.map_some] at h
    rw [loadPaths, if_neg (Bool.eq_false_iff.mp (Option.some.inj h))]

/-- A turn of the loading loop. -/
theorem loadingTurn (h : s.Ledger cfg fileSize) {now : ℚ} {loaded : String → Bool}
    (hwhole : s.LoadsWhole cfg fileSize (.loadingTurn loaded, now)) :
    (s.loadingTurn cfg now loaded).Ledger cfg fileSize := by
  have hend := loadingTurn_ends cfg now loaded s
  generalize s.loadingTurn cfg now loaded = s' at hend ⊢
  cases hend with
  | idle => exact h
  | refused _ heviction =>
    obtain ⟨names, rfl, hnodup, hsub⟩ := exists_evictAll heviction
    exact h.evictAll hnodup hsub
  | failed hqueue heviction hfails =>
    have hhead := (of_loadsWhole hwhole hqueue heviction).resolve_left fun hall =>
      hfails hall.1
    obtain ⟨names, rfl, hnodup, hsub⟩ := exists_evictAll heviction
    rw [loadPaths_of_head hhead]
    exact (h.evictAll hnodup hsub).popLoad hqueue
  | loaded hqueue heviction hloaded =>
    rename_i modelInfo rest evicted
    have hroom : evicted.HasRoom cfg (cfg.chunks (s.diskModel modelInfo.modelName).2) := by
      obtain ⟨-, -, hanswer⟩ := lruEviction_spec cfg (s.diskModel modelInfo.modelName).2 s
      rw [heviction] at hanswer
      exact hanswer.mp rfl
    have hchunks : pathChunks cfg fileSize (s.diskModel modelInfo.modelName).1 ≤
        cfg.chunks (s.diskModel modelInfo.modelName).2 := by
      rcases of_loadsWhole hwhole hqueue heviction with hall | hhead
      · exact hall.2
      · have hfails := congrArg Prod.fst (loadPaths_of_head hhead : loadPaths loaded _ ∅ = _)
        exact absurd (loadPaths_fst.mpr hloaded) (Bool.eq_false_iff.mp hfails)
    obtain ⟨names, rfl, hnodup, hsub⟩ := exists_evictAll heviction
    exact (h.evictAll hnodup hsub).noteLoaded hqueue now hchunks hroom

/-- A registration changes nothing about the models that are registered. -/
theorem registerModel (h : s.Ledger cfg fileSize) (answered : String → Bool)
    (modelName backend : String) (tensorParallelSize : ℤ) :
    (s.registerModel fileSize answered modelName backend tensorParallelSize).Ledger cfg
      fileSize := by
  have hwellFormed :=
    h.wellFormed.registerModel fileSize answered modelName backend tensorParallelSize
  unfold LocalStore.registerModel at hwellFormed ⊢
  by_cases hknown : modelName ∈ s.diskModels.keys
  · rw [if_pos hknown]
    exact h
  · rw [if_neg hknown] at hwellFormed ⊢
    cases hpaths : modelPathList modelName backend tensorParallelSize with
    | none => exact h
    | some paths =>
      rw [hpaths] at hwellFormed
      -- the resident models are others
      have hsame : ∀ name ∈ s.pinnedMemoryPool.keys, ∀ model,
          ((s.diskModels.set modelName model).get? name).getD ([], 0) = s.diskModel name := by
        intro name hname model
        rw [OrderedDict.get?_set_of_ne]
        · rfl
        · rintro rfl
          exact hknown (h.wellFormed.resident _ hname)
      refine ⟨hwellFormed, ?_, ?_, ?_, h.fits⟩
      · intro path hpath
        obtain ⟨name, hresident, hin⟩ := h.owned path hpath
        refine ⟨name, hresident, ?_⟩
        show path ∈ (((s.diskModels.set modelName _).get? name).getD ([], 0)).1
        rw [hsame name hresident]
        exact hin
      · intro name hname
        show pathChunks cfg fileSize
          (((s.diskModels.set modelName _).get? name).getD ([], 0)).1 ≤
            cfg.chunks (((s.diskModels.set modelName _).get? name).getD ([], 0)).2
        rw [hsame name hname]
        exact h.whole name hname
      · refine le_trans (le_of_eq ?_) h.usage
        unfold chunksOf
        congr 1
        refine List.map_congr_left fun name hname => ?_
        show cfg.chunks (((s.diskModels.set modelName _).get? name).getD ([], 0)).2 = _
        rw [hsame name hname]

theorem loadToHost (h : s.Ledger cfg fileSize) (now : ℚ) (modelName : String) :
    (s.loadToHost cfg now modelName).2.Ledger cfg fileSize := by
  have hwellFormed := h.wellFormed.loadToHost cfg now modelName
  unfold LocalStore.loadToHost at hwellFormed ⊢
  split_ifs at hwellFormed ⊢
  all_goals exact ⟨hwellFormed, h.owned, h.whole, h.usage, h.fits⟩

/-- **One event.** -/
theorem after (h : s.Ledger cfg fileSize) {event : Event × ℚ}
    (hwhole : s.LoadsWhole cfg fileSize event) :
    (s.after cfg fileSize event.2 event.1).Ledger cfg fileSize := by
  obtain ⟨e, now⟩ := event
  cases e with
  | registerModel modelName backend tensorParallelSize answered =>
    exact h.registerModel answered modelName backend tensorParallelSize
  | loadToHost modelName => exact h.loadToHost now modelName
  | loadingTurn loaded => exact h.loadingTurn hwhole
  | lruEviction modelSize =>
    obtain ⟨names, hevicted, hnodup, hsub⟩ :=
      exists_evictAll (Prod.eta (s.lruEviction cfg modelSize)).symm
    show (s.lruEviction cfg modelSize).2.Ledger cfg fileSize
    rw [hevicted]
    exact h.evictAll hnodup hsub

end Ledger

/-- **Runs in which memory is never underestimated.** -/
theorem usage_covers_held {cfg : LocalConfig} {fileSize : String → ℕ} {s : LocalStore}
    (hrun : Runs.Reachable (· = init)
      (fun s event s' => step cfg fileSize s event = some s') (LoadsWhole cfg fileSize) s) :
    s.UsageCoversHeld cfg fileSize := by
  have h : s.Ledger cfg fileSize := by
    refine hrun.invariant (Ledger cfg fileSize) ?_ ?_
    · rintro s rfl
      exact .init
    · intro s event s' h hwhole hstep
      obtain rfl := Option.some.inj hstep
      exact h.after hwhole
  exact ⟨h.heldChunks_le, h.heldChunks_le.trans h.fits⟩

/-- A store with so much memory, in chunks of two bytes. -/
def twoBytePool (memPoolSize : ℕ) : LocalConfig where
  memPoolSize := memPoolSize
  chunkSize := 2
  diskBandwidth := 1
  chunkSize_pos := Nat.two_pos

/-- A vLLM model is registered with two paths, queued and loaded. -/
def loadsTwoPaths (loaded : String → Bool) : List (Event × ℚ) :=
  [(.registerModel "a" "vllm" 2 fun _ => true, 0), (.loadToHost "a", 0), (.loadingTurn loaded, 0)]

/-- What can be seen of the ledger. -/
def ledgerOf (cfg : LocalConfig) (fileSize : String → ℕ) (s : LocalStore) : ℤ × ℤ :=
  (s.heldChunks cfg fileSize, s.pinnedMemoryPoolUsage)

/-- Every file has one byte. -/
def fileOfOneByte (_ : String) : ℕ := 1

/-- A call that fails for the second path. -/
def failsAtSecond (path : String) : Bool := path ≠ "vllm/a/rank_1"

/-- Two files of a byte take two chunks, and the ledger has one for them; and a path stays in memory
when the load of the next one fails, which the ledger does not know of. -/
theorem held_beyond_ledger :
    (∃ s, Runs.Reachable (· = init)
        (fun s event s' => step (twoBytePool 2) fileOfOneByte s event = some s')
        (fun _ _ => True) s ∧ ¬ s.UsageCoversHeld (twoBytePool 2) fileOfOneByte) ∧
    ∃ s, Runs.Reachable (· = init)
        (fun s event s' => step (twoBytePool 8) fileOfOneByte s event = some s')
        (fun _ _ => True) s ∧ ¬ s.UsageCoversHeld (twoBytePool 8) fileOfOneByte := by
  have hrounded : (Runs.attempt (step (twoBytePool 2) fileOfOneByte)
      (fun _ _ => True) (loadsTwoPaths fun _ => true) init).map
        (ledgerOf (twoBytePool 2) fileOfOneByte) = some (2, 1) := by decide
  have hpartial : (Runs.attempt (step (twoBytePool 8) fileOfOneByte)
      (fun _ _ => True) (loadsTwoPaths failsAtSecond) init).map
        (ledgerOf (twoBytePool 8) fileOfOneByte) = some (1, 0) := by decide
  constructor
  · obtain ⟨s, hrun, hledger⟩ := Option.map_eq_some_iff.mp hrounded
    obtain ⟨hheld, husage⟩ := Prod.mk.inj hledger
    refine ⟨s, .attempt (.start rfl) hrun, fun h => ?_⟩
    have hcovers := h.covers
    omega
  · obtain ⟨s, hrun, hledger⟩ := Option.map_eq_some_iff.mp hpartial
    obtain ⟨hheld, husage⟩ := Prod.mk.inj hledger
    refine ⟨s, .attempt (.start rfl) hrun, fun h => ?_⟩
    have hcovers := h.covers
    omega

/-- The files are whole chunks, two of them for the first rank of `a`. -/
def wholeChunks (path : String) : ℕ := if path = "vllm/a/rank_0" then 4 else 2

/-- A model of two ranks is loaded, and the load of another one fails at its first path. -/
def loadsTwoRanks : List (Event × ℚ) :=
  loadsTwoPaths (fun _ => true) ++
    [(.registerModel "b" "vllm" 2 fun _ => true, 1), (.loadToHost "b", 1),
      (.loadingTurn fun path => path ≠ "vllm/b/rank_0", 2)]

theorem usage_covers_held_loadsTwoRanks :
    ∃ s : LocalStore, s.heldChunks (twoBytePool 10) wholeChunks = 3 ∧
      s.pinnedMemoryPoolUsage = 3 ∧ s.UsageCoversHeld (twoBytePool 10) wholeChunks := by
  have hloads : (Runs.attempt (step (twoBytePool 10) wholeChunks)
      (LoadsWhole (twoBytePool 10) wholeChunks) loadsTwoRanks init).map
        (ledgerOf (twoBytePool 10) wholeChunks) = some (3, 3) := by decide
  obtain ⟨s, hrun, hledger⟩ := Option.map_eq_some_iff.mp hloads
  obtain ⟨hheld, husage⟩ := Prod.mk.inj hledger
  exact ⟨s, hheld, husage, usage_covers_held (.attempt (.start rfl) hrun)⟩

end LocalStore

end Store
end SpotServe
