import SpotServe.Store.LocalStore

/-!
# Which models make way for a load

`_lru_eviction` is to evict the least recently used models, and none when that would not help.  It
goes by the times in `pinned_memory_pool`, which are noted when a model is loaded and never again,
and it evicts as it goes, before it knows whether the room will suffice.

A `LocalRun` keeps the order of the last uses beside the store: a model is used when its load is
complete and whenever it is asked for while it is resident.

* `Recorded.step`: as long as no model is asked for again but the one loaded last, the pool is in
  the order of the last uses.
* `lruEviction_fst_iff`: when the eviction succeeds.
* `evictsByLastUse_iff`: when it does what it should.
-/

namespace SpotServe
namespace Store

open Py LocalStore

/-- A store, the time, and the models that were used, in the order of their last use. -/
structure LocalRun where
  store : LocalStore
  clock : ℚ
  lastUsed : List String

namespace LocalRun

/-- The model that an event uses. -/
def usedBy (e : Event) (before after : LocalStore) : Option String :=
  match e with
  | .loadToHost modelName =>
    if modelName ∈ before.pinnedMemoryPool.keys then some modelName else none
  | .loadingTurn _ =>
    (before.ioQueue.head?.map QueuedLoad.modelName).filter
      fun modelName => modelName ∈ after.pinnedMemoryPool.keys
  | _ => none

/-- A model moves to the end when it is used. -/
def touch (lastUsed : List String) : Option String → List String
  | none => lastUsed
  | some modelName => lastUsed.erase modelName ++ [modelName]

/-- A new store. -/
def start : LocalRun := ⟨.init, 0, []⟩

/-- An event, at a time that is not before the last one. -/
def step (cfg : LocalConfig) (fileSize : String → ℕ) (r : LocalRun) (event : Event × ℚ) :
    Option LocalRun :=
  if r.clock ≤ event.2 then
    let store := r.store.after cfg fileSize event.2 event.1
    some ⟨store, event.2, touch r.lastUsed (usedBy event.1 r.store store)⟩
  else none

/-- The resident models that are not queued, the least recently used one first. -/
def evictable (r : LocalRun) : List String :=
  r.lastUsed.filter fun modelName =>
    modelName ∈ r.store.pinnedMemoryPool.keys ∧ modelName ∉ r.store.queuedModels.keys

/-- What an eviction should do: leave everything when it is refused, else take the shortest prefix
of the least recently used models that is enough. -/
structure EvictsByLastUse (cfg : LocalConfig) (r : LocalRun) (modelSize : ℤ) : Prop where
  refused : (r.store.lruEviction cfg modelSize).1 = false →
    (r.store.lruEviction cfg modelSize).2.pinnedMemoryPool = r.store.pinnedMemoryPool ∧
      (r.store.lruEviction cfg modelSize).2.pinnedMemoryPoolUsage = r.store.pinnedMemoryPoolUsage
  accepted : (r.store.lruEviction cfg modelSize).1 = true →
    ∃ k, (r.store.lruEviction cfg modelSize).2.pinnedMemoryPool =
        r.store.pinnedMemoryPool.filter (fun modelName _ => modelName ∉ r.evictable.take k) ∧
      (r.store.evictAll cfg (r.evictable.take k)).HasRoom cfg (cfg.chunks modelSize) ∧
      ∀ j < k, ¬ (r.store.evictAll cfg (r.evictable.take j)).HasRoom cfg (cfg.chunks modelSize)

/-- Evicting some of the least recently used models makes room. -/
def Feasible (cfg : LocalConfig) (r : LocalRun) (modelSize : ℤ) : Prop :=
  ∃ k ≤ r.evictable.length,
    (r.store.evictAll cfg (r.evictable.take k)).HasRoom cfg (cfg.chunks modelSize)

/-- The condition on a step: no model is asked for while it is resident, unless it is the one loaded
last. -/
def InOrder (r : LocalRun) (event : Event × ℚ) : Prop :=
  match event.1 with
  | .loadToHost modelName => modelName ∈ r.store.pinnedMemoryPool.keys →
    r.store.pinnedMemoryPool.keys.getLast? = some modelName
  | _ => True

instance (r : LocalRun) (event : Event × ℚ) : Decidable (r.InOrder event) :=
  match event with
  | (.registerModel _ _ _ _, _) => inferInstanceAs (Decidable True)
  | (.loadToHost modelName, _) =>
    inferInstanceAs (Decidable (modelName ∈ r.store.pinnedMemoryPool.keys → _))
  | (.loadingTurn _, _) => inferInstanceAs (Decidable True)
  | (.lruEviction _, _) => inferInstanceAs (Decidable True)

/-! ## The pool and the last uses -/

/-- The pool lists the models in the order in which they were last used, with times that never
fall. -/
structure Recorded (r : LocalRun) : Prop where
  wellFormed : r.store.WellFormed
  times : r.store.pinnedMemoryPool.entries.Pairwise fun a b => a.2 ≤ b.2
  past : ∀ entry ∈ r.store.pinnedMemoryPool.entries, entry.2 ≤ r.clock
  nodup : r.lastUsed.Nodup
  order : (r.lastUsed.filter fun modelName => modelName ∈ r.store.pinnedMemoryPool.keys) =
    r.store.pinnedMemoryPool.keys

namespace Recorded

variable {cfg : LocalConfig} {r : LocalRun}

theorem start : Recorded .start where
  wellFormed := wellFormed_init
  times := List.Pairwise.nil
  past := fun _ hentry => absurd hentry List.not_mem_nil
  nodup := List.nodup_nil
  order := rfl

theorem nodup_touch {lastUsed : List String} (h : lastUsed.Nodup) (used : Option String) :
    (touch lastUsed used).Nodup := by
  cases used with
  | none => exact h
  | some modelName =>
    refine List.nodup_append.mpr ⟨h.erase modelName, List.nodup_singleton modelName, ?_⟩
    rintro a ha b hb rfl
    rw [List.mem_singleton.mp hb] at ha
    exact h.not_mem_erase ha

/-- The last of a list stays where it is. -/
theorem touch_getLast {names : List String} {modelName : String} (hnodup : names.Nodup)
    (hlast : names.getLast? = some modelName) : touch names (some modelName) = names := by
  obtain ⟨front, rfl⟩ := List.getLast?_eq_some_iff.mp hlast
  have hfront : modelName ∉ front := fun hmem =>
    (List.nodup_append.mp hnodup).2.2 _ hmem _ List.mem_cons_self rfl
  rw [touch, List.erase_append_right _ hfront, List.erase_cons_head, List.append_nil]

theorem filter_touch {lastUsed : List String} (h : lastUsed.Nodup) {p : String → Bool}
    {modelName : String} (hp : p modelName = true) :
    (touch lastUsed (some modelName)).filter p = touch (lastUsed.filter p) (some modelName) := by
  rw [touch, touch, List.filter_append, h.erase_eq_filter, (h.filter p).erase_eq_filter,
    List.filter_filter, List.filter_filter, List.filter_cons_of_pos hp, List.filter_nil]
  simp only [Bool.and_comm]

/-- The eviction leaves a part of the pool, in its order. -/
theorem evictAll (h : r.Recorded) (names : List String) :
    Recorded { r with store := r.store.evictAll cfg names } where
  wellFormed := h.wellFormed.evictAll names
  times := h.times.sublist List.filter_sublist
  past := fun entry hentry => h.past entry (List.mem_of_mem_filter hentry)
  nodup := h.nodup
  order := by
    show (r.lastUsed.filter fun modelName => modelName ∈
      (r.store.pinnedMemoryPool.filter fun name _ => name ∉ names).keys) =
        (r.store.pinnedMemoryPool.filter fun name _ => name ∉ names).keys
    rw [OrderedDict.keys_filter]
    conv_rhs => rw [← h.order]
    rw [List.filter_filter]
    refine List.filter_congr fun modelName _ => ?_
    simp [List.mem_filter, and_comm]

/-- Time passes. -/
theorem later (h : r.Recorded) {now : ℚ} (hnow : r.clock ≤ now) :
    Recorded { r with clock := now } where
  wellFormed := h.wellFormed
  times := h.times
  past := fun entry hentry => (h.past entry hentry).trans hnow
  nodup := h.nodup
  order := h.order

/-- A model is loaded, and is the last one to have been used. -/
theorem noteLoaded (h : r.Recorded) {modelName : String}
    (hstore : (r.store.noteLoaded cfg r.clock modelName).WellFormed)
    (hnew : modelName ∉ r.store.pinnedMemoryPool.keys) :
    Recorded { r with
      store := r.store.noteLoaded cfg r.clock modelName
      lastUsed := touch r.lastUsed (some modelName) } := by
  have hentries : (r.store.pinnedMemoryPool.set modelName r.clock).entries =
      r.store.pinnedMemoryPool.entries ++ [(modelName, r.clock)] :=
    OrderedDict.entries_set_new ((OrderedDict.get?_eq_none_iff _).mpr hnew) r.clock
  refine ⟨hstore, ?_, ?_, nodup_touch h.nodup (some modelName), ?_⟩
  · show (r.store.pinnedMemoryPool.set modelName r.clock).entries.Pairwise fun a b => a.2 ≤ b.2
    rw [hentries, List.pairwise_append]
    refine ⟨h.times, List.pairwise_singleton _ _, fun entry hentry last hlast => ?_⟩
    rw [List.mem_singleton.mp hlast]
    exact h.past entry hentry
  · show ∀ entry ∈ (r.store.pinnedMemoryPool.set modelName r.clock).entries, entry.2 ≤ r.clock
    rw [hentries]
    intro entry hentry
    rcases List.mem_append.mp hentry with hentry | hentry
    · exact h.past entry hentry
    · rw [List.mem_singleton.mp hentry]
  · show ((touch r.lastUsed (some modelName)).filter fun name =>
      name ∈ (r.store.pinnedMemoryPool.set modelName r.clock).keys) =
        (r.store.pinnedMemoryPool.set modelName r.clock).keys
    rw [OrderedDict.keys_set, if_neg hnew, touch, List.filter_append, h.nodup.erase_eq_filter,
      List.filter_filter, List.filter_cons_of_pos (by simp), List.filter_nil]
    conv_rhs => rw [← h.order]
    congr 1
    refine List.filter_congr fun name _ => ?_
    by_cases hname : name = modelName
    · subst hname
      simp [hnew]
    · simp [hname]

/-- The head of the queue leaves it. -/
theorem popLoad (h : r.Recorded) {modelInfo : QueuedLoad} {rest : List QueuedLoad}
    (hqueue : r.store.ioQueue = modelInfo :: rest) (held : Finset String) :
    Recorded { r with store := r.store.popLoad modelInfo.modelName held } where
  wellFormed := h.wellFormed.popLoad hqueue held
  times := h.times
  past := h.past
  nodup := h.nodup
  order := h.order

/-- A turn uses the head of the queue if that is resident afterwards. -/
theorem usedBy_loadingTurn {modelInfo : QueuedLoad} {rest : List QueuedLoad} {s : LocalStore}
    (hqueue : s.ioQueue = modelInfo :: rest) (loaded : String → Bool) (s' : LocalStore) :
    usedBy (.loadingTurn loaded) s s' =
      if modelInfo.modelName ∈ s'.pinnedMemoryPool.keys then some modelInfo.modelName
      else none := by
  show (s.ioQueue.head?.map QueuedLoad.modelName).filter _ = _
  rw [hqueue, List.head?_cons, Option.map_some, Option.filter_some]
  simp only [decide_eq_true_iff]

theorem usedBy_loadingTurn_of_notMem {modelInfo : QueuedLoad} {rest : List QueuedLoad}
    {s s' : LocalStore} (hqueue : s.ioQueue = modelInfo :: rest)
    (hout : modelInfo.modelName ∉ s'.pinnedMemoryPool.keys) (loaded : String → Bool) :
    usedBy (.loadingTurn loaded) s s' = none :=
  (usedBy_loadingTurn hqueue loaded s').trans (if_neg hout)

theorem usedBy_loadingTurn_of_mem {modelInfo : QueuedLoad} {rest : List QueuedLoad}
    {s s' : LocalStore} (hqueue : s.ioQueue = modelInfo :: rest)
    (hin : modelInfo.modelName ∈ s'.pinnedMemoryPool.keys) (loaded : String → Bool) :
    usedBy (.loadingTurn loaded) s s' = some modelInfo.modelName :=
  (usedBy_loadingTurn hqueue loaded s').trans (if_pos hin)

theorem loadingTurn (h : r.Recorded) (loaded : String → Bool) :
    Recorded { r with
      store := r.store.loadingTurn cfg r.clock loaded
      lastUsed := touch r.lastUsed
        (usedBy (.loadingTurn loaded) r.store (r.store.loadingTurn cfg r.clock loaded)) } := by
  have hend := loadingTurn_ends cfg r.clock loaded r.store
  have hwellFormed := h.wellFormed.loadingTurn cfg r.clock loaded
  generalize r.store.loadingTurn cfg r.clock loaded = s' at hend hwellFormed ⊢
  cases hend with
  | idle hqueue =>
    have hused : usedBy (.loadingTurn loaded) r.store r.store = none := by
      show (r.store.ioQueue.head?.map QueuedLoad.modelName).filter _ = none
      rw [hqueue]
      rfl
    rw [hused]
    exact h
  | refused hqueue heviction =>
    obtain ⟨names, rfl, -⟩ := exists_evictAll heviction
    rw [usedBy_loadingTurn_of_notMem hqueue fun hin =>
      (h.wellFormed.head_registered hqueue).2 (mem_keys_filter hin)]
    exact h.evictAll names
  | failed hqueue heviction _ =>
    obtain ⟨names, rfl, -⟩ := exists_evictAll heviction
    rw [usedBy_loadingTurn_of_notMem hqueue fun hin =>
      (h.wellFormed.head_registered hqueue).2 (mem_keys_filter hin)]
    exact (h.evictAll names).popLoad hqueue _
  | loaded hqueue heviction _ =>
    obtain ⟨names, rfl, -⟩ := exists_evictAll heviction
    rw [usedBy_loadingTurn_of_mem hqueue (OrderedDict.mem_keys_set.mpr (Or.inl rfl))]
    exact ((h.evictAll names).popLoad hqueue _).noteLoaded hwellFormed
      fun hin => (h.wellFormed.head_registered hqueue).2 (mem_keys_filter hin)

/-- Asking for a model changes nothing about the pool. -/
theorem pinnedMemoryPool_loadToHost (cfg : LocalConfig) (now : ℚ) (modelName : String)
    (s : LocalStore) :
    (s.loadToHost cfg now modelName).2.pinnedMemoryPool = s.pinnedMemoryPool := by
  unfold LocalStore.loadToHost
  repeat' split
  all_goals rfl

theorem loadToHost (h : r.Recorded) {modelName : String}
    (hlast : modelName ∈ r.store.pinnedMemoryPool.keys →
      r.store.pinnedMemoryPool.keys.getLast? = some modelName) :
    Recorded { r with
      store := (r.store.loadToHost cfg r.clock modelName).2
      lastUsed := touch r.lastUsed (usedBy (.loadToHost modelName) r.store
        (r.store.loadToHost cfg r.clock modelName).2) } := by
  have hpool := pinnedMemoryPool_loadToHost cfg r.clock modelName r.store
  refine ⟨h.wellFormed.loadToHost cfg r.clock modelName, ?_, ?_, nodup_touch h.nodup _, ?_⟩
  · rw [hpool]
    exact h.times
  · rw [hpool]
    exact h.past
  · dsimp only [usedBy]
    rw [hpool]
    by_cases hresident : modelName ∈ r.store.pinnedMemoryPool.keys
    · rw [if_pos hresident, filter_touch h.nodup (by simpa using hresident), h.order]
      exact touch_getLast r.store.pinnedMemoryPool.nodup (hlast hresident)
    · rw [if_neg hresident]
      exact h.order

theorem registerModel (h : r.Recorded) (fileSize : String → ℕ) (answered : String → Bool)
    (modelName backend : String) (tensorParallelSize : ℤ) :
    Recorded { r with
      store := r.store.registerModel fileSize answered modelName backend tensorParallelSize } := by
  have hpool : (r.store.registerModel fileSize answered modelName backend
      tensorParallelSize).pinnedMemoryPool = r.store.pinnedMemoryPool := by
    unfold LocalStore.registerModel
    repeat' split
    all_goals rfl
  refine ⟨h.wellFormed.registerModel fileSize answered modelName backend tensorParallelSize, ?_, ?_,
    h.nodup, ?_⟩
  · rw [hpool]
    exact h.times
  · rw [hpool]
    exact h.past
  · rw [hpool]
    exact h.order

/-- **One event.** -/
theorem step {fileSize : String → ℕ} {event : Event × ℚ} {r' : LocalRun} (h : r.Recorded)
    (horder : r.InOrder event) (hstep : r.step cfg fileSize event = some r') : r'.Recorded := by
  obtain ⟨e, now⟩ := event
  unfold LocalRun.step at hstep
  split_ifs at hstep with hnow
  obtain rfl := Option.some.inj hstep
  have hlater := h.later hnow
  cases e with
  | registerModel modelName backend tensorParallelSize answered =>
    exact hlater.registerModel fileSize answered modelName backend tensorParallelSize
  | loadToHost modelName => exact hlater.loadToHost horder
  | loadingTurn loaded => exact hlater.loadingTurn loaded
  | lruEviction modelSize =>
    obtain ⟨names, hevicted, -⟩ :=
      exists_evictAll (Prod.eta (r.store.lruEviction cfg modelSize)).symm
    show Recorded ⟨(r.store.lruEviction cfg modelSize).2, now, r.lastUsed⟩
    rw [hevicted]
    exact hlater.evictAll names

end Recorded

/-- **A run in which no model but the one loaded last is asked for again.** -/
theorem recorded_of_reachable {cfg : LocalConfig} {fileSize : String → ℕ} {r : LocalRun}
    (hrun : Runs.Reachable (· = start) (fun r event r' => r.step cfg fileSize event = some r')
      InOrder r) : r.Recorded := by
  refine hrun.invariant Recorded ?_ ?_
  · rintro r rfl
    exact .start
  · intro r event r' h horder hstep
    exact h.step horder hstep

/-! ## The eviction -/

variable {cfg : LocalConfig} {r : LocalRun}

/-- The loop comes to the models in the order of their last uses. -/
theorem Recorded.removable_sortedModels (h : r.Recorded) :
    r.store.removable r.store.sortedModels = r.evictable := by
  have hsorted : r.store.sortedModels = r.store.pinnedMemoryPool.keys := by
    rw [sortedModels, List.Pairwise.insertionSort_eq h.times]
    rfl
  rw [hsorted, removable, ← h.order, List.filter_filter, evictable]
  refine List.filter_congr fun modelName _ => ?_
  simp [and_comm]

variable (cfg) in
/-- The eviction succeeds when it can. -/
theorem Recorded.lruEviction_fst_iff (h : r.Recorded) (modelSize : ℤ) :
    (r.store.lruEviction cfg modelSize).1 = true ↔ Feasible cfg r modelSize := by
  obtain ⟨k, ⟨hevicted, hshortest, hends⟩, hanswer⟩ := lruEviction_spec cfg modelSize r.store
  rw [h.removable_sortedModels] at hevicted hshortest hends
  rw [hanswer]
  constructor
  · intro hroom
    rw [hevicted] at hroom
    rcases Nat.le_total k r.evictable.length with hle | hle
    · exact ⟨k, hle, hroom⟩
    · refine ⟨r.evictable.length, le_rfl, ?_⟩
      rw [List.take_length]
      rw [List.take_of_length_le hle] at hroom
      exact hroom
  · rintro ⟨j, hj, hroom⟩
    rcases hends with hend | hlength
    · exact hend
    · rcases Nat.lt_or_ge j k with hlt | hge
      · exact absurd hroom (hshortest j hlt)
      · obtain rfl : j = k := by omega
        rw [hevicted]
        exact hroom

/-- Members of the list are resident. -/
theorem mem_keys_of_mem_evictable {modelName : String} (h : modelName ∈ r.evictable) :
    modelName ∈ r.store.pinnedMemoryPool.keys := by
  have hboth := (List.mem_filter.mp h).2
  rw [decide_eq_true_iff] at hboth
  exact hboth.1

/-- What is evicted is gone from the pool. -/
theorem eq_nil_of_pool_eq {names : List String}
    (hnames : ∀ modelName ∈ names, modelName ∈ r.store.pinnedMemoryPool.keys)
    (hpool : r.store.pinnedMemoryPool.filter (fun modelName _ => modelName ∉ names) =
      r.store.pinnedMemoryPool) : names = [] := by
  rw [List.eq_nil_iff_forall_not_mem]
  intro modelName hmem
  have hin := hnames modelName hmem
  rw [← hpool, OrderedDict.keys_filter] at hin
  have hout := (List.mem_filter.mp hin).2
  rw [decide_eq_true_iff] at hout
  exact hout hmem

/-- **When the eviction does what it should.** -/
theorem evictsByLastUse_iff {fileSize : String → ℕ}
    (hrun : Runs.Reachable (· = start) (fun r event r' => r.step cfg fileSize event = some r')
      InOrder r) (modelSize : ℤ) :
    EvictsByLastUse cfg r modelSize ↔ r.evictable = [] ∨ Feasible cfg r modelSize := by
  have h := recorded_of_reachable hrun
  obtain ⟨k, ⟨hevicted, hshortest, hends⟩, hanswer⟩ := lruEviction_spec cfg modelSize r.store
  rw [h.removable_sortedModels] at hevicted hshortest hends
  have hfeasible := h.lruEviction_fst_iff cfg modelSize
  constructor
  · intro hevicts
    by_cases hroom : Feasible cfg r modelSize
    · exact Or.inr hroom
    · -- the refused load has evicted all it could
      have hrefused := Bool.eq_false_iff.mpr fun htrue => hroom (hfeasible.mp htrue)
      have hlength : r.evictable.length ≤ k := hends.resolve_left fun hend =>
        hroom (hfeasible.mp (hanswer.mpr hend))
      have hpool := (hevicts.refused hrefused).1
      rw [hevicted, List.take_of_length_le hlength] at hpool
      exact Or.inl (eq_nil_of_pool_eq (fun _ => mem_keys_of_mem_evictable) hpool)
  · intro hcondition
    refine ⟨fun hrefused => ?_, fun haccepted => ⟨k, ?_, ?_, hshortest⟩⟩
    · have hnil : r.evictable = [] := hcondition.resolve_right fun hroom => by
        rw [hfeasible.mpr hroom] at hrefused
        exact Bool.true_eq_false.mp hrefused
      rw [hevicted, hnil, List.take_nil, evictAll_nil]
      exact ⟨rfl, rfl⟩
    · rw [hevicted]
      rfl
    · rw [← hevicted]
      exact hanswer.mp haccepted

/-- A store with so much memory for chunks of one byte. -/
def bytePool (memPoolSize : ℕ) : LocalConfig where
  memPoolSize := memPoolSize
  chunkSize := 1
  diskBandwidth := 1
  chunkSize_pos := Nat.one_pos

/-- Every file has one byte. -/
def oneByte (_ : String) : ℕ := 1

/-- A model is registered, queued and loaded. -/
def loads (modelName : String) (now : ℚ) : List (Event × ℚ) :=
  [(.registerModel modelName "transformers" 1 fun _ => true, now), (.loadToHost modelName, now),
    (.loadingTurn fun _ => true, now)]

/-- Two models are loaded, and the first is asked for again. -/
def askedAgain : List (Event × ℚ) := loads "a" 1 ++ loads "b" 2 ++ [(.loadToHost "a", 3)]

/-- What can be seen of an eviction: its answer, the pool after it and before it, and the order of
the last uses. -/
def observed (cfg : LocalConfig) (modelSize : ℤ) (r : LocalRun) :
    Bool × List String × List String × List String :=
  ((r.store.lruEviction cfg modelSize).1,
    (r.store.lruEviction cfg modelSize).2.pinnedMemoryPool.keys,
    r.store.pinnedMemoryPool.keys, r.evictable)

theorem observed_eq {modelSize : ℤ} {answer : Bool} {after before order : List String}
    (h : observed cfg modelSize r = (answer, after, before, order)) :
    (r.store.lruEviction cfg modelSize).1 = answer ∧
      (r.store.lruEviction cfg modelSize).2.pinnedMemoryPool.keys = after ∧
      r.store.pinnedMemoryPool.keys = before ∧ r.evictable = order := by
  obtain ⟨hanswer, h⟩ := Prod.mk.inj h
  obtain ⟨hafter, h⟩ := Prod.mk.inj h
  obtain ⟨hbefore, horder⟩ := Prod.mk.inj h
  exact ⟨hanswer, hafter, hbefore, horder⟩

/-- The only model is evicted for a load that then has no room after all; and a model that was asked
for again is evicted before the one that was not. -/
theorem eviction_not_by_lastUse :
    (∃ r, Runs.Reachable (· = start)
        (fun r event r' => r.step (bytePool 1) oneByte event = some r') (fun _ _ => True) r ∧
      ¬ EvictsByLastUse (bytePool 1) r 2) ∧
    ∃ r, Runs.Reachable (· = start)
        (fun r event r' => r.step (bytePool 2) oneByte event = some r') (fun _ _ => True) r ∧
      ¬ EvictsByLastUse (bytePool 2) r 1 := by
  have hrefused : (Runs.attempt (step (bytePool 1) oneByte) (fun _ _ => True) (loads "a" 1)
      start).map (observed (bytePool 1) 2) = some (false, [], ["a"], ["a"]) := by decide
  have haccepted : (Runs.attempt (step (bytePool 2) oneByte) (fun _ _ => True) askedAgain
      start).map (observed (bytePool 2) 1) = some (true, ["b"], ["a", "b"], ["b", "a"]) := by decide
  constructor
  · obtain ⟨r, hrun, hobserved⟩ := Option.map_eq_some_iff.mp hrefused
    obtain ⟨hanswer, hafter, hbefore, -⟩ := observed_eq hobserved
    refine ⟨r, .attempt (.start rfl) hrun, fun hevicts => ?_⟩
    rw [(hevicts.refused hanswer).1, hbefore] at hafter
    exact List.cons_ne_nil _ _ hafter
  · obtain ⟨r, hrun, hobserved⟩ := Option.map_eq_some_iff.mp haccepted
    obtain ⟨hanswer, hafter, hbefore, horder⟩ := observed_eq hobserved
    refine ⟨r, .attempt (.start rfl) hrun, fun hevicts => ?_⟩
    obtain ⟨k, hpool, -⟩ := hevicts.accepted hanswer
    rw [hpool, OrderedDict.keys_filter, hbefore, horder] at hafter
    rcases k with _ | _ | k
    · exact absurd hafter (by decide)
    · exact absurd hafter (by decide)
    · simp at hafter

theorem evictsByLastUse_loads :
    ∃ r, r.evictable = ["a"] ∧ (EvictsByLastUse (bytePool 2) r 1 ↔
      r.evictable = [] ∨ Feasible (bytePool 2) r 1) := by
  have hloads : (Runs.attempt (step (bytePool 2) oneByte) InOrder (loads "a" 1) start).map
      (observed (bytePool 2) 1) = some (true, ["a"], ["a"], ["a"]) := by decide
  obtain ⟨r, hrun, hobserved⟩ := Option.map_eq_some_iff.mp hloads
  exact ⟨r, (observed_eq hobserved).2.2.2,
    evictsByLastUse_iff (.attempt (.start rfl) hrun) 1⟩

end LocalRun

end Store
end SpotServe
