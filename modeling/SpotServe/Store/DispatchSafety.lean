import SpotServe.Library.Runs
import SpotServe.Store.ModelThreads

/-!
# What a dispatch reads

`ToGpu` refuses a model that is not initialized and no other, and takes the pinned memory and the
chunk vector as it finds them.  Between `AllocatePinnedMemory` and `ToHost` the vector is the one of
the last load, whose chunks are all there; after a free there is no memory.  A free in turn looks
for replicas that are loading, but a cancelled one still has its dispatch, and while the free waits
for one replica another one can come.

In a run where no replica is registered before the chunks of the present memory have a vector, and
no memory is released while it is read into or dispatched from (`Careful`), every dispatch finds the
present memory and its vector, and hands on chunks that have been read (`dispatchOk_of_careful`).
The run `reloaded` shows the first of the two: the second load is dispatched with the vector of the
first.
-/

namespace SpotServe
namespace Store

open Py

namespace ModelThreads

/-- The memory is the present one, and the vector was made for it. -/
def Current (m : ModelThreads) (memory : PinnedMemory) (v : BatchVector) : Prop :=
  m.pinnedMem = some memory ∧ m.hostPtrVector = some v ∧ v.generation = memory.generation

/-- The chunk is one of the memory, and holds the bytes of the files. -/
def Written (m : ModelThreads) (memory : PinnedMemory) (chunkId : ℕ) : Prop :=
  chunkId < memory.numChunks ∧ (memory.generation, chunkId) ∈ m.written

/-- A `ToHost` has begun with the present memory. -/
def HasVector (m : ModelThreads) : Prop :=
  m.state = .loading ∨ m.state = .loaded ∨ m.state = .interrupted

instance (m : ModelThreads) : Decidable m.HasVector := inferInstanceAs (Decidable (_ ∨ _))

/-- No dispatch is under way. -/
def NoDispatch (m : ModelThreads) : Prop := ∀ r ∈ m.replicas, r.dispatch = .ended

/-- What is asked of a dispatch: its memory and its vector are the present ones, and the chunk it
hands on holds the bytes of the files. -/
def DispatchOk (m : ModelThreads) : Action → Prop
  | .dispatchStarts _ => ∃ memory v, m.Current memory v
  | .dispatchChunk replica => ∀ r memory next, m.replicas[replica]? = some r →
      r.dispatch = .running memory next → ∃ v, m.Current memory v ∧
        ∀ chunkId, v.chunks[next]? = some chunkId → m.Written memory chunkId
  | .dispatchEnds replica => ∀ r memory next, m.replicas[replica]? = some r →
      r.dispatch = .running memory next → ∃ v, m.Current memory v
  | _ => True

/-- A replica is registered only when the present memory has its vector, and memory is released
only when nobody reads into it or dispatches from it. -/
def Careful (m : ModelThreads) : Action → Prop
  | .toGpu replicaUuid => m.registersReplica replicaUuid → m.HasVector
  | .failedReleases _ | .freeReleases _ => m.state ≠ .loading ∧ m.NoDispatch
  | .tryFreeHost => m.canTryFree → m.NoDispatch
  | _ => True

instance (m : ModelThreads) : Decidable m.NoDispatch :=
  inferInstanceAs (Decidable (∀ r ∈ m.replicas, r.dispatch = .ended))

instance (m : ModelThreads) : DecidablePred m.Careful
  | .toGpu _ => inferInstanceAs (Decidable (_ → _))
  | .failedReleases _ | .freeReleases _ => inferInstanceAs (Decidable (_ ∧ _))
  | .tryFreeHost => inferInstanceAs (Decidable (_ → _))
  | .initializeModel | .allocatePinnedMemory _ | .toHost _ | .readChunk _ _ | .enqueueChunk _ _
  | .readDone _ | .readFailed _ | .failedGoesOn _ | .freeHost | .freeGoesOn _ | .dispatchStarts _
  | .dispatchChunk _ | .dispatchEnds _ | .toGpuDone _ _ | .freeGpu _ | .freeGpuGoesOn _ =>
    inferInstanceAs (Decidable True)

/-- What holds in the runs of careful steps. -/
structure Sound (m : ModelThreads) : Prop where
  current : m.HasVector → ∃ memory v, m.Current memory v ∧ ∀ chunkId ∈ v.chunks,
    m.Written memory chunkId
  /-- At most one `ToHost` reads, and into the present memory. -/
  reads : m.reads = [] ∨ ∃ r, m.reads = [r] ∧ m.state = .loading ∧ m.pinnedMem = some r.memory ∧
    ∀ chunkId ∈ r.read, m.Written r.memory chunkId
  dispatching : ∀ r ∈ m.replicas, r.dispatch ≠ .ended → m.HasVector
  memory : ∀ r ∈ m.replicas, ∀ memory next, r.dispatch = .running memory next →
    m.pinnedMem = some memory

theorem sound_empty : Sound {} where
  current := fun h => absurd h (by decide)
  reads := .inl rfl
  dispatching := fun _ h => absurd h (by simp)
  memory := fun _ h => absurd h (by simp)

variable {m m' : ModelThreads}

/-- Only the state, the memory, the vector, the reads and the dispatches matter. -/
theorem Sound.congr (h : m.Sound) (hstate : m'.state = m.state)
    (hpinned : m'.pinnedMem = m.pinnedMem) (hvector : m'.hostPtrVector = m.hostPtrVector)
    (hreads : m'.reads = m.reads) (hwritten : m'.written = m.written)
    (hreplicas : ∀ r ∈ m'.replicas, r.dispatch = .ended ∨ ∃ r' ∈ m.replicas,
      r'.dispatch = r.dispatch) : m'.Sound := by
  have hhas : m'.HasVector ↔ m.HasVector := by rw [HasVector, HasVector, hstate]
  refine ⟨fun hvector' => ?_, ?_, fun r hr hdispatch => ?_, fun r hr memory next hdispatch => ?_⟩
  · obtain ⟨memory, v, hcurrent, hchunks⟩ := h.current (hhas.mp hvector')
    refine ⟨memory, v, ?_, fun chunkId hchunk => ?_⟩
    · rw [Current, hpinned, hvector]
      exact hcurrent
    · rw [Written, hwritten]
      exact hchunks chunkId hchunk
  · simp only [hreads, hstate, hpinned, Written, hwritten]
    exact h.reads
  · rcases hreplicas r hr with hended | ⟨r', hr', hsame⟩
    · exact absurd hended hdispatch
    · exact hhas.mpr (h.dispatching r' hr' (by rw [hsame]; exact hdispatch))
  · rcases hreplicas r hr with hended | ⟨r', hr', hsame⟩
    · rw [hended] at hdispatch
      exact absurd hdispatch (by simp)
    · rw [hpinned]
      exact h.memory r' hr' memory next (hsame.trans hdispatch)

/-- The names of the replicas do not matter, nor who waits for them. -/
theorem Sound.frame (h : m.Sound) (gpuReplicas : OrderedDict String ℕ)
    (failed frees : List ReleasePhase) (gpuFrees : List (String × ℕ)) :
    Sound { m with
      gpuReplicas := gpuReplicas
      failed := failed
      frees := frees
      gpuFrees := gpuFrees } :=
  h.congr rfl rfl rfl rfl rfl fun r hr => .inr ⟨r, hr, rfl⟩

theorem Sound.noDispatch (h : m.Sound) (hvector : ¬ m.HasVector) : m.NoDispatch := by
  intro r hr
  by_contra hdispatch
  exact hvector (h.dispatching r hr hdispatch)

theorem Sound.reads_eq_nil (h : m.Sound) (hloading : m.state ≠ .loading) : m.reads = [] := by
  rcases h.reads with hnil | ⟨r, -, hstate, -⟩
  · exact hnil
  · exact absurd hstate hloading

/-- A model that nobody reads into or dispatches from, before its chunks have a vector. -/
theorem sound_of_idle (hvector : ¬ m.HasVector) (hreads : m.reads = []) (hno : m.NoDispatch) :
    m.Sound where
  current := fun h => absurd h hvector
  reads := .inl hreads
  dispatching := fun r hr hdispatch => absurd (hno r hr) hdispatch
  memory := fun r hr memory next hdispatch => by
    rw [hno r hr] at hdispatch
    exact absurd hdispatch (by simp)

theorem Sound.release (h : m.Sound) (hloading : m.state ≠ .loading) (hno : m.NoDispatch) :
    m.release.Sound := by
  refine sound_of_idle ?_ (h.reads_eq_nil hloading) hno
  rintro (hstate | hstate | hstate)
  all_goals exact absurd hstate (by simp [ModelThreads.release])

/-! ## The actions of a load -/

theorem Sound.initializeModel (h : m.Sound) : m.initializeModel.Sound := by
  unfold ModelThreads.initializeModel
  split_ifs with hstate
  · have hvector : ¬ m.HasVector := by simp [HasVector, hstate]
    exact sound_of_idle (by simp [HasVector]) (h.reads_eq_nil (by simp [hstate]))
      (h.noDispatch hvector)
  · exact h

theorem Sound.allocatePinnedMemory (h : m.Sound) (numChunks : ℕ) (enough : Bool) :
    (m.allocatePinnedMemory numChunks enough).Sound := by
  unfold ModelThreads.allocatePinnedMemory
  split_ifs with hstate
  · have hvector : ¬ m.HasVector := by simp [HasVector, hstate]
    refine sound_of_idle ?_ (h.reads_eq_nil (by simp [hstate])) (h.noDispatch hvector)
    dsimp only [HasVector]
    split_ifs
    · simp
    · simp
  · exact h

/-- The vector is made while nobody dispatches. -/
theorem Sound.toHost (h : m.Sound) (opened : Bool) : (m.toHost opened).Sound := by
  unfold ModelThreads.toHost
  split
  · exact h
  case h_2 memory hpinned =>
    split_ifs with hstarts
    · have hvector : ¬ m.HasVector := by simp [HasVector, hstarts.1]
      have hreads := h.reads_eq_nil (by simp [hstarts.1])
      refine ⟨fun _ => ?_, .inr ⟨⟨memory, [], []⟩, ?_, rfl, hpinned, ?_⟩, fun r hr hdispatch => ?_,
        fun r hr memory' next hdispatch => ?_⟩
      · exact ⟨memory, ⟨memory.generation, memory.numChunks, []⟩, ⟨hpinned, rfl, rfl⟩, by simp⟩
      · show m.reads ++ _ = _
        rw [hreads, List.nil_append]
      · simp
      · exact absurd (h.noDispatch hvector r hr) hdispatch
      · rw [h.noDispatch hvector r hr] at hdispatch
        exact absurd hdispatch (by simp)
    · exact h

/-- There is one `ToHost`, and it is the one that reads. -/
theorem Sound.read (h : m.Sound) {read : ℕ} {r : HostRead} (hread : m.reads[read]? = some r) :
    read = 0 ∧ m.reads = [r] ∧ m.state = .loading ∧ m.pinnedMem = some r.memory ∧
      ∀ chunkId ∈ r.read, m.Written r.memory chunkId := by
  rcases h.reads with hnil | ⟨r', hone, hrest⟩
  · rw [hnil] at hread
    exact absurd hread (by simp)
  · rw [hone] at hread
    obtain ⟨hlt, hget⟩ := List.getElem?_eq_some_iff.mp hread
    obtain rfl : read = 0 := by simpa using hlt
    obtain rfl : r' = r := hget
    exact ⟨rfl, hone, hrest⟩

/-- A chunk is read into the present memory. -/
theorem Sound.readChunk (h : m.Sound) {read chunkId : ℕ} {r : HostRead}
    (hread : m.reads[read]? = some r) (hlt : chunkId < r.memory.numChunks) :
    Sound { m with
      reads := m.reads.set read { r with read := r.read ++ [chunkId] }
      written := (r.memory.generation, chunkId) :: m.written } := by
  obtain ⟨rfl, hone, hstate, hpinned, hchunks⟩ := h.read hread
  refine ⟨fun hvector => ?_, .inr ⟨{ r with read := r.read ++ [chunkId] }, ?_, hstate, hpinned, ?_⟩,
    h.dispatching, h.memory⟩
  · obtain ⟨memory, v, hcurrent, hold⟩ := h.current hvector
    exact ⟨memory, v, hcurrent, fun c hc => ⟨(hold c hc).1, List.mem_cons_of_mem _ (hold c hc).2⟩⟩
  · show m.reads.set 0 _ = _
    rw [hone, List.set_cons_zero]
  · intro c hc
    rcases List.mem_append.mp hc with hold | hnew
    · exact ⟨(hchunks c hold).1, List.mem_cons_of_mem _ (hchunks c hold).2⟩
    · obtain rfl := List.mem_singleton.mp hnew
      exact ⟨hlt, List.mem_cons_self⟩

theorem mem_enqueue {v : BatchVector} {chunkId c : ℕ} (h : c ∈ (v.enqueue chunkId).chunks) :
    c ∈ v.chunks ∨ c = chunkId := by
  unfold BatchVector.enqueue at h
  split_ifs at h
  · exact .inl h
  · simpa using h

theorem generation_enqueue (v : BatchVector) (chunkId : ℕ) :
    (v.enqueue chunkId).generation = v.generation := by
  unfold BatchVector.enqueue
  split_ifs <;> rfl

/-- What is enqueued has been read. -/
theorem Sound.enqueueChunk (h : m.Sound) {read chunkId : ℕ} {r : HostRead}
    (hread : m.reads[read]? = some r) (hmem : chunkId ∈ r.read) :
    Sound { m with
      reads := m.reads.set read { r with enqueued := r.enqueued ++ [chunkId] }
      hostPtrVector := m.hostPtrVector.map (BatchVector.enqueue · chunkId) } := by
  obtain ⟨rfl, hone, hstate, hpinned, hchunks⟩ := h.read hread
  refine ⟨fun hvector => ?_, .inr ⟨{ r with enqueued := r.enqueued ++ [chunkId] }, ?_, hstate,
    hpinned, hchunks⟩, h.dispatching, h.memory⟩
  · obtain ⟨memory, v, ⟨hpinned', hv, hgeneration⟩, hold⟩ := h.current hvector
    obtain rfl : r.memory = memory := Option.some.inj (hpinned.symm.trans hpinned')
    refine ⟨r.memory, v.enqueue chunkId, ⟨hpinned, ?_, ?_⟩, fun c hc => ?_⟩
    · show m.hostPtrVector.map _ = _
      rw [hv, Option.map_some]
    · rw [generation_enqueue]
      exact hgeneration
    · rcases mem_enqueue hc with hc | rfl
      · exact hold c hc
      · exact hchunks c hmem
  · show m.reads.set 0 _ = _
    rw [hone, List.set_cons_zero]

/-- A `ToHost` ends, with or without an error. -/
theorem Sound.readEnds (h : m.Sound) {read : ℕ} {r : HostRead} (hread : m.reads[read]? = some r)
    {state : Model.MemoryState} (hstate : state = .loaded ∨ state = .interrupted)
    (failed : List ReleasePhase) :
    Sound { m with reads := m.reads.eraseIdx read, failed := failed, state := state } := by
  obtain ⟨rfl, hone, hloading, -, -⟩ := h.read hread
  refine ⟨fun _ => h.current (.inl hloading), .inl ?_, fun _ _ _ => .inr hstate, h.memory⟩
  show m.reads.eraseIdx 0 = []
  rw [hone, List.eraseIdx_cons_zero]

/-! ## The actions of a replica -/

/-- A replica goes on without its dispatch, or its dispatch ends. -/
theorem Sound.setReplica (h : m.Sound) {replica : ℕ} {r next : GpuReplica}
    (hget : m.replicas[replica]? = some r)
    (hdispatch : next.dispatch = .ended ∨ next.dispatch = r.dispatch) :
    (m.setReplica replica next).Sound := by
  refine h.congr rfl rfl rfl rfl rfl fun r' hr' => ?_
  rcases List.mem_or_eq_of_mem_set hr' with hold | rfl
  · exact .inr ⟨r', hold, rfl⟩
  · rcases hdispatch with hended | hsame
    · exact .inl hended
    · exact .inr ⟨r, List.mem_of_getElem? hget, hsame.symm⟩

/-- A dispatch goes on, with the memory that is there. -/
theorem Sound.setRunning (h : m.Sound) {replica : ℕ} {r next : GpuReplica}
    (hget : m.replicas[replica]? = some r) (hended : r.dispatch ≠ .ended) {memory : PinnedMemory}
    (hpinned : m.pinnedMem = some memory) {n : ℕ} (hnext : next.dispatch = .running memory n) :
    (m.setReplica replica next).Sound := by
  refine ⟨h.current, h.reads, fun r' hr' hdispatch => ?_, fun r' hr' memory' n' hdispatch => ?_⟩
  · rcases List.mem_or_eq_of_mem_set hr' with hold | -
    · exact h.dispatching r' hold hdispatch
    · exact h.dispatching r (List.mem_of_getElem? hget) hended
  · rcases List.mem_or_eq_of_mem_set hr' with hold | rfl
    · exact h.memory r' hold memory' n' hdispatch
    · rw [hnext] at hdispatch
      obtain ⟨rfl, -⟩ := DispatchPhase.running.inj hdispatch
      exact hpinned

theorem Sound.cancelReplica (h : m.Sound) (replica : ℕ) : (m.cancelReplica replica).Sound := by
  unfold ModelThreads.cancelReplica
  split
  case h_1 r hget =>
    split_ifs
    · exact h.setReplica hget (.inr rfl)
    · exact h
  · exact h

theorem Sound.toGpu (h : m.Sound) {replicaUuid : String}
    (hcareful : m.Careful (.toGpu replicaUuid)) : (m.toGpu replicaUuid).Sound := by
  unfold ModelThreads.toGpu
  split_ifs with hregisters
  · refine ⟨h.current, h.reads, fun _ _ _ => hcareful hregisters, fun r hr memory next hdispatch => ?_⟩
    rcases List.mem_append.mp hr with hold | hnew
    · exact h.memory r hold memory next hdispatch
    · rw [List.mem_singleton.mp hnew] at hdispatch
      exact absurd hdispatch (by simp)
  · exact h

/-! ## Runs -/

/-- The waits of a free change nothing. -/
theorem Sound.freeGoesOn (h : m.Sound) {free : ℕ} (hstep : m.freeGoesOn free = some m') :
    m'.Sound := by
  unfold ModelThreads.freeGoesOn at hstep
  split at hstep
  · split_ifs at hstep
    obtain rfl := Option.some.inj hstep
    exact h.frame _ _ _ _
  · obtain rfl := Option.some.inj hstep
    exact h.frame _ _ _ _
  · split_ifs at hstep
    obtain rfl := Option.some.inj hstep
    exact h.frame _ _ _ _
  · exact absurd hstep (by simp)

theorem Sound.failedGoesOn (h : m.Sound) {failed : ℕ} (hstep : m.failedGoesOn failed = some m') :
    m'.Sound := by
  unfold ModelThreads.failedGoesOn at hstep
  split at hstep
  · obtain rfl := Option.some.inj hstep
    exact (h.cancelReplica _).frame _ _ _ _
  · split_ifs at hstep
    obtain rfl := Option.some.inj hstep
    exact h.frame _ _ _ _
  · exact absurd hstep (by simp)

/-- **A careful step.** -/
theorem Sound.step (h : m.Sound) {numChunks : ℕ} {a : Action} (hcareful : m.Careful a)
    (hstep : step numChunks m a = some m') : m'.Sound := by
  cases a with
  | initializeModel =>
    obtain rfl := Option.some.inj hstep
    exact h.initializeModel
  | allocatePinnedMemory enough =>
    obtain rfl := Option.some.inj hstep
    exact h.allocatePinnedMemory numChunks enough
  | toHost opened =>
    obtain rfl := Option.some.inj hstep
    exact h.toHost opened
  | readChunk read chunkId =>
    simp only [ModelThreads.step] at hstep
    split at hstep
    case h_1 r hread =>
      split_ifs at hstep with hlt
      obtain rfl := Option.some.inj hstep
      exact h.readChunk hread hlt
    case h_2 => exact absurd hstep (by simp)
  | enqueueChunk read chunkId =>
    simp only [ModelThreads.step] at hstep
    split at hstep
    case h_1 r hread =>
      split_ifs at hstep with hmem
      obtain rfl := Option.some.inj hstep
      exact h.enqueueChunk hread hmem
    case h_2 => exact absurd hstep (by simp)
  | readDone read =>
    simp only [ModelThreads.step] at hstep
    split at hstep
    case h_1 r hread =>
      split_ifs at hstep
      obtain rfl := Option.some.inj hstep
      exact h.readEnds hread (.inl rfl) m.failed
    case h_2 => exact absurd hstep (by simp)
  | readFailed read =>
    simp only [ModelThreads.step] at hstep
    split at hstep
    case h_1 r hread =>
      obtain rfl := Option.some.inj hstep
      exact h.readEnds hread (.inr rfl) _
    case h_2 => exact absurd hstep (by simp)
  | failedGoesOn failed => exact h.failedGoesOn hstep
  | failedReleases failed =>
    simp only [ModelThreads.step] at hstep
    split at hstep
    · obtain rfl := Option.some.inj hstep
      exact (h.release hcareful.1 hcareful.2).frame _ _ _ _
    · exact absurd hstep (by simp)
  | freeHost =>
    simp only [ModelThreads.step] at hstep
    split_ifs at hstep
    · obtain rfl := Option.some.inj hstep
      exact h
    all_goals
      obtain rfl := Option.some.inj hstep
      exact h.frame _ _ _ _
  | freeGoesOn free => exact h.freeGoesOn hstep
  | freeReleases free =>
    simp only [ModelThreads.step] at hstep
    split at hstep
    · obtain rfl := Option.some.inj hstep
      exact (h.release hcareful.1 hcareful.2).frame _ _ _ _
    · exact absurd hstep (by simp)
  | tryFreeHost =>
    simp only [ModelThreads.step] at hstep
    split_ifs at hstep with hfrees
    · obtain rfl := Option.some.inj hstep
      exact h.release hfrees.2.2.1 (hcareful hfrees)
    · obtain rfl := Option.some.inj hstep
      exact h
  | toGpu replicaUuid =>
    obtain rfl := Option.some.inj hstep
    exact h.toGpu hcareful
  | dispatchStarts replica =>
    simp only [ModelThreads.step] at hstep
    split at hstep
    case h_1 r hget =>
      split_ifs at hstep with hstarting
      split at hstep
      · obtain rfl := Option.some.inj hstep
        exact h
      case h_2 memory hpinned =>
        obtain rfl := Option.some.inj hstep
        exact h.setRunning hget (by simp [hstarting]) hpinned rfl
    case h_2 => exact absurd hstep (by simp)
  | dispatchChunk replica =>
    simp only [ModelThreads.step] at hstep
    split at hstep
    case h_1 state memory next hget =>
      split at hstep
      · obtain rfl := Option.some.inj hstep
        exact h
      · split_ifs at hstep
        obtain rfl := Option.some.inj hstep
        have hpinned := h.memory _ (List.mem_of_getElem? hget) memory next rfl
        exact h.setRunning hget (by simp) hpinned rfl
    case h_2 => exact absurd hstep (by simp)
  | dispatchEnds replica =>
    simp only [ModelThreads.step] at hstep
    split at hstep
    case h_1 state memory next hget =>
      split at hstep
      · obtain rfl := Option.some.inj hstep
        exact h
      · split_ifs at hstep
        obtain rfl := Option.some.inj hstep
        exact h.setReplica hget (.inl rfl)
    case h_2 => exact absurd hstep (by simp)
  | toGpuDone replica error =>
    simp only [ModelThreads.step] at hstep
    split at hstep
    case h_1 state hget =>
      split_ifs at hstep
      all_goals
        obtain rfl := Option.some.inj hstep
        exact h.setReplica hget (.inl rfl)
    case h_2 => exact absurd hstep (by simp)
  | freeGpu replicaUuid =>
    simp only [ModelThreads.step] at hstep
    split at hstep
    · obtain rfl := Option.some.inj hstep
      exact h
    · split_ifs at hstep
      all_goals
        obtain rfl := Option.some.inj hstep
        exact h.frame _ _ _ _
  | freeGpuGoesOn free =>
    simp only [ModelThreads.step] at hstep
    split at hstep
    · split_ifs at hstep
      obtain rfl := Option.some.inj hstep
      exact h.frame _ _ _ _
    · exact absurd hstep (by simp)

/-- A dispatch that is under way finds the present memory and its vector. -/
theorem Sound.current_of_running (h : m.Sound) {replica : ℕ} {r : GpuReplica}
    {memory : PinnedMemory} {next : ℕ} (hget : m.replicas[replica]? = some r)
    (hdispatch : r.dispatch = .running memory next) :
    ∃ v, m.Current memory v ∧ ∀ chunkId ∈ v.chunks, m.Written memory chunkId := by
  have hr := List.mem_of_getElem? hget
  obtain ⟨memory', v, hcurrent, hchunks⟩ :=
    h.current (h.dispatching r hr (by rw [hdispatch]; simp))
  obtain rfl := Option.some.inj (hcurrent.1.symm.trans (h.memory r hr memory next hdispatch))
  exact ⟨v, hcurrent, hchunks⟩

theorem Sound.dispatchOk (h : m.Sound) {numChunks : ℕ} {a : Action}
    (hstep : m.step numChunks a = some m') : m.DispatchOk a := by
  cases a
  case dispatchStarts replica =>
    simp only [ModelThreads.step] at hstep
    split at hstep
    case h_1 r hget =>
      split_ifs at hstep with hstarting
      obtain ⟨memory, v, hcurrent, -⟩ := h.current
        (h.dispatching r (List.mem_of_getElem? hget) (by simp [hstarting]))
      exact ⟨memory, v, hcurrent⟩
    case h_2 => exact absurd hstep (by simp)
  case dispatchChunk replica =>
    intro r memory next hget hdispatch
    obtain ⟨v, hcurrent, hchunks⟩ := h.current_of_running hget hdispatch
    exact ⟨v, hcurrent, fun chunkId hchunk => hchunks chunkId (List.mem_of_getElem? hchunk)⟩
  case dispatchEnds replica =>
    intro r memory next hget hdispatch
    obtain ⟨v, hcurrent, -⟩ := h.current_of_running hget hdispatch
    exact ⟨v, hcurrent⟩
  all_goals exact trivial

end ModelThreads

/-- The states of the runs that begin with a new model. -/
def Threaded (numChunks : ℕ) (allowed : ModelThreads → Action → Prop) : ModelThreads → Prop :=
  Runs.Reachable (· = {}) (fun m a m' => m.step numChunks a = some m') allowed

/-- **Dispatches of careful runs**: each finds the present memory and its vector, and hands on
chunks that hold the bytes of the files. -/
theorem dispatchOk_of_careful (numChunks : ℕ) (m m' : ModelThreads) (a : Action)
    (hrun : Threaded numChunks ModelThreads.Careful m) (hstep : m.step numChunks a = some m') :
    m.DispatchOk a := by
  have hsound : m.Sound := by
    refine Runs.Reachable.invariant _ ?_ ?_ hrun
    · rintro _ rfl
      exact ModelThreads.sound_empty
    · intro m a m' hinv hcareful hstep
      exact hinv.step hcareful hstep
  exact hsound.dispatchOk hstep

/-- A load of a model of one chunk. -/
def loadFromDisk : List Action :=
  [.allocatePinnedMemory true, .toHost true, .readChunk 0 0, .enqueueChunk 0 0, .readDone 0]

/-- A load, and a dispatch. -/
def loadedAndDispatched : List Action :=
  [.initializeModel] ++ loadFromDisk ++ [.toGpu "r", .dispatchStarts 0]

/-- A load, an eviction, and a dispatch that comes between the allocation and the `ToHost` of the
second load. -/
def reloaded : List Action :=
  [.initializeModel] ++ loadFromDisk ++
    [.tryFreeHost, .allocatePinnedMemory true, .toGpu "r", .dispatchStarts 0]

theorem dispatchOk_loadedAndDispatched : ∃ m m',
    Threaded 1 ModelThreads.Careful m ∧ m.step 1 (.dispatchChunk 0) = some m' ∧
      m.DispatchOk (.dispatchChunk 0) := by
  have hrun : ((Runs.attempt (ModelThreads.step 1) ModelThreads.Careful loadedAndDispatched {}).bind
      (ModelThreads.step 1 · (.dispatchChunk 0))).isSome := by
    decide +kernel
  obtain ⟨m', hm'⟩ := Option.isSome_iff_exists.mp hrun
  obtain ⟨m, hm, hstep⟩ := Option.bind_eq_some_iff.mp hm'
  have hreachable : Threaded 1 ModelThreads.Careful m := .attempt (.start rfl) hm
  exact ⟨m, m', hreachable, hstep,
    dispatchOk_of_careful 1 m m' (.dispatchChunk 0) hreachable hstep⟩

/-- Chunk 0 is handed on although nothing has been read into the second allocation. -/
theorem not_dispatchOk_reloaded : ¬ ∀ numChunks m m' a,
    Threaded numChunks (fun _ _ => True) m → m.step numChunks a = some m' → m.DispatchOk a := by
  intro h
  have hrun : (Runs.attempt (ModelThreads.step 1) (fun _ _ => True) reloaded {}).map (fun m =>
      (m.hostPtrVector, m.replicas, (m.step 1 (.dispatchChunk 0)).isSome)) =
      some (some ⟨1, 1, [0]⟩, [⟨.loading, .running ⟨2, 1⟩ 0⟩], true) := by
    decide +kernel
  obtain ⟨m, hm, hparts⟩ := Option.map_eq_some_iff.mp hrun
  obtain ⟨hvector, hreplicas, hstep⟩ := by simpa only [Prod.mk.injEq] using hparts
  obtain ⟨m', hm'⟩ := Option.isSome_iff_exists.mp hstep
  have hreachable : Threaded 1 (fun _ _ => True) m := .attempt (.start rfl) hm
  obtain ⟨v, ⟨-, hv, hgeneration⟩, -⟩ := h 1 m m' (.dispatchChunk 0) hreachable hm'
    ⟨.loading, .running ⟨2, 1⟩ 0⟩ ⟨2, 1⟩ 0 (by rw [hreplicas]; rfl) rfl
  rw [hvector] at hv
  obtain rfl := Option.some.inj hv
  exact absurd hgeneration (by decide)

end Store
end SpotServe
