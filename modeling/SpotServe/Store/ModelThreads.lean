import SpotServe.Library.OrderedDict

/-!
# The threads of one model

`LoadModelFromDisk`, `LoadModelFromMem` and the frees run in threads of their own and meet in one
`Model` (`csrc/sllm_store/model.cpp`).  Its mutex is held for the checks and the changes of state,
not while chunks are read and dispatched, and a wait on a condition variable releases it.  A
`ModelThreads` is the model with what each thread has in its hands there; an `Action` is what one
thread does before another one can come in.

Which memory is meant is told by numbers: every `PinnedMemory` carries the number of its allocation,
and `written` lists the chunks, by allocation, into which the bytes of the files have been read.
The source keeps neither.
-/

namespace SpotServe
namespace Store

open Py

/-- `MemoryState` -/
inductive Model.MemoryState where
  | uninitialized
  | unallocated
  | allocated
  | loading
  | loaded
  | cancelled
  | interrupted
  deriving DecidableEq, Repr

/-- `PinnedMemory`: the number of its allocation, and how many chunks it has. -/
structure PinnedMemory where
  generation : ℕ
  numChunks : ℕ
  deriving DecidableEq, Repr

/-- `BatchVector`: the allocation it was made for, and the chunks that have been enqueued. -/
structure BatchVector where
  generation : ℕ
  capacity : ℕ
  chunks : List ℕ := []
  deriving DecidableEq, Repr

/-- `ConcurrentVector::enqueue`: every key once. -/
def BatchVector.enqueue (v : BatchVector) (chunkId : ℕ) : BatchVector :=
  if chunkId ∈ v.chunks then v else { v with chunks := v.chunks ++ [chunkId] }

/-- Where a `DispatchToGpu` is. -/
inductive DispatchPhase where
  /-- It has not looked at the pinned memory yet. -/
  | starting
  /-- It has laid its chunks out over that memory and is at number `next` of the vector. -/
  | running (memory : PinnedMemory) (next : ℕ)
  | ended
  deriving DecidableEq, Repr

/-- `GpuReplica`, with its dispatch. -/
structure GpuReplica where
  state : Model.MemoryState := .loading
  dispatch : DispatchPhase := .starting
  deriving DecidableEq, Repr

/-- A `ToHost` that reads: the memory it reads into, what it has read, and what it has enqueued. -/
structure HostRead where
  memory : PinnedMemory
  read : List ℕ := []
  enqueued : List ℕ := []
  deriving DecidableEq, Repr

/-- Where a `FreeHost` is, or a `ToHost` after an error. -/
inductive ReleasePhase where
  /-- It waits for the model to be loaded. -/
  | awaitsHost
  /-- It goes through the replicas. -/
  | looks (replicas : List ℕ)
  /-- It waits for a replica. -/
  | awaitsReplica (replica : ℕ) (replicas : List ℕ)
  deriving DecidableEq, Repr

/-- A `Model` and its threads.  The replicas are known by their place in `replicas`, which stands
for the heap: `gpuReplicas` points there. -/
structure ModelThreads where
  state : Model.MemoryState := .uninitialized
  pinnedMem : Option PinnedMemory := none
  hostPtrVector : Option BatchVector := none
  gpuReplicas : OrderedDict String ℕ := .empty
  replicas : List GpuReplica := []
  allocations : ℕ := 0
  written : List (ℕ × ℕ) := []
  reads : List HostRead := []
  /-- `ToHost`s that failed. -/
  failed : List ReleasePhase := []
  frees : List ReleasePhase := []
  /-- `FreeGpu`s that wait for their replica. -/
  gpuFrees : List (String × ℕ) := []

namespace ModelThreads

/-- The state of a replica. -/
def replicaState (m : ModelThreads) (replica : ℕ) : Option Model.MemoryState :=
  (m.replicas[replica]?).map GpuReplica.state

/-- What the waits for a replica wait for. -/
def settled (m : ModelThreads) (replica : ℕ) : Bool :=
  m.replicaState replica = some .loaded ∨ m.replicaState replica = some .interrupted

/-- The replicas in `gpu_replicas_`. -/
def registered (m : ModelThreads) : List ℕ := m.gpuReplicas.entries.map Prod.snd

/-- `Model::Initialize`, when it finds partitions. -/
def initializeModel (m : ModelThreads) : ModelThreads :=
  if m.state = .uninitialized then { m with state := .unallocated } else m

/-- `Model::AllocatePinnedMemory` of so many chunks; `enough` says whether the pool has them.  If it
has not, the model is left with a `PinnedMemory` without chunks. -/
def allocatePinnedMemory (m : ModelThreads) (numChunks : ℕ) (enough : Bool) : ModelThreads :=
  if m.state = .unallocated then
    let fits := enough ∧ numChunks ≠ 0
    { m with
      allocations := m.allocations + 1
      pinnedMem := some ⟨m.allocations + 1, if fits then numChunks else 0⟩
      state := if fits then .allocated else .unallocated }
  else m

/-- `Model::ToHost` up to its threads; `opened` says whether the files could be opened. -/
def toHost (m : ModelThreads) (opened : Bool) : ModelThreads :=
  match m.pinnedMem with
  | none => m
  | some memory =>
    if m.state = .allocated ∧ opened ∧ memory.numChunks ≠ 0 then
      { m with
        hostPtrVector := some ⟨memory.generation, memory.numChunks, []⟩
        reads := m.reads ++ [⟨memory, [], []⟩]
        state := .loading }
    else m

/-- `pinned_mem_.reset()` -/
def release (m : ModelThreads) : ModelThreads :=
  { m with pinnedMem := none, state := .unallocated }

/-- `Model::TryFreeHost` frees. -/
def canTryFree (m : ModelThreads) : Prop :=
  m.state ≠ .uninitialized ∧ m.state ≠ .unallocated ∧ m.state ≠ .loading ∧
    ∀ replica ∈ m.registered, m.replicaState replica ≠ some .loading

instance (m : ModelThreads) : Decidable m.canTryFree := by
  unfold canTryFree
  infer_instance

/-- `Model::ToGpu` registers a replica. -/
def registersReplica (m : ModelThreads) (replicaUuid : String) : Prop :=
  m.state ≠ .uninitialized ∧ m.gpuReplicas.get? replicaUuid = none

instance (m : ModelThreads) (replicaUuid : String) : Decidable (m.registersReplica replicaUuid) :=
  inferInstanceAs (Decidable (_ ∧ _))

/-- `Model::ToGpu` up to its threads. -/
def toGpu (m : ModelThreads) (replicaUuid : String) : ModelThreads :=
  if m.registersReplica replicaUuid then
    { m with
      gpuReplicas := m.gpuReplicas.set replicaUuid m.replicas.length
      replicas := m.replicas ++ [{}] }
  else m

/-- A replica goes on. -/
def setReplica (m : ModelThreads) (replica : ℕ) (next : GpuReplica) : ModelThreads :=
  { m with replicas := m.replicas.set replica next }

/-- A replica that is loading is cancelled. -/
def cancelReplica (m : ModelThreads) (replica : ℕ) : ModelThreads :=
  match m.replicas[replica]? with
  | some r => if r.state = .loading then m.setReplica replica { r with state := .cancelled } else m
  | none => m

end ModelThreads

/-- What a thread does before another one can come in. -/
inductive Action where
  | initializeModel
  | allocatePinnedMemory (enough : Bool)
  | toHost (opened : Bool)
  /-- A thread of a `ToHost` reads a chunk. -/
  | readChunk (read chunkId : ℕ)
  /-- The thread enqueues it. -/
  | enqueueChunk (read chunkId : ℕ)
  /-- All threads of a `ToHost` are done. -/
  | readDone (read : ℕ)
  /-- A thread of a `ToHost` failed. -/
  | readFailed (read : ℕ)
  /-- A `ToHost` that failed goes on: with the next replica, or when a wait of its is over. -/
  | failedGoesOn (failed : ℕ)
  /-- A `ToHost` that failed resets the memory. -/
  | failedReleases (failed : ℕ)
  | freeHost
  /-- A `FreeHost` goes on: with the next replica, or when a wait of its is over. -/
  | freeGoesOn (free : ℕ)
  /-- A `FreeHost` resets the memory. -/
  | freeReleases (free : ℕ)
  | tryFreeHost
  | toGpu (replicaUuid : String)
  /-- A `DispatchToGpu` lays its chunks out over the pinned memory. -/
  | dispatchStarts (replica : ℕ)
  /-- A `DispatchToGpu` takes the next chunk of the vector and hands it to the queues. -/
  | dispatchChunk (replica : ℕ)
  /-- A `DispatchToGpu` is at the end of the vector. -/
  | dispatchEnds (replica : ℕ)
  /-- A `ToGpu` is over. -/
  | toGpuDone (replica : ℕ) (error : Bool)
  | freeGpu (replicaUuid : String)
  /-- The wait of a `FreeGpu` is over. -/
  | freeGpuGoesOn (free : ℕ)

namespace ModelThreads

/-- A `ToHost` that failed goes on: it cancels the next replica, and waits for it. -/
def failedGoesOn (m : ModelThreads) (failed : ℕ) : Option ModelThreads :=
  match m.failed[failed]? with
  | some (.looks (replica :: replicas)) =>
    some { m.cancelReplica replica with
      failed := m.failed.set failed (.awaitsReplica replica replicas) }
  | some (.awaitsReplica replica replicas) =>
    if m.settled replica then some { m with failed := m.failed.set failed (.looks replicas) }
    else none
  | _ => none

/-- A `FreeHost` goes on. -/
def freeGoesOn (m : ModelThreads) (free : ℕ) : Option ModelThreads :=
  match m.frees[free]? with
  | some .awaitsHost =>
    if m.state = .loaded ∨ m.state = .interrupted then
      some { m with frees := m.frees.set free (.looks m.registered) }
    else none
  | some (.looks (replica :: replicas)) =>
    let phase := if m.replicaState replica = some .loading then .awaitsReplica replica replicas
      else .looks replicas
    some { m with frees := m.frees.set free phase }
  | some (.awaitsReplica replica replicas) =>
    if m.settled replica then some { m with frees := m.frees.set free (.looks replicas) } else none
  | _ => none

/-- One action of a model of so many chunks; `none` when the thread is not there, or waits.  Where a
dispatch uses a null pointer the state stays as it is: nothing more can be said of the run. -/
def step (numChunks : ℕ) (m : ModelThreads) : Action → Option ModelThreads
  | .initializeModel => some m.initializeModel
  | .allocatePinnedMemory enough => some (m.allocatePinnedMemory numChunks enough)
  | .toHost opened => some (m.toHost opened)
  | .readChunk read chunkId =>
    match m.reads[read]? with
    | some r =>
      if chunkId < r.memory.numChunks then
        some { m with
          reads := m.reads.set read { r with read := r.read ++ [chunkId] }
          written := (r.memory.generation, chunkId) :: m.written }
      else none
    | none => none
  | .enqueueChunk read chunkId =>
    match m.reads[read]? with
    | some r =>
      if chunkId ∈ r.read then
        some { m with
          reads := m.reads.set read { r with enqueued := r.enqueued ++ [chunkId] }
          hostPtrVector := m.hostPtrVector.map (BatchVector.enqueue · chunkId) }
      else none
    | none => none
  | .readDone read =>
    match m.reads[read]? with
    | some r =>
      if ∀ chunkId < r.memory.numChunks, chunkId ∈ r.enqueued then
        some { m with reads := m.reads.eraseIdx read, state := .loaded }
      else none
    | none => none
  | .readFailed read =>
    match m.reads[read]? with
    | some _ =>
      some { m with
        reads := m.reads.eraseIdx read
        failed := m.failed ++ [.looks m.registered]
        state := .interrupted }
    | none => none
  | .failedGoesOn failed => m.failedGoesOn failed
  | .failedReleases failed =>
    match m.failed[failed]? with
    | some (.looks []) => some { m.release with failed := m.failed.eraseIdx failed }
    | _ => none
  | .freeHost =>
    if m.state = .uninitialized ∨ m.state = .unallocated then some m
    else if m.state = .loading then some { m with frees := m.frees ++ [.awaitsHost] }
    else some { m with frees := m.frees ++ [.looks m.registered] }
  | .freeGoesOn free => m.freeGoesOn free
  | .freeReleases free =>
    match m.frees[free]? with
    | some (.looks []) => some { m.release with frees := m.frees.eraseIdx free }
    | _ => none
  | .tryFreeHost => if m.canTryFree then some m.release else some m
  | .toGpu replicaUuid => some (m.toGpu replicaUuid)
  | .dispatchStarts replica =>
    match m.replicas[replica]? with
    | some r =>
      if r.dispatch = .starting then
        match m.pinnedMem with
        | none => some m
        | some memory => some (m.setReplica replica { r with dispatch := .running memory 0 })
      else none
    | none => none
  | .dispatchChunk replica =>
    match m.replicas[replica]? with
    | some ⟨state, .running memory next⟩ =>
      match m.hostPtrVector with
      | none => some m
      | some v =>
        if next < v.capacity ∧ next < v.chunks.length then
          some (m.setReplica replica ⟨state, .running memory (next + 1)⟩)
        else none
    | _ => none
  | .dispatchEnds replica =>
    match m.replicas[replica]? with
    | some ⟨state, .running _ next⟩ =>
      match m.hostPtrVector with
      | none => some m
      | some v => if v.capacity ≤ next then some (m.setReplica replica ⟨state, .ended⟩) else none
    | _ => none
  | .toGpuDone replica error =>
    match m.replicas[replica]? with
    | some ⟨state, .ended⟩ =>
      if state = .loading ∨ state = .cancelled then
        some (m.setReplica replica ⟨if error then .interrupted else .loaded, .ended⟩)
      else none
    | _ => none
  | .freeGpu replicaUuid =>
    match m.gpuReplicas.get? replicaUuid with
    | none => some m
    | some replica =>
      if m.replicaState replica = some .loading then
        some { m with gpuFrees := m.gpuFrees ++ [(replicaUuid, replica)] }
      else some { m with gpuReplicas := m.gpuReplicas.erase replicaUuid }
  | .freeGpuGoesOn free =>
    match m.gpuFrees[free]? with
    | some (replicaUuid, replica) =>
      -- What is registered under the id by now may be another replica.
      if m.settled replica then
        some { m with
          gpuReplicas := m.gpuReplicas.erase replicaUuid
          gpuFrees := m.gpuFrees.eraseIdx free }
      else none
    | none => none

end ModelThreads

end Store
end SpotServe
