import Mathlib.Data.List.Sort
import SpotServe.Store.HostLoad
import SpotServe.Store.ModelThreads
import SpotServe.Store.PinnedMemoryPool

/-!
# The checkpoint store

`CheckpointStore` (`csrc/sllm_store/checkpoint_store.cpp`) keeps two tables by model path: the
registered models, and when each was last asked for.  `LoadModelFromDisk` goes through the second
table when memory is short, frees one model after the other, and looks each of them up in the first
with `model_map_[path]`, which makes an entry where there is none.

The operations run one after the other here; what happens when they overlap inside one model is
the subject of `ModelThreads`.  Between two operations nothing is loading, so a wait of `FreeHost`
would never end (`Fault.waits`).
-/

namespace SpotServe
namespace Store

open Py

/-- A `Model`, as far as its place in the host memory goes; a null `pinned_mem_` is `none`. -/
structure HostModel where
  state : Model.MemoryState
  modelSize : ℕ
  pinnedMem : Option ℕ := none
  gpuReplicas : OrderedDict String Model.MemoryState := .empty

/-- What keeps an operation from returning. -/
inductive Fault where
  /-- A null `ModelPtr` is dereferenced. -/
  | nullModel (modelPath : String)
  /-- A null `pinned_mem_` is dereferenced. -/
  | nullMemory
  | waits
  deriving DecidableEq, Repr

namespace HostModel

/-- A replica is loading. -/
def replicaLoading (m : HostModel) : Prop := Model.MemoryState.loading ∈ m.gpuReplicas.values

instance (m : HostModel) : Decidable m.replicaLoading := inferInstanceAs (Decidable (_ ∈ _))

/-- The reset of `pinned_mem_`, with the chunks that go back to the pool. -/
def reset (m : HostModel) : Except Fault (ℕ × HostModel) :=
  match m.pinnedMem with
  | none => .error .nullMemory
  | some chunks => .ok (chunks, { m with pinnedMem := none, state := .unallocated })

/-- `Model::AllocatePinnedMemory` from a pool with so many free chunks: what it returns, the model,
and the free chunks. -/
def allocatePinnedMemory (cfg : StoreConfig) (free : ℕ) (m : HostModel) : ℤ × HostModel × ℕ :=
  if m.state = .uninitialized then (-1, m, free)
  else if m.state ≠ .unallocated then (0, m, free)
  else
    -- the new `PinnedMemory` takes the place of the old one
    let free := free + m.pinnedMem.getD 0
    let (ret, chunks) := allocateCount cfg.chunkSize free m.modelSize
    let m := { m with pinnedMem := some chunks }
    if ret ≠ 0 then (ret, m, free - chunks)
    else if chunks = 0 then (-1, m, free - chunks)
    else (0, { m with state := .allocated }, free - chunks)

/-- `Model::TryFreeHost`: what it returns, the model, and the chunks that are free now. -/
def tryFreeHost (m : HostModel) : Except Fault (ℤ × HostModel × ℕ) :=
  if m.state = .uninitialized ∨ m.state = .unallocated then .ok (0, m, 0)
  else if m.state = .loading ∨ m.replicaLoading then .ok (-1, m, 0)
  else m.reset.map fun (chunks, m) => (toInt chunks, m, chunks)

/-- `Model::FreeHost` -/
def freeHost (m : HostModel) : Except Fault (ℤ × HostModel × ℕ) :=
  if m.state = .uninitialized ∨ m.state = .unallocated then .ok (1, m, 0)
  else if m.state = .loading ∨ m.replicaLoading then .error .waits
  else m.reset.map fun (chunks, m) => (0, m, chunks)

end HostModel

/-- How the reading of the files goes. -/
inductive ReadOutcome where
  /-- A file cannot be opened. -/
  | notOpened
  | failed
  | done
  deriving DecidableEq, Repr

namespace HostModel

/-- `Model::ToHost`: what it returns, the model, and the chunks that are free now. -/
def toHost (m : HostModel) (outcome : ReadOutcome) : ℤ × HostModel × ℕ :=
  if m.state = .loading ∨ m.state = .loaded then (0, m, 0)
  else if m.state ≠ .allocated then (-1, m, 0)
  else
    match outcome with
    | .notOpened => (-1, m, 0)
    | .failed =>
      if m.pinnedMem.getD 0 = 0 then (1, m, 0)
      else (-1, { m with pinnedMem := none, state := .unallocated }, m.pinnedMem.getD 0)
    | .done => if m.pinnedMem.getD 0 = 0 then (1, m, 0) else (0, { m with state := .loaded }, 0)

/-- `Model::ToGpu`, and the `FreeGpu` that follows a failure; `copied` says whether the devices got
their chunks.  What a dispatch does that finds no memory is not said here. -/
def toGpu (m : HostModel) (replicaUuid : String) (copied : Bool) : ℤ × HostModel :=
  if m.state ≠ .uninitialized ∧ m.gpuReplicas.get? replicaUuid = none ∧ copied then
    (0, { m with gpuReplicas := m.gpuReplicas.set replicaUuid .loaded })
  else (-1, { m with gpuReplicas := m.gpuReplicas.erase replicaUuid })

end HostModel

/-- `CheckpointStore`: the models, when they were last asked for, and the free chunks of the pool.
A `ModelPtr` may be null. -/
structure CheckpointStore where
  modelMap : OrderedDict String (Option HostModel) := .empty
  modelLastAccessTime : OrderedDict String ℕ := .empty
  freeChunks : ℕ

/-- In which order the eviction loop goes through the table: by time, and as the hash map has it
where times are equal. -/
structure EvictionOrder where
  list : OrderedDict String ℕ → List (String × ℕ)
  perm : ∀ table, (list table).Perm table.entries
  sorted : ∀ table, (list table).Pairwise fun a b => a.2 ≤ b.2

/-- The order of insertion where times are equal. -/
def EvictionOrder.stable : EvictionOrder where
  list table := table.entries.insertionSort fun a b => a.2 ≤ b.2
  perm table := List.perm_insertionSort _ _
  sorted table := by
    have : Std.Total fun a b : String × ℕ => a.2 ≤ b.2 := ⟨fun a b => le_total a.2 b.2⟩
    have : IsTrans (String × ℕ) fun a b => a.2 ≤ b.2 := ⟨fun _ _ _ => le_trans⟩
    exact List.pairwise_insertionSort _ table.entries

/-- An operation, with what its surroundings bring in. -/
inductive Operation where
  /-- `found` is the size of the files, when they can be looked at. -/
  | registerModelInfo (modelPath : String) (found : Option ℕ)
  | loadModelFromDisk (modelPath : String) (order : EvictionOrder) (now : ℕ)
      (outcome : ReadOutcome)
  /-- `handles` and `chunks` are the numbers of devices in the two maps. -/
  | loadModelFromMem (modelPath replicaUuid : String) (handles chunks : ℕ) (now : ℕ)
      (copied : Bool)
  | unloadModelFromHost (modelPath : String)
  | clearMem

namespace CheckpointStore

variable (cfg : StoreConfig) (s : CheckpointStore)

/-- `GetModelPtr` -/
def getModelPtr (modelPath : String) : Option HostModel := (s.modelMap.get? modelPath).join

/-- A model that is in the map changes, and chunks come back to the pool. -/
def setModel (modelPath : String) (m : HostModel) (freed : ℕ) : CheckpointStore :=
  { s with
    modelMap := s.modelMap.set modelPath (some m)
    freeChunks := s.freeChunks + freed }

/-- `RegisterModelInfo` -/
def registerModelInfo (modelPath : String) (found : Option ℕ) :
    Except Fault (ℤ × CheckpointStore) :=
  match s.modelMap.get? modelPath with
  | some none => .error (.nullModel modelPath)
  | some (some m) => .ok (m.modelSize, s)
  | none =>
    match found with
    | some (size + 1) =>
      .ok (size + 1, s.setModel modelPath ⟨.unallocated, size + 1, none, .empty⟩ 0)
    | _ => .ok (-1, s)

/-- The eviction loop, over what is left of the list; `needed` chunks are wanted. -/
def evict : List (String × ℕ) → ℤ → CheckpointStore → Except Fault (ℤ × CheckpointStore)
  | [], needed, s => .ok (needed, s)
  | (modelPath, _) :: rest, needed, s =>
    match s.getModelPtr modelPath with
    -- `model_map_[modelPath]` is null, if need be in a new entry
    | none => .error (.nullModel modelPath)
    | some m =>
      match m.tryFreeHost with
      | .error fault => .error fault
      | .ok (freed, m, chunks) =>
        let s := s.setModel modelPath m chunks
        if 0 < freed ∧ needed - freed ≤ 0 then .ok (needed - freed, s)
        else evict rest (if 0 < freed then needed - freed else needed) s

/-- The model allocates its memory. -/
def allocate (modelPath : String) (m : HostModel) : ℤ × CheckpointStore :=
  let (ret, m, free) := m.allocatePinnedMemory cfg s.freeChunks
  (ret, { s with modelMap := s.modelMap.set modelPath (some m), freeChunks := free })

/-- The second part of `LoadModelFromDisk`: `ToHost`, and `FreeHost` when it fails. -/
def fetch (modelPath : String) (outcome : ReadOutcome) : Except Fault (ℤ × CheckpointStore) :=
  match s.getModelPtr modelPath with
  | none => .error (.nullModel modelPath)
  | some m =>
    let (ret, m, chunks) := m.toHost outcome
    let s := s.setModel modelPath m chunks
    if ret = 0 then .ok (ret, s)
    else m.freeHost.map fun (_, m, chunks) => (ret, s.setModel modelPath m chunks)

/-- The memory is there: the time is noted, and the files are read. -/
def noteAndFetch (modelPath : String) (now : ℕ) (outcome : ReadOutcome) :
    Except Fault (ℤ × CheckpointStore) :=
  { s with modelLastAccessTime := s.modelLastAccessTime.set modelPath now }.fetch modelPath outcome

/-- `LoadModelFromDisk` -/
def loadModelFromDisk (modelPath : String) (order : EvictionOrder) (now : ℕ)
    (outcome : ReadOutcome) : Except Fault (ℤ × CheckpointStore) :=
  match s.getModelPtr modelPath with
  | none => .ok (-1, s)
  | some m =>
    let (remainingSize, s) := s.allocate cfg modelPath m
    if remainingSize < 0 then .ok (-1, s)
    else if remainingSize = 0 then s.noteAndFetch modelPath now outcome
    else
      match evict (order.list s.modelLastAccessTime) remainingSize s with
      | .error fault => .error fault
      | .ok (needed, s) =>
        if 0 < needed then .ok (-1, s)
        else
          match s.getModelPtr modelPath with
          | none => .error (.nullModel modelPath)
          | some m =>
            let (remainingSize, s) := s.allocate cfg modelPath m
            if remainingSize < 0 then .ok (-1, s) else s.noteAndFetch modelPath now outcome

/-- `LoadModelFromMem` -/
def loadModelFromMem (modelPath replicaUuid : String) (handles chunks now : ℕ) (copied : Bool) :
    ℤ × CheckpointStore :=
  if modelPath = "" ∨ replicaUuid = "" ∨ chunks = 0 ∨ handles ≠ chunks then (-1, s)
  else
    match s.getModelPtr modelPath with
    | none => (-1, s)
    | some m =>
      let (ret, m) := m.toGpu replicaUuid copied
      (ret, { s with modelLastAccessTime := s.modelLastAccessTime.set modelPath now }.setModel
        modelPath m 0)

/-- `UnloadModelFromHost` -/
def unloadModelFromHost (modelPath : String) : Except Fault (ℤ × CheckpointStore) :=
  match s.modelMap.get? modelPath with
  | none => .ok (1, s)
  | some none => .error (.nullModel modelPath)
  | some (some m) => m.freeHost.map fun (ret, m, chunks) => (ret, s.setModel modelPath m chunks)

/-- The loop of `ClearMem`: the chunks that come back to the pool. -/
def freeModels : List (String × Option HostModel) → Except Fault ℕ
  | [] => .ok 0
  | (modelPath, none) :: _ => .error (.nullModel modelPath)
  | (_, some m) :: rest =>
    match m.freeHost with
    | .error fault => .error fault
    | .ok (_, _, chunks) => (freeModels rest).map (chunks + ·)

/-- `ClearMem`: the models are gone, and the times stay. -/
def clearMem : Except Fault (ℤ × CheckpointStore) :=
  (freeModels s.modelMap.entries).map fun chunks =>
    (0, { s with modelMap := .empty, freeChunks := s.freeChunks + chunks })

/-- One operation. -/
def step : Operation → Except Fault (ℤ × CheckpointStore)
  | .registerModelInfo modelPath found => s.registerModelInfo modelPath found
  | .loadModelFromDisk modelPath order now outcome =>
    s.loadModelFromDisk cfg modelPath order now outcome
  | .loadModelFromMem modelPath replicaUuid handles chunks now copied =>
    .ok (s.loadModelFromMem modelPath replicaUuid handles chunks now copied)
  | .unloadModelFromHost modelPath => s.unloadModelFromHost modelPath
  | .clearMem => s.clearMem

end CheckpointStore

end Store
end SpotServe
