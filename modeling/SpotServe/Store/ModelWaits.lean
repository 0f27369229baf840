import SpotServe.Library.Monitor
import SpotServe.Store.ModelThreads

/-!
# The waits of one model

The critical sections of `Model` (`csrc/sllm_store/model.cpp`), with the code each of them returns,
the condition variables it notifies and the waits it ends in.  `cv_` belongs to the model, and every
replica has one of its own.

Replicas are known by numbers, which stand for the objects on the heap: `gpu_replicas_` is a
dictionary of them, and a thread that waits for a replica keeps its number.  (The source keeps
references into the map, which another thread may erase from meanwhile.)  In which order a loop goes
over `gpu_replicas_` is left open.
-/

namespace SpotServe
namespace Store

open Py Monitor

/-- The number of a state. -/
def Model.MemoryState.number : Model.MemoryState → ℕ
  | .uninitialized => 0
  | .unallocated => 1
  | .allocated => 2
  | .loading => 3
  | .loaded => 4
  | .cancelled => 100
  | .interrupted => 101

/-- `cv_`, and the `cv_` of a replica. -/
inductive CondVar where
  | host
  | replica (replica : ℕ)
  deriving DecidableEq

/-- The waits, by the functions they are in. -/
inductive Wait where
  | waitInHost
  /-- `WaitInGpu`, for a replica to be registered. -/
  | waitInGpu (replicaUuid : String)
  /-- `WaitInGpu`, for the replica. -/
  | waitInGpuReplica (replica : ℕ)
  | freeGpu (replicaUuid : String) (replica : ℕ)
  /-- `FreeHost`, for the model. -/
  | freeHost
  /-- `FreeHost`, for a replica, with others still to look at. -/
  | freeHostReplica (replica : ℕ) (replicas : List ℕ)
  /-- A `ToHost` that failed, for a replica. -/
  | toHost (replica : ℕ) (replicas : List ℕ)
  deriving DecidableEq

/-- The condition variable of a wait. -/
def Wait.condVar : Wait → CondVar
  | .waitInHost | .freeHost | .waitInGpu _ => .host
  | .waitInGpuReplica replica | .freeGpu _ replica | .freeHostReplica replica _
  | .toHost replica _ => .replica replica

/-- Waits for the model to be loaded. -/
def Wait.ForHost : Wait → Prop
  | .waitInHost | .freeHost => True
  | _ => False

instance : DecidablePred Wait.ForHost := fun w => by
  cases w <;> unfold Wait.ForHost <;> infer_instance

/-- What a thread does without the mutex. -/
inductive Work where
  /-- `ToHost` reads the files. -/
  | reads
  /-- `ToGpu` copies to the devices. -/
  | copies (replica : ℕ)
  deriving DecidableEq

/-- How a critical section ends. -/
inductive SectionEnd where
  | returns (code : ℤ)
  | waits (wait : Wait)
  | works (work : Work)
  /-- A null pointer is followed, or `at` finds nothing. -/
  | faults

/-- What `mutex_` guards; of the pinned memory, how many chunks it has. -/
structure GuardedModel where
  state : Model.MemoryState := .uninitialized
  pinnedMem : Option ℕ := none
  gpuReplicas : OrderedDict String ℕ := .empty
  replicas : List Model.MemoryState := []

/-- What a critical section leaves, notifies and ends in. -/
structure ModelSection where
  model : GuardedModel
  signals : List CondVar := []
  ending : SectionEnd

namespace GuardedModel

/-! ## What is waited for -/

/-- The predicate of the waits for the model. -/
def HostSettled (m : GuardedModel) : Prop := m.state = .loaded ∨ m.state = .interrupted

/-- The predicate of the waits for a replica. -/
def Settled (m : GuardedModel) (replica : ℕ) : Prop :=
  m.replicas[replica]? = some .loaded ∨ m.replicas[replica]? = some .interrupted

instance (m : GuardedModel) : Decidable m.HostSettled := inferInstanceAs (Decidable (_ ∨ _))

instance (m : GuardedModel) (replica : ℕ) : Decidable (m.Settled replica) :=
  inferInstanceAs (Decidable (_ ∨ _))

/-- The predicate of a wait. -/
def Holds (m : GuardedModel) : Wait → Prop
  | .waitInHost | .freeHost => m.HostSettled
  | .waitInGpu replicaUuid => replicaUuid ∈ m.gpuReplicas.keys
  | .waitInGpuReplica replica | .freeGpu _ replica | .freeHostReplica replica _
  | .toHost replica _ => m.Settled replica

instance (m : GuardedModel) (w : Wait) : Decidable (m.Holds w) := by
  cases w <;> unfold Holds <;> infer_instance

/-! ## Critical sections -/

/-- A section that changes nothing. -/
def ends (m : GuardedModel) (ending : SectionEnd) : ModelSection := { model := m, ending := ending }

/-- A replica gets a state. -/
def setReplica (m : GuardedModel) (replica : ℕ) (state : Model.MemoryState) : GuardedModel :=
  { m with replicas := m.replicas.set replica state }

/-- `gpu_replicas_.erase` -/
def eraseReplica (m : GuardedModel) (replicaUuid : String) : GuardedModel :=
  { m with gpuReplicas := m.gpuReplicas.erase replicaUuid }

/-- `pinned_mem_.reset()`, and the model is unallocated. -/
def release (m : GuardedModel) : GuardedModel :=
  { m with pinnedMem := none, state := .unallocated }

/-- `Model::Initialize`; `found` says whether there are partitions. -/
def initializeModel (m : GuardedModel) (found : Bool) : ModelSection :=
  if m.state ≠ .uninitialized then m.ends (.returns 0)
  else if found then { m with state := .unallocated }.ends (.returns 0)
  else m.ends (.returns (-1))

/-- `Model::AllocatePinnedMemory`, with what `PinnedMemory::Allocate` returns and the chunks it
gets. -/
def allocatePinnedMemory (m : GuardedModel) (ret : ℤ) (numChunks : ℕ) : ModelSection :=
  if m.state = .uninitialized then m.ends (.returns (-1))
  else if m.state ≠ .unallocated then m.ends (.returns 0)
  else
    let m := { m with pinnedMem := some numChunks }
    if ret ≠ 0 then m.ends (.returns ret)
    else if numChunks = 0 then m.ends (.returns (-1))
    else { m with state := .allocated }.ends (.returns 0)

/-- `Model::ToHost`, up to its threads; `opened` says whether the files could be opened. -/
def toHost (m : GuardedModel) (opened : Bool) : ModelSection :=
  if m.state ≠ .allocated then
    if m.state = .loading ∨ m.state = .loaded then m.ends (.returns 0) else m.ends (.returns (-1))
  else if !opened then m.ends (.returns (-1))
  else if m.pinnedMem.getD 0 = 0 then m.ends (.returns 1)
  else { m with state := .loading }.ends (.works .reads)

/-- A `ToHost` that failed, over the replicas that are left: what loads is cancelled and waited
for.  In the end the memory is given back. -/
def failed (m : GuardedModel) (signals : List CondVar) : List ℕ → ModelSection
  | [] => ⟨m.release, signals, .returns (-1)⟩
  | replica :: replicas =>
    let loads := m.replicas[replica]? = some .loading
    let m := if loads then m.setReplica replica .cancelled else m
    let signals := if loads then signals ++ [.replica replica] else signals
    if m.Settled replica then m.failed signals replicas
    else ⟨m, signals, .waits (.toHost replica replicas)⟩

/-- `Model::ToHost`, from its threads on. -/
def toHostDone (m : GuardedModel) (error : Bool) (replicas : List ℕ) : ModelSection :=
  if error then failed { m with state := .interrupted } [] replicas
  else { m with state := .loaded }.ends (.returns 0)

/-- `Model::ToGpu`, up to its threads. -/
def toGpu (m : GuardedModel) (replicaUuid : String) : ModelSection :=
  if m.state = .uninitialized then m.ends (.returns (-1))
  else if replicaUuid ∈ m.gpuReplicas.keys then m.ends (.returns (-1))
  else
    { model := { m with
        gpuReplicas := m.gpuReplicas.set replicaUuid m.replicas.length
        replicas := m.replicas ++ [.loading] }
      signals := [.host]
      ending := .works (.copies m.replicas.length) }

/-- `Model::ToGpu`, from its threads on. -/
def toGpuDone (m : GuardedModel) (replica : ℕ) (error : Bool) : ModelSection :=
  { model := m.setReplica replica (if error then .interrupted else .loaded)
    signals := [.replica replica]
    ending := .returns (if error then -1 else 0) }

/-- What a wait for a state returns. -/
def waitResult (state : Model.MemoryState) : SectionEnd :=
  .returns (if Model.MemoryState.interrupted.number ≤ state.number then 1 else 0)

/-- `Model::WaitInHost` -/
def waitInHost (m : GuardedModel) : ModelSection :=
  if m.state.number < Model.MemoryState.loaded.number then m.ends (.waits .waitInHost)
  else m.ends (waitResult m.state)

/-- `Model::WaitInGpu`, once the replica is registered. -/
def waitRegistered (m : GuardedModel) (replicaUuid : String) : ModelSection :=
  match m.gpuReplicas.get? replicaUuid with
  | none => m.ends .faults
  | some replica =>
    match m.replicas[replica]? with
    | none => m.ends .faults
    | some state =>
      if state.number < Model.MemoryState.loaded.number then
        m.ends (.waits (.waitInGpuReplica replica))
      else m.ends (waitResult state)

/-- `Model::WaitInGpu` -/
def waitInGpu (m : GuardedModel) (replicaUuid : String) : ModelSection :=
  if replicaUuid ∉ m.gpuReplicas.keys then m.ends (.waits (.waitInGpu replicaUuid))
  else m.waitRegistered replicaUuid

/-- `Model::FreeGpu` -/
def freeGpu (m : GuardedModel) (replicaUuid : String) : ModelSection :=
  match m.gpuReplicas.get? replicaUuid with
  | none => m.ends (.returns (-1))
  | some replica =>
    if m.replicas[replica]? = some .uninitialized then (m.eraseReplica replicaUuid).ends (.returns 0)
    else if m.replicas[replica]? = some .loading then m.ends (.waits (.freeGpu replicaUuid replica))
    else (m.eraseReplica replicaUuid).ends (.returns 0)

/-- `Model::FreeHost`, over the replicas that are left. -/
def freeReplicas (m : GuardedModel) : List ℕ → ModelSection
  | [] =>
    match m.pinnedMem with
    | none => m.ends .faults
    | some _ => m.release.ends (.returns 0)
  | replica :: replicas =>
    if m.replicas[replica]? = some .loading then
      m.ends (.waits (.freeHostReplica replica replicas))
    else m.freeReplicas replicas

/-- `Model::FreeHost` -/
def freeHost (m : GuardedModel) (replicas : List ℕ) : ModelSection :=
  if m.state = .uninitialized ∨ m.state = .unallocated then m.ends (.returns 1)
  else if m.state = .loading then m.ends (.waits .freeHost)
  else m.freeReplicas replicas

/-- `Model::TryFreeHost` -/
def tryFreeHost (m : GuardedModel) : ModelSection :=
  if m.state = .uninitialized ∨ m.state = .unallocated then m.ends (.returns 0)
  else if m.state = .loading then m.ends (.returns (-1))
  else if ∃ replica ∈ m.gpuReplicas.values, m.replicas[replica]? = some .loading then
    m.ends (.returns (-1))
  else
    match m.pinnedMem with
    | none => m.ends .faults
    | some numChunks => m.release.ends (.returns numChunks)

/-- A wait is over. -/
def resume (m : GuardedModel) (replicas : List ℕ) : Wait → ModelSection
  | .waitInHost => m.ends (waitResult m.state)
  | .waitInGpu replicaUuid => m.waitRegistered replicaUuid
  | .waitInGpuReplica replica =>
    match m.replicas[replica]? with
    | none => m.ends .faults
    | some state => m.ends (waitResult state)
  | .freeGpu replicaUuid _ => (m.eraseReplica replicaUuid).ends (.returns 0)
  | .freeHost => m.freeReplicas replicas
  | .freeHostReplica _ replicas => m.freeReplicas replicas
  | .toHost _ replicas => m.failed [] replicas

end GuardedModel

/-! ## Threads -/

/-- The functions of `Model`. -/
inductive ModelCall where
  | initializeModel (found : Bool)
  | allocatePinnedMemory (ret : ℤ) (numChunks : ℕ)
  | toHost (opened : Bool)
  | toGpu (replicaUuid : String)
  | waitInHost
  | waitInGpu (replicaUuid : String)
  | freeGpu (replicaUuid : String)
  | freeHost
  | tryFreeHost

/-- The first critical section of a function. -/
def GuardedModel.enter (m : GuardedModel) (replicas : List ℕ) : ModelCall → ModelSection
  | .initializeModel found => m.initializeModel found
  | .allocatePinnedMemory ret numChunks => m.allocatePinnedMemory ret numChunks
  | .toHost opened => m.toHost opened
  | .toGpu replicaUuid => m.toGpu replicaUuid
  | .waitInHost => m.waitInHost
  | .waitInGpu replicaUuid => m.waitInGpu replicaUuid
  | .freeGpu replicaUuid => m.freeGpu replicaUuid
  | .freeHost => m.freeHost replicas
  | .tryFreeHost => m.tryFreeHost

/-- A model with its threads: those that wait, and those that work without the mutex. -/
structure ModelMonitor where
  model : GuardedModel := {}
  parked : List (Parked Wait) := []
  working : List (ℕ × Work) := []
  /-- How many threads there have been. -/
  threads : ℕ := 0
  /-- The threads that have waited for the model while a `ToHost` finished, and have not been
  notified since at a moment at which it was loaded or interrupted; the code keeps no such
  record. -/
  owed : List ℕ := []

/-- What a thread does with the mutex; `replicas` is the order in which a loop finds the replicas of
the model. -/
inductive SectionAction where
  /-- A new thread. -/
  | enter (call : ModelCall) (replicas : List ℕ)
  /-- The threads of a `ToHost` are done. -/
  | toHostDone (thread : ℕ) (error : Bool) (replicas : List ℕ)
  /-- The threads of a `ToGpu` are done. -/
  | toGpuDone (thread replica : ℕ) (error : Bool)
  /-- The thread that is parked at a place wakes up, for a notification or without one. -/
  | wake (place : ℕ) (replicas : List ℕ)

namespace ModelMonitor

/-- A thread leaves the mutex. -/
def leave (s : ModelMonitor) (thread : ℕ) (r : ModelSection) : Option ModelMonitor :=
  let s := { s with
    model := r.model
    parked := notifyAll Wait.condVar r.signals s.parked
    owed := if CondVar.host ∈ r.signals ∧ r.model.HostSettled then [] else s.owed }
  match r.ending with
  | .returns _ => some s
  | .waits wait => some { s with parked := s.parked ++ [{ thread := thread, wait := wait }] }
  | .works work => some { s with working := s.working ++ [(thread, work)] }
  | .faults => none

/-- The threads that wait for the model. -/
def hostWaiters (s : ModelMonitor) : List ℕ :=
  (s.parked.filter fun p => p.wait.ForHost).map Parked.thread

/-- The steps; none is left once the process has crashed. -/
def step (s : ModelMonitor) : SectionAction → Option ModelMonitor
  | .enter call replicas =>
    if replicas.Perm s.model.gpuReplicas.values then
      leave { s with threads := s.threads + 1 } s.threads (s.model.enter replicas call)
    else none
  | .toHostDone thread error replicas =>
    if (thread, .reads) ∈ s.working ∧ replicas.Perm s.model.gpuReplicas.values then
      leave { s with
        working := s.working.erase (thread, .reads)
        owed := s.owed ++ s.hostWaiters } thread (s.model.toHostDone error replicas)
    else none
  | .toGpuDone thread replica error =>
    if (thread, .copies replica) ∈ s.working then
      leave { s with working := s.working.erase (thread, .copies replica) } thread
        (s.model.toGpuDone replica error)
    else none
  | .wake place replicas =>
    match s.parked[place]? with
    | none => none
    | some p =>
      if s.model.Holds p.wait then
        if replicas.Perm s.model.gpuReplicas.values then
          leave { s with parked := s.parked.eraseIdx place } p.thread
            (s.model.resume replicas p.wait)
        else none
      else some { s with parked := s.parked.set place { p with notified := false } }

end ModelMonitor

end Store
end SpotServe
