import SpotServe.Library.Runs
import SpotServe.Router.Slots

/-!
# Every slot that is taken is given back

The counter of a handle and the number of attempts with a slot on it change together in every
action but three (`Orderly`):

* an attempt whose instance was switched off or stopped between the grant and the look-up ends
  with `instance` still `None`, and its `finally` releases nothing;
* the same holds for a cancellation in that window, or while the release waits for the handle's
  lock;
* the load balancer takes the slot before it resolves the future, and a future whose waiter was
  cancelled cannot be resolved.
-/

namespace SpotServe
namespace Router

open Py Cluster

/-! ## Counting -/

/-- What one request adds to the count of an instance. -/
def Phase.holds (phase : Phase) (instanceId : String) : ℕ :=
  if phase.slot = some instanceId then 1 else 0

/-- The number of requests with a slot on an instance. -/
def holdersIn (requests : OrderedDict ℕ Phase) (instanceId : String) : ℕ :=
  requests.sumBy fun _ phase => phase.holds instanceId

/-- The counter of a handle; an instance without a handle has none. -/
def counterIn (handles : OrderedDict String InstanceHandle) (instanceId : String) : ℤ :=
  ((handles.get? instanceId).map InstanceHandle.concurrency).getD 0

theorem holdersIn_set {requests : OrderedDict ℕ Phase} {request : ℕ} {phase : Phase}
    (h : requests.get? request = some phase) (phase' : Phase) (instanceId : String) :
    holdersIn (requests.set request phase') instanceId + phase.holds instanceId =
      holdersIn requests instanceId + phase'.holds instanceId := by
  unfold holdersIn
  rw [OrderedDict.sumBy_set, OrderedDict.sumBy_erase h]
  omega

theorem holdersIn_set_new {requests : OrderedDict ℕ Phase} {request : ℕ}
    (h : requests.get? request = none) (phase : Phase) (instanceId : String) :
    holdersIn (requests.set request phase) instanceId =
      holdersIn requests instanceId + phase.holds instanceId := by
  unfold holdersIn
  rw [OrderedDict.sumBy_set, OrderedDict.sumBy_erase_of_none h]
  omega

theorem holdersIn_erase {requests : OrderedDict ℕ Phase} {request : ℕ} {phase : Phase}
    (h : requests.get? request = some phase) (instanceId : String) :
    holdersIn (requests.erase request) instanceId + phase.holds instanceId =
      holdersIn requests instanceId := by
  unfold holdersIn
  rw [OrderedDict.sumBy_erase h]
  omega

theorem counterIn_set (handles : OrderedDict String InstanceHandle) (instanceId : String)
    (h : InstanceHandle) (instanceId' : String) :
    counterIn (handles.set instanceId h) instanceId' =
      if instanceId = instanceId' then h.concurrency else counterIn handles instanceId' := by
  unfold counterIn
  rw [OrderedDict.get?_set]
  split_ifs <;> rfl

theorem counterIn_of_some {handles : OrderedDict String InstanceHandle} {instanceId : String}
    {h : InstanceHandle} (hget : handles.get? instanceId = some h) :
    counterIn handles instanceId = h.concurrency := by
  simp [counterIn, hget]

@[simp] theorem Phase.holds_waiting (future : ℕ) (instanceId : String) :
    (Phase.waiting future).holds instanceId = 0 := rfl

@[simp] theorem Phase.holds_between (instanceId : String) :
    Phase.between.holds instanceId = 0 := rfl

theorem Phase.holds_releasing (instanceId : String) (cancelled : Bool) (instanceId' : String) :
    (Phase.releasing instanceId cancelled).holds instanceId' =
      if instanceId = instanceId' then 1 else 0 := by
  simp [Phase.holds, Phase.slot]

@[simp] theorem concurrency_apply (mark : Mark) (h : InstanceHandle) :
    (mark.apply h).concurrency = h.concurrency := by
  cases mark with
  | ready nodeId =>
    simp only [Mark.apply, InstanceHandle.markReady]
    split <;> split <;> rfl
  | draining => rfl
  | readyAfterDrain numGpu =>
    simp only [Mark.apply, InstanceHandle.markReadyAfterDrain]
    split <;> rfl
  | preempting => rfl
  | dead => rfl
  | recovered =>
    simp only [Mark.apply, InstanceHandle.markRecovered]
    split <;> rfl

/-! ## The invariant -/

/-- Every counter is the number of attempts with a slot, and an instance without a handle has
none. -/
structure Balanced (m : SlotMachine) : Prop where
  count : ∀ instanceId, counterIn m.handles instanceId = holdersIn m.requests instanceId
  ready : ∀ instanceId ∈ m.readyInferenceInstances, m.handles.get? instanceId ≠ none

theorem Balanced.conserved {m : SlotMachine} (h : Balanced m) : m.Conserved := by
  intro instanceId handle hhandle
  have hcount := h.count instanceId
  rw [counterIn_of_some hhandle] at hcount
  exact hcount

/-- A change to the requests that leaves the counts as they are. -/
theorem Balanced.setRequests {m : SlotMachine} (h : Balanced m) {requests : OrderedDict ℕ Phase}
    (hsame : ∀ instanceId, holdersIn requests instanceId = holdersIn m.requests instanceId) :
    Balanced { m with requests } :=
  ⟨fun instanceId => (h.count instanceId).trans (by rw [hsame]), h.ready⟩

/-- A request that asks the load balancer for an instance. -/
theorem Balanced.enqueue {m : SlotMachine} (h : Balanced m) {request : ℕ}
    (hslot : ∀ phase ∈ m.requests.get? request, phase.slot = none) :
    Balanced (m.enqueue request) := by
  refine ⟨fun instanceId => (h.count instanceId).trans ?_, h.ready⟩
  show (holdersIn m.requests instanceId : ℤ) =
    holdersIn (m.requests.set request (.waiting m.nextFuture)) instanceId
  cases hphase : m.requests.get? request with
  | none =>
    rw [holdersIn_set_new hphase]
    simp
  | some phase =>
    have hset := holdersIn_set hphase (.waiting m.nextFuture) instanceId
    have hzero : phase.holds instanceId = 0 := by
      simp [Phase.holds, hslot phase hphase]
    rw [hzero, Phase.holds_waiting] at hset
    omega

/-- A slot is taken for a request that had none. -/
theorem Balanced.take {m : SlotMachine} (h : Balanced m) {request : ℕ} {phase phase' : Phase}
    {instanceId : String} {handle handle' : InstanceHandle}
    (hphase : m.requests.get? request = some phase) (hnone : phase.slot = none)
    (hsome : phase'.slot = some instanceId) (hhandle : m.handles.get? instanceId = some handle)
    (hadd : handle.addRequests 1 = (true, handle')) :
    Balanced { m with
      handles := m.handles.set instanceId handle'
      requests := m.requests.set request phase' } := by
  have hhandle' : handle'.concurrency = handle.concurrency + 1 := by
    rw [InstanceHandle.addRequests_eq_true hadd]
  constructor
  · intro instanceId'
    have hset := holdersIn_set hphase phase' instanceId'
    have hcount := h.count instanceId'
    rw [Phase.holds, hnone, Phase.holds, hsome] at hset
    show counterIn (m.handles.set instanceId handle') instanceId' =
      holdersIn (m.requests.set request phase') instanceId'
    rw [counterIn_set]
    by_cases heq : instanceId = instanceId'
    · subst heq
      rw [counterIn_of_some hhandle] at hcount
      rw [if_pos rfl, hhandle']
      simp at hset
      omega
    · rw [if_neg heq]
      simp [heq] at hset
      omega
  · intro instanceId' hready
    show (m.handles.set instanceId handle').get? instanceId' ≠ none
    rw [OrderedDict.get?_set]
    split_ifs
    · simp
    · exact h.ready instanceId' hready

/-- A handle whose counter stays. -/
theorem Balanced.setHandle {m : SlotMachine} (h : Balanced m) {instanceId : String}
    {handle : InstanceHandle} (hsame : handle.concurrency = counterIn m.handles instanceId) :
    Balanced { m with handles := m.handles.set instanceId handle } := by
  constructor
  · intro instanceId'
    show counterIn (m.handles.set instanceId handle) instanceId' = _
    rw [counterIn_set]
    split_ifs with heq
    · subst heq
      rw [hsame]
      exact h.count instanceId
    · exact h.count instanceId'
  · intro instanceId' hready
    show (m.handles.set instanceId handle).get? instanceId' ≠ none
    rw [OrderedDict.get?_set]
    split_ifs
    · simp
    · exact h.ready instanceId' hready

/-- A slot is given back. -/
theorem Balanced.release {m : SlotMachine} (h : Balanced m) {request : ℕ} {instanceId : String}
    {cancelled : Bool} (hphase : m.requests.get? request = some (.releasing instanceId cancelled)) :
    Balanced (m.release request instanceId cancelled) := by
  have hafter : ∀ instanceId', holdersIn
      (if cancelled then m.requests.erase request else m.requests.set request .between) instanceId' +
        (if instanceId = instanceId' then 1 else 0) = holdersIn m.requests instanceId' := by
    intro instanceId'
    rw [← Phase.holds_releasing instanceId cancelled]
    cases cancelled with
    | true => exact holdersIn_erase hphase instanceId'
    | false => exact holdersIn_set hphase .between instanceId'
  have hself := hafter instanceId
  rw [if_pos rfl] at hself
  have hcount := h.count instanceId
  unfold SlotMachine.release
  dsimp only
  cases hhandle : m.handles.get? instanceId with
  | none =>
    have hzero : counterIn m.handles instanceId = 0 := by simp [counterIn, hhandle]
    omega
  | some handle =>
    rw [counterIn_of_some hhandle] at hcount
    dsimp only
    rw [InstanceHandle.addRequests_neg_one (by omega)]
    constructor
    · intro instanceId'
      dsimp only
      rw [counterIn_set]
      have hthis := hafter instanceId'
      by_cases heq : instanceId = instanceId'
      · subst heq
        rw [if_pos rfl]
        dsimp only
        omega
      · rw [if_neg heq] at hthis
        rw [if_neg heq, h.count instanceId']
        omega
    · intro instanceId' hready
      dsimp only
      rw [OrderedDict.get?_set]
      split_ifs
      · simp
      · exact h.ready instanceId' hready

/-! ## One action -/

/-- What the coroutines must respect: a grant is picked up while its instance is ready, no request
is cancelled between its grant and its pick-up or during its release, and no slot is taken for a
cancelled future. -/
def Orderly (m : SlotMachine) : SlotAction → Prop
  | .lookUp request => ∀ phase ∈ m.requests.get? request, ∀ instanceId ∈ phase.slot,
      instanceId ∈ m.readyInferenceInstances
  | .cancel request => ∀ phase ∈ m.requests.get? request, phase.cancellable
  | .takeSlot => ∀ target ∈ m.balancer.target,
      (m.waiterOf target.1).isSome ∨ m.offers target.2 = false
  | _ => True

instance (m : SlotMachine) (a : SlotAction) : Decidable (Orderly m a) := by
  cases a <;> unfold Orderly <;> infer_instance

theorem waiterOf_eq_some {m : SlotMachine} {future request : ℕ}
    (h : m.waiterOf future = some request) : m.requests.get? request = some (.waiting future) := by
  obtain ⟨⟨request', phase⟩, hfind, rfl⟩ := Option.map_eq_some_iff.mp h
  have hphase : phase = .waiting future := by simpa using List.find?_some hfind
  rw [← hphase]
  exact (OrderedDict.mem_entries_iff _).mp (List.mem_of_find?_eq_some hfind)

/-- The load balancer takes a slot, or goes on searching. -/
theorem Balanced.takeSlot {m : SlotMachine} (h : Balanced m) {future : ℕ} {instanceId : String}
    (horderly : (m.waiterOf future).isSome ∨ m.offers instanceId = false) :
    Balanced (m.takeSlot future instanceId) := by
  unfold SlotMachine.takeSlot
  split_ifs with hready
  · cases hhandle : m.handles.get? instanceId with
    | none => exact h
    | some handle =>
      dsimp only
      cases hadd : handle.addRequests 1 with
      | mk added handle' =>
        cases added with
        | false => exact ⟨h.count, h.ready⟩
        | true =>
          dsimp only
          cases hwaiter : m.waiterOf future with
          | none =>
            have haccept : handle.canAcceptRequest 1 = true := by
              by_contra hrefuse
              rw [InstanceHandle.addRequests, if_neg hrefuse] at hadd
              exact absurd (Prod.mk.inj hadd).1 (by simp)
            have hoffers : m.offers instanceId = true := by
              simp [SlotMachine.offers, hready, hhandle, haccept]
            rw [hwaiter, hoffers] at horderly
            exact absurd horderly (by simp)
          | some request =>
            have hslot : (Phase.granted instanceId).slot = some instanceId := rfl
            have htake := h.take (waiterOf_eq_some hwaiter) rfl hslot hhandle hadd
            have hwaiter' : SlotMachine.waiterOf
                { m with handles := m.handles.set instanceId handle' } future = some request :=
              hwaiter
            rw [hwaiter']
            exact ⟨htake.count, htake.ready⟩
  · exact ⟨h.count, h.ready⟩

/-- A request moves on without touching its slot. -/
theorem Balanced.movePhase {m : SlotMachine} (h : Balanced m) {request : ℕ} {phase phase' : Phase}
    (hphase : m.requests.get? request = some phase) (hslot : phase'.slot = phase.slot) :
    Balanced { m with requests := m.requests.set request phase' } := by
  refine h.setRequests fun instanceId => ?_
  have hset := holdersIn_set hphase phase' instanceId
  rw [show phase'.holds instanceId = phase.holds instanceId by rw [Phase.holds, Phase.holds, hslot]]
    at hset
  omega

/-- A request without a slot goes. -/
theorem Balanced.dropRequest {m : SlotMachine} (h : Balanced m) {request : ℕ} {phase : Phase}
    (hphase : m.requests.get? request = some phase) (hslot : phase.slot = none) :
    Balanced { m with requests := m.requests.erase request } := by
  refine h.setRequests fun instanceId => ?_
  have herase := holdersIn_erase hphase instanceId
  rw [Phase.holds, hslot, if_neg (by simp)] at herase
  omega

theorem Balanced.cancel {m : SlotMachine} (h : Balanced m) {request : ℕ} {phase : Phase}
    (hphase : m.requests.get? request = some phase) (horderly : phase.cancellable = true) :
    Balanced (m.cancel request phase) := by
  cases phase with
  | waiting future => exact h.dropRequest hphase rfl
  | granted instanceId => exact absurd horderly (by simp [Phase.cancellable])
  | serving instanceId => exact h.movePhase hphase rfl
  | releasing instanceId cancelled => exact absurd horderly (by simp [Phase.cancellable])
  | between => exact h.dropRequest hphase rfl

theorem Balanced.step {m m' : SlotMachine} (h : Balanced m) {a : SlotAction}
    (horderly : Orderly m a) (hstep : m.step a = some m') : Balanced m' := by
  cases a with
  | arrive request =>
    simp only [SlotMachine.step] at hstep
    split_ifs at hstep with hknown
    obtain rfl := Option.some.inj hstep
    have hnone : m.requests.get? request = none := by simpa using hknown
    exact h.enqueue (by simp [hnone])
  | retry request =>
    simp only [SlotMachine.step] at hstep
    split at hstep
    case h_1 hphase =>
      obtain rfl := Option.some.inj hstep
      exact h.enqueue (by simp [hphase, Phase.slot])
    case h_2 => exact absurd hstep (by simp)
  | retryOn request instanceId =>
    simp only [SlotMachine.step] at hstep
    split at hstep
    case h_1 handle hphase hhandle =>
      split at hstep
      case h_1 =>
        obtain rfl := Option.some.inj hstep
        exact h.enqueue (by simp [hphase, Phase.slot])
      case h_2 handle' hadd =>
        obtain rfl := Option.some.inj hstep
        exact h.take hphase rfl rfl hhandle hadd
    case h_2 => exact absurd hstep (by simp)
  | lookUp request =>
    simp only [SlotMachine.step] at hstep
    split at hstep
    case h_1 instanceId hphase =>
      have hready := horderly _ hphase instanceId rfl
      rw [if_pos hready] at hstep
      obtain rfl := Option.some.inj hstep
      exact h.movePhase hphase rfl
    case h_2 => exact absurd hstep (by simp)
  | leave request =>
    simp only [SlotMachine.step] at hstep
    split at hstep
    case h_1 instanceId hphase =>
      obtain rfl := Option.some.inj hstep
      exact h.movePhase hphase rfl
    case h_2 => exact absurd hstep (by simp)
  | release request =>
    simp only [SlotMachine.step] at hstep
    split at hstep
    case h_1 instanceId cancelled hphase =>
      obtain rfl := Option.some.inj hstep
      exact h.release hphase
    case h_2 => exact absurd hstep (by simp)
  | finish request =>
    simp only [SlotMachine.step] at hstep
    split at hstep
    case h_1 hphase =>
      obtain rfl := Option.some.inj hstep
      exact h.dropRequest hphase rfl
    case h_2 => exact absurd hstep (by simp)
  | cancel request =>
    obtain ⟨phase, hphase, rfl⟩ := Option.map_eq_some_iff.mp hstep
    exact h.cancel hphase (horderly phase hphase)
  | nextRequest =>
    simp only [SlotMachine.step] at hstep
    split at hstep
    case h_1 =>
      obtain rfl := Option.some.inj hstep
      exact ⟨h.count, h.ready⟩
    case h_2 => exact absurd hstep (by simp)
  | listCandidates =>
    simp only [SlotMachine.step] at hstep
    split at hstep
    case h_1 =>
      obtain rfl := Option.some.inj hstep
      exact ⟨h.count, h.ready⟩
    case h_2 => exact absurd hstep (by simp)
  | askCandidate =>
    simp only [SlotMachine.step] at hstep
    split at hstep
    case h_1 =>
      split at hstep
      case h_1 => exact absurd hstep (by simp)
      case h_2 =>
        obtain rfl := Option.some.inj hstep
        exact ⟨h.count, h.ready⟩
    case h_2 =>
      split at hstep <;> obtain rfl := Option.some.inj hstep <;> exact ⟨h.count, h.ready⟩
    case h_3 => exact absurd hstep (by simp)
  | takeSlot =>
    simp only [SlotMachine.step] at hstep
    split at hstep
    case h_1 future instanceId hbalancer =>
      obtain rfl := Option.some.inj hstep
      exact h.takeSlot (horderly (future, instanceId) (by simp [hbalancer, Balancer.target]))
    case h_2 => exact absurd hstep (by simp)
  | create instanceId maxQueueLength numGpu =>
    simp only [SlotMachine.step] at hstep
    split_ifs at hstep with hknown
    obtain rfl := Option.some.inj hstep
    have hnone : m.handles.get? instanceId = none := by simpa using hknown
    exact h.setHandle (by simp [counterIn, hnone])
  | activate instanceId =>
    simp only [SlotMachine.step] at hstep
    split_ifs at hstep with hknown
    obtain rfl := Option.some.inj hstep
    refine ⟨h.count, fun instanceId' hready => ?_⟩
    rcases List.mem_append.mp hready with hready | hready
    · exact h.ready instanceId' hready
    · rw [List.mem_singleton.mp hready]
      exact Option.isSome_iff_ne_none.mp hknown.1
  | switch instanceIds =>
    simp only [SlotMachine.step] at hstep
    split_ifs at hstep with hknown
    obtain rfl := Option.some.inj hstep
    exact ⟨h.count, fun instanceId hready => Option.isSome_iff_ne_none.mp (hknown _ hready)⟩
  | stop instanceId =>
    simp only [SlotMachine.step] at hstep
    split_ifs at hstep
    obtain rfl := Option.some.inj hstep
    exact ⟨h.count, fun instanceId' hready => h.ready _ (List.mem_of_mem_erase hready)⟩
  | mark instanceId mark =>
    obtain ⟨handle, hhandle, rfl⟩ := Option.map_eq_some_iff.mp hstep
    exact h.setHandle (by simp [counterIn_of_some hhandle])

/-! ## Whole runs -/

/-- The states of the interleavings that start with no instance and no request. -/
def SlotRuns (allowed : SlotMachine → SlotAction → Prop) : SlotMachine → Prop :=
  Runs.Reachable (· = {}) (fun m a m' => m.step a = some m') allowed

/-- **Slot conservation.**  In every interleaving of orderly actions, at every moment, the counter
of each instance is the number of attempts that hold a slot on it. -/
theorem conserved_of_orderly {m : SlotMachine} (h : SlotRuns Orderly m) : m.Conserved := by
  have hbalanced : Balanced m := by
    refine Runs.Reachable.invariant _ ?_ ?_ h
    · rintro _ rfl
      exact ⟨fun _ => rfl, by simp⟩
    · intro m a m' hinv horderly hstep
      exact hinv.step horderly hstep
  exact hbalanced.conserved

/-- One instance for one request at a time, and a request up to its grant. -/
def upToGrant : List SlotAction :=
  [.create "a" 1 1, .mark "a" (.ready none), .activate "a", .arrive 0, .nextRequest,
    .listCandidates, .askCandidate, .askCandidate, .takeSlot]

/-- The request takes its grant up and is cancelled while it is served. -/
def cancelledWhileServed : List SlotAction := upToGrant ++ [.lookUp 0, .cancel 0, .stop "a"]

theorem conserved_cancelledWhileServed :
    ∃ m, Runs.attempt SlotMachine.step Orderly cancelledWhileServed {} = some m ∧
      m.holders "a" = 1 ∧ m.Conserved := by
  have hrun : (Runs.attempt SlotMachine.step Orderly cancelledWhileServed {}).map
      (SlotMachine.holders · "a") = some 1 := by
    decide +kernel
  obtain ⟨m, hm, hone⟩ := Option.map_eq_some_iff.mp hrun
  exact ⟨m, hm, hone, conserved_of_orderly (.attempt (.start rfl) hm)⟩

/-- The instance is stopped between the grant and the look-up, and the request gives up. -/
def stoppedBeforeLookUp : List SlotAction := upToGrant ++ [.stop "a", .lookUp 0, .finish 0]

/-- No request is left, and the instance still counts one. -/
theorem not_conserved_stoppedBeforeLookUp :
    ¬ ∀ m, SlotRuns (fun _ _ => True) m → m.Conserved := by
  intro h
  have hrun : (Runs.attempt SlotMachine.step (fun _ _ => True) stoppedBeforeLookUp {}).map
      (fun m => ((m.handles.get? "a").map InstanceHandle.concurrency, m.holders "a")) =
        some (some 1, 0) := by
    decide +kernel
  obtain ⟨m, hm, hpair⟩ := Option.map_eq_some_iff.mp hrun
  obtain ⟨hone, hzero⟩ := Prod.mk.inj hpair
  obtain ⟨handle, hhandle, hcounter⟩ := Option.map_eq_some_iff.mp hone
  have hconserved := h m (.attempt (.start rfl) hm) "a" handle hhandle
  rw [hcounter, hzero] at hconserved
  exact absurd hconserved (by decide)

end Router
end SpotServe
