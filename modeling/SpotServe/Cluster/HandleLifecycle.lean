import SpotServe.Cluster.InstanceHandle

/-!
# The life of an instance handle

The router, the executor, the deployment adapter and the retry loop call the operations of a handle
in any order.  What they can rely on, whatever the others do:

* the concurrency stays between zero and the length of the queue (`Sound.run`), and requests are
  taken only while the handle is open;
* a handle that was marked dead takes no request again, as long as nobody drains or preempts it
  after its death (`dead_never_serves`).  `mark_ready`, `mark_ready_after_drain` and
  `mark_recovered` all refuse a dead handle; `mark_draining` and `mark_preempting` do not look, and
  what they make of it can be reopened (`serves_after_death`).
-/

namespace SpotServe
namespace Cluster

/-- A call of one of the operations that change a handle. -/
inductive HandleOperation where
  | markReady (nodeId : Option String)
  | markDraining
  | markReadyAfterDrain (numGpu : Option ℤ)
  | markPreempting
  | markRecovered
  | markDead
  | addRequests (numRequests : ℤ)
  deriving DecidableEq

/-- The handle after a call. -/
def HandleOperation.apply (h : InstanceHandle) : HandleOperation → InstanceHandle
  | .markReady nodeId => (h.markReady nodeId).2
  | .markDraining => h.markDraining
  | .markReadyAfterDrain numGpu => (h.markReadyAfterDrain numGpu).2
  | .markPreempting => h.markPreempting
  | .markRecovered => h.markRecovered.2
  | .markDead => h.markDead
  | .addRequests numRequests => (h.addRequests numRequests).2

namespace InstanceHandle

/-- The handle after a sequence of calls. -/
def run (h : InstanceHandle) (operations : List HandleOperation) : InstanceHandle :=
  operations.foldl HandleOperation.apply h

/-- The handle admits requests as far as its queue has room. -/
def IsOpen (h : InstanceHandle) : Prop :=
  h.ready = true ∧ (h.state = .ready ∨ h.state = .busy)

/-- What holds of a handle at every time. -/
structure Sound (h : InstanceHandle) : Prop where
  nonneg : 0 ≤ h.concurrency
  inQueue : h.concurrency ≤ h.maxQueueLength

/-- A handle that takes requests is open. -/
theorem isOpen_of_canAcceptRequest {h : InstanceHandle} {n : ℤ} (hn : 0 < n)
    (haccept : h.canAcceptRequest n = true) : h.IsOpen := by
  rw [canAcceptRequest, if_neg (by omega)] at haccept
  cases hready : h.ready with
  | false =>
    rw [hready] at haccept
    exact absurd haccept (by simp)
  | true =>
    refine ⟨hready, ?_⟩
    rw [hready] at haccept
    cases hstate : h.state with
    | ready => exact Or.inl rfl
    | busy => exact Or.inr rfl
    | starting | draining | preempting | dead =>
      rw [hstate] at haccept
      exact absurd haccept (by simp)

/-! ## What one call does -/

/-- Only `add_requests` changes the concurrency, and nothing the length of the queue. -/
theorem maxQueueLength_apply (h : InstanceHandle) (operation : HandleOperation) :
    (operation.apply h).maxQueueLength = h.maxQueueLength := by
  cases operation with
  | markReady nodeId =>
    simp only [HandleOperation.apply, markReady]
    split <;> split_ifs <;> rfl
  | markDraining | markPreempting | markDead => rfl
  | markReadyAfterDrain numGpu =>
    simp only [HandleOperation.apply, markReadyAfterDrain]
    split_ifs <;> rfl
  | markRecovered =>
    simp only [HandleOperation.apply, markRecovered]
    split_ifs <;> rfl
  | addRequests numRequests =>
    simp only [HandleOperation.apply, addRequests]
    split_ifs <;> rfl

theorem concurrency_apply (h : InstanceHandle) (operation : HandleOperation) :
    (operation.apply h).concurrency = h.concurrency ∨
      ∃ n, operation = .addRequests n ∧ h.canAcceptRequest n = true ∧
        (operation.apply h).concurrency = h.concurrency + n := by
  cases operation with
  | markReady nodeId =>
    left
    simp only [HandleOperation.apply, markReady]
    split <;> split_ifs <;> rfl
  | markDraining | markPreempting | markDead => exact Or.inl rfl
  | markReadyAfterDrain numGpu =>
    left
    simp only [HandleOperation.apply, markReadyAfterDrain]
    split_ifs <;> rfl
  | markRecovered =>
    left
    simp only [HandleOperation.apply, markRecovered]
    split_ifs <;> rfl
  | addRequests n =>
    cases haccept : h.canAcceptRequest n with
    | true =>
      right
      refine ⟨n, rfl, haccept, ?_⟩
      simp only [HandleOperation.apply, addRequests, haccept, if_true]
    | false =>
      left
      simp only [HandleOperation.apply, addRequests, haccept, Bool.false_eq_true, if_false]

/-- What `add_requests` lets through stays inside the queue. -/
theorem Sound.add {h : InstanceHandle} (hsound : h.Sound) {n : ℤ}
    (haccept : h.canAcceptRequest n = true) :
    0 ≤ h.concurrency + n ∧ h.concurrency + n ≤ h.maxQueueLength := by
  have hnonneg := hsound.nonneg
  have hqueue := hsound.inQueue
  by_cases hn : n ≤ 0
  · rw [canAcceptRequest, if_pos hn, decide_eq_true_eq] at haccept
    omega
  · obtain ⟨hready, hstate⟩ := isOpen_of_canAcceptRequest (by omega) haccept
    rw [canAcceptRequest, if_neg hn, hready] at haccept
    have hroom : h.concurrency + n ≤ h.maxQueueLength := by
      rcases hstate with hstate | hstate <;> rw [hstate] at haccept <;> simpa using haccept
    omega

theorem Sound.apply {h : InstanceHandle} (hsound : h.Sound) (operation : HandleOperation) :
    (operation.apply h).Sound := by
  have hmax := maxQueueLength_apply h operation
  rcases concurrency_apply h operation with hsame | ⟨n, -, haccept, hadded⟩
  · refine ⟨?_, ?_⟩
    · rw [hsame]
      exact hsound.nonneg
    · rw [hsame, hmax]
      exact hsound.inQueue
  · obtain ⟨hlo, hhi⟩ := hsound.add haccept
    refine ⟨?_, ?_⟩
    · rw [hadded]
      exact hlo
    · rw [hadded, hmax]
      exact hhi

/-- **Bounds.**  Whatever is called, in whatever order. -/
theorem Sound.run {h : InstanceHandle} (hsound : h.Sound) (operations : List HandleOperation) :
    (h.run operations).Sound := by
  induction operations generalizing h with
  | nil => exact hsound
  | cons operation operations ih => exact ih (hsound.apply operation)

/-! ## Death -/

/-- A handle that nothing but a drain or a preemption can bring back. -/
def IsDead (h : InstanceHandle) : Prop := h.ready = false ∧ h.state = .dead

/-- A call that makes a dead handle look like one that can come back. -/
def Disturbs (h : InstanceHandle) : HandleOperation → Prop
  | .markDraining | .markPreempting => h.state = .dead
  | _ => False

instance (h : InstanceHandle) (operation : HandleOperation) : Decidable (h.Disturbs operation) := by
  cases operation <;> unfold Disturbs <;> infer_instance

/-- No call of the sequence drains or preempts a dead handle. -/
def Undisturbed (h : InstanceHandle) : List HandleOperation → Prop
  | [] => True
  | operation :: operations => ¬ h.Disturbs operation ∧ (operation.apply h).Undisturbed operations

instance decidableUndisturbed :
    (h : InstanceHandle) → (operations : List HandleOperation) → Decidable (h.Undisturbed operations)
  | _, [] => inferInstanceAs (Decidable True)
  | h, operation :: operations =>
    have := decidableUndisturbed (operation.apply h) operations
    inferInstanceAs (Decidable (_ ∧ _))

theorem IsDead.apply {h : InstanceHandle} (hdead : h.IsDead) {operation : HandleOperation}
    (hquiet : ¬ h.Disturbs operation) : (operation.apply h).IsDead := by
  obtain ⟨hready, hstate⟩ := hdead
  cases operation with
  | markReady nodeId =>
    simp only [HandleOperation.apply, markReady]
    cases nodeId <;> simp [hstate, hready, IsDead]
  | markDraining | markPreempting => exact absurd hstate hquiet
  | markReadyAfterDrain numGpu =>
    rw [HandleOperation.apply, markReadyAfterDrain, if_neg (by rw [hstate]; decide)]
    exact ⟨hready, hstate⟩
  | markRecovered =>
    rw [HandleOperation.apply, markRecovered, if_neg (by rw [hstate]; decide)]
    exact ⟨hready, hstate⟩
  | markDead => exact ⟨rfl, rfl⟩
  | addRequests n =>
    rw [HandleOperation.apply, addRequests]
    split_ifs <;> exact ⟨hready, hstate⟩

theorem IsDead.run {h : InstanceHandle} (hdead : h.IsDead) {operations : List HandleOperation}
    (hquiet : h.Undisturbed operations) : (h.run operations).IsDead := by
  induction operations generalizing h with
  | nil => exact hdead
  | cons operation operations ih => exact ih (hdead.apply hquiet.1) hquiet.2

/-- Once `mark_dead` has been called the handle is dead. -/
theorem isDead_of_mem {h : InstanceHandle} {operations : List HandleOperation}
    (hquiet : h.Undisturbed operations) (hmem : .markDead ∈ operations) :
    (h.run operations).IsDead := by
  induction operations generalizing h with
  | nil => exact absurd hmem (by simp)
  | cons operation operations ih =>
    rcases List.mem_cons.mp hmem with rfl | hmem
    · have hdead : h.markDead.IsDead := ⟨rfl, rfl⟩
      exact hdead.run hquiet.2
    · exact ih hquiet.2 hmem

theorem IsDead.not_accepts {h : InstanceHandle} (hdead : h.IsDead) {n : ℤ} (hn : 0 < n) :
    h.canAcceptRequest n = false :=
  canAcceptRequest_of_not_ready hdead.1 hn

theorem Undisturbed.of_append {h : InstanceHandle} {before after : List HandleOperation}
    (hquiet : h.Undisturbed (before ++ after)) : h.Undisturbed before := by
  induction before generalizing h with
  | nil => exact trivial
  | cons operation before ih => exact ⟨hquiet.1, ih hquiet.2⟩

end InstanceHandle

open InstanceHandle

/-- **The life of a handle.**  After every part of a sequence of calls the concurrency is between
zero and the length of the queue and only an open handle takes requests; and when no call drains or
preempts a dead handle, one that was marked dead takes none. -/
theorem dead_never_serves (h : InstanceHandle) (hnew : h.concurrency = 0)
    (hqueue : 0 ≤ h.maxQueueLength) (before after : List HandleOperation)
    (hquiet : h.Undisturbed (before ++ after)) :
    0 ≤ (h.run before).concurrency ∧
      (h.run before).concurrency ≤ (h.run before).maxQueueLength ∧
      (∀ n, 0 < n → (h.run before).canAcceptRequest n = true → (h.run before).IsOpen) ∧
      (.markDead ∈ before → ∀ n, 0 < n → (h.run before).canAcceptRequest n = false) := by
  have hsound : (h.run before).Sound := Sound.run ⟨hnew.ge, hnew.trans_le hqueue⟩ before
  refine ⟨hsound.nonneg, hsound.inQueue, fun n hn => isOpen_of_canAcceptRequest hn, ?_⟩
  intro hmem n hn
  exact (isDead_of_mem hquiet.of_append hmem).not_accepts hn

/-- A new handle with room for one request. -/
def smallHandle : InstanceHandle := { instanceId := "i", maxQueueLength := 1, numGpu := 1 }

/-- Opened, filled, drained and stopped. -/
theorem dead_never_serves_smallHandle :
    (smallHandle.run [.markReady none, .addRequests 1, .markDraining, .markDead]).canAcceptRequest
      1 = false :=
  (dead_never_serves smallHandle rfl (by decide)
    [.markReady none, .addRequests 1, .markDraining, .markDead] [] (by decide)).2.2.2 (by decide) 1
    (by decide)

/-- A drain after the death, and the handle can be reopened. -/
theorem serves_after_death :
    HandleOperation.markDead ∈
        [HandleOperation.markDead, .markDraining, .markReadyAfterDrain none] ∧
      (smallHandle.run [.markDead, .markDraining, .markReadyAfterDrain none]).canAcceptRequest 1 =
        true := by
  decide

end Cluster
end SpotServe
