import SpotServe.Library.Runs
import SpotServe.Store.ModelWaits

/-!
# Wake-ups

Every section of `Model` notifies what it makes true, but for one: `ToHost` sets `LOADED` or
`INTERRUPTED` and notifies nobody on `cv_`.  A thread that waits there for the model to be loaded
sleeps on, until some `ToGpu` happens to register a replica; and after an error the model may be
`UNALLOCATED` again by then.

* `disciplined_enter`, `disciplined_resume`, `disciplined_toGpuDone`: the other sections.
* `noLostWakeUp_step_iff`: the steps that lose no wake-up.
* `noLostWakeUp_of_careful`: the runs of such steps.
-/

namespace SpotServe
namespace Store

open Py Monitor

/-- A section notifies what it makes true, and looks before it waits. -/
structure Disciplined (m : GuardedModel) (r : ModelSection) : Prop where
  announces : ∀ w, Announces Wait.condVar GuardedModel.Holds m r.model r.signals w
  looks : ∀ w, r.ending = .waits w → ¬ r.model.Holds w

namespace GuardedModel

variable {m m' : GuardedModel}

/-! ## What the changes make true -/

theorem not_hostSettled_of_lt (h : m.state.number < Model.MemoryState.loaded.number) :
    ¬ m.HostSettled := by
  rintro (hstate | hstate) <;> rw [hstate] at h <;> exact absurd h (by decide)

theorem not_settled_of_lt {replica : ℕ} {state : Model.MemoryState}
    (hreplica : m.replicas[replica]? = some state)
    (h : state.number < Model.MemoryState.loaded.number) : ¬ m.Settled replica := by
  rintro (hstate | hstate) <;> rw [hreplica] at hstate <;> cases Option.some.inj hstate <;>
    exact absurd h (by decide)

theorem not_settled_of_loading {replica : ℕ} (h : m.replicas[replica]? = some .loading) :
    ¬ m.Settled replica := not_settled_of_lt h (by decide)

/-- A change of the state and of the memory. -/
theorem holds_setState {state : Model.MemoryState} {pinnedMem : Option ℕ}
    (hhost : HostSettled { m with state := state, pinnedMem := pinnedMem } → m.HostSettled)
    (w : Wait) (h : Holds { m with state := state, pinnedMem := pinnedMem } w) : m.Holds w := by
  cases w with
  | waitInHost | freeHost => exact hhost h
  | waitInGpu | waitInGpuReplica | freeGpu | freeHostReplica | toHost => exact h

/-- Only `LOADED` and `INTERRUPTED` make a wait for the model come true. -/
theorem holds_unsettled {state : Model.MemoryState} {pinnedMem : Option ℕ}
    (hstate : state ≠ .loaded ∧ state ≠ .interrupted) (w : Wait) :
    Holds { m with state := state, pinnedMem := pinnedMem } w → m.Holds w :=
  holds_setState (fun hhost => (hhost.elim hstate.1 hstate.2).elim) w

theorem holds_release (w : Wait) : m.release.Holds w → m.Holds w := holds_unsettled (by decide) w

theorem holds_eraseReplica {replicaUuid : String} (w : Wait)
    (h : (m.eraseReplica replicaUuid).Holds w) : m.Holds w := by
  cases w with
  | waitInGpu => exact (OrderedDict.mem_keys_erase.mp h).2
  | _ => exact h

theorem settled_setReplica {replica replica' : ℕ} {state : Model.MemoryState}
    (h : (m.setReplica replica state).Settled replica') :
    m.Settled replica' ∨ replica = replica' ∧ (state = .loaded ∨ state = .interrupted) := by
  unfold Settled setReplica at h
  by_cases heq : replica = replica'
  · refine .inr ⟨heq, ?_⟩
    simp only [heq, List.getElem?_set_self'] at h
    cases hget : m.replicas[replica']? with
    | none =>
      rw [hget] at h
      exact absurd h (by simp)
    | some old =>
      rw [hget] at h
      simpa using h
  · simp only [List.getElem?_set_ne heq] at h
    exact .inl h

theorem announces_setReplica (replica : ℕ) (state : Model.MemoryState) (w : Wait) :
    Announces Wait.condVar Holds m (m.setReplica replica state) [.replica replica] w := by
  intro h
  cases w with
  | waitInHost | freeHost | waitInGpu => exact .inl h
  | waitInGpuReplica replica' | freeGpu _ replica' | freeHostReplica replica' | toHost replica' =>
    refine (settled_setReplica h).imp_right fun hchange => ?_
    rw [hchange.1]
    exact List.mem_singleton_self _

/-! ## The sections -/

/-- A section that makes nothing true and returns. -/
theorem disciplined_returns (h : ∀ w, m'.Holds w → m.Holds w) (code : ℤ) :
    Disciplined m (m'.ends (.returns code)) :=
  ⟨fun w => .of_imp (h w), fun _ hw => absurd hw (by simp [ends])⟩

theorem disciplined_faults : Disciplined m (m.ends .faults) :=
  ⟨fun _ => .of_imp id, fun _ hw => absurd hw (by simp [ends])⟩

theorem disciplined_waits {w : Wait} (hnot : ¬ m.Holds w) : Disciplined m (m.ends (.waits w)) :=
  ⟨fun _ => .of_imp id, fun _ hw => SectionEnd.waits.inj hw ▸ hnot⟩

theorem disciplined_initializeModel (found : Bool) : Disciplined m (m.initializeModel found) := by
  unfold initializeModel
  split_ifs
  · exact disciplined_returns (fun _ => id) _
  · exact disciplined_returns (holds_unsettled (by decide)) _
  · exact disciplined_returns (fun _ => id) _

theorem disciplined_allocatePinnedMemory (ret : ℤ) (numChunks : ℕ) :
    Disciplined m (m.allocatePinnedMemory ret numChunks) := by
  unfold allocatePinnedMemory
  dsimp only
  split_ifs
  · exact disciplined_returns (fun _ => id) _
  · exact disciplined_returns (fun _ => id) _
  · exact disciplined_returns (holds_setState id) _
  · exact disciplined_returns (holds_setState id) _
  · exact disciplined_returns (holds_unsettled (by decide)) _

theorem disciplined_toHost (opened : Bool) : Disciplined m (m.toHost opened) := by
  unfold toHost
  split_ifs
  any_goals exact disciplined_returns (fun _ => id) _
  exact ⟨fun w => .of_imp (holds_unsettled (by decide) w), fun _ hw => absurd hw (by simp [ends])⟩

/-- What the loop over the replicas has done so far was announced, and the rest is. -/
theorem disciplined_failed (replicas : List ℕ) {signals : List CondVar}
    (h : ∀ w, Announces Wait.condVar Holds m m' signals w) :
    Disciplined m (m'.failed signals replicas) := by
  induction replicas generalizing m' signals with
  | nil => exact ⟨fun w hw => h w (holds_release w hw), fun w hw => absurd hw (by simp [failed])⟩
  | cons replica replicas ih =>
    unfold failed
    dsimp only
    by_cases hloads : m'.replicas[replica]? = some .loading
    · simp only [if_pos hloads]
      have hcancel : ∀ w, Announces Wait.condVar Holds m (m'.setReplica replica .cancelled)
          (signals ++ [.replica replica]) w :=
        fun w => (h w).trans (announces_setReplica replica .cancelled w)
      split_ifs with hsettled
      · exact ih hcancel
      · exact ⟨hcancel, fun w hw => SectionEnd.waits.inj hw ▸ hsettled⟩
    · simp only [if_neg hloads]
      split_ifs with hsettled
      · exact ih h
      · exact ⟨h, fun w hw => SectionEnd.waits.inj hw ▸ hsettled⟩

theorem disciplined_toGpu (replicaUuid : String) : Disciplined m (m.toGpu replicaUuid) := by
  unfold toGpu
  split_ifs
  · exact disciplined_returns (fun _ => id) _
  · exact disciplined_returns (fun _ => id) _
  · refine ⟨fun w hw => ?_, fun _ hw => absurd hw (by simp)⟩
    cases w with
    | waitInHost | freeHost => exact .inl hw
    | waitInGpu => exact .inr (List.mem_singleton_self _)
    | waitInGpuReplica replica | freeGpu _ replica | freeHostReplica replica | toHost replica =>
      refine .inl ?_
      unfold Holds Settled at hw ⊢
      simp only [List.getElem?_append] at hw
      split_ifs at hw with hlt
      · exact hw
      · simp [List.getElem?_singleton] at hw

theorem disciplined_toGpuDone (replica : ℕ) (error : Bool) :
    Disciplined m (m.toGpuDone replica error) :=
  ⟨announces_setReplica replica _, fun _ hw => absurd hw (by simp [toGpuDone])⟩

theorem disciplined_waitInHost : Disciplined m m.waitInHost := by
  unfold waitInHost
  split_ifs with hlt
  · exact disciplined_waits (not_hostSettled_of_lt hlt)
  · exact disciplined_returns (fun _ => id) _

theorem disciplined_waitRegistered (replicaUuid : String) :
    Disciplined m (m.waitRegistered replicaUuid) := by
  unfold waitRegistered
  split
  · exact disciplined_faults
  · split
    · exact disciplined_faults
    · next hreplica =>
      split_ifs with hlt
      · exact disciplined_waits (not_settled_of_lt hreplica hlt)
      · exact disciplined_returns (fun _ => id) _

theorem disciplined_waitInGpu (replicaUuid : String) :
    Disciplined m (m.waitInGpu replicaUuid) := by
  unfold waitInGpu
  by_cases hmem : replicaUuid ∈ m.gpuReplicas.keys
  · rw [if_neg (not_not.mpr hmem)]
    exact disciplined_waitRegistered replicaUuid
  · rw [if_pos hmem]
    exact disciplined_waits hmem

theorem disciplined_freeGpu (replicaUuid : String) : Disciplined m (m.freeGpu replicaUuid) := by
  unfold freeGpu
  split
  · exact disciplined_returns (fun _ => id) _
  · split_ifs with _ hloads
    · exact disciplined_returns (holds_eraseReplica) _
    · exact disciplined_waits (not_settled_of_loading hloads)
    · exact disciplined_returns (holds_eraseReplica) _

theorem disciplined_freeReplicas (replicas : List ℕ) :
    Disciplined m (m.freeReplicas replicas) := by
  induction replicas with
  | nil =>
    unfold freeReplicas
    split
    · exact disciplined_faults
    · exact disciplined_returns holds_release _
  | cons replica replicas ih =>
    unfold freeReplicas
    split_ifs with hloads
    · exact disciplined_waits (not_settled_of_loading hloads)
    · exact ih

theorem disciplined_freeHost (replicas : List ℕ) : Disciplined m (m.freeHost replicas) := by
  unfold freeHost
  split_ifs with _ hloading
  · exact disciplined_returns (fun _ => id) _
  · refine disciplined_waits (not_hostSettled_of_lt ?_)
    rw [hloading]
    decide
  · exact disciplined_freeReplicas replicas

theorem disciplined_tryFreeHost : Disciplined m m.tryFreeHost := by
  unfold tryFreeHost
  split_ifs
  any_goals exact disciplined_returns (fun _ => id) _
  split
  · exact disciplined_faults
  · exact disciplined_returns holds_release _

/-- The first section of every function. -/
theorem disciplined_enter (replicas : List ℕ) (call : ModelCall) :
    Disciplined m (m.enter replicas call) := by
  cases call with
  | initializeModel found => exact disciplined_initializeModel found
  | allocatePinnedMemory ret numChunks => exact disciplined_allocatePinnedMemory ret numChunks
  | toHost opened => exact disciplined_toHost opened
  | toGpu replicaUuid => exact disciplined_toGpu replicaUuid
  | waitInHost => exact disciplined_waitInHost
  | waitInGpu replicaUuid => exact disciplined_waitInGpu replicaUuid
  | freeGpu replicaUuid => exact disciplined_freeGpu replicaUuid
  | freeHost => exact disciplined_freeHost replicas
  | tryFreeHost => exact disciplined_tryFreeHost

/-- The section after a wait. -/
theorem disciplined_resume (replicas : List ℕ) (w : Wait) :
    Disciplined m (m.resume replicas w) := by
  cases w with
  | waitInHost => exact disciplined_returns (fun _ => id) _
  | waitInGpu replicaUuid => exact disciplined_waitRegistered replicaUuid
  | waitInGpuReplica replica =>
    unfold resume
    dsimp only
    split
    · exact disciplined_faults
    · exact disciplined_returns (fun _ => id) _
  | freeGpu replicaUuid => exact disciplined_returns holds_eraseReplica _
  | freeHost => exact disciplined_freeReplicas replicas
  | freeHostReplica _ replicas => exact disciplined_freeReplicas replicas
  | toHost _ replicas => exact disciplined_failed replicas fun _ => .of_imp id

/-- The section of `ToHost` that is not announced: it is, from the state it has just set on. -/
theorem disciplined_toHostDone (error : Bool) (replicas : List ℕ) :
    Disciplined { m with state := if error then .interrupted else .loaded }
      (m.toHostDone error replicas) := by
  unfold toHostDone
  cases error with
  | true => exact disciplined_failed replicas fun _ => .of_imp id
  | false => exact disciplined_returns (fun _ => id) _

theorem host_notMem_signals_failed (replicas : List ℕ) {signals : List CondVar}
    (h : CondVar.host ∉ signals) : CondVar.host ∉ (m.failed signals replicas).signals := by
  induction replicas generalizing m signals with
  | nil => exact h
  | cons replica replicas ih =>
    have h' : CondVar.host ∉ signals ++ [.replica replica] := by simp [h]
    unfold failed
    dsimp only
    split_ifs
    exacts [ih h', h', ih h, h]

theorem host_notMem_signals_toHostDone (error : Bool) (replicas : List ℕ) :
    CondVar.host ∉ (m.toHostDone error replicas).signals := by
  unfold toHostDone
  cases error with
  | true => exact host_notMem_signals_failed replicas List.not_mem_nil
  | false => exact List.not_mem_nil

end GuardedModel

namespace ModelMonitor

variable {s s' : ModelMonitor}

/-- No thread is blocked while its predicate is true and no notification is pending for it. -/
def NoLostWakeUp (s : ModelMonitor) : Prop :=
  Monitor.NoLostWakeUp GuardedModel.Holds s.model s.parked

/-- Every thread that has waited for a load that has finished was notified when it could see it. -/
def Told (s : ModelMonitor) : Prop := ∀ p ∈ s.parked, p.wait.ForHost → p.thread ∉ s.owed

instance (s : ModelMonitor) : Decidable s.NoLostWakeUp :=
  inferInstanceAs (Decidable (∀ p ∈ s.parked, p.notified = false → ¬ s.model.Holds p.wait))

instance (s : ModelMonitor) : Decidable s.Told :=
  inferInstanceAs (Decidable (∀ p ∈ s.parked, p.wait.ForHost → p.thread ∉ s.owed))

/-- No thread waits for the model when a `ToHost` finishes. -/
def Careful (s : ModelMonitor) : SectionAction → Prop
  | .toHostDone _ _ _ => ∀ p ∈ s.parked, ¬ p.wait.ForHost
  | _ => True

instance (s : ModelMonitor) : DecidablePred s.Careful := fun a => by
  cases a <;> unfold Careful <;> infer_instance

/-! ## Leaving the mutex -/

theorem noLostWakeUp_leave {m : GuardedModel} {thread : ℕ} {r : ModelSection}
    (h : Monitor.NoLostWakeUp GuardedModel.Holds m s.parked) (hr : Disciplined m r)
    (hleave : s.leave thread r = some s') : s'.NoLostWakeUp := by
  have hnotified : Monitor.NoLostWakeUp GuardedModel.Holds r.model
      (notifyAll Wait.condVar r.signals s.parked) :=
    h.notifyAll fun p _ => hr.announces p.wait
  unfold leave at hleave
  dsimp only at hleave
  split at hleave
  · obtain rfl := Option.some.inj hleave
    exact hnotified
  · next w hw =>
    obtain rfl := Option.some.inj hleave
    exact hnotified.park _ (hr.looks w hw)
  · obtain rfl := Option.some.inj hleave
    exact hnotified
  · exact absurd hleave (by simp)

theorem owed_leave {thread : ℕ} {r : ModelSection} (hleave : s.leave thread r = some s') :
    s'.owed = if CondVar.host ∈ r.signals ∧ r.model.HostSettled then [] else s.owed := by
  unfold leave at hleave
  dsimp only at hleave
  split at hleave
  case h_4 => exact absurd hleave (by simp)
  all_goals
    obtain rfl := Option.some.inj hleave
    rfl

theorem parked_leave {thread : ℕ} {r : ModelSection} (hleave : s.leave thread r = some s') :
    notifyAll Wait.condVar r.signals s.parked ⊆ s'.parked := by
  unfold leave at hleave
  dsimp only at hleave
  split at hleave
  case h_4 => exact absurd hleave (by simp)
  case h_2 =>
    obtain rfl := Option.some.inj hleave
    exact List.subset_append_left _ _
  all_goals
    obtain rfl := Option.some.inj hleave
    exact List.Subset.refl _

/-! ## Steps -/

/-- The invariant: nobody is owed a notification. -/
structure Sound (s : ModelMonitor) : Prop where
  noLostWakeUp : s.NoLostWakeUp
  owed : s.owed = []

theorem Sound.told (h : s.Sound) : s.Told := by
  intro p _ _
  rw [h.owed]
  exact List.not_mem_nil

/-- After a section, if nobody is owed anything before it. -/
theorem Sound.leave {m : GuardedModel} {thread : ℕ} {r : ModelSection}
    (hleave : s.leave thread r = some s')
    (h : Monitor.NoLostWakeUp GuardedModel.Holds m s.parked) (howed : s.owed = [])
    (hr : Disciplined m r) : s'.Sound := by
  refine ⟨noLostWakeUp_leave h hr hleave, ?_⟩
  rw [owed_leave hleave, howed]
  split_ifs <;> rfl

theorem Sound.step {a : SectionAction} (h : s.Sound) (hcareful : s.Careful a)
    (hstep : s.step a = some s') : s'.Sound := by
  cases a with
  | enter call replicas =>
    simp only [ModelMonitor.step] at hstep
    split_ifs at hstep
    exact .leave hstep h.noLostWakeUp h.owed (GuardedModel.disciplined_enter replicas call)
  | toHostDone thread error replicas =>
    simp only [ModelMonitor.step] at hstep
    split_ifs at hstep
    have hnobody : s.hostWaiters = [] := by
      unfold hostWaiters
      rw [List.map_eq_nil_iff, List.filter_eq_nil_iff]
      exact fun p hp => by simpa using hcareful p hp
    -- what the other waits are for is as true as before
    have hstate : Monitor.NoLostWakeUp GuardedModel.Holds
        { s.model with state := if error then .interrupted else .loaded } s.parked := by
      intro p hp hnot hholds
      refine h.noLostWakeUp p hp hnot ?_
      generalize p.wait = w, hcareful p hp = hother at hholds
      cases w with
      | waitInHost | freeHost => exact absurd trivial hother
      | waitInGpu | waitInGpuReplica | freeGpu | freeHostReplica | toHost => exact hholds
    refine Sound.leave hstep hstate ?_ (GuardedModel.disciplined_toHostDone error replicas)
    show s.owed ++ s.hostWaiters = []
    rw [hnobody, h.owed, List.append_nil]
  | toGpuDone thread replica error =>
    simp only [ModelMonitor.step] at hstep
    split_ifs at hstep
    exact .leave hstep h.noLostWakeUp h.owed (GuardedModel.disciplined_toGpuDone replica error)
  | wake place replicas =>
    simp only [ModelMonitor.step] at hstep
    split at hstep
    · exact absurd hstep (by simp)
    · next p hp =>
      split_ifs at hstep with hholds
      · have hrest : Monitor.NoLostWakeUp GuardedModel.Holds s.model (s.parked.eraseIdx place) :=
          h.noLostWakeUp.subset List.eraseIdx_subset
        exact .leave hstep hrest h.owed (GuardedModel.disciplined_resume replicas p.wait)
      · obtain rfl := Option.some.inj hstep
        exact ⟨h.noLostWakeUp.set place _ hholds, h.owed⟩

/-- A thread that waits when a `ToHost` finishes is owed a notification. -/
theorem not_told_toHostDone {thread : ℕ} {error : Bool} {replicas : List ℕ} {p : Parked Wait}
    (hp : p ∈ s.parked) (hhost : p.wait.ForHost)
    (hstep : s.step (.toHostDone thread error replicas) = some s') : ¬ s'.Told := by
  simp only [ModelMonitor.step] at hstep
  split_ifs at hstep
  obtain ⟨q, hq, hthread, hwait⟩ := thread_mem_notifyAll hp
    (s.model.toHostDone error replicas).signals
  refine fun htold => htold q (parked_leave hstep hq) (hwait ▸ hhost) ?_
  rw [owed_leave hstep, if_neg fun h => GuardedModel.host_notMem_signals_toHostDone _ _ h.1, hthread]
  refine List.mem_append_right _ (List.mem_map_of_mem (List.mem_filter.mpr ⟨hp, ?_⟩))
  exact decide_eq_true hhost

/-- The steps that lose no wake-up are the careful ones. -/
theorem noLostWakeUp_step_iff {a : SectionAction} (h : s.Sound) (hstep : s.step a = some s') :
    s'.NoLostWakeUp ∧ s'.Told ↔ s.Careful a := by
  refine ⟨fun hboth => ?_, fun hcareful => ?_⟩
  · cases a with
    | toHostDone thread error replicas =>
      exact fun p hp hhost => not_told_toHostDone hp hhost hstep hboth.2
    | enter | toGpuDone | wake => trivial
  · have hsound := h.step hcareful hstep
    exact ⟨hsound.noLostWakeUp, hsound.told⟩

/-! ## Runs -/

/-- The runs of a model, from its construction on. -/
abbrev ReachableBy (allowed : ModelMonitor → SectionAction → Prop) : ModelMonitor → Prop :=
  Runs.Reachable (fun s => s = {}) (fun s a s' => s.step a = some s') allowed

/-- **No wake-up is lost**, in runs in which no thread waits for the model when a `ToHost`
finishes. -/
theorem noLostWakeUp_of_careful (h : ReachableBy Careful s) : s.NoLostWakeUp ∧ s.Told := by
  have hsound : s.Sound := h.invariant Sound
    (fun s hs => by subst hs; exact ⟨.nil, rfl⟩)
    fun _ _ _ hsound hcareful hstep => hsound.step hcareful hstep
  exact ⟨hsound.noLostWakeUp, hsound.told⟩

/-- A model that has its memory and is being read by thread 2. -/
def loadingModel : List SectionAction :=
  [.enter (.initializeModel true) [], .enter (.allocatePinnedMemory 0 4) [],
    .enter (.toHost true) []]

/-- Waits for a replica, from before it is registered until it is there. -/
theorem noLostWakeUp_waitInGpu : ∃ s : ModelMonitor, ReachableBy Careful s ∧
    s.model.state = .loaded ∧ s.parked.map Parked.notified = [true] ∧ s.NoLostWakeUp ∧ s.Told := by
  have hrun : (Runs.attempt step Careful (loadingModel ++
      [.enter (.waitInGpu "r") [], .toHostDone 2 false [], .enter (.toGpu "r") [],
        .wake 0 [0], .toGpuDone 4 0 false]) {}).map
      (fun s => (s.model.state, s.parked.map Parked.notified)) = some (.loaded, [true]) := by
    decide +kernel
  obtain ⟨s, hs, heq⟩ := Option.map_eq_some_iff.mp hrun
  have hreachable : ReachableBy Careful s := .attempt (.start rfl) hs
  injection heq with hstate hnotified
  exact ⟨s, hreachable, hstate, hnotified, noLostWakeUp_of_careful hreachable⟩

/-- A thread waits for a model that is being read: when the model is loaded it sleeps on, and when
the reading has failed nobody tells it. -/
theorem not_noLostWakeUp_waitInHost :
    (∃ s : ModelMonitor, ReachableBy (fun _ _ => True) s ∧ s.model.state = .loaded ∧
        ¬ s.NoLostWakeUp) ∧
      ∃ s : ModelMonitor, ReachableBy (fun _ _ => True) s ∧ s.model.state = .unallocated ∧
        ¬ s.Told := by
  have hrun (error : Bool) : (Runs.attempt step (fun _ _ => True) (loadingModel ++
      [.enter .waitInHost [], .toHostDone 2 error []]) {}).map
      (fun s => (s.model.state, decide s.NoLostWakeUp, decide s.Told)) =
        some (if error then (.unallocated, true, false) else (.loaded, false, false)) := by
    cases error <;> decide +kernel
  constructor
  · obtain ⟨s, hs, heq⟩ := Option.map_eq_some_iff.mp (hrun false)
    injection heq with hstate hrest
    injection hrest with hlost
    exact ⟨s, .attempt (.start rfl) hs, hstate, of_decide_eq_false hlost⟩
  · obtain ⟨s, hs, heq⟩ := Option.map_eq_some_iff.mp (hrun true)
    injection heq with hstate hrest
    injection hrest with _ htold
    exact ⟨s, .attempt (.start rfl) hs, hstate, of_decide_eq_false htold⟩

end ModelMonitor

end Store
end SpotServe
