import SpotServe.Reparallelization.Executor

/-!
# What becomes of the deployments of a replan

`ReparallelizationExecutor` is given its callbacks, and `applyWith` is its `apply` for any of them;
the `apply` of `Executor` is the one with the callbacks of the vLLM adapter
(`apply_eq_applyWith`).

Here the callbacks do nothing but answer, and a `Ledger` keeps book of what they were called with.
The discipline is that each deployment is drained at most once and stopped at most once, and that
one which is neither the executor's current deployment at the end nor stopped does not exist
(`Disciplined`).  It is kept exactly when the source is not drained both for the migration and for
the stop, and the awaited migrations and the stop come through where the run gets to them
(`disciplined_iff`).
-/

namespace SpotServe
namespace Reparallelization

open Coroutine

/-! ## The executor with any callbacks -/

/-- The callbacks of an executor for deployments `D` and plans `P`, and where its own two fields
are in the state. -/
structure Callbacks (σ D P : Type) where
  createWorkers : P → EStateM Failure σ D
  ready : D → P → EStateM Failure σ Bool
  switchTraffic : D → P → EStateM Failure σ Unit
  drain : D → EStateM Failure σ Unit
  stop : D → EStateM Failure σ Unit
  waitForMigration : Option (D → EStateM Failure σ Unit)
  verifyRuntime : Option (D → P → EStateM Failure σ Bool)
  current : σ → Option D
  setCurrent : Option D → σ → σ
  setTransition : (Option Transition → Option Transition) → σ → σ

section Executor

variable {σ D P : Type} [DecidableEq D] (callbacks : Callbacks σ D P)
  (exec : ReparallelizationExecutor)

/-- Writing into `last_transition`. -/
def recordWith (f : Transition → Transition) : EStateM Failure σ Unit :=
  modify (callbacks.setTransition (Option.map f))

/-- `last_transition["status"] = status` -/
def setStatusWith (status : TransitionStatus) : EStateM Failure σ Unit :=
  recordWith callbacks fun t => { t with status }

/-- The first value of `last_transition`. -/
def startWith (mode : TransitionMode) : EStateM Failure σ Unit :=
  modify (callbacks.setTransition fun _ => some {
    status := .started
    transitionMode := mode
    migrationRequestedBeforeCreate := exec.migrateBeforeCreate
    migrationRequiresLiveSource := exec.migrationRequiresLiveSource })

/-- With `migrate_before_create` the source is drained before anything else. -/
def prepareWith : EStateM Failure σ (Option D) := do
  let w ← get
  match exec.migrateBeforeCreate, callbacks.current w with
  | true, some old =>
    callbacks.drain old
    return some old
  | _, _ => return none

/-- With `stop_current_before_create` the source is drained and stopped first. -/
def stopSourceWith : EStateM Failure σ Unit := do
  let w ← get
  match exec.stopCurrentBeforeCreate, callbacks.current w with
  | true, some old =>
    callbacks.drain old
    callbacks.stop old
    modify (callbacks.setCurrent none)
    recordWith callbacks fun t => { t with sourceStoppedBeforeTargetCreate := true }
  | _, _ => return ()

/-- The readiness check and the runtime check of a new target. -/
def checkWith (target : D) (plan : P) : EStateM Failure σ Unit := do
  let ready ← callbacks.ready target plan
  if !ready then throw .targetWorkersNotReady
  match callbacks.verifyRuntime with
  | none => return ()
  | some verify =>
    let verified ← verify target plan
    if !verified then throw .targetRuntimeNotVerified

/-- Stopping the target after a failure. -/
def discardWith (target : D) (status : TransitionStatus) : EStateM Failure σ Unit := do
  callbacks.stop target
  setStatusWith callbacks status

/-- Creating a target and checking it. -/
def bringUpWith (plan : P) : EStateM Failure σ D := do
  let target ← onFailure (callbacks.createWorkers plan)
    (setStatusWith callbacks .targetCreateFailed)
  onFailure (checkWith callbacks target plan) (discardWith callbacks target .targetNotReady)
  return target

/-- Draining the source, unless it was drained at the start. -/
def drainSourceWith (target : D) (old preparedOld : Option D) : EStateM Failure σ Unit :=
  match old with
  | none => return ()
  | some source =>
    if preparedOld = some source then return ()
    else
      onFailure (callbacks.drain source) (discardWith callbacks target .sourceDrainFailed)

/-- After the switch: the migrations are awaited and the source is stopped. -/
def retireWith (old : Option D) : EStateM Failure σ Unit :=
  match old with
  | none => return ()
  | some source => do
    match callbacks.waitForMigration with
    | none => pure ()
    | some wait => wait source
    callbacks.stop source

/-- Everything up to and including the traffic switch. -/
def transferWith (plan : P) : EStateM Failure σ (D × Option D) := do
  let preparedOld ← prepareWith callbacks exec
  stopSourceWith callbacks exec
  let target ← bringUpWith callbacks plan
  let old := callbacks.current (← get)
  recordWith callbacks fun t => { t with sourceKeptAliveUntilTargetReady := old.isSome }
  drainSourceWith callbacks target old preparedOld
  onFailure (callbacks.switchTraffic target plan)
    (discardWith callbacks target .trafficSwitchFailed)
  return (target, old)

/-- `apply` -/
def applyWith (plan : P) : EStateM Failure σ D := do
  let mode ← answer exec.resolvedTransitionMode
  startWith callbacks exec mode
  let (target, old) ← transferWith callbacks exec plan
  modify (callbacks.setCurrent (some target))
  retireWith callbacks old
  setStatusWith callbacks .applied
  return target

end Executor

/-- The callbacks of the vLLM adapter, as the router wires them. -/
def vllmCallbacks {π : Type} [DecidableEq π] (outside : Outside)
    (adapter : VllmDeploymentAdapter) :
    Callbacks (World π) (VllmDeployment π) (ParallelPlan π) where
  createWorkers := createWorkers outside adapter
  ready := readyWorkers outside
  switchTraffic := switchWorkers outside
  drain := drainWorkers outside
  stop := stopWorkers outside
  waitForMigration := outside.waitForMigration.map fun result _ => call result
  verifyRuntime := outside.verifyRuntime.map fun result _ _ => call result
  current := World.current
  setCurrent := fun current w => { w with current }
  setTransition := fun f w => { w with lastTransition := f w.lastTransition }

/-- The wired executor is an instance of the executor with any callbacks. -/
theorem apply_eq_applyWith {π : Type} [DecidableEq π] (outside : Outside)
    (adapter : VllmDeploymentAdapter) (exec : ReparallelizationExecutor) (plan : ParallelPlan π) :
    apply outside adapter exec plan = applyWith (vllmCallbacks outside adapter) exec plan := by
  have hcheck : ∀ target, checkTarget outside target plan =
      checkWith (vllmCallbacks outside adapter) target plan := by
    intro target
    unfold checkTarget checkWith vllmCallbacks
    cases outside.verifyRuntime <;> rfl
  have hretire : ∀ old, retireSource outside old =
      retireWith (vllmCallbacks (π := π) outside adapter) old := by
    intro old
    unfold retireSource retireWith vllmCallbacks callIfGiven
    cases old <;> cases outside.waitForMigration <;> rfl
  have hbring : bringUpTarget outside adapter plan =
      bringUpWith (vllmCallbacks outside adapter) plan := by
    unfold bringUpTarget bringUpWith
    simp only [hcheck]
    rfl
  have hprepare : prepareSource (π := π) outside exec =
      prepareWith (vllmCallbacks outside adapter) exec := by
    funext w
    obtain ⟨heap, reservations, switched, current, lastTransition⟩ := w
    obtain ⟨stop, migrate, mode, live⟩ := exec
    cases migrate <;> cases current <;> rfl
  have hstop : stopSource (π := π) outside exec =
      stopSourceWith (vllmCallbacks outside adapter) exec := by
    funext w
    obtain ⟨heap, reservations, switched, current, lastTransition⟩ := w
    obtain ⟨stop, migrate, mode, live⟩ := exec
    cases stop <;> cases current <;> rfl
  have hdrain : ∀ target old preparedOld, drainSource (π := π) outside target old preparedOld =
      drainSourceWith (vllmCallbacks outside adapter) target old preparedOld := by
    intro target old preparedOld
    cases old <;> rfl
  unfold apply applyWith transferTraffic transferWith
  simp only [hbring, hretire, hprepare, hstop, hdrain]
  rfl

/-! ## The ledger -/

/-- The answers of the callbacks in one run.  `drain` and `stop` are called several times, and may
answer differently each time. -/
structure Answers where
  createWorkers : Except String Unit
  ready : Except String Bool
  verifyRuntime : Option (Except String Bool)
  drain : ℕ → Except String Unit
  switchTraffic : Except String Unit
  waitForMigration : Option (Except String Unit)
  stop : ℕ → Except String Unit

/-- What the callbacks were called with.  A deployment is an object, known by the number under
which it came into being: 0 is the one from before.  `last_transition` is only written, and left
out. -/
structure Ledger where
  current : Option ℕ
  created : List ℕ := []
  drains : List ℕ := []
  /-- The calls of `stop`, and whether they returned. -/
  stops : List (ℕ × Bool) := []
  deriving DecidableEq

namespace Ledger

/-- The ledger of an executor that has a source or none. -/
def start (hasSource : Bool) : Ledger := { current := if hasSource then some 0 else none }

/-- The ledger after a deployment was created. -/
def extended (w : Ledger) : Ledger := { w with created := w.created ++ [w.created.length + 1] }

/-- The ledger after a call of `drain`. -/
def drained (w : Ledger) (deployment : ℕ) : Ledger := { w with drains := w.drains ++ [deployment] }

/-- The ledger after a call of `stop`. -/
def stopped (answers : Answers) (w : Ledger) (deployment : ℕ) : Ledger :=
  { w with stops := w.stops ++ [(deployment, (answers.stop w.stops.length).isOk)] }

end Ledger

/-- The callbacks that answer and keep book. -/
def ledgerCallbacks (P : Type) (answers : Answers) : Callbacks Ledger ℕ P where
  createWorkers := fun _ w =>
    match answers.createWorkers with
    | .ok _ => .ok (w.created.length + 1) w.extended
    | .error text => .error (.raised text) w
  ready := fun _ _ => answer (answers.ready.mapError Failure.raised)
  switchTraffic := fun _ _ => answer (answers.switchTraffic.mapError Failure.raised)
  drain := fun deployment w =>
    answer ((answers.drain w.drains.length).mapError Failure.raised) (w.drained deployment)
  stop := fun deployment w =>
    answer ((answers.stop w.stops.length).mapError Failure.raised) (w.stopped answers deployment)
  waitForMigration :=
    answers.waitForMigration.map fun result _ => answer (result.mapError Failure.raised)
  verifyRuntime := answers.verifyRuntime.map fun result _ _ =>
    answer (result.mapError Failure.raised)
  current := Ledger.current
  setCurrent := fun current w => { w with current }
  setTransition := fun _ w => w

/-- **The discipline.** -/
structure Disciplined (hasSource : Bool) (w : Ledger) : Prop where
  drainedOnce : w.drains.Nodup
  stoppedOnce : (w.stops.map Prod.fst).Nodup
  released : ∀ deployment, (hasSource = true ∧ deployment = 0 ∨ deployment ∈ w.created) →
    w.current ≠ some deployment → (deployment, true) ∈ w.stops

section Runs

variable {P : Type} {answers : Answers}

/-- The new target passes its checks. -/
def Answers.Passes (answers : Answers) : Prop :=
  answers.ready = .ok true ∧
    (answers.verifyRuntime = none ∨ answers.verifyRuntime = some (.ok true))

instance (answers : Answers) : Decidable answers.Passes := inferInstanceAs (Decidable (_ ∧ _))

/-- The migrations come through, or there are none to wait for. -/
def Answers.awaited (answers : Answers) : Bool :=
  match answers.waitForMigration with
  | none => true
  | some result => result.isOk

/-! ### The callbacks -/

theorem answer_ok {r : Except String Unit} (h : r.isOk = true) (w : Ledger) :
    answer (r.mapError Failure.raised) w = .ok () w := by
  cases r with
  | ok u => rfl
  | error text => exact absurd h (by simp [Except.isOk, Except.toBool])

theorem answer_error {r : Except String Unit} (h : r.isOk = false) (w : Ledger) :
    ∃ e, answer (r.mapError Failure.raised) w = (.error e w : EStateM.Result _ _ Unit) := by
  cases r with
  | ok u => exact absurd h (by simp [Except.isOk, Except.toBool])
  | error text => exact ⟨_, rfl⟩

theorem finalState_answer (r : Except String Unit) (w : Ledger) :
    finalState (answer (r.mapError Failure.raised) w) = w := by
  cases r <;> rfl

theorem checkWith_ok (h : answers.Passes) (target : ℕ) (plan : P) (w : Ledger) :
    checkWith (ledgerCallbacks P answers) target plan w = .ok () w := by
  obtain ⟨create, ready, verify, drain, switch, wait, stop⟩ := answers
  obtain ⟨hready, hverify⟩ := h
  dsimp only at hready hverify
  subst hready
  rcases hverify with rfl | rfl <;> rfl

theorem checkWith_error (h : ¬ answers.Passes) (target : ℕ) (plan : P) (w : Ledger) :
    ∃ e, checkWith (ledgerCallbacks P answers) target plan w = .error e w := by
  obtain ⟨create, ready, verify, drain, switch, wait, stop⟩ := answers
  unfold Answers.Passes at h
  rcases ready with text | ready
  · exact ⟨_, rfl⟩
  · cases ready with
    | false => exact ⟨_, rfl⟩
    | true =>
      rcases verify with _ | verified
      · exact absurd ⟨rfl, Or.inl rfl⟩ h
      · rcases verified with text | verified
        · exact ⟨_, rfl⟩
        · cases verified with
          | false => exact ⟨_, rfl⟩
          | true => exact absurd ⟨rfl, Or.inr rfl⟩ h

/-- A failed step, after which the target is stopped. -/
theorem discard_run {α : Type} {x : EStateM Failure Ledger α} {w w' : Ledger} {e : Failure}
    (hx : x w = .error e w') (P : Type) (answers : Answers) (target : ℕ)
    (status : TransitionStatus) :
    ∃ e', onFailure x (discardWith (ledgerCallbacks P answers) target status) w =
      .error e' (w'.stopped answers target) := by
  have hstop : finalState (discardWith (ledgerCallbacks P answers) target status w') =
      w'.stopped answers target := by
    have hcall := finalState_answer (answers.stop w'.stops.length) (w'.stopped answers target)
    show finalState (((ledgerCallbacks P answers).stop target >>= fun _ =>
      setStatusWith (ledgerCallbacks P answers) status) w') = _
    rw [run_bind]
    change finalState ((ledgerCallbacks P answers).stop target w') = _ at hcall
    cases hrun : (ledgerCallbacks P answers).stop target w' with
    | ok u w'' =>
      rw [hrun] at hcall
      exact hcall
    | error e w'' =>
      rw [hrun] at hcall
      exact hcall
  obtain ⟨e', he'⟩ := run_onFailure_error hx
    (discardWith (ledgerCallbacks P answers) target status)
  rw [he', hstop]
  exact ⟨e', rfl⟩

/-! ### From the target on -/

variable (answers)

/-- Bringing a target up: it never was, or it was stopped, or it is there. -/
theorem bringUp_run (plan : P) (w : Ledger) :
    (answers.createWorkers.isOk = false ∧
      ∃ e, bringUpWith (ledgerCallbacks P answers) plan w = .error e w) ∨
    (answers.createWorkers.isOk = true ∧ ¬ answers.Passes ∧
      ∃ e, bringUpWith (ledgerCallbacks P answers) plan w =
        .error e (w.extended.stopped answers (w.created.length + 1))) ∨
    (answers.createWorkers.isOk = true ∧ answers.Passes ∧
      bringUpWith (ledgerCallbacks P answers) plan w = .ok (w.created.length + 1) w.extended) := by
  have hcreate : (ledgerCallbacks P answers).createWorkers plan w =
      match answers.createWorkers with
      | .ok _ => .ok (w.created.length + 1) w.extended
      | .error text => .error (.raised text) w := rfl
  rw [bringUpWith, run_bind]
  cases h : answers.createWorkers with
  | error text =>
    left
    refine ⟨rfl, ?_⟩
    rw [h] at hcreate
    obtain ⟨e, he⟩ := run_onFailure_error hcreate
      (setStatusWith (ledgerCallbacks P answers) .targetCreateFailed)
    rw [he]
    exact ⟨e, rfl⟩
  | ok u =>
    right
    rw [h] at hcreate
    rw [run_onFailure_ok hcreate]
    by_cases hpasses : answers.Passes
    · right
      refine ⟨rfl, hpasses, ?_⟩
      dsimp only
      rw [run_bind, run_onFailure_ok (checkWith_ok hpasses _ _ _)]
      rfl
    · left
      refine ⟨rfl, hpasses, ?_⟩
      obtain ⟨e, he⟩ := checkWith_error hpasses (w.created.length + 1) plan w.extended
      obtain ⟨e', he'⟩ := discard_run he P answers (w.created.length + 1) .targetNotReady
      dsimp only
      rw [run_bind, he']
      exact ⟨e', rfl⟩

/-- Draining the source late, with the target stopped when it fails. -/
theorem drainSource_run (target : ℕ) (old preparedOld : Option ℕ) (w : Ledger) :
    ((old = none ∨ preparedOld = old) ∧
      drainSourceWith (ledgerCallbacks P answers) target old preparedOld w = .ok () w) ∨
    (∃ source, old = some source ∧ preparedOld ≠ old ∧
      ((answers.drain w.drains.length).isOk = true ∧
        drainSourceWith (ledgerCallbacks P answers) target old preparedOld w =
          .ok () (w.drained source) ∨
      (answers.drain w.drains.length).isOk = false ∧ ∃ e,
        drainSourceWith (ledgerCallbacks P answers) target old preparedOld w =
          .error e ((w.drained source).stopped answers target))) := by
  cases old with
  | none => exact Or.inl ⟨Or.inl rfl, rfl⟩
  | some source =>
    unfold drainSourceWith
    dsimp only
    split_ifs with hprepared
    · exact Or.inl ⟨Or.inr hprepared, rfl⟩
    · right
      refine ⟨source, rfl, hprepared, ?_⟩
      cases hdrain : (answers.drain w.drains.length).isOk with
      | true => exact Or.inl ⟨rfl, run_onFailure_ok (answer_ok hdrain _) _⟩
      | false =>
        obtain ⟨e, he⟩ := answer_error hdrain (w.drained source)
        exact Or.inr ⟨rfl, discard_run he P answers target .sourceDrainFailed⟩

/-- The switch, with the target stopped when it fails. -/
theorem switch_run (target : ℕ) (plan : P) (w : Ledger) :
    (answers.switchTraffic.isOk = true ∧
      onFailure ((ledgerCallbacks P answers).switchTraffic target plan)
        (discardWith (ledgerCallbacks P answers) target .trafficSwitchFailed) w = .ok () w) ∨
    (answers.switchTraffic.isOk = false ∧ ∃ e,
      onFailure ((ledgerCallbacks P answers).switchTraffic target plan)
        (discardWith (ledgerCallbacks P answers) target .trafficSwitchFailed) w =
          .error e (w.stopped answers target)) := by
  cases hswitch : answers.switchTraffic.isOk with
  | true => exact Or.inl ⟨rfl, run_onFailure_ok (answer_ok hswitch w) _⟩
  | false =>
    obtain ⟨e, he⟩ := answer_error hswitch w
    exact Or.inr ⟨rfl, discard_run he P answers target .trafficSwitchFailed⟩

/-- The ledger after the source was retired. -/
def Ledger.retired (answers : Answers) (w : Ledger) (old : Option ℕ) : Ledger :=
  match old with
  | none => w
  | some source => if answers.awaited then w.stopped answers source else w

theorem retire_run (old : Option ℕ) (w : Ledger) :
    finalState (retireWith (ledgerCallbacks P answers) old w) = w.retired answers old := by
  cases old with
  | none => rfl
  | some source =>
    have hstop : finalState ((ledgerCallbacks P answers).stop source w) =
        w.stopped answers source := finalState_answer _ _
    have hwait : (ledgerCallbacks P answers).waitForMigration =
        answers.waitForMigration.map fun result _ => answer (result.mapError Failure.raised) := rfl
    unfold Ledger.retired Answers.awaited retireWith
    rw [hwait]
    cases answers.waitForMigration with
    | none => exact hstop
    | some result =>
      cases result with
      | error text => rfl
      | ok u => exact hstop

/-- The ledger after the switch, and after the source was retired if it came through. -/
def Ledger.switched (answers : Answers) (w : Ledger) (target : ℕ) (old : Option ℕ) : Ledger :=
  if answers.switchTraffic.isOk then { w with current := some target }.retired answers old
  else w.stopped answers target

/-- The ledger once the target was up. -/
def Ledger.takenOver (answers : Answers) (w : Ledger) (preparedOld : Option ℕ) (target : ℕ) :
    Ledger :=
  match w.current with
  | none => w.switched answers target none
  | some source =>
    if preparedOld = some source then w.switched answers target (some source)
    else if (answers.drain w.drains.length).isOk then
      (w.drained source).switched answers target (some source)
    else (w.drained source).stopped answers target

/-- `apply` once the target is up. -/
def takeOverWith {σ D P : Type} [DecidableEq D] (callbacks : Callbacks σ D P)
    (preparedOld : Option D) (plan : P) (target : D) : EStateM Failure σ D := do
  let old := callbacks.current (← get)
  recordWith callbacks fun t => { t with sourceKeptAliveUntilTargetReady := old.isSome }
  drainSourceWith callbacks target old preparedOld
  onFailure (callbacks.switchTraffic target plan)
    (discardWith callbacks target .trafficSwitchFailed)
  modify (callbacks.setCurrent (some target))
  retireWith callbacks old
  setStatusWith callbacks .applied
  return target

theorem applyWith_eq {σ D P : Type} [DecidableEq D] (callbacks : Callbacks σ D P)
    (exec : ReparallelizationExecutor) (plan : P) :
    applyWith callbacks exec plan = (do
      let mode ← answer exec.resolvedTransitionMode
      startWith callbacks exec mode
      let preparedOld ← prepareWith callbacks exec
      stopSourceWith callbacks exec
      let target ← bringUpWith callbacks plan
      takeOverWith callbacks preparedOld plan target) := by
  simp only [applyWith, transferWith, takeOverWith, bind_assoc, pure_bind]

/-- The end of a run, from the switch on. -/
theorem switched_run (old : Option ℕ) (target : ℕ) (plan : P) (w : Ledger) :
    finalState ((do
        onFailure ((ledgerCallbacks P answers).switchTraffic target plan)
          (discardWith (ledgerCallbacks P answers) target .trafficSwitchFailed)
        modify ((ledgerCallbacks P answers).setCurrent (some target))
        retireWith (ledgerCallbacks P answers) old
        setStatusWith (ledgerCallbacks P answers) .applied
        return target : EStateM Failure Ledger ℕ) w) = w.switched answers target old := by
  have hretire := retire_run (P := P) answers old { w with current := some target }
  rw [run_bind, Ledger.switched]
  rcases switch_run answers target plan w with ⟨hswitch, hrun⟩ | ⟨hswitch, e, hrun⟩
  · rw [hrun, hswitch, if_pos rfl, ← hretire]
    dsimp only
    rw [run_bind, run_modify]
    show finalState ((retireWith (ledgerCallbacks P answers) old >>= fun _ =>
      setStatusWith (ledgerCallbacks P answers) .applied >>= fun _ => pure target)
        { w with current := some target }) = _
    rw [run_bind]
    cases retireWith (ledgerCallbacks P answers) old { w with current := some target } <;> rfl
  · rw [hrun, hswitch]
    rfl

theorem takeOver_run (preparedOld : Option ℕ) (plan : P) (target : ℕ) (w : Ledger) :
    finalState (takeOverWith (ledgerCallbacks P answers) preparedOld plan target w) =
      w.takenOver answers preparedOld target := by
  have hold : (ledgerCallbacks P answers).current w = w.current := rfl
  show finalState ((drainSourceWith (ledgerCallbacks P answers) target w.current preparedOld >>=
    fun _ => _) w) = _
  rw [run_bind, Ledger.takenOver]
  rcases drainSource_run (P := P) answers target w.current preparedOld w with
    ⟨hearly, hrun⟩ | ⟨source, hsource, hlate, ⟨hdrain, hrun⟩ | ⟨hdrain, e, hrun⟩⟩
  · rw [hrun]
    dsimp only
    rw [switched_run, hold]
    cases hcurrent : w.current with
    | none => rfl
    | some source =>
      rw [hcurrent] at hearly
      dsimp only
      rw [if_pos (hearly.resolve_left (by simp))]
  · rw [hrun, hsource]
    dsimp only
    rw [if_neg (hsource ▸ hlate), if_pos hdrain, switched_run, hold, hsource]
  · rw [hrun, hsource]
    dsimp only
    rw [if_neg (hsource ▸ hlate), hdrain]
    rfl

/-- The ledger from the creation of the target on. -/
def Ledger.moved (answers : Answers) (w : Ledger) (preparedOld : Option ℕ) : Ledger :=
  if answers.createWorkers.isOk = false then w
  else if answers.Passes then w.extended.takenOver answers preparedOld (w.created.length + 1)
  else w.extended.stopped answers (w.created.length + 1)

theorem move_run (preparedOld : Option ℕ) (plan : P) (w : Ledger) :
    finalState ((bringUpWith (ledgerCallbacks P answers) plan >>=
      takeOverWith (ledgerCallbacks P answers) preparedOld plan) w) =
      w.moved answers preparedOld := by
  rw [run_bind, Ledger.moved]
  rcases bringUp_run answers plan w with
    ⟨hcreate, e, hrun⟩ | ⟨hcreate, hpasses, e, hrun⟩ | ⟨hcreate, hpasses, hrun⟩
  · rw [hrun, if_pos hcreate]
    rfl
  · rw [hrun, hcreate, if_neg (by simp), if_neg hpasses]
    rfl
  · rw [hrun, hcreate, if_neg (by simp), if_pos hpasses]
    exact takeOver_run answers preparedOld plan _ _

/-! ### The source first -/

/-- The ledger when the source is drained and stopped first. -/
def Ledger.broken (answers : Answers) (w : Ledger) (preparedOld : Option ℕ) : Ledger :=
  let drained := w.drained 0
  if (answers.drain w.drains.length).isOk then
    let stopped := drained.stopped answers 0
    if (answers.stop drained.stops.length).isOk then
      { stopped with current := none }.moved answers preparedOld
    else stopped
  else drained

/-- The ledger once the source was prepared. -/
def Ledger.rearranged (exec : ReparallelizationExecutor) (answers : Answers) (w : Ledger)
    (preparedOld : Option ℕ) : Ledger :=
  if exec.stopCurrentBeforeCreate then w.broken answers preparedOld else w.moved answers preparedOld

/-- The ledger of a whole run. -/
def Ledger.replanned (exec : ReparallelizationExecutor) (answers : Answers) : Bool → Ledger
  | false => (start false).moved answers none
  | true =>
    if exec.migrateBeforeCreate then
      let drained := (start true).drained 0
      if (answers.drain 0).isOk then drained.rearranged exec answers (some 0) else drained
    else (start true).rearranged exec answers none

theorem stopSource_run {exec : ReparallelizationExecutor}
    (hstop : exec.stopCurrentBeforeCreate = true) {w : Ledger} (hcurrent : w.current = some 0) :
    ((answers.drain w.drains.length).isOk = false ∧ ∃ e,
      stopSourceWith (ledgerCallbacks P answers) exec w = .error e (w.drained 0)) ∨
    ((answers.drain w.drains.length).isOk = true ∧ (answers.stop w.stops.length).isOk = false ∧
      ∃ e, stopSourceWith (ledgerCallbacks P answers) exec w =
        .error e ((w.drained 0).stopped answers 0)) ∨
    ((answers.drain w.drains.length).isOk = true ∧ (answers.stop w.stops.length).isOk = true ∧
      stopSourceWith (ledgerCallbacks P answers) exec w =
        .ok () { (w.drained 0).stopped answers 0 with current := none }) := by
  have hrun : stopSourceWith (ledgerCallbacks P answers) exec w = (do
      (ledgerCallbacks P answers).drain 0
      (ledgerCallbacks P answers).stop 0
      modify ((ledgerCallbacks P answers).setCurrent none)
      recordWith (ledgerCallbacks P answers) fun t =>
        { t with sourceStoppedBeforeTargetCreate := true } : EStateM Failure Ledger Unit) w := by
    obtain ⟨stop, migrate, mode, live⟩ := exec
    obtain ⟨current, created, drains, stops⟩ := w
    dsimp only at hstop hcurrent
    subst hstop hcurrent
    rfl
  rw [hrun, run_bind]
  cases hdrain : (answers.drain w.drains.length).isOk with
  | false =>
    obtain ⟨e, he⟩ := answer_error hdrain (w.drained 0)
    change (ledgerCallbacks P answers).drain 0 w = _ at he
    rw [he]
    exact Or.inl ⟨rfl, e, rfl⟩
  | true =>
    right
    have hok := answer_ok hdrain (w.drained 0)
    change (ledgerCallbacks P answers).drain 0 w = _ at hok
    rw [hok]
    dsimp only
    rw [run_bind]
    cases hsource : (answers.stop w.stops.length).isOk with
    | false =>
      obtain ⟨e, he⟩ := answer_error hsource ((w.drained 0).stopped answers 0)
      change (ledgerCallbacks P answers).stop 0 (w.drained 0) = _ at he
      rw [he]
      exact Or.inl ⟨rfl, rfl, e, rfl⟩
    | true =>
      have hok := answer_ok hsource ((w.drained 0).stopped answers 0)
      change (ledgerCallbacks P answers).stop 0 (w.drained 0) = _ at hok
      rw [hok]
      exact Or.inr ⟨rfl, rfl, rfl⟩

theorem rearranged_run (exec : ReparallelizationExecutor) (preparedOld : Option ℕ) (plan : P)
    {w : Ledger} (hcurrent : w.current = some 0) :
    finalState ((do
        stopSourceWith (ledgerCallbacks P answers) exec
        let target ← bringUpWith (ledgerCallbacks P answers) plan
        takeOverWith (ledgerCallbacks P answers) preparedOld plan target) w) =
      w.rearranged exec answers preparedOld := by
  unfold Ledger.rearranged
  rw [run_bind]
  cases hstop : exec.stopCurrentBeforeCreate with
  | false =>
    have hrun : stopSourceWith (ledgerCallbacks P answers) exec w = .ok () w := by
      obtain ⟨stop, migrate, mode, live⟩ := exec
      dsimp only at hstop
      subst hstop
      cases w.current <;> rfl
    rw [hrun]
    exact move_run answers preparedOld plan w
  | true =>
    rw [if_pos rfl, Ledger.broken]
    rcases stopSource_run (P := P) answers hstop hcurrent with
      ⟨hdrain, e, hrun⟩ | ⟨hdrain, hsource, e, hrun⟩ | ⟨hdrain, hsource, hrun⟩
    · rw [hrun, hdrain]
      rfl
    · have hsource' : (answers.stop (w.drained 0).stops.length).isOk = false := hsource
      rw [hrun, hdrain, if_pos rfl, hsource']
      rfl
    · have hsource' : (answers.stop (w.drained 0).stops.length).isOk = true := hsource
      rw [hrun, hdrain, if_pos rfl, hsource', if_pos rfl]
      exact move_run answers preparedOld plan _

/-- **The ledger of a run.** -/
theorem replanned_run {exec : ReparallelizationExecutor} {mode : TransitionMode}
    (hmode : exec.resolvedTransitionMode = .ok mode) (hasSource : Bool) (plan : P) :
    finalState (applyWith (ledgerCallbacks P answers) exec plan (Ledger.start hasSource)) =
      Ledger.replanned exec answers hasSource := by
  rw [applyWith_eq, hmode]
  show finalState ((prepareWith (ledgerCallbacks P answers) exec >>= fun _ => _)
    (Ledger.start hasSource)) = _
  rw [run_bind]
  cases hasSource with
  | false =>
    have hprepare : prepareWith (ledgerCallbacks P answers) exec (Ledger.start false) =
        .ok none (Ledger.start false) := by
      obtain ⟨stop, migrate, mode, live⟩ := exec
      cases migrate <;> rfl
    have hstop : stopSourceWith (ledgerCallbacks P answers) exec (Ledger.start false) =
        .ok () (Ledger.start false) := by
      obtain ⟨stop, migrate, mode, live⟩ := exec
      cases stop <;> rfl
    rw [hprepare]
    dsimp only
    rw [run_bind, hstop]
    exact move_run answers none plan _
  | true =>
    unfold Ledger.replanned
    cases hmigrate : exec.migrateBeforeCreate with
    | false =>
      have hprepare : prepareWith (ledgerCallbacks P answers) exec (Ledger.start true) =
          .ok none (Ledger.start true) := by
        obtain ⟨stop, migrate, mode, live⟩ := exec
        dsimp only at hmigrate
        subst hmigrate
        rfl
      rw [hprepare]
      exact rearranged_run answers exec none plan rfl
    | true =>
      have hprepare : prepareWith (ledgerCallbacks P answers) exec (Ledger.start true) = (do
          (ledgerCallbacks P answers).drain 0
          return some 0 : EStateM Failure Ledger (Option ℕ)) (Ledger.start true) := by
        obtain ⟨stop, migrate, mode, live⟩ := exec
        dsimp only at hmigrate
        subst hmigrate
        rfl
      rw [hprepare, if_pos rfl, run_bind]
      cases hdrain : (answers.drain 0).isOk with
      | false =>
        obtain ⟨e, he⟩ := answer_error hdrain ((Ledger.start true).drained 0)
        change (ledgerCallbacks P answers).drain 0 (Ledger.start true) = _ at he
        rw [he]
        rfl
      | true =>
        have hok := answer_ok hdrain ((Ledger.start true).drained 0)
        change (ledgerCallbacks P answers).drain 0 (Ledger.start true) = _ at hok
        rw [hok]
        exact rearranged_run answers exec (some 0) plan rfl

/-! ### The discipline -/

theorem disciplined_iff_fields {hasSource : Bool} {w : Ledger} :
    Disciplined hasSource w ↔ w.drains.Nodup ∧ (w.stops.map Prod.fst).Nodup ∧
      (hasSource = true → w.current ≠ some 0 → (0, true) ∈ w.stops) ∧
      ∀ deployment ∈ w.created, w.current ≠ some deployment → (deployment, true) ∈ w.stops := by
  constructor
  · intro h
    exact ⟨h.drainedOnce, h.stoppedOnce, fun hsource => h.released 0 (Or.inl ⟨hsource, rfl⟩),
      fun deployment hmem => h.released deployment (Or.inr hmem)⟩
  · rintro ⟨hdrains, hstops, hsource, hcreated⟩
    refine ⟨hdrains, hstops, fun deployment hknown => ?_⟩
    rcases hknown with ⟨hhas, rfl⟩ | hmem
    · exact hsource hhas
    · exact hcreated deployment hmem

/-- Without a source to move over from, a target that was created is current or stopped. -/
theorem disciplined_moved_none (drains : List ℕ) (hasSource : Bool) (preparedOld : Option ℕ) :
    Disciplined hasSource (Ledger.moved answers
        ⟨none, [], drains, if hasSource then [(0, true)] else []⟩ preparedOld) ↔
      drains.Nodup ∧ (answers.createWorkers.isOk = true →
        answers.Passes ∧ answers.switchTraffic.isOk = true ∨
          (answers.stop (if hasSource then 1 else 0)).isOk = true) := by
  rw [disciplined_iff_fields, Ledger.moved]
  cases hcreate : answers.createWorkers.isOk with
  | false => cases hasSource <;> simp
  | true =>
    by_cases hpasses : answers.Passes
    · cases hswitch : answers.switchTraffic.isOk <;> cases hasSource <;>
        simp [hpasses, Ledger.takenOver, Ledger.switched, Ledger.extended, Ledger.stopped,
          Ledger.retired, hswitch]
    · cases hasSource <;> simp [hpasses, Ledger.extended, Ledger.stopped]

/-- With a source that is still there, the one of the two that is not current must be stopped. -/
theorem disciplined_moved_some (migrated : Bool) :
    Disciplined true (Ledger.moved answers
        ⟨some 0, [], if migrated then [0] else [], []⟩ (if migrated then some 0 else none)) ↔
      (answers.createWorkers.isOk = true → (answers.stop 0).isOk = true ∧
        (answers.Passes → (migrated = true ∨ (answers.drain 0).isOk = true) →
          answers.switchTraffic.isOk = true → answers.awaited = true)) := by
  rw [disciplined_iff_fields, Ledger.moved]
  cases hcreate : answers.createWorkers.isOk with
  | false => cases migrated <;> simp
  | true =>
    by_cases hpasses : answers.Passes
    · cases hswitch : answers.switchTraffic.isOk <;> cases hawaited : answers.awaited <;>
        cases hdrain : (answers.drain 0).isOk <;> cases migrated <;>
        simp [hpasses, Ledger.takenOver, Ledger.switched, Ledger.extended, Ledger.stopped,
          Ledger.retired, Ledger.drained, hswitch, hawaited, hdrain]
    · cases migrated <;> simp [hpasses, Ledger.extended, Ledger.stopped]

/-- With a source that is drained and stopped first. -/
theorem disciplined_broken (drains : List ℕ) (preparedOld : Option ℕ) :
    Disciplined true (Ledger.broken answers ⟨some 0, [], drains, []⟩ preparedOld) ↔
      (drains ++ [0]).Nodup ∧ ((answers.drain drains.length).isOk = true →
        (answers.stop 0).isOk = true → answers.createWorkers.isOk = true →
          answers.Passes ∧ answers.switchTraffic.isOk = true ∨ (answers.stop 1).isOk = true) := by
  have hmoved := disciplined_moved_none answers (drains ++ [0]) true preparedOld
  unfold Ledger.broken Ledger.drained Ledger.stopped
  dsimp only [List.length_nil, List.nil_append]
  cases hdrain : (answers.drain drains.length).isOk with
  | false => simp [disciplined_iff_fields]
  | true =>
    cases hsource : (answers.stop 0).isOk with
    | false => simp [disciplined_iff_fields]
    | true => simpa using hmoved

end Runs

section Discipline

variable (exec : ReparallelizationExecutor) (answers : Answers) (hasSource : Bool)

/-- The source is drained for the migration, and drained again for the stop. -/
def DrainsTwice : Prop :=
  hasSource = true ∧ exec.migrateBeforeCreate = true ∧ exec.stopCurrentBeforeCreate = true ∧
    (answers.drain 0).isOk = true

/-- What is done to the source before a target is created comes through. -/
def SourcePrepared : Prop :=
  hasSource = true →
    ((exec.migrateBeforeCreate = true ∨ exec.stopCurrentBeforeCreate = true) →
      (answers.drain 0).isOk = true) ∧
    (exec.stopCurrentBeforeCreate = true → (answers.stop 0).isOk = true)

/-- When a target is created, the stop of the deployment that is given up comes through, and so do
the migrations when traffic has moved away from a source. -/
def GivenUpStopped : Prop :=
  if hasSource = true ∧ exec.stopCurrentBeforeCreate = false then
    (answers.stop 0).isOk = true ∧
      (answers.Passes → (exec.migrateBeforeCreate = true ∨ (answers.drain 0).isOk = true) →
        answers.switchTraffic.isOk = true → answers.awaited = true)
  else
    answers.Passes ∧ answers.switchTraffic.isOk = true ∨
      (answers.stop (if hasSource then 1 else 0)).isOk = true

/-- **Deployment lifecycle.**  For every accepted configuration, every plan and all answers of the
callbacks. -/
theorem disciplined_iff {P : Type} (plan : P) (mode : TransitionMode)
    (hmode : exec.resolvedTransitionMode = .ok mode) :
    Disciplined hasSource
        (finalState (applyWith (ledgerCallbacks P answers) exec plan (Ledger.start hasSource))) ↔
      ¬ DrainsTwice exec answers hasSource ∧
        (SourcePrepared exec answers hasSource → answers.createWorkers.isOk = true →
          GivenUpStopped exec answers hasSource) := by
  rw [replanned_run answers hmode]
  unfold DrainsTwice SourcePrepared GivenUpStopped
  cases hasSource with
  | false =>
    have hmoved := disciplined_moved_none answers [] false none
    simpa [Ledger.replanned, Ledger.start] using hmoved
  | true =>
    unfold Ledger.replanned Ledger.rearranged Ledger.start
    cases hmigrate : exec.migrateBeforeCreate with
    | false =>
      cases hstop : exec.stopCurrentBeforeCreate with
      | false =>
        have hmoved := disciplined_moved_some answers false
        simpa using hmoved
      | true =>
        have hbroken := disciplined_broken answers [] none
        simpa using hbroken
    | true =>
      cases hdrain : (answers.drain 0).isOk with
      | false =>
        -- the first drain raises, and the source stays current
        simp [Ledger.drained, disciplined_iff_fields]
      | true =>
        cases hstop : exec.stopCurrentBeforeCreate with
        | false =>
          have hmoved := disciplined_moved_some answers true
          simpa [Ledger.drained, hdrain] using hmoved
        | true =>
          have hbroken := disciplined_broken answers [0] (some 0)
          simpa [Ledger.drained] using hbroken

end Discipline

/-- Every callback comes through. -/
def allAnswered : Answers where
  createWorkers := .ok ()
  ready := .ok true
  verifyRuntime := none
  drain := fun _ => .ok ()
  switchTraffic := .ok ()
  waitForMigration := some (.ok ())
  stop := fun _ => .ok ()

/-- The source is drained, traffic moves, and the source is stopped. -/
theorem disciplined_allAnswered :
    Disciplined true
      (finalState (applyWith (ledgerCallbacks Unit allAnswered) {} () (Ledger.start true))) := by
  refine (disciplined_iff {} allAnswered true () .makeBeforeBreak rfl).mpr ⟨?_, ?_⟩
  · rintro ⟨-, hmigrate, -⟩
    exact absurd hmigrate (by decide)
  · exact fun _ _ => ⟨rfl, fun _ _ _ => rfl⟩

/-- With both flags the source is drained twice, and when the migrations do not come through in time
it is neither current nor stopped. -/
theorem not_disciplined :
    (ReparallelizationExecutor.resolvedTransitionMode
        { stopCurrentBeforeCreate := true, migrateBeforeCreate := true } = .ok .breakBeforeMake ∧
      ¬ Disciplined true (finalState (applyWith (ledgerCallbacks Unit allAnswered)
        { stopCurrentBeforeCreate := true, migrateBeforeCreate := true } () (Ledger.start true)))) ∧
    (ReparallelizationExecutor.resolvedTransitionMode {} = .ok .makeBeforeBreak ∧
      ¬ Disciplined true (finalState (applyWith (ledgerCallbacks Unit
        { allAnswered with
          waitForMigration := some (.error "source_kv_lease_not_released_before_deadline:1") })
        {} () (Ledger.start true)))) := by
  refine ⟨⟨rfl, fun h => ?_⟩, ⟨rfl, fun h => ?_⟩⟩
  · exact absurd h.drainedOnce (by decide)
  · exact absurd (h.released 0 (Or.inl ⟨rfl, rfl⟩) (by decide)) (by decide)

end Reparallelization
end SpotServe
