import SpotServe.Reparallelization.BringUp

/-!
# What a failed replan leaves behind

The executor's class docstring promises that a failed replan leaves serving traffic untouched.
Every compensation is there for the target: it is stopped whichever step fails.  None is there for
the source: `drain_workers` closes the admission of every old handle, and no step of `apply` opens
it again.

* `Closing`: what draining does to the world.  A handle it closed stays closed under everything
  that happens later to a target (`Closed.of_sameBelow`).
* `transferTraffic_spec`: what is left when the transaction fails before traffic has moved.
* `servingUntouched_iff`: the promise is kept exactly when the source had nothing to lose, or the
  failure came before the source was drained.
-/

namespace SpotServe
namespace Reparallelization

open Cluster Coroutine

variable {π : Type}

/-- The handle at a reference admits a request. -/
def Accepts (w : World π) (ref : ℕ) : Prop :=
  ∃ h, w.heap[ref]? = some h ∧ h.canAcceptRequest 1 = true

/-- The handle at a reference, if there is one, is not ready. -/
def Closed (w : World π) (ref : ℕ) : Prop :=
  ∀ h, w.heap[ref]? = some h → h.ready = false

theorem Closed.not_accepts {w : World π} {ref : ℕ} (h : Closed w ref) : ¬ Accepts w ref := by
  rintro ⟨handle, hget, haccept⟩
  rw [InstanceHandle.canAcceptRequest_of_not_ready (h handle hget) (by decide)] at haccept
  exact absurd haccept (by decide)

theorem Closed.of_sameBelow {n : ℕ} {w w' : World π} {ref : ℕ} (h : Closed w ref) (href : ref < n)
    (hsame : SameBelow n w w') : Closed w' ref := by
  intro handle hget
  rw [hsame.heap ref href] at hget
  exact h handle hget

/-- The handles of the executor's current deployment. -/
def oldRefs (w : World π) : List ℕ :=
  match w.current with
  | none => []
  | some old => old.refs

/-- **The promise.**  The executor still holds the old deployment, and every old instance that
admitted requests before admits them again. -/
structure ServingUntouched (w w' : World π) : Prop where
  current : w'.current = w.current
  accepts : ∀ ref ∈ oldRefs w, Accepts w ref → Accepts w' ref

/-! ## Draining -/

/-- No handle becomes ready, none appears, and deployments and switches stay. -/
structure Closing (w w' : World π) : Prop where
  length : w'.heap.length = w.heap.length
  closed : ∀ ref, Closed w ref → Closed w' ref
  current : w'.current = w.current
  switched : w'.switched = w.switched

instance : Std.Refl (Closing : World π → World π → Prop) where
  refl _ := ⟨rfl, fun _ h => h, rfl, rfl⟩

instance : IsTrans (World π) Closing where
  trans _ _ _ h h' := ⟨h'.length.trans h.length, fun ref hc => h'.closed ref (h.closed ref hc),
    h'.current.trans h.current, h'.switched.trans h.switched⟩

theorem keeps_closing_updateHandle (ref : ℕ) {f : InstanceHandle → InstanceHandle}
    (hf : ∀ h, h.ready = false → (f h).ready = false) :
    Keeps Closing (updateHandle ref f : Effect π Unit) := by
  intro w
  refine ⟨List.length_modify .., ?_, rfl, rfl⟩
  intro r hclosed h' hget
  change (w.heap.modify ref f)[r]? = some h' at hget
  by_cases hr : ref = r
  · subst hr
    rw [List.getElem?_modify_eq, Option.map_eq_map, Option.map_eq_some_iff] at hget
    obtain ⟨h, hh, rfl⟩ := hget
    exact hf h (hclosed h hh)
  · rw [List.getElem?_modify_ne f w.heap hr] at hget
    exact hclosed h' hget

/-- The marking loop closes every handle it goes through. -/
theorem closed_after_marking {refs : List ℕ} {ref : ℕ} (href : ref ∈ refs) (w : World π) :
    Closed (finalState ((refs.forM fun r =>
      updateHandle r InstanceHandle.markDraining : Effect π Unit) w)) ref := by
  induction refs generalizing w with
  | nil => exact absurd href (by simp)
  | cons r refs ih =>
    by_cases hin : ref ∈ refs
    · exact ih hin _
    · obtain rfl : ref = r := by
        rcases List.mem_cons.mp href with h | h
        · exact h
        · exact absurd h hin
      -- closed by its own turn, and no later turn opens it
      have hrest : Keeps Closing (refs.forM fun r =>
          updateHandle r InstanceHandle.markDraining : Effect π Unit) :=
        Keeps.forM fun r _ => keeps_closing_updateHandle r fun _ _ => rfl
      refine (hrest _).closed ref ?_
      intro h' hget
      rw [List.getElem?_modify_eq, Option.map_eq_map, Option.map_eq_some_iff] at hget
      obtain ⟨h, -, rfl⟩ := hget
      rfl

variable (outside : Outside)

/-- What `drain_workers` does after the marks. -/
theorem keeps_closing_afterMarks (refs : List ℕ) :
    Keeps Closing (do
      callIfGiven outside.requestMigrator
      refs.forM fun ref => updateHandle ref fun h =>
        { h with concurrency := outside.concurrencyAfterDrain h.instanceId h.concurrency }
      : Effect π Unit) := by
  refine Keeps.bind (keeps_callIfGiven _) fun _ => Keeps.forM fun ref _ => ?_
  exact keeps_closing_updateHandle ref fun _ h => h

theorem drainWorkers_closing (deployment : VllmDeployment π) :
    Keeps Closing (drainWorkers outside deployment) :=
  Keeps.bind (Keeps.forM fun r _ => keeps_closing_updateHandle r fun _ _ => rfl) fun _ =>
    keeps_closing_afterMarks outside deployment.refs

/-- **Draining closes.**  Whether or not the migration of the requests raises, every handle of the
deployment is closed afterwards. -/
theorem drainWorkers_closed (deployment : VllmDeployment π) (w : World π) {ref : ℕ}
    (href : ref ∈ deployment.refs) :
    Closed (finalState (drainWorkers outside deployment w)) ref := by
  have hmarks := closed_after_marking href w
  unfold drainWorkers
  rw [run_bind]
  cases hrun : (deployment.refs.forM fun r =>
      updateHandle r InstanceHandle.markDraining : Effect π Unit) w with
  | ok u w₁ =>
    rw [hrun] at hmarks
    exact (keeps_closing_afterMarks outside deployment.refs w₁).closed ref hmarks
  | error e w₁ =>
    rw [hrun] at hmarks
    exact hmarks

/-! ## The steps of the transaction -/

/-- Closed handles below `n` stay closed, and deployments and switches stay. -/
structure StaysClosed (n : ℕ) (w w' : World π) : Prop where
  length : n ≤ w'.heap.length
  closed : ∀ ref < n, Closed w ref → Closed w' ref
  current : w'.current = w.current
  switched : w'.switched = w.switched

theorem StaysClosed.trans {n : ℕ} {w w' w'' : World π} (h : StaysClosed n w w')
    (h' : StaysClosed n w' w'') : StaysClosed n w w'' :=
  ⟨h'.length, fun ref href hc => h'.closed ref href (h.closed ref href hc),
    h'.current.trans h.current, h'.switched.trans h.switched⟩

theorem SameBelow.staysClosed {n : ℕ} {w w' : World π} (h : SameBelow n w w') :
    StaysClosed n w w' :=
  ⟨h.length, fun _ href hc => hc.of_sameBelow href h, h.current, h.switched⟩

theorem Closing.staysClosed {n : ℕ} {w w' : World π} (h : Closing w w') (hn : n ≤ w.heap.length) :
    StaysClosed n w w' :=
  ⟨h.length ▸ hn, fun ref _ => h.closed ref, h.current, h.switched⟩

variable (adapter : VllmDeploymentAdapter) (exec : ReparallelizationExecutor)

/-- Preparing the source closes it, or does nothing when `migrate_before_create` is off. -/
theorem prepareSource_spec (w : World π) :
    match prepareSource outside exec w with
    | .ok prepared w' => Closing w w' ∧
        ((exec.migrateBeforeCreate = true ∧ prepared = w.current ∧
            ∀ ref ∈ oldRefs w, Closed w' ref) ∨
          (exec.migrateBeforeCreate = false ∧ prepared = none ∧ w' = w))
    | .error _ w' => Closing w w' ∧ exec.migrateBeforeCreate = true ∧
        ∀ ref ∈ oldRefs w, Closed w' ref := by
  have hrefl : Closing w w := Std.Refl.refl w
  unfold prepareSource
  simp only [run_bind, run_get]
  cases hmig : exec.migrateBeforeCreate with
  | false =>
    simp only [run_pure]
    exact ⟨hrefl, Or.inr ⟨trivial, trivial, trivial⟩⟩
  | true =>
    cases hcur : w.current with
    | none =>
      simp only [run_pure]
      refine ⟨hrefl, Or.inl ⟨trivial, trivial, ?_⟩⟩
      simp [oldRefs, hcur]
    | some old =>
      have hclosing := drainWorkers_closing outside old w
      have hclosed : ∀ ref ∈ oldRefs w, Closed (finalState (drainWorkers outside old w)) ref := by
        intro ref href
        simp only [oldRefs, hcur] at href
        exact drainWorkers_closed outside old w href
      simp only [run_bind]
      cases hrun : drainWorkers outside old w with
      | ok u w₁ =>
        rw [hrun] at hclosing hclosed
        exact ⟨hclosing, Or.inl ⟨trivial, rfl, hclosed⟩⟩
      | error e w₁ =>
        rw [hrun] at hclosing hclosed
        exact ⟨hclosing, trivial, hclosed⟩

/-- In make-before-break mode the source is not stopped first. -/
theorem stopSource_of_false (hstop : exec.stopCurrentBeforeCreate = false) (w : World π) :
    stopSource outside exec w = .ok () w := by
  unfold stopSource
  simp only [run_bind, run_get, hstop, run_pure]

section Target

variable [DecidableEq π] {n : ℕ} {target : VllmDeployment π}
  (hrefs : ∀ ref ∈ target.refs, n ≤ ref)

include hrefs

omit [DecidableEq π] in
theorem keeps_stopTarget (status : TransitionStatus) :
    Keeps (Frame n) (do
      stopWorkers outside target
      setStatus status : Effect π Unit) :=
  Keeps.bind (keeps_stopWorkers outside hrefs) fun _ => keeps_recordTransition n _

/-- Draining the source later on: it is closed below `n` unless it was prepared, and whatever was
closed stays closed. -/
theorem drainSource_spec (old prepared : Option (VllmDeployment π)) {w : World π}
    (hn : n ≤ w.heap.length) :
    StaysClosed n w (finalState (drainSource outside target old prepared w)) ∧
      ∀ source, old = some source → prepared ≠ some source → ∀ ref ∈ source.refs, ref < n →
        Closed (finalState (drainSource outside target old prepared w)) ref := by
  have hrefl : StaysClosed n w w := ⟨hn, fun _ _ h => h, rfl, rfl⟩
  unfold drainSource
  cases old with
  | none => exact ⟨hrefl, fun source h => absurd h (by simp)⟩
  | some source =>
    by_cases hprep : prepared = some source
    · simp only [if_pos hprep]
      refine ⟨hrefl, fun source' h hne => ?_⟩
      obtain rfl := Option.some.inj h
      exact absurd hprep hne
    · simp only [if_neg hprep]
      have hclosing := drainWorkers_closing outside source w
      have hclosed := fun ref (href : ref ∈ source.refs) =>
        drainWorkers_closed outside source w href
      cases hrun : drainWorkers outside source w with
      | ok u w₁ =>
        rw [hrun] at hclosing hclosed
        rw [run_onFailure_ok hrun]
        refine ⟨Closing.staysClosed hclosing hn, fun source' h _ ref href _ => ?_⟩
        obtain rfl := Option.some.inj h
        exact hclosed ref href
      | error e w₁ =>
        rw [hrun] at hclosing hclosed
        obtain ⟨e', hfail⟩ := run_onFailure_error hrun (do
          stopWorkers outside target
          setStatus .sourceDrainFailed)
        have hstays : StaysClosed n w w₁ := Closing.staysClosed hclosing hn
        have hclean := keeps_stopTarget outside hrefs .sourceDrainFailed w₁ hstays.length
        rw [hfail]
        refine ⟨hstays.trans hclean.staysClosed, fun source' h _ ref href hlt => ?_⟩
        obtain rfl := Option.some.inj h
        exact (hclosed ref href).of_sameBelow hlt hclean

/-- A switch that fails touches only the target; one that succeeds is on record. -/
theorem switchTraffic_spec (plan : ParallelPlan π) {w : World π} (hn : n ≤ w.heap.length) :
    match switchTraffic outside target plan w with
    | .ok _ w' => w'.switched = target :: w.switched
    | .error _ w' => SameBelow n w w' := by
  have hfailed : ∀ e, switchWorkers outside target plan w = .error e w →
      ∃ e' w', switchTraffic outside target plan w = .error e' w' ∧ SameBelow n w w' := by
    intro e he
    obtain ⟨e', hfail⟩ := run_onFailure_error he (do
      stopWorkers outside target
      setStatus .trafficSwitchFailed)
    exact ⟨e', _, hfail, keeps_stopTarget outside hrefs .trafficSwitchFailed w hn⟩
  by_cases hplan : target.plan = plan
  · cases hsw : outside.trafficSwitcher with
    | error e =>
      have he : switchWorkers outside target plan w = .error (.raised e) w := by
        simp [switchWorkers, run_bind, hplan, call, answer, hsw, Except.mapError, run_throw]
      obtain ⟨e', w', hrun, hsame⟩ := hfailed _ he
      rw [hrun]
      exact hsame
    | ok u =>
      have hok : switchWorkers outside target plan w =
          .ok () { w with switched := target :: w.switched } := by
        simp only [switchWorkers, hplan, ne_eq, not_true_eq_false, if_false, run_bind, call,
          answer, hsw, Except.mapError, run_pure, run_modify]
      rw [switchTraffic, run_onFailure_ok hok]
  · have he : switchWorkers outside target plan w = .error .planChangedBeforeSwitch w := by
      simp only [switchWorkers, hplan, ne_eq, not_false_eq_true, if_true, run_bind, run_throw]
    obtain ⟨e', w', hrun, hsame⟩ := hfailed _ he
    rw [hrun]
    exact hsame

end Target

/-! ## The transaction -/

variable [DecidableEq π]

/-- What the transaction leaves when it fails before traffic has moved: either the source was never
reached, or all its handles are closed. -/
theorem transferTraffic_spec (hstop : exec.stopCurrentBeforeCreate = false)
    (plan : ParallelPlan π) (w : World π) :
    match transferTraffic outside adapter exec plan w with
    | .ok switched w' => w'.switched = switched.1 :: w.switched
    | .error _ w' => w'.current = w.current ∧ w'.switched = w.switched ∧
        ((exec.migrateBeforeCreate = false ∧ ¬ TargetComesUp outside adapter plan ∧
            ∀ ref < w.heap.length, w'.heap[ref]? = w.heap[ref]?) ∨
          ((exec.migrateBeforeCreate = true ∨ TargetComesUp outside adapter plan) ∧
            ∀ ref ∈ oldRefs w, ref < w.heap.length → Closed w' ref)) := by
  have hprep := prepareSource_spec outside exec w
  unfold transferTraffic
  rw [run_bind]
  cases hrun₁ : prepareSource outside exec w with
  | error e w₁ =>
    rw [hrun₁] at hprep
    obtain ⟨hclosing, hmig, hclosed⟩ := hprep
    exact ⟨hclosing.current, hclosing.switched,
      Or.inr ⟨Or.inl hmig, fun ref href _ => hclosed ref href⟩⟩
  | ok prepared w₁ =>
    rw [hrun₁] at hprep
    obtain ⟨hclosing, hprepared⟩ := hprep
    have hlen : w₁.heap.length = w.heap.length := hclosing.length
    have hup := bringUpTarget_spec outside adapter plan w₁
    simp only [run_bind, stopSource_of_false outside exec hstop]
    cases hrun₂ : bringUpTarget outside adapter plan w₁ with
    | error e w₂ =>
      rw [hrun₂] at hup
      obtain ⟨hnot, hsame⟩ := hup
      refine ⟨hsame.current.trans hclosing.current, hsame.switched.trans hclosing.switched, ?_⟩
      rcases hprepared with ⟨hmig, -, hclosed⟩ | ⟨hmig, -, rfl⟩
      · refine Or.inr ⟨Or.inl hmig, fun ref href hlt => ?_⟩
        exact (hclosed ref href).of_sameBelow (by omega) hsame
      · exact Or.inl ⟨hmig, hnot, hsame.heap⟩
    | ok target w₂ =>
      rw [hrun₂] at hup
      obtain ⟨hcomes, hsame, hrefs⟩ := hup
      simp only [run_get, recordTransition, run_modify]
      generalize hw₃ : ({ w₂ with lastTransition := w₂.lastTransition.map fun t =>
        { t with sourceKeptAliveUntilTargetReady := w₂.current.isSome } } : World π) = w₃
      have hsame₃ : SameBelow w₁.heap.length w₁ w₃ := by
        refine hsame.trans ?_
        rw [← hw₃]
        exact ⟨hsame.length, fun _ _ => rfl, rfl, rfl⟩
      have hcur : w₂.current = w.current := hsame.current.trans hclosing.current
      have hdrain := drainSource_spec outside hrefs w₂.current prepared hsame₃.length
      obtain ⟨hstays, hdrained⟩ := hdrain
      -- the source is closed now: it was prepared, or this step has drained it
      have hclosed : ∀ ref ∈ oldRefs w, ref < w.heap.length →
          Closed (finalState (drainSource outside target w₂.current prepared w₃)) ref := by
        intro ref href hlt
        rcases hprepared with ⟨-, -, hclosed⟩ | ⟨-, hnone, -⟩
        · exact hstays.closed ref (by omega)
            ((hclosed ref href).of_sameBelow (by omega) hsame₃)
        · cases hold : w.current with
          | none =>
            rw [oldRefs, hold] at href
            exact absurd href (by simp)
          | some source =>
            rw [oldRefs, hold] at href
            exact hdrained source (hcur.trans hold) (by simp [hnone]) ref href (by omega)
      have hcurrent := hstays.current.trans (hsame₃.current.trans hclosing.current)
      have hswitched := hstays.switched.trans (hsame₃.switched.trans hclosing.switched)
      cases hrun₃ : drainSource outside target w₂.current prepared w₃ with
      | error e w₄ =>
        rw [hrun₃] at hclosed hcurrent hswitched
        exact ⟨hcurrent, hswitched, Or.inr ⟨Or.inr hcomes, hclosed⟩⟩
      | ok u w₄ =>
        rw [hrun₃] at hclosed hcurrent hswitched hstays
        have hsw := switchTraffic_spec outside hrefs plan hstays.length
        simp only [finalState_ok] at hclosed hcurrent hswitched hsw ⊢
        cases hrun₄ : switchTraffic outside target plan w₄ with
        | ok u w₅ =>
          rw [hrun₄] at hsw
          exact hsw.trans (by rw [hswitched])
        | error e w₅ =>
          rw [hrun₄] at hsw
          refine ⟨hsw.current.trans hcurrent, hsw.switched.trans hswitched,
            Or.inr ⟨Or.inr hcomes, fun ref href hlt => ?_⟩⟩
          exact (hclosed ref href hlt).of_sameBelow (by omega) hsw

/-! ## The promise of a failed replan -/

/-- Traffic is not switched. -/
def SameSwitches (w w' : World π) : Prop := w'.switched = w.switched

instance : Std.Refl (SameSwitches : World π → World π → Prop) where
  refl _ := rfl

instance : IsTrans (World π) SameSwitches where
  trans _ _ _ h h' := Eq.trans h' h

omit [DecidableEq π] in
/-- Retiring the source does not switch traffic. -/
theorem retireSource_switched (old : Option (VllmDeployment π)) :
    Keeps SameSwitches (retireSource outside old) := by
  unfold retireSource
  cases old with
  | none => exact Keeps.pure _
  | some source =>
    refine Keeps.bind (keeps_callIfGiven _) fun _ => Keeps.forM fun item _ => ?_
    refine Keeps.bind (Keeps.modify fun _ => rfl) fun _ => Keeps.modify fun w => ?_
    unfold SameSwitches
    split_ifs <;> rfl

/-- A run of `apply` in which no switch is on record failed while transferring traffic. -/
theorem transferTraffic_of_apply_error {mode : TransitionMode} {plan : ParallelPlan π}
    {w w' : World π} {e : Failure} (hmode : exec.resolvedTransitionMode = .ok mode)
    (hstop : exec.stopCurrentBeforeCreate = false)
    (hfail : apply outside adapter exec plan w = .error e w')
    (hbefore : w'.switched = w.switched) :
    ∃ w₁, w₁.heap = w.heap ∧ w₁.current = w.current ∧ w₁.switched = w.switched ∧
      transferTraffic outside adapter exec plan w₁ = .error e w' := by
  unfold apply at hfail
  simp only [hmode, answer, run_bind, run_pure, startTransition, run_modify] at hfail
  generalize hw₁ : ({ w with lastTransition := some {
    status := .started
    transitionMode := mode
    migrationRequestedBeforeCreate := exec.migrateBeforeCreate
    migrationRequiresLiveSource := exec.migrationRequiresLiveSource } } : World π) = w₁ at hfail
  have hswitched : w₁.switched = w.switched := by rw [← hw₁]
  refine ⟨w₁, by rw [← hw₁], by rw [← hw₁], hswitched, ?_⟩
  have hspec := transferTraffic_spec outside adapter exec hstop plan w₁
  cases hrun : transferTraffic outside adapter exec plan w₁ with
  | error e₂ w₂ =>
    rw [hrun] at hfail
    obtain ⟨rfl, rfl⟩ := EStateM.Result.error.inj hfail
    rfl
  | ok result w₂ =>
    obtain ⟨target, old⟩ := result
    rw [hrun] at hspec hfail
    exfalso
    -- past the switch, the record of it is never taken back
    have hlater := retireSource_switched outside old { w₂ with current := some target }
    dsimp only at hfail
    cases hret : retireSource outside old { w₂ with current := some target } with
    | ok u w₃ =>
      rw [hret] at hfail
      exact absurd hfail (by simp [setStatus, recordTransition, run_modify])
    | error e₃ w₃ =>
      rw [hret] at hfail hlater
      obtain ⟨-, rfl⟩ := EStateM.Result.error.inj hfail
      have hgrow : w₃.switched = target :: w.switched :=
        Eq.trans hlater (hspec.trans (by rw [hswitched]))
      rw [hbefore] at hgrow
      exact absurd (congrArg List.length hgrow) (by simp)

/-- **A failed replan.**  When `apply` has raised before traffic was switched, serving is untouched
exactly when no old instance was admitting requests, or the source had not been drained yet: the
target failed to come up, and `migrate_before_create` is off. -/
theorem servingUntouched_iff {plan : ParallelPlan π} {w w' : World π} {e : Failure}
    (hmode : exec.resolvedTransitionMode = .ok .makeBeforeBreak)
    (hfail : apply outside adapter exec plan w = .error e w')
    (hbefore : w'.switched = w.switched) :
    ServingUntouched w w' ↔
      (∀ ref ∈ oldRefs w, ¬ Accepts w ref) ∨
        (exec.migrateBeforeCreate = false ∧ ¬ TargetComesUp outside adapter plan) := by
  have hstop := ReparallelizationExecutor.stopCurrentBeforeCreate_eq_false hmode
  obtain ⟨w₁, hheap, hcur, -, hrun⟩ :=
    transferTraffic_of_apply_error outside adapter exec hmode hstop hfail hbefore
  have hspec := transferTraffic_spec outside adapter exec hstop plan w₁
  rw [hrun] at hspec
  obtain ⟨hcurrent, -, hspec⟩ := hspec
  rw [hcur] at hcurrent
  have hold : oldRefs w₁ = oldRefs w := by rw [oldRefs, oldRefs, hcur]
  rw [hheap, hold] at hspec
  rcases hspec with ⟨hmig, hnot, hsame⟩ | ⟨hreached, hclosed⟩
  · refine ⟨fun _ => Or.inr ⟨hmig, hnot⟩, fun _ => ⟨hcurrent, ?_⟩⟩
    rintro ref - ⟨h, hget, haccept⟩
    have hlt : ref < w.heap.length := (List.getElem?_eq_some_iff.mp hget).1
    exact ⟨h, (hsame ref hlt).trans hget, haccept⟩
  · constructor
    · intro huntouched
      refine Or.inl fun ref href haccepts => ?_
      have hlt : ref < w.heap.length := by
        obtain ⟨h, hget, -⟩ := haccepts
        exact (List.getElem?_eq_some_iff.mp hget).1
      exact (hclosed ref href hlt).not_accepts (huntouched.accepts ref href haccepts)
    · rintro (hnone | ⟨hmig, hnot⟩)
      · exact ⟨hcurrent, fun ref href haccepts => absurd haccepts (hnone ref href)⟩
      · rcases hreached with hreached | hreached
        · rw [hmig] at hreached
          exact absurd hreached (by simp)
        · exact absurd hreached hnot

/-! ## One instance, two failures -/

/-- A plan for one vLLM worker. -/
def onePlan : ParallelPlan Unit where
  modelName := "m"
  backend := "vllm"
  tensorParallelSize := 1
  dataParallelSize := 1
  tensorParallelSize_pos := by decide
  dataParallelSize_pos := by decide
  pipelineParallelSize_pos := by decide
  replicaCount_pos := by decide
  numGpus_pos := by decide

/-- One ready instance is serving. -/
def servingWorld : World Unit where
  heap := [{ instanceId := "old", maxQueueLength := 1, numGpu := 1, ready := true, state := .ready }]
  current := some {
    plan := onePlan
    instances := Py.OrderedDict.empty.set "old" 0
    resourceRequirements := ⟨1, 1⟩ }

/-- A target comes up, and then the traffic switcher raises. -/
def switchRaises : Outside where
  instanceId := fun _ => "new"
  allocateResource := fun _ => .ok "node"
  startInstance := fun _ => .ok "actor"
  initBackend := fun _ => .ok ()
  runtimeMetadata := fun _ => .ok true
  trafficSwitcher := .error "target_worker_no_longer_ready:node"

/-- The scheduler has no room for a target. -/
def allocationRaises : Outside :=
  { switchRaises with allocateResource := fun _ => .error "no free node" }

/-- The world after `apply`. -/
def afterReplan (outside : Outside) : World Unit :=
  finalState (apply outside { modelName := "m" } {} onePlan servingWorld)

/-- The switch fails, the target is stopped, and the old instance is left draining. -/
theorem failed_switch_closes_source :
    ({} : ReparallelizationExecutor).resolvedTransitionMode = .ok .makeBeforeBreak ∧
      (∃ e, apply switchRaises { modelName := "m" } {} onePlan servingWorld =
        .error e (afterReplan switchRaises)) ∧
      (afterReplan switchRaises).switched = servingWorld.switched ∧
      ¬ ServingUntouched servingWorld (afterReplan switchRaises) := by
  refine ⟨by decide, ⟨.raised "target_worker_no_longer_ready:node", rfl⟩, rfl, ?_⟩
  intro h
  obtain ⟨handle, hget, haccept⟩ := h.accepts 0 (by decide) ⟨_, rfl, by decide⟩
  obtain rfl := Option.some.inj hget
  exact absurd haccept (by decide)

/-- A replan that fails at the scheduler leaves serving untouched. -/
theorem failed_allocation_keeps_source :
    ServingUntouched servingWorld (afterReplan allocationRaises) := by
  have hfail : apply allocationRaises { modelName := "m" } {} onePlan servingWorld =
      .error (.raised "no free node") (afterReplan allocationRaises) := rfl
  refine (servingUntouched_iff allocationRaises { modelName := "m" } {} (by decide) hfail rfl).mpr
    (Or.inr ⟨rfl, fun h => ?_⟩)
  obtain ⟨node, hnode⟩ := (h.starts 0 (by decide)).reserves
  exact absurd hnode (by simp [allocationRaises])

end Reparallelization
end SpotServe
