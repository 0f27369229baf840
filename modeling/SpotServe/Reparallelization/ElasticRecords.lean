import SpotServe.Reparallelization.ElasticResize
import SpotServe.Scheduler.Operations

/-!
# What a resize in place leaves on record

Four places keep a record of the size of an instance: the scheduler, the backend, the adapter, and
the handle, which is closed while the size changes.  A resize changes them one after the other, and
each of its steps can fail.

* `scaleElasticEp_spec`: the backend has the size it was resized to, or stops, or is as it was.
* `resizeRuntime_spec`, `releaseScaleDown_spec` and the others: one lemma a step of the adapter.
* `resizeWorkersElasticEp_ends`: the five ways in which a resize ends, each with what it leaves.
* `resizeWorkersElasticEp_inStep_iff`: an instance that still runs is open again, and the scheduler
  counts the ranks of its engine, exactly when a runtime that did not take a size has stopped and
  the sizes that were not touched agreed before.  A runtime that got its size back runs on behind a
  closed handle (`not_keptInStep_notVerified`).
-/

namespace SpotServe
namespace Reparallelization

open Py Cluster Coroutine

/-! ## The backend -/

/-- The backend takes a resize. -/
structure ElasticBackend.Takes (b : ElasticBackend) : Prop where
  status : b.status = .running
  hasEngine : b.hasEngine = true
  elasticEpEnabled : b.elasticEpEnabled = true
  rayDpOwnsGpus : b.rayDpOwnsGpus = true
  scalable : b.scalable = true

/-- The backend takes a resize, and has the size `dp` on record. -/
structure ElasticBackend.TakesAt (b : ElasticBackend) (dp : ℤ) : Prop where
  takes : b.Takes
  record : b.currentDp = .ok dp

/-- The backend raises before it calls the engine. -/
def ElasticBackend.Refuses (b : ElasticBackend) : Prop := ∀ dp, ¬ b.TakesAt dp

/-- The engine is resized, and the runtime verifies the placement. -/
def ScaleAnswers.Succeeds (answers : ScaleAnswers) : Prop :=
  answers.scale = .ok () ∧ verifyPlacement answers = .ok ()

/-- A call of `scale_elastic_ep` returns. -/
def Scales (b : ElasticBackend) (answers : ScaleAnswers) (newDp : ℤ) : Prop :=
  ∃ dp, b.TakesAt dp ∧ (dp = newDp ∨ answers.Succeeds)

/-- A call that raises leaves the backend running: the engine was not called, or it was resized and
got its size back. -/
def ElasticBackend.RunsOn (b : ElasticBackend) (answers : ScaleAnswers) : Prop :=
  b.status = .running ∧ (b.Refuses ∨ answers.scale = .ok () ∧ answers.rollback = .ok ())

/-- What a call that raises makes of the backend `b`. -/
structure ElasticBackend.LeftBy (b' b : ElasticBackend) (answers : ScaleAnswers) : Prop where
  running : b'.status = .running ↔ b.RunsOn answers
  refused : b.Refuses → b'.engineSize = b.engineSize
  broken : ¬ b.Refuses → answers.scale ≠ .ok () → b'.engineSize = answers.sizeAfterFailure
  rolledBack : ∀ dp, b.TakesAt dp → answers.scale = .ok () → answers.rollback = .ok () →
    b'.engineSize = dp

/-- What a call that returns makes of the backend `b`. -/
structure ElasticBackend.ResizedBy (b' b : ElasticBackend) (newDp : ℤ) : Prop where
  takes : b'.TakesAt newDp
  same : b.currentDp = .ok newDp → b'.engineSize = b.engineSize
  other : b.currentDp ≠ .ok newDp → b'.engineSize = newDp

theorem ElasticBackend.TakesAt.not_refuses {b : ElasticBackend} {dp : ℤ} (h : b.TakesAt dp) :
    ¬ b.Refuses := fun hrefuses => hrefuses dp h

theorem ElasticBackend.exists_takesAt {b : ElasticBackend} (h : ¬ b.Refuses) :
    ∃ dp, b.TakesAt dp := by
  by_contra hnone
  exact h fun dp hdp => hnone ⟨dp, hdp⟩

theorem ElasticBackend.TakesAt.eq {b : ElasticBackend} {dp dp' : ℤ} (h : b.TakesAt dp)
    (h' : b.TakesAt dp') : dp = dp' :=
  Except.ok.inj (h.record.symm.trans h'.record)

theorem ElasticBackend.Refuses.leftBy {b : ElasticBackend} (h : b.Refuses)
    (answers : ScaleAnswers) : b.LeftBy b answers where
  running := ⟨fun hrunning => ⟨hrunning, Or.inl h⟩, fun hruns => hruns.1⟩
  refused := fun _ => rfl
  broken := fun hnot => absurd h hnot
  rolledBack := fun _ hdp => absurd h hdp.not_refuses

theorem ElasticBackend.Refuses.not_scales {b : ElasticBackend} (h : b.Refuses)
    (answers : ScaleAnswers) (newDp : ℤ) : ¬ Scales b answers newDp :=
  fun ⟨_, hdp, _⟩ => h _ hdp

/-- A backend that has another size on record calls the engine. -/
theorem ElasticBackend.TakesAt.scales_iff {b : ElasticBackend} {dp newDp : ℤ} (h : b.TakesAt dp)
    (hne : dp ≠ newDp) (answers : ScaleAnswers) :
    Scales b answers newDp ↔ answers.Succeeds := by
  constructor
  · rintro ⟨dp', hdp', hcases⟩
    exact hcases.resolve_left (fun heq => hne ((h.eq hdp').trans heq))
  · exact fun hgood => ⟨dp, h, Or.inr hgood⟩

theorem currentDp_resized {b : ElasticBackend} {config : BackendConfig} {newDp : ℤ}
    (hpos : 1 ≤ newDp) (expertPlacementPlan : Option Dict)
    (hconfig : b.backendConfig = setAll config (resizedItems newDp expertPlacementPlan)) :
    b.currentDp = .ok newDp := by
  have hget : b.backendConfig.get? "data_parallel_size" = some (.int newDp) := by
    rw [hconfig]
    unfold resizedItems
    cases expertPlacementPlan with
    | none => exact get?_setAll_of_mem (by simp) List.mem_cons_self
    | some placement =>
      cases placement with
      | nil => exact get?_setAll_of_mem (by simp) List.mem_cons_self
      | cons item placement => exact get?_setAll_of_mem (by simp) List.mem_cons_self
  have htruthy : (Value.int newDp).truthy = true := decide_eq_true (by omega)
  rw [ElasticBackend.currentDp, hget, intOr, if_pos htruthy]
  rfl

/-- Resizing the engine, or leaving it as it was, or stopping. -/
theorem reconfigure_spec (answers : ScaleAnswers) (currentDp newDp : ℤ) (w : ElasticWorld) :
    match reconfigure answers currentDp newDp w with
    | .ok _ w' => answers.Succeeds ∧
        w' = { w with backend := { w.backend with engineSize := newDp } }
    | .error _ w' => ¬ answers.Succeeds ∧ ∃ status size,
        w' = { w with backend := { w.backend with status := status, engineSize := size } } ∧
        (answers.scale ≠ .ok () → status = .stopping ∧ size = answers.sizeAfterFailure) ∧
        (answers.rollback ≠ .ok () → status = .stopping) ∧
        (answers.scale = .ok () → answers.rollback = .ok () →
          status = w.backend.status ∧ size = currentDp) := by
  unfold reconfigure ScaleAnswers.Succeeds
  cases hscale : answers.scale with
  | error text =>
    refine ⟨fun h => absurd h.1 (by simp), .stopping, answers.sizeAfterFailure, rfl, ?_, ?_, ?_⟩
    · exact fun _ => ⟨rfl, rfl⟩
    · exact fun _ => rfl
    · exact fun h => absurd h (by simp)
  | ok u =>
    cases hverify : verifyPlacement answers with
    | ok u =>
      refine ⟨⟨rfl, rfl⟩, ?_⟩
      simp only
    | error resizeError =>
      have hbad : ¬ ((.ok () : Except String Unit) = .ok () ∧
          (.error resizeError : Except ElasticFailure Unit) = .ok ()) :=
        fun h => absurd h.2 (by simp)
      cases hrollback : answers.rollback with
      | error text =>
        refine ⟨hbad, .stopping, answers.sizeAfterRollbackFailure, rfl, ?_, ?_, ?_⟩
        · exact fun h => absurd rfl h
        · exact fun _ => rfl
        · exact fun _ h => absurd h (by simp)
      | ok u =>
        refine ⟨hbad, w.backend.status, currentDp, rfl, ?_, ?_, ?_⟩
        · exact fun h => absurd rfl h
        · exact fun h => absurd rfl h
        · exact fun _ _ => ⟨rfl, rfl⟩

/-- **The backend.**  It has the size that it was resized to, or stops, or is as it was. -/
theorem scaleElasticEp_spec (answers : ScaleAnswers) {newDp : ℤ} (hpos : 1 ≤ newDp)
    (expertPlacementPlan : Option Dict) (w : ElasticWorld) :
    match scaleElasticEp answers newDp expertPlacementPlan w with
    | .ok result w' => Scales w.backend answers newDp ∧
        (result.resized = true ∨ result.reason = "already_at_target_size") ∧
        ∃ b, w' = { w with backend := b } ∧ b.ResizedBy w.backend newDp
    | .error _ w' => ¬ Scales w.backend answers newDp ∧
        ∃ b, w' = { w with backend := b } ∧ b.LeftBy w.backend answers := by
  have hrefused : w.backend.Refuses → ¬ Scales w.backend answers newDp ∧
      ∃ b, w = { w with backend := b } ∧ b.LeftBy w.backend answers :=
    fun h => ⟨h.not_scales answers newDp, w.backend, rfl, h.leftBy answers⟩
  unfold scaleElasticEp
  rw [if_neg (by omega)]
  simp only [run_bind, run_get]
  by_cases hstatus : w.backend.status ≠ .running ∨ w.backend.hasEngine = false
  · rw [if_pos hstatus]
    refine hrefused fun dp h => ?_
    rcases hstatus with hstatus | hengine
    · exact hstatus h.takes.status
    · exact absurd (hengine.symm.trans h.takes.hasEngine) (by decide)
  rw [if_neg hstatus]
  by_cases hflags : w.backend.elasticEpEnabled = false ∨ w.backend.rayDpOwnsGpus = false
  · simp only [if_pos hflags]
    refine hrefused fun dp h => ?_
    rcases hflags with hflag | hflag
    · exact absurd (hflag.symm.trans h.takes.elasticEpEnabled) (by decide)
    · exact absurd (hflag.symm.trans h.takes.rayDpOwnsGpus) (by decide)
  simp only [if_neg hflags]
  by_cases hscalable : w.backend.scalable = false
  · simp only [if_pos hscalable]
    refine hrefused fun dp h => ?_
    exact absurd (hscalable.symm.trans h.takes.scalable) (by decide)
  have htakes : w.backend.Takes := by
    obtain ⟨hrunning, hengine⟩ := not_or.mp hstatus
    obtain ⟨henabled, hgpus⟩ := not_or.mp hflags
    exact ⟨not_not.mp hrunning, Bool.not_eq_false _ ▸ hengine, Bool.not_eq_false _ ▸ henabled,
      Bool.not_eq_false _ ▸ hgpus, Bool.not_eq_false _ ▸ hscalable⟩
  simp only [if_neg hscalable]
  cases hrecord : w.backend.currentDp with
  | error e =>
    refine hrefused fun dp h => ?_
    exact absurd (hrecord.symm.trans h.record) (by simp)
  | ok dp =>
    have hat : w.backend.TakesAt dp := ⟨htakes, hrecord⟩
    simp only [Except.mapError, answer, run_bind, run_pure]
    by_cases hsame : dp = newDp
    · subst hsame
      rw [if_pos rfl]
      refine ⟨⟨dp, hat, Or.inl rfl⟩, Or.inr rfl, w.backend, rfl, hat, fun _ => rfl, ?_⟩
      exact fun h => absurd hrecord h
    have hspec := reconfigure_spec answers dp newDp w
    rw [if_neg hsame, run_bind]
    cases hrun : reconfigure answers dp newDp w with
    | error e w' =>
      rw [hrun] at hspec
      obtain ⟨hbad, status, size, rfl, hbroken, hstranded, hback⟩ := hspec
      refine ⟨fun h => hbad ((hat.scales_iff hsame answers).mp h), _, rfl, ?_, ?_, ?_, ?_⟩
      · constructor
        · intro hrunning
          refine ⟨htakes.status, Or.inr ⟨?_, ?_⟩⟩
          · by_contra h
            exact absurd ((hbroken h).1.symm.trans hrunning) (by decide)
          · by_contra h
            exact absurd ((hstranded h).symm.trans hrunning) (by decide)
        · rintro ⟨hrunning, hrefuses | ⟨hscale, hrollback⟩⟩
          · exact absurd hrefuses hat.not_refuses
          · exact (hback hscale hrollback).1.trans hrunning
      · exact fun h => absurd h hat.not_refuses
      · exact fun _ h => (hbroken h).2
      · exact fun dp' hdp' hscale hrollback => (hback hscale hrollback).2.trans (hat.eq hdp')
    | ok u w' =>
      rw [hrun] at hspec
      obtain ⟨hgood, rfl⟩ := hspec
      refine ⟨⟨dp, hat, Or.inr hgood⟩, Or.inl rfl, _, rfl, ⟨?_, ?_⟩, ?_, fun _ => rfl⟩
      · exact ⟨htakes.status, htakes.hasEngine, htakes.elasticEpEnabled, htakes.rayDpOwnsGpus,
          htakes.scalable⟩
      · exact currentDp_resized hpos expertPlacementPlan rfl
      · exact fun h => absurd (Except.ok.inj (hrecord.symm.trans h)) hsame

/-! ## The scheduler -/

/-- What `schedulerResize` takes from `resize_resource`: when it returns, the instance has the size
that was asked for.  When it raises there is no new state. -/
theorem numGpus_resizeResource {s s' : Scheduler.FcfsScheduler} {modelName instanceId : String}
    {gpus : ℚ} {report : Scheduler.ResizeReport}
    (h : Scheduler.resizeResource s modelName instanceId gpus = .ok (report, s')) :
    (s'.modelInstance.get? (modelName, instanceId)).map Scheduler.Resources.numGpus =
      some gpus := by
  unfold Scheduler.resizeResource at h
  split_ifs at h with hneg
  split at h
  case h_1 => exact absurd h (by simp)
  case h_2 r hr =>
    split at h
    case h_1 => exact absurd h (by simp)
    case h_2 info hinfo =>
      dsimp only at h
      split_ifs at h with hfree
      obtain ⟨-, rfl⟩ := Prod.mk.inj (Except.ok.inj h)
      show ((s.modelInstance.set (modelName, instanceId) _).get? (modelName, instanceId)).map _ = _
      rw [OrderedDict.get?_set_self]
      rfl

/-! ## The steps of the adapter -/

/-- The handle takes requests, as far as its queue has room. -/
def Serving (h : InstanceHandle) : Prop := h.ready = true ∧ h.state = .ready

theorem Serving.canAcceptRequest_iff {h : InstanceHandle} (hserving : Serving h) {n : ℤ}
    (hn : 0 < n) : h.canAcceptRequest n = true ↔ h.concurrency + n ≤ h.maxQueueLength := by
  rw [InstanceHandle.canAcceptRequest, if_neg (by omega), hserving.1, hserving.2]
  simp

/-- The handle is closed for a resize. -/
def Shut (h : InstanceHandle) : Prop := h.ready = false ∧ h.state = .draining

theorem Shut.markReadyAfterDrain {h : InstanceHandle} (hshut : Shut h) (numGpu : Option ℤ) :
    h.markReadyAfterDrain numGpu =
      (true, { h with numGpu := numGpu.getD h.numGpu, ready := true, state := .ready }) := by
  rw [InstanceHandle.markReadyAfterDrain, if_pos hshut.2]

/-- `reopen` opens a handle that was closed for the resize, and changes nothing else. -/
theorem reopen_spec {w : ElasticWorld} (hshut : Shut w.handle) :
    ∃ handle, reopen w = .ok () { w with handle := handle } ∧ Serving handle ∧
      handle.numGpu = w.handle.numGpu := by
  refine ⟨{ w.handle with ready := true, state := .ready }, ?_, ⟨rfl, rfl⟩, rfl⟩
  unfold reopen
  rw [run_modify, hshut.markReadyAfterDrain]
  rfl

/-- The requests finish before the deadline. -/
def ElasticOutside.Drains (outside : ElasticOutside) : Prop :=
  ∃ poll ∈ outside.firstPoll :: outside.laterPolls, poll ≤ 0

/-- **The drain loop.** -/
theorem drainLoop_spec (poll : ℤ) (polls : List ℤ) {w : ElasticWorld} (hshut : Shut w.handle) :
    match drainLoop poll polls w with
    | .ok _ w' => (∃ p ∈ poll :: polls, p ≤ 0) ∧ ∃ handle, w' = { w with handle := handle } ∧
        Shut handle ∧ handle.numGpu = w.handle.numGpu
    | .error _ w' => ¬ (∃ p ∈ poll :: polls, p ≤ 0) ∧ ∃ handle, w' = { w with handle := handle } ∧
        Serving handle ∧ handle.numGpu = w.handle.numGpu := by
  induction polls generalizing poll w with
  | nil =>
    unfold drainLoop
    rw [run_bind, run_modify]
    by_cases hidle : poll ≤ 0
    · simp only [if_pos hidle, run_pure]
      exact ⟨⟨poll, List.mem_singleton_self poll, hidle⟩, _, rfl, hshut, rfl⟩
    · obtain ⟨handle, hreopen, hserving, hgpu⟩ := reopen_spec
        (w := { w with handle := { w.handle with concurrency := poll } }) hshut
      simp only [if_neg hidle, run_bind, hreopen, run_throw]
      refine ⟨?_, handle, rfl, hserving, hgpu⟩
      rintro ⟨p, hp, hle⟩
      obtain rfl := List.mem_singleton.mp hp
      exact hidle hle
  | cons next polls ih =>
    unfold drainLoop
    rw [run_bind, run_modify]
    by_cases hidle : poll ≤ 0
    · simp only [if_pos hidle, run_pure]
      exact ⟨⟨poll, List.mem_cons_self, hidle⟩, _, rfl, hshut, rfl⟩
    · simp only [if_neg hidle]
      have hrest := ih next
        (w := { w with handle := { w.handle with concurrency := poll } }) hshut
      have hpolls : (∃ p ∈ poll :: next :: polls, p ≤ 0) ↔ ∃ p ∈ next :: polls, p ≤ 0 := by
        rw [List.exists_mem_cons_iff]
        exact ⟨fun h => h.resolve_left hidle, Or.inr⟩
      rw [hpolls]
      exact hrest

/-- The scheduler before the engine grows. -/
theorem reserveScaleUp_spec (outside : ElasticOutside) (oldGpus newGpus : ℕ) {w : ElasticWorld}
    (hshut : Shut w.handle) :
    match reserveScaleUp outside oldGpus newGpus w with
    | .ok _ w' => (oldGpus < newGpus → outside.reserve = .ok ()) ∧
        w' = { w with schedulerGpus := if oldGpus < newGpus then newGpus else w.schedulerGpus }
    | .error _ w' => (oldGpus < newGpus ∧ outside.reserve ≠ .ok ()) ∧
        ∃ handle, w' = { w with handle := handle } ∧ Serving handle ∧
          handle.numGpu = w.handle.numGpu := by
  unfold reserveScaleUp
  by_cases hgrow : oldGpus < newGpus
  · obtain ⟨handle, hreopen, hserving, hgpu⟩ := reopen_spec hshut
    rw [if_pos hgrow]
    cases hreserve : outside.reserve with
    | error text =>
      simp only [onFailure, schedulerResize, callOutside, run_bind, Except.mapError, answer,
        run_throw, hreopen]
      exact ⟨⟨hgrow, by simp⟩, handle, rfl, hserving, hgpu⟩
    | ok u =>
      simp only [onFailure, schedulerResize, callOutside, run_bind, Except.mapError, answer,
        run_pure, run_modify, if_pos hgrow]
      exact ⟨fun _ => trivial, trivial⟩
  · rw [if_neg hgrow, run_pure]
    refine ⟨fun h => absurd h hgrow, ?_⟩
    rw [if_neg hgrow]

/-- The call of the runtime, as the adapter makes it. -/
theorem resizeRuntime_spec (outside : ElasticOutside) (plan : ParallelPlan Dict)
    (w : ElasticWorld) :
    match resizeRuntime outside plan w with
    | .ok _ w' => Scales w.backend outside.resize plan.dataParallelSize ∧
        ∃ b, w' = { w with backend := b } ∧ b.ResizedBy w.backend plan.dataParallelSize
    | .error _ w' => ¬ Scales w.backend outside.resize plan.dataParallelSize ∧
        ∃ b, w' = { w with backend := b } ∧ b.LeftBy w.backend outside.resize := by
  have hpos : (1 : ℤ) ≤ plan.dataParallelSize := by
    have := plan.dataParallelSize_pos
    omega
  have hspec := scaleElasticEp_spec outside.resize hpos plan.expertPlacementPlan w
  unfold resizeRuntime
  rw [run_bind]
  cases hrun : scaleElasticEp outside.resize plan.dataParallelSize plan.expertPlacementPlan w with
  | error e w' =>
    rw [hrun] at hspec
    exact hspec
  | ok result w' =>
    rw [hrun] at hspec
    obtain ⟨hscales, hresult, hbackend⟩ := hspec
    have hfine : ¬ (result.resized = false ∧ result.reason ≠ "already_at_target_size") := by
      rintro ⟨hresized, hreason⟩
      rcases hresult with h | h
      · exact absurd (hresized.symm.trans h) (by decide)
      · exact hreason h
    simp only [if_neg hfine, run_pure]
    exact ⟨hscales, hbackend⟩

/-- The reservation goes back, if the scheduler takes it. -/
theorem unreserveScaleUp_spec (outside : ElasticOutside) (oldGpus newGpus : ℕ)
    (w : ElasticWorld) : ∃ gpus,
    unreserveScaleUp outside oldGpus newGpus w = .ok () { w with schedulerGpus := gpus } ∧
      (oldGpus < newGpus → outside.unreserve = .ok () → gpus = oldGpus) ∧
      (¬ oldGpus < newGpus → gpus = w.schedulerGpus) := by
  unfold unreserveScaleUp
  by_cases hgrow : oldGpus < newGpus
  · rw [if_pos hgrow]
    cases hanswer : outside.unreserve with
    | error text =>
      exact ⟨w.schedulerGpus, rfl, fun _ h => absurd h (by simp), fun h => absurd hgrow h⟩
    | ok u => exact ⟨oldGpus, rfl, fun _ _ => rfl, fun h => absurd hgrow h⟩
  · rw [if_neg hgrow]
    exact ⟨w.schedulerGpus, rfl, fun h => absurd h hgrow, fun _ => rfl⟩

/-- **The runtime**, with the reservation undone when it fails. -/
theorem resizeStep_spec (outside : ElasticOutside) (plan : ParallelPlan Dict)
    (oldGpus newGpus : ℕ) (w : ElasticWorld) :
    match onFailure (resizeRuntime outside plan) (unreserveScaleUp outside oldGpus newGpus) w with
    | .ok _ w' => Scales w.backend outside.resize plan.dataParallelSize ∧
        ∃ b, w' = { w with backend := b } ∧ b.ResizedBy w.backend plan.dataParallelSize
    | .error _ w' => ¬ Scales w.backend outside.resize plan.dataParallelSize ∧
        ∃ b gpus, w' = { w with backend := b, schedulerGpus := gpus } ∧
          b.LeftBy w.backend outside.resize ∧
          (oldGpus < newGpus → outside.unreserve = .ok () → gpus = oldGpus) ∧
          (¬ oldGpus < newGpus → gpus = w.schedulerGpus) := by
  have hspec := resizeRuntime_spec outside plan w
  cases hrun : resizeRuntime outside plan w with
  | ok u w' =>
    rw [hrun] at hspec
    rw [run_onFailure_ok hrun]
    exact hspec
  | error e w' =>
    rw [hrun] at hspec
    obtain ⟨hbad, b, rfl, hleft⟩ := hspec
    obtain ⟨gpus, hundo, hback, hsame⟩ :=
      unreserveScaleUp_spec outside oldGpus newGpus { w with backend := b }
    simp only [onFailure, hrun, hundo]
    exact ⟨hbad, b, gpus, rfl, hleft, hback, hsame⟩

/-- **The scheduler after the engine has shrunk.**  When it refuses, the engine gets its size
back. -/
theorem releaseScaleDown_spec (outside : ElasticOutside) (source : ParallelPlan Dict)
    {newGpus : ℕ} {w : ElasticWorld} (hshut : Shut w.handle) (hat : w.backend.TakesAt newGpus) :
    match releaseScaleDown outside source source.dataParallelSize newGpus w with
    | .ok _ w' => (newGpus < source.dataParallelSize → outside.release = .ok ()) ∧
        w' = { w with
          schedulerGpus := if newGpus < source.dataParallelSize then newGpus
            else w.schedulerGpus }
    | .error _ w' => (newGpus < source.dataParallelSize ∧ outside.release ≠ .ok ()) ∧
        ∃ b handle, w' = { w with backend := b, handle := handle } ∧
          handle.numGpu = w.handle.numGpu ∧
          (outside.restore.Succeeds ∧ b.engineSize = source.dataParallelSize ∧ Serving handle ∨
            ¬ outside.restore.Succeeds ∧ Shut handle ∧
              (b.status = .running ↔
                outside.restore.scale = .ok () ∧ outside.restore.rollback = .ok ())) := by
  unfold releaseScaleDown
  by_cases hshrink : newGpus < source.dataParallelSize
  · rw [if_pos hshrink]
    cases hrelease : outside.release with
    | ok u =>
      simp only [onFailure, schedulerResize, callOutside, run_bind, Except.mapError, answer,
        run_pure, run_modify, if_pos hshrink]
      exact ⟨fun _ => trivial, trivial⟩
    | error text =>
      have hpos : (1 : ℤ) ≤ source.dataParallelSize := by omega
      have hne : (newGpus : ℤ) ≠ source.dataParallelSize := by omega
      have hspec := scaleElasticEp_spec outside.restore hpos none w
      simp only [onFailure, schedulerResize, callOutside, run_bind, Except.mapError, answer,
        run_throw, restoreRuntime]
      rw [hat.scales_iff hne] at hspec
      cases hrun : scaleElasticEp outside.restore source.dataParallelSize none w with
      | error e w' =>
        rw [hrun] at hspec
        obtain ⟨hbad, b, rfl, hleft⟩ := hspec
        refine ⟨⟨hshrink, by simp⟩, b, w.handle, rfl, rfl, Or.inr ⟨hbad, hshut, ?_⟩⟩
        rw [hleft.running, ElasticBackend.RunsOn, or_iff_right hat.not_refuses,
          and_iff_right hat.takes.status]
      | ok result w' =>
        rw [hrun] at hspec
        obtain ⟨hgood, -, b, rfl, hresized⟩ := hspec
        obtain ⟨handle, hreopen, hserving, hgpu⟩ := reopen_spec
          (w := { w with backend := b }) hshut
        have hother : w.backend.currentDp ≠ .ok (source.dataParallelSize : ℤ) :=
          fun h => hne (Except.ok.inj (hat.record.symm.trans h))
        simp only [hreopen]
        exact ⟨⟨hshrink, by simp⟩, b, handle, rfl, hgpu,
          Or.inl ⟨hgood, hresized.other hother, hserving⟩⟩
  · rw [if_neg hshrink, run_pure]
    refine ⟨fun h => absurd h hshrink, ?_⟩
    rw [if_neg hshrink]

/-- The last step does not fail on a handle that nobody else has changed. -/
theorem commitResize_spec (deployment : ConfiguredDeployment) (plan : ParallelPlan Dict)
    (newGpus : ℕ) (drained : ℤ) {w : ElasticWorld} (hshut : Shut w.handle) :
    ∃ deployment' w', commitResize deployment plan newGpus drained w = .ok deployment' w' ∧
      deployment'.plan = plan ∧ Serving w'.handle ∧ w'.handle.numGpu = newGpus ∧
      w'.schedulerGpus = w.schedulerGpus ∧ w'.backend = w.backend := by
  unfold commitResize
  rw [run_bind, run_get]
  dsimp only
  rw [hshut.markReadyAfterDrain]
  exact ⟨_, _, rfl, rfl, ⟨rfl, rfl⟩, rfl, rfl, rfl⟩

/-! ## The whole resize -/

theorem replicaGpuCount_eq {π : Type} {plan : ParallelPlan π} {gpus : ℕ}
    (h : replicaGpuCount plan = .ok gpus) :
    gpus = plan.tensorParallelSize * plan.pipelineParallelSize * plan.dataParallelSize := by
  unfold replicaGpuCount at h
  dsimp only at h
  split_ifs at h
  exact (Except.ok.inj h).symm

/-- With TP 1 and PP 1 the GPUs are the data-parallel size. -/
theorem checkElastic_ok {outside : ElasticOutside} {w : ElasticWorld}
    {deployment : ConfiguredDeployment} {plan : ParallelPlan Dict} {oldGpus newGpus : ℕ}
    (h : checkElastic outside w deployment plan = .ok (oldGpus, newGpus)) :
    oldGpus = deployment.plan.dataParallelSize ∧ newGpus = plan.dataParallelSize := by
  unfold checkElastic at h
  dsimp only at h
  split at h
  case h_2 => exact absurd h (by simp [throw, throwThe, MonadExceptOf.throw])
  case h_1 instanceId hkeys hreplicas =>
    simp only [bind, Except.bind, pure, Except.pure, throw, throwThe, MonadExceptOf.throw] at h
    split_ifs at h with hshape hexperts hnodes helastic howns hray hactor hrpc hresize
    obtain ⟨⟨hsource, hplan⟩, hsource', hplan'⟩ : (deployment.plan.tensorParallelSize = 1 ∧
        plan.tensorParallelSize = 1) ∧ deployment.plan.pipelineParallelSize = 1 ∧
        plan.pipelineParallelSize = 1 := by omega
    cases hold : replicaGpuCount deployment.plan with
    | error e => simp [hold, Except.mapError] at h
    | ok gpus =>
      cases hnew : replicaGpuCount plan with
      | error e => simp [hold, hnew, Except.mapError] at h
      | ok gpus' =>
        simp only [hold, hnew, Except.mapError, Except.ok.injEq, Prod.mk.injEq] at h
        obtain ⟨rfl, rfl⟩ := h
        refine ⟨?_, ?_⟩
        · rw [replicaGpuCount_eq hold, hsource, hsource', Nat.mul_one, Nat.one_mul]
        · rw [replicaGpuCount_eq hnew, hplan, hplan', Nat.mul_one, Nat.one_mul]

section Outcome

variable (outside : ElasticOutside) (deployment : ConfiguredDeployment) (plan : ParallelPlan Dict)
  (w : ElasticWorld)

/-- The call of the runtime is made. -/
def RuntimeCalled : Prop :=
  outside.Drains ∧
    (deployment.plan.dataParallelSize < plan.dataParallelSize → outside.reserve = .ok ())

/-- The runtime does not take the resize. -/
def ResizeFails : Prop :=
  RuntimeCalled outside deployment plan ∧
    ¬ Scales w.backend outside.resize plan.dataParallelSize

/-- The runtime takes the smaller size, and the scheduler does not. -/
def ReleaseFails : Prop :=
  RuntimeCalled outside deployment plan ∧
    Scales w.backend outside.resize plan.dataParallelSize ∧
    plan.dataParallelSize < deployment.plan.dataParallelSize ∧ outside.release ≠ .ok ()

/-- Every call comes through. -/
def AllTaken : Prop :=
  RuntimeCalled outside deployment plan ∧
    Scales w.backend outside.resize plan.dataParallelSize ∧
    (plan.dataParallelSize < deployment.plan.dataParallelSize → outside.release = .ok ())

/-- The scheduler takes back what it has reserved, if it has. -/
def Unreserves : Prop :=
  deployment.plan.dataParallelSize < plan.dataParallelSize → outside.unreserve = .ok ()

/-- A call that was to undo an earlier one raises: the scheduler does not take the reservation back,
the engine does not go back to its size within the call, or not when the adapter asks for it. -/
def CompensationFails : Prop :=
  ResizeFails outside deployment plan w ∧
      (¬ Unreserves outside deployment plan ∨
        ¬ w.backend.Refuses ∧ outside.resize.scale = .ok () ∧ outside.resize.rollback ≠ .ok ()) ∨
    ReleaseFails outside deployment plan w ∧ ¬ outside.restore.Succeeds

/-- The GPUs of the instance in the scheduler after `Unreserves`. -/
def returnedGpus : ℕ :=
  if deployment.plan.dataParallelSize < plan.dataParallelSize then deployment.plan.dataParallelSize
  else w.schedulerGpus

/-- The ways in which a resize can end, each with what it leaves. -/
inductive Ends :
    EStateM.Result ElasticFailure ElasticWorld ConfiguredDeployment → Prop where
  /-- The drain loop or the scheduler has raised. -/
  | notCalled {e : ElasticFailure} {handle : InstanceHandle}
      (hnot : ¬ RuntimeCalled outside deployment plan) (hserving : Serving handle)
      (hgpu : handle.numGpu = w.handle.numGpu) : Ends (.error e { w with handle := handle })
  | resizeFailed {e : ElasticFailure} {handle : InstanceHandle} {b : ElasticBackend} {gpus : ℕ}
      (hfails : ResizeFails outside deployment plan w) (hshut : Shut handle)
      (hgpu : handle.numGpu = w.handle.numGpu) (hleft : b.LeftBy w.backend outside.resize)
      (hback : Unreserves outside deployment plan → gpus = returnedGpus deployment plan w) :
      Ends (.error e { w with handle := handle, backend := b, schedulerGpus := gpus })
  | restored {e : ElasticFailure} {handle : InstanceHandle} {b : ElasticBackend}
      (hfails : ReleaseFails outside deployment plan w) (hgood : outside.restore.Succeeds)
      (hserving : Serving handle) (hgpu : handle.numGpu = w.handle.numGpu)
      (hsize : b.engineSize = deployment.plan.dataParallelSize) :
      Ends (.error e { w with handle := handle, backend := b })
  | notRestored {e : ElasticFailure} {handle : InstanceHandle} {b : ElasticBackend}
      (hfails : ReleaseFails outside deployment plan w) (hbad : ¬ outside.restore.Succeeds)
      (hshut : Shut handle) (hgpu : handle.numGpu = w.handle.numGpu)
      (hrunning : b.status = .running ↔
        outside.restore.scale = .ok () ∧ outside.restore.rollback = .ok ()) :
      Ends (.error e { w with handle := handle, backend := b })
  | resized {deployment' : ConfiguredDeployment} {w' : ElasticWorld}
      (htaken : AllTaken outside deployment plan w) (hplan : deployment'.plan = plan)
      (hserving : Serving w'.handle) (hgpu : w'.handle.numGpu = plan.dataParallelSize)
      (hbackend : w'.backend.ResizedBy w.backend plan.dataParallelSize)
      (hgpus : w'.schedulerGpus =
        if deployment.plan.dataParallelSize = plan.dataParallelSize then w.schedulerGpus
        else plan.dataParallelSize) : Ends (.ok deployment' w')

variable {outside deployment plan w}

/-- **The course of a resize.** -/
theorem resizeWorkersElasticEp_ends
    (hcheck : ∃ gpus, checkElastic outside w deployment plan = .ok gpus) :
    Ends outside deployment plan w (resizeWorkersElasticEp outside deployment plan w) := by
  obtain ⟨⟨oldGpus, newGpus⟩, hcheck⟩ := hcheck
  obtain ⟨rfl, rfl⟩ := checkElastic_ok hcheck
  have hdrain := drainLoop_spec outside.firstPoll outside.laterPolls
    (w := { w with handle := w.handle.markDraining }) ⟨rfl, rfl⟩
  unfold resizeWorkersElasticEp
  simp only [run_bind, run_get, hcheck, answer, run_pure, run_modify]
  cases hrun : drainLoop outside.firstPoll outside.laterPolls
      { w with handle := w.handle.markDraining } with
  | error e w₁ =>
    rw [hrun] at hdrain
    obtain ⟨hbusy, handle, rfl, hserving, hgpu⟩ := hdrain
    exact Ends.notCalled (fun h => hbusy h.1) hserving hgpu
  | ok u w₁ =>
    rw [hrun] at hdrain
    obtain ⟨hidle, handle, rfl, hshut, hgpu⟩ := hdrain
    have hreserve := reserveScaleUp_spec outside deployment.plan.dataParallelSize
      plan.dataParallelSize (w := { w with handle := handle }) hshut
    dsimp only
    cases hrun₁ : reserveScaleUp outside deployment.plan.dataParallelSize plan.dataParallelSize
        { w with handle := handle } with
    | error e w₁ =>
      rw [hrun₁] at hreserve
      obtain ⟨⟨hgrow, hrefused⟩, handle', rfl, hserving, hgpu'⟩ := hreserve
      exact Ends.notCalled (fun h => hrefused (h.2 hgrow)) hserving (hgpu'.trans hgpu)
    | ok u w₁ =>
      rw [hrun₁] at hreserve
      obtain ⟨hreserved, rfl⟩ := hreserve
      have hcalled : RuntimeCalled outside deployment plan := ⟨hidle, hreserved⟩
      generalize hgpus₁ : (if deployment.plan.dataParallelSize < plan.dataParallelSize then
        plan.dataParallelSize else w.schedulerGpus) = gpus₁
      have hresize := resizeStep_spec outside plan deployment.plan.dataParallelSize
        plan.dataParallelSize { w with handle := handle, schedulerGpus := gpus₁ }
      dsimp only
      cases hrun₂ : onFailure (resizeRuntime outside plan)
          (unreserveScaleUp outside deployment.plan.dataParallelSize plan.dataParallelSize)
          { w with handle := handle, schedulerGpus := gpus₁ } with
      | error e w₂ =>
        rw [hrun₂] at hresize
        obtain ⟨hbad, b, gpus₂, rfl, hleft, hback, hsame⟩ := hresize
        refine Ends.resizeFailed ⟨hcalled, hbad⟩ hshut hgpu hleft fun hunreserves => ?_
        rw [returnedGpus]
        split_ifs with hgrow
        · exact hback hgrow (hunreserves hgrow)
        · rw [if_neg hgrow] at hgpus₁
          exact (hsame hgrow).trans hgpus₁.symm
      | ok u w₂ =>
        rw [hrun₂] at hresize
        obtain ⟨hscales, b, rfl, hresized⟩ := hresize
        have hrelease := releaseScaleDown_spec outside deployment.plan
          (w := { w with handle := handle, schedulerGpus := gpus₁, backend := b })
          hshut hresized.takes
        dsimp only
        cases hrun₃ : releaseScaleDown outside deployment.plan deployment.plan.dataParallelSize
            plan.dataParallelSize
            { w with handle := handle, schedulerGpus := gpus₁, backend := b } with
        | error e w₃ =>
          rw [hrun₃] at hrelease
          obtain ⟨⟨hshrink, hrefused⟩, b', handle', rfl, hgpu', hcases⟩ := hrelease
          have hfails : ReleaseFails outside deployment plan w :=
            ⟨hcalled, hscales, hshrink, hrefused⟩
          rw [if_neg (by omega)] at hgpus₁
          subst hgpus₁
          rcases hcases with ⟨hgood, hsize, hserving⟩ | ⟨hlost, hshut', hrunning⟩
          · exact Ends.restored hfails hgood hserving (hgpu'.trans hgpu) hsize
          · exact Ends.notRestored hfails hlost hshut' (hgpu'.trans hgpu) hrunning
        | ok u w₃ =>
          rw [hrun₃] at hrelease
          obtain ⟨hreleased, rfl⟩ := hrelease
          generalize hgpus₃ : (if plan.dataParallelSize < deployment.plan.dataParallelSize then
            plan.dataParallelSize else gpus₁) = gpus₃
          obtain ⟨deployment', w', hcommit, hplan, hserving, hgpu', hgpus', hbackend⟩ :=
            commitResize_spec deployment plan plan.dataParallelSize (max 0 w.handle.concurrency)
              (w := { w with handle := handle, schedulerGpus := gpus₃, backend := b })
              hshut
          dsimp only
          rw [hcommit]
          refine Ends.resized ⟨hcalled, hscales, hreleased⟩ hplan hserving hgpu'
            (hbackend ▸ hresized) ?_
          rw [hgpus']
          show gpus₃ = _
          split_ifs at hgpus₁ hgpus₃ ⊢ <;> omega

variable (outside deployment plan w)

/-- A resize that ends so has kept the records in step. -/
structure KeptInStep
    (r : EStateM.Result ElasticFailure ElasticWorld ConfiguredDeployment) : Prop where
  /-- An instance whose backend runs takes requests again. -/
  reopened : (finalState r).backend.status = .running → Serving (finalState r).handle
  /-- The scheduler counts the ranks of the engine, unless something could not be undone. -/
  sizes : ¬ CompensationFails outside deployment plan w →
    ((finalState r).schedulerGpus : ℤ) = (finalState r).backend.engineSize
  /-- After an exception nothing says that the plan has changed. -/
  raised : ∀ e w', r = .error e w' →
    w'.adapter = w.adapter ∧ w'.handle.numGpu = w.handle.numGpu

/-- What the calls answer, and what was on record before, for a resize that keeps the records in
step. -/
structure ResizableInStep : Prop where
  /-- A runtime that does not take the resize has stopped. -/
  resizeStops : ResizeFails outside deployment plan w → ¬ w.backend.RunsOn outside.resize
  /-- So has one that does not go back to the size before. -/
  restoreStops : ReleaseFails outside deployment plan w → ¬ outside.restore.Succeeds →
    ¬ (outside.restore.scale = .ok () ∧ outside.restore.rollback = .ok ())
  /-- The two sizes are not touched. -/
  notCalled : ¬ RuntimeCalled outside deployment plan →
    (w.schedulerGpus : ℤ) = w.backend.engineSize
  /-- The engine is not called. -/
  refused : ResizeFails outside deployment plan w → Unreserves outside deployment plan →
    w.backend.Refuses → (returnedGpus deployment plan w : ℤ) = w.backend.engineSize
  /-- The engine stops at some size. -/
  broken : ResizeFails outside deployment plan w → Unreserves outside deployment plan →
    ¬ w.backend.Refuses → outside.resize.scale ≠ .ok () →
    (returnedGpus deployment plan w : ℤ) = outside.resize.sizeAfterFailure
  /-- The engine is back at the size of the plan before. -/
  restored : ReleaseFails outside deployment plan w → outside.restore.Succeeds →
    w.schedulerGpus = deployment.plan.dataParallelSize
  /-- The scheduler is not asked for a size that is the one before, and neither is an engine that
  has the size on record. -/
  resized : AllTaken outside deployment plan w →
    ((if deployment.plan.dataParallelSize = plan.dataParallelSize then w.schedulerGpus
      else plan.dataParallelSize : ℕ) : ℤ) =
      if w.backend.currentDp = .ok (plan.dataParallelSize : ℤ) then w.backend.engineSize
      else plan.dataParallelSize

variable {outside deployment plan w}

theorem not_serving_of_shut {h : InstanceHandle} (hshut : Shut h) : ¬ Serving h :=
  fun hserving => absurd (hserving.1.symm.trans hshut.1) (by decide)

theorem ElasticBackend.ResizedBy.engineSize_eq {b' b : ElasticBackend} {newDp : ℤ}
    (h : b'.ResizedBy b newDp) :
    b'.engineSize = if b.currentDp = .ok newDp then b.engineSize else newDp := by
  split_ifs with hsame
  · exact h.same hsame
  · exact h.other hsame

theorem keptInStep_iff_notCalled {e : ElasticFailure} {handle : InstanceHandle}
    (hnot : ¬ RuntimeCalled outside deployment plan) (hserving : Serving handle)
    (hgpu : handle.numGpu = w.handle.numGpu) :
    KeptInStep outside deployment plan w (.error e { w with handle := handle }) ↔
      ResizableInStep outside deployment plan w := by
  have huncompensated : ¬ CompensationFails outside deployment plan w := by
    rintro (⟨hfails, -⟩ | ⟨hfails, -⟩)
    · exact hnot hfails.1
    · exact hnot hfails.1
  constructor
  · intro hkept
    exact {
      resizeStops := fun h => absurd h.1 hnot
      restoreStops := fun h => absurd h.1 hnot
      notCalled := fun _ => hkept.sizes huncompensated
      refused := fun h => absurd h.1 hnot
      broken := fun h => absurd h.1 hnot
      restored := fun h => absurd h.1 hnot
      resized := fun h => absurd h.1 hnot }
  · intro h
    refine ⟨fun _ => hserving, fun _ => h.notCalled hnot, ?_⟩
    rintro _ _ ⟨⟩
    exact ⟨rfl, hgpu⟩

theorem keptInStep_iff_resizeFailed {e : ElasticFailure} {handle : InstanceHandle}
    {b : ElasticBackend} {gpus : ℕ} (hfails : ResizeFails outside deployment plan w)
    (hshut : Shut handle) (hgpu : handle.numGpu = w.handle.numGpu)
    (hleft : b.LeftBy w.backend outside.resize)
    (hback : Unreserves outside deployment plan → gpus = returnedGpus deployment plan w) :
    KeptInStep outside deployment plan w
        (.error e { w with handle := handle, backend := b, schedulerGpus := gpus }) ↔
      ResizableInStep outside deployment plan w := by
  have hrelease : ¬ ReleaseFails outside deployment plan w := fun h => hfails.2 h.2.1
  have htaken : ¬ AllTaken outside deployment plan w := fun h => hfails.2 h.2.1
  constructor
  · intro hkept
    have hstops : ¬ w.backend.RunsOn outside.resize :=
      fun hruns => not_serving_of_shut hshut (hkept.reopened (hleft.running.mpr hruns))
    have hsize : Unreserves outside deployment plan →
        ¬ (¬ w.backend.Refuses ∧ outside.resize.scale = .ok () ∧
          outside.resize.rollback ≠ .ok ()) →
        (returnedGpus deployment plan w : ℤ) = b.engineSize := by
      intro hunreserves hengine
      rw [← hback hunreserves]
      refine hkept.sizes ?_
      rintro (⟨-, hnot | hnot⟩ | ⟨h, -⟩)
      · exact hnot hunreserves
      · exact hengine hnot
      · exact hrelease h
    exact {
      resizeStops := fun _ => hstops
      restoreStops := fun h => absurd h hrelease
      notCalled := fun h => absurd hfails.1 h
      refused := fun _ hunreserves hrefuses =>
        (hsize hunreserves fun h => h.1 hrefuses).trans (hleft.refused hrefuses)
      broken := fun _ hunreserves htakes hscale =>
        (hsize hunreserves fun h => hscale h.2.1).trans (hleft.broken htakes hscale)
      restored := fun h => absurd h hrelease
      resized := fun h => absurd h htaken }
  · intro h
    have hstops := h.resizeStops hfails
    refine ⟨fun hrunning => absurd (hleft.running.mp hrunning) hstops, fun hundone => ?_, ?_⟩
    · have hunreserves : Unreserves outside deployment plan := by
        by_contra hnot
        exact hundone (Or.inl ⟨hfails, Or.inl hnot⟩)
      show (gpus : ℤ) = b.engineSize
      rw [hback hunreserves]
      by_cases hrefuses : w.backend.Refuses
      · exact (h.refused hfails hunreserves hrefuses).trans (hleft.refused hrefuses).symm
      by_cases hscale : outside.resize.scale = .ok ()
      · obtain ⟨dp, htakes⟩ := ElasticBackend.exists_takesAt hrefuses
        have hrollback : outside.resize.rollback ≠ .ok () :=
          fun hrollback => hstops ⟨htakes.takes.status, Or.inr ⟨hscale, hrollback⟩⟩
        exact absurd (Or.inl ⟨hfails, Or.inr ⟨hrefuses, hscale, hrollback⟩⟩) hundone
      · exact (h.broken hfails hunreserves hrefuses hscale).trans
          (hleft.broken hrefuses hscale).symm
    · rintro _ _ ⟨⟩
      exact ⟨rfl, hgpu⟩

theorem keptInStep_iff_restored {e : ElasticFailure} {handle : InstanceHandle}
    {b : ElasticBackend} (hfails : ReleaseFails outside deployment plan w)
    (hgood : outside.restore.Succeeds) (hserving : Serving handle)
    (hgpu : handle.numGpu = w.handle.numGpu)
    (hsize : b.engineSize = deployment.plan.dataParallelSize) :
    KeptInStep outside deployment plan w (.error e { w with handle := handle, backend := b }) ↔
      ResizableInStep outside deployment plan w := by
  obtain ⟨hcalled, hscales, hshrink, hrefused⟩ := id hfails
  have huncompensated : ¬ CompensationFails outside deployment plan w := by
    rintro (⟨h, -⟩ | ⟨-, hbad⟩)
    · exact h.2 hscales
    · exact hbad hgood
  constructor
  · intro hkept
    have hagree : (w.schedulerGpus : ℤ) = deployment.plan.dataParallelSize :=
      (hkept.sizes huncompensated).trans hsize
    exact {
      resizeStops := fun h => absurd hscales h.2
      restoreStops := fun _ hbad => absurd hgood hbad
      notCalled := fun h => absurd hcalled h
      refused := fun h => absurd hscales h.2
      broken := fun h => absurd hscales h.2
      restored := fun _ _ => Nat.cast_inj.mp hagree
      resized := fun h => absurd (h.2.2 hshrink) hrefused }
  · intro h
    have hagree : (w.schedulerGpus : ℤ) = deployment.plan.dataParallelSize :=
      Nat.cast_inj.mpr (h.restored hfails hgood)
    refine ⟨fun _ => hserving, fun _ => hagree.trans hsize.symm, ?_⟩
    rintro _ _ ⟨⟩
    exact ⟨rfl, hgpu⟩

theorem keptInStep_iff_notRestored {e : ElasticFailure} {handle : InstanceHandle}
    {b : ElasticBackend} (hfails : ReleaseFails outside deployment plan w)
    (hbad : ¬ outside.restore.Succeeds) (hshut : Shut handle)
    (hgpu : handle.numGpu = w.handle.numGpu)
    (hrunning : b.status = .running ↔
      outside.restore.scale = .ok () ∧ outside.restore.rollback = .ok ()) :
    KeptInStep outside deployment plan w (.error e { w with handle := handle, backend := b }) ↔
      ResizableInStep outside deployment plan w := by
  obtain ⟨hcalled, hscales, hshrink, hrefused⟩ := id hfails
  constructor
  · intro hkept
    exact {
      resizeStops := fun h => absurd hscales h.2
      restoreStops := fun _ _ hruns =>
        not_serving_of_shut hshut (hkept.reopened (hrunning.mpr hruns))
      notCalled := fun h => absurd hcalled h
      refused := fun h => absurd hscales h.2
      broken := fun h => absurd hscales h.2
      restored := fun _ hgood => absurd hgood hbad
      resized := fun h => absurd (h.2.2 hshrink) hrefused }
  · intro h
    refine ⟨fun hruns => ?_, fun hundone => absurd (Or.inr ⟨hfails, hbad⟩) hundone, ?_⟩
    · exact absurd (hrunning.mp hruns) (h.restoreStops hfails hbad)
    · rintro _ _ ⟨⟩
      exact ⟨rfl, hgpu⟩

theorem keptInStep_iff_resized {deployment' : ConfiguredDeployment} {w' : ElasticWorld}
    (htaken : AllTaken outside deployment plan w) (hserving : Serving w'.handle)
    (hbackend : w'.backend.ResizedBy w.backend plan.dataParallelSize)
    (hgpus : w'.schedulerGpus =
      if deployment.plan.dataParallelSize = plan.dataParallelSize then w.schedulerGpus
      else plan.dataParallelSize) :
    KeptInStep outside deployment plan w (.ok deployment' w') ↔
      ResizableInStep outside deployment plan w := by
  obtain ⟨hcalled, hscales, hreleased⟩ := id htaken
  have hrelease : ¬ ReleaseFails outside deployment plan w :=
    fun h => h.2.2.2 (hreleased h.2.2.1)
  have huncompensated : ¬ CompensationFails outside deployment plan w := by
    rintro (⟨h, -⟩ | ⟨h, -⟩)
    · exact h.2 hscales
    · exact hrelease h
  have hsize := hbackend.engineSize_eq
  constructor
  · intro hkept
    have hagree : (w'.schedulerGpus : ℤ) = w'.backend.engineSize := hkept.sizes huncompensated
    exact {
      resizeStops := fun h => absurd hscales h.2
      restoreStops := fun h => absurd h hrelease
      notCalled := fun h => absurd hcalled h
      refused := fun h => absurd hscales h.2
      broken := fun h => absurd hscales h.2
      restored := fun h => absurd h hrelease
      resized := fun _ => hgpus ▸ hagree.trans hsize }
  · intro h
    have hagree := h.resized htaken
    rw [← hgpus, ← hsize] at hagree
    refine ⟨fun _ => hserving, fun _ => hagree, ?_⟩
    rintro _ _ ⟨⟩

/-- **A resize in place keeps the records in step exactly when** every runtime that did not take a
size has stopped, and the sizes that were not touched, or put back, agreed before. -/
theorem resizeWorkersElasticEp_inStep_iff
    (hcheck : ∃ gpus, checkElastic outside w deployment plan = .ok gpus) :
    KeptInStep outside deployment plan w (resizeWorkersElasticEp outside deployment plan w) ↔
      ResizableInStep outside deployment plan w := by
  have hends := resizeWorkersElasticEp_ends hcheck
  generalize resizeWorkersElasticEp outside deployment plan w = r at hends ⊢
  cases hends with
  | notCalled hnot hserving hgpu => exact keptInStep_iff_notCalled hnot hserving hgpu
  | resizeFailed hfails hshut hgpu hleft hback =>
    exact keptInStep_iff_resizeFailed hfails hshut hgpu hleft hback
  | restored hfails hgood hserving hgpu hsize =>
    exact keptInStep_iff_restored hfails hgood hserving hgpu hsize
  | notRestored hfails hbad hshut hgpu hrunning =>
    exact keptInStep_iff_notRestored hfails hbad hshut hgpu hrunning
  | resized htaken _ hserving _ hbackend hgpus =>
    exact keptInStep_iff_resized htaken hserving hbackend hgpus

end Outcome

/-! ### A placement that is not verified -/

/-- A plan for one worker with expert parallelism. -/
def ranksPlan (dataParallelSize : ℕ) (pos : 0 < dataParallelSize) : ParallelPlan Dict where
  modelName := "m"
  backend := "vllm"
  tensorParallelSize := 1
  dataParallelSize := dataParallelSize
  enableExpertParallel := true
  numGpus := dataParallelSize
  tensorParallelSize_pos := Nat.one_pos
  dataParallelSize_pos := pos
  pipelineParallelSize_pos := Nat.one_pos
  replicaCount_pos := Nat.one_pos
  numGpus_pos := pos

/-- Two ranks, served by one instance. -/
def twoRanks : ConfiguredDeployment where
  plan := ranksPlan 2 Nat.two_pos
  instances := OrderedDict.empty.set "i" 0
  resourceRequirements := ⟨1, 2⟩
  backendConfig := .empty

/-- The instance is ready, and all records say two. -/
def servingTwoRanks : ElasticWorld where
  handle :=
    { instanceId := "i"
      maxQueueLength := 1
      numGpu := 2
      backendInstance := some "actor"
      ready := true
      state := .ready }
  schedulerGpus := 2
  backend :=
    { status := .running
      elasticEpEnabled := true
      rayDpOwnsGpus := true
      backendConfig := OrderedDict.empty.set "data_parallel_size" (.int 2)
      engineSize := 2 }
  adapter :=
    { modelName := "m"
      backendConfig := ((OrderedDict.empty.set "spotserve_elastic_ep_enabled" (.bool true)).set
        "spotserve_vllm_ray_dp_owns_gpus" (.bool true)).set "data_parallel_backend" (.str "ray")
      resourceRequirements := ⟨1, 2⟩ }

/-- The engine grows, its placement is not verified, and it shrinks again. -/
def notVerified : ElasticOutside where
  firstPoll := 0
  resize := { verification := .ok (false, "\x7b'verified': False\x7d") }

/-- The engine grows, its placement is not verified, and it goes back: it runs with two ranks, as
all records say, and its handle stays closed. -/
theorem not_keptInStep_notVerified :
    let plan := ranksPlan 4 (by decide)
    let r := resizeWorkersElasticEp notVerified twoRanks plan servingTwoRanks
    checkElastic notVerified servingTwoRanks twoRanks plan = .ok (2, 4) ∧
      ((finalState r).backend.status = .running ∧ (finalState r).backend.engineSize = 2 ∧
        (finalState r).schedulerGpus = 2) ∧
      Shut (finalState r).handle ∧ ¬ KeptInStep notVerified twoRanks plan servingTwoRanks r := by
  refine ⟨rfl, ⟨rfl, rfl, rfl⟩, ⟨rfl, rfl⟩, fun h => ?_⟩
  exact not_serving_of_shut ⟨rfl, rfl⟩ (h.reopened rfl)

/-- The engine shrinks, the scheduler keeps its two GPUs, and the engine grows again. -/
def notReleased : ElasticOutside where
  firstPoll := 1
  laterPolls := [0]
  release := .error "scheduler unavailable"

theorem takesAt_servingTwoRanks : servingTwoRanks.backend.TakesAt 2 :=
  ⟨⟨rfl, rfl, rfl, rfl, rfl⟩, rfl⟩

theorem resizeWorkersElasticEp_inStep_notReleased :
    KeptInStep notReleased twoRanks (ranksPlan 1 Nat.one_pos) servingTwoRanks
      (resizeWorkersElasticEp notReleased twoRanks (ranksPlan 1 Nat.one_pos)
        servingTwoRanks) := by
  have hdrains : notReleased.Drains := ⟨0, by simp [notReleased], le_rfl⟩
  have hcalled : RuntimeCalled notReleased twoRanks (ranksPlan 1 Nat.one_pos) :=
    ⟨hdrains, fun _ => rfl⟩
  have hscales : Scales servingTwoRanks.backend notReleased.resize 1 :=
    ⟨2, takesAt_servingTwoRanks, Or.inr ⟨rfl, rfl⟩⟩
  refine (resizeWorkersElasticEp_inStep_iff ⟨(2, 1), rfl⟩).mpr {
    resizeStops := fun h => absurd hscales h.2
    restoreStops := fun _ hbad => absurd ⟨rfl, rfl⟩ hbad
    notCalled := fun h => absurd hcalled h
    refused := fun h => absurd hscales h.2
    broken := fun h => absurd hscales h.2
    restored := fun _ _ => rfl
    resized := fun h => ?_ }
  have hshrink : (ranksPlan 1 Nat.one_pos).dataParallelSize < twoRanks.plan.dataParallelSize :=
    Nat.one_lt_two
  exact absurd (h.2.2 hshrink) (by simp [notReleased])

end Reparallelization
end SpotServe
