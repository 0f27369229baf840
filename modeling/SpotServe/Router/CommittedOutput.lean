import SpotServe.Router.InferenceLoop

/-!
# The response of an interrupted request

An attempt that continues from tokens sees the output of earlier attempts as a part of its prompt.
Its response has them as output again only if the request says how many of the input tokens are
output already: `_spotserve_committed_output_tokens`.  `_build_stateful_restore_request` says so,
with the `completed_tokens` of the state, and `_build_token_replay_request` does not.

The response is made of the engine's last output.  An attempt that asks for deltas has the tokens of
the other outputs in none.

`Call.Complete` says that a response has all of its tokens; `Committed` is the condition on a step
under which it does.
-/

namespace SpotServe
namespace Router

open Runs

namespace Call

/-- The output of a response is what has been generated for it, the tokens of the interrupted
attempts and then those of the last one. -/
def Complete (c : Call) : Prop :=
  ∀ attempt outputTokens receipt, c.phase = .returned (.success attempt outputTokens receipt) →
    outputTokens = c.generated ++ attempt.produced

/-- The last tokens of a state are those generated so far, and it counts them. -/
def Covers (c : Call) (state : InferenceState) : Prop :=
  c.soFar <:+ state.tokens ∧ state.completedTokens = c.soFar.length

instance (c : Call) (state : InferenceState) : Decidable (c.Covers state) :=
  inferInstanceAs (Decidable (_ ∧ _))

/-- Whether the next attempt gets tokens without a state. -/
def replays (cfg : InferenceConfig) (c : Call) (target : TargetReply) : Bool :=
  match c.prepared cfg target with
  | .ok (none, _ :: _) => true
  | _ => false

end Call

/-- The condition on a step: nothing that was generated is replayed, the state that is kept of an
interrupted attempt covers it, and the last output of an attempt that succeeds has all its
tokens. -/
def Committed (cfg : InferenceConfig) (c : Call) (a : CallAction) : Prop :=
  match a, c.phase with
  | .send target, _ => c.replays cfg target → c.generated = []
  | .succeed earlier _ _, .running attempt => cfg.ShowsAll attempt earlier
  | .preempted noCurrentTokens earlier shown view reply, .running attempt => cfg.isStateful →
    ∀ result ∈ c.preemptedResult cfg attempt noCurrentTokens earlier shown view,
      ∀ state ∈ captureInferenceState cfg.backend reply (some result.currentOutput)
        (some result.completedTokens) result.inferenceState, c.Covers state
  | .aborted true _ _ _, _ => cfg.isStateful → ∀ state ∈ c.migrationState, c.Covers state
  | .aborted false earlier shown reply, .running attempt => cfg.isStateful →
    ∀ state ∈ captureInferenceState cfg.backend reply
      (some (c.abortResult cfg attempt earlier shown).currentOutput)
      (some (c.abortResult cfg attempt earlier shown).completedTokens) none, c.Covers state
  | .errorResult kept reply, _ => cfg.isStateful →
    ∀ state ∈ captureInferenceState cfg.backend reply kept none none, c.Covers state
  | .exception _ reply, _ => cfg.isStateful →
    ∀ state ∈ captureInferenceState cfg.backend reply none none none, c.Covers state
  | _, _ => True

instance (cfg : InferenceConfig) (c : Call) (a : CallAction) : Decidable (Committed cfg c a) := by
  unfold Committed
  split <;> infer_instance

/-- The call as it is after every step that is `Committed`. -/
structure Covered (cfg : InferenceConfig) (c : Call) : Prop where
  force : c.forceStateRecovery = true → cfg.isStateful = true
  state : c.phase = .waiting ∨ c.phase = .assigned → cfg.isStateful = true →
    ∀ state ∈ c.recoveryState, c.Covers state
  sent : ∀ attempt, c.phase = .running attempt →
    attempt.request.committedOutputTokens = c.generated
  complete : c.Complete

namespace Covered

variable {cfg : InferenceConfig} {c : Call}

theorem start (cfg : InferenceConfig) (text : List ℤ) (inputTokens : Option (List ℤ))
    (maxTokens : Option ℕ) : Covered cfg (Call.start cfg text inputTokens maxTokens) where
  force := fun hforce => absurd hforce (by simp [Call.start])
  state := by simp [Call.start]
  sent := fun attempt hphase => absurd hphase (by simp [Call.start])
  complete := fun attempt outputTokens receipt hphase => absurd hphase (by simp [Call.start])

/-- The call ends without a response. -/
theorem finish (h : Covered cfg c) {outcome : Outcome} (houtcome : outcome.isSuccess = false) :
    Covered cfg (c.finish outcome) where
  force := h.force
  state := by
    rintro (hphase | hphase) <;> exact absurd hphase (by simp [Call.finish])
  sent := fun attempt hphase => absurd hphase (by simp [Call.finish])
  complete := by
    intro attempt outputTokens receipt hphase
    obtain rfl := CallPhase.returned.inj hphase
    exact absurd houtcome (by simp [Outcome.isSuccess])

/-- A state that covers what is generated covers it in the next turn. -/
theorem between {c' : Call} (hphase : c'.phase = .waiting ∨ c'.phase = .assigned)
    (hforce : c'.forceStateRecovery = true → cfg.isStateful = true)
    (hsoFar : c'.soFar = c.soFar)
    (hstate : cfg.isStateful = true → ∀ state ∈ c'.recoveryState, c.Covers state) :
    Covered cfg c' where
  force := hforce
  state := by
    intro _ hstateful state hmem
    unfold Call.Covers
    rw [hsoFar]
    exact hstate hstateful state hmem
  sent := by
    intro attempt hattempt
    rcases hphase with hphase | hphase <;> exact absurd (hphase.symm.trans hattempt) (by simp)
  complete := by
    intro attempt outputTokens receipt hreturned
    rcases hphase with hphase | hphase <;> exact absurd (hphase.symm.trans hreturned) (by simp)

/-- A failed attempt whose state covers what is generated. -/
theorem carried {c' : Call} (h : Covered cfg c) (hc' : c.Interrupted cfg c')
    (hstate : cfg.isStateful = true → ∀ state ∈ c'.recoveryState, c.Covers state) :
    Covered cfg c' :=
  between (Or.inl hc'.phase) (fun hforce => (hc'.force hforce).elim h.force id) hc'.soFar hstate

theorem again (h : Covered cfg c) (hphase : c.phase = .waiting) : Covered cfg (c.again cfg) := by
  refine between (Or.inl rfl) h.force ?_ (h.state (Or.inl hphase))
  simp [Call.soFar, Call.produced, Call.again, hphase]

theorem afterException (h : Covered cfg c) (hphase : c.phase = .waiting) (message : String) :
    Covered cfg (c.afterException cfg message) := by
  unfold Call.afterException
  split_ifs
  · exact h.again hphase
  · exact h.finish rfl

theorem afterResult (h : Covered cfg c) (hphase : c.phase = .waiting) :
    Covered cfg (c.afterResult cfg) := by
  have hspent : Covered cfg { c with forceRetryBudget := c.forceRetryBudget - 1 } :=
    ⟨h.force, h.state, h.sent, h.complete⟩
  rcases Call.afterResult_eq cfg c with ⟨outcome, hfailed, heq | heq⟩ | ⟨-, heq⟩ <;> rw [heq]
  · exact h.finish hfailed
  · exact hspent.finish hfailed
  · exact hspent.again hphase

theorem onFailedResult (h : Covered cfg c) {attempt : Attempt} {branch : Call → Call}
    (hc' : c.Interrupted cfg (branch c.interrupt))
    (hstate : cfg.isStateful = true →
      ∀ state ∈ (branch c.interrupt).recoveryState, c.Covers state) :
    Covered cfg (c.onFailedResult cfg attempt branch) := by
  unfold Call.onFailedResult
  split
  · exact h.finish rfl
  · exact (h.carried hc' hstate).afterResult hc'.phase

/-- A request goes out that carries what is generated. -/
theorem run (h : Covered cfg c) {c' : Call} {source : TokenSource} {request : BackendRequest}
    (hforce : c'.forceStateRecovery = c.forceStateRecovery)
    (hrequest : request.committedOutputTokens = c'.generated) :
    Covered cfg (c'.run source request) where
  force := by
    intro hrun
    rw [Call.run] at hrun
    exact h.force (hforce ▸ (Bool.and_eq_true_iff.mp hrun).1)
  state := by
    rintro (hphase | hphase) <;> exact absurd hphase (by simp [Call.run])
  sent := by
    intro attempt hattempt
    obtain rfl := CallPhase.running.inj hattempt
    exact hrequest
  complete := fun attempt outputTokens receipt hphase => absurd hphase (by simp [Call.run])

theorem send (h : Covered cfg c) (hbackend : cfg.backend = .vllm) (hphase : c.phase = .assigned)
    {target : TargetReply} (hcommitted : Committed cfg c (.send target)) :
    Covered cfg (c.send cfg target) := by
  have hsoFar : c.soFar = c.generated := by simp [Call.soFar, Call.produced, hphase]
  unfold Call.send
  split
  · exact h.finish rfl
  · rename_i state replay hprepared
    split
    · exact h.finish rfl
    · rename_i request hbuilt
      refine h.run rfl ?_
      rcases Call.of_prepared hprepared with ⟨state', hstate, hrecovers, hrecovery⟩ | ⟨hnone, -, -⟩
      · rcases of_prepareStatefulRecovery hrecovery with ⟨hsome, -, -⟩ | ⟨hnone, -, -⟩
        · obtain rfl := Option.some.inj hsome
          have hstateful := Call.isStateful_of_recovers h.force hrecovers
          obtain ⟨hsuffix, hcount⟩ := h.state (Or.inr hphase) hstateful state hstate
          rw [hsoFar] at hsuffix hcount
          rw [hbackend] at hbuilt
          exact committed_of_restoreRequest hbuilt hsuffix hcount
        · exact absurd hnone (by simp)
      · exact absurd hnone (by simp)
  · exact h.run rfl rfl
  · -- tokens are replayed, which is allowed when none of them was generated
    rename_i first rest hprepared
    have hreplays : c.replays cfg target = true := by simp only [Call.replays, hprepared]
    exact h.run rfl (hcommitted hreplays).symm

theorem step (h : Covered cfg c) (hbackend : cfg.backend = .vllm) {a : CallAction} {c' : Call}
    (hcommitted : Committed cfg c a) (hstep : c.step cfg a = some c') : Covered cfg c' := by
  cases Call.of_step hstep with
  | assign hphase =>
    refine between (Or.inr rfl) h.force ?_ (h.state (Or.inl hphase))
    simp [Call.soFar, Call.produced, hphase]
  | allocationFails message hphase =>
    have hnext : Covered cfg { c with attempts := c.attempts + 1 } :=
      ⟨h.force, h.state, h.sent, h.complete⟩
    exact hnext.afterException hphase message
  | send target hphase => exact h.send hbackend hphase hcommitted
  | generate token hphase hroom =>
    have hsent := h.sent _ hphase
    refine ⟨h.force, ?_, ?_, ?_⟩
    · rintro (hnext | hnext) <;> exact absurd hnext (by simp)
    · intro attempt' hattempt'
      obtain rfl := CallPhase.running.inj hattempt'
      exact hsent
    · exact fun attempt outputTokens receipt hreturned => absurd hreturned (by simp)
  | snapshot timedOut reply _ _ => exact ⟨h.force, h.state, h.sent, h.complete⟩
  | succeed earlier expectedBlocks cachedTokens hphase =>
    simp only [Committed, hphase] at hcommitted
    rcases Call.onSuccess_eq cfg c _ earlier expectedBlocks cachedTokens with
      ⟨_, heq⟩ | ⟨outputTokens, hresponse, -, heq⟩ <;> rw [heq]
    · exact h.finish rfl
    · refine ⟨h.force, ?_, ?_, ?_⟩
      · rintro (hnext | hnext) <;> exact absurd hnext (by simp [Call.finish])
      · exact fun attempt' hattempt' => absurd hattempt' (by simp [Call.finish])
      · intro attempt' outputTokens' receipt' hreturned
        obtain ⟨rfl, rfl, -⟩ := Outcome.success.inj (CallPhase.returned.inj hreturned)
        rw [hcommitted.tokens_eq, hbackend] at hresponse
        rw [of_responseTokens hresponse, h.sent _ hphase]
        rfl
  | preempted reply hphase hresult =>
    refine h.onFailedResult (Call.interrupted_onPreempted cfg c _ reply) ?_
    intro hstateful
    simp only [Committed, hphase] at hcommitted
    rw [Call.recoveryState_onPreempted hstateful]
    exact hcommitted hstateful _ hresult
  | reparallelized earlier shown reply hphase _ =>
    refine h.onFailedResult (Call.interrupted_onReparallelized cfg c) ?_
    intro hstateful
    rw [Call.recoveryState_onReparallelized]
    exact hcommitted hstateful
  | aborted earlier shown reply hphase _ =>
    refine h.onFailedResult (Call.interrupted_onPreempted cfg c _ reply) ?_
    intro hstateful
    simp only [Committed, hphase] at hcommitted
    rw [Call.recoveryState_onPreempted hstateful]
    exact hcommitted hstateful
  | errorResult kept reply hphase _ =>
    refine h.onFailedResult (Call.interrupted_onErrorResult cfg c kept reply) ?_
    intro hstateful
    rw [Call.recoveryState_onErrorResult hstateful]
    exact hcommitted hstateful
  | exception message reply _ =>
    have hc' := Call.interrupted_onException cfg c reply
    refine (h.carried hc' ?_).afterException hc'.phase message
    intro hstateful
    rw [Call.recoveryState_onException hstateful]
    exact hcommitted hstateful
  | valueError message _ => exact h.finish rfl

/-- A call whose steps are all `Committed` is `Covered`. -/
theorem of_runs (hbackend : cfg.backend = .vllm) (h : CallRuns cfg (Committed cfg) c) :
    Covered cfg c := by
  refine Runs.Reachable.invariant (Covered cfg) ?_ ?_ h
  · rintro _ ⟨text, inputTokens, maxTokens, rfl⟩
    exact Covered.start cfg text inputTokens maxTokens
  · intro c a c' hinv hcommitted hstep
    exact hinv.step hbackend hcommitted hstep

end Covered

/-- **No generated token is lost** from a response of vLLM, in every call whose steps are
`Committed`. -/
theorem complete_of_committed {cfg : InferenceConfig} {c : Call} (hbackend : cfg.backend = .vllm)
    (h : CallRuns cfg (Committed cfg) c) : c.Complete :=
  (Covered.of_runs hbackend h).complete

/-- The first attempt is preempted after two tokens, its state is restored, and the second one
generates a third. -/
def restoredToTheEnd : List CallAction :=
  [.assign, .send {}, .generate 20, .generate 21,
    .preempted false 0 2 { restorable := true } .noBackend, .assign,
    .send { restoreSupported := true, result := { restored := true, restoredBlocks := 1 } },
    .generate 22, .succeed 0 1 3]

theorem complete_restoredToTheEnd :
    ∃ c attempt receipt, Runs.attempt (Call.step statefulVllm) (Committed statefulVllm)
        restoredToTheEnd (Call.start statefulVllm [10, 11] none (some 3)) = some c ∧
      c.phase = .returned (.success attempt [20, 21, 22] receipt) ∧ c.Complete := by
  have hrun : (Runs.attempt (Call.step statefulVllm) (Committed statefulVllm) restoredToTheEnd
      (Call.start statefulVllm [10, 11] none (some 3))).map Call.outputTokens =
      some (some [20, 21, 22]) := by
    decide +kernel
  obtain ⟨c, hc, houtput⟩ := Option.map_eq_some_iff.mp hrun
  obtain ⟨attempt, receipt, hphase⟩ := Call.of_outputTokens houtput
  have hreachable : CallRuns statefulVllm (Committed statefulVllm) c :=
    .attempt (.start ⟨[10, 11], none, some 3, rfl⟩) hc
  exact ⟨c, attempt, receipt, hc, hphase, complete_of_committed rfl hreachable⟩

/-- Replay on vLLM. -/
def replayVllm : InferenceConfig where
  recoveryPolicy := .generatedTokenReplay
  maxRetries := 3
  backend := .vllm

/-- The same request when tokens are replayed. -/
def replayedToTheEnd : List CallAction :=
  [.assign, .send {}, .generate 20, .generate 21, .preempted false 0 2 {} .noBackend, .assign,
    .send {}, .generate 22, .succeed 0 0 0]

/-- The response has the third token only. -/
theorem not_complete_replayedToTheEnd :
    ¬ ∀ cfg c, cfg.backend = .vllm → cfg.keepsTokens = true → CallRuns cfg (fun _ _ => True) c →
      c.Complete := by
  intro h
  have hrun : (Runs.attempt (Call.step replayVllm) (fun _ _ => True) replayedToTheEnd
      (Call.start replayVllm [10, 11] none (some 3))).map
        (fun c => (c.outputTokens, c.generated)) = some (some [22], [20, 21]) := by
    decide +kernel
  obtain ⟨c, hc, hpair⟩ := Option.map_eq_some_iff.mp hrun
  obtain ⟨houtput, hgenerated⟩ := Prod.mk.inj hpair
  obtain ⟨attempt, receipt, hphase⟩ := Call.of_outputTokens houtput
  have hreachable : CallRuns replayVllm (fun _ _ => True) c :=
    .attempt (.start ⟨[10, 11], none, some 3, rfl⟩) hc
  have hcomplete := h replayVllm c rfl rfl hreachable attempt [22] receipt hphase
  rw [hgenerated] at hcomplete
  exact absurd (congrArg List.length hcomplete) (by simp)

end Router
end SpotServe
