import SpotServe.Router.InferenceLoop

/-!
# A restore that must not become a replay

With `require_native_kv_restore`, a request that was interrupted may only be continued from KV
blocks that the target has attached: `NativeKVRecoveryError` says that a stateful treatment must not
silently become a replay.  The guards against it stand in three places, after a failed result, before
an attempt that has a state, and after an attempt that was restored.  None of them is on the way of
an attempt that raises and leaves no state: the next attempt starts from what the client sent.
-/

namespace SpotServe
namespace Router

namespace Call

/-- A response that comes after an interruption comes from a snapshot of KV blocks, and says that
blocks were attached. -/
def RestoredNatively (c : Call) : Prop :=
  ∀ attempt outputTokens receipt, c.phase = .returned (.success attempt outputTokens receipt) →
    0 < c.interrupted →
    ∃ state r, attempt.source = .state state ∧ state.stateKind = .vllmKvSnapshot ∧
      receipt = some r ∧ r.restored = true ∧ 0 < r.cachedTokens

end Call

/-- The condition on a step: an attempt that raises and is repeated leaves a token on its
instance. -/
def LeavesTokens (cfg : InferenceConfig) (c : Call) : CallAction → Prop
  | .exception _ reply => cfg.shouldRetry (c.attempts - 1) → reply.showsTokens cfg.backend
  | _ => True

instance (cfg : InferenceConfig) (c : Call) (a : CallAction) : Decidable (LeavesTokens cfg c a) := by
  induction a using CallAction.casesOn <;> unfold LeavesTokens <;> infer_instance

/-- The call as it is after every step that `LeavesTokens`. -/
structure Guarded (c : Call) : Prop where
  state : c.phase = .waiting ∨ c.phase = .assigned → 0 < c.interrupted →
    c.recoveryState.isSome = true
  sent : ∀ attempt, c.phase = .running attempt → 0 < c.interrupted →
    ∃ state, attempt.source = .state state ∧ state.isNative = true
  restored : c.RestoredNatively

namespace Guarded

variable {cfg : InferenceConfig} {c : Call}

theorem start (cfg : InferenceConfig) (text : List ℤ) (inputTokens : Option (List ℤ))
    (maxTokens : Option ℕ) : Guarded (Call.start cfg text inputTokens maxTokens) where
  state := by simp [Call.start]
  sent := fun attempt hphase => absurd hphase (by simp [Call.start])
  restored := fun attempt outputTokens receipt hphase => absurd hphase (by simp [Call.start])

/-- Before an attempt is sent, only the state matters. -/
theorem between (hphase : c.phase = .waiting ∨ c.phase = .assigned)
    (hstate : 0 < c.interrupted → c.recoveryState.isSome = true) : Guarded c where
  state := fun _ => hstate
  sent := by
    intro attempt hattempt
    rcases hphase with hphase | hphase <;> exact absurd (hphase.symm.trans hattempt) (by simp)
  restored := by
    intro attempt outputTokens receipt hreturned
    rcases hphase with hphase | hphase <;> exact absurd (hphase.symm.trans hreturned) (by simp)

/-- The call ends without a response. -/
theorem finish (c : Call) {outcome : Outcome} (houtcome : outcome.isSuccess = false) :
    Guarded (c.finish outcome) where
  state := by
    rintro (hphase | hphase) <;> exact absurd hphase (by simp [Call.finish])
  sent := fun attempt hphase => absurd hphase (by simp [Call.finish])
  restored := by
    intro attempt outputTokens receipt hphase
    obtain rfl := CallPhase.returned.inj hphase
    exact absurd houtcome (by simp [Outcome.isSuccess])

/-- After a failed result there is another attempt only with a state. -/
theorem onFailedResult (hnative : cfg.requireNativeKvRestore = true) (c : Call) (attempt : Attempt)
    (branch : Call → Call) : Guarded (c.onFailedResult cfg attempt branch) := by
  unfold Call.onFailedResult
  split
  · exact finish c rfl
  · rcases Call.afterResult_eq cfg (branch c.interrupt) with
      ⟨outcome, hfailed, heq | heq⟩ | ⟨hstate, heq⟩ <;> rw [heq]
    · exact finish _ hfailed
    · exact finish _ hfailed
    · refine between (Or.inl rfl) ?_
      intro _
      have hany := hstate hnative
      show (branch c.interrupt).recoveryState.isSome = true
      cases hrecovery : (branch c.interrupt).recoveryState with
      | none => rw [hrecovery] at hany; exact absurd hany (by simp)
      | some state => rfl

theorem send (h : Guarded c) (hnative : cfg.requireNativeKvRestore = true)
    (hstateful : cfg.isStateful = true) (hphase : c.phase = .assigned) (target : TargetReply) :
    Guarded (c.send cfg target) := by
  -- an attempt of an interrupted call has a state, and is sent with it or not at all
  have hsource : ∀ snapshot replay, c.prepared cfg target = .ok (snapshot, replay) →
      0 < c.interrupted → ∃ state, snapshot = some state ∧ state.isNative = true := by
    intro snapshot replay hprepared hinterrupted
    obtain ⟨state, hstate⟩ := Option.isSome_iff_exists.mp (h.state (Or.inr hphase) hinterrupted)
    rcases Call.of_prepared hprepared with ⟨state', -, -, hrecovery⟩ | ⟨-, -, hnone⟩
    · rw [hnative] at hrecovery
      rcases of_prepareStatefulRecovery hrecovery with ⟨hsome, -, hkind⟩ | ⟨-, hfalse, -⟩
      · exact ⟨state', hsome, hkind rfl⟩
      · exact absurd hfalse (by simp)
    · exact absurd (hnone state hstate) (by simp [hstateful])
  have hrun : ∀ (c' : Call) (source : TokenSource) (request : BackendRequest),
      (0 < c'.interrupted → ∃ state, source = .state state ∧ state.isNative = true) →
      Guarded (c'.run source request) := by
    intro c' source request hrunning
    refine ⟨?_, ?_, ?_⟩
    · rintro (hnext | hnext) <;> exact absurd hnext (by simp [Call.run])
    · intro attempt hattempt
      obtain rfl := CallPhase.running.inj hattempt
      exact hrunning
    · exact fun attempt outputTokens receipt hreturned => absurd hreturned (by simp [Call.run])
  unfold Call.send
  split
  · exact finish c rfl
  · rename_i state replay hprepared
    split
    · exact finish c rfl
    · refine hrun _ _ _ fun hinterrupted => ?_
      obtain ⟨state', hstate', hkind⟩ := hsource _ _ hprepared hinterrupted
      obtain rfl := Option.some.inj hstate'
      exact ⟨state, rfl, hkind⟩
  · rename_i hprepared
    refine hrun _ _ _ fun hinterrupted => ?_
    obtain ⟨state, hstate, -⟩ := hsource _ _ hprepared hinterrupted
    exact absurd hstate (by simp)
  · rename_i first rest hprepared
    refine hrun _ _ _ fun hinterrupted => ?_
    obtain ⟨state, hstate, -⟩ := hsource _ _ hprepared hinterrupted
    exact absurd hstate (by simp)

theorem onSuccess (h : Guarded c) (hnative : cfg.requireNativeKvRestore = true) {attempt : Attempt}
    (hphase : c.phase = .running attempt) (earlier expectedBlocks cachedTokens : ℕ) :
    Guarded (c.onSuccess cfg attempt earlier expectedBlocks cachedTokens) := by
  rcases Call.onSuccess_eq cfg c attempt earlier expectedBlocks cachedTokens with
    ⟨_, heq⟩ | ⟨outputTokens, -, hreceipt, heq⟩ <;> rw [heq]
  · exact finish c rfl
  · refine ⟨?_, ?_, ?_⟩
    · rintro (hnext | hnext) <;> exact absurd hnext (by simp [Call.finish])
    · exact fun attempt' hattempt' => absurd hattempt' (by simp [Call.finish])
    · intro attempt' outputTokens' receipt' hreturned hinterrupted
      obtain ⟨rfl, -, rfl⟩ := Outcome.success.inj (CallPhase.returned.inj hreturned)
      obtain ⟨state, hsource, hkind⟩ := h.sent attempt hphase hinterrupted
      rw [hnative, hsource] at hreceipt
      obtain ⟨r, hr, hrestored, hcached⟩ := of_receiptError hreceipt
      refine ⟨state, r, hsource, ?_, hr, hrestored, hcached⟩
      simp only [InferenceState.isNative, Bool.and_eq_true, decide_eq_true_eq] at hkind
      exact hkind.1

theorem step (h : Guarded c) (hnative : cfg.requireNativeKvRestore = true)
    (hstateful : cfg.isStateful = true) {a : CallAction} {c' : Call} (hleaves : LeavesTokens cfg c a)
    (hstep : c.step cfg a = some c') : Guarded c' := by
  cases Call.of_step hstep with
  | assign hphase => exact between (Or.inr rfl) (h.state (Or.inl hphase))
  | allocationFails message hphase =>
    unfold Call.afterException
    split_ifs
    · exact between (Or.inl rfl) (h.state (Or.inl hphase))
    · exact finish _ rfl
  | send target hphase => exact h.send hnative hstateful hphase target
  | generate token hphase hroom =>
    have hsent := h.sent _ hphase
    refine ⟨?_, ?_, ?_⟩
    · rintro (hnext | hnext) <;> exact absurd hnext (by simp)
    · intro attempt' hattempt'
      obtain rfl := CallPhase.running.inj hattempt'
      exact hsent
    · exact fun attempt outputTokens receipt hreturned => absurd hreturned (by simp)
  | snapshot timedOut reply _ _ => exact ⟨h.state, h.sent, h.restored⟩
  | succeed earlier expectedBlocks cachedTokens hphase => exact h.onSuccess hnative hphase _ _ _
  | preempted reply _ _ => exact onFailedResult hnative c _ _
  | reparallelized earlier shown reply _ _ => exact onFailedResult hnative c _ _
  | aborted earlier shown reply _ _ => exact onFailedResult hnative c _ _
  | errorResult kept reply _ _ => exact onFailedResult hnative c _ _
  | exception message reply _ =>
    -- no guard stands here, so that the state has to be there
    have hc' := Call.interrupted_onException cfg c reply
    unfold Call.afterException
    split_ifs with hretry
    · refine between (Or.inl rfl) fun _ => ?_
      rw [hc'.attempts] at hretry
      show (c.interrupt.onException cfg reply).recoveryState.isSome = true
      rw [Call.recoveryState_onException hstateful, captureInferenceState_isSome]
      exact hleaves hretry
    · exact finish _ rfl
  | valueError message _ => exact finish c rfl

end Guarded

/-- **A restore does not become a replay** in any call whose attempts, when they raise and are
repeated, leave a token on their instance. -/
theorem restoredNatively_of_leavesTokens {cfg : InferenceConfig} {c : Call}
    (hnative : cfg.requireNativeKvRestore = true)
    (hpolicy : cfg.recoveryPolicy = .statefulRecovery) (h : CallRuns cfg (LeavesTokens cfg) c) :
    c.RestoredNatively := by
  have hstateful : cfg.isStateful = true := by simp [InferenceConfig.isStateful, hpolicy]
  have hguarded : Guarded c := by
    refine Runs.Reachable.invariant Guarded ?_ ?_ h
    · rintro _ ⟨text, inputTokens, maxTokens, rfl⟩
      exact Guarded.start cfg text inputTokens maxTokens
    · intro c a c' hinv hleaves hstep
      exact hinv.step hnative hstateful hleaves hstep
  exact hguarded.restored

/-- A router that takes nothing but KV blocks. -/
def nativeVllm : InferenceConfig := { statefulVllm with requireNativeKvRestore := true }

/-- The first attempt raises after a token; the engine still has it, and its blocks are attached. -/
def raisedAndAttached : List CallAction :=
  [.assign, .send {}, .generate 20,
    .exception "actor died" (.answered
      { runtime := { tokens := [10, 11, 20], completedTokens := some 2 }, restorable := true }),
    .assign, .send { restoreSupported := true, result := { staged := true, expectedBlocks := 1 } },
    .generate 21, .succeed 0 1 2]

theorem restoredNatively_raisedAndAttached :
    ∃ c, Runs.attempt (Call.step nativeVllm) (LeavesTokens nativeVllm) raisedAndAttached
        (Call.start nativeVllm [10, 11] none (some 4)) = some c ∧
      c.outputTokens.isSome = true ∧ c.interrupted = 1 ∧ c.RestoredNatively := by
  have hrun : (Runs.attempt (Call.step nativeVllm) (LeavesTokens nativeVllm) raisedAndAttached
      (Call.start nativeVllm [10, 11] none (some 4))).map
        (fun c => (c.outputTokens.isSome, c.interrupted)) = some (true, 1) := by
    decide +kernel
  obtain ⟨c, hc, hpair⟩ := Option.map_eq_some_iff.mp hrun
  obtain ⟨hsuccess, hinterrupted⟩ := Prod.mk.inj hpair
  have hreachable : CallRuns nativeVllm (LeavesTokens nativeVllm) c :=
    .attempt (.start ⟨[10, 11], none, some 4, rfl⟩) hc
  exact ⟨c, hc, hsuccess, hinterrupted, restoredNatively_of_leavesTokens rfl rfl hreachable⟩

/-- The instance of the first attempt dies with all it has, and the second one succeeds. -/
def raisedAndRestarted : List CallAction :=
  [.assign, .send {}, .generate 20, .exception "actor died" (.raised []), .assign, .send {},
    .generate 20, .succeed 0 0 0]

/-- The second attempt started from what the client sent. -/
theorem not_restoredNatively_raisedAndRestarted :
    ¬ ∀ cfg c, cfg.requireNativeKvRestore = true → cfg.recoveryPolicy = .statefulRecovery →
      CallRuns cfg (fun _ _ => True) c → c.RestoredNatively := by
  intro h
  have hrun : (Runs.attempt (Call.step nativeVllm) (fun _ _ => True) raisedAndRestarted
      (Call.start nativeVllm [10, 11] none (some 4))).map (fun c => (c.phase, c.interrupted)) =
      some (.returned (.success
        { source := .prompt
          request := { inputTokens := none, maxTokens := some 4 }
          produced := [20] } [20] none), 1) := by
    decide +kernel
  obtain ⟨c, hc, hpair⟩ := Option.map_eq_some_iff.mp hrun
  obtain ⟨hphase, hinterrupted⟩ := Prod.mk.inj hpair
  have hreachable : CallRuns nativeVllm (fun _ _ => True) c :=
    .attempt (.start ⟨[10, 11], none, some 4, rfl⟩) hc
  obtain ⟨state, r, -, -, hreceipt, -⟩ :=
    h nativeVllm c rfl rfl hreachable _ _ _ hphase (by rw [hinterrupted]; exact Nat.one_pos)
  exact absurd hreceipt (by simp)

end Router
end SpotServe
