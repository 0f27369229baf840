import SpotServe.Router.InferenceLoop

/-!
# How often a request is tried

What decides whether `RoundRobinRouter.inference` (`sllm/routers/roundrobin_router.py`) tries once
more are two counters, `attempts` and `force_retry_budget`, and how the attempt ends
(`AttemptEnd`).  `RetryCounters.turn` is one turn of its `while True`, down to these: everything an
attempt does besides may only choose among the ends.

* `turn_some`: what holds when there is another turn.
* `turns_invariant`: the budget never exceeds the markers seen, and attempts beyond those of the
  policy are paid for by markers.
* `inference_attempts_le`: the bound on the attempts of a call.
* `attempts_le_of_run`: the calls of `InferenceLoop` take such turns, so the bound holds of them.
-/

namespace SpotServe
namespace Router

/-! ## One turn of the loop -/

/-- What is raised, by the clause that catches it. -/
inductive RaisedError where
  /-- `except ValueError`: the call returns. -/
  | valueError
  /-- `except Exception`: there may be another attempt. -/
  | exception
  /-- Neither clause catches it, or it is raised inside one. -/
  | uncaught
  deriving DecidableEq

/-- How an attempt ends.  A result may carry `_spotserve_reparallelization`. -/
inductive AttemptEnd where
  /-- A result that is neither preempted nor an error. -/
  | success (marker : Bool)
  /-- A result that is preempted or an error, looked at to the end. -/
  | failedResult (marker : Bool)
  /-- Something is raised, before there is a result or while it is looked at; `granted` is whether
  the branch for the marker has been run. -/
  | raised (marker granted : Bool) (error : RaisedError)
  deriving DecidableEq

/-- Whether the attempt had a result with the marker. -/
def AttemptEnd.carriesMarker : AttemptEnd → Bool
  | .success marker | .failedResult marker | .raised marker _ _ => marker

/-- Whether the attempt failed. -/
def AttemptEnd.failed : AttemptEnd → Bool
  | .success _ => false
  | .failedResult _ | .raised _ _ _ => true

/-- `attempts` and `force_retry_budget`. -/
structure RetryCounters where
  attempts : ℕ := 0
  forceRetryBudget : ℕ := 0
  deriving DecidableEq

namespace RetryCounters

/-- `force_retry_budget = max(force_retry_budget, 1)`, in the branch for the marker. -/
def grant (c : RetryCounters) (marker : Bool) : RetryCounters :=
  if marker then { c with forceRetryBudget := max c.forceRetryBudget 1 } else c

/-- One turn of the loop; `none` when the call is over. -/
def turn (cfg : RecoveryConfig) (c : RetryCounters) (result : AttemptEnd) :
    Option RetryCounters :=
  let c := { c with attempts := c.attempts + 1 }
  match result with
  | .success _ => none
  | .failedResult marker =>
    let c := c.grant marker
    let shouldRetry := cfg.shouldRetry (c.attempts - 1) || 0 < c.forceRetryBudget
    let c := { c with forceRetryBudget := c.forceRetryBudget - 1 }
    if shouldRetry then some c else none
  | .raised marker granted .exception =>
    let c := c.grant (marker && granted)
    if cfg.shouldRetry (c.attempts - 1) then some c else none
  | .raised _ _ .valueError | .raised _ _ .uncaught => none

@[simp] theorem grant_attempts (c : RetryCounters) (marker : Bool) :
    (c.grant marker).attempts = c.attempts := by
  unfold grant
  split_ifs <;> rfl

/-- The marker grants one more attempt at most. -/
theorem grant_budget_le (c : RetryCounters) (marker : Bool) :
    (c.grant marker).forceRetryBudget ≤ c.forceRetryBudget + marker.toNat := by
  cases marker with
  | false => exact le_rfl
  | true => exact max_le (Nat.le_succ _) (Nat.le_add_left 1 _)

/-- The turns of the attempts that a call makes, when the attempts end as listed. -/
def turns (cfg : RecoveryConfig) (c : RetryCounters) (ends : List AttemptEnd) :
    Option RetryCounters :=
  ends.foldlM (turn cfg) c

end RetryCounters

/-- The attempts of one call of `inference`, by their ends; `ends` goes on for as long as it might
be asked. -/
def attemptsMade (cfg : RecoveryConfig) (c : RetryCounters) : List AttemptEnd → List AttemptEnd
  | [] => []
  | result :: rest =>
    result :: match c.turn cfg result with
      | some c' => attemptsMade cfg c' rest
      | none => []

/-! ## What another turn tells -/

/-- The retries that the policy allows. -/
def RecoveryConfig.retryLimit (cfg : RecoveryConfig) : ℕ :=
  if cfg.recoveryPolicy = .none then 0 else cfg.maxRetries

theorem RecoveryConfig.shouldRetry_iff (cfg : RecoveryConfig) (attempt : ℕ) :
    cfg.shouldRetry attempt = true ↔ attempt < cfg.retryLimit := by
  unfold RecoveryConfig.shouldRetry RecoveryConfig.retryLimit
  by_cases hpolicy : cfg.recoveryPolicy = .none <;> simp [hpolicy]

theorem RecoveryConfig.retryLimit_le (cfg : RecoveryConfig) : cfg.retryLimit ≤ cfg.maxRetries := by
  unfold RecoveryConfig.retryLimit
  split_ifs
  · exact Nat.zero_le _
  · exact le_rfl

/-- **Another turn.**  The attempt failed; the budget has grown by the marker at most; and the
policy allows the retry, or the budget has paid for it. -/
theorem RetryCounters.turn_some {cfg : RecoveryConfig} {c c' : RetryCounters} {result : AttemptEnd}
    (h : c.turn cfg result = some c') :
    result.failed = true ∧ c'.attempts = c.attempts + 1 ∧
      c'.forceRetryBudget ≤ c.forceRetryBudget + result.carriesMarker.toNat ∧
      (c.attempts < cfg.retryLimit ∨
        c'.forceRetryBudget + 1 ≤ c.forceRetryBudget + result.carriesMarker.toNat) := by
  cases result with
  | success marker => exact absurd h (by simp [turn])
  | failedResult marker =>
    have hgrant := grant_budget_le { c with attempts := c.attempts + 1 } marker
    simp only [turn, grant_attempts, Nat.add_sub_cancel] at h
    split_ifs at h with hretry
    obtain rfl := Option.some.inj h
    dsimp only [AttemptEnd.carriesMarker] at hgrant ⊢
    refine ⟨rfl, rfl, by omega, ?_⟩
    rcases Bool.or_eq_true_iff.mp hretry with hpolicy | hbudget
    · exact Or.inl ((cfg.shouldRetry_iff _).mp hpolicy)
    · have hpos := of_decide_eq_true hbudget
      exact Or.inr (by omega)
  | raised marker granted error =>
    cases error with
    | valueError => exact absurd h (by simp [turn])
    | uncaught => exact absurd h (by simp [turn])
    | exception =>
      have hgrant := grant_budget_le { c with attempts := c.attempts + 1 } (marker && granted)
      have hmarker : (marker && granted).toNat ≤ marker.toNat := by
        cases marker <;> cases granted <;> decide
      simp only [turn, grant_attempts, Nat.add_sub_cancel] at h
      split_ifs at h with hretry
      obtain rfl := Option.some.inj h
      refine ⟨rfl, grant_attempts _ _, hgrant.trans (Nat.add_le_add_left hmarker _), ?_⟩
      exact Or.inl ((cfg.shouldRetry_iff _).mp hretry)

/-! ## The bound -/

/-- The attempts whose result carried the marker. -/
def markers (ends : List AttemptEnd) : ℕ := ends.countP (·.carriesMarker)

/-- What holds between two turns, after `seen` markers: what is left of the budget has been granted
by them, and so have been the attempts beyond the limit of the policy. -/
structure Paid (cfg : RecoveryConfig) (seen : ℕ) (c : RetryCounters) : Prop where
  budget : c.forceRetryBudget ≤ seen
  attempts : c.attempts ≤ cfg.retryLimit ∨
    c.attempts + c.forceRetryBudget ≤ cfg.retryLimit + seen

theorem Paid.attempts_le {cfg : RecoveryConfig} {seen : ℕ} {c : RetryCounters}
    (h : Paid cfg seen c) : c.attempts ≤ cfg.retryLimit + seen := by
  rcases h.attempts with hpolicy | hpaid <;> omega

/-- A turn keeps it. -/
theorem Paid.turn {cfg : RecoveryConfig} {seen : ℕ} {c c' : RetryCounters} {result : AttemptEnd}
    (h : Paid cfg seen c) (hturn : c.turn cfg result = some c') :
    Paid cfg (seen + result.carriesMarker.toNat) c' := by
  obtain ⟨-, hattempts, hbudget, hreason⟩ := RetryCounters.turn_some hturn
  have hgranted := h.budget
  refine ⟨by omega, ?_⟩
  rcases hreason with hpolicy | hpaid
  · exact Or.inl (by omega)
  · rcases h.attempts with hbefore | hbefore
    · rcases hbefore.lt_or_eq with hlt | heq
      · exact Or.inl (by omega)
      · exact Or.inr (by omega)
    · exact Or.inr (by omega)

theorem markers_cons (result : AttemptEnd) (rest : List AttemptEnd) :
    markers (result :: rest) = result.carriesMarker.toNat + markers rest := by
  unfold markers
  cases hmarker : result.carriesMarker with
  | true => rw [List.countP_cons_of_pos hmarker, Bool.toNat_true, Nat.add_comm]
  | false =>
    rw [List.countP_cons_of_neg (by rw [hmarker]; simp), Bool.toNat_false, Nat.zero_add]

/-- Several turns keep it. -/
theorem turns_invariant {cfg : RecoveryConfig} {seen : ℕ} {c c' : RetryCounters}
    {ends : List AttemptEnd} (h : Paid cfg seen c)
    (hturns : RetryCounters.turns cfg c ends = some c') : Paid cfg (seen + markers ends) c' := by
  unfold RetryCounters.turns at hturns
  induction ends generalizing seen c with
  | nil =>
    obtain rfl := Option.some.inj hturns
    exact h
  | cons result rest ih =>
    rw [List.foldlM_cons] at hturns
    obtain ⟨mid, hturn, hrest⟩ := Option.bind_eq_some_iff.mp hturns
    rw [markers_cons, ← Nat.add_assoc]
    exact ih (h.turn hturn) hrest

/-- The attempts made from a state between two turns on. -/
theorem length_attemptsMade_le {cfg : RecoveryConfig} {seen : ℕ} {c : RetryCounters}
    (h : Paid cfg seen c) (ends : List AttemptEnd) :
    c.attempts + (attemptsMade cfg c ends).length ≤
      1 + cfg.retryLimit + seen + markers (attemptsMade cfg c ends) := by
  induction ends generalizing seen c with
  | nil =>
    have hle := h.attempts_le
    simp only [attemptsMade, List.length_nil]
    omega
  | cons result rest ih =>
    have hle := h.attempts_le
    rw [attemptsMade, List.length_cons, markers_cons]
    cases hturn : c.turn cfg result with
    | none =>
      simp only [List.length_nil]
      omega
    | some c' =>
      have hmade := ih (h.turn hturn)
      obtain ⟨-, hattempts, -⟩ := RetryCounters.turn_some hturn
      dsimp only
      omega

/-- Only a failed attempt is followed by another. -/
theorem failed_of_mem_dropLast {cfg : RecoveryConfig} {c : RetryCounters} (ends : List AttemptEnd) :
    ∀ result ∈ (attemptsMade cfg c ends).dropLast, result.failed = true := by
  induction ends generalizing c with
  | nil => exact fun result hresult => absurd hresult List.not_mem_nil
  | cons first rest ih =>
    intro result hresult
    rw [attemptsMade] at hresult
    cases hturn : c.turn cfg first with
    | none =>
      rw [hturn] at hresult
      exact absurd hresult List.not_mem_nil
    | some c' =>
      rw [hturn] at hresult
      dsimp only at hresult
      cases hmade : attemptsMade cfg c' rest with
      | nil =>
        rw [hmade] at hresult
        exact absurd hresult List.not_mem_nil
      | cons second others =>
        rw [hmade, List.dropLast_cons_cons, ← hmade] at hresult
        rcases List.mem_cons.mp hresult with rfl | hresult
        · exact (RetryCounters.turn_some hturn).1
        · exact ih result hresult

/-- **Retries are bounded.**  A call makes at most one attempt, the retries of its policy, and one
more for every attempt whose result carried the marker of a re-parallelization; and every attempt
but the last has failed. -/
theorem inference_attempts_le (cfg : RecoveryConfig) (ends : List AttemptEnd) :
    (attemptsMade cfg {} ends).length ≤
        1 + cfg.maxRetries + markers (attemptsMade cfg {} ends) ∧
      (cfg.recoveryPolicy = .none →
        (attemptsMade cfg {} ends).length ≤ 1 + markers (attemptsMade cfg {} ends)) ∧
      ∀ result ∈ (attemptsMade cfg {} ends).dropLast, result.failed = true := by
  have hstart : Paid cfg 0 {} := ⟨le_rfl, Or.inl (Nat.zero_le _)⟩
  have hlength := length_attemptsMade_le hstart ends
  have hlimit := cfg.retryLimit_le
  dsimp only at hlength
  refine ⟨by omega, fun hpolicy => ?_, failed_of_mem_dropLast ends⟩
  have hnone : cfg.retryLimit = 0 := if_pos hpolicy
  omega

example : (attemptsMade { recoveryPolicy := .naiveRetry, maxRetries := 1 } {}
    [.failedResult false, .failedResult true, .raised false false .exception, .success false]) =
      [.failedResult false, .failedResult true, .raised false false .exception] := by decide

/-! ## The calls take such turns -/

namespace Call

/-- The turns that are over, and the budget. -/
def counters (c : Call) : RetryCounters where
  attempts := if c.phase = .waiting then c.attempts else c.attempts - 1
  forceRetryBudget := c.forceRetryBudget

theorem counters_of_waiting {c : Call} (h : c.phase = .waiting) :
    c.counters = ⟨c.attempts, c.forceRetryBudget⟩ := by
  rw [counters, if_pos h]

theorem counters_of_attempt {c : Call} (h : c.phase ≠ .waiting) :
    c.counters = ⟨c.attempts - 1, c.forceRetryBudget⟩ := by
  rw [counters, if_neg h]

theorem counters_again (cfg : InferenceConfig) (c : Call) :
    (c.again cfg).counters = ⟨c.attempts, c.forceRetryBudget⟩ := rfl

@[simp] theorem finish_isReturned (c : Call) (outcome : Outcome) :
    (c.finish outcome).phase.isReturned = true := rfl

@[simp] theorem finish_attempts (c : Call) (outcome : Outcome) :
    (c.finish outcome).attempts = c.attempts := rfl

/-- What a step does to the counters: the call returns within its attempt, nothing changes for them,
or a turn is over. -/
inductive Counted (cfg : InferenceConfig) (c c' : Call) (marker : Bool) : Prop
  | returned : c'.phase.isReturned = true → c'.attempts ≤ c.counters.attempts + 1 →
      Counted cfg c c' marker
  | same : c'.phase.isReturned = false → c'.counters = c.counters →
      (c'.phase ≠ .waiting → 0 < c'.attempts) → Counted cfg c c' marker
  | turn (result : AttemptEnd) : result.carriesMarker = marker → c'.phase = .waiting →
      c.counters.turn cfg.toRecoveryConfig result = some c'.counters → Counted cfg c c' marker

/-- The end of a turn with a failed result, after the branch for it. -/
theorem counted_onFailedResult {cfg : InferenceConfig} {c : Call} {attempt : Attempt}
    {branch : Call → Call} {marker : Bool} (hphase : c.phase = .running attempt)
    (hpos : 0 < c.attempts) (hbranch : (branch c.interrupt).attempts = c.attempts)
    (hbudget : (branch c.interrupt).forceRetryBudget =
      (RetryCounters.grant ⟨c.attempts, c.forceRetryBudget⟩ marker).forceRetryBudget) :
    Counted cfg c (c.onFailedResult cfg attempt branch) marker := by
  have hcounters : c.counters = ⟨c.attempts - 1, c.forceRetryBudget⟩ :=
    counters_of_attempt (by rw [hphase]; simp)
  unfold onFailedResult
  split
  · exact .returned rfl (by rw [finish_attempts, hcounters]; dsimp only; omega)
  · unfold afterResult
    dsimp only
    split_ifs with hnative hretry
    · exact .returned rfl (by rw [finish_attempts, hbranch, hcounters]; dsimp only; omega)
    · refine .turn (.failedResult marker) rfl rfl ?_
      rw [counters_again, hcounters]
      rw [hbranch, hbudget] at hretry
      have hattempts : c.attempts - 1 + 1 = c.attempts := Nat.sub_add_cancel hpos
      simp only [RetryCounters.turn, RetryCounters.grant_attempts, hattempts]
      rw [if_pos hretry, hbranch, hbudget]
    · exact .returned rfl (by
        rw [finish_attempts, hcounters]
        show (branch c.interrupt).attempts ≤ _
        rw [hbranch]
        dsimp only
        omega)

/-- The end of a turn that raised; `failed` is the call after the branch for it. -/
theorem counted_afterException {cfg : InferenceConfig} {c failed : Call} (message : String)
    (hattempts : failed.attempts = c.counters.attempts + 1)
    (hbudget : failed.forceRetryBudget = c.forceRetryBudget) :
    Counted cfg c (failed.afterException cfg message) false := by
  unfold afterException
  split_ifs with hretry
  · refine .turn (.raised false false .exception) rfl rfl ?_
    rw [hattempts] at hretry
    simp only [RetryCounters.turn, RetryCounters.grant, Bool.and_self, Bool.false_eq_true, if_false]
    rw [if_pos hretry, counters_again, hattempts, hbudget]
    rfl
  · exact .returned rfl (by rw [finish_attempts, hattempts])

end Call

/-- Whether the backend returns the marker of a re-parallelization. -/
def CallAction.isMarker : CallAction → Bool
  | .aborted reparallelization _ _ _ => reparallelization
  | _ => false

namespace Call

theorem counted_finish {cfg : InferenceConfig} {c : Call} {marker : Bool} (outcome : Outcome)
    (hle : c.attempts ≤ c.counters.attempts + 1) : Counted cfg c (c.finish outcome) marker :=
  .returned rfl hle

theorem attempts_le_counters (c : Call) : c.attempts ≤ c.counters.attempts + 1 := by
  unfold counters
  dsimp only
  split_ifs <;> omega

/-- A request goes out without an end of the attempt, or the call returns. -/
theorem counted_send {cfg : InferenceConfig} {c : Call} (target : TargetReply)
    (hphase : c.phase = .assigned) (hpos : 0 < c.attempts) :
    Counted cfg c (c.send cfg target) false := by
  have hcounters : c.counters = ⟨c.attempts - 1, c.forceRetryBudget⟩ :=
    counters_of_attempt (by rw [hphase]; simp)
  have hrun : ∀ (sent : Call) (source : TokenSource) (request : BackendRequest),
      sent.attempts = c.attempts → sent.forceRetryBudget = c.forceRetryBudget →
        Counted cfg c (sent.run source request) false := by
    intro sent source request hattempts hbudget
    refine .same rfl ?_ (fun _ => by rw [run, hattempts]; exact hpos)
    rw [counters_of_attempt (by simp [run]), hcounters]
    rw [run, hattempts, hbudget]
  unfold send
  split
  · exact counted_finish _ c.attempts_le_counters
  · split
    · exact counted_finish _ c.attempts_le_counters
    · exact hrun _ _ _ rfl rfl
  · exact hrun _ _ _ rfl rfl
  · exact hrun _ _ _ rfl rfl

/-- **One step of a call, by its counters.** -/
theorem counted_step {cfg : InferenceConfig} {c c' : Call} {a : CallAction}
    (hpos : c.phase.isReturned = false → c.phase ≠ .waiting → 0 < c.attempts)
    (h : c.step cfg a = some c') (hopen : c.phase.isReturned = false) :
    Counted cfg c c' a.isMarker := by
  cases of_step h with
  | assign hphase =>
    refine .same rfl ?_ (fun _ => Nat.succ_pos _)
    rw [counters_of_waiting hphase]
    rfl
  | allocationFails message hphase =>
    refine counted_afterException message ?_ rfl
    rw [counters_of_waiting hphase]
  | send target hphase =>
    exact counted_send target hphase (hpos hopen (by rw [hphase]; simp))
  | generate token hphase hroom =>
    have hattempt : c.phase ≠ .waiting := by rw [hphase]; simp
    refine .same rfl ?_ (fun _ => hpos hopen hattempt)
    rw [counters_of_attempt hattempt]
    rfl
  | snapshot timedOut reply hattempts hphase =>
    exact .same hphase rfl (fun hattempt => hpos hopen hattempt)
  | succeed earlier expectedBlocks cachedTokens hphase =>
    rcases c.onSuccess_eq cfg _ earlier expectedBlocks cachedTokens with
      ⟨message, hfinish⟩ | hsuccess
    · rw [hfinish]
      exact counted_finish _ c.attempts_le_counters
    · obtain ⟨outputTokens, -, -, hfinish⟩ := hsuccess
      rw [hfinish]
      exact counted_finish _ c.attempts_le_counters
  | preempted reply hphase hresult =>
    refine counted_onFailedResult hphase (hpos hopen (by rw [hphase]; simp)) ?_ ?_
    · exact (interrupted_onPreempted cfg c _ reply).attempts
    · unfold onPreempted
      split_ifs <;> rfl
  | reparallelized earlier shown reply hphase hbackend =>
    refine counted_onFailedResult hphase (hpos hopen (by rw [hphase]; simp)) ?_ ?_
    · exact (interrupted_onReparallelized cfg c).attempts
    · unfold onReparallelized
      split <;> rfl
  | aborted earlier shown reply hphase hbackend =>
    refine counted_onFailedResult hphase (hpos hopen (by rw [hphase]; simp)) ?_ ?_
    · exact (interrupted_onPreempted cfg c _ reply).attempts
    · unfold onPreempted
      split_ifs <;> rfl
  | errorResult kept reply hphase hproduced =>
    refine counted_onFailedResult hphase (hpos hopen (by rw [hphase]; simp)) ?_ ?_
    · exact (interrupted_onErrorResult cfg c kept reply).attempts
    · rfl
  | exception message reply hphase =>
    have hattempt : c.phase ≠ .waiting := by
      rcases hphase with hphase | ⟨attempt, hphase⟩ <;> (rw [hphase]; simp)
    refine counted_afterException message ?_ ?_
    · rw [(interrupted_onException cfg c reply).attempts, counters_of_attempt hattempt]
      exact (Nat.sub_add_cancel (hpos hopen hattempt)).symm
    · unfold onException
      split_ifs <;> rfl
  | valueError message hphase =>
    exact counted_finish _ c.attempts_le_counters

/-- What holds of a call after a number of markers. -/
structure Bounded (cfg : InferenceConfig) (seen : ℕ) (c : Call) : Prop where
  attempts : c.attempts ≤ 1 + cfg.retryLimit + seen
  started : c.phase.isReturned = false → c.phase ≠ .waiting → 0 < c.attempts
  paid : c.phase.isReturned = false → Paid cfg.toRecoveryConfig seen c.counters

/-- A step keeps it. -/
theorem Bounded.step {cfg : InferenceConfig} {seen : ℕ} {c c' : Call} {a : CallAction}
    (h : Bounded cfg seen c) (hopen : c.phase.isReturned = false) (hstep : c.step cfg a = some c') :
    Bounded cfg (seen + a.isMarker.toNat) c' := by
  have hpaid := h.paid hopen
  have hle := hpaid.attempts_le
  cases counted_step h.started hstep hopen with
  | returned hreturned hattempts =>
    refine ⟨by omega, fun hnot => ?_, fun hnot => ?_⟩
    · exact absurd (hnot.symm.trans hreturned) (by simp)
    · exact absurd (hnot.symm.trans hreturned) (by simp)
  | same hopen' hcounters hstarted =>
    have hattempts := c'.attempts_le_counters
    rw [hcounters] at hattempts
    refine ⟨by omega, fun _ => hstarted, fun _ => ?_⟩
    rw [hcounters]
    refine ⟨hpaid.budget.trans (Nat.le_add_right _ _), ?_⟩
    rcases hpaid.attempts with hpolicy | hgranted
    · exact Or.inl hpolicy
    · exact Or.inr (by omega)
  | turn result hmarker hwaiting hturn =>
    have hpaid' := hpaid.turn hturn
    rw [hmarker] at hpaid'
    have hattempts := hpaid'.attempts_le
    have hcounters := counters_of_waiting hwaiting
    rw [hcounters] at hattempts
    dsimp only at hattempts
    exact ⟨by omega, fun _ hattempt => absurd hwaiting hattempt, fun _ => hpaid'⟩

/-- A call that has returned takes no step. -/
theorem step_returned {cfg : InferenceConfig} {c : Call} (h : c.phase.isReturned = true)
    (a : CallAction) : c.step cfg a = none := by
  have hnot : ∀ {phase : CallPhase}, phase.isReturned = false → c.phase ≠ phase := by
    intro phase hopen heq
    rw [heq, hopen] at h
    exact absurd h (by simp)
  cases hstep : c.step cfg a with
  | none => rfl
  | some c' =>
    exfalso
    cases of_step hstep with
    | assign hphase => exact hnot rfl hphase
    | allocationFails message hphase => exact hnot rfl hphase
    | send target hphase => exact hnot rfl hphase
    | generate token hphase hroom => exact hnot rfl hphase
    | snapshot timedOut reply hattempts hphase => exact absurd (hphase.symm.trans h) (by simp)
    | succeed earlier expectedBlocks cachedTokens hphase => exact hnot rfl hphase
    | preempted reply hphase hresult => exact hnot rfl hphase
    | reparallelized earlier shown reply hphase hbackend => exact hnot rfl hphase
    | aborted earlier shown reply hphase hbackend => exact hnot rfl hphase
    | errorResult kept reply hphase hproduced => exact hnot rfl hphase
    | exception message reply hphase =>
      rcases hphase with hphase | ⟨attempt, hphase⟩
      · exact hnot rfl hphase
      · exact hnot rfl hphase
    | valueError message hphase => exact absurd (hphase.symm.trans h) (by simp)

end Call

/-- **The calls keep to the bound**: after any steps, the attempts of a call are at most one, the
retries of its policy, and one for every marker that a backend returned. -/
theorem attempts_le_of_run {cfg : InferenceConfig} {text : List ℤ} {inputTokens : Option (List ℤ)}
    {maxTokens : Option ℕ} {actions : List CallAction} {c : Call}
    (h : actions.foldlM (Call.step cfg) (Call.start cfg text inputTokens maxTokens) = some c) :
    c.attempts ≤ 1 + cfg.retryLimit + actions.countP CallAction.isMarker := by
  suffices hrun : ∀ (actions : List CallAction) (seen : ℕ) (c₀ : Call), c₀.Bounded cfg seen →
      actions.foldlM (Call.step cfg) c₀ = some c →
        c.attempts ≤ 1 + cfg.retryLimit + seen + actions.countP CallAction.isMarker by
    have hstart : (Call.start cfg text inputTokens maxTokens).Bounded cfg 0 :=
      ⟨Nat.zero_le _, fun _ hattempt => absurd rfl hattempt,
        fun _ => ⟨le_rfl, Or.inl (Nat.zero_le _)⟩⟩
    exact hrun actions 0 _ hstart h
  intro actions
  induction actions with
  | nil =>
    intro seen c₀ hbounded hrun
    obtain rfl := Option.some.inj hrun
    exact hbounded.attempts.trans (Nat.le_add_right _ _)
  | cons a rest ih =>
    intro seen c₀ hbounded hrun
    rw [List.foldlM_cons] at hrun
    obtain ⟨mid, hstep, hrest⟩ := Option.bind_eq_some_iff.mp hrun
    cases hphase : c₀.phase.isReturned with
    | true => exact absurd ((Call.step_returned hphase a).symm.trans hstep) (by simp)
    | false =>
      have hmade := ih _ mid (hbounded.step hphase hstep) hrest
      cases hmarker : a.isMarker with
      | true =>
        rw [List.countP_cons_of_pos hmarker]
        rw [hmarker, Bool.toNat_true] at hmade
        omega
      | false =>
        rw [List.countP_cons_of_neg (by rw [hmarker]; simp)]
        rw [hmarker, Bool.toNat_false] at hmade
        omega

end Router
end SpotServe
