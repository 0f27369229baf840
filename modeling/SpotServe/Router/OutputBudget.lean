import SpotServe.Router.InferenceLoop

/-!
# The output budget of an interrupted request

A client asks for at most `max_tokens` tokens.  An attempt that continues from the tokens of
earlier ones has to be sent with what is left of that, and what is left depends on a number that
somebody reports at the interruption.  `Call.WithinBudget` says that the number sent is the right
one and that the client's limit is kept; `Counted` is the condition on a step under which it is:
what is reported at an interruption counts every token generated so far, and no token of the prompt.

What else a report may be asked for is left open (`Report`): `Tallied` is the same condition for
reports that have the request's own sequence as well.
-/

namespace SpotServe
namespace Router

open Runs

namespace Call

/-- The budget is kept: all the attempts of the response together generate at most `max_tokens`
tokens, and one that continues from tokens was sent with what they leave of it. -/
def WithinBudget (c : Call) : Prop :=
  ∀ maxTokens, c.data.maxTokens = some maxTokens →
    c.soFar.length ≤ maxTokens ∧
    ∀ attempt, c.phase = .running attempt → attempt.source ≠ .prompt →
      attempt.request.maxTokens = some (max 1 (maxTokens - c.generated.length))

/-- The count of a report is right: it is the number of the generated tokens, and there is something
left to generate. -/
def Counts (c : Call) (count : ℕ) : Prop :=
  count = c.soFar.length ∧ ∀ maxTokens ∈ c.data.maxTokens, count < maxTokens

instance (c : Call) (count : ℕ) : Decidable (c.Counts count) :=
  inferInstanceAs (Decidable (_ ∧ _))

/-- So are the tokens: they are those of the request, with all that was generated for it. -/
def Tallies (c : Call) (tokens : List ℤ) (count : ℕ) : Prop :=
  tokens = c.prompt ++ c.soFar ∧ c.Counts count

instance (c : Call) (tokens : List ℤ) (count : ℕ) : Decidable (c.Tallies tokens count) :=
  inferInstanceAs (Decidable (_ ∧ _))

/-- A report that counts the whole of its sequence, as the dummy backend, the marker of an abort, a
vLLM state without a count of its own and the router's fallback do, is right only if the client sent
no tokens. -/
theorem counts_length_iff (c : Call) :
    c.Counts (c.prompt ++ c.soFar).length ↔
      c.prompt = [] ∧ ∀ maxTokens ∈ c.data.maxTokens, c.soFar.length < maxTokens := by
  constructor
  · rintro ⟨hcount, hleft⟩
    rw [List.length_append] at hcount hleft
    have hprompt : c.prompt = [] := List.length_eq_zero_iff.mp (by omega)
    refine ⟨hprompt, ?_⟩
    simpa [hprompt] using hleft
  · rintro ⟨hprompt, hleft⟩
    refine ⟨?_, ?_⟩
    · simp [hprompt]
    · simpa [hprompt] using hleft

end Call

/-- What is asked of a report, its tokens and its count: the count at least is right. -/
structure Report where
  holds : Call → List ℤ → ℕ → Prop
  decidable : ∀ c tokens count, Decidable (holds c tokens count)
  counts : ∀ {c tokens count}, holds c tokens count → c.Counts count
  congr : ∀ {c c' : Call} {tokens count}, holds c tokens count → c'.prompt = c.prompt →
    c'.soFar = c.soFar → c'.data.maxTokens = c.data.maxTokens → holds c' tokens count

instance (report : Report) (c : Call) (tokens : List ℤ) (count : ℕ) :
    Decidable (report.holds c tokens count) :=
  report.decidable c tokens count

/-- Nothing but the count. -/
def Report.counted : Report where
  holds c _ count := c.Counts count
  decidable _ _ _ := inferInstance
  counts h := h
  congr h _ hsoFar hmax := by
    unfold Call.Counts at h ⊢
    rwa [hsoFar, hmax]

/-- The tokens as well. -/
def Report.tallied : Report where
  holds c tokens count := c.Tallies tokens count
  decidable _ _ _ := inferInstance
  counts h := h.2
  congr h hprompt hsoFar hmax := by
    unfold Call.Tallies Call.Counts at h ⊢
    rwa [hprompt, hsoFar, hmax]

namespace Call

/-- What the next attempt goes by is right: the state if there is one, else the tokens to replay,
which go with the count that is recorded on the request. -/
def Hands (report : Report) (c : Call) (state : Option InferenceState) (replay : List (List ℤ))
    (count : Option ℕ) : Prop :=
  match state with
  | some state => report.holds c state.tokens state.completedTokens
  | none => ∀ first ∈ replay.head?, report.holds c first (count.getD 0)

instance (report : Report) (c : Call) (state : Option InferenceState) (replay : List (List ℤ))
    (count : Option ℕ) : Decidable (c.Hands report state replay count) :=
  match state with
  | some state => inferInstanceAs (Decidable (report.holds c state.tokens state.completedTokens))
  | none =>
    inferInstanceAs (Decidable (∀ first ∈ replay.head?, report.holds c first (count.getD 0)))

theorem Hands.congr {report : Report} {c c' : Call} {state : Option InferenceState}
    {replay : List (List ℤ)} {count : Option ℕ} (h : c.Hands report state replay count)
    (hprompt : c'.prompt = c.prompt) (hsoFar : c'.soFar = c.soFar)
    (hmax : c'.data.maxTokens = c.data.maxTokens) : c'.Hands report state replay count := by
  cases state with
  | some state => exact report.congr h hprompt hsoFar hmax
  | none => exact fun first hfirst => report.congr (h first hfirst) hprompt hsoFar hmax

end Call

/-- What is reported with a preempted result is right; a count of zero is not recorded. -/
def ResultHands (report : Report) (cfg : InferenceConfig) (c : Call) (result : PreemptedResult)
    (reply : InstanceReply) : Prop :=
  c.Hands report
    (if cfg.isStateful then
      captureInferenceState cfg.backend reply (some result.currentOutput)
        (some result.completedTokens) result.inferenceState
    else none)
    result.currentOutput
    (if result.completedTokens = 0 then c.data.completedTokens else some result.completedTokens)

instance (report : Report) (cfg : InferenceConfig) (c : Call) (result : PreemptedResult)
    (reply : InstanceReply) : Decidable (ResultHands report cfg c result reply) := by
  unfold ResultHands
  infer_instance

/-- A preemption that the vLLM backend reports, with all the tokens it has seen, is right whenever
the attempt started from the client's text and has generated something. -/
theorem resultHands_vllm {cfg : InferenceConfig} {c : Call} {attempt : Attempt}
    (hphase : c.phase = .running attempt) (hgenerated : c.generated = [])
    (hinput : c.data.inputTokens = none) (hproduced : attempt.produced ≠ [])
    (hleft : ∀ maxTokens ∈ c.data.maxTokens, attempt.produced.length < maxTokens)
    (view : BackendView) (reply : InstanceReply) :
    ResultHands .tallied cfg c (vllmPreemptedResult view false c.text attempt.produced)
      reply := by
  have hsoFar : c.soFar = attempt.produced := by simp [Call.soFar, Call.produced, hphase, hgenerated]
  have htallies : c.Tallies (c.text ++ attempt.produced) attempt.produced.length := by
    refine ⟨?_, ?_, hleft⟩
    · rw [hsoFar, Call.prompt, hinput, Option.getD_none]
    · rw [hsoFar]
  have hlength : attempt.produced.length ≠ 0 := by simpa using hproduced
  cases hstateful : cfg.isStateful with
  | true =>
    simpa [ResultHands, hstateful, vllmPreemptedResult, captureInferenceState, stateOrNone,
      Backend.exportInferenceState, getVllmInferenceState, hproduced, Call.Hands,
      Report.tallied] using htallies
  | false =>
    simpa [ResultHands, hstateful, vllmPreemptedResult, hlength, Call.Hands, Report.tallied]
      using htallies

/-- Whether the tokens of a state are replayed because it is not restored. -/
def InferenceConfig.fallsBack (cfg : InferenceConfig) (state : InferenceState)
    (target : TargetReply) : Bool :=
  match prepareStatefulRecovery cfg.requireNativeKvRestore state target with
  | .ok (none, _) => true
  | _ => false

/-- The condition on a step.  It is about policies that keep tokens.  An exception or an error
result reports no count, so that a replay after it goes by the count of an earlier interruption;
and a state that is not restored is replayed with that count and not with its own. -/
def Reported (report : Report) (cfg : InferenceConfig) (c : Call) (a : CallAction) : Prop :=
  cfg.keepsTokens →
  match a, c.phase with
  | .send target, _ => cfg.isStateful → ∀ state ∈ c.recoveryState, cfg.fallsBack state target →
      state.completedTokens = c.data.completedTokens.getD 0
  | .preempted noCurrentTokens earlier shown view reply, .running attempt =>
    ∀ result ∈ c.preemptedResult cfg attempt noCurrentTokens earlier shown view,
      ResultHands report cfg c result reply
  | .aborted true _ _ _, _ =>
    ∀ state ∈ c.migrationState, report.holds c state.tokens state.completedTokens
  | .aborted false earlier shown reply, .running attempt =>
    ResultHands report cfg c (c.abortResult cfg attempt earlier shown) reply
  | .errorResult kept reply, _ =>
    c.Hands report
      (if cfg.isStateful then captureInferenceState cfg.backend reply kept none none else none)
      (kept.getD []) c.data.completedTokens
  | .exception _ reply, _ =>
    c.Hands report
      (if cfg.isStateful then captureInferenceState cfg.backend reply none none none else none)
      (if cfg.isStateful then [] else reply.currentTokens) c.data.completedTokens
  | _, _ => True

instance (report : Report) (cfg : InferenceConfig) (c : Call) (a : CallAction) :
    Decidable (Reported report cfg c a) := by
  unfold Reported
  generalize c.phase = phase
  induction a using CallAction.casesOn
  case aborted reparallelization _ _ _ =>
    induction reparallelization using Bool.casesOn <;>
      induction phase using CallPhase.casesOn <;> infer_instance
  all_goals induction phase using CallPhase.casesOn <;> infer_instance

/-- The reports count what was generated. -/
def Counted (cfg : InferenceConfig) (c : Call) (a : CallAction) : Prop :=
  Reported .counted cfg c a

instance (cfg : InferenceConfig) (c : Call) (a : CallAction) : Decidable (Counted cfg c a) :=
  inferInstanceAs (Decidable (Reported _ _ _ _))

/-- The reports have what was generated, and count it. -/
def Tallied (cfg : InferenceConfig) (c : Call) (a : CallAction) : Prop :=
  Reported .tallied cfg c a

instance (cfg : InferenceConfig) (c : Call) (a : CallAction) : Decidable (Tallied cfg c a) :=
  inferInstanceAs (Decidable (Reported _ _ _ _))

/-! ## The invariant -/

/-- The request of a running attempt leaves what it should. -/
def Call.Sent (c : Call) (attempt : Attempt) : Prop :=
  ∀ maxTokens ∈ c.data.maxTokens,
    (attempt.source = .prompt → c.generated = [] ∧ attempt.request.maxTokens = some maxTokens) ∧
    (attempt.source ≠ .prompt → c.generated.length < maxTokens ∧
      attempt.request.maxTokens = some (max 1 (maxTokens - c.generated.length)))

/-- The call as it is after every step that is `Reported`. -/
structure Budgeted (report : Report) (cfg : InferenceConfig) (c : Call) : Prop where
  force : c.forceStateRecovery = true → cfg.isStateful = true
  bound : ∀ maxTokens ∈ c.data.maxTokens, c.soFar.length ≤ maxTokens
  hands : c.phase = .waiting ∨ c.phase = .assigned →
    c.Hands report (if cfg.isStateful then c.recoveryState else none) c.replayTokens
      c.data.completedTokens
  sent : ∀ attempt, c.phase = .running attempt → c.Sent attempt

theorem Budgeted.withinBudget {report : Report} {cfg : InferenceConfig} {c : Call}
    (h : Budgeted report cfg c) :
    c.WithinBudget := by
  intro maxTokens hmax
  refine ⟨h.bound maxTokens hmax, ?_⟩
  intro attempt hattempt hsource
  exact ((h.sent attempt hattempt maxTokens hmax).2 hsource).2

/-- A failed attempt has been dealt with, and whether there is another one is not decided. -/
structure Carried (report : Report) (cfg : InferenceConfig) (c : Call) : Prop where
  waiting : c.phase = .waiting
  force : c.forceStateRecovery = true → cfg.isStateful = true
  bound : ∀ maxTokens ∈ c.data.maxTokens, c.generated.length ≤ maxTokens
  hands : cfg.keepsTokens = true →
    c.Hands report (if cfg.isStateful then c.recoveryState else none) c.replayTokens
      c.data.completedTokens

variable {report : Report} {cfg : InferenceConfig} {c : Call}

theorem InferenceConfig.keepsTokens_of_isStateful (h : cfg.isStateful = true) :
    cfg.keepsTokens = true := by
  simp only [InferenceConfig.isStateful, decide_eq_true_eq] at h
  simp [InferenceConfig.keepsTokens, h]

theorem Budgeted.finish (h : Budgeted report cfg c) (outcome : Outcome) :
    Budgeted report cfg (c.finish outcome) where
  force := h.force
  bound := by
    intro maxTokens hmax
    have := h.bound maxTokens hmax
    simp only [Call.soFar, List.length_append] at this
    simp only [Call.soFar, Call.finish, Call.produced, List.append_nil]
    omega
  hands := by
    rintro (hphase | hphase) <;> exact absurd hphase (by simp [Call.finish])
  sent := fun attempt hphase => absurd hphase (by simp [Call.finish])

namespace Carried

theorem soFar_eq (h : Carried report cfg c) : c.soFar = c.generated := by
  simp [Call.soFar, Call.produced, h.waiting]

theorem budgeted (h : Carried report cfg c) (hkeeps : cfg.keepsTokens = true) :
    Budgeted report cfg c where
  force := h.force
  bound := by rw [h.soFar_eq]; exact h.bound
  hands := fun _ => h.hands hkeeps
  sent := fun attempt hphase => absurd hphase (by rw [h.waiting]; simp)

theorem finish (h : Carried report cfg c) (outcome : Outcome) :
    Budgeted report cfg (c.finish outcome) where
  force := h.force
  bound := by
    simpa only [Call.soFar, Call.finish, Call.produced, List.append_nil] using h.bound
  hands := by
    rintro (hphase | hphase) <;> exact absurd hphase (by simp [Call.finish])
  sent := fun attempt hphase => absurd hphase (by simp [Call.finish])

theorem again (h : Carried report cfg c) : Budgeted report cfg (c.again cfg) := by
  cases hkeeps : cfg.keepsTokens with
  | true =>
    have hc : c.again cfg = c := by
      cases c
      obtain rfl := h.waiting
      simp [Call.again, hkeeps]
    rw [hc]
    exact h.budgeted hkeeps
  | false =>
    have hstateful : cfg.isStateful = false := by
      by_contra hne
      have := InferenceConfig.keepsTokens_of_isStateful (Bool.eq_true_of_not_eq_false hne)
      rw [hkeeps] at this
      exact absurd this (by simp)
    constructor
    · exact h.force
    · simpa only [Call.soFar, Call.again, Call.produced, List.append_nil] using h.bound
    · intro _
      -- nothing is kept, so that the next attempt starts from what the client sent
      simp [hstateful, Call.again, hkeeps, Call.Hands]
    · intro attempt hphase
      exact absurd hphase (by simp [Call.again])

theorem afterException (h : Carried report cfg c) (message : String) :
    Budgeted report cfg (c.afterException cfg message) := by
  unfold Call.afterException
  split_ifs
  · exact h.again
  · exact h.finish _

theorem afterResult (h : Carried report cfg c) : Budgeted report cfg (c.afterResult cfg) := by
  have hspent : Carried report cfg { c with forceRetryBudget := c.forceRetryBudget - 1 } :=
    ⟨h.waiting, h.force, h.bound, fun hkeeps => (h.hands hkeeps).congr rfl rfl rfl⟩
  rcases Call.afterResult_eq cfg c with ⟨outcome, -, heq | heq⟩ | ⟨-, heq⟩ <;> rw [heq]
  · exact h.finish outcome
  · exact hspent.finish outcome
  · exact hspent.again

end Carried

/-- A failed attempt that hands on something right. -/
theorem Budgeted.carried {c' : Call} (h : Budgeted report cfg c) (hc' : c.Interrupted cfg c')
    (hhands : cfg.keepsTokens = true →
      c.Hands report (if cfg.isStateful then c'.recoveryState else none) c'.replayTokens
        c'.data.completedTokens) : Carried report cfg c' where
  waiting := hc'.phase
  force := fun hforce => (hc'.force hforce).elim h.force id
  bound := by rw [hc'.generated, hc'.maxTokens]; exact h.bound
  hands := fun hkeeps => (hhands hkeeps).congr hc'.prompt hc'.soFar hc'.maxTokens

namespace Budgeted

theorem onPreempted (h : Budgeted report cfg c) {result : PreemptedResult} {reply : InstanceReply}
    (hcounted : cfg.keepsTokens = true → ResultHands report cfg c result reply) :
    Carried report cfg (c.interrupt.onPreempted cfg result reply) := by
  refine h.carried (Call.interrupted_onPreempted cfg c result reply) ?_
  intro hkeeps
  have hresult := hcounted hkeeps
  unfold ResultHands at hresult
  unfold Call.onPreempted
  cases hstateful : cfg.isStateful <;> simp only [hstateful] at hresult ⊢ <;>
    split_ifs at hresult ⊢ <;> exact hresult

theorem onReparallelized (h : Budgeted report cfg c)
    (hcounted : cfg.keepsTokens = true →
      ∀ state ∈ c.migrationState, report.holds c state.tokens state.completedTokens) :
    Carried report cfg (c.interrupt.onReparallelized cfg) := by
  refine h.carried (Call.interrupted_onReparallelized cfg c) ?_
  intro hkeeps
  have htallies := hcounted hkeeps
  rw [Call.recoveryState_onReparallelized]
  cases hstate : c.migrationState with
  | none => simp [Call.onReparallelized, Call.interrupt, hstate, Call.carry, Call.Hands]
  | some state =>
    have htallies := htallies state hstate
    cases hstateful : cfg.isStateful with
    | true => simpa [Call.interrupt, hstate, Call.Hands] using htallies
    | false =>
      -- without a state the next attempt goes by the tokens and the count just recorded
      intro first hfirst
      simp only [Call.onReparallelized, Call.interrupt, hstate, Call.carry, Call.record]
        at hfirst ⊢
      split_ifs at hfirst with htokens
      · exact absurd hfirst (by simp)
      · obtain rfl : state.tokens = first := by simpa using hfirst
        exact htallies

theorem onErrorResult (h : Budgeted report cfg c) {kept : Option (List (List ℤ))}
    {reply : InstanceReply}
    (hcounted : cfg.keepsTokens = true → c.Hands report
      (if cfg.isStateful then captureInferenceState cfg.backend reply kept none none else none)
      (kept.getD []) c.data.completedTokens) :
    Carried report cfg (c.interrupt.onErrorResult cfg kept reply) := by
  refine h.carried (Call.interrupted_onErrorResult cfg c kept reply) ?_
  intro hkeeps
  have hhands := hcounted hkeeps
  cases hstateful : cfg.isStateful <;> simpa [hstateful, Call.onErrorResult, Call.carry] using hhands

theorem onException (h : Budgeted report cfg c) {reply : InstanceReply}
    (hcounted : cfg.keepsTokens = true → c.Hands report
      (if cfg.isStateful then captureInferenceState cfg.backend reply none none none else none)
      (if cfg.isStateful then [] else reply.currentTokens) c.data.completedTokens) :
    Carried report cfg (c.interrupt.onException cfg reply) := by
  refine h.carried (Call.interrupted_onException cfg c reply) ?_
  intro hkeeps
  have hhands := hcounted hkeeps
  cases hstateful : cfg.isStateful with
  | false => simpa [hstateful, Call.onException, Call.carry] using hhands
  | true =>
    simp only [hstateful, if_true, Call.onException, Call.carry] at hhands ⊢
    cases hstate : captureInferenceState cfg.backend reply none none none with
    | none => simp [Call.Hands]
    | some state => rwa [hstate] at hhands

/-- A failed result; a restored attempt may first have to show what it has restored. -/
theorem onFailedResult (h : Budgeted report cfg c) {attempt : Attempt} {branch : Call → Call}
    (hbranch : Carried report cfg (branch c.interrupt)) :
    Budgeted report cfg (c.onFailedResult cfg attempt branch) := by
  unfold Call.onFailedResult
  split
  · exact h.finish _
  · exact hbranch.afterResult

/-- What a request is built from when it goes out. -/
theorem holds_of_prepared (h : Budgeted report cfg c) (hphase : c.phase = .assigned)
    {target : TargetReply} (hreported : Reported report cfg c (.send target))
    {first : List ℤ} {rest : List (List ℤ)}
    (hprepared : c.prepared cfg target = .ok (none, first :: rest)) :
    report.holds c first (c.data.completedTokens.getD 0) := by
  have hhands := h.hands (Or.inr hphase)
  rcases Call.of_prepared hprepared with ⟨state, hstate, hstateful, hrecovery⟩ | ⟨-, hreplay, hnone⟩
  · -- the state was not restored: its tokens are replayed with the count recorded on the request
    have hstateful := Call.isStateful_of_recovers h.force hstateful
    have hfalls : cfg.fallsBack state target = true := by
      simp only [InferenceConfig.fallsBack, hrecovery]
    rcases of_prepareStatefulRecovery hrecovery with ⟨hsome, -, -⟩ | ⟨-, -, hfirst⟩
    · exact absurd hsome (by simp)
    · obtain rfl : first = state.tokens := hfirst first (by simp)
      have hcount := hreported (InferenceConfig.keepsTokens_of_isStateful hstateful) hstateful state
        hstate hfalls
      rw [← hcount]
      simpa only [hstateful, if_true, hstate, Call.Hands] using hhands
  · have hstate : (if cfg.isStateful then c.recoveryState else none) = none := by
      split_ifs with hstateful
      · cases hrecovery : c.recoveryState with
        | none => rfl
        | some state =>
          have := hnone state hrecovery
          rw [hstateful] at this
          exact absurd this (by simp)
      · rfl
    rw [hstate, ← hreplay] at hhands
    exact hhands first (by simp)

theorem holds_of_prepared_state (h : Budgeted report cfg c) (hphase : c.phase = .assigned)
    {target : TargetReply} {state : InferenceState} {replay : List (List ℤ)}
    (hprepared : c.prepared cfg target = .ok (some state, replay)) :
    report.holds c state.tokens state.completedTokens := by
  have hhands := h.hands (Or.inr hphase)
  rcases Call.of_prepared hprepared with ⟨state', hstate, hstateful, hrecovery⟩ | ⟨hnone, -, -⟩
  · have hstateful := Call.isStateful_of_recovers h.force hstateful
    rcases of_prepareStatefulRecovery hrecovery with ⟨hsome, -, -⟩ | ⟨hnone, -, -⟩
    · obtain rfl := Option.some.inj hsome
      simpa only [hstateful, if_true, hstate, Call.Hands] using hhands
    · exact absurd hnone (by simp)
  · exact absurd hnone (by simp)

/-- An attempt that continues from tokens goes out. -/
theorem run (h : Budgeted report cfg c) (hphase : c.phase = .assigned) {source : TokenSource}
    {request : BackendRequest} (replay : List (List ℤ)) (hsource : source ≠ .prompt)
    (hrequest : ∀ maxTokens ∈ c.data.maxTokens, c.generated.length < maxTokens ∧
      request.maxTokens = some (max 1 (maxTokens - c.generated.length))) :
    Budgeted report cfg ({ c with replayTokens := replay }.run source request) where
  force := by
    intro hforce
    exact h.force (Bool.and_eq_true_iff.mp hforce).1
  bound := by
    have hsoFar : c.soFar = c.generated := by simp [Call.soFar, Call.produced, hphase]
    have hbound := h.bound
    rw [hsoFar] at hbound
    simpa only [Call.run, Call.soFar, Call.produced, List.append_nil] using hbound
  hands := by
    rintro (hwaiting | hassigned)
    · exact absurd hwaiting (by simp [Call.run])
    · exact absurd hassigned (by simp [Call.run])
  sent := by
    intro attempt hattempt
    obtain rfl := CallPhase.running.inj hattempt
    intro maxTokens hmax
    exact ⟨fun hprompt => absurd hprompt hsource, fun _ => hrequest maxTokens hmax⟩

theorem send (h : Budgeted report cfg c) (hphase : c.phase = .assigned) {target : TargetReply}
    (hreported : Reported report cfg c (.send target)) :
    Budgeted report cfg (c.send cfg target) := by
  have hsoFar : c.soFar = c.generated := by simp [Call.soFar, Call.produced, hphase]
  unfold Call.send
  split
  · exact h.finish _
  · rename_i state replay hprepared
    split
    · exact h.finish _
    · rename_i request hbuilt
      obtain ⟨hcount, hleft⟩ := report.counts (h.holds_of_prepared_state hphase hprepared)
      rw [hsoFar] at hcount
      refine h.run hphase replay (by simp) ?_
      intro maxTokens hmax
      rw [← hcount]
      exact ⟨hleft maxTokens hmax, maxTokens_of_restoreRequest hbuilt hmax (hleft maxTokens hmax)⟩
  · -- from what the client sent, with all of its budget
    constructor
    · intro hforce
      exact h.force (Bool.and_eq_true_iff.mp hforce).1
    · simp [Call.run, Call.restart, Call.soFar, Call.produced]
    · rintro (hwaiting | hassigned)
      · exact absurd hwaiting (by simp [Call.run])
      · exact absurd hassigned (by simp [Call.run])
    · intro attempt hattempt
      obtain rfl := CallPhase.running.inj hattempt
      intro maxTokens hmax
      exact ⟨fun _ => ⟨rfl, hmax⟩, fun hne => absurd rfl hne⟩
  · rename_i first rest hprepared
    obtain ⟨hcount, hleft⟩ := report.counts (h.holds_of_prepared hphase hreported hprepared)
    rw [hsoFar] at hcount
    refine h.run hphase (first :: rest) (by simp) ?_
    intro maxTokens hmax
    rw [← hcount]
    exact ⟨hleft maxTokens hmax, maxTokens_of_replayRequest hmax (hleft maxTokens hmax)⟩

/-- A token fits when the engine still had room for it in its own request. -/
theorem generate (h : Budgeted report cfg c) {attempt : Attempt}
    (hphase : c.phase = .running attempt)
    (hroom : attempt.produced.length < cfg.backend.limit attempt.request) (token : ℤ) :
    Budgeted report cfg { c with
      phase := .running { attempt with produced := attempt.produced ++ [token] } } where
  force := h.force
  bound := by
    intro maxTokens hmax
    have hsent := h.sent attempt hphase maxTokens hmax
    simp only [Call.soFar, Call.produced, List.length_append, List.length_singleton]
    by_cases hsource : attempt.source = .prompt
    · obtain ⟨hgenerated, hrequest⟩ := hsent.1 hsource
      rw [cfg.backend.limit_eq hrequest] at hroom
      rw [hgenerated]
      simp only [List.length_nil]
      omega
    · obtain ⟨hleft, hrequest⟩ := hsent.2 hsource
      rw [cfg.backend.limit_eq hrequest] at hroom
      omega
  hands := by
    rintro (hwaiting | hassigned)
    · exact absurd hwaiting (by simp)
    · exact absurd hassigned (by simp)
  sent := by
    intro attempt' hattempt'
    obtain rfl := CallPhase.running.inj hattempt'
    exact h.sent attempt hphase

theorem start (report : Report) (cfg : InferenceConfig) (text : List ℤ)
    (inputTokens : Option (List ℤ)) (maxTokens : Option ℕ) :
    Budgeted report cfg (Call.start cfg text inputTokens maxTokens) where
  force := fun hforce => absurd hforce (by simp [Call.start])
  bound := by simp [Call.start, Call.soFar, Call.produced]
  hands := by
    intro _
    cases hstateful : cfg.isStateful <;> simp [Call.start, Call.Hands]
  sent := fun attempt hphase => absurd hphase (by simp [Call.start])

/-- The next attempt gets its instance. -/
theorem assign (h : Budgeted report cfg c) (hphase : c.phase = .waiting) :
    Budgeted report cfg { c with phase := .assigned, attempts := c.attempts + 1 } := by
  have hsoFar : ({ c with phase := .assigned, attempts := c.attempts + 1 } : Call).soFar =
      c.soFar := by
    simp [Call.soFar, Call.produced, hphase]
  refine ⟨h.force, ?_, ?_, ?_⟩
  · rw [hsoFar]
    exact h.bound
  · intro _
    exact (h.hands (Or.inl hphase)).congr rfl hsoFar rfl
  · intro attempt hattempt
    exact absurd hattempt (by simp)

theorem step (h : Budgeted report cfg c) {a : CallAction} {c' : Call}
    (hreported : Reported report cfg c a) (hstep : c.step cfg a = some c') :
    Budgeted report cfg c' := by
  cases Call.of_step hstep with
  | assign hphase => exact h.assign hphase
  | allocationFails message hphase =>
    have hbound := h.bound
    simp only [Call.soFar, Call.produced, hphase, List.append_nil] at hbound
    have hcarried : Carried report cfg { c with attempts := c.attempts + 1 } :=
      ⟨hphase, h.force, hbound, fun _ => (h.hands (Or.inl hphase)).congr rfl rfl rfl⟩
    exact hcarried.afterException message
  | send target hphase => exact h.send hphase hreported
  | generate token hphase hroom => exact h.generate hphase hroom token
  | snapshot timedOut reply _ _ =>
    exact ⟨h.force, h.bound, fun hphase => (h.hands hphase).congr rfl rfl rfl, h.sent⟩
  | succeed earlier expectedBlocks cachedTokens hphase =>
    rcases Call.onSuccess_eq cfg c _ earlier expectedBlocks cachedTokens with
      ⟨_, heq⟩ | ⟨_, -, -, heq⟩
    · rw [heq]
      exact h.finish _
    · rw [heq]
      exact h.finish _
  | preempted reply hphase hresult =>
    refine h.onFailedResult (h.onPreempted ?_)
    intro hkeeps
    have hresults := hreported hkeeps
    simp only [hphase] at hresults
    exact hresults _ hresult
  | reparallelized earlier shown reply hphase _ =>
    exact h.onFailedResult (h.onReparallelized hreported)
  | aborted earlier shown reply hphase _ =>
    refine h.onFailedResult (h.onPreempted ?_)
    intro hkeeps
    have hresult := hreported hkeeps
    simp only [hphase] at hresult
    exact hresult
  | errorResult kept reply hphase _ => exact h.onFailedResult (h.onErrorResult hreported)
  | exception message reply _ => exact (h.onException hreported).afterException message
  | valueError message _ => exact h.finish _

end Budgeted

/-- **The budget is kept** in every state of a call whose steps are `Counted`. -/
theorem withinBudget_of_counted (h : CallRuns cfg (Counted cfg) c) : c.WithinBudget := by
  have hbudgeted : Budgeted .counted cfg c := by
    refine Runs.Reachable.invariant (Budgeted .counted cfg) ?_ ?_ h
    · rintro _ ⟨text, inputTokens, maxTokens, rfl⟩
      exact Budgeted.start .counted cfg text inputTokens maxTokens
    · intro c a c' hinv hcounted hstep
      exact hinv.step hcounted hstep
  exact hbudgeted.withinBudget

/-- The first attempt is preempted after two tokens, and its state is restored on the next
instance. -/
def preemptedAndRestored : List CallAction :=
  [.assign, .send {}, .generate 20, .generate 21,
    .preempted false 0 2 { restorable := true } .noBackend, .assign,
    .send { restoreSupported := true, result := { restored := true, restoredBlocks := 1 } }]

theorem withinBudget_preemptedAndRestored :
    ∃ c, Runs.attempt (Call.step statefulVllm) (Counted statefulVllm) preemptedAndRestored
        (Call.start statefulVllm [10, 11] none (some 8)) = some c ∧
      c.generated = [20, 21] ∧ c.WithinBudget := by
  have hrun : (Runs.attempt (Call.step statefulVllm) (Counted statefulVllm) preemptedAndRestored
      (Call.start statefulVllm [10, 11] none (some 8))).map Call.generated = some [20, 21] := by
    decide +kernel
  obtain ⟨c, hc, hgenerated⟩ := Option.map_eq_some_iff.mp hrun
  have hreachable : CallRuns statefulVllm (Counted statefulVllm) c :=
    .attempt (.start ⟨[10, 11], none, some 8, rfl⟩) hc
  exact ⟨c, hc, hgenerated, withinBudget_of_counted hreachable⟩

/-- Replay on the dummy backend. -/
def replayDummy : InferenceConfig where
  recoveryPolicy := .generatedTokenReplay
  maxRetries := 3
  backend := .dummy

/-- The first attempt raises after two tokens, and they are replayed. -/
def raisedAndReplayed : List CallAction :=
  [.assign, .send {}, .generate 1, .generate 2,
    .exception "Forced dummy backend failure after 2 tokens"
      (.answered { currentTokens := [[1, 2]] }),
    .assign, .send {}, .generate 3, .generate 4]

/-- The retry was sent with all of the client's three tokens, and there are four already. -/
theorem not_withinBudget_raisedAndReplayed :
    ¬ ∀ cfg c, CallRuns cfg (fun _ _ => True) c → c.WithinBudget := by
  intro h
  have hrun : (Runs.attempt (Call.step replayDummy) (fun _ _ => True) raisedAndReplayed
      (Call.start replayDummy [] none (some 3))).map
        (fun c => (c.data.maxTokens, c.soFar.length)) = some (some 3, 4) := by
    decide +kernel
  obtain ⟨c, hc, hpair⟩ := Option.map_eq_some_iff.mp hrun
  obtain ⟨hmax, hlength⟩ := Prod.mk.inj hpair
  have hreachable : CallRuns replayDummy (fun _ _ => True) c :=
    .attempt (.start ⟨[], none, some 3, rfl⟩) hc
  have hbound := (h replayDummy c hreachable 3 hmax).1
  omega

end Router
end SpotServe
