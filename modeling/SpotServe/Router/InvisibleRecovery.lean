import SpotServe.Library.Generation
import SpotServe.Router.CommittedOutput
import SpotServe.Router.OutputBudget

/-!
# A recovery that the answer does not show

A request is interrupted again and again, and taken up each time on another instance, with the
tokens that were kept or from the start.  If every engine decodes in the same way, by a function of
the tokens that it has, the client should not be able to tell: the answer should be the one of a
single attempt that nothing interrupts.

`Decodes` says of a step that the engine follows a decoder, and that what is interrupted has not
ended.  Where the reports are right as well (`Tallied`, and `Committed` for vLLM), the answer is
that of the undisturbed run, whatever happens to the request and in whatever order
(`recovery_invisible`).  A router that keeps no tokens needs no condition on the reports; on vLLM
the answer has to come in one piece even then.
-/

namespace SpotServe
namespace Router

open Generation

/-- The last token of an attempt ends the text. -/
def Attempt.ended (decoder : Decoder ℤ) (attempt : Attempt) : Bool :=
  attempt.produced.getLast?.any decoder.ends

/-- The condition on a step.  An engine appends the token that the decoder chooses for all it has,
until one ends the text or there are as many as its request allows; tokens are only carried on from
a text that has not ended. -/
def Decodes (decoder : Decoder ℤ) (cfg : InferenceConfig) (c : Call) (a : CallAction) : Prop :=
  match c.phase with
  | .running attempt =>
    match a with
    | .generate token => attempt.ended decoder = false ∧
      token = decoder.next (c.input attempt.request ++ attempt.produced)
    | .succeed _ _ _ => attempt.ended decoder = true ∨
      attempt.produced.length = cfg.backend.limit attempt.request
    | _ => cfg.keepsTokens = true → attempt.ended decoder = false
  | _ => True

instance (decoder : Decoder ℤ) (cfg : InferenceConfig) (c : Call) (a : CallAction) :
    Decidable (Decodes decoder cfg c a) := by
  unfold Decodes
  generalize c.phase = phase
  induction phase using CallPhase.casesOn
  case running attempt => induction a using CallAction.casesOn <;> infer_instance
  all_goals infer_instance

/-- What the client reads: the dummy backend lists all the tokens it has, vLLM those it added. -/
def Call.answer (cfg : InferenceConfig) (c : Call) (outputTokens : List ℤ) : List ℤ :=
  match cfg.backend with
  | .dummy => outputTokens
  | .vllm => c.prompt ++ outputTokens

variable {decoder : Decoder ℤ} {cfg : InferenceConfig} {c : Call}

namespace Call

/-- The tokens so far are those of the decoder, and none of them ends the text. -/
def Unended (decoder : Decoder ℤ) (c : Call) : Prop :=
  c.prompt ++ c.soFar = decoder.extend c.soFar.length c.prompt ∧
    decoder.Open c.prompt c.soFar.length

theorem Unended.congr {c' : Call} (h : c.Unended decoder) (hprompt : c'.prompt = c.prompt)
    (hsoFar : c'.soFar = c.soFar) : c'.Unended decoder := by
  unfold Unended
  rw [hprompt, hsoFar]
  exact h

/-- A state that is restored brings the engine all the tokens it counts. -/
theorem input_of_restoreRequest {backend : Backend} {state : InferenceState}
    {request : BackendRequest} (h : buildStatefulRestoreRequest backend c.data state = .ok request)
    (htokens : state.tokens = c.prompt ++ c.generated) :
    c.input request = c.prompt ++ c.generated := by
  obtain ⟨-, h⟩ := Runs.of_require_bind h
  obtain rfl := Except.ok.inj h
  by_cases hempty : state.tokens = []
  · rw [hempty] at htokens
    obtain ⟨hprompt, hgenerated⟩ := List.append_eq_nil_iff.mp htokens.symm
    simp only [Call.input, hempty, if_true, hgenerated, List.append_nil]
    rfl
  · rw [Call.input, if_neg hempty, Option.getD_some, htokens]

/-- A running attempt follows the decoder. -/
structure Following (decoder : Decoder ℤ) (c : Call) (attempt : Attempt) : Prop where
  input : c.input attempt.request = c.prompt ++ c.generated
  text : c.prompt ++ c.soFar = decoder.extend c.soFar.length c.prompt
  unended : attempt.ended decoder = false → decoder.Open c.prompt c.soFar.length
  ended : attempt.ended decoder = true → ∃ n, c.soFar.length = n + 1 ∧ decoder.Open c.prompt n ∧
    decoder.ends (decoder.next (decoder.extend n c.prompt)) = true

end Call

/-- The call as it is after every step that is `Tallied` and follows the decoder. -/
structure Followed (decoder : Decoder ℤ) (cfg : InferenceConfig) (c : Call) : Prop where
  kept : c.phase = .waiting ∨ c.phase = .assigned → cfg.keepsTokens = true → c.Unended decoder
  dropped : c.phase = .waiting ∨ c.phase = .assigned → cfg.keepsTokens = false →
    c.replayTokens = []
  running : ∀ attempt, c.phase = .running attempt → c.Following decoder attempt
  answered : ∀ attempt outputTokens receipt,
    c.phase = .returned (.success attempt outputTokens receipt) →
    (cfg.backend = .dummy → outputTokens = c.prompt ++ (c.generated ++ attempt.produced)) ∧
    ∀ maxTokens, c.data.maxTokens = some maxTokens →
      c.prompt ++ (c.generated ++ attempt.produced) = decoder.generate maxTokens c.prompt

namespace Followed

theorem start (decoder : Decoder ℤ) (cfg : InferenceConfig) (text : List ℤ)
    (inputTokens : Option (List ℤ)) (maxTokens : Option ℕ) :
    Followed decoder cfg (Call.start cfg text inputTokens maxTokens) where
  kept := by
    intro _ _
    refine ⟨?_, fun i hi => absurd hi (Nat.not_lt_zero i)⟩
    show _ ++ [] = _
    rw [List.append_nil]
    rfl
  dropped := fun _ _ => rfl
  running := fun attempt hphase => absurd hphase (by simp [Call.start])
  answered := fun attempt outputTokens receipt hphase => absurd hphase (by simp [Call.start])

/-- The call ends without a response. -/
theorem finish (decoder : Decoder ℤ) (cfg : InferenceConfig) (c : Call) {outcome : Outcome}
    (houtcome : outcome.isSuccess = false) : Followed decoder cfg (c.finish outcome) where
  kept := by
    rintro (hphase | hphase) <;> exact absurd hphase (by simp [Call.finish])
  dropped := by
    rintro (hphase | hphase) <;> exact absurd hphase (by simp [Call.finish])
  running := fun attempt hphase => absurd hphase (by simp [Call.finish])
  answered := by
    intro attempt outputTokens receipt hphase
    obtain rfl := CallPhase.returned.inj hphase
    exact absurd houtcome (by simp [Outcome.isSuccess])

/-- The call is between two attempts. -/
theorem between (hphase : c.phase = .waiting ∨ c.phase = .assigned)
    (hkept : cfg.keepsTokens = true → c.Unended decoder)
    (hdropped : cfg.keepsTokens = false → c.replayTokens = []) : Followed decoder cfg c where
  kept := fun _ => hkept
  dropped := fun _ => hdropped
  running := by
    intro attempt hattempt
    rcases hphase with hphase | hphase <;> exact absurd (hphase.symm.trans hattempt) (by simp)
  answered := by
    intro attempt outputTokens receipt hreturned
    rcases hphase with hphase | hphase <;> exact absurd (hphase.symm.trans hreturned) (by simp)

theorem again (hphase : c.phase = .waiting) (hkept : cfg.keepsTokens = true → c.Unended decoder) :
    Followed decoder cfg (c.again cfg) := by
  refine between (Or.inl rfl) (fun hkeeps => (hkept hkeeps).congr rfl ?_) fun hdrops => ?_
  · simp [Call.soFar, Call.produced, Call.again, hphase]
  · simp [Call.again, hdrops]

theorem afterException (hphase : c.phase = .waiting)
    (hkept : cfg.keepsTokens = true → c.Unended decoder) (message : String) :
    Followed decoder cfg (c.afterException cfg message) := by
  unfold Call.afterException
  split_ifs
  · exact again hphase hkept
  · exact finish decoder cfg c rfl

theorem afterResult (hphase : c.phase = .waiting)
    (hkept : cfg.keepsTokens = true → c.Unended decoder) :
    Followed decoder cfg (c.afterResult cfg) := by
  rcases Call.afterResult_eq cfg c with ⟨outcome, hfailed, heq | heq⟩ | ⟨-, heq⟩ <;> rw [heq]
  · exact finish decoder cfg c hfailed
  · exact finish decoder cfg _ hfailed
  · exact again hphase fun hkeeps => (hkept hkeeps).congr rfl rfl

/-- The branch for a failed attempt of a text that has not ended. -/
theorem onFailedResult {attempt : Attempt} {branch : Call → Call}
    (hbranch : c.Interrupted cfg (branch c.interrupt))
    (hkept : cfg.keepsTokens = true → c.Unended decoder) :
    Followed decoder cfg (c.onFailedResult cfg attempt branch) := by
  unfold Call.onFailedResult
  split
  · exact finish decoder cfg c rfl
  · exact afterResult hbranch.phase fun hkeeps =>
      (hkept hkeeps).congr hbranch.prompt hbranch.soFar

/-- What is interrupted has not ended. -/
theorem unended_of_running (h : Followed decoder cfg c) {attempt : Attempt}
    (hphase : c.phase = .running attempt)
    (hended : cfg.keepsTokens = true → attempt.ended decoder = false)
    (hkeeps : cfg.keepsTokens = true) : c.Unended decoder :=
  ⟨(h.running attempt hphase).text, (h.running attempt hphase).unended (hended hkeeps)⟩

/-- An attempt goes out with all the tokens there are. -/
theorem run {c' : Call} {source : TokenSource} {request : BackendRequest}
    (hinput : c'.input request = c'.prompt ++ c'.generated)
    (htext : c'.prompt ++ c'.generated = decoder.extend c'.generated.length c'.prompt)
    (hopen : decoder.Open c'.prompt c'.generated.length) :
    Followed decoder cfg (c'.run source request) where
  kept := by
    rintro (hphase | hphase) <;> exact absurd hphase (by simp [Call.run])
  dropped := by
    rintro (hphase | hphase) <;> exact absurd hphase (by simp [Call.run])
  running := by
    intro attempt hattempt
    obtain rfl := CallPhase.running.inj hattempt
    have hsoFar : (c'.run source request).soFar = c'.generated := List.append_nil _
    refine ⟨hinput, ?_, fun _ => ?_, fun hended => absurd hended Bool.false_ne_true⟩
    · rw [hsoFar]
      exact htext
    · rw [hsoFar]
      exact hopen
  answered := fun attempt outputTokens receipt hphase => absurd hphase (by simp [Call.run])

/-- Tokens are only carried on by a router that keeps them. -/
theorem keepsTokens_of_prepared (h : Followed decoder cfg c) (hphase : c.phase = .assigned)
    (hforce : c.forceStateRecovery = true → cfg.isStateful = true) {target : TargetReply}
    {snapshot : Option InferenceState} {replay : List (List ℤ)}
    (hprepared : c.prepared cfg target = .ok (snapshot, replay))
    (hcarried : snapshot ≠ none ∨ replay ≠ []) : cfg.keepsTokens = true := by
  rcases Call.of_prepared hprepared with ⟨state, -, hrecovers, -⟩ | ⟨hnone, hreplay, -⟩
  · exact InferenceConfig.keepsTokens_of_isStateful (Call.isStateful_of_recovers hforce hrecovers)
  · by_contra hdrops
    rcases hcarried with hsnapshot | hne
    · exact hsnapshot hnone
    · exact hne (hreplay.trans (h.dropped (Or.inr hphase) (Bool.eq_false_iff.mpr hdrops)))

theorem send (h : Followed decoder cfg c) (hbudgeted : Budgeted .tallied cfg c)
    (hphase : c.phase = .assigned) {target : TargetReply}
    (htallied : Tallied cfg c (.send target)) : Followed decoder cfg (c.send cfg target) := by
  have hsoFar : c.soFar = c.generated := by simp [Call.soFar, Call.produced, hphase]
  have hkept := h.kept (Or.inr hphase)
  unfold Call.Unended at hkept
  rw [hsoFar] at hkept
  unfold Call.send
  split
  · exact finish decoder cfg c rfl
  · -- a state goes out with the whole text
    rename_i state replay hprepared
    split
    · exact finish decoder cfg c rfl
    · rename_i request hbuilt
      obtain ⟨htext, hopen⟩ :=
        hkept (h.keepsTokens_of_prepared hphase hbudgeted.force hprepared (Or.inl (by simp)))
      obtain ⟨htokens, -⟩ := hbudgeted.holds_of_prepared_state hphase hprepared
      rw [hsoFar] at htokens
      exact run (Call.input_of_restoreRequest hbuilt htokens) htext hopen
  · -- what the client sent, from the start
    refine run ?_ ?_ fun i hi => absurd hi (Nat.not_lt_zero i)
    · exact (List.append_nil c.prompt).symm
    · exact List.append_nil c.prompt
  · -- the whole text is replayed
    rename_i first rest hprepared
    obtain ⟨htext, hopen⟩ :=
      hkept (h.keepsTokens_of_prepared hphase hbudgeted.force hprepared (Or.inr (by simp)))
    obtain ⟨hfirst, -⟩ := hbudgeted.holds_of_prepared hphase htallied hprepared
    rw [hsoFar] at hfirst
    exact run hfirst htext hopen

/-- The engine appends the token that the decoder chooses. -/
theorem generate (h : Followed decoder cfg c) {attempt : Attempt}
    (hphase : c.phase = .running attempt) (hended : attempt.ended decoder = false) {token : ℤ}
    (htoken : token = decoder.next (c.input attempt.request ++ attempt.produced)) :
    Followed decoder cfg { c with
      phase := .running { attempt with produced := attempt.produced ++ [token] } } where
  kept := by
    rintro (hnext | hnext) <;> exact absurd hnext (by simp)
  dropped := by
    rintro (hnext | hnext) <;> exact absurd hnext (by simp)
  running := by
    intro attempt' hattempt'
    obtain rfl := CallPhase.running.inj hattempt'
    have hfollowing := h.running attempt hphase
    have hopen := hfollowing.unended hended
    have hsoFar : c.soFar = c.generated ++ attempt.produced := by
      simp [Call.soFar, Call.produced, hphase]
    have hnow : ({ c with phase := .running { attempt with
        produced := attempt.produced ++ [token] } } : Call).soFar = c.soFar ++ [token] := by
      rw [hsoFar, List.append_assoc]
      rfl
    have hchoice : token = decoder.next (decoder.extend c.soFar.length c.prompt) := by
      rw [htoken, hfollowing.input, List.append_assoc, ← hsoFar, hfollowing.text]
    have hlast : Attempt.ended decoder { attempt with produced := attempt.produced ++ [token] } =
        decoder.ends token := by
      simp [Attempt.ended]
    refine ⟨hfollowing.input, ?_, fun hends => ?_, fun hends => ?_⟩
    · show c.prompt ++ _ = decoder.extend _ c.prompt
      rw [hnow, List.length_append, List.length_singleton, decoder.extend_succ_last, ← hchoice,
        ← hfollowing.text, List.append_assoc]
    · rw [hnow, List.length_append, List.length_singleton]
      rw [hlast, hchoice] at hends
      exact decoder.open_succ_last.mpr ⟨hopen, hends⟩
    · rw [hlast, hchoice] at hends
      exact ⟨c.soFar.length, by rw [hnow, List.length_append, List.length_singleton], hopen, hends⟩
  answered := fun attempt' outputTokens receipt hreturned => absurd hreturned (by simp)

/-- **All tokens are there** when an engine is done: those of the interrupted attempts and those of
the last one make up the whole text. -/
theorem text_of_done (h : Followed decoder cfg c) (hbudgeted : Budgeted .tallied cfg c)
    {attempt : Attempt} (hphase : c.phase = .running attempt)
    (hdone : attempt.ended decoder = true ∨
      attempt.produced.length = cfg.backend.limit attempt.request)
    {maxTokens : ℕ} (hmax : c.data.maxTokens = some maxTokens) :
    c.prompt ++ c.soFar = decoder.generate maxTokens c.prompt := by
  have hfollowing := h.running attempt hphase
  have hbound := hbudgeted.bound maxTokens hmax
  rw [hfollowing.text, decoder.generate_eq_extend, decoder.extend_inj]
  cases hended : attempt.ended decoder with
  | true =>
    obtain ⟨n, hn, hopen, hends⟩ := hfollowing.ended hended
    rw [hn] at hbound ⊢
    exact (decoder.stops_eq_of_end hopen hends hbound).symm
  | false =>
    have hopen := hfollowing.unended hended
    have hlength := hdone.resolve_left (by rw [hended]; exact Bool.false_ne_true)
    have hall : c.soFar.length = maxTokens := by
      have hsoFar : c.soFar.length = c.generated.length + attempt.produced.length := by
        simp [Call.soFar, Call.produced, hphase]
      have hsent := hbudgeted.sent attempt hphase maxTokens hmax
      by_cases hsource : attempt.source = .prompt
      · obtain ⟨hgenerated, hrequest⟩ := hsent.1 hsource
        rw [cfg.backend.limit_eq hrequest] at hlength
        rw [hsoFar, hgenerated, hlength, List.length_nil, Nat.zero_add]
      · obtain ⟨hleft, hrequest⟩ := hsent.2 hsource
        rw [cfg.backend.limit_eq hrequest] at hlength
        omega
    rw [hall] at hopen ⊢
    exact (decoder.stops_eq_of_open hopen).symm

theorem succeed (h : Followed decoder cfg c) (hbudgeted : Budgeted .tallied cfg c)
    {attempt : Attempt} (hphase : c.phase = .running attempt)
    (hdone : attempt.ended decoder = true ∨
      attempt.produced.length = cfg.backend.limit attempt.request)
    (earlier expectedBlocks cachedTokens : ℕ) :
    Followed decoder cfg (c.onSuccess cfg attempt earlier expectedBlocks cachedTokens) := by
  rcases Call.onSuccess_eq cfg c attempt earlier expectedBlocks cachedTokens with
    ⟨message, heq⟩ | ⟨outputTokens, hresponse, -, heq⟩ <;> rw [heq]
  · exact finish decoder cfg c rfl
  · have hsoFar : c.soFar = c.generated ++ attempt.produced := by
      simp [Call.soFar, Call.produced, hphase]
    constructor
    · rintro (hnext | hnext) <;> exact absurd hnext (by simp [Call.finish])
    · rintro (hnext | hnext) <;> exact absurd hnext (by simp [Call.finish])
    · exact fun attempt' hattempt' => absurd hattempt' (by simp [Call.finish])
    · intro attempt' outputTokens' receipt' hreturned
      obtain ⟨rfl, rfl, -⟩ := Outcome.success.inj (CallPhase.returned.inj hreturned)
      refine ⟨fun hdummy => ?_, fun maxTokens hmax => ?_⟩
      · rw [(InferenceConfig.showsAll_dummy hdummy attempt earlier).tokens_eq, hdummy] at hresponse
        obtain rfl := Except.ok.inj hresponse
        rw [(h.running attempt hphase).input, List.append_assoc]
        rfl
      · have htext := h.text_of_done hbudgeted hphase hdone hmax
        rw [hsoFar] at htext
        exact htext

theorem step (h : Followed decoder cfg c) (hbudgeted : Budgeted .tallied cfg c)
    {a : CallAction} {c' : Call} (htallied : Tallied cfg c a) (hdecodes : Decodes decoder cfg c a)
    (hstep : c.step cfg a = some c') : Followed decoder cfg c' := by
  cases Call.of_step hstep with
  | assign hphase =>
    refine between (Or.inr rfl) (fun hkeeps => ?_) (h.dropped (Or.inl hphase))
    refine (h.kept (Or.inl hphase) hkeeps).congr rfl ?_
    simp [Call.soFar, Call.produced, hphase]
  | allocationFails message hphase =>
    have hphase' : ({ c with attempts := c.attempts + 1 } : Call).phase = .waiting := hphase
    exact afterException hphase'
      (fun hkeeps => (h.kept (Or.inl hphase) hkeeps).congr rfl rfl) message
  | send target hphase => exact h.send hbudgeted hphase htallied
  | generate token hphase hroom =>
    simp only [Decodes, hphase] at hdecodes
    exact h.generate hphase hdecodes.1 hdecodes.2
  | snapshot timedOut reply _ _ =>
    refine ⟨h.kept, h.dropped, fun attempt hattempt => ?_, h.answered⟩
    have hfollowing := h.running attempt hattempt
    exact ⟨hfollowing.input, hfollowing.text, hfollowing.unended, hfollowing.ended⟩
  | succeed earlier expectedBlocks cachedTokens hphase =>
    simp only [Decodes, hphase] at hdecodes
    exact h.succeed hbudgeted hphase hdecodes earlier expectedBlocks cachedTokens
  | preempted reply hphase hresult =>
    simp only [Decodes, hphase] at hdecodes
    exact onFailedResult (Call.interrupted_onPreempted cfg c _ reply)
      (h.unended_of_running hphase hdecodes)
  | reparallelized earlier shown reply hphase _ =>
    simp only [Decodes, hphase] at hdecodes
    exact onFailedResult (Call.interrupted_onReparallelized cfg c)
      (h.unended_of_running hphase hdecodes)
  | aborted earlier shown reply hphase _ =>
    simp only [Decodes, hphase] at hdecodes
    exact onFailedResult (Call.interrupted_onPreempted cfg c _ reply)
      (h.unended_of_running hphase hdecodes)
  | errorResult kept reply hphase _ =>
    simp only [Decodes, hphase] at hdecodes
    exact onFailedResult (Call.interrupted_onErrorResult cfg c kept reply)
      (h.unended_of_running hphase hdecodes)
  | exception message reply hphase =>
    have hinterrupted := Call.interrupted_onException cfg c reply
    refine afterException hinterrupted.phase (fun hkeeps => ?_) message
    refine Call.Unended.congr ?_ hinterrupted.prompt hinterrupted.soFar
    rcases hphase with hphase | ⟨attempt, hphase⟩
    · exact h.kept (Or.inr hphase) hkeeps
    · simp only [Decodes, hphase] at hdecodes
      exact h.unended_of_running hphase hdecodes hkeeps
  | valueError message _ => exact finish decoder cfg c rfl

end Followed

/-- What is allowed in a run: the reports are right, and the engines decode. -/
def Faithful (decoder : Decoder ℤ) (cfg : InferenceConfig) (c : Call) (a : CallAction) : Prop :=
  Tallied cfg c a ∧ (cfg.backend = .vllm → Committed cfg c a) ∧ Decodes decoder cfg c a

instance (decoder : Decoder ℤ) (cfg : InferenceConfig) (c : Call) (a : CallAction) :
    Decidable (Faithful decoder cfg c a) :=
  inferInstanceAs (Decidable (_ ∧ _ ∧ _))

/-- **Recovery is invisible.**  However often a request is interrupted, and whatever is then
restored, replayed or started again: if it is answered, the answer is the text that one undisturbed
attempt with all of the client's tokens would have generated. -/
theorem recovery_invisible (h : CallRuns cfg (Faithful decoder cfg) c) {attempt : Attempt}
    {outputTokens : List ℤ} {receipt : Option KvRestore} {maxTokens : ℕ}
    (hanswered : c.phase = .returned (.success attempt outputTokens receipt))
    (hmax : c.data.maxTokens = some maxTokens) :
    c.answer cfg outputTokens = decoder.generate maxTokens c.prompt := by
  have hinv : Budgeted .tallied cfg c ∧ Followed decoder cfg c := by
    refine Runs.Reachable.invariant
      (fun c => Budgeted .tallied cfg c ∧ Followed decoder cfg c) ?_ ?_ h
    · rintro _ ⟨text, inputTokens, maxTokens, rfl⟩
      exact ⟨Budgeted.start .tallied cfg text inputTokens maxTokens,
        Followed.start decoder cfg text inputTokens maxTokens⟩
    · rintro c a c' ⟨hbudgeted, hfollowed⟩ ⟨htallied, -, hdecodes⟩ hstep
      exact ⟨hbudgeted.step htallied hstep, hfollowed.step hbudgeted htallied hdecodes hstep⟩
  obtain ⟨hdummy, htext⟩ := hinv.2.answered attempt outputTokens receipt hanswered
  have htext := htext maxTokens hmax
  unfold Call.answer
  cases hbackend : cfg.backend with
  | dummy => exact (hdummy hbackend).trans htext
  | vllm =>
    have hcommitted : CallRuns cfg (Committed cfg) c :=
      h.mono fun _ _ hallowed => hallowed.2.1 hbackend
    have hcomplete := (Covered.of_runs hbackend hcommitted).complete
    rw [hcomplete attempt outputTokens receipt hanswered]
    exact htext

/-- A decoder that counts the tokens.  That of the dummy backend is the one with offset 1. -/
def countingDecoder (offset : ℤ) : Decoder ℤ where
  next text := offset + text.length
  ends _ := false

theorem recovery_invisible_restoredToTheEnd :
    ∃ c attempt receipt, Runs.attempt (Call.step statefulVllm)
        (Faithful (countingDecoder 18) statefulVllm) restoredToTheEnd
        (Call.start statefulVllm [10, 11] none (some 3)) = some c ∧
      c.phase = .returned (.success attempt [20, 21, 22] receipt) ∧
      c.answer statefulVllm [20, 21, 22] = (countingDecoder 18).generate 3 c.prompt := by
  have hrun : (Runs.attempt (Call.step statefulVllm) (Faithful (countingDecoder 18) statefulVllm)
      restoredToTheEnd (Call.start statefulVllm [10, 11] none (some 3))).map
        (fun c => (c.outputTokens, c.data.maxTokens)) = some (some [20, 21, 22], some 3) := by
    decide +kernel
  obtain ⟨c, hc, hpair⟩ := Option.map_eq_some_iff.mp hrun
  obtain ⟨houtput, hmax⟩ := Prod.mk.inj hpair
  obtain ⟨attempt, receipt, hphase⟩ := Call.of_outputTokens houtput
  have hreachable : CallRuns statefulVllm (Faithful (countingDecoder 18) statefulVllm) c :=
    .attempt (.start ⟨[10, 11], none, some 3, rfl⟩) hc
  exact ⟨c, attempt, receipt, hc, hphase, recovery_invisible hreachable hphase hmax⟩

end Router
end SpotServe
