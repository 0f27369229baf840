import SpotServe.Router.TokenRecovery

/-!
# Request isolation

The input of a retried request is its own prompt, continued by tokens that were generated for it.
That is `TokenMachine.Isolated`, and the router does not keep it: `get_current_tokens` returns the
sequences of all requests on an instance, the router takes the first one, and nothing in it says
whose it is.

What does hold is that every sequence the router or a backend keeps is one of the request it was
recorded for.  So a request is resumed with its own tokens in every run in which the router falls
back on `get_current_tokens`, or on what it kept for the instance, only where the first sequence
there is the request's own (`OwnTokens`).
-/

namespace SpotServe
namespace Router

open Py

/-- `tokens` are the request's prompt, continued by tokens generated for request `r`. -/
def Request.Extends (request : Request) (r : ℕ) (tokens : List Token) : Prop :=
  request.prompt <+: tokens ∧
    ∀ token ∈ tokens.drop request.prompt.length, token.generatedFor = some r

instance (request : Request) (r : ℕ) (tokens : List Token) :
    Decidable (request.Extends r tokens) :=
  inferInstanceAs (Decidable (_ ∧ _))

theorem Request.extends_prompt (request : Request) (r : ℕ) : request.Extends r request.prompt :=
  ⟨List.prefix_rfl, by simp⟩

theorem Request.Extends.append {request : Request} {r : ℕ} {tokens more : List Token}
    (h : request.Extends r tokens) (hmore : ∀ token ∈ more, token.generatedFor = some r) :
    request.Extends r (tokens ++ more) := by
  obtain ⟨⟨generated, rfl⟩, hgenerated⟩ := h
  refine ⟨⟨generated ++ more, (List.append_assoc ..).symm⟩, ?_⟩
  rw [List.drop_left] at hgenerated
  rw [List.append_assoc, List.drop_left]
  intro token htoken
  rcases List.mem_append.mp htoken with htoken | htoken
  · exact hgenerated token htoken
  · exact hmore token htoken

/-- **Request isolation**: each backend call was sent with an extension of its request's prompt. -/
def TokenMachine.Isolated (m : TokenMachine) : Prop :=
  ∀ call ∈ m.sent, ∃ request ∈ m.requests[call.1]?, request.Extends call.1 call.2

instance (m : TokenMachine) : Decidable m.Isolated :=
  inferInstanceAs (Decidable (∀ call ∈ m.sent, _))

/-! ## When the router takes a request's own tokens -/

/-- The first of the sequences, if there is one, was recorded for the request. -/
def FirstIsOwn (requestId : String) (tokens : List Sequence) : Prop :=
  ∀ first ∈ tokens.head?, first.recordedFor = requestId

instance (requestId : String) (tokens : List Sequence) : Decidable (FirstIsOwn requestId tokens) :=
  inferInstanceAs (Decidable (∀ first ∈ tokens.head?, _))

/-- The export of a request's state does not have to take the tokens of another one: those handed
to it begin with the request's own, and so do the current ones of the instance if it comes to
them. -/
def TokenMachine.ExportsOwn (m : TokenMachine) (instanceId requestId : String)
    (currentOutput : Option (List Sequence)) (reply : ExportReply) : Prop :=
  FirstIsOwn requestId (currentOutput.getD []) ∧
    match reply with
    | .answered hook running =>
      currentOutput = none → m.runtimeTokens instanceId requestId hook = [] →
        FirstIsOwn requestId (m.getCurrentTokens instanceId running)
    | .raised running =>
      currentOutput.getD [] = [] → FirstIsOwn requestId (m.getCurrentTokens instanceId running)
    | .noBackend => True

instance (m : TokenMachine) (instanceId requestId : String)
    (currentOutput : Option (List Sequence)) (reply : ExportReply) :
    Decidable (m.ExportsOwn instanceId requestId currentOutput reply) := by
  unfold TokenMachine.ExportsOwn
  cases reply <;> infer_instance

/-- What a failing attempt finds on its instance is its own, as far as the policy uses it. -/
def TokenMachine.RecoversOwn (m : TokenMachine) (cfg : RecoveryConfig)
    (instanceId requestId : String) (replay : List Sequence)
    (currentOutput : Option (List Sequence)) (reply : ExportReply) : Prop :=
  match cfg.recoveryPolicy with
  | .none | .naiveRetry => True
  | .generatedTokenReplay => FirstIsOwn requestId replay
  | .statefulRecovery => m.ExportsOwn instanceId requestId currentOutput reply

instance (m : TokenMachine) (cfg : RecoveryConfig) (instanceId requestId : String)
    (replay : List Sequence) (currentOutput : Option (List Sequence)) (reply : ExportReply) :
    Decidable (m.RecoversOwn cfg instanceId requestId replay currentOutput reply) := by
  unfold TokenMachine.RecoversOwn
  cases cfg.recoveryPolicy <;> infer_instance

/-- Tokens are used again under these policies. -/
def RecoveryConfig.Replays (cfg : RecoveryConfig) : Prop :=
  cfg.recoveryPolicy = .generatedTokenReplay ∨ cfg.recoveryPolicy = .statefulRecovery

instance (cfg : RecoveryConfig) : Decidable cfg.Replays :=
  inferInstanceAs (Decidable (_ ∨ _))

/-- An action in which no sequence is taken for that of another request: a new request has an id of
its own, and a failing or interrupted one finds its own tokens. -/
def OwnTokens (cfg : RecoveryConfig) (m : TokenMachine) : TokenAction → Prop
  | .arrive requestId _ =>
    (∀ request ∈ m.requests, request.requestId ≠ requestId) ∧ requestId ∉ m.warmUps
  | .preempted r shown kept reply =>
    ∀ c ∈ m.coroutines.get? r, ∀ instanceId ∈ c.stage.instanceId?,
      (m.dropTrace instanceId c.requestId kept).RecoversOwn cfg instanceId c.requestId
        (c.currentOutput shown) (some (c.currentOutput shown)) reply
  | .errorResult r reply =>
    ∀ c ∈ m.coroutines.get? r, ∀ instanceId ∈ c.stage.instanceId?,
      m.RecoversOwn cfg instanceId c.requestId
        ((m.recoveryTokensByInstance.get? instanceId).getD [])
        (m.recoveryTokensByInstance.get? instanceId) reply
  | .exception r reply =>
    ∀ c ∈ m.coroutines.get? r, ∀ instanceId ∈ c.stage.instanceId?,
      m.RecoversOwn cfg instanceId c.requestId (m.getCurrentTokens instanceId reply.running)
        none reply
  | .prepare requestId timedOut reply =>
    ∀ entry ∈ m.inflightRequests.get? requestId, timedOut = false → cfg.Replays →
      m.ExportsOwn entry.instanceId requestId none reply
  | _ => True

instance (cfg : RecoveryConfig) (m : TokenMachine) (a : TokenAction) :
    Decidable (OwnTokens cfg m a) := by
  cases a <;> unfold OwnTokens <;> infer_instance

/-! ## What is recorded for a request is the request's -/

section Recorded

variable (requests : List Request) (warmUps : List String)

/-- The tokens extend the prompt of the request with that id; of the sequences that are only used
to warm a prefix up nothing is said. -/
def Recorded (requestId : String) (tokens : List Token) : Prop :=
  requestId ∈ warmUps ∨ ∃ (r : ℕ) (request : Request), requests[r]? = some request ∧
    request.requestId = requestId ∧ request.Extends r tokens

/-- A sequence recorded for the request with that id. -/
def IsFor (requestId : String) (s : Sequence) : Prop :=
  s.recordedFor = requestId ∧ Recorded requests warmUps requestId s.tokens

variable {requests warmUps} {requests' : List Request} {warmUps' : List String}

theorem Recorded.mono {requestId : String} {tokens : List Token} (hr : requests <+: requests')
    (hw : warmUps ⊆ warmUps') (h : Recorded requests warmUps requestId tokens) :
    Recorded requests' warmUps' requestId tokens := by
  rcases h with h | ⟨r, request, hrequest, hid, htokens⟩
  · exact .inl (hw h)
  · obtain ⟨later, rfl⟩ := hr
    refine .inr ⟨r, request, ?_, hid, htokens⟩
    rw [List.getElem?_append_left (List.getElem?_eq_some_iff.mp hrequest).1]
    exact hrequest

theorem IsFor.mono {requestId : String} {s : Sequence} (hr : requests <+: requests')
    (hw : warmUps ⊆ warmUps') (h : IsFor requests warmUps requestId s) :
    IsFor requests' warmUps' requestId s :=
  ⟨h.1, h.2.mono hr hw⟩

end Recorded

/-- The local variables of a request hold its own tokens. -/
structure CoroutineOk (cfg : RecoveryConfig) (requests : List Request) (warmUps : List String)
    (r : ℕ) (c : Coroutine) : Prop where
  request : ∃ request, requests[r]? = some request ∧ request.requestId = c.requestId
  running : ∀ instanceId input produced, c.stage = .running instanceId input produced →
    (∀ request, requests[r]? = some request → request.Extends r input) ∧
      ∀ token ∈ produced, token.generatedFor = some r
  replayTokens : ∀ first ∈ firstOf c.replayTokens, IsFor requests warmUps c.requestId first
  recoveryState : cfg.recoveryPolicy = .statefulRecovery →
    ∀ state ∈ c.recoveryState, IsFor requests warmUps c.requestId state
  forceStateRecovery : c.forceStateRecovery = true → cfg.recoveryPolicy = .statefulRecovery

section CoroutineOk

variable {cfg : RecoveryConfig} {requests requests' : List Request}
  {warmUps warmUps' : List String} {r : ℕ} {c : Coroutine}

theorem CoroutineOk.mono (hr : requests <+: requests')
    (hw : warmUps ⊆ warmUps') (h : CoroutineOk cfg requests warmUps r c) :
    CoroutineOk cfg requests' warmUps' r c := by
  obtain ⟨request, hrequest, hid⟩ := h.request
  have hrequest' : requests'[r]? = some request := by
    obtain ⟨later, rfl⟩ := hr
    rw [List.getElem?_append_left (List.getElem?_eq_some_iff.mp hrequest).1]
    exact hrequest
  refine
    { request := ⟨request, hrequest', hid⟩
      running := fun instanceId input produced hstage => ?_
      replayTokens := fun first hfirst => (h.replayTokens first hfirst).mono hr hw
      recoveryState := fun hpolicy state hstate => (h.recoveryState hpolicy state hstate).mono hr hw
      forceStateRecovery := h.forceStateRecovery }
  obtain ⟨hinput, hproduced⟩ := h.running instanceId input produced hstage
  refine ⟨fun request' hrequest'' => ?_, hproduced⟩
  obtain rfl := Option.some.inj (hrequest'.symm.trans hrequest'')
  exact hinput request hrequest

theorem CoroutineOk.recorded (h : CoroutineOk cfg requests warmUps r c)
    {instanceId : String} {input produced : List Token}
    (hstage : c.stage = .running instanceId input produced) (shown : ℕ) :
    Recorded requests warmUps c.requestId (input ++ produced.take shown) := by
  obtain ⟨request, hrequest, hid⟩ := h.request
  obtain ⟨hinput, hproduced⟩ := h.running instanceId input produced hstage
  refine .inr ⟨r, request, hrequest, hid, (hinput request hrequest).append ?_⟩
  exact fun token htoken => hproduced token (List.mem_of_mem_take htoken)

theorem CoroutineOk.currentOutput (h : CoroutineOk cfg requests warmUps r c) (shown : Option ℕ) :
    ∀ s ∈ c.currentOutput shown, Recorded requests warmUps s.recordedFor s.tokens := by
  intro s hs
  unfold Coroutine.currentOutput at hs
  split at hs
  · obtain rfl := List.mem_singleton.mp hs
    exact h.recorded ‹_› _
  · exact absurd hs (by simp)

end CoroutineOk

/-- The same of a request whose attempt has failed, before replay tokens that the policy does not
use are dropped. -/
structure RecoveryOk (cfg : RecoveryConfig) (requests : List Request) (warmUps : List String)
    (r : ℕ) (c : Coroutine) : Prop where
  request : ∃ request, requests[r]? = some request ∧ request.requestId = c.requestId
  replayTokens : cfg.Replays →
    ∀ first ∈ firstOf c.replayTokens, IsFor requests warmUps c.requestId first
  recoveryState : cfg.recoveryPolicy = .statefulRecovery →
    ∀ state ∈ c.recoveryState, IsFor requests warmUps c.requestId state
  forceStateRecovery : c.forceStateRecovery = true → cfg.recoveryPolicy = .statefulRecovery

/-- **The invariant.**  Request ids are told apart, and what is recorded for one of them, in a
trace, for an instance or for a migration, extends the prompt of its request. -/
structure TokenMachine.Attributed (m : TokenMachine) (cfg : RecoveryConfig) : Prop where
  distinct : (m.requests.map Request.requestId).Nodup
  separate : ∀ request ∈ m.requests, request.requestId ∉ m.warmUps
  traced : ∀ instanceId requestId result, (m.trace instanceId).get? requestId = some result →
    Recorded m.requests m.warmUps requestId result.tokens
  kept : ∀ instanceId tokens, m.recoveryTokensByInstance.get? instanceId = some tokens →
    ∀ s ∈ tokens, Recorded m.requests m.warmUps s.recordedFor s.tokens
  inflight : cfg.Replays → ∀ requestId entry, m.inflightRequests.get? requestId = some entry →
    ∀ state ∈ entry.migrationState, IsFor m.requests m.warmUps requestId state
  coroutines : ∀ r c, m.coroutines.get? r = some c → CoroutineOk cfg m.requests m.warmUps r c
  isolated : m.Isolated

namespace TokenMachine

variable {m : TokenMachine} {cfg : RecoveryConfig}

theorem Attributed.extends {requestId : String} {tokens : List Token} (h : m.Attributed cfg) {r : ℕ}
    {request : Request} (hrequest : m.requests[r]? = some request)
    (hid : request.requestId = requestId) (ht : Recorded m.requests m.warmUps requestId tokens) :
    request.Extends r tokens := by
  subst hid
  rcases ht with hw | ⟨r', request', hrequest', hid', ht⟩
  · exact absurd hw (h.separate request (List.mem_of_getElem? hrequest))
  · have hlt : r < (m.requests.map Request.requestId).length := by
      rw [List.length_map]
      exact (List.getElem?_eq_some_iff.mp hrequest).1
    have hrr' : r = r' := by
      refine (List.getElem?_inj hlt h.distinct).mp ?_
      rw [List.getElem?_map, List.getElem?_map, hrequest, hrequest']
      simp [hid']
    subst hrr'
    obtain rfl : request = request' := Option.some.inj (hrequest.symm.trans hrequest')
    exact ht

/-! ## The parts of a step -/

theorem Attributed.setCoroutine (h : m.Attributed cfg) {r : ℕ} {c : Coroutine}
    (hc : CoroutineOk cfg m.requests m.warmUps r c) : (m.setCoroutine r c).Attributed cfg := by
  refine { h with coroutines := ?_ }
  intro r' c' hc'
  rw [TokenMachine.setCoroutine, OrderedDict.get?_set] at hc'
  split_ifs at hc' with hr
  · subst hr
    obtain rfl := Option.some.inj hc'
    exact hc
  · exact h.coroutines r' c' hc'

theorem Attributed.finish (h : m.Attributed cfg) (r : ℕ) (c : Coroutine) :
    (m.finish r c).Attributed cfg := by
  refine { h with inflight := ?_, coroutines := ?_ }
  · intro hcfg requestId entry hentry
    rw [TokenMachine.finish, OrderedDict.get?_erase] at hentry
    split_ifs at hentry
    exact h.inflight hcfg requestId entry hentry
  · intro r' c' hc'
    rw [TokenMachine.finish, OrderedDict.get?_erase] at hc'
    split_ifs at hc'
    exact h.coroutines r' c' hc'

theorem Attributed.setTrace (h : m.Attributed cfg) (instanceId : String)
    {trace : OrderedDict String RequestOutput}
    (htrace : ∀ requestId result, trace.get? requestId = some result →
      Recorded m.requests m.warmUps requestId result.tokens) :
    (m.setTrace instanceId trace).Attributed cfg := by
  refine { h with traced := ?_ }
  intro instanceId' requestId result hresult
  rw [TokenMachine.trace, TokenMachine.setTrace, OrderedDict.get?_set] at hresult
  split_ifs at hresult with hi
  · exact htrace requestId result hresult
  · exact h.traced instanceId' requestId result hresult

theorem Attributed.dropTrace (h : m.Attributed cfg) (instanceId requestId : String) (kept : Bool) :
    (m.dropTrace instanceId requestId kept).Attributed cfg := by
  unfold TokenMachine.dropTrace
  split_ifs
  · exact h
  · refine h.setTrace instanceId ?_
    intro requestId' result hresult
    rw [OrderedDict.get?_erase] at hresult
    split_ifs at hresult
    exact h.traced instanceId requestId' result hresult

theorem Attributed.keep (h : m.Attributed cfg) (instanceId : String) {tokens : List Sequence}
    (htokens : ∀ s ∈ tokens, Recorded m.requests m.warmUps s.recordedFor s.tokens) :
    (m.keep instanceId tokens).Attributed cfg := by
  refine { h with kept := ?_ }
  intro instanceId' tokens' htokens'
  rw [TokenMachine.keep, OrderedDict.get?_set] at htokens'
  split_ifs at htokens'
  · obtain rfl := Option.some.inj htokens'
    exact htokens
  · exact h.kept instanceId' tokens' htokens'

theorem Attributed.setInflight (h : m.Attributed cfg) (requestId : String)
    {entry : InflightRequest} (hentry : cfg.Replays → ∀ state ∈ entry.migrationState,
      IsFor m.requests m.warmUps requestId state) :
    ({ m with inflightRequests := m.inflightRequests.set requestId entry } :
      TokenMachine).Attributed cfg := by
  refine { h with inflight := ?_ }
  intro hcfg requestId' entry' hentry'
  rw [OrderedDict.get?_set] at hentry'
  split_ifs at hentry' with hid
  · subst hid
    obtain rfl := Option.some.inj hentry'
    exact hentry hcfg
  · exact h.inflight hcfg requestId' entry' hentry'

/-! ## Capturing tokens -/

theorem Attributed.getCurrentTokens (h : m.Attributed cfg) (instanceId : String) (running : Bool) :
    ∀ s ∈ m.getCurrentTokens instanceId running,
      Recorded m.requests m.warmUps s.recordedFor s.tokens := by
  intro s hs
  unfold TokenMachine.getCurrentTokens at hs
  split_ifs at hs
  · obtain ⟨⟨requestId, result⟩, hentry, hs⟩ := List.mem_filterMap.mp hs
    dsimp only at hs
    split_ifs at hs
    obtain rfl := Option.some.inj hs
    exact h.traced instanceId requestId result ((m.trace instanceId).mem_entries_iff.mp hentry)
  · exact absurd hs (by simp)

theorem Attributed.hookTokens (h : m.Attributed cfg) (instanceId requestId : String) (shown : ℕ)
    (hne : m.hookTokens instanceId requestId shown ≠ []) :
    Recorded m.requests m.warmUps requestId (m.hookTokens instanceId requestId shown) := by
  unfold TokenMachine.hookTokens at hne ⊢
  cases hfind : m.coroutines.values.findSome? (·.onEngine instanceId requestId shown) with
  | none => exact absurd (by rw [hfind]; rfl) hne
  | some tokens =>
    obtain ⟨c, hc, htokens⟩ := List.exists_of_findSome?_eq_some hfind
    obtain ⟨r, hc⟩ := m.coroutines.mem_values_iff.mp hc
    have hok := h.coroutines r c hc
    rw [Option.getD_some]
    unfold Coroutine.onEngine at htokens
    split at htokens
    · rename_i i input produced hstage
      split_ifs at htokens with hi
      obtain rfl := Option.some.inj htokens
      exact hi.2 ▸ hok.recorded hstage shown
    · exact absurd htokens (by simp)

theorem Attributed.runtimeTokens (h : m.Attributed cfg) (instanceId requestId : String)
    (hook : Option ℕ) (hne : m.runtimeTokens instanceId requestId hook ≠ []) :
    Recorded m.requests m.warmUps requestId (m.runtimeTokens instanceId requestId hook) := by
  unfold TokenMachine.runtimeTokens at hne ⊢
  dsimp only at hne ⊢
  split_ifs at hne ⊢ with hlive
  · cases hresult : (m.trace instanceId).get? requestId with
    | none => exact absurd (by rw [hresult]; rfl) hne
    | some result => exact h.traced instanceId requestId result hresult
  · cases hook with
    | none => exact absurd rfl hlive
    | some shown => exact h.hookTokens instanceId requestId shown hlive

/-- Where the tokens of an exported state come from. -/
theorem exportInferenceState_cases (m : TokenMachine) (instanceId requestId : String)
    (hook : Option ℕ) (running : Bool) (currentOutput : Option (List Sequence)) :
    let state := m.exportInferenceState instanceId requestId hook running currentOutput
    state = ⟨requestId, m.runtimeTokens instanceId requestId hook⟩ ∨
      (currentOutput.getD []).head? = some state ∨
      (currentOutput = none ∧ m.runtimeTokens instanceId requestId hook = [] ∧
        (m.getCurrentTokens instanceId running).head? = some state) := by
  unfold TokenMachine.exportInferenceState
  cases currentOutput with
  | some current =>
    dsimp only
    split
    · split_ifs
      · exact .inl rfl
      · exact .inr (.inl ‹_›)
    · exact .inl rfl
  | none =>
    dsimp only
    by_cases hruntime : m.runtimeTokens instanceId requestId hook = []
    · rw [if_pos hruntime]
      split
      · split_ifs
        · exact .inl rfl
        · exact .inr (.inr ⟨rfl, hruntime, ‹_›⟩)
      · exact .inl rfl
    · rw [if_neg hruntime]
      simp

/-- A capture changes nothing but what is kept for the instances. -/
structure Captures (cfg : RecoveryConfig) (m m' : TokenMachine) : Prop where
  attributed : m'.Attributed cfg
  same : ∃ kept, m' = { m with recoveryTokensByInstance := kept }

theorem captureCurrentTokens_captures (h : m.Attributed cfg) (instanceId : String)
    (running : Bool) : Captures cfg m (m.captureCurrentTokens instanceId running).2 := by
  unfold captureCurrentTokens
  dsimp only
  split_ifs
  · exact ⟨h, _, rfl⟩
  · exact ⟨h.keep instanceId (h.getCurrentTokens instanceId running), _, rfl⟩

theorem captureCurrentTokens_fst (m : TokenMachine) (instanceId : String) (running : Bool) :
    (m.captureCurrentTokens instanceId running).1 = m.getCurrentTokens instanceId running := by
  unfold captureCurrentTokens
  dsimp only
  split_ifs with htokens
  · exact htokens.symm
  · rfl

theorem keepState_captures (h : m.Attributed cfg) (instanceId : String) {state : Sequence}
    (hstate : state.tokens ≠ [] → Recorded m.requests m.warmUps state.recordedFor state.tokens) :
    Captures cfg m (m.keepState instanceId state).2 := by
  unfold keepState
  split_ifs with htokens
  · exact ⟨h, _, rfl⟩
  · refine ⟨h.keep instanceId ?_, _, rfl⟩
    intro s hs
    obtain rfl := List.mem_singleton.mp hs
    exact hstate htokens

theorem mem_keepState_fst {instanceId : String} {state s : Sequence}
    (hs : s ∈ (m.keepState instanceId state).1) : s = state ∧ state.tokens ≠ [] := by
  unfold keepState at hs
  split_ifs at hs with htokens
  · exact absurd hs (by simp)
  · exact ⟨(Option.some.inj hs).symm, htokens⟩

/-- What `_capture_inference_state` returns, before it is kept. -/
def chosenState (m : TokenMachine) (instanceId requestId : String) (hook : Option ℕ)
    (running : Bool) (currentOutput : Option (List Sequence)) : Sequence :=
  let state := m.exportInferenceState instanceId requestId hook running currentOutput
  match (currentOutput.getD []).head? with
  | some first => if state.tokens = [] then first else state
  | none => state

theorem chosenState_cases (m : TokenMachine) (instanceId requestId : String)
    (hook : Option ℕ) (running : Bool) (currentOutput : Option (List Sequence)) :
    let state := m.chosenState instanceId requestId hook running currentOutput
    state = ⟨requestId, m.runtimeTokens instanceId requestId hook⟩ ∨
      (currentOutput.getD []).head? = some state ∨
      (currentOutput = none ∧ m.runtimeTokens instanceId requestId hook = [] ∧
        (m.getCurrentTokens instanceId running).head? = some state) := by
  have hexport := m.exportInferenceState_cases instanceId requestId hook running currentOutput
  unfold chosenState
  dsimp only at hexport ⊢
  split
  · split_ifs
    · exact .inr (.inl ‹_›)
    · exact hexport
  · exact hexport

/-- **A captured state.**  It is attributed to the request it was recorded for, and when the export
takes the request's own tokens, that is the request asked about. -/
theorem captureInferenceState_spec (h : m.Attributed cfg) (instanceId requestId : String)
    (currentOutput : Option (List Sequence)) (reply : ExportReply)
    (hcurrent : ∀ s ∈ currentOutput.getD [],
      Recorded m.requests m.warmUps s.recordedFor s.tokens) :
    let result := m.captureInferenceState instanceId requestId currentOutput reply
    Captures cfg m result.2 ∧ (m.ExportsOwn instanceId requestId currentOutput reply →
      ∀ s ∈ result.1, IsFor m.requests m.warmUps requestId s) := by
  cases reply with
  | noBackend => exact ⟨⟨h, _, rfl⟩, fun _ s hs => absurd hs (by simp [captureInferenceState])⟩
  | answered hook running =>
    have hchosen : (m.captureInferenceState instanceId requestId currentOutput
        (.answered hook running)) = m.keepState instanceId
          (m.chosenState instanceId requestId hook running currentOutput) := rfl
    have hcases := m.chosenState_cases instanceId requestId hook running currentOutput
    rw [hchosen]
    generalize m.chosenState instanceId requestId hook running currentOutput = state at hcases ⊢
    have hrecorded : state.tokens ≠ [] →
        Recorded m.requests m.warmUps state.recordedFor state.tokens := by
      intro hne
      rcases hcases with rfl | hhead | ⟨-, -, hhead⟩
      · exact h.runtimeTokens instanceId requestId hook hne
      · exact hcurrent state (List.mem_of_head? hhead)
      · exact h.getCurrentTokens instanceId running state (List.mem_of_head? hhead)
    refine ⟨keepState_captures h instanceId hrecorded, ?_⟩
    rintro ⟨hown, hown'⟩ s hs
    obtain ⟨rfl, hne⟩ := mem_keepState_fst hs
    have hid : s.recordedFor = requestId := by
      rcases hcases with rfl | hhead | ⟨hnone, hruntime, hhead⟩
      · rfl
      · exact hown s hhead
      · exact hown' hnone hruntime s hhead
    exact ⟨hid, hid ▸ hrecorded hne⟩
  | raised running =>
    dsimp only [captureInferenceState]
    cases houtput : currentOutput.getD [] with
    | cons first rest =>
      have hfirst : first ∈ currentOutput.getD [] := by
        rw [houtput]
        exact List.mem_cons_self
      refine ⟨keepState_captures h instanceId fun _ => hcurrent first hfirst, ?_⟩
      rintro ⟨hown, -⟩ s hs
      obtain ⟨rfl, -⟩ := mem_keepState_fst hs
      have hid := hown s (by rw [houtput]; rfl)
      exact ⟨hid, hid ▸ hcurrent s hfirst⟩
    | nil =>
      have hcaptures := captureCurrentTokens_captures h instanceId running
      have htokens := m.captureCurrentTokens_fst instanceId running
      generalize m.captureCurrentTokens instanceId running = captured at hcaptures htokens ⊢
      obtain ⟨tokens, m'⟩ := captured
      dsimp only at hcaptures htokens ⊢
      cases tokens with
      | nil => exact ⟨hcaptures, fun _ s hs => absurd hs (by simp)⟩
      | cons first rest =>
        dsimp only
        obtain ⟨h', kept, rfl⟩ := hcaptures
        have hfirst := h.getCurrentTokens instanceId running first
          (htokens ▸ List.mem_cons_self)
        obtain ⟨h'', kept', hkept'⟩ := keepState_captures h' instanceId fun _ => hfirst
        refine ⟨⟨h'', kept', hkept'⟩, ?_⟩
        rintro ⟨-, hown⟩ s hs
        obtain ⟨rfl, -⟩ := mem_keepState_fst hs
        have hid := hown houtput s (by rw [← htokens]; rfl)
        exact ⟨hid, hid ▸ hfirst⟩

/-! ## The end of an attempt -/

theorem Attributed.afterFailure (h : m.Attributed cfg) {r : ℕ} {c : Coroutine}
    (hc : RecoveryOk cfg m.requests m.warmUps r c) (shouldRetry : Bool) :
    (m.afterFailure cfg r c shouldRetry).Attributed cfg := by
  unfold TokenMachine.afterFailure
  split_ifs
  · refine h.setCoroutine
      { request := hc.request
        running := fun _ _ _ hstage => absurd hstage (by simp)
        replayTokens := ?_
        recoveryState := hc.recoveryState
        forceStateRecovery := hc.forceStateRecovery }
    intro first hfirst
    unfold RecoveryConfig.keepReplay at hfirst
    split at hfirst
    · exact hc.replayTokens (.inl ‹_›) first hfirst
    · exact hc.replayTokens (.inr ‹_›) first hfirst
    · exact absurd hfirst (by simp [firstOf])
    · exact absurd hfirst (by simp [firstOf])
  · exact h.finish r c

theorem Attributed.afterResult (h : m.Attributed cfg) {r : ℕ} {c : Coroutine}
    (hc : RecoveryOk cfg m.requests m.warmUps r c) : (m.afterResult cfg r c).Attributed cfg := by
  refine h.afterFailure ?_ _
  exact ⟨hc.request, hc.replayTokens, hc.recoveryState, hc.forceStateRecovery⟩

theorem firstOf_isFor {requests : List Request} {warmUps : List String} {requestId : String}
    {tokens : Option (List Sequence)}
    (htokens : ∀ s ∈ tokens.getD [], Recorded requests warmUps s.recordedFor s.tokens)
    (hown : FirstIsOwn requestId (tokens.getD [])) :
    ∀ first ∈ firstOf tokens, IsFor requests warmUps requestId first := by
  intro first hfirst
  have hid := hown first hfirst
  exact ⟨hid, hid ▸ htokens first (List.mem_of_head? hfirst)⟩

theorem RecoversOwn.firstIsOwn {instanceId requestId : String}
    {replay : Option (List Sequence)} {reply : ExportReply}
    (h : m.RecoversOwn cfg instanceId requestId (replay.getD []) replay reply)
    (hcfg : cfg.Replays) : FirstIsOwn requestId (replay.getD []) := by
  unfold RecoversOwn at h
  rcases hcfg with hpolicy | hpolicy <;> rw [hpolicy] at h
  · exact h
  · exact h.1

theorem RecoversOwn.exportsOwn {instanceId requestId : String} {replay : List Sequence}
    {currentOutput : Option (List Sequence)} {reply : ExportReply}
    (h : m.RecoversOwn cfg instanceId requestId replay currentOutput reply)
    (hpolicy : cfg.recoveryPolicy = .statefulRecovery) :
    m.ExportsOwn instanceId requestId currentOutput reply := by
  unfold RecoversOwn at h
  rw [hpolicy] at h
  exact h

theorem Attributed.onFailedResult (h : m.Attributed cfg) {r : ℕ} {c : Coroutine}
    (hc : CoroutineOk cfg m.requests m.warmUps r c) {instanceId : String}
    {replay : Option (List Sequence)} {reply : ExportReply}
    (hreplay : ∀ s ∈ replay.getD [], Recorded m.requests m.warmUps s.recordedFor s.tokens)
    (hown : m.RecoversOwn cfg instanceId c.requestId (replay.getD []) replay reply) :
    (m.onFailedResult cfg r c instanceId replay reply).Attributed cfg := by
  have hfirst : cfg.Replays → ∀ first ∈ firstOf replay,
      IsFor m.requests m.warmUps c.requestId first :=
    fun hcfg => firstOf_isFor hreplay (hown.firstIsOwn hcfg)
  unfold TokenMachine.onFailedResult
  dsimp only
  split_ifs with hpolicy
  · obtain ⟨⟨h', kept, hkept⟩, hstate⟩ :=
      captureInferenceState_spec h instanceId c.requestId replay reply hreplay
    generalize m.captureInferenceState instanceId c.requestId replay reply = result at *
    obtain ⟨state, m'⟩ := result
    obtain rfl := hkept
    refine h'.afterResult ?_
    exact ⟨hc.request, hfirst, fun _ => hstate (hown.exportsOwn hpolicy), hc.forceStateRecovery⟩
  · refine h.afterResult ?_
    exact ⟨hc.request, hfirst, hc.recoveryState, hc.forceStateRecovery⟩

theorem Attributed.onException (h : m.Attributed cfg) {r : ℕ} {c : Coroutine}
    (hc : CoroutineOk cfg m.requests m.warmUps r c) {instanceId : String} {reply : ExportReply}
    (hown : m.RecoversOwn cfg instanceId c.requestId (m.getCurrentTokens instanceId reply.running)
      none reply) :
    (m.onException cfg r c instanceId reply).Attributed cfg := by
  unfold TokenMachine.onException
  dsimp only
  split_ifs with hpolicy
  · obtain ⟨⟨h', kept, hkept⟩, hstate⟩ :=
      captureInferenceState_spec h instanceId c.requestId none reply (by simp)
    generalize m.captureInferenceState instanceId c.requestId none reply = result at *
    obtain ⟨state, m'⟩ := result
    obtain rfl := hkept
    have hstate := hstate (hown.exportsOwn hpolicy)
    refine h'.afterFailure ?_ _
    refine ⟨hc.request, fun _ => ?_, fun _ => hstate, hc.forceStateRecovery⟩
    cases state with
    | none => simp [firstOf]
    | some state => simpa [firstOf] using hstate
  · obtain ⟨h', kept, hkept⟩ := captureCurrentTokens_captures h instanceId reply.running
    have htokens := m.captureCurrentTokens_fst instanceId reply.running
    generalize m.captureCurrentTokens instanceId reply.running = result at *
    obtain ⟨tokens, m'⟩ := result
    obtain rfl := hkept
    obtain rfl : tokens = _ := htokens
    refine h'.afterFailure ?_ _
    refine ⟨hc.request, fun hcfg => ?_, hc.recoveryState, hc.forceStateRecovery⟩
    refine firstOf_isFor (h.getCurrentTokens instanceId reply.running) ?_
    unfold RecoversOwn at hown
    rw [hcfg.resolve_right hpolicy] at hown
    exact hown

theorem Attributed.onReparallelized (h : m.Attributed cfg) {r : ℕ} {c : Coroutine}
    (hc : CoroutineOk cfg m.requests m.warmUps r c) :
    (m.onReparallelized cfg r c).Attributed cfg := by
  have hstate : cfg.Replays →
      ∀ state ∈ (m.inflightRequests.get? c.requestId).bind InflightRequest.migrationState,
        IsFor m.requests m.warmUps c.requestId state := by
    intro hcfg state hstate
    obtain ⟨entry, hentry, hstate⟩ := Option.bind_eq_some_iff.mp hstate
    exact h.inflight hcfg c.requestId entry hentry state hstate
  refine h.afterResult ?_
  refine ⟨hc.request, fun hcfg first hfirst => ?_, fun hpolicy => hstate (.inr hpolicy),
    fun hforce => ?_⟩
  · refine hstate hcfg first ?_
    dsimp only at hfirst
    generalize (m.inflightRequests.get? c.requestId).bind InflightRequest.migrationState =
      migrationState at hfirst ⊢
    cases migrationState with
    | none => exact absurd hfirst (by simp [firstOf])
    | some state =>
      rw [Option.bind_some] at hfirst
      split_ifs at hfirst
      · exact absurd hfirst (by simp [firstOf])
      · simpa [firstOf] using hfirst
  · exact (of_decide_eq_true hforce).2

/-! ## One step -/

/-- The input of the next attempt is the request's own, and so is what is left to be replayed. -/
theorem Attributed.input (h : m.Attributed cfg) {r : ℕ} {c : Coroutine} {request : Request}
    (hc : CoroutineOk cfg m.requests m.warmUps r c) (hrequest : m.requests[r]? = some request)
    (restored : Bool) :
    request.Extends r (c.input cfg request.prompt restored).1 ∧
      ∀ first ∈ firstOf (c.input cfg request.prompt restored).2,
        IsFor m.requests m.warmUps c.requestId first := by
  have hid : request.requestId = c.requestId := by
    obtain ⟨request', hrequest', hid⟩ := hc.request
    obtain rfl := Option.some.inj (hrequest.symm.trans hrequest')
    exact hid
  have hreplayed : request.Extends r
      (((firstOf c.replayTokens).map Sequence.tokens).getD request.prompt) := by
    cases hfirst : firstOf c.replayTokens with
    | none => exact request.extends_prompt r
    | some first => exact h.extends hrequest hid (hc.replayTokens first hfirst).2
  unfold Coroutine.input
  dsimp only
  split
  · rename_i state hstate
    have hown : cfg.recoveryPolicy = .statefulRecovery ∨ c.forceStateRecovery = true →
        IsFor m.requests m.warmUps c.requestId state :=
      fun huse => hc.recoveryState (huse.elim id hc.forceStateRecovery) state hstate
    split_ifs with huse hempty hrestored
    · exact ⟨request.extends_prompt r, by simp [firstOf]⟩
    · exact ⟨h.extends hrequest hid (hown huse).2, by simp [firstOf]⟩
    · exact ⟨h.extends hrequest hid (hown huse).2, by simpa [firstOf] using hown huse⟩
    · exact ⟨hreplayed, hc.replayTokens⟩
  · exact ⟨hreplayed, hc.replayTokens⟩

theorem Attributed.arrive (h : m.Attributed cfg) {requestId : String} (prompt : List Token)
    (hnew : ∀ request ∈ m.requests, request.requestId ≠ requestId)
    (hwarm : requestId ∉ m.warmUps) :
    ({ m with
      requests := m.requests ++ [⟨requestId, prompt⟩]
      coroutines := m.coroutines.set m.requests.length { requestId := requestId } } :
        TokenMachine).Attributed cfg := by
  have hr : m.requests <+: m.requests ++ [⟨requestId, prompt⟩] := List.prefix_append _ _
  have hw : m.warmUps ⊆ m.warmUps := List.Subset.refl _
  refine
    { distinct := ?_
      separate := ?_
      traced := fun i id result hresult => (h.traced i id result hresult).mono hr hw
      kept := fun i tokens htokens s hs => (h.kept i tokens htokens s hs).mono hr hw
      inflight := fun hcfg id entry hentry state hstate =>
        (h.inflight hcfg id entry hentry state hstate).mono hr hw
      coroutines := ?_
      isolated := ?_ }
  · rw [List.map_append, List.nodup_append]
    refine ⟨h.distinct, List.nodup_singleton _, ?_⟩
    intro id hid id' hid'
    obtain ⟨request, hrequest, rfl⟩ := List.mem_map.mp hid
    obtain rfl : id' = requestId := by simpa using hid'
    exact hnew request hrequest
  · intro request hrequest
    rcases List.mem_append.mp hrequest with hrequest | hrequest
    · exact h.separate request hrequest
    · obtain rfl := List.mem_singleton.mp hrequest
      exact hwarm
  · intro r c hc
    rw [OrderedDict.get?_set] at hc
    split_ifs at hc with heq
    · subst heq
      obtain rfl := Option.some.inj hc
      exact
        { request := ⟨⟨requestId, prompt⟩, by simp, rfl⟩
          running := fun _ _ _ hstage => absurd hstage (by simp)
          replayTokens := by simp [firstOf]
          recoveryState := by simp
          forceStateRecovery := by simp }
    · exact (h.coroutines r c hc).mono hr hw
  · intro call hcall
    obtain ⟨request, hrequest, hextends⟩ := h.isolated call hcall
    refine ⟨request, ?_, hextends⟩
    rw [Option.mem_def, List.getElem?_append_left (List.getElem?_eq_some_iff.mp hrequest).1]
    exact hrequest

theorem Attributed.warmUp (h : m.Attributed cfg) {requestId : String}
    (hnew : ∀ request ∈ m.requests, request.requestId ≠ requestId) :
    ({ m with warmUps := requestId :: m.warmUps } : TokenMachine).Attributed cfg := by
  have hr : m.requests <+: m.requests := List.prefix_rfl
  have hw : m.warmUps ⊆ requestId :: m.warmUps := List.subset_cons_self _ _
  refine
    { distinct := h.distinct
      separate := ?_
      traced := fun i id result hresult => (h.traced i id result hresult).mono hr hw
      kept := fun i tokens htokens s hs => (h.kept i tokens htokens s hs).mono hr hw
      inflight := fun hcfg id entry hentry state hstate =>
        (h.inflight hcfg id entry hentry state hstate).mono hr hw
      coroutines := fun r c hc => (h.coroutines r c hc).mono hr hw
      isolated := h.isolated }
  intro request hrequest hmem
  rcases List.mem_cons.mp hmem with hid | hmem
  · exact hnew request hrequest hid
  · exact h.separate request hrequest hmem

theorem Attributed.send (h : m.Attributed cfg) {r : ℕ} {c : Coroutine} {request : Request}
    {input : List Token} (hrequest : m.requests[r]? = some request)
    (hinput : request.Extends r input) (hc : CoroutineOk cfg m.requests m.warmUps r c) :
    ({ m.setCoroutine r c with sent := m.sent ++ [(r, input)] } :
      TokenMachine).Attributed cfg := by
  refine { h.setCoroutine hc with isolated := ?_ }
  intro call hcall
  rcases List.mem_append.mp hcall with hcall | hcall
  · exact h.isolated call hcall
  · obtain rfl := List.mem_singleton.mp hcall
    exact ⟨request, hrequest, hinput⟩

@[simp] theorem coroutines_dropTrace (m : TokenMachine) (instanceId requestId : String)
    (kept : Bool) : (m.dropTrace instanceId requestId kept).coroutines = m.coroutines := by
  unfold TokenMachine.dropTrace
  split_ifs
  · rfl
  · rfl

theorem Attributed.prepare (h : m.Attributed cfg) {requestId : String} {entry : InflightRequest}
    {reply : ExportReply} (hown : cfg.Replays → m.ExportsOwn entry.instanceId requestId none reply) :
    let result := m.captureInferenceState entry.instanceId requestId none reply
    ({ result.2 with
      inflightRequests := result.2.inflightRequests.set requestId
        { entry with migrationState := result.1 } } : TokenMachine).Attributed cfg := by
  obtain ⟨⟨h', kept, hkept⟩, hstate⟩ :=
    captureInferenceState_spec h entry.instanceId requestId none reply (by simp)
  generalize m.captureInferenceState entry.instanceId requestId none reply = result at *
  obtain ⟨state, m'⟩ := result
  obtain rfl := hkept
  exact h'.setInflight requestId fun hcfg => hstate (hown hcfg)

/-- **A step** in which requests are resumed with their own tokens keeps the invariant. -/
theorem Attributed.step (h : m.Attributed cfg) {a : TokenAction} {m' : TokenMachine}
    (hown : OwnTokens cfg m a) (hstep : m.step cfg a = some m') : m'.Attributed cfg := by
  cases a with
  | arrive requestId prompt =>
    obtain rfl := Option.some.inj hstep
    exact h.arrive prompt hown.1 hown.2
  | assign r instanceId =>
    obtain ⟨c, hc, hstep⟩ := Option.bind_eq_some_iff.mp hstep
    obtain ⟨-, -, hstep⟩ := Option.bind_eq_some_iff.mp hstep
    obtain rfl := Option.some.inj hstep
    refine Attributed.setCoroutine (h.setInflight c.requestId fun hcfg state hstate => ?_) ?_
    · obtain ⟨entry, hentry, hstate⟩ := Option.bind_eq_some_iff.mp hstate
      exact h.inflight hcfg c.requestId entry hentry state hstate
    · exact { h.coroutines r c hc with running := fun _ _ _ hstage => absurd hstage (by simp) }
  | send r restored =>
    obtain ⟨c, hc, hstep⟩ := Option.bind_eq_some_iff.mp hstep
    obtain ⟨request, hrequest, hstep⟩ := Option.bind_eq_some_iff.mp hstep
    have hc := h.coroutines r c hc
    split at hstep
    · obtain rfl := Option.some.inj hstep
      obtain ⟨hinput, hreplay⟩ := h.input hc hrequest restored
      refine h.send hrequest hinput
        { hc with running := ?_, replayTokens := hreplay, forceStateRecovery := ?_ }
      · rintro instanceId input produced hstage
        obtain ⟨-, rfl, rfl⟩ := Stage.running.inj hstage
        refine ⟨fun request' hrequest' => ?_, by simp⟩
        obtain rfl := Option.some.inj (hrequest.symm.trans hrequest')
        exact hinput
      · intro hforce
        exact hc.forceStateRecovery (Bool.and_eq_true_iff.mp hforce).1
    · cases hstep
  | generate r token =>
    obtain ⟨c, hc, hstep⟩ := Option.bind_eq_some_iff.mp hstep
    have hc := h.coroutines r c hc
    split at hstep
    · rename_i instanceId input produced hstage
      obtain rfl := Option.some.inj hstep
      obtain ⟨hinput, hproduced⟩ := hc.running instanceId input produced hstage
      refine h.setCoroutine { hc with running := ?_ }
      rintro _ _ _ hstage'
      obtain ⟨-, rfl, rfl⟩ := Stage.running.inj hstage'
      refine ⟨hinput, fun token' htoken' => ?_⟩
      rcases List.mem_append.mp htoken' with htoken' | htoken'
      · exact hproduced token' htoken'
      · rw [List.mem_singleton.mp htoken']
    · cases hstep
  | report r shown =>
    obtain ⟨c, hc, hstep⟩ := Option.bind_eq_some_iff.mp hstep
    have hc := h.coroutines r c hc
    split at hstep
    · rename_i instanceId input produced hstage
      obtain rfl := Option.some.inj hstep
      refine h.setTrace instanceId fun requestId result hresult => ?_
      rw [OrderedDict.get?_set] at hresult
      split_ifs at hresult with hid
      · obtain rfl := Option.some.inj hresult
        exact hid ▸ hc.recorded hstage shown
      · exact h.traced instanceId requestId result hresult
    · cases hstep
  | succeed r debug =>
    obtain ⟨c, hc, hstep⟩ := Option.bind_eq_some_iff.mp hstep
    split at hstep
    · obtain rfl := Option.some.inj hstep
      exact (h.dropTrace _ _ _).finish r c
    · cases hstep
  | preempted r shown kept reply =>
    obtain ⟨c, hc, hstep⟩ := Option.bind_eq_some_iff.mp hstep
    split at hstep
    · rename_i instanceId input produced hstage
      obtain rfl := Option.some.inj hstep
      have h' := h.dropTrace instanceId c.requestId kept
      have hc' := h'.coroutines r c (by rw [coroutines_dropTrace]; exact hc)
      refine h'.onFailedResult hc' (hc'.currentOutput shown) ?_
      exact hown c hc instanceId (by rw [hstage]; rfl)
    · cases hstep
  | errorResult r reply =>
    obtain ⟨c, hc, hstep⟩ := Option.bind_eq_some_iff.mp hstep
    split at hstep
    · rename_i instanceId input produced hstage
      obtain rfl := Option.some.inj hstep
      refine h.onFailedResult (h.coroutines r c hc) ?_
        (hown c hc instanceId (by rw [hstage]; rfl))
      cases hkept : m.recoveryTokensByInstance.get? instanceId with
      | none => simp
      | some tokens => exact h.kept instanceId tokens hkept
    · cases hstep
  | exception r reply =>
    obtain ⟨c, hc, hstep⟩ := Option.bind_eq_some_iff.mp hstep
    have hok := h.coroutines r c hc
    split at hstep
    · rename_i instanceId hinstance
      obtain rfl := Option.some.inj hstep
      exact h.onException hok (hown c hc instanceId hinstance)
    · obtain rfl := Option.some.inj hstep
      refine h.afterFailure ?_ _
      exact ⟨hok.request, fun _ => hok.replayTokens, hok.recoveryState, hok.forceStateRecovery⟩
  | prepare requestId timedOut reply =>
    obtain ⟨entry, hentry, hstep⟩ := Option.bind_eq_some_iff.mp hstep
    cases timedOut with
    | true =>
      obtain rfl := Option.some.inj hstep
      exact h.setInflight requestId fun _ state hstate => absurd hstate (by simp)
    | false =>
      obtain rfl := Option.some.inj hstep
      exact h.prepare (hown entry hentry rfl)
  | reparallelized r =>
    obtain ⟨c, hc, hstep⟩ := Option.bind_eq_some_iff.mp hstep
    split at hstep
    · obtain rfl := Option.some.inj hstep
      have h' := h.dropTrace ‹_› c.requestId false
      exact h'.onReparallelized (h'.coroutines r c (by rw [coroutines_dropTrace]; exact hc))
    · cases hstep
  | collect instanceId =>
    obtain rfl := Option.some.inj hstep
    exact (captureCurrentTokens_captures h instanceId true).attributed
  | warmUp sourceId targetId place requestId token =>
    obtain ⟨_, hnew, hstep⟩ := Option.bind_eq_some_iff.mp hstep
    obtain ⟨kept, hkept, hstep⟩ := Option.bind_eq_some_iff.mp hstep
    obtain ⟨sequence, hsequence, hstep⟩ := Option.bind_eq_some_iff.mp hstep
    obtain rfl := Option.some.inj hstep
    have h' := h.warmUp ((Option.guard_eq_some' _).mp hnew)
    refine h'.setTrace targetId fun requestId' result hresult => ?_
    rw [OrderedDict.get?_set] at hresult
    split_ifs at hresult with hid
    · exact .inl (hid ▸ List.mem_cons_self)
    · exact h'.traced targetId requestId' result hresult
  | warmUpDone targetId requestId =>
    obtain ⟨-, -, hstep⟩ := Option.bind_eq_some_iff.mp hstep
    obtain rfl := Option.some.inj hstep
    exact h.dropTrace targetId requestId false
  | giveUp r =>
    obtain ⟨c, hc, hstep⟩ := Option.bind_eq_some_iff.mp hstep
    obtain rfl := Option.some.inj hstep
    exact h.finish r c

end TokenMachine

/-! ## Whole runs -/

/-- The states of the runs that start with no request. -/
def TokenRuns (cfg : RecoveryConfig) (allowed : TokenMachine → TokenAction → Prop) :
    TokenMachine → Prop :=
  Runs.Reachable (· = {}) (fun m a m' => m.step cfg a = some m') allowed

/-- **Request isolation.**  In every run in which requests have ids of their own and are resumed
where the first tokens are theirs, every backend call is made with an extension of the prompt of
its own request. -/
theorem isolated_of_ownTokens {cfg : RecoveryConfig} {m : TokenMachine}
    (h : TokenRuns cfg (OwnTokens cfg) m) : m.Isolated := by
  have hattributed : m.Attributed cfg := by
    refine Runs.Reachable.invariant (TokenMachine.Attributed · cfg) ?_ ?_ h
    · rintro _ rfl
      exact
        { distinct := List.nodup_nil
          separate := by simp
          traced := fun _ _ _ hresult => absurd hresult (by simp [TokenMachine.trace])
          kept := fun _ _ htokens => absurd htokens (by simp)
          inflight := fun _ _ _ hentry => absurd hentry (by simp)
          coroutines := fun _ _ hc => absurd hc (by simp)
          isolated := by simp [TokenMachine.Isolated] }
    · intro m a m' hinv hown hstep
      exact hinv.step hown hstep
  exact hattributed.isolated

/-- Two requests that one instance works on, each with one token generated. -/
def onOneInstance : List TokenAction :=
  [.arrive "x" [⟨1, none⟩], .assign 0 "a", .send 0 false, .generate 0 7, .report 0 1,
    .arrive "y" [⟨2, none⟩], .assign 1 "a", .send 1 false, .generate 1 8, .report 1 1]

/-- The backend call of a request raises, and the request is retried elsewhere. -/
def failAndRetry (r : ℕ) : List TokenAction :=
  [.exception r (.raised true), .assign r "b", .send r false]

/-- The request whose tokens come first is resumed with them. -/
theorem isolated_firstFails :
    ∃ m, Runs.attempt (TokenMachine.step ⟨.generatedTokenReplay, 1⟩)
        (OwnTokens ⟨.generatedTokenReplay, 1⟩) (onOneInstance ++ failAndRetry 0) {} = some m ∧
      m.sent.getLast? = some (0, [⟨1, none⟩, ⟨7, some 0⟩]) ∧ m.Isolated := by
  have hrun : (Runs.attempt (TokenMachine.step ⟨.generatedTokenReplay, 1⟩)
      (OwnTokens ⟨.generatedTokenReplay, 1⟩) (onOneInstance ++ failAndRetry 0) {}).map
        (·.sent.getLast?) = some (some (0, [⟨1, none⟩, ⟨7, some 0⟩])) := by
    decide +kernel
  obtain ⟨m, hm, hlast⟩ := Option.map_eq_some_iff.mp hrun
  exact ⟨m, hm, hlast, isolated_of_ownTokens (.attempt (.start rfl) hm)⟩

/-- The other one is resumed with the tokens of the first. -/
theorem not_isolated_secondFails :
    ¬ ∀ m, TokenRuns ⟨.generatedTokenReplay, 1⟩ (fun _ _ => True) m → m.Isolated := by
  intro h
  have hrun : (Runs.attempt (TokenMachine.step ⟨.generatedTokenReplay, 1⟩) (fun _ _ => True)
      (onOneInstance ++ failAndRetry 1) {}).map
        (fun m => (m.sent.getLast?, decide m.Isolated)) =
      some (some (1, [⟨1, none⟩, ⟨7, some 0⟩]), false) := by
    decide +kernel
  obtain ⟨m, hm, hpair⟩ := Option.map_eq_some_iff.mp hrun
  exact of_decide_eq_false (Prod.mk.inj hpair).2 (h m (.attempt (.start rfl) hm))

end Router
end SpotServe
