import SpotServe.Library.Runs
import Mathlib.Data.Int.Init

/-!
# What a backend reports of an interrupted attempt, and the request built from it

When an attempt of a request is interrupted, somebody tells the router how far it had come: the
backend's own result, the state it exports, or the router itself when a backend does not answer.
What is told is always a sequence of tokens and a number, `completed_tokens`.  From these the router
(`sllm/routers/roundrobin_router.py`) builds the request of the next attempt, in one of two ways:
`_build_token_replay_request` and `_build_stateful_restore_request`.

The reports are those of the dummy and of the vLLM backend (`sllm/backends/dummy_backend.py`,
`vllm_backend.py`, `vllm_state_metadata.py`, `vllm_response_state.py`).  What an engine knows at the
moment it is asked is a `BackendView`.
-/

namespace SpotServe
namespace Router

open Runs

/-- The backends that can continue from tokens. -/
inductive Backend where
  | dummy
  | vllm
  deriving DecidableEq

/-- `state_kind` -/
inductive StateKind where
  | tokenSnapshot
  | dummyTokenState
  | vllmKvSnapshot
  deriving DecidableEq

/-- `InferenceState` -/
structure InferenceState where
  tokens : List ℤ
  completedTokens : ℕ
  stateKind : StateKind := .tokenSnapshot
  supportsRestore : Bool := false
  deriving DecidableEq

/-- Whether the state comes with KV blocks that an engine can take over. -/
def InferenceState.isNative (state : InferenceState) : Bool :=
  state.stateKind = .vllmKvSnapshot && state.supportsRestore

/-- `request_data`, as far as recovery reads it. -/
structure RequestData where
  /-- Input tokens that the client itself sends. -/
  inputTokens : Option (List ℤ) := none
  maxTokens : Option ℕ := none
  /-- `_completed_tokens` -/
  completedTokens : Option ℕ := none
  deriving DecidableEq

/-- The request that a backend gets. -/
structure BackendRequest where
  inputTokens : Option (List ℤ)
  maxTokens : Option ℕ
  /-- `_spotserve_committed_output_tokens` -/
  committedOutputTokens : List ℤ := []
  /-- `_spotserve_original_prompt_tokens` -/
  originalPromptTokens : Option ℕ := none
  deriving DecidableEq

/-- `max(1, max_tokens - completed_tokens)` -/
def remainingTokens (maxTokens completedTokens : ℕ) : ℕ := max 1 (maxTokens - completedTokens)

/-- `_build_token_replay_request` -/
def buildTokenReplayRequest (data : RequestData) (replayTokens : List (List ℤ)) : BackendRequest :=
  match replayTokens with
  | [] => { inputTokens := data.inputTokens, maxTokens := data.maxTokens }
  | first :: _ =>
    { inputTokens := some first
      maxTokens := match data.completedTokens with
        | some completed => data.maxTokens.map (remainingTokens · completed)
        | none => data.maxTokens }

/-- `_build_stateful_restore_request` -/
def buildStatefulRestoreRequest (backend : Backend) (data : RequestData) (state : InferenceState) :
    Except String BackendRequest := do
  let completed := state.completedTokens
  let carries := backend = .vllm ∧ completed ≠ 0
  require (carries → completed ≤ state.tokens.length) "committed_output_exceeds_visible_tokens"
  return {
    inputTokens := if state.tokens = [] then data.inputTokens else some state.tokens
    maxTokens := if completed = 0 then data.maxTokens
      else data.maxTokens.map (remainingTokens · completed)
    committedOutputTokens :=
      if carries then state.tokens.drop (state.tokens.length - completed) else []
    originalPromptTokens := if carries then some (state.tokens.length - completed) else none }

theorem maxTokens_of_restoreRequest {backend : Backend} {data : RequestData}
    {state : InferenceState} {request : BackendRequest} {maxTokens : ℕ}
    (h : buildStatefulRestoreRequest backend data state = .ok request)
    (hmax : data.maxTokens = some maxTokens) (hleft : state.completedTokens < maxTokens) :
    request.maxTokens = some (max 1 (maxTokens - state.completedTokens)) := by
  obtain ⟨-, h⟩ := of_require_bind h
  obtain rfl := Except.ok.inj h
  by_cases hzero : state.completedTokens = 0
  · -- nothing is taken off a limit that is positive anyway
    have hone : max 1 (maxTokens - state.completedTokens) = maxTokens := by omega
    simp only [hzero, if_true, hmax]
    rw [← hzero, hone]
  · simp only [hzero, if_false, hmax, Option.map_some, remainingTokens]

/-- The restore request carries the last tokens of the state, as many as it counts. -/
theorem committed_of_restoreRequest {data : RequestData} {state : InferenceState}
    {request : BackendRequest} {generated : List ℤ}
    (h : buildStatefulRestoreRequest .vllm data state = .ok request)
    (hsuffix : generated <:+ state.tokens) (hcount : state.completedTokens = generated.length) :
    request.committedOutputTokens = generated := by
  obtain ⟨-, h⟩ := of_require_bind h
  obtain rfl := Except.ok.inj h
  by_cases hzero : state.completedTokens = 0
  · obtain rfl : generated = [] := by
      rw [hcount] at hzero
      exact List.length_eq_zero_iff.mp hzero
    simp [hzero]
  · obtain ⟨visible, hvisible⟩ := hsuffix
    simp only [hzero, ne_eq, not_false_eq_true, and_self, if_true]
    rw [hcount, ← hvisible, List.length_append, Nat.add_sub_cancel]
    exact List.drop_left

theorem maxTokens_of_replayRequest {data : RequestData} {first : List ℤ} {rest : List (List ℤ)}
    {maxTokens : ℕ} (hmax : data.maxTokens = some maxTokens)
    (hleft : data.completedTokens.getD 0 < maxTokens) :
    (buildTokenReplayRequest data (first :: rest)).maxTokens =
      some (max 1 (maxTokens - data.completedTokens.getD 0)) := by
  cases hcompleted : data.completedTokens with
  | none =>
    have hone : max 1 (maxTokens - 0) = maxTokens := by
      rw [hcompleted] at hleft
      simp only [Option.getD_none] at hleft
      omega
    simp only [buildTokenReplayRequest, hcompleted, hmax, Option.getD_none, hone]
  | some completed =>
    simp only [buildTokenReplayRequest, hcompleted, hmax, Option.map_some, Option.getD_some,
      remainingTokens]

/-! ## What the backends report -/

/-- What the vLLM backend knows of one request: from the engine's hook, whose `completed_tokens` is
the engine's `num_computed_tokens`, or from its own trace, which has no such number. -/
structure RuntimeMetadata where
  tokens : List ℤ := []
  completedTokens : Option ℕ := none
  deriving DecidableEq

/-- What a backend can say when it is asked. -/
structure BackendView where
  /-- `get_current_tokens`: sequences of all the requests on the instance. -/
  currentTokens : List (List ℤ) := []
  runtime : RuntimeMetadata := {}
  /-- The state it exports can be restored elsewhere. -/
  restorable : Bool := false
  deriving DecidableEq

/-- `get_vllm_inference_state`, made a snapshot of KV blocks when the engine gives one. -/
def getVllmInferenceState (view : BackendView) (currentOutput : List (List ℤ))
    (completedTokens : Option ℕ) : InferenceState :=
  let tokens := if currentOutput.headD [] = [] then view.runtime.tokens else currentOutput.headD []
  { tokens := tokens
    completedTokens := completedTokens.getD (view.runtime.completedTokens.getD tokens.length)
    stateKind := if view.restorable then .vllmKvSnapshot else .tokenSnapshot
    supportsRestore := view.restorable }

/-- `export_inference_state` of either backend. -/
def Backend.exportInferenceState (backend : Backend) (view : BackendView)
    (currentOutput : Option (List (List ℤ))) (completedTokens : Option ℕ) : InferenceState :=
  match backend with
  | .dummy =>
    let tokens := (if currentOutput.getD [] = [] then view.currentTokens
      else currentOutput.getD []).headD []
    { tokens := tokens
      completedTokens := completedTokens.getD tokens.length
      stateKind := .dummyTokenState
      supportsRestore := view.restorable }
  | .vllm =>
    let known := if view.runtime.tokens = [] then view.currentTokens else [view.runtime.tokens]
    getVllmInferenceState view (currentOutput.getD known) completedTokens

/-- A result that says that the attempt was preempted. -/
structure PreemptedResult where
  currentOutput : List (List ℤ)
  completedTokens : ℕ
  /-- `_spotserve_inference_state` -/
  inferenceState : Option InferenceState := none
  deriving DecidableEq

/-- `_forced_failure_result` of the dummy backend, whose tokens begin with its input. -/
def dummyPreemptedResult (noCurrentTokens : Bool) (generatedTokens : List ℤ) : PreemptedResult where
  currentOutput := if noCurrentTokens then [] else [generatedTokens]
  completedTokens := generatedTokens.length

/-- `_forced_failure_result` of the vLLM backend. -/
def vllmPreemptedResult (view : BackendView) (noCurrentTokens : Bool)
    (promptTokens outputTokens : List ℤ) : PreemptedResult :=
  let currentOutput := if noCurrentTokens then [] else [promptTokens ++ outputTokens]
  { currentOutput := currentOutput
    completedTokens := outputTokens.length
    inferenceState := some (Backend.vllm.exportInferenceState view (some currentOutput)
      (some outputTokens.length)) }

/-- `_reparallelization_abort_result`; `tokens` is the prompt and the output in one sequence, if
there is an output at all. -/
def reparallelizationAbortResult (tokens : List ℤ) : PreemptedResult where
  currentOutput := if tokens = [] then [] else [tokens]
  completedTokens := tokens.length

/-- What comes of asking an instance for the state of a request. -/
inductive InstanceReply where
  /-- There is no backend to ask. -/
  | noBackend
  /-- The export raises; what `get_current_tokens` gives after it. -/
  | raised (currentTokens : List (List ℤ))
  | answered (view : BackendView)
  deriving DecidableEq

/-- `_capture_current_tokens` -/
def InstanceReply.currentTokens : InstanceReply → List (List ℤ)
  | .noBackend => []
  | .raised currentTokens => currentTokens
  | .answered view => view.currentTokens

/-- The end of `_capture_inference_state`: a state without tokens is none. -/
def stateOrNone (state : InferenceState) (currentOutput : List (List ℤ))
    (completedTokens : Option ℕ) : Option InferenceState :=
  let shown := currentOutput.headD []
  if state.tokens ≠ [] then some state
  else if shown ≠ [] then
    some { tokens := shown, completedTokens := completedTokens.getD shown.length }
  else none

/-- `_capture_inference_state`; `exported` is a state that came with the result. -/
def captureInferenceState (backend : Backend) (reply : InstanceReply)
    (currentOutput : Option (List (List ℤ))) (completedTokens : Option ℕ)
    (exported : Option InferenceState) : Option InferenceState :=
  match exported, reply with
  | some state, _ => stateOrNone state (currentOutput.getD []) completedTokens
  | none, .noBackend => none
  | none, .raised currentTokens =>
    match (if currentOutput.getD [] = [] then currentTokens else currentOutput.getD []) with
    | [] => none
    | first :: _ =>
      -- `completed_tokens or len(tokens[0])`: a count of zero is no count
      let completed := if completedTokens.getD 0 = 0 then first.length else completedTokens.getD 0
      stateOrNone { tokens := first, completedTokens := completed } (currentOutput.getD [])
        completedTokens
  | none, .answered view =>
    stateOrNone (backend.exportInferenceState view currentOutput completedTokens)
      (currentOutput.getD []) completedTokens

/-- Whether an instance that is asked about a request without further hints has a token to show. -/
def InstanceReply.showsTokens (backend : Backend) : InstanceReply → Bool
  | .noBackend => false
  | .raised currentTokens => currentTokens.headD [] ≠ []
  | .answered view =>
    match backend with
    | .dummy => view.currentTokens.headD [] ≠ []
    | .vllm => view.runtime.tokens ≠ [] ∨ view.currentTokens.headD [] ≠ []

/-- There is a state exactly if there is a token. -/
theorem captureInferenceState_isSome (backend : Backend) (reply : InstanceReply) :
    (captureInferenceState backend reply none none none).isSome = reply.showsTokens backend := by
  cases reply with
  | noBackend => rfl
  | raised currentTokens =>
    cases currentTokens with
    | nil => rfl
    | cons first rest =>
      by_cases hfirst : first = [] <;>
        simp [captureInferenceState, stateOrNone, InstanceReply.showsTokens, hfirst]
  | answered view =>
    cases backend with
    | dummy =>
      by_cases hfirst : view.currentTokens.headD [] = [] <;>
        simp_all [captureInferenceState, stateOrNone, InstanceReply.showsTokens,
          Backend.exportInferenceState]
    | vllm =>
      by_cases hruntime : view.runtime.tokens = [] <;>
        by_cases hfirst : view.currentTokens.headD [] = [] <;>
        simp_all [captureInferenceState, stateOrNone, InstanceReply.showsTokens,
          Backend.exportInferenceState, getVllmInferenceState]

/-! ## What the target of a retry does with a state -/

/-- The answer of `restore_inference_state`. -/
structure RestoreResult where
  restored : Bool := false
  staged : Bool := false
  restoredBlocks : ℕ := 0
  expectedBlocks : ℕ := 0
  reason : String := ""
  deriving DecidableEq

/-- What the target of a retry says. -/
structure TargetReply where
  /-- The planner allows the restore, the placement is still the one it looked at, and the backend
  supports it. -/
  restoreSupported : Bool := false
  /-- The reason of the selection, else that of the decision. -/
  reason : String := "backend_state_restore"
  result : RestoreResult := {}
  deriving DecidableEq

/-- How `_prepare_stateful_recovery` continues when the state is not restored. -/
def replayFallback (native : Bool) (state : InferenceState) (reason : String) :
    Except String (Option InferenceState × List (List ℤ)) :=
  if native then .error ("native_kv_restore_required:" ++ reason)
  else .ok (none, if state.tokens = [] then [] else [state.tokens])

/-- `_prepare_stateful_recovery` for a state that there is: the state to restore, or else the tokens
to replay. -/
def prepareStatefulRecovery (native : Bool) (state : InferenceState) (target : TargetReply) :
    Except String (Option InferenceState × List (List ℤ)) :=
  let result := target.result
  if native && !state.isNative then .error "native_kv_snapshot_not_restorable"
  else if state.tokens ≠ [] ∧ target.restoreSupported ∧ state.supportsRestore then
    if result.restored then
      if state.stateKind = .vllmKvSnapshot ∧ result.restoredBlocks = 0 then
        if native then .error "native_kv_restore_empty" else .ok (none, [state.tokens])
      else .ok (some state, [])
    else if result.staged then
      if native ∧ result.expectedBlocks = 0 then .error "native_kv_restore_staging_empty"
      else .ok (some state, [])
    else
      replayFallback native state (if result.reason = "" then target.reason else result.reason)
  else replayFallback native state target.reason

/-- What `_prepare_stateful_recovery` can come to. -/
theorem of_prepareStatefulRecovery {native : Bool} {state : InferenceState} {target : TargetReply}
    {snapshot : Option InferenceState} {replay : List (List ℤ)}
    (h : prepareStatefulRecovery native state target = .ok (snapshot, replay)) :
    (snapshot = some state ∧ replay = [] ∧ (native = true → state.isNative = true)) ∨
      (snapshot = none ∧ native = false ∧ ∀ first ∈ replay.head?, first = state.tokens) := by
  have hfallback : ∀ reason, replayFallback native state reason = .ok (snapshot, replay) →
      snapshot = none ∧ native = false ∧ ∀ first ∈ replay.head?, first = state.tokens := by
    intro reason hok
    unfold replayFallback at hok
    split_ifs at hok with hnative htokens
    all_goals
      obtain ⟨rfl, rfl⟩ := Prod.mk.inj (Except.ok.inj hok)
      exact ⟨rfl, by simpa using hnative, by simp⟩
  have hrestore : (native && !state.isNative) ≠ true →
      (Except.ok (some state, []) : Except String _) = .ok (snapshot, replay) →
      snapshot = some state ∧ replay = [] ∧ (native = true → state.isNative = true) := by
    intro hnative hok
    obtain ⟨rfl, rfl⟩ := Prod.mk.inj (Except.ok.inj hok)
    refine ⟨rfl, rfl, ?_⟩
    rintro rfl
    simpa using hnative
  simp only [prepareStatefulRecovery] at h
  split_ifs at h with hnative hsupported hrestored hempty hrequired hstaged
  · obtain ⟨rfl, rfl⟩ := Prod.mk.inj (Except.ok.inj h)
    exact Or.inr ⟨rfl, by simpa using hrequired, by simp⟩
  · exact Or.inl (hrestore hnative h)
  · exact Or.inl (hrestore hnative h)
  all_goals exact Or.inr (hfallback _ h)

/-! ## The response -/

/-- `completed_response_tokens` -/
def completedResponseTokens (committed suffix : List ℤ) (promptTokens : Option ℕ)
    (restoredInput : List ℤ) : Except String (List ℤ) := do
  require (∀ token ∈ committed ++ suffix, 0 ≤ token) "invalid_committed_output_tokens"
  require promptTokens.isSome "invalid_original_prompt_length"
  require (restoredInput = restoredInput.take (promptTokens.getD 0) ++ committed)
    "committed_prefix_does_not_match_restore_input"
  return committed ++ suffix

/-- The output tokens of a response.  The dummy backend lists all the tokens it has. -/
def Backend.responseTokens (backend : Backend) (request : BackendRequest)
    (promptTokens outputTokens : List ℤ) : Except String (List ℤ) :=
  match backend with
  | .dummy => .ok (promptTokens ++ outputTokens)
  | .vllm =>
    if request.committedOutputTokens = [] then .ok outputTokens
    else completedResponseTokens request.committedOutputTokens outputTokens
      request.originalPromptTokens promptTokens

/-- A response of vLLM begins with the committed tokens. -/
theorem of_responseTokens {request : BackendRequest} {promptTokens outputTokens tokens : List ℤ}
    (h : Backend.vllm.responseTokens request promptTokens outputTokens = .ok tokens) :
    tokens = request.committedOutputTokens ++ outputTokens := by
  simp only [Backend.responseTokens] at h
  split_ifs at h with hcommitted
  · rw [hcommitted]
    exact (Except.ok.inj h).symm
  · obtain ⟨-, h⟩ := of_require_bind h
    obtain ⟨-, h⟩ := of_require_bind h
    obtain ⟨-, h⟩ := of_require_bind h
    exact (Except.ok.inj h).symm

/-- `_spotserve_kv_restore` in the result of a restored request. -/
structure KvRestore where
  restored : Bool
  restoredBlocks : ℕ
  cachedTokens : ℕ
  deriving DecidableEq

/-- What the vLLM backend says about the blocks that it was to attach. -/
def kvRestore (backend : Backend) (expectedBlocks cachedTokens : ℕ) : Option KvRestore :=
  if backend = .vllm ∧ expectedBlocks ≠ 0 then
    some { restored := 0 < cachedTokens
           restoredBlocks := if 0 < cachedTokens then expectedBlocks else 0
           cachedTokens := cachedTokens }
  else none

/-- What `inference` raises about the result of a restored attempt when it has to be native. -/
def receiptError (native : Bool) (snapshot : Option InferenceState) (receipt : Option KvRestore) :
    Option String :=
  if native && snapshot.isSome then
    match receipt with
    | none => some "native_kv_receipt_required"
    | some r =>
      if r.restored = false ∨ r.restoredBlocks = 0 then
        some "native_kv_attach_failed:no_cached_prefix"
      else if r.cachedTokens = 0 then some "native_kv_receipt_required"
      else none
  else none

/-- A restored attempt that nothing is raised about shows that blocks were attached. -/
theorem of_receiptError {state : InferenceState} {receipt : Option KvRestore}
    (h : receiptError true (some state) receipt = none) :
    ∃ r, receipt = some r ∧ r.restored = true ∧ 0 < r.cachedTokens := by
  simp only [receiptError, Option.isSome_some, Bool.and_self, if_true] at h
  split at h
  · cases h
  · rename_i r
    split_ifs at h with hattached hcached
    refine ⟨r, rfl, ?_, Nat.pos_of_ne_zero hcached⟩
    push Not at hattached
    exact Bool.of_not_eq_false hattached.1

end Router
end SpotServe
