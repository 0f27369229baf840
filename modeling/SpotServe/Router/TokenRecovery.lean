import SpotServe.Library.OrderedDict
import SpotServe.Library.Runs

/-!
# How a retried request gets its input

When an attempt of a request fails, the router (`sllm/routers/roundrobin_router.py`) tries to
continue where the attempt stopped: it asks the instance for tokens, keeps them, and sends the next
attempt with them in place of the prompt.  The tokens come from the trace that the vLLM backend
(`sllm/backends/vllm_backend.py`) keeps of the requests it is working on.

A `TokenMachine` is the part of the router and of its backends in which tokens are kept, and
`TokenMachine.step` what can happen to it.  Two things in it are not in the program, and nothing
branches on them: each token says for which request it was generated, and each sequence says under
which `request_id` it was recorded.
-/

namespace SpotServe
namespace Router

open Py

/-- `RecoveryPolicy` -/
inductive RecoveryPolicy where
  | none
  | naiveRetry
  | generatedTokenReplay
  | statefulRecovery
  deriving DecidableEq

/-- A token; `generatedFor` is the request for which an engine generated it, `none` for a token a
client sent. -/
structure Token where
  id : ℤ
  generatedFor : Option ℕ := none
  deriving DecidableEq

/-- A sequence of tokens together with the `request_id` it was recorded under. -/
structure Sequence where
  recordedFor : String
  tokens : List Token
  deriving DecidableEq

/-- What the trace keeps of a `RequestOutput`. -/
structure RequestOutput where
  promptTokenIds : List Token
  outputTokenIds : List Token
  deriving DecidableEq

/-- Prompt and output in one sequence. -/
def RequestOutput.tokens (result : RequestOutput) : List Token :=
  result.promptTokenIds ++ result.outputTokenIds

/-- A call of `inference`. -/
structure Request where
  requestId : String
  prompt : List Token
  deriving DecidableEq

/-- Where a request stands in the loop of `inference`. -/
inductive Stage where
  /-- Before the next attempt has an instance. -/
  | waiting
  /-- The attempt has an instance, the backend has not been called. -/
  | assigned (instanceId : String)
  /-- The engine works on the attempt. -/
  | running (instanceId : String) (input produced : List Token)
  deriving DecidableEq

/-- The instance of the attempt. -/
def Stage.instanceId? : Stage → Option String
  | .waiting => none
  | .assigned instanceId | .running instanceId _ _ => some instanceId

/-- The local variables of `inference` that have to do with the next attempt. -/
structure Coroutine where
  requestId : String
  stage : Stage := .waiting
  attempts : ℕ := 0
  replayTokens : Option (List Sequence) := none
  recoveryState : Option Sequence := none
  forceStateRecovery : Bool := false
  forceRetryBudget : ℕ := 0
  deriving DecidableEq

/-- The tokens of a preempted result: those of the attempt that the backend shows. -/
def Coroutine.currentOutput (c : Coroutine) (shown : Option ℕ) : List Sequence :=
  match c.stage, shown with
  | .running _ input produced, some shown => [⟨c.requestId, input ++ produced.take shown⟩]
  | _, _ => []

/-- What the engine of an instance knows of the attempt, if it works on it under that id. -/
def Coroutine.onEngine (c : Coroutine) (instanceId requestId : String) (shown : ℕ) :
    Option (List Token) :=
  match c.stage with
  | .running i input produced =>
    if i = instanceId ∧ c.requestId = requestId then some (input ++ produced.take shown) else none
  | _ => none

/-- An entry of `inflight_requests`. -/
structure InflightRequest where
  instanceId : String
  migrationState : Option Sequence := none
  deriving DecidableEq

/-- The part of the configuration that decides about recovery. -/
structure RecoveryConfig where
  recoveryPolicy : RecoveryPolicy
  maxRetries : ℕ
  deriving DecidableEq

/-- What the router and its backends keep. -/
structure TokenMachine where
  /-- All calls of `inference` so far; a call is named by its place in the list. -/
  requests : List Request := []
  coroutines : OrderedDict ℕ Coroutine := .empty
  inflightRequests : OrderedDict String InflightRequest := .empty
  /-- `request_trace` of each instance. -/
  requestTrace : OrderedDict String (OrderedDict String RequestOutput) := .empty
  recoveryTokensByInstance : OrderedDict String (List Sequence) := .empty
  /-- The `request_id`s under which prefixes have been warmed up. -/
  warmUps : List String := []
  /-- The input tokens of every backend call so far, with the request that made it. -/
  sent : List (ℕ × List Token) := []
  deriving DecidableEq

/-- What an instance does when it is asked to export the state of a request. -/
inductive ExportReply where
  /-- It answers; if the runtime hook knows the request, it reports the input and that many of the
  generated tokens; `running` is the backend's own status. -/
  | answered (hook : Option ℕ) (running : Bool)
  /-- The call raises; `get_current_tokens` may still give the tokens of a running backend. -/
  | raised (running : Bool)
  /-- The instance has no backend any more. -/
  | noBackend
  deriving DecidableEq

/-- Whether `get_current_tokens` would give tokens. -/
def ExportReply.running : ExportReply → Bool
  | .answered _ running | .raised running => running
  | .noBackend => false

/-- What happens to a request, on an engine or in the router.  A backend's result and what
`inference` does about it are one action. -/
inductive TokenAction where
  /-- `inference` is called. -/
  | arrive (requestId : String) (prompt : List Token)
  /-- An attempt gets its instance. -/
  | assign (request : ℕ) (instanceId : String)
  /-- `_prepare_stateful_recovery` and `_call_backend`; `restored` when the target took the state. -/
  | send (request : ℕ) (restored : Bool)
  /-- The engine generates a token. -/
  | generate (request : ℕ) (token : ℤ)
  /-- The backend records how far the request has come. -/
  | report (request : ℕ) (shown : ℕ)
  /-- The attempt succeeds; `debug` when the backend keeps its trace. -/
  | succeed (request : ℕ) (debug : Bool)
  /-- The backend returns a preempted result with the tokens it shows; `kept` when it leaves the
  request in its trace. -/
  | preempted (request : ℕ) (shown : Option ℕ) (kept : Bool) (reply : ExportReply)
  /-- The backend returns an error. -/
  | errorResult (request : ℕ) (reply : ExportReply)
  /-- The attempt raises. -/
  | exception (request : ℕ) (reply : ExportReply)
  /-- `_prepare_reparallelization_requests` takes a snapshot of a request; `timedOut` when the
  export does not end in time. -/
  | prepare (requestId : String) (timedOut : Bool) (reply : ExportReply)
  /-- The abort of a re-parallelization reaches the request. -/
  | reparallelized (request : ℕ)
  /-- A preemption notice or a removal: the tokens of the instance are collected. -/
  | collect (instanceId : String)
  /-- `resume_kv_cache`: an engine works on a sequence kept for another instance. -/
  | warmUp (sourceId targetId : String) (place : ℕ) (requestId : String) (token : ℤ)
  | warmUpDone (targetId requestId : String)
  /-- `inference` returns an error or is cancelled. -/
  | giveUp (request : ℕ)
  deriving DecidableEq

namespace TokenMachine

/-- The trace of an instance. -/
def trace (m : TokenMachine) (instanceId : String) : OrderedDict String RequestOutput :=
  (m.requestTrace.get? instanceId).getD .empty

/-- The machine with another trace of an instance. -/
def setTrace (m : TokenMachine) (instanceId : String) (trace : OrderedDict String RequestOutput) :
    TokenMachine :=
  { m with requestTrace := m.requestTrace.set instanceId trace }

/-- The trace without a request, unless its backend keeps it there. -/
def dropTrace (m : TokenMachine) (instanceId requestId : String) (kept : Bool) : TokenMachine :=
  if kept then m else m.setTrace instanceId ((m.trace instanceId).erase requestId)

/-- The machine with another coroutine of a request. -/
def setCoroutine (m : TokenMachine) (r : ℕ) (c : Coroutine) : TokenMachine :=
  { m with coroutines := m.coroutines.set r c }

/-- `inference` returns: the coroutine is gone, `_untrack_inflight_request`. -/
def finish (m : TokenMachine) (r : ℕ) (c : Coroutine) : TokenMachine :=
  { m with
    coroutines := m.coroutines.erase r
    inflightRequests := m.inflightRequests.erase c.requestId }

/-- `get_current_tokens` of a backend, which only gives tokens while it is running. -/
def getCurrentTokens (m : TokenMachine) (instanceId : String) (running : Bool) : List Sequence :=
  if running then
    (m.trace instanceId).entries.filterMap fun (requestId, result) =>
      if result.tokens = [] then none else some ⟨requestId, result.tokens⟩
  else []

/-- Sequences kept for an instance. -/
def keep (m : TokenMachine) (instanceId : String) (tokens : List Sequence) : TokenMachine :=
  { m with recoveryTokensByInstance := m.recoveryTokensByInstance.set instanceId tokens }

/-- `_capture_current_tokens` -/
def captureCurrentTokens (m : TokenMachine) (instanceId : String) (running : Bool) :
    List Sequence × TokenMachine :=
  let tokens := m.getCurrentTokens instanceId running
  if tokens = [] then ([], m) else (tokens, m.keep instanceId tokens)

/-- What the runtime hook reports of a request that the engine of the instance works on. -/
def hookTokens (m : TokenMachine) (instanceId requestId : String) (shown : ℕ) : List Token :=
  (m.coroutines.values.findSome? (·.onEngine instanceId requestId shown)).getD []

/-- The tokens in `runtime_metadata`: those of the hook, else those of the request's own entry in
the trace. -/
def runtimeTokens (m : TokenMachine) (instanceId requestId : String) (hook : Option ℕ) :
    List Token :=
  let live := (hook.map (m.hookTokens instanceId requestId)).getD []
  if live = [] then (((m.trace instanceId).get? requestId).map RequestOutput.tokens).getD []
  else live

/-- `export_inference_state`: the tokens of the exported state. -/
def exportInferenceState (m : TokenMachine) (instanceId requestId : String) (hook : Option ℕ)
    (running : Bool) (currentOutput : Option (List Sequence)) : Sequence :=
  let runtime : Sequence := ⟨requestId, m.runtimeTokens instanceId requestId hook⟩
  let current : List Sequence := match currentOutput with
    | some current => current
    | none => if runtime.tokens = [] then m.getCurrentTokens instanceId running else [runtime]
  match current.head? with
  | some first => if first.tokens = [] then runtime else first
  | none => runtime

/-- The end of `_capture_inference_state`: a state without tokens is none, any other is kept for
its instance. -/
def keepState (m : TokenMachine) (instanceId : String) (state : Sequence) :
    Option Sequence × TokenMachine :=
  if state.tokens = [] then (none, m)
  else (some state, m.keep instanceId [state])

/-- `_capture_inference_state` -/
def captureInferenceState (m : TokenMachine) (instanceId requestId : String)
    (currentOutput : Option (List Sequence)) (reply : ExportReply) :
    Option Sequence × TokenMachine :=
  match reply with
  | .noBackend => (none, m)
  | .answered hook running =>
    let state := m.exportInferenceState instanceId requestId hook running currentOutput
    let state := match (currentOutput.getD []).head? with
      | some first => if state.tokens = [] then first else state
      | none => state
    m.keepState instanceId state
  | .raised running =>
    match currentOutput.getD [] with
    | first :: _ => m.keepState instanceId first
    | [] =>
      let (tokens, m) := m.captureCurrentTokens instanceId running
      match tokens with
      | first :: _ => m.keepState instanceId first
      | [] => (none, m)

end TokenMachine

/-- `_should_retry` -/
def RecoveryConfig.shouldRetry (cfg : RecoveryConfig) (attempt : ℕ) : Bool :=
  cfg.recoveryPolicy ≠ .none ∧ attempt < cfg.maxRetries

/-- Replay tokens are only kept under the policies that use them. -/
def RecoveryConfig.keepReplay (cfg : RecoveryConfig) (replay : Option (List Sequence)) :
    Option (List Sequence) :=
  match cfg.recoveryPolicy with
  | .generatedTokenReplay | .statefulRecovery => replay
  | .none | .naiveRetry => none

/-- The first sequence of a list that has one. -/
def firstOf (tokens : Option (List Sequence)) : Option Sequence := (tokens.getD []).head?

/-- The input tokens of the next attempt, and the replay tokens once it is prepared:
`_prepare_stateful_recovery`, `_build_stateful_restore_request`, `_build_token_replay_request`. -/
def Coroutine.input (cfg : RecoveryConfig) (c : Coroutine) (prompt : List Token)
    (restored : Bool) : List Token × Option (List Sequence) :=
  let replayed := ((firstOf c.replayTokens).map Sequence.tokens).getD prompt
  match c.recoveryState with
  | some state =>
    if cfg.recoveryPolicy = .statefulRecovery ∨ c.forceStateRecovery then
      if state.tokens = [] then (prompt, none)
      else (state.tokens, if restored then none else some [state])
    else (replayed, c.replayTokens)
  | none => (replayed, c.replayTokens)

namespace TokenMachine

/-- The end of a failed attempt: the next one begins, or the request is over. -/
def afterFailure (m : TokenMachine) (cfg : RecoveryConfig) (r : ℕ) (c : Coroutine)
    (shouldRetry : Bool) : TokenMachine :=
  if shouldRetry then
    m.setCoroutine r { c with stage := .waiting, replayTokens := cfg.keepReplay c.replayTokens }
  else m.finish r c

/-- A failed attempt that had a result: a re-parallelization grants one more attempt. -/
def afterResult (m : TokenMachine) (cfg : RecoveryConfig) (r : ℕ) (c : Coroutine) :
    TokenMachine :=
  m.afterFailure cfg r { c with forceRetryBudget := c.forceRetryBudget - 1 }
    (cfg.shouldRetry (c.attempts - 1) || 0 < c.forceRetryBudget)

/-- The branches of `inference` for a preempted and for an error result, which differ in the tokens
to be replayed: those of the result, and those kept for the instance. -/
def onFailedResult (m : TokenMachine) (cfg : RecoveryConfig) (r : ℕ) (c : Coroutine)
    (instanceId : String) (replay : Option (List Sequence)) (reply : ExportReply) : TokenMachine :=
  let c := { c with replayTokens := replay }
  if cfg.recoveryPolicy = .statefulRecovery then
    let (state, m) := m.captureInferenceState instanceId c.requestId replay reply
    m.afterResult cfg r { c with recoveryState := state }
  else m.afterResult cfg r c

/-- The `except Exception` of `inference`, for an attempt that has an instance.  Outside of
`stateful_recovery` only `get_current_tokens` is called, and a missing backend has none. -/
def onException (m : TokenMachine) (cfg : RecoveryConfig) (r : ℕ) (c : Coroutine)
    (instanceId : String) (reply : ExportReply) : TokenMachine :=
  let retry := cfg.shouldRetry (c.attempts - 1)
  if cfg.recoveryPolicy = .statefulRecovery then
    let (state, m) := m.captureInferenceState instanceId c.requestId none reply
    m.afterFailure cfg r
      { c with recoveryState := state, replayTokens := some (state.elim [] ([·])) } retry
  else
    let (tokens, m) := m.captureCurrentTokens instanceId reply.running
    m.afterFailure cfg r { c with replayTokens := some tokens } retry

/-- The branch of `inference` for the marker of a re-parallelization. -/
def onReparallelized (m : TokenMachine) (cfg : RecoveryConfig) (r : ℕ) (c : Coroutine) :
    TokenMachine :=
  let state := (m.inflightRequests.get? c.requestId).bind InflightRequest.migrationState
  m.afterResult cfg r { c with
    recoveryState := state
    forceStateRecovery := state.isSome ∧ cfg.recoveryPolicy = .statefulRecovery
    forceRetryBudget := max c.forceRetryBudget 1
    replayTokens := state.bind fun state => if state.tokens = [] then none else some [state] }

/-- `_track_inflight_request` -/
def track (m : TokenMachine) (requestId instanceId : String) : TokenMachine :=
  { m with
    inflightRequests := m.inflightRequests.set requestId
      { instanceId := instanceId
        migrationState :=
          (m.inflightRequests.get? requestId).bind InflightRequest.migrationState } }

/-- A step of the router, of one of its requests or of an engine. -/
def step (cfg : RecoveryConfig) (m : TokenMachine) : TokenAction → Option TokenMachine
  | .arrive requestId prompt =>
    some { m with
      requests := m.requests ++ [⟨requestId, prompt⟩]
      coroutines := m.coroutines.set m.requests.length { requestId := requestId } }
  | .assign r instanceId => do
    let c ← m.coroutines.get? r
    guard (c.stage = .waiting)
    some ((m.track c.requestId instanceId).setCoroutine r
      { c with stage := .assigned instanceId, attempts := c.attempts + 1 })
  | .send r restored => do
    let c ← m.coroutines.get? r
    let request ← m.requests[r]?
    match c.stage with
    | .assigned instanceId =>
      let (input, replay) := c.input cfg request.prompt restored
      some { m.setCoroutine r { c with
          stage := .running instanceId input []
          replayTokens := replay
          forceStateRecovery := c.forceStateRecovery && c.recoveryState.isNone } with
        sent := m.sent ++ [(r, input)] }
    | _ => none
  | .generate r token => do
    let c ← m.coroutines.get? r
    match c.stage with
    | .running instanceId input produced =>
      some (m.setCoroutine r
        { c with stage := .running instanceId input (produced ++ [⟨token, some r⟩]) })
    | _ => none
  | .report r shown => do
    let c ← m.coroutines.get? r
    match c.stage with
    | .running instanceId input produced =>
      some (m.setTrace instanceId
        ((m.trace instanceId).set c.requestId ⟨input, produced.take shown⟩))
    | _ => none
  | .succeed r debug => do
    let c ← m.coroutines.get? r
    match c.stage with
    | .running instanceId _ _ => some ((m.dropTrace instanceId c.requestId debug).finish r c)
    | _ => none
  | .preempted r shown kept reply => do
    let c ← m.coroutines.get? r
    match c.stage with
    | .running instanceId _ _ =>
      some ((m.dropTrace instanceId c.requestId kept).onFailedResult cfg r c instanceId
        (some (c.currentOutput shown)) reply)
    | _ => none
  | .errorResult r reply => do
    let c ← m.coroutines.get? r
    match c.stage with
    | .running instanceId _ _ =>
      some (m.onFailedResult cfg r c instanceId (m.recoveryTokensByInstance.get? instanceId) reply)
    | _ => none
  | .exception r reply => do
    let c ← m.coroutines.get? r
    match c.stage.instanceId? with
    | some instanceId => some (m.onException cfg r c instanceId reply)
    | none =>
      -- no instance was found: the tokens of the attempt before it are still the newest
      some (m.afterFailure cfg r { c with attempts := c.attempts + 1 } (cfg.shouldRetry c.attempts))
  | .prepare requestId timedOut reply => do
    let entry ← m.inflightRequests.get? requestId
    let (state, m) := if timedOut then (none, m)
      else m.captureInferenceState entry.instanceId requestId none reply
    some { m with inflightRequests :=
      m.inflightRequests.set requestId { entry with migrationState := state } }
  | .reparallelized r => do
    let c ← m.coroutines.get? r
    match c.stage with
    | .running instanceId _ _ =>
      some ((m.dropTrace instanceId c.requestId false).onReparallelized cfg r c)
    | _ => none
  | .collect instanceId => some (m.captureCurrentTokens instanceId true).2
  | .warmUp sourceId targetId place requestId token => do
    -- the backend makes an id up for it, a `uuid4` that no request has
    guard (∀ request ∈ m.requests, request.requestId ≠ requestId)
    let kept ← m.recoveryTokensByInstance.get? sourceId
    let sequence ← kept[place]?
    some { m.setTrace targetId
        ((m.trace targetId).set requestId ⟨sequence.tokens, [⟨token, none⟩]⟩) with
      warmUps := requestId :: m.warmUps }
  | .warmUpDone targetId requestId => do
    guard (requestId ∈ m.warmUps)
    some (m.dropTrace targetId requestId false)
  | .giveUp r => do
    let c ← m.coroutines.get? r
    some (m.finish r c)

end TokenMachine

end Router
end SpotServe
