import SpotServe.Library.OrderedDict

/-!
# The tables of the vLLM backend

`VllmBackend` (`sllm/backends/vllm_backend.py`) keeps three tables by request id: the last output of
each request (`request_trace`), why a request is aborted (`abort_reasons`), and how many blocks its
key-value cache will be restored with (`pending_kv_restores`).  `generate`, `abort_request` and
`restore_inference_state` fill them and take from them, cut at their awaits here.

What the engine answers is left open, and so is when a call to it raises; an exception may also come
at any await, as a cancelled task gets one.  `trace_debug` is off.  Of an output it is kept which
tokens it has, and how many of them came from the cache.
-/

namespace SpotServe
namespace Backend

open Py

/-! ## What is passed around -/

/-- `RequestOutput`; `outputTokens` are those of the first sequence, `none` when there is no
sequence. -/
structure RequestOutput where
  promptTokens : List ℕ := []
  outputTokens : Option (List ℕ) := none
  numCachedTokens : ℕ := 0
  deriving DecidableEq

/-- The forced failure of a request, once its controls have been read. -/
structure ForcedFailure where
  preempts : Bool
  failAfterTokens : ℤ
  deriving DecidableEq

/-- What `generate` reads of its request. -/
structure GenerateRequest where
  /-- `_spotserve_token_delay_s` is positive. -/
  tokenDelay : Bool := false
  forcedFailure : Option ForcedFailure := none
  /-- `_spotserve_committed_output_tokens` are there. -/
  committedOutput : Bool := false
  deriving DecidableEq

/-- `_spotserve_kv_restore` -/
structure KvRestore where
  restored : Bool
  restoredBlocks : ℕ
  cachedTokens : ℕ
  reason : String
  deriving DecidableEq

/-- Why `generate` does not reach the engine. -/
inductive Rejection where
  /-- `Engine is not running` -/
  | notRunning
  /-- `force_fail_after_tokens` is no number: a `ValueError`. -/
  | invalidControls
  /-- `Invalid sampling parameters` -/
  | invalidParameters
  deriving DecidableEq

/-- What a `generate` returns or raises. -/
inductive GenerateResult where
  | rejected (rejection : Rejection)
  /-- The retry marker. -/
  | marker (reason : String) (currentOutput : List (List ℕ))
  /-- `Forced vLLM backend preemption` -/
  | forcedPreemption
  | response (kvRestore : Option KvRestore)
  | raised
  deriving DecidableEq

/-- The retry marker is returned. -/
def GenerateResult.IsMarker : GenerateResult → Prop
  | .marker _ _ => True
  | _ => False

instance : DecidablePred GenerateResult.IsMarker := fun result => by
  cases result <;> unfold GenerateResult.IsMarker <;> infer_instance

structure RequestTables where
  requestTrace : OrderedDict String RequestOutput := .empty
  abortReasons : OrderedDict String String := .empty
  pendingKvRestores : OrderedDict String ℕ := .empty

/-! ## `generate` -/

/-- What a `generate` waits for. -/
inductive GeneratePhase where
  /-- `status_lock` -/
  | entering
  /-- The next output, after the last one. -/
  | streaming (last : Option RequestOutput)
  /-- `update_status` -/
  | tracing (output : RequestOutput)
  /-- The delay after a token. -/
  | delaying (output : RequestOutput)
  /-- `_forced_failure_result` -/
  | forcing (preempts : Bool)
  /-- `return_all_results`, for the retry marker. -/
  | collecting (reason : String)
  /-- `delete_request`, for the retry marker. -/
  | forgetting (reason : String) (output : Option RequestOutput)
  /-- `delete_request`, for the response. -/
  | deleting (output : RequestOutput)
  /-- `_decode_output_token_ids` -/
  | decoding (output : RequestOutput)
  deriving DecidableEq

/-- How a wait ends. -/
inductive GenerateEvent where
  | resumes
  | rejects (rejection : Rejection)
  /-- The engine yields an output. -/
  | yields (output : RequestOutput)
  /-- The engine has no more outputs. -/
  | finishes
  /-- The wait resumes, and what has been committed does not fit the output. -/
  | mismatches
  /-- An exception. -/
  | raises
  deriving DecidableEq

/-- What follows. -/
inductive GenerateNext where
  | awaits (phase : GeneratePhase)
  | ends (result : GenerateResult)
  deriving DecidableEq

namespace RequestTables

/-- `request_trace.delete_request` -/
def deleteRequest (t : RequestTables) (requestId : String) : RequestTables :=
  { t with requestTrace := t.requestTrace.erase requestId }

/-- `abort_reasons.pop` -/
def popReason (t : RequestTables) (requestId : String) : RequestTables :=
  { t with abortReasons := t.abortReasons.erase requestId }

/-- The handler around the engine's outputs. -/
def handle (t : RequestTables) (requestId : String) : RequestTables × GenerateNext :=
  match t.abortReasons.get? requestId with
  | some reason => (t.popReason requestId, .awaits (.collecting reason))
  | none => (t, .ends .raised)

/-- After the last output. -/
def afterOutputs (t : RequestTables) (requestId : String) (last : Option RequestOutput) :
    RequestTables × GenerateNext :=
  match t.abortReasons.get? requestId, last with
  | some reason, some output =>
    (t.popReason requestId, .awaits (.forgetting reason (some output)))
  | some reason, none => (t.popReason requestId, .awaits (.collecting reason))
  -- `vLLM returned no final output`
  | none, none => (t, .ends .raised)
  | none, some output => (t, .awaits (.deleting output))

/-- `_forced_failure_ready` -/
def forcedFailureReady (failure : ForcedFailure) (output : RequestOutput) : Prop :=
  ∃ tokens ∈ output.outputTokens, failure.failAfterTokens ≤ tokens.length

instance (failure : ForcedFailure) (output : RequestOutput) :
    Decidable (forcedFailureReady failure output) := by
  unfold forcedFailureReady
  infer_instance

/-- An output is traced, and waited with. -/
def afterDelay (request : GenerateRequest) (output : RequestOutput) : GeneratePhase :=
  match request.forcedFailure with
  | some failure =>
    if forcedFailureReady failure output then .forcing failure.preempts
    else .streaming (some output)
  | none => .streaming (some output)

/-- `current_output` of the retry marker. -/
def currentOutput (output : Option RequestOutput) : List (List ℕ) :=
  match output with
  | none => []
  | some output =>
    let tokens := output.promptTokens ++ output.outputTokens.getD []
    if tokens = [] then [] else [tokens]

/-- The response, from `pending_kv_restores.pop` on. -/
def respond (t : RequestTables) (requestId : String) (output : RequestOutput) :
    RequestTables × GenerateNext :=
  let expectedBlocks := (t.pendingKvRestores.get? requestId).getD 0
  let cachedTokens := output.numCachedTokens
  ({ t with pendingKvRestores := t.pendingKvRestores.erase requestId },
    .ends (.response (if expectedBlocks = 0 then none else
      some
        { restored := 0 < cachedTokens
          restoredBlocks := if 0 < cachedTokens then expectedBlocks else 0
          cachedTokens := cachedTokens
          reason := if 0 < cachedTokens then "nixl_kv_attach_completed"
            else "nixl_kv_attach_empty" })))

/-- `generate`, from one wait to the next. -/
def generate (t : RequestTables) (requestId : String) (request : GenerateRequest) :
    GeneratePhase → GenerateEvent → Option (RequestTables × GenerateNext)
  | .entering, .rejects rejection => some (t, .ends (.rejected rejection))
  | .entering, .resumes => some (t, .awaits (.streaming none))
  | .entering, .raises => some (t, .ends .raised)
  | .streaming _, .yields output => some (t, .awaits (.tracing output))
  | .streaming last, .finishes => some (t.afterOutputs requestId last)
  | .tracing output, .resumes =>
    let t := { t with requestTrace := t.requestTrace.set requestId output }
    some (t, .awaits (if request.tokenDelay ∧ requestId ∉ t.abortReasons.keys then .delaying output
      else afterDelay request output))
  | .delaying output, .resumes => some (t, .awaits (afterDelay request output))
  | .forcing preempts, .resumes =>
    -- a failure that is no preemption raises, and is handled like any other
    some (if preempts then (t, .ends .forcedPreemption) else t.handle requestId)
  | .streaming _, .raises | .tracing _, .raises | .delaying _, .raises | .forcing _, .raises =>
    some (t.handle requestId)
  | .collecting reason, .resumes =>
    some (t, .awaits (.forgetting reason (t.requestTrace.get? requestId)))
  | .forgetting reason output, .resumes =>
    some (t.deleteRequest requestId, .ends (.marker reason (currentOutput output)))
  | .deleting output, .resumes =>
    let t := t.deleteRequest requestId
    -- `final_output.outputs[0]`
    some (if output.outputTokens = none then (t, .ends .raised)
      else if request.committedOutput then (t, .awaits (.decoding output))
      else t.respond requestId output)
  | .deleting _, .mismatches =>
    if request.committedOutput then some (t.deleteRequest requestId, .ends .raised) else none
  | .decoding output, .resumes => some (t.respond requestId output)
  | .collecting _, .raises | .forgetting _ _, .raises | .deleting _, .raises
  | .decoding _, .raises => some (t, .ends .raised)
  | _, _ => none

end RequestTables

/-! ## The backend -/

/-- A running `generate`. -/
structure GenerateCall where
  request : GenerateRequest
  phase : GeneratePhase := .entering

/-- An `abort_request`, and which of the calls for its request id was running when it came:
`some k` when `k` of them had ended and another one was running.  The code keeps no such record. -/
structure AbortCall where
  requestId : String
  aborts : Option ℕ
  deriving DecidableEq

structure BackendState where
  tables : RequestTables := {}
  running : OrderedDict String GenerateCall := .empty
  /-- The `abort_request` calls that wait for the engine. -/
  aborting : List AbortCall := []
  /-- The results of the calls that have ended, those that said `aborted`, and the requests whose
  restore was still pending when a call of theirs ended; the code keeps no such records. -/
  results : List (String × GenerateResult) := []
  confirmed : List AbortCall := []
  leftPending : List String := []

inductive BackendAction where
  /-- `generate` is called. -/
  | call (requestId : String) (request : GenerateRequest)
  /-- A wait of a `generate` ends. -/
  | generate (requestId : String) (event : GenerateEvent)
  /-- `abort_request`; is there an engine? -/
  | abort (requestId reason : String) (engine : Bool)
  /-- `engine.abort` of an `abort_request` returns, or raises. -/
  | aborted (place : ℕ) (returns : Bool)
  /-- `restore_inference_state` has staged so many blocks. -/
  | restore (requestId : String) (expectedBlocks : ℤ)

namespace BackendState

/-- The results of the calls for a request id. -/
def resultsOf (s : BackendState) (requestId : String) : List GenerateResult :=
  (s.results.filter fun entry => entry.1 = requestId).map Prod.snd

/-- A `generate` goes on or ends. -/
def continueCall (s : BackendState) (requestId : String) (call : GenerateCall) :
    RequestTables × GenerateNext → BackendState
  | (t, .awaits phase) =>
    { s with tables := t, running := s.running.set requestId { call with phase := phase } }
  | (t, .ends result) =>
    { s with
      tables := t
      running := s.running.erase requestId
      results := s.results ++ [(requestId, result)]
      leftPending := if requestId ∈ t.pendingKvRestores.keys then requestId :: s.leftPending
        else s.leftPending.filter (· ≠ requestId) }

/-- The steps. -/
def step (s : BackendState) : BackendAction → Option BackendState
  | .call requestId request =>
    if requestId ∈ s.running.keys then none
    else some { s with running := s.running.set requestId { request := request } }
  | .generate requestId event =>
    match s.running.get? requestId with
    | some call =>
      (s.tables.generate requestId call.request call.phase event).map (s.continueCall requestId call)
    | none => none
  | .abort requestId reason engine =>
    if engine then
      some { s with
        tables := { s.tables with abortReasons := s.tables.abortReasons.set requestId reason }
        aborting := s.aborting ++ [{
          requestId := requestId
          aborts := if requestId ∈ s.running.keys then some (s.resultsOf requestId).length
            else none }] }
    else some s
  | .aborted place returns =>
    match s.aborting[place]? with
    | some abort =>
      let s := { s with aborting := s.aborting.eraseIdx place }
      some (if returns then { s with confirmed := s.confirmed ++ [abort] }
        else { s with tables := s.tables.popReason abort.requestId })
    | none => none
  | .restore requestId expectedBlocks =>
    if requestId = "" ∨ expectedBlocks ≤ 0 then some s
    else some { s with
      tables := { s.tables with
        pendingKvRestores := s.tables.pendingKvRestores.set requestId expectedBlocks.toNat }
      leftPending := s.leftPending.filter (· ≠ requestId) }

end BackendState

end Backend
end SpotServe
