import SpotServe.Library.Runs
import SpotServe.Router.RecoveryRequests
import SpotServe.Router.TokenRecovery

/-!
# The retry loop of one request

`RoundRobinRouter.inference` (`sllm/routers/roundrobin_router.py`) calls a backend until an attempt
succeeds or may not be repeated.  A `Call` is one run of it, with the local variables that decide
what the next attempt is sent with, and `Call.step` is what can happen to it: its own next turn,
what an engine or a backend does with the running attempt, and the snapshot that a
re-parallelization takes of it.

The last two fields of a `Call` are not in the program, and nothing branches on them.  They are
what the properties of the loop speak about: `generated` holds the tokens that engines have generated
for the response, and starts again when a retry starts again from what the client sent.
-/

namespace SpotServe
namespace Router

/-- `RequestOutputKind`: what vLLM puts into each of its outputs for a request. -/
inductive OutputKind where
  | cumulative
  | delta
  | finalOnly
  deriving DecidableEq

/-- The tokens of an output, when `earlier` of the tokens came with outputs before it. -/
def OutputKind.tokens (kind : OutputKind) (earlier : ℕ) (produced : List ℤ) : List ℤ :=
  match kind with
  | .delta => produced.drop earlier
  | .cumulative | .finalOnly => produced

/-- The configuration that `inference` reads, and what the backend reads of the client's request to
say how it wants its outputs. -/
structure InferenceConfig extends RecoveryConfig where
  backend : Backend
  requireNativeKvRestore : Bool := false
  /-- `output_kind` of the request. -/
  outputKind : Option OutputKind := none
  /-- `_spotserve_token_delay_s` of the request, or else `test_token_delay_s` of the backend. -/
  tokenDelay : ℚ := 0
  deriving DecidableEq

/-- Whether states are captured and restored. -/
def InferenceConfig.isStateful (cfg : InferenceConfig) : Bool :=
  cfg.recoveryPolicy = .statefulRecovery

/-- Whether the tokens of an attempt are kept for the next one. -/
def InferenceConfig.keepsTokens (cfg : InferenceConfig) : Bool :=
  cfg.recoveryPolicy = .generatedTokenReplay || cfg.recoveryPolicy = .statefulRecovery

/-- What an attempt starts from. -/
inductive TokenSource where
  /-- What the client sent. -/
  | prompt
  /-- Tokens of earlier attempts, as input. -/
  | replay
  /-- A state that the target has restored or staged. -/
  | state (s : InferenceState)
  deriving DecidableEq

/-- `state_snapshot` -/
def TokenSource.snapshot : TokenSource → Option InferenceState
  | .state s => some s
  | .prompt | .replay => none

/-- An attempt that a backend works on. -/
structure Attempt where
  source : TokenSource
  request : BackendRequest
  produced : List ℤ := []
  deriving DecidableEq

/-- What `inference` returns. -/
inductive Outcome where
  /-- The result of the last attempt, a success; the output tokens of its response, and what it
  says about restored blocks. -/
  | success (attempt : Attempt) (outputTokens : List ℤ) (receipt : Option KvRestore)
  /-- The result of the last attempt, which failed. -/
  | failedResult
  | error (message : String)
  deriving DecidableEq

/-- Whether the client gets a response. -/
def Outcome.isSuccess : Outcome → Bool
  | .success _ _ _ => true
  | .failedResult | .error _ => false

/-- Where a call stands. -/
inductive CallPhase where
  /-- Before the next attempt has an instance. -/
  | waiting
  /-- The attempt has an instance, its request is not sent. -/
  | assigned
  | running (attempt : Attempt)
  | returned (outcome : Outcome)
  deriving DecidableEq

/-- Whether the call is over. -/
def CallPhase.isReturned : CallPhase → Bool
  | .returned _ => true
  | _ => false

/-- A call of `inference`. -/
structure Call where
  /-- The client's text in tokens, if the backend makes tokens of it. -/
  text : List ℤ
  data : RequestData
  phase : CallPhase := .waiting
  attempts : ℕ := 0
  replayTokens : List (List ℤ) := []
  recoveryState : Option InferenceState := none
  forceStateRecovery : Bool := false
  forceRetryBudget : ℕ := 0
  /-- `migration_state` of the entry in `inflight_requests`. -/
  migrationState : Option InferenceState := none
  /-- The tokens of interrupted attempts that belong to the response. -/
  generated : List ℤ := []
  /-- The number of attempts that had an instance and failed. -/
  interrupted : ℕ := 0
  deriving DecidableEq

/-- What happens to a call. -/
inductive CallAction where
  /-- The next attempt gets an instance. -/
  | assign
  /-- No instance is found for it. -/
  | allocationFails (message : String)
  /-- `_prepare_stateful_recovery` and the request to the backend. -/
  | send (target : TargetReply)
  /-- The engine generates a token. -/
  | generate (token : ℤ)
  /-- `_prepare_reparallelization_requests` takes a snapshot. -/
  | snapshot (timedOut : Bool) (reply : InstanceReply)
  /-- The backend returns a result; `earlier` of the tokens came before the engine's last output. -/
  | succeed (earlier expectedBlocks cachedTokens : ℕ)
  /-- The backend returns a preempted result; the vLLM backend has seen `shown` of the tokens. -/
  | preempted (noCurrentTokens : Bool) (earlier shown : ℕ) (view : BackendView)
    (reply : InstanceReply)
  /-- The vLLM backend returns the marker of an abort. -/
  | aborted (reparallelization : Bool) (earlier : ℕ) (shown : Option ℕ) (reply : InstanceReply)
  /-- The backend returns an error before it starts; `kept` is what
  `recovery_tokens_by_instance` has for the instance. -/
  | errorResult (kept : Option (List (List ℤ))) (reply : InstanceReply)
  /-- The attempt raises. -/
  | exception (message : String) (reply : InstanceReply)
  /-- The attempt raises a `ValueError`. -/
  | valueError (message : String)
  deriving DecidableEq

/-- The output kind of an attempt: with a token delay, a request that comes without input tokens asks
for deltas. -/
def InferenceConfig.outputKindOf (cfg : InferenceConfig) (request : BackendRequest) : OutputKind :=
  match cfg.backend with
  | .dummy => .cumulative
  | .vllm =>
    cfg.outputKind.getD
      (if 0 < cfg.tokenDelay ∧ request.inputTokens = none then .delta else .cumulative)

/-- The last output of an attempt has all its tokens: it is no delta, or the only one. -/
def InferenceConfig.ShowsAll (cfg : InferenceConfig) (attempt : Attempt) (earlier : ℕ) : Prop :=
  cfg.outputKindOf attempt.request = .delta → earlier = 0

instance (cfg : InferenceConfig) (attempt : Attempt) (earlier : ℕ) :
    Decidable (cfg.ShowsAll attempt earlier) :=
  inferInstanceAs (Decidable (_ → _))

theorem InferenceConfig.ShowsAll.tokens_eq {cfg : InferenceConfig} {attempt : Attempt}
    {earlier : ℕ} (h : cfg.ShowsAll attempt earlier) (produced : List ℤ) :
    (cfg.outputKindOf attempt.request).tokens earlier produced = produced := by
  unfold InferenceConfig.ShowsAll at h
  cases hkind : cfg.outputKindOf attempt.request with
  | delta =>
    rw [h hkind]
    rfl
  | cumulative | finalOnly => rfl

/-- The dummy backend has no outputs but the last. -/
theorem InferenceConfig.showsAll_dummy {cfg : InferenceConfig} (h : cfg.backend = .dummy)
    (attempt : Attempt) (earlier : ℕ) : cfg.ShowsAll attempt earlier := by
  intro hdelta
  rw [InferenceConfig.outputKindOf, h] at hdelta
  exact OutputKind.noConfusion hdelta

/-- `max_tokens` as a backend reads it, with its default. -/
def Backend.limit (backend : Backend) (request : BackendRequest) : ℕ :=
  match backend with
  | .dummy => request.maxTokens.getD 10
  | .vllm => request.maxTokens.getD 16

theorem Backend.limit_eq (backend : Backend) {request : BackendRequest} {maxTokens : ℕ}
    (h : request.maxTokens = some maxTokens) : backend.limit request = maxTokens := by
  cases backend <;> simp [Backend.limit, h]

/-- The tokens of a text.  The dummy backend makes none of it. -/
def Backend.textTokens (backend : Backend) (text : List ℤ) : List ℤ :=
  match backend with
  | .dummy => []
  | .vllm => text

namespace Call

/-- A call as it comes in. -/
def start (cfg : InferenceConfig) (text : List ℤ) (inputTokens : Option (List ℤ))
    (maxTokens : Option ℕ) : Call where
  text := cfg.backend.textTokens text
  data := { inputTokens := inputTokens, maxTokens := maxTokens }

/-- The tokens that an engine gets with a request. -/
def input (c : Call) (request : BackendRequest) : List ℤ := request.inputTokens.getD c.text

/-- The tokens of what the client sent. -/
def prompt (c : Call) : List ℤ := c.data.inputTokens.getD c.text

/-- The tokens of the running attempt. -/
def produced (c : Call) : List ℤ :=
  match c.phase with
  | .running attempt => attempt.produced
  | _ => []

/-- All the tokens generated for the response so far. -/
def soFar (c : Call) : List ℤ := c.generated ++ c.produced

/-- The output tokens of the response, if there is one. -/
def outputTokens (c : Call) : Option (List ℤ) :=
  match c.phase with
  | .returned (.success _ outputTokens _) => some outputTokens
  | _ => none

theorem of_outputTokens {c : Call} {tokens : List ℤ} (h : c.outputTokens = some tokens) :
    ∃ attempt receipt, c.phase = .returned (.success attempt tokens receipt) := by
  unfold outputTokens at h
  split at h
  · obtain rfl := Option.some.inj h
    exact ⟨_, _, ‹_›⟩
  · cases h

/-- `inference` returns. -/
def finish (c : Call) (outcome : Outcome) : Call := { c with phase := .returned outcome }

/-- The next turn of the loop; tokens are only kept under the policies that use them. -/
def again (cfg : InferenceConfig) (c : Call) : Call :=
  { c with
    phase := .waiting
    replayTokens := if cfg.keepsTokens then c.replayTokens else [] }

/-- The attempt that had an instance has failed. -/
def interrupt (c : Call) : Call :=
  { c with phase := .waiting, generated := c.soFar, interrupted := c.interrupted + 1 }

@[simp] theorem interrupt_data (c : Call) : c.interrupt.data = c.data := rfl

/-- `_completed_tokens` is set. -/
def record (c : Call) (completedTokens : ℕ) : Call :=
  { c with data := { c.data with completedTokens := some completedTokens } }

/-- The tokens to replay and the state to restore, as a failed attempt leaves them. -/
def carry (c : Call) (replayTokens : List (List ℤ)) (recoveryState : Option InferenceState) :
    Call :=
  { c with replayTokens := replayTokens, recoveryState := recoveryState }

/-- The end of a turn whose attempt had a failed result. -/
def afterResult (cfg : InferenceConfig) (c : Call) : Call :=
  if cfg.requireNativeKvRestore && !c.recoveryState.any InferenceState.isNative then
    c.finish (.error "native_kv_snapshot_required_for_retry")
  else
    let retry := cfg.shouldRetry (c.attempts - 1) || 0 < c.forceRetryBudget
    let c := { c with forceRetryBudget := c.forceRetryBudget - 1 }
    if retry then c.again cfg else c.finish .failedResult

/-- The end of a turn whose attempt raised. -/
def afterException (cfg : InferenceConfig) (c : Call) (message : String) : Call :=
  if cfg.shouldRetry (c.attempts - 1) then c.again cfg else c.finish (.error message)

/-- The branch for a preempted result. -/
def onPreempted (cfg : InferenceConfig) (c : Call) (result : PreemptedResult)
    (reply : InstanceReply) : Call :=
  let state := if cfg.isStateful then
      captureInferenceState cfg.backend reply (some result.currentOutput)
        (some result.completedTokens) result.inferenceState
    else c.recoveryState
  let c := c.carry result.currentOutput state
  if result.completedTokens = 0 then c else c.record result.completedTokens

/-- A re-parallelization grants one more attempt. -/
def grantRetry (cfg : InferenceConfig) (c : Call) : Call :=
  { c with
    forceStateRecovery := c.migrationState.isSome && cfg.isStateful
    forceRetryBudget := max c.forceRetryBudget 1 }

/-- The branch for the marker of a re-parallelization. -/
def onReparallelized (cfg : InferenceConfig) (c : Call) : Call :=
  match c.migrationState with
  | some state =>
    ((c.grantRetry cfg).carry (if state.tokens = [] then [] else [state.tokens])
      (some state)).record state.completedTokens
  | none => (c.grantRetry cfg).carry [] none

/-- The branch for an error result. -/
def onErrorResult (cfg : InferenceConfig) (c : Call) (kept : Option (List (List ℤ)))
    (reply : InstanceReply) : Call :=
  c.carry (kept.getD [])
    (if cfg.isStateful then captureInferenceState cfg.backend reply kept none none
      else c.recoveryState)

/-- The `except Exception` for an attempt that has an instance. -/
def onException (cfg : InferenceConfig) (c : Call) (reply : InstanceReply) : Call :=
  if cfg.isStateful then
    let state := captureInferenceState cfg.backend reply none none none
    c.carry (state.elim [] fun state => [state.tokens]) state
  else c.carry reply.currentTokens c.recoveryState

/-- What all the branches for a failed attempt have in common: `c'` is the call after the branch. -/
structure Interrupted (cfg : InferenceConfig) (c c' : Call) : Prop where
  phase : c'.phase = .waiting
  generated : c'.generated = c.soFar
  interrupted : c'.interrupted = c.interrupted + 1
  attempts : c'.attempts = c.attempts
  prompt : c'.prompt = c.prompt
  maxTokens : c'.data.maxTokens = c.data.maxTokens
  force : c'.forceStateRecovery = true → c.forceStateRecovery = true ∨ cfg.isStateful = true

theorem Interrupted.soFar {cfg : InferenceConfig} {c c' : Call} (h : Interrupted cfg c c') :
    c'.soFar = c.soFar := by
  simp [Call.soFar, Call.produced, h.phase, h.generated]

theorem interrupted_onPreempted (cfg : InferenceConfig) (c : Call) (result : PreemptedResult)
    (reply : InstanceReply) : Interrupted cfg c (c.interrupt.onPreempted cfg result reply) := by
  unfold onPreempted
  split_ifs <;> exact ⟨rfl, rfl, rfl, rfl, rfl, rfl, Or.inl⟩

theorem interrupted_onReparallelized (cfg : InferenceConfig) (c : Call) :
    Interrupted cfg c (c.interrupt.onReparallelized cfg) := by
  have hforce : (c.migrationState.isSome && cfg.isStateful) = true →
      c.forceStateRecovery = true ∨ cfg.isStateful = true :=
    fun h => Or.inr (Bool.and_eq_true_iff.mp h).2
  unfold onReparallelized
  split <;> exact ⟨rfl, rfl, rfl, rfl, rfl, rfl, hforce⟩

theorem interrupted_onErrorResult (cfg : InferenceConfig) (c : Call)
    (kept : Option (List (List ℤ))) (reply : InstanceReply) :
    Interrupted cfg c (c.interrupt.onErrorResult cfg kept reply) :=
  ⟨rfl, rfl, rfl, rfl, rfl, rfl, Or.inl⟩

theorem interrupted_onException (cfg : InferenceConfig) (c : Call) (reply : InstanceReply) :
    Interrupted cfg c (c.interrupt.onException cfg reply) := by
  unfold onException
  split_ifs <;> exact ⟨rfl, rfl, rfl, rfl, rfl, rfl, Or.inl⟩

/-- The state that a preempted attempt leaves. -/
theorem recoveryState_onPreempted {cfg : InferenceConfig} (h : cfg.isStateful = true) (c : Call)
    (result : PreemptedResult) (reply : InstanceReply) :
    (c.onPreempted cfg result reply).recoveryState =
      captureInferenceState cfg.backend reply (some result.currentOutput)
        (some result.completedTokens) result.inferenceState := by
  unfold onPreempted
  rw [if_pos h]
  split_ifs <;> rfl

theorem recoveryState_onReparallelized (cfg : InferenceConfig) (c : Call) :
    (c.onReparallelized cfg).recoveryState = c.migrationState := by
  unfold onReparallelized
  split
  · rename_i state hstate
    exact hstate.symm
  · rename_i hstate
    exact hstate.symm

theorem recoveryState_onErrorResult {cfg : InferenceConfig} (h : cfg.isStateful = true) (c : Call)
    (kept : Option (List (List ℤ))) (reply : InstanceReply) :
    (c.onErrorResult cfg kept reply).recoveryState =
      captureInferenceState cfg.backend reply kept none none :=
  if_pos h

theorem recoveryState_onException {cfg : InferenceConfig} (h : cfg.isStateful = true) (c : Call)
    (reply : InstanceReply) :
    (c.onException cfg reply).recoveryState =
      captureInferenceState cfg.backend reply none none none := by
  unfold onException
  rw [if_pos h]
  rfl

/-- The end of a turn with a failed result: it is the end of the call, or there is another turn. -/
theorem afterResult_eq (cfg : InferenceConfig) (c : Call) :
    (∃ outcome, outcome.isSuccess = false ∧
      (c.afterResult cfg = c.finish outcome ∨
        c.afterResult cfg =
          { c with forceRetryBudget := c.forceRetryBudget - 1 }.finish outcome)) ∨
    ((cfg.requireNativeKvRestore = true → c.recoveryState.any InferenceState.isNative = true) ∧
      c.afterResult cfg = { c with forceRetryBudget := c.forceRetryBudget - 1 }.again cfg) := by
  simp only [afterResult]
  split_ifs with hnative hretry
  · exact Or.inl ⟨_, rfl, Or.inl rfl⟩
  · refine Or.inr ⟨?_, rfl⟩
    intro hrequired
    simpa [hrequired] using hnative
  · exact Or.inl ⟨_, rfl, Or.inr rfl⟩

/-- A failed result of a running attempt; before anything else, a restored attempt has to show what
it has restored. -/
def onFailedResult (cfg : InferenceConfig) (c : Call) (attempt : Attempt)
    (branch : Call → Call) : Call :=
  match receiptError cfg.requireNativeKvRestore attempt.source.snapshot none with
  | some message => c.finish (.error message)
  | none => (branch c.interrupt).afterResult cfg

/-- The result of an attempt that succeeds.  Its output is the engine's last one. -/
def onSuccess (cfg : InferenceConfig) (c : Call) (attempt : Attempt)
    (earlier expectedBlocks cachedTokens : ℕ) : Call :=
  match cfg.backend.responseTokens attempt.request (c.input attempt.request)
      ((cfg.outputKindOf attempt.request).tokens earlier attempt.produced) with
  | .error message => c.finish (.error message)
  | .ok outputTokens =>
    let receipt := kvRestore cfg.backend expectedBlocks cachedTokens
    match receiptError cfg.requireNativeKvRestore attempt.source.snapshot receipt with
    | some message => c.finish (.error message)
    | none => c.finish (.success attempt outputTokens receipt)

/-- An attempt that succeeds ends the call, and only with what it has to show does it end it well. -/
theorem onSuccess_eq (cfg : InferenceConfig) (c : Call) (attempt : Attempt)
    (earlier expectedBlocks cachedTokens : ℕ) :
    (∃ message,
      c.onSuccess cfg attempt earlier expectedBlocks cachedTokens = c.finish (.error message)) ∨
    ∃ outputTokens,
      cfg.backend.responseTokens attempt.request (c.input attempt.request)
        ((cfg.outputKindOf attempt.request).tokens earlier attempt.produced) = .ok outputTokens ∧
      receiptError cfg.requireNativeKvRestore attempt.source.snapshot
        (kvRestore cfg.backend expectedBlocks cachedTokens) = none ∧
      c.onSuccess cfg attempt earlier expectedBlocks cachedTokens =
        c.finish (.success attempt outputTokens
          (kvRestore cfg.backend expectedBlocks cachedTokens)) := by
  simp only [onSuccess]
  split
  · exact Or.inl ⟨_, rfl⟩
  · rename_i outputTokens houtput
    split
    · exact Or.inl ⟨_, rfl⟩
    · rename_i hreceipt
      exact Or.inr ⟨outputTokens, houtput, hreceipt, rfl⟩

/-- The preempted result of an attempt.  The vLLM backend only preempts a request that came without
input tokens. -/
def preemptedResult (cfg : InferenceConfig) (c : Call) (attempt : Attempt) (noCurrentTokens : Bool)
    (earlier shown : ℕ) (view : BackendView) : Option PreemptedResult :=
  match cfg.backend with
  | .dummy => do
    guard (attempt.produced ≠ [])
    some (dummyPreemptedResult noCurrentTokens (c.input attempt.request ++ attempt.produced))
  | .vllm => do
    guard (attempt.request.inputTokens = none)
    some (vllmPreemptedResult view noCurrentTokens c.text
      ((cfg.outputKindOf attempt.request).tokens earlier (attempt.produced.take shown)))

/-- The result that stands for an aborted attempt. -/
def abortResult (cfg : InferenceConfig) (c : Call) (attempt : Attempt) (earlier : ℕ)
    (shown : Option ℕ) : PreemptedResult :=
  reparallelizationAbortResult
    (shown.elim [] fun shown => c.input attempt.request ++
      (cfg.outputKindOf attempt.request).tokens earlier (attempt.produced.take shown))

/-- What the next attempt goes by: the state to restore, or else the tokens to replay. -/
def prepared (cfg : InferenceConfig) (c : Call) (target : TargetReply) :
    Except String (Option InferenceState × List (List ℤ)) :=
  match c.recoveryState with
  | some state =>
    if cfg.isStateful || c.forceStateRecovery then
      prepareStatefulRecovery cfg.requireNativeKvRestore state target
    else .ok (none, c.replayTokens)
  | none => .ok (none, c.replayTokens)

/-- Either `_prepare_stateful_recovery` is called for a state, or the tokens are replayed. -/
theorem of_prepared {cfg : InferenceConfig} {c : Call} {target : TargetReply}
    {snapshot : Option InferenceState} {replay : List (List ℤ)}
    (h : c.prepared cfg target = .ok (snapshot, replay)) :
    (∃ state, c.recoveryState = some state ∧ (cfg.isStateful || c.forceStateRecovery) = true ∧
      prepareStatefulRecovery cfg.requireNativeKvRestore state target = .ok (snapshot, replay)) ∨
    (snapshot = none ∧ replay = c.replayTokens ∧
      ∀ state, c.recoveryState = some state → (cfg.isStateful || c.forceStateRecovery) = false) := by
  unfold prepared at h
  split at h
  · rename_i state hstate
    split_ifs at h with hstateful
    · exact Or.inl ⟨state, hstate, hstateful, h⟩
    · obtain ⟨rfl, rfl⟩ := Prod.mk.inj (Except.ok.inj h)
      exact Or.inr ⟨rfl, rfl, fun _ _ => by simpa using hstateful⟩
  · rename_i hstate
    obtain ⟨rfl, rfl⟩ := Prod.mk.inj (Except.ok.inj h)
    refine Or.inr ⟨rfl, rfl, ?_⟩
    intro state hsome
    rw [hstate] at hsome
    exact absurd hsome (by simp)

/-- A recovery is only forced under the policy that recovers anyway. -/
theorem isStateful_of_recovers {cfg : InferenceConfig} {c : Call}
    (hforce : c.forceStateRecovery = true → cfg.isStateful = true)
    (hrecovers : (cfg.isStateful || c.forceStateRecovery) = true) : cfg.isStateful = true := by
  rcases Bool.or_eq_true_iff.mp hrecovers with hstateful | hforced
  · exact hstateful
  · exact hforce hforced

/-- The attempt is with a backend. -/
def run (c : Call) (source : TokenSource) (request : BackendRequest) : Call :=
  { c with
    phase := .running { source := source, request := request }
    forceStateRecovery := c.forceStateRecovery && c.recoveryState.isNone }

/-- A start from what the client sent: what has been generated is not part of the response. -/
def restart (c : Call) : Call := { c with generated := [] }

/-- The request goes out. -/
def send (cfg : InferenceConfig) (c : Call) (target : TargetReply) : Call :=
  match c.prepared cfg target with
  | .error message => c.finish (.error message)
  | .ok (some state, replay) =>
    match buildStatefulRestoreRequest cfg.backend c.data state with
    | .error message => c.finish (.error message)
    | .ok request => { c with replayTokens := replay }.run (.state state) request
  | .ok (none, []) =>
    { c with replayTokens := [] }.restart.run .prompt (buildTokenReplayRequest c.data [])
  | .ok (none, first :: rest) =>
    { c with replayTokens := first :: rest }.run .replay
      (buildTokenReplayRequest c.data (first :: rest))

/-- A step of a call. -/
def step (cfg : InferenceConfig) (c : Call) : CallAction → Option Call
  | .assign => do
    guard (c.phase = .waiting)
    some { c with phase := .assigned, attempts := c.attempts + 1 }
  | .allocationFails message => do
    guard (c.phase = .waiting)
    some ({ c with attempts := c.attempts + 1 }.afterException cfg message)
  | .send target => do
    guard (c.phase = .assigned)
    some (c.send cfg target)
  | .generate token =>
    match c.phase with
    | .running attempt => do
      guard (attempt.produced.length < cfg.backend.limit attempt.request)
      some { c with
        phase := .running { attempt with produced := attempt.produced ++ [token] } }
    | _ => none
  | .snapshot timedOut reply => do
    guard (c.attempts ≠ 0 ∧ !c.phase.isReturned)
    some { c with
      migrationState := if timedOut then none
        else captureInferenceState cfg.backend reply none none none }
  | .succeed earlier expectedBlocks cachedTokens =>
    match c.phase with
    | .running attempt => some (c.onSuccess cfg attempt earlier expectedBlocks cachedTokens)
    | _ => none
  | .preempted noCurrentTokens earlier shown view reply =>
    match c.phase with
    | .running attempt => do
      let result ← c.preemptedResult cfg attempt noCurrentTokens earlier shown view
      some (c.onFailedResult cfg attempt (·.onPreempted cfg result reply))
    | _ => none
  | .aborted reparallelization earlier shown reply =>
    match c.phase with
    | .running attempt => do
      guard (cfg.backend = .vllm)
      some (c.onFailedResult cfg attempt fun c =>
        if reparallelization then c.onReparallelized cfg
        else c.onPreempted cfg (c.abortResult cfg attempt earlier shown) reply)
    | _ => none
  | .errorResult kept reply =>
    match c.phase with
    | .running attempt => do
      guard (attempt.produced = [])
      some (c.onFailedResult cfg attempt (·.onErrorResult cfg kept reply))
    | _ => none
  | .exception message reply =>
    match c.phase with
    | .assigned | .running _ =>
      some ((c.interrupt.onException cfg reply).afterException cfg message)
    | _ => none
  | .valueError message => do
    guard (!c.phase.isReturned)
    some (c.finish (.error message))

/-- What the steps do, one way each. -/
inductive Steps (cfg : InferenceConfig) (c : Call) : CallAction → Call → Prop
  | assign : c.phase = .waiting →
      Steps cfg c .assign { c with phase := .assigned, attempts := c.attempts + 1 }
  | allocationFails (message : String) : c.phase = .waiting →
      Steps cfg c (.allocationFails message)
        ({ c with attempts := c.attempts + 1 }.afterException cfg message)
  | send (target : TargetReply) : c.phase = .assigned →
      Steps cfg c (.send target) (c.send cfg target)
  | generate {attempt : Attempt} (token : ℤ) : c.phase = .running attempt →
      attempt.produced.length < cfg.backend.limit attempt.request →
      Steps cfg c (.generate token)
        { c with phase := .running { attempt with produced := attempt.produced ++ [token] } }
  | snapshot (timedOut : Bool) (reply : InstanceReply) : c.attempts ≠ 0 →
      c.phase.isReturned = false →
      Steps cfg c (.snapshot timedOut reply) { c with
        migrationState := if timedOut then none
          else captureInferenceState cfg.backend reply none none none }
  | succeed {attempt : Attempt} (earlier expectedBlocks cachedTokens : ℕ) :
      c.phase = .running attempt →
      Steps cfg c (.succeed earlier expectedBlocks cachedTokens)
        (c.onSuccess cfg attempt earlier expectedBlocks cachedTokens)
  | preempted {attempt : Attempt} {noCurrentTokens : Bool} {earlier shown : ℕ}
      {view : BackendView} {result : PreemptedResult} (reply : InstanceReply) :
      c.phase = .running attempt →
      c.preemptedResult cfg attempt noCurrentTokens earlier shown view = some result →
      Steps cfg c (.preempted noCurrentTokens earlier shown view reply)
        (c.onFailedResult cfg attempt (·.onPreempted cfg result reply))
  | reparallelized {attempt : Attempt} (earlier : ℕ) (shown : Option ℕ) (reply : InstanceReply) :
      c.phase = .running attempt → cfg.backend = .vllm →
      Steps cfg c (.aborted true earlier shown reply)
        (c.onFailedResult cfg attempt (·.onReparallelized cfg))
  | aborted {attempt : Attempt} (earlier : ℕ) (shown : Option ℕ) (reply : InstanceReply) :
      c.phase = .running attempt → cfg.backend = .vllm →
      Steps cfg c (.aborted false earlier shown reply)
        (c.onFailedResult cfg attempt
          (·.onPreempted cfg (c.abortResult cfg attempt earlier shown) reply))
  | errorResult {attempt : Attempt} (kept : Option (List (List ℤ))) (reply : InstanceReply) :
      c.phase = .running attempt → attempt.produced = [] →
      Steps cfg c (.errorResult kept reply)
        (c.onFailedResult cfg attempt (·.onErrorResult cfg kept reply))
  | exception (message : String) (reply : InstanceReply) :
      c.phase = .assigned ∨ (∃ attempt, c.phase = .running attempt) →
      Steps cfg c (.exception message reply)
        ((c.interrupt.onException cfg reply).afterException cfg message)
  | valueError (message : String) : c.phase.isReturned = false →
      Steps cfg c (.valueError message) (c.finish (.error message))

theorem of_step {cfg : InferenceConfig} {c c' : Call} {a : CallAction}
    (h : c.step cfg a = some c') : Steps cfg c a c' := by
  cases a with
  | assign =>
    obtain ⟨_, hphase, h⟩ := Option.bind_eq_some_iff.mp h
    obtain rfl := Option.some.inj h
    exact .assign ((Option.guard_eq_some' _).mp hphase)
  | allocationFails message =>
    obtain ⟨_, hphase, h⟩ := Option.bind_eq_some_iff.mp h
    obtain rfl := Option.some.inj h
    exact .allocationFails message ((Option.guard_eq_some' _).mp hphase)
  | send target =>
    obtain ⟨_, hphase, h⟩ := Option.bind_eq_some_iff.mp h
    obtain rfl := Option.some.inj h
    exact .send target ((Option.guard_eq_some' _).mp hphase)
  | generate token =>
    simp only [step] at h
    split at h
    · obtain ⟨_, hroom, h⟩ := Option.bind_eq_some_iff.mp h
      obtain rfl := Option.some.inj h
      exact .generate token ‹_› ((Option.guard_eq_some' _).mp hroom)
    · cases h
  | snapshot timedOut reply =>
    obtain ⟨_, hopen, h⟩ := Option.bind_eq_some_iff.mp h
    obtain rfl := Option.some.inj h
    obtain ⟨hattempts, hphase⟩ := (Option.guard_eq_some' _).mp hopen
    exact .snapshot timedOut reply hattempts (by simpa using hphase)
  | succeed earlier expectedBlocks cachedTokens =>
    simp only [step] at h
    split at h
    · obtain rfl := Option.some.inj h
      exact .succeed earlier expectedBlocks cachedTokens ‹_›
    · cases h
  | preempted noCurrentTokens earlier shown view reply =>
    simp only [step] at h
    split at h
    · obtain ⟨result, hresult, h⟩ := Option.bind_eq_some_iff.mp h
      obtain rfl := Option.some.inj h
      exact .preempted reply ‹_› hresult
    · cases h
  | aborted reparallelization earlier shown reply =>
    simp only [step] at h
    split at h
    · obtain ⟨_, hbackend, h⟩ := Option.bind_eq_some_iff.mp h
      obtain rfl := Option.some.inj h
      have hbackend := (Option.guard_eq_some' _).mp hbackend
      cases reparallelization with
      | true => exact .reparallelized earlier shown reply ‹_› hbackend
      | false => exact .aborted earlier shown reply ‹_› hbackend
    · cases h
  | errorResult kept reply =>
    simp only [step] at h
    split at h
    · obtain ⟨_, hproduced, h⟩ := Option.bind_eq_some_iff.mp h
      obtain rfl := Option.some.inj h
      exact .errorResult kept reply ‹_› ((Option.guard_eq_some' _).mp hproduced)
    · cases h
  | exception message reply =>
    simp only [step] at h
    split at h
    · obtain rfl := Option.some.inj h
      exact .exception message reply (Or.inl ‹_›)
    · obtain rfl := Option.some.inj h
      exact .exception message reply (Or.inr ⟨_, ‹_›⟩)
    · cases h
  | valueError message =>
    obtain ⟨_, hopen, h⟩ := Option.bind_eq_some_iff.mp h
    obtain rfl := Option.some.inj h
    exact .valueError message (by simpa using (Option.guard_eq_some' _).mp hopen)

end Call

/-- The states of the calls whose steps are all allowed. -/
def CallRuns (cfg : InferenceConfig) (allowed : Call → CallAction → Prop) : Call → Prop :=
  Runs.Reachable
    (fun c => ∃ text inputTokens maxTokens, c = Call.start cfg text inputTokens maxTokens)
    (fun c a c' => c.step cfg a = some c') allowed

/-- A router in front of vLLM that restores states. -/
def statefulVllm : InferenceConfig where
  recoveryPolicy := .statefulRecovery
  maxRetries := 3
  backend := .vllm

end Router
end SpotServe
