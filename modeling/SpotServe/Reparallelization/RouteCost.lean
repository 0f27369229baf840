import SpotServe.Reparallelization.Ranking

/-!
# Calibrated service times

`sllm/spot/moe_route_cost.py`, the estimator: from measurements of a calibration run to the
predicted service time of a frozen request on each calibrated group of GPUs.  The measurements are
records here; what is hashed as a whole (a protocol, a routing histogram, a runtime) stays a
payload.

Hashes, the square root of floats and the seeded shuffle come from outside
(`RouteCostEnvironment`); every other number is an exact rational.

* `routeVector`: the routing of a request as a vector.
* `validateCalibration`: the checks of the calibration, and the training workloads.
* `predictCandidates`: the predictions, from all training workloads alike (`generic`) or from those
  whose routing is nearest (`route`), for the calibrated shape or scaled to another.
-/

namespace SpotServe
namespace Reparallelization

open Py Runs

/-- The exceptions of the estimator and of the recovery planner. -/
inductive RouteCostError where
  | valueError (text : String)
  | keyError (key : String)
  /-- A value without the items that are asked of it. -/
  | notAMapping
  /-- An exception of the reparallelization planner. -/
  | planning (e : PlanningFailure)
  deriving DecidableEq

/-- What comes from outside. -/
structure RouteCostEnvironment where
  /-- `hashlib.sha256(json.dumps(value, sort_keys=True).encode()).hexdigest()`. -/
  digest : Value → String
  /-- `math.sqrt`. -/
  sqrt : ℚ → ℚ
  /-- `random.Random(seed).shuffle`. -/
  shuffle : ℕ → List (List ℚ) → List (List ℚ)
  /-- `str` of a float. -/
  floatText : ℚ → String
  /-- The lookups of the placement planner. -/
  placementLookups : PlacementLookups

/-! ## The calibration -/

/-- `frozen`: the prefix of a request and what is left to generate. -/
structure FrozenRequest where
  tokens : List ℤ
  fullPrefixSha256 : String
  remainingTokens : ℤ
  completedTokens : ℤ
  strictRequestedBoundaryVerified : Bool

/-- An entry of `source_cases`, or the case to evaluate. -/
structure SourceCase where
  workloadId : Option String
  frozen : FrozenRequest
  routes : Dict

/-- A measurement of a training workload. -/
structure CaseRow where
  requestId : String
  matchesUninterruptedReference : Bool
  timedJitWarnings : List String
  generatedTokens : ℤ
  finishReason : String
  ackFrozenPrefixSha256 : String
  ackInstallMode : String
  latencyS : ℚ
  ttftS : ℚ

/-- A measurement of a transition.  Its times may be anything before they are checked. -/
structure ReadySample where
  artifact : String
  runtimeSignature : String
  readyMs : Value
  hostHandoffMs : Value

/-- A calibrated group of GPUs. -/
structure CalibratedCandidate where
  physicalGpuIndices : List ℤ
  tp : ℕ
  runtime : Dict
  runtimeSignature : String
  readySamples : List ReadySample
  cases : OrderedDict String (List CaseRow)

/-- The calibration data. -/
structure CalibrationData where
  status : Option String
  scope : Option String
  protocol : Dict
  protocolSha256 : Option String
  sourceCases : OrderedDict String SourceCase
  candidates : OrderedDict String CalibratedCandidate

/-- `raise ValueError(text)` unless a condition holds. -/
def check (condition : Prop) [Decidable condition] (text : String) : Except RouteCostError Unit :=
  require condition (.valueError text)

/-- `mapping[key]`. -/
def getItem (items : Dict) (key : String) : Except RouteCostError Value :=
  match items.lookup key with
  | some value => .ok value
  | none => .error (.keyError key)

/-- A value whose items are asked for. -/
def asItems : Value → Except RouteCostError Dict
  | .dict items => .ok items
  | _ => .error .notAMapping

/-- `text.startswith(word)`. -/
def startsWith (word text : String) : Bool := word.toList.isPrefixOf text.toList

/-! ## Routing vectors -/

/-- The layer and the expert of a key of the histogram; `none` is the `ValueError`. -/
def routeKey (key : String) : Option (ℤ × ℤ) :=
  match splitOn (· = '/') key with
  | [layer, expert] =>
    if startsWith "layer:" layer && startsWith "expert:" expert then
      (intOfString (String.ofList (layer.toList.drop 6))).bind fun layerId =>
        (intOfString (String.ofList (expert.toList.drop 7))).map fun expertId =>
          (layerId, expertId)
    else none
  | _ => none

/-- The counts by layer and expert, and their totals by layer. -/
structure RouteCounts where
  values : List ℚ
  totals : List ℤ

/-- The loop body over the histogram. -/
def addRoute (layers experts : ℕ) (counts : RouteCounts) (item : String × Value) :
    Except RouteCostError RouteCounts :=
  match routeKey item.1 with
  | none => .error (.valueError "malformed expert routing")
  | some (layer, expert) =>
    match item.2 with
    | .int count =>
      if (0 ≤ layer ∧ layer < layers) ∧ (0 ≤ expert ∧ expert < experts) ∧ 0 < count then
        .ok {
          values := counts.values.set (layer.toNat * experts + expert.toNat) count
          totals := counts.totals.modify layer.toNat (· + count) }
      else .error (.valueError "expert route outside checkpoint bounds")
    | _ => .error (.valueError "expert route outside checkpoint bounds")

section Estimator

variable (env : RouteCostEnvironment)

/-- `route_vector`, for 32 layers of 40 experts of which 8 are taken. -/
def routeVector (routes : Dict) : Except RouteCostError (List ℚ) := do
  let histogram := (routes.lookup "histogram").getD (.dict [])
  check (histogram.truthy = true ∧
      isWord routes "origin" "live_frontend_routed_experts_chunks" = true ∧
      isWord routes "histogram_sha256" (env.digest histogram) = true)
    "independent live routing histogram/hash is unavailable"
  let items ← asItems histogram
  let counts ← items.foldlM (addRoute 32 40)
    { values := List.replicate (32 * 40) 0, totals := List.replicate 32 0 }
  let total := counts.totals.headD 0
  check (counts.totals.dedup.length = 1 ∧ total ≠ 0 ∧ total % 8 = 0)
    "incomplete per-layer top-k observation"
  let norm := env.sqrt (counts.values.map fun value => value * value).sum
  return counts.values.map fun value => value / norm

/-! ## Checking the calibration -/

/-- `PROFILE_RUNTIME_FIELDS`. -/
def profileRuntimeFields : List String :=
  ["config_sha256", "vllm_version", "torch_version", "dtype", "cpu_offload_gb", "routing_capture",
    "model_runner", "enforce_eager", "moe_backend", "enable_prefix_caching", "max_model_len",
    "max_num_seqs", "max_num_batched_tokens", "gpu_memory_utilization", "async_scheduling",
    "scheduler_cls"]

/-- `profile_runtime_signature` (`sllm/spot/moe_tp_profiles.py`). -/
def profileRuntimeSignature (report : Dict) : Except RouteCostError String := do
  check (∀ field ∈ profileRuntimeFields, ((report.lookup field).getD .none).equals .none = false)
    "checkpoint/runtime settings are incomplete"
  let execution ← asItems ((report.lookup "execution").getD (.dict []))
  let revision := (execution.lookup "model_revision").getD .none
  check (revision.truthy = true)
    "checkpoint revision is unavailable; config alone is insufficient"
  return env.digest (.dict
    (profileRuntimeFields.map (fun field => (field, (report.lookup field).getD .none)) ++
      [("tp", (report.lookup "tp").getD .none), ("model_revision", revision)]))

/-- A time of a transition: an integer or a float that is not negative. -/
def transitionTime? : Value → Option ℚ
  | .int n => if n < 0 then none else some n
  | .float q _ => if q < 0 then none else some q
  | _ => none

/-- The checks of a transition. -/
def validateReadySample (candidate : CalibratedCandidate) (row : ReadySample) :
    Except RouteCostError Unit := do
  check (row.runtimeSignature = candidate.runtimeSignature) "transition runtime differs"
  check ((transitionTime? row.readyMs).isSome = true ∧
      (transitionTime? row.hostHandoffMs).isSome = true)
    "unknown transition component cannot be zero-filled"

/-- What a measurement must show to be taken. -/
def CaseRow.Valid (row : CaseRow) (frozen : FrozenRequest) : Prop :=
  row.matchesUninterruptedReference = true ∧ row.timedJitWarnings = [] ∧
    row.generatedTokens = 256 ∧ row.finishReason = "length" ∧
    row.ackFrozenPrefixSha256 = frozen.fullPrefixSha256 ∧
    row.ackInstallMode = "host_token_handoff_excluding_gpu_prefill" ∧ 0 < row.latencyS

instance (row : CaseRow) (frozen : FrozenRequest) : Decidable (row.Valid frozen) :=
  inferInstanceAs (Decidable (_ ∧ _))

/-- The checks of a training workload and of its measurements. -/
def validateTraining (candidate : CalibratedCandidate) (training : String × SourceCase) :
    Except RouteCostError Unit := do
  let frozen := training.2.frozen
  check (frozen.tokens.length = 4352 ∧ frozen.remainingTokens = 256 ∧
      frozen.completedTokens = 256 ∧ frozen.strictRequestedBoundaryVerified = true ∧
      frozen.fullPrefixSha256 = env.digest (.list (frozen.tokens.map .int)))
    "training prefix/boundary mismatch"
  let _ ← routeVector env training.2.routes
  match candidate.cases.get? training.1 with
  | none => .error (.keyError training.1)
  | some samples => do
    check (3 ≤ samples.length ∧ (samples.map CaseRow.requestId).Nodup)
      "three distinct complete training measurements are required"
    check (∀ row ∈ samples, row.Valid frozen) "training output/timing/handoff evidence invalid"

/-- The loop body over the candidates; the signature of the runtime they share goes along. -/
def validateCandidate (protocol : Dict) (training : List (String × SourceCase))
    (sharedRuntime : Option String) (candidate : CalibratedCandidate) :
    Except RouteCostError (Option String) := do
  let signature ← profileRuntimeSignature env candidate.runtime
  check (candidate.runtimeSignature = signature) "candidate runtime signature mismatch"
  let execution ← getItem candidate.runtime "execution" >>= asItems
  let revision ← getItem execution "model_revision"
  let registered ← getItem protocol "revision"
  check (revision.equals registered = true) "checkpoint revision differs from protocol"
  let group ← getItem execution "physical_gpu_indices"
  check (group.equals (.list (candidate.physicalGpuIndices.map .int)) = true)
    "physical group differs from actual calibration"
  let mode ← profileRuntimeSignature env (OrderedDict.setEntry candidate.runtime "tp" (.int 1))
  check (sharedRuntime = none ∨ sharedRuntime = some mode) "candidate runtime modes differ"
  check (3 ≤ candidate.readySamples.length ∧
      (candidate.readySamples.map ReadySample.artifact).Nodup)
    "three independent engine transition artifacts are required"
  let _ ← candidate.readySamples.mapM (validateReadySample candidate)
  let _ ← training.mapM (validateTraining env candidate)
  return some mode

/-- `training`, with its cases. -/
def trainingCases (data : CalibrationData) : List (String × SourceCase) :=
  (data.sourceCases.entries.filter fun entry => startsWith "train-" entry.1).insertionSort
    fun a b => a.1 ≤ b.1

/-- `full_prefix_sha256` of the training workloads. -/
def trainingPrefixes (data : CalibrationData) : List String :=
  (trainingCases data).map fun entry => entry.2.frozen.fullPrefixSha256

/-- `validate_calibration`. -/
def validateCalibration (data : CalibrationData) :
    Except RouteCostError (List (String × SourceCase)) := do
  check (data.status = some "passed" ∧
      data.scope = some "independent_prior_calibration_not_formal_runs")
    "a completed independent prior GPU calibration is required"
  check (data.protocolSha256 = some (env.digest (.dict data.protocol)))
    "calibration protocol hash mismatch"
  let boundary ← ["initial_prompt_tokens", "source_output_tokens",
    "native_freeze_generated_tokens", "concurrency"].mapM (getItem data.protocol)
  check (equalsList boundary [.int 4096, .int 512, .int 256, .int 1] = true)
    "this pilot estimator only supports registered 4K C=1 256 boundary"
  let training := trainingCases data
  check (6 ≤ training.length) "need at least six independent training workloads"
  check (trainingPrefixes data).Nodup "training workloads must have distinct actual prefixes"
  let _ ← data.candidates.values.foldlM (validateCandidate env data.protocol training) none
  return training

/-! ## Predictions -/

/-- `statistics.mean`. -/
def mean (values : List ℚ) : ℚ := values.sum / values.length

/-- The mean of a measured time of a training workload, in milliseconds.  The workloads that are
asked for were all found when the calibration was checked. -/
def CalibratedCandidate.meanMs (candidate : CalibratedCandidate) (time : CaseRow → ℚ)
    (key : String) : ℚ :=
  1000 * mean (((candidate.cases.get? key).getD []).map time)

/-- `means`. -/
def CalibratedCandidate.means (candidate : CalibratedCandidate) : String → ℚ :=
  candidate.meanMs CaseRow.latencyS

/-- `ttfts`. -/
def CalibratedCandidate.ttfts (candidate : CalibratedCandidate) : String → ℚ :=
  candidate.meanMs CaseRow.ttftS

/-- `steps`. -/
def CalibratedCandidate.steps (candidate : CalibratedCandidate) (key : String) : ℚ :=
  (candidate.means key - candidate.ttfts key) / 255

/-- The mean of a value over workloads with weights. -/
def weightedMean (ids : List (String × ℚ)) (value : String → ℚ) : ℚ :=
  (ids.map fun id => value id.1 * id.2).sum / (ids.map Prod.snd).sum

/-- `scaled`: the first token grows with the prefix, the others come one by one. -/
def CalibratedCandidate.scaled (candidate : CalibratedCandidate) (frozen : FrozenRequest)
    (ids : List (String × ℚ)) : ℚ :=
  weightedMean ids candidate.ttfts * frozen.tokens.length / 4352 +
    weightedMean ids candidate.steps * (frozen.remainingTokens - 1)

/-- The distance of two vectors. -/
def distance (query vector : List ℚ) : ℚ :=
  env.sqrt ((query.zip vector).map fun pair => (pair.1 - pair.2) ^ 2).sum

/-- The order of `neighbours`: by distance, and by name where the distance is the same. -/
def nearer (a b : ℚ × String) : Prop := a.1 < b.1 ∨ a.1 = b.1 ∧ a.2 ≤ b.2

instance (a b : ℚ × String) : Decidable (nearer a b) := inferInstanceAs (Decidable (_ ∨ _))

/-- `neighbours`. -/
def neighbours (query : List ℚ) (vectors : List (List ℚ)) (training : List String) :
    List (ℚ × String) :=
  ((vectors.zip training).map fun pair => (distance env query pair.1, pair.2)).insertionSort nearer

/-- `exact`. -/
def exactNeighbours (found : List (ℚ × String)) : List (ℚ × String) :=
  found.filter fun neighbour => neighbour.1 < 1 / 10 ^ 12

/-- `chosen`: those at no distance, or else the three nearest. -/
def chosenNeighbours (found : List (ℚ × String)) : List (ℚ × String) :=
  if exactNeighbours found = [] then found.take 3 else exactNeighbours found

/-- `weights`. -/
def neighbourWeights (found : List (ℚ × String)) : List (String × ℚ) :=
  (chosenNeighbours found).map fun neighbour =>
    (neighbour.2,
      if exactNeighbours found = [] then 1 / max neighbour.1 (1 / 10 ^ 6) else 1)

/-- A prediction. -/
structure Prediction where
  candidateId : String
  tensorParallelSize : ℕ
  physicalGpuIndices : List ℤ
  profileRuntimeSignature : String
  genericServiceMs : ℚ
  routeServiceMs : ℚ
  engineReadyMs : ℚ
  hostHandoffMs : ℚ
  nearestTrainingWorkloads : List (String × ℚ)
  estimateDefinition : String
  variableShapePredictionRequiresIndependentShapeValidation : Bool
  physicalDispatchTrafficVerified : Bool := false
  measuredCurrentOrFutureRunLatencyUsed : Bool := false

/-- The mean of a time over the transitions of a candidate. -/
def CalibratedCandidate.meanTransition (candidate : CalibratedCandidate)
    (time : ReadySample → Value) : ℚ :=
  mean (candidate.readySamples.map fun row => (transitionTime? (time row)).getD 0)

/-- `generic_service_ms`: all training workloads alike. -/
def CalibratedCandidate.genericService (candidate : CalibratedCandidate) (training : List String)
    (frozen : FrozenRequest) (variableShape : Bool) : ℚ :=
  if variableShape then candidate.scaled frozen (training.map fun key => (key, 1))
  else mean (training.map candidate.means)

/-- `route_service_ms`: the chosen neighbours by their weights. -/
def CalibratedCandidate.routeService (candidate : CalibratedCandidate)
    (weights : List (String × ℚ)) (frozen : FrozenRequest) (variableShape : Bool) : ℚ :=
  if variableShape then candidate.scaled frozen weights else weightedMean weights candidate.means

/-- The prediction for a candidate. -/
def predictionFor (training : List String) (frozen : FrozenRequest) (signal : String)
    (variableShape : Bool) (found : List (ℚ × String)) (entry : String × CalibratedCandidate) :
    Prediction :=
  let candidate := entry.2
  let generic := candidate.genericService training frozen variableShape
  { candidateId := entry.1
    tensorParallelSize := candidate.tp
    physicalGpuIndices := candidate.physicalGpuIndices
    profileRuntimeSignature := candidate.runtimeSignature
    genericServiceMs := generic
    routeServiceMs :=
      if signal = "removed" then generic
      else candidate.routeService (neighbourWeights found) frozen variableShape
    engineReadyMs := candidate.meanTransition ReadySample.readyMs
    hostHandoffMs := candidate.meanTransition ReadySample.hostHandoffMs
    nearestTrainingWorkloads := (chosenNeighbours found).map Prod.swap
    estimateDefinition :=
      if variableShape then "prefix_scaled_TTFT_plus_linear_decode_step_from_prior_routes"
      else "prior_prefix_route_kNN_full_prefill_plus_remaining_decode"
    variableShapePredictionRequiresIndependentShapeValidation := variableShape }

/-- The loop body over the candidates. -/
def predictCandidate (training : List String) (frozen : FrozenRequest) (signal : String)
    (variableShape : Bool) (found : List (ℚ × String)) (entry : String × CalibratedCandidate) :
    Except RouteCostError Prediction := do
  check (variableShape = true → ∀ key ∈ training, 0 < entry.2.steps key)
    "invalid calibrated decode-step slope"
  return predictionFor training frozen signal variableShape found entry

/-- The shape of the case to evaluate. -/
def validateShape (frozen : FrozenRequest) (variableShape : Bool) : Except RouteCostError Unit :=
  let prefixTokens : ℤ := frozen.tokens.length
  if variableShape then
    check ((4096 < prefixTokens ∧ prefixTokens < 4608) ∧
        (0 < frozen.remainingTokens ∧ frozen.remainingTokens < 512) ∧
        frozen.completedTokens + frozen.remainingTokens = 512 ∧
        prefixTokens = 4096 + frozen.completedTokens)
      "variable shape is outside registered 4K incomplete-request bounds"
  else
    check (prefixTokens = 4352 ∧ frozen.remainingTokens = 256 ∧ frozen.completedTokens = 256)
      "evaluation workload differs from calibrated shape"

/-- The vectors of the training workloads, as the diagnostic that is asked for has them. -/
def signalVectors (signal : String) (seed : ℕ) (vectors : List (List ℚ)) :
    Except RouteCostError (List (List ℚ)) :=
  if signal = "shuffled" then .ok (env.shuffle seed vectors)
  else if signal = "routes" ∨ signal = "removed" then .ok vectors
  else .error (.valueError "unknown route-signal diagnostic")

/-- `neighbours` of the case to evaluate, from the routing of the training workloads. -/
def routeNeighbours (training : List (String × SourceCase)) (sourceCase : SourceCase)
    (signal : String) (seed : ℕ) : Except RouteCostError (List (ℚ × String)) := do
  let query ← routeVector env sourceCase.routes
  let vectors ← training.mapM fun entry => routeVector env entry.2.routes
  let vectors ← signalVectors env signal seed vectors
  return neighbours env query vectors (training.map Prod.fst)

/-- `predict_candidates`: the predictions, in the order of the candidates. -/
def predictCandidates (data : CalibrationData) (sourceCase : SourceCase) (signal : String)
    (seed : ℕ) (variableShape : Bool) : Except RouteCostError (List Prediction) := do
  let training ← validateCalibration env data
  let frozen := sourceCase.frozen
  check (∀ id ∈ sourceCase.workloadId, id ∉ training.map Prod.fst)
    "evaluation workload leaked into training"
  check (frozen.fullPrefixSha256 ∉ trainingPrefixes data) "evaluation prefix leaked into training"
  check (frozen.fullPrefixSha256 = env.digest (.list (frozen.tokens.map .int)))
    "evaluation prefix hash differs from actual tokens"
  validateShape frozen variableShape
  let found ← routeNeighbours env training sourceCase signal seed
  data.candidates.entries.mapM
    (predictCandidate (training.map Prod.fst) frozen signal variableShape found)

end Estimator

end Reparallelization
end SpotServe
