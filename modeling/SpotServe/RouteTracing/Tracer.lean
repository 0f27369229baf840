import Mathlib.Data.Rat.Defs
import Mathlib.Data.List.Dedup
import Mathlib.Data.List.Sort
import SpotServe.Library.DecimalText
import SpotServe.Library.Tallies

/-!
# Counting the routed assignments on a worker

`vllm/spotserve_moe.py`, which `sllm_store/vllm_patch/runtime_moe_metadata.patch` adds to the
engine.  A worker runs forward passes.  For each pass the model runner says which requests the rows
belong to (`moe_request_context`); then each MoE layer hands over the expert ids that its router
chose for the rows (`record_moe_routing`), all rows at once or in several calls.  The worker counts
them by request, over all requests, and over the last 64 calls.

* `expertKey`: the key under which an expert of a layer is counted.
* `RouteContext`, `Tracer`, `Worker`: the state.
* `record`, `forward`, `clearRequests`, `step`: what changes it.
* `requestReport`, `runtimeMetadata`: what the worker tells.
-/

namespace SpotServe
namespace RouteTracing

open Py

/-! ## Keys -/

/-- `(\d+)(?:c|$)` at the start of a text. -/
def digitsUpTo (stop : Char) (text : List Char) : Option String :=
  let digits := text.takeWhile fun c => (digitValue? c).isSome
  let rest := text.dropWhile fun c => (digitValue? c).isSome
  if digits ≠ [] ∧ (rest = [] ∨ rest = ['\n'] ∨ rest.head? = some stop) then
    some (String.ofList digits)
  else none

/-- `layers\.(\d+)(?:\.|$)` at the start of a text. -/
def layersHere (text : List Char) : Option String :=
  (matchLiteral "layers.".toList text).bind (digitsUpTo '.')

/-- `layer[:/_-]?(\d+)(?:/|$)` at the start of a text. -/
def layerHere (text : List Char) : Option String :=
  (matchLiteral "layer".toList text).bind fun rest =>
    match rest with
    | c :: tail => digitsUpTo '/' (if c ∈ [':', '/', '_', '-'] then tail else rest)
    | [] => none

/-- `re.search(r"(?:^|s)pattern", text)` for a character `s`. -/
def searchAfter (separator : Char) (pattern : List Char → Option String) (text : List Char) :
    Option String :=
  (pattern text).or (search (fun rest => (matchLiteral [separator] rest).bind pattern) text)

/-- `_layer_id_from_name`. -/
def layerIdFromName (layerName : Option String) : String :=
  match layerName with
  | none => "unknown"
  | some name =>
    if name = "" then "unknown"
    else
      ((searchAfter '.' layersHere name.toList).or (searchAfter '/' layerHere name.toList)).getD
        "unknown"

/-- `_expert_key`. -/
def expertKey (layerName : Option String) (expertId : ℕ) : String :=
  if layerIdFromName layerName = "unknown" then "expert:" ++ toString expertId
  else "layer:" ++ layerIdFromName layerName ++ "/expert:" ++ toString expertId

/-- `str(layer_name or "unknown")`. -/
def layerKey (layerName : Option String) : String :=
  match layerName with
  | none => "unknown"
  | some name => if name = "" then "unknown" else name

/-- `f"source-rank:{source_rank}/{expert_key}"`. -/
def sourceKey (sourceRank : ℕ) (key : String) : String :=
  "source-rank:" ++ toString sourceRank ++ "/" ++ key

/-! ## The state -/

/-- `topk_ids`: a tensor of `topk` expert ids for each row. -/
structure TopkIds where
  topk : ℕ
  rows : List (List ℤ)
  width : ∀ row ∈ rows, row.length = topk

/-- `topk_ids.numel()`. -/
def TopkIds.numel (ids : TopkIds) : ℕ := ids.rows.length * ids.topk

/-- A call of `record_moe_routing`, and when it is made. -/
structure RoutingCall where
  layerName : Option String
  ids : TopkIds
  time : ℚ

/-- The rows `start ≤ i < stop` of a forward pass belong to a request. -/
structure Span where
  start : ℕ
  stop : ℕ
  requestId : String

/-- `_RouteContext`, without the two fields that nothing reads. -/
structure RouteContext where
  spans : List Span
  layerOffsets : OrderedDict String ℕ

/-- What a worker finds around it: whether tracing is on, its rank in the data parallel group
(`none` where asking for the group raises), and the marker of the process. -/
structure TracerEnv where
  enabled : Bool
  dpRank : Option ℤ
  resetMarker : String
  workerRank : ℕ

/-- The counters of a worker. -/
structure Tracer where
  perRequest : OrderedDict String (Tally String) := .empty
  globalHistogram : Tally String := .empty
  recentEvents : List (Tally String) := []
  globalSourceExpert : Tally String := .empty
  recentSourceEvents : List (Tally String) := []
  cachedSourceRank : Option ℕ := none
  lastObservationTimeS : Option ℚ := none

/-- A worker: its counters, and the context of the forward pass that it runs. -/
structure Worker where
  tracer : Tracer := {}
  context : Option RouteContext := none

/-! ## Recording -/

/-- `deque(maxlen=64).append`. -/
def appendRecent (events : List (Tally String)) (event : Tally String) : List (Tally String) :=
  (events ++ [event]).drop (events.length + 1 - 64)

/-- The ids of some rows that name an expert. -/
def chosenExperts (rows : List (List ℤ)) : List ℕ :=
  (rows.flatten.filter fun id => 0 ≤ id).map Int.toNat

/-- `_event_histogram`: `torch.unique` gives the ids in increasing order, with their counts. -/
def eventHistogram (rows : List (List ℤ)) (layerName : Option String) : Tally String :=
  let ids := chosenExperts rows
  (ids.dedup.insertionSort (· ≤ ·)).foldl
    (fun histogram expertId => histogram.put (expertKey layerName expertId) (ids.count expertId))
    .empty

/-- `topk_ids[start:stop]`. -/
def rowsBetween (rows : List (List ℤ)) (start stop : ℕ) : List (List ℤ) :=
  (rows.take stop).drop start

/-- The turn of the loop for one span: `start` and `stop` are the rows of the call. -/
def updateRequest (start stop : ℕ) (call : RoutingCall)
    (updates : OrderedDict String (Tally String)) (span : Span) :
    OrderedDict String (Tally String) :=
  let overlapStart := max start span.start
  let overlapEnd := min stop span.stop
  if overlapEnd ≤ overlapStart then updates
  else
    let histogram := eventHistogram
      (rowsBetween call.ids.rows (overlapStart - start) (overlapEnd - start)) call.layerName
    if histogram.isEmpty then updates
    else updates.set span.requestId
      (((updates.get? span.requestId).getD .empty).merge histogram)

/-- `request_updates`. -/
def requestUpdates (spans : List Span) (start stop : ℕ) (call : RoutingCall) :
    OrderedDict String (Tally String) :=
  spans.foldl (updateRequest start stop call) .empty

/-- `_source_rank`. -/
def sourceRank (env : TracerEnv) (cached : Option ℕ) : Option ℕ :=
  cached.or (env.dpRank.bind fun rank => if rank < 0 then none else some rank.toNat)

/-- `_source_expert_histogram`. -/
def sourceExpertHistogram (rank : ℕ) (histogram : Tally String) : Tally String :=
  histogram.counts.entries.foldl (fun source entry => source.put (sourceKey rank entry.1) entry.2)
    .empty

/-- The counters after the updates of a call, under the lock. -/
def Tracer.observe (env : TracerEnv) (tracer : Tracer)
    (updates : OrderedDict String (Tally String)) (time : ℚ) : Tracer :=
  let eventTotal := Tally.mergeAll .empty updates.values
  let counted :=
    { tracer with
      perRequest := tracer.perRequest.updateWith updates fun _ old histogram =>
        (old.getD .empty).merge histogram
      globalHistogram := tracer.globalHistogram.mergeAll updates.values }
  if eventTotal.isEmpty then counted
  else
    let observed :=
      { counted with
        recentEvents := appendRecent tracer.recentEvents eventTotal
        lastObservationTimeS := some time }
    match sourceRank env tracer.cachedSourceRank with
    | none => observed
    | some rank =>
      let sourceEvent := sourceExpertHistogram rank eventTotal
      { observed with
        cachedSourceRank := some rank
        globalSourceExpert := tracer.globalSourceExpert.merge sourceEvent
        recentSourceEvents := appendRecent tracer.recentSourceEvents sourceEvent }

/-- `record_moe_routing`. -/
def record (env : TracerEnv) (w : Worker) (call : RoutingCall) : Worker :=
  match w.context with
  | none => w
  | some context =>
    if !env.enabled ∨ call.ids.numel = 0 then w
    else
      let start := (context.layerOffsets.get? (layerKey call.layerName)).getD 0
      let stop := start + call.ids.rows.length
      let updates := requestUpdates context.spans start stop call
      { tracer :=
          if updates.entries.isEmpty then w.tracer else w.tracer.observe env updates call.time
        context := some
          { context with
            layerOffsets := context.layerOffsets.set (layerKey call.layerName) stop } }

/-! ## Steps -/

/-- A batch: the requests of a forward pass with the numbers of their tokens, in row order. -/
abbrev Batch := List (String × ℤ)

/-- The spans of a batch whose first row is `offset`. -/
def spansFrom (offset : ℕ) : Batch → List Span
  | [] => []
  | (requestId, tokenCount) :: rest =>
    if tokenCount ≤ 0 then spansFrom offset rest
    else
      ⟨offset, offset + tokenCount.toNat, requestId⟩ :: spansFrom (offset + tokenCount.toNat) rest

/-- A forward pass under `moe_request_context`, with the calls that its layers make. -/
def forward (env : TracerEnv) (batch : Batch) (calls : List RoutingCall) (w : Worker) : Worker :=
  if !env.enabled ∨ spansFrom 0 batch = [] then calls.foldl (record env) w
  else
    let inside := calls.foldl (record env) { w with context := some ⟨spansFrom 0 batch, .empty⟩ }
    { inside with context := w.context }

/-- `clear_moe_request_metadata`. -/
def clearRequests (requestIds : List String) (w : Worker) : Worker :=
  { w with tracer :=
    { w.tracer with perRequest := requestIds.foldl OrderedDict.erase w.tracer.perRequest } }

/-- What a model runner does: it forgets finished requests, runs a batch, or runs the model without
one (to warm up). -/
inductive RunnerAction where
  | finish (requestIds : List String)
  | execute (batch : Batch) (calls : List RoutingCall)
  | dummyRun (calls : List RoutingCall)

/-- One step of a worker. -/
def step (env : TracerEnv) (w : Worker) : RunnerAction → Worker
  | .finish requestIds => clearRequests requestIds w
  | .execute batch calls => forward env batch calls w
  | .dummyRun calls => calls.foldl (record env) w

/-- A worker after its steps. -/
def runWorker (env : TracerEnv) (actions : List RunnerAction) : Worker :=
  actions.foldl (step env) {}

/-! ## Reports -/

/-- `get_request_moe_metadata` of a worker, without the request id that it repeats. -/
structure RequestReport where
  histogram : Option (Tally String)
  source : String
  kind : String
  reason : String
  workerRank : ℕ

/-- What a worker knows about a request. -/
def requestReport (env : TracerEnv) (w : Worker) (requestId : String) : RequestReport :=
  let histogram := (w.tracer.perRequest.get? requestId).getD .empty
  if histogram.isEmpty then
    { histogram := none
      source := if env.enabled then "vllm_runtime_topk" else "disabled"
      kind := ""
      reason := if env.enabled then "no_moe_route_histogram" else "moe_route_tracing_disabled"
      workerRank := env.workerRank }
  else
    { histogram := some histogram
      source := "vllm_runtime_topk"
      kind := "runtime_observed_topk"
      reason := ""
      workerRank := env.workerRank }

/-- What `get_moe_runtime_metadata` says about routes, on a worker, an engine or a deployment.  The
last two fields are set by the engine and by the deployment. -/
structure RouteMetadata where
  tracingEnabled : Bool
  histogramAvailable : Bool
  histogramSource : String
  histogramKind : String
  globalExpertHotness : Tally String
  recentWindowExpertHotness : Tally String
  globalSourceRankExpertHotness : Tally String
  recentWindowSourceRankExpertHotness : Tally String
  counterUnit : String
  aggregationScope : String
  keyGranularity : String
  completeSparse : Bool
  recentEventCount : ℕ
  lastObservationTimeS : Option ℚ
  globalResetMarker : String
  tpAggregation : String := ""
  metadataConsistent : Option Bool := none

/-- `get_moe_runtime_metadata` of a worker. -/
def runtimeMetadata (env : TracerEnv) (w : Worker) : RouteMetadata :=
  let available := !w.tracer.globalHistogram.isEmpty
  { tracingEnabled := env.enabled
    histogramAvailable := available
    histogramSource := if available then "vllm_runtime_topk" else "unavailable"
    histogramKind := if available then "runtime_observed_topk" else "unavailable"
    globalExpertHotness := w.tracer.globalHistogram
    recentWindowExpertHotness := Tally.mergeAll .empty w.tracer.recentEvents
    globalSourceRankExpertHotness := w.tracer.globalSourceExpert
    recentWindowSourceRankExpertHotness := Tally.mergeAll .empty w.tracer.recentSourceEvents
    counterUnit := "topk_routed_assignments"
    aggregationScope := "worker"
    keyGranularity := "layer_expert"
    completeSparse := true
    recentEventCount := w.tracer.recentEvents.length
    lastObservationTimeS := w.tracer.lastObservationTimeS
    globalResetMarker := env.resetMarker }

end RouteTracing
end SpotServe
