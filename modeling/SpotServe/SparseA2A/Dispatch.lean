import Mathlib.Algebra.Module.Defs
import Mathlib.Algebra.BigOperators.Fin
import Mathlib.Data.Fin.Tuple.Basic
import SpotServe.Library.Segments

/-!
# Routing-aware all-to-all for mixture-of-experts layers

`sllm/vllm_sparse_a2a.py` sends every token to the ranks that own one of its selected experts, runs
the local experts there and adds the results up where the token came from.  The ranks run the same
code in step, with collective operations between them, so a phase of the code is a function of the
data of all ranks.  The collectives deliver segments in rank order.

The number of ranks is `W`, the number of experts a token selects is `k`, and there are `E` global
experts.  Hidden states live in a module over the weights.

* `prepare`: the owner map, the dispatch plan of each rank, and the exchange of the rows.
* `fusedExperts`, `weightAndReduce`: the local kernel, whose weights are given by slot.
* `finalize`: the way back, and the sum per token.
* `forward`: one pass of a layer.
-/

namespace SpotServe
namespace SparseA2A

/-- One token: its hidden state, the experts it selects and their weights. -/
structure TokenRow (R V : Type) (k E : ℕ) where
  hidden : V
  ids : Fin k → Fin E
  weights : Fin k → R

/-- An expert map tensor: the local slot of each global expert, negative when it is elsewhere.  The
storage address and the version counter identify its contents in the owner cache. -/
structure ExpertMap where
  dataPtr : ℕ
  version : ℕ
  entries : List ℤ

/-- Whether the rank of an expert map holds an expert. -/
def ExpertMap.owns (m : ExpertMap) (e : ℕ) : Bool := decide (0 ≤ m.entries.getD e (-1))

/-- `_DispatchState`. -/
structure DispatchState (W : ℕ) where
  originalTokens : ℕ
  localTokens : List ℕ
  remoteTokens : List ℕ
  sendCounts : Fin W → ℕ
  recvCounts : Fin W → ℕ

/-- What a `SpotServeSparsePrepareAndFinalize` object remembers between calls. -/
structure RankState (W : ℕ) where
  ownerCacheKey : Option (ℕ × ℕ) := none
  ownerCache : Option (List ℕ) := none
  state : Option (DispatchState W) := none

/-- The errors, the last one being a collective in which the ranks do not agree. -/
inductive SparseError where
  | quantizationNotSupported
  | requiresGlobalExpertMap
  | overlappingDispatch
  | weightOnInputRequiresTopkOne
  | requiresExactlyOneOwner
  | requiresNonlocalExpertSentinel
  | finalizeWithoutDispatch
  | collectiveMismatch
  deriving DecidableEq, Repr

/-- The texts of the exceptions; a collective mismatch hangs or fails inside the library. -/
def SparseError.message : SparseError → Option String
  | .quantizationNotSupported => some "spotserve_sparse_quantization_not_supported"
  | .requiresGlobalExpertMap => some "spotserve_sparse_requires_global_expert_map"
  | .overlappingDispatch => some "spotserve_sparse_overlapping_dispatch_not_supported"
  | .weightOnInputRequiresTopkOne => some "spotserve_sparse_weight_on_input_requires_topk_one"
  | .requiresExactlyOneOwner => some "spotserve_sparse_requires_exactly_one_owner_per_expert"
  | .requiresNonlocalExpertSentinel => some "spotserve_sparse_requires_nonlocal_expert_sentinel"
  | .finalizeWithoutDispatch => some "spotserve_sparse_finalize_without_dispatch"
  | .collectiveMismatch => none

/-! ## Ranks in step -/

/-- A phase that every rank runs for itself: the first rank that raises decides. -/
def everyRank {ε α : Type} : {W : ℕ} → (Fin W → Except ε α) → Except ε (Fin W → α)
  | 0, _ => .ok Fin.elim0
  | _ + 1, f =>
    match f 0, everyRank fun r => f r.succ with
    | .error e, _ => .error e
    | .ok _, .error e => .error e
    | .ok a, .ok rest => .ok (Fin.cons a rest)

section Exchange

variable {W : ℕ} {α : Type}

/-- `_exchange_counts`: rank `r` receives what each rank `s` counted for it. -/
def exchangeCounts (sendCounts : Fin W → Fin W → ℕ) : Fin W → Fin W → ℕ :=
  fun r s => sendCounts s r

/-- `_exchange_rows`: each rank cuts its rows at its send counts, and receives the segments meant
for it in rank order.  The counts must cover the rows and agree between sender and receiver. -/
def exchangeRows (rows : Fin W → List α) (sendCounts recvCounts : Fin W → Fin W → ℕ) :
    Except SparseError (Fin W → List α) :=
  if (∀ r, ((List.finRange W).map (sendCounts r)).sum = (rows r).length) ∧
      ∀ r s, recvCounts r s = sendCounts s r then
    .ok fun r => (List.finRange W).flatMap fun s => Segments.segment (sendCounts s) (rows s) r
  else .error .collectiveMismatch

end Exchange

/-! ## `_expert_owners` -/

section Owners

variable {W : ℕ}

/-- The ranks that own an expert, from the gathered maps. -/
def coverage (maps : Fin W → ExpertMap) (e : ℕ) : ℕ :=
  (List.finRange W).countP fun r => (maps r).owns e

/-- `argmax` over the ranks: the first one that owns the expert. -/
def ownerOf (maps : Fin W → ExpertMap) (e : ℕ) : ℕ :=
  (List.finRange W).findIdx fun r => (maps r).owns e

/-- The owners computed from the gathered maps of `numExperts` experts. -/
def gatherOwners (maps : Fin W → ExpertMap) (numExperts : ℕ) : Except SparseError (List ℕ) :=
  if ∀ e < numExperts, coverage maps e = 1 then .ok ((List.range numExperts).map (ownerOf maps))
  else .error .requiresExactlyOneOwner

/-- The cached owners, when the cache is for this map. -/
def cachedOwners (state : RankState W) (m : ExpertMap) : Option (List ℕ) :=
  if state.ownerCacheKey = some (m.dataPtr, m.version) then state.ownerCache else none

/-- `_expert_owners` on all ranks.  The gather is a collective: either all ranks take part in it or
none does. -/
def expertOwners (states : Fin W → RankState W) (maps : Fin W → ExpertMap) (numExperts : ℕ) :
    Except SparseError ((Fin W → List ℕ) × (Fin W → RankState W)) :=
  if ∀ r, (cachedOwners (states r) (maps r)).isSome then
    .ok (fun r => (cachedOwners (states r) (maps r)).getD [], states)
  else if ∀ r, (cachedOwners (states r) (maps r)).isNone then
    match gatherOwners maps numExperts with
    | .error e => .error e
    | .ok owners =>
      .ok (fun _ => owners, fun r =>
        { states r with
          ownerCacheKey := some ((maps r).dataPtr, (maps r).version)
          ownerCache := some owners })
  else .error .collectiveMismatch

end Owners

/-! ## `prepare` -/

section Prepare

variable {R V : Type} {W k E : ℕ}

/-- `destinations[t, d]`: one of the selected experts is owned by `d`. -/
def goesTo (owners : List ℕ) (row : TokenRow R V k E) (d : Fin W) : Bool :=
  decide (∃ j, owners.getD (row.ids j) 0 = d)

/-- The column of a destination in `destinations`, as the tokens that are set. -/
def tokensFor (owners : List ℕ) (rows : List (TokenRow R V k E)) (d : Fin W) : List ℕ :=
  (List.range rows.length).filter fun t => rows[t]?.any fun row => goesTo owners row d

/-- `torch.nonzero(destinations)`: row by row. -/
def nonzeroPairs (owners : List ℕ) (rows : List (TokenRow R V k E)) : List (ℕ × Fin W) :=
  (List.range rows.length).flatMap fun t =>
    ((List.finRange W).filter fun d => rows[t]?.any fun row => goesTo owners row d).map (t, ·)

/-- The remote pairs of a rank, sorted by destination.  The sort is stable, and there is none when
there is nothing to send. -/
def remotePairs (owners : List ℕ) (rows : List (TokenRow R V k E)) (rank : Fin W) :
    List (ℕ × Fin W) :=
  let pairs := (nonzeroPairs owners rows).filter fun p => p.2 ≠ rank
  if pairs.isEmpty then [] else pairs.mergeSort fun a b => a.2 ≤ b.2

/-- Indexing a tensor by a list of tokens. -/
def gather {α : Type} (rows : List α) (tokens : List ℕ) : List α :=
  tokens.filterMap fun t => rows[t]?

/-- What `prepare` is called with on one rank. -/
structure PrepareInput (R V : Type) (k E : ℕ) where
  rows : List (TokenRow R V k E)
  expertMap : Option ExpertMap
  applyRouterWeightOnInput : Bool := false
  quantized : Bool := false

/-- What `prepare` returns on one rank. -/
structure Dispatched (R V : Type) (k E : ℕ) where
  hidden : List V
  ids : List (Fin k → Fin E)
  weights : List (Fin k → R)

/-- The checks at the start of `prepare`. -/
def checkInput (state : RankState W) (input : PrepareInput R V k E) :
    Except SparseError ExpertMap :=
  if input.quantized then .error .quantizationNotSupported
  else
    match input.expertMap with
    | none => .error .requiresGlobalExpertMap
    | some m =>
      if m.entries.length ≠ E then .error .requiresGlobalExpertMap
      else if state.state.isSome then .error .overlappingDispatch
      else if input.applyRouterWeightOnInput ∧ k ≠ 1 then .error .weightOnInputRequiresTopkOne
      else .ok m

/-- `a1`, multiplied by the router weight when that is applied on the input (then `k = 1`). -/
def inputHidden [SMul R V] (input : PrepareInput R V k E) : List V :=
  input.rows.map fun row =>
    if h : input.applyRouterWeightOnInput ∧ k = 1 then
      row.weights ⟨0, by omega⟩ • row.hidden
    else row.hidden

/-- Ids of experts that are elsewhere are replaced by the first such id. -/
def maskIds (m : ExpertMap) (ids : List (Fin k → Fin E)) :
    Except SparseError (List (Fin k → Fin E)) :=
  match (List.finRange E).filter fun e : Fin E => !m.owns e with
  | [] => .error .requiresNonlocalExpertSentinel
  | sentinel :: _ =>
    .ok (ids.map fun row j => if m.owns (row j) then row j else sentinel)

/-- `prepare` on all ranks. -/
def prepare [SMul R V] (states : Fin W → RankState W) (inputs : Fin W → PrepareInput R V k E) :
    Except SparseError ((Fin W → Dispatched R V k E) × (Fin W → RankState W)) := do
  let maps ← everyRank fun r => checkInput (states r) (inputs r)
  let (owners, states) ← expertOwners states maps E
  let localTokens := fun r => tokensFor (owners r) (inputs r).rows r
  let pairs := fun r => remotePairs (owners r) (inputs r).rows r
  let remoteTokens := fun r => (pairs r).map Prod.fst
  let sendCounts := fun r d => ((pairs r).map Prod.snd).count d
  let recvCounts := exchangeCounts sendCounts
  let hidden := fun r => inputHidden (inputs r)
  let ids := fun r => (inputs r).rows.map TokenRow.ids
  let weights := fun r => (inputs r).rows.map TokenRow.weights
  let recvHidden ← exchangeRows (fun r => gather (hidden r) (remoteTokens r)) sendCounts recvCounts
  let recvIds ← exchangeRows (fun r => gather (ids r) (remoteTokens r)) sendCounts recvCounts
  let recvWeights ←
    exchangeRows (fun r => gather (weights r) (remoteTokens r)) sendCounts recvCounts
  let _recvTokens ← exchangeRows remoteTokens sendCounts recvCounts
  let dispatchedIds ← everyRank fun r =>
    maskIds (maps r) (gather (ids r) (localTokens r) ++ recvIds r)
  return (fun r => {
      hidden := gather (hidden r) (localTokens r) ++ recvHidden r
      ids := dispatchedIds r
      weights := gather (weights r) (localTokens r) ++ recvWeights r },
    fun r => { states r with
      state := some {
        originalTokens := (inputs r).rows.length
        localTokens := localTokens r
        remoteTokens := remoteTokens r
        sendCounts := sendCounts r
        recvCounts := recvCounts r } })

end Prepare

/-! ## The local kernel -/

section Kernel

variable {R V : Type} {k E : ℕ}

/-- The fused kernel on one rank: the output of each selected expert, zero for an id whose entry in
the expert map is negative.  The weights of the local experts are `slots`. -/
def fusedExperts [Zero V] (slots : ℕ → V → V) (m : ExpertMap) (hidden : List V)
    (ids : List (Fin k → Fin E)) : List (Fin k → V) :=
  List.zipWith (fun x row j =>
    let entry := m.entries.getD (row j) (-1)
    if 0 ≤ entry then slots entry.toNat x else 0) hidden ids

/-- `TopKWeightAndReduceContiguous`: the weighted sum over the selected experts, unweighted when
the weight was applied on the input. -/
def weightAndReduce [AddCommMonoid V] [SMul R V] (onInput : Bool) (fused : List (Fin k → V))
    (weights : List (Fin k → R)) : List V :=
  List.zipWith (fun out w => ∑ j, if onInput then out j else w j • out j) fused weights

end Kernel

/-! ## `finalize` -/

section Finalize

variable {R V : Type} {W k E : ℕ} [AddCommMonoid V]

/-- `output.index_add_(0, tokens, results)`. -/
def indexAdd (output : List V) (tokens : List ℕ) (results : List V) : List V :=
  (tokens.zip results).foldl (fun out p => out.modify p.1 (· + p.2)) output

/-- The dispatch that `finalize` completes. -/
def pendingDispatch (state : RankState W) : Except SparseError (DispatchState W) :=
  match state.state with
  | none => .error .finalizeWithoutDispatch
  | some dispatch => .ok dispatch

/-- `finalize` on all ranks, given the results of the local kernels. -/
def finalize [SMul R V] (states : Fin W → RankState W) (fused : Fin W → List (Fin k → V))
    (weights : Fin W → List (Fin k → R)) (onInput : Fin W → Bool) :
    Except SparseError ((Fin W → List V) × (Fin W → RankState W)) := do
  let dispatch ← everyRank fun r => pendingDispatch (states r)
  let contributions := fun r =>
    if (fused r).isEmpty then [] else weightAndReduce (onInput r) (fused r) (weights r)
  let localCount := fun r => (dispatch r).localTokens.length
  let localResults := fun r => (contributions r).take (localCount r)
  let remoteResults := fun r => (contributions r).drop (localCount r)
  let returned ← exchangeRows remoteResults (fun r => (dispatch r).recvCounts)
    (fun r => (dispatch r).sendCounts)
  return (fun r =>
      indexAdd (indexAdd (List.replicate (dispatch r).originalTokens 0) (dispatch r).localTokens
        (localResults r)) (dispatch r).remoteTokens (returned r),
    fun r => { states r with state := none })

end Finalize

/-! ## One layer -/

section Forward

variable {R V : Type} {W k E : ℕ} [AddCommMonoid V] [SMul R V]

/-- One pass of the layer on all ranks: `prepare`, the local kernels, `finalize`. -/
def forward (slots : Fin W → ℕ → V → V) (states : Fin W → RankState W)
    (inputs : Fin W → PrepareInput R V k E) :
    Except SparseError ((Fin W → List V) × (Fin W → RankState W)) := do
  let (dispatched, states) ← prepare states inputs
  let fused := fun r =>
    match (inputs r).expertMap with
    | none => []
    | some m => fusedExperts (slots r) m (dispatched r).hidden (dispatched r).ids
  finalize states fused (fun r => (dispatched r).weights)
    (fun r => (inputs r).applyRouterWeightOnInput)

end Forward

end SparseA2A
end SpotServe
