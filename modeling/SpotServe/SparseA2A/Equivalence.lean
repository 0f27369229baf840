import SpotServe.SparseA2A.DispatchPlan

/-!
# Sparse dispatch computes the dense layer

A dense mixture-of-experts layer gives each token the weighted sum of its selected experts
(`denseMoE`).  The sparse layer gives every rank the tokens that concern it, and each rank adds up
the experts it owns (`contribution`).  Since every expert has one owner, the contributions of all
ranks to a token sum to the dense value (`sum_contribution`), and a rank to which a token was not
sent would have contributed nothing.

* `finalize_spec`: what comes back to a rank, token by token.
* `forward_eq_dense`: the pass succeeds and computes the dense layer, provided no rank owns all
  experts.  Without that proviso `prepare` raises, because it needs the id of an expert that is
  elsewhere (`forward_sole_owner`).
-/

namespace SpotServe
namespace SparseA2A

open Segments

variable {R V : Type} {W k E : ℕ}

/-! ## Adding rows into an output -/

section IndexAdd

variable [AddCommMonoid V]

/-- What a list of (token, result) pairs adds to a token. -/
def addedTo (pairs : List (ℕ × V)) (t : ℕ) : V :=
  (pairs.map fun p => if p.1 = t then p.2 else 0).sum

theorem addedTo_append (pairs pairs' : List (ℕ × V)) (t : ℕ) :
    addedTo (pairs ++ pairs') t = addedTo pairs t + addedTo pairs' t := by
  simp [addedTo]

theorem indexAdd_getElem? (output : List V) (pairs : List (ℕ × V)) (t : ℕ) :
    (indexAdd output (pairs.map Prod.fst) (pairs.map Prod.snd))[t]? =
      output[t]?.map (· + addedTo pairs t) := by
  have hzip : (pairs.map Prod.fst).zip (pairs.map Prod.snd) = pairs := by
    rw [← List.unzip_fst, ← List.unzip_snd]
    exact List.zip_unzip pairs
  unfold indexAdd
  rw [hzip]
  induction pairs generalizing output with
  | nil => simp [addedTo]
  | cons p pairs ih =>
    rw [List.foldl_cons, ih _ (by
      rw [← List.unzip_fst, ← List.unzip_snd]
      exact List.zip_unzip pairs)]
    have hcons : addedTo (p :: pairs) t = (if p.1 = t then p.2 else 0) + addedTo pairs t := by
      simp [addedTo]
    rw [hcons]
    by_cases hp : p.1 = t
    · subst hp
      rw [List.getElem?_modify_eq, if_pos rfl]
      cases output[p.1]? with
      | none => rfl
      | some v => simp [add_assoc]
    · rw [List.getElem?_modify_ne _ _ hp, if_neg hp, zero_add]

/-- A list of distinct tokens adds to each of its tokens once. -/
theorem addedTo_map {tokens : List ℕ} (hnodup : tokens.Nodup) (result : ℕ → V) (t : ℕ) :
    addedTo (tokens.map fun t' => (t', result t')) t = if t ∈ tokens then result t else 0 := by
  induction tokens with
  | nil => simp [addedTo]
  | cons a tokens ih =>
    obtain ⟨hout, hrest⟩ := List.nodup_cons.mp hnodup
    have hcons : addedTo ((a :: tokens).map fun t' => (t', result t')) t =
        (if a = t then result a else 0) + addedTo (tokens.map fun t' => (t', result t')) t := by
      simp [addedTo]
    rw [hcons, ih hrest]
    by_cases ha : a = t
    · subst ha
      rw [if_pos rfl, if_neg hout, if_pos List.mem_cons_self, add_zero]
    · rw [if_neg ha, zero_add]
      have hmem : t ∈ a :: tokens ↔ t ∈ tokens := by
        rw [List.mem_cons]
        exact ⟨fun h => h.resolve_left fun h => ha h.symm, Or.inr⟩
      simp only [hmem]

theorem addedTo_flatMap {n : ℕ} (f : Fin n → List (ℕ × V)) (t : ℕ) :
    addedTo ((List.finRange n).flatMap f) t = ∑ d, addedTo (f d) t := by
  rw [← List.sum_ofFn, List.ofFn_eq_map]
  induction List.finRange n with
  | nil => rfl
  | cons d ds ih => rw [List.flatMap_cons, addedTo_append, ih, List.map_cons, List.sum_cons]

end IndexAdd

/-! ## Contributions of the ranks -/

section Contribution

variable [Semiring R] [AddCommMonoid V] [Module R V]

/-- The input of the experts: the hidden state, weighted when the weight is applied there. -/
def expertInput (onInput : Bool) (row : TokenRow R V k E) : V :=
  if h : onInput ∧ k = 1 then row.weights ⟨0, by omega⟩ • row.hidden else row.hidden

/-- What one selected expert contributes to a token. -/
def expertTerm (experts : Fin E → V → V) (onInput : Bool) (row : TokenRow R V k E) (j : Fin k) :
    V :=
  if onInput then experts (row.ids j) (expertInput onInput row)
  else row.weights j • experts (row.ids j) (expertInput onInput row)

/-- **The dense layer**: the sum over the selected experts of weight times expert of the token,
or, when the router weight is applied on the input, of expert of the weighted token. -/
def denseMoE (experts : Fin E → V → V) (onInput : Bool) (row : TokenRow R V k E) : V :=
  ∑ j, expertTerm experts onInput row j

/-- What the experts that a rank owns contribute to a token. -/
def contribution (maps : Fin W → ExpertMap) (experts : Fin E → V → V) (onInput : Bool)
    (d : Fin W) (row : TokenRow R V k E) : V :=
  ∑ j, if (maps d).owns (row.ids j) then expertTerm experts onInput row j else 0

variable {maps : Fin W → ExpertMap} (experts : Fin E → V → V) (onInput : Bool)

/-- One owner per expert: the contributions sum to the dense value. -/
theorem sum_contribution (h : UniqueOwners maps E) (row : TokenRow R V k E) :
    ∑ d, contribution maps experts onInput d row = denseMoE experts onInput row := by
  unfold contribution denseMoE
  rw [Finset.sum_comm]
  refine Finset.sum_congr rfl fun j _ => ?_
  obtain ⟨r, hr, huniq⟩ := h (row.ids j) (row.ids j).isLt
  rw [Finset.sum_eq_single r]
  · rw [if_pos hr]
  · intro d _ hd
    rw [if_neg fun hown => hd (huniq d hown)]
  · intro hout
    exact absurd (Finset.mem_univ r) hout

/-- A rank that owns none of the selected experts contributes nothing. -/
theorem contribution_eq_zero {d : Fin W} {row : TokenRow R V k E}
    (h : ¬ ∃ j, (maps d).owns (row.ids j) = true) :
    contribution maps experts onInput d row = 0 :=
  Finset.sum_eq_zero fun j _ => if_neg fun hown => h ⟨j, hown⟩

end Contribution

/-! ## The rows that arrive at a rank -/

section Arriving

theorem gather_map {α β : Type} (f : α → β) (rows : List α) (tokens : List ℕ) :
    gather (rows.map f) tokens = (gather rows tokens).map f := by
  unfold gather
  rw [List.map_filterMap]
  simp only [List.getElem?_map]

theorem gather_flatMap {α : Type} (rows : List α) (tokens : Fin W → List ℕ) :
    gather rows ((List.finRange W).flatMap tokens) =
      (List.finRange W).flatMap fun d => gather rows (tokens d) :=
  List.filterMap_flatMap ..

/-- Tokens of the batch, gathered and then worked on one by one. -/
theorem map_gather {α β : Type} (f : α → β) (default : β) {rows : List α} {tokens : List ℕ}
    (h : ∀ t ∈ tokens, ∃ row, rows[t]? = some row) :
    (gather rows tokens).map f = tokens.map fun t => (rows[t]?.map f).getD default := by
  unfold gather
  induction tokens with
  | nil => rfl
  | cons t tokens ih =>
    obtain ⟨row, hrow⟩ := h t List.mem_cons_self
    rw [List.filterMap_cons_some hrow, List.map_cons, List.map_cons,
      ih fun t' ht' => h t' (List.mem_cons_of_mem t ht'), hrow]
    rfl

theorem length_gather {α : Type} {rows : List α} {tokens : List ℕ}
    (h : ∀ t ∈ tokens, ∃ row, rows[t]? = some row) :
    (gather rows tokens).length = tokens.length := by
  have := congrArg List.length (map_gather (fun _ => ()) () h)
  rwa [List.length_map, List.length_map] at this

variable (maps : Fin W → ExpertMap) (rows : Fin W → List (TokenRow R V k E))

/-- The tokens that rank `r` sends to rank `d`. -/
def sent (r d : Fin W) : List ℕ := sentTo (ownerTable maps E) (rows r) r d

/-- The tokens that rank `r` keeps. -/
def kept (r : Fin W) : List ℕ := tokensFor (ownerTable maps E) (rows r) r

/-- The rows that rank `d` works on: its own, and those of the other ranks in rank order. -/
def arriving (d : Fin W) : List (TokenRow R V k E) :=
  gather (rows d) (kept maps rows d) ++
    (List.finRange W).flatMap fun s => gather (rows s) (sent maps rows s d)

variable {maps rows}

theorem exists_row_of_mem_sent {r d : Fin W} {t : ℕ} (h : t ∈ sent maps rows r d) :
    ∃ row, (rows r)[t]? = some row := by
  obtain ⟨-, row, hrow, -⟩ := mem_sentTo.mp h
  exact ⟨row, hrow⟩

theorem exists_row_of_mem_kept {r : Fin W} {t : ℕ} (h : t ∈ kept maps rows r) :
    ∃ row, (rows r)[t]? = some row := by
  obtain ⟨row, hrow, -⟩ := mem_tokensFor.mp h
  exact ⟨row, hrow⟩

variable (maps rows)

/-- The exchange of one column of the rows. -/
theorem exchange_column {α : Type} (f : TokenRow R V k E → α) :
    exchangeRows
        (fun r => gather ((rows r).map f)
          ((remotePairs (ownerTable maps E) (rows r) r).map Prod.fst))
        (fun r d => ((remotePairs (ownerTable maps E) (rows r) r).map Prod.snd).count d)
        (exchangeCounts fun r d =>
          ((remotePairs (ownerTable maps E) (rows r) r).map Prod.snd).count d) =
      .ok fun d => ((List.finRange W).flatMap fun s => gather (rows s) (sent maps rows s d)).map f := by
  have hrows : (fun r => gather ((rows r).map f)
      ((remotePairs (ownerTable maps E) (rows r) r).map Prod.fst)) =
      fun r => (List.finRange W).flatMap fun d => (gather (rows r) (sent maps rows r d)).map f := by
    funext r
    rw [gather_map, remoteTokens_eq, gather_flatMap, List.map_flatMap]
    rfl
  have hsend : ∀ r d, ((remotePairs (ownerTable maps E) (rows r) r).map Prod.snd).count d =
      ((gather (rows r) (sent maps rows r d)).map f).length := by
    intro r d
    rw [sendCounts_eq, List.length_map, length_gather fun t => exists_row_of_mem_sent]
    rfl
  rw [hrows]
  refine (exchangeRows_flatMap _ hsend fun _ _ => rfl).trans ?_
  congr 1
  funext d
  rw [List.map_flatMap]

end Arriving

/-! ## `prepare` -/

section Prepare

variable (maps : Fin W → ExpertMap)

/-- No dispatch is pending, and the owner caches are either unused by this family of maps on all
ranks or hold its owners on all ranks. -/
structure Coherent (numExperts : ℕ) (states : Fin W → RankState W) : Prop where
  idle : ∀ r, (states r).state = none
  cache : (∀ r, cachedOwners (states r) (maps r) = none) ∨
    ∀ r, cachedOwners (states r) (maps r) = some (ownerTable maps numExperts)

/-- New objects are coherent with every family of maps. -/
theorem coherent_new (numExperts : ℕ) : Coherent maps numExperts fun _ => {} :=
  ⟨fun _ => rfl, Or.inl fun _ => rfl⟩

variable {maps}

theorem expertOwners_spec {states : Fin W → RankState W} (hcoherent : Coherent maps E states)
    (howners : UniqueOwners maps E) :
    ∃ states', expertOwners states maps E = .ok (fun _ => ownerTable maps E, states') ∧
      ∀ r, cachedOwners (states' r) (maps r) = some (ownerTable maps E) := by
  unfold expertOwners
  by_cases hhit : ∀ r, cachedOwners (states r) (maps r) = some (ownerTable maps E)
  · rw [if_pos fun r => by rw [hhit r]; rfl]
    refine ⟨states, ?_, hhit⟩
    congr 2
    funext r
    rw [hhit r]
    rfl
  · have hmiss := hcoherent.cache.resolve_right hhit
    have hsome : ¬ ∀ r, (cachedOwners (states r) (maps r)).isSome = true := by
      intro h
      refine hhit fun r => ?_
      have := h r
      rw [hmiss r] at this
      exact absurd this (by simp)
    rw [if_neg hsome, if_pos fun r => by rw [hmiss r]; rfl, gatherOwners_ok howners]
    refine ⟨_, rfl, fun r => ?_⟩
    simp [cachedOwners]

/-- The masked ids: an id of an expert that is elsewhere becomes another such id. -/
theorem maskIds_spec {m : ExpertMap} (h : ∃ e < E, m.owns e = false)
    (ids : List (Fin k → Fin E)) :
    ∃ sentinel : Fin E, m.owns sentinel = false ∧
      maskIds m ids = .ok (ids.map fun row j => if m.owns (row j) then row j else sentinel) := by
  obtain ⟨e, he, hown⟩ := h
  unfold maskIds
  cases hfilter : (List.finRange E).filter fun e : Fin E => !m.owns e with
  | nil =>
    have := List.filter_eq_nil_iff.mp hfilter ⟨e, he⟩ (List.mem_finRange _)
    rw [hown] at this
    exact absurd this (by simp)
  | cons sentinel rest =>
    have hmem : sentinel ∈ (List.finRange E).filter fun e : Fin E => !m.owns e := by
      rw [hfilter]
      exact List.mem_cons_self
    exact ⟨sentinel, by simpa using (List.mem_filter.mp hmem).2, rfl⟩

variable [Semiring R] [AddCommMonoid V] [Module R V]

/-- The call of `prepare` on the rows of all ranks. -/
def layerInputs (maps : Fin W → ExpertMap) (onInput : Bool)
    (rows : Fin W → List (TokenRow R V k E)) (r : Fin W) : PrepareInput R V k E where
  rows := rows r
  expertMap := some (maps r)
  applyRouterWeightOnInput := onInput

omit [Semiring R] [AddCommMonoid V] [Module R V] in
@[simp] theorem layerInputs_rows (maps : Fin W → ExpertMap) (onInput : Bool)
    (rows : Fin W → List (TokenRow R V k E)) (r : Fin W) :
    (layerInputs maps onInput rows r).rows = rows r := rfl

@[simp] theorem inputHidden_layerInputs (maps : Fin W → ExpertMap) (onInput : Bool)
    (rows : Fin W → List (TokenRow R V k E)) (r : Fin W) :
    inputHidden (layerInputs maps onInput rows r) = (rows r).map (expertInput onInput) := rfl

/-- The dispatch that rank `r` remembers. -/
def dispatchOf (maps : Fin W → ExpertMap) (rows : Fin W → List (TokenRow R V k E)) (r : Fin W) :
    DispatchState W where
  originalTokens := (rows r).length
  localTokens := kept maps rows r
  remoteTokens := (List.finRange W).flatMap (sent maps rows r)
  sendCounts d := (sent maps rows r d).length
  recvCounts s := (sent maps rows s r).length

/-- **`prepare`.**  Every rank gets the rows that arrive at it, with the ids masked. -/
theorem prepare_spec {states : Fin W → RankState W} (rows : Fin W → List (TokenRow R V k E))
    {onInput : Bool} (hcoherent : Coherent maps E states) (howners : UniqueOwners maps E)
    (hlength : ∀ r, (maps r).entries.length = E)
    (hsentinel : ∀ r, ∃ e < E, (maps r).owns e = false) (honInput : onInput = true → k = 1) :
    ∃ (sentinel : Fin W → Fin E) (states' : Fin W → RankState W),
      (∀ r, (maps r).owns (sentinel r) = false) ∧
      (∀ r, cachedOwners (states' r) (maps r) = some (ownerTable maps E)) ∧
      (∀ r, (states' r).state = some (dispatchOf maps rows r)) ∧
      prepare states (layerInputs maps onInput rows) = .ok (fun r => {
        hidden := (arriving maps rows r).map (expertInput onInput)
        ids := (arriving maps rows r).map fun row j =>
          if (maps r).owns (row.ids j) then row.ids j else sentinel r
        weights := (arriving maps rows r).map TokenRow.weights }, states') := by
  have hcheck : everyRank (fun r => checkInput (states r) (layerInputs maps onInput rows r)) =
      .ok maps := by
    refine everyRank_ok fun r => ?_
    have hk : ¬ (onInput = true ∧ k ≠ 1) := fun h => h.2 (honInput h.1)
    simp [checkInput, layerInputs, hlength r, hcoherent.idle r, hk]
  obtain ⟨states₁, howns, hcache⟩ := expertOwners_spec hcoherent howners
  have hhidden := exchange_column maps rows (expertInput onInput)
  have hids := exchange_column maps rows TokenRow.ids
  have hweights := exchange_column maps rows TokenRow.weights
  have htokens : exchangeRows
      (fun r => (remotePairs (ownerTable maps E) (rows r) r).map Prod.fst)
      (fun r d => ((remotePairs (ownerTable maps E) (rows r) r).map Prod.snd).count d)
      (exchangeCounts fun r d =>
        ((remotePairs (ownerTable maps E) (rows r) r).map Prod.snd).count d) =
      .ok fun d => (List.finRange W).flatMap fun s => sent maps rows s d := by
    simp only [remoteTokens_eq]
    exact exchangeRows_flatMap _ (sendCounts_eq _ _ · ·) fun _ _ => rfl
  -- one sentinel for each rank
  have hmaskSpec := fun r => maskIds_spec (hsentinel r) ((arriving maps rows r).map TokenRow.ids)
  choose sentinel hnonlocal hmask using hmaskSpec
  have hmaskAll : everyRank (fun r => maskIds (maps r)
      (gather ((rows r).map TokenRow.ids) (tokensFor (ownerTable maps E) (rows r) r) ++
        ((List.finRange W).flatMap fun s => gather (rows s) (sent maps rows s r)).map
          TokenRow.ids)) =
      .ok fun r => (arriving maps rows r).map fun row j =>
        if (maps r).owns (row.ids j) then row.ids j else sentinel r := by
    refine everyRank_ok fun r => ?_
    rw [gather_map, ← List.map_append]
    refine (hmask r).trans ?_
    rw [List.map_map]
    rfl
  refine ⟨sentinel, fun r => { states₁ r with state := some (dispatchOf maps rows r) }, hnonlocal,
    hcache, fun r => rfl, ?_⟩
  unfold prepare
  simp only [hcheck, howns, bind, Except.bind, pure, Except.pure, layerInputs_rows,
    inputHidden_layerInputs, hhidden, hids, hweights, htokens, hmaskAll]
  simp only [remoteTokens_eq, sendCounts_eq, gather_map, ← List.map_append]
  rfl

end Prepare

/-! ## The kernel on the rows that arrived -/

section Kernel

variable [Semiring R] [AddCommMonoid V] [Module R V] {maps : Fin W → ExpertMap}
  {slots : Fin W → ℕ → V → V} {experts : Fin E → V → V}

/-- Each rank holds, in the slot its map gives, the weights of the experts it owns. -/
def Resident (maps : Fin W → ExpertMap) (slots : Fin W → ℕ → V → V) (experts : Fin E → V → V) :
    Prop :=
  ∀ r (e : Fin E), (maps r).owns e = true →
    slots r ((maps r).entries.getD e (-1)).toNat = experts e

/-- **The local kernels.**  Masked ids contribute nothing, the others their expert: the reduced
output of a row is the contribution of the rank. -/
theorem weightAndReduce_fusedExperts (hresident : Resident maps slots experts) (onInput : Bool)
    (r : Fin W) {sentinel : Fin E} (hsentinel : (maps r).owns sentinel = false)
    (arrived : List (TokenRow R V k E)) :
    weightAndReduce onInput
        (fusedExperts (slots r) (maps r) (arrived.map (expertInput onInput))
          (arrived.map fun row j => if (maps r).owns (row.ids j) then row.ids j else sentinel))
        (arrived.map TokenRow.weights) =
      arrived.map (contribution maps experts onInput r) := by
  unfold weightAndReduce fusedExperts
  rw [List.zipWith_map, List.zipWith_self, List.zipWith_map, List.zipWith_self]
  refine List.map_congr_left fun row _ => ?_
  unfold contribution
  refine Finset.sum_congr rfl fun j _ => ?_
  by_cases hown : (maps r).owns (row.ids j) = true
  · have hentry : 0 ≤ (maps r).entries.getD (row.ids j) (-1) := of_decide_eq_true hown
    simp only [if_pos hown, if_pos hentry, hresident r (row.ids j) hown]
    rfl
  · have hentry : ¬ 0 ≤ (maps r).entries.getD sentinel (-1) := of_decide_eq_false hsentinel
    simp only [if_neg hown, if_neg hentry]
    split_ifs
    · rfl
    · exact smul_zero _

end Kernel

/-! ## `finalize` -/

section Finalize

variable [Semiring R] [AddCommMonoid V] [Module R V] {maps : Fin W → ExpertMap}
  (experts : Fin E → V → V) (onInput : Bool) (rows : Fin W → List (TokenRow R V k E))

/-- The contribution of rank `d` to token `t` of rank `r`. -/
def contributionTo (maps : Fin W → ExpertMap) (r d : Fin W) (t : ℕ) : V :=
  (((rows r)[t]?).map (contribution maps experts onInput d)).getD 0

/-- What a rank adds into its output: its own results, and those that came back. -/
def resultPairs (maps : Fin W → ExpertMap) (r : Fin W) : List (ℕ × V) :=
  (kept maps rows r).map (fun t => (t, contributionTo experts onInput rows maps r r t)) ++
    (List.finRange W).flatMap fun d =>
      (sent maps rows r d).map fun t => (t, contributionTo experts onInput rows maps r d t)

/-- Each rank that a token concerns adds its contribution once; the others have nothing to add. -/
theorem addedTo_resultPairs (howners : UniqueOwners maps E) {r : Fin W} {t : ℕ}
    {row : TokenRow R V k E} (hrow : (rows r)[t]? = some row) :
    addedTo (resultPairs experts onInput rows maps r) t = denseMoE experts onInput row := by
  have hvalue : ∀ d, contributionTo experts onInput rows maps r d t =
      contribution maps experts onInput d row := by
    intro d
    rw [contributionTo, hrow]
    rfl
  -- the value a rank adds is its contribution, whether or not it was asked
  have hone : ∀ d, addedTo ((tokensFor (ownerTable maps E) (rows r) d).map fun t =>
      (t, contributionTo experts onInput rows maps r d t)) t =
      contribution maps experts onInput d row := by
    intro d
    rw [addedTo_map (nodup_tokensFor _ _ _), hvalue]
    split_ifs with hin
    · rfl
    · refine (contribution_eq_zero experts onInput fun hown => hin (mem_tokensFor.mpr ?_)).symm
      exact ⟨row, hrow, (goesTo_iff howners row d).mpr hown⟩
  have hsent : ∀ d, addedTo ((sent maps rows r d).map fun t =>
      (t, contributionTo experts onInput rows maps r d t)) t =
      if d = r then 0 else contribution maps experts onInput d row := by
    intro d
    unfold sent sentTo
    by_cases hd : d = r
    · rw [if_pos hd, if_pos hd]
      rfl
    · rw [if_neg hd, if_neg hd, hone d]
  have hkept := hone r
  rw [resultPairs, addedTo_append, addedTo_flatMap, kept, hkept,
    Finset.sum_congr rfl fun d _ => hsent d, ← sum_contribution experts onInput howners row,
    ← Finset.add_sum_erase Finset.univ _ (Finset.mem_univ r),
    ← Finset.add_sum_erase Finset.univ _ (Finset.mem_univ r), if_pos rfl, zero_add]
  congr 1
  refine Finset.sum_congr rfl fun d hd => ?_
  rw [if_neg (Finset.ne_of_mem_erase hd)]

/-- The results of a rank, as `finalize` cuts them: its own tokens first. -/
theorem map_arriving (maps : Fin W → ExpertMap) (r : Fin W) :
    (arriving maps rows r).map (contribution maps experts onInput r) =
      (kept maps rows r).map (contributionTo experts onInput rows maps r r) ++
        (List.finRange W).flatMap fun s =>
          (sent maps rows s r).map (contributionTo experts onInput rows maps s r) := by
  unfold arriving
  rw [List.map_append, map_gather _ 0 fun t => exists_row_of_mem_kept, List.map_flatMap]
  congr 1
  refine List.flatMap_congr fun s _ => ?_
  rw [map_gather _ 0 fun t => exists_row_of_mem_sent]
  rfl

/-- The output of a rank after both additions. -/
theorem indexAdd_resultPairs (howners : UniqueOwners maps E) (r : Fin W) :
    indexAdd
        (indexAdd (List.replicate (rows r).length 0) (kept maps rows r)
          ((kept maps rows r).map (contributionTo experts onInput rows maps r r)))
        ((List.finRange W).flatMap (sent maps rows r))
        ((List.finRange W).flatMap fun d =>
          (sent maps rows r d).map (contributionTo experts onInput rows maps r d)) =
      (rows r).map (denseMoE experts onInput) := by
  have hown := fun output t => indexAdd_getElem? output
    ((kept maps rows r).map fun t => (t, contributionTo experts onInput rows maps r r t)) t
  have hback := fun output t => indexAdd_getElem? output
    ((List.finRange W).flatMap fun d =>
      (sent maps rows r d).map fun t => (t, contributionTo experts onInput rows maps r d t)) t
  simp only [List.map_map, List.map_flatMap, Function.comp_def, List.map_id'] at hown hback
  refine List.ext_getElem? fun t => ?_
  rw [hback, hown, Option.map_map, List.getElem?_map]
  by_cases ht : t < (rows r).length
  · have hrow : (rows r)[t]? = some (rows r)[t] := List.getElem?_eq_getElem ht
    rw [List.getElem?_replicate_of_lt ht, hrow, Option.map_some, Option.map_some,
      ← addedTo_resultPairs experts onInput rows howners hrow, resultPairs, addedTo_append]
    simp only [Function.comp_apply, zero_add]
  · rw [List.getElem?_eq_none (by rw [List.length_replicate]; omega),
      List.getElem?_eq_none (by omega)]
    rfl

/-- **`finalize`.**  Once the kernels have produced the contributions, every rank ends with the
dense value of each of its tokens. -/
theorem finalize_spec {states : Fin W → RankState W} (howners : UniqueOwners maps E)
    (hstates : ∀ r, (states r).state = some (dispatchOf maps rows r))
    {fused : Fin W → List (Fin k → V)} {weights : Fin W → List (Fin k → R)}
    (hfused : ∀ r, (fused r).isEmpty = true → arriving maps rows r = [])
    (hcontributions : ∀ r, weightAndReduce onInput (fused r) (weights r) =
      (arriving maps rows r).map (contribution maps experts onInput r)) :
    finalize states fused weights (fun _ => onInput) =
      .ok (fun r => (rows r).map (denseMoE experts onInput),
        fun r => { states r with state := none }) := by
  have hdispatch : everyRank (fun r => pendingDispatch (states r)) =
      .ok (dispatchOf maps rows) := by
    refine everyRank_ok fun r => ?_
    rw [pendingDispatch, hstates r]
  have hresults : ∀ r, (if (fused r).isEmpty then [] else
      weightAndReduce onInput (fused r) (weights r)) =
      (kept maps rows r).map (contributionTo experts onInput rows maps r r) ++
        (List.finRange W).flatMap fun s =>
          (sent maps rows s r).map (contributionTo experts onInput rows maps s r) := by
    intro r
    rw [← map_arriving, ← hcontributions r]
    split_ifs with hempty
    · rw [hcontributions r, hfused r hempty]
      rfl
    · rfl
  have hexchange : exchangeRows
      (fun r => (List.finRange W).flatMap fun s =>
        (sent maps rows s r).map (contributionTo experts onInput rows maps s r))
      (fun r => (dispatchOf maps rows r).recvCounts)
      (fun r => (dispatchOf maps rows r).sendCounts) =
      .ok fun r => (List.finRange W).flatMap fun d =>
        (sent maps rows r d).map (contributionTo experts onInput rows maps r d) :=
    exchangeRows_flatMap (fun r s =>
      (sent maps rows s r).map (contributionTo experts onInput rows maps s r))
      (fun _ _ => (List.length_map _).symm) fun _ _ => rfl
  have hlocal : ∀ r, (dispatchOf maps rows r).localTokens.length =
      ((kept maps rows r).map (contributionTo experts onInput rows maps r r)).length :=
    fun r => (List.length_map _).symm
  unfold finalize
  simp only [hdispatch, bind, Except.bind, pure, Except.pure, hresults, hlocal, List.take_left,
    List.drop_left, hexchange]
  congr 2
  funext r
  exact indexAdd_resultPairs experts onInput rows howners r

end Finalize

/-! ## The layer -/

section Layer

variable [Semiring R] [AddCommMonoid V] [Module R V]

/-- **Sparse equals dense.**  Every expert has one owner, no rank owns all of them, and each rank
holds the weights of the experts it owns.  Then for all batches, routings and weights the sparse
pass succeeds on all ranks, gives every token the value of the dense layer, and leaves the ranks
ready for the next pass. -/
theorem forward_eq_dense (maps : Fin W → ExpertMap) (slots : Fin W → ℕ → V → V)
    (experts : Fin E → V → V) (onInput : Bool) (rows : Fin W → List (TokenRow R V k E))
    (states : Fin W → RankState W) (hcoherent : Coherent maps E states)
    (hlength : ∀ r, (maps r).entries.length = E) (howners : UniqueOwners maps E)
    (hsentinel : ∀ r, ∃ e < E, (maps r).owns e = false)
    (hresident : Resident maps slots experts) (honInput : onInput = true → k = 1) :
    ∃ states', Coherent maps E states' ∧
      forward slots states (layerInputs maps onInput rows) =
        .ok (fun r => (rows r).map (denseMoE experts onInput), states') := by
  obtain ⟨sentinel, states₁, hnonlocal, hcache, hstate, hprepare⟩ :=
    prepare_spec rows hcoherent howners hlength hsentinel honInput
  refine ⟨fun r => { states₁ r with state := none }, ⟨fun r => rfl, Or.inr hcache⟩, ?_⟩
  unfold forward
  simp only [hprepare, bind, Except.bind]
  refine finalize_spec experts onInput rows howners hstate ?_ fun r => ?_
  · intro r hempty
    have hlen := congrArg List.length (List.isEmpty_iff.mp hempty)
    simpa [layerInputs, fusedExperts] using hlen
  · exact weightAndReduce_fusedExperts hresident onInput r (hnonlocal r) _

end Layer

/-! ## Two ranks -/

/-- Rank `r` owns expert `r`, in slot 0. -/
def splitMaps (r : Fin 2) : ExpertMap :=
  match r with
  | 0 => ⟨100, 0, [0, -1]⟩
  | 1 => ⟨200, 0, [-1, 0]⟩

/-- Expert `e` multiplies by `e + 2`. -/
def scalingExperts (e : Fin 2) (x : ℤ) : ℤ := ((e : ℕ) + 2) * x

/-- Each rank has one token, which selects both experts. -/
def bothRows (_ : Fin 2) : List (TokenRow ℤ ℤ 2 2) := [⟨5, fun j => j, fun j => (j : ℕ) + 1⟩]

theorem owns_splitMaps : ∀ (r : Fin 2) (e : Fin 2), (splitMaps r).owns e = true ↔ r = e := by
  decide

theorem uniqueOwners_splitMaps : UniqueOwners splitMaps 2 := fun e he =>
  ⟨⟨e, he⟩, (owns_splitMaps ⟨e, he⟩ ⟨e, he⟩).mpr rfl,
    fun r hr => (owns_splitMaps r ⟨e, he⟩).mp hr⟩

/-- Both ranks send their token to the other one and get the same sum back. -/
theorem forward_two_ranks :
    ∃ states', Coherent splitMaps 2 states' ∧
      forward (fun r _ => scalingExperts r) (fun _ => {}) (layerInputs splitMaps false bothRows) =
        .ok (fun r => (bothRows r).map (denseMoE scalingExperts false), states') := by
  refine forward_eq_dense splitMaps _ scalingExperts false bothRows _ (coherent_new splitMaps 2)
    (by decide) uniqueOwners_splitMaps (by decide) ?_ (by decide)
  intro r e hown
  rw [(owns_splitMaps r e).mp hown]

/-- Rank 0 owns the only expert. -/
def soleOwnerMaps (r : Fin 2) : ExpertMap :=
  match r with
  | 0 => ⟨100, 0, [0]⟩
  | 1 => ⟨200, 0, [-1]⟩

/-- A token on rank 0, none on rank 1. -/
def oneRow (r : Fin 2) : List (TokenRow ℤ ℤ 1 1) :=
  match r with
  | 0 => [⟨5, fun _ => 0, fun _ => 1⟩]
  | 1 => []

/-- Every expert has one owner and its weights are in place, but the rank that owns them all has no
id to mask with, and the pass raises. -/
theorem forward_sole_owner :
    UniqueOwners soleOwnerMaps 1 ∧
      Resident soleOwnerMaps (fun _ _ => id) (fun (_ : Fin 1) (x : ℤ) => x) ∧
      forward (fun _ _ => id) (fun _ => {}) (layerInputs soleOwnerMaps false oneRow) =
        .error .requiresNonlocalExpertSentinel := by
  refine ⟨fun e he => ⟨0, ?_, ?_⟩, fun _ _ _ => rfl, rfl⟩
  · obtain rfl : e = 0 := by omega
    decide
  · obtain rfl : e = 0 := by omega
    decide

end SparseA2A
end SpotServe
