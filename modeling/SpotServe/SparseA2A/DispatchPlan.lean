import SpotServe.SparseA2A.Dispatch

/-!
# What the ranks send each other

The dispatch plan of a rank is a list of pairs (token, destination) sorted by destination.  Read as
a function of the destination it is simple: rank `r` sends to `d ≠ r` the tokens that selected an
expert of `d`, in the order of the batch (`sentTo`).  In this form the send counts of one rank and
the receive counts of another are lengths of the same list, and an exchange is a transposition
(`exchangeRows_flatMap`).

* `ownerOf_eq`: with one owner per expert, the computed owner is the owner.
* `remotePairs_eq`: the sorted plan is the concatenation of the lists `sentTo`.
-/

namespace SpotServe
namespace SparseA2A

open Segments

/-! ## Ranks in step -/

theorem everyRank_ok {ε α : Type} {W : ℕ} {f : Fin W → Except ε α} {g : Fin W → α}
    (h : ∀ r, f r = .ok (g r)) : everyRank f = .ok g := by
  induction W with
  | zero =>
    have hg : g = Fin.elim0 := funext fun r => r.elim0
    rw [hg]
    rfl
  | succ W ih =>
    have hrest := ih (g := fun r => g r.succ) fun r => h r.succ
    simp only [everyRank, h 0, hrest]
    congr 1
    exact Fin.cons_self_tail g

/-- A phase that did not raise did not raise on any rank. -/
theorem of_everyRank_ok {ε α : Type} {W : ℕ} {f : Fin W → Except ε α} {g : Fin W → α}
    (h : everyRank f = .ok g) (r : Fin W) : f r = .ok (g r) := by
  induction W with
  | zero => exact r.elim0
  | succ W ih =>
    rw [everyRank] at h
    split at h
    · exact absurd h (by simp)
    · exact absurd h (by simp)
    next a rest ha hrest =>
      obtain rfl := Except.ok.inj h
      refine Fin.cases ?_ (fun r => ?_) r
      · exact ha
      · exact ih hrest r

/-- **The exchange.**  When every rank sends the list `parts r d` to rank `d`, rank `d` receives
the lists `parts r d` in the order of the senders. -/
theorem exchangeRows_flatMap {α : Type} {W : ℕ} (parts : Fin W → Fin W → List α)
    {sendCounts recvCounts : Fin W → Fin W → ℕ}
    (hsend : ∀ r d, sendCounts r d = (parts r d).length)
    (hrecv : ∀ r s, recvCounts r s = sendCounts s r) :
    exchangeRows (fun r => (List.finRange W).flatMap (parts r)) sendCounts recvCounts =
      .ok fun d => (List.finRange W).flatMap fun s => parts s d := by
  unfold exchangeRows
  rw [if_pos ⟨fun r => sum_counts_flatMap (parts r) (hsend r), hrecv⟩]
  congr 1
  funext d
  exact List.flatMap_congr fun s _ => segment_flatMap (parts s) (hsend s) d

/-! ## Owners -/

section Owners

variable {W : ℕ} {maps : Fin W → ExpertMap}

/-- Each of the `numExperts` experts is owned by exactly one rank. -/
def UniqueOwners (maps : Fin W → ExpertMap) (numExperts : ℕ) : Prop :=
  ∀ e < numExperts, ∃! r, (maps r).owns e = true

/-- The unique owner is the only rank that owns. -/
theorem filter_owns {e : ℕ} {r : Fin W} (hr : (maps r).owns e = true)
    (huniq : ∀ s, (maps s).owns e = true → s = r) :
    ((List.finRange W).filter fun s => (maps s).owns e) = [r] := by
  have hnodup : ((List.finRange W).filter fun s => (maps s).owns e).Nodup :=
    (List.nodup_finRange W).filter _
  refine List.perm_singleton.mp ((List.perm_ext_iff_of_nodup hnodup (List.nodup_singleton r)).mpr ?_)
  intro s
  rw [List.mem_filter, List.mem_singleton]
  constructor
  · rintro ⟨-, hs⟩
    exact huniq s hs
  · rintro rfl
    exact ⟨List.mem_finRange s, hr⟩

theorem coverage_eq_one {e : ℕ} (h : ∃! r, (maps r).owns e = true) : coverage maps e = 1 := by
  obtain ⟨r, hr, huniq⟩ := h
  rw [coverage, List.countP_eq_length_filter, filter_owns hr huniq, List.length_singleton]

/-- The first owner is the owner. -/
theorem ownerOf_eq {e : ℕ} {r : Fin W} (hr : (maps r).owns e = true)
    (huniq : ∀ s, (maps s).owns e = true → s = r) : ownerOf maps e = r := by
  have hlt : (r : ℕ) < (List.finRange W).length := by
    rw [List.length_finRange]
    exact r.isLt
  unfold ownerOf
  rw [List.findIdx_eq hlt]
  refine ⟨by simpa using hr, ?_⟩
  intro j hj
  have hjW : j < W := hj.trans r.isLt
  have hget : (List.finRange W)[j] = ⟨j, hjW⟩ := by simp
  rw [hget, Bool.eq_false_iff]
  intro hown
  have := congrArg Fin.val (huniq ⟨j, hjW⟩ hown)
  simp only at this
  omega

theorem ownerOf_eq_iff {numExperts e : ℕ} (h : UniqueOwners maps numExperts) (he : e < numExperts)
    (d : Fin W) : ownerOf maps e = d ↔ (maps d).owns e = true := by
  obtain ⟨r, hr, huniq⟩ := h e he
  rw [ownerOf_eq hr huniq]
  constructor
  · intro heq
    rwa [← Fin.ext heq]
  · intro hd
    rw [huniq d hd]

/-- The owners of all experts. -/
def ownerTable (maps : Fin W → ExpertMap) (numExperts : ℕ) : List ℕ :=
  (List.range numExperts).map (ownerOf maps)

theorem gatherOwners_ok {numExperts : ℕ} (h : UniqueOwners maps numExperts) :
    gatherOwners maps numExperts = .ok (ownerTable maps numExperts) := by
  unfold gatherOwners
  rw [if_pos fun e he => coverage_eq_one (h e he)]
  rfl

theorem getD_ownerTable {numExperts e : ℕ} (he : e < numExperts) :
    (ownerTable maps numExperts).getD e 0 = ownerOf maps e := by
  simp [ownerTable, he]

end Owners

/-! ## The plan of a rank -/

section Plan

variable {R V : Type} {W k E : ℕ} {maps : Fin W → ExpertMap}

/-- A token goes to the ranks that own one of its experts. -/
theorem goesTo_iff (h : UniqueOwners maps E) (row : TokenRow R V k E) (d : Fin W) :
    goesTo (ownerTable maps E) row d = true ↔ ∃ j, (maps d).owns (row.ids j) = true := by
  unfold goesTo
  rw [decide_eq_true_iff]
  refine exists_congr fun j => ?_
  rw [getD_ownerTable (row.ids j).isLt, ownerOf_eq_iff h (row.ids j).isLt]

theorem mem_tokensFor {owners : List ℕ} {rows : List (TokenRow R V k E)} {d : Fin W} {t : ℕ} :
    t ∈ tokensFor owners rows d ↔ ∃ row, rows[t]? = some row ∧ goesTo owners row d = true := by
  unfold tokensFor
  rw [List.mem_filter, List.mem_range]
  constructor
  · rintro ⟨-, h⟩
    exact (Option.any_eq_true _ _).mp h
  · rintro ⟨row, hrow, hgoes⟩
    refine ⟨(List.getElem?_eq_some_iff.mp hrow).1, ?_⟩
    rw [hrow]
    exact hgoes

theorem nodup_tokensFor (owners : List ℕ) (rows : List (TokenRow R V k E)) (d : Fin W) :
    (tokensFor owners rows d).Nodup :=
  List.nodup_range.filter _

/-- What rank `r` sends to rank `d`. -/
def sentTo (owners : List ℕ) (rows : List (TokenRow R V k E)) (r d : Fin W) : List ℕ :=
  if d = r then [] else tokensFor owners rows d

theorem flatMap_ite_singleton {α β : Type} (p : α → Bool) (f : α → β) (l : List α) :
    (l.flatMap fun a => if p a then [f a] else []) = (l.filter p).map f := by
  induction l with
  | nil => rfl
  | cons a l ih =>
    rw [List.flatMap_cons, ih]
    by_cases h : p a = true
    · rw [if_pos h, List.filter_cons_of_pos h, List.map_cons, List.singleton_append]
    · rw [if_neg h, List.filter_cons_of_neg h, List.nil_append]

theorem filter_finRange_eq (p : Fin W → Bool) (d : Fin W) :
    ((List.finRange W).filter fun d' => decide (d' = d) && p d') = if p d then [d] else [] := by
  have hnodup : ((List.finRange W).filter fun d' => decide (d' = d) && p d').Nodup :=
    (List.nodup_finRange W).filter _
  by_cases hp : p d = true
  · rw [if_pos hp]
    refine List.perm_singleton.mp
      ((List.perm_ext_iff_of_nodup hnodup (List.nodup_singleton d)).mpr fun d' => ?_)
    rw [List.mem_filter, List.mem_singleton, Bool.and_eq_true, decide_eq_true_iff]
    constructor
    · rintro ⟨-, rfl, -⟩
      rfl
    · rintro rfl
      exact ⟨List.mem_finRange d', rfl, hp⟩
  · rw [if_neg hp, List.filter_eq_nil_iff]
    intro d' _ h
    rw [Bool.and_eq_true, decide_eq_true_iff] at h
    obtain ⟨rfl, h⟩ := h
    exact hp h

/-- One bucket of the plan. -/
theorem filter_nonzeroPairs (owners : List ℕ) (rows : List (TokenRow R V k E)) (r d : Fin W) :
    (((nonzeroPairs owners rows).filter fun p => p.2 ≠ r).filter fun p => p.2 = d) =
      (sentTo owners rows r d).map (·, d) := by
  rw [List.filter_filter]
  unfold sentTo
  by_cases hd : d = r
  · subst hd
    rw [if_pos rfl, List.map_nil, List.filter_eq_nil_iff]
    intro p _ h
    simp at h
  · have hpred : (fun p : ℕ × Fin W => decide (p.2 = d) && decide (p.2 ≠ r)) =
        fun p => decide (p.2 = d) := by
      funext p
      by_cases hp : p.2 = d
      · simp [hp, hd]
      · simp [hp]
    rw [if_neg hd, hpred]
    unfold nonzeroPairs tokensFor
    rw [List.filter_flatMap, ← flatMap_ite_singleton _ (fun t => (t, d))]
    refine List.flatMap_congr fun t _ => ?_
    rw [List.filter_map, List.filter_filter]
    simp only [Function.comp_def]
    rw [filter_finRange_eq]
    split_ifs <;> rfl

theorem remotePairs_eq_mergeSort (owners : List ℕ) (rows : List (TokenRow R V k E)) (r : Fin W) :
    remotePairs owners rows r =
      ((nonzeroPairs owners rows).filter fun p => p.2 ≠ r).mergeSort fun a b => a.2 ≤ b.2 := by
  unfold remotePairs
  dsimp only
  split_ifs with hempty
  · rw [List.isEmpty_iff.mp hempty, List.mergeSort_nil]
  · rfl

/-- **The plan of a rank.** -/
theorem remotePairs_eq (owners : List ℕ) (rows : List (TokenRow R V k E)) (r : Fin W) :
    remotePairs owners rows r =
      (List.finRange W).flatMap fun d => (sentTo owners rows r d).map (·, d) := by
  rw [remotePairs_eq_mergeSort, mergeSort_eq_flatMap_filter Prod.snd]
  exact List.flatMap_congr fun d _ => filter_nonzeroPairs owners rows r d

theorem remoteTokens_eq (owners : List ℕ) (rows : List (TokenRow R V k E)) (r : Fin W) :
    (remotePairs owners rows r).map Prod.fst =
      (List.finRange W).flatMap (sentTo owners rows r) := by
  rw [remotePairs_eq, List.map_flatMap]
  refine List.flatMap_congr fun d _ => ?_
  rw [List.map_map]
  exact List.map_id _

/-- `bincount` over the destinations. -/
theorem sendCounts_eq (owners : List ℕ) (rows : List (TokenRow R V k E)) (r d : Fin W) :
    ((remotePairs owners rows r).map Prod.snd).count d = (sentTo owners rows r d).length := by
  have hbucket : ((remotePairs owners rows r).filter fun p => decide (p.2 = d)) =
      (sentTo owners rows r d).map (·, d) := by
    rw [remotePairs_eq_mergeSort, filter_mergeSort Prod.snd]
    exact filter_nonzeroPairs owners rows r d
  calc ((remotePairs owners rows r).map Prod.snd).count d
      = ((remotePairs owners rows r).filter fun p => decide (p.2 = d)).length := by
        rw [List.count, List.countP_map, List.countP_eq_length_filter]
        congr 1
    _ = (sentTo owners rows r d).length := by rw [hbucket, List.length_map]

theorem mem_sentTo {owners : List ℕ} {rows : List (TokenRow R V k E)} {r d : Fin W} {t : ℕ} :
    t ∈ sentTo owners rows r d ↔
      d ≠ r ∧ ∃ row, rows[t]? = some row ∧ goesTo owners row d = true := by
  unfold sentTo
  by_cases hd : d = r
  · simp [hd]
  · rw [if_neg hd, mem_tokensFor]
    exact ⟨fun h => ⟨hd, h⟩, fun h => h.2⟩

end Plan

end SparseA2A
end SpotServe
