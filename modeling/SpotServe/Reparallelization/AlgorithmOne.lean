import SpotServe.Reparallelization.Ranking

/-!
# Algorithm 1 selects as published

`_select_profiled_candidates` (`sllm/spot/reparallelization.py`) on candidates whose estimates may
be infinite: `selectEstimatedCandidates` leaves those out and ranks the others with
`selectProfiledCandidates`.

* `selectEstimatedCandidates_eq`: the ranking is the two sorts of `profiledRanking`, with two
  fields of every candidate rewritten afterwards.
* `head_meetsArrivalRate`, `head_maxThroughput`: what stands first, in either branch.
* `profiledRanking_pairwise`: the candidates that meet the arrival rate come first.
* `head_profiledRanking_perm`: the shapes tell candidates apart, and then the order in which the
  candidates come does not matter for the first.

`select_profiled_candidates_as_published` puts these together.
-/

namespace SpotServe
namespace Reparallelization

open Py Runs Selection

/-! ## Candidates with estimates that may be infinite -/

/-- A candidate whose estimated throughput and latency may be infinite (`none`); those inside
`config` are not read. -/
structure EstimatedConfig where
  config : ParallelConfig
  throughputEstimateReqS : Option ℚ
  latencyEstimateMs : Option ℚ

/-- The candidate, where both estimates pass `math.isfinite`. -/
def EstimatedConfig.finite? (c : EstimatedConfig) : Option ParallelConfig :=
  c.throughputEstimateReqS.bind fun throughput =>
    c.latencyEstimateMs.map fun latency =>
      { c.config with throughputEstimateReqS := throughput, latencyEstimateMs := latency }

/-- `_select_profiled_candidates`. -/
def selectEstimatedCandidates (candidates : List EstimatedConfig) (snapshot : WorkloadSnapshot)
    (config : Dict) : Except PlanningFailure (List ParallelConfig) :=
  selectProfiledCandidates (candidates.filterMap (·.finite?)) snapshot config

/-- The candidates of positive finite throughput and latency. -/
def profiledCandidates (candidates : List EstimatedConfig) : List ParallelConfig :=
  (candidates.filterMap (·.finite?)).filter fun c =>
    0 < c.throughputEstimateReqS ∧ 0 < c.latencyEstimateMs

theorem stableShape_of_finite? {c : EstimatedConfig} {c' : ParallelConfig}
    (h : c.finite? = some c') : stableShape c' = stableShape c.config := by
  obtain ⟨throughput, -, h⟩ := Option.bind_eq_some_iff.mp h
  obtain ⟨latency, -, rfl⟩ := Option.map_eq_some_iff.mp h
  rfl

/-! ## The two sorts -/

/-- `ranked`, before the fields are rewritten. -/
def profiledRanking (queueModel : QueueModel) (alpha : ℚ) (profiled : List ParallelConfig) :
    List ParallelConfig :=
  let feasible := profiled.filter fun c => alpha ≤ c.throughputEstimateReqS
  if feasible.isEmpty then
    sortedAscending (fun c => -c.throughputEstimateReqS :: c.latencyEstimateMs :: stableShape c)
      profiled
  else
    sortedAscending (fun c => latencyKey (queueLatency queueModel alpha c) ++ stableShape c)
        feasible ++
      sortedAscending (fun c => -c.throughputEstimateReqS :: stableShape c)
        (profiled.filter fun c => ¬ alpha ≤ c.throughputEstimateReqS)

/-- What is rewritten after the sort: the arrival rate and what queueing adds to the latency. -/
def rankedEntry (queueModel : QueueModel) (alpha : ℚ) (c : ParallelConfig) : ParallelConfig :=
  { c with
    arrivalRateReqS := alpha
    queuePenaltyMs :=
      ((queueLatency queueModel alpha c).map (· - c.latencyEstimateMs)).getD 0 }

theorem queueLatency_rankedEntry (queueModel : QueueModel) (alpha : ℚ) (c : ParallelConfig) :
    queueLatency queueModel alpha (rankedEntry queueModel alpha c) =
      queueLatency queueModel alpha c := by
  cases queueModel <;> rfl

/-- With a queue model that is known and an arrival rate that is not negative there is a ranking. -/
theorem selectEstimatedCandidates_eq {queueModel : QueueModel} {snapshot : WorkloadSnapshot}
    {config : Dict} (hmodel : queueModelOf config = .ok queueModel)
    (halpha : 0 ≤ snapshot.arrivalRateReqS) (candidates : List EstimatedConfig) :
    selectEstimatedCandidates candidates snapshot config =
      .ok ((profiledRanking queueModel snapshot.arrivalRateReqS
        (profiledCandidates candidates)).map
          (rankedEntry queueModel snapshot.arrivalRateReqS)) := by
  unfold selectEstimatedCandidates selectProfiledCandidates
  rw [hmodel]
  show (require (0 ≤ snapshot.arrivalRateReqS) PlanningFailure.invalidArrivalRate >>= _) = _
  rw [require, if_pos halpha]
  rfl

/-! ## Reading the sort keys -/

theorem le_of_cons_le_cons {a b : ℚ} {rest rest' : List ℚ} (h : a :: rest ≤ b :: rest') :
    a ≤ b := by
  rcases of_key_cons_le h with hlt | ⟨heq, -⟩
  · exact hlt.le
  · exact heq.le

/-- A latency is at most another one; `none` is infinity. -/
def LatencyAtMost (first second : Option ℚ) : Prop := ∀ b ∈ second, ∃ a ∈ first, a ≤ b

theorem latencyAtMost_of_key_le {first second : Option ℚ} {rest rest' : List ℚ}
    (h : latencyKey first ++ rest ≤ latencyKey second ++ rest') :
    LatencyAtMost first second := by
  intro b hb
  obtain rfl := Option.mem_def.mp hb
  cases first with
  | none =>
    -- an infinite latency comes after every number
    have h10 : (1 : ℚ) ≤ 0 := le_of_cons_le_cons h
    exact absurd h10 (by norm_num)
  | some a =>
    have h' : (0 : ℚ) :: a :: rest ≤ 0 :: b :: rest' := h
    rcases of_key_cons_le h' with hlt | ⟨-, hle⟩
    · exact absurd hlt (lt_irrefl 0)
    · exact ⟨a, rfl, le_of_cons_le_cons hle⟩

theorem head?_sortedAscending (key : ParallelConfig → List ℚ) (items : List ParallelConfig) :
    (sortedAscending key items).head? = best key items := rfl

theorem sortedAscending_perm (key : ParallelConfig → List ℚ) (items : List ParallelConfig) :
    (sortedAscending key items).Perm items :=
  List.perm_insertionSort _ _

/-! ## What the ranking does -/

section Ranked

variable {queueModel : QueueModel} {alpha : ℚ} {profiled : List ParallelConfig}

theorem profiledRanking_perm : (profiledRanking queueModel alpha profiled).Perm profiled := by
  unfold profiledRanking
  dsimp only
  split_ifs with hfeasible
  · exact sortedAscending_perm _ _
  · refine ((sortedAscending_perm _ _).append (sortedAscending_perm _ _)).trans ?_
    simpa only [decide_not] using
      List.filter_append_perm (fun c => decide (alpha ≤ c.throughputEstimateReqS)) profiled

/-- The first one, where a candidate meets the arrival rate. -/
theorem head?_profiledRanking_of_feasible
    (h : ∃ c ∈ profiled, alpha ≤ c.throughputEstimateReqS) :
    (profiledRanking queueModel alpha profiled).head? =
      best (fun c => latencyKey (queueLatency queueModel alpha c) ++ stableShape c)
        (profiled.filter fun c => alpha ≤ c.throughputEstimateReqS) := by
  obtain ⟨c, hc, hmeets⟩ := h
  have hmem : c ∈ profiled.filter fun c => alpha ≤ c.throughputEstimateReqS :=
    List.mem_filter.mpr ⟨hc, decide_eq_true hmeets⟩
  have hne : ¬ (profiled.filter fun c => alpha ≤ c.throughputEstimateReqS).isEmpty = true := by
    rw [List.isEmpty_iff]
    exact List.ne_nil_of_mem hmem
  unfold profiledRanking
  rw [if_neg hne, List.head?_append, head?_sortedAscending]
  obtain ⟨first, hbest⟩ := exists_best
    (fun c => latencyKey (queueLatency queueModel alpha c) ++ stableShape c) hmem
  rw [hbest]
  rfl

/-- The first one, where no candidate meets the arrival rate. -/
theorem head?_profiledRanking_of_infeasible
    (h : ∀ c ∈ profiled, c.throughputEstimateReqS < alpha) :
    (profiledRanking queueModel alpha profiled).head? =
      best (fun c => -c.throughputEstimateReqS :: c.latencyEstimateMs :: stableShape c)
        profiled := by
  have hnil : (profiled.filter fun c => alpha ≤ c.throughputEstimateReqS) = [] := by
    rw [List.filter_eq_nil_iff]
    intro c hc
    simpa using h c hc
  unfold profiledRanking
  rw [if_pos (List.isEmpty_iff.mpr hnil), head?_sortedAscending]

/-- A first one that meets the arrival rate, of the least latency among those that do. -/
theorem head_meetsArrivalRate (h : ∃ c ∈ profiled, alpha ≤ c.throughputEstimateReqS) :
    ∃ first, (profiledRanking queueModel alpha profiled).head? = some first ∧
      alpha ≤ first.throughputEstimateReqS ∧
      ∀ c ∈ profiled, alpha ≤ c.throughputEstimateReqS →
        LatencyAtMost (queueLatency queueModel alpha first) (queueLatency queueModel alpha c) := by
  rw [head?_profiledRanking_of_feasible h]
  obtain ⟨c, hc, hmeets⟩ := h
  have hmem : c ∈ profiled.filter fun c => alpha ≤ c.throughputEstimateReqS :=
    List.mem_filter.mpr ⟨hc, decide_eq_true hmeets⟩
  obtain ⟨first, hbest⟩ := exists_best
    (fun c => latencyKey (queueLatency queueModel alpha c) ++ stableShape c) hmem
  refine ⟨first, hbest, ?_, ?_⟩
  · simpa using (List.mem_filter.mp (mem_of_best hbest)).2
  · intro c hc hmeets
    exact latencyAtMost_of_key_le
      (key_le_of_best hbest (List.mem_filter.mpr ⟨hc, decide_eq_true hmeets⟩))

/-- Without a candidate that meets the arrival rate, the first one has the largest throughput. -/
theorem head_maxThroughput (h : ∀ c ∈ profiled, c.throughputEstimateReqS < alpha)
    {first : ParallelConfig}
    (hfirst : (profiledRanking queueModel alpha profiled).head? = some first) {c : ParallelConfig}
    (hc : c ∈ profiled) : c.throughputEstimateReqS ≤ first.throughputEstimateReqS := by
  rw [head?_profiledRanking_of_infeasible h] at hfirst
  exact neg_le_neg_iff.mp (le_of_cons_le_cons (key_le_of_best hfirst hc))

/-- Those that meet the arrival rate come before those that do not. -/
theorem profiledRanking_pairwise :
    (profiledRanking queueModel alpha profiled).Pairwise fun earlier later =>
      alpha ≤ later.throughputEstimateReqS → alpha ≤ earlier.throughputEstimateReqS := by
  unfold profiledRanking
  dsimp only
  split_ifs with hfeasible
  · refine List.pairwise_of_forall_mem_list fun earlier _ later hlater hmeets => ?_
    have hmem : later ∈ profiled.filter fun c => alpha ≤ c.throughputEstimateReqS :=
      List.mem_filter.mpr ⟨mem_sortedAscending.mp hlater, decide_eq_true hmeets⟩
    rw [List.isEmpty_iff.mp hfeasible] at hmem
    exact absurd hmem List.not_mem_nil
  · have hfirst : ∀ c ∈ sortedAscending
        (fun c => latencyKey (queueLatency queueModel alpha c) ++ stableShape c)
        (profiled.filter fun c => alpha ≤ c.throughputEstimateReqS),
        alpha ≤ c.throughputEstimateReqS := by
      intro c hc
      simpa using (List.mem_filter.mp (mem_sortedAscending.mp hc)).2
    have hlast : ∀ c ∈ sortedAscending (fun c => -c.throughputEstimateReqS :: stableShape c)
        (profiled.filter fun c => ¬ alpha ≤ c.throughputEstimateReqS),
        ¬ alpha ≤ c.throughputEstimateReqS := by
      intro c hc
      simpa using (List.mem_filter.mp (mem_sortedAscending.mp hc)).2
    refine List.pairwise_append.mpr ⟨?_, ?_, ?_⟩
    · exact List.pairwise_of_forall_mem_list fun earlier hearlier _ _ _ => hfirst earlier hearlier
    · exact List.pairwise_of_forall_mem_list fun _ _ later hlater hmeets =>
        absurd hmeets (hlast later hlater)
    · exact fun earlier hearlier _ _ _ => hfirst earlier hearlier

/-- Shapes that tell the candidates apart make the first one the same in whatever order the
candidates come. -/
theorem head_profiledRanking_perm {profiled' : List ParallelConfig}
    (hperm : profiled.Perm profiled')
    (hshapes : profiled.Pairwise fun a b => stableShape a ≠ stableShape b) :
    (profiledRanking queueModel alpha profiled).head? =
      (profiledRanking queueModel alpha profiled').head? := by
  have hinj : ∀ a ∈ profiled, ∀ b ∈ profiled, stableShape a = stableShape b → a = b := by
    intro a ha b hb hshape
    have : Std.Symm fun a b : ParallelConfig => stableShape a ≠ stableShape b :=
      ⟨fun _ _ h => h.symm⟩
    by_contra hne
    exact hshapes.forall ha hb hne hshape
  by_cases hfeasible : ∃ c ∈ profiled, alpha ≤ c.throughputEstimateReqS
  · have hfeasible' : ∃ c ∈ profiled', alpha ≤ c.throughputEstimateReqS := by
      obtain ⟨c, hc, hmeets⟩ := hfeasible
      exact ⟨c, hperm.subset hc, hmeets⟩
    rw [head?_profiledRanking_of_feasible hfeasible,
      head?_profiledRanking_of_feasible hfeasible']
    refine best_perm (hperm.filter _) fun a ha b hb hkey => ?_
    have hlength : (latencyKey (queueLatency queueModel alpha a)).length =
        (latencyKey (queueLatency queueModel alpha b)).length := by
      cases queueLatency queueModel alpha a <;> cases queueLatency queueModel alpha b <;> rfl
    exact hinj a (List.mem_of_mem_filter ha) b (List.mem_of_mem_filter hb)
      (List.append_inj_right hkey hlength)
  · push Not at hfeasible
    have hfeasible' : ∀ c ∈ profiled', c.throughputEstimateReqS < alpha :=
      fun c hc => hfeasible c (hperm.symm.subset hc)
    rw [head?_profiledRanking_of_infeasible hfeasible,
      head?_profiledRanking_of_infeasible hfeasible']
    refine best_perm hperm fun a ha b hb hkey => ?_
    exact hinj a ha b hb (List.cons.inj (List.cons.inj hkey).2).2

end Ranked

/-! ## The published selection -/

/-- What Algorithm 1 promises of its ranking. -/
structure AsPublished (queueModel : QueueModel) (alpha : ℚ)
    (profiled ranked : List ParallelConfig) : Prop where
  /-- The ranking lists the profiled candidates. -/
  perm : ranked.Perm (profiled.map (rankedEntry queueModel alpha))
  /-- The first one has the least latency among those that meet the arrival rate. -/
  minLatency : (∃ c ∈ ranked, alpha ≤ c.throughputEstimateReqS) →
    ∃ first, ranked.head? = some first ∧ alpha ≤ first.throughputEstimateReqS ∧
      ∀ c ∈ ranked, alpha ≤ c.throughputEstimateReqS →
        LatencyAtMost (queueLatency queueModel alpha first) (queueLatency queueModel alpha c)
  /-- Those that meet it come before the others. -/
  feasibleFirst : ranked.Pairwise fun earlier later =>
    alpha ≤ later.throughputEstimateReqS → alpha ≤ earlier.throughputEstimateReqS
  /-- When none does, the first one has the largest throughput. -/
  maxThroughput : (∀ c ∈ ranked, c.throughputEstimateReqS < alpha) →
    ∀ first, ranked.head? = some first →
      ∀ c ∈ ranked, c.throughputEstimateReqS ≤ first.throughputEstimateReqS

theorem profiledRanking_asPublished (queueModel : QueueModel) (alpha : ℚ)
    (profiled : List ParallelConfig) :
    AsPublished queueModel alpha profiled
      ((profiledRanking queueModel alpha profiled).map (rankedEntry queueModel alpha)) where
  perm := profiledRanking_perm.map _
  minLatency := by
    rintro ⟨entry, hentry, hmeets⟩
    obtain ⟨c, hc, rfl⟩ := List.mem_map.mp hentry
    have hfeasible : ∃ c ∈ profiled, alpha ≤ c.throughputEstimateReqS :=
      ⟨c, profiledRanking_perm.subset hc, hmeets⟩
    obtain ⟨first, hfirst, hfirstMeets, hleast⟩ := head_meetsArrivalRate hfeasible
    refine ⟨rankedEntry queueModel alpha first, ?_, hfirstMeets, ?_⟩
    · rw [List.head?_map, hfirst, Option.map_some]
    · intro entry hentry hmeets
      obtain ⟨c, hc, rfl⟩ := List.mem_map.mp hentry
      rw [queueLatency_rankedEntry, queueLatency_rankedEntry]
      exact hleast c (profiledRanking_perm.subset hc) hmeets
  feasibleFirst := List.pairwise_map.mpr profiledRanking_pairwise
  maxThroughput := by
    intro hnone top htop entry hentry
    obtain ⟨c, hc, rfl⟩ := List.mem_map.mp hentry
    rw [List.head?_map] at htop
    obtain ⟨first, hfirst, rfl⟩ := Option.map_eq_some_iff.mp htop
    have hinfeasible : ∀ c ∈ profiled, c.throughputEstimateReqS < alpha := fun c hc =>
      hnone (rankedEntry queueModel alpha c)
        (List.mem_map_of_mem (profiledRanking_perm.symm.subset hc))
    show c.throughputEstimateReqS ≤ first.throughputEstimateReqS
    exact head_maxThroughput hinfeasible hfirst (profiledRanking_perm.subset hc)

/-- **Algorithm 1 selects as published.**  With a known queue model and an arrival rate that is not
negative it returns the candidates of positive finite throughput and latency, in the published
order; and when the shapes of the candidates are different, another order of the candidates gives
the same first one. -/
theorem select_profiled_candidates_as_published {queueModel : QueueModel}
    {snapshot : WorkloadSnapshot} {config : Dict} (hmodel : queueModelOf config = .ok queueModel)
    (halpha : 0 ≤ snapshot.arrivalRateReqS) (candidates : List EstimatedConfig) :
    ∃ ranked, selectEstimatedCandidates candidates snapshot config = .ok ranked ∧
      AsPublished queueModel snapshot.arrivalRateReqS (profiledCandidates candidates) ranked ∧
      ∀ candidates', candidates.Perm candidates' →
        (candidates.Pairwise fun a b => stableShape a.config ≠ stableShape b.config) →
        ∃ ranked', selectEstimatedCandidates candidates' snapshot config = .ok ranked' ∧
          ranked'.head? = ranked.head? := by
  refine ⟨_, selectEstimatedCandidates_eq hmodel halpha candidates,
    profiledRanking_asPublished _ _ _, fun candidates' hperm hshapes =>
      ⟨_, selectEstimatedCandidates_eq hmodel halpha candidates', ?_⟩⟩
  have hprofiled : (profiledCandidates candidates).Pairwise fun a b =>
      stableShape a ≠ stableShape b := by
    refine List.Pairwise.filter _
      (List.Pairwise.filterMap _ (fun a b hne a' ha b' hb => ?_) hshapes)
    rw [stableShape_of_finite? ha, stableShape_of_finite? hb]
    exact hne
  have hpermProfiled : (profiledCandidates candidates).Perm (profiledCandidates candidates') :=
    (hperm.filterMap _).filter _
  rw [List.head?_map, List.head?_map, head_profiledRanking_perm hpermProfiled hprofiled]

/-- A candidate of `replicas` replicas of one GPU each. -/
def replicated (replicas : ℕ) (throughput latency : Option ℚ) : EstimatedConfig where
  config :=
    { shape := ⟨1, 1, 1, replicas, replicas, false⟩
      unusedGpus := 0
      score := 0
      reason := "backend_capability" }
  throughputEstimateReqS := throughput
  latencyEstimateMs := latency

/-- The selection at the pole of the queue model, where one throughput is the arrival rate, and with
an infinite estimate. -/
theorem select_profiled_candidates_at_pole :
    let config : Dict :=
      [("queue_model", .str "md1_aggregate"), ("arrival_rate_req_s", .int 2)]
    let snapshot := workloadCostModelSnapshot config []
    let candidates := [replicated 1 (some 2) (some 5), replicated 2 (some 4) (some 9),
      replicated 3 none (some 1)]
    ∃ ranked ranked', selectEstimatedCandidates candidates snapshot config = .ok ranked ∧
      AsPublished .md1Aggregate snapshot.arrivalRateReqS (profiledCandidates candidates) ranked ∧
      selectEstimatedCandidates candidates.reverse snapshot config = .ok ranked' ∧
      ranked'.head? = ranked.head? := by
  intro config snapshot candidates
  have hmodel : queueModelOf config = .ok .md1Aggregate := rfl
  have halpha : 0 ≤ snapshot.arrivalRateReqS := le_max_left _ _
  have hshapes : candidates.Pairwise fun a b => stableShape a.config ≠ stableShape b.config := by
    simp [candidates, replicated, stableShape]
  obtain ⟨ranked, hranked, hpublished, horder⟩ :=
    select_profiled_candidates_as_published hmodel halpha candidates
  obtain ⟨ranked', hranked', hhead⟩ :=
    horder candidates.reverse candidates.reverse_perm.symm hshapes
  exact ⟨ranked, ranked', hranked, hpublished, hranked', hhead⟩

end Reparallelization
end SpotServe
