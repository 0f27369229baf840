import SpotServe.ExpertPlacement.Planner

/-!
# Every expert has a place

The planner must not lose an expert: whatever the strategy, the hotness, the current placement and
the number of ranks are, the plan gives every expert of every layer one rank in every replica.

* `layerAssignment_spec`: every strategy assigns every expert to a rank that exists, and the greedy
  ones never run out of slots.
* `selectAssignments_all`: keeping the current placement instead loses nothing.
* `planTables_spec`: the tables of the plan list what the assignments say, expert by expert.
* `plan_complete`: the plan is a complete partition.
-/

namespace SpotServe
namespace ExpertPlacement

open Py Runs

variable (input : PlannerInput)

/-! ## The assignments of the layers -/

theorem isAssignment_current {snapshot : Snapshot} {layerId numExperts rankCount : ℕ}
    {assignment : List ℤ}
    (h : currentLayerAssignment snapshot layerId numExperts rankCount = some assignment) :
    IsAssignment numExperts rankCount assignment := by
  have hall := forall₂_of_mapM h
  refine ⟨by rw [← hall.length_eq, List.length_range], fun r hr => ?_⟩
  obtain ⟨e, he, rfl⟩ := List.mem_iff_getElem.mp hr
  have hrank := hall.get (by rw [hall.length_eq]; exact he) he
  obtain ⟨entry, -, hrank⟩ := Option.bind_eq_some_iff.mp hrank
  obtain ⟨rank, hindex, hrank⟩ := Option.map_eq_some_iff.mp hrank
  exact ⟨rank, lt_of_rankIndex hindex, hrank.symm⟩

/-- A greedy assignment of a layer with the default slots. -/
theorem greedy_default_spec (numExperts : ℕ) {rankCount : ℕ} (hpos : 0 < rankCount)
    (hotness : ℕ → ℚ) (score : List ℚ → ℕ → ℕ → ℚ × ℕ × ℕ) (current : Option (List ℤ)) :
    ∃ assignment,
      greedyAssignment numExperts (defaultSlotCapacities numExperts rankCount current) hotness
        score = .ok assignment ∧
      IsAssignment numExperts rankCount assignment ∧
      (rankCount ∣ numExperts → (∀ a ∈ current, IsEven numExperts rankCount a) →
        IsEven numExperts rankCount assignment) := by
  obtain ⟨assignment, hrun, hassignment, hcount⟩ :=
    greedyAssignment_spec hotness score (sum_defaultSlotCapacities numExperts current hpos)
  rw [length_defaultSlotCapacities] at hassignment
  refine ⟨assignment, hrun, hassignment, fun hdvd hcurrent rank hrank => ?_⟩
  rw [hcount rank, getD_defaultSlotCapacities hdvd hcurrent hrank]

/-- **Every strategy** assigns every expert to a rank; with an even current placement, or none, and
as many slots as experts it does so evenly. -/
theorem layerAssignment_spec (strategy : PlacementStrategy) {rankCount : ℕ} (hpos : 0 < rankCount)
    (layerId : ℕ) :
    ∃ assignment, layerAssignment input strategy rankCount layerId = .ok assignment ∧
      IsAssignment input.topology.2 rankCount assignment ∧
      (rankCount ∣ input.topology.2 →
        (∀ a ∈ currentLayerAssignment input.currentSnapshot layerId input.topology.2 rankCount,
          IsEven input.topology.2 rankCount a) →
        IsEven input.topology.2 rankCount assignment) := by
  have hfallback : ∃ assignment,
      Except.ok ((currentLayerAssignment input.currentSnapshot layerId input.topology.2
        rankCount).getD (linearAssignment input.topology.2 rankCount)) =
        (.ok assignment : Except PlanError (List ℤ)) ∧
      IsAssignment input.topology.2 rankCount assignment ∧
      (rankCount ∣ input.topology.2 →
        (∀ a ∈ currentLayerAssignment input.currentSnapshot layerId input.topology.2 rankCount,
          IsEven input.topology.2 rankCount a) →
        IsEven input.topology.2 rankCount assignment) := by
    refine ⟨_, rfl, ?_⟩
    cases hcurrent : currentLayerAssignment input.currentSnapshot layerId input.topology.2
        rankCount with
    | none => exact ⟨isAssignment_linear _ hpos, fun hdvd _ => isEven_linear hdvd⟩
    | some a => exact ⟨isAssignment_current hcurrent, fun _ heven => heven a rfl⟩
  unfold layerAssignment
  cases strategy with
  | linear => exact ⟨_, rfl, isAssignment_linear _ hpos, fun hdvd _ => isEven_linear hdvd⟩
  | roundRobin =>
    exact ⟨_, rfl, isAssignment_roundRobin _ hpos, fun hdvd _ => isEven_roundRobin hdvd⟩
  | hotness | hotspot | hotspotAware =>
    exact ⟨_, rfl, isAssignment_hotnessGroups _ _ hpos, fun hdvd _ => isEven_hotnessGroups _ hdvd⟩
  | hotnessBalanced =>
    dsimp only
    split_ifs
    · exact greedy_default_spec _ hpos _ _ _
    · exact hfallback
  | hotnessLocality =>
    dsimp only
    split_ifs
    · exact greedy_default_spec _ hpos _ _ _
    · exact hfallback

/-- The candidate is selected, or the current assignments, which are then known for all layers. -/
theorem selectAssignments_cases (strategy : PlacementStrategy) (rankCount : ℕ)
    (candidate : List (List ℤ)) :
    (selectAssignments input strategy rankCount candidate).assignments = candidate ∨
      currentAssignments input rankCount =
        some (selectAssignments input strategy rankCount candidate).assignments := by
  unfold selectAssignments
  cases currentAssignments input rankCount with
  | none =>
    dsimp only
    split_ifs <;> exact Or.inl rfl
  | some current =>
    dsimp only
    split_ifs <;> first | exact Or.inl rfl | exact Or.inr rfl

/-- A property of the candidate and of the current assignments of all layers holds of the selected
ones. -/
theorem selectAssignments_all (P : List ℤ → Prop) (strategy : PlacementStrategy) (rankCount : ℕ)
    {candidate : List (List ℤ)} (hlength : candidate.length = input.topology.1)
    (hcandidate : ∀ a ∈ candidate, P a)
    (hcurrent : ∀ layerId < input.topology.1, ∀ a ∈ currentLayerAssignment input.currentSnapshot
      layerId input.topology.2 rankCount, P a) :
    (selectAssignments input strategy rankCount candidate).assignments.length = input.topology.1 ∧
      ∀ a ∈ (selectAssignments input strategy rankCount candidate).assignments, P a := by
  rcases selectAssignments_cases input strategy rankCount candidate with hkept | hretained
  · rw [hkept]
    exact ⟨hlength, hcandidate⟩
  · have hlayers := forall₂_of_mapM hretained
    refine ⟨by rw [← hlayers.length_eq, List.length_range], fun a ha => ?_⟩
    obtain ⟨layerId, hlayer, hassignment⟩ := exists_of_mem_right hlayers ha
    exact hcurrent layerId (List.mem_range.mp hlayer) a hassignment

/-- The candidates of all layers, and what is selected in the end. -/
theorem assignments_spec (strategy : PlacementStrategy) {rankCount : ℕ} (hpos : 0 < rankCount) :
    ∃ candidate,
      (List.range input.topology.1).mapM (layerAssignment input strategy rankCount) =
        .ok candidate ∧
      (selectAssignments input strategy rankCount candidate).assignments.length =
        input.topology.1 ∧
      ∀ a ∈ (selectAssignments input strategy rankCount candidate).assignments,
        IsAssignment input.topology.2 rankCount a ∧
        (rankCount ∣ input.topology.2 →
          (∀ layerId < input.topology.1, ∀ a ∈ currentLayerAssignment input.currentSnapshot layerId
            input.topology.2 rankCount, IsEven input.topology.2 rankCount a) →
          IsEven input.topology.2 rankCount a) := by
  obtain ⟨candidate, hrun, hall⟩ := mapM_ok fun layerId (_ : layerId ∈ List.range input.topology.1) =>
    layerAssignment_spec input strategy hpos layerId
  refine ⟨candidate, hrun, selectAssignments_all input _ strategy rankCount ?_ ?_ ?_⟩
  · rw [← hall.length_eq, List.length_range]
  · intro a ha
    obtain ⟨layerId, hlayer, hassignment, heven⟩ := exists_of_mem_right hall ha
    exact ⟨hassignment, fun hdvd hcurrent =>
      heven hdvd (hcurrent layerId (List.mem_range.mp hlayer))⟩
  · intro layerId hlayer a ha
    exact ⟨isAssignment_current ha, fun _ hcurrent => hcurrent layerId hlayer a ha⟩

/-! ## The tables -/

/-- The rank that a list of assignments gives an expert. -/
def rankAt (assignments : List (List ℤ)) (expert : ℕ × ℕ) : ℤ :=
  ((assignments[expert.1]?).bind (·[expert.2]?)).getD 0

theorem rankAt_spec {numLayers numExperts rankCount : ℕ} {assignments : List (List ℤ)}
    (hlength : assignments.length = numLayers)
    (hall : ∀ a ∈ assignments, IsAssignment numExperts rankCount a) {expert : ℕ × ℕ}
    (hlayer : expert.1 < numLayers) (hexpert : expert.2 < numExperts) :
    (∃ rank < rankCount, rankAt assignments expert = ((rank : ℕ) : ℤ)) ∧
      rankOf assignments expert.1 expert.2 = .ok (rankAt assignments expert) := by
  have hl : expert.1 < assignments.length := by rw [hlength]; exact hlayer
  have hassignment := hall assignments[expert.1] (List.getElem_mem hl)
  have he : expert.2 < assignments[expert.1].length := by rw [hassignment.length]; exact hexpert
  have hget : (assignments[expert.1]?).bind (·[expert.2]?) =
      some assignments[expert.1][expert.2] := by
    rw [List.getElem?_eq_getElem hl, Option.bind_some, List.getElem?_eq_getElem he]
  have hrank : rankAt assignments expert = assignments[expert.1][expert.2] := by
    rw [rankAt, hget, Option.getD_some]
  obtain ⟨rank, hlt, heq⟩ := hassignment.rank _ (List.getElem_mem he)
  refine ⟨⟨rank, hlt, by rw [hrank, heq]⟩, ?_⟩
  rw [rankOf, hget, hrank]

theorem mem_allExperts {numLayers numExperts : ℕ} {expert : ℕ × ℕ} :
    expert ∈ allExperts numLayers numExperts ↔ expert.1 < numLayers ∧ expert.2 < numExperts := by
  obtain ⟨layerId, expertId⟩ := expert
  simp [allExperts]

theorem nodup_allExperts (numLayers numExperts : ℕ) : (allExperts numLayers numExperts).Nodup := by
  refine List.nodup_flatMap.mpr ⟨fun layerId _ => ?_, ?_⟩
  · exact List.nodup_range.map fun e e' h => (Prod.mk.inj h).2
  · refine List.nodup_range.imp fun {layerId layerId'} hne => ?_
    intro expert h h'
    obtain ⟨e, -, rfl⟩ := List.mem_map.mp h
    obtain ⟨e', -, heq⟩ := List.mem_map.mp h'
    exact hne (Prod.mk.inj heq).1.symm

theorem length_allExperts (numLayers numExperts : ℕ) :
    (allExperts numLayers numExperts).length = numLayers * numExperts := by
  simp [allExperts, List.length_flatMap]

theorem replicaCount_pos (plan : Dict) : 0 < replicaCount plan := by
  unfold replicaCount asPositiveInt
  split
  · split_ifs with h
    · exact Nat.one_pos
    · omega
  · exact Nat.one_pos

theorem targetRankCount_pos (plan : Dict) : 0 < targetRankCount plan :=
  Nat.lt_of_lt_of_le Nat.one_pos (Nat.le_max_left 1 _)

@[simp] theorem map_rankId_shardsOf (layerId expertId : ℕ) (rank : ℤ) :
    (shardsOf input layerId expertId rank).map ExpertShard.rankId =
      (List.range (replicaCount input.targetParallelPlan)).map fun replicaId =>
        rankName replicaId rank := by
  rw [shardsOf, List.map_map]
  rfl

/-- There is a first replica. -/
theorem head?_shardsOf (layerId expertId : ℕ) (rank : ℤ) :
    ∃ shard, (shardsOf input layerId expertId rank).head? = some shard ∧
      shard.rankId = rankName 0 rank := by
  have hpos := replicaCount_pos input.targetParallelPlan
  obtain ⟨n, hn⟩ : ∃ n, replicaCount input.targetParallelPlan = n + 1 :=
    ⟨_, (Nat.succ_pred_eq_of_pos hpos).symm⟩
  unfold shardsOf
  rw [hn, List.range_succ_eq_map, List.map_cons, List.head?_cons]
  exact ⟨_, rfl, rfl⟩

/-- After the experts `done`, the tables list their ranks, in order. -/
structure Listed (assignments : List (List ℤ)) (done : List (ℕ × ℕ)) (tables : PlanTables) :
    Prop where
  shards : tables.shards = done.flatMap fun expert =>
    shardsOf input expert.1 expert.2 (rankAt assignments expert)
  ranks : tables.expertToTargetRank.entries = done.map fun expert =>
    (expertKey expert.1 expert.2, rankName 0 (rankAt assignments expert))
  replicas : tables.expertToTargetRanks.entries = done.map fun expert =>
    (expertKey expert.1 expert.2, (List.range (replicaCount input.targetParallelPlan)).map
      fun replicaId => rankName replicaId (rankAt assignments expert))

/-- A key that the entries of a table do not list yet. -/
theorem get?_none_of_new {β : Type} {table : OrderedDict String β} {done : List (ℕ × ℕ)}
    {value : ℕ × ℕ → β}
    (hentries : table.entries = done.map fun expert => (expertKey expert.1 expert.2, value expert))
    {expert : ℕ × ℕ} (hnew : expert ∉ done) :
    table.get? (expertKey expert.1 expert.2) = none := by
  rw [OrderedDict.get?_eq_none_iff, OrderedDict.keys, hentries, List.map_map]
  intro hmem
  obtain ⟨other, hother, heq⟩ := List.mem_map.mp hmem
  obtain ⟨hlayer, hexpert⟩ := expertKey_inj.mp heq
  exact hnew (Prod.ext hlayer hexpert ▸ hother)

theorem planExpert_spec {assignments : List (List ℤ)} {done : List (ℕ × ℕ)} {tables : PlanTables}
    (h : Listed input assignments done tables) {expert : ℕ × ℕ} (hnew : expert ∉ done)
    (hrank : rankOf assignments expert.1 expert.2 = .ok (rankAt assignments expert)) :
    ∃ tables', planExpert input assignments tables expert = .ok tables' ∧
      Listed input assignments (done ++ [expert]) tables' := by
  obtain ⟨shard, hhead, hname⟩ :=
    head?_shardsOf input expert.1 expert.2 (rankAt assignments expert)
  unfold planExpert
  rw [hrank]
  simp only [bind, Except.bind, pure, Except.pure, hhead]
  refine ⟨_, rfl, ?_, ?_, ?_⟩
  · rw [h.shards, List.flatMap_append, List.flatMap_singleton]
  · rw [OrderedDict.entries_set_new (get?_none_of_new h.ranks hnew), h.ranks, hname,
      List.map_append, List.map_singleton]
  · rw [OrderedDict.entries_set_new (get?_none_of_new h.replicas hnew), h.replicas,
      map_rankId_shardsOf, List.map_append, List.map_singleton]

/-- **The loop over the experts** lists all of them. -/
theorem planTables_spec {numLayers numExperts rankCount : ℕ} {assignments : List (List ℤ)}
    (hlength : assignments.length = numLayers)
    (hall : ∀ a ∈ assignments, IsAssignment numExperts rankCount a) :
    ∃ tables, (allExperts numLayers numExperts).foldlM (planExpert input assignments) {} =
        .ok tables ∧
      Listed input assignments (allExperts numLayers numExperts) tables := by
  refine foldlM_inv (Listed input assignments) ?_ ⟨rfl, rfl, rfl⟩
  intro done expert rest tables hwhole hlisted
  have hmem : expert ∈ allExperts numLayers numExperts := by rw [hwhole]; simp
  have hnew : expert ∉ done := by
    intro hdone
    have hnodup := nodup_allExperts numLayers numExperts
    rw [hwhole, List.nodup_append] at hnodup
    exact hnodup.2.2 expert hdone expert List.mem_cons_self rfl
  obtain ⟨hlayer, hexpert⟩ := mem_allExperts.mp hmem
  exact planExpert_spec input hlisted hnew (rankAt_spec hlength hall hlayer hexpert).2

/-! ## The plan -/

/-- The plan of a supported strategy, with the assignments and the tables that it lists. -/
structure IsPlanFor (strategy : PlacementStrategy) (plan : ExpertPlacementPlan)
    (assignments : List (List ℤ)) (tables : PlanTables) : Prop where
  length : assignments.length = input.topology.1
  assignment : ∀ a ∈ assignments,
    IsAssignment input.topology.2 (targetRankCount input.targetParallelPlan) a
  even : targetRankCount input.targetParallelPlan ∣ input.topology.2 →
    (∀ layerId < input.topology.1, ∀ a ∈ currentLayerAssignment input.currentSnapshot layerId
      input.topology.2 (targetRankCount input.targetParallelPlan),
      IsEven input.topology.2 (targetRankCount input.targetParallelPlan) a) →
    ∀ a ∈ assignments, IsEven input.topology.2 (targetRankCount input.targetParallelPlan) a
  listed : Listed input assignments (allExperts input.topology.1 input.topology.2) tables
  shards : plan.shards = tables.shards
  ranks : plan.expertToTargetRank = tables.expertToTargetRank
  replicas : plan.expertToTargetRanks = tables.expertToTargetRanks
  shardCount : plan.plannedShardCount = tables.shards.length
  covered : plan.coveredExpertCount = tables.expertToTargetRank.entries.length
  required : plan.requiredExpertCount = input.topology.1 * input.topology.2
  strategy : plan.placementStrategy = strategy
  target : plan.targetParallelPlan = input.targetParallelPlan
  rankCount : plan.targetRankCount = targetRankCount input.targetParallelPlan
  replicaCount : plan.sllmReplicaCount = replicaCount input.targetParallelPlan
  replication : plan.expertPhysicalReplicationFactor = 1
  live : plan.liveExpertRemap = configSwitch input.plannerConfig "enable_live_expert_remap"

theorem supportedPlan_spec (strategy : PlacementStrategy) :
    ∃ (plan : ExpertPlacementPlan) (assignments : List (List ℤ)) (tables : PlanTables),
      supportedPlan input strategy = .ok plan ∧
      IsPlanFor input strategy plan assignments tables := by
  obtain ⟨candidate, hcandidate, hlength, hall⟩ :=
    assignments_spec input strategy (targetRankCount_pos input.targetParallelPlan)
  obtain ⟨tables, htables, hlisted⟩ :=
    planTables_spec input hlength fun a ha => (hall a ha).1
  unfold supportedPlan
  simp only [hcandidate, htables, bind, Except.bind, pure, Except.pure]
  exact ⟨_, _, tables, rfl, hlength, fun a ha => (hall a ha).1,
    fun hdvd hcurrent a ha => (hall a ha).2 hdvd hcurrent, hlisted, rfl, rfl, rfl, rfl, rfl, rfl,
    rfl, rfl, rfl, rfl, rfl, rfl⟩

/-- What identifies a shard. -/
def ExpertShard.place (shard : ExpertShard) : ℕ × ℕ × String :=
  (shard.layerId, shard.expertId, shard.rankId)

/-- Every expert of every layer is on exactly one rank in every replica, nothing else is planned,
and the tables and counts of the plan agree with the shards. -/
structure IsCompletePartition (numLayers numExperts rankCount replicas : ℕ)
    (plan : ExpertPlacementPlan) : Prop where
  unique_rank : ∀ l < numLayers, ∀ e < numExperts, ∀ k < replicas,
    ∃! rank : ℕ, rank < rankCount ∧ (l, e, rankName k rank) ∈ plan.shards.map ExpertShard.place
  in_range : ∀ shard ∈ plan.shards, shard.layerId < numLayers ∧ shard.expertId < numExperts ∧
    ∃ k < replicas, ∃ rank < rankCount, shard.rankId = rankName k ((rank : ℕ) : ℤ)
  nodup : (plan.shards.map ExpertShard.place).Nodup
  shard_count : plan.shards.length = numLayers * numExperts * replicas ∧
    plan.plannedShardCount = numLayers * numExperts * replicas
  covered : plan.coveredExpertCount = plan.requiredExpertCount ∧
    plan.requiredExpertCount = numLayers * numExperts
  ranks_agree : ∀ l < numLayers, ∀ e < numExperts,
    plan.expertToTargetRanks.get? (expertKey l e) = some
      ((plan.shards.filter fun shard => shard.layerId = l ∧ shard.expertId = e).map
        ExpertShard.rankId)
  ranks_only : ∀ key ∈ plan.expertToTargetRanks.keys,
    ∃ l < numLayers, ∃ e < numExperts, key = expertKey l e

/-- The places of the shards that list the assignments. -/
theorem map_place_shards (assignments : List (List ℤ)) (experts : List (ℕ × ℕ)) :
    (experts.flatMap fun expert =>
        shardsOf input expert.1 expert.2 (rankAt assignments expert)).map ExpertShard.place =
      experts.flatMap fun expert =>
        (List.range (replicaCount input.targetParallelPlan)).map fun replicaId =>
          (expert.1, expert.2, rankName replicaId (rankAt assignments expert)) := by
  rw [List.map_flatMap]
  refine List.flatMap_congr fun expert _ => ?_
  rw [shardsOf, List.map_map]
  rfl

/-- The part of a concatenation that comes from one item. -/
theorem filter_flatMap_single {α β : Type*} {items : List α} (hnodup : items.Nodup)
    {f : α → List β} {p : β → Bool} {a : α} (ha : a ∈ items) (hself : ∀ b ∈ f a, p b = true)
    (hother : ∀ a' ∈ items, a' ≠ a → ∀ b ∈ f a', p b = false) :
    (items.flatMap f).filter p = f a := by
  induction items with
  | nil => exact absurd ha (by simp)
  | cons c items ih =>
    obtain ⟨hc, hrest⟩ := List.nodup_cons.mp hnodup
    rw [List.flatMap_cons, List.filter_append]
    rcases List.mem_cons.mp ha with rfl | hmem
    · have htail : (items.flatMap f).filter p = [] := by
        refine List.filter_eq_nil_iff.mpr fun b hb => ?_
        obtain ⟨a', ha', hb⟩ := List.mem_flatMap.mp hb
        have hne : a' ≠ a := fun h => hc (h ▸ ha')
        simp [hother a' (List.mem_cons_of_mem _ ha') hne b hb]
      rw [htail, List.append_nil, List.filter_eq_self.mpr hself]
    · have hhead : (f c).filter p = [] := by
        refine List.filter_eq_nil_iff.mpr fun b hb => ?_
        have hne : c ≠ a := fun h => hc (h ▸ hmem)
        simp [hother c List.mem_cons_self hne b hb]
      rw [hhead, List.nil_append]
      exact ih hrest hmem fun a' ha' => hother a' (List.mem_cons_of_mem c ha')

section Listing

variable {input} {numLayers numExperts rankCount : ℕ} {assignments : List (List ℤ)}
  {tables : PlanTables} (hlength : assignments.length = numLayers)
  (hall : ∀ a ∈ assignments, IsAssignment numExperts rankCount a)
  (hlisted : Listed input assignments (allExperts numLayers numExperts) tables)
include hlength hall hlisted

theorem Listed.unique_rank {l e k : ℕ} (hl : l < numLayers) (he : e < numExperts)
    (hk : k < replicaCount input.targetParallelPlan) :
    ∃! rank : ℕ, rank < rankCount ∧
      (l, e, rankName k rank) ∈ tables.shards.map ExpertShard.place := by
  obtain ⟨⟨rank, hrank, hat⟩, -⟩ := rankAt_spec hlength hall (show (l, e).1 < numLayers from hl) he
  have hmem : ∀ r : ℕ, (l, e, rankName k r) ∈ tables.shards.map ExpertShard.place ↔ r = rank := by
    intro r
    rw [hlisted.shards, map_place_shards, List.mem_flatMap]
    constructor
    · rintro ⟨⟨l', e'⟩, -, hin⟩
      obtain ⟨k', -, heq⟩ := List.mem_map.mp hin
      simp only [Prod.mk.injEq] at heq
      obtain ⟨rfl, rfl, hname⟩ := heq
      rw [hat] at hname
      exact (rankName_inj.mp hname).2.symm
    · rintro rfl
      refine ⟨(l, e), mem_allExperts.mpr ⟨hl, he⟩, List.mem_map.mpr ⟨k, List.mem_range.mpr hk, ?_⟩⟩
      rw [hat]
  exact ⟨rank, ⟨hrank, (hmem rank).mpr rfl⟩, fun r hr => (hmem r).mp hr.2⟩

theorem Listed.in_range {shard : ExpertShard} (hshard : shard ∈ tables.shards) :
    shard.layerId < numLayers ∧ shard.expertId < numExperts ∧
      ∃ k < replicaCount input.targetParallelPlan, ∃ rank < rankCount,
        shard.rankId = rankName k ((rank : ℕ) : ℤ) := by
  rw [hlisted.shards] at hshard
  obtain ⟨⟨l, e⟩, hmem, hshard⟩ := List.mem_flatMap.mp hshard
  obtain ⟨hl, he⟩ := mem_allExperts.mp hmem
  obtain ⟨⟨rank, hrank, hat⟩, -⟩ := rankAt_spec hlength hall (show (l, e).1 < numLayers from hl) he
  obtain ⟨k, hk, rfl⟩ := List.mem_map.mp hshard
  exact ⟨hl, he, k, List.mem_range.mp hk, rank, hrank, by rw [hat]⟩

theorem Listed.nodup_places : (tables.shards.map ExpertShard.place).Nodup := by
  rw [hlisted.shards, map_place_shards]
  refine List.nodup_flatMap.mpr ⟨fun expert hexpert => ?_, ?_⟩
  · obtain ⟨hl, he⟩ := mem_allExperts.mp hexpert
    obtain ⟨⟨rank, -, hat⟩, -⟩ := rankAt_spec hlength hall hl he
    rw [hat]
    refine List.nodup_range.map fun k k' h => ?_
    simp only [Prod.mk.injEq, true_and] at h
    exact (rankName_inj.mp h).1
  · refine (nodup_allExperts numLayers numExperts).imp fun {expert expert'} hne => ?_
    intro place h h'
    obtain ⟨k, -, rfl⟩ := List.mem_map.mp h
    obtain ⟨k', -, heq⟩ := List.mem_map.mp h'
    simp only [Prod.mk.injEq] at heq
    exact hne (Prod.ext heq.1.symm heq.2.1.symm)

omit hlength hall in
theorem Listed.length_shards :
    tables.shards.length = numLayers * numExperts * replicaCount input.targetParallelPlan := by
  rw [hlisted.shards, List.length_flatMap]
  simp [shardsOf, length_allExperts]

omit hlength hall in
theorem Listed.ranks_agree {l e : ℕ} (hl : l < numLayers) (he : e < numExperts) :
    tables.expertToTargetRanks.get? (expertKey l e) = some
      ((tables.shards.filter fun shard => shard.layerId = l ∧ shard.expertId = e).map
        ExpertShard.rankId) := by
  have hmem : (l, e) ∈ allExperts numLayers numExperts := mem_allExperts.mpr ⟨hl, he⟩
  have hfilter : (tables.shards.filter fun shard => shard.layerId = l ∧ shard.expertId = e) =
      shardsOf input l e (rankAt assignments (l, e)) := by
    rw [hlisted.shards]
    refine filter_flatMap_single (nodup_allExperts numLayers numExperts) hmem ?_ ?_
    · intro shard hshard
      obtain ⟨k, -, rfl⟩ := List.mem_map.mp hshard
      simp
    · intro expert _ hne shard hshard
      obtain ⟨k, -, rfl⟩ := List.mem_map.mp hshard
      refine decide_eq_false fun h => hne ?_
      exact Prod.ext h.1 h.2
  rw [hfilter, map_rankId_shardsOf, ← OrderedDict.mem_entries_iff, hlisted.replicas]
  exact List.mem_map.mpr ⟨(l, e), hmem, rfl⟩

omit hlength hall in
theorem Listed.ranks_only {key : String} (hkey : key ∈ tables.expertToTargetRanks.keys) :
    ∃ l < numLayers, ∃ e < numExperts, key = expertKey l e := by
  rw [OrderedDict.keys, hlisted.replicas, List.map_map] at hkey
  obtain ⟨⟨l, e⟩, hmem, rfl⟩ := List.mem_map.mp hkey
  obtain ⟨hl, he⟩ := mem_allExperts.mp hmem
  exact ⟨l, hl, e, he, rfl⟩

end Listing

/-- The planner gives the plan of a supported strategy for a model with layers and experts. -/
theorem build_eq (hlayers : 0 < input.topology.1) (hexperts : 0 < input.topology.2)
    {strategy : PlacementStrategy}
    (hstrategy : PlacementStrategy.ofName? (placementStrategyText input) = some strategy) :
    buildLogicalExpertPlacementPlan input = (supportedPlan input strategy).map some := by
  have htopology : input.topology ≠ (0, 0) := by
    intro h
    rw [h] at hlayers
    exact absurd hlayers (by simp)
  unfold buildLogicalExpertPlacementPlan
  rw [if_neg fun h => htopology h.1, if_neg (by omega), hstrategy]

/-- **No expert is lost.**  For a model with layers and experts, whatever the target plan, the
strategy, the hotness and the current placement are, the planner raises nothing and its plan is a
complete partition of the experts among the ranks of every replica. -/
theorem plan_complete (hlayers : 0 < input.topology.1) (hexperts : 0 < input.topology.2)
    {strategy : PlacementStrategy}
    (hstrategy : PlacementStrategy.ofName? (placementStrategyText input) = some strategy) :
    ∃ plan, buildLogicalExpertPlacementPlan input = .ok (some plan) ∧
      plan.placementStrategy = strategy ∧
      IsCompletePartition input.topology.1 input.topology.2
        (targetRankCount input.targetParallelPlan) (replicaCount input.targetParallelPlan) plan := by
  obtain ⟨plan, assignments, tables, hplan, hspec⟩ := supportedPlan_spec input strategy
  have hlength := hspec.length
  have hall := hspec.assignment
  have hlisted := hspec.listed
  have hbuild : buildLogicalExpertPlacementPlan input = .ok (some plan) := by
    rw [build_eq input hlayers hexperts hstrategy, hplan]
    rfl
  refine ⟨plan, hbuild, hspec.strategy, ?_⟩
  refine ⟨?_, ?_, ?_, ⟨?_, ?_⟩, ⟨?_, hspec.required⟩, ?_, ?_⟩
  · rw [hspec.shards]
    exact fun l hl e he k hk => hlisted.unique_rank hlength hall hl he hk
  · rw [hspec.shards]
    exact fun shard hshard => hlisted.in_range hlength hall hshard
  · rw [hspec.shards]
    exact hlisted.nodup_places hlength hall
  · rw [hspec.shards, hlisted.length_shards]
  · rw [hspec.shardCount, hlisted.length_shards]
  · rw [hspec.covered, hspec.required, hlisted.ranks, List.length_map, length_allExperts]
  · rw [hspec.replicas, hspec.shards]
    exact fun l hl e he => hlisted.ranks_agree hl he
  · rw [hspec.replicas]
    exact fun key hkey => hlisted.ranks_only hkey

/-- Two layers of three experts for two ranks and two replicas, without any observation. -/
def smallInput : PlannerInput where
  modelName := "moe"
  targetParallelPlan := [("sllm_replica_count", .int 2), ("enable_expert_parallel", .bool true),
    ("expert_parallel_size", .int 2)]
  plannerConfig := [("target_expert_placement_strategy", .str "hotness_locality")]
  backendConfig := []
  modelBackend := .str "vllm"
  placementEpoch := 0
  topology := (2, 3)
  moeHint := false
  currentSnapshot := .empty
  movementSource := "unavailable"
  hotnessSnapshot := ⟨"", true, "valid_hotness_snapshot",
    ⟨[("layer:0/expert:1", 1)], by decide⟩, 1 / 2⟩
  hotnessHistograms := []
  sourceRankSnapshot := (⟨[((1, 0, 2), 5)], by decide⟩, "recent_window_source_rank_expert_hotness")
  localityWeight := 1
  policy := {
    minimumImprovement := 0
    maxMovedExperts := 0
    maxMovedBytes := 0
    maxMovementCostMs := 0
    movementWeight := 0
    movementReferenceMs := 0
    cooldownS := 0
    lastChangeS := none
    snapshotTimeS := 0
    requireKnownMovement := true
    defaultWeightSize := none
    costs := ⟨0, 0, 0, 0⟩ }
  fingerprint := fun _ => "00000000"

theorem plan_complete_smallInput :
    PlacementStrategy.ofName? (placementStrategyText smallInput) = some .hotnessLocality ∧
      ∃ plan, buildLogicalExpertPlacementPlan smallInput = .ok (some plan) ∧
        plan.placementStrategy = .hotnessLocality ∧ IsCompletePartition 2 3 2 2 plan := by
  have hstrategy :
      PlacementStrategy.ofName? (placementStrategyText smallInput) = some .hotnessLocality := by
    decide +kernel
  exact ⟨hstrategy, plan_complete smallInput (by decide) (by decide) hstrategy⟩

end ExpertPlacement
end SpotServe
