import SpotServe.ExpertPlacement.Coverage
import SpotServe.ExpertRemap.Acceptance

/-!
# The planner's plans are ones the workers accept

The planner (`sllm/spot/moe_placement.py`) and the workers (`sllm/vllm_expert_remap.py`) agree only
through the texts of keys and rank names.  A plan for a group of `R` ranks that divides the number
of experts, and whose current placement is absent or even, passes every check that
`_layers_for_plan` makes on the contents of the plan, on every rank.

* `targetEpRank_rankName`: a worker reads the rank names that the planner writes.
* `Evenly`: what the map of a plan has to give.
* `planner_plans_accepted`: the contract.
-/

namespace SpotServe
namespace ExpertRemap

open Py Runs ExpertPlacement

/-! ## Reading a plan -/

/-- A worker reads the rank names that the planner writes. -/
theorem targetEpRank_rankName {rank epSize : ℕ} (h : rank < epSize) :
    targetEpRank (rankName 0 rank) epSize = .ok rank := by
  have htext : (rankName 0 rank).toList =
      "replica:0/".toList ++ ("ep-rank:".toList ++ (Nat.toDigits 10 rank ++ [])) := by
    rw [toList_rankName]
    rfl
  unfold targetEpRank
  rw [htext, matchLiteral_append, Option.getD_some]
  dsimp only
  rw [matchLiteral_append, Option.bind_some, readDigits_toDigits rank endsNumber_nil]
  exact if_pos h

/-- A plan of the planner as the workers get it.  The fields that the engines of a data parallel
group add, and the failure domains, come from elsewhere. -/
def ofPlacementPlan (plan : ExpertPlacementPlan) (dpEngineCoordinated : Bool) (dpEngineCount : ℤ)
    (requireCrossFailureDomain : Bool) : RemapPlan where
  liveExpertRemap := plan.liveExpertRemap
  sllmReplicaCount := plan.sllmReplicaCount
  expertPhysicalReplicationFactor := plan.expertPhysicalReplicationFactor
  expertToTargetRank := plan.expertToTargetRank
  placementFingerprint := plan.placementFingerprint
  targetRankCount := some plan.targetRankCount
  targetParallelPlan := plan.targetParallelPlan
  dpEngineCoordinated := dpEngineCoordinated
  dpEngineCount := dpEngineCount
  requireCrossNode := plan.requireCrossNode
  requireCrossFailureDomain := requireCrossFailureDomain

/-- The errors that the contents of a plan cause: its switches, its shape and its map.  The others
are about the worker, its modules and weights, or about a size that is not the worker's. -/
def RemapError.blamesPlan : RemapError → Bool
  | .liveExpertRemapNotRequested => true
  | .multipleReplicasNotSupported => true
  | .expertReplicationNotSupported => true
  | .expertToTargetRankRequired => true
  | .changingEpSizeNotSupported => true
  | .targetDisablesExpertParallel => true
  | .missingTargetExpert _ => true
  | .unsupportedTargetRank _ => true
  | .localExpertCountChange _ => true
  | .unexpectedTargetExperts => true
  | _ => false

section Even

variable {R L E : ℕ} {rankMap : OrderedDict String String}

/-- A map that gives each of `R` ranks the same number of the `E` experts of each of `L` layers, and
names nothing else. -/
structure Evenly (R L E : ℕ) (rankMap : OrderedDict String String) : Prop where
  keys : ∀ key, key ∈ rankMap.keys ↔ ∃ l < L, ∃ e < E, key = expertKey l e
  parse : ∀ entry ∈ rankMap.entries, ∃ rank < R, targetEpRank entry.2 R = .ok rank
  count : ∀ l < L, ∀ r < R, ∃ newLocal, newLocalIds rankMap R r l E = .ok newLocal ∧
    newLocal.length = E / R
  partition : ∀ l < L, ∀ e < E, ∃! r, r < R ∧
    ∃ newLocal, newLocalIds rankMap R r l E = .ok newLocal ∧ e ∈ newLocal

/-- The experts that a map gives a rank. -/
theorem newLocalIds_ok {r l : ℕ} (h : ∀ e < E, ∃ rank, targetOf rankMap R l e = .ok rank) :
    newLocalIds rankMap R r l E = .ok ((List.range E).filter fun e =>
      targetOf rankMap R l e = .ok r) := by
  obtain ⟨newLocal, hrun, -⟩ : ∃ newLocal, newLocalIds rankMap R r l E = .ok newLocal ∧ True := by
    refine foldlM_inv (fun _ _ => True) (fun done e rest newLocal hwhole _ => ?_) trivial
    have he : e ∈ List.range E := by rw [hwhole]; simp
    obtain ⟨rank, hrank⟩ := h e (List.mem_range.mp he)
    simp only [hrank, bind, Except.bind, pure, Except.pure]
    exact ⟨_, rfl, trivial⟩
  rw [← (newLocalIds_spec hrun).2]
  exact hrun

end Even

/-! ## The map of a plan -/

section Planned

variable {input : PlannerInput} {strategy : PlacementStrategy} {plan : ExpertPlacementPlan}
  {assignments : List (List ℤ)} {tables : PlanTables}
  (h : IsPlanFor input strategy plan assignments tables)
include h

/-- The rank that a worker reads for an expert is the one of the assignments. -/
theorem targetOf_plan {l e : ℕ} (hl : l < input.topology.1) (he : e < input.topology.2) :
    ∃ rank < targetRankCount input.targetParallelPlan, rankAt assignments (l, e) = (rank : ℤ) ∧
      targetOf plan.expertToTargetRank (targetRankCount input.targetParallelPlan) l e =
        .ok rank := by
  obtain ⟨rank, hlt, hrank⟩ : ∃ rank < targetRankCount input.targetParallelPlan,
      rankAt assignments (l, e) = ((rank : ℕ) : ℤ) :=
    (rankAt_spec h.length h.assignment hl he).1
  have hget : plan.expertToTargetRank.get? (expertKey l e) = some (rankName 0 rank) := by
    rw [← OrderedDict.mem_entries_iff, h.ranks, h.listed.ranks]
    exact List.mem_map.mpr ⟨(l, e), mem_allExperts.mpr ⟨hl, he⟩, by rw [hrank]⟩
  refine ⟨rank, hlt, hrank, ?_⟩
  unfold targetOf
  rw [hget]
  exact targetEpRank_rankName hlt

/-- An assignment of a layer, expert by expert. -/
theorem assignment_eq {l : ℕ} (hl : l < input.topology.1) :
    ∃ a ∈ assignments,
      a = (List.range input.topology.2).map fun e => rankAt assignments (l, e) := by
  have hlt : l < assignments.length := by rw [h.length]; exact hl
  have hmem := List.getElem_mem hlt
  have hlength := (h.assignment _ hmem).length
  refine ⟨assignments[l], hmem, List.ext_getElem (by simp [hlength]) fun e he he' => ?_⟩
  simp [rankAt, List.getElem?_eq_getElem hlt, List.getElem?_eq_getElem he]

theorem evenly_plan (hdvd : targetRankCount input.targetParallelPlan ∣ input.topology.2)
    (hcurrent : ∀ layerId < input.topology.1, ∀ a ∈ currentLayerAssignment input.currentSnapshot
      layerId input.topology.2 (targetRankCount input.targetParallelPlan),
      IsEven input.topology.2 (targetRankCount input.targetParallelPlan) a) :
    Evenly (targetRankCount input.targetParallelPlan) input.topology.1 input.topology.2
      plan.expertToTargetRank := by
  have hnew : ∀ l < input.topology.1, ∀ r, newLocalIds plan.expertToTargetRank
      (targetRankCount input.targetParallelPlan) r l input.topology.2 =
      .ok ((List.range input.topology.2).filter fun e => targetOf plan.expertToTargetRank
        (targetRankCount input.targetParallelPlan) l e = .ok r) := fun l hl r =>
    newLocalIds_ok fun e he => by
      obtain ⟨rank, -, -, htarget⟩ := targetOf_plan h hl he
      exact ⟨rank, htarget⟩
  constructor
  · intro key
    rw [h.ranks, OrderedDict.keys, h.listed.ranks, List.map_map, List.mem_map]
    constructor
    · rintro ⟨⟨l, e⟩, hmem, rfl⟩
      obtain ⟨hl, he⟩ := mem_allExperts.mp hmem
      exact ⟨l, hl, e, he, rfl⟩
    · rintro ⟨l, hl, e, he, rfl⟩
      exact ⟨(l, e), mem_allExperts.mpr ⟨hl, he⟩, rfl⟩
  · intro entry hentry
    rw [h.ranks, h.listed.ranks] at hentry
    obtain ⟨⟨l, e⟩, hmem, rfl⟩ := List.mem_map.mp hentry
    obtain ⟨hl, he⟩ := mem_allExperts.mp hmem
    obtain ⟨rank, hlt, hrank, -⟩ := targetOf_plan h hl he
    exact ⟨rank, hlt, by rw [hrank]; exact targetEpRank_rankName hlt⟩
  · intro l hl r hr
    refine ⟨_, hnew l hl r, ?_⟩
    obtain ⟨a, hmem, ha⟩ := assignment_eq h hl
    have heven := h.even hdvd hcurrent a hmem r hr
    rw [← heven, ha, List.count_eq_countP, List.countP_map, ← List.countP_eq_length_filter]
    refine List.countP_congr fun e he => ?_
    obtain ⟨rank, -, hrank, htarget⟩ := targetOf_plan h hl (List.mem_range.mp he)
    simp [htarget, hrank]
  · intro l hl e he
    obtain ⟨rank, hlt, -, htarget⟩ := targetOf_plan h hl he
    refine ⟨rank, ⟨hlt, _, hnew l hl rank, ?_⟩, ?_⟩
    · exact List.mem_filter.mpr ⟨List.mem_range.mpr he, decide_eq_true htarget⟩
    · rintro r ⟨-, newLocal, hrun, hmem⟩
      rw [hnew l hl r] at hrun
      obtain rfl := Except.ok.inj hrun
      have htarget' := of_decide_eq_true (List.mem_filter.mp hmem).2
      rw [htarget] at htarget'
      exact (Except.ok.inj htarget').symm

end Planned

/-! ## The checks of a worker -/

section Checks

variable {T O : Type} {R L E : ℕ} {plan : RemapPlan}

/-- A model whose MoE layers are `0, …, L - 1`, with `E` experts each. -/
structure HasMoeLayers (L E : ℕ) (model : Model T O) : Prop where
  within : ∀ entry ∈ fusedModules model,
    ∃ l < L, layerIdOf entry.1 = some l ∧ entry.2.2.globalNumExperts = E
  each : ∀ l < L, ∃ entry ∈ fusedModules model, layerIdOf entry.1 = some l

/-- What a plan has to ask for, besides its map. -/
structure AsksForRemap (R : ℕ) (plan : RemapPlan) : Prop where
  live : plan.liveExpertRemap = true
  replicas : plan.sllmReplicaCount = 1
  replication : plan.expertPhysicalReplicationFactor = 1
  ranks : ∀ count ∈ plan.targetRankCount, count = (R : ℤ)
  parallel : plan.targetParallelPlan.lookup "enable_expert_parallel" ≠ some (.bool false)

/-- A size that is refused is not one of the plan's map. -/
theorem checkSize_error {target : Dict} {field : String} {current : ℤ} {e : RemapError}
    (h : checkSize target field current = .error e) : e.blamesPlan = false := by
  unfold checkSize at h
  split at h
  · exact absurd h (by simp)
  · exact absurd h (by simp)
  · split at h
    · obtain rfl := Except.error.inj h
      rfl
    · obtain ⟨-, rfl⟩ := of_require_error h
      rfl

theorem checkLayout_error {r : ℕ} {m : FusedMoE T} {e : RemapError}
    (h : checkLayout R r plan m = .error e) : e.blamesPlan = false := by
  unfold checkLayout at h
  rcases of_bind_error h with h | ⟨_, -, h⟩
  · rw [(of_require_error h).2]; rfl
  rcases of_bind_error h with h | ⟨_, -, h⟩
  · rw [(of_require_error h).2]; rfl
  rcases of_bind_error h with h | ⟨_, -, h⟩
  · rw [(of_require_error h).2]; rfl
  rcases of_bind_error h with h | ⟨_, -, h⟩
  · rw [(of_require_error h).2]; rfl
  rcases of_bind_error h with h | ⟨_, -, h⟩
  · rw [(of_require_error h).2]; rfl
  rcases of_bind_error h with h | ⟨_, -, h⟩
  · exact checkSize_error h
  rcases of_bind_error h with h | ⟨_, -, h⟩
  · exact checkSize_error h
  rw [(of_require_error h).2]; rfl

theorem readSlot_error {localCount : ℕ} {slots : OldSlots} {entry : ℤ × ℕ} {e : RemapError}
    (h : readSlot localCount slots entry = .error e) : e = .invalidLocalExpertMap := by
  unfold readSlot at h
  split_ifs at h
  exact (Except.error.inj h).symm

theorem oldLocalIds_error {localCount : ℕ} {entries : List ℤ} {e : RemapError}
    (h : oldLocalIds localCount entries = .error e) : e.blamesPlan = false := by
  rcases of_bind_error h with h | ⟨slots, -, h⟩
  · obtain ⟨_, _, -, hread⟩ := of_foldlM_error h
    rw [readSlot_error hread]; rfl
  · rcases of_bind_error h with h | ⟨_, -, h⟩
    · rw [(of_require_error h).2]; rfl
    · exact absurd h (by simp [pure, Except.pure])

/-- The map of the plan gives a module as many experts as it has slots. -/
theorem layerOf_error (heven : Evenly R L E plan.expertToTargetRank) (hpos : 0 < R) {r l p : ℕ}
    (hr : r < R) (hl : l < L) {name : String} {m : FusedMoE T} (hid : layerIdOf name = some l)
    (hexperts : m.globalNumExperts = E) {e : RemapError}
    (h : layerOf R r plan name p m = .error e) : e.blamesPlan = false := by
  unfold layerOf at h
  simp only [hid] at h
  rcases of_bind_error h with h | ⟨_, hlayout, h⟩
  · exact checkLayout_error h
  have hlocal : m.localNumExperts = E / R := by
    rw [← hexperts, (checkLayout_ok hlayout).2, Nat.mul_div_cancel_left _ hpos]
  obtain ⟨newLocal, hnew, hlength⟩ := heven.count l hl r hr
  split at h
  · obtain rfl := Except.error.inj h
    rfl
  rcases of_bind_error h with h | ⟨_, -, h⟩
  · rw [(of_require_error h).2]; rfl
  rcases of_bind_error h with h | ⟨oldLocal, -, h⟩
  · exact oldLocalIds_error h
  rw [hexperts, hnew] at h
  rcases of_bind_error h with h | ⟨_, hok, h⟩
  · exact absurd h (by simp)
  obtain rfl := Except.ok.inj hok
  rcases of_bind_error h with h | ⟨_, -, h⟩
  · exact absurd (hlength.trans hlocal.symm) (of_require_error h).1
  rcases of_bind_error h with h | ⟨_, -, h⟩
  · rw [(of_require_error h).2]; rfl
  · exact absurd h (by simp [pure, Except.pure])

theorem checkPlan_error (hasks : AsksForRemap R plan) (hentries : plan.expertToTargetRank.entries ≠ [])
    {enabled available : Bool} {e : RemapError} (h : checkPlan enabled available R plan = .error e) :
    e.blamesPlan = false := by
  unfold checkPlan at h
  rcases of_bind_error h with h | ⟨_, -, h⟩
  · rw [(of_require_error h).2]; rfl
  rcases of_bind_error h with h | ⟨_, -, h⟩
  · exact absurd hasks.live (of_require_error h).1
  rcases of_bind_error h with h | ⟨_, -, h⟩
  · rw [(of_require_error h).2]; rfl
  rcases of_bind_error h with h | ⟨_, -, h⟩
  · exact absurd hasks.replicas (of_require_error h).1
  rcases of_bind_error h with h | ⟨_, -, h⟩
  · exact absurd hasks.replication (of_require_error h).1
  rcases of_bind_error h with h | ⟨_, -, h⟩
  · exact absurd hentries (of_require_error h).1
  rcases of_bind_error h with h | ⟨_, -, h⟩
  · rw [(of_require_error h).2]; rfl
  rcases of_bind_error h with h | ⟨_, -, h⟩
  · rw [(of_require_error h).2]; rfl
  rcases of_bind_error h with h | ⟨_, -, h⟩
  · exact absurd hasks.ranks (of_require_error h).1
  refine absurd ?_ (of_require_error h).1
  have hparallel := hasks.parallel
  cases hlookup : plan.targetParallelPlan.lookup "enable_expert_parallel" with
  | none => simp
  | some value =>
    rw [hlookup] at hparallel
    cases value with
    | bool b => cases b <;> simp_all
    | _ => simp

theorem checkLayers_error {layers : List (Layer T)}
    (hkeys : ∀ key ∈ plan.expertToTargetRank.keys, key ∈ layerKeys layers) {e : RemapError}
    (h : checkLayers plan layers = .error e) : e.blamesPlan = false := by
  unfold checkLayers at h
  rcases of_bind_error h with h | ⟨_, -, h⟩
  · rw [(of_require_error h).2]; rfl
  rcases of_bind_error h with h | ⟨_, -, h⟩
  · exact absurd hkeys (of_require_error h).1
  rcases of_bind_error h with h | ⟨_, -, h⟩
  · rw [(of_require_error h).2]; rfl
  rcases of_bind_error h with h | ⟨_, -, h⟩
  · rw [(of_require_error h).2]; rfl
  · exact absurd h (by simp [pure, Except.pure])

/-- **A worker never blames an even plan.** -/
theorem layersForPlan_error (heven : Evenly R L E plan.expertToTargetRank)
    (hasks : AsksForRemap R plan) (hL : 0 < L) (hE : 0 < E) {r : ℕ} (hr : r < R)
    {model : Model T O} (hmodel : HasMoeLayers L E model) {enabled : Bool} {e : RemapError}
    (h : layersForPlan enabled R r (some model) plan = .error e) : e.blamesPlan = false := by
  have hentries : plan.expertToTargetRank.entries ≠ [] := by
    intro hempty
    have hmem := (heven.keys (expertKey 0 0)).mpr ⟨0, hL, 0, hE, rfl⟩
    rw [OrderedDict.keys, hempty] at hmem
    exact absurd hmem (by simp)
  rcases of_bind_error h with h | ⟨_, -, h⟩
  · exact checkPlan_error hasks hentries h
  rcases of_bind_error h with h | ⟨layers, hlayers, h⟩
  · obtain ⟨⟨name, p, m⟩, hmem, h⟩ := of_mapM_error h
    obtain ⟨l, hl, hid, hexperts⟩ := hmodel.within _ hmem
    exact layerOf_error heven (by omega) hr hl hid hexperts h
  · refine checkLayers_error (fun key hkey => ?_) h
    obtain ⟨l, hl, expert, hexpert, rfl⟩ := (heven.keys key).mp hkey
    obtain ⟨⟨name, p, m⟩, hmem, hid⟩ := hmodel.each l hl
    obtain ⟨layer, hlayer, hlayerOf⟩ := exists_of_mem_left (forall₂_of_mapM_ok hlayers) hmem
    obtain ⟨rfl, -, rfl, hready⟩ := layerOf_ok hlayerOf
    obtain ⟨_, -, -, hexperts⟩ := hmodel.within _ hmem
    rw [hready.layerId, Option.some_inj] at hid
    refine List.mem_flatMap.mpr ⟨layer, hlayer, List.mem_map.mpr ⟨expert, ?_, by rw [hid]⟩⟩
    rw [List.mem_range]
    exact hexperts ▸ hexpert

end Checks

/-! ## The contract -/

/-- A plan that asks for two ranks or more does not switch expert parallelism off. -/
theorem lookup_of_two_ranks {plan : Dict} (h : 2 ≤ targetRankCount plan) :
    plan.lookup "enable_expert_parallel" ≠ some (.bool false) := by
  intro hlookup
  unfold targetRankCount at h
  rw [hlookup, Option.getD_some, if_neg (by decide)] at h
  exact absurd h (by decide)

section Contract

variable (input : PlannerInput)

/-- **The planner's plans are ones the workers accept.**  For a group of two ranks or more whose
size divides the number of experts, one replica, the live remap switched on, and a current placement
that is absent or even, and whatever the strategy, the hotness and the other inputs are: the map of
the plan is even, and no worker of the group refuses the plan for what it contains. -/
theorem planner_plans_accepted (hlayers : 0 < input.topology.1) (hexperts : 0 < input.topology.2)
    {strategy : PlacementStrategy}
    (hstrategy : PlacementStrategy.ofName? (placementStrategyText input) = some strategy)
    (hranks : 2 ≤ targetRankCount input.targetParallelPlan)
    (hdvd : targetRankCount input.targetParallelPlan ∣ input.topology.2)
    (hreplicas : replicaCount input.targetParallelPlan = 1)
    (hlive : configSwitch input.plannerConfig "enable_live_expert_remap" = true)
    (hcurrent : ∀ layerId < input.topology.1, ∀ a ∈ currentLayerAssignment input.currentSnapshot
      layerId input.topology.2 (targetRankCount input.targetParallelPlan),
      IsEven input.topology.2 (targetRankCount input.targetParallelPlan) a) :
    ∃ plan, buildLogicalExpertPlacementPlan input = .ok (some plan) ∧
      Evenly (targetRankCount input.targetParallelPlan) input.topology.1 input.topology.2
        plan.expertToTargetRank ∧
      ∀ (T O : Type) (enabled coordinated crossDomain : Bool) (engines : ℤ) (model : Model T O)
        (r : ℕ) (e : RemapError), r < targetRankCount input.targetParallelPlan →
        HasMoeLayers input.topology.1 input.topology.2 model →
        layersForPlan enabled (targetRankCount input.targetParallelPlan) r (some model)
          (ofPlacementPlan plan coordinated engines crossDomain) = .error e →
        e.blamesPlan = false := by
  obtain ⟨plan, assignments, tables, hplan, hspec⟩ := supportedPlan_spec input strategy
  have heven := evenly_plan hspec hdvd hcurrent
  refine ⟨plan, ?_, heven, ?_⟩
  · rw [build_eq input hlayers hexperts hstrategy, hplan]
    rfl
  · intro T O enabled coordinated crossDomain engines model r e hr hmodel h
    refine layersForPlan_error heven ⟨?_, ?_, ?_, ?_, ?_⟩ hlayers hexperts hr hmodel h
    · exact hspec.live.trans hlive
    · exact congrArg Nat.cast (hspec.replicaCount.trans hreplicas)
    · exact congrArg Nat.cast hspec.replication
    · intro count hcount
      obtain rfl := Option.some.inj hcount
      exact congrArg Nat.cast hspec.rankCount
    · rw [ofPlacementPlan, hspec.target]
      exact lookup_of_two_ranks hranks

end Contract

/-- One layer of four experts, at present dealt out to two ranks in turn. -/
def liveInput : PlannerInput :=
  { smallInput with
    targetParallelPlan := [("enable_expert_parallel", .bool true), ("expert_parallel_size", .int 2)]
    plannerConfig := [("target_expert_placement_strategy", .str "hotness_balanced"),
      ("enable_live_expert_remap", .bool true)]
    topology := (1, 4)
    currentSnapshot := [(0, "ep-rank:0"), (1, "ep-rank:1"), (2, "ep-rank:0"), (3, "ep-rank:1")].foldl
      (fun snapshot entry => snapshot.set (expertKey 0 entry.1) { rankId := entry.2 }) .empty }

theorem currentLayerAssignment_liveInput :
    currentLayerAssignment liveInput.currentSnapshot 0 4 2 = some [0, 1, 0, 1] := by
  decide +kernel

theorem planner_plans_accepted_liveInput :
    ∃ plan, buildLogicalExpertPlacementPlan liveInput = .ok (some plan) ∧
      Evenly 2 1 4 plan.expertToTargetRank := by
  have hcurrent : ∀ layerId < 1, ∀ a ∈ currentLayerAssignment liveInput.currentSnapshot layerId 4 2,
      IsEven 4 2 a := by
    intro layerId hlayer a ha
    obtain rfl : layerId = 0 := by omega
    rw [currentLayerAssignment_liveInput] at ha
    obtain rfl := Option.some.inj ha
    unfold IsEven
    decide
  have hstrategy :
      PlacementStrategy.ofName? (placementStrategyText liveInput) = some .hotnessBalanced := by
    decide +kernel
  obtain ⟨plan, hplan, heven, -⟩ := planner_plans_accepted liveInput (by decide) (by decide)
    hstrategy (by decide) (by decide) (by decide) (by decide +kernel) hcurrent
  exact ⟨plan, hplan, heven⟩

end ExpertRemap
end SpotServe
