import SpotServe.ExpertPlacement.Forecast
import SpotServe.ExpertRemap.Invisible
import SpotServe.ExpertRemap.PlannerContract

/-!
# The layers after a planned remap

A plan of the planner, carried out by the workers.  Nothing is assumed of the models: that the
workers have run the plan says that their group has the size that the planner reckoned with, and
their models the layers and experts.

* `remap_places`: every expert that a plan names is held by the rank that it names.
* `planned_layer`: a layer of the planner, as the ranks serve it.
-/

namespace SpotServe
namespace ExpertRemap

open Py Runs ExpertPlacement
open SparseA2A (ExpertMap)

variable {T O D : Type} {W : ℕ} [DecidableEq D] {rearrange : Rearrange W T} {digest : List T → D}
  {bump : ℕ} {enabled : Fin W → Bool} {hosts : Fin W → HostIdentity}
  {models models' : Fin W → Model T O}

/-- A group that has run a plan has the size that the plan names. -/
theorem remap_rankCount {plan : RemapPlan}
    (hrun : remapExpertWeights rearrange digest bump enabled hosts models plan = .ok models')
    (r : Fin W) {count : ℤ} (hcount : plan.targetRankCount = some count) : count = W := by
  obtain ⟨layers, hlayers, -⟩ := of_bind_ok hrun
  obtain ⟨_, hcheck, -⟩ := of_bind_ok (SparseA2A.of_everyRank_ok hlayers r)
  unfold checkPlan at hcheck
  obtain ⟨-, hcheck⟩ := of_require_bind hcheck
  obtain ⟨-, hcheck⟩ := of_require_bind hcheck
  obtain ⟨-, hcheck⟩ := of_require_bind hcheck
  obtain ⟨-, hcheck⟩ := of_require_bind hcheck
  obtain ⟨-, hcheck⟩ := of_require_bind hcheck
  obtain ⟨-, hcheck⟩ := of_require_bind hcheck
  obtain ⟨-, hcheck⟩ := of_require_bind hcheck
  obtain ⟨-, hcheck⟩ := of_require_bind hcheck
  obtain ⟨hranks, -⟩ := of_require_bind hcheck
  exact hranks count hcount

/-- **Where a remap puts an expert.**  A layer of which a plan names an expert serves after the
remap; it has the experts that the plan names, each on the rank that the plan names. -/
theorem remap_places {plan : RemapPlan} (hrearrange : Rearranges rearrange)
    (hrun : remapExpertWeights rearrange digest bump enabled hosts models plan = .ok models')
    (r₀ : Fin W) {l e : ℕ} (hkey : expertKey l e ∈ plan.expertToTargetRank.keys) :
    ∃ (E : ℕ) (group : Fin W → FusedMoE T) (maps : Fin W → ExpertMap),
      Serves models' l E group maps ∧ e < E ∧
      (∀ e' < E, expertKey l e' ∈ plan.expertToTargetRank.keys) ∧
      ∀ r, ∀ e' < E, (maps r).owns e' = true ↔
        targetOf plan.expertToTargetRank W l e' = .ok (r : ℕ) := by
  obtain ⟨layers, moved, haccepted, hcover, htransfer, rfl⟩ := remapExpertWeights_ok hrun
  have hlength := length_moved haccepted hrearrange hcover htransfer
  obtain ⟨layer, hlayer, hmem⟩ := List.mem_flatMap.mp ((haccepted r₀).keys _ hkey)
  obtain ⟨e', he', hsame⟩ := List.mem_map.mp hmem
  obtain ⟨rfl, rfl⟩ := expertKey_inj.mp hsame
  obtain ⟨i, row, hrow, rfl⟩ := exists_row haccepted hlayer
  obtain ⟨tensors, htensors⟩ := hrow.exists_tensors hlength
  have hcorrect := hrow.layerCorrect haccepted bump hcover hrearrange htransfer
    (fun r => hrow.index_eq haccepted r r₀) htensors
  obtain ⟨hserves, -⟩ := hrow.serves_after haccepted r₀ hlength htensors hcorrect
  refine ⟨_, _, _, hserves, List.mem_range.mp he', fun e he => ?_, fun r e he => ?_⟩
  · obtain ⟨rank, hrank⟩ := (newLocalIds_spec (hrow.ready haccepted r₀).new).1 e he
    rw [OrderedDict.mem_keys_iff]
    unfold targetOf at hrank
    split at hrank
    · exact absurd hrank (by simp)
    · exact ⟨_, ‹_›⟩
  · rw [owns_iff (hserves.map r)]
    exact hcorrect.target r e (by rwa [hrow.numExperts_eq haccepted r r₀])

section Planned

variable {input : PlannerInput} {strategy : PlacementStrategy} {plan : ExpertPlacementPlan}
  {assignments : List (List ℤ)} {tables : PlanTables}
  (h : IsPlanFor input strategy plan assignments tables) {coordinated crossDomain : Bool}
  {engines : ℤ}
include h

/-- The keys of a plan. -/
theorem mem_keys_plan {key : String} : key ∈ plan.expertToTargetRank.keys ↔
    ∃ l < input.topology.1, ∃ e < input.topology.2, key = expertKey l e := by
  rw [h.ranks, OrderedDict.keys, h.listed.ranks, List.map_map, List.mem_map]
  constructor
  · rintro ⟨⟨l, e⟩, hmem, rfl⟩
    obtain ⟨hl, he⟩ := mem_allExperts.mp hmem
    exact ⟨l, hl, e, he, rfl⟩
  · rintro ⟨l, hl, e, he, rfl⟩
    exact ⟨(l, e), mem_allExperts.mpr ⟨hl, he⟩, rfl⟩

/-- **A layer after a planned remap** serves with the experts that the planner knows, each on the
rank that the planner gave it. -/
theorem planned_layer (hrearrange : Rearranges rearrange)
    (hrun : remapExpertWeights rearrange digest bump enabled hosts models
      (ofPlacementPlan plan coordinated engines crossDomain) = .ok models') (r₀ : Fin W)
    {l : ℕ} (hl : l < input.topology.1) (hexperts : 0 < input.topology.2) :
    W = targetRankCount input.targetParallelPlan ∧
      ∃ (group : Fin W → FusedMoE T) (maps : Fin W → ExpertMap),
        Serves models' l input.topology.2 group maps ∧
        ∀ r, ∀ e < input.topology.2,
          ((maps r).owns e = true ↔ rankNumber assignments l e = (r : ℕ)) := by
  have hcount : W = targetRankCount input.targetParallelPlan := by
    rw [← h.rankCount]
    exact (Nat.cast_inj.mp (remap_rankCount hrun r₀ rfl)).symm
  refine ⟨hcount, ?_⟩
  have hnamed : ∀ e < input.topology.2, expertKey l e ∈ plan.expertToTargetRank.keys :=
    fun e he => (mem_keys_plan h).mpr ⟨l, hl, e, he, rfl⟩
  obtain ⟨E, group, maps, hserves, hlast, hall, howns⟩ := remap_places hrearrange hrun r₀
    (hnamed (input.topology.2 - 1) (by omega))
  have hfirst : ∀ e < E, e < input.topology.2 := by
    intro e he
    obtain ⟨l', -, e', he', hsame⟩ := (mem_keys_plan h).mp (hall e he)
    obtain ⟨-, rfl⟩ := expertKey_inj.mp hsame
    exact he'
  obtain rfl : E = input.topology.2 := by
    have := hfirst (E - 1) (by omega)
    omega
  refine ⟨group, maps, hserves, fun r e he => ?_⟩
  rw [howns r e he]
  obtain ⟨rank, -, hrank, htarget⟩ := targetOf_plan h hl he
  rw [← hcount] at htarget
  show targetOf plan.expertToTargetRank W l e = .ok (r : ℕ) ↔ _
  rw [htarget, rankNumber, hrank, Int.toNat_natCast, Except.ok.injEq]

end Planned

end ExpertRemap
end SpotServe
