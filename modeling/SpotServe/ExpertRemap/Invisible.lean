import SpotServe.ExpertRemap.Correctness
import SpotServe.SparseA2A.Equivalence

/-!
# Remaps are invisible to the model

A group of ranks alternates expert remaps with forward passes of its sparse MoE layers, in any
order.  Every layer has its own `SpotServeSparsePrepareAndFinalize` object on every rank, which
caches the owners of the experts under the address and the version of the rank's own expert map,
although the owners depend on the maps of all ranks.  A remap writes the maps of all layers on all
ranks, so that all caches become stale together.

* `Serves`: the experts of a layer are spread over the ranks.
* `remap_layer`: a remap takes a layer that serves to one that serves, with the same experts.
* `LayerInv`: what holds of a layer along every run.
* `remaps_invisible`: every pass has the outcome that it has when no remap ever took place.
-/

namespace SpotServe
namespace ExpertRemap

open Runs Segments Writes
open SparseA2A

variable {T O D : Type} {W : ℕ}

/-! ## A layer that serves -/

/-- Every expert of layer `l` is on exactly one rank, and no rank has them all. -/
structure Serves (models : Fin W → Model T O) (l E : ℕ) (group : Fin W → FusedMoE T)
    (maps : Fin W → ExpertMap) : Prop where
  layer : ∀ r, moeLayer (models r) l = some (group r)
  map : ∀ r, (group r).expertMap = some (maps r)
  length : ∀ r, (maps r).entries.length = E
  owners : UniqueOwners maps E
  elsewhere : ∀ r, ∃ e < E, (maps r).owns e = false

theorem owns_iff {m : FusedMoE T} {map : ExpertMap} (h : m.expertMap = some map) (e : ℕ) :
    map.owns e = true ↔ 0 ≤ slotOf m e := by
  unfold ExpertMap.owns slotOf
  rw [h, Option.bind_some, List.getD_eq_getElem?_getD, decide_eq_true_iff]

/-- The group and the maps of a layer are determined by the models. -/
theorem Serves.unique {models : Fin W → Model T O} {l E E' : ℕ} {group group' : Fin W → FusedMoE T}
    {maps maps' : Fin W → ExpertMap} (h : Serves models l E group maps)
    (h' : Serves models l E' group' maps') : group = group' ∧ maps = maps' := by
  have hgroup : group = group' := by
    funext r
    exact Option.some.inj ((h.layer r).symm.trans (h'.layer r))
  subst hgroup
  refine ⟨rfl, ?_⟩
  funext r
  exact Option.some.inj ((h.map r).symm.trans (h'.map r))

/-- A layer that serves holds every expert on one rank. -/
theorem Serves.resident {models : Fin W → Model T O} {l E : ℕ} {group : Fin W → FusedMoE T}
    {maps : Fin W → ExpertMap} (h : Serves models l E group maps) {e : ℕ} (he : e < E) :
    ∃ r, 0 ≤ slotOf (group r) e ∧ ∀ r', 0 ≤ slotOf (group r') e → r' = r := by
  obtain ⟨r, hr, hunique⟩ := h.owners e he
  exact ⟨r, (owns_iff (h.map r) e).mp hr, fun r' hr' => hunique r' ((owns_iff (h.map r') e).mpr hr')⟩

/-- From residency on one rank each, and something to hold everywhere. -/
theorem serves_of_resident {models : Fin W → Model T O} {l E : ℕ} {group : Fin W → FusedMoE T}
    {maps : Fin W → ExpertMap} (hlayer : ∀ r, moeLayer (models r) l = some (group r))
    (hmap : ∀ r, (group r).expertMap = some (maps r)) (hlength : ∀ r, (maps r).entries.length = E)
    (hresident : ∀ e < E, ∃! r : Fin W, 0 ≤ slotOf (group r) e)
    (hholds : ∀ r, ∃ e < E, 0 ≤ slotOf (group r) e) (htwo : 2 ≤ W) :
    Serves models l E group maps := by
  have hiff := fun r => owns_iff (hmap r)
  refine ⟨hlayer, hmap, hlength, fun e he => ?_, fun r => ?_⟩
  · obtain ⟨r, hr, hunique⟩ := hresident e he
    exact ⟨r, (hiff r e).mpr hr, fun r' hr' => hunique r' ((hiff r' e).mp hr')⟩
  · -- Another rank holds an expert, and so this one does not.
    obtain ⟨r', hne⟩ : ∃ r' : Fin W, r' ≠ r := by
      have : Nontrivial (Fin W) := Fin.nontrivial_iff_two_le.mpr htwo
      exact exists_ne r
    obtain ⟨e, he, hheld⟩ := hholds r'
    refine ⟨e, he, Bool.eq_false_iff.mpr fun hown => hne ?_⟩
    exact (hresident e he).unique hheld ((hiff r e).mp hown)

/-! ## What a remap does to a layer -/

/-- The module of a layer stands somewhere in the model. -/
theorem exists_of_moeLayer {model : Model T O} {l : ℕ} {m : FusedMoE T}
    (h : moeLayer model l = some m) :
    ∃ (p : ℕ) (name : String), model[p]? = some (name, .fusedMoE m) ∧ layerIdOf name = some l := by
  obtain ⟨⟨name, content⟩, hmem, hsome⟩ := List.exists_of_findSome?_eq_some h
  obtain ⟨p, hget⟩ := List.mem_iff_getElem?.mp hmem
  cases content with
  | other content => exact absurd hsome (by simp)
  | fusedMoE layer =>
    dsimp only at hsome
    split_ifs at hsome with hid
    obtain rfl := Option.some.inj hsome
    exact ⟨p, name, hget, hid⟩

section Layer

variable {plan : RemapPlan} {epSize epRank : ℕ} {model : Model T O} {layers : List (Layer T)}
  (h : Accepted epSize epRank plan model layers)
include h

/-- A layer that an accepted plan does not list is not in the model. -/
theorem Accepted.moeLayer_none {l : ℕ} (hl : l ∉ layers.map Layer.index) :
    moeLayer model l = none := by
  cases hm : moeLayer model l with
  | none => rfl
  | some m =>
    obtain ⟨p, name, hget, hid⟩ := exists_of_moeLayer hm
    obtain ⟨layer, hlayer, rfl, rfl, rfl⟩ := h.layer_at hget
    rw [(h.ready layer hlayer).layerId, Option.some_inj] at hid
    exact absurd (List.mem_map.mpr ⟨layer, hlayer, hid⟩) hl

theorem Accepted.moeLayer_none_after (bump : ℕ) {weights : Weights T}
    (hlength : weights.length = layers.length) {l : ℕ} (hl : l ∉ layers.map Layer.index) :
    moeLayer (updatedModel bump model layers weights) l = none := by
  cases hm : moeLayer (updatedModel bump model layers weights) l with
  | none => rfl
  | some m =>
    obtain ⟨p, name, hget, hid⟩ := exists_of_moeLayer hm
    by_cases hp : p ∈ layers.map Layer.position
    · obtain ⟨layer, hlayer, rfl⟩ := List.mem_map.mp hp
      obtain ⟨i, hi⟩ := List.mem_iff_getElem?.mp hlayer
      have hlt : i < weights.length := by
        rw [hlength]
        exact (List.getElem?_eq_some_iff.mp hi).1
      rw [h.updatedModel_layer bump hlength hi (List.getElem?_eq_getElem hlt)] at hget
      cases hget
      rw [(h.ready layer hlayer).layerId, Option.some_inj] at hid
      exact absurd (List.mem_map.mpr ⟨layer, hlayer, hid⟩) hl
    · rw [updatedModel_outside bump hlength hp] at hget
      obtain ⟨layer, hlayer, rfl, -⟩ := h.layer_at hget
      exact absurd (List.mem_map.mpr ⟨layer, hlayer, rfl⟩) hp

end Layer

section Group

variable {plan : RemapPlan} {models : Fin W → Model T O} {layers : Fin W → List (Layer T)}
  (haccepted : ∀ r : Fin W, Accepted W r plan (models r) (layers r))
  (hcover : ∀ r, coversExperts (layers r) (oldIndices layers r))
include haccepted hcover

/-- The layers of an accepted plan serve before the remap. -/
theorem IsRow.serves_before {i : ℕ} {row : Fin W → Layer T} (h : IsRow layers i row) (r₀ : Fin W) :
    Serves models (row r₀).index (row r₀).module.globalNumExperts (fun r => (row r).module)
      fun r => (row r).expertMap := by
  have hexperts := fun r => h.numExperts_eq haccepted r r₀
  have hholder : ∀ {r : Fin W} {e : ℕ}, 0 ≤ slotOf (row r).module e →
      (row r).oldLocalIds[(slotOf (row r).module e).toNat]? = some e := fun {r e} hpos =>
    (h.slotOf_before haccepted r e _).mp (Int.toNat_of_nonneg hpos).symm
  refine serves_of_resident (fun r => ?_) (fun r => (h.ready haccepted r).expertMap)
    (fun r => (h.ready haccepted r).map_length.trans (hexperts r)) (fun e he => ?_) (fun r => ?_)
    (haccepted r₀).two_ranks
  · rw [← h.index_eq haccepted r r₀]
    exact (haccepted r).moeLayer_before (h.mem r)
  · obtain ⟨r, s, hold⟩ := h.exists_holder hcover r₀ he
    have hslot := (h.slotOf_before haccepted r e s).mpr hold
    refine ⟨r, ?_, fun r' hr' => ?_⟩
    · show 0 ≤ slotOf (row r).module e
      rw [hslot]
      exact Int.natCast_nonneg s
    · exact (h.holder_unique haccepted hcover (hholder hr') hold).1
  · have hpos : 0 < (row r).oldLocalIds.length := by
      rw [(h.ready haccepted r).length_old]
      exact (h.ready haccepted r).local_pos
    have hslot := (h.slotOf_before haccepted r _ 0).mpr (List.getElem?_eq_getElem hpos)
    refine ⟨(row r).oldLocalIds[0], ?_, hslot.symm ▸ Int.natCast_nonneg 0⟩
    rw [← List.mem_range, ← (h.covered hcover r₀).mem_iff]
    exact List.mem_flatMap.mpr ⟨r, List.mem_finRange r, List.getElem_mem hpos⟩

omit hcover in
/-- They serve after it, and have the same weights. -/
theorem IsRow.serves_after {bump : ℕ} {moved : Fin W → Weights T} {i : ℕ} {row : Fin W → Layer T}
    (h : IsRow layers i row) (r₀ : Fin W) {tensors : Fin W → List (List T)}
    (hlength : ∀ r, (moved r).length = (layers r).length)
    (htensors : ∀ r, (moved r)[i]? = some (tensors r))
    (hcorrect : LayerCorrect plan (row r₀).index (fun r => (row r).module)
      fun r => updatedModule bump (row r) (tensors r)) :
    Serves (fun r => updatedModel bump (models r) (layers r) (moved r)) (row r₀).index
        (row r₀).module.globalNumExperts (fun r => updatedModule bump (row r) (tensors r))
        (fun r => updatedMap bump (row r)) ∧
      ∀ e < (row r₀).module.globalNumExperts,
        expertWeights (fun r => updatedModule bump (row r) (tensors r)) e =
          expertWeights (fun r => (row r).module) e := by
  have hexperts := fun r => h.numExperts_eq haccepted r r₀
  have hresident := hcorrect.resident r₀
  refine ⟨serves_of_resident (fun r => ?_) (fun r => rfl) (fun r => ?_) hresident (fun r => ?_)
    (haccepted r₀).two_ranks, fun e he => ?_⟩
  · rw [← h.index_eq haccepted r r₀]
    exact (haccepted r).moeLayer_after bump (hlength r) (h r) (htensors r)
  · rw [updatedMap, length_writeAll, List.length_replicate, ← hexperts r]
    exact (h.ready haccepted r).map_length
  · obtain ⟨e, ⟨he, hslot⟩, -⟩ := hcorrect.slots r 0 (h.ready haccepted r).local_pos
    refine ⟨e, (hexperts r) ▸ he, ?_⟩
    show 0 ≤ slotOf (updatedModule bump (row r) (tensors r)) e
    rw [hslot]
    exact Int.natCast_nonneg 0
  · obtain ⟨r, hr, hunique⟩ := hresident e he
    have hslot := (Int.toNat_of_nonneg hr).symm
    rw [expertWeights_eq hslot hunique]
    exact hcorrect.holds r e _ hslot

end Group

variable [DecidableEq D] {rearrange : Rearrange W T} {digest : List T → D} {bump : ℕ}
  {enabled : Fin W → Bool} {hosts : Fin W → HostIdentity}

/-- **What a remap does to a layer.**  Either no rank has the layer, or it serves before and after,
with the same experts; the versions of all its maps have grown. -/
theorem remap_layer (hrearrange : Rearranges rearrange) {models models' : Fin W → Model T O}
    {plan : RemapPlan}
    (hrun : remapExpertWeights rearrange digest bump enabled hosts models plan = .ok models')
    (l : ℕ) :
    (∀ r, moeLayer (models r) l = none ∧ moeLayer (models' r) l = none) ∨
      ∃ (E : ℕ) (group group' : Fin W → FusedMoE T) (maps maps' : Fin W → ExpertMap),
        Serves models l E group maps ∧ Serves models' l E group' maps' ∧
        (∀ r, (maps' r).version = (maps r).version + bump) ∧
        ∀ e < E, expertWeights group' e = expertWeights group e := by
  obtain ⟨layers, moved, haccepted, hcover, htransfer, rfl⟩ := remapExpertWeights_ok hrun
  have hlength := length_moved haccepted hrearrange hcover htransfer
  by_cases hl : ∃ r : Fin W, l ∈ (layers r).map Layer.index
  · obtain ⟨r₀, hl⟩ := hl
    obtain ⟨layer, hlayer, rfl⟩ := List.mem_map.mp hl
    obtain ⟨i, row, hrow, rfl⟩ := exists_row haccepted hlayer
    obtain ⟨tensors, htensors⟩ := hrow.exists_tensors hlength
    have hcorrect := hrow.layerCorrect haccepted bump hcover hrearrange htransfer
      (fun r => hrow.index_eq haccepted r r₀) htensors
    obtain ⟨hserves, hweights⟩ :=
      hrow.serves_after haccepted r₀ hlength htensors hcorrect
    exact Or.inr ⟨_, _, _, _, _, hrow.serves_before haccepted hcover r₀, hserves, fun r => rfl,
      hweights⟩
  · refine Or.inl fun r => ?_
    have hnot : l ∉ (layers r).map Layer.index := fun hmem => hl ⟨r, hmem⟩
    exact ⟨(haccepted r).moeLayer_none hnot,
      (haccepted r).moeLayer_none_after bump (hlength r) hnot⟩

/-! ## A pass that succeeds -/

section Success

variable {R V : Type} {k E : ℕ}

theorem uniqueOwners_of_coverage {maps : Fin W → ExpertMap}
    (h : ∀ e < E, coverage maps e = 1) : UniqueOwners maps E := by
  intro e he
  have hcount := h e he
  rw [coverage, List.countP_eq_length_filter] at hcount
  obtain ⟨r, hr⟩ := List.length_eq_one_iff.mp hcount
  have hmem : ∀ r', (maps r').owns e = true ↔ r' = r := by
    intro r'
    have hfilter : r' ∈ [r] ↔ _ := hr ▸ List.mem_filter
    rw [List.mem_singleton] at hfilter
    rw [hfilter]
    exact ⟨fun h => ⟨List.mem_finRange r', h⟩, fun h => h.2⟩
  exact ⟨r, (hmem r).mpr rfl, fun r' hr' => (hmem r').mp hr'⟩

/-- What `_expert_owners` leaves in the caches. -/
theorem expertOwners_ok {states states' : Fin W → RankState W} {maps : Fin W → ExpertMap}
    {owners : Fin W → List ℕ} (h : expertOwners states maps E = .ok (owners, states')) (r : Fin W) :
    (states' r).ownerCacheKey = (states r).ownerCacheKey ∨
      (states' r).ownerCacheKey = some ((maps r).dataPtr, (maps r).version) := by
  unfold expertOwners at h
  split_ifs at h with hhit hmiss
  · cases h
    exact Or.inl rfl
  · split at h
    · exact absurd h (by simp)
    · cases h
      exact Or.inr rfl

/-- New objects have to gather the owners. -/
theorem expertOwners_new {states states' : Fin W → RankState W} {maps : Fin W → ExpertMap}
    {owners : Fin W → List ℕ} (hnew : ∀ r, states r = {}) (r₀ : Fin W)
    (h : expertOwners states maps E = .ok (owners, states')) : UniqueOwners maps E := by
  have hnone : ∀ r, cachedOwners (states r) (maps r) = none := fun r => by rw [hnew r]; rfl
  unfold expertOwners at h
  rw [if_neg fun hhit => by simpa [hnone r₀] using hhit r₀,
    if_pos fun r => by rw [hnone r]; rfl] at h
  unfold gatherOwners at h
  split_ifs at h with hcoverage
  exact uniqueOwners_of_coverage hcoverage

theorem checkInput_ok {state : RankState W} {input : PrepareInput R V k E} {m : ExpertMap}
    (h : checkInput state input = .ok m) :
    input.expertMap = some m ∧ m.entries.length = E ∧
      (input.applyRouterWeightOnInput = true → k = 1) := by
  unfold checkInput at h
  cases hmap : input.expertMap with
  | none =>
    rw [hmap] at h
    split_ifs at h
  | some m' =>
    simp only [hmap] at h
    split_ifs at h with _ hlength _ hweight
    obtain rfl := Except.ok.inj h
    refine ⟨rfl, not_not.mp hlength, fun honInput => ?_⟩
    by_contra hk
    exact hweight ⟨honInput, hk⟩

theorem maskIds_ok {m : ExpertMap} {ids masked : List (Fin k → Fin E)}
    (h : maskIds m ids = .ok masked) : ∃ e < E, m.owns e = false := by
  unfold maskIds at h
  split at h
  · exact absurd h (by simp)
  next sentinel rest hfilter =>
    have hmem : sentinel ∈ (List.finRange E).filter fun e : Fin E => !m.owns e := by
      rw [hfilter]
      exact List.mem_cons_self
    exact ⟨sentinel, sentinel.isLt, by simpa using (List.mem_filter.mp hmem).2⟩

/-- **What a pass that succeeds has checked**, and what it leaves in the caches. -/
theorem forward_ok [AddCommMonoid V] [SMul R V] {slots : Fin W → ℕ → V → V}
    {states states' : Fin W → RankState W} {inputs : Fin W → PrepareInput R V k E}
    {outputs : Fin W → List V} (h : forward slots states inputs = .ok (outputs, states')) :
    ∃ (maps : Fin W → ExpertMap) (owners : Fin W → List ℕ) (states₁ : Fin W → RankState W),
      (∀ r, checkInput (states r) (inputs r) = .ok (maps r)) ∧
      expertOwners states maps E = .ok (owners, states₁) ∧
      (∀ r, ∃ e < E, (maps r).owns e = false) ∧
      ∀ r, (states' r).ownerCacheKey = (states₁ r).ownerCacheKey := by
  obtain ⟨⟨dispatched, states₂⟩, hprepare, h⟩ := of_bind_ok h
  obtain ⟨maps, hmaps, hprepare⟩ := of_bind_ok hprepare
  obtain ⟨⟨owners, states₁⟩, howners, hprepare⟩ := of_bind_ok hprepare
  obtain ⟨_, -, hprepare⟩ := of_bind_ok hprepare
  obtain ⟨_, -, hprepare⟩ := of_bind_ok hprepare
  obtain ⟨_, -, hprepare⟩ := of_bind_ok hprepare
  obtain ⟨_, -, hprepare⟩ := of_bind_ok hprepare
  obtain ⟨masked, hmasked, hprepare⟩ := of_bind_ok hprepare
  obtain ⟨-, rfl⟩ := Prod.mk.inj (Except.ok.inj hprepare)
  obtain ⟨_, -, h⟩ := of_bind_ok h
  obtain ⟨_, -, h⟩ := of_bind_ok h
  obtain ⟨-, rfl⟩ := Prod.mk.inj (Except.ok.inj h)
  exact ⟨maps, owners, states₁, of_everyRank_ok hmaps, howners,
    fun r => maskIds_ok (of_everyRank_ok hmasked r), fun r => rfl⟩

end Success

/-! ## Runs -/

/-- The ranks with their models, and the sparse dispatch objects of each layer. -/
structure RankGroup (T O : Type) (W : ℕ) where
  models : Fin W → Model T O
  objects : ℕ → Fin W → RankState W

/-- A group whose objects are new. -/
def RankGroup.new (models : Fin W → Model T O) : RankGroup T O W := ⟨models, fun _ _ => {}⟩

/-- The group with other objects for a layer. -/
def RankGroup.setObjects (g : RankGroup T O W) (l : ℕ) (states : Fin W → RankState W) :
    RankGroup T O W :=
  { g with objects := Function.update g.objects l states }

@[simp] theorem RankGroup.setObjects_models (g : RankGroup T O W) (l : ℕ)
    (states : Fin W → RankState W) : (g.setObjects l states).models = g.models := rfl

@[simp] theorem RankGroup.setObjects_self (g : RankGroup T O W) (l : ℕ)
    (states : Fin W → RankState W) : (g.setObjects l states).objects l = states :=
  Function.update_self _ _ _

theorem RankGroup.setObjects_of_ne (g : RankGroup T O W) {l l' : ℕ} (h : l' ≠ l)
    (states : Fin W → RankState W) : (g.setObjects l states).objects l' = g.objects l' :=
  Function.update_of_ne h _ _

/-- A forward pass of one layer, with the rows of all ranks. -/
structure Pass (R V : Type) (W : ℕ) where
  layer : ℕ
  topk : ℕ
  numExperts : ℕ
  onInput : Bool
  rows : Fin W → List (TokenRow R V topk numExperts)

/-- What a group does. -/
inductive GroupAction (R V : Type) (W : ℕ) where
  | remap (plan : RemapPlan)
  | pass (pass : Pass R V W)

section Machine

variable {R V : Type} [AddCommMonoid V] [SMul R V] (kernel : List (Option T) → V → V)

/-- What `prepare` gets on a rank. -/
def RankGroup.inputs (g : RankGroup T O W) (pass : Pass R V W) (r : Fin W) :
    PrepareInput R V pass.topk pass.numExperts where
  rows := pass.rows r
  expertMap := (moeLayer (g.models r) pass.layer).bind FusedMoE.expertMap
  applyRouterWeightOnInput := pass.onInput

/-- The expert in a slot, which the kernel computes from the rows of the slot. -/
def RankGroup.slots (g : RankGroup T O W) (l : ℕ) (r : Fin W) (s : ℕ) : V → V :=
  kernel (((moeLayer (g.models r) l).map fun m => rowsAt m s).getD [])

/-- A pass: the outputs, and the objects after it. -/
def RankGroup.run (g : RankGroup T O W) (pass : Pass R V W) :
    Except SparseError ((Fin W → List V) × (Fin W → RankState W)) :=
  forward (g.slots kernel pass.layer) (g.objects pass.layer) (g.inputs pass)

/-- What a pass gives to the model. -/
def RankGroup.outcome (g : RankGroup T O W) (pass : Pass R V W) :
    Except SparseError (Fin W → List V) :=
  (g.run kernel pass).map Prod.fst

/-- Whether a rank has an expert of a layer at present. -/
def RankGroup.holds (g : RankGroup T O W) (l : ℕ) (r : Fin W) (e : ℕ) : Prop :=
  ∃ m, moeLayer (g.models r) l = some m ∧ 0 ≤ slotOf m e

/-- A remap that all ranks accept, or a pass. -/
def RankGroup.step (rearrange : Rearrange W T) (digest : List T → D) (bump : ℕ)
    (enabled : Fin W → Bool) (hosts : Fin W → HostIdentity) (g : RankGroup T O W) :
    GroupAction R V W → Option (RankGroup T O W)
  | .remap plan =>
    (remapExpertWeights rearrange digest bump enabled hosts g.models plan).toOption.map
      fun models => { g with models := models }
  | .pass pass =>
    (g.run kernel pass).toOption.map fun result => g.setObjects pass.layer result.2

end Machine

/-! ## The invariant of a layer -/

/-- A layer with which nothing has happened yet. -/
structure Untouched (models₀ : Fin W → Model T O) (g : RankGroup T O W) (l : ℕ) : Prop where
  layer : ∀ r, moeLayer (g.models r) l = moeLayer (models₀ r) l
  objects : ∀ r, g.objects l r = {}

/-- A layer that serves: it has the experts that it had at the start, and the caches are for the
present maps on all ranks or on none. -/
structure LayerInv (models₀ : Fin W → Model T O) (g : RankGroup T O W) (l E : ℕ)
    (group₀ group : Fin W → FusedMoE T) (maps₀ maps : Fin W → ExpertMap) : Prop where
  before : Serves models₀ l E group₀ maps₀
  now : Serves g.models l E group maps
  coherent : Coherent maps E (g.objects l)
  keys : ∀ r, ∀ key ∈ (g.objects l r).ownerCacheKey, key.2 ≤ (maps r).version
  weights : ∀ e < E, expertWeights group e = expertWeights group₀ e

/-- Every layer is untouched or serves. -/
def GroupInv (models₀ : Fin W → Model T O) (g : RankGroup T O W) : Prop :=
  ∀ l, Untouched models₀ g l ∨
    ∃ E group₀ group maps₀ maps, LayerInv models₀ g l E group₀ group maps₀ maps

theorem groupInv_new (models₀ : Fin W → Model T O) : GroupInv models₀ (RankGroup.new models₀) :=
  fun _ => Or.inl ⟨fun _ => rfl, fun _ => rfl⟩

/-- An untouched layer that serves satisfies the invariant. -/
theorem Untouched.layerInv {models₀ : Fin W → Model T O} {g : RankGroup T O W} {l E : ℕ}
    {group : Fin W → FusedMoE T} {maps : Fin W → ExpertMap} (h : Untouched models₀ g l)
    (hserves : Serves g.models l E group maps) : LayerInv models₀ g l E group group maps maps := by
  refine ⟨⟨fun r => ?_, hserves.map, hserves.length, hserves.owners, hserves.elsewhere⟩, hserves,
    ⟨fun r => by rw [h.objects r], Or.inl fun r => by rw [h.objects r]; rfl⟩, fun r key hkey => ?_,
    fun e _ => rfl⟩
  · rw [← h.layer r]
    exact hserves.layer r
  · rw [h.objects r] at hkey
    exact absurd hkey (by simp)

section Remap

variable {models₀ : Fin W → Model T O} {g : RankGroup T O W}

/-- A remap makes the caches of all ranks stale together. -/
theorem LayerInv.after_remap {models' : Fin W → Model T O} {l E : ℕ}
    {group₀ group group' : Fin W → FusedMoE T} {maps₀ maps maps' : Fin W → ExpertMap}
    (h : LayerInv models₀ g l E group₀ group maps₀ maps) (hbump : 0 < bump)
    (hserves : Serves models' l E group' maps')
    (hversion : ∀ r, (maps' r).version = (maps r).version + bump)
    (hweights : ∀ e < E, expertWeights group' e = expertWeights group e) :
    LayerInv models₀ { g with models := models' } l E group₀ group' maps₀ maps' := by
  refine ⟨h.before, hserves, ⟨h.coherent.idle, Or.inl fun r => ?_⟩, fun r key hkey => ?_,
    fun e he => (hweights e he).trans (h.weights e he)⟩
  · refine if_neg fun hkey => ?_
    have hle := h.keys r _ hkey
    rw [hversion r] at hle
    omega
  · rw [hversion r]
    exact Nat.le_add_right_of_le (h.keys r key hkey)

theorem GroupInv.after_remap (hinv : GroupInv models₀ g) (hrearrange : Rearranges rearrange)
    (hbump : 0 < bump) {models' : Fin W → Model T O} {plan : RemapPlan}
    (hrun : remapExpertWeights rearrange digest bump enabled hosts g.models plan = .ok models') :
    GroupInv models₀ { g with models := models' } := by
  intro l
  rcases isEmpty_or_nonempty (Fin W) with hempty | ⟨⟨r₀⟩⟩
  · exact Or.inl ⟨fun r => hempty.elim r, fun r => hempty.elim r⟩
  rcases remap_layer hrearrange hrun l with hnone |
    ⟨E, group, group', maps, maps', hserves, hserves', hversion, hweights⟩
  · rcases hinv l with huntouched | ⟨E, group₀, group, maps₀, maps, h⟩
    · refine Or.inl ⟨fun r => ?_, huntouched.objects⟩
      rw [← huntouched.layer r, (hnone r).1]
      exact (hnone r).2
    · have hlayer := h.now.layer r₀
      rw [(hnone r₀).1] at hlayer
      exact absurd hlayer (by simp)
  · rcases hinv l with huntouched | ⟨E₁, group₀, group₁, maps₀, maps₁, h⟩
    · exact Or.inr ⟨E, _, _, _, _,
        (huntouched.layerInv hserves).after_remap hbump hserves' hversion hweights⟩
    · obtain ⟨rfl, rfl⟩ := hserves.unique h.now
      obtain rfl : E₁ = E := (h.now.length r₀).symm.trans (hserves.length r₀)
      exact Or.inr ⟨E₁, _, _, _, _, h.after_remap hbump hserves' hversion hweights⟩

end Remap

/-! ## Passes -/

section Passes

variable {R V : Type} [Semiring R] [AddCommMonoid V] [Module R V]
  {kernel : List (Option T) → V → V} {models₀ : Fin W → Model T O} {g : RankGroup T O W}
  {pass : Pass R V W} {group : Fin W → FusedMoE T} {maps : Fin W → ExpertMap}

omit [Semiring R] [AddCommMonoid V] [Module R V] in
theorem Serves.inputs_eq {E : ℕ} (h : Serves g.models pass.layer E group maps) :
    g.inputs pass = layerInputs maps pass.onInput pass.rows := by
  funext r
  unfold RankGroup.inputs layerInputs
  rw [h.layer r, Option.bind_some, h.map r]

/-- The experts of a layer, from their weights. -/
def layerExperts (kernel : List (Option T) → V → V) (group : Fin W → FusedMoE T) (E : ℕ)
    (e : Fin E) : V → V :=
  kernel (expertWeights group e)

omit [AddCommMonoid V] in
/-- The slots hold the experts that the maps name. -/
theorem Serves.resident_slots {l E : ℕ} (h : Serves g.models l E group maps) :
    Resident maps (g.slots kernel l) (layerExperts kernel group E) := by
  intro r e hown
  have hpos := (owns_iff (h.map r) e).mp hown
  have hslot : slotOf (group r) e = ((slotOf (group r) e).toNat : ℤ) :=
    (Int.toNat_of_nonneg hpos).symm
  have hentry : ((maps r).entries.getD e (-1)).toNat = (slotOf (group r) e).toNat := by
    rw [slotOf, h.map r, Option.bind_some, List.getD_eq_getElem?_getD]
  have hweights : expertWeights group e = rowsAt (group r) (slotOf (group r) e).toNat := by
    refine expertWeights_eq hslot fun r' hr' => ?_
    exact (h.owners e e.isLt).unique ((owns_iff (h.map r') e).mpr hr') hown
  rw [layerExperts, hweights, hentry, RankGroup.slots, h.layer r, Option.map_some,
    Option.getD_some]

variable (kernel) in
/-- **A pass of a layer that serves** computes the dense layer. -/
theorem Serves.run_eq (h : Serves g.models pass.layer pass.numExperts group maps)
    (hcoherent : Coherent maps pass.numExperts (g.objects pass.layer))
    (honInput : pass.onInput = true → pass.topk = 1) :
    ∃ states', Coherent maps pass.numExperts states' ∧
      g.run kernel pass = .ok (fun r => (pass.rows r).map
        (denseMoE (layerExperts kernel group pass.numExperts) pass.onInput), states') := by
  unfold RankGroup.run
  rw [h.inputs_eq]
  exact forward_eq_dense maps _ _ pass.onInput pass.rows _ hcoherent h.length h.owners h.elsewhere
    h.resident_slots honInput

theorem everyRank_error {ε α : Type} {f : Fin W → Except ε α} {e : ε} (h : ∀ r, f r = .error e)
    (r₀ : Fin W) : everyRank f = .error e := by
  cases W with
  | zero => exact r₀.elim0
  | succ n =>
    unfold everyRank
    rw [h 0]

/-- A pass that a layer refuses: the wrong number of experts, or a weight on the input of more than
one expert. -/
theorem Serves.run_refused {E : ℕ} (h : Serves g.models pass.layer E group maps)
    (hidle : ∀ r, (g.objects pass.layer r).state = none) (r₀ : Fin W)
    (hrefused : ¬ (E = pass.numExperts ∧ (pass.onInput = true → pass.topk = 1))) :
    g.run kernel pass = .error (if E = pass.numExperts then .weightOnInputRequiresTopkOne
      else .requiresGlobalExpertMap) := by
  have hcheck : ∀ r, checkInput (g.objects pass.layer r) (g.inputs pass r) =
      .error (if E = pass.numExperts then .weightOnInputRequiresTopkOne
        else .requiresGlobalExpertMap) := by
    intro r
    rw [h.inputs_eq]
    unfold checkInput layerInputs
    simp only [h.length r, hidle r]
    by_cases hE : E = pass.numExperts
    · have hweight : pass.onInput = true ∧ pass.topk ≠ 1 := by
        by_contra hnot
        exact hrefused ⟨hE, fun hon => by by_contra hk; exact hnot ⟨hon, hk⟩⟩
      simp [hE, hweight]
    · simp [hE]
  unfold RankGroup.run forward prepare
  rw [everyRank_error hcheck r₀]
  rfl

/-- A layer of which a pass succeeds with new objects serves. -/
theorem exists_serves (hnew : ∀ r, g.objects pass.layer r = {}) (r₀ : Fin W)
    {outputs : Fin W → List V} {states' : Fin W → RankState W}
    (hrun : g.run kernel pass = .ok (outputs, states')) :
    ∃ group maps, Serves g.models pass.layer pass.numExperts group maps := by
  obtain ⟨maps, owners, states₁, hcheck, howners, helsewhere, -⟩ := forward_ok hrun
  have hgroup : ∀ r, ∃ m, moeLayer (g.models r) pass.layer = some m ∧ m.expertMap = some (maps r) :=
    fun r => Option.bind_eq_some_iff.mp (checkInput_ok (hcheck r)).1
  choose group hlayer hmap using hgroup
  exact ⟨group, maps, hlayer, hmap, fun r => (checkInput_ok (hcheck r)).2.1,
    expertOwners_new hnew r₀ howners, helsewhere⟩

/-- The layer of a pass that succeeds serves, with as many experts as the pass has. -/
theorem GroupInv.layerInv_of_run (hinv : GroupInv models₀ g) (r₀ : Fin W)
    {outputs : Fin W → List V} {states' : Fin W → RankState W}
    (hrun : g.run kernel pass = .ok (outputs, states')) :
    ∃ group₀ group maps₀ maps,
      LayerInv models₀ g pass.layer pass.numExperts group₀ group maps₀ maps := by
  rcases hinv pass.layer with huntouched | ⟨E, group₀, group, maps₀, maps, h⟩
  · obtain ⟨group, maps, hserves⟩ := exists_serves huntouched.objects r₀ hrun
    exact ⟨group, group, maps, maps, huntouched.layerInv hserves⟩
  · obtain ⟨maps', _, _, hcheck, -⟩ := forward_ok hrun
    obtain ⟨hmap, hlength, -⟩ := checkInput_ok (hcheck r₀)
    rw [h.now.inputs_eq] at hmap
    obtain rfl : E = pass.numExperts := by
      rw [← hlength, ← Option.some.inj hmap]
      exact (h.now.length r₀).symm
    exact ⟨group₀, group, maps₀, maps, h⟩

/-- A pass that succeeds leaves its layer in order. -/
theorem LayerInv.after_pass {group₀ : Fin W → FusedMoE T} {maps₀ : Fin W → ExpertMap}
    (h : LayerInv models₀ g pass.layer pass.numExperts group₀ group maps₀ maps) (r₀ : Fin W)
    {outputs : Fin W → List V} {states' : Fin W → RankState W}
    (hrun : g.run kernel pass = .ok (outputs, states')) :
    LayerInv models₀ (g.setObjects pass.layer states') pass.layer pass.numExperts group₀ group maps₀
      maps := by
  obtain ⟨maps', owners, states₁, hcheck, howners, -, hkeys⟩ := forward_ok hrun
  have hmaps : ∀ r, maps' r = maps r := fun r => by
    have hmap := (checkInput_ok (hcheck r)).1
    rw [h.now.inputs_eq] at hmap
    exact (Option.some.inj hmap).symm
  obtain ⟨states'', hcoherent, hrun'⟩ :=
    h.now.run_eq kernel h.coherent (checkInput_ok (hcheck r₀)).2.2
  obtain ⟨-, rfl⟩ := Prod.mk.inj (Except.ok.inj (hrun.symm.trans hrun'))
  refine ⟨h.before, h.now, ?_, fun r key hkey => ?_, h.weights⟩
  · rw [RankGroup.setObjects_self]
    exact hcoherent
  · rw [RankGroup.setObjects_self, hkeys r] at hkey
    rcases expertOwners_ok howners r with hsame | hset
    · rw [hsame] at hkey
      exact h.keys r key hkey
    · rw [hset, hmaps r] at hkey
      obtain rfl := Option.some.inj hkey
      exact Nat.le_refl _

theorem GroupInv.after_pass (hinv : GroupInv models₀ g) {outputs : Fin W → List V}
    {states' : Fin W → RankState W} (hrun : g.run kernel pass = .ok (outputs, states')) :
    GroupInv models₀ (g.setObjects pass.layer states') := by
  intro l
  rcases isEmpty_or_nonempty (Fin W) with hempty | ⟨⟨r₀⟩⟩
  · exact Or.inl ⟨fun r => hempty.elim r, fun r => hempty.elim r⟩
  by_cases hl : l = pass.layer
  · subst hl
    obtain ⟨group₀, group, maps₀, maps, h⟩ := hinv.layerInv_of_run r₀ hrun
    exact Or.inr ⟨_, _, _, _, _, h.after_pass r₀ hrun⟩
  · -- The objects of the other layers stay.
    have hobjects := g.setObjects_of_ne hl states'
    rcases hinv l with huntouched | ⟨E, group₀, group, maps₀, maps, h⟩
    · refine Or.inl ⟨huntouched.layer, fun r => ?_⟩
      rw [hobjects]
      exact huntouched.objects r
    · refine Or.inr ⟨E, group₀, group, maps₀, maps, h.before, h.now, ?_, ?_, h.weights⟩
      · rw [hobjects]
        exact h.coherent
      · rw [hobjects]
        exact h.keys

/-! ## The outcome of a pass -/

/-- All ranks reuse their owner tables, or all gather the owners. -/
def SameCaches (g : RankGroup T O W) (pass : Pass R V W) : Prop :=
  ∀ maps : Fin W → ExpertMap,
    (∀ r, (moeLayer (g.models r) pass.layer).bind FusedMoE.expertMap = some (maps r)) →
    (∀ r, (cachedOwners (g.objects pass.layer r) (maps r)).isSome = true) ∨
      ∀ r, cachedOwners (g.objects pass.layer r) (maps r) = none

/-- Every rank sends each of its tokens to the ranks that have one of its experts at present, and
keeps it for the experts that it has itself. -/
def RoutesToHolders (g : RankGroup T O W) (pass : Pass R V W) : Prop :=
  ∃ dispatched states, prepare (g.objects pass.layer) (g.inputs pass) = .ok (dispatched, states) ∧
    ∀ r, ∃ dispatch, (states r).state = some dispatch ∧ ∀ t,
      (t ∈ dispatch.localTokens ↔ ∃ row, (pass.rows r)[t]? = some row ∧
        ∃ j, g.holds pass.layer r (row.ids j)) ∧
      ∀ d, t ∈ segment dispatch.sendCounts dispatch.remoteTokens d ↔
        d ≠ r ∧ ∃ row, (pass.rows r)[t]? = some row ∧ ∃ j, g.holds pass.layer d (row.ids j)

omit [Semiring R] [AddCommMonoid V] [Module R V] in
theorem GroupInv.sameCaches (hinv : GroupInv models₀ g) : SameCaches g pass := by
  intro maps hmaps
  rcases hinv pass.layer with huntouched | ⟨E, group₀, group, maps₀, maps₁, h⟩
  · refine Or.inr fun r => ?_
    rw [huntouched.objects r]
    rfl
  · have heq : maps = maps₁ := by
      funext r
      have hmap := hmaps r
      rw [h.now.layer r, Option.bind_some, h.now.map r] at hmap
      exact (Option.some.inj hmap).symm
    subst heq
    rcases h.coherent.cache with hmiss | hhit
    · exact Or.inr hmiss
    · refine Or.inl fun r => ?_
      rw [hhit r]
      rfl

/-- A layer that serves routes to the ranks that hold the experts. -/
theorem Serves.routes (h : Serves g.models pass.layer pass.numExperts group maps)
    (hcoherent : Coherent maps pass.numExperts (g.objects pass.layer))
    (honInput : pass.onInput = true → pass.topk = 1) : RoutesToHolders g pass := by
  obtain ⟨sentinel, states, -, -, hstate, hprepare⟩ :=
    prepare_spec pass.rows hcoherent h.owners h.length h.elsewhere honInput
  rw [← h.inputs_eq] at hprepare
  have hholds : ∀ d e, (maps d).owns e = true ↔ g.holds pass.layer d e := by
    intro d e
    rw [owns_iff (h.map d)]
    constructor
    · exact fun hpos => ⟨group d, h.layer d, hpos⟩
    · rintro ⟨m, hm, hpos⟩
      rw [h.layer d] at hm
      exact (Option.some.inj hm) ▸ hpos
  have hgoes : ∀ (row : TokenRow R V pass.topk pass.numExperts) d,
      goesTo (ownerTable maps pass.numExperts) row d = true ↔
        ∃ j, g.holds pass.layer d (row.ids j) := by
    intro row d
    rw [goesTo_iff h.owners]
    exact exists_congr fun j => hholds d _
  refine ⟨_, states, hprepare, fun r => ⟨_, hstate r, fun t => ⟨?_, fun d => ?_⟩⟩⟩
  · show t ∈ tokensFor _ _ _ ↔ _
    simp only [mem_tokensFor, hgoes]
  · have hsegment : segment (dispatchOf maps pass.rows r).sendCounts
        (dispatchOf maps pass.rows r).remoteTokens d = sent maps pass.rows r d :=
      segment_flatMap (sent maps pass.rows r) (fun _ => rfl) d
    rw [hsegment]
    show t ∈ sentTo _ _ _ _ ↔ _
    simp only [mem_sentTo, hgoes]

theorem GroupInv.routes (hinv : GroupInv models₀ g) {outputs : Fin W → List V}
    (houtcome : g.outcome kernel pass = .ok outputs) : RoutesToHolders g pass := by
  unfold RankGroup.outcome at houtcome
  obtain ⟨⟨_, states'⟩, hrun, -⟩ := of_map_ok houtcome
  rcases isEmpty_or_nonempty (Fin W) with hempty | ⟨⟨r₀⟩⟩
  · obtain ⟨⟨dispatched, states⟩, hprepare, -⟩ := of_bind_ok hrun
    exact ⟨dispatched, states, hprepare, fun r => hempty.elim r⟩
  · obtain ⟨group₀, group, maps₀, maps, h⟩ := hinv.layerInv_of_run r₀ hrun
    obtain ⟨_, _, _, hcheck, -⟩ := forward_ok hrun
    exact h.now.routes h.coherent (checkInput_ok (hcheck r₀)).2.2

/-- **A pass has the outcome that it had at the start.** -/
theorem GroupInv.outcome_eq (hinv : GroupInv models₀ g) :
    g.outcome kernel pass = (RankGroup.new models₀).outcome kernel pass := by
  rcases isEmpty_or_nonempty (Fin W) with hempty | ⟨⟨r₀⟩⟩
  · have hrun : g.run kernel pass = (RankGroup.new models₀).run kernel pass := by
      unfold RankGroup.run
      congr 1 <;> exact Subsingleton.elim _ _
    rw [RankGroup.outcome, hrun, RankGroup.outcome]
  rcases hinv pass.layer with huntouched | ⟨E, group₀, group, maps₀, maps, h⟩
  · -- The layer and its objects are those of the start.
    have hinputs : g.inputs pass = (RankGroup.new models₀).inputs pass := by
      funext r
      unfold RankGroup.inputs
      rw [huntouched.layer r]
      rfl
    have hslots : g.slots kernel pass.layer = (RankGroup.new models₀).slots kernel pass.layer := by
      funext r s
      unfold RankGroup.slots
      rw [huntouched.layer r]
      rfl
    have hobjects : g.objects pass.layer = (RankGroup.new models₀).objects pass.layer := by
      funext r
      exact huntouched.objects r
    unfold RankGroup.outcome RankGroup.run
    rw [hinputs, hslots, hobjects]
  · have hnew : Serves (RankGroup.new models₀).models pass.layer E group₀ maps₀ := h.before
    by_cases haccepted : E = pass.numExperts ∧ (pass.onInput = true → pass.topk = 1)
    · obtain ⟨rfl, honInput⟩ := haccepted
      obtain ⟨_, -, hrun⟩ := h.now.run_eq kernel h.coherent honInput
      obtain ⟨_, -, hrun₀⟩ := hnew.run_eq kernel (coherent_new maps₀ _) honInput
      have hexperts : layerExperts kernel group pass.numExperts =
          layerExperts kernel group₀ pass.numExperts := by
        funext e
        unfold layerExperts
        rw [h.weights e e.isLt]
      rw [RankGroup.outcome, hrun, RankGroup.outcome, hrun₀, hexperts]
      rfl
    · rw [RankGroup.outcome, h.now.run_refused h.coherent.idle r₀ haccepted, RankGroup.outcome,
        hnew.run_refused (fun _ => rfl) r₀ haccepted]

end Passes

/-- **Remaps are invisible to the model.**  In every run of remaps and passes, all ranks reuse their
owner tables or all gather the owners, a pass that succeeds sends every token to the ranks that have
its experts at present, and every pass has the outcome that it has when no remap ever took place. -/
theorem remaps_invisible {R V : Type} [Semiring R] [AddCommMonoid V] [Module R V]
    (kernel : List (Option T) → V → V) (hrearrange : Rearranges rearrange) (hbump : 0 < bump)
    {models₀ : Fin W → Model T O} {g : RankGroup T O W}
    (h : Reachable (· = RankGroup.new models₀)
      (fun g (a : GroupAction R V W) g' =>
        g.step kernel rearrange digest bump enabled hosts a = some g') (fun _ _ => True) g)
    (pass : Pass R V W) :
    SameCaches g pass ∧
      (∀ outputs, g.outcome kernel pass = .ok outputs → RoutesToHolders g pass) ∧
      g.outcome kernel pass = (RankGroup.new models₀).outcome kernel pass := by
  have hinv : GroupInv models₀ g := by
    refine h.invariant (GroupInv models₀) ?_ ?_
    · rintro g rfl
      exact groupInv_new models₀
    · rintro g (plan | p) g' hinv - hstep
      · obtain ⟨models', hrun, rfl⟩ := Option.map_eq_some_iff.mp hstep
        exact hinv.after_remap hrearrange hbump (of_toOption hrun)
      · obtain ⟨⟨outputs, states'⟩, hrun, rfl⟩ := Option.map_eq_some_iff.mp hstep
        exact hinv.after_pass (of_toOption hrun)
  exact ⟨hinv.sameCaches, fun outputs houtputs => hinv.routes houtputs, hinv.outcome_eq⟩

/-- A pass without tokens, which fills the caches. -/
def idlePass : Pass ℤ ℤ 2 := ⟨0, 2, 4, false, fun _ => []⟩

/-- A pass of one token on each rank, with experts that both exchange and stay. -/
def tokenPass : Pass ℤ ℤ 2 := ⟨0, 2, 4, false, fun _ => [⟨5, ![1, 2], ![1, 3]⟩]⟩

/-- Experts that multiply by the first of their weights. -/
def scaling (rows : List (Option ℕ)) (x : ℤ) : ℤ := ((rows.head?.bind id).getD 0 : ℕ) * x

/-- The group after a pass and the exchange. -/
def exchanged : Option (RankGroup ℕ Unit 2) :=
  attempt (RankGroup.step scaling exactRearrange id 1 (fun _ => true) fun _ => ⟨"", "", "", ""⟩)
    (fun _ _ => True) [GroupAction.pass idlePass, .remap exchangePlan] (RankGroup.new pairGroup)

theorem remaps_invisible_exchanged :
    ∃ g, exchanged = some g ∧ SameCaches g tokenPass ∧
      (∀ outputs, g.outcome scaling tokenPass = .ok outputs → RoutesToHolders g tokenPass) ∧
      g.outcome scaling tokenPass = (RankGroup.new pairGroup).outcome scaling tokenPass := by
  have hsome : exchanged.isSome = true := by decide +kernel
  obtain ⟨g, hg⟩ := Option.isSome_iff_exists.mp hsome
  exact ⟨g, hg, remaps_invisible scaling rearranges_exactRearrange Nat.one_pos
    (Reachable.attempt (.start rfl) hg) tokenPass⟩

end ExpertRemap
end SpotServe
