import SpotServe.ExpertRemap.Coordination

/-!
# Where remaps end does not depend on the way

A group is remapped again and again, each time from where the last plan put the experts.  A remap
orders the slots of a rank by the ids of their experts, and it moves whole rows, so that nothing of
the way is left but the version counters of the expert maps: the models are determined by those that
the group began with and by the last plan.

* `bareModule`: what no remap changes in a module.
* `remap_path_independent`: two ways to the same plan end in the same models, up to the counters.
-/

namespace SpotServe
namespace ExpertRemap

open Py Runs ExpertPlacement Writes
open SparseA2A (ExpertMap)

section Modules

variable {T O : Type}

/-- A model with other fused MoE modules. -/
def mapFused (f : FusedMoE T → FusedMoE T) (model : Model T O) : Model T O :=
  model.map fun (name, m) =>
    (name, match m with
      | .fusedMoE layer => .fusedMoE (f layer)
      | .other content => .other content)

/-- A weight tensor without its rows. -/
def ExpertWeight.bare (weight : ExpertWeight T) : ExpertWeight T := { weight with rows := [] }

/-- A module without its expert map's entries and version, and without its rows. -/
def bareModule (m : FusedMoE T) : FusedMoE T :=
  { m with
    expertMap := m.expertMap.map fun map => ⟨map.dataPtr, 0, []⟩
    weights := m.weights.map ExpertWeight.bare }

/-- A module without the version counter of its expert map. -/
def unversioned (m : FusedMoE T) : FusedMoE T :=
  { m with expertMap := m.expertMap.map fun map => { map with version := 0 } }

theorem getElem?_mapFused (f : FusedMoE T → FusedMoE T) (model : Model T O) (p : ℕ) :
    (mapFused f model)[p]? = (model[p]?).map fun (name, m) =>
      (name, match m with
        | .fusedMoE layer => .fusedMoE (f layer)
        | .other content => .other content) :=
  List.getElem?_map

theorem getElem?_mapFused_of_fused {f : FusedMoE T → FusedMoE T} {model : Model T O} {p : ℕ}
    {name : String} {m : FusedMoE T} (h : model[p]? = some (name, .fusedMoE m)) :
    (mapFused f model)[p]? = some (name, .fusedMoE (f m)) := by
  rw [getElem?_mapFused, h, Option.map_some]

/-- A fused MoE module behind one of another model that is made from it. -/
theorem exists_fused_of_mapFused {f : FusedMoE T → FusedMoE T} {model model' : Model T O} {p : ℕ}
    {name : String} {m : FusedMoE T} (h : mapFused f model = mapFused f model')
    (hget : model[p]? = some (name, .fusedMoE m)) :
    ∃ m', model'[p]? = some (name, .fusedMoE m') ∧ f m' = f m := by
  have hbare := getElem?_mapFused_of_fused (f := f) hget
  rw [h, getElem?_mapFused, Option.map_eq_some_iff] at hbare
  obtain ⟨⟨name', module'⟩, hget', heq⟩ := hbare
  cases module' with
  | other content => exact NnModule.noConfusion rfl rfl (heq_of_eq (Prod.mk.inj heq).2)
  | fusedMoE m' =>
    obtain ⟨rfl, hsame⟩ := Prod.mk.inj heq
    exact ⟨m', hget', NnModule.fusedMoE.inj hsame⟩

/-- A position where no fused MoE module is. -/
theorem eq_of_mapFused_eq {f : FusedMoE T → FusedMoE T} {model model' : Model T O} {p : ℕ}
    (h : mapFused f model = mapFused f model')
    (hp : ∀ (name : String) (m : FusedMoE T), model[p]? ≠ some (name, .fusedMoE m)) :
    model[p]? = model'[p]? := by
  have hget := congrArg (·[p]?) h
  simp only [getElem?_mapFused] at hget
  cases hmodel : model[p]? with
  | none =>
    rw [hmodel] at hget
    exact (Option.map_eq_none_iff.mp hget.symm).symm
  | some entry =>
    obtain ⟨name, m⟩ := entry
    cases m with
    | fusedMoE layer => exact absurd hmodel (hp name layer)
    | other content =>
      rw [hmodel] at hget
      obtain ⟨⟨name', m'⟩, hmodel', heq⟩ := Option.map_eq_some_iff.mp hget.symm
      cases m' with
      | fusedMoE layer => exact NnModule.noConfusion rfl rfl (heq_of_eq (Prod.mk.inj heq).2)
      | other content' => exact (congrArg some heq).symm.trans hmodel'.symm

/-- Two models with the same modules at every position. -/
theorem mapFused_eq {f : FusedMoE T → FusedMoE T} {model model' : Model T O}
    (hothers : ∀ p : ℕ, (∀ (name : String) (m : FusedMoE T),
      model[p]? ≠ some (name, .fusedMoE m)) → model[p]? = model'[p]?)
    (hfused : ∀ (p : ℕ) (name : String) (m : FusedMoE T), model[p]? = some (name, .fusedMoE m) →
      ∃ m', model'[p]? = some (name, .fusedMoE m') ∧ f m = f m') :
    mapFused f model = mapFused f model' := by
  refine List.ext_getElem? fun p => ?_
  by_cases h : ∃ name m, model[p]? = some (name, .fusedMoE m)
  · obtain ⟨name, m, hget⟩ := h
    obtain ⟨m', hget', hsame⟩ := hfused p name m hget
    rw [getElem?_mapFused_of_fused hget, getElem?_mapFused_of_fused hget', hsame]
  · rw [getElem?_mapFused, getElem?_mapFused,
      hothers p fun name m hget => h ⟨name, m, hget⟩]

end Modules

/-! ## What no remap changes -/

section Bare

variable {T O D : Type} {W : ℕ}

theorem bareModule_updatedModule (bump : ℕ) {layer : Layer T}
    (hmap : layer.module.expertMap = some layer.expertMap) {tensors : List (List T)}
    (hlength : tensors.length = layer.module.weights.length) :
    bareModule (updatedModule bump layer tensors) = bareModule layer.module := by
  have hweights : (List.zipWith (fun (weight : ExpertWeight T) rows => { weight with rows := rows })
      layer.module.weights tensors).map ExpertWeight.bare =
      layer.module.weights.map ExpertWeight.bare := by
    refine List.ext_getElem (by simp [hlength]) fun j hj hj' => ?_
    simp only [List.getElem_map, List.getElem_zipWith, ExpertWeight.bare]
  unfold bareModule updatedModule
  rw [hmap]
  simp only [Option.map_some, hweights, updatedMap]

variable [DecidableEq D] {rearrange : Rearrange W T} {digest : List T → D} {bump : ℕ}
  {enabled : Fin W → Bool} {hosts : Fin W → HostIdentity} {plan : RemapPlan}
  {models models' : Fin W → Model T O}

theorem remap_bare (hrearrange : Rearranges rearrange)
    (hrun : remapExpertWeights rearrange digest bump enabled hosts models plan = .ok models')
    (r : Fin W) : mapFused bareModule (models' r) = mapFused bareModule (models r) := by
  obtain ⟨layers, moved, haccepted, hcover, htransfer, rfl⟩ := remapExpertWeights_ok hrun
  have hlength := length_moved haccepted hrearrange hcover htransfer
  refine (mapFused_eq (fun p hp => ?_) fun p name m hget => ?_).symm
  · refine (updatedModel_outside bump (hlength r) fun hmem => ?_).symm
    obtain ⟨layer, hlayer, rfl⟩ := List.mem_map.mp hmem
    exact hp _ _ ((haccepted r).placed layer hlayer)
  · obtain ⟨layer, hlayer, rfl, rfl, rfl⟩ := (haccepted r).layer_at hget
    obtain ⟨i, row, hrow, rfl⟩ := exists_row haccepted hlayer
    obtain ⟨tensors, htensors⟩ := hrow.exists_tensors hlength
    have hready := hrow.ready haccepted r
    have htwo : (tensors r).length = 2 :=
      ((transfer_spec haccepted hrearrange hcover htransfer hrow r).1 r).2 _
        (List.mem_of_getElem? (htensors r)) |>.1
    exact ⟨_, (haccepted r).updatedModel_layer bump (hlength r) (hrow r) (htensors r),
      (bareModule_updatedModule bump hready.expertMap (htwo.trans hready.weight_count.symm)).symm⟩

end Bare

/-! ## What a plan makes of a module -/

section Layout

variable {T O D : Type} {W : ℕ}

/-- The experts of a layer that a plan gives a rank. -/
def planned (plan : RemapPlan) (W l count r : ℕ) : List ℕ :=
  (List.range count).filter fun e => targetOf plan.expertToTargetRank W l e = .ok r

/-- What a plan makes of a module of a rank, where the experts of the layer have these weights. -/
structure LaidOut (plan : RemapPlan) (W l r : ℕ) (weights : ℕ → List (Option T))
    (m : FusedMoE T) : Prop where
  entries : m.expertMap.map ExpertMap.entries =
    some (writeAll ((planned plan W l m.globalNumExperts r).zipIdx.map
      fun (expertId, slot) => (expertId, (slot : ℤ))) (List.replicate m.globalNumExperts (-1)))
  rows : ∀ weight ∈ m.weights, weight.rows.length = (planned plan W l m.globalNumExperts r).length
  holds : ∀ s e : ℕ, (planned plan W l m.globalNumExperts r)[s]? = some e → rowsAt m s = weights e

theorem LaidOut.congr {plan : RemapPlan} {l r : ℕ} {weights weights' : ℕ → List (Option T)}
    {m : FusedMoE T} (h : LaidOut plan W l r weights m)
    (hweights : ∀ e < m.globalNumExperts, weights e = weights' e) :
    LaidOut plan W l r weights' m := by
  refine ⟨h.entries, h.rows, fun s e hs => (h.holds s e hs).trans (hweights e ?_)⟩
  exact List.mem_range.mp (List.mem_filter.mp (List.mem_of_getElem? hs)).1

theorem globalNumExperts_of_bare {m m' : FusedMoE T} (h : bareModule m = bareModule m') :
    m.globalNumExperts = m'.globalNumExperts := by
  show (bareModule m).globalNumExperts = (bareModule m').globalNumExperts
  rw [h]

/-- Tensors that agree at every slot agree. -/
theorem weights_eq_of_rowsAt {m m' : FusedMoE T} {n : ℕ}
    (hbare : m.weights.map ExpertWeight.bare = m'.weights.map ExpertWeight.bare)
    (hrows : ∀ weight ∈ m.weights, weight.rows.length = n)
    (hrows' : ∀ weight ∈ m'.weights, weight.rows.length = n)
    (hslots : ∀ s < n, rowsAt m s = rowsAt m' s) : m.weights = m'.weights := by
  have hlength : m.weights.length = m'.weights.length := by
    simpa using congrArg List.length hbare
  refine List.ext_getElem hlength fun j hj hj' => ?_
  have hmeta := congrArg (·[j]?) hbare
  simp only [List.getElem?_map, List.getElem?_eq_getElem hj, List.getElem?_eq_getElem hj',
    Option.map_some, Option.some_inj] at hmeta
  have hn := hrows _ (List.getElem_mem hj)
  have hn' := hrows' _ (List.getElem_mem hj')
  have hsame : m.weights[j].rows = m'.weights[j].rows := by
    refine List.ext_getElem? fun s => ?_
    by_cases hs : s < n
    · have hslot := congrArg (·[j]?) (hslots s hs)
      simpa only [rowsAt, List.getElem?_map, List.getElem?_eq_getElem hj,
        List.getElem?_eq_getElem hj', Option.map_some, Option.some_inj] using hslot
    · rw [List.getElem?_eq_none (by omega), List.getElem?_eq_none (by omega)]
  calc m.weights[j]
      = { m.weights[j].bare with rows := m.weights[j].rows } := rfl
    _ = { m'.weights[j].bare with rows := m'.weights[j].rows } := by rw [hmeta, hsame]
    _ = m'.weights[j] := rfl

/-- **A module is determined** by what no remap changes, the plan and the weights of the
experts. -/
theorem LaidOut.unique {plan : RemapPlan} {l r : ℕ} {weights : ℕ → List (Option T)}
    {m m' : FusedMoE T} (h : LaidOut plan W l r weights m) (h' : LaidOut plan W l r weights m')
    (hbare : bareModule m = bareModule m') : unversioned m = unversioned m' := by
  have hcount := globalNumExperts_of_bare hbare
  have hweights : m.weights = m'.weights := by
    refine weights_eq_of_rowsAt (congrArg FusedMoE.weights hbare) h.rows
      (by rw [hcount]; exact h'.rows) fun s hs => ?_
    have hget := List.getElem?_eq_getElem hs
    rw [h.holds s _ hget, h'.holds s _ (by rw [← hcount]; exact hget)]
  have hmap : m.expertMap.map (fun map => { map with version := 0 }) =
      m'.expertMap.map fun map => { map with version := 0 } := by
    have hentries : m.expertMap.map ExpertMap.entries = m'.expertMap.map ExpertMap.entries := by
      rw [h.entries, hcount, h'.entries]
    have hptr : (m.expertMap.map fun map => (⟨map.dataPtr, 0, []⟩ : ExpertMap)) =
        m'.expertMap.map fun map => ⟨map.dataPtr, 0, []⟩ := congrArg FusedMoE.expertMap hbare
    cases hm : m.expertMap with
    | none =>
      rw [hm] at hptr
      rw [Option.map_eq_none_iff.mp hptr.symm]
    | some map =>
      rw [hm] at hptr hentries
      obtain ⟨map', hm', hptr'⟩ := Option.map_eq_some_iff.mp hptr.symm
      rw [hm'] at hentries ⊢
      rw [Option.map_some, Option.map_some, (ExpertMap.mk.inj hptr').1,
        Option.some.inj hentries]
  calc unversioned m
      = { bareModule m with
          expertMap := m.expertMap.map fun map => { map with version := 0 }
          weights := m.weights } := rfl
    _ = { bareModule m' with
          expertMap := m'.expertMap.map fun map => { map with version := 0 }
          weights := m'.weights } := by rw [hbare, hmap, hweights]
    _ = unversioned m' := rfl

variable [DecidableEq D] {rearrange : Rearrange W T} {digest : List T → D} {bump : ℕ}
  {enabled : Fin W → Bool} {hosts : Fin W → HostIdentity} {plan : RemapPlan}
  {models models' : Fin W → Model T O}

/-- A remap lays out the modules of the layers as its plan says, with the weights that the experts
had. -/
theorem remap_laidOut (hrearrange : Rearranges rearrange)
    (hrun : remapExpertWeights rearrange digest bump enabled hosts models plan = .ok models')
    {r : Fin W} {p : ℕ} {name : String} {m : FusedMoE T}
    (hget : (models' r)[p]? = some (name, .fusedMoE m)) :
    ∃ l group maps, layerIdOf name = some l ∧ Serves models l m.globalNumExperts group maps ∧
      LaidOut plan W l r (expertWeights group) m := by
  obtain ⟨m₀, hget₀, -⟩ := exists_fused_of_mapFused (remap_bare hrearrange hrun r) hget
  obtain ⟨layers, moved, haccepted, hcover, htransfer, rfl⟩ := remapExpertWeights_ok hrun
  have hlength := length_moved haccepted hrearrange hcover htransfer
  obtain ⟨layer, hlayer, rfl, rfl, rfl⟩ := (haccepted r).layer_at hget₀
  obtain ⟨i, row, hrow, rfl⟩ := exists_row haccepted hlayer
  obtain ⟨tensors, htensors⟩ := hrow.exists_tensors hlength
  have hready := hrow.ready haccepted r
  obtain rfl : updatedModule bump (row r) (tensors r) = m := by
    rw [(haccepted r).updatedModel_layer bump (hlength r) (hrow r) (htensors r)] at hget
    exact NnModule.fusedMoE.inj (Prod.mk.inj (Option.some.inj hget)).2
  obtain ⟨htwo, hslots⟩ := ((transfer_spec haccepted hrearrange hcover htransfer hrow r).1 r).2 _
    (List.mem_of_getElem? (htensors r))
  have hcount : (updatedModule bump (row r) (tensors r)).globalNumExperts =
      (row r).expertMap.entries.length := hready.map_length.symm
  have hplanned : planned plan W (row r).index
      (updatedModule bump (row r) (tensors r)).globalNumExperts r = (row r).newLocalIds :=
    (newLocalIds_spec hready.new).2.symm
  refine ⟨(row r).index, _, _, hready.layerId, hrow.serves_before haccepted hcover r, ?_, ?_, ?_⟩
  · rw [hplanned, hcount]
    rfl
  · intro weight hweight
    obtain ⟨j, hj⟩ := List.mem_iff_getElem?.mp hweight
    obtain ⟨weight₀, rows, -, hrows, rfl⟩ := List.getElem?_zipWith_eq_some.mp hj
    rw [hplanned, hready.new_length]
    exact hslots rows (List.mem_of_getElem? hrows)
  · intro s e hs
    refine hrow.rowsAt_after haccepted bump hcover hrearrange htransfer (htensors r) ?_
    rw [← hplanned]
    exact hs

end Layout

/-! ## Many remaps -/

section Path

variable {W n : ℕ} {T O D : Type} [DecidableEq D] {site : Site W n T D}
  {start models : Fin W → Model T O}

theorem Site.Remapped.bare (h : site.Remapped start models)
    (hrearrange : Rearranges site.rearrange) (r : Fin W) :
    mapFused bareModule (models r) = mapFused bareModule (start r) := by
  induction h with
  | refl => rfl
  | tail _ hrun ih =>
    obtain ⟨plan, hrun⟩ := hrun
    exact (remap_bare hrearrange hrun r).trans ih

/-- A layer that serves after remaps has served before, and its experts had the same weights. -/
theorem Site.Remapped.served (h : site.Remapped start models)
    (hrearrange : Rearranges site.rearrange) {l E : ℕ} {group : Fin W → FusedMoE T}
    {maps : Fin W → ExpertMap} (hserves : Serves models l E group maps) (r₀ : Fin W) :
    ∃ group₀ maps₀, Serves start l E group₀ maps₀ ∧
      ∀ e < E, expertWeights group e = expertWeights group₀ e := by
  induction h generalizing group maps with
  | refl => exact ⟨group, maps, hserves, fun _ _ => rfl⟩
  | tail _ hrun ih =>
    obtain ⟨plan, hrun⟩ := hrun
    rcases remap_layer hrearrange hrun l with hnone |
      ⟨E₁, group₁, group', maps₁, maps', hserves₁, hserves', -, hweights₁⟩
    · have hlayer := hserves.layer r₀
      rw [(hnone r₀).2] at hlayer
      exact absurd hlayer (by simp)
    · obtain ⟨rfl, rfl⟩ := hserves'.unique hserves
      obtain rfl : E₁ = E := (hserves'.length r₀).symm.trans (hserves.length r₀)
      obtain ⟨group₀, maps₀, hserves₀, hweights₀⟩ := ih hserves₁
      exact ⟨group₀, maps₀, hserves₀, fun e he => (hweights₁ e he).trans (hweights₀ e he)⟩

/-- **Where a remap ends does not depend on the way.**  Two runs of remaps begin with the same
models; they may differ in their plans and in how many they are.  If the same plan is remapped after
both, the models of all ranks are the same, row by row and slot by slot, up to the version counters
of the expert maps. -/
theorem remap_path_independent (hrearrange : Rearranges site.rearrange) {plan : RemapPlan}
    {models₁ models₂ models₁' models₂' : Fin W → Model T O} (h₁ : site.Remapped start models₁)
    (h₂ : site.Remapped start models₂)
    (hrun₁ : remapExpertWeights site.rearrange site.digest site.bump site.enabled site.hosts models₁
      plan = .ok models₁')
    (hrun₂ : remapExpertWeights site.rearrange site.digest site.bump site.enabled site.hosts models₂
      plan = .ok models₂') (r : Fin W) :
    mapFused unversioned (models₁' r) = mapFused unversioned (models₂' r) := by
  have hafter₁ : site.Remapped start models₁' := h₁.tail ⟨plan, hrun₁⟩
  have hafter₂ : site.Remapped start models₂' := h₂.tail ⟨plan, hrun₂⟩
  have hbare : mapFused bareModule (models₁' r) = mapFused bareModule (models₂' r) :=
    (hafter₁.bare hrearrange r).trans (hafter₂.bare hrearrange r).symm
  refine mapFused_eq (fun p hp => eq_of_mapFused_eq hbare hp) fun p name m hget => ?_
  obtain ⟨m', hget', hsame⟩ := exists_fused_of_mapFused hbare hget
  refine ⟨m', hget', ?_⟩
  obtain ⟨l, group₁, maps₁, hid, hserves₁, hlaid₁⟩ := remap_laidOut hrearrange hrun₁ hget
  obtain ⟨l', group₂, maps₂, hid', hserves₂, hlaid₂⟩ := remap_laidOut hrearrange hrun₂ hget'
  obtain rfl : l = l' := Option.some.inj (hid.symm.trans hid')
  -- Both layers have the weights of the one layer that the runs began with.
  obtain ⟨group₀, maps₀, hserves₀, hweights₁⟩ := h₁.served hrearrange hserves₁ r
  obtain ⟨group₀', maps₀', hserves₀', hweights₂⟩ := h₂.served hrearrange hserves₂ r
  obtain ⟨rfl, rfl⟩ := hserves₀.unique hserves₀'
  exact (hlaid₁.congr hweights₁).unique (hlaid₂.congr hweights₂) hsame.symm

/-- A remap of the pair that gives its four experts to these ranks. -/
def pairRemap (ranks : List ℕ) (models : Fin 2 → Model ℕ Unit) :
    Except RemapError (Fin 2 → Model ℕ Unit) :=
  remapExpertWeights pairSite.rearrange pairSite.digest pairSite.bump pairSite.enabled
    pairSite.hosts models { exchangePlan with
      expertToTargetRank := ranks.zipIdx.foldl
        (fun table entry => table.set (expertKey 0 entry.2) (rankName 0 entry.1)) .empty }

/-- One way to the exchange is by exchanging the first and the last expert, the other by giving all
experts to the other rank. -/
theorem remap_path_independent_exchange :
    ∃ models₁ models₂ models₁' models₂',
      pairRemap [1, 0, 1, 0] pairGroup = .ok models₁ ∧
      pairRemap [1, 1, 0, 0] pairGroup = .ok models₂ ∧
      pairRemap [0, 1, 1, 0] models₁ = .ok models₁' ∧
      pairRemap [0, 1, 1, 0] models₂ = .ok models₂' ∧
      ∀ r, mapFused unversioned (models₁' r) = mapFused unversioned (models₂' r) := by
  have hways : ∀ ranks ∈ [[1, 0, 1, 0], [1, 1, 0, 0]], ∃ models models',
      pairRemap ranks pairGroup = .ok models ∧ pairRemap [0, 1, 1, 0] models = .ok models' := by
    intro ranks hranks
    have hok : ∀ ranks ∈ [[1, 0, 1, 0], [1, 1, 0, 0]],
        (pairRemap ranks pairGroup >>= pairRemap [0, 1, 1, 0]).toOption.isSome = true := by
      decide +kernel
    cases hrun : pairRemap ranks pairGroup >>= pairRemap [0, 1, 1, 0] with
    | ok models' =>
      obtain ⟨models, hfirst, hsecond⟩ := of_bind_ok hrun
      exact ⟨models, models', hfirst, hsecond⟩
    | error e =>
      have hsome := hok ranks hranks
      rw [hrun] at hsome
      exact absurd hsome Bool.false_ne_true
  obtain ⟨models₁, models₁', hfirst₁, hrun₁⟩ := hways [1, 0, 1, 0] (by simp)
  obtain ⟨models₂, models₂', hfirst₂, hrun₂⟩ := hways [1, 1, 0, 0] (by simp)
  have hway₁ : pairSite.Remapped pairGroup models₁ := Relation.ReflTransGen.single ⟨_, hfirst₁⟩
  have hway₂ : pairSite.Remapped pairGroup models₂ := Relation.ReflTransGen.single ⟨_, hfirst₂⟩
  exact ⟨models₁, models₂, models₁', models₂', hfirst₁, hfirst₂, hrun₁, hrun₂,
    remap_path_independent rearranges_exactRearrange hway₁ hway₂ hrun₁ hrun₂⟩

end Path

end ExpertRemap
end SpotServe
