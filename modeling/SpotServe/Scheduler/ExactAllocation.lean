import SpotServe.Scheduler.DistributedAllocation

/-!
# The division of GPUs is exact

`_distributed_gpu_allocation` fills the target nodes one after the other, so it could refuse a
request that another division would serve.  It does not: what a node can take is its own
capacity, whatever the others have taken, so the rest that is left after the loop is what all
targets together have no room for.

* `fillNodes_remaining`: nothing is left when the room suffices, by induction on the order in
  which the nodes are filled.
* `distributedGpuAllocation_divides`: an answer divides the request among the targets.
* `exists_distributedGpuAllocation`: a division that exists is enough for an answer.
* `distributedGpuAllocation_exact`: both directions.
-/

namespace SpotServe
namespace Scheduler

open Py

/-! ## The loop -/

/-- The loop writes to the nodes of the table only. -/
theorem keys_fillNodes {capacities : OrderedDict String ℕ} {order : List String}
    {allocations : OrderedDict String ℕ} {remaining : ℕ}
    (h : ∀ node ∈ order, node ∈ allocations.keys) :
    (fillNodes capacities order allocations remaining).1.keys = allocations.keys := by
  induction order generalizing allocations remaining with
  | nil => rfl
  | cons target order ih =>
    have htarget := h target List.mem_cons_self
    rw [fillNodes]
    split_ifs with hzero
    · rfl
    · rw [ih, OrderedDict.keys_set, if_pos htarget]
      intro node hnode
      rw [OrderedDict.keys_set, if_pos htarget]
      exact h node (List.mem_cons_of_mem target hnode)

/-- No node loses what it has been given. -/
theorem le_fillNodes (capacities : OrderedDict String ℕ) (order : List String)
    (allocations : OrderedDict String ℕ) (remaining : ℕ) (node : String) :
    (allocations.get? node).getD 0 ≤
      ((fillNodes capacities order allocations remaining).1.get? node).getD 0 := by
  induction order generalizing allocations remaining with
  | nil => exact le_rfl
  | cons target order ih =>
    rw [fillNodes]
    split_ifs with hzero
    · exact le_rfl
    · refine le_trans ?_ (ih _ _)
      rw [OrderedDict.get?_set]
      split_ifs with heq
      · subst heq
        rw [Option.getD_some]
        omega
      · exact le_rfl

/-- The room that the nodes of a list have left. -/
def roomOn (capacities allocations : OrderedDict String ℕ) (order : List String) : ℕ :=
  (order.map fun node => (capacities.get? node).getD 0 - (allocations.get? node).getD 0).sum

/-- **The loop leaves nothing over** that the nodes have room for. -/
theorem fillNodes_remaining {capacities : OrderedDict String ℕ} {order : List String}
    {allocations : OrderedDict String ℕ} {remaining : ℕ} (hnodup : order.Nodup)
    (hroom : remaining ≤ roomOn capacities allocations order) :
    (fillNodes capacities order allocations remaining).2 = 0 := by
  induction order generalizing allocations remaining with
  | nil =>
    rw [roomOn, List.map_nil, List.sum_nil] at hroom
    exact Nat.le_zero.mp hroom
  | cons target order ih =>
    obtain ⟨hnew, hnodup⟩ := List.nodup_cons.mp hnodup
    rw [fillNodes]
    split_ifs with hzero
    · exact hzero
    · refine ih hnodup ?_
      -- the room of the nodes that follow is what it was
      have hrest : roomOn capacities (allocations.set target ((allocations.get? target).getD 0 +
          min ((capacities.get? target).getD 0 - (allocations.get? target).getD 0) remaining))
          order = roomOn capacities allocations order := by
        unfold roomOn
        congr 1
        refine List.map_congr_left fun node hnode => ?_
        have hne : target ≠ node := fun heq => hnew (heq ▸ hnode)
        rw [OrderedDict.get?_set_of_ne _ _ hne]
      rw [roomOn, List.map_cons, List.sum_cons] at hroom
      rw [hrest, roomOn]
      omega

/-- The order does not matter for the room. -/
theorem roomOn_perm {capacities allocations : OrderedDict String ℕ} {order order' : List String}
    (h : order.Perm order') :
    roomOn capacities allocations order = roomOn capacities allocations order' :=
  (h.map _).sum_eq

/-! ## The targets -/

theorem mem_normalizedTargets (targetNodeIds : List String) {node : String} :
    node ∈ normalizedTargets targetNodeIds ↔ node ∈ targetNodeIds := by
  suffices h : ∀ seen : OrderedDict String Unit,
      node ∈ (targetNodeIds.foldl (fun seen node => seen.set node ()) seen).keys ↔
        node ∈ seen.keys ∨ node ∈ targetNodeIds by
    exact (h .empty).trans (by simp)
  induction targetNodeIds with
  | nil => simp
  | cons target targets ih =>
    intro seen
    rw [List.foldl_cons, ih, OrderedDict.mem_keys_set, List.mem_cons]
    tauto

/-- The capacities are read through when every target has one. -/
theorem exists_targetCapacities (nodes : NodeTable) (requireAll : Bool) (targets : List String)
    (h : ∀ node ∈ targets, ∃ capacity, targetCapacity nodes requireAll node = .ok capacity)
    (start : OrderedDict String ℕ) :
    ∃ capacities, targets.foldlM (fun capacities node =>
      (targetCapacity nodes requireAll node).map (capacities.set node)) start = .ok capacities := by
  induction targets generalizing start with
  | nil => exact ⟨start, rfl⟩
  | cons target targets ih =>
    obtain ⟨capacity, hcapacity⟩ := h target List.mem_cons_self
    obtain ⟨capacities, hcapacities⟩ :=
      ih (fun node hnode => h node (List.mem_cons_of_mem target hnode)) (start.set target capacity)
    refine ⟨capacities, ?_⟩
    rw [List.foldlM_cons, hcapacity]
    exact hcapacities

section Filled

variable {capacities : OrderedDict String ℕ} {targets : List String}

/-- What a target is given is at least what the loop starts it with. -/
theorem base_le_fillTargets {base requested : ℕ} {node : String} (hnode : node ∈ capacities.keys) :
    base ≤ ((fillTargets capacities targets base requested).1.get? node).getD 0 := by
  obtain ⟨capacity, hcapacity⟩ := (OrderedDict.mem_keys_iff _).mp hnode
  have hle := le_fillNodes capacities
    (targets.insertionSort (fillsBefore fun node => (capacities.get? node).getD 0 - base))
    (capacities.mapValues fun _ _ => base) (requested - base * targets.length) node
  rw [OrderedDict.get?_mapValues, hcapacity, Option.map_some, Option.getD_some] at hle
  exact hle

theorem keys_fillTargets (hkeys : capacities.keys = targets) (base requested : ℕ) :
    (fillTargets capacities targets base requested).1.keys = targets := by
  unfold fillTargets
  dsimp only
  rw [keys_fillNodes, OrderedDict.keys_mapValues, hkeys]
  intro node hnode
  rw [OrderedDict.keys_mapValues, hkeys]
  exact (List.mem_insertionSort _).mp hnode

/-- The targets take everything when their capacities add up to the request. -/
theorem fillTargets_remaining (hkeys : capacities.keys = targets) (hnodup : targets.Nodup)
    {base requested : ℕ}
    (hroom : requested - base * targets.length ≤
      (targets.map fun node => (capacities.get? node).getD 0 - base).sum) :
    (fillTargets capacities targets base requested).2 = 0 := by
  have hperm := List.perm_insertionSort
    (fillsBefore fun node => (capacities.get? node).getD 0 - base) targets
  have hstart : roomOn capacities (capacities.mapValues fun _ _ => base) targets =
      (targets.map fun node => (capacities.get? node).getD 0 - base).sum := by
    unfold roomOn
    congr 1
    refine List.map_congr_left fun node hnode => ?_
    obtain ⟨capacity, hcapacity⟩ := (OrderedDict.mem_keys_iff _).mp (hkeys ▸ hnode)
    rw [OrderedDict.get?_mapValues, hcapacity, Option.map_some, Option.getD_some,
      Option.getD_some]
  refine fillNodes_remaining (hperm.nodup_iff.mpr hnodup) ?_
  rw [roomOn_perm hperm, hstart]
  exact hroom

end Filled

/-! ## The division -/

section Division

variable {nodes : NodeTable} {targetNodeIds : List String} {requestedGpus : ℤ} {requireAll : Bool}

/-- A division of the request among the targets: positive counts on ready nodes, none above the
whole GPUs that the node has free, and with `require_all_target_nodes` one on every target. -/
structure DividesAmong (nodes : NodeTable) (targetNodeIds : List String) (requestedGpus : ℤ)
    (requireAll : Bool) (allocations : OrderedDict String ℕ) : Prop
    extends Divides nodes requestedGpus allocations where
  positive : ∀ node count, allocations.get? node = some count → 0 < count
  targets : ∀ node ∈ allocations.keys, node ∈ targetNodeIds
  all : requireAll = true → ∀ node ∈ targetNodeIds, node ∈ allocations.keys

/-- **Soundness.** -/
theorem distributedGpuAllocation_divides {allocations : OrderedDict String ℕ}
    (h : distributedGpuAllocation nodes targetNodeIds requestedGpus requireAll = .ok allocations) :
    DividesAmong nodes targetNodeIds requestedGpus requireAll allocations := by
  have hdivides := distributedGpuAllocation_ok h
  obtain ⟨-, -, -, capacities, hcap, -, -, rfl⟩ := distributedGpuAllocation_eq_ok_iff.mp h
  have hkeys : capacities.keys = normalizedTargets targetNodeIds := by
    simpa using keys_targetCapacities (by simpa using nodup_normalizedTargets targetNodeIds) hcap
  set filled := (fillTargets capacities (normalizedTargets targetNodeIds) requireAll.toNat
    requestedGpus.toNat).1
  refine ⟨hdivides, ?_, ?_, ?_⟩
  · intro node count hcount
    simpa using ((OrderedDict.get?_filter ..).mp hcount).2
  · intro node hnode
    obtain ⟨count, hcount⟩ := (OrderedDict.mem_keys_iff _).mp hnode
    have hfilled : node ∈ filled.keys :=
      (OrderedDict.mem_keys_iff _).mpr ⟨count, ((OrderedDict.get?_filter ..).mp hcount).1⟩
    rw [keys_fillTargets hkeys] at hfilled
    exact (mem_normalizedTargets _).mp hfilled
  · rintro rfl node hnode
    have htarget : node ∈ normalizedTargets targetNodeIds := (mem_normalizedTargets _).mpr hnode
    have hfilled : node ∈ filled.keys := by
      rw [keys_fillTargets hkeys]
      exact htarget
    obtain ⟨count, hcount⟩ := (OrderedDict.mem_keys_iff _).mp hfilled
    have hone : 1 ≤ (filled.get? node).getD 0 := base_le_fillTargets (hkeys ▸ htarget)
    rw [hcount, Option.getD_some] at hone
    exact (OrderedDict.mem_keys_iff _).mpr
      ⟨count, (OrderedDict.get?_filter ..).mpr ⟨hcount, decide_eq_true hone⟩⟩

/-- A division that exists, read at the targets. -/
theorem DividesAmong.sum_targets {allocations : OrderedDict String ℕ}
    (h : DividesAmong nodes targetNodeIds requestedGpus requireAll allocations) :
    ((normalizedTargets targetNodeIds).map fun node => (allocations.get? node).getD 0).sum =
      requestedGpus.toNat := by
  set targets : OrderedDict String Unit :=
    targetNodeIds.foldl (fun seen node => seen.set node ()) .empty
  have hsum := OrderedDict.sumBy_getD targets allocations fun node count hcount =>
    (mem_normalizedTargets _).mpr
      (h.targets node ((OrderedDict.mem_keys_iff _).mpr ⟨count, hcount⟩))
  have hkeys : ((normalizedTargets targetNodeIds).map fun node =>
      (allocations.get? node).getD 0).sum =
        targets.sumBy fun node _ => (allocations.get? node).getD 0 := by
    unfold normalizedTargets OrderedDict.keys OrderedDict.sumBy
    rw [List.map_map]
    rfl
  have htotal := h.sum
  omega

/-- The capacity of a target that a division may use. -/
theorem DividesAmong.targetCapacity {allocations : OrderedDict String ℕ}
    (h : DividesAmong nodes targetNodeIds requestedGpus requireAll allocations)
    (hknown : ∀ node ∈ targetNodeIds, node ∈ nodes.keys) {node : String}
    (hnode : node ∈ targetNodeIds) :
    ∃ capacity, Scheduler.targetCapacity nodes requireAll node = .ok capacity ∧
      requireAll.toNat ≤ (allocations.get? node).getD 0 ∧
      (allocations.get? node).getD 0 ≤ capacity := by
  obtain ⟨info, hinfo⟩ := (OrderedDict.mem_keys_iff _).mp (hknown node hnode)
  unfold Scheduler.targetCapacity
  rw [hinfo]
  dsimp only
  cases hcount : allocations.get? node with
  | none =>
    -- a target that the division leaves out is not a required one
    have hoptional : requireAll = false := by
      by_contra hall
      obtain ⟨count, hcount'⟩ := (OrderedDict.mem_keys_iff _).mp
        (h.all (Bool.eq_true_of_not_eq_false hall) node hnode)
      rw [hcount] at hcount'
      exact absurd hcount' (by simp)
    subst hoptional
    by_cases hready : info.state = .ready
    · rw [if_neg (not_not.mpr hready)]
      exact ⟨_, rfl, Nat.zero_le _, Nat.zero_le _⟩
    · rw [if_pos hready, if_neg Bool.false_ne_true]
      exact ⟨0, rfl, Nat.zero_le _, Nat.zero_le _⟩
  | some count =>
    obtain ⟨info', hinfo', hready, hle⟩ := h.fits node count hcount
    obtain rfl : info = info' := Option.some.inj (hinfo.symm.trans hinfo')
    rw [if_neg (not_not.mpr hready)]
    have hpos := h.positive node count hcount
    have hbase : requireAll.toNat ≤ 1 := by cases requireAll <;> decide
    exact ⟨_, rfl, hbase.trans hpos, hle⟩

/-- **Completeness.**  When the targets are nodes of the table, a division that exists is found. -/
theorem exists_distributedGpuAllocation (hpositive : 0 < requestedGpus)
    (hknown : ∀ node ∈ targetNodeIds, node ∈ nodes.keys) {allocations : OrderedDict String ℕ}
    (h : DividesAmong nodes targetNodeIds requestedGpus requireAll allocations) :
    ∃ found, distributedGpuAllocation nodes targetNodeIds requestedGpus requireAll = .ok found := by
  have hmem : ∀ {node}, node ∈ normalizedTargets targetNodeIds → node ∈ targetNodeIds :=
    fun hnode => (mem_normalizedTargets _).mp hnode
  have htargets : normalizedTargets targetNodeIds ≠ [] := by
    obtain ⟨entry, hentry⟩ := List.exists_mem_of_ne_nil _ h.nonempty
    have hkey := h.targets entry.1 (List.mem_map_of_mem hentry)
    exact List.ne_nil_of_mem ((mem_normalizedTargets _).mpr hkey)
  obtain ⟨capacities, hcap⟩ := exists_targetCapacities nodes requireAll
    (normalizedTargets targetNodeIds) (fun node hnode => by
      obtain ⟨capacity, hcapacity, -⟩ := h.targetCapacity hknown (hmem hnode)
      exact ⟨capacity, hcapacity⟩) .empty
  have hkeys : capacities.keys = normalizedTargets targetNodeIds := by
    simpa using keys_targetCapacities (by simpa using nodup_normalizedTargets targetNodeIds) hcap
  -- between the base and the capacity of every target lies what the division gives it
  have hbetween : ∀ node ∈ normalizedTargets targetNodeIds,
      requireAll.toNat ≤ (allocations.get? node).getD 0 ∧
        (allocations.get? node).getD 0 ≤ (capacities.get? node).getD 0 := by
    intro node hnode
    obtain ⟨capacity, hcapacity, hbase, hle⟩ := h.targetCapacity hknown (hmem hnode)
    obtain ⟨capacity', hget⟩ := (OrderedDict.mem_keys_iff _).mp (hkeys ▸ hnode)
    have hread : Scheduler.targetCapacity nodes requireAll node = .ok capacity' := by
      simpa using get?_targetCapacities hcap hget
    obtain rfl : capacity = capacity' := Except.ok.inj (hcapacity.symm.trans hread)
    rw [hget, Option.getD_some]
    exact ⟨hbase, hle⟩
  have hbase : requireAll.toNat * (normalizedTargets targetNodeIds).length ≤
      requestedGpus.toNat := by
    rw [← h.sum_targets, mul_comm, ← Nat.nsmul_eq_mul, ← List.sum_replicate, ← List.map_const']
    exact List.sum_le_sum fun node hnode => (hbetween node hnode).1
  have hroom : requestedGpus.toNat - requireAll.toNat * (normalizedTargets targetNodeIds).length ≤
      ((normalizedTargets targetNodeIds).map fun node =>
        (capacities.get? node).getD 0 - requireAll.toNat).sum := by
    have hsplit : ((normalizedTargets targetNodeIds).map fun node =>
        ((allocations.get? node).getD 0 - requireAll.toNat) + requireAll.toNat).sum =
        requestedGpus.toNat := by
      rw [← h.sum_targets]
      congr 1
      exact List.map_congr_left fun node hnode => Nat.sub_add_cancel (hbetween node hnode).1
    rw [List.sum_map_add, List.map_const', List.sum_replicate, Nat.nsmul_eq_mul] at hsplit
    have hle : ((normalizedTargets targetNodeIds).map fun node =>
        (allocations.get? node).getD 0 - requireAll.toNat).sum ≤
        ((normalizedTargets targetNodeIds).map fun node =>
          (capacities.get? node).getD 0 - requireAll.toNat).sum :=
      List.sum_le_sum fun node hnode => Nat.sub_le_sub_right (hbetween node hnode).2 _
    rw [mul_comm]
    omega
  refine ⟨_, distributedGpuAllocation_eq_ok_iff.mpr
    ⟨hpositive, htargets, hbase, capacities, hcap, ?_, ?_, rfl⟩⟩
  · intro node capacity hcapacity
    have hnode : node ∈ normalizedTargets targetNodeIds :=
      hkeys ▸ (OrderedDict.mem_keys_iff _).mpr ⟨capacity, hcapacity⟩
    have hle := hbetween node hnode
    rw [hcapacity, Option.getD_some] at hle
    exact hle.1.trans hle.2
  · exact fillTargets_remaining hkeys (nodup_normalizedTargets _) hroom

/-- **The division is exact.**  For targets of the table, an answer divides the request among
them, and an exception means that no division does. -/
theorem distributedGpuAllocation_exact (hpositive : 1 ≤ requestedGpus)
    (hknown : ∀ node ∈ targetNodeIds, node ∈ nodes.keys) :
    (∀ allocations,
      distributedGpuAllocation nodes targetNodeIds requestedGpus requireAll = .ok allocations →
        DividesAmong nodes targetNodeIds requestedGpus requireAll allocations) ∧
    ((∃ failure,
      distributedGpuAllocation nodes targetNodeIds requestedGpus requireAll = .error failure) ↔
        ¬ ∃ allocations,
          DividesAmong nodes targetNodeIds requestedGpus requireAll allocations) := by
  refine ⟨fun allocations => distributedGpuAllocation_divides, ?_, ?_⟩
  · rintro ⟨failure, hfailure⟩ ⟨allocations, hdivides⟩
    obtain ⟨found, hfound⟩ := exists_distributedGpuAllocation hpositive hknown hdivides
    rw [hfailure] at hfound
    exact absurd hfound (by simp)
  · intro hnone
    cases hresult : distributedGpuAllocation nodes targetNodeIds requestedGpus requireAll with
    | error failure => exact ⟨failure, rfl⟩
    | ok allocations => exact absurd ⟨allocations, distributedGpuAllocation_divides hresult⟩ hnone

/-- Five GPUs over two ready nodes, one of them named twice, with a fraction free on it. -/
theorem distributedGpuAllocation_exact_fraction :
    let nodes : NodeTable :=
      ⟨[("a", ⟨.ready, 5 / 2, 4⟩), ("b", ⟨.ready, 3, 4⟩), ("c", ⟨.dead, 4, 4⟩)], by decide⟩
    (∀ allocations, distributedGpuAllocation nodes ["a", "b", "a"] 5 true = .ok allocations →
        DividesAmong nodes ["a", "b", "a"] 5 true allocations) ∧
    ((∃ failure, distributedGpuAllocation nodes ["a", "b", "a"] 5 true = .error failure) ↔
        ¬ ∃ allocations, DividesAmong nodes ["a", "b", "a"] 5 true allocations) :=
  distributedGpuAllocation_exact (by decide) (by decide)

end Division

end Scheduler
end SpotServe
