import Mathlib.Data.List.Sort
import Mathlib.Data.Rat.Floor
import Mathlib.Data.String.Basic
import SpotServe.Scheduler.NodeTable

/-!
# Splitting one instance over several nodes

`_distributed_gpu_allocation` divides a number of GPUs among target nodes: with
`require_all_target_nodes` one GPU for each of them, then the rest to the nodes with the most room.

`distributedGpuAllocation_ok` says what an answer is: positive counts on ready nodes, none above
the whole GPUs the node has free, which add up to the request.
-/

namespace SpotServe
namespace Scheduler

open Py

/-- What the scheduler raises. -/
inductive Failure where
  /-- "distributed allocation requires at least one GPU" -/
  | distributedNeedsGpu
  /-- "distributed allocation requires target_node_ids" -/
  | distributedNeedsTargets
  /-- "distributed allocation has fewer GPUs than target nodes" -/
  | fewerGpusThanTargets
  /-- "distributed_target_node_not_found:<node>" -/
  | targetNodeNotFound (node : String)
  /-- "distributed_target_node_not_ready:<node>" -/
  | targetNodeNotReady (node : String)
  /-- "distributed_target_nodes_have_no_gpu:<nodes>" -/
  | targetNodesHaveNoGpu (nodes : List String)
  /-- "insufficient_distributed_gpu_capacity:requested=,available=,targets=" -/
  | insufficientDistributedCapacity (requested available : ℕ) (targets : List String)
  /-- "num_gpus must be non-negative" -/
  | negativeGpus
  /-- "Allocation <model>/<instance> not found" -/
  | allocationNotFound (model instanceId : String)
  /-- "Node <node> not found" -/
  | nodeNotFound (node : String)
  /-- "insufficient_capacity_for_resource_resize: requested_delta=, available=, node=" -/
  | insufficientCapacityForResize (delta available : ℚ) (node : String)
  deriving DecidableEq

/-- The capacity of a target node, in whole GPUs. -/
def targetCapacity (nodes : NodeTable) (requireAll : Bool) (node : String) : Except Failure ℕ :=
  match nodes.get? node with
  | none => .error (.targetNodeNotFound node)
  | some info =>
    if info.state ≠ .ready then
      if requireAll then .error (.targetNodeNotReady node) else .ok 0
    else .ok ⌊info.freeGpu⌋₊

/-- The capacities of the target nodes, read in their order. -/
def targetCapacities (nodes : NodeTable) (requireAll : Bool) (targets : List String) :
    Except Failure (OrderedDict String ℕ) :=
  targets.foldlM
    (fun capacities node => (targetCapacity nodes requireAll node).map (capacities.set node)) .empty

/-- The loop that fills the nodes one after the other; also returns what could not be placed. -/
def fillNodes (capacities : OrderedDict String ℕ) :
    List String → OrderedDict String ℕ → ℕ → OrderedDict String ℕ × ℕ
  | [], allocations, remaining => (allocations, remaining)
  | node :: rest, allocations, remaining =>
    if remaining = 0 then (allocations, remaining)
    else
      let allocated := (allocations.get? node).getD 0
      let assigned := min ((capacities.get? node).getD 0 - allocated) remaining
      fillNodes capacities rest (allocations.set node (allocated + assigned)) (remaining - assigned)

/-- The order in which the nodes are filled: most room first, then by name. -/
def fillsBefore (room : String → ℕ) (a b : String) : Prop :=
  room b < room a ∨ room a = room b ∧ a ≤ b

instance (room : String → ℕ) : DecidableRel (fillsBefore room) := fun a b =>
  inferInstanceAs (Decidable (room b < room a ∨ room a = room b ∧ a ≤ b))

/-- `list(dict.fromkeys(target_node_ids))`. -/
def normalizedTargets (targetNodeIds : List String) : List String :=
  (targetNodeIds.foldl (fun seen node => seen.set node ()) (.empty : OrderedDict String Unit)).keys

/-- The targets filled up from `base` GPUs on each of them. -/
def fillTargets (capacities : OrderedDict String ℕ) (targets : List String) (base requested : ℕ) :
    OrderedDict String ℕ × ℕ :=
  let room := fun node => (capacities.get? node).getD 0 - base
  fillNodes capacities (targets.insertionSort (fillsBefore room))
    (capacities.mapValues fun _ _ => base) (requested - base * targets.length)

/-- `_distributed_gpu_allocation`. -/
def distributedGpuAllocation (nodes : NodeTable) (targetNodeIds : List String)
    (requestedGpus : ℤ) (requireAll : Bool) : Except Failure (OrderedDict String ℕ) :=
  let targets := normalizedTargets targetNodeIds
  let requested := requestedGpus.toNat
  if requestedGpus ≤ 0 then .error .distributedNeedsGpu
  else if targets = [] then .error .distributedNeedsTargets
  else if requireAll ∧ requested < targets.length then .error .fewerGpusThanTargets
  else
    match targetCapacities nodes requireAll targets with
    | .error failure => .error failure
    | .ok capacities =>
      let unavailable := (capacities.filter fun _ capacity => capacity < 1).keys
      if requireAll ∧ unavailable ≠ [] then .error (.targetNodesHaveNoGpu unavailable)
      else
        -- With `require_all_target_nodes` every node has one GPU before the rest is handed out.
        let filled := fillTargets capacities targets requireAll.toNat requested
        if filled.2 ≠ 0 then
          .error (.insufficientDistributedCapacity requested (capacities.sumBy fun _ c => c) targets)
        else .ok (filled.1.filter fun _ count => 0 < count)

/-! ## What an answer is -/

theorem keys_targetCapacities {nodes : NodeTable} {requireAll : Bool} {targets : List String}
    {start capacities : OrderedDict String ℕ} (hnodup : (start.keys ++ targets).Nodup)
    (h : targets.foldlM (fun capacities node =>
      (targetCapacity nodes requireAll node).map (capacities.set node)) start = .ok capacities) :
    capacities.keys = start.keys ++ targets := by
  induction targets generalizing start with
  | nil =>
    rw [List.foldlM_nil] at h
    obtain rfl := Except.ok.inj h
    rw [List.append_nil]
  | cons node targets ih =>
    rw [List.foldlM_cons] at h
    cases hnode : targetCapacity nodes requireAll node with
    | error failure =>
      rw [hnode] at h
      exact absurd h (by simp [Except.map, bind, Except.bind])
    | ok capacity =>
      rw [hnode] at h
      have hnew : node ∉ start.keys := fun hmem =>
        (List.nodup_append.mp hnodup).2.2 node hmem node (by simp) rfl
      have hkeys : (start.set node capacity).keys = start.keys ++ [node] := by
        rw [OrderedDict.keys_set, if_neg hnew]
      rw [ih (by simpa [hkeys] using hnodup) h, hkeys]
      simp

theorem get?_targetCapacities {nodes : NodeTable} {requireAll : Bool} {targets : List String}
    {start capacities : OrderedDict String ℕ}
    (h : targets.foldlM (fun capacities node =>
      (targetCapacity nodes requireAll node).map (capacities.set node)) start = .ok capacities)
    {node : String} {capacity : ℕ} (hnode : capacities.get? node = some capacity) :
    start.get? node = some capacity ∨ targetCapacity nodes requireAll node = .ok capacity := by
  induction targets generalizing start with
  | nil =>
    rw [List.foldlM_nil] at h
    obtain rfl := Except.ok.inj h
    exact .inl hnode
  | cons target targets ih =>
    rw [List.foldlM_cons] at h
    cases htarget : targetCapacity nodes requireAll target with
    | error failure =>
      rw [htarget] at h
      exact absurd h (by simp [Except.map, bind, Except.bind])
    | ok c =>
      rw [htarget] at h
      rcases ih h with hstart | hcapacity
      · rw [OrderedDict.get?_set] at hstart
        split_ifs at hstart with heq
        · subst heq
          exact .inr (htarget.trans (congrArg _ (Option.some.inj hstart)))
        · exact .inl hstart
      · exact .inr hcapacity

/-- A node with capacity is ready, and the capacity is what it has free in whole GPUs. -/
theorem targetCapacity_pos {nodes : NodeTable} {requireAll : Bool} {node : String} {capacity : ℕ}
    (h : targetCapacity nodes requireAll node = .ok capacity) (hpos : 0 < capacity) :
    ∃ info, nodes.get? node = some info ∧ info.state = .ready ∧ capacity = ⌊info.freeGpu⌋₊ := by
  unfold targetCapacity at h
  cases hinfo : nodes.get? node with
  | none => simp [hinfo] at h
  | some info =>
    rw [hinfo] at h
    by_cases hstate : info.state = .ready
    · exact ⟨info, rfl, hstate, by simpa [hstate] using h.symm⟩
    · cases requireAll
      · simp [hstate] at h
        omega
      · simp [hstate] at h

/-- Filling never exceeds a capacity. -/
theorem fillNodes_le {capacities : OrderedDict String ℕ} {order : List String}
    {allocations : OrderedDict String ℕ} {remaining : ℕ}
    (h : ∀ node count, allocations.get? node = some count →
      count ≤ (capacities.get? node).getD 0) {node : String} {count : ℕ}
    (hcount : (fillNodes capacities order allocations remaining).1.get? node = some count) :
    count ≤ (capacities.get? node).getD 0 := by
  induction order generalizing allocations remaining with
  | nil => exact h node count hcount
  | cons target order ih =>
    rw [fillNodes] at hcount
    split_ifs at hcount with hzero
    · exact h node count hcount
    · refine ih ?_ hcount
      intro node' count' h'
      rw [OrderedDict.get?_set] at h'
      split_ifs at h' with heq
      · subst heq
        have hle : (allocations.get? target).getD 0 ≤ (capacities.get? target).getD 0 := by
          cases hget : allocations.get? target with
          | none => exact Nat.zero_le _
          | some c => exact h target c hget
        have := Option.some.inj h'
        omega
      · exact h node' count' h'

/-- What is handed out and what remains add up. -/
theorem fillNodes_sum (capacities : OrderedDict String ℕ) (order : List String)
    (allocations : OrderedDict String ℕ) (remaining : ℕ) :
    ((fillNodes capacities order allocations remaining).1.sumBy fun _ count => count) +
        (fillNodes capacities order allocations remaining).2 =
      (allocations.sumBy fun _ count => count) + remaining := by
  induction order generalizing allocations remaining with
  | nil => rfl
  | cons target order ih =>
    rw [fillNodes]
    split_ifs with hzero
    · rfl
    · rw [ih, OrderedDict.sumBy_set_getD_add]
      omega

theorem fillTargets_le {capacities : OrderedDict String ℕ} {base : ℕ}
    (hbase : ∀ node capacity, capacities.get? node = some capacity → base ≤ capacity)
    {targets : List String} {requested : ℕ} {node : String} {count : ℕ}
    (h : (fillTargets capacities targets base requested).1.get? node = some count) :
    count ≤ (capacities.get? node).getD 0 := by
  refine fillNodes_le ?_ h
  intro node' count' h'
  rw [OrderedDict.get?_mapValues, Option.map_eq_some_iff] at h'
  obtain ⟨capacity, hcapacity, rfl⟩ := h'
  rw [hcapacity]
  exact hbase node' capacity hcapacity

theorem fillTargets_sum {capacities : OrderedDict String ℕ} {targets : List String}
    (hkeys : capacities.keys = targets) {base requested : ℕ}
    (hbase : base * targets.length ≤ requested) :
    ((fillTargets capacities targets base requested).1.sumBy fun _ count => count) +
      (fillTargets capacities targets base requested).2 = requested := by
  have hstart : ((capacities.mapValues fun _ _ => base).sumBy fun _ count => count) =
      base * targets.length := by
    rw [← hkeys]
    simp [OrderedDict.sumBy, OrderedDict.mapValues, OrderedDict.keys, Function.comp_def, mul_comm]
  unfold fillTargets
  rw [fillNodes_sum, hstart]
  omega

theorem nodup_normalizedTargets (targetNodeIds : List String) :
    (normalizedTargets targetNodeIds).Nodup := OrderedDict.nodup _

/-- **When there is an answer**, and which one. -/
theorem distributedGpuAllocation_eq_ok_iff {nodes : NodeTable} {targetNodeIds : List String}
    {requestedGpus : ℤ} {requireAll : Bool} {allocations : OrderedDict String ℕ} :
    distributedGpuAllocation nodes targetNodeIds requestedGpus requireAll = .ok allocations ↔
      0 < requestedGpus ∧ normalizedTargets targetNodeIds ≠ [] ∧
      requireAll.toNat * (normalizedTargets targetNodeIds).length ≤ requestedGpus.toNat ∧
      ∃ capacities,
        targetCapacities nodes requireAll (normalizedTargets targetNodeIds) = .ok capacities ∧
        (∀ node capacity, capacities.get? node = some capacity → requireAll.toNat ≤ capacity) ∧
        let filled := fillTargets capacities (normalizedTargets targetNodeIds) requireAll.toNat
          requestedGpus.toNat
        filled.2 = 0 ∧ allocations = filled.1.filter fun _ count => 0 < count := by
  -- with `require_all_target_nodes`, no target is reported as having no GPU
  have hunavailable : ∀ capacities : OrderedDict String ℕ,
      (¬ (requireAll = true ∧ (capacities.filter fun _ capacity => capacity < 1).keys ≠ [])) ↔
        ∀ node capacity, capacities.get? node = some capacity → requireAll.toNat ≤ capacity := by
    intro capacities
    cases requireAll with
    | false => simp
    | true =>
      constructor
      · intro h node capacity hcapacity
        by_contra hlt
        refine h ⟨rfl, List.ne_nil_of_mem (a := node) ?_⟩
        rw [OrderedDict.mem_keys_iff]
        exact ⟨capacity, (OrderedDict.get?_filter ..).mpr ⟨hcapacity, by simpa using hlt⟩⟩
      · rintro h ⟨-, hne⟩
        obtain ⟨node, hnode⟩ := List.exists_mem_of_ne_nil _ hne
        obtain ⟨capacity, hcapacity⟩ := (OrderedDict.mem_keys_iff _).mp hnode
        obtain ⟨hcapacity, hlt⟩ := (OrderedDict.get?_filter ..).mp hcapacity
        have hle := h node capacity hcapacity
        simp at hle hlt
        omega
  have hfew : (¬ (requireAll = true ∧
      requestedGpus.toNat < (normalizedTargets targetNodeIds).length)) ↔
        requireAll.toNat * (normalizedTargets targetNodeIds).length ≤ requestedGpus.toNat := by
    cases requireAll <;> simp
  unfold distributedGpuAllocation
  dsimp only
  constructor
  · intro h
    split_ifs at h with hpos htargets hfits
    cases hcap : targetCapacities nodes requireAll (normalizedTargets targetNodeIds) with
    | error failure => simp [hcap] at h
    | ok capacities =>
      rw [hcap] at h
      dsimp only at h
      split_ifs at h with hnone hremaining
      exact ⟨not_le.mp hpos, htargets, hfew.mp hfits, capacities, rfl,
        (hunavailable capacities).mp hnone, not_not.mp hremaining, (Except.ok.inj h).symm⟩
  · rintro ⟨hpos, htargets, hfits, capacities, hcap, hcapacity, hremaining, rfl⟩
    rw [if_neg (not_le.mpr hpos), if_neg htargets, if_neg (hfew.mpr hfits), hcap]
    dsimp only
    rw [if_neg ((hunavailable capacities).mpr hcapacity), if_neg (not_not.mpr hremaining)]

/-- An answer of `_distributed_gpu_allocation` over a node table. -/
structure Divides (nodes : NodeTable) (requestedGpus : ℤ) (allocations : OrderedDict String ℕ) :
    Prop where
  sum : ((allocations.sumBy fun _ count => count : ℕ) : ℤ) = requestedGpus
  nonempty : allocations.entries ≠ []
  fits : ∀ node count, allocations.get? node = some count →
    ∃ info, nodes.get? node = some info ∧ info.state = .ready ∧ count ≤ ⌊info.freeGpu⌋₊

theorem distributedGpuAllocation_ok {nodes : NodeTable} {targetNodeIds : List String}
    {requestedGpus : ℤ} {requireAll : Bool} {allocations : OrderedDict String ℕ}
    (h : distributedGpuAllocation nodes targetNodeIds requestedGpus requireAll = .ok allocations) :
    Divides nodes requestedGpus allocations := by
  obtain ⟨hpos, -, hfits, capacities, hcap, hbase, hremaining, rfl⟩ :=
    distributedGpuAllocation_eq_ok_iff.mp h
  have hkeys : capacities.keys = normalizedTargets targetNodeIds := by
    simpa using keys_targetCapacities (by simpa using nodup_normalizedTargets targetNodeIds) hcap
  have hsum := fillTargets_sum hkeys hfits
  rw [hremaining, add_zero] at hsum
  have htotal : ((fillTargets capacities (normalizedTargets targetNodeIds) requireAll.toNat
      requestedGpus.toNat).1.filter fun _ count => 0 < count).sumBy (fun _ count => count) =
      requestedGpus.toNat := by
    rw [OrderedDict.sumBy_filter, hsum]
    intro _ count hzero
    simpa using hzero
  refine ⟨?_, ?_, ?_⟩
  · rw [htotal]
    omega
  · intro hempty
    rw [OrderedDict.sumBy, hempty] at htotal
    simp at htotal
    omega
  · intro node count hcount
    obtain ⟨hcount, hpositive⟩ := (OrderedDict.get?_filter ..).mp hcount
    have hpositive : 0 < count := by simpa using hpositive
    have hle := fillTargets_le hbase hcount
    cases hcapacity : capacities.get? node with
    | none => simp [hcapacity] at hle; omega
    | some capacity =>
      rw [hcapacity, Option.getD_some] at hle
      have htarget : targetCapacity nodes requireAll node = .ok capacity := by
        simpa using get?_targetCapacities hcap hcapacity
      obtain ⟨info, hinfo, hready, rfl⟩ := targetCapacity_pos htarget (by omega)
      exact ⟨info, hinfo, hready, hle⟩

end Scheduler
end SpotServe
