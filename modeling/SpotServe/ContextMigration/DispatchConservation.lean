import Mathlib.Algebra.Order.Field.Rat
import Mathlib.Tactic.Linarith
import Mathlib.Tactic.Positivity
import SpotServe.ContextMigration.ExpertDispatch

/-!
# The expert dispatch estimate conserves tokens

The route histogram is flattened by one recursion, its keys are normalized by a second pass and
the entries are split into local and remote ones.  Each pass adds counts under a key that may be
there already (`addTokens`), which moves the total by the count and nothing else.

* `routedCounts`: the positive counts of a nested histogram, one after the other, without the
  map they are collected in.
* `visitHistogram_eq`: the flattening is a fold over these counts.
* `totalTokens_sourceExpertRouteHistogram`: its total is theirs, the leaves without a key apart.
* `totalTokens_normalizedPart_add`: what a predicate on the keys selects and what it leaves out
  make up the whole.
* `estimateExpertDispatchCost_conserves`: the report.
-/

namespace SpotServe
namespace ContextMigration

open Py

/-! ## Adding a count -/

@[simp] theorem totalTokens_nil : totalTokens [] = 0 := rfl

@[simp] theorem totalTokens_cons (entry : String × ℕ) (histogram : Histogram) :
    totalTokens (entry :: histogram) = entry.2 + totalTokens histogram :=
  List.sum_cons

/-- A count moves the total by its tokens, whether or not its key is new. -/
@[simp] theorem totalTokens_addTokens (histogram : Histogram) (key : String) (tokens : ℕ) :
    totalTokens (addTokens histogram key tokens) = totalTokens histogram + tokens := by
  induction histogram with
  | nil =>
    rw [addTokens, totalTokens_cons]
    exact Nat.add_comm tokens 0
  | cons entry rest ih =>
    obtain ⟨k, n⟩ := entry
    rw [addTokens]
    split_ifs with heq
    · rw [totalTokens_cons, totalTokens_cons]
      omega
    · rw [totalTokens_cons, totalTokens_cons, ih]
      omega

/-- A count adds no key but its own. -/
theorem mem_keys_addTokens {histogram : Histogram} {key key' : String} {tokens : ℕ}
    (h : key' ∈ (addTokens histogram key tokens).map Prod.fst) :
    key' = key ∨ key' ∈ histogram.map Prod.fst := by
  induction histogram with
  | nil => exact Or.inl (List.mem_singleton.mp h)
  | cons entry rest ih =>
    obtain ⟨k, n⟩ := entry
    rw [addTokens] at h
    split_ifs at h with heq
    · exact Or.inr h
    · rw [List.map_cons, List.mem_cons] at h ⊢
      rcases h with h | h
      · exact Or.inr (Or.inl h)
      · exact (ih h).imp_right Or.inr

/-- The total by layer is the total by expert. -/
theorem totalTokens_routedTokensByLayer (histogram : Histogram) :
    totalTokens (routedTokensByLayer histogram) = totalTokens histogram := by
  suffices h : ∀ start : Histogram,
      totalTokens (histogram.foldl (fun acc kn => addTokens acc (expertLayerKey kn.1) kn.2) start) =
        totalTokens start + totalTokens histogram from (h []).trans (Nat.zero_add _)
  induction histogram with
  | nil => exact fun start => rfl
  | cons entry rest ih =>
    intro start
    rw [List.foldl_cons, ih, totalTokens_addTokens, totalTokens_cons, Nat.add_assoc]

/-! ## The counts of a nested histogram -/

/-- A positive count that the flattening comes to, with the key of its path or of its record. -/
structure RoutedCount where
  key : String
  tokens : ℕ
  positive : 0 < tokens
  isRecord : Bool

/-- A leaf is dropped when nothing of its path is left as a key; a record never is. -/
def RoutedCount.kept (count : RoutedCount) : Bool :=
  count.isRecord || count.key ≠ ""

/-- The count of a value, when it is one and positive. -/
def positiveCount (key : String) (isRecord : Bool) (value : Value) : List RoutedCount :=
  match asNonNegativeInt (some value) with
  | some (n + 1) => [⟨key, n + 1, n.succ_pos, isRecord⟩]
  | _ => []

mutual

/-- The positive counts of a node, in the order in which it is visited. -/
def routedCounts (parts : List String) : Value → List RoutedCount
  | .list xs => routedCountsOfList parts 0 xs
  | .dict items =>
    if isExpertRecord items then positiveCount (recordKey items) true (recordTokens items)
    else routedCountsOfItems parts items
  | node => positiveCount (expertKeyFromParts parts) false node

/-- The positive counts of the entries of a list. -/
def routedCountsOfList (parts : List String) (index : ℕ) : List Value → List RoutedCount
  | [] => []
  | x :: xs => routedCounts (parts ++ [toString index]) x ++ routedCountsOfList parts (index + 1) xs

/-- The positive counts of the items of a mapping. -/
def routedCountsOfItems (parts : List String) : List (String × Value) → List RoutedCount
  | [] => []
  | (key, child) :: items => routedCounts (parts ++ [key]) child ++ routedCountsOfItems parts items

end

/-- A count enters the histogram under its key. -/
def RoutedCount.addTo (histogram : Histogram) (count : RoutedCount) : Histogram :=
  if count.kept then addTokens histogram count.key count.tokens else histogram

/-- A record enters under its key, whatever the key is. -/
theorem foldl_addTo_record (histogram : Histogram) (key : String) (value : Value) :
    (positiveCount key true value).foldl RoutedCount.addTo histogram =
      match asNonNegativeInt (some value) with
      | some (n + 1) => addTokens histogram key (n + 1)
      | _ => histogram := by
  unfold positiveCount
  split
  · rfl
  · rfl

/-- A leaf enters under its key when it has one. -/
theorem foldl_addTo_leaf (histogram : Histogram) (key : String) (value : Value) :
    (positiveCount key false value).foldl RoutedCount.addTo histogram =
      match asNonNegativeInt (some value) with
      | some (n + 1) => if key = "" then histogram else addTokens histogram key (n + 1)
      | _ => histogram := by
  unfold positiveCount
  split
  · rw [List.foldl_cons, List.foldl_nil]
    by_cases hkey : key = "" <;> simp [RoutedCount.addTo, RoutedCount.kept, hkey]
  · rfl

mutual

/-- **The flattening is a fold** over the counts. -/
theorem visitHistogram_eq (parts : List String) (histogram : Histogram) (node : Value) :
    visitHistogram parts histogram node =
      (routedCounts parts node).foldl RoutedCount.addTo histogram := by
  cases node with
  | list xs => rw [visitHistogram, routedCounts, visitList_eq]
  | dict items =>
    rw [visitHistogram, routedCounts]
    split_ifs with hrecord
    · exact (foldl_addTo_record histogram _ _).symm
    · rw [visitItems_eq]
  | none => rfl
  | bool b => exact (foldl_addTo_leaf histogram (expertKeyFromParts parts) _).symm
  | int n => exact (foldl_addTo_leaf histogram (expertKeyFromParts parts) _).symm
  | float q text => exact (foldl_addTo_leaf histogram (expertKeyFromParts parts) _).symm
  | str s => exact (foldl_addTo_leaf histogram (expertKeyFromParts parts) _).symm

theorem visitList_eq (parts : List String) (index : ℕ) (histogram : Histogram)
    (xs : List Value) :
    visitList parts index histogram xs =
      (routedCountsOfList parts index xs).foldl RoutedCount.addTo histogram := by
  cases xs with
  | nil => rw [visitList, routedCountsOfList, List.foldl_nil]
  | cons x xs =>
    rw [visitList, routedCountsOfList, List.foldl_append, visitHistogram_eq, visitList_eq]

theorem visitItems_eq (parts : List String) (histogram : Histogram)
    (items : List (String × Value)) :
    visitItems parts histogram items =
      (routedCountsOfItems parts items).foldl RoutedCount.addTo histogram := by
  cases items with
  | nil => rw [visitItems, routedCountsOfItems, List.foldl_nil]
  | cons item items =>
    obtain ⟨key, child⟩ := item
    rw [visitItems, routedCountsOfItems, List.foldl_append, visitHistogram_eq, visitItems_eq]

end

/-- The counts of a payload, or of its part under the request's id when that is a mapping. -/
def routeCounts (value : Option Value) (requestId : Option String) : List RoutedCount :=
  match value with
  | some (.dict items) =>
    match requestId.bind fun key => if key = "" then none else items.lookup key with
    | some (.dict inner) => routedCounts [] (.dict inner)
    | _ => routedCounts [] (.dict items)
  | _ => []

theorem flattenExpertHistogram_eq (value : Option Value) (requestId : Option String) :
    flattenExpertHistogram value requestId =
      (routeCounts value requestId).foldl RoutedCount.addTo [] := by
  unfold flattenExpertHistogram routeCounts
  rcases value with _ | value
  · rfl
  · cases value with
    | dict items =>
      dsimp only
      generalize requestId.bind (fun key => if key = "" then none else items.lookup key) = part
      rcases part with _ | inner
      · exact visitHistogram_eq ..
      · cases inner <;> exact visitHistogram_eq ..
    | _ => rfl

/-- The tokens of a list of counts. -/
def tokensOf (counts : List RoutedCount) : ℕ :=
  (counts.map RoutedCount.tokens).sum

/-- What the flattening leaves out it does not see. -/
theorem foldl_addTo (counts : List RoutedCount) (histogram : Histogram) :
    counts.foldl RoutedCount.addTo histogram =
      (counts.filter RoutedCount.kept).foldl
        (fun acc count => addTokens acc count.key count.tokens) histogram :=
  List.foldl_filter.symm

/-- The total of a fold over counts. -/
theorem totalTokens_foldl_addTokens (counts : List RoutedCount) (histogram : Histogram) :
    totalTokens (counts.foldl (fun acc count => addTokens acc count.key count.tokens) histogram) =
      totalTokens histogram + tokensOf counts := by
  induction counts generalizing histogram with
  | nil => rfl
  | cons count counts ih =>
    rw [List.foldl_cons, ih, totalTokens_addTokens]
    show _ = totalTokens histogram + (count.tokens + tokensOf counts)
    omega

/-- The counts that the flattening of a source's histogram visits. -/
def sourceRouteCounts (source : ContextMetadata) : List RoutedCount :=
  routeCounts (metadataValue source.metadata ["per_request_expert_route_histogram"])
    source.requestId

/-- **The flattening conserves tokens**, up to the leaves without a key. -/
theorem totalTokens_sourceExpertRouteHistogram (source : ContextMetadata) :
    totalTokens (sourceExpertRouteHistogram source) =
      tokensOf ((sourceRouteCounts source).filter RoutedCount.kept) := by
  rw [sourceExpertRouteHistogram, flattenExpertHistogram_eq, foldl_addTo,
    totalTokens_foldl_addTokens]
  exact Nat.zero_add _

/-- A histogram with an entry has tokens, since every count is positive. -/
theorem totalTokens_sourceExpertRouteHistogram_pos {source : ContextMetadata}
    (h : sourceExpertRouteHistogram source ≠ []) :
    0 < totalTokens (sourceExpertRouteHistogram source) := by
  rw [totalTokens_sourceExpertRouteHistogram]
  rw [sourceExpertRouteHistogram, flattenExpertHistogram_eq, foldl_addTo] at h
  show 0 < tokensOf
    ((routeCounts _ source.requestId).filter RoutedCount.kept)
  cases hkept : (routeCounts (metadataValue source.metadata ["per_request_expert_route_histogram"])
      source.requestId).filter RoutedCount.kept with
  | nil => exact absurd (congrArg (List.foldl _ _) hkept) h
  | cons count counts =>
    show 0 < count.tokens + tokensOf counts
    exact Nat.add_pos_left count.positive _

/-! ## Local and remote -/

section Parts

variable (p : String → Bool) (histogram : Histogram)

/-- **The split conserves tokens**: an entry goes to one of the two parts. -/
theorem totalTokens_normalizedPart_add :
    totalTokens (normalizedPart p histogram) +
      totalTokens (normalizedPart (fun key => !p key) histogram) = totalTokens histogram := by
  suffices h : ∀ here there : Histogram,
      totalTokens (histogram.foldl (fun acc kn => if p (normalizeExpertKey kn.1) then
          addTokens acc (normalizeExpertKey kn.1) kn.2 else acc) here) +
        totalTokens (histogram.foldl (fun acc kn => if !p (normalizeExpertKey kn.1) then
          addTokens acc (normalizeExpertKey kn.1) kn.2 else acc) there) =
      totalTokens here + totalTokens there + totalTokens histogram from
    (h [] []).trans (Nat.zero_add _)
  induction histogram with
  | nil => exact fun here there => rfl
  | cons entry rest ih =>
    intro here there
    rw [List.foldl_cons, List.foldl_cons, ih, totalTokens_cons]
    cases p (normalizeExpertKey entry.1) <;> simp <;> omega

/-- A part has keys of its own only. -/
theorem of_mem_keys_normalizedPart {key : String}
    (h : key ∈ (normalizedPart p histogram).map Prod.fst) : p key = true := by
  suffices hfold : ∀ start : Histogram, (∀ key ∈ start.map Prod.fst, p key = true) →
      ∀ key ∈ (histogram.foldl (fun acc kn => if p (normalizeExpertKey kn.1) then
        addTokens acc (normalizeExpertKey kn.1) kn.2 else acc) start).map Prod.fst,
          p key = true from
    hfold [] (fun key hkey => absurd hkey List.not_mem_nil) key h
  clear h
  induction histogram with
  | nil => exact fun start hstart => hstart
  | cons entry rest ih =>
    intro start hstart
    refine ih _ fun key hkey => ?_
    dsimp only at hkey
    split_ifs at hkey with hentry
    · rcases mem_keys_addTokens hkey with rfl | hkey
      · exact hentry
      · exact hstart key hkey
    · exact hstart key hkey

end Parts

/-! ## The report -/

/-- What an available report says about a number of routed tokens. -/
structure ExpertDispatch.Conserves (report : ExpertDispatch) (tokens : ℕ) : Prop where
  routed : report.routedTokens = tokens
  split : report.localRoutedTokens + report.remoteRoutedTokens = report.routedTokens
  localByExpert : totalTokens report.localRoutedTokensByExpert = report.localRoutedTokens
  remoteByExpert : totalTokens report.remoteRoutedTokensByExpert = report.remoteRoutedTokens
  localByLayer : totalTokens report.localRoutedTokensByLayer = report.localRoutedTokens
  remoteByLayer : totalTokens report.remoteRoutedTokensByLayer = report.remoteRoutedTokens
  disjoint : ∀ key ∈ report.localRoutedTokensByExpert.map Prod.fst,
    key ∉ report.remoteRoutedTokensByExpert.map Prod.fst
  locality : 0 ≤ report.localityRatio ∧ report.localityRatio ≤ 1
  remote : 0 ≤ report.remoteRoutingRatio ∧ report.remoteRoutingRatio ≤ 1
  whole : report.localityRatio + report.remoteRoutingRatio = 1

variable {source : ContextMetadata} {target : MigrationTarget} {config : PlannerConfig}

/-- Without a histogram there is no estimate. -/
theorem sourceExpertRouteHistogram_ne_nil
    (h : (estimateExpertDispatchCost source target config).available = true) :
    sourceExpertRouteHistogram source ≠ [] := by
  intro hnil
  rw [estimateExpertDispatchCost, hnil, if_pos (by simp)] at h
  exact absurd h Bool.false_ne_true

/-- **The estimate conserves tokens.**  Where it is available, what it calls routed, local and
remote are the counts of the histogram, the leaves without a key apart. -/
theorem estimateExpertDispatchCost_conserves
    (h : (estimateExpertDispatchCost source target config).available = true) :
    (estimateExpertDispatchCost source target config).Conserves
      (tokensOf ((sourceRouteCounts source).filter RoutedCount.kept)) := by
  have hpos := totalTokens_sourceExpertRouteHistogram_pos (sourceExpertRouteHistogram_ne_nil h)
  have hsplit := totalTokens_normalizedPart_add
    (fun key => (targetExpertPlacementKeys target).contains key) (sourceExpertRouteHistogram source)
  unfold estimateExpertDispatchCost at h ⊢
  dsimp only at h ⊢
  split_ifs at h ⊢ with hunavailable hzero
  · exact absurd h Bool.false_ne_true
  · exact absurd hzero hpos.ne'
  set here := normalizedPart (fun key => (targetExpertPlacementKeys target).contains key)
    (sourceExpertRouteHistogram source)
  set there := normalizedPart (fun key => !(targetExpertPlacementKeys target).contains key)
    (sourceExpertRouteHistogram source)
  set total := totalTokens (sourceExpertRouteHistogram source) with htotal
  have hlow : (0 : ℚ) ≤ totalTokens here / total := by positivity
  have hhigh : (totalTokens here : ℚ) / total ≤ 1 := by
    rw [div_le_one (by exact_mod_cast hpos)]
    exact_mod_cast (by omega : totalTokens here ≤ total)
  have hdisjoint : ∀ key ∈ here.map Prod.fst, key ∉ there.map Prod.fst := by
    intro key hhere hthere
    have hin := of_mem_keys_normalizedPart _ _ hhere
    have hout := of_mem_keys_normalizedPart _ _ hthere
    rw [hin] at hout
    exact absurd hout Bool.false_ne_true
  exact {
    routed := totalTokens_sourceExpertRouteHistogram source
    split := hsplit
    localByExpert := rfl
    remoteByExpert := rfl
    localByLayer := totalTokens_routedTokensByLayer here
    remoteByLayer := totalTokens_routedTokensByLayer there
    disjoint := hdisjoint
    locality := ⟨hlow, hhigh⟩
    remote := ⟨sub_nonneg.mpr hhigh, sub_le_self 1 hlow⟩
    whole := add_sub_cancel _ _ }

/-- A context whose histogram has one count under the empty key and one under an expert's. -/
def keylessContext : ContextMetadata where
  requestId := some "r"
  instanceId := "old"
  nodeId := "node-a"
  numTokens := 8
  contextBlocks := 1
  tokens := []
  cacheBlockSize := 16
  cacheDtype := "fp16"
  cacheLayout := ""
  reusableTokensByTarget := []
  reusableBlocksByTarget := []
  metadata := [("per_request_expert_route_histogram",
    .dict [("", .int 5), ("0", .dict [("1", .int 3)])])]

/-- A target that names one expert. -/
def expertTarget : MigrationTarget where
  instanceId := "new"
  nodeId := "node-b"
  capacity := 1
  warmupCost := 0
  concurrency := 1
  maxQueueLength := 1
  queueDepth := some 0
  queuePenalty := 0
  metadata := [("expert_placement", .dict [("layer:0/expert:1", .dict [])])]

/-- Settings that switch the estimate on. -/
def dispatchConfig : PlannerConfig where
  number := fun _ => none
  enableMoeExpertLocality := some (.bool true)

theorem estimateExpertDispatchCost_conserves_keyless :
    (estimateExpertDispatchCost keylessContext expertTarget dispatchConfig).Conserves
      (tokensOf ((sourceRouteCounts keylessContext).filter RoutedCount.kept)) :=
  estimateExpertDispatchCost_conserves (by decide +kernel)

/-- The count under the empty key is visited, and dropped: the report knows three tokens of
eight. -/
theorem not_conserves_keyless :
    ¬ ∀ (source : ContextMetadata) (target : MigrationTarget) (config : PlannerConfig),
      (estimateExpertDispatchCost source target config).available = true →
        (estimateExpertDispatchCost source target config).Conserves
          (tokensOf (sourceRouteCounts source)) := by
  intro h
  have hrouted := (h keylessContext expertTarget dispatchConfig (by decide +kernel)).routed
  have hreported : (estimateExpertDispatchCost keylessContext expertTarget
      dispatchConfig).routedTokens = 3 := by decide +kernel
  have hvisited : tokensOf (sourceRouteCounts keylessContext) = 8 := by decide +kernel
  rw [hreported, hvisited] at hrouted
  exact absurd hrouted (by decide)

end ContextMigration
end SpotServe
