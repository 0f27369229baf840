import SpotServe.ExpertRemap.Invisible
import SpotServe.ExpertRemap.PlannerContract
import SpotServe.ExpertRemap.Progress
import SpotServe.RouteTracing.Attribution

/-!
# What a worker finds loaded, and whether it is the plan

`inspect_runtime_expert_placement` and `verify_expert_placement_plan` of `vllm/spotserve_moe.py`.  A
worker lists the experts that its modules hold, under names that it makes up itself, and compares
the list with the ranks that a plan names.  Remapping reads the names of a plan in one way and
verifying in another, so that a verified remap says something only if both ways agree.

* `inspectRuntimeExpertPlacement`, `compareRuntimeExpertPlacement`: the code.
* `expertRankMatches_iff`: a rank that the planner names is a worker's own when the numbers are.
* `verified_iff`: a worker verifies a plan exactly when it holds the experts that the plan
  gives its rank, and no others.
* `remap_verifies`: after a remap all workers verify its plan.
-/

namespace SpotServe
namespace ExpertRemap

open Py Runs ExpertPlacement
open SparseA2A (ExpertMap)
open RouteTracing (layerIdFromName)

/-! ## Names of ranks -/

/-- `\d+` at the start of a text. -/
def leadingDigits (text : List Char) : Option String :=
  let digits := text.takeWhile fun c => (digitValue? c).isSome
  if digits = [] then none else some (String.ofList digits)

/-- `re.search(r"ep-rank:(\d+)", text).group(1)`. -/
def epRankText (text : String) : Option String :=
  search (fun rest => (matchLiteral "ep-rank:".toList rest).bind leadingDigits) text.toList

/-- `_rank_aliases`, for a worker that knows both of its ranks. -/
def rankAliases (workerRank epRank : ℕ) : List String :=
  ([toString workerRank, "rank:" ++ toString workerRank, "worker:" ++ toString workerRank,
    "worker-rank:" ++ toString workerRank, toString epRank, "ep-rank:" ++ toString epRank,
    "replica:0/ep-rank:" ++ toString epRank,
    "worker:" ++ toString workerRank ++ "/ep-rank:" ++ toString epRank].dedup).insertionSort (· ≤ ·)

/-- An expert that a worker holds: a value of `shards`. -/
structure RuntimeShard where
  layerId : String
  expertId : ℕ
  rankId : String
  rankAliases : List String
  workerRank : ℕ
  epRank : ℕ
  epSize : ℕ
  moduleName : String
  placementSource : String

/-- `_expert_rank_matches`. -/
def expertRankMatches (expected : String) (actual : RuntimeShard) : Bool :=
  if expected = "" then false
  else if expected = actual.rankId then true
  else if expected ∈ actual.rankAliases then true
  else
    match epRankText expected with
    | none => false
    | some expectedEp =>
      epRankText actual.rankId = some expectedEp ||
        actual.rankAliases.any fun name => epRankText name = some expectedEp

/-! ## Inspection -/

section Inspect

variable {T O : Type} (logicalToPhysical : FusedMoE T → List (List ℤ))

/-- The entries of a map that name a local slot. -/
def mappedIds (entries : List ℤ) : List ℕ :=
  entries.zipIdx.filterMap fun (slot, id) => if 0 ≤ slot then some id else none

/-- `physical_to_logical`: of several logical experts on a physical one the last counts. -/
def physicalToLogical (rows : List (List ℤ)) : OrderedDict ℕ ℕ :=
  (rows.zipIdx.flatMap fun (physicalIds, logicalId) =>
    physicalIds.filterMap fun id => if 0 ≤ id then some (id.toNat, logicalId) else none).foldl
    (fun table entry => table.set entry.1 entry.2) .empty

/-- `_module_local_expert_ids`: the experts that a module holds, and how that is known.  The rows
of `logical_to_physical_map` belong to load balancing of the engine. -/
def moduleLocalExpertIds (m : FusedMoE T) : List ℕ × String :=
  if m.globalNumExperts = 0 then ([], "missing_global_num_experts")
  else
    match (m.expertMap.map (·.entries)).getD [] with
    | slot :: slots =>
      let physical := mappedIds (slot :: slots)
      let logical := ((physical.filterMap
        (physicalToLogical (logicalToPhysical m)).get?).dedup).insertionSort (· ≤ ·)
      if logicalToPhysical m ≠ [] ∧ logical ≠ [] then (logical, "eplb_logical_to_physical_map")
      else (physical, "expert_map")
    | [] =>
      if !m.useEp then (List.range m.globalNumExperts, "ep_disabled_all_experts_local")
      else if m.epSize ≤ 1 then
        (List.range m.globalNumExperts, "single_ep_rank_all_experts_local")
      else ([], "missing_expert_map_for_ep")

/-- The shard of an expert. -/
def shardOf (workerRank : ℕ) (name : String) (m : FusedMoE T) (expertId : ℕ) : RuntimeShard where
  layerId := layerIdFromName (some name)
  expertId := expertId
  rankId := "worker:" ++ toString workerRank ++ "/ep-rank:" ++ toString m.epRank
  rankAliases := rankAliases workerRank m.epRank
  workerRank := workerRank
  epRank := m.epRank
  epSize := m.epSize
  moduleName := name
  placementSource := (moduleLocalExpertIds logicalToPhysical m).2

/-- The shards of a module. -/
def moduleShards (workerRank : ℕ) (name : String) (m : FusedMoE T) :
    List (String × RuntimeShard) :=
  (moduleLocalExpertIds logicalToPhysical m).1.map fun expertId =>
    (RouteTracing.expertKey (some name) expertId,
      shardOf logicalToPhysical workerRank name m expertId)

/-- What an inspection returns. -/
structure RuntimePlacement where
  available : Bool
  reason : String
  shards : OrderedDict String RuntimeShard

/-- `inspect_runtime_expert_placement` for a loaded model. -/
def inspectRuntimeExpertPlacement (workerRank : ℕ) (model : Model T O) : RuntimePlacement :=
  let shards := ((fusedModules model).flatMap fun (name, _, m) =>
    moduleShards logicalToPhysical workerRank name m).foldl
    (fun shards entry => shards.set entry.1 entry.2) .empty
  { available := !shards.entries.isEmpty
    reason := if shards.entries.isEmpty then "no_expert_modules_discovered"
      else "runtime_expert_placement_snapshot"
    shards := shards }

end Inspect

/-! ## Comparison -/

/-- What `_compare_runtime_expert_placement` returns. -/
structure PlacementCheck where
  verified : Bool
  reason : String
  actualExpertPlacementAvailable : Bool
  matchedExpertCount : ℕ
  missingExpertCount : ℕ
  mismatchedRankCount : ℕ
  unexpectedLocalExpertCount : ℕ
  checkedExpertCount : ℕ
  localExpectedExpertCount : ℕ
  actualExpertCount : ℕ

/-- A comparison that does not take place. -/
def noCheck (reason : String) (available : Bool) : PlacementCheck :=
  ⟨false, reason, available, 0, 0, 0, 0, 0, 0, 0⟩

/-- `_compare_runtime_expert_placement`.  `snapshotRanks` are the ranks of the plan's
`expert_placement_snapshot`, which count when `expert_to_target_rank` is empty. -/
def compareRuntimeExpertPlacement (targetRanks snapshotRanks : OrderedDict String String)
    (placement : RuntimePlacement) : PlacementCheck :=
  let expected := if targetRanks.entries.isEmpty then snapshotRanks else targetRanks
  let actual := placement.shards
  if !placement.available then
    noCheck "runtime_expert_placement_snapshot_unavailable" false
  else if actual.entries.isEmpty then noCheck "runtime_expert_placement_snapshot_empty" false
  else if expected.entries.isEmpty then
    noCheck "placement_contract_has_no_expected_expert_ranks" true
  else
    let localExpected := expected.filter fun _ rank =>
      actual.values.any fun shard => expertRankMatches rank shard
    let unexpected := actual.keys.countP fun key => key ∉ localExpected.keys
    let missing := localExpected.keys.countP fun key => (actual.get? key).isNone
    let checked := localExpected.keys.countP fun key => (actual.get? key).isSome
    let matched := localExpected.entries.countP fun entry =>
      (actual.get? entry.1).any (expertRankMatches entry.2)
    let mismatched := localExpected.entries.countP fun entry =>
      (actual.get? entry.1).any fun shard => !expertRankMatches entry.2 shard
    let verified := decide (localExpected.entries ≠ [] ∧ matched = localExpected.entries.length ∧
      missing = 0 ∧ mismatched = 0 ∧ unexpected = 0)
    { verified := verified
      reason := if verified then "runtime_expert_placement_matches_contract"
        else "runtime_expert_placement_mismatch"
      actualExpertPlacementAvailable := true
      matchedExpertCount := matched
      missingExpertCount := missing
      mismatchedRankCount := mismatched
      unexpectedLocalExpertCount := unexpected
      checkedExpertCount := checked
      localExpectedExpertCount := localExpected.entries.length
      actualExpertCount := actual.entries.length }

/-! ## Reading the names -/

theorem isDigit_of_mem_toString {n : ℕ} {c : Char} (h : c ∈ (toString n).toList) :
    c.isDigit = true := by
  rw [toList_toString] at h
  exact Nat.isDigit_of_mem_toDigits (by decide) (by decide) h

theorem e_not_mem_toString (n : ℕ) : 'e' ∉ (toString n).toList := fun h =>
  absurd (isDigit_of_mem_toString h) (by decide)

theorem leadingDigits_toString (n : ℕ) {rest : List Char} (hrest : EndsNumber rest) :
    leadingDigits ((toString n).toList ++ rest) = some (toString n) := by
  have hdigits : ∀ c ∈ (toString n).toList, (digitValue? c).isSome = true := fun c hc => by
    rw [digitValue?_of_isDigit (isDigit_of_mem_toString hc)]
    rfl
  have hstop : rest.takeWhile (fun c => (digitValue? c).isSome) = [] := by
    cases rest with
    | nil => rfl
    | cons c rest =>
      have hc : digitValue? c = none := hrest c rfl
      rw [List.takeWhile_cons_of_neg (by rw [hc]; simp)]
  have hne : (toString n).toList ≠ [] := by
    rw [toList_toString]
    exact Nat.toDigits_ne_nil
  unfold leadingDigits
  rw [List.takeWhile_append_of_pos hdigits, hstop, List.append_nil]
  dsimp only
  rw [if_neg hne, String.ofList_toList]

/-! ### Names of layers -/

/-- Both parts of the code find the same digits: one keeps the text, the other its number. -/
theorem layerIdHere_eq (text : List Char) : layerIdHere text =
    (RouteTracing.layersHere text).map fun digits => (digitRun 0 digits.toList).1 := by
  unfold layerIdHere RouteTracing.layersHere
  cases matchLiteral "layers.".toList text with
  | none => rfl
  | some rest =>
    rw [Option.bind_some, Option.bind_some, RouteTracing.digitsUpTo]
    cases rest with
    | nil => rfl
    | cons c rest =>
      cases hc : digitValue? c with
      | none => simp [readDigits, hc]
      | some d =>
        have hrun : digitRun d rest = digitRun 0 (c :: rest) := by simp [digitRun, hc]
        have hne : (c :: rest).takeWhile (fun c => (digitValue? c).isSome) ≠ [] := by
          simp [hc]
        rw [readDigits, hc, Option.map_some, Option.bind_some, hrun, digitRun_eq]
        dsimp only
        split_ifs with hstop hplain hplain
        · rw [Option.map_some, String.toList_ofList]
        · exact absurd ⟨hne, hstop⟩ hplain
        · exact absurd hplain.2 hstop
        · rfl

theorem layerIdOf_eq (name : String) : layerIdOf name =
    (RouteTracing.searchAfter '.' RouteTracing.layersHere name.toList).map
      fun digits => (digitRun 0 digits.toList).1 := by
  have hafter : layerIdAfterDot = fun text =>
      ((matchLiteral ['.'] text).bind RouteTracing.layersHere).map
        fun digits => (digitRun 0 digits.toList).1 := by
    funext text
    rw [layerIdAfterDot, Option.map_bind]
    exact congrArg _ (funext fun rest => layerIdHere_eq rest)
  rw [layerIdOf, RouteTracing.searchAfter, hafter, search_map, layerIdHere_eq, Option.map_or]

/-- **A layer number without leading zeros is read alike** by remapping and by verifying. -/
theorem layerIdFromName_of_plain {name : String} {l : ℕ} (hid : layerIdOf name = some l)
    (hplain : ∃ n : ℕ, layerIdFromName (some name) = toString n) :
    layerIdFromName (some name) = toString l := by
  obtain ⟨n, hn⟩ := hplain
  rw [layerIdOf_eq, Option.map_eq_some_iff] at hid
  obtain ⟨digits, hfound, rfl⟩ := hid
  have hempty : RouteTracing.searchAfter '.' RouteTracing.layersHere "".toList = none := by decide
  have hname : name ≠ "" := by
    rintro rfl
    rw [hempty] at hfound
    exact absurd hfound (by simp)
  have hdigits : layerIdFromName (some name) = digits := by
    rw [layerIdFromName, if_neg hname, hfound, Option.some_or, Option.getD_some]
  rw [hn, ← hdigits, hn, digitRun_toString]

/-! ### Names of ranks in a search -/

/-- The pattern of `epRankText` at the start of a text. -/
def epRankPattern (text : List Char) : Option String :=
  (matchLiteral "ep-rank:".toList text).bind leadingDigits

theorem epRankPattern_of_ne {c : Char} (h : 'e' ≠ c) (text : List Char) :
    epRankPattern (c :: text) = none := by
  have hnone : matchLiteral "ep-rank:".toList (c :: text) = none := matchLiteral_cons_of_ne h _ _
  rw [epRankPattern, hnone, Option.bind_none]

/-- A search goes past text without an `e`. -/
theorem search_epRank_skip {skipped : List Char} (h : 'e' ∉ skipped) (rest : List Char) :
    search epRankPattern (skipped ++ rest) = search epRankPattern rest :=
  search_append (fun _ hc text => epRankPattern_of_ne (fun he => h (he ▸ hc)) text) rest

/-- And past an `e` behind which no `p` comes. -/
theorem search_epRank_e {c : Char} (h : 'p' ≠ c) (rest : List Char) :
    search epRankPattern ('e' :: c :: rest) = search epRankPattern (c :: rest) := by
  have hnone : matchLiteral "ep-rank:".toList ('e' :: c :: rest) = none := by
    have hne : ('p' == c) = false := beq_eq_false_iff_ne.mpr h
    simp [matchLiteral, List.isPrefixOf, hne]
  rw [search, epRankPattern, hnone, Option.bind_none, Option.none_or]

theorem search_epRank_none {text : List Char} (h : 'e' ∉ text) :
    search epRankPattern text = none := by
  rw [← List.append_nil text, search_epRank_skip h]
  rfl

theorem epRankText_epRank (n : ℕ) : epRankText ("ep-rank:" ++ toString n) = some (toString n) := by
  refine search_eq_of_head ?_
  rw [String.toList_append, matchLiteral_append, Option.bind_some]
  have hread := leadingDigits_toString n endsNumber_nil
  rwa [List.append_nil] at hread

theorem epRankText_rankName (n : ℕ) : epRankText (rankName 0 n) = some (toString n) := by
  have htext : (rankName 0 n).toList =
      "r".toList ++ 'e' :: 'p' :: ("lica:0/".toList ++ ("ep-rank:" ++ toString n).toList) := by
    rw [toList_rankName, String.toList_append, toList_toString, List.append_nil]
    rfl
  have hfirst : search epRankPattern
      ('e' :: 'p' :: ("lica:0/".toList ++ ("ep-rank:" ++ toString n).toList)) =
      search epRankPattern ("plica:0/".toList ++ ("ep-rank:" ++ toString n).toList) := by
    rw [search]
    rfl
  show search epRankPattern (rankName 0 n).toList = _
  rw [htext, search_epRank_skip (by decide), hfirst, search_epRank_skip (by decide)]
  exact epRankText_epRank n

theorem epRankText_none {text : String} (h : 'e' ∉ text.toList) :
    epRankText text = none :=
  search_epRank_none h

/-- `worker`, and what follows it. -/
theorem epRankText_worker_append {text rest : List Char} (htext : 'e' ∉ text) :
    search epRankPattern ("worker".toList ++ (text ++ rest)) = search epRankPattern rest := by
  have hsplit : "worker".toList ++ (text ++ rest) =
      "work".toList ++ 'e' :: 'r' :: (text ++ rest) := rfl
  rw [hsplit, search_epRank_skip (by decide), search_epRank_e (by decide), search,
    epRankPattern_of_ne (by decide), Option.none_or, search_epRank_skip htext]

theorem epRankText_worker (w n : ℕ) :
    epRankText ("worker:" ++ toString w ++ "/ep-rank:" ++ toString n) = some (toString n) := by
  have htext : ("worker:" ++ toString w ++ "/ep-rank:" ++ toString n).toList =
      "worker".toList ++ ((":".toList ++ ((toString w).toList ++ "/".toList)) ++
        ("ep-rank:" ++ toString n).toList) := by
    simp [String.toList_append]
  show search epRankPattern ("worker:" ++ toString w ++ "/ep-rank:" ++ toString n).toList = _
  rw [htext, epRankText_worker_append]
  · exact epRankText_epRank n
  · exact List.not_mem_append (by decide) (List.not_mem_append (e_not_mem_toString w) (by decide))

theorem epRankText_worker_none (label : String) (hlabel : 'e' ∉ label.toList) (w : ℕ) :
    epRankText ("worker" ++ label ++ toString w) = none := by
  have htext : ("worker" ++ label ++ toString w).toList =
      "worker".toList ++ ((label.toList ++ (toString w).toList) ++ []) := by
    simp [String.toList_append]
  show search epRankPattern ("worker" ++ label ++ toString w).toList = _
  rw [htext, epRankText_worker_append]
  · rfl
  · exact List.not_mem_append hlabel (e_not_mem_toString w)

/-- The names that a worker gives itself name its rank or no rank. -/
theorem epRankText_rankAliases {w n : ℕ} {name : String} (h : name ∈ rankAliases w n) :
    epRankText name = none ∨ epRankText name = some (toString n) := by
  rw [rankAliases, (List.perm_insertionSort _ _).mem_iff, List.mem_dedup] at h
  simp only [List.mem_cons, List.not_mem_nil, or_false] at h
  rcases h with rfl | rfl | rfl | rfl | rfl | rfl | rfl | rfl
  · exact Or.inl (epRankText_none (e_not_mem_toString w))
  · refine Or.inl (epRankText_none ?_)
    rw [String.toList_append]
    exact List.not_mem_append (by decide) (e_not_mem_toString w)
  · exact Or.inl (epRankText_worker_none ":" (by decide) w)
  · exact Or.inl (epRankText_worker_none "-rank:" (by decide) w)
  · exact Or.inl (epRankText_none (e_not_mem_toString n))
  · exact Or.inr (epRankText_epRank n)
  · exact Or.inr (epRankText_rankName n)
  · exact Or.inr (epRankText_worker w n)

/-- A name that the planner or a user writes for a rank of the only replica. -/
def NamesRank (value : String) (rank : ℕ) : Prop :=
  value = rankName 0 rank ∨ value = "ep-rank:" ++ toString rank

theorem NamesRank.epRankText {value : String} {rank : ℕ} (h : NamesRank value rank) :
    epRankText value = some (toString rank) := by
  rcases h with rfl | rfl
  · exact epRankText_rankName rank
  · exact epRankText_epRank rank

/-- Remapping reads the rank that is named. -/
theorem NamesRank.targetEpRank {value : String} {rank : ℕ} (h : NamesRank value rank)
    (epSize : ℕ) : ExpertRemap.targetEpRank value epSize =
      if rank < epSize then .ok rank else .error (.unsupportedTargetRank value) := by
  have hread : (matchLiteral "ep-rank:".toList
      ((matchLiteral "replica:0/".toList value.toList).getD value.toList)).bind readDigits =
        some (rank, []) := by
    rcases h with rfl | rfl
    · have htext : (rankName 0 rank).toList =
          "replica:0/".toList ++ ("ep-rank:".toList ++ (Nat.toDigits 10 rank ++ [])) := by
        rw [toList_rankName]
        rfl
      rw [htext, matchLiteral_append, Option.getD_some, matchLiteral_append, Option.bind_some,
        readDigits_toDigits rank endsNumber_nil]
    · have htext : ("ep-rank:" ++ toString rank).toList =
          "ep-rank:".toList ++ (Nat.toDigits 10 rank ++ []) := by
        rw [String.toList_append, toList_toString, List.append_nil]
      have hnone : matchLiteral "replica:0/".toList
          ("ep-rank:".toList ++ (Nat.toDigits 10 rank ++ [])) = none :=
        matchLiteral_cons_of_ne (by decide) _ _
      rw [htext, hnone, Option.getD_none, matchLiteral_append, Option.bind_some,
        readDigits_toDigits rank endsNumber_nil]
  unfold ExpertRemap.targetEpRank
  dsimp only
  rw [hread]

/-- **A rank that a plan names is a worker's own** when the numbers are the same. -/
theorem expertRankMatches_iff {T : Type} {logicalToPhysical : FusedMoE T → List (List ℤ)}
    {value : String} {rank : ℕ} (h : NamesRank value rank) (workerRank : ℕ) (name : String)
    (m : FusedMoE T) (expertId : ℕ) :
    expertRankMatches value (shardOf logicalToPhysical workerRank name m expertId) = true ↔
      rank = m.epRank := by
  have htext := h.epRankText
  have hne : value ≠ "" := by
    rintro rfl
    have hnone : ExpertRemap.epRankText "" = none :=
      epRankText_none List.not_mem_nil
    exact Option.some_ne_none _ (htext.symm.trans hnone)
  have hsame : ∀ {text : String}, ExpertRemap.epRankText text = some (toString m.epRank) →
      ExpertRemap.epRankText text = some (toString rank) → rank = m.epRank := by
    intro text hown hrank
    rw [hown, Option.some_inj] at hrank
    exact (eq_of_toString_eq hrank).symm
  have halias : ∀ {text : String}, text ∈ rankAliases workerRank m.epRank →
      ExpertRemap.epRankText text = some (toString rank) → rank = m.epRank := by
    intro text hmem hrank
    rcases epRankText_rankAliases hmem with hnone | hown
    · rw [hnone] at hrank
      exact absurd hrank (by simp)
    · exact hsame hown hrank
  unfold expertRankMatches
  rw [if_neg hne]
  split_ifs with hrankId hmem
  · refine iff_of_true rfl (hsame ?_ htext)
    rw [hrankId]
    exact epRankText_worker workerRank m.epRank
  · exact iff_of_true rfl (halias hmem htext)
  · rw [htext]
    dsimp only
    rw [Bool.or_eq_true, decide_eq_true_eq, List.any_eq_true]
    constructor
    · rintro (hown | ⟨text, htextmem, htextrank⟩)
      · exact hsame (epRankText_worker workerRank m.epRank) hown
      · exact halias htextmem (of_decide_eq_true htextrank)
    · rintro rfl
      exact Or.inl (epRankText_worker workerRank m.epRank)

/-! ## The comparison -/

section OwnRanks

variable {targetRanks : OrderedDict String String} {placement : RuntimePlacement}
  {own : String → Prop}
  (hown : ∀ entry ∈ targetRanks.entries, ∀ shard ∈ placement.shards.values,
    (expertRankMatches entry.2 shard = true ↔ own entry.2))
include hown

/-- The entries that are expected here are those of the own ranks. -/
theorem mem_localExpected {shard : RuntimeShard} (hshard : shard ∈ placement.shards.values)
    (entry : String × String) :
    entry ∈ (targetRanks.filter fun _ rank => placement.shards.values.any fun shard =>
        expertRankMatches rank shard).entries ↔
      entry ∈ targetRanks.entries ∧ own entry.2 := by
  rw [OrderedDict.filter, List.mem_filter]
  refine and_congr_right fun hentry => ?_
  rw [List.any_eq_true]
  constructor
  · rintro ⟨shard', hshard', hmatches⟩
    exact (hown entry hentry shard' hshard').mp hmatches
  · exact fun h => ⟨shard, hshard, (hown entry hentry shard hshard).mpr h⟩

theorem mem_keys_localExpected {shard : RuntimeShard} (hshard : shard ∈ placement.shards.values)
    (key : String) :
    key ∈ (targetRanks.filter fun _ rank => placement.shards.values.any fun shard =>
        expertRankMatches rank shard).keys ↔
      ∃ value, targetRanks.get? key = some value ∧ own value := by
  rw [OrderedDict.keys, List.mem_map]
  constructor
  · rintro ⟨entry, hentry, rfl⟩
    obtain ⟨hmem, hvalue⟩ := (mem_localExpected hown hshard entry).mp hentry
    exact ⟨entry.2, targetRanks.mem_entries_iff.mp hmem, hvalue⟩
  · rintro ⟨value, hget, hvalue⟩
    have hmem := targetRanks.mem_entries_iff.mpr hget
    exact ⟨(key, value), (mem_localExpected hown hshard _).mpr ⟨hmem, hvalue⟩, rfl⟩

end OwnRanks

/-- **What a comparison verifies**, when all shards tell the same ranks from others: every expert of
an own rank is there, and nothing else is. -/
theorem compare_verified {targetRanks snapshotRanks : OrderedDict String String}
    {placement : RuntimePlacement} (own : String → Prop)
    (hplan : targetRanks.entries ≠ [])
    (havailable : placement.available = !placement.shards.entries.isEmpty)
    (hown : ∀ entry ∈ targetRanks.entries, ∀ shard ∈ placement.shards.values,
      (expertRankMatches entry.2 shard = true ↔ own entry.2)) :
    (compareRuntimeExpertPlacement targetRanks snapshotRanks placement).verified = true ↔
      placement.shards.entries ≠ [] ∧ (∃ entry ∈ targetRanks.entries, own entry.2) ∧
        ∀ key, key ∈ placement.shards.keys ↔
          ∃ value, targetRanks.get? key = some value ∧ own value := by
  unfold compareRuntimeExpertPlacement
  by_cases hempty : placement.shards.entries = []
  · have hnone : placement.available = false := by rw [havailable, hempty]; rfl
    dsimp only
    rw [hnone, if_pos (by rfl)]
    exact iff_of_false Bool.false_ne_true fun h => h.1 hempty
  · have hisEmpty : placement.shards.entries.isEmpty = false := by
      rw [← Bool.not_eq_true, List.isEmpty_iff]
      exact hempty
    have hplanEmpty : targetRanks.entries.isEmpty = false := by
      rw [← Bool.not_eq_true, List.isEmpty_iff]
      exact hplan
    obtain ⟨⟨key₀, shard₀⟩, hshard₀⟩ := List.exists_mem_of_ne_nil _ hempty
    have hvalue₀ : shard₀ ∈ placement.shards.values := List.mem_map.mpr ⟨_, hshard₀, rfl⟩
    simp only [havailable, hisEmpty, hplanEmpty, Bool.not_false, Bool.not_true, Bool.false_eq_true,
      if_false]
    rw [decide_eq_true_eq]
    set localExpected := targetRanks.filter fun _ rank =>
      placement.shards.values.any fun shard => expertRankMatches rank shard with hlocal
    have hmem : ∀ entry, entry ∈ localExpected.entries ↔
        entry ∈ targetRanks.entries ∧ own entry.2 := mem_localExpected hown hvalue₀
    have hkey : ∀ key, key ∈ localExpected.keys ↔
        ∃ value, targetRanks.get? key = some value ∧ own value :=
      mem_keys_localExpected hown hvalue₀
    have hmatches : ∀ entry ∈ localExpected.entries, ∀ shard,
        placement.shards.get? entry.1 = some shard → expertRankMatches entry.2 shard = true := by
      intro entry hentry shard hget
      rw [hmem] at hentry
      refine (hown entry hentry.1 shard ?_).mpr hentry.2
      exact (placement.shards.mem_values_iff).mpr ⟨entry.1, hget⟩
    rw [List.countP_eq_length, List.countP_eq_zero, List.countP_eq_zero, List.countP_eq_zero]
    constructor
    · rintro ⟨hne, hall, -, -, hunexpected⟩
      refine ⟨hempty, ?_, fun key => ⟨fun h => ?_, fun h => ?_⟩⟩
      · obtain ⟨entry, hentry⟩ := List.exists_mem_of_ne_nil _ hne
        exact ⟨entry, ((hmem entry).mp hentry).1, ((hmem entry).mp hentry).2⟩
      · have := hunexpected key h
        rw [decide_eq_true_eq, not_not] at this
        exact (hkey key).mp this
      · obtain ⟨entry, hentry, rfl⟩ := List.mem_map.mp ((hkey key).mpr h)
        obtain ⟨shard, hshard, -⟩ := (Option.any_eq_true _ _).mp (hall entry hentry)
        exact (OrderedDict.mem_keys_iff _).mpr ⟨shard, hshard⟩
    · rintro ⟨-, ⟨entry₀, hentry₀, hown₀⟩, hsame⟩
      have hpresent : ∀ entry ∈ localExpected.entries, ∃ shard,
          placement.shards.get? entry.1 = some shard := fun entry hentry =>
        (OrderedDict.mem_keys_iff _).mp ((hsame entry.1).mpr
          ((hkey entry.1).mp (List.mem_map.mpr ⟨entry, hentry, rfl⟩)))
      refine ⟨List.ne_nil_of_mem ((hmem entry₀).mpr ⟨hentry₀, hown₀⟩), fun entry hentry => ?_,
        fun key hmem' => ?_, fun entry hentry => ?_, fun key hmem' => ?_⟩
      · obtain ⟨shard, hshard⟩ := hpresent entry hentry
        rw [hshard]
        exact hmatches entry hentry shard hshard
      · obtain ⟨entry, hentry, rfl⟩ := List.mem_map.mp hmem'
        obtain ⟨shard, hshard⟩ := hpresent entry hentry
        rw [hshard]
        exact Bool.false_ne_true
      · obtain ⟨shard, hshard⟩ := hpresent entry hentry
        rw [hshard, Option.any_some, hmatches entry hentry shard hshard]
        exact Bool.false_ne_true
      · rw [decide_eq_true_eq, not_not]
        exact (hkey key).mpr ((hsame key).mp hmem')

/-! ## The experts that a worker finds -/

theorem mem_mappedIds {entries : List ℤ} {e : ℕ} :
    e ∈ mappedIds entries ↔ ∃ slot, entries[e]? = some slot ∧ 0 ≤ slot := by
  unfold mappedIds
  rw [List.mem_filterMap]
  constructor
  · rintro ⟨⟨slot, id⟩, hmem, hsome⟩
    rw [List.mem_zipIdx_iff_getElem?] at hmem
    dsimp only at hsome
    split_ifs at hsome with hslot
    obtain rfl := Option.some.inj hsome
    exact ⟨slot, hmem, hslot⟩
  · rintro ⟨slot, hget, hslot⟩
    exact ⟨(slot, e), List.mem_zipIdx_iff_getElem?.mpr hget, if_pos hslot⟩

section Found

variable {T O : Type}

/-- A model of which a worker can tell what it holds: its fused MoE modules have different ids under
names that both parts of the code read alike, and plain expert maps. -/
structure Inspectable (logicalToPhysical : FusedMoE T → List (List ℤ)) (epRank : ℕ)
    (model : Model T O) : Prop where
  name : ∀ (p : ℕ) (name : String) (m : FusedMoE T), model[p]? = some (name, .fusedMoE m) →
    ∃ l, layerIdOf name = some l ∧ layerIdFromName (some name) = toString l
  unique : ∀ (p p' : ℕ) (name name' : String) (m m' : FusedMoE T),
    model[p]? = some (name, .fusedMoE m) → model[p']? = some (name', .fusedMoE m') →
    layerIdOf name = layerIdOf name' → p = p'
  rank : ∀ (p : ℕ) (name : String) (m : FusedMoE T), model[p]? = some (name, .fusedMoE m) →
    m.epRank = epRank
  plain : ∀ (p : ℕ) (name : String) (m : FusedMoE T), model[p]? = some (name, .fusedMoE m) →
    logicalToPhysical m = []
  map : ∀ (p : ℕ) (name : String) (m : FusedMoE T), model[p]? = some (name, .fusedMoE m) →
    ∃ map, m.expertMap = some map ∧ map.entries.length = m.globalNumExperts ∧
      0 < m.globalNumExperts

variable {logicalToPhysical : FusedMoE T → List (List ℤ)} {epRank : ℕ} {model : Model T O}

theorem Inspectable.moeLayer_iff (h : Inspectable logicalToPhysical epRank model) {l : ℕ}
    {m : FusedMoE T} :
    moeLayer model l = some m ↔
      ∃ (p : ℕ) (name : String),
        model[p]? = some (name, .fusedMoE m) ∧ layerIdOf name = some l := by
  constructor
  · exact exists_of_moeLayer
  · rintro ⟨p, name, hget, hid⟩
    exact moeLayer_eq_some hget hid fun p' name' m' hget' hid' =>
      h.unique p' p name' name m' m hget' hget (hid'.trans hid.symm)

/-- The keys of an inspected module are those that plans use. -/
theorem Inspectable.expertKey_eq (h : Inspectable logicalToPhysical epRank model) {p : ℕ}
    {name : String} {m : FusedMoE T} (hget : model[p]? = some (name, .fusedMoE m)) {l : ℕ}
    (hid : layerIdOf name = some l) (e : ℕ) :
    RouteTracing.expertKey (some name) e = expertKey l e := by
  obtain ⟨l', hid', hname⟩ := h.name p name m hget
  obtain rfl : l = l' := Option.some.inj (hid.symm.trans hid')
  have hknown : layerIdFromName (some name) ≠ "unknown" := by
    rw [hname]
    intro hunknown
    have hdigit : 'u' ∈ (toString l).toList := by
      rw [hunknown]
      decide
    exact absurd (isDigit_of_mem_toString hdigit) (by decide)
  rw [RouteTracing.expertKey, if_neg hknown, hname, expertKey]

/-- A module with a plain map holds the experts that its map gives a slot. -/
theorem Inspectable.mem_localExpertIds (h : Inspectable logicalToPhysical epRank model) {p : ℕ}
    {name : String} {m : FusedMoE T} (hget : model[p]? = some (name, .fusedMoE m)) {e : ℕ} :
    e ∈ (moduleLocalExpertIds logicalToPhysical m).1 ↔ 0 ≤ slotOf m e := by
  obtain ⟨map, hmap, hlength, hpos⟩ := h.map p name m hget
  have hids : (moduleLocalExpertIds logicalToPhysical m).1 = mappedIds map.entries := by
    unfold moduleLocalExpertIds
    rw [if_neg hpos.ne', hmap, Option.map_some, Option.getD_some, h.plain p name m hget]
    cases hentries : map.entries with
    | nil =>
      rw [hentries] at hlength
      exact absurd hlength.symm hpos.ne'
    | cons slot slots =>
      dsimp only
      rw [if_neg fun hplain => hplain.1 rfl]
  rw [hids, mem_mappedIds, slotOf, hmap, Option.bind_some]
  cases hentry : map.entries[e]? with
  | none => exact iff_of_false (by simp) (by simp)
  | some slot => simp

/-- **The shards of a model** are the experts that its layers hold. -/
theorem Inspectable.mem_shards_iff (h : Inspectable logicalToPhysical epRank model)
    (workerRank : ℕ) (key : String) :
    key ∈ (inspectRuntimeExpertPlacement logicalToPhysical workerRank model).shards.keys ↔
      ∃ (l : ℕ) (m : FusedMoE T) (e : ℕ),
        moeLayer model l = some m ∧ 0 ≤ slotOf m e ∧ key = expertKey l e := by
  unfold inspectRuntimeExpertPlacement
  dsimp only
  rw [OrderedDict.mem_keys_foldl_set, OrderedDict.keys_empty, List.mem_map]
  constructor
  · rintro (⟨entry, hentry, rfl⟩ | hnone)
    · obtain ⟨⟨name, p, m⟩, hmem, hshard⟩ := List.mem_flatMap.mp hentry
      have hget := mem_fusedModules.mp hmem
      obtain ⟨e, he, rfl⟩ := List.mem_map.mp hshard
      obtain ⟨l, hid, -⟩ := h.name p name m hget
      exact ⟨l, m, e, h.moeLayer_iff.mpr ⟨p, name, hget, hid⟩,
        (h.mem_localExpertIds hget).mp he, h.expertKey_eq hget hid e⟩
    · exact absurd hnone List.not_mem_nil
  · rintro ⟨l, m, e, hlayer, hslot, rfl⟩
    obtain ⟨p, name, hget, hid⟩ := h.moeLayer_iff.mp hlayer
    refine Or.inl ⟨(RouteTracing.expertKey (some name) e,
      shardOf logicalToPhysical workerRank name m e), ?_, h.expertKey_eq hget hid e⟩
    exact List.mem_flatMap.mpr ⟨(name, p, m), mem_fusedModules.mpr hget,
      List.mem_map.mpr ⟨e, (h.mem_localExpertIds hget).mpr hslot, rfl⟩⟩

/-- Every shard has the names of the worker's ranks. -/
theorem Inspectable.exists_of_mem_values (h : Inspectable logicalToPhysical epRank model)
    {workerRank : ℕ} {shard : RuntimeShard}
    (hshard : shard ∈
      (inspectRuntimeExpertPlacement logicalToPhysical workerRank model).shards.values) :
    ∃ (name : String) (m : FusedMoE T) (e : ℕ),
      m.epRank = epRank ∧ shard = shardOf logicalToPhysical workerRank name m e := by
  obtain ⟨entry, hentry, rfl⟩ := List.mem_map.mp hshard
  rcases OrderedDict.mem_entries_of_foldl_set hentry with hmem | hnone
  · obtain ⟨⟨name, p, m⟩, hmodule, hmem⟩ := List.mem_flatMap.mp hmem
    obtain ⟨e, -, rfl⟩ := List.mem_map.mp hmem
    exact ⟨name, m, e, h.rank p name m (mem_fusedModules.mp hmodule), rfl⟩
  · exact absurd hnone List.not_mem_nil

end Found

/-! ## Verified plans -/

section Verify

variable {T O : Type} {logicalToPhysical : FusedMoE T → List (List ℤ)} {epSize epRank : ℕ}
  {plan : RemapPlan} {model : Model T O}

/-- `verify_expert_placement_plan` of a worker. -/
def verifyExpertPlacementPlan (logicalToPhysical : FusedMoE T → List (List ℤ)) (workerRank : ℕ)
    (snapshotRanks : OrderedDict String String) (model : Model T O) (plan : RemapPlan) :
    PlacementCheck :=
  compareRuntimeExpertPlacement plan.expertToTargetRank snapshotRanks
    (inspectRuntimeExpertPlacement logicalToPhysical workerRank model)

/-- Every rank that a plan names is written as the planner writes it. -/
def RanksNamed (plan : RemapPlan) : Prop :=
  ∀ entry ∈ plan.expertToTargetRank.entries, ∃ rank, NamesRank entry.2 rank

/-- A plan speaks about the experts of a model, and gives some of them to a rank. -/
structure Assigns (epSize epRank : ℕ) (plan : RemapPlan) (model : Model T O) : Prop where
  lt : epRank < epSize
  keys : ∀ key ∈ plan.expertToTargetRank.keys, ∃ (l : ℕ) (m : FusedMoE T) (e : ℕ),
    moeLayer model l = some m ∧ e < m.globalNumExperts ∧ key = expertKey l e
  own : ∃ (l : ℕ) (m : FusedMoE T) (e : ℕ), moeLayer model l = some m ∧ e < m.globalNumExperts ∧
    targetOf plan.expertToTargetRank epSize l e = .ok epRank

theorem NamesRank.unique {value : String} {rank rank' : ℕ} (h : NamesRank value rank)
    (h' : NamesRank value rank') : rank = rank' :=
  eq_of_toString_eq (Option.some.inj (h.epRankText.symm.trans h'.epRankText))

/-- Remapping and verifying read a plan alike. -/
theorem targetOf_iff (hranks : RanksNamed plan) (hlt : epRank < epSize) (l e : ℕ) :
    targetOf plan.expertToTargetRank epSize l e = .ok epRank ↔
      ∃ value, plan.expertToTargetRank.get? (expertKey l e) = some value ∧
        NamesRank value epRank := by
  unfold targetOf
  cases hget : plan.expertToTargetRank.get? (expertKey l e) with
  | none => exact iff_of_false (by simp) (by simp)
  | some value =>
    obtain ⟨rank, hrank⟩ := hranks _ (plan.expertToTargetRank.mem_entries_iff.mpr hget)
    have hread : NamesRank value epRank ↔ rank = epRank :=
      ⟨fun h => hrank.unique h, fun h => h ▸ hrank⟩
    have hsome : (∃ value', some value = some value' ∧ NamesRank value' epRank) ↔
        NamesRank value epRank :=
      ⟨fun ⟨_, hsame, h⟩ => Option.some.inj hsame ▸ h, fun h => ⟨value, rfl, h⟩⟩
    rw [hsome, hread]
    show ExpertRemap.targetEpRank value epSize = .ok epRank ↔ rank = epRank
    rw [NamesRank.targetEpRank hrank]
    split_ifs with hrankLt
    · exact ⟨Except.ok.inj, fun h => congrArg Except.ok h⟩
    · exact iff_of_false (by simp) fun h => hrankLt (h ▸ hlt)

theorem lt_of_nonneg_slotOf {m : FusedMoE T} {map : ExpertMap} (hmap : m.expertMap = some map)
    {e : ℕ} (h : 0 ≤ slotOf m e) : e < map.entries.length := by
  by_contra hge
  have hnone := List.getElem?_eq_none (not_lt.mp hge)
  rw [slotOf, hmap, Option.bind_some, hnone] at h
  exact absurd h (by decide)

/-- **What a worker verifies**: that it holds the experts which the plan gives its rank, and no
others. -/
theorem verified_iff (h : Inspectable logicalToPhysical epRank model)
    (hplan : Assigns epSize epRank plan model) (hranks : RanksNamed plan) (workerRank : ℕ)
    (snapshotRanks : OrderedDict String String) :
    (verifyExpertPlacementPlan logicalToPhysical workerRank snapshotRanks model plan).verified =
        true ↔
      ∀ (l : ℕ) (m : FusedMoE T), moeLayer model l = some m → ∀ e < m.globalNumExperts,
        (0 ≤ slotOf m e ↔ targetOf plan.expertToTargetRank epSize l e = .ok epRank) := by
  obtain ⟨l₀, m₀, e₀, hlayer₀, he₀, htarget₀⟩ := hplan.own
  obtain ⟨value₀, hvalue₀, hname₀⟩ := (targetOf_iff hranks hplan.lt l₀ e₀).mp htarget₀
  have hmem₀ := plan.expertToTargetRank.mem_entries_iff.mpr hvalue₀
  have hown : ∀ entry ∈ plan.expertToTargetRank.entries, ∀ shard ∈
      (inspectRuntimeExpertPlacement logicalToPhysical workerRank model).shards.values,
      (expertRankMatches entry.2 shard = true ↔ NamesRank entry.2 epRank) := by
    intro entry hentry shard hshard
    obtain ⟨rank, hrank⟩ := hranks entry hentry
    obtain ⟨name, m, e, hm, rfl⟩ := h.exists_of_mem_values hshard
    rw [expertRankMatches_iff hrank, hm]
    exact ⟨fun hsame => hsame ▸ hrank, fun hown => hrank.unique hown⟩
  have havailable : (inspectRuntimeExpertPlacement logicalToPhysical workerRank model).available =
      !(inspectRuntimeExpertPlacement logicalToPhysical workerRank model).shards.entries.isEmpty :=
    rfl
  rw [verifyExpertPlacementPlan,
    compare_verified (fun value => NamesRank value epRank) (List.ne_nil_of_mem hmem₀) havailable
      hown]
  simp only [h.mem_shards_iff]
  constructor
  · rintro ⟨-, -, hsame⟩ l m hlayer e he
    rw [targetOf_iff hranks hplan.lt, ← hsame]
    constructor
    · exact fun hslot => ⟨l, m, e, hlayer, hslot, rfl⟩
    · rintro ⟨l', m', e', hlayer', hslot, hkey⟩
      obtain ⟨rfl, rfl⟩ := expertKey_inj.mp hkey
      obtain rfl : m = m' := Option.some.inj (hlayer.symm.trans hlayer')
      exact hslot
  · intro hsame
    have hkeys : ∀ key, (∃ (l : ℕ) (m : FusedMoE T) (e : ℕ),
        moeLayer model l = some m ∧ 0 ≤ slotOf m e ∧ key = expertKey l e) ↔
        ∃ value, plan.expertToTargetRank.get? key = some value ∧ NamesRank value epRank := by
      intro key
      constructor
      · rintro ⟨l, m, e, hlayer, hslot, rfl⟩
        obtain ⟨p, name, hget, -⟩ := h.moeLayer_iff.mp hlayer
        obtain ⟨map, hmap, hlength, -⟩ := h.map p name m hget
        have he := hlength ▸ lt_of_nonneg_slotOf hmap hslot
        rw [← targetOf_iff hranks hplan.lt]
        exact (hsame l m hlayer e he).mp hslot
      · rintro ⟨value, hget, hname⟩
        obtain ⟨l, m, e, hlayer, he, rfl⟩ :=
          hplan.keys key ((OrderedDict.mem_keys_iff _).mpr ⟨value, hget⟩)
        exact ⟨l, m, e, hlayer, (hsame l m hlayer e he).mpr
          ((targetOf_iff hranks hplan.lt l e).mpr ⟨value, hget, hname⟩), rfl⟩
    refine ⟨fun hempty => ?_, ⟨_, hmem₀, hname₀⟩, hkeys⟩
    -- The plan gives this rank an expert, and so there is one.
    have hkey := (h.mem_shards_iff workerRank _).mpr ((hkeys _).mpr ⟨value₀, hvalue₀, hname₀⟩)
    rw [OrderedDict.keys, hempty] at hkey
    exact absurd hkey List.not_mem_nil

/-! ## Accepted plans -/

/-- The layer numbers in the names of the fused MoE modules have no leading zeros. -/
def PlainNumbers (model : Model T O) : Prop :=
  ∀ (p : ℕ) (name : String) (m : FusedMoE T), model[p]? = some (name, .fusedMoE m) →
    ∃ l : ℕ, layerIdFromName (some name) = toString l

theorem checkLayout_of_layerOf {name : String} {position : ℕ} {m : FusedMoE T} {layer : Layer T}
    (h : layerOf epSize epRank plan name position m = .ok layer) :
    checkLayout epSize epRank plan m = .ok () := by
  unfold layerOf at h
  split at h
  · exact absurd h (by simp)
  · obtain ⟨_, hlayout, -⟩ := of_bind_ok h
    exact hlayout

/-- What an accepted plan has found out about the modules besides. -/
theorem layout_of_layersForPlan {enabled : Bool} {layers : List (Layer T)}
    (h : layersForPlan enabled epSize epRank (some model) plan = .ok layers) {p : ℕ} {name : String}
    {m : FusedMoE T} (hget : model[p]? = some (name, .fusedMoE m)) :
    m.enableEplb = false ∧ m.epRank = epRank := by
  obtain ⟨_, -, h⟩ := of_bind_ok h
  obtain ⟨unsorted, hmap, -⟩ := of_bind_ok h
  obtain ⟨layer, -, hlayer⟩ :=
    exists_of_mem_left (forall₂_of_mapM_ok hmap) (mem_fusedModules.mpr hget)
  have hlayout := checkLayout_of_layerOf hlayer
  obtain ⟨-, hlayout⟩ := of_require_bind hlayout
  obtain ⟨hplain, hlayout⟩ := of_require_bind hlayout
  obtain ⟨-, hlayout⟩ := of_require_bind hlayout
  obtain ⟨hgroup, -⟩ := of_require_bind hlayout
  exact ⟨hplain.2.1, hgroup.1⟩

/-- A model on which a plan is accepted can be inspected. -/
theorem inspectable_of_layersForPlan {enabled : Bool} {layers : List (Layer T)}
    (h : layersForPlan enabled epSize epRank (some model) plan = .ok layers)
    (hnames : PlainNumbers model)
    (hplain : ∀ m : FusedMoE T, m.enableEplb = false → logicalToPhysical m = []) :
    Inspectable logicalToPhysical epRank model := by
  have haccepted := layersForPlan_ok h
  refine ⟨fun p name m hget => ?_, fun p p' name name' m m' hget hget' hid => ?_,
    fun p name m hget => (layout_of_layersForPlan h hget).2,
    fun p name m hget => hplain m (layout_of_layersForPlan h hget).1, fun p name m hget => ?_⟩
  · obtain ⟨layer, hlayer, -, rfl, -⟩ := haccepted.layer_at hget
    have hid := (haccepted.ready layer hlayer).layerId
    exact ⟨layer.index, hid, layerIdFromName_of_plain hid (hnames p layer.name m hget)⟩
  · obtain ⟨layer, hlayer, rfl, rfl, -⟩ := haccepted.layer_at hget
    obtain ⟨layer', hlayer', rfl, rfl, -⟩ := haccepted.layer_at hget'
    rw [(haccepted.ready layer hlayer).layerId, (haccepted.ready layer' hlayer').layerId,
      Option.some_inj] at hid
    rw [haccepted.eq_of_index_eq hlayer hlayer' hid]
  · obtain ⟨layer, hlayer, -, -, rfl⟩ := haccepted.layer_at hget
    have hready := haccepted.ready layer hlayer
    exact ⟨layer.expertMap, hready.expertMap, hready.map_length,
      hready.numExperts_pos haccepted.two_ranks⟩

/-- An accepted plan gives the rank experts of its layers. -/
theorem Accepted.assigns {layers : List (Layer T)} (h : Accepted epSize epRank plan model layers)
    (hlt : epRank < epSize) :
    Assigns epSize epRank plan model := by
  refine ⟨hlt, fun key hkey => ?_, ?_⟩
  · obtain ⟨layer, hlayer, hmem⟩ := List.mem_flatMap.mp (h.keys key hkey)
    obtain ⟨e, he, rfl⟩ := List.mem_map.mp hmem
    exact ⟨layer.index, layer.module, e, h.moeLayer_before hlayer, List.mem_range.mp he, rfl⟩
  · obtain ⟨layer, hlayer⟩ := List.exists_mem_of_ne_nil _ h.nonempty
    have hready := h.ready layer hlayer
    have hpos : 0 < layer.newLocalIds.length := by
      rw [hready.new_length]
      exact hready.local_pos
    obtain ⟨e, he⟩ := List.exists_mem_of_length_pos hpos
    rw [(newLocalIds_spec hready.new).2, List.mem_filter, List.mem_range, decide_eq_true_eq] at he
    exact ⟨layer.index, layer.module, e, h.moeLayer_before hlayer, he.1, he.2⟩

/-! ## After a remap -/

section Updated

variable {layers : List (Layer T)} (haccepted : Accepted epSize epRank plan model layers) (bump : ℕ)
  {weights : Weights T} (hlength : weights.length = layers.length)
include haccepted hlength

/-- A fused MoE module after a remap was one before, under the same name. -/
theorem Accepted.updatedModel_fused {p : ℕ} {name : String} {m : FusedMoE T}
    (hget : (updatedModel bump model layers weights)[p]? = some (name, .fusedMoE m)) :
    ∃ layer ∈ layers, ∃ tensors, layer.position = p ∧ layer.name = name ∧
      m = updatedModule bump layer tensors := by
  by_cases hp : p ∈ layers.map Layer.position
  · obtain ⟨layer, hlayer, rfl⟩ := List.mem_map.mp hp
    obtain ⟨i, hi⟩ := List.mem_iff_getElem?.mp hlayer
    have hlt : i < weights.length := by
      rw [hlength]
      exact (List.getElem?_eq_some_iff.mp hi).1
    rw [haccepted.updatedModel_layer bump hlength hi (List.getElem?_eq_getElem hlt)] at hget
    cases hget
    exact ⟨layer, hlayer, _, rfl, rfl, rfl⟩
  · rw [updatedModel_outside bump hlength hp] at hget
    obtain ⟨layer, hlayer, rfl, -⟩ := haccepted.layer_at hget
    exact absurd (List.mem_map.mpr ⟨layer, hlayer, rfl⟩) hp

/-- It can be inspected as before. -/
theorem Accepted.inspectable_after (h : Inspectable logicalToPhysical epRank model)
    (hplain : ∀ m : FusedMoE T, m.enableEplb = false → logicalToPhysical m = [])
    (heplb : ∀ layer ∈ layers, layer.module.enableEplb = false) :
    Inspectable logicalToPhysical epRank (updatedModel bump model layers weights) := by
  have hback : ∀ (p : ℕ) (name : String) (m : FusedMoE T),
      (updatedModel bump model layers weights)[p]? = some (name, .fusedMoE m) →
      ∃ layer ∈ layers, ∃ tensors, layer.position = p ∧ layer.name = name ∧
        m = updatedModule bump layer tensors := fun _ _ _ =>
    haccepted.updatedModel_fused bump hlength
  refine ⟨fun p name m hget => ?_, fun p p' name name' m m' hget hget' hid => ?_,
    fun p name m hget => ?_, fun p name m hget => ?_, fun p name m hget => ?_⟩
  · obtain ⟨layer, hlayer, tensors, rfl, rfl, rfl⟩ := hback p name m hget
    exact h.name _ _ _ (haccepted.placed layer hlayer)
  · obtain ⟨layer, hlayer, tensors, rfl, rfl, rfl⟩ := hback p name m hget
    obtain ⟨layer', hlayer', tensors', rfl, rfl, rfl⟩ := hback p' name' m' hget'
    exact h.unique _ _ _ _ _ _ (haccepted.placed layer hlayer) (haccepted.placed layer' hlayer') hid
  · obtain ⟨layer, hlayer, tensors, rfl, rfl, rfl⟩ := hback p name m hget
    exact h.rank layer.position layer.name layer.module (haccepted.placed layer hlayer)
  · obtain ⟨layer, hlayer, tensors, rfl, rfl, rfl⟩ := hback p name m hget
    exact hplain _ (heplb layer hlayer)
  · obtain ⟨layer, hlayer, tensors, rfl, rfl, rfl⟩ := hback p name m hget
    have hready := haccepted.ready layer hlayer
    refine ⟨updatedMap bump layer, rfl, ?_, hready.numExperts_pos haccepted.two_ranks⟩
    rw [updatedMap, Writes.length_writeAll, List.length_replicate]
    exact hready.map_length

/-- The plan speaks about it as before. -/
theorem Accepted.assigns_after (hlt : epRank < epSize) :
    Assigns epSize epRank plan (updatedModel bump model layers weights) := by
  have hafter : ∀ {l : ℕ} {m : FusedMoE T}, moeLayer model l = some m →
      ∃ m', moeLayer (updatedModel bump model layers weights) l = some m' ∧
        m'.globalNumExperts = m.globalNumExperts := by
    intro l m hlayer
    obtain ⟨p, name, hget, hid⟩ := exists_of_moeLayer hlayer
    obtain ⟨layer, hmem, rfl, rfl, rfl⟩ := haccepted.layer_at hget
    obtain rfl : layer.index = l :=
      Option.some.inj ((haccepted.ready layer hmem).layerId.symm.trans hid)
    obtain ⟨i, hi⟩ := List.mem_iff_getElem?.mp hmem
    have hi' : i < weights.length := by
      rw [hlength]
      exact (List.getElem?_eq_some_iff.mp hi).1
    exact ⟨_, haccepted.moeLayer_after bump hlength hi (List.getElem?_eq_getElem hi'), rfl⟩
  have hbefore := haccepted.assigns hlt
  refine ⟨hlt, fun key hkey => ?_, ?_⟩
  · obtain ⟨l, m, e, hlayer, he, rfl⟩ := hbefore.keys key hkey
    obtain ⟨m', hlayer', hcount⟩ := hafter hlayer
    exact ⟨l, m', e, hlayer', hcount ▸ he, rfl⟩
  · obtain ⟨l, m, e, hlayer, he, htarget⟩ := hbefore.own
    obtain ⟨m', hlayer', hcount⟩ := hafter hlayer
    exact ⟨l, m', e, hlayer', hcount ▸ he, htarget⟩

end Updated

end Verify

section Group

variable {T O D : Type} {W : ℕ} [DecidableEq D] {rearrange : Rearrange W T} {digest : List T → D}
  {bump : ℕ} {enabled : Fin W → Bool} {hosts : Fin W → HostIdentity}
  {models models' : Fin W → Model T O} {plan : RemapPlan}

/-- The workers can be inspected before a remap that runs. -/
theorem inspectable_of_remap (hrearrange : Rearranges rearrange)
    (hrun : remapExpertWeights rearrange digest bump enabled hosts models plan = .ok models')
    (hnames : ∀ r, PlainNumbers (models r)) {logicalToPhysical : FusedMoE T → List (List ℤ)}
    (hplain : ∀ m : FusedMoE T, m.enableEplb = false → logicalToPhysical m = []) (r : Fin W) :
    ∃ layers, layersForPlan (enabled r) W r (some (models r)) plan = .ok layers ∧
      Inspectable logicalToPhysical r (models r) := by
  obtain ⟨layers, hlayers, -⟩ := (remap_runs_iff hrearrange r.pos).mp ⟨models', hrun⟩
  exact ⟨layers r, hlayers r, inspectable_of_layersForPlan (hlayers r) (hnames r) hplain⟩

/-- After a remap a worker verifies its plan. -/
theorem verified_after_remap (hrearrange : Rearranges rearrange)
    (hrun : remapExpertWeights rearrange digest bump enabled hosts models plan = .ok models')
    (hranks : RanksNamed plan) (hnames : ∀ r, PlainNumbers (models r))
    (logicalToPhysical : FusedMoE T → List (List ℤ))
    (hplain : ∀ m : FusedMoE T, m.enableEplb = false → logicalToPhysical m = [])
    (r : Fin W) (workerRank : ℕ) (snapshotRanks : OrderedDict String String) :
    (verifyExpertPlacementPlan logicalToPhysical workerRank snapshotRanks (models' r)
      plan).verified = true := by
  obtain ⟨layers, hlayers, hinspect⟩ := inspectable_of_remap hrearrange hrun hnames hplain r
  have hcorrect := remap_correct hrearrange hrun
  obtain ⟨layers', moved, haccepted, hcover, htransfer, rfl⟩ := remapExpertWeights_ok hrun
  have hlength := length_moved haccepted hrearrange hcover htransfer
  have heplb : ∀ layer ∈ layers' r, layer.module.enableEplb = false := fun layer hlayer =>
    (layout_of_layersForPlan hlayers ((haccepted r).placed layer hlayer)).1
  have hinspect' := (haccepted r).inspectable_after bump (hlength r) hinspect hplain heplb
  rw [verified_iff hinspect' ((haccepted r).assigns_after bump (hlength r) r.isLt) hranks]
  intro l m hlayer e he
  obtain ⟨p, name, hget, hid⟩ := exists_of_moeLayer hlayer
  obtain ⟨layer, hmem, tensors, rfl, rfl, rfl⟩ :=
    (haccepted r).updatedModel_fused bump (hlength r) hget
  obtain ⟨l', before, after, hid', hbefore, hafter, -, -, hlayerCorrect⟩ :=
    hcorrect.layers r _ _ _ ((haccepted r).placed layer hmem)
  obtain rfl : l = l' := Option.some.inj (hid.symm.trans hid')
  rw [hget] at hafter
  have hsame := (NnModule.fusedMoE.inj (Prod.mk.inj (Option.some.inj hafter)).2).symm
  rw [← hsame]
  refine hlayerCorrect.target r e ?_
  rw [hbefore]
  exact he

/-- **Remapping and verifying agree.**  The workers read the ranks of a plan in two ways, and the
names of their layers in two ways.  For rank names as the planner writes them, and layer numbers
without leading zeros, a worker verifies a plan which is about to be carried out exactly when it
holds the experts that the plan gives its rank and no others; and after the remap all workers verify
it. -/
theorem remap_verifies (hrearrange : Rearranges rearrange)
    (hrun : remapExpertWeights rearrange digest bump enabled hosts models plan = .ok models')
    (hranks : RanksNamed plan) (hnames : ∀ r, PlainNumbers (models r))
    (logicalToPhysical : FusedMoE T → List (List ℤ))
    (hplain : ∀ m : FusedMoE T, m.enableEplb = false → logicalToPhysical m = [])
    (r : Fin W) (workerRank : ℕ) (snapshotRanks : OrderedDict String String) :
    ((verifyExpertPlacementPlan logicalToPhysical workerRank snapshotRanks (models r)
        plan).verified = true ↔
      ∀ (l : ℕ) (m : FusedMoE T), moeLayer (models r) l = some m → ∀ e < m.globalNumExperts,
        (0 ≤ slotOf m e ↔ targetOf plan.expertToTargetRank W l e = .ok (r : ℕ))) ∧
    (verifyExpertPlacementPlan logicalToPhysical workerRank snapshotRanks (models' r)
      plan).verified = true := by
  obtain ⟨layers, hlayers, hinspect⟩ := inspectable_of_remap hrearrange hrun hnames hplain r
  exact ⟨verified_iff hinspect ((layersForPlan_ok hlayers).assigns r.isLt) hranks workerRank
      snapshotRanks,
    verified_after_remap hrearrange hrun hranks hnames logicalToPhysical hplain r workerRank
      snapshotRanks⟩

end Group

theorem plainNumbers_pairGroup (r : Fin 2) : PlainNumbers (pairGroup r) := by
  have hread : layerIdFromName (some "model.layers.0.mlp.experts") = "0" := by decide +kernel
  intro p name m hget
  match p with
  | 0 => exact absurd hget (by simp [pairGroup])
  | 1 =>
    obtain rfl : name = "model.layers.0.mlp.experts" := by
      simp only [pairGroup, List.getElem?_cons_succ, List.getElem?_cons_zero, Option.some.injEq,
        Prod.mk.injEq] at hget
      exact hget.1.symm
    exact ⟨0, hread⟩
  | p + 2 => exact absurd hget (by simp [pairGroup])

theorem ranksNamed_exchangePlan : RanksNamed exchangePlan := by
  have hnames : ∀ entry ∈ exchangePlan.expertToTargetRank.entries,
      entry.2 = rankName 0 0 ∨ entry.2 = rankName 0 1 := by decide +kernel
  intro entry hentry
  rcases hnames entry hentry with h | h
  · exact ⟨0, Or.inl h⟩
  · exact ⟨1, Or.inl h⟩

/-- The workers of the exchange verify it. -/
theorem remap_verifies_exchange :
    ∃ models', exchange = .ok models' ∧ ∀ r : Fin 2,
      (verifyExpertPlacementPlan (fun _ => []) r .empty (models' r) exchangePlan).verified =
        true := by
  cases hrun : exchange with
  | ok models' =>
    exact ⟨models', rfl, fun r => (remap_verifies rearranges_exactRearrange hrun
      ranksNamed_exchangePlan plainNumbers_pairGroup (fun _ => []) (fun _ _ => rfl) r r .empty).2⟩
  | error e =>
    have hok : exchange.toOption.isSome = true := by decide +kernel
    rw [hrun] at hok
    exact absurd hok Bool.false_ne_true

end ExpertRemap
end SpotServe
