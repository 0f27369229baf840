import SpotServe.Library.OrderedDict
import SpotServe.Library.Runs
import SpotServe.ContextMigration.Types

/-!
# What a target already holds of a context

Before the migration planner runs, `RoundRobinRouter` (`sllm/routers/roundrobin_router.py`) asks
every target for the contexts it has in its cache, and notes with each context to be moved how many
tokens and blocks of it the target has already (`populateTargetReuseMaps`).  For a target on the
context's own node the loop takes the first of the target's contexts that has anything to reuse.

* `targetSpecificReuse_real`: what is counted is a shared prefix, in whole blocks, that both sides
  hold.
* `lookup_annotate`: what a context is annotated with.
* `reuse_real_and_complete_iff`: the annotation is the most there is, whatever the order of the
  target's contexts, exactly when all that have anything to reuse have the same.
-/

namespace SpotServe
namespace ContextMigration

open Py

/-! ## Reading what a target reports -/

/-- `tuple(int(token) for token in (payload.get("tokens", []) or []))`, over a list, the characters
of a string or the keys of a dictionary. -/
def readTokens? (payload : Dict) : Option (List ℤ) :=
  match payload.lookup "tokens" with
  | none => some []
  | some value =>
    if value.truthy then
      match value with
      | .list tokens => tokens.mapM Value.int?
      | .str text => text.toList.mapM fun c => (Value.str (String.singleton c)).int?
      | .dict items => items.mapM fun item => (Value.str item.1).int?
      | _ => none
    else some []

/-- `{str(key): int(value) for key, value in (payload.get(key, {}) or {}).items()}`. -/
def readIntMapping? (payload : Dict) (key : String) : Option (List (String × ℤ)) :=
  match payload.lookup key with
  | none => some []
  | some value =>
    if value.truthy then
      match value with
      | .dict items => items.mapM fun item => (item.2.int?).map fun n => (item.1, n)
      | _ => none
    else some []

/-- `dict(payload.get("metadata", {}) or {})`, for mappings. -/
def readMetadata? (payload : Dict) : Option Dict :=
  match payload.lookup "metadata" with
  | none => some []
  | some value =>
    if value.truthy then
      match value with
      | .dict items => some items
      | _ => none
    else some []

/-- `ContextMetadata.from_dict`, when it does not raise. -/
def contextFromDict (payload : Dict) : Option ContextMetadata := do
  let instanceId ← payload.lookup "instance_id"
  let nodeId ← payload.lookup "node_id"
  let numTokens ← readInt? payload "num_tokens"
  let contextBlocks ← readInt? payload "context_blocks"
  let tokens ← readTokens? payload
  let cacheBlockSize ← readInt? payload "cache_block_size"
  let reusableTokens ← readIntMapping? payload "reusable_tokens_by_target"
  let reusableBlocks ← readIntMapping? payload "reusable_blocks_by_target"
  let metadata ← readMetadata? payload
  return {
    requestId := match payload.lookup "request_id" with
      | some (.str requestId) => some requestId
      | _ => none
    instanceId := instanceId.toStr
    nodeId := nodeId.toStr
    numTokens := max 0 numTokens
    contextBlocks := max 0 contextBlocks
    tokens := tokens
    cacheBlockSize := max 0 cacheBlockSize
    cacheDtype := strOr (payload.lookup "cache_dtype") ""
    cacheLayout := strOr (payload.lookup "cache_layout") ""
    reusableTokensByTarget := reusableTokens
    reusableBlocksByTarget := reusableBlocks
    metadata := metadata }

/-- The contexts in the reply of a backend: a list of rows, or a mapping with one under
`contexts`; what is not a mapping is passed over. -/
def contextsOfReply (reply : Value) : Option (List ContextMetadata) :=
  let rows := match reply with
    | .dict items => (items.lookup "contexts").getD (.list [])
    | rows => rows
  if rows.truthy then
    match rows with
    | .list rows => (rows.filterMap fun row =>
        match row with
        | .dict items => some items
        | _ => none).mapM contextFromDict
    | .str _ | .dict _ => some []
    | _ => none
  else some []

/-! ## What two contexts share -/

/-- `_context_metadata_value` -/
def contextMetadataValue (context : ContextMetadata) (key : String) : Value :=
  let orNone : String → Value := fun text => if text = "" then .none else .str text
  if key = "cache_block_size" then
    if context.cacheBlockSize = 0 then .none else .int context.cacheBlockSize
  else if key = "cache_dtype" then orNone context.cacheDtype
  else if key = "cache_layout" then orNone context.cacheLayout
  else (context.metadata.lookup key).getD .none

/-- `compatibility_keys` -/
def compatibilityKeys : List String :=
  ["cache_config_fingerprint", "model_revision", "tensor_parallel_size", "pipeline_parallel_size",
    "cache_engine", "kv_connector", "configured_cache_dtype"]

/-- Two values, both given, that differ. -/
def givenAndUnequal (source target : Value) : Bool :=
  source.truthy && target.truthy && !source.equals target

/-- `_context_cache_compatible` -/
def contextCacheCompatible (source target : ContextMetadata) : Bool :=
  let differs (unequal : Value → Value → Bool) (key : String) : Bool :=
    unequal (contextMetadataValue source key) (contextMetadataValue target key)
  decide (0 < source.cacheBlockSize) && decide (0 < target.cacheBlockSize) &&
    decide (source.cacheBlockSize = target.cacheBlockSize) &&
    decide (0 < source.contextBlocks) && decide (0 < target.contextBlocks) &&
    !(["cache_dtype", "cache_layout"].any (differs givenAndUnequal)) &&
    !(compatibilityKeys.any (differs knownAndUnequal)) &&
    !(differs givenAndUnequal "cache_groups")

/-- `common_tokens`: the tokens before the first difference. -/
def commonTokens : List ℤ → List ℤ → ℕ
  | source :: sources, target :: targets =>
    if source = target then commonTokens sources targets + 1 else 0
  | _, _ => 0

/-- `num_tokens or len(tokens)` -/
def tokenCount (context : ContextMetadata) : ℤ :=
  if context.numTokens = 0 then context.tokens.length else context.numTokens

/-- `_target_specific_reuse`: the tokens and the blocks. -/
def targetSpecificReuse (source targetContext : ContextMetadata) : ℤ × ℤ :=
  if source.tokens.isEmpty || targetContext.tokens.isEmpty then (0, 0)
  else if !contextCacheCompatible source targetContext then (0, 0)
  else
    let size := source.cacheBlockSize
    let common : ℤ := commonTokens source.tokens targetContext.tokens
    let aligned := common / size * size
    let blocks := min (min source.contextBlocks targetContext.contextBlocks) (aligned / size)
    if blocks ≤ 0 then (0, 0)
    else (min (min (tokenCount source) (tokenCount targetContext)) (blocks * size), blocks)

/-- `tokens > 0 and blocks > 0` -/
def Reusable (source targetContext : ContextMetadata) : Prop :=
  0 < (targetSpecificReuse source targetContext).1 ∧
    0 < (targetSpecificReuse source targetContext).2

instance (source targetContext : ContextMetadata) : Decidable (Reusable source targetContext) :=
  inferInstanceAs (Decidable (_ ∧ _))

/-! ## Annotating the sources -/

/-- What came of asking a target: nothing, when its instance is not ready or has no backend or the
call raises; else the contexts it reports. -/
abbrev Report := MigrationTarget × Option (List ContextMetadata)

/-- `target_contexts` -/
def targetContexts (reports : List Report) : OrderedDict String (List ContextMetadata) :=
  reports.foldl (fun known report =>
    match report.2 with
    | none => known
    | some contexts => known.set report.1.instanceId contexts) .empty

/-- `target_contexts.get(target.instance_id, [])` -/
def contextsOf (reports : List Report) (instanceId : String) : List ContextMetadata :=
  ((targetContexts reports).get? instanceId).getD []

/-- The inner loop: the first context with something to reuse. -/
def firstReuse (source : ContextMetadata) (contexts : List ContextMetadata) : Option (ℤ × ℤ) :=
  (contexts.find? fun context => Reusable source context).map (targetSpecificReuse source)

/-- The loop body over the targets. -/
def annotateTarget (reports : List Report) (source annotated : ContextMetadata)
    (target : MigrationTarget) : ContextMetadata :=
  if source.nodeId ≠ target.nodeId then annotated
  else
    match firstReuse source (contextsOf reports target.instanceId) with
    | none => annotated
    | some reuse =>
      { annotated with
        reusableTokensByTarget :=
          OrderedDict.setEntry annotated.reusableTokensByTarget target.instanceId reuse.1
        reusableBlocksByTarget :=
          OrderedDict.setEntry annotated.reusableBlocksByTarget target.instanceId reuse.2 }

/-- The loop body over the sources. -/
def annotate (reports : List Report) (source : ContextMetadata) : ContextMetadata :=
  (reports.map Prod.fst).foldl (annotateTarget reports source) source

/-- `_populate_target_reuse_maps`, after the targets have been asked. -/
def populateTargetReuseMaps (sources : List ContextMetadata) (reports : List Report) :
    List ContextMetadata :=
  sources.map (annotate reports)

/-- The report that a reply stands for; a row that is no context raises. -/
def reportOfReply (target : MigrationTarget) (reply : Option Value) : Option Report :=
  match reply with
  | none => some (target, none)
  | some value => (contextsOfReply value).map fun contexts => (target, some contexts)

/-- `_populate_target_reuse_maps` from the replies. -/
def populateFromReplies (sources : List ContextMetadata)
    (replies : List (MigrationTarget × Option Value)) : Option (List ContextMetadata) :=
  (replies.mapM fun reply => reportOfReply reply.1 reply.2).map (populateTargetReuseMaps sources)

/-! ## What is counted -/

/-- Both sides have the tokens that are counted as common. -/
theorem take_commonTokens (source target : List ℤ) :
    source.take (commonTokens source target) = target.take (commonTokens source target) := by
  induction source generalizing target with
  | nil => rfl
  | cons first rest ih =>
    cases target with
    | nil => rfl
    | cons first' rest' =>
      rw [commonTokens]
      split_ifs with hsame
      · rw [List.take_succ_cons, List.take_succ_cons, hsame, ih rest']
      · rfl

theorem commonTokens_le_left (source target : List ℤ) :
    commonTokens source target ≤ source.length := by
  induction source generalizing target with
  | nil => exact Nat.le_refl 0
  | cons first rest ih =>
    cases target with
    | nil => exact Nat.zero_le _
    | cons first' rest' =>
      rw [commonTokens]
      split_ifs
      · exact Nat.succ_le_succ (ih rest')
      · exact Nat.zero_le _

theorem commonTokens_comm (source target : List ℤ) :
    commonTokens source target = commonTokens target source := by
  induction source generalizing target with
  | nil => cases target <;> rfl
  | cons first rest ih =>
    cases target with
    | nil => rfl
    | cons first' rest' =>
      rw [commonTokens, commonTokens, ih rest']
      simp only [eq_comm]

theorem commonTokens_le_right (source target : List ℤ) :
    commonTokens source target ≤ target.length := by
  rw [commonTokens_comm]
  exact commonTokens_le_left target source

/-- What `t` tokens and `b` blocks to reuse mean: a common prefix that holds them, in whole blocks
that both sides have. -/
structure RealReuse (source context : ContextMetadata) (t b : ℤ) : Prop where
  compatible : contextCacheCompatible source context = true
  tokens : t ≤ commonTokens source.tokens context.tokens
  aligned : b * source.cacheBlockSize ≤ commonTokens source.tokens context.tokens
  sourceBlocks : b ≤ source.contextBlocks
  contextBlocks : b ≤ context.contextBlocks

/-- What is counted as reusable is real. -/
theorem targetSpecificReuse_real {source context : ContextMetadata}
    (hsize : 0 < source.cacheBlockSize) (h : Reusable source context) :
    RealReuse source context (targetSpecificReuse source context).1
      (targetSpecificReuse source context).2 := by
  unfold Reusable targetSpecificReuse at h
  unfold targetSpecificReuse
  dsimp only at h ⊢
  split_ifs at h ⊢ with hempty hcompatible hblocks
  · exact absurd h.1 (lt_irrefl 0)
  · exact absurd h.1 (lt_irrefl 0)
  · exact absurd h.1 (lt_irrefl 0)
  set common : ℤ := ((commonTokens source.tokens context.tokens : ℕ) : ℤ)
  set size := source.cacheBlockSize
  set blocks := min (min source.contextBlocks context.contextBlocks) (common / size * size / size)
  have hdiv : blocks ≤ common / size := by
    refine (min_le_right _ _).trans ?_
    rw [Int.mul_ediv_cancel _ (ne_of_gt hsize)]
  have haligned : blocks * size ≤ common :=
    (Int.mul_le_mul_of_nonneg_right hdiv hsize.le).trans (Int.ediv_mul_le _ (ne_of_gt hsize))
  refine ⟨by simpa using hcompatible, (min_le_right _ _).trans haligned, haligned, ?_, ?_⟩
  · exact (min_le_left _ _).trans (min_le_left _ _)
  · exact (min_le_left _ _).trans (min_le_right _ _)

/-! ## What a source is annotated with -/

/-- What is noted with a context for an instance. -/
def ContextMetadata.noted (context : ContextMetadata) (instanceId : String) :
    Option ℤ × Option ℤ :=
  (context.reusableTokensByTarget.lookup instanceId,
    context.reusableBlocksByTarget.lookup instanceId)

/-- The two values of an annotation. -/
def notedReuse (reuse : Option (ℤ × ℤ)) : Option ℤ × Option ℤ :=
  (reuse.map Prod.fst, reuse.map Prod.snd)

/-- One of the targets is the instance, on the node of the source. -/
def OnNode (reports : List Report) (source : ContextMetadata) (instanceId : String) : Prop :=
  ∃ report ∈ reports, report.1.nodeId = source.nodeId ∧ report.1.instanceId = instanceId

instance (reports : List Report) (source : ContextMetadata) (instanceId : String) :
    Decidable (OnNode reports source instanceId) :=
  inferInstanceAs (Decidable (∃ report ∈ reports, _))

/-- One target. -/
theorem noted_annotateTarget (reports : List Report) (source annotated : ContextMetadata)
    (target : MigrationTarget) (instanceId : String) :
    (annotateTarget reports source annotated target).noted instanceId =
      if target.nodeId = source.nodeId ∧ target.instanceId = instanceId ∧
          (firstReuse source (contextsOf reports instanceId)).isSome then
        notedReuse (firstReuse source (contextsOf reports instanceId))
      else annotated.noted instanceId := by
  unfold annotateTarget
  by_cases hnode : target.nodeId = source.nodeId
  · rw [if_neg (not_not.mpr hnode.symm)]
    by_cases hid : target.instanceId = instanceId
    · subst hid
      cases hreuse : firstReuse source (contextsOf reports target.instanceId) with
      | none => simp
      | some reuse =>
        rw [if_pos ⟨hnode, rfl, rfl⟩]
        simp [ContextMetadata.noted, notedReuse, OrderedDict.lookup_setEntry]
    · rw [if_neg fun h => hid h.2.1]
      split
      · rfl
      · simp [ContextMetadata.noted, OrderedDict.lookup_setEntry, hid]
  · rw [if_pos (Ne.symm hnode), if_neg fun h => hnode h.1]

/-- **What a source is annotated with.** -/
theorem noted_annotate {reports : List Report} {source : ContextMetadata}
    (htokens : source.reusableTokensByTarget = []) (hblocks : source.reusableBlocksByTarget = [])
    (instanceId : String) :
    (annotate reports source).noted instanceId =
      if OnNode reports source instanceId then
        notedReuse (firstReuse source (contextsOf reports instanceId))
      else (none, none) := by
  have hloop : ∀ (targets : List MigrationTarget) (annotated : ContextMetadata),
      (targets.foldl (annotateTarget reports source) annotated).noted instanceId =
        if (∃ target ∈ targets, target.nodeId = source.nodeId ∧ target.instanceId = instanceId) ∧
            (firstReuse source (contextsOf reports instanceId)).isSome then
          notedReuse (firstReuse source (contextsOf reports instanceId))
        else annotated.noted instanceId := by
    intro targets
    induction targets with
    | nil => simp
    | cons target rest ih =>
      intro annotated
      rw [List.foldl_cons, ih, noted_annotateTarget]
      by_cases hsome : (firstReuse source (contextsOf reports instanceId)).isSome = true
      · by_cases hrest : ∃ target ∈ rest,
            target.nodeId = source.nodeId ∧ target.instanceId = instanceId
        · obtain ⟨other, hother, hon⟩ := hrest
          rw [if_pos ⟨⟨other, hother, hon⟩, hsome⟩,
            if_pos ⟨⟨other, List.mem_cons_of_mem _ hother, hon⟩, hsome⟩]
        · rw [if_neg fun h => hrest h.1]
          by_cases hfirst : target.nodeId = source.nodeId ∧ target.instanceId = instanceId
          · rw [if_pos ⟨hfirst.1, hfirst.2, hsome⟩,
              if_pos ⟨⟨target, List.mem_cons_self, hfirst⟩, hsome⟩]
          · rw [if_neg fun h => hfirst ⟨h.1, h.2.1⟩, if_neg]
            rintro ⟨⟨other, hother, hon⟩, -⟩
            rcases List.mem_cons.mp hother with rfl | hother
            · exact hfirst hon
            · exact hrest ⟨other, hother, hon⟩
      · rw [if_neg fun h => hsome h.2, if_neg fun h => hsome h.2.2, if_neg fun h => hsome h.2]
  have hnothing : source.noted instanceId = (none, none) := by
    rw [ContextMetadata.noted, htokens, hblocks]
    rfl
  have hon : (∃ target ∈ reports.map Prod.fst,
      target.nodeId = source.nodeId ∧ target.instanceId = instanceId) ↔
        OnNode reports source instanceId := by
    simp [OnNode]
  rw [annotate, hloop, hnothing]
  by_cases hnode : OnNode reports source instanceId
  · rw [if_pos hnode]
    cases firstReuse source (contextsOf reports instanceId) with
    | none =>
      rw [if_neg (by simp)]
      rfl
    | some reuse => rw [if_pos ⟨hon.mpr hnode, rfl⟩]
  · rw [if_neg hnode, if_neg fun h => hnode (hon.mp h.1)]

/-! ## What a target reports, and in which order -/

/-- The last report of an instance. -/
def lastReport (instanceId : String) : List Report → Option (List ContextMetadata)
  | [] => none
  | report :: rest =>
    (lastReport instanceId rest).or (if report.1.instanceId = instanceId then report.2 else none)

theorem contextsOf_eq (reports : List Report) (instanceId : String) :
    contextsOf reports instanceId = (lastReport instanceId reports).getD [] := by
  have hloop : ∀ (known : OrderedDict String (List ContextMetadata)),
      (reports.foldl (fun known report =>
        match report.2 with
        | none => known
        | some contexts => known.set report.1.instanceId contexts) known).get? instanceId =
          (lastReport instanceId reports).or (known.get? instanceId) := by
    induction reports with
    | nil => exact fun known => rfl
    | cons report rest ih =>
      intro known
      rw [List.foldl_cons, ih, lastReport, Option.or_assoc]
      congr 1
      cases hreport : report.2 with
      | none => simp
      | some contexts =>
        dsimp only
        rw [OrderedDict.get?_set]
        split_ifs <;> rfl
  rw [contextsOf, targetContexts, hloop, OrderedDict.get?_empty, Option.or_none]

/-- The same targets, whose contexts come in another order. -/
def Reordered (reports reports' : List Report) : Prop :=
  List.Forall₂ (fun report report' =>
    report.1 = report'.1 ∧ Option.Rel List.Perm report.2 report'.2) reports reports'

theorem Reordered.map_fst {reports reports' : List Report} (h : Reordered reports reports') :
    reports'.map Prod.fst = reports.map Prod.fst := by
  induction h with
  | nil => rfl
  | cons hreport _ ih => rw [List.map_cons, List.map_cons, ih, hreport.1]

theorem Reordered.lastReport {reports reports' : List Report} (h : Reordered reports reports')
    (instanceId : String) :
    Option.Rel List.Perm (lastReport instanceId reports) (lastReport instanceId reports') := by
  induction h with
  | nil => exact .none
  | @cons report report' rest rest' hreport hrest ih =>
    obtain ⟨htarget, hcontexts⟩ := hreport
    rw [ContextMigration.lastReport, ContextMigration.lastReport, htarget]
    revert ih
    generalize ContextMigration.lastReport instanceId rest = last
    generalize ContextMigration.lastReport instanceId rest' = last'
    intro ih
    cases ih with
    | none =>
      rw [Option.none_or, Option.none_or]
      split_ifs
      · exact hcontexts
      · exact .none
    | some hperm => exact .some hperm

theorem Reordered.contextsOf_perm {reports reports' : List Report} (h : Reordered reports reports')
    (instanceId : String) :
    (contextsOf reports instanceId).Perm (contextsOf reports' instanceId) := by
  have hlast := h.lastReport instanceId
  rw [contextsOf_eq, contextsOf_eq]
  revert hlast
  generalize ContextMigration.lastReport instanceId reports = last
  generalize ContextMigration.lastReport instanceId reports' = last'
  intro hlast
  cases hlast with
  | none => exact List.Perm.refl _
  | some hperm => exact hperm

theorem Reordered.onNode_iff {reports reports' : List Report} (h : Reordered reports reports')
    (source : ContextMetadata) (instanceId : String) :
    OnNode reports source instanceId ↔ OnNode reports' source instanceId := by
  constructor
  · rintro ⟨report, hreport, hon⟩
    obtain ⟨report', hreport', htarget, -⟩ := Runs.exists_of_mem_left h hreport
    exact ⟨report', hreport', htarget ▸ hon⟩
  · rintro ⟨report', hreport', hon⟩
    obtain ⟨report, hreport, htarget, -⟩ := Runs.exists_of_mem_right h hreport'
    exact ⟨report, hreport, htarget ▸ hon⟩

/-- A context can come first. -/
theorem exists_reordered {reports : List Report} {instanceId : String} {context : ContextMetadata}
    (hcontext : context ∈ contextsOf reports instanceId) :
    ∃ reports', Reordered reports reports' ∧
      ∃ rest, contextsOf reports' instanceId = context :: rest := by
  classical
  -- wherever the context is reported for the instance, it is moved to the front
  let toFront : Report → Report := fun report => (report.1, report.2.map fun contexts =>
    if report.1.instanceId = instanceId ∧ context ∈ contexts then context :: contexts.erase context
    else contexts)
  have hperm : ∀ report, report.1 = (toFront report).1 ∧
      Option.Rel List.Perm report.2 (toFront report).2 := by
    intro report
    refine ⟨rfl, ?_⟩
    show Option.Rel List.Perm report.2 (report.2.map _)
    cases report.2 with
    | none => exact .none
    | some contexts =>
      refine .some ?_
      dsimp only
      split_ifs with hmem
      · exact List.perm_cons_erase hmem.2
      · exact List.Perm.refl _
  have hlast : ∀ rest : List Report, lastReport instanceId (rest.map toFront) =
      (lastReport instanceId rest).map fun contexts =>
        if context ∈ contexts then context :: contexts.erase context else contexts := by
    intro rest
    induction rest with
    | nil => rfl
    | cons report rest ih =>
      rw [List.map_cons, lastReport, ih, lastReport]
      cases lastReport instanceId rest with
      | some contexts => rfl
      | none =>
        by_cases hid : report.1.instanceId = instanceId
        · simp [toFront, hid]
        · simp [toFront, hid]
  refine ⟨reports.map toFront, ?_, ?_⟩
  · exact List.forall₂_map_right_iff.mpr (List.forall₂_same.mpr fun report _ => hperm report)
  · rw [contextsOf_eq] at hcontext ⊢
    rw [hlast]
    cases hreport : lastReport instanceId reports with
    | none =>
      rw [hreport] at hcontext
      exact absurd hcontext List.not_mem_nil
    | some contexts =>
      rw [hreport] at hcontext
      exact ⟨contexts.erase context, if_pos hcontext⟩

/-! ## Reuse that is real and complete -/

theorem firstReuse_eq_some {source : ContextMetadata} {contexts : List ContextMetadata}
    {reuse : ℤ × ℤ} (h : firstReuse source contexts = some reuse) :
    ∃ context ∈ contexts, Reusable source context ∧ targetSpecificReuse source context = reuse := by
  obtain ⟨context, hfind, hreuse⟩ := Option.map_eq_some_iff.mp h
  have hreusable : Reusable source context := by simpa using List.find?_some hfind
  exact ⟨context, List.mem_of_find?_eq_some hfind, hreusable, hreuse⟩

theorem firstReuse_eq_none_iff {source : ContextMetadata} {contexts : List ContextMetadata} :
    firstReuse source contexts = none ↔ ∀ context ∈ contexts, ¬ Reusable source context := by
  rw [firstReuse, Option.map_eq_none_iff, List.find?_eq_none]
  exact forall₂_congr fun context _ => by rw [decide_eq_true_eq]

/-- A context at the front decides. -/
theorem firstReuse_cons {source context : ContextMetadata} (h : Reusable source context)
    (rest : List ContextMetadata) :
    firstReuse source (context :: rest) = some (targetSpecificReuse source context) := by
  simp [firstReuse, h]

/-- What the annotations should be: real, the most there is, and the same in whatever order a
target reports its contexts. -/
structure RealAndComplete (sources : List ContextMetadata) (reports : List Report) : Prop where
  real : List.Forall₂ (fun source annotated => ∀ instanceId t b,
      annotated.noted instanceId = (some t, some b) → OnNode reports source instanceId ∧
        ∃ context ∈ contextsOf reports instanceId, RealReuse source context t b)
    sources (populateTargetReuseMaps sources reports)
  largest : List.Forall₂ (fun source annotated => ∀ instanceId, OnNode reports source instanceId →
      ∀ context ∈ contextsOf reports instanceId, Reusable source context →
        ∃ t b, annotated.noted instanceId = (some t, some b) ∧
          (targetSpecificReuse source context).1 ≤ t ∧ (targetSpecificReuse source context).2 ≤ b)
    sources (populateTargetReuseMaps sources reports)
  orderFree : ∀ reports', Reordered reports reports' →
    populateTargetReuseMaps sources reports' = populateTargetReuseMaps sources reports

/-- All contexts of a target from which a source on its node can reuse anything give the same. -/
def AlikeReuse (sources : List ContextMetadata) (reports : List Report) : Prop :=
  ∀ source ∈ sources, ∀ instanceId, OnNode reports source instanceId →
    ∀ context ∈ contextsOf reports instanceId, ∀ context' ∈ contextsOf reports instanceId,
      Reusable source context → Reusable source context' →
        targetSpecificReuse source context = targetSpecificReuse source context'

/-- A source as it comes to be annotated. -/
structure Unannotated (source : ContextMetadata) : Prop where
  size : 0 < source.cacheBlockSize
  tokens : source.reusableTokensByTarget = []
  blocks : source.reusableBlocksByTarget = []

theorem forall₂_populate {sources : List ContextMetadata} {reports : List Report}
    {R : ContextMetadata → ContextMetadata → Prop} :
    List.Forall₂ R sources (populateTargetReuseMaps sources reports) ↔
      ∀ source ∈ sources, R source (annotate reports source) := by
  rw [populateTargetReuseMaps, List.forall₂_map_right_iff, List.forall₂_same]

/-- What is annotated is real, whatever the targets report. -/
theorem annotate_real {reports : List Report} {source : ContextMetadata} (h : Unannotated source)
    {instanceId : String} {t b : ℤ}
    (hnoted : (annotate reports source).noted instanceId = (some t, some b)) :
    OnNode reports source instanceId ∧
      ∃ context ∈ contextsOf reports instanceId, RealReuse source context t b := by
  rw [noted_annotate h.tokens h.blocks] at hnoted
  split_ifs at hnoted with hnode
  · refine ⟨hnode, ?_⟩
    cases hfirst : firstReuse source (contextsOf reports instanceId) with
    | none =>
      rw [hfirst] at hnoted
      exact absurd (Prod.mk.inj hnoted).1 (by simp)
    | some reuse =>
      rw [hfirst] at hnoted
      obtain ⟨ht, hb⟩ := Prod.mk.inj hnoted
      obtain ⟨context, hcontext, hreusable, hreuse⟩ := firstReuse_eq_some hfirst
      have hreal := targetSpecificReuse_real h.size hreusable
      rw [hreuse, Option.some.inj ht, Option.some.inj hb] at hreal
      exact ⟨context, hcontext, hreal⟩
  · exact absurd (Prod.mk.inj hnoted).1 (by simp)

/-- Where all that can be reused is alike, the first of the contexts has it in any order. -/
theorem firstReuse_perm {source : ContextMetadata} {contexts contexts' : List ContextMetadata}
    (hperm : contexts.Perm contexts')
    (halike : ∀ context ∈ contexts, ∀ context' ∈ contexts, Reusable source context →
      Reusable source context' →
        targetSpecificReuse source context = targetSpecificReuse source context') :
    firstReuse source contexts = firstReuse source contexts' := by
  cases hfirst' : firstReuse source contexts' with
  | none =>
    rw [firstReuse_eq_none_iff] at hfirst' ⊢
    exact fun context hcontext => hfirst' context (hperm.subset hcontext)
  | some reuse' =>
    obtain ⟨context', hcontext', hreusable', rfl⟩ := firstReuse_eq_some hfirst'
    have hmem' : context' ∈ contexts := hperm.symm.subset hcontext'
    cases hfirst : firstReuse source contexts with
    | none => exact absurd hreusable' (firstReuse_eq_none_iff.mp hfirst context' hmem')
    | some reuse =>
      obtain ⟨context, hcontext, hreusable, rfl⟩ := firstReuse_eq_some hfirst
      rw [halike context hcontext context' hmem' hreusable hreusable']

theorem AlikeReuse.annotate_eq {sources : List ContextMetadata} {reports reports' : List Report}
    (h : AlikeReuse sources reports) (hreordered : Reordered reports reports')
    {source : ContextMetadata} (hsource : source ∈ sources) :
    annotate reports' source = annotate reports source := by
  unfold annotate
  rw [hreordered.map_fst]
  refine List.foldl_ext _ _ _ fun annotated target htarget => ?_
  unfold annotateTarget
  by_cases hnode : target.nodeId = source.nodeId
  · rw [if_neg (not_not.mpr hnode.symm), if_neg (not_not.mpr hnode.symm)]
    obtain ⟨report, hreport, rfl⟩ := List.mem_map.mp htarget
    have hon : OnNode reports source report.1.instanceId := ⟨report, hreport, hnode, rfl⟩
    rw [firstReuse_perm (hreordered.contextsOf_perm _) (h source hsource _ hon)]
  · rw [if_pos (Ne.symm hnode), if_pos (Ne.symm hnode)]

/-- **When the annotated reuse is real and complete.** -/
theorem reuse_real_and_complete_iff {sources : List ContextMetadata} (reports : List Report)
    (hsources : ∀ source ∈ sources, Unannotated source) :
    RealAndComplete sources reports ↔ AlikeReuse sources reports := by
  constructor
  · intro hcomplete source hsource instanceId hnode context hcontext context' hcontext' hreusable
      hreusable'
    have h := hsources source hsource
    -- each of the two contexts decides when it comes first
    have hdecides : ∀ context ∈ contextsOf reports instanceId, Reusable source context →
        (annotate reports source).noted instanceId =
          notedReuse (some (targetSpecificReuse source context)) := by
      intro context hcontext hreusable
      obtain ⟨reports', hreordered, rest, hfront⟩ := exists_reordered hcontext
      have hsame : annotate reports' source = annotate reports source :=
        List.map_inj_left.mp (hcomplete.orderFree reports' hreordered) source hsource
      rw [← hsame, noted_annotate h.tokens h.blocks,
        if_pos ((hreordered.onNode_iff source instanceId).mp hnode), hfront,
        firstReuse_cons hreusable]
    have heq := (hdecides context hcontext hreusable).symm.trans
      (hdecides context' hcontext' hreusable')
    obtain ⟨htokens, hblocks⟩ := Prod.mk.inj heq
    exact Prod.ext (Option.some.inj htokens) (Option.some.inj hblocks)
  · intro halike
    refine ⟨forall₂_populate.mpr fun source hsource instanceId t b hnoted =>
      annotate_real (hsources source hsource) hnoted, forall₂_populate.mpr ?_, ?_⟩
    · intro source hsource instanceId hnode context hcontext hreusable
      have h := hsources source hsource
      cases hfirst : firstReuse source (contextsOf reports instanceId) with
      | none => exact absurd hreusable (firstReuse_eq_none_iff.mp hfirst context hcontext)
      | some reuse =>
        obtain ⟨context', hcontext', hreusable', rfl⟩ := firstReuse_eq_some hfirst
        have heq := halike source hsource instanceId hnode context hcontext context' hcontext'
          hreusable hreusable'
        refine ⟨_, _, ?_, le_of_eq (congrArg Prod.fst heq), le_of_eq (congrArg Prod.snd heq)⟩
        rw [noted_annotate h.tokens h.blocks, if_pos hnode, hfirst]
        rfl
    · intro reports' hreordered
      exact List.map_congr_left fun source hsource => halike.annotate_eq hreordered hsource

/-- A context of the given tokens, one to a block, all of them cached. -/
def cachedTokens (tokens : List ℤ) : ContextMetadata where
  requestId := none
  instanceId := "instance-source"
  nodeId := "node-a"
  numTokens := tokens.length
  contextBlocks := tokens.length
  tokens := tokens
  cacheBlockSize := 1
  cacheDtype := ""
  cacheLayout := ""
  reusableTokensByTarget := []
  reusableBlocksByTarget := []
  metadata := []

/-- A target on the node, with the contexts that it reports. -/
def reportedTokens (contexts : List (List ℤ)) : Report :=
  ({ instanceId := "instance-target"
     nodeId := "node-a"
     capacity := 1
     warmupCost := 0
     concurrency := 0
     maxQueueLength := 0
     queueDepth := none
     queuePenalty := 0
     metadata := [] }, some (contexts.map cachedTokens))

/-- The target has both tokens of the source, in its second context; the first one has only one of
them and is taken. -/
theorem later_context_ignored :
    ¬ RealAndComplete [cachedTokens [1, 2]] [reportedTokens [[1], [1, 2]]] := by
  intro h
  have hnode : OnNode [reportedTokens [[1], [1, 2]]] (cachedTokens [1, 2]) "instance-target" := by
    decide
  have hcontext : cachedTokens [1, 2] ∈
      contextsOf [reportedTokens [[1], [1, 2]]] "instance-target" :=
    List.mem_cons_of_mem _ List.mem_cons_self
  have hreusable : Reusable (cachedTokens [1, 2]) (cachedTokens [1, 2]) := by decide
  obtain ⟨t, b, hnoted, -, hle⟩ := forall₂_populate.mp h.largest _ List.mem_cons_self
    "instance-target" hnode _ hcontext hreusable
  have hcode : (annotate [reportedTokens [[1], [1, 2]]] (cachedTokens [1, 2])).noted
      "instance-target" = (some 1, some 1) := by decide
  have hblocks : (targetSpecificReuse (cachedTokens [1, 2]) (cachedTokens [1, 2])).2 = 2 := by
    decide
  obtain rfl := Option.some.inj (Prod.mk.inj (hcode.symm.trans hnoted)).2
  rw [hblocks] at hle
  exact absurd hle (by decide)

theorem reuse_real_and_complete_cachedTokens :
    RealAndComplete [cachedTokens [1, 2]] [reportedTokens [[1, 2], [3]]] ↔
      AlikeReuse [cachedTokens [1, 2]] [reportedTokens [[1, 2], [3]]] :=
  reuse_real_and_complete_iff _ fun source hsource => by
    rw [List.mem_singleton.mp hsource]
    exact ⟨Int.one_pos, rfl, rfl⟩

end ContextMigration
end SpotServe
