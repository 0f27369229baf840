import SpotServe.Library.PyValue

/-!
# Whether an exported state fits a target

`sllm/spot/stateful_recovery.py` compares what is known of an exported inference state with what is
known of a candidate, field by field.  A field that only one side knows is passed over.  There are
four checks, each with the reason it gives:

* `modelSemanticCompatible_iff`: the same backend, model and revisions;
* `stateSerializationCompatible_iff`: a kind of state that the candidate takes;
* `kvLayoutCompatible_iff`: the same shape of the KV cache;
* `epLayoutCompatible_iff`: the same expert layout, where one of the two asks for it.

`checkKeys_reason` says what the reason of a mismatch names.
-/

namespace SpotServe
namespace StateRestore

open Py

/-- `InferenceState`, as far as a restore target is chosen by it. -/
structure InferenceState where
  requestId : Option String
  instanceId : String
  nodeId : String
  backend : String
  modelName : String
  tokens : List ℤ
  completedTokens : ℤ
  stateKind : String
  supportsRestore : Bool
  metadata : Dict

/-- The state says that it can be restored. -/
def InferenceState.AdvertisesRestore (state : InferenceState) : Prop :=
  state.supportsRestore = true ∧ state.stateKind = "vllm_kv_snapshot"

instance (state : InferenceState) : Decidable state.AdvertisesRestore :=
  inferInstanceAs (Decidable (_ ∧ _))

/-! ## Reading fields -/

/-- The items of a nested mapping; anything else has none. -/
def mappingAt (candidate : Dict) (field : String) : Dict :=
  match candidate.lookup field with
  | some (.dict items) => items
  | _ => []

/-- `_candidate_value` -/
def candidateValue (candidate : Dict) (key : String) : Value :=
  match candidate.lookup key with
  | some value => value
  | none =>
    match (mappingAt candidate "model_resource_profile").lookup key with
    | none | some .none => ((mappingAt candidate "metadata").lookup key).getD .none
    | some value => value

/-- `_state_value` -/
def stateValue (state : InferenceState) (key : String) : Value :=
  if key = "model_name" then .str state.modelName
  else if key = "backend" then .str state.backend
  else (state.metadata.lookup key).getD .none

/-- `_boolish` -/
def boolish : Value → Bool
  | .str s => ["1", "true", "yes", "on"].contains (lower (strip s))
  | value => value.truthy

/-! ## The checks -/

/-- `_compatibility_check` -/
structure Check where
  compatible : Bool
  reason : String

/-- The fields that both sides know and that differ. -/
def mismatchKeys (state : InferenceState) (candidate : Dict) (keys : List String) : List String :=
  keys.filter fun key => knownAndUnequal (stateValue state key) (candidateValue candidate key)

/-- The loop over `keys` that ends a check, at the first mismatch or with success. -/
def checkKeys (state : InferenceState) (candidate : Dict) (keys : List String) (success : String) :
    Check :=
  match mismatchKeys state candidate keys with
  | key :: _ => ⟨false, key ++ "_mismatch"⟩
  | [] => ⟨true, success⟩

/-- The fields `_model_semantic_compatible` compares. -/
def revisionKeys : List String :=
  ["model_revision", "tokenizer_revision", "gate_model_revision", "moe_backend"]

/-- `_model_semantic_compatible` -/
def modelSemanticCompatible (state : InferenceState) (candidate : Dict) : Check :=
  let candidateModel := candidateValue candidate "model_name"
  if strOr (some (candidateValue candidate "backend")) "" ∉ ["", state.backend] then
    ⟨false, "backend_mismatch"⟩
  else if candidateModel.truthy = true ∧ state.modelName ≠ "" ∧
      candidateModel.toStr ≠ state.modelName then
    ⟨false, "model_mismatch"⟩
  else checkKeys state candidate revisionKeys "compatible_model_semantics"

/-- The fields `_state_serialization_compatible` compares. -/
def encodingKeys : List String := ["sampling_state_encoding", "request_metadata_encoding"]

/-- What speaks against the kind of the state: the list of kinds that the candidate supports, or
else its own kind. -/
def stateKindFault (state : InferenceState) (candidate : Dict) : Option String :=
  match candidateValue candidate "supported_state_kinds" with
  | .list kinds =>
    if state.stateKind ∉ kinds.map Value.toStr then some "state_kind_unsupported" else none
  | _ =>
    let targetKind := candidateValue candidate "state_kind"
    if targetKind.truthy = true ∧ targetKind.toStr ≠ "" ∧ targetKind.toStr ≠ state.stateKind then
      some "state_kind_mismatch"
    else none

/-- `_state_serialization_compatible` -/
def stateSerializationCompatible (state : InferenceState) (candidate : Dict) : Check :=
  if ¬ state.AdvertisesRestore then ⟨false, "state_restore_not_advertised"⟩
  else
    match stateKindFault state candidate with
    | some reason => ⟨false, reason⟩
    | none => checkKeys state candidate encodingKeys "compatible_state_serialization"

/-- The fields `_kv_layout_compatible` compares. -/
def kvLayoutKeys : List String :=
  ["tensor_parallel_size", "pipeline_parallel_size", "cache_block_size", "cache_dtype",
    "cache_layout", "cache_config_fingerprint", "cache_engine", "kv_connector"]

/-- `_kv_layout_compatible` -/
def kvLayoutCompatible (state : InferenceState) (candidate : Dict) : Check :=
  checkKeys state candidate kvLayoutKeys "compatible_kv_layout"

/-- The fields `_ep_layout_compatible` compares. -/
def epLayoutKeys : List String :=
  ["effective_expert_parallel_size", "expert_parallel_enabled", "expert_placement_fingerprint"]

/-- `ep_required` -/
def epRequired (state : InferenceState) (candidate : Dict) : Bool :=
  boolish (stateValue state "state_restore_requires_ep_layout") ||
    boolish (candidateValue candidate "state_restore_requires_ep_layout")

/-- What `_ep_layout_compatible` returns. -/
structure EpCheck extends Check where
  required : Bool
  mismatchKeys : List String

/-- `_ep_layout_compatible` -/
def epLayoutCompatible (state : InferenceState) (candidate : Dict) : EpCheck :=
  let keys := mismatchKeys state candidate epLayoutKeys
  if epRequired state candidate = true then
    { checkKeys state candidate epLayoutKeys "compatible_ep_layout" with
      required := true
      mismatchKeys := keys }
  else
    { compatible := true
      reason :=
        if keys.isEmpty then "ep_layout_not_required" else "ep_layout_mismatch_is_locality_only"
      required := false
      mismatchKeys := keys }

/-! ## What the checks ask for -/

/-- Every field that both sides know reads the same. -/
def Agree (state : InferenceState) (candidate : Dict) (keys : List String) : Prop :=
  ∀ key ∈ keys, knownAndUnequal (stateValue state key) (candidateValue candidate key) = false

instance (state : InferenceState) (candidate : Dict) (keys : List String) :
    Decidable (Agree state candidate keys) :=
  inferInstanceAs (Decidable (∀ key ∈ keys, _))

/-- The state and the candidate are of one model. -/
structure SameModel (state : InferenceState) (candidate : Dict) : Prop where
  backend : strOr (some (candidateValue candidate "backend")) "" = "" ∨
    strOr (some (candidateValue candidate "backend")) "" = state.backend
  model : (candidateValue candidate "model_name").truthy = true → state.modelName ≠ "" →
    (candidateValue candidate "model_name").toStr = state.modelName
  revisions : Agree state candidate revisionKeys

/-- The candidate reads states of this kind and in this encoding. -/
structure ReadsState (state : InferenceState) (candidate : Dict) : Prop where
  advertised : state.AdvertisesRestore
  supported : ∀ kinds, candidateValue candidate "supported_state_kinds" = .list kinds →
    state.stateKind ∈ kinds.map Value.toStr
  kind : (∀ kinds, candidateValue candidate "supported_state_kinds" ≠ .list kinds) →
    (candidateValue candidate "state_kind").truthy = true →
      (candidateValue candidate "state_kind").toStr ≠ "" →
        (candidateValue candidate "state_kind").toStr = state.stateKind
  encodings : Agree state candidate encodingKeys

theorem mismatchKeys_eq_nil_iff {state : InferenceState} {candidate : Dict} {keys : List String} :
    mismatchKeys state candidate keys = [] ↔ Agree state candidate keys := by
  rw [mismatchKeys, List.filter_eq_nil_iff]
  exact forall₂_congr fun key _ => Bool.not_eq_true _ ▸ Iff.rfl

theorem checkKeys_compatible_iff {state : InferenceState} {candidate : Dict} {keys : List String}
    {success : String} :
    (checkKeys state candidate keys success).compatible = true ↔ Agree state candidate keys := by
  rw [← mismatchKeys_eq_nil_iff, checkKeys]
  cases mismatchKeys state candidate keys with
  | nil => simp
  | cons key rest => simp

/-- The reason of a mismatch names a field that both sides know and that differs. -/
theorem checkKeys_reason {state : InferenceState} {candidate : Dict} {keys : List String}
    {success : String} (h : (checkKeys state candidate keys success).compatible = false) :
    ∃ key ∈ keys, knownAndUnequal (stateValue state key) (candidateValue candidate key) = true ∧
      (checkKeys state candidate keys success).reason = key ++ "_mismatch" := by
  rw [checkKeys] at h ⊢
  cases hkeys : mismatchKeys state candidate keys with
  | nil =>
    rw [hkeys] at h
    exact absurd h (by simp)
  | cons key rest =>
    have hmem : key ∈ mismatchKeys state candidate keys := by
      rw [hkeys]
      exact List.mem_cons_self
    obtain ⟨hkey, hunequal⟩ := List.mem_filter.mp hmem
    exact ⟨key, hkey, hunequal, rfl⟩

theorem modelSemanticCompatible_iff {state : InferenceState} {candidate : Dict} :
    (modelSemanticCompatible state candidate).compatible = true ↔ SameModel state candidate := by
  unfold modelSemanticCompatible
  dsimp only
  split
  case isTrue hbackend =>
    refine iff_of_false Bool.false_ne_true fun h => hbackend ?_
    rcases h.backend with hempty | hsame
    · rw [hempty]
      exact List.mem_cons_self
    · rw [hsame]
      exact List.mem_cons_of_mem _ List.mem_cons_self
  case isFalse hbackend =>
    split
    case isTrue hmodel =>
      exact iff_of_false Bool.false_ne_true fun h => hmodel.2.2 (h.model hmodel.1 hmodel.2.1)
    case isFalse hmodel =>
      rw [checkKeys_compatible_iff]
      refine ⟨fun h => ⟨?_, ?_, h⟩, fun h => h.revisions⟩
      · by_contra hneither
        rw [not_or] at hneither
        exact hbackend fun hmem => by simp [hneither] at hmem
      · intro htruthy hname
        by_contra hdiffer
        exact hmodel ⟨htruthy, hname, hdiffer⟩

/-- No fault with the kind of the state. -/
theorem stateKindFault_eq_none_iff {state : InferenceState} {candidate : Dict} :
    stateKindFault state candidate = none ↔
      (∀ kinds, candidateValue candidate "supported_state_kinds" = .list kinds →
        state.stateKind ∈ kinds.map Value.toStr) ∧
      ((∀ kinds, candidateValue candidate "supported_state_kinds" ≠ .list kinds) →
        (candidateValue candidate "state_kind").truthy = true →
          (candidateValue candidate "state_kind").toStr ≠ "" →
            (candidateValue candidate "state_kind").toStr = state.stateKind) := by
  unfold stateKindFault
  split
  case h_1 kinds hkinds =>
    rw [hkinds]
    constructor
    · intro h
      have hmem : state.stateKind ∈ kinds.map Value.toStr := by
        by_contra hmem
        rw [if_pos hmem] at h
        exact absurd h (by simp)
      refine ⟨fun kinds' heq => ?_, fun hnone => absurd rfl (hnone kinds)⟩
      obtain rfl := Value.list.inj heq
      exact hmem
    · intro h
      exact if_neg (not_not.mpr (h.1 kinds rfl))
  case h_2 hkinds =>
    dsimp only
    constructor
    · intro h
      refine ⟨fun kinds heq => absurd heq (hkinds kinds), fun _ htruthy hempty => ?_⟩
      by_contra hdiffer
      rw [if_pos ⟨htruthy, hempty, hdiffer⟩] at h
      exact absurd h (by simp)
    · intro h
      exact if_neg fun hfault => hfault.2.2 (h.2 (fun kinds => hkinds kinds) hfault.1 hfault.2.1)

theorem stateSerializationCompatible_iff {state : InferenceState} {candidate : Dict} :
    (stateSerializationCompatible state candidate).compatible = true ↔
      ReadsState state candidate := by
  by_cases hadvertised : state.AdvertisesRestore
  · rw [stateSerializationCompatible, if_neg (not_not.mpr hadvertised)]
    cases hfault : stateKindFault state candidate with
    | some reason =>
      refine iff_of_false Bool.false_ne_true fun h => ?_
      rw [stateKindFault_eq_none_iff.mpr ⟨h.supported, h.kind⟩] at hfault
      exact absurd hfault (by simp)
    | none =>
      obtain ⟨hsupported, hkind⟩ := stateKindFault_eq_none_iff.mp hfault
      exact checkKeys_compatible_iff.trans
        ⟨fun h => ⟨hadvertised, hsupported, hkind, h⟩, fun h => h.encodings⟩
  · rw [stateSerializationCompatible, if_pos hadvertised]
    exact iff_of_false Bool.false_ne_true fun h => hadvertised h.advertised

theorem kvLayoutCompatible_iff {state : InferenceState} {candidate : Dict} :
    (kvLayoutCompatible state candidate).compatible = true ↔ Agree state candidate kvLayoutKeys :=
  checkKeys_compatible_iff

theorem epLayoutCompatible_iff {state : InferenceState} {candidate : Dict} :
    (epLayoutCompatible state candidate).compatible = true ↔
      (epRequired state candidate = true → Agree state candidate epLayoutKeys) := by
  by_cases hrequired : epRequired state candidate = true
  · rw [epLayoutCompatible, if_pos hrequired, forall_prop_of_true hrequired]
    exact checkKeys_compatible_iff
  · rw [epLayoutCompatible, if_neg hrequired]
    exact iff_of_true rfl fun h => absurd h hrequired

end StateRestore
end SpotServe
