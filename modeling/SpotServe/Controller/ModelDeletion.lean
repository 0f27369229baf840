import Mathlib.Data.List.Basic
import SpotServe.Library.OrderedDict

/-!
# Deleting a model

`SllmController.delete` (`sllm/controller.py`) shuts the router of a model down and then kills what
is left of it: every live actor whose name is the model's, or begins with the model's name and an
underscore (`_kill_detached_model_actors`).  The instance ids of a router are built that way, from
the name of its model and a fresh suffix (`_new_instance_id`), so the cleanup finds all instances of
the model.  It also finds whatever belongs to a model whose own name begins that way.

Which names `ray.get_actor` resolves, in which namespace the controller runs, which actors
`ray.kill` accepts, when the actors can be listed at all and how long a pass takes is left open.

* `ownedName_iff`: whose names the cleanup takes for the model's.
* `leavesOthersAlone_iff`: when it kills nothing of another model.
-/

namespace SpotServe
namespace Controller

open Py

/-! ## Actors and their names -/

/-- The text of a `uuid.uuid4()`: hexadecimal digits and hyphens. -/
abbrev UuidText := { text : String // '_' ∉ text.toList }

/-- What an actor is for. -/
inductive ActorRole where
  | router
  | backend (suffix : UuidText)
  deriving DecidableEq

/-- A live actor of a model. -/
structure Actor where
  modelName : String
  role : ActorRole
  rayNamespace : String
  deriving DecidableEq

/-- The name of an actor; that of an instance is its id, from `_new_instance_id`. -/
def Actor.name (a : Actor) : String :=
  match a.role with
  | .router => a.modelName
  | .backend suffix => a.modelName ++ "_" ++ suffix.val

/-- `text.startswith(start)` -/
def startsWith (text start : String) : Bool := start.toList.isPrefixOf text.toList

/-- The test of `_alive_actor_names_for_model`. -/
def ownedName (modelName actorName : String) : Bool :=
  actorName = modelName || startsWith actorName (modelName ++ "_")

/-- What the cleanup asks of Ray. -/
structure Ray where
  /-- The namespace of the controller. -/
  rayNamespace : String
  /-- `ray.get_actor` does not raise. -/
  resolves : Actor → Bool
  /-- `ray.kill` does not raise. -/
  accepts : Actor → Bool

/-! ## The cleanup -/

/-- `ray.get_actor` in one namespace after the other. -/
def Ray.getActor (ray : Ray) (live : List Actor) (actorName : String) : Option Actor :=
  [ray.rayNamespace, "sllm", "models"].findSome? fun rayNamespace =>
    live.find? fun a => a.name = actorName ∧ a.rayNamespace = rayNamespace ∧ ray.resolves a

/-- What the cleanup has done so far. -/
structure Cleanup where
  killed : List Actor := []
  /-- `killed_actor_names` -/
  killedActorNames : List String := []

/-- The actors that are still alive. -/
def Cleanup.live (c : Cleanup) (actors : List Actor) : List Actor := actors.filter (· ∉ c.killed)

/-- One name: its actor is killed.  A name without actor is not tried again, one whose actor could
not be killed is. -/
def killByName (ray : Ray) (actors : List Actor) (c : Cleanup) (actorName : String) : Cleanup :=
  match ray.getActor (c.live actors) actorName with
  | none => { c with killedActorNames := actorName :: c.killedActorNames }
  | some a =>
    if ray.accepts a then ⟨a :: c.killed, actorName :: c.killedActorNames⟩ else c

/-- The names that are left when the actors can be listed. -/
def actorNames (modelName : String) (actors : List Actor) (c : Cleanup) : List String :=
  ((c.live actors).map Actor.name).filter fun actorName =>
    ownedName modelName actorName ∧ actorName ∉ c.killedActorNames

/-- One turn of the loop: whether Ray lists its actors, and what the clock says then. -/
structure Pass where
  /-- `ray_state.actors()` does not raise. -/
  listed : Bool
  quiet : Bool
  deadline : Bool

/-- The names a pass finds: none when the actors cannot be listed. -/
def Pass.names (pass : Pass) (modelName : String) (actors : List Actor) (c : Cleanup) :
    List String :=
  if pass.listed then actorNames modelName actors c else []

/-- The loop goes on until a pass in which the actors are listed. -/
def Listed : List Pass → Prop
  | [] => False
  | pass :: passes =>
    pass.listed = true ∨ pass.quiet = false ∧ pass.deadline = false ∧ Listed passes

/-- The loop of `_kill_detached_model_actors`. -/
def killDetachedModelActors (ray : Ray) (modelName : String) (actors : List Actor) :
    List Pass → Cleanup → Cleanup
  | [], c => c
  | pass :: passes, c =>
    if pass.names modelName actors c = [] then
      if pass.quiet || pass.deadline then c
      else killDetachedModelActors ray modelName actors passes c
    else
      let c := (pass.names modelName actors c).foldl (killByName ray actors) c
      if pass.deadline then c else killDetachedModelActors ray modelName actors passes c

/-! ## `delete` -/

/-- The tables of the controller, by their keys. -/
structure SllmController where
  registeredModels : List String := []
  requestRouters : List String := []

/-- How a call of `delete` goes. -/
inductive DeletePath where
  /-- Only LoRA adapters of a registered model. -/
  | adapters
  /-- `router.shutdown` raises, or `registered_models` has no such key. -/
  | raises
  /-- The cleanup is reached. -/
  | cleanup
  deriving DecidableEq

/-- The branches of `delete`. -/
def deletePath (c : SllmController) (modelName : String) (loraAdapters : Option (List String))
    (shutdownRaises : Bool) : DeletePath :=
  if modelName ∉ c.requestRouters then .cleanup
  else if loraAdapters.isSome then .adapters
  else if modelName ∉ c.registeredModels ∨ shutdownRaises then .raises
  else .cleanup

/-- `delete`: the actors it kills, and the tables it leaves. -/
def delete (c : SllmController) (modelName : String) (loraAdapters : Option (List String))
    (shutdownRaises : Bool) (ray : Ray) (actors : List Actor) (passes : List Pass) :
    List Actor × SllmController :=
  let removed : SllmController :=
    ⟨c.registeredModels.filter (· ≠ modelName), c.requestRouters.filter (· ≠ modelName)⟩
  match deletePath c modelName loraAdapters shutdownRaises with
  | .adapters => ([], c)
  | .raises => ([], removed)
  | .cleanup => ((killDetachedModelActors ray modelName actors passes {}).killed, removed)

/-- Nothing of another model is killed, and every instance of the model is that can be, once the
actors are listed. -/
def LeavesOthersAlone (c : SllmController) (modelName : String)
    (loraAdapters : Option (List String)) (shutdownRaises : Bool) (ray : Ray)
    (actors : List Actor) (passes : List Pass) : Prop :=
  let killed := (delete c modelName loraAdapters shutdownRaises ray actors passes).1
  (∀ a ∈ killed, a.modelName = modelName) ∧
    (deletePath c modelName loraAdapters shutdownRaises = .cleanup → Listed passes →
      ∀ a ∈ actors, a.modelName = modelName → a.role ≠ .router →
        ray.getActor actors a.name = some a → ray.accepts a → a ∈ killed)

/-! ## Whose names -/

theorem startsWith_iff {text start : String} :
    startsWith text start = true ↔ start.toList <+: text.toList := List.isPrefixOf_iff_prefix

theorem toList_append_underscore (modelName : String) :
    (modelName ++ "_").toList = modelName.toList ++ ['_'] := by
  simp [String.toList_append]

/-- An underscore ends the part of a name before it, when there is none behind. -/
theorem concat_prefix_iff {sep : Char} {start word suffix : List Char} (h : sep ∉ suffix) :
    start ++ [sep] <+: word ++ [sep] ++ suffix ↔ start ++ [sep] <+: word ∨ word = start := by
  constructor
  · intro hstarts
    rcases List.prefix_or_prefix_of_prefix hstarts (List.prefix_append (word ++ [sep]) suffix) with
      hle | hle
    · rcases List.prefix_concat_iff.mp hle with heq | hle
      · exact .inr (List.append_inj_left' heq rfl).symm
      · exact .inl hle
    · rcases List.prefix_concat_iff.mp hle with heq | ⟨rest, hrest⟩
      · exact .inr (List.append_inj_left' heq rfl)
      · rw [← hrest, List.append_assoc, List.prefix_append_right_inj] at hstarts
        exact absurd (hstarts.subset (by simp)) h
  · rintro (hstarts | rfl)
    · rw [List.append_assoc]
      exact hstarts.trans (List.prefix_append _ _)
    · exact List.prefix_append _ _

/-- **Whose names** the cleanup takes for the model's: those of the model, those of models whose
name begins with it and an underscore, and an id that is just its name. -/
theorem ownedName_iff {modelName : String} {a : Actor} : ownedName modelName a.name = true ↔
    a.modelName = modelName ∨ startsWith a.modelName (modelName ++ "_") ∨ a.name = modelName := by
  unfold ownedName
  rw [Bool.or_eq_true, decide_eq_true_eq]
  obtain ⟨word, role, rayNamespace⟩ := a
  cases role with
  | router =>
    show word = modelName ∨ startsWith word _ = true ↔
      word = modelName ∨ startsWith word _ = true ∨ word = modelName
    tauto
  | backend suffix =>
    have hsplit : startsWith (word ++ "_" ++ suffix.val) (modelName ++ "_") = true ↔
        startsWith word (modelName ++ "_") = true ∨ word = modelName := by
      rw [startsWith_iff, startsWith_iff, toList_append_underscore, String.toList_append,
        toList_append_underscore, concat_prefix_iff suffix.property, String.toList_inj]
    show word ++ "_" ++ suffix.val = modelName ∨ startsWith (word ++ "_" ++ suffix.val) _ = true ↔
      word = modelName ∨ startsWith word _ = true ∨ word ++ "_" ++ suffix.val = modelName
    rw [hsplit]
    tauto

/-! ## The loop -/

variable {ray : Ray} {modelName : String} {actors : List Actor} {c : Cleanup}

theorem of_getActor {live : List Actor} {actorName : String} {a : Actor}
    (h : ray.getActor live actorName = some a) : a ∈ live ∧ a.name = actorName := by
  obtain ⟨rayNamespace, -, hfind⟩ := List.exists_of_findSome?_eq_some h
  have htest := List.find?_some hfind
  simp only [decide_eq_true_eq] at htest
  exact ⟨List.mem_of_find?_eq_some hfind, htest.1⟩

/-- An actor that is found is found as long as it is alive. -/
theorem getActor_live {actorName : String} {a : Actor}
    (h : ray.getActor actors actorName = some a) (halive : a ∉ c.killed) :
    ray.getActor (c.live actors) actorName = some a := by
  unfold Ray.getActor Cleanup.live at *
  simp only [List.find?_filter]
  rw [List.findSome?_eq_some_iff] at h ⊢
  obtain ⟨before, rayNamespace, after, hsplit, hfind, hnone⟩ := h
  refine ⟨before, rayNamespace, after, hsplit, ?_, fun other hother => ?_⟩
  · rw [List.find?_eq_some_iff_append] at hfind ⊢
    obtain ⟨htest, first, last, heq, hfirst⟩ := hfind
    refine ⟨decide_eq_true ⟨decide_eq_true halive, htest⟩, first, last, heq, fun b hb => ?_⟩
    rw [Bool.not_eq_true', decide_eq_false_iff_not]
    rintro ⟨-, htest'⟩
    simpa [htest'] using hfirst b hb
  · have hfail := List.find?_eq_none.mp (hnone other hother)
    exact List.find?_eq_none.mpr fun b hb htest => hfail b hb (of_decide_eq_true htest).2

/-- A Ray that resolves this one actor and nothing else. -/
def onlyResolves (a : Actor) : Ray := ⟨a.rayNamespace, (· = a), fun _ => true⟩

theorem getActor_onlyResolves {a : Actor} (ha : a ∈ actors) :
    (onlyResolves a).getActor actors a.name = some a := by
  have hfind : actors.find? (fun b => b.name = a.name ∧ b.rayNamespace = a.rayNamespace ∧
      (onlyResolves a).resolves b) = some a := by
    cases hfind : actors.find? fun b => b.name = a.name ∧ b.rayNamespace = a.rayNamespace ∧
        (onlyResolves a).resolves b with
    | none => exact absurd (List.find?_eq_none.mp hfind a ha) (by simp [onlyResolves])
    | some b =>
      have htest := List.find?_some hfind
      simp only [onlyResolves, decide_eq_true_eq] at htest
      rw [htest.2.2]
  have hnamespace : (onlyResolves a).rayNamespace = a.rayNamespace := rfl
  rw [Ray.getActor, List.findSome?_cons, hnamespace, hfind]

/-- The cleanup brings nothing back to life. -/
theorem killed_subset_killByName (actorName : String) :
    c.killed ⊆ (killByName ray actors c actorName).killed := by
  unfold killByName
  split
  case h_1 => exact List.Subset.refl _
  case h_2 =>
    split_ifs
    · exact List.subset_cons_self _ _
    · exact List.Subset.refl _

theorem killed_subset_foldl (names : List String) :
    c.killed ⊆ (names.foldl (killByName ray actors) c).killed := by
  induction names generalizing c with
  | nil => exact List.Subset.refl _
  | cons actorName names ih => exact List.Subset.trans (killed_subset_killByName actorName) ih

theorem killed_subset_loop (passes : List Pass) :
    c.killed ⊆ (killDetachedModelActors ray modelName actors passes c).killed := by
  induction passes generalizing c with
  | nil => exact List.Subset.refl _
  | cons pass passes ih =>
    unfold killDetachedModelActors
    dsimp only
    split_ifs
    · exact List.Subset.refl _
    · exact ih
    · exact killed_subset_foldl _
    · exact List.Subset.trans (killed_subset_foldl _) ih

/-- What the cleanup has killed had a name that it took for the model's. -/
def Cleanup.Owned (c : Cleanup) (modelName : String) (actors : List Actor) : Prop :=
  ∀ a ∈ c.killed, a ∈ actors ∧ ownedName modelName a.name = true

/-- **One name.** -/
theorem Owned.killByName (h : c.Owned modelName actors) {actorName : String}
    (howned : ownedName modelName actorName = true) :
    (killByName ray actors c actorName).Owned modelName actors := by
  unfold Controller.killByName
  split
  case h_1 => exact h
  case h_2 a hget =>
    split_ifs
    · intro b hb
      rcases List.mem_cons.mp hb with rfl | hb
      · obtain ⟨hlive, hname⟩ := of_getActor hget
        exact ⟨(List.mem_filter.mp hlive).1, hname ▸ howned⟩
      · exact h b hb
    · exact h

theorem Owned.foldl (h : c.Owned modelName actors) {names : List String}
    (howned : ∀ actorName ∈ names, ownedName modelName actorName = true) :
    (names.foldl (Controller.killByName ray actors) c).Owned modelName actors := by
  induction names generalizing c with
  | nil => exact h
  | cons actorName names ih =>
    rw [List.forall_mem_cons] at howned
    exact ih (Owned.killByName h howned.1) howned.2

/-- **The whole loop.** -/
theorem Owned.loop (h : c.Owned modelName actors) (passes : List Pass) :
    (killDetachedModelActors ray modelName actors passes c).Owned modelName actors := by
  induction passes generalizing c with
  | nil => exact h
  | cons pass passes ih =>
    have hpass : ((pass.names modelName actors c).foldl (Controller.killByName ray actors) c).Owned
        modelName actors := by
      refine Owned.foldl h fun actorName hname => ?_
      have hname : actorName ∈ actorNames modelName actors c := by
        unfold Pass.names at hname
        split_ifs at hname
        · exact hname
        · exact absurd hname List.not_mem_nil
      have htest := (List.mem_filter.mp hname).2
      rw [decide_eq_true_eq] at htest
      exact htest.1
    unfold killDetachedModelActors
    dsimp only
    split_ifs
    exacts [h, ih h, hpass, ih hpass]

/-- An actor whose name comes up is killed when it can be. -/
theorem mem_killed_foldl {a : Actor} (hget : ray.getActor actors a.name = some a)
    (haccepts : ray.accepts a) {names : List String} (hname : a.name ∈ names) :
    a ∈ (names.foldl (killByName ray actors) c).killed := by
  induction names generalizing c with
  | nil => exact absurd hname List.not_mem_nil
  | cons actorName names ih =>
    rcases List.mem_cons.mp hname with heq | hname
    · refine killed_subset_foldl names ?_
      by_cases hkilled : a ∈ c.killed
      · exact killed_subset_killByName actorName hkilled
      · unfold killByName
        rw [← heq, getActor_live hget hkilled]
        dsimp only
        rw [if_pos haccepts]
        exact List.mem_cons_self
    · exact ih hname

/-- **The first pass that lists the actors** kills every one with such a name that it can. -/
theorem mem_killed_loop {a : Actor} (ha : a ∈ actors) (howned : ownedName modelName a.name = true)
    (hget : ray.getActor actors a.name = some a) (haccepts : ray.accepts a) {passes : List Pass}
    (hlisted : Listed passes) :
    a ∈ (killDetachedModelActors ray modelName actors passes {}).killed := by
  induction passes with
  | nil => exact hlisted.elim
  | cons pass passes ih =>
    unfold killDetachedModelActors
    by_cases hpass : pass.listed = true
    · have hname : a.name ∈ pass.names modelName actors {} := by
        rw [Pass.names, if_pos hpass]
        refine List.mem_filter.mpr ⟨List.mem_map_of_mem (List.mem_filter.mpr ⟨ha, by simp⟩), ?_⟩
        simpa using howned
      have hkilled := mem_killed_foldl (c := {}) hget haccepts hname
      rw [if_neg (List.ne_nil_of_mem hname)]
      dsimp only
      split_ifs
      · exact hkilled
      · exact killed_subset_loop passes hkilled
    · obtain ⟨hquiet, hdeadline, hrest⟩ := hlisted.resolve_left hpass
      have hnames : pass.names modelName actors {} = [] := if_neg hpass
      rw [if_pos hnames, if_neg (by simp [hquiet, hdeadline])]
      exact ih hrest

/-! ## Deleting -/

variable {loraAdapters : Option (List String)} {shutdownRaises : Bool} {controller : SllmController}

theorem delete_of_cleanup
    (h : deletePath controller modelName loraAdapters shutdownRaises = .cleanup)
    (passes : List Pass) :
    (delete controller modelName loraAdapters shutdownRaises ray actors passes).1 =
      (killDetachedModelActors ray modelName actors passes {}).killed := by
  unfold delete
  rw [h]

theorem delete_of_not_cleanup
    (h : deletePath controller modelName loraAdapters shutdownRaises ≠ .cleanup)
    (passes : List Pass) :
    (delete controller modelName loraAdapters shutdownRaises ray actors passes).1 = [] := by
  unfold delete
  split
  · rfl
  · rfl
  · exact absurd ‹_› h

/-- The tables keep every other model. -/
theorem mem_delete {other : String} (hother : other ≠ modelName) (passes : List Pass) :
    let left := (delete controller modelName loraAdapters shutdownRaises ray actors passes).2
    (other ∈ left.registeredModels ↔ other ∈ controller.registeredModels) ∧
      (other ∈ left.requestRouters ↔ other ∈ controller.requestRouters) := by
  unfold delete
  dsimp only
  split <;> simp [hother]

/-- **Deleting a model leaves the others alone**, whatever Ray answers and however long it takes,
exactly when the cleanup is not reached, or no live actor of another model has a name that it takes
for the model's. -/
theorem leavesOthersAlone_iff (controller : SllmController) (modelName : String)
    (loraAdapters : Option (List String)) (shutdownRaises : Bool) (actors : List Actor) :
    (∀ ray passes, passes ≠ [] →
      LeavesOthersAlone controller modelName loraAdapters shutdownRaises ray actors passes) ↔
    (deletePath controller modelName loraAdapters shutdownRaises = .cleanup →
      ∀ a ∈ actors, a.modelName ≠ modelName →
        ¬ startsWith a.modelName (modelName ++ "_") ∧ a.name ≠ modelName) := by
  constructor
  · intro h hcleanup a ha hother
    have hnot : ownedName modelName a.name ≠ true := by
      intro howned
      have hlisted : Listed [⟨true, true, true⟩] := .inl rfl
      have hkilled := mem_killed_loop ha howned (getActor_onlyResolves ha) rfl hlisted
      have halone := (h (onlyResolves a) [⟨true, true, true⟩] (by simp)).1
      rw [delete_of_cleanup hcleanup] at halone
      exact hother (halone a hkilled)
    rw [Ne, ownedName_iff] at hnot
    tauto
  · intro h ray passes _
    by_cases hcleanup : deletePath controller modelName loraAdapters shutdownRaises = .cleanup
    · unfold LeavesOthersAlone
      rw [delete_of_cleanup hcleanup]
      constructor
      · intro a hkilled
        by_contra hother
        have hempty : ({} : Cleanup).Owned modelName actors :=
          fun _ hb => absurd hb List.not_mem_nil
        obtain ⟨ha, howned⟩ := Owned.loop hempty passes a hkilled
        have hnot := h hcleanup a ha hother
        rw [ownedName_iff] at howned
        tauto
      · intro _ hlisted a ha hmodel _ hget haccepts
        exact mem_killed_loop ha (ownedName_iff.mpr (.inl hmodel)) hget haccepts hlisted
    · unfold LeavesOthersAlone
      rw [delete_of_not_cleanup hcleanup]
      exact ⟨fun _ hb => absurd hb List.not_mem_nil, fun hreached => absurd hreached hcleanup⟩

/-- Two registered models, of which the name of one goes on from that of the other. -/
theorem not_leavesOthersAlone_chat :
    ¬ LeavesOthersAlone ⟨["llama", "llama_chat"], ["llama", "llama_chat"]⟩ "llama" none false
      ⟨"sllm", fun _ => true, fun _ => true⟩
      [⟨"llama", .router, "models"⟩, ⟨"llama_chat", .router, "models"⟩] [⟨true, true, true⟩] := by
  intro h
  have hkilled := h.1 ⟨"llama_chat", .router, "models"⟩ (by decide +kernel)
  exact absurd hkilled (by decide)

end Controller
end SpotServe
