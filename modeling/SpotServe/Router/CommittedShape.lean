import Mathlib.Data.Fintype.Basic
import SpotServe.Library.Runs
import SpotServe.Router.InstancePools

/-!
# Only the committed shape serves

A start task reads the GPU count when its handle is made, the configuration when it begins and the
GPU count twice more on its way, and joins the ready pool whenever its actor is up.  A switch
replaces the ready pool and leaves the starting one alone, so a start that is under way joins the
new deployment with what it read of the old one.  A deployment that was remapped in
place brings handles that are in the ready pool already; when one of them was stopped meanwhile, the
switch files it a second time.

In a run whose switches find the starts under way in agreement with the new deployment, and bring
instances of that deployment's shape that no other pool has (`Careful`), every ready instance has
the committed shape and every instance is in one pool at most (`onlyCommittedShape_of_careful`).
-/

namespace SpotServe
namespace Router

open Py Reparallelization

variable {κ : Type}

/-- What a start has read when it has come to a phase, were the configuration and the GPU count the
given ones all along. -/
def readSoFar (backendConfig : κ) (gpus : ℕ) : StartPhase → Instance κ
  | .creating | .created => { numGpu := gpus }
  | .begun => { numGpu := gpus, backendConfig := some backendConfig }
  | .allocating =>
    { numGpu := gpus, backendConfig := some backendConfig, reservedGpus := some gpus }
  | .launched =>
    { numGpu := gpus, backendConfig := some backendConfig, reservedGpus := some gpus
      startupGpus := some gpus }

/-- The four pools. -/
inductive Pool where
  | starting
  | ready
  | deleting
  | failed
  deriving DecidableEq

instance : Fintype Pool where
  elems := {.starting, .ready, .deleting, .failed}
  complete p := by cases p <;> decide

/-- The instances of the deployment have its shape. -/
def Deployment.Uniform (d : Deployment κ) : Prop :=
  ∀ entry ∈ d.instances.entries,
    entry.2 = readSoFar d.backendConfig d.resourceRequirements.numGpus .launched

namespace RouterState

/-- A pool by its name. -/
def pool (s : RouterState κ) : Pool → OrderedDict String (Instance κ)
  | .starting => s.startingInferenceInstances
  | .ready => s.readyInferenceInstances
  | .deleting => s.deletingInferenceInstances
  | .failed => s.failedInferenceInstances

/-- The instance is in the pool. -/
def InPool (s : RouterState κ) (p : Pool) (instanceId : String) : Prop :=
  instanceId ∈ (s.pool p).keys

/-- Every instance id is in at most one of the pools. -/
def InOnePool (s : RouterState κ) : Prop :=
  ∀ instanceId p q, s.InPool p instanceId → s.InPool q instanceId → p = q

/-- Every ready instance was started with the committed configuration and GPU count. -/
def OnlyCommittedShape (s : RouterState κ) : Prop :=
  ∀ instanceId handle, s.readyInferenceInstances.get? instanceId = some handle →
    handle = readSoFar s.backendConfig s.numGpus .launched

/-- The start can still join the ready pool. -/
def CanJoin (s : RouterState κ) (instanceId : String) (task : StartTask κ) : Prop :=
  task.phase = .creating ∨ instanceId ∈ s.startingInferenceInstances.keys

/-- The id is used nowhere. -/
def Unused (s : RouterState κ) (instanceId : String) : Prop :=
  instanceId ∉ s.startTasks.keys ∧ ∀ p, ¬ s.InPool p instanceId

/-- The starts under way that can still join have read what the deployment brings. -/
def StartsAgree (s : RouterState κ) (d : Deployment κ) : Prop :=
  ∀ entry ∈ s.startTasks.entries, s.CanJoin entry.1 entry.2 →
    entry.2.handle = readSoFar d.backendConfig d.resourceRequirements.numGpus entry.2.phase

/-- No instance of the deployment is being started, or in a pool other than the ready one. -/
def Brings (s : RouterState κ) (d : Deployment κ) : Prop :=
  ∀ instanceId ∈ d.instances.keys, instanceId ∉ s.startTasks.keys ∧
    ∀ p, s.InPool p instanceId → p = .ready

/-- An id is drawn once, and a switch finds the starts under way in agreement with the deployment
and the deployment's instances at most in the ready pool. -/
def Careful (s : RouterState κ) : Action κ → Prop
  | .createInstance instanceId => s.Unused instanceId
  | .switch d => s.StartsAgree d ∧ d.Uniform ∧ s.Brings d
  | _ => True

section Decidable

variable [DecidableEq κ] (s : RouterState κ)

instance (p : Pool) (instanceId : String) : Decidable (s.InPool p instanceId) :=
  inferInstanceAs (Decidable (_ ∈ _))

instance (instanceId : String) (task : StartTask κ) : Decidable (s.CanJoin instanceId task) :=
  inferInstanceAs (Decidable (_ ∨ _))

instance (d : Deployment κ) : Decidable (s.StartsAgree d) :=
  inferInstanceAs (Decidable (∀ entry ∈ s.startTasks.entries, s.CanJoin entry.1 entry.2 → _))

instance (d : Deployment κ) : Decidable d.Uniform :=
  inferInstanceAs (Decidable (∀ entry ∈ d.instances.entries, _))

instance (d : Deployment κ) : Decidable (s.Brings d) :=
  inferInstanceAs (Decidable (∀ instanceId ∈ d.instances.keys, _ ∧ ∀ p, s.InPool p _ → _))

instance : DecidablePred s.Careful
  | .createInstance instanceId =>
    inferInstanceAs (Decidable (instanceId ∉ s.startTasks.keys ∧ ∀ p, ¬ s.InPool p instanceId))
  | .switch _ => inferInstanceAs (Decidable (_ ∧ _ ∧ _))
  | .trackInstance _ | .beginStart _ | .findInstance _ | .launch _ | .join _ | .failStart _
  | .cancelStart _ | .stopInstance _ | .finishInstance _ | .shutdownInstance _ =>
    inferInstanceAs (Decidable True)

end Decidable

/-- What holds in the runs of careful steps. -/
structure Sound (s : RouterState κ) : Prop where
  shape : s.OnlyCommittedShape
  onePool : s.InOnePool
  /-- A start that can still join has read what is committed. -/
  starts : ∀ instanceId task, s.startTasks.get? instanceId = some task →
    s.CanJoin instanceId task → task.handle = readSoFar s.backendConfig s.numGpus task.phase
  /-- An instance that is being started is in no pool but the starting one. -/
  starting : ∀ instanceId ∈ s.startTasks.keys, ∀ p, s.InPool p instanceId → p = .starting

variable {s s' : RouterState κ}

/-- A router that has just been made. -/
def IsNew (s : RouterState κ) : Prop :=
  s.startTasks = .empty ∧ ∀ p, s.pool p = .empty

theorem IsNew.sound (h : s.IsNew) : s.Sound := by
  have hpool : ∀ p instanceId, ¬ s.InPool p instanceId := by
    intro p instanceId hin
    rw [InPool, h.2 p, OrderedDict.keys_empty] at hin
    exact absurd hin (by simp)
  refine ⟨fun instanceId handle hget => ?_, fun instanceId p _ hp => absurd hp (hpool p instanceId),
    fun instanceId task hget => ?_, fun instanceId _ p hp => absurd hp (hpool p instanceId)⟩
  · exact absurd ((OrderedDict.mem_keys_iff _).mpr ⟨handle, hget⟩) (hpool .ready instanceId)
  · rw [h.1, OrderedDict.get?_empty] at hget
    exact absurd hget (by simp)

/-- A step that commits nothing: starts that go on are the old ones, and their instances are moved
nowhere. -/
theorem Sound.of_step (h : s.Sound) (hconfig : s'.backendConfig = s.backendConfig)
    (hgpus : s'.numGpus = s.numGpus)
    (hready : ∀ instanceId handle, s'.readyInferenceInstances.get? instanceId = some handle →
      s.readyInferenceInstances.get? instanceId = some handle ∨
        handle = readSoFar s.backendConfig s.numGpus .launched)
    (hpools : s'.InOnePool)
    (htasks : ∀ instanceId task, s'.startTasks.get? instanceId = some task →
      s.startTasks.get? instanceId = some task ∧
        ∀ p, s'.InPool p instanceId → s.InPool p instanceId) : s'.Sound := by
  refine ⟨fun instanceId handle hget => ?_, hpools, fun instanceId task hget hjoin => ?_,
    fun instanceId hmem p hp => ?_⟩
  · rw [hconfig, hgpus]
    rcases hready instanceId handle hget with hold | hnew
    · exact h.shape instanceId handle hold
    · exact hnew
  · obtain ⟨hold, hmoved⟩ := htasks instanceId task hget
    rw [hconfig, hgpus]
    exact h.starts instanceId task hold (hjoin.imp_right (hmoved .starting))
  · obtain ⟨task, hget⟩ := (OrderedDict.mem_keys_iff _).mp hmem
    obtain ⟨hold, hmoved⟩ := htasks instanceId task hget
    exact h.starting instanceId ((OrderedDict.mem_keys_iff _).mpr ⟨task, hold⟩) p (hmoved p hp)

/-! ## Moving an instance -/

/-- An instance that goes to a pool from wherever it was. -/
theorem InOnePool.move (h : s.InOnePool) (instanceId : String) (p : Pool)
    (hmove : ∀ q id, s'.InPool q id → id = instanceId ∧ q = p ∨ id ≠ instanceId ∧ s.InPool q id) :
    s'.InOnePool := by
  intro id q r hq hr
  rcases hmove q id hq with ⟨rfl, rfl⟩ | ⟨hne, hq⟩
  · rcases hmove r id hr with ⟨-, rfl⟩ | ⟨hne, -⟩
    · rfl
    · exact absurd rfl hne
  · rcases hmove r id hr with ⟨heq, -⟩ | ⟨-, hr⟩
    · exact absurd heq hne
    · exact h id q r hq hr

/-- The instance is filed in one pool, and taken out of the others that have it. -/
theorem moved_of_pools {instanceId : String} {p : Pool} {handle : Instance κ}
    (hto : s'.pool p = (s.pool p).set instanceId handle)
    (hfrom : ∀ q, q ≠ p → s'.pool q = (s.pool q).erase instanceId ∨
      s'.pool q = s.pool q ∧ ¬ s.InPool q instanceId) (q : Pool) (id : String)
    (hq : s'.InPool q id) : id = instanceId ∧ q = p ∨ id ≠ instanceId ∧ s.InPool q id := by
  unfold InPool at hq
  by_cases heq : q = p
  · subst heq
    rw [hto, OrderedDict.mem_keys_set] at hq
    by_cases hid : id = instanceId
    · exact .inl ⟨hid, rfl⟩
    · exact .inr ⟨hid, hq.resolve_left hid⟩
  · right
    rcases hfrom q heq with herase | ⟨hsame, hnot⟩
    · rw [herase, OrderedDict.mem_keys_erase] at hq
      exact hq
    · rw [hsame] at hq
      exact ⟨fun hid => hnot (hid ▸ hq), hq⟩

/-- Pools only get smaller. -/
theorem InOnePool.shrink (h : s.InOnePool) (hsub : ∀ q id, s'.InPool q id → s.InPool q id) :
    s'.InOnePool :=
  fun id q r hq hr => h id q r (hsub q id hq) (hsub r id hr)

theorem Sound.shrink (h : s.Sound) (hconfig : s'.backendConfig = s.backendConfig)
    (hgpus : s'.numGpus = s.numGpus)
    (hready : ∀ id handle, s'.readyInferenceInstances.get? id = some handle →
      s.readyInferenceInstances.get? id = some handle)
    (htasks : ∀ id task, s'.startTasks.get? id = some task → s.startTasks.get? id = some task)
    (hsub : ∀ p id, s'.InPool p id → s.InPool p id) : s'.Sound :=
  h.of_step hconfig hgpus (fun id handle hget => .inl (hready id handle hget))
    (h.onePool.shrink hsub) fun id task hget => ⟨htasks id task hget, fun p => hsub p id⟩

/-- The instance is taken out of some of the pools. -/
theorem sub_of_pools (instanceId : String)
    (herase : ∀ q, s'.pool q = (s.pool q).erase instanceId ∨ s'.pool q = s.pool q) (q : Pool)
    (id : String) (hq : s'.InPool q id) : s.InPool q id := by
  unfold InPool at hq
  rcases herase q with herase | hsame
  · rw [herase] at hq
    exact (OrderedDict.mem_keys_erase.mp hq).2
  · rw [hsame] at hq
    exact hq

theorem get?_of_erase {α : Type} {d : OrderedDict String α} {key key' : String} {value : α}
    (h : (d.erase key).get? key' = some value) : key' ≠ key ∧ d.get? key' = some value := by
  rw [OrderedDict.get?_erase] at h
  split_ifs at h with hkey
  exact ⟨Ne.symm hkey, h⟩

theorem Sound.endTask (h : s.Sound) (instanceId : String) : (s.endTask instanceId).Sound :=
  h.shrink rfl rfl (fun _ _ => id) (fun _ _ hget => (get?_of_erase hget).2) fun _ _ => id

/-! ## The actions of a start -/

/-- A start goes on with what it should have read. -/
theorem Sound.setTask (h : s.Sound) {instanceId : String} {task : StartTask κ}
    (hread : s.CanJoin instanceId task →
      task.handle = readSoFar s.backendConfig s.numGpus task.phase)
    (hpool : ∀ p, s.InPool p instanceId → p = .starting) :
    (s.setTask instanceId task).Sound := by
  refine ⟨h.shape, h.onePool, fun id task' hget hjoin => ?_, fun id hmem p hp => ?_⟩
  · rw [RouterState.setTask, OrderedDict.get?_set] at hget
    split_ifs at hget with heq
    · subst heq
      obtain rfl := Option.some.inj hget
      exact hread hjoin
    · exact h.starts id task' hget hjoin
  · rcases OrderedDict.mem_keys_set.mp hmem with rfl | hold
    · exact hpool p hp
    · exact h.starting id hold p hp

variable {instanceId : String} {handle : Instance κ}

theorem mem_startTasks {phase : StartPhase}
    (hget : s.startTasks.get? instanceId = some ⟨phase, handle⟩) :
    instanceId ∈ s.startTasks.keys :=
  (OrderedDict.mem_keys_iff _).mpr ⟨_, hget⟩

/-- An instance that is being started is in no other pool. -/
theorem Sound.not_inPool (h : s.Sound) (hmem : instanceId ∈ s.startTasks.keys) {p : Pool}
    (hp : p ≠ .starting) : ¬ s.InPool p instanceId :=
  fun hin => hp (h.starting instanceId hmem p hin)

theorem Sound.createInstance (h : s.Sound) (hunused : s.Unused instanceId) :
    (s.createInstance instanceId).Sound :=
  h.setTask (fun _ => rfl) fun p hp => absurd hp (hunused.2 p)

/-- The handle enters the starting pool before anything more is read. -/
theorem Sound.trackInstance (h : s.Sound)
    (hget : s.startTasks.get? instanceId = some ⟨.creating, handle⟩) :
    (s.trackInstance instanceId handle).Sound := by
  have hmem := mem_startTasks hget
  have hread : handle = readSoFar s.backendConfig s.numGpus .created :=
    h.starts instanceId _ hget (.inl rfl)
  have hset : (s.setTask instanceId ⟨.created, handle⟩).Sound :=
    h.setTask (fun _ => hread) (h.starting instanceId hmem)
  have hmoved : ∀ q id, (s.trackInstance instanceId handle).InPool q id →
      id = instanceId ∧ q = .starting ∨ id ≠ instanceId ∧ s.InPool q id := by
    refine moved_of_pools rfl fun q hq => .inr ⟨?_, h.not_inPool hmem hq⟩
    cases q with
    | starting => exact absurd rfl hq
    | ready | deleting | failed => rfl
  refine ⟨hset.shape, h.onePool.move instanceId .starting hmoved,
    fun id task hget' hjoin => ?_, fun id hmem' p hp => ?_⟩
  · by_cases heq : id = instanceId
    · subst heq
      obtain rfl : (⟨.created, handle⟩ : StartTask κ) = task :=
        Option.some.inj ((OrderedDict.get?_set_self _ _ _).symm.trans hget')
      exact hread
    · refine hset.starts id task hget' (hjoin.imp_right fun hin => ?_)
      exact (OrderedDict.mem_keys_set.mp hin).resolve_left heq
  · rcases hmoved p id hp with ⟨-, rfl⟩ | ⟨-, hin⟩
    · rfl
    · exact hset.starting id hmem' p hin

/-- A start that reads the committed configuration or GPU count. -/
theorem Sound.goOn (h : s.Sound) {phase next : StartPhase} {handle' : Instance κ}
    (hget : s.startTasks.get? instanceId = some ⟨phase, handle⟩)
    (hnext : next ≠ .creating)
    (hread : handle = readSoFar s.backendConfig s.numGpus phase →
      handle' = readSoFar s.backendConfig s.numGpus next) :
    (s.setTask instanceId ⟨next, handle'⟩).Sound := by
  refine h.setTask (fun hjoin => hread ?_) (h.starting instanceId (mem_startTasks hget))
  exact h.starts instanceId _ hget (.inr (hjoin.resolve_left hnext))

theorem Sound.findInstance (h : s.Sound)
    (hget : s.startTasks.get? instanceId = some ⟨.begun, handle⟩) :
    (s.findInstance instanceId handle).Sound := by
  unfold RouterState.findInstance
  split_ifs
  · refine h.goOn hget (by simp) fun hread => ?_
    rw [hread]
    rfl
  · exact h.endTask instanceId

/-- A start that is over leaves the starting pool for another one. -/
theorem Sound.leaveStarting (h : s.Sound) (instanceId : String) (p : Pool)
    (hconfig : s'.backendConfig = s.backendConfig) (hgpus : s'.numGpus = s.numGpus)
    (htasks : s'.startTasks = s.startTasks.erase instanceId)
    (hready : ∀ id handle, s'.readyInferenceInstances.get? id = some handle →
      s.readyInferenceInstances.get? id = some handle ∨
        handle = readSoFar s.backendConfig s.numGpus .launched)
    (hmove : ∀ q id, s'.InPool q id → id = instanceId ∧ q = p ∨ id ≠ instanceId ∧ s.InPool q id) :
    s'.Sound := by
  refine h.of_step hconfig hgpus hready (h.onePool.move instanceId p hmove) fun id task hget' => ?_
  rw [htasks] at hget'
  obtain ⟨hne, hold⟩ := get?_of_erase hget'
  refine ⟨hold, fun q hq => ?_⟩
  rcases hmove q id hq with ⟨heq, -⟩ | ⟨-, hin⟩
  · exact absurd heq hne
  · exact hin

theorem Sound.join (h : s.Sound)
    (hget : s.startTasks.get? instanceId = some ⟨.launched, handle⟩) :
    (s.join instanceId handle).Sound := by
  unfold RouterState.join
  split_ifs with hstarting
  · have hjoin : s.CanJoin instanceId ⟨.launched, handle⟩ :=
      .inr ((OrderedDict.mem_keys_iff _).mpr (Option.isSome_iff_exists.mp hstarting))
    have hread : handle = readSoFar s.backendConfig s.numGpus .launched :=
      h.starts instanceId _ hget hjoin
    refine h.leaveStarting instanceId .ready rfl rfl rfl (fun id handle' hget' => ?_) fun q id hq => ?_
    · rw [OrderedDict.get?_set] at hget'
      split_ifs at hget'
      · obtain rfl := Option.some.inj hget'
        exact .inr hread
      · exact .inl hget'
    · refine moved_of_pools rfl (fun q hq => ?_) q id hq
      cases q with
      | ready => exact absurd rfl hq
      | starting => exact .inl rfl
      | deleting | failed => exact .inr ⟨rfl, h.not_inPool (mem_startTasks hget) (by simp)⟩
  · exact h.endTask instanceId

/-- What else a start has read joins all the same. -/
theorem not_onlyCommittedShape_join (hstarting : s.isStarting instanceId = true)
    (hstale : handle ≠ readSoFar s.backendConfig s.numGpus .launched) :
    ¬ (s.join instanceId handle).OnlyCommittedShape := by
  intro honly
  rw [RouterState.join, if_pos hstarting] at honly
  exact hstale (honly instanceId handle (OrderedDict.get?_set_self _ _ _))

theorem Sound.failStart (h : s.Sound) {phase : StartPhase}
    (hget : s.startTasks.get? instanceId = some ⟨phase, handle⟩) :
    (s.failStart instanceId handle).Sound := by
  refine h.leaveStarting instanceId .failed rfl rfl rfl (fun _ _ => .inl)
    (moved_of_pools rfl fun q hq => ?_)
  cases q with
  | failed => exact absurd rfl hq
  | starting => exact .inl rfl
  | ready | deleting => exact .inr ⟨rfl, h.not_inPool (mem_startTasks hget) (by simp)⟩

theorem Sound.cancelStart (h : s.Sound) (instanceId : String) (phase : StartPhase) :
    (s.cancelStart instanceId phase).Sound := by
  cases phase with
  | creating => exact h
  | created | begun => exact h.endTask instanceId
  | allocating | launched =>
    refine h.shrink rfl rfl (fun _ _ => id) (fun _ _ hget => (get?_of_erase hget).2)
      (sub_of_pools instanceId fun q => ?_)
    cases q with
    | starting => exact .inl rfl
    | ready | deleting | failed => exact .inr rfl

/-! ## Stopping -/

theorem Sound.moveToDeleting (h : s.Sound)
    (hget : s.readyInferenceInstances.get? instanceId = some handle) :
    (s.moveToDeleting instanceId handle).Sound := by
  have hready : s.InPool .ready instanceId := (OrderedDict.mem_keys_iff _).mpr ⟨handle, hget⟩
  have hmove : ∀ q id, (s.moveToDeleting instanceId handle).InPool q id →
      id = instanceId ∧ q = .deleting ∨ id ≠ instanceId ∧ s.InPool q id := by
    refine moved_of_pools rfl fun q hq => ?_
    cases q with
    | deleting => exact absurd rfl hq
    | ready => exact .inl rfl
    | starting | failed =>
      exact .inr ⟨rfl, fun hin => absurd (h.onePool instanceId _ _ hready hin) (by simp)⟩
  refine h.of_step rfl rfl (fun id handle' hget' => .inl (get?_of_erase hget').2)
    (h.onePool.move instanceId .deleting hmove) fun id task hget' => ⟨hget', fun q hq => ?_⟩
  rcases hmove q id hq with ⟨rfl, -⟩ | ⟨-, hin⟩
  · -- an instance that is ready is not being started
    have hstart := (OrderedDict.mem_keys_iff _).mpr ⟨task, hget'⟩
    exact absurd (h.starting id hstart .ready hready) (by simp)
  · exact hin

theorem Sound.stopInstance (h : s.Sound) (instanceId : Option String) :
    (s.stopInstance instanceId).Sound := by
  unfold RouterState.stopInstance
  cases instanceId with
  | none =>
    dsimp only
    split
    case h_1 id handle hlast =>
      exact h.moveToDeleting ((OrderedDict.mem_entries_iff _).mp (List.mem_of_getLast? hlast))
    case h_2 => exact h
  | some instanceId =>
    dsimp only
    split
    case h_1 handle hget => exact h.moveToDeleting hget
    case h_2 => exact h

theorem Sound.finishInstance (h : s.Sound) (instanceId : String) :
    (s.finishInstance instanceId).Sound := by
  refine h.shrink rfl rfl (fun _ _ => id) (fun _ _ => id) (sub_of_pools instanceId fun q => ?_)
  cases q with
  | deleting => exact .inl rfl
  | starting | ready | failed => exact .inr rfl

theorem Sound.shutdownInstance (h : s.Sound) (instanceId : String) :
    (s.shutdownInstance instanceId).Sound := by
  unfold RouterState.shutdownInstance
  split_ifs
  · refine h.shrink rfl rfl (fun _ _ hget => (get?_of_erase hget).2) (fun _ _ => id)
      (sub_of_pools instanceId fun q => ?_)
    cases q with
    | ready => exact .inl rfl
    | starting | deleting | failed => exact .inr rfl
  · refine h.shrink rfl rfl (fun _ _ => id) (fun _ _ => id) (sub_of_pools instanceId fun q => ?_)
    cases q with
    | starting => exact .inl rfl
    | ready | deleting | failed => exact .inr rfl
  · refine h.shrink rfl rfl (fun _ _ => id) (fun _ _ => id) (sub_of_pools instanceId fun q => ?_)
    cases q with
    | deleting => exact .inl rfl
    | starting | ready | failed => exact .inr rfl
  · refine h.shrink rfl rfl (fun _ _ => id) (fun _ _ => id) (sub_of_pools instanceId fun q => ?_)
    cases q with
    | failed => exact .inl rfl
    | starting | ready | deleting => exact .inr rfl

/-! ## Switching -/

variable {d : Deployment κ}

/-- What is to be deleted after a switch was to be deleted before, or was ready and is not of the
deployment. -/
theorem inPool_deleting_switch {id : String} (hin : (s.switch d).InPool .deleting id) :
    s.InPool .deleting id ∨ s.InPool .ready id ∧ id ∉ d.instances.keys := by
  obtain ⟨handle, hget⟩ := (OrderedDict.mem_keys_iff _).mp hin
  replace hget : (s.deletingInferenceInstances.updateWith
    (s.readyInferenceInstances.filter fun id _ => (d.instances.get? id).isNone)
      fun _ _ handle => handle).get? id = some handle := hget
  rw [OrderedDict.get?_updateWith] at hget
  split at hget
  case h_1 old hready =>
    obtain ⟨hready, hnone⟩ := (OrderedDict.get?_filter _ _).mp hready
    exact .inr ⟨(OrderedDict.mem_keys_iff _).mpr ⟨old, hready⟩,
      (OrderedDict.get?_eq_none_iff _).mp (Option.isNone_iff_eq_none.mp hnone)⟩
  case h_2 => exact .inl ((OrderedDict.mem_keys_iff _).mpr ⟨handle, hget⟩)

/-- Where an instance is after a switch. -/
theorem inPool_switch {p : Pool} {id : String} (hin : (s.switch d).InPool p id) :
    id ∈ d.instances.keys ∧ p = .ready ∨
      id ∉ d.instances.keys ∧ s.InPool .ready id ∧ p = .deleting ∨
      s.InPool p id ∧ p ≠ .ready := by
  cases p with
  | ready => exact .inl ⟨hin, rfl⟩
  | deleting =>
    rcases inPool_deleting_switch hin with hold | ⟨hready, hnot⟩
    · exact .inr (.inr ⟨hold, by simp⟩)
    · exact .inr (.inl ⟨hnot, hready, rfl⟩)
  | starting | failed => exact .inr (.inr ⟨hin, by simp⟩)

/-- **The switch.**  The deployment's instances are the ready ones; the starts under way go on as
though they had been begun for it. -/
theorem Sound.switch (h : s.Sound) (hagree : s.StartsAgree d) (huniform : d.Uniform)
    (hbrings : s.Brings d) : (s.switch d).Sound := by
  refine ⟨fun id handle hget => ?_, fun id p q hp hq => ?_, fun id task hget hjoin => ?_,
    fun id hmem p hp => ?_⟩
  · exact huniform _ ((OrderedDict.mem_entries_iff _).mpr hget)
  · rcases inPool_switch hp with ⟨hin, rfl⟩ | ⟨hnot, hready, rfl⟩ | ⟨hp, hne⟩
    · rcases inPool_switch hq with ⟨-, rfl⟩ | ⟨hnot, -⟩ | ⟨hq, hne⟩
      · rfl
      · exact absurd hin hnot
      · exact absurd ((hbrings id hin).2 q hq) hne
    · rcases inPool_switch hq with ⟨hin, -⟩ | ⟨-, -, rfl⟩ | ⟨hq, hne⟩
      · exact absurd hin hnot
      · rfl
      · exact absurd (h.onePool id q .ready hq hready) hne
    · rcases inPool_switch hq with ⟨hin, -⟩ | ⟨-, hready, -⟩ | ⟨hq, -⟩
      · exact absurd ((hbrings id hin).2 p hp) hne
      · exact absurd (h.onePool id p .ready hp hready) hne
      · exact h.onePool id p q hp hq
  · exact hagree (id, task) ((OrderedDict.mem_entries_iff _).mpr hget) hjoin
  · rcases inPool_switch hp with ⟨hin, -⟩ | ⟨-, hready, -⟩ | ⟨hp, -⟩
    · exact absurd hmem (hbrings id hin).1
    · exact absurd (h.starting id hmem .ready hready) (by simp)
    · exact h.starting id hmem p hp

/-! ## Runs -/

theorem of_stepTask {phase : StartPhase} {f : Instance κ → RouterState κ}
    (hstep : s.stepTask instanceId phase f = some s') :
    ∃ handle, s.startTasks.get? instanceId = some ⟨phase, handle⟩ ∧ s' = f handle := by
  unfold stepTask at hstep
  split at hstep
  case h_1 task hget =>
    split_ifs at hstep with hphase
    obtain rfl := hphase
    exact ⟨task.handle, hget, (Option.some.inj hstep).symm⟩
  case h_2 => exact absurd hstep (by simp)

/-- **A careful step.** -/
theorem Sound.step (h : s.Sound) {a : Action κ} (hcareful : s.Careful a)
    (hstep : s.step a = some s') : s'.Sound := by
  cases a with
  | createInstance instanceId =>
    obtain rfl := Option.some.inj hstep
    exact h.createInstance hcareful
  | trackInstance instanceId =>
    obtain ⟨handle, hget, rfl⟩ := of_stepTask hstep
    exact h.trackInstance hget
  | beginStart instanceId =>
    obtain ⟨handle, hget, rfl⟩ := of_stepTask hstep
    refine h.goOn hget (by simp) fun hread => ?_
    rw [hread]
    rfl
  | findInstance instanceId =>
    obtain ⟨handle, hget, rfl⟩ := of_stepTask hstep
    exact h.findInstance hget
  | launch instanceId =>
    obtain ⟨handle, hget, rfl⟩ := of_stepTask hstep
    refine h.goOn hget (by simp) fun hread => ?_
    rw [hread]
    rfl
  | join instanceId =>
    obtain ⟨handle, hget, rfl⟩ := of_stepTask hstep
    exact h.join hget
  | failStart instanceId =>
    simp only [RouterState.step] at hstep
    split at hstep
    case h_3 => exact absurd hstep (by simp)
    all_goals
      obtain rfl := Option.some.inj hstep
      exact h.failStart (by assumption)
  | cancelStart instanceId =>
    obtain ⟨task, -, rfl⟩ := Option.map_eq_some_iff.mp hstep
    exact h.cancelStart instanceId task.phase
  | stopInstance instanceId =>
    obtain rfl := Option.some.inj hstep
    exact h.stopInstance instanceId
  | finishInstance instanceId =>
    simp only [RouterState.step] at hstep
    split_ifs at hstep
    obtain rfl := Option.some.inj hstep
    exact h.finishInstance instanceId
  | shutdownInstance instanceId =>
    obtain rfl := Option.some.inj hstep
    exact h.shutdownInstance instanceId
  | switch d =>
    obtain rfl := Option.some.inj hstep
    exact h.switch hcareful.1 hcareful.2.1 hcareful.2.2

/-- The states of the runs of a router whose steps are all allowed. -/
abbrev ReachableBy (allowed : RouterState κ → Action κ → Prop) : RouterState κ → Prop :=
  Runs.Reachable IsNew (fun s a s' => s.step a = some s') allowed

/-- **Only the committed shape serves, in careful runs.** -/
theorem onlyCommittedShape_of_careful (h : ReachableBy Careful s) :
    s.OnlyCommittedShape ∧ s.InOnePool :=
  have hsound : s.Sound := h.invariant Sound (fun _ hnew => hnew.sound)
    fun _ _ _ hsound hcareful hstep => hsound.step hcareful hstep
  ⟨hsound.shape, hsound.onePool⟩

/-- The states of these runs from a switch on. -/
def ReachableAfterSwitch (allowed : RouterState κ → Action κ → Prop) : RouterState κ → Prop :=
  Runs.Reachable (fun s' => ∃ s d, ReachableBy allowed s ∧ allowed s (.switch d) ∧ s' = s.switch d)
    (fun s a s' => s.step a = some s') allowed

/-- A router whose configuration is known by a number, and whose instances take one GPU. -/
def oneGpuRouter : RouterState ℕ := { backendConfig := 1, resourceRequirements := ⟨1, 1⟩ }

/-- A start that has come as far as its actor. -/
def launched (instanceId : String) : List (Action ℕ) :=
  [.createInstance instanceId, .trackInstance instanceId, .beginStart instanceId,
    .findInstance instanceId, .launch instanceId]

/-- The second configuration, on one instance with two GPUs. -/
def twoGpuDeployment : Deployment ℕ where
  instances := OrderedDict.empty.set "r" (readSoFar 2 2 .launched)
  backendConfig := 2
  resourceRequirements := ⟨1, 2⟩
  replicaCount := 1

/-- The second configuration, given in place to the instance that is there. -/
def inPlaceDeployment : Deployment ℕ where
  instances := OrderedDict.empty.set "a" (readSoFar 2 1 .launched)
  backendConfig := 2
  resourceRequirements := ⟨1, 1⟩
  replicaCount := 1

/-- A start joins, and then the router switches. -/
theorem onlyCommittedShape_joinedBeforeSwitch : ∃ s : RouterState ℕ, ReachableBy Careful s ∧
    s.readyInferenceInstances.keys = ["r"] ∧ s.OnlyCommittedShape ∧ s.InOnePool := by
  have hrun : (Runs.attempt step Careful
      (launched "a" ++ [.join "a", .switch twoGpuDeployment]) oneGpuRouter).map
        (fun s => s.readyInferenceInstances.keys) = some ["r"] := by
    decide +kernel
  obtain ⟨s, hs, hkeys⟩ := Option.map_eq_some_iff.mp hrun
  have hreachable : ReachableBy Careful s := .attempt (.start ⟨rfl, fun p => by cases p <;> rfl⟩) hs
  exact ⟨s, hreachable, hkeys, onlyCommittedShape_of_careful hreachable⟩

/-- A start that is under way at the switch joins with the old shape; an instance that is stopped
before a switch in place is in two pools. -/
theorem not_onlyCommittedShape_startUnderWay :
    (¬ ∀ s : RouterState ℕ, ReachableAfterSwitch (fun _ _ => True) s → s.OnlyCommittedShape) ∧
      ¬ ∀ s : RouterState ℕ, ReachableAfterSwitch (fun _ _ => True) s → s.InOnePool := by
  have hnew : ReachableBy (fun _ _ => True) oneGpuRouter :=
    .start ⟨rfl, fun p => by cases p <;> rfl⟩
  constructor
  · intro h
    have hrun : (Runs.attempt step (fun _ _ => True) (launched "a") oneGpuRouter).map
        (fun s => ((s.switch twoGpuDeployment).step (.join "a")).map fun s =>
          (s.readyInferenceInstances.get? "a", s.backendConfig, s.numGpus)) =
        some (some (some (readSoFar 1 1 .launched), 2, 2)) := by
      decide +kernel
    obtain ⟨s, hs, hrun⟩ := Option.map_eq_some_iff.mp hrun
    obtain ⟨s', hs', hparts⟩ := Option.map_eq_some_iff.mp hrun
    obtain ⟨hready, hconfig, hgpus⟩ := by simpa only [Prod.mk.injEq] using hparts
    have hswitched : ReachableAfterSwitch (fun _ _ => True) s' :=
      .step (.start ⟨s, twoGpuDeployment, .attempt hnew hs, trivial, rfl⟩) trivial hs'
    have hshape := h s' hswitched "a" _ hready
    rw [hconfig, hgpus] at hshape
    exact absurd hshape (by decide)
  · intro h
    have hrun : (Runs.attempt step (fun _ _ => True)
        (launched "a" ++ [.join "a", .stopInstance none]) oneGpuRouter).map
          (fun s => ((s.switch inPlaceDeployment).readyInferenceInstances.keys,
            (s.switch inPlaceDeployment).deletingInferenceInstances.keys)) =
        some (["a"], ["a"]) := by
      decide +kernel
    obtain ⟨s, hs, hparts⟩ := Option.map_eq_some_iff.mp hrun
    obtain ⟨hready, hdeleting⟩ := by simpa only [Prod.mk.injEq] using hparts
    have hswitched : ReachableAfterSwitch (fun _ _ => True) (s.switch inPlaceDeployment) :=
      .start ⟨s, inPlaceDeployment, .attempt hnew hs, trivial, rfl⟩
    have hboth := h _ hswitched "a" .ready .deleting
      (show "a" ∈ _ from hready ▸ List.mem_singleton_self "a")
      (show "a" ∈ _ from hdeleting ▸ List.mem_singleton_self "a")
    exact absurd hboth (by decide)

end RouterState
end Router
end SpotServe
