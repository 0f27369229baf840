import SpotServe.Router.Shutdown

/-!
# A shutdown that answers everybody

While a shutdown is under way the background tasks of the router may move instances between the
pools, but each instance that one of them takes out, shuts down, or files after the pools were
cleared is one that the shutdown misses or meets twice.  `Calm` says of a step that it does none of
this, that the shutdown drains an empty queue, and that no request waits once the pools are taken.

* `poolsKept_of_step`: what a router step that takes no instance out does to the pools.
* `Undisturbed.act`: what a calm step of another coroutine leaves as it is.
* `Sound.step`: what each step keeps, by the phase of the shutdown.
* `answersEverybody_of_calm`: every run of calm steps.
-/

namespace SpotServe
namespace Router

open Py Reparallelization

variable {κ : Type}

namespace RouterState

variable {r r' : RouterState κ}

/-- The action neither takes an instance out of the pools nor shuts one down. -/
def TakesNone (r : RouterState κ) : Action κ → Prop
  | .cancelStart instanceId =>
    (∃ task ∈ r.startTasks.get? instanceId, task.phase ∈ [.allocating, .launched]) →
      ¬ r.InPool .starting instanceId
  | .join instanceId => r.InPool .starting instanceId
  | .finishInstance instanceId => ¬ r.InPool .deleting instanceId
  | .shutdownInstance instanceId => ¬ r.Has instanceId
  | _ => True

/-- The action files no instance. -/
def FilesNone : Action κ → Prop
  | .trackInstance _ | .failStart _ | .switch _ => False
  | _ => True

instance (r : RouterState κ) (a : Action κ) : Decidable (r.TakesNone a) := by
  cases a <;> unfold TakesNone <;> infer_instance

instance (a : Action κ) : Decidable (FilesNone a) := by
  cases a <;> unfold FilesNone <;> infer_instance

theorem isStarting_iff {instanceId : String} :
    r.isStarting instanceId = true ↔ r.InPool .starting instanceId := by
  unfold isStarting InPool
  rw [OrderedDict.mem_keys_iff, Option.isSome_iff_exists]
  rfl

/-- Pools that only one instance has moved between. -/
theorem Has.of_move {instanceId : String} (hmoved : r'.Has instanceId)
    (hothers : ∀ p id, r.InPool p id → id ≠ instanceId → r'.InPool p id) {id : String}
    (h : r.Has id) : r'.Has id := by
  obtain ⟨p, hp⟩ := h
  by_cases hid : id = instanceId
  · exact hid ▸ hmoved
  · exact ⟨p, hothers p id hp hid⟩

/-- An instance that a pool gets, and that the other pools may lose. -/
theorem Has.of_pools {instanceId : String} {p : Pool} {handle : Instance κ}
    (hto : r'.pool p = (r.pool p).set instanceId handle)
    (hfrom : ∀ q, q ≠ p → r'.pool q = (r.pool q).erase instanceId ∨ r'.pool q = r.pool q)
    {id : String} (h : r.Has id) : r'.Has id := by
  have hfiled : r'.InPool p instanceId := by
    unfold InPool
    rw [hto]
    exact OrderedDict.mem_keys_set.mpr (.inl rfl)
  refine Has.of_move ⟨p, hfiled⟩ (fun q id hq hne => ?_) h
  unfold InPool at *
  by_cases hqp : q = p
  · subst hqp
    rw [hto]
    exact OrderedDict.mem_keys_set.mpr (.inr hq)
  · rcases hfrom q hqp with herase | hsame
    · rw [herase]
      exact OrderedDict.mem_keys_erase.mpr ⟨hne, hq⟩
    · rwa [hsame]

/-- A pool without the instance loses nothing. -/
theorem Has.of_erase (instanceId : String)
    (hpools : ∀ q, r'.pool q = (r.pool q).erase instanceId ∧ ¬ r.InPool q instanceId ∨
      r'.pool q = r.pool q) {id : String} (h : r.Has id) : r'.Has id := by
  obtain ⟨p, hp⟩ := h
  refine ⟨p, ?_⟩
  unfold InPool at *
  rcases hpools p with ⟨herase, hnot⟩ | hsame
  · rw [herase]
    refine OrderedDict.mem_keys_erase.mpr ⟨?_, hp⟩
    rintro rfl
    exact hnot hp
  · rwa [hsame]

/-- A switch drops no instance. -/
theorem Has.switch (d : Deployment κ) {id : String} (h : r.Has id) : (r.switch d).Has id := by
  obtain ⟨p, hp⟩ := h
  have hdeleting : id ∈ r.deletingInferenceInstances.keys ∨
      id ∈ (r.readyInferenceInstances.filter fun id _ => (d.instances.get? id).isNone).keys →
      (r.switch d).InPool .deleting id := fun h => by
    show id ∈ (r.deletingInferenceInstances.updateWith
      (r.readyInferenceInstances.filter fun id _ => (d.instances.get? id).isNone)
        fun _ _ handle => handle).keys
    exact OrderedDict.mem_keys_updateWith.mpr h
  cases p with
  | starting => exact ⟨.starting, hp⟩
  | deleting => exact ⟨.deleting, hdeleting (.inl hp)⟩
  | failed => exact ⟨.failed, hp⟩
  | ready =>
    cases hin : d.instances.get? id with
    | some handle => exact ⟨.ready, (OrderedDict.mem_keys_iff _).mpr ⟨handle, hin⟩⟩
    | none =>
      obtain ⟨handle, hhandle⟩ := (OrderedDict.mem_keys_iff _).mp hp
      refine ⟨.deleting, hdeleting (.inr ((OrderedDict.mem_keys_iff _).mpr ⟨handle, ?_⟩))⟩
      exact (OrderedDict.get?_filter _ _).mpr ⟨hhandle, by rw [hin]; rfl⟩

theorem stopInstance_cases (r : RouterState κ) (instanceId : Option String) :
    r.stopInstance instanceId = r ∨ ∃ id handle, r.InPool .ready id ∧
      r.stopInstance instanceId = r.moveToDeleting id handle := by
  unfold RouterState.stopInstance
  cases instanceId with
  | none =>
    dsimp only
    split
    case h_1 id handle hlast =>
      have hget := (OrderedDict.mem_entries_iff _).mp (List.mem_of_getLast? hlast)
      exact .inr ⟨id, handle, (OrderedDict.mem_keys_iff _).mpr ⟨handle, hget⟩, rfl⟩
    case h_2 => exact .inl rfl
  | some id =>
    dsimp only
    split
    case h_1 handle hget =>
      exact .inr ⟨id, handle, (OrderedDict.mem_keys_iff _).mpr ⟨handle, hget⟩, rfl⟩
    case h_2 => exact .inl rfl

theorem pool_shutdownInstance (r : RouterState κ) (instanceId : String) (q : Pool) :
    (r.shutdownInstance instanceId).pool q = (r.pool q).erase instanceId ∨
      (r.shutdownInstance instanceId).pool q = r.pool q := by
  unfold RouterState.shutdownInstance
  split_ifs <;> cases q <;> first | exact .inl rfl | exact .inr rfl

theorem handedBy_eq_nil {a : Action κ} (hnone : r.TakesNone a) : r.handedBy a = [] := by
  cases a with
  | join instanceId => exact if_pos (isStarting_iff.mpr hnone)
  | shutdownInstance instanceId => exact if_neg hnone
  | _ => rfl

/-- What becomes of the pools when an action takes no instance out of them: they stay, one of them
gets an instance that others may lose, they erase one that none of them has, or the ready instances
are switched. -/
inductive PoolsKept (r r' : RouterState κ) (files : Prop) : Prop
  | same (hpools : ∀ q, r'.pool q = r.pool q)
  | gets {p : Pool} {instanceId : String} {handle : Instance κ}
    (hto : r'.pool p = (r.pool p).set instanceId handle)
    (hfrom : ∀ q, q ≠ p → r'.pool q = (r.pool q).erase instanceId ∨ r'.pool q = r.pool q)
    (hhad : files ∨ r.Has instanceId)
  | erases (instanceId : String)
    (hpools : ∀ q, r'.pool q = (r.pool q).erase instanceId ∧ ¬ r.InPool q instanceId ∨
      r'.pool q = r.pool q)
  | switches {d : Deployment κ} (hswitch : r' = r.switch d) (hfiles : files)

theorem poolsKept_of_step {a : Action κ} (hnone : r.TakesNone a) (hstep : r.step a = some r') :
    PoolsKept r r' (¬ FilesNone a) := by
  cases a with
  | createInstance instanceId =>
    obtain rfl := Option.some.inj hstep
    exact .same fun _ => rfl
  | trackInstance instanceId =>
    obtain ⟨handle, -, rfl⟩ := of_stepTask hstep
    refine .gets (p := .starting) rfl (fun q hq => ?_) (.inl not_false)
    cases q with
    | starting => exact absurd rfl hq
    | ready | deleting | failed => exact .inr rfl
  | beginStart instanceId | launch instanceId =>
    obtain ⟨handle, -, rfl⟩ := of_stepTask hstep
    exact .same fun _ => rfl
  | findInstance instanceId =>
    obtain ⟨handle, -, rfl⟩ := of_stepTask hstep
    unfold RouterState.findInstance
    split_ifs <;> exact .same fun _ => rfl
  | join instanceId =>
    obtain ⟨handle, -, rfl⟩ := of_stepTask hstep
    unfold RouterState.join
    rw [if_pos (isStarting_iff.mpr hnone)]
    refine .gets (p := .ready) rfl (fun q hq => ?_) (.inr ⟨.starting, hnone⟩)
    cases q with
    | starting => exact .inl rfl
    | ready => exact absurd rfl hq
    | deleting | failed => exact .inr rfl
  | failStart instanceId =>
    simp only [RouterState.step] at hstep
    split at hstep
    case h_3 => exact absurd hstep (by simp)
    all_goals
      obtain rfl := Option.some.inj hstep
      refine .gets (p := .failed) rfl (fun q hq => ?_) (.inl not_false)
      cases q with
      | starting => exact .inl rfl
      | failed => exact absurd rfl hq
      | ready | deleting => exact .inr rfl
  | cancelStart instanceId =>
    obtain ⟨⟨phase, handle⟩, hget, rfl⟩ := Option.map_eq_some_iff.mp hstep
    cases phase with
    | creating | created | begun => exact .same fun _ => rfl
    | allocating | launched =>
      have hnot : ¬ r.InPool .starting instanceId := hnone ⟨_, hget, by simp⟩
      refine .erases instanceId fun q => ?_
      cases q with
      | starting => exact .inl ⟨rfl, hnot⟩
      | ready | deleting | failed => exact .inr rfl
  | stopInstance instanceId =>
    obtain rfl := Option.some.inj hstep
    rcases stopInstance_cases r instanceId with heq | ⟨id', handle, hready, heq⟩
    · rw [heq]
      exact .same fun _ => rfl
    · rw [heq]
      refine .gets (p := .deleting) rfl (fun q hq => ?_) (.inr ⟨.ready, hready⟩)
      cases q with
      | ready => exact .inl rfl
      | deleting => exact absurd rfl hq
      | starting | failed => exact .inr rfl
  | finishInstance instanceId =>
    simp only [RouterState.step] at hstep
    split_ifs at hstep
    obtain rfl := Option.some.inj hstep
    refine .erases instanceId fun q => ?_
    cases q with
    | deleting => exact .inl ⟨rfl, hnone⟩
    | starting | ready | failed => exact .inr rfl
  | shutdownInstance instanceId =>
    obtain rfl := Option.some.inj hstep
    refine .erases instanceId fun q => ?_
    rcases pool_shutdownInstance r instanceId q with herase | hsame
    · exact .inl ⟨herase, fun hq => hnone ⟨q, hq⟩⟩
    · exact .inr hsame
  | switch d =>
    obtain rfl := Option.some.inj hstep
    exact .switches rfl not_false

/-- **Nothing is lost.** -/
theorem Has.step {a : Action κ} (hnone : r.TakesNone a) (hstep : r.step a = some r') {id : String}
    (h : r.Has id) : r'.Has id := by
  cases poolsKept_of_step hnone hstep with
  | same hpools =>
    obtain ⟨p, hp⟩ := h
    unfold InPool at hp
    exact ⟨p, by rwa [InPool, hpools p]⟩
  | gets hto hfrom => exact Has.of_pools hto hfrom h
  | erases instanceId hpools => exact Has.of_erase instanceId hpools h
  | switches hswitch => exact hswitch ▸ h.switch _

/-- **Nothing comes** into empty pools. -/
theorem not_has_step {a : Action κ} (hnone : r.TakesNone a) (hfiles : FilesNone a)
    (hstep : r.step a = some r') (h : ∀ id, ¬ r.Has id) (id : String) : ¬ r'.Has id := by
  rintro ⟨q, hq⟩
  cases poolsKept_of_step hnone hstep with
  | same hpools => exact h id ⟨q, by rwa [InPool, ← hpools q]⟩
  | gets _ _ hhad => exact hhad.elim (fun hnot => hnot hfiles) (h _)
  | erases instanceId hpools =>
    exact h id ⟨q, sub_of_pools instanceId (fun q => (hpools q).imp_left And.left) q id hq⟩
  | switches _ hnot => exact hnot hfiles

end RouterState

namespace ShutdownState

variable {s s' : ShutdownState κ}

/-- The instance is in a pool of its kind. -/
def IsFiled (s : ShutdownState κ) : Filed → Prop
  | .inference instanceId => s.router.Has instanceId
  | .fineTuning instanceId =>
    instanceId ∈ s.startingFtInstances.keys ∨ instanceId ∈ s.readyFtInstances.keys

/-- What a shutdown is for: it raises nothing, and when it has ended, the futures that waited are
resolved, each instance was handed on once, and the pools are empty. -/
def AnswersEverybody (s : ShutdownState κ) : Prop :=
  s.phase ≠ .raised ∧ (s.phase = .ended → (∀ future ∈ s.waited, future ∈ s.resolved) ∧
    (∀ x ∈ s.filedAtCall, s.handed.count x = 1) ∧ s.filed = [])

/-- The step does not cross the shutdown. -/
def Calm (s : ShutdownState κ) : ShutdownAction κ → Prop
  | .drain => s.requestQueue = []
  | .collect => s.requestQueue = [] ∧ s.allocating = none
  | .enqueue _ => s.phase ≠ .gathering
  | .router a => s.underWay → s.router.TakesNone a ∧
      (s.phase = .gathering → RouterState.FilesNone a)
  | .shutdownFt instanceId => s.underWay → ¬ s.IsFiled (.fineTuning instanceId)
  | .trackFt _ | .joinFt _ => s.phase ≠ .gathering
  | _ => True

instance (s : ShutdownState κ) : DecidablePred s.IsFiled := fun x => by
  cases x <;> unfold IsFiled <;> infer_instance

instance (s : ShutdownState κ) (a : ShutdownAction κ) : Decidable (s.Calm a) := by
  cases a <;> unfold Calm <;> infer_instance

theorem mem_filed {x : Filed} : x ∈ s.filed ↔ s.IsFiled x := by
  unfold filed IsFiled RouterState.Has RouterState.InPool
  cases x with
  | inference id =>
    simp only [List.mem_append, List.mem_map, Filed.inference.injEq, exists_eq_right, reduceCtorEq,
      and_false, exists_false, or_false]
    constructor
    · rintro (((h | h) | h) | h)
      exacts [⟨.starting, h⟩, ⟨.ready, h⟩, ⟨.deleting, h⟩, ⟨.failed, h⟩]
    · rintro ⟨_ | _ | _ | _, h⟩
      exacts [.inl (.inl (.inl h)), .inl (.inl (.inr h)), .inl (.inr h), .inr h]
  | fineTuning id => simp

theorem drain_of_empty (h : s.requestQueue = []) : s.drain = { s with phase := .locking } := by
  unfold drain
  split
  · rfl
  · next hqueue => exact absurd (h.symm.trans hqueue) (by simp)

/-! ## The collected instances -/

theorem count_collected (s : ShutdownState κ) {x : Filed} (hx : s.IsFiled x) :
    (s.router.collectInference.keys.map Filed.inference ++
      s.collectFt.keys.map Filed.fineTuning).count x = 1 := by
  refine List.count_eq_one_of_mem (List.Nodup.append ?_ ?_ ?_) ?_
  · exact (OrderedDict.nodup _).map fun _ _ h => Filed.inference.inj h
  · exact (OrderedDict.nodup _).map fun _ _ h => Filed.fineTuning.inj h
  · intro y hy hy'
    obtain ⟨_, -, rfl⟩ := List.mem_map.mp hy
    obtain ⟨_, -, h⟩ := List.mem_map.mp hy'
    exact absurd h (by simp)
  · cases x with
    | inference id =>
      refine List.mem_append_left _ (List.mem_map_of_mem ?_)
      unfold RouterState.collectInference
      simp only [OrderedDict.mem_keys_updateWith]
      obtain ⟨_ | _ | _ | _, h⟩ := hx
      exacts [.inl (.inl (.inl (.inr h))), .inl (.inl (.inr h)), .inl (.inr h), .inr h]
    | fineTuning id =>
      refine List.mem_append_right _ (List.mem_map_of_mem ?_)
      exact OrderedDict.mem_keys_updateWith.mpr hx

theorem not_isFiled_collect (s : ShutdownState κ) (x : Filed) : ¬ s.collect.IsFiled x := by
  cases x with
  | inference id =>
    rintro ⟨_ | _ | _ | _, h⟩ <;> exact absurd h List.not_mem_nil
  | fineTuning id =>
    rintro (h | h) <;> exact absurd h List.not_mem_nil

/-! ## Steps of the other coroutines -/

/-- The future waits in the queue, the load balancer has it, or it is resolved. -/
def Known (s : ShutdownState κ) (future : ℕ) : Prop :=
  future ∈ s.requestQueue ∨ s.allocating = some future ∨ future ∈ s.resolved

/-- What a calm step of another coroutine leaves as it is. -/
structure Undisturbed (s s' : ShutdownState κ) : Prop where
  filedAtCall : s'.filedAtCall = s.filedAtCall
  handed : s'.handed = s.handed
  known : (∀ future ∈ s.waited, s.Known future) → ∀ future ∈ s'.waited, s'.Known future
  resolved : s.phase = .gathering → (∀ future ∈ s.waited, future ∈ s.resolved) →
    ∀ future ∈ s'.waited, future ∈ s'.resolved
  isFiled : ∀ x, s.IsFiled x → s'.IsFiled x
  cleared : s.phase = .gathering → (∀ x, ¬ s.IsFiled x) → ∀ x, ¬ s'.IsFiled x

/-- The steps of the shutdown itself. -/
def ofShutdown : ShutdownAction κ → Bool
  | .call | .drain | .collect | .finish => true
  | _ => false

/-- What the other coroutines do. -/
inductive Meanwhile (s : ShutdownState κ) : ShutdownAction κ → ShutdownState κ → Prop
  | routes {a : Action κ} {router : RouterState κ} : s.router.step a = some router →
    Meanwhile s (.router a) { s with router, handed := s.handed ++ s.router.handedBy a }
  | tracksFt {instanceId : String} : Meanwhile s (.trackFt instanceId) (s.trackFt instanceId)
  | findsFt {instanceId : String} : Meanwhile s (.findFt instanceId) (s.findFt instanceId)
  | joinsFt {instanceId : String} {handle : Instance κ} :
    Meanwhile s (.joinFt instanceId) (s.joinFt instanceId handle)
  | endsFt {instanceId : String} :
    Meanwhile s (.endFt instanceId) { s with ftStartTasks := s.ftStartTasks.erase instanceId }
  | shutsFt {instanceId : String} :
    Meanwhile s (.shutdownFt instanceId) (s.shutdownFt instanceId)
  | enqueues {future : ℕ} : Meanwhile s (.enqueue future)
      { s with requestQueue := s.requestQueue ++ [future], waited := s.waited ++ [future] }
  | takes {future : ℕ} {rest : List ℕ} : s.allocating = none → s.requestQueue = future :: rest →
    Meanwhile s .take { s with requestQueue := rest, allocating := some future }
  | gives {instanceId : String} {future : ℕ} : s.allocating = some future →
    Meanwhile s (.give instanceId)
      { s with allocating := none, resolved := s.resolved ++ [future] }

theorem meanwhile_of_act {a : ShutdownAction κ} (hother : ofShutdown a = false)
    (hact : s.act a = some s') : Meanwhile s a s' := by
  cases a with
  | call | drain | collect | finish => exact absurd hother (by simp [ofShutdown])
  | router a =>
    simp only [ShutdownState.act] at hact
    split_ifs at hact
    obtain ⟨router, hrouter, rfl⟩ := Option.map_eq_some_iff.mp hact
    exact .routes hrouter
  | trackFt =>
    obtain rfl := Option.some.inj hact
    exact .tracksFt
  | findFt =>
    simp only [ShutdownState.act] at hact
    split at hact
    · split_ifs at hact
      obtain rfl := Option.some.inj hact
      exact .findsFt
    · exact absurd hact (by simp)
  | joinFt =>
    simp only [ShutdownState.act] at hact
    split at hact
    · split_ifs at hact
      obtain rfl := Option.some.inj hact
      exact .joinsFt
    · exact absurd hact (by simp)
  | endFt =>
    obtain rfl := Option.some.inj hact
    exact .endsFt
  | shutdownFt =>
    obtain rfl := Option.some.inj hact
    exact .shutsFt
  | enqueue =>
    obtain rfl := Option.some.inj hact
    exact .enqueues
  | take =>
    simp only [ShutdownState.act] at hact
    split at hact
    · next hallocating hqueue =>
      obtain rfl := Option.some.inj hact
      exact .takes hallocating hqueue
    · exact absurd hact (by simp)
  | give =>
    simp only [ShutdownState.act] at hact
    split at hact
    · next hallocating =>
      split_ifs at hact
      obtain rfl := Option.some.inj hact
      exact .gives hallocating
    · exact absurd hact (by simp)

theorem phase_act {a : ShutdownAction κ} (h : Meanwhile s a s') : s'.phase = s.phase := by
  cases h with
  | routes | tracksFt | joinsFt | endsFt | enqueues | takes | gives => rfl
  | findsFt =>
    unfold findFt
    split <;> rfl
  | shutsFt =>
    unfold shutdownFt
    split_ifs <;> rfl

theorem Undisturbed.act {a : ShutdownAction κ} (h : Meanwhile s a s') (hunderWay : s.underWay)
    (hcalm : s.Calm a) : s.Undisturbed s' := by
  cases h with
  | @routes a router hrouter =>
    obtain ⟨hnone, hfiles⟩ := hcalm hunderWay
    refine ⟨rfl, ?_, id, fun _ => id, fun x hx => ?_, fun hphase hcleared x => ?_⟩
    · show s.handed ++ s.router.handedBy a = s.handed
      rw [RouterState.handedBy_eq_nil hnone, List.append_nil]
    · cases x with
      | inference id => exact RouterState.Has.step hnone hrouter hx
      | fineTuning id => exact hx
    · cases x with
      | inference id =>
        exact RouterState.not_has_step hnone (hfiles hphase) hrouter
          (fun id => hcleared (.inference id)) id
      | fineTuning id => exact hcleared (.fineTuning id)
  | tracksFt =>
    refine ⟨rfl, rfl, id, fun _ => id, fun x hx => ?_, fun hphase => absurd hphase hcalm⟩
    cases x with
    | inference id => exact hx
    | fineTuning id => exact hx.imp_left fun h => OrderedDict.mem_keys_set.mpr (.inr h)
  | @findsFt instanceId =>
    unfold findFt
    cases s.startingFtInstances.get? instanceId <;>
      exact ⟨rfl, rfl, id, fun _ => id, fun _ => id, fun _ => id⟩
  | @joinsFt instanceId handle =>
    refine ⟨rfl, rfl, id, fun _ => id, fun x hx => ?_, fun hphase => absurd hphase hcalm⟩
    cases x with
    | inference id => exact hx
    | fineTuning id =>
      by_cases hid : id = instanceId
      · exact .inr (OrderedDict.mem_keys_set.mpr (.inl hid))
      · exact hx.imp (fun h => OrderedDict.mem_keys_erase.mpr ⟨hid, h⟩)
          fun h => OrderedDict.mem_keys_set.mpr (.inr h)
  | shutsFt =>
    obtain ⟨hstarting, hready⟩ := not_or.mp (hcalm hunderWay)
    unfold shutdownFt
    rw [if_neg hready, if_neg hstarting]
    exact ⟨rfl, rfl, id, fun _ => id, fun _ => id, fun _ => id⟩
  | enqueues =>
    refine ⟨rfl, rfl, fun hknown future hfuture => ?_, fun hphase => absurd hphase hcalm,
      fun _ => id, fun _ => id⟩
    rcases List.mem_append.mp hfuture with hbefore | hnew
    · exact (hknown future hbefore).imp_left (List.mem_append_left _)
    · exact .inl (List.mem_append_right _ hnew)
  | takes hallocating hqueue =>
    refine ⟨rfl, rfl, fun hknown future hfuture => ?_, fun _ => id, fun _ => id, fun _ => id⟩
    have hbefore := hknown future hfuture
    unfold Known at hbefore ⊢
    rw [hqueue, hallocating, List.mem_cons] at hbefore
    rcases hbefore with (rfl | hrest) | hnone | hresolved
    · exact .inr (.inl rfl)
    · exact .inl hrest
    · exact absurd hnone (by simp)
    · exact .inr (.inr hresolved)
  | gives hallocating =>
    refine ⟨rfl, rfl, fun hknown future hfuture => ?_,
      fun _ hresolved future hfuture => List.mem_append_left _ (hresolved future hfuture),
      fun _ => id, fun _ => id⟩
    have hbefore := hknown future hfuture
    unfold Known at hbefore ⊢
    rw [hallocating] at hbefore
    rcases hbefore with hqueue | hgiven | hresolved
    · exact .inl hqueue
    · obtain rfl := Option.some.inj hgiven
      exact .inr (.inr (List.mem_append_right _ (List.mem_singleton_self _)))
    · exact .inr (.inr (List.mem_append_left _ hresolved))
  | endsFt => exact ⟨rfl, rfl, id, fun _ => id, fun _ => id, fun _ => id⟩

/-! ## Runs -/

/-- What holds at each phase of the shutdown. -/
def Sound (s : ShutdownState κ) : Prop :=
  match s.phase with
  | .notCalled => True
  | .cancelling | .locking => (∀ future ∈ s.waited, s.Known future) ∧ s.handed = [] ∧
      ∀ x ∈ s.filedAtCall, s.IsFiled x
  | .gathering | .ended => (∀ future ∈ s.waited, future ∈ s.resolved) ∧
      (∀ x ∈ s.filedAtCall, s.handed.count x = 1) ∧ ∀ x, ¬ s.IsFiled x
  | .raised => False

theorem Sound.undisturbed (h : s.Sound) (hunderWay : s.underWay) (hkeep : s.Undisturbed s')
    (hsame : s'.phase = s.phase) : s'.Sound := by
  unfold Sound at *
  rw [hsame, hkeep.filedAtCall, hkeep.handed]
  cases hphase : s.phase with
  | notCalled | ended | raised => simp [underWay, hphase] at hunderWay
  | cancelling | locking =>
    rw [hphase] at h
    obtain ⟨hknown, hhanded, hfiled⟩ := h
    exact ⟨hkeep.known hknown, hhanded, fun x hx => hkeep.isFiled x (hfiled x hx)⟩
  | gathering =>
    rw [hphase] at h
    obtain ⟨hresolved, hcount, hcleared⟩ := h
    exact ⟨hkeep.resolved hphase hresolved, hcount, hkeep.cleared hphase hcleared⟩

theorem of_step {a : ShutdownAction κ} (hstep : s.step a = some s') :
    ¬ (s.phase = .ended ∨ s.phase = .raised) ∧ s.act a = some s' := by
  unfold ShutdownState.step at hstep
  split_ifs at hstep with hover
  exact ⟨hover, hstep⟩

/-- **A calm step.** -/
theorem Sound.step {a : ShutdownAction κ} (h : s.Sound) (hcalm : s.Calm a)
    (hstep : s.step a = some s') : s'.Sound := by
  obtain ⟨hover, hact⟩ := of_step hstep
  cases hother : ofShutdown a with
  | false =>
    have hmeanwhile := meanwhile_of_act hother hact
    have hsame := phase_act hmeanwhile
    by_cases hunderWay : s.underWay
    · exact h.undisturbed hunderWay (.act hmeanwhile hunderWay hcalm) hsame
    · -- the shutdown has not been called
      have hphase : s'.phase = .notCalled := by
        rw [hsame]
        cases hphase : s.phase <;> simp_all [underWay]
      unfold Sound
      rw [hphase]
      trivial
  | true =>
    cases a with
    | call =>
      simp only [ShutdownState.act] at hact
      split_ifs at hact
      obtain rfl := Option.some.inj hact
      exact ⟨fun _ => .inl, rfl, fun _ => mem_filed.mp⟩
    | drain =>
      simp only [ShutdownState.act] at hact
      split_ifs at hact with hphase
      obtain rfl := Option.some.inj hact
      unfold Sound at h
      rw [hphase] at h
      rw [drain_of_empty hcalm]
      exact h
    | collect =>
      simp only [ShutdownState.act] at hact
      split_ifs at hact with hphase
      obtain rfl := Option.some.inj hact
      unfold Sound at h
      rw [hphase] at h
      obtain ⟨hknown, hhanded, hfiled⟩ := h
      refine ⟨fun future hfuture => ?_, fun x hx => ?_, not_isFiled_collect s⟩
      · have hfound := hknown future hfuture
        rw [Known, hcalm.1, hcalm.2] at hfound
        exact (hfound.resolve_left List.not_mem_nil).resolve_left (by simp)
      · show (s.handed ++ _ ++ _).count x = 1
        rw [hhanded, List.nil_append]
        exact count_collected s (hfiled x hx)
    | finish =>
      simp only [ShutdownState.act] at hact
      split_ifs at hact with hphase
      obtain rfl := Option.some.inj hact
      unfold Sound at h
      rw [hphase] at h
      exact h
    | _ => exact absurd hother (by simp [ofShutdown])

/-- The runs of a router up to the end of its shutdown. -/
abbrev ReachableBy (allowed : ShutdownState κ → ShutdownAction κ → Prop) :
    ShutdownState κ → Prop :=
  Runs.Reachable (fun s => s.phase = .notCalled) (fun s a s' => s.step a = some s') allowed

/-- The next step of the shutdown. -/
def nextOf : ShutdownPhase → ShutdownAction κ
  | .notCalled => .call
  | .cancelling => .drain
  | .locking => .collect
  | .gathering | .ended | .raised => .finish

/-- **A shutdown answers everybody**, in runs of calm steps, and it can always go on to its end. -/
theorem answersEverybody_of_calm (h : ReachableBy Calm s) :
    s.AnswersEverybody ∧ (s.underWay → (s.step (nextOf s.phase)).isSome) := by
  have hsound : s.Sound := h.invariant Sound (fun s hs => by unfold Sound; rw [hs]; trivial)
    fun _ _ _ hsound hcalm hstep => hsound.step hcalm hstep
  refine ⟨⟨fun hraised => ?_, fun hended => ?_⟩, fun hunderWay => ?_⟩
  · rw [Sound, hraised] at hsound
    exact hsound
  · rw [Sound, hended] at hsound
    obtain ⟨hresolved, hcount, hcleared⟩ := hsound
    exact ⟨hresolved, hcount,
      List.eq_nil_iff_forall_not_mem.mpr fun x hx => hcleared x (mem_filed.mp hx)⟩
  · unfold ShutdownState.step
    cases hphase : s.phase <;> simp_all [underWay, nextOf, ShutdownState.act]

/-- A router without instances. -/
def idleRouter : ShutdownState ℕ :=
  { router := { backendConfig := 1, resourceRequirements := ⟨1, 1⟩ } }

/-- A request waits at the call, and one that is tried again comes while the starts are cancelled;
the load balancer answers both before the queue is drained. -/
def shutdownRun : List (ShutdownAction ℕ) :=
  [.enqueue 0, .call, .take, .enqueue 1, .give "a", .take, .give "a", .drain, .collect, .finish]

/-- A ready instance, one that is being deleted, and a fine-tuning one that is starting. -/
def threeInstances : List (ShutdownAction ℕ) :=
  (RouterState.launched "a" ++ [.join "a"] ++ RouterState.launched "b" ++
    [.join "b", .stopInstance (some "b")] : List (Action ℕ)).map .router ++ [.trackFt "c"]

/-- They are all answered for. -/
theorem answersEverybody_threeInstances : ∃ s : ShutdownState ℕ, ReachableBy Calm s ∧
    s.phase = .ended ∧ s.handed = [.inference "a", .inference "b", .fineTuning "c"] ∧
    s.waited = [0, 1] ∧ s.AnswersEverybody ∧ (s.underWay → (s.step (nextOf s.phase)).isSome) := by
  have hrun : (Runs.attempt ShutdownState.step Calm (threeInstances ++ shutdownRun) idleRouter).map
      (fun s => (s.phase, s.handed, s.waited)) =
        some (.ended, [.inference "a", .inference "b", .fineTuning "c"], [0, 1]) := by
    decide +kernel
  obtain ⟨s, hs, heq⟩ := Option.map_eq_some_iff.mp hrun
  have hreachable : ReachableBy Calm s := .attempt (.start rfl) hs
  injection heq with hphase heq
  injection heq with hhanded hwaited
  exact ⟨s, hreachable, hphase, hhanded, hwaited, answersEverybody_of_calm hreachable⟩

/-- A request waits, and the shutdown raises while a ready instance is still in its pool. -/
theorem not_answersEverybody_waiting : ∃ s : ShutdownState ℕ,
    ReachableBy (fun _ _ => True) s ∧ s.filed = [.inference "a"] ∧ s.handed = [] ∧
      ¬ s.AnswersEverybody := by
  have hrun : (Runs.attempt ShutdownState.step (fun _ _ => True)
      ((RouterState.launched "a" ++ [.join "a"] : List (Action ℕ)).map .router ++
        [.enqueue 0, .call, .drain]) idleRouter).map (fun s => (s.phase, s.filed, s.handed)) =
      some (.raised, [.inference "a"], []) := by
    decide +kernel
  obtain ⟨s, hs, heq⟩ := Option.map_eq_some_iff.mp hrun
  injection heq with hphase heq
  injection heq with hfiled hhanded
  exact ⟨s, .attempt (.start rfl) hs, hfiled, hhanded, fun h => h.1 hphase⟩

end ShutdownState

end Router
end SpotServe
