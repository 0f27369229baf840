import SpotServe.Reparallelization.Executor

/-!
# Bringing a target up

When does a new deployment come up, and what does the attempt leave behind?

* `Frame n`: the relation between two worlds that agree on everything older than reference `n`.
  New handles get references past the end of the heap, so whatever the executor does to a target
  is framed by the length of the heap it started from.
* `TargetComesUp`: the answers with which a target comes up, read off the outside calls.
* `bringUpTarget_spec`: it comes up exactly with these answers, and in either case nothing older
  than the target was touched.
-/

namespace SpotServe
namespace Reparallelization

open Cluster Coroutine

variable {π : Type}

/-! ## What a step leaves alone -/

/-- Handles below `n`, the executor's current deployment and the switches are the same in both
worlds. -/
structure SameBelow (n : ℕ) (w w' : World π) : Prop where
  length : n ≤ w'.heap.length
  heap : ∀ ref < n, w'.heap[ref]? = w.heap[ref]?
  current : w'.current = w.current
  switched : w'.switched = w.switched

/-- As long as the heap has at least `n` handles, nothing below `n` changes. -/
def Frame (n : ℕ) (w w' : World π) : Prop := n ≤ w.heap.length → SameBelow n w w'

instance (n : ℕ) : Std.Refl (Frame n : World π → World π → Prop) where
  refl _ h := ⟨h, fun _ _ => rfl, rfl, rfl⟩

theorem SameBelow.trans {n : ℕ} {w w' w'' : World π} (h : SameBelow n w w')
    (h' : SameBelow n w' w'') : SameBelow n w w'' := by
  refine ⟨h'.length, ?_, h'.current.trans h.current, h'.switched.trans h.switched⟩
  intro ref href
  rw [h'.heap ref href, h.heap ref href]

instance (n : ℕ) : IsTrans (World π) (Frame n) where
  trans _ _ _ hab hbc h := (hab h).trans (hbc (hab h).length)

theorem SameBelow.mono {m n : ℕ} {w w' : World π} (h : SameBelow n w w') (hmn : m ≤ n) :
    SameBelow m w w' :=
  ⟨hmn.trans h.length, fun ref href => h.heap ref (href.trans_le hmn), h.current, h.switched⟩

/-- A change that keeps heap, current deployment and switches. -/
theorem frame_of_eq {n : ℕ} {w w' : World π} (hheap : w'.heap = w.heap)
    (hcurrent : w'.current = w.current) (hswitched : w'.switched = w.switched) :
    Frame n w w' := by
  intro h
  exact ⟨hheap ▸ h, fun _ _ => by rw [hheap], hcurrent, hswitched⟩

theorem keeps_updateHandle {n ref : ℕ} (href : n ≤ ref) (f : InstanceHandle → InstanceHandle) :
    Keeps (Frame n) (updateHandle ref f : Effect π Unit) := by
  intro w h
  refine ⟨?_, ?_, rfl, rfl⟩
  · show n ≤ (w.heap.modify ref f).length
    rwa [List.length_modify]
  · intro r hr
    show (w.heap.modify ref f)[r]? = w.heap[r]?
    exact List.getElem?_modify_ne f w.heap (by omega)

theorem keeps_newHandle (n : ℕ) (h : InstanceHandle) :
    Keeps (Frame n) (newHandle h : Effect π ℕ) := by
  intro w hn
  refine ⟨?_, ?_, rfl, rfl⟩
  · show n ≤ (w.heap ++ [h]).length
    rw [List.length_append]
    omega
  · intro r hr
    show (w.heap ++ [h])[r]? = w.heap[r]?
    exact List.getElem?_append_left (by omega)

theorem keeps_call {α : Type} (n : ℕ) (r : Except String α) :
    Keeps (Frame n) (call r : Effect π α) :=
  Keeps.answer _

theorem keeps_callIfGiven {R : World π → World π → Prop} [Std.Refl R]
    (r : Option (Except String Unit)) : Keeps R (callIfGiven r : Effect π Unit) := by
  cases r with
  | none => exact Keeps.pure _
  | some result => exact Keeps.answer _

theorem keeps_recordTransition (n : ℕ) (f : Transition → Transition) :
    Keeps (Frame n) (recordTransition f : Effect π Unit) :=
  Keeps.modify fun _ => frame_of_eq rfl rfl rfl

section Steps

variable (outside : Outside) (adapter : VllmDeploymentAdapter)

theorem keeps_stopWorkers {n : ℕ} {deployment : VllmDeployment π}
    (hrefs : ∀ ref ∈ deployment.refs, n ≤ ref) :
    Keeps (Frame n) (stopWorkers outside deployment) := by
  refine Keeps.forM ?_
  rintro ⟨id, ref⟩ hmem
  have href : n ≤ ref := hrefs ref (List.mem_map.mpr ⟨_, hmem, rfl⟩)
  refine Keeps.bind (keeps_updateHandle href _) fun _ => Keeps.modify fun w => ?_
  refine frame_of_eq ?_ ?_ ?_ <;> split_ifs <;> rfl

theorem keeps_reserve (n : ℕ) (plan : ParallelPlan π) (replicaGpus replica : ℕ) :
    Keeps (Frame n) (reserve outside adapter plan replicaGpus replica) := by
  have hreserved : Keeps (Frame n) (modify fun w : World π =>
      { w with reservations := outside.instanceId replica :: w.reservations } : Effect π Unit) :=
    Keeps.modify fun _ => frame_of_eq rfl rfl rfl
  unfold reserve
  split_ifs
  · cases outside.allocateDistributedResource with
    | none => exact Keeps.throw _
    | some allocateDistributed =>
      refine Keeps.bind (keeps_call n _) fun result => Keeps.bind hreserved fun _ => ?_
      cases result with
      | none => exact Keeps.throw _
      | some allocation => exact Keeps.answer _
  · exact Keeps.bind (keeps_call n _) fun _ => Keeps.bind hreserved fun _ => Keeps.pure _

theorem keeps_startActor {n ref : ℕ} (href : n ≤ ref) (replica : ℕ) (reservation : Reservation) :
    Keeps (Frame n) (startActor outside ref replica reservation : Effect π Unit) :=
  Keeps.bind (keeps_call n _) fun _ => Keeps.bind (keeps_updateHandle href _) fun _ =>
    Keeps.bind (keeps_call n _) fun _ => keeps_updateHandle href _

/-! ## The answers with which a target comes up -/

/-- A distributed allocation names a node to start on and nodes to use, and all that it holds can be
read. -/
structure DistributedAllocation.Usable (allocation : DistributedAllocation) : Prop where
  node : ∃ node, allocation.nodeId = .ok node ∧ node ≠ ""
  targets : ∃ nodes, allocation.targetNodeIds = .ok nodes ∧ nodes ≠ []
  allocations : ∃ counts, allocation.nodeAllocations = .ok counts

theorem reservation_ok_iff {allocation : DistributedAllocation} :
    (∃ reservation, allocation.reservation = .ok reservation) ↔ allocation.Usable := by
  constructor
  · rintro ⟨reservation, hok⟩
    unfold DistributedAllocation.reservation at hok
    cases hnode : allocation.nodeId with
    | error text => simp [hnode, Except.mapError, bind, Except.bind] at hok
    | ok node =>
      cases htargets : allocation.targetNodeIds with
      | error text => simp [hnode, htargets, Except.mapError, bind, Except.bind] at hok
      | ok nodes =>
        by_cases hempty : node = "" ∨ nodes = []
        · simp [hnode, htargets, hempty, Except.mapError, bind, Except.bind, throw,
            throwThe, MonadExceptOf.throw] at hok
        · cases hcounts : allocation.nodeAllocations with
          | error text =>
            simp [hnode, htargets, hcounts, hempty, Except.mapError, bind, Except.bind] at hok
          | ok counts =>
            obtain ⟨hname, hsome⟩ := not_or.mp hempty
            exact ⟨⟨node, hnode, hname⟩, ⟨nodes, htargets, hsome⟩, counts, hcounts⟩
  · rintro ⟨⟨node, hnode, hname⟩, ⟨nodes, htargets, hsome⟩, counts, hcounts⟩
    refine ⟨⟨node, nodes, counts⟩, ?_⟩
    unfold DistributedAllocation.reservation
    rw [hnode, htargets, hcounts]
    simp [hname, hsome, Except.mapError, bind, Except.bind, pure, Except.pure]

/-- The scheduler reserves resources for a replica, and its answer can be used. -/
def Reserves (plan : ParallelPlan π) (replica : ℕ) : Prop :=
  if distributedAllocation adapter plan then
    ∃ allocate allocation, outside.allocateDistributedResource = some allocate ∧
      allocate replica = .ok (some allocation) ∧ allocation.Usable
  else ∃ node, outside.allocateResource replica = .ok node

/-- Nothing goes wrong for a replica. -/
structure ReplicaStarts (plan : ParallelPlan π) (replica : ℕ) : Prop where
  node : checkTargetNode outside plan replica = .ok ()
  reserves : Reserves outside adapter plan replica
  starts : ∃ actor, outside.startInstance replica = .ok actor
  inits : outside.initBackend replica = .ok ()

/-- The number of replicas that `create_workers` starts. -/
def replicas (plan : ParallelPlan π) : ℕ := max plan.replicaCount 1

/-- `create_workers` accepts the plan, and every replica starts. -/
structure Creates (plan : ParallelPlan π) : Prop where
  backend : plan.backend = "vllm"
  model : plan.modelName = adapter.modelName
  gpus : ∃ replicaGpus, replicaGpuCount plan = .ok replicaGpus
  starts : ∀ replica < replicas plan, ReplicaStarts outside adapter plan replica

/-- Every outside call of the creation, of the readiness check and of the runtime check comes back
with the answer that lets the target go on. -/
structure TargetComesUp (plan : ParallelPlan π) : Prop extends Creates outside adapter plan where
  probes : ∀ replica < replicas plan,
    outside.runtimeMetadata (outside.instanceId replica) = .ok true
  runtime : outside.verifyRuntime = none ∨ outside.verifyRuntime = some (.ok true)

/-! ## Creation -/

theorem reserve_ok_iff (plan : ParallelPlan π) (replicaGpus replica : ℕ) (w : World π) :
    (∃ reservation w', reserve outside adapter plan replicaGpus replica w =
      .ok reservation w') ↔ Reserves outside adapter plan replica := by
  unfold reserve Reserves
  by_cases hdist : distributedAllocation adapter plan = true
  · simp only [if_pos hdist]
    cases hall : outside.allocateDistributedResource with
    | none => simp [run_throw]
    | some allocate =>
      simp only [Option.some.injEq, exists_and_left, exists_eq_left', run_bind]
      cases hres : allocate replica with
      | error e => simp [call, answer, Except.mapError, run_throw]
      | ok result =>
        cases result with
        | none => simp [call, answer, Except.mapError, run_throw, run_pure, run_modify]
        | some allocation =>
          simp only [call, answer, Except.mapError, run_pure, run_modify, Except.ok.injEq,
            Option.some.injEq, exists_eq_left', ← reservation_ok_iff]
          cases allocation.reservation with
          | error e => simp [run_throw]
          | ok reservation =>
            refine ⟨fun _ => ⟨_, rfl⟩, fun _ => ?_⟩
            simp only [run_pure]
            exact ⟨_, _, rfl⟩
  · simp only [if_neg hdist]
    cases hres : outside.allocateResource replica with
    | error e => simp [run_bind, call, answer, Except.mapError, run_throw]
    | ok node => exact ⟨fun _ => ⟨node, rfl⟩, fun _ => ⟨_, _, rfl⟩⟩

/-- An actor starts when both of its calls come through, and its handle is then ready. -/
theorem startActor_spec (ref replica : ℕ) (reservation : Reservation) (w : World π) :
    match startActor outside ref replica reservation w with
    | .ok _ w' => (∃ actor, outside.startInstance replica = .ok actor) ∧
        outside.initBackend replica = .ok () ∧
        ∀ h, w.heap[ref]? = some h → h.state = .starting →
          ∃ h', w'.heap[ref]? = some h' ∧ h'.instanceId = h.instanceId ∧ h'.ready = true ∧
            h'.state = .ready
    | .error _ _ => ¬ ((∃ actor, outside.startInstance replica = .ok actor) ∧
        outside.initBackend replica = .ok ()) := by
  unfold startActor
  cases hstart : outside.startInstance replica with
  | error e => simp [run_bind, call, answer, Except.mapError, run_throw]
  | ok actor =>
    cases hinit : outside.initBackend replica with
    | error e => simp [run_bind, call, answer, Except.mapError, run_throw, run_pure, updateHandle,
        run_modify]
    | ok u =>
      simp only [run_bind, call, answer, Except.mapError, run_pure, updateHandle, run_modify]
      refine ⟨⟨actor, rfl⟩, trivial, ?_⟩
      intro h hh hstate
      refine ⟨(InstanceHandle.markReady { h with backendInstance := some actor }
        (some reservation.startupNode)).2, ?_, ?_⟩
      · rw [List.getElem?_modify_eq, List.getElem?_modify_eq, hh]
        rfl
      · simp [InstanceHandle.markReady, hstate]

/-- A deployment whose instances, those named in `ids`, are new and ready. -/
structure Up (n : ℕ) (plan : ParallelPlan π) (deployment : VllmDeployment π) (w : World π)
    (ids : List String) : Prop where
  plan : deployment.plan = plan
  listed : ∀ id, id ∈ deployment.instances.keys ↔ id ∈ ids
  ready : ∀ id ref, deployment.instances.get? id = some ref → n ≤ ref ∧
    ∃ h, w.heap[ref]? = some h ∧ h.instanceId = id ∧ h.ready = true ∧ h.state = .ready

theorem Up.refs {n : ℕ} {plan : ParallelPlan π} {deployment : VllmDeployment π} {w : World π}
    {ids : List String} (h : Up n plan deployment w ids) : ∀ ref ∈ deployment.refs, n ≤ ref := by
  intro ref href
  obtain ⟨id, hid⟩ := (Py.OrderedDict.mem_values_iff _).mp href
  exact (h.ready id ref hid).1

/-- One more ready instance, at the end of the heap. -/
theorem Up.set {n : ℕ} {plan : ParallelPlan π} {deployment : VllmDeployment π} {w w' : World π}
    {ids : List String} (h : Up n plan deployment w ids) (hn : n ≤ w.heap.length)
    (hsame : SameBelow w.heap.length w w') {id : String} {ref : ℕ} (href : w.heap.length ≤ ref)
    {handle : InstanceHandle} (hget : w'.heap[ref]? = some handle)
    (hid : handle.instanceId = id) (hready : handle.ready = true) (hstate : handle.state = .ready) :
    Up n plan { deployment with instances := deployment.instances.set id ref } w'
      (ids ++ [id]) := by
  refine ⟨h.plan, ?_, ?_⟩
  · intro id'
    rw [Py.OrderedDict.keys_set, List.mem_append, List.mem_singleton, ← h.listed id']
    split_ifs with hin
    · constructor
      · exact Or.inl
      · rintro (hid' | rfl)
        · exact hid'
        · exact hin
    · rw [List.mem_append, List.mem_singleton]
  · intro id' ref' hget'
    rw [Py.OrderedDict.get?_set] at hget'
    split_ifs at hget' with heq
    · obtain rfl := Option.some.inj hget'
      exact ⟨hn.trans href, handle, hget, hid.trans heq, hready, hstate⟩
    · obtain ⟨hle, h', hh', hrest⟩ := h.ready id' ref' hget'
      have hlt : ref' < w.heap.length := (List.getElem?_eq_some_iff.mp hh').1
      exact ⟨hle, h', (hsame.heap ref' hlt).trans hh', hrest⟩

/-- **One replica.**  The loop body goes through exactly when the replica starts; either way it
touches nothing older than the world it started from. -/
theorem startReplica_spec (plan : ParallelPlan π) (replicaGpus n replica : ℕ)
    {deployment : VllmDeployment π} {w : World π} {ids : List String}
    (hup : Up n plan deployment w ids) (hn : n ≤ w.heap.length) :
    match startReplica outside adapter plan replicaGpus deployment replica w with
    | .ok deployment' w' => ReplicaStarts outside adapter plan replica ∧
        SameBelow n w w' ∧ Up n plan deployment' w' (ids ++ [outside.instanceId replica])
    | .error (deployment', _) w' => ¬ ReplicaStarts outside adapter plan replica ∧
        SameBelow n w w' ∧ ∀ ref ∈ deployment'.refs, n ≤ ref := by
  unfold startReplica
  rw [run_bind]
  cases hnode : checkTargetNode outside plan replica with
  | error e =>
    refine ⟨?_, ⟨hn, fun _ _ => rfl, rfl, rfl⟩, hup.refs⟩
    intro hgood
    have := hgood.node
    rw [hnode] at this
    exact absurd this (by simp)
  | ok u =>
    simp only [answer, run_pure]
    have hkeep := keeps_reserve outside adapter w.heap.length plan replicaGpus replica w
      (le_refl _)
    have hiff := reserve_ok_iff outside adapter plan replicaGpus replica w
    cases hres : reserve outside adapter plan replicaGpus replica w with
    | error e w₁ =>
      rw [hres] at hkeep hiff
      refine ⟨?_, hkeep.mono hn, hup.refs⟩
      intro hgood
      obtain ⟨_, _, hok⟩ := hiff.mpr hgood.reserves
      exact absurd hok (by simp)
    | ok reservation w₁ =>
      rw [hres] at hkeep hiff
      have hreserves := hiff.mp ⟨_, _, rfl⟩
      replace hkeep : SameBelow w.heap.length w w₁ := hkeep
      dsimp only [newHandle]
      generalize hw₂ : ({ w₁ with heap := w₁.heap ++ [startingHandle outside adapter
        replicaGpus replica reservation] } : World π) = w₂
      have hnew : SameBelow w₁.heap.length w₁ w₂ := by
        rw [← hw₂]
        exact keeps_newHandle w₁.heap.length _ w₁ (le_refl _)
      have hget : w₂.heap[w₁.heap.length]? =
          some (startingHandle outside adapter replicaGpus replica reservation) := by
        rw [← hw₂]
        exact List.getElem?_concat_length
      have hact := keeps_startActor outside (le_refl w₁.heap.length) replica reservation w₂
        hnew.length
      have hspec := startActor_spec outside w₁.heap.length replica reservation w₂
      have hlen : w.heap.length ≤ w₁.heap.length := hkeep.length
      -- everything the turn touched lies past the heap it started from
      have hsame : ∀ w₃, SameBelow w₁.heap.length w₂ w₃ → SameBelow w.heap.length w w₃ :=
        fun w₃ h => hkeep.trans ((hnew.trans h).mono hlen)
      cases hstart : startActor outside w₁.heap.length replica reservation w₂ with
      | error e w₃ =>
        rw [hstart] at hact hspec
        refine ⟨fun hgood => hspec ⟨hgood.starts, hgood.inits⟩, (hsame w₃ hact).mono hn, ?_⟩
        intro ref href
        obtain ⟨id, hid⟩ := (Py.OrderedDict.mem_values_iff _).mp href
        rw [Py.OrderedDict.get?_set] at hid
        split_ifs at hid
        · obtain rfl := Option.some.inj hid
          exact hn.trans hlen
        · exact (hup.ready id ref hid).1
      | ok u w₃ =>
        rw [hstart] at hact hspec
        obtain ⟨hstarts, hinits, hready⟩ := hspec
        obtain ⟨h', hget', hid', hready', hstate'⟩ := hready _ hget rfl
        refine ⟨⟨hnode, hreserves, hstarts, hinits⟩, (hsame w₃ hact).mono hn, ?_⟩
        exact hup.set hn (hsame w₃ hact) hlen hget' hid' hready' hstate'

/-- **The replica loop.** -/
theorem replicaLoop_spec (plan : ParallelPlan π) (replicaGpus n : ℕ) (todo : List ℕ)
    {deployment : VllmDeployment π} {w : World π} {ids : List String}
    (hup : Up n plan deployment w ids) (hn : n ≤ w.heap.length) :
    match todo.foldlM (startReplica outside adapter plan replicaGpus) deployment w with
    | .ok deployment' w' => (∀ k ∈ todo, ReplicaStarts outside adapter plan k) ∧
        SameBelow n w w' ∧ Up n plan deployment' w' (ids ++ todo.map outside.instanceId)
    | .error (deployment', _) w' => ¬ (∀ k ∈ todo, ReplicaStarts outside adapter plan k) ∧
        SameBelow n w w' ∧ ∀ ref ∈ deployment'.refs, n ≤ ref := by
  induction todo generalizing deployment w ids with
  | nil =>
    refine ⟨by simp, ⟨hn, fun _ _ => rfl, rfl, rfl⟩, ?_⟩
    simpa using hup
  | cons replica rest ih =>
    have hstep := startReplica_spec outside adapter plan replicaGpus n replica hup hn
    rw [List.foldlM_cons, run_bind]
    cases hturn : startReplica outside adapter plan replicaGpus deployment replica w with
    | error failure w₁ =>
      obtain ⟨deployment₁, e⟩ := failure
      rw [hturn] at hstep
      obtain ⟨hbad, hsame, hrefs⟩ := hstep
      exact ⟨fun hall => hbad (hall replica List.mem_cons_self), hsame, hrefs⟩
    | ok deployment₁ w₁ =>
      rw [hturn] at hstep
      obtain ⟨hgood, hsame, hup₁⟩ := hstep
      have hrec := ih hup₁ hsame.length
      dsimp only
      cases hrest : rest.foldlM (startReplica outside adapter plan replicaGpus) deployment₁ w₁ with
      | ok deployment₂ w₂ =>
        rw [hrest] at hrec
        obtain ⟨hgood₂, hsame₂, hup₂⟩ := hrec
        refine ⟨?_, hsame.trans hsame₂, by simpa using hup₂⟩
        intro k hk
        rcases List.mem_cons.mp hk with rfl | hk
        · exact hgood
        · exact hgood₂ k hk
      | error failure w₂ =>
        obtain ⟨deployment₂, e⟩ := failure
        rw [hrest] at hrec
        obtain ⟨hbad, hsame₂, hrefs⟩ := hrec
        refine ⟨?_, hsame.trans hsame₂, hrefs⟩
        intro hall
        exact hbad fun k hk => hall k (List.mem_cons_of_mem _ hk)

/-- The ids of the instances that a plan starts. -/
def plannedIds (plan : ParallelPlan π) : List String :=
  (List.range (replicas plan)).map outside.instanceId

/-- The loop with its cleanup. -/
theorem startReplicas_spec (plan : ParallelPlan π) (replicaGpus : ℕ) (w : World π) :
    match startReplicas outside adapter plan replicaGpus w with
    | .ok target w' => (∀ k < replicas plan, ReplicaStarts outside adapter plan k) ∧
        SameBelow w.heap.length w w' ∧
        Up w.heap.length plan target w' (plannedIds outside plan)
    | .error _ w' => ¬ (∀ k < replicas plan, ReplicaStarts outside adapter plan k) ∧
        SameBelow w.heap.length w w' := by
  have hup : Up w.heap.length plan
      { plan, resourceRequirements := ⟨adapter.numCpus.toNat, replicaGpus⟩ } w [] :=
    ⟨rfl, fun id => by simp, fun id ref h => absurd h (by simp)⟩
  have hloop := replicaLoop_spec outside adapter plan replicaGpus w.heap.length
    (List.range (max plan.replicaCount 1)) hup (le_refl _)
  unfold startReplicas
  dsimp only
  cases hrun : (List.range (max plan.replicaCount 1)).foldlM
      (startReplica outside adapter plan replicaGpus)
      { plan, resourceRequirements := ⟨adapter.numCpus.toNat, replicaGpus⟩ } w with
  | ok target w₁ =>
    rw [hrun] at hloop
    obtain ⟨hgood, hsame, hup₁⟩ := hloop
    exact ⟨fun k hk => hgood k (List.mem_range.mpr hk), hsame, hup₁⟩
  | error failure w₁ =>
    obtain ⟨target, e⟩ := failure
    rw [hrun] at hloop
    obtain ⟨hbad, hsame, hrefs⟩ := hloop
    have hnot : ¬ (∀ k < replicas plan, ReplicaStarts outside adapter plan k) :=
      fun h => hbad fun k hk => h k (List.mem_range.mp hk)
    have hstop := keeps_stopWorkers outside hrefs w₁ hsame.length
    obtain ⟨e', hfail⟩ := run_onFailure_error
      (run_throw e w₁ : (throw e : Effect π (VllmDeployment π)) w₁ = .error e w₁)
      (stopWorkers outside target)
    simp only [hfail]
    exact ⟨hnot, hsame.trans hstop⟩

/-- **Creation.**  Whether or not the target could be created, nothing older changed. -/
theorem createWorkers_spec (plan : ParallelPlan π) (w : World π) :
    match createWorkers outside adapter plan w with
    | .ok target w' => Creates outside adapter plan ∧ SameBelow w.heap.length w w' ∧
        Up w.heap.length plan target w' (plannedIds outside plan)
    | .error _ w' => ¬ Creates outside adapter plan ∧ SameBelow w.heap.length w w' := by
  have hrefl : SameBelow w.heap.length w w := ⟨le_refl _, fun _ _ => rfl, rfl, rfl⟩
  unfold createWorkers
  by_cases hbackend : plan.backend = "vllm"
  · by_cases hmodel : plan.modelName = adapter.modelName
    · cases hgpus : replicaGpuCount plan with
      | error e =>
        simp only [hbackend, hmodel, ne_eq, not_true_eq_false, if_false, run_bind, answer,
          run_throw]
        refine ⟨fun h => ?_, hrefl⟩
        obtain ⟨g, hg⟩ := h.gpus
        rw [hgpus] at hg
        exact absurd hg (by simp)
      | ok replicaGpus =>
        have hloop := startReplicas_spec outside adapter plan replicaGpus w
        simp only [hbackend, hmodel, ne_eq, not_true_eq_false, if_false, run_bind, run_pure,
          answer]
        cases hrun : startReplicas outside adapter plan replicaGpus w with
        | ok target w₁ =>
          rw [hrun] at hloop
          exact ⟨⟨hbackend, hmodel, ⟨replicaGpus, hgpus⟩, hloop.1⟩, hloop.2⟩
        | error e w₁ =>
          rw [hrun] at hloop
          exact ⟨fun h => hloop.1 h.starts, hloop.2⟩
    · simp only [hbackend, hmodel, ne_eq, not_true_eq_false, not_false_eq_true, if_false, if_true,
        run_bind, run_throw]
      exact ⟨fun h => hmodel h.model, hrefl⟩
  · simp only [hbackend, ne_eq, not_false_eq_true, if_true, run_bind, run_throw]
    exact ⟨fun h => hbackend h.backend, hrefl⟩

/-! ## The checks -/

/-- The readiness check of a deployment that is up comes down to the probes. -/
theorem readyWorkers_of_up [DecidableEq π] {n : ℕ} {plan : ParallelPlan π}
    {target : VllmDeployment π} {w : World π} {ids : List String} (hup : Up n plan target w ids)
    (hids : ids ≠ []) :
    ∃ ready, readyWorkers outside target plan w = .ok ready w ∧
      (ready = true ↔ ∀ id ∈ ids, outside.runtimeMetadata id = .ok true) := by
  have hrefs : target.refs ≠ [] := by
    obtain ⟨id, rest, rfl⟩ := List.exists_cons_of_ne_nil hids
    obtain ⟨ref, href⟩ := (Py.OrderedDict.mem_keys_iff _).mp
      ((hup.listed id).mpr List.mem_cons_self)
    exact List.ne_nil_of_mem ((Py.OrderedDict.mem_values_iff _).mpr ⟨id, href⟩)
  refine ⟨target.refs.all fun ref => (w.heap[ref]?.map (handleReady outside)).getD false, ?_, ?_⟩
  · unfold readyWorkers
    have hgo : ¬ (target.plan ≠ plan ∨ target.refs = []) := by
      rintro (h | h)
      · exact h hup.plan
      · exact hrefs h
    simp only [run_bind, run_get, if_neg hgo, run_pure]
  · rw [List.all_eq_true]
    -- the probe of an instance is asked under its id
    have hprobe : ∀ id ref, target.instances.get? id = some ref →
        ((w.heap[ref]?.map (handleReady outside)).getD false = true ↔
          outside.runtimeMetadata id = .ok true) := by
      intro id ref hget
      obtain ⟨-, h, hh, hid, hready, hstate⟩ := hup.ready id ref hget
      simp only [hh, Option.map_some, Option.getD_some, handleReady, hready, hstate, hid,
        decide_true, Bool.true_and]
      cases outside.runtimeMetadata id <;> simp
    constructor
    · intro hall id hid
      obtain ⟨ref, href⟩ := (Py.OrderedDict.mem_keys_iff _).mp ((hup.listed id).mpr hid)
      exact (hprobe id ref href).mp
        (hall ref ((Py.OrderedDict.mem_values_iff _).mpr ⟨id, href⟩))
    · intro hall ref href
      obtain ⟨id, hid⟩ := (Py.OrderedDict.mem_values_iff _).mp href
      exact (hprobe id ref hid).mpr
        (hall id ((hup.listed id).mp ((Py.OrderedDict.mem_keys_iff _).mpr ⟨ref, hid⟩)))

theorem checkTarget_spec [DecidableEq π] {n : ℕ} {plan : ParallelPlan π}
    {target : VllmDeployment π} {w : World π} {ids : List String} (hup : Up n plan target w ids)
    (hids : ids ≠ []) :
    match checkTarget outside target plan w with
    | .ok _ w' => ((∀ id ∈ ids, outside.runtimeMetadata id = .ok true) ∧
        (outside.verifyRuntime = none ∨ outside.verifyRuntime = some (.ok true))) ∧ w' = w
    | .error _ w' => ¬ ((∀ id ∈ ids, outside.runtimeMetadata id = .ok true) ∧
        (outside.verifyRuntime = none ∨ outside.verifyRuntime = some (.ok true))) ∧ w' = w := by
  obtain ⟨ready, hrun, hiff⟩ := readyWorkers_of_up outside hup hids
  unfold checkTarget
  simp only [run_bind, hrun]
  cases ready with
  | false =>
    simp only [Bool.not_false, if_true]
    exact ⟨fun h => absurd (hiff.mpr h.1) (by simp), rfl⟩
  | true =>
    have hprobes := hiff.mp rfl
    cases hver : outside.verifyRuntime with
    | none =>
      simp only [Bool.not_true, Bool.false_eq_true, if_false, run_pure]
      exact ⟨⟨hprobes, Or.inl trivial⟩, trivial⟩
    | some result =>
      cases result with
      | error e =>
        simp only [Bool.not_true, Bool.false_eq_true, if_false, run_bind, call, answer,
          Except.mapError, run_throw]
        exact ⟨fun h => by simp at h, trivial⟩
      | ok verified =>
        cases verified with
        | false =>
          simp only [Bool.not_true, Bool.not_false, Bool.false_eq_true, if_false, if_true,
            run_pure, run_bind, call, answer, Except.mapError, run_throw]
          exact ⟨fun h => by simp at h, trivial⟩
        | true =>
          simp only [Bool.not_true, Bool.false_eq_true, if_false, run_pure, run_bind, call, answer,
            Except.mapError]
          exact ⟨⟨hprobes, Or.inr trivial⟩, trivial⟩

/-- **Bringing a target up.**  It succeeds exactly with the answers of `TargetComesUp`; nothing
older than the target is touched, and a target that came up consists of new handles. -/
theorem bringUpTarget_spec [DecidableEq π] (plan : ParallelPlan π) (w : World π) :
    match bringUpTarget outside adapter plan w with
    | .ok target w' => TargetComesUp outside adapter plan ∧ SameBelow w.heap.length w w' ∧
        ∀ ref ∈ target.refs, w.heap.length ≤ ref
    | .error _ w' => ¬ TargetComesUp outside adapter plan ∧ SameBelow w.heap.length w w' := by
  have hcreate := createWorkers_spec outside adapter plan w
  unfold bringUpTarget
  cases hrun : createWorkers outside adapter plan w with
  | error e w₁ =>
    rw [hrun] at hcreate
    obtain ⟨e', hfail⟩ := run_onFailure_error hrun (setStatus .targetCreateFailed)
    rw [run_bind, hfail]
    refine ⟨fun h => hcreate.1 h.toCreates, hcreate.2.trans ?_⟩
    exact keeps_recordTransition w.heap.length _ w₁ hcreate.2.length
  | ok target w₁ =>
    rw [hrun] at hcreate
    obtain ⟨hcreates, hsame, hup⟩ := hcreate
    have hids : plannedIds outside plan ≠ [] := by
      intro h
      have hlen := congrArg List.length h
      rw [plannedIds, List.length_map, List.length_range, replicas] at hlen
      have := plan.replicaCount_pos
      simp only [List.length_nil] at hlen
      omega
    have hcheck := checkTarget_spec outside hup hids
    rw [run_bind, run_onFailure_ok hrun]
    dsimp only
    cases hchk : checkTarget outside target plan w₁ with
    | ok u w₂ =>
      rw [hchk] at hcheck
      obtain ⟨⟨hprobes, hruntime⟩, rfl⟩ := hcheck
      rw [run_bind, run_onFailure_ok hchk]
      refine ⟨⟨hcreates, fun replica hlt => ?_, hruntime⟩, hsame, hup.refs⟩
      exact hprobes _ (List.mem_map.mpr ⟨replica, List.mem_range.mpr hlt, rfl⟩)
    | error e w₂ =>
      rw [hchk] at hcheck
      obtain ⟨hbad, rfl⟩ := hcheck
      have hclean : Keeps (Frame w.heap.length) (do
          stopWorkers outside target
          setStatus .targetNotReady : Effect π Unit) :=
        Keeps.bind (keeps_stopWorkers outside hup.refs) fun _ => keeps_recordTransition _ _
      obtain ⟨e', hfail⟩ := run_onFailure_error hchk (do
        stopWorkers outside target
        setStatus .targetNotReady)
      rw [run_bind, hfail]
      refine ⟨?_, hsame.trans (hclean w₂ hsame.length)⟩
      intro h
      refine hbad ⟨fun id hid => ?_, h.runtime⟩
      obtain ⟨replica, hlt, rfl⟩ := List.mem_map.mp hid
      exact h.probes replica (List.mem_range.mp hlt)

end Steps

end Reparallelization
end SpotServe
