import SpotServe.Reparallelization.BringUp

/-!
# The reservations of `create_workers`, on record

`Deployment` keeps the reservations of the scheduler as they are after each call.  Whether each one
was given back exactly once is a question about the calls, so they are recorded here: the instance
ids that the scheduler has reserved resources for, and those that `deallocate_resource` was called
with.

* `createWorkersRecorded_erases`: forgetting the record gives `createWorkers`.
* `startReplicaRecorded_spec`: what one replica leaves on record.
* `createWorkers_settles_iff`: the reservations are settled unless the scheduler answers a
  distributed allocation with something that cannot be used.  It has been made then, but the
  replica is not yet in the deployment that the cleanup goes through.
-/

namespace SpotServe
namespace Reparallelization

open Cluster Coroutine

/-- The world, and the calls to the scheduler. -/
structure RecordedWorld (π : Type) where
  world : World π
  /-- The instances that resources were reserved for. -/
  reserved : List String := []
  /-- The instances that were passed to `deallocate_resource`. -/
  deallocated : List String := []

/-- A coroutine over the world on record. -/
abbrev RecordedEffect (π : Type) := EStateM Failure (RecordedWorld π)

section Recorded

variable {π : Type} {ε α : Type}

/-- A step with nothing to record. -/
def unrecorded (x : EStateM ε (World π) α) : EStateM ε (RecordedWorld π) α := fun l =>
  match x l.world with
  | .ok a w => .ok a { l with world := w }
  | .error e w => .error e { l with world := w }

theorem unrecorded_erases (x : EStateM ε (World π) α) :
    Erases RecordedWorld.world (unrecorded x) x := by
  intro l
  unfold unrecorded
  cases x l.world with
  | ok a w => rfl
  | error e w => rfl

variable (outside : Outside) (adapter : VllmDeploymentAdapter)

/-- The loop body of `stop_workers`: it calls `deallocate_resource` once, whatever comes of it. -/
def stopWorkerRecorded (item : String × ℕ) : RecordedEffect π Unit := do
  unrecorded (stopWorker outside item)
  modify fun l => { l with deallocated := l.deallocated ++ [item.1] }

/-- `stop_workers`. -/
def stopWorkersRecorded (deployment : VllmDeployment π) : RecordedEffect π Unit :=
  deployment.instances.entries.forM (stopWorkerRecorded outside)

/-- Reserving resources for one replica. -/
def reserveRecorded (plan : ParallelPlan π) (replicaGpus replica : ℕ) :
    RecordedEffect π Reservation := do
  let reserved : RecordedEffect π Unit := modify fun l =>
    { l with
      world := { l.world with reservations := outside.instanceId replica :: l.world.reservations }
      reserved := l.reserved ++ [outside.instanceId replica] }
  if distributedAllocation adapter plan then
    match outside.allocateDistributedResource with
    | none => throw .distributedAllocationUnavailable
    | some allocateDistributed => do
      let result ← unrecorded (call (allocateDistributed replica))
      reserved
      match result with
      | none => throw .distributedAllocationResultInvalid
      | some allocation => Coroutine.answer allocation.reservation
  else do
    let node ← unrecorded (call (outside.allocateResource replica))
    reserved
    pure ⟨node, [node], Py.OrderedDict.empty.set node replicaGpus⟩

/-- The loop body of `create_workers`. -/
def startReplicaRecorded (plan : ParallelPlan π) (replicaGpus : ℕ) (deployment : VllmDeployment π)
    (replica : ℕ) :
    EStateM (VllmDeployment π × Failure) (RecordedWorld π) (VllmDeployment π) := fun l =>
  match (do
      Coroutine.answer (checkTargetNode outside plan replica)
      reserveRecorded outside adapter plan replicaGpus replica :
        RecordedEffect π Reservation) l with
  | .error e l => .error (deployment, e) l
  | .ok reservation l =>
    match unrecorded (newHandle (startingHandle outside adapter replicaGpus replica reservation) :
        Effect π ℕ) l with
    | .error e l => .error (deployment, e) l
    | .ok ref l =>
      let deployment :=
        { deployment with
          instances := deployment.instances.set (outside.instanceId replica) ref }
      match unrecorded (startActor outside ref replica reservation) l with
      | .error e l => .error (deployment, e) l
      | .ok _ l => .ok deployment l

/-- The replica loop of `create_workers`. -/
def startReplicasRecorded (plan : ParallelPlan π) (replicaGpus : ℕ) :
    RecordedEffect π (VllmDeployment π) := fun l =>
  let deployment : VllmDeployment π :=
    { plan, resourceRequirements := ⟨adapter.numCpus.toNat, replicaGpus⟩ }
  match (List.range (max plan.replicaCount 1)).foldlM
      (startReplicaRecorded outside adapter plan replicaGpus) deployment l with
  | .ok deployment l => .ok deployment l
  | .error (deployment, e) l =>
    Coroutine.onFailure (throw e) (stopWorkersRecorded outside deployment) l

/-- `create_workers`. -/
def createWorkersRecorded (plan : ParallelPlan π) : RecordedEffect π (VllmDeployment π) := do
  if plan.backend ≠ "vllm" then throw (.backendNotSupported plan.backend)
  if plan.modelName ≠ adapter.modelName then
    throw (.planModelMismatch plan.modelName adapter.modelName)
  let replicaGpus ← Coroutine.answer (replicaGpuCount plan)
  startReplicasRecorded outside adapter plan replicaGpus

/-! ## Forgetting the record -/

theorem stopWorkerRecorded_erases (item : String × ℕ) :
    Erases (RecordedWorld.world (π := π)) (stopWorkerRecorded outside item)
      (stopWorker outside item) := by
  intro l
  have h := unrecorded_erases (stopWorker outside item) l
  unfold stopWorkerRecorded
  rw [run_bind, ← h]
  cases unrecorded (stopWorker outside item) l with
  | ok u l' => rfl
  | error e l' => rfl

theorem stopWorkersRecorded_erases (deployment : VllmDeployment π) :
    Erases RecordedWorld.world (stopWorkersRecorded outside deployment)
      (stopWorkers outside deployment) :=
  Erases.forM fun item _ => stopWorkerRecorded_erases outside item

theorem reserveRecorded_erases (plan : ParallelPlan π) (replicaGpus replica : ℕ) :
    Erases RecordedWorld.world (reserveRecorded outside adapter plan replicaGpus replica)
      (reserve outside adapter plan replicaGpus replica) := by
  unfold reserveRecorded reserve
  split_ifs with hdist
  · cases outside.allocateDistributedResource with
    | none => exact Erases.throw _
    | some allocateDistributed =>
      refine Erases.bind (unrecorded_erases _) fun result => ?_
      refine Erases.bind (Erases.modify fun _ => rfl) fun _ => ?_
      cases result with
      | none => exact Erases.throw _
      | some allocation => exact Erases.answer _
  · refine Erases.bind (unrecorded_erases _) fun node => ?_
    exact Erases.bind (Erases.modify fun _ => rfl) fun _ => Erases.pure _

theorem startReplicaRecorded_erases (plan : ParallelPlan π) (replicaGpus : ℕ)
    (deployment : VllmDeployment π) (replica : ℕ) :
    Erases RecordedWorld.world
      (startReplicaRecorded outside adapter plan replicaGpus deployment replica)
      (startReplica outside adapter plan replicaGpus deployment replica) := by
  intro l
  have hreserve := (Erases.answer (f := RecordedWorld.world (π := π))
    (checkTargetNode outside plan replica)).bind
      (fun _ => reserveRecorded_erases outside adapter plan replicaGpus replica) l
  unfold startReplicaRecorded startReplica
  rw [← hreserve]
  cases ((do
      Coroutine.answer (checkTargetNode outside plan replica)
      reserveRecorded outside adapter plan replicaGpus replica : RecordedEffect π Reservation)
      l) with
  | error e l₁ => rfl
  | ok reservation l₁ =>
    have hactor := unrecorded_erases (startActor outside l₁.world.heap.length replica reservation)
      { l₁ with world := { l₁.world with heap := l₁.world.heap ++
        [startingHandle outside adapter replicaGpus replica reservation] } }
    simp only [mapState, newHandle, unrecorded] at hactor ⊢
    rw [← hactor]
    cases startActor outside l₁.world.heap.length replica reservation
      { l₁.world with heap := l₁.world.heap ++
        [startingHandle outside adapter replicaGpus replica reservation] } with
    | ok u w => rfl
    | error e w => rfl

/-- **Forgetting the record.** -/
theorem createWorkersRecorded_erases (plan : ParallelPlan π) :
    Erases RecordedWorld.world (createWorkersRecorded outside adapter plan)
      (createWorkers outside adapter plan) := by
  have hreplicas : ∀ replicaGpus, Erases RecordedWorld.world
      (startReplicasRecorded outside adapter plan replicaGpus)
      (startReplicas outside adapter plan replicaGpus) := by
    intro replicaGpus l
    have hloop := Erases.foldlM (l := List.range (max plan.replicaCount 1))
      (fun deployment replica =>
        startReplicaRecorded_erases outside adapter plan replicaGpus deployment replica)
      { plan, resourceRequirements := ⟨adapter.numCpus.toNat, replicaGpus⟩ } l
    unfold startReplicasRecorded startReplicas
    dsimp only
    rw [← hloop]
    cases (List.range (max plan.replicaCount 1)).foldlM
        (startReplicaRecorded outside adapter plan replicaGpus)
        { plan, resourceRequirements := ⟨adapter.numCpus.toNat, replicaGpus⟩ } l with
    | ok deployment l' => rfl
    | error failure l' =>
      obtain ⟨deployment, e⟩ := failure
      exact (Erases.throw e).onFailure (stopWorkersRecorded_erases outside deployment) l'
  unfold createWorkersRecorded createWorkers
  by_cases hbackend : plan.backend ≠ "vllm"
  · rw [if_pos hbackend, if_pos hbackend]
    exact fun _ => rfl
  · by_cases hmodel : plan.modelName ≠ adapter.modelName
    · rw [if_neg hbackend, if_neg hbackend, if_pos hmodel, if_pos hmodel]
      exact fun _ => rfl
    · rw [if_neg hbackend, if_neg hbackend, if_neg hmodel, if_neg hmodel]
      exact (Erases.answer _).bind hreplicas

/-! ## What a run records -/

/-- The scheduler reserves resources for a replica, and nobody keeps track of it: the result of the
distributed allocation is no mapping, or it lacks the node or the target nodes, or a value of it
cannot be read. -/
structure Orphans (plan : ParallelPlan π) (replica : ℕ) : Prop where
  node : checkTargetNode outside plan replica = .ok ()
  distributed : distributedAllocation adapter plan = true
  unusable : ∃ allocate result, outside.allocateDistributedResource = some allocate ∧
    allocate replica = .ok result ∧
    ∀ allocation, result = some allocation → ¬ allocation.Usable

variable {outside adapter}

section Distributed

variable {plan : ParallelPlan π} {replica : ℕ}
  {allocate : ℕ → Except String (Option DistributedAllocation)}

/-- What the distributed allocation answers when it reserves. -/
theorem reserves_iff (hdist : distributedAllocation adapter plan = true)
    (hallocate : outside.allocateDistributedResource = some allocate) :
    Reserves outside adapter plan replica ↔
      ∃ allocation, allocate replica = .ok (some allocation) ∧ allocation.Usable := by
  rw [Reserves, if_pos hdist]
  constructor
  · rintro ⟨allocate', allocation, hallocate', hanswer⟩
    obtain rfl := Option.some.inj (hallocate.symm.trans hallocate')
    exact ⟨allocation, hanswer⟩
  · rintro ⟨allocation, hanswer⟩
    exact ⟨allocate, allocation, hallocate, hanswer⟩

/-- What it answers when nobody keeps track of the reservation. -/
theorem orphans_iff (hnode : checkTargetNode outside plan replica = .ok ())
    (hdist : distributedAllocation adapter plan = true)
    (hallocate : outside.allocateDistributedResource = some allocate) :
    Orphans outside adapter plan replica ↔ ∃ result, allocate replica = .ok result ∧
      ∀ allocation, result = some allocation → ¬ allocation.Usable := by
  constructor
  · rintro ⟨-, -, allocate', result, hallocate', hanswer⟩
    obtain rfl := Option.some.inj (hallocate.symm.trans hallocate')
    exact ⟨result, hanswer⟩
  · rintro ⟨result, hanswer⟩
    exact ⟨hnode, hdist, allocate, result, hallocate, hanswer⟩

theorem Orphans.not_starts (h : Orphans outside adapter plan replica) :
    ¬ ReplicaStarts outside adapter plan replica := by
  intro hstarts
  obtain ⟨allocate, result, hallocate, hresult, hbad⟩ := h.unusable
  obtain ⟨allocation, hok, husable⟩ := (reserves_iff h.distributed hallocate).mp hstarts.reserves
  exact hbad allocation (Except.ok.inj (hresult.symm.trans hok)) husable

end Distributed

variable (outside adapter)

/-- What reserving records. -/
theorem reserveRecorded_spec (plan : ParallelPlan π) (replicaGpus replica : ℕ)
    (hnode : checkTargetNode outside plan replica = .ok ()) (l : RecordedWorld π) :
    match reserveRecorded outside adapter plan replicaGpus replica l with
    | .ok _ l' => Reserves outside adapter plan replica ∧ ¬ Orphans outside adapter plan replica ∧
        l'.reserved = l.reserved ++ [outside.instanceId replica] ∧ l'.deallocated = l.deallocated
    | .error _ l' => ¬ Reserves outside adapter plan replica ∧ l'.deallocated = l.deallocated ∧
        (Orphans outside adapter plan replica ∧
            l'.reserved = l.reserved ++ [outside.instanceId replica] ∨
          ¬ Orphans outside adapter plan replica ∧ l'.reserved = l.reserved) := by
  unfold reserveRecorded
  by_cases hdist : distributedAllocation adapter plan = true
  · rw [if_pos hdist]
    cases hallocate : outside.allocateDistributedResource with
    | none =>
      refine ⟨?_, rfl, Or.inr ⟨?_, rfl⟩⟩
      · rw [Reserves, if_pos hdist, hallocate]
        simp
      · rintro ⟨-, -, allocate, result, hallocate', -⟩
        exact absurd (hallocate.symm.trans hallocate') (by simp)
    | some allocate =>
      simp only [reserves_iff hdist hallocate, orphans_iff hnode hdist hallocate]
      cases allocate replica with
      | error e =>
        simp only [run_bind, unrecorded, call, answer, Except.mapError, run_throw]
        exact ⟨by simp, trivial, Or.inr ⟨by simp, trivial⟩⟩
      | ok result =>
        simp only [run_bind, unrecorded, call, answer, Except.mapError, run_pure,
          run_modify]
        cases result with
        | none => exact ⟨by simp, rfl, Or.inl ⟨⟨none, rfl, by simp⟩, rfl⟩⟩
        | some allocation =>
          dsimp only
          cases hreservation : allocation.reservation with
          | error e =>
            have hbad : ¬ allocation.Usable := by
              rw [← reservation_ok_iff, hreservation]
              simp
            exact ⟨by simpa using hbad, rfl, Or.inl ⟨⟨_, rfl, by simpa using hbad⟩, rfl⟩⟩
          | ok reservation =>
            have husable : allocation.Usable := reservation_ok_iff.mp ⟨reservation, hreservation⟩
            exact ⟨⟨allocation, rfl, husable⟩, by simpa using husable, rfl, rfl⟩
  · have hsound : ¬ Orphans outside adapter plan replica := fun h => hdist h.distributed
    rw [if_neg hdist, Reserves, if_neg hdist]
    cases outside.allocateResource replica with
    | error e =>
      simp only [run_bind, unrecorded, call, answer, Except.mapError, run_throw]
      exact ⟨by simp, trivial, Or.inr ⟨hsound, trivial⟩⟩
    | ok node =>
      simp only [run_bind, unrecorded, call, answer, Except.mapError, run_pure, run_modify]
      exact ⟨⟨node, rfl⟩, hsound, trivial, trivial⟩

/-- A new instance, and what it adds to the keys. -/
theorem keys_set_new {deployment : VllmDeployment π} {id : String} (ref : ℕ)
    (hnew : id ∉ deployment.instances.keys) :
    (deployment.instances.set id ref).keys = deployment.instances.keys ++ [id] := by
  rw [Py.OrderedDict.keys_set, if_neg hnew]

/-- **One replica on record.**  It is in the deployment from its reservation on, unless it orphans
the reservation. -/
theorem startReplicaRecorded_spec (plan : ParallelPlan π) (replicaGpus replica : ℕ)
    {deployment : VllmDeployment π} {l : RecordedWorld π}
    (hkeys : l.reserved = deployment.instances.keys)
    (hnew : outside.instanceId replica ∉ deployment.instances.keys) :
    match startReplicaRecorded outside adapter plan replicaGpus deployment replica l with
    | .ok deployment' l' => ReplicaStarts outside adapter plan replica ∧
        l'.deallocated = l.deallocated ∧ l'.reserved = deployment'.instances.keys ∧
        deployment'.instances.keys = deployment.instances.keys ++ [outside.instanceId replica]
    | .error (deployment', _) l' => ¬ ReplicaStarts outside adapter plan replica ∧
        l'.deallocated = l.deallocated ∧
        (Orphans outside adapter plan replica ∧
            l'.reserved = deployment'.instances.keys ++ [outside.instanceId replica] ∧
            outside.instanceId replica ∉ deployment'.instances.keys ∨
          ¬ Orphans outside adapter plan replica ∧
            l'.reserved = deployment'.instances.keys) := by
  unfold startReplicaRecorded
  rw [run_bind]
  cases hnode : checkTargetNode outside plan replica with
  | error e =>
    refine ⟨fun h => ?_, rfl, Or.inr ⟨fun h => ?_, hkeys⟩⟩
    · exact absurd (hnode.symm.trans h.node) (by simp)
    · exact absurd (hnode.symm.trans h.node) (by simp)
  | ok u =>
    simp only [answer, run_pure]
    have hspec := reserveRecorded_spec outside adapter plan replicaGpus replica hnode l
    cases hreserve : reserveRecorded outside adapter plan replicaGpus replica l with
    | error e l₁ =>
      rw [hreserve] at hspec
      obtain ⟨hbad, hsame, hcases⟩ := hspec
      refine ⟨fun h => hbad h.reserves, hsame, ?_⟩
      rw [hkeys] at hcases
      rcases hcases with ⟨horphans, heq⟩ | ⟨hsound, heq⟩
      · exact Or.inl ⟨horphans, heq, hnew⟩
      · exact Or.inr ⟨hsound, heq⟩
    | ok reservation l₁ =>
      rw [hreserve] at hspec
      obtain ⟨hreserves, hsound, heq, hsame⟩ := hspec
      have hkeys' := keys_set_new l₁.world.heap.length hnew
      rw [hkeys] at heq
      have hactor := startActor_spec outside l₁.world.heap.length replica reservation
        { l₁.world with heap := l₁.world.heap ++
          [startingHandle outside adapter replicaGpus replica reservation] }
      simp only [unrecorded, newHandle]
      cases hstart : startActor outside l₁.world.heap.length replica reservation
          { l₁.world with heap := l₁.world.heap ++
            [startingHandle outside adapter replicaGpus replica reservation] } with
      | error e w =>
        rw [hstart] at hactor
        exact ⟨fun h => hactor ⟨h.starts, h.inits⟩, hsame,
          Or.inr ⟨hsound, heq.trans hkeys'.symm⟩⟩
      | ok u w =>
        rw [hstart] at hactor
        obtain ⟨hstarts, hinits, -⟩ := hactor
        exact ⟨⟨hnode, hreserves, hstarts, hinits⟩, hsame, heq.trans hkeys'.symm, hkeys'⟩

variable {outside}

/-- **The replica loop on record**, from replica `first` on. -/
theorem replicaLoopRecorded_spec (hids : Function.Injective outside.instanceId)
    (plan : ParallelPlan π) (replicaGpus first count : ℕ) {deployment : VllmDeployment π}
    {l : RecordedWorld π} (hreserved : l.reserved = deployment.instances.keys)
    (hkeys : deployment.instances.keys = (List.range first).map outside.instanceId) :
    match (List.range' first count).foldlM
        (startReplicaRecorded outside adapter plan replicaGpus) deployment l with
    | .ok deployment' l' =>
        (∀ k, first ≤ k → k < first + count → ReplicaStarts outside adapter plan k) ∧
        l'.deallocated = l.deallocated ∧ l'.reserved = deployment'.instances.keys
    | .error (deployment', _) l' => ∃ k, first ≤ k ∧ k < first + count ∧
        (∀ k', first ≤ k' → k' < k → ReplicaStarts outside adapter plan k') ∧
        ¬ ReplicaStarts outside adapter plan k ∧ l'.deallocated = l.deallocated ∧
        (Orphans outside adapter plan k ∧
            l'.reserved = deployment'.instances.keys ++ [outside.instanceId k] ∧
            outside.instanceId k ∉ deployment'.instances.keys ∨
          ¬ Orphans outside adapter plan k ∧ l'.reserved = deployment'.instances.keys) := by
  induction count generalizing first deployment l with
  | zero =>
    refine ⟨fun k hlo hhi => ?_, rfl, hreserved⟩
    omega
  | succ count ih =>
    have hnew : outside.instanceId first ∉ deployment.instances.keys := by
      rw [hkeys, List.mem_map]
      rintro ⟨k, hk, heq⟩
      have hlt := List.mem_range.mp hk
      have := hids heq
      omega
    have hstep := startReplicaRecorded_spec outside adapter plan replicaGpus first hreserved hnew
    rw [List.range'_succ, List.foldlM_cons, run_bind]
    cases hturn : startReplicaRecorded outside adapter plan replicaGpus deployment first l with
    | error failure l₁ =>
      obtain ⟨deployment₁, e⟩ := failure
      rw [hturn] at hstep
      obtain ⟨hbad, hsame, hcases⟩ := hstep
      exact ⟨first, le_rfl, by omega, fun k' hlo hhi => by omega, hbad, hsame, hcases⟩
    | ok deployment₁ l₁ =>
      rw [hturn] at hstep
      obtain ⟨hgood, hsame, hreserved₁, hkeys₁⟩ := hstep
      have hall : ∀ {m}, (∀ k, first + 1 ≤ k → k < m → ReplicaStarts outside adapter plan k) →
          ∀ k, first ≤ k → k < m → ReplicaStarts outside adapter plan k := by
        intro m h k hlo hhi
        rcases Nat.eq_or_lt_of_le hlo with rfl | hlt
        · exact hgood
        · exact h k hlt hhi
      have hrec := ih (first + 1) hreserved₁ (by rw [hkeys₁, hkeys, List.range_succ]; simp)
      dsimp only
      cases hrest : (List.range' (first + 1) count).foldlM
          (startReplicaRecorded outside adapter plan replicaGpus) deployment₁ l₁ with
      | ok deployment₂ l₂ =>
        rw [hrest] at hrec
        obtain ⟨hgood₂, hsame₂, hreserved₂⟩ := hrec
        refine ⟨hall fun k hlo hhi => hgood₂ k hlo (by omega), hsame₂.trans hsame, hreserved₂⟩
      | error failure l₂ =>
        obtain ⟨deployment₂, e⟩ := failure
        rw [hrest] at hrec
        obtain ⟨k, hlo, hhi, hbefore, hbad, hsame₂, hcases⟩ := hrec
        exact ⟨k, by omega, by omega, hall hbefore, hbad, hsame₂.trans hsame, hcases⟩

variable (outside)

theorem stopEntriesRecorded_spec (entries : List (String × ℕ)) (l : RecordedWorld π) :
    ∃ l', entries.forM (stopWorkerRecorded outside) l = .ok () l' ∧ l'.reserved = l.reserved ∧
      l'.deallocated = l.deallocated ++ entries.map Prod.fst := by
  induction entries generalizing l with
  | nil => exact ⟨l, rfl, rfl, (List.append_nil _).symm⟩
  | cons item entries ih =>
    obtain ⟨l₁, hitem, hreserved, hdeallocated⟩ : ∃ l₁, stopWorkerRecorded outside item l =
        .ok () l₁ ∧ l₁.reserved = l.reserved ∧ l₁.deallocated = l.deallocated ++ [item.1] :=
      ⟨_, rfl, rfl, rfl⟩
    obtain ⟨l', hrest, hreserved', hdeallocated'⟩ := ih l₁
    refine ⟨l', ?_, hreserved'.trans hreserved, ?_⟩
    · show (stopWorkerRecorded outside item >>= fun _ =>
        entries.forM (stopWorkerRecorded outside)) l = _
      rw [run_bind, hitem]
      exact hrest
    · rw [hdeallocated', hdeallocated, List.map_cons, List.append_assoc]
      rfl

/-- The cleanup passes every instance of the deployment to `deallocate_resource`. -/
theorem stopWorkersRecorded_spec (deployment : VllmDeployment π) (l : RecordedWorld π) :
    ∃ l', stopWorkersRecorded outside deployment l = .ok () l' ∧ l'.reserved = l.reserved ∧
      l'.deallocated = l.deallocated ++ deployment.instances.keys :=
  stopEntriesRecorded_spec outside deployment.instances.entries l

/-! ## When the reservations are settled -/

/-- After `create_workers`: the reservations are those of the deployment, or each of them was
passed to `deallocate_resource` once. -/
def Settled (result : EStateM.Result Failure (RecordedWorld π) (VllmDeployment π)) : Prop :=
  match result with
  | .ok deployment l => l.reserved = deployment.instances.keys ∧ l.deallocated = []
  | .error _ l => ∀ id ∈ l.reserved, l.deallocated.count id = 1

/-- `create_workers` takes the plan. -/
structure TakesPlan (plan : ParallelPlan π) : Prop where
  backend : plan.backend = "vllm"
  model : plan.modelName = adapter.modelName
  gpus : ∃ replicaGpus, replicaGpuCount plan = .ok replicaGpus

/-- A replica, all replicas before which were started, orphans its reservation. -/
def Leaks (plan : ParallelPlan π) : Prop :=
  TakesPlan adapter plan ∧ ∃ k < replicas plan,
    (∀ k' < k, ReplicaStarts outside adapter plan k') ∧ Orphans outside adapter plan k

variable {outside}

theorem startReplicasRecorded_settled_iff (hids : Function.Injective outside.instanceId)
    (plan : ParallelPlan π) (replicaGpus : ℕ) (w : World π) :
    Settled (startReplicasRecorded outside adapter plan replicaGpus ⟨w, [], []⟩) ↔
      ¬ ∃ k < replicas plan, (∀ k' < k, ReplicaStarts outside adapter plan k') ∧
        Orphans outside adapter plan k := by
  have hempty : (⟨w, [], []⟩ : RecordedWorld π).reserved = (VllmDeployment.instances
      { plan, resourceRequirements := ⟨adapter.numCpus.toNat, replicaGpus⟩ }).keys := rfl
  have hloop := replicaLoopRecorded_spec adapter hids plan replicaGpus 0 (replicas plan) hempty rfl
  rw [← List.range_eq_range', Nat.zero_add] at hloop
  unfold startReplicasRecorded
  dsimp only
  cases hrun : (List.range (replicas plan)).foldlM
      (startReplicaRecorded outside adapter plan replicaGpus)
      { plan, resourceRequirements := ⟨adapter.numCpus.toNat, replicaGpus⟩ }
      (⟨w, [], []⟩ : RecordedWorld π) with
  | ok deployment l =>
    rw [hrun] at hloop
    obtain ⟨hgood, hdeallocated, hreserved⟩ := hloop
    rw [show max plan.replicaCount 1 = replicas plan from rfl, hrun]
    refine iff_of_true ⟨hreserved, hdeallocated⟩ ?_
    rintro ⟨k, hk, -, horphans⟩
    exact horphans.not_starts (hgood k (Nat.zero_le k) hk)
  | error failure l =>
    obtain ⟨deployment, e⟩ := failure
    rw [hrun] at hloop
    obtain ⟨k, -, hk, hbefore, hbad, hdeallocated, hcases⟩ := hloop
    obtain ⟨l', hstop, hreserved', hdeallocated'⟩ := stopWorkersRecorded_spec outside deployment l
    rw [show max plan.replicaCount 1 = replicas plan from rfl, hrun]
    dsimp only
    have hresult : onFailure (throw e : RecordedEffect π (VllmDeployment π))
        (stopWorkersRecorded outside deployment) l = .error e l' := by
      simp only [onFailure, run_throw, hstop]
    rw [hresult, Settled, hreserved', hdeallocated', hdeallocated, List.nil_append]
    have hnodup : deployment.instances.keys.Nodup := deployment.instances.nodup
    rcases hcases with ⟨horphans, hreserved, hnew⟩ | ⟨hsound, hreserved⟩
    · -- the reservation of this replica is in no deployment
      refine iff_of_false (fun h => ?_)
        (not_not.mpr ⟨k, hk, fun k' => hbefore k' (Nat.zero_le k'), horphans⟩)
      have hcount := h (outside.instanceId k) (by rw [hreserved]; simp)
      rw [List.count_eq_zero.mpr hnew] at hcount
      exact absurd hcount (by decide)
    · refine iff_of_true (fun id hid => ?_) ?_
      · rw [hreserved] at hid
        exact List.count_eq_one_of_mem hnodup hid
      · rintro ⟨k', -, hbefore', horphans⟩
        rcases Nat.lt_trichotomy k' k with hlt | rfl | hlt
        · exact horphans.not_starts (hbefore k' (Nat.zero_le k') hlt)
        · exact hsound horphans
        · exact hbad (hbefore' k hlt)

/-- **The reservations of `create_workers`** are settled, unless a replica that is reached gets a
distributed allocation that cannot be used. -/
theorem createWorkers_settles_iff (hids : Function.Injective outside.instanceId)
    (plan : ParallelPlan π) (w : World π) :
    Settled (createWorkersRecorded outside adapter plan ⟨w, [], []⟩) ↔
      ¬ Leaks outside adapter plan := by
  have hempty : ∀ e, Settled (.error e ⟨w, [], []⟩ :
      EStateM.Result Failure (RecordedWorld π) (VllmDeployment π)) :=
    fun e id hid => absurd hid List.not_mem_nil
  unfold createWorkersRecorded Leaks
  by_cases hbackend : plan.backend ≠ "vllm"
  · rw [if_pos hbackend]
    exact iff_of_true (hempty _) fun h => hbackend h.1.backend
  · by_cases hmodel : plan.modelName ≠ adapter.modelName
    · rw [if_neg hbackend, if_pos hmodel]
      exact iff_of_true (hempty _) fun h => hmodel h.1.model
    · rw [if_neg hbackend, if_neg hmodel]
      cases hgpus : replicaGpuCount plan with
      | error e =>
        refine iff_of_true (hempty e) fun h => ?_
        obtain ⟨replicaGpus, hok⟩ := h.1.gpus
        exact absurd (hgpus.symm.trans hok) (by simp)
      | ok replicaGpus =>
        have htakes : TakesPlan adapter plan :=
          ⟨not_not.mp hbackend, not_not.mp hmodel, replicaGpus, hgpus⟩
        refine (startReplicasRecorded_settled_iff adapter hids plan replicaGpus w).trans ?_
        exact not_congr ⟨fun h => ⟨htakes, h⟩, And.right⟩

end Recorded

/-! ### A distributed allocation without a node -/

/-- A plan for one worker on two nodes. -/
def twoNodePlan : ParallelPlan Unit where
  modelName := "m"
  backend := "vllm"
  tensorParallelSize := 1
  dataParallelSize := 2
  numGpus := 2
  targetNodes := ["a", "b"]
  tensorParallelSize_pos := Nat.one_pos
  dataParallelSize_pos := Nat.two_pos
  pipelineParallelSize_pos := Nat.one_pos
  replicaCount_pos := Nat.one_pos
  numGpus_pos := Nat.two_pos

/-- The instance ids are new; the scheduler reserves a GPU on each node, and its answer names no
node to start on. -/
def answersWithoutNode : Outside where
  instanceId := fun k => String.ofList (List.replicate k 'i')
  allocateResource := fun _ => .ok "a"
  allocateDistributedResource := some fun _ =>
    .ok (some ⟨.ok "", .ok ["a", "b"], .ok ((Py.OrderedDict.empty.set "a" 1).set "b" 1)⟩)
  startInstance := fun _ => .ok "actor"
  initBackend := fun _ => .ok ()
  runtimeMetadata := fun _ => .ok true
  trafficSwitcher := .ok ()

theorem answersWithoutNode_instanceId : Function.Injective answersWithoutNode.instanceId := by
  intro k k' h
  have hlist := String.ofList_injective h
  simpa using congrArg List.length hlist

/-- Distributed allocation is on. -/
def distributedAdapter : VllmDeploymentAdapter where
  modelName := "m"
  distributedGpuAllocation := true
  rayDpOwnsGpus := true

/-- Without distributed allocation the same scheduler does no harm. -/
theorem createWorkers_settles_iff_plain :
    Settled (createWorkersRecorded answersWithoutNode { modelName := "m" } twoNodePlan
      ⟨⟨[], [], [], none, none⟩, [], []⟩) ↔
        ¬ Leaks answersWithoutNode { modelName := "m" } twoNodePlan :=
  createWorkers_settles_iff { modelName := "m" } answersWithoutNode_instanceId twoNodePlan
    ⟨[], [], [], none, none⟩

/-- With it the reservation is left behind. -/
theorem not_settled_withoutNode :
    ¬ Settled (createWorkersRecorded answersWithoutNode distributedAdapter twoNodePlan
      ⟨⟨[], [], [], none, none⟩, [], []⟩) := by
  intro h
  have hcount : ([] : List String).count (answersWithoutNode.instanceId 0) = 1 :=
    h (answersWithoutNode.instanceId 0) List.mem_cons_self
  exact absurd hcount (by decide)

end Reparallelization
end SpotServe
