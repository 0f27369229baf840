import SpotServe.ExpertRemap.RuntimePlacement
import SpotServe.RouteTracing.Deployment
import Mathlib.Logic.Relation

/-!
# A remap across engines that go on serving

The ranks of a group are the workers of several data parallel engines.  `AsyncLLM` sends the hooks
of a plan to all engines; each `EngineCore` takes them up between two of its steps, asks its workers
and goes on serving.  A remap is a collective of all workers, so that an engine which enters it
alone waits for ever, and one that failed leaves weights and maps apart.  Two things guard against
that: a preflight of all engines before any of them enters, and an engine that refuses to step once
a remap has failed in it.  Nothing keeps an engine from a forward pass, whose MoE layers are
collectives as well, between the preflight and the remap.

* `EngineCore`, `Deployment`, `Site.Step`: the engines with the messages that wait for them.  The
  ranks leave a remap together, as in `remapExpertWeights`; how one ends that fails, and what the
  models are then, is left open.
* `forward_serves`: an engine that steps finds every layer as complete as it was, with its weights.
* `remaps_never_fail`: with one call at a time, and no forward pass while a call is under way, no
  engine fails, and when all engines are inside a remap it ends.
-/

namespace SpotServe
namespace ExpertRemap

open Py Runs ExpertPlacement
open SparseA2A (ExpertMap)
open RouteTracing (joinSorted)

/-! ## Results of the hooks -/

/-- The part of a plan that the engines read themselves. -/
structure HookPlan where
  remap : RemapPlan
  allowActiveRequests : Bool
  dpPreflightCoordinated : Bool
  activeRequestsAtBarrier : Bool
  snapshotRanks : OrderedDict String String

/-- What a worker returns from a hook: whether it succeeded, and why not. -/
structure HookSnapshot where
  success : Bool
  reason : String

/-- What an engine, or all of them, return from a hook. -/
structure HookResult where
  success : Bool
  reason : String
  workerResults : Option (List HookSnapshot)
  activeRequestsAtBarrier : Bool
  stepBoundaryBarrier : Bool

/-- The rows that a result contributes to `worker_results`. -/
def HookResult.rows (result : HookResult) : List HookSnapshot :=
  result.workerResults.getD [⟨result.success, result.reason⟩]

/-- `worker_count`. -/
def HookResult.workerCount (result : HookResult) : ℕ := (result.workerResults.getD []).length

/-- `worker_success_count`. -/
def HookResult.workerSuccessCount (result : HookResult) : ℕ :=
  (result.workerResults.getD []).countP HookSnapshot.success

/-- `_aggregate_expert_placement_hook_results`: the workers of an engine. -/
def aggregateHookResults (snapshots : List HookSnapshot) (defaultReason : String)
    (activeRequests : Bool) : HookResult :=
  let success := decide (snapshots ≠ []) && snapshots.all HookSnapshot.success
  let reasons := joinSorted (snapshots.map HookSnapshot.reason)
  { success := success
    reason := if success then "runtime_expert_placement_hook_succeeded"
      else if reasons = "" then defaultReason else reasons
    workerResults := some snapshots
    activeRequestsAtBarrier := activeRequests
    stepBoundaryBarrier := true }

/-- `aggregate_dp_engine_hook_results`: the engines. -/
def aggregateDpEngineHookResults (results : List HookResult) : HookResult :=
  let success := decide (results ≠ []) && results.all HookResult.success
  { success := success
    reason := if success then ""
      else ((results.find? fun result => !result.success && decide (result.reason ≠ "")).map
        HookResult.reason).getD "dp_engine_placement_hook_failed"
    workerResults := some (results.flatMap HookResult.rows)
    activeRequestsAtBarrier := results.any HookResult.activeRequestsAtBarrier
    stepBoundaryBarrier := decide (results ≠ []) && results.all HookResult.stepBoundaryBarrier }

theorem aggregateHookResults_success {snapshots : List HookSnapshot} {defaultReason : String}
    {activeRequests : Bool}
    (h : (aggregateHookResults snapshots defaultReason activeRequests).success = true)
    {snapshot : HookSnapshot} (hmem : snapshot ∈ snapshots) : snapshot.success = true :=
  List.all_eq_true.mp (Bool.and_eq_true_iff.mp h).2 snapshot hmem

theorem aggregateDpEngineHookResults_success {results : List HookResult}
    (h : (aggregateDpEngineHookResults results).success = true) {result : HookResult}
    (hmem : result ∈ results) : result.success = true :=
  List.all_eq_true.mp (Bool.and_eq_true_iff.mp h).2 result hmem

/-! ## Engines -/

/-- What `AsyncLLM` sends to an engine; `call` is the call that a preflight belongs to. -/
inductive Message where
  | prepare (call : ℕ) (plan : HookPlan)
  | apply (plan : HookPlan)
  | verify (plan : HookPlan)

/-- Where an engine is: between its steps, in the collectives of a remap, or in collectives that
nobody else takes part in. -/
inductive EngineStatus where
  | running
  | inside (plan : HookPlan)
  | hung

/-- An `EngineCore`.  `unfinished` is `scheduler.has_unfinished_requests()`, `batchQueue` tells
whether there is a batch queue, `activeRequestRemap` is `VLLM_SPOTSERVE_ACTIVE_REQUEST_REMAP`. -/
structure EngineCore where
  unfinished : Bool
  batchQueue : Bool
  asyncScheduling : Bool
  activeRequestRemap : Bool
  remapFailed : Bool
  status : EngineStatus
  inbox : List Message

/-- `EngineCore.step` goes on; with a batch queue the engine steps by another function, which does
not look at `_spotserve_expert_remap_failed`. -/
def EngineCore.Steps (core : EngineCore) : Prop :=
  core.status = .running ∧ (core.batchQueue = true ∨ core.remapFailed = false)

/-- `prepare_expert_placement_plan` of an engine, with the answers of its workers. -/
def prepareExpertPlacementPlan (core : EngineCore) (preflights : List HookSnapshot)
    (plan : HookPlan) : HookResult :=
  if core.unfinished = true ∧ plan.allowActiveRequests = false then
    ⟨false, "active_requests_must_be_drained_before_expert_remap", none, true, true⟩
  else if core.unfinished = true ∧ core.activeRequestRemap = false then
    ⟨false, "active_request_remap_not_enabled", none, true, true⟩
  else if core.unfinished = true ∧ (core.batchQueue = true ∨ core.asyncScheduling = true) then
    ⟨false, "active_request_remap_requires_sync_step_boundary", none, true, false⟩
  else aggregateHookResults preflights "expert_remap_preflight_failed" core.unfinished

/-- The workers have agreed when an engine says that it is ready. -/
theorem prepareExpertPlacementPlan_success {core : EngineCore} {preflights : List HookSnapshot}
    {plan : HookPlan} (h : (prepareExpertPlacementPlan core preflights plan).success = true)
    {snapshot : HookSnapshot} (hmem : snapshot ∈ preflights) : snapshot.success = true := by
  unfold prepareExpertPlacementPlan at h
  split_ifs at h
  exact aggregateHookResults_success h hmem

/-- A call of `apply_expert_placement_plan` that waits for the preflight of the engines. -/
structure Preflight (n : ℕ) where
  plan : HookPlan
  answers : Fin n → Option HookResult

/-- The engines, the models of all workers, and the calls of `AsyncLLM`, in the order in which they
began; a call that is over is `none`. -/
structure Deployment (W n : ℕ) (T O : Type) where
  engines : Fin n → EngineCore
  models : Fin W → Model T O
  calls : List (Option (Preflight n))

section Deployment

variable {W n : ℕ} {T O : Type}

/-- The deployment with another state of an engine. -/
def Deployment.setEngine (d : Deployment W n T O) (e : Fin n) (core : EngineCore) :
    Deployment W n T O :=
  { d with engines := Function.update d.engines e core }

/-- A message to all engines. -/
def Deployment.broadcast (d : Deployment W n T O) (message : Message) : Deployment W n T O :=
  { d with engines := fun e => { d.engines e with inbox := (d.engines e).inbox ++ [message] } }

/-- The answer of an engine to a preflight. -/
def Deployment.answer (d : Deployment W n T O) (call : ℕ) (e : Fin n) (result : HookResult) :
    Deployment W n T O :=
  { d with calls := d.calls.modify call fun preflight =>
      preflight.map fun p => { p with answers := Function.update p.answers e (some result) } }

@[simp] theorem Deployment.setEngine_self (d : Deployment W n T O) (e : Fin n)
    (core : EngineCore) : (d.setEngine e core).engines e = core :=
  Function.update_self _ _ _

theorem Deployment.setEngine_of_ne (d : Deployment W n T O) {e e' : Fin n} (h : e' ≠ e)
    (core : EngineCore) : (d.setEngine e core).engines e' = d.engines e' :=
  Function.update_of_ne h _ _

@[simp] theorem Deployment.setEngine_models (d : Deployment W n T O) (e : Fin n)
    (core : EngineCore) : (d.setEngine e core).models = d.models := rfl

@[simp] theorem Deployment.setEngine_calls (d : Deployment W n T O) (e : Fin n)
    (core : EngineCore) : (d.setEngine e core).calls = d.calls := rfl

@[simp] theorem Deployment.answer_engines (d : Deployment W n T O) (call : ℕ) (e : Fin n)
    (result : HookResult) : (d.answer call e result).engines = d.engines := rfl

@[simp] theorem Deployment.answer_models (d : Deployment W n T O) (call : ℕ) (e : Fin n)
    (result : HookResult) : (d.answer call e result).models = d.models := rfl

/-- No call is under way. -/
structure Deployment.Quiet (d : Deployment W n T O) : Prop where
  running : ∀ e, (d.engines e).status = .running
  inbox : ∀ e, (d.engines e).inbox = []
  calls : ∀ preflight, some preflight ∉ d.calls

end Deployment

/-! ## The steps of a deployment -/

/-- What a deployment is made of besides its state: the engine, the rank and the host of each
worker, and the code of the inference engine that moves rows. -/
structure Site (W n : ℕ) (T D : Type) where
  engineOf : Fin W → Fin n
  workerRank : Fin W → ℕ
  enabled : Fin W → Bool
  hosts : Fin W → HostIdentity
  rearrange : Rearrange W T
  digest : List T → D
  bump : ℕ
  logicalToPhysical : FusedMoE T → List (List ℤ)

/-- What happens in a deployment. -/
inductive Event (W n : ℕ) (T O : Type) where
  | arrive (e : Fin n)
  | forward (e : Fin n) (unfinished : Bool)
  | applyPlan (plan : HookPlan)
  | verifyPlan (plan : HookPlan)
  | handle (e : Fin n)
  | decide (call : ℕ)
  | refuse (e : Fin n)
  | complete
  | collapse (raised : Fin n → Bool) (models : Fin W → Model T O)

section Site

variable {W n : ℕ} {T O D : Type} (site : Site W n T D)

/-- The workers of an engine. -/
def Site.workers (e : Fin n) : List (Fin W) :=
  (List.finRange W).filter fun r => site.engineOf r = e

/-- Whether a worker accepts a plan. -/
def Site.Accepts (models : Fin W → Model T O) (plan : HookPlan) (r : Fin W) : Prop :=
  ∃ layers, layersForPlan (site.enabled r) W r (some (models r)) plan.remap = .ok layers

/-- `prepare_expert_remap` of a worker.  The texts of the library's own exceptions are left out. -/
def Site.prepareExpertRemap (models : Fin W → Model T O) (plan : HookPlan) (r : Fin W) :
    HookSnapshot :=
  match layersForPlan (site.enabled r) W r (some (models r)) plan.remap with
  | .ok _ => ⟨true, "fixed_ep_unquantized_layout_supported"⟩
  | .error e => ⟨false, e.message.getD ""⟩

theorem Site.prepareExpertRemap_success {models : Fin W → Model T O} {plan : HookPlan} {r : Fin W}
    (h : (site.prepareExpertRemap models plan r).success = true) :
    site.Accepts models plan r := by
  unfold Site.prepareExpertRemap at h
  cases hlayers : layersForPlan (site.enabled r) W r (some (models r)) plan.remap with
  | ok layers => exact ⟨layers, hlayers⟩
  | error e =>
    rw [hlayers] at h
    exact absurd h Bool.false_ne_true

/-- What an engine answers to a preflight. -/
def Site.prepare (d : Deployment W n T O) (e : Fin n) (plan : HookPlan) : HookResult :=
  prepareExpertPlacementPlan (d.engines e)
    ((site.workers e).map (site.prepareExpertRemap d.models plan)) plan

/-- `verify_expert_placement_plan` of an engine. -/
def Site.verify (models : Fin W → Model T O) (e : Fin n) (plan : HookPlan) : HookResult :=
  aggregateHookResults
    ((site.workers e).map fun r =>
      let check := verifyExpertPlacementPlan site.logicalToPhysical (site.workerRank r)
        plan.snapshotRanks (models r) plan.remap
      ⟨check.verified, check.reason⟩)
    "physical_expert_placement_verification_not_supported" false

/-- `coordinated_plan`: several engines are told that they act together. -/
def coordinatePlan (n : ℕ) (plan : HookPlan) : HookPlan :=
  if n ≤ 1 then plan
  else { plan with remap := { plan.remap with dpEngineCoordinated := true, dpEngineCount := n } }

/-- The plan after the preflight. -/
def barrierPlan (plan : HookPlan) (preflight : HookResult) : HookPlan :=
  { plan with
    dpPreflightCoordinated := true
    activeRequestsAtBarrier := preflight.activeRequestsAtBarrier }

/-- `AsyncLLM.apply_expert_placement_plan`: several engines are asked first, before a remap. -/
def Deployment.applyExpertPlacementPlan (d : Deployment W n T O) (plan : HookPlan) :
    Deployment W n T O :=
  if n ≤ 1 ∨ plan.remap.liveExpertRemap = false then d.broadcast (.apply (coordinatePlan n plan))
  else
    { d.broadcast (.prepare d.calls.length (coordinatePlan n plan)) with
      calls := d.calls ++ [some ⟨coordinatePlan n plan, fun _ => none⟩] }

/-- What follows the preflight, when all engines have answered. -/
def Deployment.decide (d : Deployment W n T O) (call : ℕ) (preflight : Preflight n)
    (results : Fin n → HookResult) : Deployment W n T O :=
  let result := aggregateDpEngineHookResults ((List.finRange n).map results)
  let ended := { d with calls := d.calls.set call none }
  if result.success then ended.broadcast (.apply (barrierPlan preflight.plan result)) else ended

/-- Whether an engine enters the remap: `EngineCore.apply_expert_placement_plan` asks its own
workers first unless all engines have been asked. -/
def Site.enters (d : Deployment W n T O) (e : Fin n) (plan : HookPlan) : Bool :=
  plan.dpPreflightCoordinated || (site.prepare d e plan).success

/-- An engine takes up a message.  Applying a plan that is not live only observes. -/
def Site.handle (d : Deployment W n T O) (e : Fin n) (rest : List Message) :
    Message → Deployment W n T O
  | .prepare call plan =>
    (d.setEngine e { d.engines e with inbox := rest }).answer call e (site.prepare d e plan)
  | .apply plan =>
    if plan.remap.liveExpertRemap = true ∧ site.enters d e plan = true then
      d.setEngine e { d.engines e with inbox := rest, status := .inside plan }
    else d.setEngine e { d.engines e with inbox := rest }
  | .verify plan =>
    d.setEngine e { d.engines e with
      inbox := rest
      remapFailed := (d.engines e).remapFailed ||
        plan.remap.liveExpertRemap && !(site.verify d.models e plan).success }

/-- All engines are inside the remap of a plan. -/
def Deployment.Inside (d : Deployment W n T O) (plan : HookPlan) : Prop :=
  0 < n ∧ ∀ e, (d.engines e).status = .inside plan

/-- The steps of a deployment. -/
inductive Site.Step [DecidableEq D] :
    Deployment W n T O → Event W n T O → Deployment W n T O → Prop
  /-- A request arrives. -/
  | arrive {d : Deployment W n T O} {e : Fin n} (h : (d.engines e).status = .running) :
    Step d (.arrive e) (d.setEngine e { d.engines e with unfinished := true })
  /-- `EngineCore.step`.  The other engines, which take part in its collectives, are left out: the
  step never waits for them. -/
  | forward {d : Deployment W n T O} {e : Fin n} (unfinished : Bool) (h : (d.engines e).Steps) :
    Step d (.forward e unfinished) (d.setEngine e { d.engines e with unfinished := unfinished })
  | applyPlan (d : Deployment W n T O) (plan : HookPlan) :
    Step d (.applyPlan plan) (d.applyExpertPlacementPlan plan)
  | verifyPlan (d : Deployment W n T O) (plan : HookPlan) :
    Step d (.verifyPlan plan) (d.broadcast (.verify (coordinatePlan n plan)))
  | handle {d : Deployment W n T O} {e : Fin n} {message : Message} {rest : List Message}
    (h : (d.engines e).status = .running) (hinbox : (d.engines e).inbox = message :: rest) :
    Step d (.handle e) (site.handle d e rest message)
  | decide {d : Deployment W n T O} {call : ℕ} {preflight : Preflight n}
    {results : Fin n → HookResult} (hcall : d.calls[call]? = some (some preflight))
    (hanswers : ∀ e, preflight.answers e = some (results e)) :
    Step d (.decide call) (d.decide call preflight results)
  /-- A worker does not accept the plan, before the first collective. -/
  | refuse {d : Deployment W n T O} {e : Fin n} {plan : HookPlan} {r : Fin W}
    (h : (d.engines e).status = .inside plan) (hr : site.engineOf r = e)
    (hrefuses : ¬ site.Accepts d.models plan r) :
    Step d (.refuse e) (d.setEngine e { d.engines e with status := .running, remapFailed := true })
  /-- The remap ends on all workers. -/
  | complete {d : Deployment W n T O} {plan : HookPlan} {models : Fin W → Model T O}
    (h : d.Inside plan)
    (hrun : remapExpertWeights site.rearrange site.digest site.bump site.enabled site.hosts d.models
      plan.remap = .ok models) :
    Step d .complete { d with
      engines := fun e => { d.engines e with status := .running }
      models := models }
  /-- The engines are inside, but not of a remap that runs: some raise, the others hang. -/
  | collapse {d : Deployment W n T O} (h : 0 < n ∧ ∀ e, ∃ plan, (d.engines e).status = .inside plan)
    (hfails : ∀ plan, d.Inside plan → ¬ ∃ models, remapExpertWeights site.rearrange site.digest
      site.bump site.enabled site.hosts d.models plan.remap = .ok models)
    (raised : Fin n → Bool) (models : Fin W → Model T O) :
    Step d (.collapse raised models) { d with
      engines := fun e =>
        if raised e then { d.engines e with status := .running, remapFailed := true }
        else { d.engines e with status := .hung }
      models := models }

end Site

/-! ## Engines that step -/

section Safety

variable {W n : ℕ} {T O D : Type} [DecidableEq D] {site : Site W n T D}

/-- Some models come from others by remaps that ended. -/
def Site.Remapped (site : Site W n T D) : (Fin W → Model T O) → (Fin W → Model T O) → Prop :=
  Relation.ReflTransGen fun models models' => ∃ plan, remapExpertWeights site.rearrange site.digest
    site.bump site.enabled site.hosts models plan = .ok models'

/-- **Layers survive remaps**, with all their experts. -/
theorem Site.Remapped.serves {models models' : Fin W → Model T O} (h : site.Remapped models models')
    (hrearrange : Rearranges site.rearrange) {l E : ℕ} {group : Fin W → FusedMoE T}
    {maps : Fin W → ExpertMap} (hserves : Serves models l E group maps) (r₀ : Fin W) :
    ∃ group' maps', Serves models' l E group' maps' ∧
      ∀ e < E, expertWeights group' e = expertWeights group e := by
  induction h with
  | refl => exact ⟨group, maps, hserves, fun _ _ => rfl⟩
  | tail _ hrun ih =>
    obtain ⟨group₁, maps₁, hserves₁, hweights₁⟩ := ih
    obtain ⟨plan, hrun⟩ := hrun
    rcases remap_layer hrearrange hrun l with hnone |
      ⟨E₂, group₂, group', maps₂, maps', hserves₂, hserves', -, hweights⟩
    · have hlayer := hserves₁.layer r₀
      rw [(hnone r₀).1] at hlayer
      exact absurd hlayer (by simp)
    · obtain ⟨rfl, rfl⟩ := hserves₁.unique hserves₂
      obtain rfl : E₂ = E := (hserves₂.length r₀).symm.trans (hserves₁.length r₀)
      exact ⟨group', maps', hserves', fun e he => (hweights e he).trans (hweights₁ e he)⟩

/-- An engine that has failed or hangs. -/
def EngineCore.Stopped (core : EngineCore) : Prop :=
  core.remapFailed = true ∨ core.status = .hung

theorem EngineCore.Stopped.not_steps {core : EngineCore} (h : core.Stopped)
    (hqueue : core.batchQueue = false) : ¬ core.Steps := by
  rintro ⟨hrunning, hqueue' | hsound⟩
  · rw [hqueue] at hqueue'
    exact Bool.false_ne_true hqueue'
  · rcases h with hfailed | hhung
    · rw [hsound] at hfailed
      exact Bool.false_ne_true hfailed
    · rw [hrunning] at hhung
      exact EngineStatus.noConfusion hhung

/-- A stopped engine that another one's state replaces stays stopped. -/
theorem Deployment.stopped_setEngine {d : Deployment W n T O} {e e' : Fin n} {core : EngineCore}
    (h : (d.engines e').Stopped) (hcore : (d.engines e).Stopped → core.Stopped) :
    ((d.setEngine e core).engines e').Stopped := by
  by_cases he : e' = e
  · subst he
    rw [Deployment.setEngine_self]
    exact hcore h
  · rwa [Deployment.setEngine_of_ne _ he]

/-- Of an engine that runs, being stopped is having failed. -/
theorem EngineCore.Stopped.failed {core : EngineCore} (h : core.Stopped)
    (hstatus : core.status ≠ .hung) : core.remapFailed = true :=
  h.resolve_right hstatus

omit [DecidableEq D] in
theorem Site.stopped_handle {d : Deployment W n T O} {e e' : Fin n} {rest : List Message}
    {message : Message} (hrunning : (d.engines e).status = .running)
    (h : (d.engines e').Stopped) : ((site.handle d e rest message).engines e').Stopped := by
  have hfailed : (d.engines e).Stopped → (d.engines e).remapFailed = true := fun hstopped =>
    hstopped.failed (by rw [hrunning]; exact EngineStatus.noConfusion)
  cases message with
  | prepare call plan =>
    rw [Site.handle, Deployment.answer_engines]
    exact Deployment.stopped_setEngine h fun hstopped => Or.inl (hfailed hstopped)
  | apply plan =>
    unfold Site.handle
    dsimp only
    split_ifs
    · exact Deployment.stopped_setEngine h fun hstopped => Or.inl (hfailed hstopped)
    · exact Deployment.stopped_setEngine h fun hstopped => Or.inl (hfailed hstopped)
  | verify plan =>
    refine Deployment.stopped_setEngine h fun hstopped => Or.inl ?_
    rw [hfailed hstopped, Bool.true_or]

/-- **Nothing makes a stopped engine step again.** -/
theorem Site.Step.stopped {d d' : Deployment W n T O} {event : Event W n T O}
    (hstep : site.Step d event d') {e : Fin n} (h : (d.engines e).Stopped) :
    (d'.engines e).Stopped := by
  cases hstep with
  | arrive => exact Deployment.stopped_setEngine h id
  | forward => exact Deployment.stopped_setEngine h id
  | applyPlan plan =>
    unfold Deployment.applyExpertPlacementPlan
    split_ifs
    · exact h
    · exact h
  | verifyPlan => exact h
  | handle hrunning => exact Site.stopped_handle hrunning h
  | decide =>
    unfold Deployment.decide
    dsimp only
    split_ifs
    · exact h
    · exact h
  | refuse => exact Deployment.stopped_setEngine h fun _ => Or.inl rfl
  | complete hinside =>
    exact Or.inl (h.failed (by rw [hinside.2 e]; exact EngineStatus.noConfusion))
  | collapse _ _ raised =>
    show EngineCore.Stopped (if raised e = true then _ else _)
    split_ifs
    · exact Or.inl rfl
    · exact Or.inr rfl

omit [DecidableEq D] in
theorem Site.handle_models (d : Deployment W n T O) (e : Fin n) (rest : List Message)
    (message : Message) : (site.handle d e rest message).models = d.models := by
  cases message with
  | prepare => rfl
  | apply plan =>
    unfold Site.handle
    dsimp only
    split_ifs
    · rfl
    · rfl
  | verify => rfl

/-- What a step does to the models. -/
theorem Site.Step.models {d d' : Deployment W n T O} {event : Event W n T O}
    (hstep : site.Step d event d') :
    site.Remapped d.models d'.models ∨ ∀ e, (d'.engines e).Stopped := by
  have hsame : ∀ {models}, models = d.models → site.Remapped d.models models := fun h =>
    h ▸ Relation.ReflTransGen.refl
  cases hstep with
  | arrive => exact Or.inl (hsame rfl)
  | forward => exact Or.inl (hsame rfl)
  | applyPlan plan =>
    refine Or.inl (hsame ?_)
    unfold Deployment.applyExpertPlacementPlan
    split_ifs
    · rfl
    · rfl
  | verifyPlan => exact Or.inl (hsame rfl)
  | handle => exact Or.inl (hsame (Site.handle_models _ _ _ _))
  | decide =>
    refine Or.inl (hsame ?_)
    unfold Deployment.decide
    dsimp only
    split_ifs
    · rfl
    · rfl
  | refuse => exact Or.inl (hsame rfl)
  | complete _ hrun => exact Or.inl (Relation.ReflTransGen.single ⟨_, hrun⟩)
  | collapse _ _ raised =>
    refine Or.inr fun e => ?_
    show EngineCore.Stopped (if raised e = true then _ else _)
    split_ifs
    · exact Or.inl rfl
    · exact Or.inr rfl

/-- **An engine that steps finds its layers.**  However calls, messages, requests and failures
interleave: whenever an engine without a batch queue can step, every layer that served when the
deployment began serves, and each of its experts has the weights that it had then. -/
theorem forward_serves (hrearrange : Rearranges site.rearrange) {start d : Deployment W n T O}
    (hreach : Runs.Reachable (· = start) site.Step (fun _ _ => True) d) {e : Fin n}
    (hsteps : (d.engines e).Steps) (hqueue : (d.engines e).batchQueue = false) {l E : ℕ}
    {group : Fin W → FusedMoE T} {maps : Fin W → ExpertMap}
    (hserves : Serves start.models l E group maps) (r₀ : Fin W) :
    ∃ group' maps', Serves d.models l E group' maps' ∧
      ∀ i < E, expertWeights group' i = expertWeights group i := by
  have hinv : site.Remapped start.models d.models ∨ ∀ e, (d.engines e).Stopped := by
    refine hreach.invariant (fun d => site.Remapped start.models d.models ∨
      ∀ e, (d.engines e).Stopped) ?_ ?_
    · rintro d rfl
      exact Or.inl Relation.ReflTransGen.refl
    · rintro d event d' (hinv | hinv) - hstep
      · exact hstep.models.imp_left hinv.trans
      · exact Or.inr fun e => hstep.stopped (hinv e)
  rcases hinv with hinv | hinv
  · exact hinv.serves hrearrange hserves r₀
  · exact absurd hsteps ((hinv e).not_steps hqueue)

end Safety

/-! ## Remaps that run -/

/-- Every layer that a rank has serves. -/
def AllServe {W : ℕ} {T O : Type} (models : Fin W → Model T O) : Prop :=
  ∀ l, (∀ r, moeLayer (models r) l = none) ∨ ∃ E group maps, Serves models l E group maps

section Runs

variable {W : ℕ} {T O D : Type} {plan : RemapPlan} {models : Fin W → Model T O}
  {layers : Fin W → List (Layer T)}

/-- The experts of a layer that serves are in the slots of its ranks, each one once. -/
theorem IsRow.perm_of_serves (haccepted : ∀ r : Fin W, Accepted W r plan (models r) (layers r))
    {i : ℕ} {row : Fin W → Layer T} (h : IsRow layers i row) (r₀ : Fin W) {E : ℕ}
    {group : Fin W → FusedMoE T} {maps : Fin W → ExpertMap}
    (hserves : Serves models (row r₀).index E group maps) :
    ((List.finRange W).flatMap fun r => (row r).oldLocalIds).Perm
      (List.range (row r₀).module.globalNumExperts) := by
  have hgroup : ∀ r, group r = (row r).module := fun r => by
    have hlayer := (haccepted r).moeLayer_before (h.mem r)
    rw [h.index_eq haccepted r r₀, hserves.layer r] at hlayer
    exact Option.some.inj hlayer
  have hexperts : ∀ r, (row r).expertMap.entries.length = E := fun r => by
    have hmap := hserves.map r
    rw [hgroup r, (h.ready haccepted r).expertMap] at hmap
    rw [Option.some.inj hmap]
    exact hserves.length r
  have hE : (row r₀).module.globalNumExperts = E :=
    ((h.ready haccepted r₀).map_length).symm.trans (hexperts r₀)
  have hheld : ∀ (r : Fin W) (e s : ℕ), (row r).oldLocalIds[s]? = some e ↔
      slotOf (group r) e = s := fun r e s => by
    rw [hgroup r, h.slotOf_before haccepted r]
  have hslot : ∀ {r : Fin W} {e : ℕ}, e ∈ (row r).oldLocalIds → 0 ≤ slotOf (group r) e := by
    intro r e he
    obtain ⟨s, hs⟩ := List.mem_iff_getElem?.mp he
    rw [(hheld r e s).mp hs]
    exact Int.natCast_nonneg s
  have hlt : ∀ {r : Fin W} {e : ℕ}, 0 ≤ slotOf (group r) e → e < E := by
    intro r e he
    rw [← hserves.length r]
    exact lt_of_nonneg_slotOf (hserves.map r) he
  refine (List.perm_ext_iff_of_nodup ?_ List.nodup_range).mpr fun e => ?_
  · refine List.nodup_flatMap.mpr ⟨fun r _ => ?_, ?_⟩
    · refine List.nodup_iff_injective_get.mpr fun s s' hsame => Fin.ext ?_
      have hs := (hheld r _ s).mp (List.getElem?_eq_getElem s.isLt)
      have hs' := (hheld r _ s').mp (List.getElem?_eq_getElem s'.isLt)
      rw [show (row r).oldLocalIds[(s : ℕ)] = (row r).oldLocalIds[(s' : ℕ)] from hsame, hs'] at hs
      exact (Nat.cast_injective hs).symm
    · refine (List.nodup_finRange W).imp fun {r r'} hne => ?_
      refine List.disjoint_left.mpr fun e he he' => hne ?_
      obtain ⟨r₁, -, hunique⟩ := hserves.resident (hlt (hslot he))
      exact (hunique r (hslot he)).trans (hunique r' (hslot he')).symm
  · rw [List.mem_range, hE, List.mem_flatMap]
    constructor
    · rintro ⟨r, -, he⟩
      exact hlt (hslot he)
    · intro he
      obtain ⟨r, hr, -⟩ := hserves.resident he
      have hs := (hheld r e _).mpr (Int.toNat_of_nonneg hr).symm
      exact ⟨r, List.mem_finRange r, List.mem_of_getElem? hs⟩

/-- The experts are complete where all layers serve. -/
theorem covers_of_serves (haccepted : ∀ r : Fin W, Accepted W r plan (models r) (layers r))
    (hserves : AllServe models) (r : Fin W) :
    coversExperts (layers r) (oldIndices layers r) := by
  intro entry hentry
  obtain ⟨i, hi⟩ := List.mem_iff_getElem?.mp hentry
  obtain ⟨hrowEntry, hlayerEntry⟩ := List.getElem?_zip_eq_some.mp hi
  obtain ⟨row, hrow⟩ :=
    exists_row_of_lt haccepted (List.getElem?_eq_some_iff.mp hlayerEntry).1
  rw [hrow.oldIndices_get r] at hrowEntry
  rw [hrow r] at hlayerEntry
  rw [← Option.some.inj hrowEntry, ← Option.some.inj hlayerEntry]
  rcases hserves (row r).index with hnone | ⟨E, group, maps, hlayer⟩
  · have hlayer := (haccepted r).moeLayer_before (hrow.mem r)
    rw [hnone r] at hlayer
    exact absurd hlayer (by simp)
  · refine List.Perm.eq_of_pairwise (fun a b _ _ hab hba => Nat.le_antisymm hab hba)
      (List.pairwise_insertionSort _ _) List.pairwise_le_range ?_
    exact (List.perm_insertionSort _ _).trans (hrow.perm_of_serves haccepted r hlayer)

variable [DecidableEq D] {rearrange : Rearrange W T} {digest : List T → D} {bump : ℕ}
  {enabled : Fin W → Bool} {hosts : Fin W → HostIdentity}

/-- **A remap runs** when all ranks accept the plan, the layers serve and nothing is required of
the hosts. -/
theorem remap_runs_of_serves (hrearrange : Rearranges rearrange) (hW : 0 < W)
    (haccepts : ∀ r : Fin W,
      ∃ layers, layersForPlan (enabled r) W r (some (models r)) plan = .ok layers)
    (hserves : AllServe models) (hnode : plan.requireCrossNode = false)
    (hdomain : plan.requireCrossFailureDomain = false) :
    ∃ models', remapExpertWeights rearrange digest bump enabled hosts models plan =
      .ok models' := by
  choose layers hlayers using haccepts
  refine (remap_runs_iff hrearrange hW).mpr ⟨layers, hlayers, ?_, ?_, ?_⟩
  · rw [checkHosts, hnode, hdomain]
    rfl
  · exact covers_of_serves (fun r => layersForPlan_ok (hlayers r)) hserves
  · rw [checkMovement, hnode, hdomain]
    rfl

theorem allServe_of_remap (hrearrange : Rearranges rearrange) {models' : Fin W → Model T O}
    (hrun : remapExpertWeights rearrange digest bump enabled hosts models plan = .ok models') :
    AllServe models' := by
  intro l
  rcases remap_layer hrearrange hrun l with hnone | ⟨E, _, group', _, maps', -, hserves', -⟩
  · exact Or.inl fun r => (hnone r).2
  · exact Or.inr ⟨E, group', maps', hserves'⟩

end Runs

/-! ## One call at a time -/

section Orderly

variable {W n : ℕ} {T O D : Type} {site : Site W n T D}

/-- What a caller puts into a plan: it asks nothing of the hosts, and leaves to `AsyncLLM` to say
that the engines have been asked. -/
structure Ordinary (plan : HookPlan) : Prop where
  node : plan.remap.requireCrossNode = false
  domain : plan.remap.requireCrossFailureDomain = false
  coordinated : plan.dpPreflightCoordinated = false

/-- All engines verify a plan. -/
def Site.Verified (site : Site W n T D) (models : Fin W → Model T O) (plan : HookPlan) : Prop :=
  ∀ e, (site.verify models e plan).success = true

/-- Calls begin one at a time, and no engine is in a forward pass while one is under way; plans are
ordinary, and a live one is verified where it is in place. -/
def Site.Orderly (site : Site W n T D) (d : Deployment W n T O) : Event W n T O → Prop
  | .forward _ _ => d.Quiet
  | .applyPlan plan => d.Quiet ∧ Ordinary plan
  | .verifyPlan plan => d.Quiet ∧
    (plan.remap.liveExpertRemap = true → site.Verified d.models (coordinatePlan n plan))
  | _ => True

/-- No call waits for a preflight. -/
def Deployment.Closed (d : Deployment W n T O) : Prop := ∀ preflight, some preflight ∉ d.calls

/-- An engine has nothing to do but its steps, or it has one message. -/
def EngineCore.Expects (core : EngineCore) (message : Message) : Prop :=
  core.status = .running ∧ (core.inbox = [] ∨ core.inbox = [message])

/-- A plan whose remap is about to begin. -/
structure Admitted (site : Site W n T D) (models : Fin W → Model T O) (plan : HookPlan) : Prop where
  live : plan.remap.liveExpertRemap = true
  node : plan.remap.requireCrossNode = false
  domain : plan.remap.requireCrossFailureDomain = false
  accepts : ∀ r, site.Accepts models plan r

/-- An engine while a plan is applied. -/
inductive Applying (site : Site W n T D) (models : Fin W → Model T O) (plan : HookPlan)
    (core : EngineCore) : Prop
  | waiting (h : core.Expects (.apply plan))
  | inside (hstatus : core.status = .inside plan) (hinbox : core.inbox = [])
    (hplan : Admitted site models plan)

/-- An engine while a preflight goes on. -/
structure Preparing (site : Site W n T D) (models : Fin W → Model T O) (call : ℕ)
    (preflight : Preflight n) (e : Fin n) (core : EngineCore) : Prop where
  expects : core.Expects (.prepare call preflight.plan)
  answered : ∀ result, preflight.answers e = some result → core.inbox = []
  ready : ∀ result, preflight.answers e = some result → result.success = true →
    ∀ r, site.engineOf r = e → site.Accepts models preflight.plan r

/-- How far the call is that is under way. -/
inductive Phase (site : Site W n T D) (d : Deployment W n T O) : Prop
  | quiet (h : d.Quiet)
  | preparing (call : ℕ) (preflight : Preflight n)
    (hcall : ∀ c p, d.calls[c]? = some (some p) ↔ c = call ∧ p = preflight)
    (hlive : preflight.plan.remap.liveExpertRemap = true)
    (hnode : preflight.plan.remap.requireCrossNode = false)
    (hdomain : preflight.plan.remap.requireCrossFailureDomain = false)
    (hengines : ∀ e, Preparing site d.models call preflight e (d.engines e))
  | applying (plan : HookPlan) (hclosed : d.Closed)
    (hnode : plan.remap.requireCrossNode = false)
    (hdomain : plan.remap.requireCrossFailureDomain = false)
    (hasked : plan.remap.liveExpertRemap = true → plan.dpPreflightCoordinated = true →
      ∀ r, site.Accepts d.models plan r)
    (halone : plan.remap.liveExpertRemap = true → plan.dpPreflightCoordinated = false → n ≤ 1)
    (hengines : ∀ e, Applying site d.models plan (d.engines e))
  | verifying (plan : HookPlan) (hclosed : d.Closed)
    (hverified : plan.remap.liveExpertRemap = true → site.Verified d.models plan)
    (hengines : ∀ e, (d.engines e).Expects (.verify plan))

/-- What an orderly run keeps. -/
structure Sound (site : Site W n T D) (d : Deployment W n T O) : Prop where
  healthy : ∀ e, (d.engines e).remapFailed = false
  serves : AllServe d.models
  phase : Phase site d

/-! ### Frames -/

theorem Deployment.setEngine_field {α : Type} (f : EngineCore → α) {d : Deployment W n T O}
    {e : Fin n} {core : EngineCore} (h : f core = f (d.engines e)) (e' : Fin n) :
    f ((d.setEngine e core).engines e') = f (d.engines e') := by
  by_cases he : e' = e
  · subst he
    rw [Deployment.setEngine_self, h]
  · rw [Deployment.setEngine_of_ne _ he]

/-- Of an engine, how far a call is depends on where it is and which messages it has. -/
theorem EngineCore.Expects.congr {core core' : EngineCore} {message : Message}
    (h : core.Expects message) (hstatus : core'.status = core.status)
    (hinbox : core'.inbox = core.inbox) : core'.Expects message := by
  unfold EngineCore.Expects
  rw [hstatus, hinbox]
  exact h

theorem Applying.congr {models : Fin W → Model T O} {plan : HookPlan} {core core' : EngineCore}
    (h : Applying site models plan core) (hstatus : core'.status = core.status)
    (hinbox : core'.inbox = core.inbox) : Applying site models plan core' := by
  cases h with
  | waiting h => exact .waiting (h.congr hstatus hinbox)
  | inside hinside hempty hplan => exact .inside (hstatus.trans hinside) (hinbox.trans hempty) hplan

/-- Requests and steps leave a call where it is. -/
theorem Phase.congr {d d' : Deployment W n T O} (h : Phase site d)
    (hstatus : ∀ e, (d'.engines e).status = (d.engines e).status)
    (hinbox : ∀ e, (d'.engines e).inbox = (d.engines e).inbox) (hmodels : d'.models = d.models)
    (hcalls : d'.calls = d.calls) : Phase site d' := by
  cases h with
  | quiet h =>
    refine .quiet ⟨fun e => (hstatus e).trans (h.running e), fun e => (hinbox e).trans (h.inbox e),
      ?_⟩
    rw [hcalls]
    exact h.calls
  | preparing call preflight hcall hlive hnode hdomain hengines =>
    refine .preparing call preflight ?_ hlive hnode hdomain fun e =>
      ⟨(hengines e).expects.congr (hstatus e) (hinbox e),
        fun result hresult => (hinbox e).trans ((hengines e).answered result hresult), ?_⟩
    · rw [hcalls]
      exact hcall
    · rw [hmodels]
      exact (hengines e).ready
  | applying plan hclosed hnode hdomain hasked halone hengines =>
    refine .applying plan ?_ hnode hdomain ?_ halone fun e => ?_
    · unfold Deployment.Closed
      rw [hcalls]
      exact hclosed
    · rw [hmodels]
      exact hasked
    · rw [hmodels]
      exact (hengines e).congr (hstatus e) (hinbox e)
  | verifying plan hclosed hverified hengines =>
    refine .verifying plan ?_ ?_ fun e => (hengines e).congr (hstatus e) (hinbox e)
    · unfold Deployment.Closed
      rw [hcalls]
      exact hclosed
    · rw [hmodels]
      exact hverified

/-! ### Calls -/

@[simp] theorem coordinatePlan_node (plan : HookPlan) :
    (coordinatePlan n plan).remap.requireCrossNode = plan.remap.requireCrossNode := by
  unfold coordinatePlan
  split_ifs
  · rfl
  · rfl

@[simp] theorem coordinatePlan_domain (plan : HookPlan) :
    (coordinatePlan n plan).remap.requireCrossFailureDomain =
      plan.remap.requireCrossFailureDomain := by
  unfold coordinatePlan
  split_ifs
  · rfl
  · rfl

@[simp] theorem coordinatePlan_live (plan : HookPlan) :
    (coordinatePlan n plan).remap.liveExpertRemap = plan.remap.liveExpertRemap := by
  unfold coordinatePlan
  split_ifs
  · rfl
  · rfl

@[simp] theorem coordinatePlan_coordinated (plan : HookPlan) :
    (coordinatePlan n plan).dpPreflightCoordinated = plan.dpPreflightCoordinated := by
  unfold coordinatePlan
  split_ifs
  · rfl
  · rfl

/-- A message to engines that have none. -/
theorem Deployment.Quiet.expects {d : Deployment W n T O} (h : d.Quiet) (message : Message)
    (e : Fin n) : ((d.broadcast message).engines e).Expects message := by
  refine ⟨h.running e, Or.inr ?_⟩
  show (d.engines e).inbox ++ [message] = [message]
  rw [h.inbox e, List.nil_append]

theorem Phase.applyPlan {d : Deployment W n T O} (hquiet : d.Quiet) {plan : HookPlan}
    (hplan : Ordinary plan) : Phase site (d.applyExpertPlacementPlan plan) := by
  have hnode : (coordinatePlan n plan).remap.requireCrossNode = false := by
    rw [coordinatePlan_node, hplan.node]
  have hdomain : (coordinatePlan n plan).remap.requireCrossFailureDomain = false := by
    rw [coordinatePlan_domain, hplan.domain]
  unfold Deployment.applyExpertPlacementPlan
  split_ifs with hdirect
  · refine .applying (coordinatePlan n plan) hquiet.calls hnode hdomain (fun _ hasked => ?_)
      (fun hlive _ => hdirect.resolve_right fun hdead => ?_) fun e =>
        .waiting (hquiet.expects _ e)
    · rw [coordinatePlan_coordinated, hplan.coordinated] at hasked
      exact absurd hasked Bool.false_ne_true
    · rw [coordinatePlan_live, hdead] at hlive
      exact Bool.false_ne_true hlive
  · have hlive : plan.remap.liveExpertRemap = true := by
      simpa using (not_or.mp hdirect).2
    refine .preparing d.calls.length ⟨coordinatePlan n plan, fun _ => none⟩ (fun c p => ?_)
      ((coordinatePlan_live plan).trans hlive) hnode hdomain fun e =>
        ⟨hquiet.expects _ e, fun _ hanswer => absurd hanswer (by simp),
          fun _ hanswer => absurd hanswer (by simp)⟩
    rw [List.getElem?_append]
    split_ifs with hc
    · refine iff_of_false (fun hold => hquiet.calls p (List.mem_of_getElem? hold)) ?_
      exact fun hnew => absurd hnew.1 hc.ne
    · rw [List.getElem?_singleton]
      split_ifs with hfirst
      · rw [Option.some_inj, Option.some_inj]
        exact ⟨fun hp => ⟨by omega, hp.symm⟩, fun hp => hp.2.symm⟩
      · exact iff_of_false (by simp) fun hp => hfirst (by omega)

theorem Phase.verifyPlan {d : Deployment W n T O} (hquiet : d.Quiet) {plan : HookPlan}
    (hverified : plan.remap.liveExpertRemap = true →
      site.Verified d.models (coordinatePlan n plan)) :
    Phase site (d.broadcast (.verify (coordinatePlan n plan))) := by
  refine .verifying (coordinatePlan n plan) hquiet.calls (fun hlive => hverified ?_) fun e =>
    hquiet.expects _ e
  rwa [coordinatePlan_live] at hlive

/-! ### Messages -/

/-- An engine that is ready has workers that accept the plan. -/
theorem Site.accepts_of_prepare {d : Deployment W n T O} {e : Fin n} {plan : HookPlan}
    (h : (site.prepare d e plan).success = true) {r : Fin W} (hr : site.engineOf r = e) :
    site.Accepts d.models plan r := by
  refine site.prepareExpertRemap_success (prepareExpertPlacementPlan_success h ?_)
  exact List.mem_map.mpr ⟨r, List.mem_filter.mpr ⟨List.mem_finRange r, by simpa using hr⟩, rfl⟩

theorem EngineCore.Expects.eq {core : EngineCore} {message message' : Message} {rest : List Message}
    (h : core.Expects message) (hinbox : core.inbox = message' :: rest) :
    message' = message ∧ rest = [] := by
  rcases h.2 with hempty | hone
  · rw [hempty] at hinbox
    exact absurd hinbox (by simp)
  · rw [hinbox] at hone
    exact List.cons_eq_cons.mp hone

/-- What holds of an engine's new state, and of the others' old ones. -/
theorem Deployment.forall_setEngine {P : Fin n → EngineCore → Prop} {d : Deployment W n T O}
    {e : Fin n} {core : EngineCore} (hnew : P e core) (hold : ∀ e', P e' (d.engines e'))
    (e' : Fin n) : P e' ((d.setEngine e core).engines e') := by
  by_cases he : e' = e
  · subst he
    rw [Deployment.setEngine_self]
    exact hnew
  · rw [Deployment.setEngine_of_ne _ he]
    exact hold e'

theorem Phase.handle {d : Deployment W n T O} (hphase : Phase site d) {e : Fin n}
    {message : Message} {rest : List Message} (hrunning : (d.engines e).status = .running)
    (hinbox : (d.engines e).inbox = message :: rest) :
    Phase site (site.handle d e rest message) := by
  cases hphase with
  | quiet h =>
    rw [h.inbox e] at hinbox
    exact absurd hinbox (by simp)
  | preparing call preflight hcall hlive hnode hdomain hengines =>
    obtain ⟨rfl, rfl⟩ := (hengines e).expects.eq hinbox
    refine .preparing call
      { preflight with
        answers := Function.update preflight.answers e (some (site.prepare d e preflight.plan)) }
      (fun c p => ?_) hlive hnode hdomain fun e' => ?_
    · show (d.calls.modify call _)[c]? = some (some p) ↔ _
      rw [List.getElem?_modify]
      by_cases hc : call = c
      · subst hc
        rw [(hcall call preflight).mpr ⟨rfl, rfl⟩]
        simp [eq_comm]
      · refine iff_of_false (fun hold => ?_) fun hnew => hc hnew.1.symm
        simp only [if_neg hc, Option.map_eq_map, Option.map_id'] at hold
        exact hc ((hcall c p).mp hold).1.symm
    · show Preparing site d.models call _ e' ((d.setEngine e _).engines e')
      by_cases he : e' = e
      · subst he
        rw [Deployment.setEngine_self]
        refine ⟨⟨hrunning, Or.inl rfl⟩, fun _ _ => rfl, fun result hresult hsuccess r hr => ?_⟩
        obtain rfl : site.prepare d e' preflight.plan = result := by
          simpa using hresult
        exact Site.accepts_of_prepare hsuccess hr
      · rw [Deployment.setEngine_of_ne _ he]
        have hanswers : Function.update preflight.answers e
            (some (site.prepare d e preflight.plan)) e' = preflight.answers e' :=
          Function.update_of_ne he _ _
        refine ⟨(hengines e').expects, fun result hresult => ?_, fun result hresult => ?_⟩
        · exact (hengines e').answered result (hanswers ▸ hresult)
        · exact (hengines e').ready result (hanswers ▸ hresult)
  | applying plan hclosed hnode hdomain hasked halone hengines =>
    obtain hwaiting | ⟨hstatus, -, -⟩ := hengines e
    · obtain ⟨rfl, rfl⟩ := hwaiting.eq hinbox
      unfold Site.handle
      dsimp only
      split_ifs with henters
      · refine .applying plan hclosed hnode hdomain hasked halone
          (Deployment.forall_setEngine (.inside rfl rfl ⟨henters.1, hnode, hdomain, ?_⟩) hengines)
        cases hcoordinated : plan.dpPreflightCoordinated with
        | true => exact hasked henters.1 hcoordinated
        | false =>
          -- The only engine has asked its own workers, and these are all.
          intro r
          have hready : (site.prepare d e plan).success = true := by
            have hown := henters.2
            rwa [Site.enters, hcoordinated, Bool.false_or] at hown
          have hone := halone henters.1 hcoordinated
          exact Site.accepts_of_prepare hready (Fin.ext (by omega))
      · exact .applying plan hclosed hnode hdomain hasked halone
          (Deployment.forall_setEngine (.waiting ⟨hrunning, Or.inl rfl⟩) hengines)
    · rw [hrunning] at hstatus
      exact EngineStatus.noConfusion hstatus
  | verifying plan hclosed hverified hengines =>
    obtain ⟨rfl, rfl⟩ := (hengines e).eq hinbox
    exact .verifying plan hclosed hverified
      (Deployment.forall_setEngine (P := fun _ core => core.Expects (.verify plan))
        ⟨hrunning, Or.inl rfl⟩ hengines)

/-- Only a plan that is not in place makes an engine fail when it is verified. -/
theorem Phase.healthy_handle {d : Deployment W n T O} (hphase : Phase site d)
    (hhealthy : ∀ e, (d.engines e).remapFailed = false) {e : Fin n} {message : Message}
    {rest : List Message} (hinbox : (d.engines e).inbox = message :: rest) (e' : Fin n) :
    ((site.handle d e rest message).engines e').remapFailed = false := by
  cases message with
  | prepare call plan =>
    show ((d.setEngine e _).engines e').remapFailed = false
    refine (Deployment.setEngine_field EngineCore.remapFailed ?_ e').trans (hhealthy e')
    rfl
  | apply plan =>
    unfold Site.handle
    dsimp only
    split_ifs
    · refine (Deployment.setEngine_field EngineCore.remapFailed ?_ e').trans (hhealthy e')
      rfl
    · refine (Deployment.setEngine_field EngineCore.remapFailed ?_ e').trans (hhealthy e')
      rfl
  | verify plan =>
    have hverified : plan.remap.liveExpertRemap = true → site.Verified d.models plan := by
      cases hphase with
      | quiet h =>
        rw [h.inbox e] at hinbox
        exact absurd hinbox (by simp)
      | preparing call preflight _ _ _ _ hengines =>
        exact absurd ((hengines e).expects.eq hinbox).1 Message.noConfusion
      | applying plan' _ _ _ _ _ hengines =>
        obtain hwaiting | ⟨-, hempty, -⟩ := hengines e
        · exact absurd (hwaiting.eq hinbox).1 Message.noConfusion
        · rw [hempty] at hinbox
          exact absurd hinbox (by simp)
      | verifying plan' _ hverified hengines =>
        obtain rfl : plan = plan' := Message.verify.inj ((hengines e).eq hinbox).1
        exact hverified
    refine (Deployment.setEngine_field EngineCore.remapFailed ?_ e').trans (hhealthy e')
    show ((d.engines e).remapFailed ||
      plan.remap.liveExpertRemap && !(site.verify d.models e plan).success) = _
    cases hlive : plan.remap.liveExpertRemap with
    | false => rw [Bool.false_and, Bool.or_false]
    | true => rw [hverified hlive e, Bool.not_true, Bool.and_false, Bool.or_false]

/-! ### Whole runs -/

theorem Phase.decide {d : Deployment W n T O} (hphase : Phase site d) {call : ℕ}
    {preflight : Preflight n} {results : Fin n → HookResult}
    (hcall : d.calls[call]? = some (some preflight))
    (hanswers : ∀ e, preflight.answers e = some (results e)) :
    Phase site (d.decide call preflight results) := by
  have hmem := List.mem_of_getElem? hcall
  cases hphase with
  | quiet h => exact absurd hmem (h.calls preflight)
  | applying _ hclosed => exact absurd hmem (hclosed preflight)
  | verifying _ hclosed => exact absurd hmem (hclosed preflight)
  | preparing call' preflight' hcalls hlive hnode hdomain hengines =>
    obtain ⟨rfl, rfl⟩ := (hcalls call preflight).mp hcall
    have hempty : ∀ e, (d.engines e).inbox = [] := fun e =>
      (hengines e).answered _ (hanswers e)
    have hended : ∀ p, some p ∉ d.calls.set call none := by
      intro p hp
      obtain ⟨c, hc⟩ := List.mem_iff_getElem?.mp hp
      rw [List.getElem?_set] at hc
      split_ifs at hc with hsame
      · exact absurd hc (by simp)
      · exact hsame ((hcalls c p).mp hc).1.symm
    unfold Deployment.decide
    dsimp only
    split_ifs with hready
    · refine .applying (barrierPlan preflight.plan
        (aggregateDpEngineHookResults ((List.finRange n).map results))) hended hnode hdomain
        (fun _ _ r => ?_) (fun _ hasked => Bool.noConfusion (show true = false from hasked))
        fun e => .waiting ⟨(hengines e).expects.1, Or.inr ?_⟩
      · -- Every engine was ready, and so was the one of this worker.
        refine (hengines (site.engineOf r)).ready _ (hanswers _) ?_ r rfl
        exact aggregateDpEngineHookResults_success hready
          (List.mem_map.mpr ⟨site.engineOf r, List.mem_finRange _, rfl⟩)
      · show (d.engines e).inbox ++ [_] = [_]
        rw [hempty e, List.nil_append]
    · exact .quiet ⟨fun e => (hengines e).expects.1, hempty, hended⟩

/-- Who is inside a remap has got there with all workers accepting. -/
theorem Phase.admitted {d : Deployment W n T O} (hphase : Phase site d) {e : Fin n}
    {plan : HookPlan} (hinside : (d.engines e).status = .inside plan) :
    Admitted site d.models plan ∧ d.Closed ∧
      ∀ e', ∀ plan', (d.engines e').status = .inside plan' →
        plan' = plan ∧ (d.engines e').inbox = [] := by
  have hnot : (d.engines e).status ≠ .running := by
    rw [hinside]
    exact EngineStatus.noConfusion
  cases hphase with
  | quiet h => exact absurd (h.running e) hnot
  | preparing _ _ _ _ _ _ hengines => exact absurd (hengines e).expects.1 hnot
  | verifying _ _ _ hengines => exact absurd (hengines e).1 hnot
  | applying plan₀ hclosed _ _ _ _ hengines =>
    have hone : ∀ e', ∀ plan', (d.engines e').status = .inside plan' →
        plan' = plan₀ ∧ (d.engines e').inbox = [] ∧ Admitted site d.models plan₀ := by
      intro e' plan' hinside'
      obtain hwaiting | ⟨hstatus, hempty, hplan⟩ := hengines e'
      · rw [hwaiting.1] at hinside'
        exact EngineStatus.noConfusion hinside'
      · rw [hstatus] at hinside'
        exact ⟨(EngineStatus.inside.inj hinside').symm, hempty, hplan⟩
    obtain ⟨rfl, -, hplan⟩ := hone e plan hinside
    exact ⟨hplan, hclosed, fun e' plan' h => ⟨(hone e' plan' h).1, (hone e' plan' h).2.1⟩⟩

variable [DecidableEq D]

/-- A remap that all engines have entered runs. -/
theorem Sound.exists_models {d : Deployment W n T O} (h : Sound site d)
    (hrearrange : Rearranges site.rearrange) (hW : 0 < W) {plan : HookPlan}
    (hinside : d.Inside plan) :
    ∃ models, remapExpertWeights site.rearrange site.digest site.bump site.enabled site.hosts
      d.models plan.remap = .ok models := by
  obtain ⟨hplan, -, -⟩ := h.phase.admitted (hinside.2 ⟨0, hinside.1⟩)
  exact remap_runs_of_serves hrearrange hW hplan.accepts h.serves hplan.node hplan.domain

/-- **One step** of an orderly run. -/
theorem Sound.step {d d' : Deployment W n T O} {event : Event W n T O} (h : Sound site d)
    (hrearrange : Rearranges site.rearrange) (hW : 0 < W) (horderly : site.Orderly d event)
    (hstep : site.Step d event d') : Sound site d' := by
  cases hstep with
  | arrive | forward =>
    refine ⟨fun e' => ?_, h.serves, h.phase.congr (fun e' => ?_) (fun e' => ?_) rfl rfl⟩
    · exact (Deployment.setEngine_field EngineCore.remapFailed (by rfl) e').trans (h.healthy e')
    · exact Deployment.setEngine_field EngineCore.status (by rfl) e'
    · exact Deployment.setEngine_field EngineCore.inbox (by rfl) e'
  | applyPlan plan =>
    refine ⟨fun e => ?_, ?_, Phase.applyPlan horderly.1 horderly.2⟩
    · unfold Deployment.applyExpertPlacementPlan
      split_ifs
      · exact h.healthy e
      · exact h.healthy e
    · unfold Deployment.applyExpertPlacementPlan
      split_ifs
      · exact h.serves
      · exact h.serves
  | verifyPlan plan => exact ⟨h.healthy, h.serves, Phase.verifyPlan horderly.1 horderly.2⟩
  | handle hrunning hinbox =>
    refine ⟨h.phase.healthy_handle h.healthy hinbox, ?_, h.phase.handle hrunning hinbox⟩
    rw [Site.handle_models]
    exact h.serves
  | decide hcall hanswers =>
    refine ⟨fun e => ?_, ?_, h.phase.decide hcall hanswers⟩
    · unfold Deployment.decide
      dsimp only
      split_ifs
      · exact h.healthy e
      · exact h.healthy e
    · unfold Deployment.decide
      dsimp only
      split_ifs
      · exact h.serves
      · exact h.serves
  | refuse hinside _ hrefuses => exact absurd ((h.phase.admitted hinside).1.accepts _) hrefuses
  | complete hinside hrun =>
    obtain ⟨-, hclosed, hempty⟩ := h.phase.admitted (hinside.2 ⟨0, hinside.1⟩)
    exact ⟨h.healthy, allServe_of_remap hrearrange hrun,
      .quiet ⟨fun _ => rfl, fun e => (hempty e _ (hinside.2 e)).2, hclosed⟩⟩
  | collapse hinside hfails =>
    obtain ⟨plan, hplan⟩ := hinside.2 ⟨0, hinside.1⟩
    have hall : d.Inside plan := by
      refine ⟨hinside.1, fun e => ?_⟩
      obtain ⟨plan', hplan'⟩ := hinside.2 e
      obtain ⟨rfl, -⟩ := (h.phase.admitted hplan).2.2 e plan' hplan'
      exact hplan'
    exact absurd (h.exists_models hrearrange hW hall) (hfails plan hall)

/-- **Remaps do not fail.**  The calls begin one at a time, no engine is in a forward pass while one
is under way, the plans require nothing of the hosts, a live plan is verified where it is in place,
and the layers serve in the beginning.  Then, however the messages and the requests of the engines
interleave, no engine ever fails and none is left behind in a remap that broke down; the plan of an
engine inside a remap is accepted by all workers; and a remap that all engines have entered ends. -/
theorem remaps_never_fail (hrearrange : Rearranges site.rearrange) (hW : 0 < W)
    {start d : Deployment W n T O} (hquiet : start.Quiet)
    (hhealthy : ∀ e, (start.engines e).remapFailed = false) (hserves : AllServe start.models)
    (hreach : Runs.Reachable (· = start) site.Step site.Orderly d) :
    (∀ e, (d.engines e).remapFailed = false ∧ (d.engines e).status ≠ .hung) ∧
    (∀ e plan, (d.engines e).status = .inside plan → ∀ r, site.Accepts d.models plan r) ∧
    ∀ plan, d.Inside plan → ∃ d', site.Step d .complete d' := by
  have hsound : Sound site d := by
    refine hreach.invariant (Sound site) ?_ fun d event d' h horderly hstep =>
      h.step hrearrange hW horderly hstep
    rintro d rfl
    exact ⟨hhealthy, hserves, .quiet hquiet⟩
  refine ⟨fun e => ⟨hsound.healthy e, fun hhung => ?_⟩,
    fun e plan hinside => (hsound.phase.admitted hinside).1.accepts, fun plan hinside => ?_⟩
  · cases hsound.phase with
    | quiet h => exact EngineStatus.noConfusion ((h.running e).symm.trans hhung)
    | preparing _ _ _ _ _ _ hengines =>
      exact EngineStatus.noConfusion ((hengines e).expects.1.symm.trans hhung)
    | verifying _ _ _ hengines => exact EngineStatus.noConfusion ((hengines e).1.symm.trans hhung)
    | applying plan _ _ _ _ _ hengines =>
      obtain hwaiting | ⟨hstatus, -, -⟩ := hengines e
      · exact EngineStatus.noConfusion (hwaiting.1.symm.trans hhung)
      · exact EngineStatus.noConfusion (hstatus.symm.trans hhung)
  · obtain ⟨models, hrun⟩ := hsound.exists_models hrearrange hW hinside
    exact ⟨_, .complete hinside hrun⟩

/-- After a remap that ended all engines verify its plan, so that verifying it is orderly. -/
theorem Site.verified_of_remap (hrearrange : Rearranges site.rearrange)
    {models models' : Fin W → Model T O} {plan : HookPlan}
    (hrun : remapExpertWeights site.rearrange site.digest site.bump site.enabled site.hosts models
      plan.remap = .ok models')
    (hranks : RanksNamed plan.remap) (hnames : ∀ r, PlainNumbers (models r))
    (hplain : ∀ m : FusedMoE T, m.enableEplb = false → site.logicalToPhysical m = [])
    (hworkers : ∀ e, site.workers e ≠ []) : site.Verified models' plan := by
  intro e
  refine Bool.and_eq_true_iff.mpr ⟨?_, List.all_eq_true.mpr fun snapshot hsnapshot => ?_⟩
  · simpa using hworkers e
  · obtain ⟨r, -, rfl⟩ := List.mem_map.mp hsnapshot
    exact verified_after_remap hrearrange hrun hranks hnames site.logicalToPhysical hplain r _ _

/-- An engine that verifies a live plan which is not in place stops for good.  A backend verifies
after every apply, also after one that the preflight refused. -/
theorem verify_stops {d d' : Deployment W n T O} {e : Fin n} {plan : HookPlan} (rest : List Message)
    (hlive : plan.remap.liveExpertRemap = true)
    (hplace : (site.verify d.models e plan).success = false)
    (hreach : Runs.Reachable (· = site.handle d e rest (.verify plan)) site.Step
      (fun _ _ => True) d')
    (hqueue : (d'.engines e).batchQueue = false) : ¬ (d'.engines e).Steps := by
  refine EngineCore.Stopped.not_steps ?_ hqueue
  refine hreach.invariant (fun d => (d.engines e).Stopped) ?_ fun _ _ _ h _ hstep => hstep.stopped h
  rintro d₁ rfl
  rw [Site.handle, Deployment.setEngine_self]
  refine Or.inl ?_
  show ((d.engines e).remapFailed ||
    plan.remap.liveExpertRemap && !(site.verify d.models e plan).success) = true
  rw [hlive, hplace, Bool.not_false, Bool.and_true, Bool.or_true]

end Orderly

/-! ## Two engines that exchange an expert -/

/-- An engine for each of the two ranks. -/
def pairSite : Site 2 2 ℕ (List ℕ) where
  engineOf := id
  workerRank r := r
  enabled _ := true
  hosts _ := ⟨"", "", "", ""⟩
  rearrange := exactRearrange
  digest := id
  bump := 1
  logicalToPhysical _ := []

/-- Nothing has happened yet. -/
def pairDeployment : Deployment 2 2 ℕ Unit where
  engines _ := ⟨false, false, false, false, false, .running, []⟩
  models := pairGroup
  calls := []

/-- The exchange, as a caller asks for it. -/
def exchangeHook : HookPlan := ⟨exchangePlan, false, false, false, .empty⟩

/-- The answers of both engines to the preflight. -/
def exchangePreflight : Preflight 2 where
  plan := coordinatePlan 2 exchangeHook
  answers e := some (pairSite.prepare pairDeployment e (coordinatePlan 2 exchangeHook))

theorem exists_exchange : ∃ models', exchange = .ok models' := by
  cases hrun : exchange with
  | ok models' => exact ⟨models', rfl⟩
  | error e =>
    have hok : exchange.toOption.isSome = true := by decide +kernel
    rw [hrun] at hok
    exact absurd hok Bool.false_ne_true

theorem allServe_pairGroup : AllServe pairGroup := by
  obtain ⟨models', hrun⟩ := exists_exchange
  intro l
  rcases remap_layer rearranges_exactRearrange hrun l with hnone | ⟨E, group, _, maps, _, h, -⟩
  · exact Or.inl fun r => (hnone r).1
  · exact Or.inr ⟨E, group, maps, h⟩

theorem quiet_pairDeployment : pairDeployment.Quiet :=
  ⟨fun _ => rfl, fun _ => rfl, fun _ => List.not_mem_nil⟩

/-- The plan that both engines apply after the preflight. -/
def exchangeBarrier : HookPlan :=
  barrierPlan (coordinatePlan 2 exchangeHook)
    (aggregateDpEngineHookResults ((List.finRange 2).map fun e =>
      pairSite.prepare pairDeployment e (coordinatePlan 2 exchangeHook)))

theorem exchangeBarrier_ready : (aggregateDpEngineHookResults ((List.finRange 2).map fun e =>
    pairSite.prepare pairDeployment e (coordinatePlan 2 exchangeHook))).success = true := by
  decide +kernel

/-- A request has come to the first engine. -/
def servingDeployment : Deployment 2 2 ℕ Unit :=
  pairDeployment.setEngine ⟨0, Nat.two_pos⟩
    { pairDeployment.engines ⟨0, Nat.two_pos⟩ with unfinished := true }

theorem quiet_servingDeployment : servingDeployment.Quiet :=
  ⟨Fin.forall_fin_two.mpr ⟨rfl, rfl⟩, Fin.forall_fin_two.mpr ⟨rfl, rfl⟩,
    fun _ => List.not_mem_nil⟩

/-- When it has been served the engines are as before. -/
theorem reachable_served :
    Runs.Reachable (· = pairDeployment) pairSite.Step pairSite.Orderly pairDeployment := by
  have harrive : pairSite.Step pairDeployment (.arrive 0) servingDeployment := .arrive rfl
  have hserve : pairSite.Step servingDeployment (.forward 0 false) pairDeployment := by
    have hsame : servingDeployment.setEngine 0
        { servingDeployment.engines 0 with unfinished := false } = pairDeployment := by
      refine congrArg (fun engines => (⟨engines, pairGroup, []⟩ : Deployment 2 2 ℕ Unit)) ?_
      exact funext (Fin.forall_fin_two.mpr ⟨rfl, rfl⟩)
    rw [← hsame]
    exact .forward false ⟨rfl, Or.inr rfl⟩
  have horderly : pairSite.Orderly pairDeployment (.arrive 0) := trivial
  have horderly' : pairSite.Orderly servingDeployment (.forward 0 false) := quiet_servingDeployment
  exact .step (.step (.start rfl) horderly harrive) horderly' hserve

/-- Both engines get inside the exchange. -/
theorem exists_inside : ∃ d, Runs.Reachable (· = pairDeployment) pairSite.Step pairSite.Orderly d ∧
    d.Inside exchangeBarrier ∧ d.models = pairGroup ∧
    ∀ e, (d.engines e).batchQueue = false ∧ (d.engines e).remapFailed = false := by
  have next : ∀ {d d' : Deployment 2 2 ℕ Unit} (event : Event 2 2 ℕ Unit),
      Runs.Reachable (· = pairDeployment) pairSite.Step pairSite.Orderly d →
      pairSite.Orderly d event → pairSite.Step d event d' →
      Runs.Reachable (· = pairDeployment) pairSite.Step pairSite.Orderly d' :=
    fun _ h horderly hstep => h.step horderly hstep
  have hasked := next (.applyPlan exchangeHook) reachable_served
    ⟨quiet_pairDeployment, rfl, rfl, rfl⟩
    (.applyPlan pairDeployment exchangeHook)
  have hfirst := next (.handle 0) hasked trivial (.handle rfl rfl)
  have hsecond := next (.handle 1) hfirst trivial (.handle rfl rfl)
  have hanswers : ∀ e, exchangePreflight.answers e =
      some (pairSite.prepare pairDeployment e (coordinatePlan 2 exchangeHook)) := fun _ => rfl
  have hdecided := next (.decide 0) hsecond trivial (.decide (by
    refine congrArg (fun answers =>
      some (some (⟨coordinatePlan 2 exchangeHook, answers⟩ : Preflight 2))) ?_
    exact funext (Fin.forall_fin_two.mpr ⟨rfl, rfl⟩)) hanswers)
  rw [Deployment.decide, if_pos exchangeBarrier_ready] at hdecided
  have hentered := next (.handle 0) hdecided trivial (.handle rfl rfl)
  have hinside := next (.handle 1) hentered trivial (.handle rfl rfl)
  exact ⟨_, hinside, ⟨by decide, Fin.forall_fin_two.mpr ⟨rfl, rfl⟩⟩, rfl,
    Fin.forall_fin_two.mpr ⟨⟨rfl, rfl⟩, ⟨rfl, rfl⟩⟩⟩

/-- The exchange does not fail. -/
theorem remaps_never_fail_exchange :
    ∃ d d' : Deployment 2 2 ℕ Unit, d.Inside exchangeBarrier ∧ pairSite.Step d .complete d' := by
  obtain ⟨d, hreach, hinside, -⟩ := exists_inside
  obtain ⟨d', hstep⟩ := (remaps_never_fail rearranges_exactRearrange (by decide)
    quiet_pairDeployment (fun _ => rfl) allServe_pairGroup hreach).2.2 _ hinside
  exact ⟨d, d', hinside, hstep⟩

/-- After the exchange an engine steps, and finds the layer. -/
theorem forward_serves_exchange :
    ∃ (d : Deployment 2 2 ℕ Unit) (E : ℕ) (group group' : Fin 2 → FusedMoE ℕ)
      (maps maps' : Fin 2 → ExpertMap), (d.engines 0).Steps ∧ Serves pairGroup 0 E group maps ∧
      Serves d.models 0 E group' maps' ∧
      ∀ i < E, expertWeights group' i = expertWeights group i := by
  obtain ⟨d, hreach, hinside, hmodels, hengines⟩ := exists_inside
  have hrun : ∃ models, remapExpertWeights pairSite.rearrange pairSite.digest pairSite.bump
      pairSite.enabled pairSite.hosts d.models exchangeBarrier.remap = .ok models := by
    rw [hmodels]
    cases hrun : remapExpertWeights pairSite.rearrange pairSite.digest pairSite.bump
      pairSite.enabled pairSite.hosts pairGroup exchangeBarrier.remap with
    | ok models => exact ⟨models, rfl⟩
    | error e =>
      have hok : (remapExpertWeights pairSite.rearrange pairSite.digest pairSite.bump
          pairSite.enabled pairSite.hosts pairGroup
          exchangeBarrier.remap).toOption.isSome = true := by decide +kernel
      rw [hrun] at hok
      exact absurd hok Bool.false_ne_true
  obtain ⟨models, hrun⟩ := hrun
  obtain ⟨d', hafter, hsteps, hqueue⟩ : ∃ d',
      Runs.Reachable (· = pairDeployment) pairSite.Step (fun _ _ => True) d' ∧
        (d'.engines 0).Steps ∧ (d'.engines 0).batchQueue = false :=
    ⟨_, (hreach.mono fun _ _ _ => trivial).step trivial (.complete hinside hrun),
      ⟨rfl, Or.inr (hengines 0).2⟩, (hengines 0).1⟩
  rcases allServe_pairGroup 0 with hnone | ⟨E, group, maps, hserves⟩
  · have hsome : (moeLayer (pairGroup 0) 0).isSome = true := by decide +kernel
    rw [hnone 0] at hsome
    exact absurd hsome Bool.false_ne_true
  · obtain ⟨group', maps', hserves', hweights⟩ :=
      forward_serves rearranges_exactRearrange hafter hsteps hqueue hserves 0
    exact ⟨d', E, group, group', maps, maps', hsteps, hserves, hserves', hweights⟩

end ExpertRemap
end SpotServe
