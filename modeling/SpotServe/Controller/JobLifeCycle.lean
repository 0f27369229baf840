import SpotServe.Controller.FineTuningJobs
import SpotServe.Library.Runs

/-!
# The life of a fine-tuning job

A job is `pending`, then `running`, then `completed` or `failed`.  Only the processor starts jobs
and it starts them one after the other, from a list of jobs nobody else can start; and
`cancel_ft_job` never gets as far as its write.  So a job is marked `running` at most once and its
last status stays, in every run.

`_start_ft_job` catches `asyncio.TimeoutError`, and what a download raises.  Any other exception
leaves it, ends the task of the processor, and leaves the job `running` for ever.  A job whose
configuration names no `ft_backend` is enough for that.

* `Sound.step`: what any step keeps.
* `followsLifeCycle_step_iff`: the steps after which every running job still has the processor.
* `followsLifeCycle_of_careful`: the runs of such steps.
-/

namespace SpotServe
namespace Controller

open Py

/-- A status that is not replaced. -/
def JobStatus.Terminal : JobStatus → Prop
  | .completed | .failed | .cancelled => True
  | .pending | .running => False

/-- The statuses written for a job, from the first on: it is started once, and then ends once. -/
def IsLife : List JobStatus → Prop
  | [] | [.running] => True
  | [.running, final] => final.Terminal
  | _ => False

/-- The job that the processor is at. -/
def Processor.attends : Processor → Option String
  | .working _ entry _ _ => some entry.1
  | _ => none

/-- What has been written for the job when the phase begins. -/
def JobPhase.before : JobPhase → List JobStatus
  | .marking => []
  | _ => [.running]

/-- The status to be written last is one. -/
def JobPhase.EndsWell : JobPhase → Prop
  | .finishing status _ => status.Terminal
  | _ => True

/-- The exceptions that leave `_start_ft_job` when the job is `running`. -/
def GoesUp (config : JobConfig) : JobPhase → JobEvent → Prop
  | .marking, .returns => config.model = none
  | .finding, .modelInfo true | .downloading, .returns => config.ftBackend = none
  | .starting, .returns => ¬ config.TakesJobId
  | .finding, .raises _ | .starting, .raises _ | .fineTuning, .raises _
  | .finishing _ _, .raises _ => True
  | _, _ => False

instance (config : JobConfig) (phase : JobPhase) (event : JobEvent) :
    Decidable (GoesUp config phase event) := by
  unfold GoesUp
  split <;> infer_instance

namespace JobsState

variable {s s' : JobsState}

/-- What has been written for a job. -/
def statuses (s : JobsState) (jobId : String) : List JobStatus :=
  (s.written.filter fun entry => entry.1 = jobId).map Prod.snd

/-- The life cycle of the jobs. -/
structure FollowsLifeCycle (s : JobsState) : Prop where
  /-- A job is started at most once. -/
  once : ∀ jobId, (s.statuses jobId).count .running ≤ 1
  /-- Its status moves forward. -/
  forward : ∀ jobId, IsLife (s.statuses jobId)
  /-- It has the status that was written last. -/
  current : ∀ jobId job, s.store.get? jobId = some job →
    job.status = (s.statuses jobId).getLast?.getD .pending
  /-- While it is `running`, the processor is at it. -/
  attended : ∀ jobId job, s.store.get? jobId = some job → job.status = .running →
    s.processor.attends = some jobId

/-- No exception leaves `_start_ft_job` at this step. -/
def Careful (s : JobsState) (a : JobsAction) : Prop :=
  match s.processor, a with
  | .working phase entry _ _, .job event => ¬ GoesUp entry.2.config phase event
  | _, _ => True

instance (s : JobsState) (a : JobsAction) : Decidable (s.Careful a) := by
  unfold Careful
  split <;> infer_instance

/-! ## Writing a status -/

theorem statuses_updateStatus (s : JobsState) (jobId : String) (status : JobStatus)
    (error : Option String) (id : String) :
    (s.updateStatus jobId status error).statuses id =
      if jobId = id then s.statuses id ++ [status] else s.statuses id := by
  unfold statuses updateStatus
  split_ifs with h <;> simp [h]

theorem statuses_updateStatus_self (s : JobsState) (jobId : String) (status : JobStatus)
    (error : Option String) :
    (s.updateStatus jobId status error).statuses jobId = s.statuses jobId ++ [status] := by
  rw [statuses_updateStatus, if_pos rfl]

theorem statuses_updateStatus_of_ne (s : JobsState) {jobId id : String} (hne : jobId ≠ id)
    (status : JobStatus) (error : Option String) :
    (s.updateStatus jobId status error).statuses id = s.statuses id := by
  rw [statuses_updateStatus, if_neg hne]

theorem get?_updateStatus (store : FineTuningJobStore) (jobId : String) (status : JobStatus)
    (error : Option String) (id : String) :
    (store.updateStatus jobId status error).get? id = (store.get? id).map fun job =>
      if jobId = id then { job with status := status, error := error <|> job.error } else job := by
  unfold FineTuningJobStore.updateStatus
  by_cases heq : jobId = id
  · subst heq
    cases hget : store.get? jobId with
    | none => simp [hget]
    | some job => simp
  · simp only [heq, if_false, Option.map_id_fun']
    split
    · rw [OrderedDict.get?_set_of_ne _ _ heq]
      rfl
    · rfl

theorem mem_keys_updateStatus {store : FineTuningJobStore} {jobId : String} {status : JobStatus}
    {error : Option String} {id : String} :
    id ∈ (store.updateStatus jobId status error).keys ↔ id ∈ store.keys := by
  rw [← not_iff_not, ← OrderedDict.get?_eq_none_iff, get?_updateStatus, Option.map_eq_none_iff,
    OrderedDict.get?_eq_none_iff]

/-! ## What holds in every run -/

/-- Jobs that wait to be started. -/
def Waiting (s : JobsState) (ids : List String) : Prop :=
  ids.Nodup ∧ ∀ id ∈ ids, id ∈ s.store.keys ∧ s.statuses id = []

/-- What the processor has read is true still. -/
def ProcessorSound (s : JobsState) : Prop :=
  match s.processor with
  | .polled pending => s.Waiting (pending.map Prod.fst)
  | .working phase entry rest _ =>
    entry.1 ∈ s.store.keys ∧ s.statuses entry.1 = phase.before ∧ phase.EndsWell ∧
      entry.1 ∉ rest.map Prod.fst ∧ s.Waiting (rest.map Prod.fst)
  | .polling | .sleeping | .ended => True

/-- The invariant. -/
structure Sound (s : JobsState) : Prop where
  known : ∀ id, id ∉ s.store.keys → s.statuses id = []
  current : ∀ id job, s.store.get? id = some job →
    job.status = (s.statuses id).getLast?.getD .pending
  life : ∀ id, IsLife (s.statuses id)
  cancelling : s.cancelling = []
  processor : s.ProcessorSound

theorem isLife_eq_nil {l : List JobStatus} (h : IsLife l) (hlast : l.getLast?.getD .pending = .pending) :
    l = [] := by
  match l, h with
  | [], _ => rfl
  | [.running], _ => exact absurd hlast (by simp)
  | [.running, final], h =>
    obtain rfl : final = .pending := by simpa using hlast
    exact h.elim

theorem isLife_eq_running {l : List JobStatus} (h : IsLife l)
    (hlast : l.getLast?.getD .pending = .running) : l = [.running] := by
  match l, h with
  | [], _ => exact absurd hlast (by simp)
  | [.running], _ => rfl
  | [.running, final], h =>
    obtain rfl : final = .running := by simpa using hlast
    exact h.elim

theorem count_running_of_isLife {l : List JobStatus} (h : IsLife l) : l.count .running ≤ 1 := by
  match l, h with
  | [], _ | [.running], _ => decide
  | [.running, final], h =>
    cases final with
    | running => exact h.elim
    | pending | completed | failed | cancelled => decide

theorem Sound.eq_nil_of_pending (h : s.Sound) {id : String} {job : Job}
    (hget : s.store.get? id = some job) (hpending : job.status = .pending) : s.statuses id = [] :=
  isLife_eq_nil (h.life id) ((h.current id job hget).symm.trans hpending)

theorem Sound.eq_of_running (h : s.Sound) {id : String} {job : Job}
    (hget : s.store.get? id = some job) (hrunning : job.status = .running) :
    s.statuses id = [.running] :=
  isLife_eq_running (h.life id) ((h.current id job hget).symm.trans hrunning)

/-- The jobs that `get_pending_jobs` reads wait to be started. -/
theorem Sound.waiting_getPendingJobs (h : s.Sound) :
    s.Waiting (s.store.getPendingJobs.map Prod.fst) := by
  refine ⟨(List.filter_sublist.map Prod.fst).nodup s.store.nodup, fun id hid => ?_⟩
  obtain ⟨⟨id, job⟩, hmem, rfl⟩ := List.mem_map.mp hid
  obtain ⟨hentry, hpending⟩ := List.mem_filter.mp hmem
  have hget : s.store.get? id = some job := (OrderedDict.mem_entries_iff _).mp hentry
  exact ⟨(OrderedDict.mem_keys_iff _).mpr ⟨job, hget⟩,
    h.eq_nil_of_pending hget (of_decide_eq_true hpending)⟩

theorem Waiting.sortedJobs {pending : List JobEntry} (h : s.Waiting (pending.map Prod.fst)) :
    s.Waiting ((sortedJobs pending).map Prod.fst) := by
  have hperm : ((Controller.sortedJobs pending).map Prod.fst).Perm (pending.map Prod.fst) :=
    (List.perm_insertionSort _ pending).map Prod.fst
  exact ⟨hperm.nodup_iff.mpr h.1, fun id hid => h.2 id (hperm.mem_iff.mp hid)⟩

theorem processorSound_scan {jobs : List JobEntry} (h : s.Waiting (jobs.map Prod.fst))
    (available : AvailableResources) :
    ProcessorSound { s with processor := scan available jobs } := by
  induction jobs with
  | nil => trivial
  | cons entry rest ih =>
    obtain ⟨hnodup, hmem⟩ := h
    obtain ⟨hnot, hnodup⟩ := List.nodup_cons.mp hnodup
    obtain ⟨hkey, hnil⟩ := hmem _ List.mem_cons_self
    have hrest : s.Waiting (rest.map Prod.fst) :=
      ⟨hnodup, fun id hid => hmem id (List.mem_cons_of_mem _ hid)⟩
    unfold scan
    split_ifs
    · exact ⟨hkey, hnil, trivial, hnot, hrest⟩
    · exact ih hrest

/-! ## Steps of `_start_ft_job` -/

/-- What a step of `_start_ft_job` does to the store and to the coroutine. -/
inductive JobStep (s : JobsState) (jobId : String) (phase : JobPhase) (goesUp : Prop) :
    JobsState → JobNext → Prop
  | marks : phase = .marking → ¬ goesUp →
    JobStep s jobId phase goesUp (s.updateStatus jobId .running none) (.awaits .finding)
  | marksInVain : phase = .marking → goesUp →
    JobStep s jobId phase goesUp (s.updateStatus jobId .running none) .raised
  | givesUp : phase = .marking → ¬ goesUp → JobStep s jobId phase goesUp s .raised
  | goesOn {phase' : JobPhase} : phase.before = [.running] → ¬ goesUp →
    phase'.before = [.running] → phase'.EndsWell → JobStep s jobId phase goesUp s (.awaits phase')
  | fails : phase.before = [.running] → goesUp → JobStep s jobId phase goesUp s .raised
  | ends {status : JobStatus} {error : Option String} : phase = .finishing status error →
    ¬ goesUp → JobStep s jobId phase goesUp (s.updateStatus jobId status error) .done

theorem JobStep.createRouter {config : JobConfig} {phase : JobPhase}
    (hbefore : phase.before = [.running]) (s : JobsState) (jobId : String) :
    JobStep s jobId phase (config.ftBackend = none) s (createRouter config) := by
  unfold Controller.createRouter
  cases hbackend : config.ftBackend with
  | none => exact .fails hbefore rfl
  | some backend => exact .goesOn hbefore (Option.some_ne_none _) rfl trivial

theorem jobStep_of_startFtJob {config : JobConfig} {phase : JobPhase} {event : JobEvent}
    {next : JobNext} (h : startFtJob config phase event = some next) (s : JobsState)
    (jobId : String) :
    JobStep s jobId phase (GoesUp config phase event) (s.record jobId phase event) next := by
  cases phase with
  | marking =>
    cases event with
    | returns =>
      obtain rfl := Option.some.inj h
      show JobStep _ _ _ (config.model = none) _ _
      cases hmodel : config.model with
      | none => exact .marksInVain rfl rfl
      | some model => exact .marks rfl (Option.some_ne_none _)
    | raises =>
      obtain rfl := Option.some.inj h
      exact .givesUp rfl not_false
    | modelInfo | result | timeout => exact absurd h (by simp [startFtJob])
  | finding =>
    cases event with
    | modelInfo found =>
      cases found with
      | true =>
        obtain rfl := Option.some.inj h
        exact .createRouter rfl s jobId
      | false =>
        obtain rfl := Option.some.inj h
        exact .goesOn rfl not_false rfl trivial
    | raises =>
      obtain rfl := Option.some.inj h
      exact .fails rfl trivial
    | returns | result | timeout => exact absurd h (by simp [startFtJob])
  | downloading =>
    cases event with
    | returns =>
      obtain rfl := Option.some.inj h
      exact .createRouter rfl s jobId
    | raises =>
      obtain rfl := Option.some.inj h
      exact .goesOn rfl not_false rfl trivial
    | modelInfo | result | timeout => exact absurd h (by simp [startFtJob])
  | starting =>
    cases event with
    | returns =>
      obtain rfl := Option.some.inj h
      by_cases htakes : config.TakesJobId
      · rw [if_pos htakes]
        exact .goesOn rfl (not_not.mpr htakes) rfl trivial
      · rw [if_neg htakes]
        exact .fails rfl htakes
    | raises =>
      obtain rfl := Option.some.inj h
      exact .fails rfl trivial
    | modelInfo | result | timeout => exact absurd h (by simp [startFtJob])
  | fineTuning =>
    cases event with
    | result error =>
      cases error with
      | none | some =>
        obtain rfl := Option.some.inj h
        exact .goesOn rfl not_false rfl trivial
    | timeout =>
      obtain rfl := Option.some.inj h
      exact .goesOn rfl not_false rfl trivial
    | raises =>
      obtain rfl := Option.some.inj h
      exact .fails rfl trivial
    | returns | modelInfo => exact absurd h (by simp [startFtJob])
  | finishing status error =>
    cases event with
    | returns =>
      obtain rfl := Option.some.inj h
      exact .ends rfl not_false
    | raises =>
      obtain rfl := Option.some.inj h
      exact .fails rfl trivial
    | modelInfo | result | timeout => exact absurd h (by simp [startFtJob])

/-! ## One step -/

theorem cancelFtJob_ne_asks (store : FineTuningJobStore) (hasActor : Bool) (jobId : String) :
    cancelFtJob store hasActor jobId ≠ .asks := by
  have hmethod : "cancel" ∉ routerMethods := by decide
  unfold cancelFtJob
  split
  · simp
  · split_ifs
    all_goals simp

/-- What a step does.  `cancel_ft_job` never gets as far as asking the router. -/
inductive JobsStep (s : JobsState) : JobsAction → JobsState → Prop
  | registers {jobId : String} {config : JobConfig} {createdTime : String} :
    jobId ∉ s.store.keys → JobsStep s (.register jobId config createdTime)
      { s with store := s.store.set jobId (newJob config createdTime) }
  | polls : s.processor = .polling →
    JobsStep s .poll { s with processor := .polled s.store.getPendingJobs }
  | waits {pending : List JobEntry} : s.processor = .polled pending →
    JobsStep s (.schedule none) { s with processor := .polling }
  | schedules {pending : List JobEntry} {available : AvailableResources} :
    s.processor = .polled pending → JobsStep s (.schedule (some available))
      { s with processor := scan available (sortedJobs pending) }
  | works {phase : JobPhase} {entry : JobEntry} {rest : List JobEntry}
    {available : AvailableResources} {event : JobEvent} {next : JobNext} :
    s.processor = .working phase entry rest available →
    startFtJob entry.2.config phase event = some next → JobsStep s (.job event)
      { s.record entry.1 phase event with processor := resume entry rest available next }
  | crashes : s.processor.attends = none → JobsStep s .crash { s with processor := .ended }
  | wakes : s.processor = .sleeping → JobsStep s .wake { s with processor := .polling }
  | cancels {jobId : String} {hasActor : Bool} : JobsStep s (.cancel jobId hasActor) s
  | cancelled {jobId : String} : jobId ∈ s.cancelling → JobsStep s (.cancelled jobId)
      { s.updateStatus jobId .cancelled none with cancelling := s.cancelling.erase jobId }

theorem jobsStep_of_step {a : JobsAction} (hstep : s.step a = some s') : JobsStep s a s' := by
  cases a with
  | register jobId config createdTime =>
    simp only [JobsState.step] at hstep
    split_ifs at hstep with hmem
    obtain rfl := Option.some.inj hstep
    exact .registers hmem
  | poll =>
    cases hprocessor : s.processor with
    | polling =>
      obtain rfl : { s with processor := .polled s.store.getPendingJobs } = s' := by
        simpa only [JobsState.step, hprocessor, Option.some.injEq] using hstep
      exact .polls hprocessor
    | polled | working | sleeping | ended =>
      exact absurd hstep (by simp [JobsState.step, hprocessor])
  | schedule available =>
    cases hprocessor : s.processor with
    | polled pending =>
      cases available with
      | none =>
        obtain rfl : { s with processor := .polling } = s' := by
          simpa only [JobsState.step, hprocessor, Option.some.injEq] using hstep
        exact .waits hprocessor
      | some available =>
        obtain rfl : { s with processor := scan available (sortedJobs pending) } = s' := by
          simpa only [JobsState.step, hprocessor, Option.some.injEq] using hstep
        exact .schedules hprocessor
    | polling | working | sleeping | ended =>
      exact absurd hstep (by simp [JobsState.step, hprocessor])
  | job event =>
    cases hprocessor : s.processor with
    | working phase entry rest available =>
      simp only [JobsState.step, hprocessor] at hstep
      obtain ⟨next, hnext, rfl⟩ := Option.map_eq_some_iff.mp hstep
      exact .works hprocessor hnext
    | polling | polled | sleeping | ended =>
      exact absurd hstep (by simp [JobsState.step, hprocessor])
  | crash =>
    cases hprocessor : s.processor with
    | polling | polled | sleeping =>
      obtain rfl : { s with processor := .ended } = s' := by
        simpa only [JobsState.step, hprocessor, Option.some.injEq] using hstep
      exact .crashes (congrArg Processor.attends hprocessor)
    | working | ended => exact absurd hstep (by simp [JobsState.step, hprocessor])
  | wake =>
    cases hprocessor : s.processor with
    | sleeping =>
      obtain rfl : { s with processor := .polling } = s' := by
        simpa only [JobsState.step, hprocessor, Option.some.injEq] using hstep
      exact .wakes hprocessor
    | polling | polled | working | ended =>
      exact absurd hstep (by simp [JobsState.step, hprocessor])
  | cancel jobId hasActor =>
    simp only [JobsState.step] at hstep
    split at hstep
    · next hasks => exact absurd hasks (cancelFtJob_ne_asks _ _ _)
    all_goals
      obtain rfl := Option.some.inj hstep
      exact .cancels
  | cancelled jobId =>
    simp only [JobsState.step] at hstep
    split_ifs at hstep with hmem
    obtain rfl := Option.some.inj hstep
    exact .cancelled hmem

/-- A status is written that continues the life of its job. -/
theorem Sound.updateStatus (h : s.Sound) {jobId : String} (hkey : jobId ∈ s.store.keys)
    {status : JobStatus} (hlife : IsLife (s.statuses jobId ++ [status])) (error : Option String)
    {processor : Processor}
    (hprocessor : ProcessorSound { s.updateStatus jobId status error with processor }) :
    Sound { s.updateStatus jobId status error with processor } where
  known id hid := by
    have hid : id ∉ s.store.keys := fun hmem => hid (mem_keys_updateStatus.mpr hmem)
    have hne : jobId ≠ id := fun heq => hid (heq ▸ hkey)
    exact (statuses_updateStatus_of_ne s hne status error).trans (h.known id hid)
  current id job hget := by
    have hget : (s.store.updateStatus jobId status error).get? id = some job := hget
    rw [get?_updateStatus] at hget
    obtain ⟨old, hold, rfl⟩ := Option.map_eq_some_iff.mp hget
    show _ = ((s.updateStatus jobId status error).statuses id).getLast?.getD .pending
    rw [statuses_updateStatus]
    split_ifs
    · simp
    · exact h.current id old hold
  life id := by
    show IsLife ((s.updateStatus jobId status error).statuses id)
    rw [statuses_updateStatus]
    split_ifs with heq
    · exact heq ▸ hlife
    · exact h.life id
  cancelling := h.cancelling
  processor := hprocessor

theorem Waiting.updateStatus {ids : List String} (h : s.Waiting ids) {jobId : String}
    (hnot : jobId ∉ ids) (status : JobStatus) (error : Option String) :
    (s.updateStatus jobId status error).Waiting ids := by
  refine ⟨h.1, fun id hid => ⟨mem_keys_updateStatus.mpr (h.2 id hid).1, ?_⟩⟩
  have hne : jobId ≠ id := fun heq => hnot (heq ▸ hid)
  rw [statuses_updateStatus_of_ne s hne]
  exact (h.2 id hid).2

theorem Sound.job (h : s.Sound) {phase : JobPhase} {entry : JobEntry} {rest : List JobEntry}
    {available : AvailableResources} {event : JobEvent} {next : JobNext}
    (hprocessor : s.processor = .working phase entry rest available)
    (hnext : startFtJob entry.2.config phase event = some next) :
    Sound { s.record entry.1 phase event with processor := resume entry rest available next } := by
  have hsound := h.processor
  unfold ProcessorSound at hsound
  rw [hprocessor] at hsound
  obtain ⟨hkey, hbefore, hends, hnot, hwaiting⟩ := hsound
  generalize s.record entry.1 phase event = r, jobStep_of_startFtJob hnext s entry.1 = hstep
  cases hstep with
  | marks hphase =>
    subst hphase
    have hnil : s.statuses entry.1 = [] := hbefore
    refine h.updateStatus hkey (by rw [hnil]; trivial) none
      ⟨mem_keys_updateStatus.mpr hkey, ?_, trivial, hnot, hwaiting.updateStatus hnot _ _⟩
    exact (statuses_updateStatus_self s entry.1 .running none).trans (by rw [hnil]; rfl)
  | marksInVain hphase =>
    subst hphase
    have hnil : s.statuses entry.1 = [] := hbefore
    exact h.updateStatus hkey (by rw [hnil]; trivial) none trivial
  | givesUp | fails => exact { h with processor := trivial }
  | goesOn hrunning _ hrunning' hends' =>
    exact { h with
      processor := ⟨hkey, hbefore.trans (hrunning.trans hrunning'.symm), hends', hnot, hwaiting⟩ }
  | ends hphase =>
    subst hphase
    have hrunning : s.statuses entry.1 = [.running] := hbefore
    exact h.updateStatus hkey (by rw [hrunning]; exact hends) _
      (processorSound_scan (hwaiting.updateStatus hnot _ _) _)

/-- A new job is pending, and nothing else changes. -/
theorem Sound.register (h : s.Sound) {jobId : String} (hmem : jobId ∉ s.store.keys)
    (config : JobConfig) (createdTime : String) :
    Sound { s with store := s.store.set jobId (newJob config createdTime) } := by
  have hkeys : ∀ {id}, id ∈ s.store.keys →
      id ∈ (s.store.set jobId (newJob config createdTime)).keys :=
    fun hid => OrderedDict.mem_keys_set.mpr (.inr hid)
  have hwaiting : ∀ {ids}, s.Waiting ids → Waiting
      { s with store := s.store.set jobId (newJob config createdTime) } ids :=
    fun hw => ⟨hw.1, fun id hid => ⟨hkeys (hw.2 id hid).1, (hw.2 id hid).2⟩⟩
  refine ⟨fun id hid => h.known id fun hmem => hid (hkeys hmem), fun id job hget => ?_, h.life,
    h.cancelling, ?_⟩
  · by_cases heq : jobId = id
    · subst heq
      obtain rfl : newJob config createdTime = job := by simpa using hget
      show JobStatus.pending = (s.statuses jobId).getLast?.getD .pending
      rw [h.known jobId hmem]
      rfl
    · exact h.current id job ((OrderedDict.get?_set_of_ne _ _ heq).symm.trans hget)
  · have hsound := h.processor
    unfold ProcessorSound at hsound ⊢
    dsimp only
    split
    · next hprocessor =>
      rw [hprocessor] at hsound
      exact hwaiting hsound
    · next hprocessor =>
      rw [hprocessor] at hsound
      obtain ⟨hkey, hbefore, hends, hnot, hw⟩ := hsound
      exact ⟨hkeys hkey, hbefore, hends, hnot, hwaiting hw⟩
    all_goals trivial

/-- **What every step keeps.** -/
theorem Sound.step {a : JobsAction} (h : s.Sound) (hstep : s.step a = some s') : s'.Sound := by
  cases jobsStep_of_step hstep with
  | registers hmem => exact h.register hmem _ _
  | polls => exact { h with processor := h.waiting_getPendingJobs }
  | waits | crashes | wakes => exact { h with processor := trivial }
  | schedules hprocessor =>
    have hwaiting := h.processor
    unfold ProcessorSound at hwaiting
    rw [hprocessor] at hwaiting
    exact { h with processor := processorSound_scan hwaiting.sortedJobs _ }
  | works hprocessor hnext => exact h.job hprocessor hnext
  | cancels => exact h
  | cancelled hmem =>
    rw [h.cancelling] at hmem
    exact absurd hmem List.not_mem_nil

/-! ## The processor is at what runs -/

/-- The processor is at every job that is `running`. -/
def Attended (s : JobsState) : Prop :=
  ∀ jobId, s.statuses jobId = [.running] → s.processor.attends = some jobId

theorem Sound.followsLifeCycle_iff (h : s.Sound) : s.FollowsLifeCycle ↔ s.Attended := by
  refine ⟨fun hlife id hrunning => ?_, fun hattended => ?_⟩
  · have hkey : id ∈ s.store.keys := by
      by_contra hnot
      exact absurd ((h.known id hnot).symm.trans hrunning) (by simp)
    obtain ⟨job, hget⟩ := (OrderedDict.mem_keys_iff _).mp hkey
    refine hlife.attended id job hget ((h.current id job hget).trans ?_)
    rw [hrunning]
    rfl
  · exact
      { once := fun id => count_running_of_isLife (h.life id)
        forward := h.life
        current := h.current
        attended := fun id job hget hrunning => hattended id (h.eq_of_running hget hrunning) }

/-- Steps that write nothing while the processor is at no job. -/
theorem Attended.of_idle (h : s.Attended) (hwritten : s'.written = s.written)
    (hidle : s.processor.attends = none) : s'.Attended := by
  intro id hrunning
  have hattends : s.processor.attends = some id := by
    refine h id ?_
    unfold statuses at hrunning ⊢
    rwa [← hwritten]
  exact absurd (hidle.symm.trans hattends) (by simp)

theorem Attended.job (hsound : s.Sound) (h : s.Attended) {phase : JobPhase} {entry : JobEntry}
    {rest : List JobEntry} {available : AvailableResources} {event : JobEvent} {next : JobNext}
    (hprocessor : s.processor = .working phase entry rest available)
    (hnext : startFtJob entry.2.config phase event = some next) :
    Attended { s.record entry.1 phase event with
      processor := resume entry rest available next } ↔ ¬ GoesUp entry.2.config phase event := by
  have hbefore : s.statuses entry.1 = phase.before := by
    have hprocSound := hsound.processor
    unfold ProcessorSound at hprocSound
    rw [hprocessor] at hprocSound
    exact hprocSound.2.1
  have honly : ∀ id, s.statuses id = [.running] → entry.1 = id := fun id hrunning =>
    Option.some.inj ((congrArg Processor.attends hprocessor).symm.trans (h id hrunning))
  generalize s.record entry.1 phase event = r, jobStep_of_startFtJob hnext s entry.1 = hstep
  cases hstep with
  | marks hphase hnot =>
    refine iff_of_true (fun id hrunning => ?_) hnot
    by_cases heq : entry.1 = id
    · exact congrArg some heq
    · refine congrArg some (honly id ?_)
      exact (statuses_updateStatus_of_ne s heq .running none).symm.trans hrunning
  | marksInVain hphase hgoes =>
    refine iff_of_false (fun hattended => ?_) (not_not.mpr hgoes)
    refine absurd (hattended entry.1 ?_) (by simp [resume, Processor.attends])
    refine (statuses_updateStatus_self s entry.1 .running none).trans ?_
    rw [hbefore, hphase]
    rfl
  | givesUp hphase hnot =>
    refine iff_of_true (fun id hrunning => ?_) hnot
    obtain rfl := honly id hrunning
    rw [hphase] at hbefore
    exact absurd (hbefore.symm.trans hrunning) (by simp [JobPhase.before])
  | goesOn _ hnot =>
    exact iff_of_true (fun id hrunning => congrArg some (honly id hrunning)) hnot
  | fails hrunning hgoes =>
    refine iff_of_false (fun hattended => ?_) (not_not.mpr hgoes)
    exact absurd (hattended entry.1 (hbefore.trans hrunning)) (by simp [resume, Processor.attends])
  | @ends status error hphase hnot =>
    refine iff_of_true (fun id hrunning => ?_) hnot
    rw [hphase] at hbefore
    have hstatuses := statuses_updateStatus s entry.1 status error id
    by_cases heq : entry.1 = id
    · subst heq
      rw [if_pos rfl, hbefore] at hstatuses
      exact absurd (hstatuses.symm.trans hrunning) (by simp [JobPhase.before])
    · rw [if_neg heq] at hstatuses
      exact absurd (honly id (hstatuses.symm.trans hrunning)) heq

theorem careful_of_ne_job {a : JobsAction} (h : ∀ event, a ≠ .job event) : s.Careful a := by
  unfold Careful
  split
  · next event hprocessor => exact absurd rfl (h event)
  · trivial

theorem Attended.step {a : JobsAction} (hsound : s.Sound) (h : s.Attended)
    (hstep : s.step a = some s') : s'.Attended ↔ s.Careful a := by
  cases jobsStep_of_step hstep with
  | works hprocessor hnext =>
    unfold Careful
    rw [hprocessor]
    exact h.job hsound hprocessor hnext
  | registers => exact iff_of_true h (careful_of_ne_job (by simp))
  | polls hprocessor | waits hprocessor | schedules hprocessor | wakes hprocessor =>
    refine iff_of_true ?_ (careful_of_ne_job (by simp))
    exact h.of_idle rfl (congrArg Processor.attends hprocessor)
  | crashes hidle => exact iff_of_true (h.of_idle rfl hidle) (careful_of_ne_job (by simp))
  | cancels => exact iff_of_true h (careful_of_ne_job (by simp))
  | cancelled hmem =>
    rw [hsound.cancelling] at hmem
    exact absurd hmem List.not_mem_nil

/-- The steps after which the jobs still follow their life cycle are the careful ones. -/
theorem followsLifeCycle_step_iff {a : JobsAction} (hsound : s.Sound) (h : s.FollowsLifeCycle)
    (hstep : s.step a = some s') : s'.FollowsLifeCycle ↔ s.Careful a := by
  rw [(hsound.step hstep).followsLifeCycle_iff]
  exact (hsound.followsLifeCycle_iff.mp h).step hsound hstep

/-! ## Runs -/

/-- The runs of a controller, from its start on. -/
abbrev ReachableBy (allowed : JobsState → JobsAction → Prop) : JobsState → Prop :=
  Runs.Reachable (fun s => s = {}) (fun s a s' => s.step a = some s') allowed

theorem sound_start : Sound {} where
  known _ _ := rfl
  current _ _ hget := absurd hget (by simp)
  life _ := trivial
  cancelling := rfl
  processor := trivial

/-- In every run, a job is started at most once, and its status only moves forward. -/
theorem sound_of_reachable {allowed : JobsState → JobsAction → Prop} (h : ReachableBy allowed s) :
    s.Sound :=
  h.invariant Sound (fun s hs => by subst hs; exact sound_start)
    fun _ _ _ hsound _ hstep => hsound.step hstep

/-- **Fine-tuning jobs follow their life cycle**, in runs of careful steps. -/
theorem followsLifeCycle_of_careful (h : ReachableBy Careful s) : s.FollowsLifeCycle := by
  have hboth : s.Sound ∧ s.Attended := by
    refine h.invariant (fun s => s.Sound ∧ s.Attended) (fun s hs => ?_) ?_
    · subst hs
      exact ⟨sound_start, fun id hrunning => absurd hrunning (by simp [statuses])⟩
    · rintro s a s' ⟨hsound, hattended⟩ hcareful hstep
      exact ⟨hsound.step hstep, (hattended.step hsound hstep).mpr hcareful⟩
  exact hboth.1.followsLifeCycle_iff.mpr hboth.2

/-- The processor looks for jobs, with two CPUs and a GPU in the cluster. -/
def lookForJobs : List JobsAction := [.poll, .schedule (some ⟨2, 1⟩)]

/-- A job that completes while it is being cancelled, and one for which there is no room. -/
theorem followsLifeCycle_twoJobs : ∃ s : JobsState, ReachableBy Careful s ∧
    s.written = [("a", .running), ("a", .completed)] ∧ s.store.keys = ["a", "b"] ∧
      s.FollowsLifeCycle := by
  have hrun : (Runs.attempt JobsState.step Careful
      ([.register "a" { model := some "m", ftBackend := some (.str "peft_lora") } "09:00",
          .register "b" { model := some "m", numGpus := some 4 } "09:01"] ++ lookForJobs ++
        [.job .returns, .job (.modelInfo false), .job .returns, .cancel "a" true, .job .returns,
          .job (.result none), .cancel "a" true, .job .returns, .wake]) {}).map
      (fun s => (s.written, s.store.keys)) =
        some ([("a", .running), ("a", .completed)], ["a", "b"]) := by
    decide +kernel
  obtain ⟨s, hs, heq⟩ := Option.map_eq_some_iff.mp hrun
  have hreachable : ReachableBy Careful s := .attempt (.start rfl) hs
  injection heq with hwritten hkeys
  exact ⟨s, hreachable, hwritten, hkeys, followsLifeCycle_of_careful hreachable⟩

/-- A job names no `ft_backend`: it stays `running`, and the processor is gone. -/
theorem not_followsLifeCycle_noBackend : ∃ s : JobsState, ReachableBy (fun _ _ => True) s ∧
    s.written = [("a", .running)] ∧ s.processor.attends = none ∧ ¬ s.FollowsLifeCycle := by
  have hrun : (Runs.attempt JobsState.step (fun _ _ => True)
      ([.register "a" { model := some "m" } "09:00"] ++ lookForJobs ++
        [.job .returns, .job (.modelInfo true)]) {}).map
      (fun s => (s.written, s.processor.attends)) = some ([("a", .running)], none) := by
    decide +kernel
  obtain ⟨s, hs, heq⟩ := Option.map_eq_some_iff.mp hrun
  have hreachable : ReachableBy (fun _ _ => True) s := .attempt (.start rfl) hs
  injection heq with hwritten hattends
  refine ⟨s, hreachable, hwritten, hattends, fun h => ?_⟩
  have hattended := (sound_of_reachable hreachable).followsLifeCycle_iff.mp h
  have hrunning : s.statuses "a" = [.running] := by
    unfold statuses
    rw [hwritten]
    rfl
  exact absurd (hattends.symm.trans (hattended "a" hrunning)) (by simp)

end JobsState

end Controller
end SpotServe
