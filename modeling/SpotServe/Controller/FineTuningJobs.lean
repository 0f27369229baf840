import Mathlib.Data.List.Sort
import SpotServe.Library.OrderedDict
import SpotServe.Library.PyValue

/-!
# Fine-tuning jobs

Jobs are kept by an actor, `FineTuningJobStore` (`sllm/fine_tuning_job_store.py`).  One task of the
controller (`sllm/controller.py`), `_process_ft_jobs`, reads the pending ones, puts them in order
and starts those for which the cluster has room, one after the other; `_start_ft_job` takes a job
from its first status to its last.  `cancel_ft_job` may be called at any time.

Each coroutine is cut at its awaits.  What the cluster, the store manager and the fine-tuning router
answer is left open, and so is when a call to one of them raises.

`cancel_ft_job` asks the router of the job to cancel.  That router is a `RoundRobinRouter`, which has
no such method, so the handle of the actor raises; the write that would follow is modelled too.
-/

namespace SpotServe
namespace Controller

open Py

/-! ## The job store -/

inductive JobStatus where
  | pending | running | completed | failed | cancelled
  deriving DecidableEq

/-- The entries of a job configuration that the controller reads; `none` where there is none. -/
structure JobConfig where
  model : Option String := none
  ftBackend : Option Value := none
  backendConfig : Option Value := none
  numCpus : Option ℚ := none
  numGpus : Option ℚ := none
  priority : Option ℚ := none

/-- A job, `job_info`. -/
structure Job where
  config : JobConfig
  status : JobStatus
  /-- `created_time`, as `isoformat` prints it. -/
  createdTime : String
  priority : ℚ
  error : Option String := none

/-- A job with its id. -/
abbrev JobEntry := String × Job

/-- The jobs, by their ids. -/
abbrev FineTuningJobStore := OrderedDict String Job

/-- The job that `register_ft_job` adds. -/
def newJob (config : JobConfig) (createdTime : String) : Job :=
  { config := config
    status := .pending
    createdTime := createdTime
    priority := config.priority.getD 0 }

/-- `get_pending_jobs` -/
def FineTuningJobStore.getPendingJobs (store : FineTuningJobStore) : List JobEntry :=
  store.entries.filter fun entry => entry.2.status = .pending

/-- `update_status`, which checks nothing but that there is such a job. -/
def FineTuningJobStore.updateStatus (store : FineTuningJobStore) (jobId : String)
    (status : JobStatus) (error : Option String) : FineTuningJobStore :=
  match store.get? jobId with
  | some job => store.set jobId { job with status := status, error := error <|> job.error }
  | none => store

/-! ## `_start_ft_job` -/

/-- What `_start_ft_job` waits for. -/
inductive JobPhase where
  /-- The status is being set to `running`. -/
  | marking
  /-- `get_model_info` -/
  | finding
  /-- `store_manager.register` -/
  | downloading
  /-- `start` of the router. -/
  | starting
  /-- `fine_tuning` of the router, under `wait_for`. -/
  | fineTuning
  /-- The last status is being set. -/
  | finishing (status : JobStatus) (error : Option String)

/-- How a wait ends. -/
inductive JobEvent where
  /-- The call returns. -/
  | returns
  /-- `get_model_info` returns. -/
  | modelInfo (found : Bool)
  /-- `fine_tuning` returns, with the text of an error or without. -/
  | result (error : Option String)
  /-- `wait_for` gives up. -/
  | timeout
  /-- Any other exception. -/
  | raises (message : String)

/-- What follows. -/
inductive JobNext where
  | awaits (phase : JobPhase)
  | done
  /-- An exception leaves `_start_ft_job`. -/
  | raised

/-- `job_backend_config["job_id"] = job_id` goes through: the backend configuration is a
dictionary, as it is by default. -/
def JobConfig.TakesJobId (config : JobConfig) : Prop :=
  match config.backendConfig with
  | none | some (.dict _) => True
  | some _ => False

instance (config : JobConfig) : Decidable config.TakesJobId := by
  unfold JobConfig.TakesJobId
  split <;> infer_instance

/-- The model is there, and a router is made for the job: its configuration has to name a
`ft_backend` by now. -/
def createRouter (config : JobConfig) : JobNext :=
  if config.ftBackend.isSome then .awaits .starting else .raised

/-- What a failed download leaves as the error. -/
def downloadError (config : JobConfig) (message : String) : String :=
  "Failed to download model " ++ config.model.getD "" ++ ": " ++ message

/-- `_start_ft_job`, from one wait to the next. -/
def startFtJob (config : JobConfig) : JobPhase → JobEvent → Option JobNext
  | .marking, .returns =>
    -- `job_info["config"]["model"]`
    some (if config.model.isSome then .awaits .finding else .raised)
  | .finding, .modelInfo true => some (createRouter config)
  | .finding, .modelInfo false => some (.awaits .downloading)
  | .downloading, .returns => some (createRouter config)
  | .downloading, .raises message =>
    some (.awaits (.finishing .failed (some (downloadError config message))))
  | .starting, .returns => some (if config.TakesJobId then .awaits .fineTuning else .raised)
  | .fineTuning, .result none => some (.awaits (.finishing .completed none))
  | .fineTuning, .result (some error) => some (.awaits (.finishing .failed (some error)))
  | .fineTuning, .timeout => some (.awaits (.finishing .failed (some "Job timed out")))
  | .finishing _ _, .returns => some .done
  | .marking, .raises _ | .finding, .raises _ | .starting, .raises _ | .fineTuning, .raises _
  | .finishing _ _, .raises _ => some .raised
  | _, _ => none

/-- The status that is written when the wait ends well. -/
def JobPhase.writes : JobPhase → Option (JobStatus × Option String)
  | .marking => some (.running, none)
  | .finishing status error => some (status, error)
  | _ => none

/-! ## `cancel_ft_job` -/

/-- The methods of `RoundRobinRouter` that have a public name. -/
def routerMethods : List String :=
  ["start", "update", "get_instance_states", "get_runtime_ep_audit", "handle_preemption",
    "mark_instance_preempting", "handle_recover", "mark_instance_recovered", "handle_add",
    "handle_remove", "handle_dead", "mark_instance_dead", "drain_instance", "inference",
    "fine_tuning", "delete_adapters", "shutdown"]

/-- What `cancel_ft_job` raises. -/
inductive CancelError where
  /-- `SllmControllerException`, `Job … not found`. -/
  | notFound
  /-- `ValueError` of `ray.get_actor`. -/
  | noActor
  /-- `AttributeError` of the actor handle. -/
  | noMethod
  deriving DecidableEq

/-- How `cancel_ft_job` goes on once it has read the job. -/
inductive CancelNext where
  | raises (error : CancelError)
  | returns
  /-- It waits for `cancel` of the router. -/
  | asks
  deriving DecidableEq

/-- `cancel_ft_job`, up to the call of the router. -/
def cancelFtJob (store : FineTuningJobStore) (hasActor : Bool) (jobId : String) : CancelNext :=
  match store.get? jobId with
  | none => .raises .notFound
  | some job =>
    if job.status ≠ .running then .returns
    else if !hasActor then .raises .noActor
    else if "cancel" ∉ routerMethods then .raises .noMethod
    else .asks

/-! ## `_process_ft_jobs` -/

/-- What `ray.available_resources()` reports; `0` for what it does not name. -/
structure AvailableResources where
  cpu : ℚ
  gpu : ℚ

/-- There are at least as many as the job asks for, one of each unless it says so. -/
def AvailableResources.Suffice (available : AvailableResources) (config : JobConfig) : Prop :=
  config.numCpus.getD 1 ≤ available.cpu ∧ config.numGpus.getD 1 ≤ available.gpu

instance (available : AvailableResources) (config : JobConfig) :
    Decidable (available.Suffice config) := by
  unfold AvailableResources.Suffice
  infer_instance

/-- What is left beside the job. -/
def AvailableResources.less (available : AvailableResources) (config : JobConfig) :
    AvailableResources :=
  ⟨available.cpu - config.numCpus.getD 1, available.gpu - config.numGpus.getD 1⟩

/-- The order of `(priority, created_time)`. -/
def JobEntry.NotAfter (a b : JobEntry) : Prop :=
  a.2.priority < b.2.priority ∨
    a.2.priority = b.2.priority ∧ ¬ b.2.createdTime < a.2.createdTime

instance : DecidableRel JobEntry.NotAfter := fun a b => by
  unfold JobEntry.NotAfter
  infer_instance

/-- `sorted_jobs` -/
def sortedJobs (pending : List JobEntry) : List JobEntry := pending.insertionSort JobEntry.NotAfter

/-- Where `_process_ft_jobs` is. -/
inductive Processor where
  /-- It waits for `get_pending_jobs`. -/
  | polling
  /-- The pending jobs have been read. -/
  | polled (pending : List JobEntry)
  /-- It is in `_start_ft_job`, with jobs still to look at and resources left. -/
  | working (phase : JobPhase) (entry : JobEntry) (rest : List JobEntry)
      (available : AvailableResources)
  | sleeping
  /-- An exception has ended the task. -/
  | ended

/-- The loop over the sorted jobs, up to one that there is room for. -/
def scan (available : AvailableResources) : List JobEntry → Processor
  | [] => .sleeping
  | entry :: rest =>
    if available.Suffice entry.2.config then .working .marking entry rest available
    else scan available rest

/-! ## The system -/

structure JobsState where
  store : FineTuningJobStore := .empty
  processor : Processor := .polling
  /-- The jobs of the `cancel_ft_job` calls that wait for their router. -/
  cancelling : List String := []
  /-- The statuses written so far; the code keeps no such record. -/
  written : List (String × JobStatus) := []

inductive JobsAction where
  /-- `register_ft_job`, with a fresh id. -/
  | register (jobId : String) (config : JobConfig) (createdTime : String)
  /-- `get_pending_jobs` returns. -/
  | poll
  /-- `available_resources`, which may raise, and then the sort. -/
  | schedule (available : Option AvailableResources)
  /-- A wait of `_start_ft_job` ends. -/
  | job (event : JobEvent)
  /-- An exception outside `_start_ft_job` ends the task. -/
  | crash
  | wake
  /-- `cancel_ft_job`; is there an actor `ft_…`? -/
  | cancel (jobId : String) (hasActor : Bool)
  /-- `cancel` of the router returns. -/
  | cancelled (jobId : String)

namespace JobsState

/-- `update_status` -/
def updateStatus (s : JobsState) (jobId : String) (status : JobStatus) (error : Option String) :
    JobsState :=
  { s with
    store := s.store.updateStatus jobId status error
    written := s.written ++ [(jobId, status)] }

/-- The write that comes with the end of a wait. -/
def record (s : JobsState) (jobId : String) (phase : JobPhase) : JobEvent → JobsState
  | .returns =>
    match phase.writes with
    | some (status, error) => s.updateStatus jobId status error
    | none => s
  | _ => s

/-- The processor goes on after a wait. -/
def resume (entry : JobEntry) (rest : List JobEntry) (available : AvailableResources) :
    JobNext → Processor
  | .awaits phase => .working phase entry rest available
  | .done => scan (available.less entry.2.config) rest
  | .raised => .ended

/-- The steps. -/
def step (s : JobsState) : JobsAction → Option JobsState
  | .register jobId config createdTime =>
    if jobId ∈ s.store.keys then none
    else some { s with store := s.store.set jobId (newJob config createdTime) }
  | .poll =>
    match s.processor with
    | .polling => some { s with processor := .polled s.store.getPendingJobs }
    | _ => none
  | .schedule available =>
    match s.processor, available with
    | .polled _, none => some { s with processor := .polling }
    | .polled pending, some available =>
      some { s with processor := scan available (sortedJobs pending) }
    | _, _ => none
  | .job event =>
    match s.processor with
    | .working phase entry rest available =>
      (startFtJob entry.2.config phase event).map fun next =>
        { s.record entry.1 phase event with processor := resume entry rest available next }
    | _ => none
  | .crash =>
    match s.processor with
    | .polling | .polled _ | .sleeping => some { s with processor := .ended }
    | _ => none
  | .wake =>
    match s.processor with
    | .sleeping => some { s with processor := .polling }
    | _ => none
  | .cancel jobId hasActor =>
    match cancelFtJob s.store hasActor jobId with
    | .asks => some { s with cancelling := jobId :: s.cancelling }
    | .raises _ | .returns => some s
  | .cancelled jobId =>
    if jobId ∈ s.cancelling then
      some { s.updateStatus jobId .cancelled none with
        cancelling := s.cancelling.erase jobId }
    else none

end JobsState

end Controller
end SpotServe
