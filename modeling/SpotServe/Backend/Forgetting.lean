import SpotServe.Backend.RequestTables
import SpotServe.Library.Runs

/-!
# What the backend forgets

A `generate` that ends with a response clears all three tables of its request, and the retry marker
clears `request_trace` and `abort_reasons`.  The other ends clear nothing: a rejection, a forced
preemption, an exception.  And `abort_request` writes its reason for whatever request id it is given,
whether or not a `generate` is there to take it.

* `generate_sound`: one wait of a `generate`.
* `Sound.step`: one step of the backend.
* `forgets_of_careful`: the runs in which no such end finds an entry, and no such abort comes.
-/

namespace SpotServe
namespace Backend

open Py

/-- The reason of an abort has not been taken yet. -/
def GeneratePhase.BeforeReason : GeneratePhase → Prop
  | .entering | .streaming _ | .tracing _ | .delaying _ | .forcing _ => True
  | .collecting _ | .forgetting _ _ | .deleting _ | .decoding _ => False

instance : DecidablePred GeneratePhase.BeforeReason := fun phase => by
  cases phase <;> unfold GeneratePhase.BeforeReason <;> infer_instance

namespace RequestTables

variable {t t' : RequestTables} {requestId : String} {request : GenerateRequest}
  {phase : GeneratePhase} {event : GenerateEvent} {next : GenerateNext} {relied : Prop}

/-! ## One call -/

/-- An end that does not clear a table finds nothing there.  The phases are those of a call whose
wait ends; `relied` says that an `abort_request` counts on its retry marker. -/
def LeavesNothing (t : RequestTables) (requestId : String) (relied : Prop) :
    GeneratePhase → GenerateEvent → Prop
  -- a rejection clears nothing
  | .entering, .rejects _ | .entering, .raises =>
    requestId ∉ t.abortReasons.keys ∧ requestId ∉ t.pendingKvRestores.keys
  -- no output at all
  | .streaming none, .finishes =>
    requestId ∈ t.abortReasons.keys ∨ requestId ∉ t.pendingKvRestores.keys
  -- a forced preemption leaves what it has traced
  | .forcing true, .resumes => False
  -- an exception is an abort, or clears nothing
  | .streaming _, .raises | .tracing _, .raises | .delaying _, .raises | .forcing _, .raises
  | .forcing false, .resumes =>
    requestId ∈ t.abortReasons.keys ∨
      requestId ∉ t.requestTrace.keys ∧ requestId ∉ t.pendingKvRestores.keys
  -- the retry marker leaves a restore
  | .forgetting _ _, .resumes => requestId ∉ t.pendingKvRestores.keys
  | .collecting _, .raises | .forgetting _ _, .raises =>
    requestId ∉ t.requestTrace.keys ∧ requestId ∉ t.pendingKvRestores.keys ∧ ¬ relied
  -- and so does a response that cannot be put together
  | .deleting output, .resumes =>
    output.outputTokens = none → requestId ∉ t.pendingKvRestores.keys
  | .deleting _, .mismatches => requestId ∉ t.pendingKvRestores.keys
  | .deleting _, .raises | .decoding _, .raises =>
    requestId ∉ t.requestTrace.keys ∧ requestId ∉ t.pendingKvRestores.keys
  | _, _ => True

instance (t : RequestTables) (requestId : String) (relied : Prop) [Decidable relied]
    (phase : GeneratePhase) (event : GenerateEvent) :
    Decidable (t.LeavesNothing requestId relied phase event) := by
  unfold LeavesNothing
  split <;> infer_instance

/-- What the tables hold of a running call, besides what it is going to clear. -/
def CallSound (t : RequestTables) (requestId : String) : GeneratePhase → Prop
  | .entering | .streaming none => requestId ∉ t.requestTrace.keys
  | .streaming (some _) | .tracing _ | .delaying _ | .forcing _ => True
  | .collecting _ | .forgetting _ _ | .deleting _ => requestId ∉ t.abortReasons.keys
  | .decoding _ => requestId ∉ t.abortReasons.keys ∧ requestId ∉ t.requestTrace.keys

/-- The call is going to return the retry marker. -/
def Serves (t : RequestTables) (requestId : String) : GeneratePhase → Prop
  | .entering | .streaming _ | .tracing _ | .delaying _ | .forcing _ =>
    requestId ∈ t.abortReasons.keys
  | .collecting _ | .forgetting _ _ => True
  | .deleting _ | .decoding _ => False

/-- What holds after a wait. -/
def Continues (t : RequestTables) (requestId : String) (relied : Prop) : GenerateNext → Prop
  | .awaits phase => t.CallSound requestId phase ∧ (relied → t.Serves requestId phase)
  | .ends result =>
    requestId ∉ t.requestTrace.keys ∧ requestId ∉ t.abortReasons.keys ∧
      requestId ∉ t.pendingKvRestores.keys ∧ (relied → result.IsMarker)

theorem continues_handle (hnext : some (t.handle requestId) = some (t', next))
    (hserves : relied → requestId ∈ t.abortReasons.keys)
    (h : requestId ∈ t.abortReasons.keys ∨
      requestId ∉ t.requestTrace.keys ∧ requestId ∉ t.pendingKvRestores.keys) :
    t'.Continues requestId relied next := by
  unfold handle at hnext
  cases hreason : t.abortReasons.get? requestId with
  | some reason =>
    rw [hreason] at hnext
    obtain ⟨rfl, rfl⟩ := Prod.mk.inj (Option.some.inj hnext)
    exact ⟨OrderedDict.notMem_keys_erase _ _, fun _ => trivial⟩
  | none =>
    rw [hreason] at hnext
    obtain ⟨rfl, rfl⟩ := Prod.mk.inj (Option.some.inj hnext)
    have hnot : requestId ∉ t.abortReasons.keys := (OrderedDict.get?_eq_none_iff _).mp hreason
    obtain ⟨htrace, hpending⟩ := h.resolve_left hnot
    exact ⟨htrace, hnot, hpending, fun hrelied => absurd (hserves hrelied) hnot⟩

theorem continues_afterOutputs {last : Option RequestOutput}
    (hnext : some (t.afterOutputs requestId last) = some (t', next))
    (hserves : relied → requestId ∈ t.abortReasons.keys)
    (htrace : last = none → requestId ∉ t.requestTrace.keys)
    (h : last = none →
      requestId ∈ t.abortReasons.keys ∨ requestId ∉ t.pendingKvRestores.keys) :
    t'.Continues requestId relied next := by
  unfold afterOutputs at hnext
  cases hreason : t.abortReasons.get? requestId with
  | some reason =>
    cases last with
    | none | some =>
      rw [hreason] at hnext
      obtain ⟨rfl, rfl⟩ := Prod.mk.inj (Option.some.inj hnext)
      exact ⟨OrderedDict.notMem_keys_erase _ _, fun _ => trivial⟩
  | none =>
    have hnot : requestId ∉ t.abortReasons.keys := (OrderedDict.get?_eq_none_iff _).mp hreason
    cases last with
    | none =>
      rw [hreason] at hnext
      obtain ⟨rfl, rfl⟩ := Prod.mk.inj (Option.some.inj hnext)
      exact ⟨htrace rfl, hnot, (h rfl).resolve_left hnot,
        fun hrelied => absurd (hserves hrelied) hnot⟩
    | some =>
      rw [hreason] at hnext
      obtain ⟨rfl, rfl⟩ := Prod.mk.inj (Option.some.inj hnext)
      exact ⟨hnot, fun hrelied => absurd (hserves hrelied) hnot⟩

theorem continues_afterDelay (hserves : relied → requestId ∈ t.abortReasons.keys)
    (request : GenerateRequest) (output : RequestOutput) :
    Continues t requestId relied (.awaits (afterDelay request output)) := by
  unfold afterDelay
  split
  · split_ifs
    all_goals exact ⟨trivial, hserves⟩
  · exact ⟨trivial, hserves⟩

theorem continues_respond {output : RequestOutput}
    (hnext : some (t.respond requestId output) = some (t', next))
    (hreason : requestId ∉ t.abortReasons.keys) (htrace : requestId ∉ t.requestTrace.keys)
    (hrelied : ¬ relied) : t'.Continues requestId relied next := by
  obtain ⟨rfl, rfl⟩ := Prod.mk.inj (Option.some.inj hnext)
  exact ⟨htrace, hreason, OrderedDict.notMem_keys_erase _ _, fun h => absurd h hrelied⟩

/-- One wait of a `generate`. -/
theorem generate_sound (h : t.generate requestId request phase event = some (t', next))
    (hnothing : t.LeavesNothing requestId relied phase event)
    (hsound : t.CallSound requestId phase) (hserves : relied → t.Serves requestId phase) :
    t'.Continues requestId relied next := by
  cases phase with
  | entering =>
    cases event with
    | resumes =>
      obtain ⟨rfl, rfl⟩ := Prod.mk.inj (Option.some.inj h)
      exact ⟨hsound, hserves⟩
    | rejects | raises =>
      obtain ⟨rfl, rfl⟩ := Prod.mk.inj (Option.some.inj h)
      exact ⟨hsound, hnothing.1, hnothing.2, fun hrelied => absurd (hserves hrelied) hnothing.1⟩
    | yields | finishes | mismatches => exact absurd h (by simp [generate])
  | streaming last =>
    cases event with
    | yields output =>
      obtain ⟨rfl, rfl⟩ := Prod.mk.inj (Option.some.inj h)
      exact ⟨trivial, hserves⟩
    | finishes =>
      exact continues_afterOutputs h hserves (fun hlast => by subst hlast; exact hsound)
        fun hlast => by subst hlast; exact hnothing
    | raises => exact continues_handle h hserves (by cases last <;> exact hnothing)
    | resumes | rejects | mismatches => exact absurd h (by simp [generate])
  | tracing output =>
    cases event with
    | resumes =>
      obtain ⟨rfl, rfl⟩ := Prod.mk.inj (Option.some.inj h)
      split_ifs
      · exact ⟨trivial, hserves⟩
      · exact continues_afterDelay
          (t := { t with requestTrace := t.requestTrace.set requestId output }) hserves request output
    | raises => exact continues_handle h hserves hnothing
    | yields | finishes | rejects | mismatches => exact absurd h (by simp [generate])
  | delaying output =>
    cases event with
    | resumes =>
      obtain ⟨rfl, rfl⟩ := Prod.mk.inj (Option.some.inj h)
      exact continues_afterDelay hserves request output
    | raises => exact continues_handle h hserves hnothing
    | yields | finishes | rejects | mismatches => exact absurd h (by simp [generate])
  | forcing preempts =>
    cases event with
    | resumes =>
      cases preempts with
      | true => exact hnothing.elim
      | false => exact continues_handle h hserves hnothing
    | raises => exact continues_handle h hserves (by cases preempts <;> exact hnothing)
    | yields | finishes | rejects | mismatches => exact absurd h (by simp [generate])
  | collecting reason =>
    cases event with
    | resumes =>
      obtain ⟨rfl, rfl⟩ := Prod.mk.inj (Option.some.inj h)
      exact ⟨hsound, fun _ => trivial⟩
    | raises =>
      obtain ⟨rfl, rfl⟩ := Prod.mk.inj (Option.some.inj h)
      exact ⟨hnothing.1, hsound, hnothing.2.1, fun hrelied => absurd hrelied hnothing.2.2⟩
    | yields | finishes | rejects | mismatches => exact absurd h (by simp [generate])
  | forgetting reason output =>
    cases event with
    | resumes =>
      obtain ⟨rfl, rfl⟩ := Prod.mk.inj (Option.some.inj h)
      exact ⟨OrderedDict.notMem_keys_erase _ _, hsound, hnothing, fun _ => trivial⟩
    | raises =>
      obtain ⟨rfl, rfl⟩ := Prod.mk.inj (Option.some.inj h)
      exact ⟨hnothing.1, hsound, hnothing.2.1, fun hrelied => absurd hrelied hnothing.2.2⟩
    | yields | finishes | rejects | mismatches => exact absurd h (by simp [generate])
  | deleting output =>
    cases event with
    | resumes =>
      simp only [generate] at h
      split_ifs at h with hnone
      · obtain ⟨rfl, rfl⟩ := Prod.mk.inj (Option.some.inj h)
        exact ⟨OrderedDict.notMem_keys_erase _ _, hsound, hnothing hnone, hserves⟩
      · obtain ⟨rfl, rfl⟩ := Prod.mk.inj (Option.some.inj h)
        exact ⟨⟨hsound, OrderedDict.notMem_keys_erase _ _⟩, hserves⟩
      · exact continues_respond h hsound (OrderedDict.notMem_keys_erase _ _)
          fun hrelied => hserves hrelied
    | mismatches =>
      simp only [generate] at h
      split_ifs at h
      obtain ⟨rfl, rfl⟩ := Prod.mk.inj (Option.some.inj h)
      exact ⟨OrderedDict.notMem_keys_erase _ _, hsound, hnothing, hserves⟩
    | raises =>
      obtain ⟨rfl, rfl⟩ := Prod.mk.inj (Option.some.inj h)
      exact ⟨hnothing.1, hsound, hnothing.2, hserves⟩
    | yields | finishes | rejects => exact absurd h (by simp [generate])
  | decoding output =>
    cases event with
    | resumes => exact continues_respond h hsound.1 hsound.2 fun hrelied => hserves hrelied
    | raises =>
      obtain ⟨rfl, rfl⟩ := Prod.mk.inj (Option.some.inj h)
      exact ⟨hnothing.1, hsound.1, hnothing.2, hserves⟩
    | yields | finishes | rejects | mismatches => exact absurd h (by simp [generate])

/-! ## The other requests -/

/-- The two tables say the same about the request. -/
structure Agree (t t' : RequestTables) (id : String) : Prop where
  trace : id ∈ t'.requestTrace.keys ↔ id ∈ t.requestTrace.keys
  reason : id ∈ t'.abortReasons.keys ↔ id ∈ t.abortReasons.keys

theorem Agree.refl (t : RequestTables) (id : String) : Agree t t id := ⟨Iff.rfl, Iff.rfl⟩

theorem Agree.callSound {id : String} (h : Agree t t' id) (hsound : t.CallSound id phase) :
    t'.CallSound id phase := by
  cases phase with
  | entering => exact fun hmem => hsound (h.trace.mp hmem)
  | streaming last =>
    cases last with
    | none => exact fun hmem => hsound (h.trace.mp hmem)
    | some => trivial
  | tracing | delaying | forcing => trivial
  | collecting | forgetting | deleting => exact fun hmem => hsound (h.reason.mp hmem)
  | decoding =>
    exact ⟨fun hmem => hsound.1 (h.reason.mp hmem), fun hmem => hsound.2 (h.trace.mp hmem)⟩

theorem Agree.serves {id : String} (h : Agree t t' id) (hserves : t.Serves id phase) :
    t'.Serves id phase := by
  cases phase with
  | entering | streaming | tracing | delaying | forcing => exact h.reason.mpr hserves
  | collecting | forgetting => trivial
  | deleting | decoding => exact hserves.elim

theorem agree_popReason {id : String} (hne : requestId ≠ id) :
    Agree t (t.popReason requestId) id := ⟨Iff.rfl, OrderedDict.mem_keys_erase_of_ne _ hne⟩

theorem agree_handle (hnext : some (t.handle requestId) = some (t', next)) {id : String}
    (hne : requestId ≠ id) : Agree t t' id := by
  unfold handle at hnext
  split at hnext
  all_goals obtain ⟨rfl, -⟩ := Prod.mk.inj (Option.some.inj hnext)
  · exact agree_popReason hne
  · exact .refl t id

theorem agree_afterOutputs {last : Option RequestOutput}
    (hnext : some (t.afterOutputs requestId last) = some (t', next)) {id : String}
    (hne : requestId ≠ id) : Agree t t' id := by
  unfold afterOutputs at hnext
  split at hnext
  all_goals obtain ⟨rfl, -⟩ := Prod.mk.inj (Option.some.inj hnext)
  · exact agree_popReason hne
  · exact agree_popReason hne
  · exact .refl t id
  · exact .refl t id

/-- A `generate` leaves the entries of the other requests alone. -/
theorem generate_agree (h : t.generate requestId request phase event = some (t', next))
    {id : String} (hne : requestId ≠ id) : Agree t t' id := by
  have hdelete : Agree t (t.deleteRequest requestId) id :=
    ⟨OrderedDict.mem_keys_erase_of_ne _ hne, Iff.rfl⟩
  cases phase with
  | entering =>
    cases event with
    | resumes | rejects | raises =>
      obtain ⟨rfl, -⟩ := Prod.mk.inj (Option.some.inj h)
      exact .refl t id
    | yields | finishes | mismatches => exact absurd h (by simp [generate])
  | streaming last =>
    cases event with
    | yields output =>
      obtain ⟨rfl, -⟩ := Prod.mk.inj (Option.some.inj h)
      exact .refl t id
    | finishes => exact agree_afterOutputs h hne
    | raises => exact agree_handle h hne
    | resumes | rejects | mismatches => exact absurd h (by simp [generate])
  | tracing output =>
    cases event with
    | resumes =>
      obtain ⟨rfl, -⟩ := Prod.mk.inj (Option.some.inj h)
      exact ⟨OrderedDict.mem_keys_set_of_ne _ hne _, Iff.rfl⟩
    | raises => exact agree_handle h hne
    | yields | finishes | rejects | mismatches => exact absurd h (by simp [generate])
  | delaying output =>
    cases event with
    | resumes =>
      obtain ⟨rfl, -⟩ := Prod.mk.inj (Option.some.inj h)
      exact .refl t id
    | raises => exact agree_handle h hne
    | yields | finishes | rejects | mismatches => exact absurd h (by simp [generate])
  | forcing preempts =>
    cases event with
    | resumes =>
      cases preempts with
      | true =>
        obtain ⟨rfl, -⟩ := Prod.mk.inj (Option.some.inj h)
        exact .refl t id
      | false => exact agree_handle h hne
    | raises => exact agree_handle h hne
    | yields | finishes | rejects | mismatches => exact absurd h (by simp [generate])
  | collecting reason =>
    cases event with
    | resumes | raises =>
      obtain ⟨rfl, -⟩ := Prod.mk.inj (Option.some.inj h)
      exact .refl t id
    | yields | finishes | rejects | mismatches => exact absurd h (by simp [generate])
  | forgetting reason output =>
    cases event with
    | resumes =>
      obtain ⟨rfl, -⟩ := Prod.mk.inj (Option.some.inj h)
      exact hdelete
    | raises =>
      obtain ⟨rfl, -⟩ := Prod.mk.inj (Option.some.inj h)
      exact .refl t id
    | yields | finishes | rejects | mismatches => exact absurd h (by simp [generate])
  | deleting output =>
    cases event with
    | resumes =>
      simp only [generate] at h
      split_ifs at h
      all_goals
        obtain ⟨rfl, -⟩ := Prod.mk.inj (Option.some.inj h)
        exact ⟨hdelete.trace, hdelete.reason⟩
    | mismatches =>
      simp only [generate] at h
      split_ifs at h
      obtain ⟨rfl, -⟩ := Prod.mk.inj (Option.some.inj h)
      exact hdelete
    | raises =>
      obtain ⟨rfl, -⟩ := Prod.mk.inj (Option.some.inj h)
      exact .refl t id
    | yields | finishes | rejects => exact absurd h (by simp [generate])
  | decoding output =>
    cases event with
    | resumes =>
      obtain ⟨rfl, -⟩ := Prod.mk.inj (Option.some.inj h)
      exact ⟨Iff.rfl, Iff.rfl⟩
    | raises =>
      obtain ⟨rfl, -⟩ := Prod.mk.inj (Option.some.inj h)
      exact .refl t id
    | yields | finishes | rejects | mismatches => exact absurd h (by simp [generate])

end RequestTables

namespace BackendState

variable {s s' : BackendState}

/-! ## The backend -/

/-- Finished requests are forgotten: when no call for a request is running and one has ended, there
is no trace of it, no reason to abort it, and no restore that was pending when it ended. -/
def ForgetsFinished (s : BackendState) : Prop :=
  ∀ requestId, requestId ∉ s.running.keys → s.resultsOf requestId ≠ [] →
    requestId ∉ s.tables.requestTrace.keys ∧ requestId ∉ s.tables.abortReasons.keys ∧
      requestId ∉ s.leftPending

/-- Who is told that a request was aborted, was told so of a call that returns the retry marker, if
it returns. -/
def AbortsTruly (s : BackendState) : Prop :=
  ∀ abort ∈ s.confirmed, ∃ k, abort.aborts = some k ∧
    ∀ result, (s.resultsOf abort.requestId)[k]? = some result → result.IsMarker

/-- The `abort_request` is for the call for that request that is running, or comes next. -/
def IsFor (s : BackendState) (requestId : String) (abort : AbortCall) : Prop :=
  abort.requestId = requestId ∧ abort.aborts = some (s.resultsOf requestId).length

/-- An `abort_request` counts on the running call. -/
def Relied (s : BackendState) (requestId : String) (aborts : List AbortCall) : Prop :=
  ∃ abort ∈ aborts, s.IsFor requestId abort

/-- The call has not taken the reason of an abort yet. -/
def TakesReasons (s : BackendState) (requestId : String) : Prop :=
  ∃ call ∈ s.running.get? requestId, call.phase.BeforeReason

/-- What is asked of a step: a call that ends leaves nothing, an abort comes while its call can take
it, and one that the engine refuses takes no other's reason away. -/
def Careful (s : BackendState) : BackendAction → Prop
  | .generate requestId event =>
    ∀ call ∈ s.running.get? requestId,
      s.tables.LeavesNothing requestId (s.Relied requestId (s.aborting ++ s.confirmed)) call.phase
        event
  | .abort requestId _ engine => engine → s.TakesReasons requestId
  | .aborted place returns =>
    ∀ abort ∈ s.aborting[place]?, returns ∨ ¬ s.TakesReasons abort.requestId ∨
      ¬ s.Relied abort.requestId (s.aborting.eraseIdx place ++ s.confirmed)
  | .call _ _ | .restore _ _ => True

instance (s : BackendState) (requestId : String) (abort : AbortCall) :
    Decidable (s.IsFor requestId abort) := inferInstanceAs (Decidable (_ ∧ _))

instance (s : BackendState) (requestId : String) (aborts : List AbortCall) :
    Decidable (s.Relied requestId aborts) :=
  inferInstanceAs (Decidable (∃ abort ∈ aborts, s.IsFor requestId abort))

instance (s : BackendState) (requestId : String) : Decidable (s.TakesReasons requestId) :=
  inferInstanceAs (Decidable (∃ call ∈ s.running.get? requestId, call.phase.BeforeReason))

instance (s : BackendState) : DecidablePred s.Careful := fun a => by
  cases a <;> unfold Careful <;> infer_instance

/-- What becomes of an `abort_request`: its call has returned the retry marker, or will. -/
def Kept (s : BackendState) (abort : AbortCall) : Prop :=
  (∃ k result, abort.aborts = some k ∧ (s.resultsOf abort.requestId)[k]? = some result ∧
      result.IsMarker) ∨
    s.IsFor abort.requestId abort ∧
      ∃ call, s.running.get? abort.requestId = some call ∧
        s.tables.Serves abort.requestId call.phase

/-- The invariant. -/
structure Sound (s : BackendState) : Prop where
  idle : ∀ id, id ∉ s.running.keys →
    id ∉ s.tables.requestTrace.keys ∧ id ∉ s.tables.abortReasons.keys
  calls : ∀ id call, s.running.get? id = some call → s.tables.CallSound id call.phase
  left : s.leftPending = []
  kept : ∀ abort ∈ s.aborting ++ s.confirmed, s.Kept abort

theorem Sound.forgetsFinished (h : s.Sound) : s.ForgetsFinished := by
  intro id hidle _
  refine ⟨(h.idle id hidle).1, (h.idle id hidle).2, ?_⟩
  rw [h.left]
  exact List.not_mem_nil

theorem Sound.abortsTruly (h : s.Sound) : s.AbortsTruly := by
  intro abort habort
  rcases h.kept abort (List.mem_append_right _ habort) with ⟨k, result, haborts, hget, hmarker⟩ |
    ⟨⟨-, haborts⟩, -⟩
  · refine ⟨k, haborts, fun result' hget' => ?_⟩
    obtain rfl := Option.some.inj (hget.symm.trans hget')
    exact hmarker
  · refine ⟨_, haborts, fun result hget => ?_⟩
    rw [List.getElem?_eq_none le_rfl] at hget
    exact absurd hget (by simp)

/-! ## Steps -/

/-- What a call counts on is kept. -/
theorem Sound.serves (h : s.Sound) {requestId : String} {call : GenerateCall}
    (hget : s.running.get? requestId = some call)
    (hrelied : s.Relied requestId (s.aborting ++ s.confirmed)) :
    s.tables.Serves requestId call.phase := by
  obtain ⟨abort, habort, rfl, haborts⟩ := hrelied
  rcases h.kept abort habort with ⟨k, result, haborts', hresult, -⟩ | ⟨-, call', hget', hserves⟩
  · obtain rfl := Option.some.inj (haborts.symm.trans haborts')
    rw [List.getElem?_eq_none le_rfl] at hresult
    exact absurd hresult (by simp)
  · obtain rfl := Option.some.inj (hget.symm.trans hget')
    exact hserves

theorem resultsOf_append (s : BackendState) (requestId : String) (result : GenerateResult)
    (id : String) : resultsOf { s with results := s.results ++ [(requestId, result)] } id =
      if requestId = id then s.resultsOf id ++ [result] else s.resultsOf id := by
  unfold resultsOf
  split_ifs with h <;> simp [h]

/-- A call goes on or ends. -/
theorem Sound.continueCall (h : s.Sound) {requestId : String} (call : GenerateCall)
    {t : RequestTables} {next : GenerateNext}
    (hagree : ∀ id, requestId ≠ id → s.tables.Agree t id)
    (hcontinues : t.Continues requestId (s.Relied requestId (s.aborting ++ s.confirmed)) next) :
    (s.continueCall requestId call (t, next)).Sound := by
  cases next with
  | awaits phase =>
    refine ⟨fun id hidle => ?_, fun id call' hget' => ?_, h.left, fun abort habort => ?_⟩
    · have hne : requestId ≠ id := fun heq => hidle (OrderedDict.mem_keys_set.mpr (.inl heq.symm))
      have hidle' := h.idle id fun hmem => hidle (OrderedDict.mem_keys_set.mpr (.inr hmem))
      exact ⟨fun hmem => hidle'.1 ((hagree id hne).trace.mp hmem),
        fun hmem => hidle'.2 ((hagree id hne).reason.mp hmem)⟩
    · by_cases heq : requestId = id
      · subst heq
        obtain rfl := Option.some.inj ((OrderedDict.get?_set_self _ _ _).symm.trans hget')
        exact hcontinues.1
      · have hold := (OrderedDict.get?_set_of_ne _ _ heq).symm.trans hget'
        exact (hagree id heq).callSound (h.calls id call' hold)
    · rcases h.kept abort habort with hdone | ⟨hfor, call', hget', hserves⟩
      · exact .inl hdone
      · refine .inr ⟨hfor, ?_⟩
        by_cases heq : requestId = abort.requestId
        · refine ⟨{ call with phase := phase }, ?_, ?_⟩
          · rw [heq]
            exact OrderedDict.get?_set_self _ _ _
          · rw [← heq]
            exact hcontinues.2 ⟨abort, habort, heq.symm, heq ▸ hfor.2⟩
        · exact ⟨call', (OrderedDict.get?_set_of_ne _ _ heq).trans hget',
            (hagree _ heq).serves hserves⟩
  | ends result =>
    obtain ⟨htrace, hreason, hpending, hmarker⟩ := hcontinues
    refine ⟨fun id hidle => ?_, fun id call' hget' => ?_, ?_, fun abort habort => ?_⟩
    · by_cases heq : requestId = id
      · subst heq
        exact ⟨htrace, hreason⟩
      · have hidle' := h.idle id fun hmem => hidle (OrderedDict.mem_keys_erase.mpr ⟨Ne.symm heq, hmem⟩)
        exact ⟨fun hmem => hidle'.1 ((hagree id heq).trace.mp hmem),
          fun hmem => hidle'.2 ((hagree id heq).reason.mp hmem)⟩
    · have hold := (OrderedDict.get?_erase s.running requestId id).symm.trans hget'
      split_ifs at hold with heq
      exact (hagree id heq).callSound (h.calls id call' hold)
    · show (if requestId ∈ t.pendingKvRestores.keys then _ else _) = []
      rw [if_neg hpending, h.left]
      rfl
    · have hresults := resultsOf_append s requestId result abort.requestId
      rcases h.kept abort habort with ⟨k, old, haborts, hold, hm⟩ | ⟨hfor, call', hget', hserves⟩
      · refine .inl ⟨k, old, haborts, hresults ▸ ?_, hm⟩
        split_ifs
        · rw [List.getElem?_append_left (List.getElem?_eq_some_iff.mp hold).1]
          exact hold
        · exact hold
      · by_cases heq : requestId = abort.requestId
        · rw [if_pos heq] at hresults
          refine .inl ⟨_, result, hfor.2, hresults ▸ List.getElem?_concat_length, ?_⟩
          exact hmarker ⟨abort, habort, heq.symm, heq ▸ hfor.2⟩
        · rw [if_neg heq] at hresults
          refine .inr ⟨⟨rfl, hresults ▸ hfor.2⟩, call', ?_, (hagree _ heq).serves hserves⟩
          exact (OrderedDict.get?_erase _ _ _).trans ((if_neg heq).trans hget')

/-- A change that no call sees. -/
theorem Kept.of_agree {abort : AbortCall} (h : s.Kept abort) (hresults : s'.results = s.results)
    (hrunning : s'.running.get? abort.requestId = s.running.get? abort.requestId)
    (hserves : ∀ phase, s.tables.Serves abort.requestId phase →
      s'.tables.Serves abort.requestId phase) : s'.Kept abort := by
  have hresultsOf : s'.resultsOf abort.requestId = s.resultsOf abort.requestId := by
    unfold resultsOf
    rw [hresults]
  unfold Kept IsFor
  rw [hresultsOf, hrunning]
  exact h.imp_right fun ⟨hfor, call, hget, hphase⟩ => ⟨hfor, call, hget, hserves _ hphase⟩

theorem Sound.call (h : s.Sound) {requestId : String} (request : GenerateRequest)
    (hidle : requestId ∉ s.running.keys) :
    Sound { s with running := s.running.set requestId { request := request } } := by
  refine ⟨fun id hid => ?_, fun id call hget => ?_, h.left, fun abort habort => ?_⟩
  · exact h.idle id fun hmem => hid (OrderedDict.mem_keys_set.mpr (.inr hmem))
  · by_cases heq : requestId = id
    · subst heq
      obtain rfl := Option.some.inj ((OrderedDict.get?_set_self _ _ _).symm.trans hget)
      exact (h.idle requestId hidle).1
    · exact h.calls id call ((OrderedDict.get?_set_of_ne _ _ heq).symm.trans hget)
  · rcases h.kept abort habort with hdone | ⟨hfor, call, hget, hserves⟩
    · exact .inl hdone
    · have hne : requestId ≠ abort.requestId := by
        rintro rfl
        exact hidle ((OrderedDict.mem_keys_iff _).mpr ⟨call, hget⟩)
      exact .inr ⟨hfor, call, (OrderedDict.get?_set_of_ne _ _ hne).trans hget, hserves⟩

theorem Sound.abort (h : s.Sound) {requestId : String} (reason : String)
    (htakes : s.TakesReasons requestId) :
    Sound { s with
      tables := { s.tables with abortReasons := s.tables.abortReasons.set requestId reason }
      aborting := s.aborting ++ [{
        requestId := requestId
        aborts := if requestId ∈ s.running.keys then some (s.resultsOf requestId).length
          else none }] } := by
  obtain ⟨call, hget, hbefore⟩ := htakes
  have hkey : requestId ∈ s.running.keys := (OrderedDict.mem_keys_iff _).mpr ⟨call, hget⟩
  set t : RequestTables :=
    { s.tables with abortReasons := s.tables.abortReasons.set requestId reason } with ht
  have hagree : ∀ id, requestId ≠ id → s.tables.Agree t id := fun id hne =>
    ⟨Iff.rfl, OrderedDict.mem_keys_set_of_ne _ hne _⟩
  have hset : requestId ∈ t.abortReasons.keys := OrderedDict.mem_keys_set.mpr (.inl rfl)
  have hserves : ∀ id phase, s.tables.Serves id phase → t.Serves id phase := by
    intro id phase hphase
    by_cases heq : requestId = id
    · subst heq
      cases phase with
      | entering | streaming | tracing | delaying | forcing => exact hset
      | collecting | forgetting => trivial
      | deleting | decoding => exact hphase.elim
    · exact (hagree id heq).serves hphase
  refine ⟨fun id hid => ?_, fun id call' hget' => ?_, h.left, fun abort habort => ?_⟩
  · have hne : requestId ≠ id := fun heq => hid (heq ▸ hkey)
    exact ⟨(h.idle id hid).1, fun hmem => (h.idle id hid).2 ((hagree id hne).reason.mp hmem)⟩
  · by_cases heq : requestId = id
    · subst heq
      obtain rfl := Option.some.inj (hget.symm.trans hget')
      have hold := h.calls requestId call hget
      generalize call.phase = phase at hbefore hold ⊢
      cases phase with
      | entering => exact hold
      | streaming last => cases last <;> exact hold
      | tracing | delaying | forcing => trivial
      | collecting | forgetting | deleting | decoding => exact hbefore.elim
    · exact (hagree id heq).callSound (h.calls id call' hget')
  · rw [List.append_assoc, List.mem_append, List.mem_append, List.mem_singleton] at habort
    rcases habort with habort | rfl | habort
    · exact (h.kept abort (List.mem_append_left _ habort)).of_agree rfl rfl (hserves _)
    · refine .inr ⟨⟨rfl, if_pos hkey⟩, call, hget, ?_⟩
      generalize call.phase = phase at hbefore ⊢
      cases phase with
      | entering | streaming | tracing | delaying | forcing => exact hset
      | collecting | forgetting | deleting | decoding => exact hbefore.elim
    · exact (h.kept abort (List.mem_append_right _ habort)).of_agree rfl rfl (hserves _)

/-- The engine has refused an abort. -/
theorem Sound.refused (h : s.Sound) {aborting : List AbortCall} (hsub : aborting ⊆ s.aborting)
    {requestId : String}
    (hnobody : ¬ s.TakesReasons requestId ∨ ¬ s.Relied requestId (aborting ++ s.confirmed)) :
    Sound { s with aborting := aborting, tables := s.tables.popReason requestId } := by
  have hpop : ∀ id, id ∈ (s.tables.popReason requestId).abortReasons.keys →
      id ∈ s.tables.abortReasons.keys := fun id hmem => (OrderedDict.mem_keys_erase.mp hmem).2
  refine ⟨fun id hid => ⟨(h.idle id hid).1, fun hmem => (h.idle id hid).2 (hpop id hmem)⟩,
    fun id call hget => ?_, h.left, fun abort habort => ?_⟩
  · have hold := h.calls id call hget
    generalize call.phase = phase at hold ⊢
    cases phase with
    | entering => exact hold
    | streaming last => cases last <;> exact hold
    | tracing | delaying | forcing => trivial
    | collecting | forgetting | deleting => exact fun hmem => hold (hpop id hmem)
    | decoding => exact ⟨fun hmem => hold.1 (hpop id hmem), hold.2⟩
  · have hmem : abort ∈ s.aborting ++ s.confirmed :=
      (List.mem_append.mp habort).elim (fun hin => List.mem_append_left _ (hsub hin))
        fun hin => List.mem_append_right _ hin
    rcases h.kept abort hmem with hdone | ⟨hfor, call, hget, hserves⟩
    · exact .inl hdone
    · refine .inr ⟨hfor, call, hget, ?_⟩
      by_cases heq : requestId = abort.requestId
      · subst heq
        rcases hnobody with htakes | hrelied
        · have hafter : ¬ call.phase.BeforeReason := fun hbefore => htakes ⟨call, hget, hbefore⟩
          generalize call.phase = phase at hafter hserves ⊢
          cases phase with
          | entering | streaming | tracing | delaying | forcing => exact absurd trivial hafter
          | collecting | forgetting => trivial
          | deleting | decoding => exact hserves.elim
        · exact absurd ⟨abort, habort, hfor⟩ hrelied
      · exact (RequestTables.agree_popReason heq).serves hserves

/-- **What every careful step keeps.** -/
theorem Sound.step {a : BackendAction} (h : s.Sound) (hcareful : s.Careful a)
    (hstep : s.step a = some s') : s'.Sound := by
  cases a with
  | call requestId request =>
    simp only [BackendState.step] at hstep
    split_ifs at hstep with hidle
    obtain rfl := Option.some.inj hstep
    exact h.call request hidle
  | generate requestId event =>
    simp only [BackendState.step] at hstep
    split at hstep
    · next call hget =>
      obtain ⟨⟨t, next⟩, hgenerate, rfl⟩ := Option.map_eq_some_iff.mp hstep
      exact h.continueCall call (fun id hne => RequestTables.generate_agree hgenerate hne)
        (RequestTables.generate_sound hgenerate (hcareful call hget) (h.calls requestId call hget)
          fun hrelied => h.serves hget hrelied)
    · exact absurd hstep (by simp)
  | abort requestId reason engine =>
    cases engine with
    | true =>
      simp only [BackendState.step, if_true] at hstep
      obtain rfl := Option.some.inj hstep
      exact h.abort reason (hcareful rfl)
    | false =>
      obtain rfl := Option.some.inj hstep
      exact h
  | aborted place returns =>
    simp only [BackendState.step] at hstep
    split at hstep
    · next abort hget =>
      have hsub : s.aborting.eraseIdx place ⊆ s.aborting := List.eraseIdx_subset
      cases returns with
      | true =>
        obtain rfl := Option.some.inj hstep
        refine ⟨h.idle, h.calls, h.left, fun abort' hmem => ?_⟩
        refine (h.kept abort' ?_).of_agree rfl rfl fun _ => id
        simp only [if_true, List.mem_append, List.mem_singleton, ← or_assoc] at hmem
        rcases hmem with (hmem | hmem) | rfl
        · exact List.mem_append_left _ (hsub hmem)
        · exact List.mem_append_right _ hmem
        · exact List.mem_append_left _ (List.mem_of_getElem? hget)
      | false =>
        obtain rfl := Option.some.inj hstep
        exact h.refused hsub ((hcareful abort hget).resolve_left Bool.false_ne_true)
    · exact absurd hstep (by simp)
  | restore requestId expectedBlocks =>
    simp only [BackendState.step] at hstep
    split_ifs at hstep
    · obtain rfl := Option.some.inj hstep
      exact h
    · obtain rfl := Option.some.inj hstep
      refine ⟨h.idle, fun id call hget => ?_, ?_, fun abort habort => ?_⟩
      · exact RequestTables.Agree.callSound ⟨Iff.rfl, Iff.rfl⟩ (h.calls id call hget)
      · show s.leftPending.filter _ = []
        rw [h.left]
        rfl
      · exact (h.kept abort habort).of_agree rfl rfl fun phase hphase =>
          RequestTables.Agree.serves ⟨Iff.rfl, Iff.rfl⟩ hphase

/-! ## Runs -/

/-- The runs of a backend, from its construction on. -/
abbrev ReachableBy (allowed : BackendState → BackendAction → Prop) : BackendState → Prop :=
  Runs.Reachable (fun s => s = {}) (fun s a s' => s.step a = some s') allowed

theorem sound_start : Sound {} where
  idle _ _ := ⟨List.not_mem_nil, List.not_mem_nil⟩
  calls _ _ hget := absurd hget (by simp)
  left := rfl
  kept _ habort := absurd habort List.not_mem_nil

/-- **The backend forgets finished requests**, and aborts truly, in runs of careful steps. -/
theorem forgets_of_careful (h : ReachableBy Careful s) : s.ForgetsFinished ∧ s.AbortsTruly := by
  have hsound : s.Sound := h.invariant Sound
    (fun s hs => by subst hs; exact sound_start)
    fun _ _ _ hsound hcareful hstep => hsound.step hcareful hstep
  exact ⟨hsound.forgetsFinished, hsound.abortsTruly⟩

/-- A call up to its first output. -/
def firstOutput (requestId : String) : List BackendAction :=
  [.call requestId {}, .generate requestId .resumes,
    .generate requestId (.yields ⟨[1, 2], some [3], 2⟩), .generate requestId .resumes]

/-- An abort, and the retry, with its cache restored. -/
theorem forgets_retry : ∃ s : BackendState, ReachableBy Careful s ∧
    s.resultsOf "a" = [.marker "preempted" [[1, 2, 3]],
      .response (some ⟨true, 4, 2, "nixl_kv_attach_completed"⟩)] ∧
      s.confirmed = [⟨"a", some 0⟩] ∧ s.ForgetsFinished ∧ s.AbortsTruly := by
  have hrun : (Runs.attempt BackendState.step Careful
      (firstOutput "a" ++ [.abort "a" "preempted" true, .generate "a" .raises, .aborted 0 true,
          .generate "a" .resumes, .generate "a" .resumes, .restore "a" 4] ++
        firstOutput "a" ++ [.generate "a" .finishes, .generate "a" .resumes]) {}).map
      (fun s => (s.resultsOf "a", s.confirmed)) =
        some ([.marker "preempted" [[1, 2, 3]],
          .response (some ⟨true, 4, 2, "nixl_kv_attach_completed"⟩)], [⟨"a", some 0⟩]) := by
    decide +kernel
  obtain ⟨s, hs, heq⟩ := Option.map_eq_some_iff.mp hrun
  have hreachable : ReachableBy Careful s := .attempt (.start rfl) hs
  injection heq with hresults hconfirmed
  exact ⟨s, hreachable, hresults, hconfirmed, forgets_of_careful hreachable⟩

/-- The engine raises after an output, and the request stays traced; somebody aborts a request that
nobody has made, and is told that it was aborted. -/
theorem not_forgets_raised :
    (∃ s : BackendState, ReachableBy (fun _ _ => True) s ∧ ¬ s.ForgetsFinished) ∧
      ∃ s : BackendState, ReachableBy (fun _ _ => True) s ∧ ¬ s.AbortsTruly := by
  constructor
  · have hrun : (Runs.attempt BackendState.step (fun _ _ => True)
        (firstOutput "a" ++ [.generate "a" .raises]) {}).map
        (fun s => (s.running.keys, s.resultsOf "a", s.tables.requestTrace.keys)) =
          some ([], [.raised], ["a"]) := by
      decide +kernel
    obtain ⟨s, hs, heq⟩ := Option.map_eq_some_iff.mp hrun
    injection heq with hrunning heq
    injection heq with hresults htrace
    refine ⟨s, .attempt (.start rfl) hs, fun h => ?_⟩
    refine (h "a" (by rw [hrunning]; exact List.not_mem_nil) (by rw [hresults]; simp)).1 ?_
    rw [htrace]
    exact List.mem_singleton_self _
  · have hrun : (Runs.attempt BackendState.step (fun _ _ => True)
        [.abort "a" "preempted" true, .aborted 0 true] {}).map (fun s => s.confirmed) =
          some [⟨"a", none⟩] := by
      decide +kernel
    obtain ⟨s, hs, heq⟩ := Option.map_eq_some_iff.mp hrun
    refine ⟨s, .attempt (.start rfl) hs, fun h => ?_⟩
    obtain ⟨k, hk, -⟩ := h ⟨"a", none⟩ (by rw [heq]; exact List.mem_singleton_self _)
    exact absurd hk (by simp)

end BackendState

end Backend
end SpotServe
