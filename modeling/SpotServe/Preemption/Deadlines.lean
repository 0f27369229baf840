import SpotServe.Library.Runs
import SpotServe.Preemption.TraceReplay
import Mathlib.Tactic.Linarith

/-!
# Which deadlines are kept

A deadline task is filed under the keys of its event.  The keys of the instance and of the node say
whom the deadline is for; the key of the selector does not, since the same selector picks another
instance once the first one is no longer ready.  An event that finds a task under its selector key
cancels the deadline of whatever instance that was.

In a replay where this never hits another instance (`Careful`) every preemption with a grace period
is answered by exactly one report, at its deadline, or an event for the same instance or node came
in between (`deadlinesKept_of_careful`).  Two preemptions of the first ready instance share the key
`selector:ready:0`, and the instance of the first one never dies.
-/

namespace SpotServe
namespace Preemption

open Py

/-! ## The property -/

/-- The event ends deadlines: its kind is one of three, or it brings a new deadline. -/
def SpotEvent.endsDeadlines (e : SpotEvent) : Prop :=
  e.event = .recover ∨ e.event = .dead ∨ e.event = .remove ∨
    e.event = .preempt ∧ e.gracePeriodS.isSome

instance (e : SpotEvent) : Decidable e.endsDeadlines := inferInstanceAs (Decidable (_ ∨ _))

/-- The event is for the instance or the node of the task. -/
def SameTarget (e : SpotEvent) (resolved : Option String) (t : DeadlineTask) : Prop :=
  ∃ key ∈ targetKeys e resolved, key ∈ targetKeys t.event t.resolved

instance (e : SpotEvent) (resolved : Option String) (t : DeadlineTask) :
    Decidable (SameTarget e resolved t) :=
  inferInstanceAs (Decidable (∃ key ∈ _, _))

/-- The instance is reported dead once, at the deadline, or another event for it comes first. -/
def DiesOnTime (replayed : List Replayed) (t : DeadlineTask) : Prop :=
  t.deadCalls = [t.deadCall t.deadline] ∨
    t.deadCalls = [] ∧ ∃ i p, t.index < i ∧ replayed[i]? = some p ∧ p.event.endsDeadlines ∧
      SameTarget p.event p.resolved t ∧ p.time ≤ t.deadline

/-- What is known of a task at its preemption. -/
structure Notice where
  event : SpotEvent
  resolved : Option String
  index : ℕ
  deadline : ℚ

def DeadlineTask.notice (t : DeadlineTask) : Notice := ⟨t.event, t.resolved, t.index, t.deadline⟩

/-- All events were replayed, every preemption with a grace period has one task and dies on time,
and the counts add up. -/
structure DeadlinesKept (speedup : Speedup) (events : List SpotEvent) (r : Replay) : Prop where
  whole : r.replayed.map Replayed.event = events
  answered : ∀ k p grace, r.replayed[k]? = some p → p.event.event = .preempt →
    p.event.gracePeriodS = some grace →
    ∃ t, r.deadlineTasks.filter (fun t => t.index = k) = [t] ∧
      t.notice = ⟨p.event, p.resolved, k, p.time + grace / speedup⟩ ∧ DiesOnTime r.replayed t
  counts : r.autoDeadScheduled =
    r.autoDeadCancelled + r.autoDeadDispatched + r.ended .superseded

/-- An event that ends deadlines finds no sleeping task of another target under its selector key. -/
def Careful (speedup : Speedup) (r : Replay) : Action → Prop
  | .replay states => ∀ e ∈ r.events.head?, e.time / speedup ≤ r.now → e.endsDeadlines →
      ∀ resolved ∈ (resolveInstanceId e states).toOption, ∀ key ∈ selectorKey e,
        ∀ task ∈ r.pendingDeadlines.get? key, ∀ t ∈ r.deadlineTasks[task]?,
          t.phase = .sleeping → SameTarget e resolved t
  | _ => True

instance (speedup : Speedup) (r : Replay) : DecidablePred (Careful speedup r)
  | .replay states => by
    unfold Careful
    infer_instance
  | .tick _ | .wake _ | .answer _ => inferInstanceAs (Decidable True)

/-! ## Tasks -/

section Tasks

variable {replayed : List Replayed} {now : ℚ} {t : DeadlineTask}

theorem DiesOnTime.append (h : DiesOnTime replayed t) (more : List Replayed) :
    DiesOnTime (replayed ++ more) t := by
  rcases h with hcalled | ⟨hnone, i, p, hlt, hget, hp⟩
  · exact .inl hcalled
  · refine .inr ⟨hnone, i, p, hlt, ?_, hp⟩
    rw [List.getElem?_append_left (List.getElem?_eq_some_iff.mp hget).1]
    exact hget

/-- A task of a replay. -/
structure TaskOk (replayed : List Replayed) (now : ℚ) (t : DeadlineTask) : Prop where
  index : t.index < replayed.length
  sleeping : t.phase = .sleeping → t.deadCalls = [] ∧ now ≤ t.deadline
  awake : t.phase ≠ .sleeping → DiesOnTime replayed t

theorem TaskOk.append (h : TaskOk replayed now t) (more : List Replayed) :
    TaskOk (replayed ++ more) now t where
  index := by
    rw [List.length_append]
    exact Nat.lt_add_right _ h.index
  sleeping := h.sleeping
  awake := fun hphase => (h.awake hphase).append more

/-- A task is ended by an event for its target, or after it has called. -/
theorem TaskOk.ended (h : TaskOk replayed now t) {p : Replayed} (hends : p.event.endsDeadlines)
    (htarget : t.phase = .sleeping → SameTarget p.event p.resolved t) (hnow : p.time = now)
    (ending : TaskEnd) :
    TaskOk (replayed ++ [p]) now { t with phase := .done ending } where
  index := (h.append [p]).index
  sleeping := fun hphase => absurd hphase (by simp)
  awake := fun _ => by
    by_cases hsleeping : t.phase = .sleeping
    · obtain ⟨hnone, hle⟩ := h.sleeping hsleeping
      refine .inr ⟨hnone, replayed.length, p, h.index, ?_, hends, htarget hsleeping, ?_⟩
      · rw [List.getElem?_append_right (le_refl _), Nat.sub_self]
        rfl
      · rw [hnow]
        exact hle
    · exact (h.awake hsleeping).append [p]

end Tasks

/-! ### Ending several tasks -/

section EndTasks

variable {r : Replay} {tasks : List ℕ} {ending : TaskEnd}

theorem getElem?_endTasks (r : Replay) (tasks : List ℕ) (ending : TaskEnd) (i : ℕ) :
    (r.endTasks tasks ending)[i]? = (r.deadlineTasks[i]?).map fun t =>
      if i ∈ tasks then { t with phase := .done ending } else t := by
  unfold Replay.endTasks
  generalize r.deadlineTasks = deadlineTasks
  induction tasks generalizing deadlineTasks with
  | nil => simp
  | cons task rest ih =>
    rw [List.foldl_cons, ih, List.getElem?_modify]
    cases deadlineTasks[i]? with
    | none => simp
    | some t =>
      by_cases hi : task = i
      · subst hi
        simp
      · simp [hi, Ne.symm hi]

theorem length_endTasks (r : Replay) (tasks : List ℕ) (ending : TaskEnd) :
    (r.endTasks tasks ending).length = r.deadlineTasks.length := by
  unfold Replay.endTasks
  generalize r.deadlineTasks = deadlineTasks
  induction tasks generalizing deadlineTasks with
  | nil => rfl
  | cons task rest ih => rw [List.foldl_cons, ih, List.length_modify]

/-- What is known of the tasks stays. -/
theorem map_notice_endTasks (r : Replay) (tasks : List ℕ) (ending : TaskEnd) :
    (r.endTasks tasks ending).map DeadlineTask.notice =
      r.deadlineTasks.map DeadlineTask.notice := by
  refine List.ext_getElem? fun i => ?_
  rw [List.getElem?_map, List.getElem?_map, getElem?_endTasks]
  cases r.deadlineTasks[i]? with
  | none => rfl
  | some t =>
    simp only [Option.map_some]
    split_ifs <;> rfl

/-- Unfinished tasks that are ended count once each, and only for their ending. -/
theorem countP_endTasks (hnodup : tasks.Nodup) (htasks : ∀ task ∈ tasks, r.unfinished task)
    (other : TaskEnd) :
    (r.endTasks tasks ending).countP (fun t => t.phase = .done other) =
      r.ended other + if ending = other then tasks.length else 0 := by
  unfold Replay.unfinished at htasks
  unfold Replay.endTasks Replay.ended
  generalize r.deadlineTasks = deadlineTasks at *
  induction tasks generalizing deadlineTasks with
  | nil => simp
  | cons task rest ih =>
    obtain ⟨hnew, hrest⟩ := List.nodup_cons.mp hnodup
    have htask := htasks task List.mem_cons_self
    obtain ⟨t, hget, hdone⟩ := (Option.any_eq_true _ _).mp htask
    obtain ⟨hlt, -⟩ := List.getElem?_eq_some_iff.mp hget
    rw [List.foldl_cons, ih hrest _ fun task' hmem => ?_]
    · obtain ⟨before, t', after, hsplit, hlength, hmodify⟩ := List.exists_of_modify
        (fun t : DeadlineTask => { t with phase := .done ending }) hlt
      obtain rfl : t' = t := by
        rw [hsplit, ← hlength, List.getElem?_append_right (le_refl _), Nat.sub_self] at hget
        exact Option.some.inj hget
      have hphase : t'.phase ≠ .done other := by
        intro hphase
        simp [DeadlineTask.isDone, hphase] at hdone
      rw [hmodify, hsplit]
      simp only [List.countP_append, List.countP_cons, decide_eq_true_eq, hphase, if_false,
        TaskPhase.done.injEq, List.length_cons]
      split_ifs <;> omega
    · have hne : task ≠ task' := fun heq => hnew (heq ▸ hmem)
      rw [List.getElem?_modify_ne _ _ hne]
      exact htasks task' (List.mem_cons_of_mem _ hmem)

theorem mem_pendingTasks {keys : List DeadlineKey} {task : ℕ} :
    task ∈ r.pendingTasks keys ↔
      (∃ key ∈ keys, r.pendingDeadlines.get? key = some task) ∧ r.unfinished task := by
  rw [Replay.pendingTasks, List.mem_dedup, List.mem_filter, List.mem_filterMap]

theorem countP_pendingTasks (r : Replay) (keys : List DeadlineKey) (ending other : TaskEnd) :
    (r.endTasks (r.pendingTasks keys) ending).countP (fun t => t.phase = .done other) =
      r.ended other + if ending = other then (r.pendingTasks keys).length else 0 :=
  countP_endTasks (List.nodup_dedup _) (fun _ hmem => (mem_pendingTasks.mp hmem).2) other

end EndTasks

/-! ## Keys -/

theorem fst_of_mem_targetKeys {e : SpotEvent} {resolved : Option String} {key : DeadlineKey}
    (h : key ∈ targetKeys e resolved) : key.1 ≠ "selector" := by
  simp only [targetKeys, List.mem_append, Option.mem_toList, Option.map_eq_some_iff] at h
  rcases h with ⟨_, -, rfl⟩ | ⟨_, -, rfl⟩ <;> simp

theorem fst_of_mem_selectorKey {e : SpotEvent} {key : DeadlineKey} (h : key ∈ selectorKey e) :
    key.1 = "selector" := by
  unfold selectorKey at h
  split_ifs at h
  · exact absurd h (by simp)
  · rw [Option.mem_some_iff] at h
    rw [← h]

/-- A key of the instance or of the node is shared as one. -/
theorem mem_targetKeys_of_mem {e e' : SpotEvent} {resolved resolved' : Option String}
    {key : DeadlineKey} (h : key ∈ targetKeys e resolved)
    (h' : key ∈ deadlineKeysForEvent e' resolved') : key ∈ targetKeys e' resolved' := by
  rcases List.mem_append.mp h' with htarget | hselector
  · exact htarget
  · exact absurd (fst_of_mem_selectorKey (Option.mem_toList.mp hselector)) (fst_of_mem_targetKeys h)

theorem get?_of_foldl_erase {keys : List DeadlineKey} {pending : OrderedDict DeadlineKey ℕ}
    {key : DeadlineKey} {task : ℕ}
    (h : (keys.foldl OrderedDict.erase pending).get? key = some task) :
    pending.get? key = some task := by
  induction keys generalizing pending with
  | nil => exact h
  | cons first rest ih =>
    have hrest := ih h
    rw [OrderedDict.get?_erase] at hrest
    split_ifs at hrest
    exact hrest

theorem get?_of_foldl_set {keys : List DeadlineKey} {pending : OrderedDict DeadlineKey ℕ}
    {key : DeadlineKey} {new task : ℕ}
    (h : (keys.foldl (fun pending key => pending.set key new) pending).get? key = some task) :
    task = new ∧ key ∈ keys ∨ pending.get? key = some task := by
  induction keys generalizing pending with
  | nil => exact .inr h
  | cons first rest ih =>
    rcases ih h with ⟨rfl, hmem⟩ | hold
    · exact .inl ⟨rfl, List.mem_cons_of_mem _ hmem⟩
    · rw [OrderedDict.get?_set] at hold
      split_ifs at hold with hkey
      · exact .inl ⟨(Option.some.inj hold).symm, hkey ▸ List.mem_cons_self⟩
      · exact .inr hold

/-! ## The replay of one event -/

/-- What holds in every replay that is careful. -/
structure Sound (speedup : Speedup) (r : Replay) : Prop where
  events : ∀ e ∈ r.events, ∀ grace ∈ e.gracePeriodS, 0 ≤ grace
  pending : ∀ key task, r.pendingDeadlines.get? key = some task → ∃ t,
    r.deadlineTasks[task]? = some t ∧ key ∈ deadlineKeysForEvent t.event t.resolved
  tasks : ∀ t ∈ r.deadlineTasks, TaskOk r.replayed r.now t
  scheduled : r.autoDeadScheduled = r.deadlineTasks.length
  cancelled : r.autoDeadCancelled = r.ended .cancelled
  notices : ∀ k p grace, r.replayed[k]? = some p → p.event.event = .preempt →
    p.event.gracePeriodS = some grace →
    (r.deadlineTasks.map DeadlineTask.notice).filter (fun n => n.index = k) =
      [⟨p.event, p.resolved, k, p.time + grace / speedup⟩]

section Handle

variable {speedup : Speedup} {r : Replay} {e : SpotEvent} {resolved : Option String}
  {rest : List SpotEvent}

/-- The tasks that an event of this kind finds are for its instance or its node. -/
def OwnTasks (r : Replay) (e : SpotEvent) (resolved : Option String) : Prop :=
  ∀ task ∈ r.pendingTasks (deadlineKeysForEvent e resolved), ∀ t,
    r.deadlineTasks[task]? = some t → t.phase = .sleeping → SameTarget e resolved t

theorem Sound.ownTasks (h : Sound speedup r)
    (hselector : ∀ key ∈ selectorKey e, ∀ task ∈ r.pendingDeadlines.get? key,
      ∀ t ∈ r.deadlineTasks[task]?, t.phase = .sleeping → SameTarget e resolved t) :
    OwnTasks r e resolved := by
  intro task hmem t hget hsleeping
  obtain ⟨⟨key, hkey, hpending⟩, -⟩ := mem_pendingTasks.mp hmem
  rcases List.mem_append.mp hkey with htarget | hsel
  · obtain ⟨t', hget', hkeys⟩ := h.pending key task hpending
    obtain rfl := Option.some.inj (hget.symm.trans hget')
    exact ⟨key, htarget, mem_targetKeys_of_mem htarget hkeys⟩
  · exact hselector key (Option.mem_toList.mp hsel) task hpending t hget hsleeping

/-- The tasks after those that the event finds were ended. -/
theorem Sound.endTasks (h : Sound speedup r) (hends : e.endsDeadlines)
    (hown : OwnTasks r e resolved) (ending : TaskEnd) {t : DeadlineTask}
    (ht : t ∈ r.endTasks (r.pendingTasks (deadlineKeysForEvent e resolved)) ending) :
    TaskOk (r.replayed ++ [⟨e, resolved, r.now⟩]) r.now t := by
  obtain ⟨i, hget⟩ := List.getElem?_of_mem ht
  rw [getElem?_endTasks, Option.map_eq_some_iff] at hget
  obtain ⟨t', hget', rfl⟩ := hget
  have hok := h.tasks t' (List.mem_of_getElem? hget')
  split_ifs with hi
  · exact hok.ended hends (hown i hi t' hget') rfl ending
  · exact hok.append _

theorem Sound.pending_endTasks (h : Sound speedup r) (keys : List DeadlineKey) (ending : TaskEnd)
    {key : DeadlineKey} {task : ℕ} (hpending : r.pendingDeadlines.get? key = some task) :
    ∃ t, (r.endTasks (r.pendingTasks keys) ending)[task]? = some t ∧
      key ∈ deadlineKeysForEvent t.event t.resolved := by
  obtain ⟨t, hget, hkey⟩ := h.pending key task hpending
  rw [getElem?_endTasks, hget, Option.map_some]
  refine ⟨_, rfl, ?_⟩
  split_ifs <;> exact hkey

/-- An event that brings no deadline asks for none. -/
theorem Sound.notices_proceed (h : Sound speedup r)
    (hnone : e.event = .preempt → e.gracePeriodS = none) {deadlineTasks : List DeadlineTask}
    (htasks : deadlineTasks.map DeadlineTask.notice = r.deadlineTasks.map DeadlineTask.notice)
    {k : ℕ} {p : Replayed} {grace : ℚ}
    (hget : (r.replayed ++ [⟨e, resolved, r.now⟩])[k]? = some p)
    (hpreempt : p.event.event = .preempt) (hgrace : p.event.gracePeriodS = some grace) :
    (deadlineTasks.map DeadlineTask.notice).filter (fun n => n.index = k) =
      [⟨p.event, p.resolved, k, p.time + grace / speedup⟩] := by
  rw [htasks]
  rw [List.getElem?_append] at hget
  split_ifs at hget
  · exact h.notices k p grace hget hpreempt hgrace
  · obtain rfl := List.mem_singleton.mp (List.mem_of_getElem? hget)
    rw [hnone hpreempt] at hgrace
    exact absurd hgrace (by simp)

theorem Sound.cancel (h : Sound speedup r)
    (hevents : ∀ e ∈ rest, ∀ grace ∈ e.gracePeriodS, 0 ≤ grace)
    (hends : e.endsDeadlines) (hkind : e.event ≠ .preempt) (hown : OwnTasks r e resolved) :
    Sound speedup ((r.cancelPendingDeadlines (deadlineKeysForEvent e resolved)).proceed e resolved
      rest) where
  events := hevents
  pending := fun key task hpending => by
    have hold := ((OrderedDict.get?_filter _ _).mp hpending).1
    exact h.pending_endTasks _ .cancelled (get?_of_foldl_erase hold)
  tasks := fun t ht => h.endTasks hends hown .cancelled ht
  scheduled := h.scheduled.trans (length_endTasks r _ .cancelled).symm
  cancelled := by
    show r.autoDeadCancelled + _ = _
    rw [h.cancelled]
    exact (countP_pendingTasks r (deadlineKeysForEvent e resolved) .cancelled .cancelled).symm
  notices := fun _ _ _ => h.notices_proceed (fun hpreempt => absurd hpreempt hkind)
    (map_notice_endTasks r _ .cancelled)

theorem Sound.ignore (h : Sound speedup r)
    (hevents : ∀ e ∈ rest, ∀ grace ∈ e.gracePeriodS, 0 ≤ grace)
    (hnone : e.event = .preempt → e.gracePeriodS = none) :
    Sound speedup (r.proceed e resolved rest) where
  events := hevents
  pending := h.pending
  tasks := fun t ht => (h.tasks t ht).append _
  scheduled := h.scheduled
  cancelled := h.cancelled
  notices := fun _ _ _ => h.notices_proceed hnone rfl

/-- A new deadline, from now on. -/
theorem Sound.schedule (h : Sound speedup r)
    (hevents : ∀ e ∈ rest, ∀ grace ∈ e.gracePeriodS, 0 ≤ grace) (hkind : e.event = .preempt)
    {grace : ℚ} (hgrace : e.gracePeriodS = some grace) (hle : 0 ≤ grace)
    (hown : OwnTasks r e resolved) :
    Sound speedup ((r.scheduleDeadline speedup e resolved grace).proceed e resolved rest) := by
  have hends : e.endsDeadlines := .inr (.inr (.inr ⟨hkind, by rw [hgrace]; rfl⟩))
  have hlength := length_endTasks r (r.pendingTasks (deadlineKeysForEvent e resolved)) .superseded
  refine ⟨hevents, fun key task hpending => ?_, fun t ht => ?_, ?_, ?_, fun k p grace' => ?_⟩
  · rcases get?_of_foldl_set hpending with ⟨rfl, hkey⟩ | hold
    · refine ⟨{ event := e, resolved := resolved, index := r.replayed.length
                deadline := r.now + grace / speedup }, ?_, hkey⟩
      show (r.endTasks _ _ ++ [_])[r.deadlineTasks.length]? = _
      rw [List.getElem?_append_right (le_of_eq hlength), hlength, Nat.sub_self]
      rfl
    · obtain ⟨t, hget, hkey⟩ := h.pending_endTasks _ .superseded hold
      refine ⟨t, ?_, hkey⟩
      show (r.endTasks _ _ ++ [_])[task]? = _
      rw [List.getElem?_append_left (List.getElem?_eq_some_iff.mp hget).1]
      exact hget
  · rcases List.mem_append.mp ht with hold | hnew
    · exact h.endTasks hends hown .superseded hold
    · rw [List.mem_singleton.mp hnew]
      refine ⟨?_, fun _ => ⟨rfl, ?_⟩, fun hphase => absurd rfl hphase⟩
      · show r.replayed.length < (r.replayed ++ [_]).length
        simp
      · have hpos := div_nonneg hle (le_of_lt speedup.2)
        show r.now ≤ r.now + grace / speedup
        linarith
  · show r.autoDeadScheduled + 1 = (r.endTasks _ _ ++ [_]).length
    rw [h.scheduled, List.length_append, hlength]
    rfl
  · show r.autoDeadCancelled = (r.endTasks _ _ ++ [_]).countP _
    rw [h.cancelled, List.countP_append, countP_pendingTasks]
    rfl
  · intro hget hpreempt hgrace'
    change (r.replayed ++ [⟨e, resolved, r.now⟩])[k]? = some p at hget
    show ((r.endTasks _ _ ++ [_]).map _).filter _ = _
    rw [List.map_append, map_notice_endTasks, List.filter_append]
    rw [List.getElem?_append] at hget
    split_ifs at hget with hk
    · rw [h.notices k p grace' hget hpreempt hgrace']
      have hne : r.replayed.length ≠ k := by omega
      simp [DeadlineTask.notice, hne]
    · obtain ⟨hlt, -⟩ := List.getElem?_eq_some_iff.mp hget
      obtain rfl : k = r.replayed.length := by
        rw [List.length_singleton] at hlt
        omega
      obtain rfl := List.mem_singleton.mp (List.mem_of_getElem? hget)
      obtain rfl : grace = grace' := Option.some.inj (hgrace.symm.trans hgrace')
      -- the tasks so far answer earlier events
      have hold : (r.deadlineTasks.map DeadlineTask.notice).filter
          (fun n => n.index = r.replayed.length) = [] := by
        rw [List.filter_eq_nil_iff]
        intro n hn
        obtain ⟨t, ht, rfl⟩ := List.mem_map.mp hn
        show ¬ decide (t.index = r.replayed.length) = true
        rw [decide_eq_true_eq]
        exact (h.tasks t ht).index.ne
      rw [hold]
      simp [DeadlineTask.notice]

/-- **One event.** -/
theorem Sound.handle (h : Sound speedup r)
    (hevents : ∀ e' ∈ e :: rest, ∀ grace ∈ e'.gracePeriodS, 0 ≤ grace)
    (hown : e.endsDeadlines → OwnTasks r e resolved) :
    Sound speedup ((r.handle speedup e resolved).proceed e resolved rest) := by
  have hrest : ∀ e' ∈ rest, ∀ grace ∈ e'.gracePeriodS, 0 ≤ grace :=
    fun e' he' => hevents e' (List.mem_cons_of_mem _ he')
  unfold Replay.handle
  cases hkind : e.event with
  | recover => exact h.cancel hrest (.inl hkind) (by simp [hkind]) (hown (.inl hkind))
  | dead => exact h.cancel hrest (.inr (.inl hkind)) (by simp [hkind]) (hown (.inr (.inl hkind)))
  | remove =>
    have hends : e.endsDeadlines := .inr (.inr (.inl hkind))
    exact h.cancel hrest hends (by simp [hkind]) (hown hends)
  | add => exact h.ignore hrest (by simp [hkind])
  | preempt =>
    cases hgrace : e.gracePeriodS with
    | none => exact h.ignore hrest fun _ => hgrace
    | some grace =>
      have hends : e.endsDeadlines := .inr (.inr (.inr ⟨hkind, by rw [hgrace]; rfl⟩))
      exact h.schedule hrest hkind hgrace (hevents e List.mem_cons_self grace hgrace) (hown hends)

end Handle

/-! ## Runs -/

section Runs

variable {speedup : Speedup} {r r' : Replay}

/-- A task goes on. -/
theorem Sound.setTask (h : Sound speedup r) {task : ℕ} {t next : DeadlineTask}
    (hget : r.deadlineTasks[task]? = some t) (hnotice : next.notice = t.notice)
    (hok : TaskOk r.replayed r.now next)
    (hcancelled : next.phase ≠ .done .cancelled) (hphase : t.phase ≠ .done .cancelled) :
    Sound speedup (r.setTask task next) := by
  obtain ⟨hlt, hget'⟩ := List.getElem?_eq_some_iff.mp hget
  have hmap : (r.deadlineTasks.set task next).map DeadlineTask.notice =
      r.deadlineTasks.map DeadlineTask.notice := by
    rw [List.map_set, hnotice, ← hget', ← List.map_set, List.set_getElem_self]
  refine ⟨h.events, fun key task' hpending => ?_, fun t' ht' => ?_, ?_, ?_, fun k p grace => ?_⟩
  · obtain ⟨t', hget'', hkey⟩ := h.pending key task' hpending
    show ∃ t, (r.deadlineTasks.set task next)[task']? = some t ∧ _
    rw [List.getElem?_set]
    split_ifs with heq
    · subst heq
      obtain rfl := Option.some.inj (hget.symm.trans hget'')
      refine ⟨next, rfl, ?_⟩
      have hevent : next.event = t.event := congrArg Notice.event hnotice
      have hresolved : next.resolved = t.resolved := congrArg Notice.resolved hnotice
      rw [hevent, hresolved]
      exact hkey
    · exact ⟨t', hget'', hkey⟩
  · rcases List.mem_or_eq_of_mem_set ht' with hold | rfl
    · exact h.tasks t' hold
    · exact hok
  · show r.autoDeadScheduled = (r.deadlineTasks.set task next).length
    rw [h.scheduled, List.length_set]
  · show r.autoDeadCancelled = (r.deadlineTasks.set task next).countP _
    rw [h.cancelled, List.countP_set hlt, hget']
    simp [hcancelled, hphase, Replay.ended]
  · show _ → _ → _ → ((r.deadlineTasks.set task next).map _).filter _ = _
    rw [hmap]
    exact h.notices k p grace

/-- **A careful step.** -/
theorem Sound.step (h : Sound speedup r) {a : Action} (hcareful : Careful speedup r a)
    (hstep : r.step speedup a = some r') : Sound speedup r' := by
  cases a with
  | tick now =>
    simp only [Replay.step] at hstep
    split_ifs at hstep with htick
    obtain rfl := Option.some.inj hstep
    refine ⟨h.events, h.pending, fun t ht => ?_, h.scheduled, h.cancelled, h.notices⟩
    have hok := h.tasks t ht
    exact ⟨hok.index, fun hphase => ⟨(hok.sleeping hphase).1, htick.2 t ht hphase⟩, hok.awake⟩
  | replay states =>
    simp only [Replay.step] at hstep
    split at hstep
    · exact absurd hstep (by simp)
    case h_2 e rest hevents =>
      split_ifs at hstep with htime
      split at hstep
      · exact absurd hstep (by simp)
      case h_2 resolved hresolved =>
        obtain rfl := Option.some.inj hstep
        refine h.handle (fun e' he' => h.events e' (by rw [hevents]; exact he')) fun hends => ?_
        have hhead : e ∈ r.events.head? := by simp [hevents]
        exact h.ownTasks (hcareful e hhead htime hends resolved (by rw [hresolved]; rfl))
  | wake task =>
    simp only [Replay.step] at hstep
    split at hstep
    case h_1 t hget =>
      split_ifs at hstep with hwakes
      obtain rfl := Option.some.inj hstep
      have hok := h.tasks t (List.mem_of_getElem? hget)
      obtain ⟨hnone, hle⟩ := hok.sleeping hwakes.1
      have hnow : r.now = t.deadline := le_antisymm hle hwakes.2
      refine h.setTask hget rfl ⟨hok.index, fun hphase => absurd hphase (by simp), fun _ => .inl ?_⟩
        (by simp) (by simp [hwakes.1])
      rw [hnone, hnow]
      rfl
    case h_2 => exact absurd hstep (by simp)
  | answer task =>
    simp only [Replay.step] at hstep
    split at hstep
    case h_1 t hget =>
      split_ifs at hstep with hphase
      obtain rfl := Option.some.inj hstep
      have hok := h.tasks t (List.mem_of_getElem? hget)
      refine h.setTask hget rfl ⟨hok.index, fun hsleeping => absurd hsleeping (by simp), fun _ => ?_⟩
        (by simp) (by simp [hphase])
      exact hok.awake (by simp [hphase])
    case h_2 => exact absurd hstep (by simp)

/-- When the loop is over and the tasks are gathered, nobody sleeps. -/
theorem Sound.answered (h : Sound speedup r) (hfinished : r.Finished) {k : ℕ} {p : Replayed}
    {grace : ℚ} (hget : r.replayed[k]? = some p) (hpreempt : p.event.event = .preempt)
    (hgrace : p.event.gracePeriodS = some grace) :
    ∃ t, r.deadlineTasks.filter (fun t => t.index = k) = [t] ∧
      t.notice = ⟨p.event, p.resolved, k, p.time + grace / speedup⟩ ∧
      DiesOnTime r.replayed t := by
  have hnotices := h.notices k p grace hget hpreempt hgrace
  rw [List.filter_map] at hnotices
  obtain ⟨t, hone, hnotice⟩ := List.map_eq_singleton_iff.mp hnotices
  have hmem : t ∈ r.deadlineTasks :=
    List.mem_of_mem_filter (hone ▸ List.mem_singleton_self t)
  refine ⟨t, hone, hnotice, (h.tasks t hmem).awake fun hsleeping => ?_⟩
  have hdone := hfinished.2 t hmem
  simp [DeadlineTask.isDone, hsleeping] at hdone

theorem countP_phase (tasks : List DeadlineTask) (h : ∀ t ∈ tasks, t.isDone) :
    tasks.length = tasks.countP (fun t => t.phase = .done .cancelled) +
      tasks.countP (fun t => t.phase = .done .dispatched) +
      tasks.countP (fun t => t.phase = .done .superseded) := by
  induction tasks with
  | nil => rfl
  | cons t rest ih =>
    have hrest := ih fun t' ht' => h t' (List.mem_cons_of_mem _ ht')
    have hdone := h t List.mem_cons_self
    rw [List.countP_cons, List.countP_cons, List.countP_cons, List.length_cons, hrest]
    cases hphase : t.phase with
    | sleeping => simp [DeadlineTask.isDone, hphase] at hdone
    | dispatching => simp [DeadlineTask.isDone, hphase] at hdone
    | done ending => cases ending <;> simp <;> omega

/-- The states of the replays of a trace. -/
def Replaying (speedup : Speedup) (events : List SpotEvent)
    (allowed : Replay → Action → Prop) : Replay → Prop :=
  Runs.Reachable (· = { events := events }) (fun r a r' => r.step speedup a = some r') allowed

variable {events : List SpotEvent} {allowed : Replay → Action → Prop}

/-- No event is skipped or replayed twice. -/
theorem replayed_append_events (h : Replaying speedup events allowed r) :
    r.replayed.map Replayed.event ++ r.events = events := by
  refine Runs.Reachable.invariant (fun r => r.replayed.map Replayed.event ++ r.events = events)
    ?_ ?_ h
  · rintro _ rfl
    rfl
  · intro r a r' hinv _ hstep
    have hhandle : ∀ e resolved, (r.handle speedup e resolved).replayed = r.replayed := by
      intro e resolved
      unfold Replay.handle
      split <;> rfl
    cases a with
    | replay states =>
      simp only [Replay.step] at hstep
      split at hstep
      · exact absurd hstep (by simp)
      case h_2 e rest hevents =>
        split_ifs at hstep
        split at hstep
        · exact absurd hstep (by simp)
        case h_2 resolved _ =>
          obtain rfl := Option.some.inj hstep
          rw [hevents] at hinv
          simp [Replay.proceed, hhandle, hinv]
    | tick now =>
      simp only [Replay.step] at hstep
      split_ifs at hstep
      obtain rfl := Option.some.inj hstep
      exact hinv
    | wake task | answer task =>
      simp only [Replay.step] at hstep
      split at hstep
      · split_ifs at hstep
        obtain rfl := Option.some.inj hstep
        exact hinv
      · exact absurd hstep (by simp)

theorem nonneg_of_loadSpotTrace {trace : List SpotEvent} (h : loadSpotTrace trace = .ok events) :
    ∀ e ∈ events, ∀ grace ∈ e.gracePeriodS, 0 ≤ grace := by
  obtain ⟨_, hchecked, hsorted⟩ := Runs.of_bind_ok h
  have hpost : ∀ e ∈ trace, e.postInit = .ok () := by
    clear h hsorted
    induction trace with
    | nil => exact fun _ he => absurd he (by simp)
    | cons e rest ih =>
      obtain ⟨_, hfirst, hrest⟩ := Runs.of_bind_ok hchecked
      intro e' he'
      rcases List.mem_cons.mp he' with rfl | hmem
      · exact hfirst
      · exact ih hrest e' hmem
  obtain rfl := Except.ok.inj hsorted
  intro e he grace hgrace
  have hok := hpost e ((List.perm_insertionSort _ _).mem_iff.mp he)
  by_contra hneg
  have hbad : ∃ grace ∈ e.gracePeriodS, grace < 0 := ⟨grace, hgrace, not_le.mp hneg⟩
  unfold SpotEvent.postInit at hok
  rw [if_pos hbad] at hok
  split_ifs at hok

end Runs

/-- **Every revoked instance dies on time**, in a careful replay of a trace. -/
theorem deadlinesKept_of_careful (speedup : Speedup) (trace events : List SpotEvent) (r : Replay)
    (htrace : loadSpotTrace trace = .ok events)
    (hrun : Replaying speedup events (Careful speedup) r) (hfinished : r.Finished) :
    DeadlinesKept speedup events r := by
  have hsound : Sound speedup r := by
    refine Runs.Reachable.invariant _ ?_ ?_ hrun
    · rintro _ rfl
      exact ⟨nonneg_of_loadSpotTrace htrace, fun _ _ h => absurd h (by simp),
        fun _ h => absurd h (by simp), rfl, rfl, fun _ _ _ h => absurd h (by simp)⟩
    · intro r a r' hinv hcareful hstep
      exact hinv.step hcareful hstep
  refine ⟨?_, fun k p grace => hsound.answered hfinished, ?_⟩
  · have hwhole := replayed_append_events hrun
    rw [hfinished.1, List.append_nil] at hwhole
    exact hwhole
  · rw [hsound.scheduled, hsound.cancelled]
    exact countP_phase r.deadlineTasks hfinished.2

/-- The trace as it was recorded. -/
def realTime : Speedup := ⟨1, by decide⟩

/-- The first ready instance is preempted. -/
def firstReady (time : ℚ) : SpotEvent where
  time := time
  event := .preempt
  modelName := some "m"
  instanceSelector := some "ready"
  gracePeriodS := some 10

/-- Two instances; the first one is ready or preempting. -/
def twoStates (first : String) : List (String × InstanceState) :=
  [("i-1", ⟨some "ready", some first, 0⟩), ("i-2", ⟨some "ready", some "ready", 0⟩)]

/-- The first ready instance is preempted twice, the second time after it has recovered; another one
is preempted by name. -/
def selectorAndName : List SpotEvent :=
  [firstReady 0,
    { time := 1, event := .preempt, modelName := some "m", instanceId := some "i-3"
      gracePeriodS := some 10 },
    { time := 2, event := .recover, modelName := some "m", instanceId := some "i-1" },
    firstReady 3]

/-- The selector picks `i-1` first and `i-2` then, when no deadline of `i-1` is left. -/
theorem deadlinesKept_selectorAndName : ∃ r,
    Replaying realTime selectorAndName (Careful realTime) r ∧
    r.replayed.map Replayed.resolved = [some "i-1", some "i-3", some "i-1", some "i-2"] ∧
    r.autoDeadScheduled = 3 ∧ r.autoDeadDispatched = 2 ∧
    DeadlinesKept realTime selectorAndName r := by
  have hrun : (Runs.attempt (Replay.step · realTime) (Careful realTime)
      [.replay (twoStates "ready"), .tick 1, .replay [], .tick 2, .replay [], .tick 3,
        .replay (twoStates "preempting"), .tick 11, .wake 1, .tick 13, .wake 2, .answer 2,
        .answer 1]
      { events := selectorAndName }).map (fun r => (r.events,
        r.deadlineTasks.all DeadlineTask.isDone, r.replayed.map Replayed.resolved,
        r.autoDeadScheduled, r.autoDeadDispatched)) =
      some ([], true, [some "i-1", some "i-3", some "i-1", some "i-2"], 3, 2) := by
    decide +kernel
  obtain ⟨r, hr, hparts⟩ := Option.map_eq_some_iff.mp hrun
  simp only [Prod.mk.injEq, List.all_eq_true] at hparts
  obtain ⟨hevents, hdone, hresolved, hscheduled, hdispatched⟩ := hparts
  have hreachable : Replaying realTime selectorAndName (Careful realTime) r :=
    .attempt (.start rfl) hr
  exact ⟨r, hreachable, hresolved, hscheduled, hdispatched,
    deadlinesKept_of_careful realTime selectorAndName selectorAndName r (by decide +kernel)
      hreachable ⟨hevents, hdone⟩⟩

/-- The second preemption is for `i-2`, and cancels the deadline of `i-1`. -/
theorem not_deadlinesKept_sameSelectorTwice : ¬ ∀ speedup trace events r,
    loadSpotTrace trace = .ok events → Replaying speedup events (fun _ _ => True) r →
    r.Finished → DeadlinesKept speedup events r := by
  intro h
  have hrun : (Runs.attempt (Replay.step · realTime) (fun _ _ => True)
      [.replay (twoStates "ready"), .tick 1, .replay (twoStates "preempting"), .tick 11, .wake 1,
        .answer 1] { events := [firstReady 0, firstReady 1] }).map
        (fun r => (r.events, r.replayed, r.deadlineTasks)) =
      some ([], [⟨firstReady 0, some "i-1", 0⟩, ⟨firstReady 1, some "i-2", 1⟩],
        [⟨firstReady 0, some "i-1", 0, 10, .done .superseded, []⟩,
          ⟨firstReady 1, some "i-2", 1, 11, .done .dispatched,
            [⟨none, some "i-2", some "m", 11⟩]⟩]) := by
    decide +kernel
  obtain ⟨r, hr, hparts⟩ := Option.map_eq_some_iff.mp hrun
  obtain ⟨hevents, hreplayed, htasks⟩ := by simpa only [Prod.mk.injEq] using hparts
  have hreachable : Replaying realTime [firstReady 0, firstReady 1] (fun _ _ => True) r :=
    .attempt (.start rfl) hr
  have hkept := h realTime [firstReady 0, firstReady 1] [firstReady 0, firstReady 1] r
    (by decide +kernel) hreachable ⟨hevents, by rw [htasks]; decide⟩
  obtain ⟨t, hone, -, hdies⟩ := hkept.answered 0 ⟨firstReady 0, some "i-1", 0⟩ 10
    (by rw [hreplayed]; rfl) rfl rfl
  obtain rfl : ⟨firstReady 0, some "i-1", 0, 10, .done .superseded, []⟩ = t := by
    rw [htasks] at hone
    exact (List.cons.inj hone).1
  rcases hdies with hcalled | ⟨-, i, p, hlt, hget, -, htarget, -⟩
  · exact absurd hcalled (by simp)
  · rw [hreplayed] at hget
    obtain ⟨hle, -⟩ := List.getElem?_eq_some_iff.mp hget
    obtain rfl : i = 1 := by
      simp only [List.length_cons, List.length_nil] at hle hlt
      omega
    obtain rfl := Option.some.inj hget
    exact absurd htarget (by decide)

end Preemption
end SpotServe
