import Mathlib.Data.List.DropRight
import SpotServe.RouteTracing.Attribution

/-!
# What a worker knows after a run

A worker runs passes, forgets finished requests and warms up, in any order.  What its counters hold
then can be read off the passes: everything that was chosen in all of them, what each request chose
since it was last forgotten, and the last 64 calls that chose anything.

* `observed`, `sinceFinish`, `lastEvents`: the assignments of a run, of its last stretch, and of its
  last calls.
* `Tracks`: the counters hold them; `Tracks.step`: one step keeps that.
* `pass_attributes`, `runWorker_counts`: one pass after any run, and the whole run.
-/

namespace SpotServe
namespace RouteTracing

open Py

/-! ## Reading a run -/

/-- The calls of a step, with what each of them reports. -/
def eventsOf : RunnerAction → List (List Assignment)
  | .finish _ => []
  | .execute batch calls => passEvents (owners batch) [] calls
  | .dummyRun _ => []

/-- Everything that is reported in a run. -/
def observed (actions : List RunnerAction) : List Assignment := (actions.flatMap eventsOf).flatten

/-- Whether a step forgets a request. -/
def finishes (requestId : String) : RunnerAction → Bool
  | .finish requestIds => requestIds.contains requestId
  | _ => false

/-- The steps since a request was last forgotten. -/
def sinceFinish (requestId : String) (actions : List RunnerAction) : List RunnerAction :=
  actions.rtakeWhile fun action => !finishes requestId action

/-- The last 64 lists that are not empty. -/
def lastEvents (events : List (List String)) : List (List String) :=
  (events.filter (· ≠ [])).drop ((events.filter (· ≠ [])).length - 64)

/-- Every call of a step has at least one id for each row. -/
def RunnerAction.Routed : RunnerAction → Prop
  | .finish _ => True
  | .execute _ calls => ∀ call ∈ calls, 0 < call.ids.topk
  | .dummyRun _ => True

theorem observed_append (actions : List RunnerAction) (action : RunnerAction) :
    observed (actions ++ [action]) = observed actions ++ (eventsOf action).flatten := by
  rw [observed, List.flatMap_append, List.flatten_append, observed, List.flatMap_singleton]

theorem sinceFinish_append (requestId : String) (actions : List RunnerAction)
    (action : RunnerAction) :
    sinceFinish requestId (actions ++ [action]) =
      if finishes requestId action then [] else sinceFinish requestId actions ++ [action] := by
  unfold sinceFinish
  cases h : finishes requestId action with
  | true => rw [List.rtakeWhile_concat_neg _ _ _ (by simp [h]), if_pos rfl]
  | false => rw [List.rtakeWhile_concat_pos _ _ _ (by simp [h]), if_neg Bool.false_ne_true]

/-! ## The window -/

/-- A window holds the tallies of some lists. -/
def Shows (window : List (Tally String)) (events : List (List String)) : Prop :=
  List.Forall₂ (fun tally keys => ∀ key, tally.count key = keys.count key) window events

/-- One more event in the window. -/
theorem Shows.windowAfter {before after : List (Tally String)} {events : List (List String)}
    {keys : List String} (h : Shows before (lastEvents events))
    (hafter : WindowAfter before after keys) : Shows after (lastEvents (events ++ [keys])) := by
  unfold WindowAfter at hafter
  unfold lastEvents at h ⊢
  rw [List.filter_append]
  generalize hkept : events.filter (· ≠ []) = kept at h ⊢
  split_ifs at hafter with hnil
  · subst hnil hafter
    simpa using h
  · obtain ⟨event, hevent, rfl⟩ := hafter
    have hsingle : [keys].filter (· ≠ []) = [keys] := List.filter_cons_of_pos (by simpa using hnil)
    rw [hsingle, List.length_append, List.length_singleton]
    have hlength := h.length_eq
    rw [List.length_drop] at hlength
    -- Both lists lose their first entries, as many as are behind the 64 last ones.
    have hlast : (kept ++ [keys]).drop (kept.length + 1 - 64) =
        (kept.drop (kept.length - 64) ++ [keys]).drop (before.length + 1 - 64) := by
      rw [← List.drop_append_of_le_length (Nat.sub_le _ _), List.drop_drop]
      congr 1
      omega
    rw [appendRecent, hlast]
    exact List.forall₂_drop _
      (List.rel_append h (List.Forall₂.cons hevent List.Forall₂.nil))

theorem Shows.count_mergeAll {window : List (Tally String)} {events : List (List String)}
    (h : Shows window events) (key : String) :
    (Tally.mergeAll .empty window).count key = events.flatten.count key := by
  rw [Tally.count_mergeAll, Tally.count_empty, Nat.zero_add]
  induction h with
  | nil => rfl
  | cons hevent _ ih =>
    rw [List.map_cons, List.sum_cons, ih, hevent, List.flatten_cons, List.count_append]

/-! ## The invariant -/

/-- **The counters of a worker tell its run.** -/
structure Tracks (env : TracerEnv) (actions : List RunnerAction) (w : Worker) : Prop where
  idle : w.context = none
  cached : w.tracer.cachedSourceRank = none ∨ w.tracer.cachedSourceRank = fixedRank env
  perRequest : ∀ requestId key, countFor w.tracer.perRequest requestId key =
    (observed (sinceFinish requestId actions)).count (requestId, key)
  globalHistogram : ∀ key,
    w.tracer.globalHistogram.count key = ((observed actions).map Prod.snd).count key
  globalSourceExpert : ∀ key,
    w.tracer.globalSourceExpert.count key = (sourceKeys env (observed actions)).count key
  recentEvents : Shows w.tracer.recentEvents
    (lastEvents ((actions.flatMap eventsOf).map fun event => event.map Prod.snd))
  recentSourceEvents : Shows w.tracer.recentSourceEvents
    (lastEvents ((actions.flatMap eventsOf).map (sourceKeys env)))

theorem tracks_start (env : TracerEnv) : Tracks env [] {} where
  idle := rfl
  cached := Or.inl rfl
  perRequest := fun _ _ => rfl
  globalHistogram := fun _ => rfl
  globalSourceExpert := fun key => by
    unfold sourceKeys
    split <;> rfl
  recentEvents := List.Forall₂.nil
  recentSourceEvents := List.Forall₂.nil

theorem sourceKeys_append (env : TracerEnv) (event event' : List Assignment) :
    sourceKeys env (event ++ event') = sourceKeys env event ++ sourceKeys env event' := by
  unfold sourceKeys
  split
  · rw [List.map_append]
  · rfl

theorem ObservesAll.source {env : TracerEnv} {before after : Tracer}
    {events : List (List Assignment)} (h : ObservesAll env before events after) (key : String) :
    after.globalSourceExpert.count key =
      before.globalSourceExpert.count key + (sourceKeys env events.flatten).count key := by
  induction events generalizing before with
  | nil =>
    obtain rfl : after = before := h
    have hnil : sourceKeys env [] = [] := by
      unfold sourceKeys
      split <;> rfl
    rw [List.flatten_nil, hnil]
    rfl
  | cons event events ih =>
    obtain ⟨mid, hmid, hrest⟩ := h
    rw [ih hrest, hmid.globalSourceExpert, List.flatten_cons, sourceKeys_append, List.count_append,
      Nat.add_assoc]

/-- The windows after several events. -/
theorem ObservesAll.windows {env : TracerEnv} {before after : Tracer}
    {events done : List (List Assignment)} (h : ObservesAll env before events after)
    (hcached : before.cachedSourceRank = none ∨ before.cachedSourceRank = fixedRank env)
    (hrecent : Shows before.recentEvents (lastEvents (done.map fun event => event.map Prod.snd)))
    (hsource : Shows before.recentSourceEvents (lastEvents (done.map (sourceKeys env)))) :
    (after.cachedSourceRank = none ∨ after.cachedSourceRank = fixedRank env) ∧
      Shows after.recentEvents
        (lastEvents ((done ++ events).map fun event => event.map Prod.snd)) ∧
      Shows after.recentSourceEvents (lastEvents ((done ++ events).map (sourceKeys env))) := by
  induction events generalizing before done with
  | nil =>
    obtain rfl : after = before := h
    rw [List.append_nil]
    exact ⟨hcached, hrecent, hsource⟩
  | cons event events ih =>
    obtain ⟨mid, hmid, hrest⟩ := h
    have hrecent' := hrecent.windowAfter hmid.recentEvents
    have hsource' := hsource.windowAfter hmid.recentSourceEvents
    have hlast : done ++ event :: events = done ++ [event] ++ events := by simp
    rw [hlast]
    refine ih hrest hmid.cached ?_ ?_
    · rw [List.map_append]
      exact hrecent'
    · rw [List.map_append]
      exact hsource'

theorem countFor_foldl_erase (requestIds : List String)
    (tables : OrderedDict String (Tally String)) (requestId key : String) :
    countFor (requestIds.foldl OrderedDict.erase tables) requestId key =
      if requestId ∈ requestIds then 0 else countFor tables requestId key := by
  induction requestIds generalizing tables with
  | nil => rfl
  | cons id rest ih =>
    have herase : countFor (tables.erase id) requestId key =
        if id = requestId then 0 else countFor tables requestId key := by
      rw [countFor, OrderedDict.get?_erase]
      split_ifs <;> rfl
    rw [List.foldl_cons, ih, herase]
    by_cases hid : id = requestId
    · simp [hid]
    · simp [hid, Ne.symm hid]

/-- What is counted for a request after one more step. -/
theorem count_sinceFinish_append (requestId key : String) (actions : List RunnerAction)
    (action : RunnerAction) :
    (observed (sinceFinish requestId (actions ++ [action]))).count (requestId, key) =
      if finishes requestId action then 0
      else (observed (sinceFinish requestId actions)).count (requestId, key) +
        (eventsOf action).flatten.count (requestId, key) := by
  rw [sinceFinish_append]
  split_ifs
  · rfl
  · rw [observed_append, List.count_append]

/-- A step that reports nothing changes at most the tables of the requests. -/
theorem Tracks.silent {env : TracerEnv} {actions : List RunnerAction} {w : Worker}
    (h : Tracks env actions w) {action : RunnerAction} (hevents : eventsOf action = [])
    {tables : OrderedDict String (Tally String)}
    (htables : ∀ requestId key, countFor tables requestId key =
      if finishes requestId action then 0 else countFor w.tracer.perRequest requestId key) :
    Tracks env (actions ++ [action])
      { w with tracer := { w.tracer with perRequest := tables } } := by
  have hflat : (actions ++ [action]).flatMap eventsOf = actions.flatMap eventsOf := by
    rw [List.flatMap_append, List.flatMap_singleton, hevents, List.append_nil]
  have hobserved : observed (actions ++ [action]) = observed actions := by
    rw [observed, hflat, observed]
  refine ⟨h.idle, h.cached, fun requestId key => ?_, fun key => ?_, fun key => ?_, ?_, ?_⟩
  · rw [count_sinceFinish_append, hevents, List.flatten_nil, List.count_nil, Nat.add_zero,
      ← h.perRequest]
    exact htables requestId key
  · rw [hobserved]
    exact h.globalHistogram key
  · rw [hobserved]
    exact h.globalSourceExpert key
  · rw [hflat]
    exact h.recentEvents
  · rw [hflat]
    exact h.recentSourceEvents

/-- **One step.** -/
theorem Tracks.step {env : TracerEnv} (henabled : env.enabled = true)
    {actions : List RunnerAction} {w : Worker} (h : Tracks env actions w) {action : RunnerAction}
    (hrouted : action.Routed) :
    Tracks env (actions ++ [action]) (RouteTracing.step env w action) := by
  cases action with
  | finish requestIds =>
    refine h.silent rfl fun requestId key => ?_
    rw [countFor_foldl_erase, finishes]
    simp only [List.contains_iff_mem]
  | execute batch calls =>
    obtain ⟨hobserves, hidle⟩ := forward_observes henabled batch hrouted h.idle h.cached
    have hflat : (actions ++ [RunnerAction.execute batch calls]).flatMap eventsOf =
        actions.flatMap eventsOf ++ passEvents (owners batch) [] calls := by
      rw [List.flatMap_append, List.flatMap_singleton, eventsOf]
    obtain ⟨hcached, hrecent, hsource⟩ :=
      hobserves.windows h.cached h.recentEvents h.recentSourceEvents
    refine ⟨hidle, hcached, fun requestId key => ?_, fun key => ?_, fun key => ?_, ?_, ?_⟩
    · have hkept : ¬ finishes requestId (.execute batch calls) = true := Bool.false_ne_true
      rw [count_sinceFinish_append, if_neg hkept, ← h.perRequest]
      exact countFor_of_observesAll hobserves requestId key
    · rw [observed_append, List.map_append, List.count_append, ← h.globalHistogram]
      exact globalCount_of_observesAll hobserves key
    · rw [observed_append, sourceKeys_append, List.count_append, ← h.globalSourceExpert]
      exact hobserves.source key
    · rw [hflat]
      exact hrecent
    · rw [hflat]
      exact hsource
  | dummyRun calls =>
    have hsame : RouteTracing.step env w (.dummyRun calls) = w :=
      foldl_record_of_idle env calls h.idle
    rw [hsame]
    exact h.silent rfl fun requestId key => (if_neg Bool.false_ne_true).symm

/-- **A run.** -/
theorem tracks_runWorker {env : TracerEnv} (henabled : env.enabled = true)
    {actions : List RunnerAction} (hrouted : ∀ action ∈ actions, action.Routed) :
    Tracks env actions (runWorker env actions) := by
  induction actions using List.reverseRecOn with
  | nil => exact tracks_start env
  | append_singleton actions action ih =>
    rw [runWorker, List.foldl_append]
    exact (ih fun a ha => hrouted a (List.mem_append_left _ ha)).step henabled
      (hrouted action (List.mem_append_right _ (List.mem_singleton_self action)))

/-! ## The results -/

theorem histogram_requestReport (env : TracerEnv) (w : Worker) (requestId : String) :
    (requestReport env w requestId).histogram =
      if ((w.tracer.perRequest.get? requestId).getD .empty).isEmpty then none
      else some ((w.tracer.perRequest.get? requestId).getD .empty) := by
  unfold requestReport
  exact apply_ite RequestReport.histogram _ _ _

theorem count_requestReport (env : TracerEnv) (w : Worker) (requestId key : String) :
    ((requestReport env w requestId).histogram.getD .empty).count key =
      countFor w.tracer.perRequest requestId key := by
  rw [histogram_requestReport]
  split_ifs with hempty
  · exact ((Tally.isEmpty_iff _).mp hempty key).symm
  · rfl

theorem requestReport_eq_none_iff (env : TracerEnv) (w : Worker) (requestId : String) :
    (requestReport env w requestId).histogram = none ↔
      ∀ key, countFor w.tracer.perRequest requestId key = 0 := by
  rw [histogram_requestReport]
  split_ifs with hempty
  · exact iff_of_true rfl ((Tally.isEmpty_iff _).mp hempty)
  · exact iff_of_false not_false fun hzero => hempty ((Tally.isEmpty_iff _).mpr hzero)

theorem length_lastEvents (events : List (List Assignment)) :
    (lastEvents (events.map fun event => event.map Prod.snd)).length =
      min 64 (events.filter (· ≠ [])).length := by
  have hfilter : (events.map fun event => event.map Prod.snd).filter (· ≠ []) =
      (events.filter (· ≠ [])).map fun event => event.map Prod.snd := by
    rw [List.filter_map]
    congr 1
    refine List.filter_congr fun event _ => ?_
    simp
  rw [lastEvents, hfilter, List.length_drop, List.length_map]
  omega

/-- **A pass counts every choice once, for the request whose row made it.**  After any run, a pass
in which every call has at least one id for each row adds to the count of an expert for a request
what the rows of the layers choose at the places that the request has in the batch: however a layer
cuts its rows into calls, however the calls of the layers alternate, and without the rows behind the
batch and the ids below zero.  The count over all requests grows by the sum. -/
theorem pass_attributes (env : TracerEnv) (henabled : env.enabled = true)
    (actions : List RunnerAction) (hrouted : ∀ action ∈ actions, action.Routed) (batch : Batch)
    (calls : List RoutingCall) (htopk : ∀ call ∈ calls, 0 < call.ids.topk) (key : String) :
    (∀ requestId,
      countFor (step env (runWorker env actions) (.execute batch calls)).tracer.perRequest
          requestId key =
        countFor (runWorker env actions).tracer.perRequest requestId key +
          ∑ layer ∈ layersOf calls, (assignments (owners batch) (some layer)
            (seenRows calls layer)).count (requestId, key)) ∧
    (step env (runWorker env actions) (.execute batch calls)).tracer.globalHistogram.count key =
      (runWorker env actions).tracer.globalHistogram.count key +
        ∑ layer ∈ layersOf calls, ((assignments (owners batch) (some layer)
          (seenRows calls layer)).map Prod.snd).count key := by
  have htracks := tracks_runWorker henabled hrouted
  have hobserves := (forward_observes henabled batch htopk htracks.idle htracks.cached).1
  refine ⟨fun requestId => ?_, ?_⟩
  · simp only [List.count_eq_countP]
    rw [← countP_passEvents, ← List.count_eq_countP]
    exact countFor_of_observesAll hobserves requestId key
  · simp only [count_map_snd]
    rw [← countP_passEvents, ← count_map_snd]
    exact globalCount_of_observesAll hobserves key

/-- The requests `r` and `s` have one row each, and `r` is forgotten. -/
def untilForgotten : List RunnerAction :=
  [.execute [("r", 1), ("s", 1)]
      [⟨some "model.layers.3.mlp", ⟨2, [[1, 5], [5, 7]], by decide⟩, 0⟩],
    .finish ["r"]]

/-- Two rows of `r`, one of `s` and a padded one.  Layer 3 hands them over in two calls, and it has
an id below zero. -/
def cutPass : List RoutingCall :=
  [⟨some "model.layers.3.mlp", ⟨2, [[1, 5], [5, -1]], by decide⟩, 1⟩,
    ⟨some "model.layers.4.mlp", ⟨2, [[0, 1], [2, 3], [4, 5], [6, 7]], by decide⟩, 2⟩,
    ⟨some "model.layers.3.mlp", ⟨2, [[5, 2], [5, 5]], by decide⟩, 3⟩]

theorem routed_untilForgotten : ∀ action ∈ untilForgotten, action.Routed := by
  intro action haction
  rcases List.mem_pair.mp haction with rfl | rfl
  · exact fun call hcall => List.mem_singleton.mp hcall ▸ Nat.two_pos
  · trivial

theorem topk_cutPass : ∀ call ∈ cutPass, 0 < call.ids.topk := by
  simp [cutPass]

/-- Expert 5 of layer 3: its row before the pass is forgotten for `r` and kept for `s`. -/
theorem pass_attributes_cutPass :
    countFor (step ⟨true, some 0, "p", 0⟩ (runWorker ⟨true, some 0, "p", 0⟩ untilForgotten)
        (.execute [("r", 2), ("s", 1)] cutPass)).tracer.perRequest "r" "layer:3/expert:5" = 2 ∧
      countFor (step ⟨true, some 0, "p", 0⟩ (runWorker ⟨true, some 0, "p", 0⟩ untilForgotten)
        (.execute [("r", 2), ("s", 1)] cutPass)).tracer.perRequest "s" "layer:3/expert:5" = 2 ∧
      (step ⟨true, some 0, "p", 0⟩ (runWorker ⟨true, some 0, "p", 0⟩ untilForgotten)
        (.execute [("r", 2), ("s", 1)] cutPass)).tracer.globalHistogram.count
          "layer:3/expert:5" = 5 := by
  obtain ⟨hrequest, hglobal⟩ := pass_attributes ⟨true, some 0, "p", 0⟩ rfl untilForgotten
    routed_untilForgotten [("r", 2), ("s", 1)] cutPass topk_cutPass "layer:3/expert:5"
  refine ⟨(hrequest "r").trans ?_, (hrequest "s").trans ?_, hglobal.trans ?_⟩ <;> decide +kernel

/-- **What a worker tells after a run.**  About a request: what it chose since it was last
forgotten, or that nothing is known when it chose nothing.  Over all requests: everything that was
chosen, for ever, with its number; and the same under the rank of the worker, if that is known.  As
recent: what the last 64 calls chose, those left out that chose nothing. -/
theorem runWorker_counts (env : TracerEnv) (henabled : env.enabled = true)
    (actions : List RunnerAction) (hrouted : ∀ action ∈ actions, action.Routed) :
    (∀ requestId key,
      ((requestReport env (runWorker env actions) requestId).histogram.getD .empty).count key =
        (observed (sinceFinish requestId actions)).count (requestId, key)) ∧
    (∀ requestId, (requestReport env (runWorker env actions) requestId).histogram = none ↔
      ∀ key, (requestId, key) ∉ observed (sinceFinish requestId actions)) ∧
    (∀ key, (runtimeMetadata env (runWorker env actions)).globalExpertHotness.count key =
      ((observed actions).map Prod.snd).count key) ∧
    (runtimeMetadata env (runWorker env actions)).globalExpertHotness.total =
      (observed actions).length ∧
    (∀ key, (runtimeMetadata env (runWorker env actions)).globalSourceRankExpertHotness.count key =
      (sourceKeys env (observed actions)).count key) ∧
    (∀ key, (runtimeMetadata env (runWorker env actions)).recentWindowExpertHotness.count key =
      (lastEvents ((actions.flatMap eventsOf).map fun event => event.map Prod.snd)).flatten.count
        key) ∧
    (∀ key,
      (runtimeMetadata env (runWorker env actions)).recentWindowSourceRankExpertHotness.count key =
        (lastEvents ((actions.flatMap eventsOf).map (sourceKeys env))).flatten.count key) ∧
    (runtimeMetadata env (runWorker env actions)).recentEventCount =
      min 64 ((actions.flatMap eventsOf).filter (· ≠ [])).length := by
  have htracks := tracks_runWorker henabled hrouted
  refine ⟨fun requestId key => ?_, fun requestId => ?_, htracks.globalHistogram, ?_,
    htracks.globalSourceExpert, htracks.recentEvents.count_mergeAll,
    htracks.recentSourceEvents.count_mergeAll, ?_⟩
  · rw [count_requestReport, htracks.perRequest]
  · rw [requestReport_eq_none_iff]
    refine forall_congr' fun key => ?_
    rw [htracks.perRequest, List.count_eq_zero]
  · rw [← List.length_map (f := Prod.snd)]
    exact Tally.total_of_count_eq htracks.globalHistogram
  · exact htracks.recentEvents.length_eq.trans (length_lastEvents _)

/-- A pass, a request forgotten, a pass in three calls and a warm-up. -/
def untilWarmup : List RunnerAction :=
  untilForgotten ++ [.execute [("r", 2), ("s", 1)] cutPass, .dummyRun cutPass]

theorem routed_untilWarmup : ∀ action ∈ untilWarmup, action.Routed := by
  intro action haction
  rcases List.mem_append.mp haction with hbefore | hlast
  · exact routed_untilForgotten action hbefore
  · rcases List.mem_pair.mp hlast with rfl | rfl
    · exact topk_cutPass
    · trivial

theorem runWorker_counts_untilWarmup :
    ((requestReport ⟨true, some 0, "p", 0⟩ (runWorker ⟨true, some 0, "p", 0⟩ untilWarmup)
        "r").histogram.getD .empty).count "layer:3/expert:5" = 2 ∧
      (requestReport ⟨true, some 0, "p", 0⟩ (runWorker ⟨true, some 0, "p", 0⟩ untilWarmup)
        "t").histogram = none ∧
      (runtimeMetadata ⟨true, some 0, "p", 0⟩
        (runWorker ⟨true, some 0, "p", 0⟩ untilWarmup)).globalExpertHotness.total = 15 ∧
      (runtimeMetadata ⟨true, some 0, "p", 0⟩
        (runWorker ⟨true, some 0, "p", 0⟩ untilWarmup)).recentEventCount = 4 := by
  obtain ⟨hrequest, hnone, -, htotal, -, -, -, hrecent⟩ :=
    runWorker_counts ⟨true, some 0, "p", 0⟩ rfl untilWarmup routed_untilWarmup
  refine ⟨(hrequest "r" _).trans ?_, (hnone "t").mpr ?_, htotal.trans ?_, hrecent.trans ?_⟩
  · decide +kernel
  · -- `t` was never in a batch
    intro key hmem
    have hids : ∀ a ∈ observed (sinceFinish "t" untilWarmup), a.1 ≠ "t" := by decide +kernel
    exact hids _ hmem rfl
  · decide +kernel
  · decide +kernel

end RouteTracing
end SpotServe
