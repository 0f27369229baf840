import Mathlib.Algebra.BigOperators.Group.Finset.Basic
import Mathlib.Algebra.BigOperators.Group.Finset.Piecewise
import Mathlib.Data.List.TakeWhile
import SpotServe.RouteTracing.Tracer

/-!
# Whose assignments a pass counts

The rows of a forward pass belong to the requests of its batch in order.  A layer may hand its rows
over in several calls, between which other layers make theirs; the worker keeps for each layer how
many rows it has seen.  Still every chosen expert is counted once, for the request whose row chose
it, and rows behind the batch (padding) are not counted.

* `owners`, `assignments`: the rows of a batch, and what they choose.
* `requestUpdates_count`: one call, cut at the spans of the batch.
* `Observes`: what a call adds to the counters; `InPass.record`: from where the calls before it have
  left off.
* `forward_observes`: a pass, call by call; `countP_passEvents`: layer by layer, whatever the calls.
-/

namespace SpotServe
namespace RouteTracing

open Py

/-! ## Keys -/

theorem digitsUpTo_eq_some {stop : Char} {text : List Char} {digits : String}
    (h : digitsUpTo stop text = some digits) :
    ∀ c ∈ digits.toList, (digitValue? c).isSome = true := by
  unfold digitsUpTo at h
  dsimp only at h
  split_ifs at h
  obtain rfl := Option.some.inj h
  intro c hc
  rw [String.toList_ofList] at hc
  exact List.mem_takeWhile_imp (p := fun c => (digitValue? c).isSome) hc

theorem search_eq_some {α : Type*} {pattern : List Char → Option α} {text : List Char} {a : α}
    (h : search pattern text = some a) : ∃ rest, pattern rest = some a := by
  induction text with
  | nil => exact ⟨[], h⟩
  | cons c text ih =>
    rw [search, Option.or_eq_some_iff] at h
    rcases h with h | ⟨-, h⟩
    · exact ⟨_, h⟩
    · exact ih h

theorem searchAfter_eq_some {separator : Char} {pattern : List Char → Option String}
    {text : List Char} {a : String} (h : searchAfter separator pattern text = some a) :
    ∃ rest, pattern rest = some a := by
  rw [searchAfter, Option.or_eq_some_iff] at h
  rcases h with h | ⟨-, h⟩
  · exact ⟨_, h⟩
  · obtain ⟨rest, hrest⟩ := search_eq_some h
    obtain ⟨rest', -, hpattern⟩ := Option.bind_eq_some_iff.mp hrest
    exact ⟨rest', hpattern⟩

/-- A layer that has a number has digits for it. -/
theorem digits_of_layerIdFromName {layerName : Option String}
    (h : layerIdFromName layerName ≠ "unknown") :
    ∀ c ∈ (layerIdFromName layerName).toList, (digitValue? c).isSome = true := by
  cases layerName with
  | none => exact absurd rfl h
  | some name =>
    unfold layerIdFromName at h ⊢
    dsimp only at h ⊢
    split_ifs at h ⊢ with hname
    · exact absurd rfl h
    · cases hfound : (searchAfter '.' layersHere name.toList).or
        (searchAfter '/' layerHere name.toList) with
      | none =>
        rw [hfound] at h
        exact absurd rfl h
      | some digits =>
        rw [Option.getD_some]
        rcases Option.or_eq_some_iff.mp hfound with hfound | ⟨-, hfound⟩
        · obtain ⟨rest, hrest⟩ := searchAfter_eq_some hfound
          obtain ⟨_, -, hdigits⟩ := Option.bind_eq_some_iff.mp hrest
          exact digitsUpTo_eq_some hdigits
        · obtain ⟨rest, hrest⟩ := searchAfter_eq_some hfound
          obtain ⟨tail, -, hdigits⟩ := Option.bind_eq_some_iff.mp hrest
          cases tail with
          | nil => exact absurd hdigits (by simp)
          | cons c tail => exact digitsUpTo_eq_some hdigits

theorem takeWhile_digits {digits rest : List Char}
    (h : ∀ c ∈ digits, (digitValue? c).isSome = true) :
    (digits ++ '/' :: rest).takeWhile (fun c => (digitValue? c).isSome) = digits := by
  rw [List.takeWhile_append_of_pos h, List.takeWhile_cons_of_neg (by decide), List.append_nil]

/-- **A key names one expert of one layer.** -/
theorem expertKey_inj {layerName layerName' : Option String} {expertId expertId' : ℕ}
    (h : expertKey layerName expertId = expertKey layerName' expertId') :
    layerIdFromName layerName = layerIdFromName layerName' ∧ expertId = expertId' := by
  unfold expertKey at h
  split_ifs at h with hname hname' hname'
  · refine ⟨hname.trans hname'.symm, ?_⟩
    exact eq_of_toString_eq ((String.append_right_inj _).mp h)
  · exact absurd (congrArg (fun s => s.toList.head?) h) (by simp)
  · exact absurd (congrArg (fun s => s.toList.head?) h) (by simp)
  · have htext := congrArg String.toList h
    simp only [String.toList_append, List.append_assoc] at htext
    have htail := List.append_cancel_left htext
    have hlayer := congrArg (List.takeWhile fun c => (digitValue? c).isSome) htail
    have hdigits := digits_of_layerIdFromName hname
    have hdigits' := digits_of_layerIdFromName hname'
    replace hlayer : (layerIdFromName layerName).toList = (layerIdFromName layerName').toList := by
      rw [← takeWhile_digits hdigits, ← takeWhile_digits hdigits']
      exact hlayer
    rw [hlayer] at htail
    refine ⟨String.toList_inj.mp hlayer, eq_of_toString_eq (String.toList_inj.mp ?_)⟩
    exact List.append_cancel_left (List.append_cancel_left htail)

theorem layerIdFromName_layerKey (layerName : Option String) :
    layerIdFromName (some (layerKey layerName)) = layerIdFromName layerName := by
  have hunknown : layerIdFromName (some "unknown") = "unknown" := by decide +kernel
  cases layerName with
  | none => exact hunknown
  | some name =>
    by_cases hname : name = ""
    · subst hname
      exact hunknown
    · rw [layerKey, if_neg hname]

/-- The key goes by the name that the worker uses for the layer. -/
theorem expertKey_layerKey (layerName : Option String) (expertId : ℕ) :
    expertKey (some (layerKey layerName)) expertId = expertKey layerName expertId := by
  rw [expertKey, layerIdFromName_layerKey, expertKey]

/-! ## Rows and what they choose -/

/-- An expert chosen by a row: the request of the row, and the key of the expert. -/
abbrev Assignment := String × String

/-- The requests that the rows of a batch belong to. -/
def owners (batch : Batch) : List String :=
  batch.flatMap fun (requestId, tokenCount) => List.replicate tokenCount.toNat requestId

/-- What rows with known owners choose in a layer.  Rows without an owner choose nothing. -/
def assignments (owners : List String) (layer : Option String) (rows : List (List ℤ)) :
    List Assignment :=
  (rows.zip owners).flatMap fun (row, requestId) =>
    (chosenExperts [row]).map fun expertId => (requestId, expertKey layer expertId)

theorem assignments_nil_rows (owners : List String) (layer : Option String) :
    assignments owners layer [] = [] := rfl

theorem assignments_nil_owners (layer : Option String) (rows : List (List ℤ)) :
    assignments [] layer rows = [] := by
  rw [assignments, List.zip_nil_right, List.flatMap_nil]

/-- Rows that come in two parts. -/
theorem assignments_append_rows (owners : List String) (layer : Option String)
    (rows rows' : List (List ℤ)) :
    assignments owners layer (rows ++ rows') =
      assignments owners layer rows ++ assignments (owners.drop rows.length) layer rows' := by
  unfold assignments
  rw [← List.flatMap_append]
  congr 1
  induction rows generalizing owners with
  | nil => simp
  | cons row rows ih =>
    cases owners with
    | nil => simp
    | cons owner owners => simp [ih]

/-- Owners that come in two parts. -/
theorem assignments_append_owners (owners owners' : List String) (layer : Option String)
    (rows : List (List ℤ)) :
    assignments (owners ++ owners') layer rows =
      assignments owners layer (rows.take owners.length) ++
        assignments owners' layer (rows.drop owners.length) := by
  unfold assignments
  rw [← List.flatMap_append]
  congr 1
  induction owners generalizing rows with
  | nil => simp
  | cons owner owners ih =>
    cases rows with
    | nil => simp
    | cons row rows => simp [ih]

theorem chosenExperts_cons (row : List ℤ) (rows : List (List ℤ)) :
    chosenExperts (row :: rows) = chosenExperts [row] ++ chosenExperts rows := by
  simp [chosenExperts]

/-- Rows of one request. -/
theorem assignments_replicate {n : ℕ} (requestId : String) (layer : Option String)
    {rows : List (List ℤ)} (h : rows.length ≤ n) :
    assignments (List.replicate n requestId) layer rows =
      (chosenExperts rows).map fun expertId => (requestId, expertKey layer expertId) := by
  induction rows generalizing n with
  | nil => rfl
  | cons row rows ih =>
    obtain ⟨m, rfl⟩ : ∃ m, n = m + 1 := ⟨n - 1, by rw [List.length_cons] at h; omega⟩
    rw [chosenExperts_cons, List.map_append, ← ih (Nat.le_of_succ_le_succ h)]
    rfl

/-! ## One call -/

/-- **The tally of some rows** counts what they choose. -/
theorem count_eventHistogram (rows : List (List ℤ)) (layerName : Option String) (key : String) :
    (eventHistogram rows layerName).count key =
      ((chosenExperts rows).map (expertKey layerName)).count key := by
  have hloop : ∀ (experts : List ℕ) (start : Tally String), experts.Nodup →
      (∀ e ∈ experts, e ∈ chosenExperts rows) →
      (experts.foldl (fun histogram e =>
          histogram.put (expertKey layerName e) ((chosenExperts rows).count e)) start).count key =
        if ∃ e ∈ experts, expertKey layerName e = key then
          ((chosenExperts rows).map (expertKey layerName)).count key
        else start.count key := by
    intro experts
    induction experts with
    | nil => simp
    | cons e experts ih =>
      intro start hnodup hmem
      rw [List.nodup_cons] at hnodup
      have hpos : 0 < (chosenExperts rows).count e :=
        List.count_pos_iff.mpr (hmem e List.mem_cons_self)
      rw [List.foldl_cons, ih _ hnodup.2 fun e' he' => hmem e' (List.mem_cons_of_mem e he'),
        Tally.count_put start hpos]
      by_cases hkey : expertKey layerName e = key
      · -- No other expert has this key, so what is written here stays.
        have hcount : ((chosenExperts rows).map (expertKey layerName)).count key =
            (chosenExperts rows).count e := by
          rw [← hkey, List.count_map_of_injective _ _ fun a b hab => (expertKey_inj hab).2]
        have hex : ∃ e' ∈ e :: experts, expertKey layerName e' = key :=
          ⟨e, List.mem_cons_self, hkey⟩
        rw [if_pos hkey, if_pos hex, hcount, ite_self]
      · have hiff : (∃ e' ∈ e :: experts, expertKey layerName e' = key) ↔
            ∃ e' ∈ experts, expertKey layerName e' = key := by
          simp [hkey]
        rw [if_neg hkey]
        simp only [hiff]
  rw [eventHistogram, hloop _ _ ((List.perm_insertionSort _ _).nodup_iff.mpr (List.nodup_dedup _))
    fun e he => List.mem_dedup.mp ((List.perm_insertionSort _ _).mem_iff.mp he)]
  split_ifs with hex
  · rfl
  · rw [Tally.count_empty, eq_comm, List.count_eq_zero]
    intro hmem
    obtain ⟨e, he, hkey⟩ := List.mem_map.mp hmem
    refine hex ⟨e, ?_, hkey⟩
    rw [(List.perm_insertionSort _ _).mem_iff, List.mem_dedup]
    exact he

/-- How often a key is counted for a request. -/
def countFor (tables : OrderedDict String (Tally String)) (requestId key : String) : ℕ :=
  ((tables.get? requestId).getD .empty).count key

@[simp] theorem countFor_empty (requestId key : String) : countFor .empty requestId key = 0 := rfl

/-- One span: the rows that it has in common with the call. -/
theorem countFor_updateRequest (start : ℕ) (call : RoutingCall)
    (updates : OrderedDict String (Tally String)) (span : Span) (requestId key : String) :
    countFor (updateRequest start (start + call.ids.rows.length) call updates span) requestId key =
      countFor updates requestId key +
        if span.requestId = requestId then
          ((chosenExperts (rowsBetween call.ids.rows (span.start - start) (span.stop - start))).map
            (expertKey call.layerName)).count key
        else 0 := by
  have hrows : max start span.start < min (start + call.ids.rows.length) span.stop →
      rowsBetween call.ids.rows (max start span.start - start)
        (min (start + call.ids.rows.length) span.stop - start) =
      rowsBetween call.ids.rows (span.start - start) (span.stop - start) := by
    intro hlt
    have hstart : max start span.start - start = span.start - start := by omega
    rw [hstart, rowsBetween, rowsBetween]
    congr 1
    rcases le_total (start + call.ids.rows.length) span.stop with hle | hle
    · rw [min_eq_left hle, List.take_of_length_le (by omega), List.take_of_length_le (by omega)]
    · rw [min_eq_right hle]
  unfold updateRequest
  dsimp only
  split_ifs with hempty hid hnone hid hid
  · -- the call and the span have no row in common
    have hnil : rowsBetween call.ids.rows (span.start - start) (span.stop - start) = [] := by
      rw [rowsBetween, List.drop_eq_nil_iff, List.length_take]
      omega
    rw [hnil]
    rfl
  · rfl
  · rw [hrows (by omega), Tally.isEmpty_iff] at hnone
    rw [← count_eventHistogram, hnone key, Nat.add_zero]
  · rfl
  · subst hid
    rw [countFor, OrderedDict.get?_set_self, Option.getD_some, Tally.count_merge, countFor,
      hrows (by omega), count_eventHistogram]
  · rw [countFor, OrderedDict.get?_set_of_ne _ _ hid, countFor, Nat.add_zero]

theorem count_map_request (requestId requestId' key : String) (keys : List String) :
    (keys.map fun k => (requestId', k)).count (requestId, key) =
      if requestId' = requestId then keys.count key else 0 := by
  split_ifs with h
  · subst h
    exact List.count_map_of_injective keys _ (fun a b hab => (Prod.mk.inj hab).2) key
  · rw [List.count_eq_zero]
    intro hmem
    obtain ⟨k, -, hk⟩ := List.mem_map.mp hmem
    exact h (Prod.mk.inj hk).1

/-- The rows that a call and a batch have in common, those of the first request split off.  The
first row of the batch has the number `offset`, that of the call the number `start`. -/
theorem assignments_drop_replicate_append (start offset tokens : ℕ) (requestId : String)
    (others : List String) (layer : Option String) (rows : List (List ℤ)) :
    assignments ((List.replicate tokens requestId ++ others).drop (start - offset)) layer
        (rows.drop (offset - start)) =
      ((chosenExperts (rowsBetween rows (offset - start) (offset + tokens - start))).map
        (expertKey layer)).map (fun key => (requestId, key)) ++
      assignments (others.drop (start - (offset + tokens))) layer
        (rows.drop (offset + tokens - start)) := by
  have hskip : offset - start + (tokens - (start - offset)) = offset + tokens - start := by omega
  rw [List.drop_append, List.drop_replicate, List.length_replicate, assignments_append_owners,
    List.length_replicate, assignments_replicate _ _ (List.length_take_le _ _), List.take_drop,
    List.drop_drop, hskip, Nat.sub_sub, List.map_map]
  rfl

/-- **One call, cut at the spans of a batch.** -/
theorem countFor_foldl_updateRequest (start : ℕ) (call : RoutingCall) (batch : Batch) (offset : ℕ)
    (updates : OrderedDict String (Tally String)) (requestId key : String) :
    countFor ((spansFrom offset batch).foldl
        (updateRequest start (start + call.ids.rows.length) call) updates) requestId key =
      countFor updates requestId key +
        (assignments ((owners batch).drop (start - offset)) call.layerName
          (call.ids.rows.drop (offset - start))).count (requestId, key) := by
  induction batch generalizing offset updates with
  | nil =>
    rw [owners, List.flatMap_nil, List.drop_nil, assignments_nil_owners]
    rfl
  | cons entry rest ih =>
    obtain ⟨id, tokenCount⟩ := entry
    have howners : owners ((id, tokenCount) :: rest) =
        List.replicate tokenCount.toNat id ++ owners rest := rfl
    rw [spansFrom]
    split_ifs with hcount
    · rw [ih, howners, Int.toNat_of_nonpos hcount, List.replicate_zero, List.nil_append]
    · rw [List.foldl_cons, ih, countFor_updateRequest, howners, assignments_drop_replicate_append,
        List.count_append, count_map_request, Nat.add_assoc]

/-- **The updates of a call** under the spans of a batch. -/
theorem requestUpdates_count (start : ℕ) (call : RoutingCall) (batch : Batch)
    (requestId key : String) :
    countFor (requestUpdates (spansFrom 0 batch) start (start + call.ids.rows.length) call)
        requestId key =
      (assignments ((owners batch).drop start) call.layerName call.ids.rows).count
        (requestId, key) := by
  rw [requestUpdates, countFor_foldl_updateRequest, countFor_empty, Nat.zero_add, Nat.sub_zero,
    Nat.zero_sub, List.drop_zero]

/-! ## What a tracer has observed -/

/-- The rank under which a worker counts its source, once it has found it. -/
def fixedRank (env : TracerEnv) : Option ℕ := sourceRank env none

/-- The source keys of an event. -/
def sourceKeys (env : TracerEnv) (event : List Assignment) : List String :=
  match fixedRank env with
  | some rank => event.map fun assignment => sourceKey rank assignment.2
  | none => []

/-- A window of recent events after one more; an event without assignments is not kept. -/
def WindowAfter (before after : List (Tally String)) (keys : List String) : Prop :=
  if keys = [] then after = before
  else ∃ event : Tally String, (∀ key, event.count key = keys.count key) ∧
    after = appendRecent before event

theorem windowAfter_nil (window : List (Tally String)) : WindowAfter window window [] := by
  rw [WindowAfter, if_pos rfl]

/-- **What one call adds** to the counters, for the assignments that it reports. -/
structure Observes (env : TracerEnv) (before after : Tracer) (event : List Assignment) : Prop where
  perRequest : ∀ requestId key, countFor after.perRequest requestId key =
    countFor before.perRequest requestId key + event.count (requestId, key)
  globalHistogram : ∀ key, after.globalHistogram.count key =
    before.globalHistogram.count key + (event.map Prod.snd).count key
  globalSourceExpert : ∀ key, after.globalSourceExpert.count key =
    before.globalSourceExpert.count key + (sourceKeys env event).count key
  recentEvents : WindowAfter before.recentEvents after.recentEvents (event.map Prod.snd)
  recentSourceEvents :
    WindowAfter before.recentSourceEvents after.recentSourceEvents (sourceKeys env event)
  cached : after.cachedSourceRank = none ∨ after.cachedSourceRank = fixedRank env

theorem Observes.nothing {env : TracerEnv} {tracer : Tracer}
    (hcached : tracer.cachedSourceRank = none ∨ tracer.cachedSourceRank = fixedRank env) :
    Observes env tracer tracer [] := by
  have hkeys : sourceKeys env [] = [] := by
    unfold sourceKeys
    split <;> rfl
  refine ⟨fun _ _ => rfl, fun _ => rfl, fun key => ?_, windowAfter_nil _, ?_, hcached⟩
  · rw [hkeys]
    rfl
  · rw [hkeys]
    exact windowAfter_nil _

theorem sum_map_ite_eq_count {α : Type*} [DecidableEq α] (items : List α) (a : α) :
    (items.map fun item => if item = a then 1 else 0).sum = items.count a := by
  induction items with
  | nil => rfl
  | cons item items ih =>
    rw [List.map_cons, List.sum_cons, ih, List.count_cons]
    simp only [beq_iff_eq]
    omega

/-- The second components of a list of pairs, counted by their first ones. -/
theorem count_map_snd_eq_sum {α β : Type*} [DecidableEq α] [DecidableEq β] {firsts : List α}
    (hnodup : firsts.Nodup) {pairs : List (α × β)} (hmem : ∀ pair ∈ pairs, pair.1 ∈ firsts)
    (b : β) :
    (pairs.map Prod.snd).count b = (firsts.map fun a => pairs.count (a, b)).sum := by
  induction pairs with
  | nil => simp
  | cons pair pairs ih =>
    obtain ⟨a, b'⟩ := pair
    have hone : (firsts.map fun a' => if (a, b') = (a', b) then 1 else 0).sum =
        if b' = b then 1 else 0 := by
      by_cases hb : b' = b
      · subst hb
        have hsum := sum_map_ite_eq_count firsts a
        rw [List.count_eq_one_of_mem hnodup (hmem _ List.mem_cons_self)] at hsum
        rw [if_pos rfl]
        refine (congrArg List.sum (List.map_congr_left fun a' _ => ?_)).trans hsum
        simp only [Prod.mk.injEq, and_true, eq_comm]
      · simp [hb]
    simp only [List.map_cons, List.count_cons, beq_iff_eq, List.sum_map_add]
    rw [ih fun pair' hpair' => hmem pair' (List.mem_cons_of_mem _ hpair'), hone]

/-- The updates of all requests together. -/
theorem sum_values_count {updates : OrderedDict String (Tally String)} {event : List Assignment}
    (h : ∀ requestId key, countFor updates requestId key = event.count (requestId, key))
    (key : String) :
    (updates.values.map fun histogram => histogram.count key).sum =
      (event.map Prod.snd).count key := by
  have hmem : ∀ assignment ∈ event, assignment.1 ∈ updates.keys := by
    rintro ⟨requestId, key'⟩ hin
    have hpos : 0 < countFor updates requestId key' := by
      rw [h]
      exact List.count_pos_iff.mpr hin
    rw [OrderedDict.mem_keys_iff]
    cases hget : updates.get? requestId with
    | none =>
      rw [countFor, hget] at hpos
      exact absurd hpos (Nat.lt_irrefl 0)
    | some histogram => exact ⟨histogram, rfl⟩
  rw [count_map_snd_eq_sum updates.nodup hmem, OrderedDict.values, List.map_map, List.map_map]
  refine congrArg List.sum (List.map_congr_left fun entry hentry => ?_)
  have hget := updates.mem_entries_iff.mp hentry
  show entry.2.count key = event.count (entry.1, key)
  rw [← h, countFor, hget, Option.getD_some]

theorem sourceKey_injective (rank : ℕ) : Function.Injective (sourceKey rank) := by
  intro key key' h
  unfold sourceKey at h
  exact (String.append_right_inj _).mp h

/-- The source histogram holds the same counts under its own keys. -/
theorem count_sourceExpertHistogram (rank : ℕ) {histogram : Tally String} {keys : List String}
    (h : ∀ key, histogram.count key = keys.count key) (key : String) :
    (sourceExpertHistogram rank histogram).count key = (keys.map (sourceKey rank)).count key := by
  have hloop : ∀ (entries : List (String × ℕ)) (start : Tally String),
      (entries.map Prod.fst).Nodup → (∀ entry ∈ entries, 0 < entry.2) →
      (entries.foldl (fun source entry => source.put (sourceKey rank entry.1) entry.2) start).count
          key =
        ((entries.find? fun entry => sourceKey rank entry.1 = key).map Prod.snd).getD
          (start.count key) := by
    intro entries
    induction entries with
    | nil => exact fun start _ _ => rfl
    | cons entry entries ih =>
      intro start hnodup hpositive
      rw [List.map_cons, List.nodup_cons] at hnodup
      rw [List.foldl_cons, ih _ hnodup.2 fun e he => hpositive e (List.mem_cons_of_mem entry he),
        Tally.count_put start (hpositive entry List.mem_cons_self)]
      by_cases hkey : sourceKey rank entry.1 = key
      · have hnone : entries.find? (fun e => sourceKey rank e.1 = key) = none := by
          rw [List.find?_eq_none]
          intro e he hsame
          have heq := sourceKey_injective rank ((of_decide_eq_true hsame).trans hkey.symm)
          exact hnodup.1 (heq ▸ List.mem_map.mpr ⟨e, he, rfl⟩)
        rw [hnone, if_pos hkey, List.find?_cons_of_pos (by simpa using hkey)]
        rfl
      · rw [if_neg hkey, List.find?_cons_of_neg (by simpa using hkey)]
  rw [sourceExpertHistogram, hloop _ _ histogram.counts.nodup histogram.positive]
  cases hfind : histogram.counts.entries.find? fun entry => sourceKey rank entry.1 = key with
  | none =>
    rw [Option.map_none, Option.getD_none, Tally.count_empty, eq_comm, List.count_eq_zero]
    intro hmem
    obtain ⟨k, hk, rfl⟩ := List.mem_map.mp hmem
    have hpos : 0 < histogram.count k := by
      rw [h]
      exact List.count_pos_iff.mpr hk
    obtain ⟨entry, hentry, hfst⟩ := List.mem_map.mp ((histogram.mem_keys_iff k).mpr hpos)
    exact List.find?_eq_none.mp hfind entry hentry (by simp [hfst])
  | some entry =>
    have hkey : sourceKey rank entry.1 = key := by simpa using List.find?_some hfind
    have hget := histogram.counts.mem_entries_iff.mp (List.mem_of_find?_eq_some hfind)
    rw [Option.map_some, Option.getD_some, ← hkey,
      List.count_map_of_injective _ _ (sourceKey_injective rank), ← h, Tally.count, hget,
      Option.getD_some]

/-- **The counters after a call.** -/
theorem observes_observe {env : TracerEnv} {tracer : Tracer}
    {updates : OrderedDict String (Tally String)} {event : List Assignment} (time : ℚ)
    (hcached : tracer.cachedSourceRank = none ∨ tracer.cachedSourceRank = fixedRank env)
    (h : ∀ requestId key, countFor updates requestId key = event.count (requestId, key)) :
    Observes env tracer (tracer.observe env updates time) event := by
  have htotal : ∀ key, (Tally.mergeAll .empty updates.values).count key =
      (event.map Prod.snd).count key := by
    intro key
    rw [Tally.count_mergeAll, Tally.count_empty, Nat.zero_add, sum_values_count h]
  have hrank : sourceRank env tracer.cachedSourceRank = fixedRank env := by
    rcases hcached with hc | hc
    · rw [hc, fixedRank]
    · rw [hc, fixedRank, sourceRank, sourceRank, Option.none_or, Option.or_self]
  have hperRequest : ∀ requestId key,
      countFor (tracer.perRequest.updateWith updates fun _ old histogram =>
        (old.getD .empty).merge histogram) requestId key =
      countFor tracer.perRequest requestId key + event.count (requestId, key) := by
    intro requestId key
    rw [← h, countFor, countFor, countFor, OrderedDict.get?_updateWith]
    cases updates.get? requestId with
    | none => rw [Option.getD_none, Tally.count_empty, Nat.add_zero]
    | some histogram => rw [Option.getD_some, Tally.count_merge, Option.getD_some]
  have hglobal : ∀ key, (tracer.globalHistogram.mergeAll updates.values).count key =
      tracer.globalHistogram.count key + (event.map Prod.snd).count key := fun key => by
    rw [Tally.count_mergeAll, sum_values_count h]
  by_cases hevent : event = []
  · subst hevent
    have hempty : (Tally.mergeAll .empty updates.values).isEmpty = true :=
      (Tally.isEmpty_iff _).mpr htotal
    have hnothing := Observes.nothing hcached
    rw [Tracer.observe, if_pos hempty]
    exact ⟨hperRequest, hglobal, hnothing.globalSourceExpert, hnothing.recentEvents,
      hnothing.recentSourceEvents, hcached⟩
  · have hkeys : event.map Prod.snd ≠ [] := fun hnil => hevent (List.map_eq_nil_iff.mp hnil)
    have hnonempty : ¬ (Tally.mergeAll .empty updates.values).isEmpty = true := by
      rw [Tally.isEmpty_iff]
      intro hzero
      obtain ⟨key, hkey⟩ := List.exists_mem_of_ne_nil _ hkeys
      exact absurd ((htotal key).symm.trans (hzero key)) (List.count_pos_iff.mpr hkey).ne'
    have hwindow : WindowAfter tracer.recentEvents
        (appendRecent tracer.recentEvents (Tally.mergeAll .empty updates.values))
        (event.map Prod.snd) := by
      rw [WindowAfter, if_neg hkeys]
      exact ⟨_, htotal, rfl⟩
    rw [Tracer.observe, if_neg hnonempty, hrank]
    cases hfixed : fixedRank env with
    | none =>
      have hsource : sourceKeys env event = [] := by rw [sourceKeys, hfixed]
      refine ⟨hperRequest, hglobal, fun key => ?_, hwindow, ?_, hcached⟩
      · rw [hsource]
        rfl
      · rw [hsource]
        exact windowAfter_nil _
    | some rank =>
      have hsource : sourceKeys env event = (event.map Prod.snd).map (sourceKey rank) := by
        rw [sourceKeys, hfixed, List.map_map]
        rfl
      have hcount := count_sourceExpertHistogram rank htotal
      refine ⟨hperRequest, hglobal, fun key => ?_, hwindow, ?_, Or.inr hfixed.symm⟩
      · rw [hsource, ← hcount]
        exact Tally.count_merge _ _ key
      · rw [hsource, WindowAfter, if_neg fun hnil => hkeys (List.map_eq_nil_iff.mp hnil)]
        exact ⟨_, hcount, rfl⟩

/-! ## One pass -/

/-- The rows that a layer has handed over. -/
def seenRows (calls : List RoutingCall) (layer : String) : List (List ℤ) :=
  (calls.filter fun call => layerKey call.layerName = layer).flatMap fun call => call.ids.rows

/-- What a call reports after those in `done`: its rows go on where its layer has left off. -/
def callAssignments (owners : List String) (done : List RoutingCall) (call : RoutingCall) :
    List Assignment :=
  assignments (owners.drop (seenRows done (layerKey call.layerName)).length) call.layerName
    call.ids.rows

/-- What the calls of a pass report, one after the other. -/
def passEvents (owners : List String) : List RoutingCall → List RoutingCall → List (List Assignment)
  | _, [] => []
  | done, call :: calls =>
    callAssignments owners done call :: passEvents owners (done ++ [call]) calls

theorem seenRows_append (done : List RoutingCall) (call : RoutingCall) (layer : String) :
    seenRows (done ++ [call]) layer =
      seenRows done layer ++ if layerKey call.layerName = layer then call.ids.rows else [] := by
  rw [seenRows, List.filter_append, List.flatMap_append, seenRows]
  congr 1
  by_cases h : layerKey call.layerName = layer
  · rw [if_pos h, List.filter_cons_of_pos (by simpa using h)]
    simp
  · rw [if_neg h, List.filter_cons_of_neg (by simpa using h)]
    simp

/-- A worker within a pass, after the calls `done`. -/
structure InPass (batch : Batch) (done : List RoutingCall) (w : Worker) : Prop where
  context : ∃ offsets, w.context = some ⟨spansFrom 0 batch, offsets⟩ ∧
    ∀ layer, (offsets.get? layer).getD 0 = (seenRows done layer).length

/-- **One call within a pass.** -/
theorem InPass.record {env : TracerEnv} (henabled : env.enabled = true) {batch : Batch}
    {done : List RoutingCall} {w : Worker} (h : InPass batch done w)
    (hcached : w.tracer.cachedSourceRank = none ∨ w.tracer.cachedSourceRank = fixedRank env)
    {call : RoutingCall} (htopk : 0 < call.ids.topk) :
    InPass batch (done ++ [call]) (RouteTracing.record env w call) ∧
      Observes env w.tracer (RouteTracing.record env w call).tracer
        (callAssignments (owners batch) done call) := by
  obtain ⟨offsets, hcontext, hoffsets⟩ := h.context
  have hoff : (!env.enabled) = false := by rw [henabled]; rfl
  unfold RouteTracing.record
  rw [hcontext]
  dsimp only
  split_ifs with hskip hempty
  · -- The call has no rows.
    have hrows : call.ids.rows = [] := by
      rw [hoff, TopkIds.numel] at hskip
      rcases hskip with hskip | hskip
      · exact absurd hskip Bool.false_ne_true
      · exact List.length_eq_zero_iff.mp ((Nat.mul_eq_zero.mp hskip).resolve_right htopk.ne')
    refine ⟨⟨offsets, hcontext, fun layer => ?_⟩, ?_⟩
    · rw [hoffsets, seenRows_append, hrows, ite_self, List.append_nil]
    · rw [callAssignments, hrows, assignments_nil_rows]
      exact Observes.nothing hcached
  all_goals
    rw [hoffsets] at *
    refine ⟨⟨_, rfl, fun layer => ?_⟩, ?_⟩
    · rw [OrderedDict.get?_set, seenRows_append, List.length_append]
      split_ifs with hlayer
      · rw [Option.getD_some, hlayer]
      · rw [hoffsets, List.length_nil, Nat.add_zero]
  · -- No request has a row in the call that chooses an expert.
    have hnone : callAssignments (owners batch) done call = [] := by
      rw [List.eq_nil_iff_forall_not_mem]
      rintro ⟨requestId, key⟩ hmem
      have hcount := requestUpdates_count (seenRows done (layerKey call.layerName)).length call
        batch requestId key
      rw [countFor, OrderedDict.get?, List.isEmpty_iff.mp hempty] at hcount
      exact absurd hcount (List.count_pos_iff.mpr hmem).ne
    rw [hnone]
    exact Observes.nothing hcached
  · exact observes_observe call.time hcached
      (requestUpdates_count (seenRows done (layerKey call.layerName)).length call batch)

/-- Tracers that observe events one after the other. -/
def ObservesAll (env : TracerEnv) : Tracer → List (List Assignment) → Tracer → Prop
  | before, [], after => after = before
  | before, event :: events, after =>
    ∃ mid, Observes env before mid event ∧ ObservesAll env mid events after

theorem ObservesAll.append {env : TracerEnv} {before mid after : Tracer}
    {events events' : List (List Assignment)} (h : ObservesAll env before events mid)
    (h' : ObservesAll env mid events' after) :
    ObservesAll env before (events ++ events') after := by
  induction events generalizing before with
  | nil =>
    obtain rfl : mid = before := h
    exact h'
  | cons event events ih =>
    obtain ⟨next, hnext, hrest⟩ := h
    exact ⟨next, hnext, ih hrest⟩

theorem InPass.foldl_record {env : TracerEnv} (henabled : env.enabled = true) {batch : Batch}
    {done calls : List RoutingCall} (htopk : ∀ call ∈ calls, 0 < call.ids.topk) {w : Worker}
    (h : InPass batch done w)
    (hcached : w.tracer.cachedSourceRank = none ∨ w.tracer.cachedSourceRank = fixedRank env) :
    ObservesAll env w.tracer (passEvents (owners batch) done calls)
      (calls.foldl (RouteTracing.record env) w).tracer := by
  induction calls generalizing done w with
  | nil => rfl
  | cons call calls ih =>
    obtain ⟨hnext, hobserves⟩ := h.record henabled hcached (htopk call List.mem_cons_self)
    exact ⟨_, hobserves,
      ih (fun c hc => htopk c (List.mem_cons_of_mem call hc)) hnext hobserves.cached⟩

/-- Without a context nothing is recorded. -/
theorem foldl_record_of_idle (env : TracerEnv) (calls : List RoutingCall) {w : Worker}
    (hidle : w.context = none) : calls.foldl (record env) w = w := by
  induction calls with
  | nil => rfl
  | cons call calls ih =>
    have hrecord : record env w call = w := by
      rw [record, hidle]
    rw [List.foldl_cons, hrecord, ih]

theorem owners_of_spansFrom {offset : ℕ} {batch : Batch} (h : spansFrom offset batch = []) :
    owners batch = [] := by
  induction batch with
  | nil => rfl
  | cons entry rest ih =>
    obtain ⟨requestId, tokenCount⟩ := entry
    rw [spansFrom] at h
    split_ifs at h with hcount
    show List.replicate tokenCount.toNat requestId ++ owners rest = []
    rw [Int.toNat_of_nonpos hcount, ih h]
    rfl

/-- A pass without owners reports nothing. -/
theorem observesAll_passEvents_nil {env : TracerEnv} {tracer : Tracer}
    (hcached : tracer.cachedSourceRank = none ∨ tracer.cachedSourceRank = fixedRank env)
    (done calls : List RoutingCall) : ObservesAll env tracer (passEvents [] done calls) tracer := by
  induction calls generalizing done with
  | nil => rfl
  | cons call calls ih =>
    refine ⟨tracer, ?_, ih _⟩
    rw [callAssignments, List.drop_nil, assignments_nil_owners]
    exact Observes.nothing hcached

/-- **A pass** reports the assignments of its calls, and leaves the worker idle. -/
theorem forward_observes {env : TracerEnv} (henabled : env.enabled = true) (batch : Batch)
    {calls : List RoutingCall} (htopk : ∀ call ∈ calls, 0 < call.ids.topk) {w : Worker}
    (hidle : w.context = none)
    (hcached : w.tracer.cachedSourceRank = none ∨ w.tracer.cachedSourceRank = fixedRank env) :
    ObservesAll env w.tracer (passEvents (owners batch) [] calls)
        (forward env batch calls w).tracer ∧
      (forward env batch calls w).context = none := by
  unfold forward
  split_ifs with hskip
  · have hspans : spansFrom 0 batch = [] := hskip.resolve_left (by simp [henabled])
    rw [foldl_record_of_idle env calls hidle, owners_of_spansFrom hspans]
    exact ⟨observesAll_passEvents_nil hcached [] calls, hidle⟩
  · refine ⟨?_, hidle⟩
    have hstart : InPass batch [] { w with context := some ⟨spansFrom 0 batch, .empty⟩ } :=
      ⟨⟨.empty, rfl, fun layer => rfl⟩⟩
    exact hstart.foldl_record henabled htopk hcached

/-! ## Layer by layer -/

/-- The layers that make calls. -/
def layersOf (calls : List RoutingCall) : Finset String :=
  (calls.map fun call => layerKey call.layerName).toFinset

theorem assignments_layerKey (owners : List String) (layerName : Option String)
    (rows : List (List ℤ)) :
    assignments owners (some (layerKey layerName)) rows = assignments owners layerName rows := by
  simp only [assignments, expertKey_layerKey]

/-- However the rows of the layers are cut into calls, and in whatever order the calls come, what
they report together is what the layers choose for the rows they have handed over. -/
theorem countP_flatten_passEvents (owners : List String) (p : Assignment → Bool)
    (done calls : List RoutingCall) {S : Finset String}
    (hlayers : ∀ call ∈ calls, layerKey call.layerName ∈ S) :
    (∑ layer ∈ S, (assignments owners (some layer) (seenRows done layer)).countP p) +
        (passEvents owners done calls).flatten.countP p =
      ∑ layer ∈ S, (assignments owners (some layer) (seenRows (done ++ calls) layer)).countP p := by
  induction calls generalizing done with
  | nil => rw [List.append_nil, passEvents, List.flatten_nil, List.countP_nil, Nat.add_zero]
  | cons call calls ih =>
    have hnext := ih (done ++ [call]) fun c hc => hlayers c (List.mem_cons_of_mem call hc)
    rw [List.append_assoc, List.singleton_append] at hnext
    rw [← hnext, passEvents, List.flatten_cons, List.countP_append, ← Nat.add_assoc]
    congr 1
    -- The rows of the call are new ones of its own layer.
    have hlayer : ∀ layer, (assignments owners (some layer)
          (seenRows (done ++ [call]) layer)).countP p =
        (assignments owners (some layer) (seenRows done layer)).countP p +
          if layerKey call.layerName = layer then (callAssignments owners done call).countP p
          else 0 := by
      intro layer
      rw [seenRows_append, assignments_append_rows, List.countP_append]
      congr 1
      split_ifs with h
      · subst h
        rw [assignments_layerKey, callAssignments]
      · rw [assignments_nil_rows, List.countP_nil]
    simp only [hlayer, Finset.sum_add_distrib]
    rw [Finset.sum_ite_eq, if_pos (hlayers call List.mem_cons_self)]

/-- What a pass reports, layer by layer. -/
theorem countP_passEvents (owners : List String) (p : Assignment → Bool)
    (calls : List RoutingCall) :
    (passEvents owners [] calls).flatten.countP p =
      ∑ layer ∈ layersOf calls,
        (assignments owners (some layer) (seenRows calls layer)).countP p := by
  have hlayers := countP_flatten_passEvents owners p [] calls (S := layersOf calls)
    fun call hcall => List.mem_toFinset.mpr (List.mem_map.mpr ⟨call, hcall, rfl⟩)
  have hzero : ∑ layer ∈ layersOf calls,
      (assignments owners (some layer) (seenRows [] layer)).countP p = 0 :=
    Finset.sum_eq_zero fun layer _ => rfl
  rw [hzero, Nat.zero_add, List.nil_append] at hlayers
  exact hlayers

theorem count_map_snd (event : List Assignment) (key : String) :
    (event.map Prod.snd).count key = event.countP fun assignment => assignment.2 == key := by
  rw [List.count_eq_countP, List.countP_map]
  rfl

theorem countFor_of_observesAll {env : TracerEnv} {before after : Tracer}
    {events : List (List Assignment)} (h : ObservesAll env before events after)
    (requestId key : String) :
    countFor after.perRequest requestId key =
      countFor before.perRequest requestId key + events.flatten.count (requestId, key) := by
  induction events generalizing before with
  | nil =>
    obtain rfl : after = before := h
    rfl
  | cons event events ih =>
    obtain ⟨mid, hmid, hrest⟩ := h
    rw [ih hrest, hmid.perRequest, List.flatten_cons, List.count_append, Nat.add_assoc]

theorem globalCount_of_observesAll {env : TracerEnv} {before after : Tracer}
    {events : List (List Assignment)} (h : ObservesAll env before events after) (key : String) :
    after.globalHistogram.count key =
      before.globalHistogram.count key + (events.flatten.map Prod.snd).count key := by
  induction events generalizing before with
  | nil =>
    obtain rfl : after = before := h
    rfl
  | cons event events ih =>
    obtain ⟨mid, hmid, hrest⟩ := h
    rw [ih hrest, hmid.globalHistogram, List.flatten_cons, List.map_append, List.count_append,
      Nat.add_assoc]

end RouteTracing
end SpotServe
