import Mathlib.Data.List.Pairwise
import SpotServe.Scheduler.Accounting

/-!
# First come, first served

The control loop gathers the requests of all models and sorts them before it serves them, by the
place each has in the queue of its own model.  That is the order in which they came only when there
is one model.

Between two requests of one size what matters is which nodes the size fits on.  A node it does not
fit on stays so while requests of no smaller size are served (`Blocked`), so of two requests in the
right order the second is not granted without the first.  In the wrong order a node that is filled
by the one is lost for the other.  A request that asks for a negative number of GPUs makes room.

* `chooseNode_isSome`: a request finds a node exactly when there is one it fits on.
* `firstComeFirstServed_iff`: the queues for which no table of nodes breaks the order.
-/

namespace SpotServe
namespace Scheduler

open Py

/-! ## Candidates under both policies -/

/-- `int()` -/
def truncate (x : ℚ) : ℤ := if 0 ≤ x then ⌊x⌋ else ⌈x⌉

/-- The candidates of `rank_nodes_by_spot_risk`, in table order. -/
def riskCandidates (numGpus : ℚ) (nodes : NodeTable) : List String :=
  (nodes.entries.filter fun entry =>
    entry.2.state = .ready ∧ numGpus ≤ truncate entry.2.freeGpu).map Prod.fst

/-- The order by score, which depends on what the nodes report. -/
structure RiskOrder where
  order : String → ℚ → NodeTable → List String
  perm : ∀ modelName numGpus nodes,
    (order modelName numGpus nodes).Perm (riskCandidates numGpus nodes)

/-- `enable_spot_risk_aware` -/
abbrev CandidatePolicy := Option RiskOrder

/-- What `_ordered_candidate_nodes` ranks by. -/
def CandidatePolicy.ranking (policy : CandidatePolicy) : Option RiskRanking :=
  policy.map RiskOrder.order

/-- Whether a size fits on a node with so many GPUs free. -/
def CandidatePolicy.fits (policy : CandidatePolicy) (numGpus freeGpu : ℚ) : Prop :=
  numGpus ≤ freeGpu ∧ (policy.isSome → numGpus ≤ truncate freeGpu)

/-! ## An iteration -/

/-- The requests in the order in which they are gathered. -/
def gatheredRequests (s : FcfsScheduler) : List LoadingRequest :=
  s.modelLoadingQueues.entries.flatMap fun entry =>
    entry.2.zipIdx.map fun item => ⟨entry.1, item.2, item.1⟩

/-- One turn over the requests.  A future that is done, as that of a caller that was cancelled, is
skipped. -/
def serveUnlessDone (policy : CandidatePolicy) (done : List ℕ) (v : Serving)
    (loading : LoadingRequest) : Serving :=
  if loading.request.future ∉ done then serveRequest policy.ranking v loading else v

/-- Where none is done it is the turn of `controlLoop`. -/
theorem serveUnlessDone_nil (policy : CandidatePolicy) :
    serveUnlessDone policy [] = serveRequest policy.ranking := by
  funext v loading
  exact if_pos List.not_mem_nil

/-- One iteration of the control loop, from the table `_get_worker_nodes` gave. -/
def serveLoop (policy : CandidatePolicy) (done : List ℕ) (s : FcfsScheduler) (nodes : NodeTable) :
    Serving :=
  (loadingRequests s).foldl (serveUnlessDone policy done) ⟨s.modelLoadingQueues, nodes, []⟩

/-- The future of the request was resolved with a node. -/
def Serving.Grants (v : Serving) (loading : LoadingRequest) : Prop :=
  ∃ node, ⟨loading.modelName, loading.request, node⟩ ∈ v.granted

/-- Two requests without target node of one size, the first of them queued earlier. -/
structure Earlier (l₁ l₂ : LoadingRequest) : Prop where
  targetless₁ : l₁.request.targetNodeId = none
  targetless₂ : l₂.request.targetNodeId = none
  numGpus : l₁.request.numGpus = l₂.request.numGpus
  requestTime : l₁.request.requestTime < l₂.request.requestTime

theorem Earlier.ne {l₁ l₂ : LoadingRequest} (h : Earlier l₁ l₂) : l₁ ≠ l₂ := by
  rintro rfl
  exact lt_irrefl _ h.requestTime

/-- Among the pending requests the earlier is granted when the later is. -/
def FirstComeFirstServed (policy : CandidatePolicy) (done : List ℕ) (s : FcfsScheduler)
    (nodes : NodeTable) : Prop :=
  ∀ l₁ ∈ gatheredRequests s, ∀ l₂ ∈ gatheredRequests s,
    l₁.request.future ∉ done → l₂.request.future ∉ done → Earlier l₁ l₂ →
    (serveLoop policy done s nodes).Grants l₂ → (serveLoop policy done s nodes).Grants l₁

/-- The place in the queue comes first, then the model. -/
def Before (s : FcfsScheduler) (l₁ l₂ : LoadingRequest) : Prop :=
  l₁.idx < l₂.idx ∨
    l₁.idx = l₂.idx ∧ s.modelLoadingQueues.keys.idxOf l₁.modelName <
      s.modelLoadingQueues.keys.idxOf l₂.modelName

/-- The places in the queues agree with the times, where requests compete for nodes. -/
def InOrder (s : FcfsScheduler) : Prop :=
  ∀ l₁ ∈ gatheredRequests s, ∀ l₂ ∈ gatheredRequests s, Earlier l₁ l₂ →
    (0 < l₁.request.numGpus → Before s l₁ l₂) ∧
      ∀ l ∈ gatheredRequests s, Before s l₁ l → Before s l l₂ →
        min 0 l₁.request.numGpus ≤ l.request.numGpus

/-! ## What fits where -/

variable {policy : CandidatePolicy} {s : FcfsScheduler}

/-- Towards zero a negative number is rounded up. -/
theorem le_truncate {x y : ℚ} (hx : x ≤ 0) (h : x ≤ y) : x ≤ truncate y := by
  unfold truncate
  split_ifs with hy
  · exact hx.trans (by exact_mod_cast Int.floor_nonneg.mpr hy)
  · exact h.trans (Int.le_ceil y)

theorem not_le_truncate {x y : ℚ} (hx : 0 < x) (h : y < ⌈x⌉) : ¬ x ≤ truncate y := by
  have hlt : truncate y < ⌈x⌉ := by
    unfold truncate
    split_ifs with hy
    · exact Int.floor_lt.mpr h
    · have hceil : ⌈y⌉ ≤ 0 := Int.ceil_le.mpr (by push_cast; linarith)
      exact hceil.trans_lt (Int.ceil_pos.mpr hx)
  exact fun hle => absurd (Int.ceil_le.mpr hle) (not_le.mpr hlt)

theorem truncate_mono {x y : ℚ} (h : x ≤ y) : truncate x ≤ truncate y := by
  unfold truncate
  split_ifs with hx hy hy
  · exact Int.floor_le_floor h
  · exact absurd (hx.trans h) hy
  · have hceil : ⌈x⌉ ≤ 0 := Int.ceil_le.mpr (by push_cast; linarith)
    exact hceil.trans (Int.floor_nonneg.mpr hy)
  · exact Int.ceil_le_ceil h

theorem CandidatePolicy.fits.mono {numGpus numGpus' freeGpu freeGpu' : ℚ}
    (h : policy.fits numGpus freeGpu) (hsize : numGpus' ≤ numGpus) (hfree : freeGpu ≤ freeGpu') :
    policy.fits numGpus' freeGpu' := by
  refine ⟨hsize.trans (h.1.trans hfree), fun hsome => hsize.trans ((h.2 hsome).trans ?_)⟩
  exact_mod_cast truncate_mono hfree

/-- For nothing, or less than nothing, both policies ask the same. -/
theorem CandidatePolicy.fits_of_nonpos {numGpus freeGpu : ℚ} (hsize : numGpus ≤ 0)
    (hfree : numGpus ≤ freeGpu) : policy.fits numGpus freeGpu :=
  ⟨hfree, fun _ => le_truncate hsize hfree⟩

theorem CandidatePolicy.fits_ceil {numGpus : ℚ} (hsize : 0 ≤ numGpus) :
    policy.fits numGpus ⌈numGpus⌉ := by
  have hle := Int.le_ceil numGpus
  refine ⟨hle, fun _ => ?_⟩
  rwa [truncate, if_pos (hsize.trans hle), Int.floor_intCast]

theorem mem_riskCandidates {numGpus : ℚ} {nodes : NodeTable} {node : String} :
    node ∈ riskCandidates numGpus nodes ↔ ∃ info, nodes.get? node = some info ∧
      info.state = .ready ∧ numGpus ≤ truncate info.freeGpu := by
  unfold riskCandidates
  simp only [List.mem_map, List.mem_filter, decide_eq_true_eq]
  constructor
  · rintro ⟨⟨node, info⟩, ⟨hmem, hinfo⟩, rfl⟩
    exact ⟨info, (OrderedDict.mem_entries_iff _).mp hmem, hinfo⟩
  · rintro ⟨info, hmem, hinfo⟩
    exact ⟨⟨node, info⟩, ⟨(OrderedDict.mem_entries_iff _).mpr hmem, hinfo⟩, rfl⟩

/-- A candidate is a node of the table on which the policy lets the size fit. -/
theorem mem_orderedCandidateNodes {nodes : NodeTable} {loading : LoadingRequest} {node : String}
    {info : NodeInfo} (hinfo : nodes.get? node = some info)
    (haccepts : accepts loading.request node info) :
    node ∈ orderedCandidateNodes policy.ranking loading.modelName loading.request.numGpus nodes ↔
      policy.fits loading.request.numGpus info.freeGpu := by
  cases policy with
  | none =>
    refine iff_of_true ((OrderedDict.mem_keys_iff _).mpr ⟨info, hinfo⟩) ⟨haccepts.2.2, fun h => ?_⟩
    exact absurd h Bool.false_ne_true
  | some risk =>
    show node ∈ risk.order loading.modelName loading.request.numGpus nodes ↔ _
    rw [(risk.perm ..).mem_iff, mem_riskCandidates]
    constructor
    · rintro ⟨info', hinfo', -, htruncate⟩
      obtain rfl : info = info' := Option.some.inj (hinfo.symm.trans hinfo')
      exact ⟨haccepts.2.2, fun _ => htruncate⟩
    · exact fun hfits => ⟨info, hinfo, haccepts.2.1, hfits.2 rfl⟩

/-- **A request finds a node** exactly when there is one it fits on. -/
theorem chooseNode_isSome {nodes : NodeTable} {loading : LoadingRequest} :
    (chooseNode policy.ranking nodes loading).isSome ↔ ∃ node info,
      nodes.get? node = some info ∧ accepts loading.request node info ∧
        policy.fits loading.request.numGpus info.freeGpu := by
  unfold chooseNode
  rw [List.find?_isSome]
  constructor
  · rintro ⟨node, hmem, htest⟩
    cases hinfo : nodes.get? node with
    | none => simp [hinfo] at htest
    | some info =>
      have haccepts : accepts loading.request node info := by simpa [hinfo] using htest
      exact ⟨node, info, hinfo, haccepts, (mem_orderedCandidateNodes hinfo haccepts).mp hmem⟩
  · rintro ⟨node, info, hinfo, haccepts, hfits⟩
    refine ⟨node, (mem_orderedCandidateNodes hinfo haccepts).mpr hfits, ?_⟩
    simpa [hinfo] using haccepts

theorem fits_of_chooseNode {nodes : NodeTable} {loading : LoadingRequest} {node : String}
    (h : chooseNode policy.ranking nodes loading = some node) : ∃ info,
      nodes.get? node = some info ∧ accepts loading.request node info ∧
        policy.fits loading.request.numGpus info.freeGpu := by
  obtain ⟨info, hinfo, haccepts⟩ := chooseNode_eq_some h
  exact ⟨info, hinfo, haccepts,
    (mem_orderedCandidateNodes hinfo haccepts).mp (List.mem_of_find?_eq_some h)⟩

/-! ## The order in which requests are served -/

/-- Sorting by a key keeps the order of equal keys. -/
theorem pairwise_orderedInsert {α : Type*} (key : α → ℕ) {R : α → α → Prop} {a : α} {l : List α}
    (ha : ∀ b ∈ l, R a b) (h : l.Pairwise fun a b => key a < key b ∨ key a = key b ∧ R a b) :
    (l.orderedInsert (fun a b => key a ≤ key b) a).Pairwise
      fun a b => key a < key b ∨ key a = key b ∧ R a b := by
  induction l with
  | nil => simp
  | cons b l ih =>
    rw [List.forall_mem_cons] at ha
    obtain ⟨hb, hl⟩ := List.pairwise_cons.mp h
    rw [List.orderedInsert_cons]
    split_ifs with hle
    · refine List.pairwise_cons.mpr ⟨fun c hc => ?_, h⟩
      rcases List.mem_cons.mp hc with rfl | hc
      · exact hle.lt_or_eq.imp_right fun heq => ⟨heq, ha.1⟩
      · have hkey : key b ≤ key c := (hb c hc).elim le_of_lt fun heq => heq.1.le
        exact (hle.trans hkey).lt_or_eq.imp_right fun heq => ⟨heq, ha.2 c hc⟩
    · refine List.pairwise_cons.mpr ⟨fun c hc => ?_, ih ha.2 hl⟩
      rcases (List.mem_orderedInsert _).mp hc with rfl | hc
      · exact .inl (not_le.mp hle)
      · exact hb c hc

theorem pairwise_insertionSort {α : Type*} (key : α → ℕ) {R : α → α → Prop} {l : List α}
    (h : l.Pairwise R) : (l.insertionSort fun a b => key a ≤ key b).Pairwise
      fun a b => key a < key b ∨ key a = key b ∧ R a b := by
  induction l with
  | nil => simp
  | cons a l ih =>
    obtain ⟨ha, hl⟩ := List.pairwise_cons.mp h
    rw [List.insertionSort_cons]
    exact pairwise_orderedInsert key (fun b hb => ha b ((List.mem_insertionSort _).mp hb)) (ih hl)

theorem pairwise_gatheredRequests (s : FcfsScheduler) : (gatheredRequests s).Pairwise fun a b =>
    s.modelLoadingQueues.keys.idxOf a.modelName < s.modelLoadingQueues.keys.idxOf b.modelName ∨
      a.idx < b.idx := by
  unfold gatheredRequests
  rw [List.pairwise_flatMap]
  constructor
  · rintro ⟨modelName, queue⟩ -
    have hidx : (queue.zipIdx.map Prod.snd).Pairwise (· < ·) := by
      rw [List.zipIdx_map_snd]
      exact List.pairwise_lt_range'
    rw [List.pairwise_map] at hidx ⊢
    exact hidx.imp fun hlt => .inr hlt
  · have hkeys : s.modelLoadingQueues.keys.Pairwise fun a b =>
        s.modelLoadingQueues.keys.idxOf a < s.modelLoadingQueues.keys.idxOf b := by
      rw [List.pairwise_iff_getElem]
      intro i j hi hj hij
      have hnodup : s.modelLoadingQueues.keys.Nodup := s.modelLoadingQueues.nodup
      rwa [hnodup.idxOf_getElem, hnodup.idxOf_getElem]
    refine (List.pairwise_map.mp hkeys).imp ?_
    rintro ⟨a, queue⟩ ⟨b, queue'⟩ hlt x hx y hy
    obtain ⟨-, -, rfl⟩ := List.mem_map.mp hx
    obtain ⟨-, -, rfl⟩ := List.mem_map.mp hy
    exact .inl hlt

theorem pairwise_loadingRequests (s : FcfsScheduler) : (loadingRequests s).Pairwise (Before s) :=
  (pairwise_insertionSort _ (pairwise_gatheredRequests s)).imp fun h =>
    h.imp_right fun ⟨heq, hR⟩ => ⟨heq, hR.resolve_right (by omega)⟩

theorem mem_loadingRequests_iff {loading : LoadingRequest} :
    loading ∈ loadingRequests s ↔ loading ∈ gatheredRequests s :=
  List.mem_insertionSort _

theorem Before.asymm {l₁ l₂ : LoadingRequest} (h : Before s l₁ l₂) : ¬ Before s l₂ l₁ := by
  unfold Before at *
  omega

theorem Before.ne {l₁ l₂ : LoadingRequest} (h : Before s l₁ l₂) : l₁ ≠ l₂ := by
  rintro rfl
  exact h.asymm h

theorem Before.trans {l₁ l₂ l₃ : LoadingRequest} (h : Before s l₁ l₂) (h' : Before s l₂ l₃) :
    Before s l₁ l₃ := by
  unfold Before at *
  omega

theorem before_or_before {l₁ l₂ : LoadingRequest} (h₁ : l₁ ∈ gatheredRequests s)
    (h₂ : l₂ ∈ gatheredRequests s) (hne : l₁ ≠ l₂) : Before s l₁ l₂ ∨ Before s l₂ l₁ := by
  have hsymm : Std.Symm fun a b => Before s a b ∨ Before s b a := ⟨fun _ _ h => h.symm⟩
  have hpairwise : (loadingRequests s).Pairwise fun a b => Before s a b ∨ Before s b a :=
    (pairwise_loadingRequests s).imp Or.inl
  exact hpairwise.forall (mem_loadingRequests_iff.mpr h₁) (mem_loadingRequests_iff.mpr h₂) hne

/-- Two requests, and what is served between them. -/
theorem exists_between {l₁ l₂ : LoadingRequest} (h₁ : l₁ ∈ gatheredRequests s)
    (h₂ : l₂ ∈ gatheredRequests s) (h : Before s l₁ l₂) : ∃ first between last,
      loadingRequests s = first ++ l₁ :: (between ++ l₂ :: last) ∧
      ∀ l ∈ between, l ∈ gatheredRequests s ∧ Before s l₁ l ∧ Before s l l₂ := by
  obtain ⟨first, rest, hsplit⟩ := List.append_of_mem (mem_loadingRequests_iff.mpr h₁)
  have hpairwise := pairwise_loadingRequests s
  rw [hsplit, List.pairwise_append, List.pairwise_cons] at hpairwise
  obtain ⟨-, ⟨hrest, hpairwise⟩, hfirst⟩ := hpairwise
  have hmem : l₂ ∈ rest := by
    have hmem := mem_loadingRequests_iff.mpr h₂
    rw [hsplit, List.mem_append, List.mem_cons] at hmem
    rcases hmem with hmem | rfl | hmem
    · exact absurd (hfirst l₂ hmem l₁ List.mem_cons_self) h.asymm
    · exact absurd rfl h.ne
    · exact hmem
  obtain ⟨between, last, rfl⟩ := List.append_of_mem hmem
  rw [List.pairwise_append] at hpairwise
  refine ⟨first, between, last, hsplit, fun l hl => ⟨?_, ?_, ?_⟩⟩
  · rw [← mem_loadingRequests_iff, hsplit]
    simp [hl]
  · exact hrest l (List.mem_append_left _ hl)
  · exact hpairwise.2.2 l hl l₂ List.mem_cons_self

/-! ## One turn -/

/-- A size fits on no node that is ready. -/
def Blocked (policy : CandidatePolicy) (numGpus : ℚ) (nodes : NodeTable) : Prop :=
  ∀ node info, nodes.get? node = some info → info.state = .ready →
    ¬ policy.fits numGpus info.freeGpu

/-- A size fits on some node that is ready. -/
def Roomy (policy : CandidatePolicy) (numGpus : ℚ) (nodes : NodeTable) : Prop :=
  ∃ node info, nodes.get? node = some info ∧ info.state = .ready ∧
    policy.fits numGpus info.freeGpu

theorem not_blocked_iff {numGpus : ℚ} {nodes : NodeTable} :
    ¬ Blocked policy numGpus nodes ↔ Roomy policy numGpus nodes := by
  simp [Blocked, Roomy]

/-- What one turn does: nothing, or a grant on a node the request fits on. -/
theorem serveUnlessDone_cases (policy : CandidatePolicy) (done : List ℕ) (v : Serving)
    (loading : LoadingRequest) :
    serveUnlessDone policy done v loading = v ∨
      ∃ node info, v.nodes.get? node = some info ∧ accepts loading.request node info ∧
        policy.fits loading.request.numGpus info.freeGpu ∧
        serveUnlessDone policy done v loading =
          { queues := v.queues.set loading.modelName
              (((v.queues.get? loading.modelName).getD []).erase loading.request)
            nodes := addFreeGpu v.nodes node (-loading.request.numGpus)
            granted := v.granted ++ [⟨loading.modelName, loading.request, node⟩] } := by
  unfold serveUnlessDone
  by_cases hdone : loading.request.future ∈ done
  · exact .inl (if_neg (not_not.mpr hdone))
  · rw [if_pos hdone]
    rcases serveRequest_cases policy.ranking v loading with h | ⟨node, info, hchoose, -, -, h⟩
    · exact .inl h
    · obtain ⟨info, hinfo, haccepts, hfits⟩ := fits_of_chooseNode hchoose
      exact .inr ⟨node, info, hinfo, haccepts, hfits, h⟩

variable {done : List ℕ} {v : Serving}

/-- A node that a size does not fit on does not get room for it from requests of no smaller size. -/
theorem Blocked.serve {numGpus : ℚ} (h : Blocked policy numGpus v.nodes) {loading : LoadingRequest}
    (hsize : min 0 numGpus ≤ loading.request.numGpus) :
    Blocked policy numGpus (serveUnlessDone policy done v loading).nodes := by
  rcases serveUnlessDone_cases policy done v loading with heq | ⟨node, info, hinfo, haccepts, hfits,
    heq⟩
  · rwa [heq]
  · rw [heq]
    intro node' info' hinfo' hready
    rw [get?_addFreeGpu, Option.map_eq_some_iff] at hinfo'
    obtain ⟨old, hold, rfl⟩ := hinfo'
    split_ifs with hnode
    · subst hnode
      obtain rfl : old = info := Option.some.inj (hold.symm.trans hinfo)
      rcases le_or_gt 0 loading.request.numGpus with hnonneg | hneg
      · exact fun hfits' => h node old hold haccepts.2.1
          (hfits'.mono le_rfl (by dsimp only; linarith))
      · have hle : numGpus ≤ loading.request.numGpus := by
          rcases min_le_iff.mp hsize with hzero | hle
          · exact absurd hzero (not_le.mpr hneg)
          · exact hle
        exact absurd (hfits.mono hle le_rfl) (h node old hold haccepts.2.1)
    · rw [if_neg hnode] at hready
      exact h node' old hold hready

/-- Room for nothing, or less, is left by every request. -/
theorem Roomy.serve {numGpus : ℚ} (h : Roomy policy numGpus v.nodes) (hnonpos : numGpus ≤ 0)
    (loading : LoadingRequest) :
    Roomy policy numGpus (serveUnlessDone policy done v loading).nodes := by
  obtain ⟨node', info', hinfo', hready, hroom⟩ := h
  rcases serveUnlessDone_cases policy done v loading with heq | ⟨node, info, hinfo, haccepts, -,
    heq⟩
  · rw [heq]
    exact ⟨node', info', hinfo', hready, hroom⟩
  · rw [heq]
    refine ⟨node', _, by rw [get?_addFreeGpu, hinfo', Option.map_some], ?_⟩
    split_ifs with hnode
    · subst hnode
      obtain rfl : info' = info := Option.some.inj (hinfo'.symm.trans hinfo)
      exact ⟨hready, CandidatePolicy.fits_of_nonpos hnonpos (by
        dsimp only
        linarith [haccepts.2.2])⟩
    · exact ⟨hready, hroom⟩

/-- The request is still queued, or was granted. -/
def Serving.Tracks (v : Serving) (loading : LoadingRequest) : Prop :=
  loading.request ∈ (v.queues.get? loading.modelName).getD [] ∨ v.Grants loading

theorem Grants.serve {l : LoadingRequest} (h : v.Grants l) (loading : LoadingRequest) :
    (serveUnlessDone policy done v loading).Grants l := by
  obtain ⟨node, hmem⟩ := h
  rcases serveUnlessDone_cases policy done v loading with heq | ⟨_, _, -, -, -, heq⟩
  · rw [heq]
    exact ⟨node, hmem⟩
  · rw [heq]
    exact ⟨node, List.mem_append_left _ hmem⟩

theorem Tracks.serve {l : LoadingRequest} (h : v.Tracks l) (loading : LoadingRequest) :
    (serveUnlessDone policy done v loading).Tracks l := by
  rcases h with hqueued | hgranted
  · rcases serveUnlessDone_cases policy done v loading with heq | ⟨node, _, -, -, -, heq⟩
    · rw [heq]
      exact .inl hqueued
    · rw [heq]
      unfold Serving.Tracks
      by_cases hmodel : loading.modelName = l.modelName
      · by_cases hrequest : loading.request = l.request
        · refine .inr ⟨node, List.mem_append_right _ ?_⟩
          rw [hmodel, hrequest]
          exact List.mem_singleton_self _
        · refine .inl ?_
          dsimp only
          rw [hmodel, OrderedDict.get?_set_self, Option.getD_some]
          exact (List.mem_erase_of_ne (Ne.symm hrequest)).mpr hqueued
      · refine .inl ?_
        dsimp only
        rwa [OrderedDict.get?_set_of_ne _ _ hmodel]
  · exact .inr (Grants.serve hgranted loading)

/-- Only its own turn grants a request. -/
theorem grants_serve_of_ne {l loading : LoadingRequest}
    (hfuture : loading.request.future ≠ l.request.future) :
    (serveUnlessDone policy done v loading).Grants l ↔ v.Grants l := by
  refine ⟨?_, fun h => Grants.serve h loading⟩
  rcases serveUnlessDone_cases policy done v loading with heq | ⟨_, _, -, -, -, heq⟩
  · rw [heq]
    exact id
  · rw [heq]
    rintro ⟨node', hmem⟩
    rcases List.mem_append.mp hmem with hmem | hmem
    · exact ⟨node', hmem⟩
    · have hrequest : l.request = loading.request := by
        have hgrant := List.mem_singleton.mp hmem
        injection hgrant
      exact absurd (congrArg Request.future hrequest.symm) hfuture

/-- A request that finds room is granted at its turn. -/
theorem grants_serve_self {loading : LoadingRequest} (htracks : v.Tracks loading)
    (hdone : loading.request.future ∉ done) (htargetless : loading.request.targetNodeId = none)
    (hroom : Roomy policy loading.request.numGpus v.nodes) :
    (serveUnlessDone policy done v loading).Grants loading := by
  rcases htracks with hqueued | hgranted
  · obtain ⟨node, info, hinfo, hready, hfits⟩ := hroom
    have hsome : (chooseNode policy.ranking v.nodes loading).isSome :=
      chooseNode_isSome.mpr ⟨node, info, hinfo, ⟨.inl htargetless, hready, hfits.1⟩, hfits⟩
    obtain ⟨node', hnode'⟩ := Option.isSome_iff_exists.mp hsome
    unfold serveUnlessDone serveRequest
    rw [if_pos hdone, hnode']
    dsimp only
    rw [if_pos hqueued]
    exact ⟨node', List.mem_append_right _ (List.mem_singleton_self _)⟩
  · exact Grants.serve hgranted loading

/-- Where it finds none, its turn changes nothing. -/
theorem serve_of_blocked {loading : LoadingRequest}
    (h : Blocked policy loading.request.numGpus v.nodes) :
    serveUnlessDone policy done v loading = v := by
  rcases serveUnlessDone_cases policy done v loading with heq | ⟨node, info, hinfo, haccepts, hfits,
    -⟩
  · exact heq
  · exact absurd hfits (h node info hinfo haccepts.2.1)

/-! ## The whole loop -/

/-- What every turn keeps. -/
theorem foldl_serve {requests : List LoadingRequest} (Inv : Serving → Prop) (hv : Inv v)
    (h : ∀ v, Inv v → ∀ l ∈ requests, Inv (serveUnlessDone policy done v l)) :
    Inv (requests.foldl (serveUnlessDone policy done) v) :=
  List.foldlRecOn requests _ hv h

/-- The requests come from the queues. -/
theorem tracks_start {loading : LoadingRequest} (h : loading ∈ gatheredRequests s)
    (nodes : NodeTable) : (Serving.mk s.modelLoadingQueues nodes []).Tracks loading := by
  obtain ⟨queue, hqueue, hmem⟩ := mem_loadingRequests (mem_loadingRequests_iff.mpr h)
  refine .inl ?_
  rwa [hqueue, Option.getD_some]

theorem not_grants_start (s : FcfsScheduler) (nodes : NodeTable) (loading : LoadingRequest) :
    ¬ (Serving.mk s.modelLoadingQueues nodes []).Grants loading := fun ⟨_, hmem⟩ =>
  absurd hmem (List.not_mem_nil)

/-- Each entry of the queues has a future of its own, the one its `allocate_resource` created. -/
def DistinctFutures (s : FcfsScheduler) : Prop :=
  ((gatheredRequests s).map fun loading => loading.request.future).Nodup

instance (s : FcfsScheduler) : Decidable (DistinctFutures s) :=
  inferInstanceAs (Decidable (List.Nodup _))

/-- **A pending request without target node is granted** exactly when its turn finds room. -/
theorem grants_serveLoop_iff (hfutures : DistinctFutures s) {loading : LoadingRequest}
    {nodes : NodeTable} {first last : List LoadingRequest}
    (hsplit : loadingRequests s = first ++ loading :: last)
    (hdone : loading.request.future ∉ done) (htargetless : loading.request.targetNodeId = none) :
    (serveLoop policy done s nodes).Grants loading ↔ Roomy policy loading.request.numGpus
      (first.foldl (serveUnlessDone policy done) ⟨s.modelLoadingQueues, nodes, []⟩).nodes := by
  have hmem : loading ∈ gatheredRequests s := by
    rw [← mem_loadingRequests_iff, hsplit]
    exact List.mem_append_right _ List.mem_cons_self
  have hother : ∀ l ∈ first ++ last, l.request.future ≠ loading.request.future := by
    have hnodup : ((loadingRequests s).map fun l => l.request.future).Nodup :=
      (((List.perm_insertionSort _ _).map _).nodup_iff).mpr hfutures
    rw [hsplit, List.map_append, List.map_cons, List.nodup_middle, ← List.map_append,
      List.nodup_cons] at hnodup
    exact fun l hl heq => hnodup.1 (List.mem_map.mpr ⟨l, hl, heq⟩)
  unfold serveLoop
  rw [hsplit, List.foldl_append, List.foldl_cons]
  set v := first.foldl (serveUnlessDone policy done) ⟨s.modelLoadingQueues, nodes, []⟩ with hv
  have htracks : v.Tracks loading :=
    foldl_serve (Serving.Tracks · loading) (tracks_start hmem nodes) fun _ h l _ => Tracks.serve h l
  have hfresh : ¬ v.Grants loading :=
    foldl_serve (¬ Serving.Grants · loading) (not_grants_start s nodes loading) fun _ h l hl =>
      (grants_serve_of_ne (hother l (List.mem_append_left _ hl))).not.mpr h
  constructor
  · intro hgrants
    by_contra hroom
    have hblocked : Blocked policy loading.request.numGpus v.nodes :=
      not_not.mp (not_blocked_iff.not.mpr hroom)
    rw [serve_of_blocked hblocked] at hgrants
    refine foldl_serve (¬ Serving.Grants · loading) hfresh (fun _ h l hl => ?_) hgrants
    exact (grants_serve_of_ne (hother l (List.mem_append_right _ hl))).not.mpr h
  · intro hroom
    exact foldl_serve (Serving.Grants · loading)
      (grants_serve_self htracks hdone htargetless hroom) fun _ h l _ => Grants.serve h l

/-- **The order suffices.** -/
theorem InOrder.firstComeFirstServed (h : InOrder s) (hfutures : DistinctFutures s)
    (policy : CandidatePolicy) (done : List ℕ) (nodes : NodeTable) :
    FirstComeFirstServed policy done s nodes := by
  intro l₁ h₁ l₂ h₂ hdone₁ hdone₂ hearlier hgrants
  obtain ⟨hpositive, hbetween⟩ := h l₁ h₁ l₂ h₂ hearlier
  rcases before_or_before h₁ h₂ hearlier.ne with hbefore | hbefore
  · obtain ⟨first, between, last, hsplit, hmem⟩ := exists_between h₁ h₂ hbefore
    have hsplit' : loadingRequests s = (first ++ l₁ :: between) ++ l₂ :: last := by
      rw [hsplit, List.append_assoc, List.cons_append]
    rw [grants_serveLoop_iff hfutures hsplit' hdone₂ hearlier.targetless₂, List.foldl_append,
      List.foldl_cons, ← hearlier.numGpus] at hgrants
    rw [grants_serveLoop_iff hfutures hsplit hdone₁ hearlier.targetless₁]
    -- what the earlier request does not fit on, nothing in between makes fit
    contrapose! hgrants
    rw [← not_blocked_iff, not_not] at hgrants ⊢
    refine foldl_serve (fun w => Blocked policy l₁.request.numGpus w.nodes)
      (hgrants.serve (min_le_right _ _)) fun _ hblocked l hl => ?_
    obtain ⟨hl, hbefore₁, hbefore₂⟩ := hmem l hl
    exact hblocked.serve (hbetween l hl hbefore₁ hbefore₂)
  · obtain ⟨first, between, last, hsplit, -⟩ := exists_between h₂ h₁ hbefore
    have hsplit' : loadingRequests s = (first ++ l₂ :: between) ++ l₁ :: last := by
      rw [hsplit, List.append_assoc, List.cons_append]
    have hnonpos : l₁.request.numGpus ≤ 0 := by
      by_contra hpos
      exact (hpositive (not_le.mp hpos)).asymm hbefore
    rw [grants_serveLoop_iff hfutures hsplit hdone₂ hearlier.targetless₂, ← hearlier.numGpus]
      at hgrants
    rw [grants_serveLoop_iff hfutures hsplit' hdone₁ hearlier.targetless₁, List.foldl_append,
      List.foldl_cons]
    exact foldl_serve (fun w => Roomy policy l₁.request.numGpus w.nodes)
      (hgrants.serve hnonpos l₂) fun _ hroom l _ => hroom.serve hnonpos l

/-! ## Only a few of the requests -/

/-- The futures of all other requests. -/
def futuresExcept (s : FcfsScheduler) (kept : List LoadingRequest) : List ℕ :=
  ((gatheredRequests s).map fun l => l.request.future).filter
    (· ∉ kept.map fun l => l.request.future)

variable {kept : List LoadingRequest}

theorem DistinctFutures.ne (hfutures : DistinctFutures s) {l₁ l₂ : LoadingRequest}
    (h₁ : l₁ ∈ gatheredRequests s) (h₂ : l₂ ∈ gatheredRequests s) (hne : l₁ ≠ l₂) :
    l₁.request.future ≠ l₂.request.future := fun heq =>
  hne (List.inj_on_of_nodup_map hfutures h₁ h₂ heq)

theorem mem_futuresExcept_iff (hfutures : DistinctFutures s)
    (hkept : ∀ l ∈ kept, l ∈ gatheredRequests s) {l : LoadingRequest}
    (hl : l ∈ gatheredRequests s) : l.request.future ∈ futuresExcept s kept ↔ l ∉ kept := by
  unfold futuresExcept
  rw [List.mem_filter, decide_eq_true_eq]
  constructor
  · exact fun h hmem => h.2 (List.mem_map_of_mem hmem)
  · refine fun h => ⟨List.mem_map_of_mem hl, fun hmem => ?_⟩
    obtain ⟨l', hl', heq⟩ := List.mem_map.mp hmem
    rw [List.inj_on_of_nodup_map hfutures (hkept l' hl') hl heq] at hl'
    exact h hl'

/-- When all others are done, the loop serves the rest. -/
theorem serveLoop_futuresExcept (hfutures : DistinctFutures s)
    (hkept : ∀ l ∈ kept, l ∈ gatheredRequests s) (hbefore : kept.Pairwise (Before s))
    (nodes : NodeTable) : serveLoop policy (futuresExcept s kept) s nodes =
      kept.foldl (serveUnlessDone policy (futuresExcept s kept))
        ⟨s.modelLoadingQueues, nodes, []⟩ := by
  have hpairwise := pairwise_loadingRequests s
  have hfilter : (loadingRequests s).filter (· ∈ kept) = kept := by
    have hperm : ((loadingRequests s).filter (· ∈ kept)).Perm kept := by
      have hnodup : (loadingRequests s).Nodup := hpairwise.imp Before.ne
      refine (List.perm_ext_iff_of_nodup (hnodup.filter _) (hbefore.imp Before.ne)).mpr fun l => ?_
      rw [List.mem_filter, decide_eq_true_eq, and_iff_right_iff_imp]
      exact fun hl => mem_loadingRequests_iff.mpr (hkept l hl)
    exact hperm.eq_of_pairwise (fun _ _ _ _ h h' => absurd h' h.asymm)
      (hpairwise.filter _) hbefore
  have hdone : ∀ l ∈ loadingRequests s, (l.request.future ∈ futuresExcept s kept ↔ l ∉ kept) :=
    fun l hl => mem_futuresExcept_iff hfutures hkept (mem_loadingRequests_iff.mp hl)
  unfold serveLoop
  generalize futuresExcept s kept = done at hdone ⊢
  conv_rhs => rw [← hfilter, List.foldl_filter]
  refine List.foldl_ext _ _ _ fun v l hl => ?_
  by_cases hmem : l ∈ kept
  · rw [if_pos (decide_eq_true hmem)]
  · rw [if_neg (by simpa using hmem), serveUnlessDone, if_neg (not_not.mpr ((hdone l hl).mpr hmem))]

/-- A table of one node. -/
def singleNode (node : String) (freeGpu : ℚ) : NodeTable :=
  OrderedDict.empty.set node ⟨.ready, freeGpu, freeGpu⟩

theorem get?_singleNode (node node' : String) (freeGpu : ℚ) : (singleNode node freeGpu).get? node' =
    if node = node' then some ⟨.ready, freeGpu, freeGpu⟩ else none := by
  unfold singleNode
  rw [OrderedDict.get?_set, OrderedDict.get?_empty]

theorem blocked_singleNode {node : String} {numGpus freeGpu : ℚ} :
    Blocked policy numGpus (singleNode node freeGpu) ↔ ¬ policy.fits numGpus freeGpu := by
  unfold Blocked
  constructor
  · exact fun h => h node ⟨.ready, freeGpu, freeGpu⟩ (by rw [get?_singleNode, if_pos rfl]) rfl
  · rintro h node' info hinfo -
    rw [get?_singleNode] at hinfo
    split_ifs at hinfo
    obtain rfl := Option.some.inj hinfo
    exact h

/-- What is left of the one node. -/
theorem serve_singleNode {node : String} {freeGpu : ℚ} {loading : LoadingRequest}
    (hnodes : v.nodes = singleNode node freeGpu)
    (hqueued : loading.request ∈ (v.queues.get? loading.modelName).getD [])
    (hdone : loading.request.future ∉ done)
    (htarget : loading.request.targetNodeId = none ∨ loading.request.targetNodeId = some node)
    (hfits : policy.fits loading.request.numGpus freeGpu) (numGpus : ℚ) :
    Blocked policy numGpus (serveUnlessDone policy done v loading).nodes ↔
      ¬ policy.fits numGpus (freeGpu - loading.request.numGpus) := by
  have hinfo : v.nodes.get? node = some ⟨.ready, freeGpu, freeGpu⟩ := by
    rw [hnodes, get?_singleNode, if_pos rfl]
  have hsome : (chooseNode policy.ranking v.nodes loading).isSome :=
    chooseNode_isSome.mpr ⟨node, _, hinfo, ⟨htarget, rfl, hfits.1⟩, hfits⟩
  obtain ⟨node', hnode'⟩ := Option.isSome_iff_exists.mp hsome
  obtain rfl : node = node' := by
    obtain ⟨info, hinfo', -⟩ := fits_of_chooseNode hnode'
    rw [hnodes, get?_singleNode] at hinfo'
    split_ifs at hinfo' with heq
    exact heq
  have hserved : (serveUnlessDone policy done v loading).nodes =
      addFreeGpu v.nodes node (-loading.request.numGpus) := by
    unfold serveUnlessDone serveRequest
    rw [if_pos hdone, hnode']
    dsimp only
    rw [if_pos hqueued]
  rw [hserved, sub_eq_add_neg]
  constructor
  · intro h
    refine h node ⟨.ready, freeGpu + -loading.request.numGpus, freeGpu⟩ ?_ rfl
    rw [get?_addFreeGpu, hinfo, Option.map_some, if_pos rfl]
  · rintro h node' info hinfo' -
    rw [get?_addFreeGpu, hnodes, get?_singleNode] at hinfo'
    split_ifs at hinfo' with heq
    · obtain rfl := Option.some.inj hinfo'
      exact h
    · exact absurd hinfo' (by simp)

/-- A node that one request of a size fills. -/
theorem exists_filled (policy : CandidatePolicy) {numGpus : ℚ} (hpos : 0 < numGpus) :
    ∃ freeGpu, policy.fits numGpus freeGpu ∧ ¬ policy.fits numGpus (freeGpu - numGpus) := by
  cases policy with
  | none =>
    refine ⟨numGpus, ⟨le_rfl, fun h => absurd h Bool.false_ne_true⟩, fun h => ?_⟩
    linarith [h.1]
  | some risk =>
    refine ⟨⌈numGpus⌉, CandidatePolicy.fits_ceil hpos.le, fun h => ?_⟩
    exact not_le_truncate hpos (sub_lt_self _ hpos) (h.2 rfl)

/-- A node that a request of negative size makes room on. -/
theorem exists_freed (policy : CandidatePolicy) {numGpus negative : ℚ}
    (h : negative < min 0 numGpus) : ∃ freeGpu,
    policy.fits negative freeGpu ∧ ¬ policy.fits numGpus freeGpu ∧
      policy.fits numGpus (freeGpu - negative) := by
  obtain ⟨hneg, hlt⟩ := lt_min_iff.mp h
  rcases le_or_gt numGpus 0 with hnonpos | hpos
  · refine ⟨negative, CandidatePolicy.fits_of_nonpos hneg.le le_rfl, fun hfits => ?_, ?_⟩
    · exact absurd hfits.1 (not_le.mpr hlt)
    · exact CandidatePolicy.fits_of_nonpos hnonpos (hnonpos.trans (sub_self negative).ge)
  · cases policy with
    | none =>
      refine ⟨numGpus + negative, CandidatePolicy.fits_of_nonpos hneg.le (by linarith),
        fun hfits => ?_, ?_⟩
      · linarith [hfits.1]
      · rw [add_sub_cancel_right]
        exact ⟨le_rfl, fun hsome => absurd hsome Bool.false_ne_true⟩
    | some risk =>
      have hle := Int.le_ceil numGpus
      refine ⟨⌈numGpus⌉ + negative, CandidatePolicy.fits_of_nonpos hneg.le (by linarith),
        fun hfits => ?_, ?_⟩
      · exact not_le_truncate hpos (add_lt_of_neg_right _ hneg) (hfits.2 rfl)
      · rw [add_sub_cancel_right]
        exact CandidatePolicy.fits_ceil hpos.le

/-- The later request fills the only node before the turn of the earlier comes. -/
theorem before_of_firstComeFirstServed (hfutures : DistinctFutures s)
    (h : ∀ done nodes, FirstComeFirstServed policy done s nodes) {l₁ l₂ : LoadingRequest}
    (h₁ : l₁ ∈ gatheredRequests s) (h₂ : l₂ ∈ gatheredRequests s) (hearlier : Earlier l₁ l₂)
    (hpos : 0 < l₁.request.numGpus) : Before s l₁ l₂ := by
  have hne : l₁ ≠ l₂ := hearlier.ne
  by_contra hwrong
  have hbefore : Before s l₂ l₁ := (before_or_before h₁ h₂ hne).resolve_left hwrong
  obtain ⟨freeGpu, hfits, hfull⟩ := exists_filled policy hpos
  let kept := [l₂, l₁]
  have hkept : ∀ l ∈ kept, l ∈ gatheredRequests s := by simp [kept, h₁, h₂]
  have hdone : ∀ l ∈ kept, l.request.future ∉ futuresExcept s kept := fun l hl =>
    (mem_futuresExcept_iff hfutures hkept (hkept l hl)).not.mpr (not_not.mpr hl)
  have hfcfs := h (futuresExcept s kept) (singleNode "" freeGpu) l₁ h₁ l₂ h₂
    (hdone l₁ (by simp [kept])) (hdone l₂ (by simp [kept])) hearlier
  rw [serveLoop_futuresExcept hfutures hkept (by simp [kept, hbefore]), List.foldl_cons,
    List.foldl_cons, List.foldl_nil] at hfcfs
  set start : Serving := ⟨s.modelLoadingQueues, singleNode "" freeGpu, []⟩
  have htracks : start.Tracks l₂ := tracks_start h₂ _
  have hqueued := htracks.resolve_right (not_grants_start s _ l₂)
  have hgranted : (serveUnlessDone policy (futuresExcept s kept) start l₂).Grants l₂ := by
    refine grants_serve_self htracks (hdone l₂ (by simp [kept])) hearlier.targetless₂ ?_
    rwa [← not_blocked_iff, blocked_singleNode, not_not, ← hearlier.numGpus]
  have hblocked : Blocked policy l₁.request.numGpus
      (serveUnlessDone policy (futuresExcept s kept) start l₂).nodes := by
    rw [serve_singleNode rfl hqueued (hdone l₂ (by simp [kept])) (.inl hearlier.targetless₂)
      (hearlier.numGpus ▸ hfits), ← hearlier.numGpus]
    exact hfull
  rw [serve_of_blocked hblocked, grants_serve_of_ne (hfutures.ne h₂ h₁ hne.symm)] at hfcfs
  exact not_grants_start s _ l₁ (hfcfs hgranted)

/-- A request between the two makes room on the only node. -/
theorem le_of_firstComeFirstServed (hfutures : DistinctFutures s)
    (h : ∀ done nodes, FirstComeFirstServed policy done s nodes) {l₁ l l₂ : LoadingRequest}
    (h₁ : l₁ ∈ gatheredRequests s) (h₂ : l₂ ∈ gatheredRequests s) (hearlier : Earlier l₁ l₂)
    (hl : l ∈ gatheredRequests s) (hbefore₁ : Before s l₁ l) (hbefore₂ : Before s l l₂) :
    min 0 l₁.request.numGpus ≤ l.request.numGpus := by
  have hne : l₁ ≠ l₂ := hearlier.ne
  by_contra! hnegative
  obtain ⟨freeGpu, hfits, hfull, hroom⟩ := exists_freed policy hnegative
  let kept := [l₁, l, l₂]
  let node := l.request.targetNodeId.getD ""
  have hkept : ∀ l ∈ kept, l ∈ gatheredRequests s := by simp [kept, h₁, h₂, hl]
  have hdone : ∀ l ∈ kept, l.request.future ∉ futuresExcept s kept := fun l hl =>
    (mem_futuresExcept_iff hfutures hkept (hkept l hl)).not.mpr (not_not.mpr hl)
  have hfcfs := h (futuresExcept s kept) (singleNode node freeGpu) l₁ h₁ l₂ h₂
    (hdone l₁ (by simp [kept])) (hdone l₂ (by simp [kept])) hearlier
  rw [serveLoop_futuresExcept hfutures hkept
    (by simp [kept, hbefore₁, hbefore₂, hbefore₁.trans hbefore₂]), List.foldl_cons,
    List.foldl_cons, List.foldl_cons, List.foldl_nil] at hfcfs
  set start : Serving := ⟨s.modelLoadingQueues, singleNode node freeGpu, []⟩
  have hblocked : Blocked policy l₁.request.numGpus start.nodes := blocked_singleNode.mpr hfull
  rw [serve_of_blocked hblocked] at hfcfs
  have hqueued := (tracks_start hl (singleNode node freeGpu)).resolve_right (not_grants_start s _ l)
  have htarget : l.request.targetNodeId = none ∨ l.request.targetNodeId = some node := by
    cases htarget : l.request.targetNodeId with
    | none => exact .inl rfl
    | some target => simp [node, htarget]
  have hroomy : Roomy policy l₂.request.numGpus
      (serveUnlessDone policy (futuresExcept s kept) start l).nodes := by
    rw [← not_blocked_iff, serve_singleNode rfl hqueued (hdone l (by simp [kept])) htarget hfits,
      not_not, ← hearlier.numGpus]
    exact hroom
  have hgranted := grants_serve_self (Tracks.serve (tracks_start h₂ _) l)
    (hdone l₂ (by simp [kept])) hearlier.targetless₂ hroomy
  rw [grants_serve_of_ne (hfutures.ne h₂ h₁ hne.symm),
    grants_serve_of_ne (hfutures.ne hl h₁ hbefore₁.ne.symm)] at hfcfs
  exact not_grants_start s _ l₁ (hfcfs hgranted)

/-- **First come, first served.**  Whatever the table of nodes and whatever futures are done, the
earlier of two requests is granted when the later is: exactly for queues that are in order. -/
theorem firstComeFirstServed_iff (policy : CandidatePolicy) (hfutures : DistinctFutures s) :
    (∀ done nodes, FirstComeFirstServed policy done s nodes) ↔ InOrder s :=
  ⟨fun h _ h₁ _ h₂ hearlier => ⟨before_of_firstComeFirstServed hfutures h h₁ h₂ hearlier,
      fun _ hl => le_of_firstComeFirstServed hfutures h h₁ h₂ hearlier hl⟩,
    fun h => h.firstComeFirstServed hfutures policy⟩

/-- Two queues of one request each, in the order of their models. -/
theorem firstComeFirstServed_twoModels :
    let s : FcfsScheduler := { modelLoadingQueues :=
      ⟨[("a", [⟨0, "a-0", 1, 0, none⟩]), ("b", [⟨1, "b-0", 1, 1, none⟩])], by decide⟩ }
    (∀ done nodes, FirstComeFirstServed none done s nodes) ↔ InOrder s :=
  firstComeFirstServed_iff none (by decide)

/-- The second request of the first model came before the only one of the other. -/
theorem not_firstComeFirstServed_unequalQueues :
    let s : FcfsScheduler := { modelLoadingQueues :=
      ⟨[("a", [⟨0, "a-0", 1, 0, none⟩, ⟨1, "a-1", 1, 1, none⟩]), ("b", [⟨2, "b-0", 1, 2, none⟩])],
        by decide⟩ }
    ¬ FirstComeFirstServed none [] s (singleNode "node" 2) := by
  intro s h
  have hgranted : (serveLoop none [] s (singleNode "node" 2)).granted =
      [⟨"a", ⟨0, "a-0", 1, 0, none⟩, "node"⟩, ⟨"b", ⟨2, "b-0", 1, 2, none⟩, "node"⟩] := by
    decide +kernel
  have hsecond := h ⟨"a", 1, ⟨1, "a-1", 1, 1, none⟩⟩ (by decide) ⟨"b", 0, ⟨2, "b-0", 1, 2, none⟩⟩
    (by decide) (by decide) (by decide) ⟨rfl, rfl, rfl, by decide⟩
  unfold Serving.Grants at hsecond
  rw [hgranted] at hsecond
  obtain ⟨node, hmem⟩ := hsecond ⟨"node", by decide⟩
  simp at hmem

end Scheduler
end SpotServe
