import SpotServe.Reparallelization.RecoveryPlanner

/-!
# The estimates of a recovery

What the measurements of an accepted calibration say about the rows of a recovery.  Transition times
and latencies are checked, so the times of a transition are never negative, and neither is a service
that is averaged from latencies.  The service for another shape than the calibrated one is put
together from the times to the first token, which are not checked.

* `measured_of_validateCalibration`: what was measured.
* `service_nonneg`: the service for the calibrated shape.
* `plannerCost_recoveryRow`: what the planner compares is the completion and what the service is
  short of zero.
* `OverallOrderKept`: the estimates of a calibration whose order the planner's reading keeps.
-/

namespace SpotServe
namespace Reparallelization

open Py Runs Selection

variable {env : RouteCostEnvironment}

/-! ## Accepted calibrations -/

theorem measured_of_validateTraining {candidate : CalibratedCandidate}
    {training : String × SourceCase} (h : validateTraining env candidate training = .ok ()) :
    ∃ samples, candidate.cases.get? training.1 = some samples ∧
      ∀ row ∈ samples, 0 < row.latencyS := by
  rw [validateTraining] at h
  obtain ⟨-, -, h⟩ := of_bind_ok h
  obtain ⟨-, -, h⟩ := of_bind_ok h
  cases hsamples : candidate.cases.get? training.1 with
  | none =>
    rw [hsamples] at h
    exact absurd h (by simp)
  | some samples =>
    rw [hsamples] at h
    obtain ⟨-, -, h⟩ := of_bind_ok h
    refine ⟨samples, rfl, fun row hrow => ?_⟩
    obtain ⟨-, -, -, -, -, -, hlatency⟩ := require_eq_ok.mp h row hrow
    exact hlatency

theorem validateTraining_of_validateCandidate {protocol : Dict}
    {training : List (String × SourceCase)} {sharedRuntime mode : Option String}
    {candidate : CalibratedCandidate}
    (h : validateCandidate env protocol training sharedRuntime candidate = .ok mode)
    {entry : String × SourceCase} (hentry : entry ∈ training) :
    validateTraining env candidate entry = .ok () := by
  rw [validateCandidate] at h
  obtain ⟨_, -, h⟩ := of_bind_ok h
  obtain ⟨_, -, h⟩ := of_bind_ok h
  obtain ⟨_, -, h⟩ := of_bind_ok h
  obtain ⟨_, -, h⟩ := of_bind_ok h
  obtain ⟨_, -, h⟩ := of_bind_ok h
  obtain ⟨_, -, h⟩ := of_bind_ok h
  obtain ⟨_, -, h⟩ := of_bind_ok h
  obtain ⟨_, -, h⟩ := of_bind_ok h
  obtain ⟨_, -, h⟩ := of_bind_ok h
  obtain ⟨_, -, h⟩ := of_bind_ok h
  obtain ⟨_, -, h⟩ := of_bind_ok h
  obtain ⟨_, -, h⟩ := of_bind_ok h
  obtain ⟨_, hall, -⟩ := of_bind_ok h
  obtain ⟨_, -, hok⟩ := exists_of_mem_left (forall₂_of_mapM_ok hall) hentry
  exact hok

/-- **The measurements of an accepted calibration**: every candidate has them for every training
workload, and each took some time. -/
theorem measured_of_validateCalibration {data : CalibrationData}
    {training : List (String × SourceCase)} (h : validateCalibration env data = .ok training) :
    training = trainingCases data ∧ ∀ candidate ∈ data.candidates.values, ∀ entry ∈ training,
      ∃ samples, candidate.cases.get? entry.1 = some samples ∧
        ∀ row ∈ samples, 0 < row.latencyS := by
  rw [validateCalibration] at h
  obtain ⟨_, -, h⟩ := of_bind_ok h
  obtain ⟨_, -, h⟩ := of_bind_ok h
  obtain ⟨_, -, h⟩ := of_bind_ok h
  obtain ⟨_, -, h⟩ := of_bind_ok h
  obtain ⟨_, -, h⟩ := of_bind_ok h
  obtain ⟨_, -, h⟩ := of_bind_ok h
  obtain ⟨_, hcandidates, h⟩ := of_bind_ok h
  obtain rfl := Except.ok.inj h
  refine ⟨rfl, ?_⟩
  refine foldlM_of_ok (fun done _ => ∀ candidate ∈ done, ∀ entry ∈ trainingCases data,
    ∃ samples, candidate.cases.get? entry.1 = some samples ∧ ∀ row ∈ samples, 0 < row.latencyS)
    ?_ (fun candidate hcandidate => absurd hcandidate List.not_mem_nil) hcandidates
  intro done candidate rest shared mode _ hdone hstep other hother entry hentry
  rcases List.mem_append.mp hother with hother | hother
  · exact hdone other hother entry hentry
  · rw [List.mem_singleton.mp hother]
    exact measured_of_validateTraining (validateTraining_of_validateCandidate hstep hentry)

/-! ## Averages -/

theorem mean_nonneg {values : List ℚ} (h : ∀ value ∈ values, 0 ≤ value) : 0 ≤ mean values :=
  div_nonneg (List.sum_nonneg h) (Nat.cast_nonneg _)

theorem weightedMean_nonneg {ids : List (String × ℚ)} {value : String → ℚ}
    (h : ∀ id ∈ ids, 0 ≤ value id.1 ∧ 0 ≤ id.2) : 0 ≤ weightedMean ids value := by
  refine div_nonneg (List.sum_nonneg fun term hterm => ?_) (List.sum_nonneg fun term hterm => ?_)
  · obtain ⟨id, hid, rfl⟩ := List.mem_map.mp hterm
    exact mul_nonneg (h id hid).1 (h id hid).2
  · obtain ⟨id, hid, rfl⟩ := List.mem_map.mp hterm
    exact (h id hid).2

theorem transitionTime?_nonneg {value : Value} {time : ℚ} (h : transitionTime? value = some time) :
    0 ≤ time := by
  unfold transitionTime? at h
  split at h
  · split_ifs at h with hneg
    obtain rfl := Option.some.inj h
    exact_mod_cast not_lt.mp hneg
  · split_ifs at h with hneg
    obtain rfl := Option.some.inj h
    exact not_lt.mp hneg
  · exact absurd h (by simp)

/-- A transition takes no negative time. -/
theorem meanTransition_nonneg (candidate : CalibratedCandidate) (time : ReadySample → Value) :
    0 ≤ candidate.meanTransition time := by
  refine mean_nonneg fun value hvalue => ?_
  obtain ⟨row, -, rfl⟩ := List.mem_map.mp hvalue
  cases htime : transitionTime? (time row) with
  | none => exact le_rfl
  | some q => exact transitionTime?_nonneg htime

/-- Measured times that are not negative have no negative mean. -/
theorem meanMs_nonneg {candidate : CalibratedCandidate} {time : CaseRow → ℚ} {key : String}
    (h : ∀ samples ∈ candidate.cases.get? key, ∀ row ∈ samples, 0 ≤ time row) :
    0 ≤ candidate.meanMs time key := by
  refine mul_nonneg (by norm_num) (mean_nonneg fun value hvalue => ?_)
  obtain ⟨row, hrow, rfl⟩ := List.mem_map.mp hvalue
  cases hsamples : candidate.cases.get? key with
  | none =>
    rw [hsamples] at hrow
    exact absurd hrow List.not_mem_nil
  | some samples =>
    rw [hsamples] at hrow
    exact h samples hsamples row hrow

/-- A service for any shape, from first tokens and steps that took no negative time. -/
theorem scaled_nonneg {candidate : CalibratedCandidate} {frozen : FrozenRequest}
    {weights : List (String × ℚ)} (hremaining : 0 < frozen.remainingTokens)
    (hweights : ∀ id ∈ weights, 0 ≤ id.2)
    (httfts : ∀ id ∈ weights, 0 ≤ candidate.ttfts id.1)
    (hsteps : ∀ id ∈ weights, 0 ≤ candidate.steps id.1) :
    0 ≤ candidate.scaled frozen weights := by
  have hone : (1 : ℚ) ≤ frozen.remainingTokens := by exact_mod_cast hremaining
  have hfirst : 0 ≤ weightedMean weights candidate.ttfts :=
    weightedMean_nonneg fun id hid => ⟨httfts id hid, hweights id hid⟩
  have hstep : 0 ≤ weightedMean weights candidate.steps :=
    weightedMean_nonneg fun id hid => ⟨hsteps id hid, hweights id hid⟩
  exact add_nonneg (div_nonneg (mul_nonneg hfirst (Nat.cast_nonneg _)) (by norm_num))
    (mul_nonneg hstep (sub_nonneg.mpr hone))

/-! ## Weights -/

theorem mem_neighbourWeights {found : List (ℚ × String)} {id : String × ℚ}
    (h : id ∈ neighbourWeights found) : id.1 ∈ found.map Prod.snd ∧ 0 < id.2 := by
  obtain ⟨neighbour, hneighbour, rfl⟩ := List.mem_map.mp h
  constructor
  · rw [chosenNeighbours] at hneighbour
    split_ifs at hneighbour
    · exact List.mem_map_of_mem (List.mem_of_mem_take hneighbour)
    · exact List.mem_map_of_mem (List.mem_filter.mp hneighbour).1
  · show 0 < if exactNeighbours found = [] then 1 / max neighbour.1 (1 / 10 ^ 6) else 1
    split_ifs
    · exact one_div_pos.mpr (lt_max_of_lt_right (by norm_num))
    · norm_num

/-- The neighbours are training workloads. -/
theorem mem_routeNeighbours {training : List (String × SourceCase)} {sourceCase : SourceCase}
    {signal : String} {seed : ℕ} {found : List (ℚ × String)}
    (h : routeNeighbours env training sourceCase signal seed = .ok found) {key : String}
    (hkey : key ∈ found.map Prod.snd) : key ∈ training.map Prod.fst := by
  rw [routeNeighbours] at h
  obtain ⟨query, -, h⟩ := of_bind_ok h
  obtain ⟨_, -, h⟩ := of_bind_ok h
  obtain ⟨vectors, -, h⟩ := of_bind_ok h
  obtain rfl := Except.ok.inj h
  obtain ⟨neighbour, hneighbour, rfl⟩ := List.mem_map.mp hkey
  obtain ⟨pair, hpair, rfl⟩ := List.mem_map.mp ((List.mem_insertionSort _).mp hneighbour)
  exact (List.of_mem_zip hpair).2

/-! ## Rows -/

/-- The entry of a candidate as a row. -/
def candidateRow (training : List String) (frozen : FrozenRequest) (signal : String)
    (variableShape moeAware : Bool) (found : List (ℚ × String)) (residentGroups : List (List ℤ))
    (entry : String × CalibratedCandidate) : RecoveryRow :=
  recoveryRow moeAware residentGroups
    (predictionFor training frozen signal variableShape found entry)

/-- What predictions come from: an accepted calibration, a shape in bounds, and the neighbours. -/
theorem predictCandidates_spec {data : CalibrationData} {sourceCase : SourceCase}
    {signal : String} {seed : ℕ} {variableShape : Bool} {predictions : List Prediction}
    (h : predictCandidates env data sourceCase signal seed variableShape = .ok predictions) :
    validateCalibration env data = .ok (trainingCases data) ∧
      validateShape sourceCase.frozen variableShape = .ok () ∧
      ∃ found, routeNeighbours env (trainingCases data) sourceCase signal seed = .ok found ∧
        data.candidates.entries.mapM (predictCandidate ((trainingCases data).map Prod.fst)
          sourceCase.frozen signal variableShape found) = .ok predictions := by
  rw [predictCandidates] at h
  obtain ⟨training, htraining, h⟩ := of_bind_ok h
  obtain ⟨rfl, -⟩ := measured_of_validateCalibration htraining
  obtain ⟨_, -, h⟩ := of_bind_ok h
  obtain ⟨_, -, h⟩ := of_bind_ok h
  obtain ⟨_, -, h⟩ := of_bind_ok h
  obtain ⟨_, hshape, h⟩ := of_bind_ok h
  obtain ⟨found, hfound, h⟩ := of_bind_ok h
  exact ⟨htraining, hshape, found, hfound, h⟩

/-- The rows are those of the candidates whose group may be taken. -/
theorem recoveryRows_eq {data : CalibrationData} {training : List String} {frozen : FrozenRequest}
    {signal : String} {variableShape : Bool} {found : List (ℚ × String)}
    {predictions : List Prediction}
    (h : data.candidates.entries.mapM
      (predictCandidate training frozen signal variableShape found) = .ok predictions)
    (kind : RecoveryKind) (moeAware : Bool) (available : List ℤ)
    (residentGroups : List (List ℤ)) :
    recoveryRows kind moeAware available residentGroups predictions =
      (data.candidates.entries.filter fun entry =>
        usableGroup kind available entry.2.physicalGpuIndices).map
          (candidateRow training frozen signal variableShape moeAware found residentGroups) := by
  have hprediction : ∀ entry prediction, predictCandidate training frozen signal variableShape found
      entry = .ok prediction →
        prediction = predictionFor training frozen signal variableShape found entry := by
    intro entry prediction hprediction
    obtain ⟨_, -, hprediction⟩ := of_bind_ok hprediction
    exact (Except.ok.inj hprediction).symm
  rw [recoveryRows, eq_map_of_mapM_ok hprediction h, List.filter_map, List.map_map]
  rfl

/-- **What the planner compares**: the completion, and what the service is short of zero. -/
theorem plannerCost_recoveryRow (moeAware : Bool) (residentGroups : List (List ℤ))
    {prediction : Prediction} (hready : 0 ≤ prediction.engineReadyMs)
    (hhandoff : 0 ≤ prediction.hostHandoffMs) :
    plannerCost (recoveryRow moeAware residentGroups prediction) =
      (recoveryRow moeAware residentGroups prediction).predictedCompletionMs +
        max 0 (-(recoveryRow moeAware residentGroups prediction).selectedServiceMs) := by
  have hcost : 0 ≤ (recoveryRow moeAware residentGroups prediction).engineReadyCostMs := by
    rw [recoveryRow]
    dsimp only
    split_ifs
    · exact le_rfl
    · exact hready
  have hsum : (recoveryRow moeAware residentGroups prediction).predictedCompletionMs =
      (recoveryRow moeAware residentGroups prediction).engineReadyCostMs +
        prediction.hostHandoffMs +
          (recoveryRow moeAware residentGroups prediction).selectedServiceMs := rfl
  have hmax : ∀ service : ℚ, max 0 service = service + max 0 (-service) := by
    intro service
    rcases le_total 0 service with h | h
    · rw [max_eq_right h, max_eq_left (neg_nonpos.mpr h), add_zero]
    · rw [max_eq_left h, max_eq_right (neg_nonneg.mpr h), add_neg_cancel]
  rw [plannerCost, max_eq_right hcost, hsum, hmax,
    show max 0 (recoveryRow moeAware residentGroups prediction).hostHandoffMs =
      prediction.hostHandoffMs from max_eq_right hhandoff]
  ring

/-- **The service for the calibrated shape** is not negative: the latencies were checked. -/
theorem service_nonneg {data : CalibrationData} {sourceCase : SourceCase} {signal : String}
    {seed : ℕ} {moeAware : Bool} {found : List (ℚ × String)}
    (hdata : validateCalibration env data = .ok (trainingCases data))
    (hfound : routeNeighbours env (trainingCases data) sourceCase signal seed = .ok found)
    {entry : String × CalibratedCandidate} (hentry : entry ∈ data.candidates.entries)
    (residentGroups : List (List ℤ)) :
    0 ≤ (candidateRow ((trainingCases data).map Prod.fst) sourceCase.frozen signal false moeAware
      found residentGroups entry).selectedServiceMs := by
  obtain ⟨-, hmeasured⟩ := measured_of_validateCalibration hdata
  have hmeans : ∀ key ∈ (trainingCases data).map Prod.fst, 0 ≤ entry.2.means key := by
    intro key hkey
    obtain ⟨training, htraining, rfl⟩ := List.mem_map.mp hkey
    obtain ⟨samples, hsamples, hpos⟩ :=
      hmeasured entry.2 (List.mem_map_of_mem hentry) training htraining
    refine meanMs_nonneg fun found hfound row hrow => ?_
    obtain rfl := Option.some.inj (hfound.symm.trans hsamples)
    exact (hpos row hrow).le
  have hgeneric : 0 ≤ entry.2.genericService ((trainingCases data).map Prod.fst)
      sourceCase.frozen false := by
    refine mean_nonneg fun value hvalue => ?_
    obtain ⟨key, hkey, rfl⟩ := List.mem_map.mp hvalue
    exact hmeans key hkey
  have hroute : 0 ≤ entry.2.routeService (neighbourWeights found) sourceCase.frozen false := by
    refine weightedMean_nonneg fun id hid => ?_
    obtain ⟨hkey, hpos⟩ := mem_neighbourWeights hid
    exact ⟨hmeans id.1 (mem_routeNeighbours hfound hkey), hpos.le⟩
  rw [candidateRow, recoveryRow]
  dsimp only
  rw [predictionFor]
  dsimp only
  split_ifs
  · exact hgeneric
  · exact hroute
  · exact hgeneric

/-! ## Estimates for any shape -/

/-- What completing on a group is estimated at: the transition, and the service after it. -/
structure Estimate where
  transitionMs : ℚ
  serviceMs : ℚ

/-- The whole of an estimate. -/
def Estimate.completionMs (estimate : Estimate) : ℚ := estimate.transitionMs + estimate.serviceMs

/-- What the service is short of zero. -/
def Estimate.shortfallMs (estimate : Estimate) : ℚ := max 0 (-estimate.serviceMs)

/-- The order of two estimates is that of their completions still when each service that is negative
is read as zero.  Where the two come out the same, the second is taken for the smaller. -/
def Estimate.OrderKept (one two : Estimate) : Prop :=
  (one.completionMs < two.completionMs →
    one.completionMs + one.shortfallMs < two.completionMs + two.shortfallMs) ∧
  (two.completionMs < one.completionMs →
    two.completionMs + two.shortfallMs ≤ one.completionMs + one.shortfallMs)

/-- The estimate for a candidate, from its measurements and the training workloads' weights. -/
def CalibratedCandidate.estimate (candidate : CalibratedCandidate) (frozen : FrozenRequest)
    (weights : List (String × ℚ)) (residentGroups : List (List ℤ)) : Estimate where
  transitionMs :=
    (if residentGroups.contains candidate.physicalGpuIndices then 0
      else candidate.meanTransition ReadySample.readyMs) +
        candidate.meanTransition ReadySample.hostHandoffMs
  serviceMs := candidate.scaled frozen weights

/-- The estimates for the candidates of a tensor-parallel size whose group may be taken. -/
def overallEstimates (data : CalibrationData) (frozen : FrozenRequest)
    (weights : List (String × ℚ)) (available : List ℤ) (residentGroups : List (List ℤ))
    (size : ℕ) : List Estimate :=
  (data.candidates.values.filter fun candidate =>
    candidate.tp = size ∧ usableGroup .overall available candidate.physicalGpuIndices = true).map
      fun candidate => candidate.estimate frozen weights residentGroups

/-- The weights of the training workloads: those of the neighbours, or all the same. -/
def overallWeights (env : RouteCostEnvironment) (data : CalibrationData) (sourceCase : SourceCase)
    (moeAware : Bool) (signal : String) : Except RouteCostError (List (String × ℚ)) :=
  if moeAware = true ∧ signal ≠ "removed" then
    (routeNeighbours env (trainingCases data) sourceCase signal 20260914).map neighbourWeights
  else .ok ((trainingCases data).map fun entry => (entry.1, 1))

/-- **The condition on a calibration**: of the candidates of one GPU and of those of two, the ones
that complete first keep their order when a negative service is read as zero. -/
def OverallOrderKept (env : RouteCostEnvironment) (data : CalibrationData) (sourceCase : SourceCase)
    (moeAware : Bool) (available : List ℤ) (residentGroups : List (List ℤ)) (signal : String) :
    Prop :=
  ∀ weights, overallWeights env data sourceCase moeAware signal = .ok weights →
    ∀ one ∈ best Estimate.completionMs
      (overallEstimates data sourceCase.frozen weights available residentGroups 1),
    ∀ two ∈ best Estimate.completionMs
      (overallEstimates data sourceCase.frozen weights available residentGroups 2),
    one.OrderKept two

/-- Services that are not negative are read as they are. -/
theorem Estimate.orderKept_of_nonneg {one two : Estimate} (hone : 0 ≤ one.serviceMs)
    (htwo : 0 ≤ two.serviceMs) : one.OrderKept two := by
  rw [OrderKept, shortfallMs, shortfallMs, max_eq_left (neg_nonpos.mpr hone),
    max_eq_left (neg_nonpos.mpr htwo), add_zero, add_zero]
  exact ⟨id, le_of_lt⟩

/-- Weights that are not negative of training workloads. -/
theorem overallWeights_spec {data : CalibrationData} {sourceCase : SourceCase} {moeAware : Bool}
    {signal : String} {weights : List (String × ℚ)}
    (h : overallWeights env data sourceCase moeAware signal = .ok weights) :
    ∀ id ∈ weights, id.1 ∈ (trainingCases data).map Prod.fst ∧ 0 ≤ id.2 := by
  intro id hid
  rw [overallWeights] at h
  split_ifs at h
  · obtain ⟨found, hfound, rfl⟩ := of_map_ok h
    obtain ⟨hkey, hpos⟩ := mem_neighbourWeights hid
    exact ⟨mem_routeNeighbours hfound hkey, hpos.le⟩
  · obtain rfl := Except.ok.inj h
    obtain ⟨entry, hentry, rfl⟩ := List.mem_map.mp hid
    exact ⟨List.mem_map_of_mem hentry, zero_le_one⟩

/-- **Where the first tokens took time**, the estimates keep their order: had the times to the first
token been checked as the latencies are, no service would be negative. -/
theorem overallOrderKept_of_ttftS_nonneg {data : CalibrationData} {sourceCase : SourceCase}
    {moeAware : Bool} {signal : String} {seed : ℕ} {predictions : List Prediction}
    (h : predictCandidates env data sourceCase (if moeAware then signal else "removed") seed true =
      .ok predictions)
    (httft : ∀ candidate ∈ data.candidates.values, ∀ samples ∈ candidate.cases.values,
      ∀ row ∈ samples, 0 ≤ row.ttftS)
    (available : List ℤ) (residentGroups : List (List ℤ)) :
    OverallOrderKept env data sourceCase moeAware available residentGroups signal := by
  obtain ⟨-, hshape, found, -, hall⟩ := predictCandidates_spec h
  obtain ⟨-, ⟨hremaining, -⟩, -⟩ := require_eq_ok.mp hshape
  intro weights hweights one hone two htwo
  have hservice : ∀ size, ∀ estimate ∈ overallEstimates data sourceCase.frozen weights available
      residentGroups size, 0 ≤ estimate.serviceMs := by
    intro size estimate hestimate
    obtain ⟨candidate, hcandidate, rfl⟩ := List.mem_map.mp hestimate
    have hcandidate := (List.mem_filter.mp hcandidate).1
    obtain ⟨entry, hentry, rfl⟩ := List.mem_map.mp hcandidate
    obtain ⟨prediction, -, hprediction⟩ := exists_of_mem_left (forall₂_of_mapM_ok hall) hentry
    obtain ⟨_, hsteps, -⟩ := of_bind_ok hprediction
    have hsteps := require_eq_ok.mp hsteps rfl
    refine scaled_nonneg hremaining (fun id hid => (overallWeights_spec hweights id hid).2)
      (fun id hid => ?_) (fun id hid => (hsteps id.1 (overallWeights_spec hweights id hid).1).le)
    exact meanMs_nonneg fun samples hsamples => httft entry.2 hcandidate samples
      ((OrderedDict.mem_values_iff _).mpr ⟨id.1, hsamples⟩)
  exact Estimate.orderKept_of_nonneg (hservice 1 one (mem_of_best hone))
    (hservice 2 two (mem_of_best htwo))

end Reparallelization
end SpotServe
