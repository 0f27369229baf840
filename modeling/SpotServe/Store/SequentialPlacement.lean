import Mathlib.Data.List.TakeWhile
import SpotServe.Store.BalancedPlacement

/-!
# The sequential placement

`_get_sequential_placement` keeps a module on the current device when the whole memory of the device
would hold it, whatever is there already.  So each device gets a run of modules, all that come
before the first one that is larger than the device.

* `placeInTurn_spec`: the loop places the runs, and ends in a `KeyError` when the devices run out.
* `fitsInRuns_iff`: when each run fits its device.
-/

namespace SpotServe
namespace Store
namespace DevicePlacement

open Py Splits

/-- The modules that come before the first one that is larger than the device. -/
def runOn (limit : ℤ) (entries : List (String × ℤ)) : List (String × ℤ) :=
  entries.takeWhile fun entry => entry.2 ≤ limit

/-- What is left behind the run. -/
def afterRun (limit : ℤ) (entries : List (String × ℤ)) : List (String × ℤ) :=
  entries.dropWhile fun entry => entry.2 ≤ limit

/-- The runs on the devices, from the current device on, of which there are so many. -/
def runsFrom (deviceMemory : GpuMemory) :
    ℕ → ℕ → List (String × ℤ) → Option (List (List String))
  | _, _, [] => some []
  | 0, _, _ :: _ => none
  | left + 1, currentDevice, entry :: rest => do
    let limit ← deviceMemory.get? currentDevice
    let runs ← runsFrom deviceMemory left (currentDevice + 1) (afterRun limit (entry :: rest))
    return (runOn limit (entry :: rest)).map Prod.fst :: runs

/-- Each device has room for its run, and no module is left over. -/
def FitsInRuns (deviceMemory : GpuMemory) : ℕ → ℕ → List (String × ℤ) → Prop
  | _, _, [] => True
  | 0, _, _ :: _ => False
  | left + 1, currentDevice, entry :: rest =>
    ∃ limit ∈ deviceMemory.get? currentDevice,
      (runOn limit (entry :: rest) ≠ [] →
        ((runOn limit (entry :: rest)).map Prod.snd).sum ≤ limit) ∧
      FitsInRuns deviceMemory left (currentDevice + 1) (afterRun limit (entry :: rest))

/-- The parts of the modules that have a device have room there. -/
def PartsFit (size : String → ℤ) (deviceMemory : GpuMemory) (start : ℕ)
    (parts : List (List String)) : Prop :=
  ∀ k part, parts[k]? = some part → part ≠ [] →
    ∃ limit, deviceMemory.get? (start + k) = some limit ∧ total size part ≤ limit

variable {deviceMemory : GpuMemory} {limit : ℤ} {entries : List (String × ℤ)}

theorem runOn_append_afterRun (limit : ℤ) (entries : List (String × ℤ)) :
    runOn limit entries ++ afterRun limit entries = entries := List.takeWhile_append_dropWhile

theorem le_of_mem_runOn {entry : String × ℤ} (h : entry ∈ runOn limit entries) :
    entry.2 ≤ limit := by
  have hle := List.mem_takeWhile_imp h
  exact of_decide_eq_true hle

/-- The runs are the modules in their order. -/
theorem flatten_runsFrom {left currentDevice : ℕ} {runs : List (List String)}
    (h : runsFrom deviceMemory left currentDevice entries = some runs) :
    runs.flatten = entries.map Prod.fst := by
  induction left generalizing currentDevice entries runs with
  | zero =>
    cases entries with
    | nil => exact Option.some.inj h ▸ rfl
    | cons entry rest => exact absurd h (by simp [runsFrom])
  | succ left ih =>
    cases entries with
    | nil => exact Option.some.inj h ▸ rfl
    | cons entry rest =>
      simp only [runsFrom, Option.bind_eq_bind, Option.bind_eq_some_iff, Option.pure_def,
        Option.some.injEq] at h
      obtain ⟨limit, -, runs', hruns', rfl⟩ := h
      rw [List.flatten_cons, ih hruns', ← List.map_append, runOn_append_afterRun]

/-- The size of a run, from its entries. -/
theorem total_map_fst {size : String → ℤ} (hsize : ∀ entry ∈ entries, size entry.1 = entry.2) :
    total size (entries.map Prod.fst) = (entries.map Prod.snd).sum := by
  rw [total, List.map_map]
  congr 1
  exact List.map_congr_left hsize

theorem partsFit_cons {size : String → ℤ} {start : ℕ} {part : List String}
    {parts : List (List String)} : PartsFit size deviceMemory start (part :: parts) ↔
      (part ≠ [] → ∃ limit, deviceMemory.get? start = some limit ∧ total size part ≤ limit) ∧
        PartsFit size deviceMemory (start + 1) parts := by
  constructor
  · intro h
    refine ⟨fun hne => h 0 part rfl hne, fun k part' hpart' hne => ?_⟩
    obtain ⟨limit, hlimit, hle⟩ := h (k + 1) part' hpart' hne
    exact ⟨limit, by rw [← hlimit]; congr 1; omega, hle⟩
  · rintro ⟨hpart, hparts⟩ k part' hpart' hne
    cases k with
    | zero =>
      obtain rfl := Option.some.inj hpart'
      exact hpart hne
    | succ k =>
      obtain ⟨limit, hlimit, hle⟩ := hparts k part' hpart' hne
      exact ⟨limit, by rw [← hlimit]; congr 1; omega, hle⟩

/-- **When the runs fit.** -/
theorem fitsInRuns_iff {size : String → ℤ} (left currentDevice : ℕ)
    (hsize : ∀ entry ∈ entries, size entry.1 = entry.2) :
    FitsInRuns deviceMemory left currentDevice entries ↔
      ∃ runs, runsFrom deviceMemory left currentDevice entries = some runs ∧
        PartsFit size deviceMemory currentDevice runs := by
  induction left generalizing currentDevice entries with
  | zero =>
    cases entries with
    | nil => exact iff_of_true trivial ⟨[], rfl, fun k part hpart => absurd hpart (by simp)⟩
    | cons entry rest => exact iff_of_false id (by simp [runsFrom])
  | succ left ih =>
    cases entries with
    | nil => exact iff_of_true trivial ⟨[], rfl, fun k part hpart => absurd hpart (by simp)⟩
    | cons entry rest =>
      have hrun : ∀ limit, ∀ e ∈ runOn limit (entry :: rest), size e.1 = e.2 := fun limit e he =>
        hsize e ((List.takeWhile_sublist _).subset he)
      have hafter : ∀ limit, ∀ e ∈ afterRun limit (entry :: rest), size e.1 = e.2 :=
        fun limit e he => hsize e ((List.dropWhile_sublist _).subset he)
      rw [FitsInRuns]
      constructor
      · rintro ⟨limit, hlimit, hfits, hrest⟩
        obtain ⟨runs, hruns, hparts⟩ := (ih (currentDevice + 1) (hafter limit)).mp hrest
        refine ⟨(runOn limit (entry :: rest)).map Prod.fst :: runs, ?_, partsFit_cons.mpr
          ⟨fun hne => ⟨limit, hlimit, ?_⟩, hparts⟩⟩
        · rw [runsFrom, Option.mem_def.mp hlimit]
          simp [hruns]
        · rw [total_map_fst (hrun limit)]
          exact hfits fun hnil => hne (by rw [hnil]; rfl)
      · rintro ⟨runs, hruns, hparts⟩
        simp only [runsFrom, Option.bind_eq_bind, Option.bind_eq_some_iff, Option.pure_def,
          Option.some.injEq] at hruns
        obtain ⟨limit, hlimit, runs', hruns', rfl⟩ := hruns
        obtain ⟨hpart, hparts⟩ := partsFit_cons.mp hparts
        refine ⟨limit, hlimit, fun hne => ?_,
          (ih (currentDevice + 1) (hafter limit)).mpr ⟨runs', hruns', hparts⟩⟩
        obtain ⟨limit', hlimit', hle⟩ := hpart fun hnil => hne (List.map_eq_nil_iff.mp hnil)
        rw [hlimit] at hlimit'
        obtain rfl := Option.some.inj hlimit'
        rw [← total_map_fst (hrun limit)]
        exact hle

/-! ## The loop -/

/-- The inner loop stops at once at a device that is large enough. -/
theorem nextDevice_of_le {size : ℤ} {currentDevice : ℕ}
    (hlimit : deviceMemory.get? currentDevice = some limit) (hle : size ≤ limit) (left : ℕ) :
    nextDevice deviceMemory size left currentDevice = .ok currentDevice := by
  cases left with
  | zero => rfl
  | succ left => simp only [nextDevice, hlimit, if_neg (not_lt.mpr hle)]

/-- A module that the device would hold stays on it. -/
theorem placeInTurn_of_le {entry : String × ℤ} {currentDevice : ℕ}
    (hlimit : deviceMemory.get? currentDevice = some limit) (hle : entry.2 ≤ limit)
    (rest : List (String × ℤ)) (placement : Placement) :
    placeInTurn deviceMemory currentDevice (entry :: rest) placement =
      placeInTurn deviceMemory currentDevice rest (placement.set entry.1 currentDevice) := by
  simp only [placeInTurn, nextDevice_of_le hlimit hle, bind, Except.bind, hlimit, if_pos hle]

/-- The run of a device is placed on it. -/
theorem placeInTurn_run {run : List (String × ℤ)} {currentDevice : ℕ}
    (hlimit : deviceMemory.get? currentDevice = some limit) (hrun : ∀ entry ∈ run, entry.2 ≤ limit)
    (rest : List (String × ℤ)) (placement : Placement) :
    placeInTurn deviceMemory currentDevice (run ++ rest) placement =
      placeInTurn deviceMemory currentDevice rest
        ((run.map fun entry => (entry.1, currentDevice)).foldl
          (fun placement entry => placement.set entry.1 entry.2) placement) := by
  induction run generalizing placement with
  | nil => rfl
  | cons entry run ih =>
    rw [List.cons_append, placeInTurn_of_le hlimit (hrun entry List.mem_cons_self),
      ih fun e he => hrun e (List.mem_cons_of_mem entry he)]
    rfl

/-- A module that the device would not hold moves on. -/
theorem placeInTurn_of_lt {entry : String × ℤ} {left currentDevice : ℕ}
    (hleft : currentDevice + (left + 1) = deviceMemory.keys.length)
    (hlimit : deviceMemory.get? currentDevice = some limit) (hlt : limit < entry.2)
    (rest : List (String × ℤ)) (placement : Placement) :
    placeInTurn deviceMemory currentDevice (entry :: rest) placement =
      placeInTurn deviceMemory (currentDevice + 1) (entry :: rest) placement := by
  have hcount : deviceMemory.keys.length - currentDevice = left + 1 := by omega
  have hcount' : deviceMemory.keys.length - (currentDevice + 1) = left := by omega
  simp only [placeInTurn, hcount, hcount', nextDevice, hlimit, if_pos hlt]

/-- A module behind a run is larger than the device. -/
theorem lt_of_afterRun_eq_cons {entry : String × ℤ} {rest : List (String × ℤ)}
    (h : afterRun limit entries = entry :: rest) : limit < entry.2 := by
  have hhead := List.head?_dropWhile_not (fun e : String × ℤ => decide (e.2 ≤ limit)) entries
  rw [show entries.dropWhile _ = entry :: rest from h] at hhead
  simpa using hhead

/-- The run of a device is placed on it, and the loop goes on with the next device. -/
theorem placeInTurn_succ {left currentDevice : ℕ}
    (hleft : currentDevice + (left + 1) = deviceMemory.keys.length)
    (hlimit : deviceMemory.get? currentDevice = some limit) (entries : List (String × ℤ))
    (placement : Placement) :
    placeInTurn deviceMemory currentDevice entries placement =
      placeInTurn deviceMemory (currentDevice + 1) (afterRun limit entries)
        (((runOn limit entries).map fun entry => (entry.1, currentDevice)).foldl
          (fun placement entry => placement.set entry.1 entry.2) placement) := by
  conv_lhs => rw [← runOn_append_afterRun limit entries]
  rw [placeInTurn_run hlimit fun entry => le_of_mem_runOn]
  cases hafter : afterRun limit entries with
  | nil => rw [placeInTurn, placeInTurn]
  | cons entry rest =>
    exact placeInTurn_of_lt hleft hlimit (lt_of_afterRun_eq_cons hafter) rest _

/-- When all numbers below `n` have a device, no other number has. -/
theorem get?_length_eq_none (hseen : ∀ k < deviceMemory.keys.length, k ∈ deviceMemory.keys) :
    deviceMemory.get? deviceMemory.keys.length = none := by
  rw [OrderedDict.get?_eq_none_iff]
  intro hin
  have hsubset : List.range (deviceMemory.keys.length + 1) ⊆ deviceMemory.keys := by
    intro k hk
    rcases Nat.lt_succ_iff_lt_or_eq.mp (List.mem_range.mp hk) with hlt | rfl
    · exact hseen k hlt
    · exact hin
  have hlength := (List.nodup_range.subperm hsubset).length_le
  rw [List.length_range] at hlength
  omega

/-- The entries of the runs, from the current device on. -/
def runEntries (currentDevice : ℕ) (runs : List (List String)) : List (String × ℕ) :=
  (runs.zipIdx currentDevice).flatMap fun run => run.1.map fun module => (module, run.2)

/-- **The loop places the runs**, and looks for a device that is not there when these run out. -/
theorem placeInTurn_spec {left currentDevice : ℕ}
    (hleft : currentDevice + left = deviceMemory.keys.length)
    (hseen : ∀ k < currentDevice, k ∈ deviceMemory.keys) (placement : Placement) :
    (∀ runs, runsFrom deviceMemory left currentDevice entries = some runs →
      placeInTurn deviceMemory currentDevice entries placement =
        .ok ((runEntries currentDevice runs).foldl
          (fun placement entry => placement.set entry.1 entry.2) placement)) ∧
      (runsFrom deviceMemory left currentDevice entries = none →
        placeInTurn deviceMemory currentDevice entries placement = .error .keyError) := by
  induction left generalizing currentDevice entries placement with
  | zero =>
    cases entries with
    | nil =>
      exact ⟨fun runs hruns => Option.some.inj hruns ▸ rfl,
        fun hruns => by simp [runsFrom] at hruns⟩
    | cons entry rest =>
      refine ⟨fun runs hruns => by simp [runsFrom] at hruns, fun _ => ?_⟩
      obtain rfl : currentDevice = deviceMemory.keys.length := hleft
      simp only [placeInTurn, Nat.sub_self, nextDevice, bind, Except.bind,
        get?_length_eq_none hseen]
  | succ left ih =>
    cases entries with
    | nil =>
      exact ⟨fun runs hruns => Option.some.inj hruns ▸ rfl,
        fun hruns => by simp [runsFrom] at hruns⟩
    | cons entry rest =>
      cases hlimit : deviceMemory.get? currentDevice with
      | none =>
        have hcount : deviceMemory.keys.length - currentDevice = left + 1 := by omega
        refine ⟨fun runs hruns => by simp [runsFrom, hlimit] at hruns, fun _ => ?_⟩
        simp only [placeInTurn, hcount, nextDevice, hlimit, bind, Except.bind]
      | some limit =>
        have hleft' : currentDevice + 1 + left = deviceMemory.keys.length := by omega
        have hseen' : ∀ k < currentDevice + 1, k ∈ deviceMemory.keys := by
          intro k hk
          rcases Nat.lt_succ_iff_lt_or_eq.mp hk with hlt | rfl
          · exact hseen k hlt
          · exact deviceMemory.mem_keys_iff.mpr ⟨limit, hlimit⟩
        rw [placeInTurn_succ hleft hlimit]
        refine ⟨fun runs hruns => ?_, fun hruns => (ih hleft' hseen' _).2 ?_⟩
        · simp only [runsFrom, Option.bind_eq_bind, Option.bind_eq_some_iff, Option.pure_def,
            Option.some.injEq, hlimit] at hruns
          obtain ⟨_, rfl, runs', hruns', rfl⟩ := hruns
          rw [(ih hleft' hseen' _).1 runs' hruns', runEntries, runEntries, List.zipIdx_cons,
            List.flatMap_cons, List.foldl_append, List.map_map]
          rfl
        · refine Option.eq_none_iff_forall_ne_some.mpr ?_
          simpa [runsFrom, hlimit] using hruns

/-- More devices than modules fail the assertion. -/
theorem getSequentialPlacement_of_lt {modules : ModuleSizes}
    (h : modules.keys.length < deviceMemory.keys.length) :
    getSequentialPlacement modules deviceMemory = .error .assertionError :=
  if_pos fun hboth => absurd hboth.2 (by omega)

/-- **What comes of the loop.** -/
theorem getSequentialPlacement_eq {modules : ModuleSizes} (hne : modules.keys ≠ [])
    (hdevices : deviceMemory.keys ≠ []) (hlength : deviceMemory.keys.length ≤ modules.keys.length) :
    (∀ runs, runsFrom deviceMemory deviceMemory.keys.length 0 modules.entries = some runs →
      getSequentialPlacement modules deviceMemory =
        .ok (some (placementOf (placementEntries runs)))) ∧
      (runsFrom deviceMemory deviceMemory.keys.length 0 modules.entries = none →
        getSequentialPlacement modules deviceMemory = .error .keyError) := by
  have hpos := List.length_pos_iff.mpr hne
  have hdevices := List.length_pos_iff.mpr hdevices
  have hzero : 0 + deviceMemory.keys.length = deviceMemory.keys.length := Nat.zero_add _
  have hseen : ∀ k < 0, k ∈ deviceMemory.keys := fun k hk => absurd hk (Nat.not_lt_zero k)
  have heq : getSequentialPlacement modules deviceMemory =
      (placeInTurn deviceMemory 0 modules.entries .empty).map some := by
    unfold getSequentialPlacement
    dsimp only
    rw [if_neg (not_not.mpr ⟨hpos, hlength⟩), if_neg (by omega)]
  rw [heq]
  refine ⟨fun runs hruns => ?_, fun hruns => ?_⟩
  · rw [(placeInTurn_spec hzero hseen _).1 runs hruns]
    rfl
  · rw [(placeInTurn_spec hzero hseen _).2 hruns]
    rfl

end DevicePlacement
end Store
end SpotServe
