import Mathlib.Data.List.Basic

/-!
# Monitors

Threads that share a state under one mutex.  What a thread does from taking the mutex to releasing
it is a critical section: it turns a state into another one and signals condition variables.  A
thread that waits is parked at a condition variable until a predicate of the state holds.  A
`notify_all` marks the threads parked there; a marked thread wakes up, looks at its predicate, and
goes on or is parked again.

`NoLostWakeUp` says that no thread is parked unmarked while what it waits for holds.  It is kept by a
section that signals whatever it makes true (`Announces`, `NoLostWakeUp.notifyAll`), and by a thread
that looks before it waits (`NoLostWakeUp.park`).
-/

namespace Monitor

variable {σ ω κ : Type*}

/-- A thread that waits. -/
structure Parked (ω : Type*) where
  thread : ℕ
  wait : ω
  notified : Bool := false

/-- `notify_all`, for each of the condition variables. -/
def notifyAll [DecidableEq κ] (condVar : ω → κ) (signals : List κ) (parked : List (Parked ω)) :
    List (Parked ω) :=
  parked.map fun p => if condVar p.wait ∈ signals then { p with notified := true } else p

/-- No thread is parked without a notification while what it waits for holds. -/
def NoLostWakeUp (holds : σ → ω → Prop) (s : σ) (parked : List (Parked ω)) : Prop :=
  ∀ p ∈ parked, p.notified = false → ¬ holds s p.wait

/-- If a section makes true what is waited for, then it signals it. -/
def Announces (condVar : ω → κ) (holds : σ → ω → Prop) (s s' : σ) (signals : List κ) (w : ω) :
    Prop :=
  holds s' w → holds s w ∨ condVar w ∈ signals

variable {condVar : ω → κ} {holds : σ → ω → Prop} {s s' s'' : σ} {signals signals' : List κ}

theorem Announces.of_imp {w : ω} (h : holds s' w → holds s w) :
    Announces condVar holds s s' signals w := fun hw => .inl (h hw)

/-- One part of a section after the other. -/
theorem Announces.trans {w : ω} (h : Announces condVar holds s s' signals w)
    (h' : Announces condVar holds s' s'' signals' w) :
    Announces condVar holds s s'' (signals ++ signals') w := by
  intro hw
  rcases h' hw with hw | hmem
  · exact (h hw).imp_right fun hmem => List.mem_append_left _ hmem
  · exact .inr (List.mem_append_right _ hmem)

namespace NoLostWakeUp

variable {parked parked' : List (Parked ω)}

theorem nil : NoLostWakeUp holds s [] := fun _ hp => absurd hp List.not_mem_nil

theorem subset (h : NoLostWakeUp holds s parked) (hsub : parked' ⊆ parked) :
    NoLostWakeUp holds s parked' := fun p hp => h p (hsub hp)

/-- **The rule of a section.** -/
theorem notifyAll [DecidableEq κ] (h : NoLostWakeUp holds s parked)
    (hannounces : ∀ p ∈ parked, Announces condVar holds s s' signals p.wait) :
    NoLostWakeUp holds s' (Monitor.notifyAll condVar signals parked) := by
  intro p hp hnot
  obtain ⟨q, hq, rfl⟩ := List.mem_map.mp hp
  split_ifs at hnot ⊢ with hmem
  · exact fun hw => (hannounces q hq hw).elim (h q hq hnot) hmem

/-- **The rule of a wait**: the thread has looked. -/
theorem park (h : NoLostWakeUp holds s parked) (p : Parked ω) (hnot : ¬ holds s p.wait) :
    NoLostWakeUp holds s (parked ++ [p]) := by
  intro q hq
  rcases List.mem_append.mp hq with hq | hq
  · exact h q hq
  · rw [List.mem_singleton.mp hq]
    exact fun _ => hnot

/-- A thread that woke up, looked and waits again. -/
theorem set (h : NoLostWakeUp holds s parked) (i : ℕ) (p : Parked ω) (hnot : ¬ holds s p.wait) :
    NoLostWakeUp holds s (parked.set i p) := by
  intro q hq
  rcases List.mem_or_eq_of_mem_set hq with hq | rfl
  · exact h q hq
  · exact fun _ => hnot

end NoLostWakeUp

theorem thread_mem_notifyAll [DecidableEq κ] {parked : List (Parked ω)} {p : Parked ω}
    (h : p ∈ parked) (signals : List κ) :
    ∃ q ∈ notifyAll condVar signals parked, q.thread = p.thread ∧ q.wait = p.wait := by
  refine ⟨_, List.mem_map_of_mem h, ?_⟩
  split_ifs
  all_goals exact ⟨rfl, rfl⟩

end Monitor
