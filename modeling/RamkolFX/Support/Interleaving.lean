import RamkolFX.Support.Runs
import Mathlib.Logic.Function.Basic

/-!
# Interleavings

Any number of threads, each at some point of its code or not in flight, and
runs that take their steps in any order.
-/

namespace Support

/-- Where each thread is; `none` for one that is not in flight. -/
abbrev Threads (φ : Type*) := ℕ → Option φ

namespace Threads

variable {φ : Type*} {threads : Threads φ} {i j : ℕ} {phase : φ}

/-- No thread is in flight. -/
def Idle (threads : Threads φ) : Prop := ∀ i, threads i = none

/-- No thread but this one is in flight. -/
def OthersIdle (threads : Threads φ) (i : ℕ) : Prop :=
  ∀ j, j ≠ i → threads j = none

def start (threads : Threads φ) (i : ℕ) (phase : φ) : Threads φ :=
  Function.update threads i (some phase)

def finish (threads : Threads φ) (i : ℕ) : Threads φ :=
  Function.update threads i none

@[simp] theorem start_self : threads.start i phase i = some phase :=
  Function.update_self ..

@[simp] theorem finish_self : threads.finish i i = none :=
  Function.update_self ..

theorem start_of_ne (h : j ≠ i) : threads.start i phase j = threads j :=
  Function.update_of_ne h ..

theorem finish_of_ne (h : j ≠ i) : threads.finish i j = threads j :=
  Function.update_of_ne h ..

theorem not_idle_start : ¬ (threads.start i phase).Idle := by
  intro h
  exact absurd (h i) (by simp)

theorem idle_finish_iff : (threads.finish i).Idle ↔ threads.OthersIdle i := by
  constructor
  · intro h j hj
    exact (finish_of_ne hj).symm.trans (h j)
  · intro h j
    by_cases hj : j = i
    · rw [hj, finish_self]
    · rw [finish_of_ne hj]
      exact h j hj

/-- The last two threads in flight finish. -/
theorem idle_finish_finish (h : ∀ k, k ≠ i → k ≠ j → threads k = none) :
    ((threads.finish j).finish i).Idle := by
  rw [idle_finish_iff]
  intro k hi
  by_cases hj : k = j
  · rw [hj, finish_self]
  · rw [finish_of_ne hj]
    exact h k hi hj

/-- A phase after a thread has moved on is the new one or an old one. -/
theorem eq_or_of_start {phase' : φ} (h : threads.start i phase j = some phase') :
    phase' = phase ∨ threads j = some phase' := by
  by_cases hj : j = i
  · rw [hj, start_self] at h
    exact Or.inl (Option.some.inj h).symm
  · rw [start_of_ne hj] at h
    exact Or.inr h

theorem of_finish {phase' : φ} (h : threads.finish i j = some phase') :
    threads j = some phase' := by
  by_cases hj : j = i
  · rw [hj, finish_self] at h
    cases h
  · rwa [finish_of_ne hj] at h

end Threads

section

variable {σ ε : Type*} {step : σ → ε → Option σ}

/-- The condition on the next step, in the state that the steps so far lead
to. -/
def StepMeets (step : σ → ε → Option σ) (Meets : σ → ε → Prop) (s : σ)
    (past : List ε) (event : ε) : Prop :=
  ∀ s', runFrom step s past = some s' → Meets s' event

/-- The first step of a run, and the others from where it leads. -/
theorem stepMeets_cons {Meets : σ → ε → Prop} {s : σ} {event : ε} {run : List ε}
    (hfirst : Meets s event)
    (hrest : ∀ s', step s event = some s' →
      AtEachEvent (StepMeets step Meets s') run) :
    AtEachEvent (StepMeets step Meets s) (event :: run) := by
  intro past e hpast s' hrun
  cases past with
  | nil =>
      obtain rfl := Option.some.inj hrun
      obtain rfl : e = event := by simpa using hpast
      exact hfirst
  | cons first past =>
      obtain ⟨rfl, htail⟩ := List.cons_prefix_cons.mp hpast
      obtain ⟨between, hstep, hpast'⟩ := Option.bind_eq_some_iff.mp hrun
      exact hrest between hstep past e htail s' hpast'

/-- Conditions that agree in every state that is reached agree on whole runs. -/
theorem stepMeets_congr {P Q : σ → ε → Prop} {s : σ}
    (h : ∀ past s' event, runFrom step s past = some s' → (P s' event ↔ Q s' event))
    (run : List ε) :
    AtEachEvent (StepMeets step P s) run ↔ AtEachEvent (StepMeets step Q s) run := by
  constructor
  · intro hall past event hpast s' hreached
    exact (h past s' event hreached).mp (hall past event hpast s' hreached)
  · intro hall past event hpast s' hreached
    exact (h past s' event hreached).mpr (hall past event hpast s' hreached)

/-- Conditions that agree on every step taken agree on runs that come
through. -/
theorem stepMeets_congr_of_runFrom {P Q : σ → ε → Prop} {s final : σ}
    {run : List ε} (hrun : runFrom step s run = some final)
    (h : ∀ past s' event s'', runFrom step s past = some s' →
      step s' event = some s'' → (P s' event ↔ Q s' event)) :
    AtEachEvent (StepMeets step P s) run ↔ AtEachEvent (StepMeets step Q s) run := by
  have hagree : ∀ past event, past ++ [event] <+: run →
      (StepMeets step P s past event ↔ StepMeets step Q s past event) := by
    intro past event hpast
    obtain ⟨s', s'', hbefore, hstep⟩ := exists_step_of_runFrom hrun hpast
    refine forall₂_congr fun before hreached => ?_
    obtain rfl := Option.some.inj (hbefore.symm.trans hreached)
    exact h past s' event s'' hbefore hstep
  constructor
  · intro hall past event hpast
    exact (hagree past event hpast).mp (hall past event hpast)
  · intro hall past event hpast
    exact (hagree past event hpast).mpr (hall past event hpast)

/-- An invariant that every step meeting the condition keeps holds after every
run of such steps. -/
theorem invariant_of_stepMeets (Inv : σ → Prop) {Meets : σ → ε → Prop} {s : σ}
    (hinit : Inv s)
    (hkeep : ∀ s event s', Inv s → Meets s event → step s event = some s' →
      Inv s')
    {run : List ε} (hmeets : AtEachEvent (StepMeets step Meets s) run)
    {s' : σ} (hrun : runFrom step s run = some s') : Inv s' := by
  induction run using List.reverseRecOn generalizing s' with
  | nil =>
      obtain rfl := Option.some.inj hrun
      exact hinit
  | append_singleton run event ih =>
      obtain ⟨hpast, hlast⟩ := (atEachEvent_concat run event).mp hmeets
      rw [runFrom_concat] at hrun
      obtain ⟨before, hbefore, hstep⟩ := Option.bind_eq_some_iff.mp hrun
      exact hkeep before event s' (ih hpast hbefore) (hlast before hbefore) hstep

/-- An invariant that every step keeps holds after every run. -/
theorem invariant_of_runFrom (Inv : σ → Prop) {s : σ} (hinit : Inv s)
    (hkeep : ∀ s event s', Inv s → step s event = some s' → Inv s')
    {run : List ε} {s' : σ} (hrun : runFrom step s run = some s') : Inv s' := by
  have hmeets : AtEachEvent (StepMeets step (fun _ _ => True) s) run :=
    fun _ _ _ _ _ => trivial
  exact invariant_of_stepMeets Inv hinit
    (fun before event after hinv _ hstep => hkeep before event after hinv hstep)
    hmeets hrun

end

end Support
