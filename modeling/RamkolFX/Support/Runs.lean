import Mathlib.Data.List.Forall2
import Mathlib.Data.List.Infix
import Mathlib.Data.List.Induction

/-!
# Properties of runs

A run is the list of events so far, the latest one last.  A property can hold
after every part of a run (`Throughout`), and every event of a run can meet a
condition on what came before it (`AtEachEvent`).  When, in a run that was
good so far, the next event keeps it good exactly if it meets the condition,
the two agree on whole runs.
-/

namespace Support

variable {ε : Type*} {Good : List ε → Prop} {Meets : List ε → ε → Prop}

/-- `Good` holds initially and after every event of the run. -/
def Throughout (Good : List ε → Prop) (run : List ε) : Prop :=
  ∀ past, past <+: run → Good past

/-- Every event of the run, at its position, meets the condition. -/
def AtEachEvent (Meets : List ε → ε → Prop) (run : List ε) : Prop :=
  ∀ past event, past ++ [event] <+: run → Meets past event

theorem Throughout.last {run : List ε} (h : Throughout Good run) : Good run :=
  h run (List.prefix_refl run)

theorem throughout_nil : Throughout Good [] ↔ Good [] := by
  constructor
  · exact Throughout.last
  · intro h past hpast
    rwa [List.prefix_nil.mp hpast]

theorem throughout_concat (run : List ε) (event : ε) :
    Throughout Good (run ++ [event]) ↔
      Throughout Good run ∧ Good (run ++ [event]) := by
  constructor
  · intro h
    refine ⟨fun past hpast => ?_, h.last⟩
    exact h past (hpast.trans (List.prefix_append run [event]))
  · rintro ⟨hrun, hlast⟩ past hpast
    rcases List.prefix_concat_iff.mp hpast with rfl | h
    · exact hlast
    · exact hrun past h

theorem atEachEvent_nil : AtEachEvent Meets [] := by
  intro past event h
  simp at h

theorem atEachEvent_concat (run : List ε) (event : ε) :
    AtEachEvent Meets (run ++ [event]) ↔
      AtEachEvent Meets run ∧ Meets run event := by
  constructor
  · intro h
    refine ⟨fun past e hpast => ?_, h run event (List.prefix_refl _)⟩
    exact h past e (hpast.trans (List.prefix_append run [event]))
  · rintro ⟨hrun, hlast⟩ past e hpast
    rcases List.prefix_concat_iff.mp hpast with heq | h
    · obtain ⟨rfl, he⟩ := List.append_inj' heq rfl
      obtain rfl : e = event := by simpa using he
      exact hlast
    · exact hrun past e h

/-- A condition on the event alone. -/
theorem atEachEvent_iff_forall_mem {P : ε → Prop} (run : List ε) :
    AtEachEvent (fun _ event => P event) run ↔ ∀ event ∈ run, P event := by
  induction run using List.reverseRecOn with
  | nil => simp [atEachEvent_nil]
  | append_singleton run event ih =>
      rw [atEachEvent_concat, ih]
      simp [or_imp, forall_and]

/-- If, as long as a run is good, the next event keeps it good exactly when it
meets the condition, then a run is good throughout exactly when each of its
events meets the condition. -/
theorem throughout_iff_atEachEvent
    (hnil : Good [])
    (hstep : ∀ past event, Throughout Good past →
      (Good (past ++ [event]) ↔ Meets past event))
    (run : List ε) : Throughout Good run ↔ AtEachEvent Meets run := by
  induction run using List.reverseRecOn with
  | nil => exact ⟨fun _ => atEachEvent_nil, fun _ => throughout_nil.mpr hnil⟩
  | append_singleton run event ih =>
      rw [throughout_concat, atEachEvent_concat]
      constructor
      · rintro ⟨hrun, hlast⟩
        exact ⟨ih.mp hrun, (hstep run event hrun).mp hlast⟩
      · rintro ⟨hrun, hlast⟩
        have hgood := ih.mpr hrun
        exact ⟨hgood, (hstep run event hgood).mpr hlast⟩

/-! ## States along a run -/

section

variable {σ : Type*} {step : σ → ε → Option σ}

/-- The state a run leads to; `none` if some event of it fails. -/
def runFrom (step : σ → ε → Option σ) (s : σ) (run : List ε) : Option σ :=
  run.foldlM step s

@[simp] theorem runFrom_nil (s : σ) : runFrom step s [] = some s := rfl

theorem runFrom_concat (s : σ) (run : List ε) (event : ε) :
    runFrom step s (run ++ [event]) =
      (runFrom step s run).bind fun s => step s event := by
  simp [runFrom, List.foldlM_append]

theorem runFrom_singleton (s : σ) (event : ε) :
    runFrom step s [event] = step s event := by
  simp [runFrom]

/-- The next event of a run that came this far. -/
theorem runFrom_concat_of {s s' s'' : σ} {run : List ε} {event : ε}
    (hrun : runFrom step s run = some s') (hstep : step s' event = some s'') :
    runFrom step s (run ++ [event]) = some s'' := by
  rw [runFrom_concat, hrun, Option.bind_some, hstep]

/-- The state behind the next event is the one its step leads to. -/
theorem eq_of_runFrom_concat {s s' s'' after : σ} {run : List ε} {event : ε}
    (hrun : runFrom step s run = some s') (hstep : step s' event = some s'')
    (hafter : runFrom step s (run ++ [event]) = some after) : s'' = after :=
  Option.some.inj ((runFrom_concat_of hrun hstep).symm.trans hafter)

/-- A run in two pieces. -/
theorem exists_of_runFrom_append {s final : σ} {front back : List ε}
    (hrun : runFrom step s (front ++ back) = some final) :
    ∃ s', runFrom step s front = some s' ∧ runFrom step s' back = some final := by
  rw [runFrom, List.foldlM_append] at hrun
  exact Option.bind_eq_some_iff.mp hrun

theorem exists_of_runFrom_cons {s final : σ} {event : ε} {run : List ε}
    (hrun : runFrom step s (event :: run) = some final) :
    ∃ s', step s event = some s' ∧ runFrom step s' run = some final :=
  Option.bind_eq_some_iff.mp hrun

/-- Each event of a run that comes through takes place. -/
theorem exists_step_of_runFrom {s final : σ} {run past : List ε} {event : ε}
    (hrun : runFrom step s run = some final) (hpast : past ++ [event] <+: run) :
    ∃ s' s'', runFrom step s past = some s' ∧ step s' event = some s'' := by
  obtain ⟨rest, rfl⟩ := hpast
  obtain ⟨s'', hconcat, -⟩ := exists_of_runFrom_append hrun
  rw [runFrom_concat] at hconcat
  obtain ⟨s', hpast, hstep⟩ := Option.bind_eq_some_iff.mp hconcat
  exact ⟨s', s'', hpast, hstep⟩

/-- An invariant, which may speak of the events so far, holds after a run each
of whose events takes place under it and keeps it. -/
theorem runFrom_invariant (step : σ → ε → Option σ)
    (Inv : List ε → σ → Prop) {s : σ} (hinit : Inv [] s)
    (hkeep : ∀ past s' event, runFrom step s past = some s' → Inv past s' →
      Meets past event → ∃ s'', step s' event = some s'' ∧
        Inv (past ++ [event]) s'')
    {run : List ε} (h : AtEachEvent Meets run) :
    ∃ s', runFrom step s run = some s' ∧ Inv run s' := by
  induction run using List.reverseRecOn with
  | nil => exact ⟨s, rfl, hinit⟩
  | append_singleton run event ih =>
      obtain ⟨hrun, hlast⟩ := (atEachEvent_concat run event).mp h
      obtain ⟨s', hto, hinv⟩ := ih hrun
      obtain ⟨s'', hnext, hinv'⟩ := hkeep run s' event hto hinv hlast
      exact ⟨s'', runFrom_concat_of hto hnext, hinv'⟩

/-- Events that meet a condition can take place under the invariant and keep
it, the invariant makes a run good, and an event that keeps the run good meets
the condition: then the runs that are good throughout are the ones all of
whose events meet the condition. -/
theorem throughout_iff_of_invariant (step : σ → ε → Option σ)
    (Inv : List ε → σ → Prop) {s : σ} (hinit : Inv [] s)
    (hgood : ∀ past s', runFrom step s past = some s' → Inv past s' →
      Good past)
    (hkeep : ∀ past s' event, runFrom step s past = some s' → Inv past s' →
      Meets past event → ∃ s'', step s' event = some s'' ∧
        Inv (past ++ [event]) s'')
    (hmeets : ∀ past s' event, runFrom step s past = some s' → Inv past s' →
      Good (past ++ [event]) → Meets past event)
    (run : List ε) : Throughout Good run ↔ AtEachEvent Meets run := by
  induction run using List.reverseRecOn with
  | nil =>
      exact ⟨fun _ => atEachEvent_nil,
        fun _ => throughout_nil.mpr (hgood [] s rfl hinit)⟩
  | append_singleton run event ih =>
      rw [throughout_concat]
      constructor
      · rintro ⟨hrun, hlast⟩
        have hpast := ih.mp hrun
        obtain ⟨s', hto, hinv'⟩ := runFrom_invariant step Inv hinit hkeep hpast
        exact (atEachEvent_concat run event).mpr
          ⟨hpast, hmeets run s' event hto hinv' hlast⟩
      · intro h
        obtain ⟨s', hto, hinv'⟩ := runFrom_invariant step Inv hinit hkeep h
        exact ⟨ih.mpr ((atEachEvent_concat run event).mp h).1,
          hgood _ s' hto hinv'⟩

/-- The same for steps that always take place, with properties of the states
alone. -/
theorem throughout_foldl_iff {next : σ → ε → σ} (Inv : σ → Prop) {Ok : σ → Prop}
    {Keeps : σ → ε → Prop} {s : σ} (hinit : Inv s) (hok : ∀ s, Inv s → Ok s)
    (hkeep : ∀ s event, Inv s → Keeps s event → Inv (next s event))
    (hmeets : ∀ s event, Inv s → Ok (next s event) → Keeps s event)
    (run : List ε) :
    Throughout (fun past => Ok (past.foldl next s)) run ↔
      AtEachEvent (fun past event => Keeps (past.foldl next s) event) run := by
  refine throughout_iff_of_invariant (fun s event => some (next s event))
    (fun past s' => past.foldl next s = s' ∧ Inv s') ⟨rfl, hinit⟩ ?_ ?_ ?_ run
  · rintro past s' - ⟨rfl, hinv⟩
    exact hok _ hinv
  · rintro past s' event - ⟨rfl, hinv⟩ hkeeps
    exact ⟨_, rfl, List.foldl_concat .., hkeep _ event hinv hkeeps⟩
  · rintro past s' event - ⟨rfl, hinv⟩ hgood
    rw [List.foldl_concat] at hgood
    exact hmeets _ event hinv hgood

/-- Two runs whose events cannot be told apart by the steps they take, under an
invariant, lead to the same state. -/
theorem runFrom_eq_of_forall₂ (Inv : σ → Prop) {Same : ε → ε → Prop}
    (hkeep : ∀ s event s', Inv s → step s event = some s' → Inv s')
    (hsame : ∀ s event event', Inv s → Same event event' →
      step s event = step s event')
    {run run' : List ε} (h : List.Forall₂ Same run run') {s : σ}
    (hinit : Inv s) : runFrom step s run = runFrom step s run' := by
  induction h generalizing s with
  | nil => rfl
  | @cons event event' run run' hevent _ ih =>
      show (step s event).bind (fun s => runFrom step s run) =
        (step s event').bind fun s => runFrom step s run'
      rw [← hsame s event event' hinit hevent]
      cases hstep : step s event with
      | none => rfl
      | some s' => exact ih (hkeep s event s' hinit hstep)

end

end Support
