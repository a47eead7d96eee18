import RamkolFX.Dsp.SlotRuns
import RamkolFX.Support.Interleaving

/-!
# The trash of a crossfading slot

Control handlers run one at a time.  Each of them calls `CollectGarbage` first
and then, when the new instance is built, publishes it; blocks may be
processed at any moment in between.  The two slots of the trash are enough for
two fades, but a third one can end before the next `CollectGarbage`: it then
stores into a slot that is not empty, and the audio thread drops what is in it.
-/

namespace RamkolFX

open Support

namespace CrossfadingSlot

variable {T ι α : Type} {c : ℕ}

/-- The next block, of so many frames, is the last one of a fade. -/
def EndsFade (slot : CrossfadingSlot T) (frames : ℕ) : Prop :=
  slot.takePending.fadeFramesRemaining ≠ 0 ∧
    slot.takePending.fadeFramesRemaining ≤ frames

/-- A block has stored into a slot of the trash that held an instance. -/
def Overwrites (before after : CrossfadingSlot T) : Prop :=
  after.trashSlot ≠ before.trashSlot ∧ (before.trash before.trashSlot).isSome

section

variable {slot : CrossfadingSlot T}

@[simp] theorem takePending_trash : slot.takePending.trash = slot.trash := by
  rw [takePending]
  split <;> rfl

@[simp] theorem takePending_trashSlot :
    slot.takePending.trashSlot = slot.trashSlot := by
  rw [takePending]
  split <;> rfl

theorem trashSlot_succ_ne (i : Fin 2) : i + 1 ≠ i := by
  revert i
  decide

/-- A block that ends no fade only counts down. -/
theorem advance_of_not_endsFade {frames : ℕ} (h : ¬ slot.EndsFade frames) :
    slot.advance frames =
      { slot.takePending with
        fadeFramesRemaining := slot.takePending.fadeFramesRemaining - frames } := by
  rw [advance, finish]
  by_cases hfade : slot.takePending.fadeFramesRemaining = 0
  · rw [if_pos hfade, hfade, Nat.zero_sub, ← hfade]
  · have hlt : frames < slot.takePending.fadeFramesRemaining :=
      Nat.lt_of_not_le fun hle => h ⟨hfade, hle⟩
    rw [if_neg hfade, discardFaded, if_neg (Nat.sub_ne_zero_of_lt hlt)]

/-- The last block of a fade hands the old instance to the trash. -/
theorem advance_of_endsFade {frames : ℕ} (h : slot.EndsFade frames) :
    slot.advance frames =
      { slot.takePending with
        fadingOut := none
        fadeFramesRemaining := 0
        trash := Function.update slot.trash slot.trashSlot
          slot.takePending.fadingOut
        trashSlot := slot.trashSlot + 1 } := by
  rw [advance, finish, if_neg h.1, discardFaded,
    if_pos (Nat.sub_eq_zero_of_le h.2)]
  simp only [Nat.sub_eq_zero_of_le h.2, takePending_trash, takePending_trashSlot]

theorem overwrites_advance_iff {frames : ℕ} :
    Overwrites slot (slot.advance frames) ↔
      slot.EndsFade frames ∧ (slot.trash slot.trashSlot).isSome := by
  by_cases hends : slot.EndsFade frames
  · rw [Overwrites, advance_of_endsFade hends]
    exact and_congr_left' (iff_of_true (trashSlot_succ_ne _) hends)
  · rw [Overwrites, advance_of_not_endsFade hends]
    simp [hends]

theorem overwrites_map {β : Type} (f : T → β) (after : CrossfadingSlot T) :
    Overwrites (slot.map f) (after.map f) ↔ Overwrites slot after := by
  rw [Overwrites, Overwrites, map, map, Option.isSome_map]

end

/-! ## Between two collections -/

/-- What has become of the instances since the trash was emptied: which ones
have become live, which ones have been handed to the trash since, and which
ones may still become live, `next` being the one that the handler builds. -/
structure SinceFound (found now : CrossfadingSlot ℕ) (next : ℕ) (mayPublish : Bool)
    (wentLive handed : List ℕ) : Prop where
  custody : handed ++ now.fadingOut.toList ++ now.live.toList =
    found.fadingOut.toList ++ found.live.toList ++ wentLive
  ahead : (wentLive ++ now.pending.toList ++ if mayPublish then [next] else []).Sublist
    (found.pending.toList ++ [next])
  full : (now.trash now.trashSlot).isSome ↔ 2 ≤ handed.length
  oneFull : (now.trash (now.trashSlot + 1)).isSome ↔ 1 ≤ handed.length

section

variable {found now : CrossfadingSlot ℕ} {next : ℕ} {mayPublish : Bool}
  {wentLive handed : List ℕ}

/-- The trash is empty after a collection. -/
theorem sinceFound_collectGarbage (slot : CrossfadingSlot ℕ) (next : ℕ) :
    SinceFound slot slot.collectGarbage next true [] [] where
  custody := by simp [collectGarbage]
  ahead := List.Sublist.refl _
  full := iff_of_false Bool.false_ne_true (Nat.not_succ_le_zero 1)
  oneFull := iff_of_false Bool.false_ne_true (Nat.not_succ_le_zero 0)

/-- The instance that the handler has built may take the place of a pending
one. -/
theorem SinceFound.publish (h : SinceFound found now next true wentLive handed) :
    SinceFound found (now.publish next) next false wentLive handed := by
  refine { h with ahead := ?_ }
  have hahead : (wentLive ++ now.pending.toList ++ [next]).Sublist
      (found.pending.toList ++ [next]) := h.ahead
  refine List.Sublist.trans ?_ hahead
  rw [List.append_assoc]
  simp [CrossfadingSlot.publish]

/-- A pending instance becomes live, the live one fades out. -/
theorem SinceFound.takePending
    (h : SinceFound found now next mayPublish wentLive handed)
    (hfading : now.fadeFramesRemaining = 0 → now.fadingOut = none) :
    ∃ wentLive, SinceFound found now.takePending next mayPublish wentLive handed := by
  by_cases htakes : now.Takes
  · refine ⟨wentLive ++ now.pending.toList, ?_⟩
    rw [CrossfadingSlot.takePending, if_pos htakes]
    refine { h with custody := ?_, ahead := ?_ }
    · have hcustody := h.custody
      rw [hfading htakes.1, Option.toList_none, List.append_nil] at hcustody
      rw [hcustody, List.append_assoc _ wentLive]
    · rw [Option.toList_none, List.append_nil]
      exact h.ahead
  · refine ⟨wentLive, ?_⟩
    rwa [CrossfadingSlot.takePending, if_neg htakes]

/-- A block moves the instances on. -/
theorem SinceFound.advance
    (h : SinceFound found now next mayPublish wentLive handed)
    (hfading : now.fadeFramesRemaining = 0 → now.fadingOut = none)
    (hold : now.takePending.fadeFramesRemaining ≠ 0 →
      now.takePending.fadingOut.isSome) (frames : ℕ) :
    ∃ wentLive handed,
      SinceFound found (now.advance frames) next mayPublish wentLive handed := by
  obtain ⟨wentLive, htaken⟩ := h.takePending hfading
  by_cases hends : now.EndsFade frames
  · obtain ⟨old, hold⟩ := Option.isSome_iff_exists.mp (hold hends.1)
    refine ⟨wentLive, handed ++ [old], ?_⟩
    rw [advance_of_endsFade hends]
    refine { htaken with custody := ?_, full := ?_, oneFull := ?_ }
    · have hcustody := htaken.custody
      rw [hold, Option.toList_some] at hcustody
      simpa using hcustody
    · have hfull := htaken.oneFull
      rw [takePending_trash, takePending_trashSlot] at hfull
      show (Function.update now.trash now.trashSlot now.takePending.fadingOut
        (now.trashSlot + 1)).isSome ↔ _
      rw [Function.update_of_ne (trashSlot_succ_ne _), hfull, List.length_append]
      exact (Nat.add_le_add_iff_right (n := 1)).symm
    · have hback : now.trashSlot + 1 + 1 = now.trashSlot := by
        generalize now.trashSlot = i
        revert i
        decide
      show (Function.update now.trash now.trashSlot now.takePending.fadingOut
        (now.trashSlot + 1 + 1)).isSome ↔ _
      rw [hback, Function.update_self, hold, List.length_append]
      exact iff_of_true rfl (Nat.le_add_left 1 _)
  · refine ⟨wentLive, handed, ?_⟩
    rw [advance_of_not_endsFade hends]
    exact { htaken with }

/-- While a fade runs, the trash is full exactly if the instance that fades out
was waiting behind another fade at the collection. -/
theorem SinceFound.full_iff
    (h : SinceFound found now next mayPublish wentLive handed)
    {published : ℕ} {lives trashed : List ℕ}
    (hfound : Session.InTurn found published lives trashed) {old live : ℕ}
    (hold : now.fadingOut = some old) (hlive : now.live = some live) :
    (now.trash now.trashSlot).isSome ↔
      found.fadeFramesRemaining ≠ 0 ∧ found.pending = some old := by
  obtain ⟨first, hfirst, -⟩ := hfound.live
  have hcustody := h.custody
  rw [hold, hlive, hfirst] at hcustody
  have hwent : wentLive.Sublist (found.pending.toList ++ [next]) := by
    refine List.Sublist.trans ?_ h.ahead
    rw [List.append_assoc]
    exact List.sublist_append_left _ _
  rw [h.full]
  constructor
  · intro hfull
    have hcount := congrArg List.length hcustody
    simp only [List.length_append, Option.toList_some, List.length_singleton] at hcount
    have hlength := hwent.length_le
    rw [List.length_append, List.length_singleton] at hlength
    have hfading : found.fadingOut.toList.length ≤ 1 := Option.length_toList_le
    have hpending : found.pending.toList.length ≤ 1 := Option.length_toList_le
    have hfaded : found.fadingOut.toList.length = 1 := by omega
    have hwaiting : found.pending.toList.length = 1 := by omega
    obtain ⟨waiting, hwaiting⟩ :=
      Option.isSome_iff_exists.mp (Option.length_toList_eq_one_iff.mp hwaiting)
    have hfades := Option.length_toList_eq_one_iff.mp hfaded
    refine ⟨(hfound.fadingOut_iff.mp hfades).ne', ?_⟩
    have hall : wentLive = found.pending.toList ++ [next] := by
      apply hwent.eq_of_length
      rw [List.length_append, List.length_singleton]
      omega
    rw [hall, hwaiting, Option.toList_some, ← List.append_assoc] at hcustody
    have hinit := (List.append_inj' hcustody rfl).1
    have hlast := (List.append_inj' hinit rfl).2
    rw [hwaiting, List.cons.inj hlast |>.1]
  · rintro ⟨hfade, hpending⟩
    obtain ⟨faded, hfaded⟩ := Option.isSome_iff_exists.mp
      (hfound.fadingOut_iff.mpr (Nat.pos_of_ne_zero hfade))
    have hlt : first < old := hfound.pending_gt old hpending first hfirst
    have hlt' : faded < first := hfound.fadingOut_lt faded hfaded first hfirst
    rw [hfaded] at hcustody
    match handed, hcustody with
    | [], hcustody =>
        have heq : old = faded := (List.cons.inj hcustody).1
        exact absurd heq (hlt'.trans hlt).ne'
    | [_], hcustody =>
        have heq : old = first := (List.cons.inj (List.cons.inj hcustody).2).1
        exact absurd heq hlt.ne'
    | _ :: _ :: rest, _ => exact Nat.le_add_left 2 rest.length

end

/-! ## Runs of the handlers -/

/-- A slot, what the last `CollectGarbage` found in it, and whether a handler
has collected and not published yet. -/
structure Handled (T : Type) (c : ℕ) (α : Type) where
  session : Session T c α
  found : CrossfadingSlot ℕ
  mayPublish : Bool := false

namespace Handled

/-- A new slot, before any handler. -/
def new (initial : T) (crossfadeFrames : ℕ) : Handled T c α where
  session := .new initial crossfadeFrames
  found := (Session.new initial crossfadeFrames : Session T c α).numbers

/-- The next step of the handlers or of the audio thread; a handler publishes
after it has collected, and no more than once. -/
def step [FloatArith α] (handled : Handled T c α) (event : Event T ι c α) :
    Option (Handled T c α) := do
  let session ← handled.session.step event
  match event with
  | .collectGarbage =>
      return { session, found := handled.session.numbers, mayPublish := true }
  | .publish _ =>
      if handled.mayPublish then return { handled with session, mayPublish := false }
      else none
  | .process _ _ => return { handled with session }

/-- The block ends a fade whose outgoing instance was, at the last
`CollectGarbage`, still waiting behind another fade. -/
def EndsLate (handled : Handled T c α) : Event T ι c α → Prop
  | .process _ input =>
      handled.session.numbers.EndsFade (input.take maxProcessFrames).length ∧
      handled.found.fadeFramesRemaining ≠ 0 ∧
      ∃ waiting, handled.found.pending = some waiting ∧
        handled.session.numbers.takePending.fadingOut = some waiting
  | _ => False

/-- The instances are in their turn, and have been since the last collection. -/
structure Watched (handled : Handled T c α) : Prop where
  orderly : handled.session.Orderly
  found : ∃ published wentLive trashed,
    Session.InTurn handled.found published wentLive trashed
  since : ∃ next wentLive handed,
    (handled.mayPublish = true → next = handled.session.published + 1) ∧
    SinceFound handled.found handled.session.numbers next handled.mayPublish
      wentLive handed

section

variable {handled : Handled T c α}

theorem watched_new (initial : T) {crossfadeFrames : ℕ} (h : 0 < crossfadeFrames) :
    Watched (new initial crossfadeFrames : Handled T c α) where
  orderly := Session.orderly_new initial h
  found := ⟨_, _, _, Session.orderly_new initial h⟩
  since := by
    refine ⟨1, [], [], Bool.noConfusion, ?_⟩
    constructor
    case custody => rfl
    case ahead => exact List.nil_sublist _
    case full => exact iff_of_false Bool.false_ne_true (Nat.not_succ_le_zero 1)
    case oneFull => exact iff_of_false Bool.false_ne_true (Nat.not_succ_le_zero 0)

/-- A block that may take an instance finds nothing fading out. -/
theorem Watched.fadingOut_eq_none (h : handled.Watched)
    (hfade : handled.session.numbers.fadeFramesRemaining = 0) :
    handled.session.numbers.fadingOut = none := by
  have hiff := Session.InTurn.fadingOut_iff h.orderly
  rw [hfade] at hiff
  exact Option.not_isSome_iff_eq_none.mp (mt hiff.mp (Nat.lt_irrefl 0))

/-- Without a length, no fade ever runs. -/
def NeverFades (handled : Handled T c α) : Prop :=
  handled.session.numbers.crossfadeFrames = 0 ∧
    handled.session.numbers.fadeFramesRemaining = 0

theorem NeverFades.not_endsFade (h : handled.NeverFades) (frames : ℕ) :
    ¬ handled.session.numbers.EndsFade frames := by
  rintro ⟨hfade, -⟩
  apply hfade
  rw [takePending]
  split
  · exact h.1
  · exact h.2

end

section

variable [FloatArith α] {handled after : Handled T c α} {event : Event T ι c α}

/-- What the steps of a run do. -/
inductive Steps (handled : Handled T c α) : Event T ι c α → Handled T c α → Prop
  | publish (newValue : T) (h : handled.mayPublish = true) :
      Steps handled (.publish newValue)
        { handled with
          session := { handled.session with
            slot := handled.session.slot.publish
              ⟨handled.session.published + 1, newValue⟩
            published := handled.session.published + 1 }
          mayPublish := false }
  | collectGarbage :
      Steps handled .collectGarbage
        { session :=
            { handled.session with slot := handled.session.slot.collectGarbage }
          found := handled.session.numbers
          mayPublish := true }
  | process (renderer : Renderer T ι c α) (input : List ι) (session : Session T c α)
      (hsession : handled.session.step (.process renderer input) = some session)
      (hnumbers : session.numbers =
        handled.session.numbers.advance (input.take maxProcessFrames).length)
      (hpublished : session.published = handled.session.published) :
      Steps handled (.process renderer input) { handled with session }

theorem steps_of_step (h : handled.step event = some after) :
    handled.Steps event after := by
  obtain ⟨session, hsession, hafter⟩ := Option.bind_eq_some_iff.mp h
  cases event with
  | publish newValue =>
      dsimp only at hafter
      split at hafter
      · obtain rfl := Option.some.inj hsession
        rw [← Option.some.inj hafter]
        exact .publish newValue ‹_›
      · cases hafter
  | collectGarbage =>
      obtain rfl := Option.some.inj hsession
      rw [← Option.some.inj hafter]
      exact .collectGarbage
  | process renderer input =>
      rw [← Option.some.inj hafter]
      obtain ⟨hnumbers, hpublished⟩ := Session.numbers_of_process hsession
      exact .process renderer input session hsession hnumbers hpublished

/-- A step of the handlers is one of the slot. -/
theorem session_of_step (h : handled.step event = some after) :
    handled.session.step event = some after.session := by
  cases steps_of_step h with
  | publish newValue hmay => rfl
  | collectGarbage => rfl
  | process renderer input session hsession hnumbers hpublished => exact hsession

theorem Watched.step (h : handled.Watched) (hstep : handled.step event = some after) :
    after.Watched := by
  obtain ⟨session, hsession, horderly⟩ := h.orderly.step event
  have hafter : session = after.session :=
    Option.some.inj (hsession.symm.trans (session_of_step hstep))
  rw [hafter] at horderly
  obtain ⟨next, wentLive, handed, hnext, hsince⟩ := h.since
  refine ⟨horderly, ?_, ?_⟩
  · cases steps_of_step hstep with
    | publish newValue hmay => exact h.found
    | collectGarbage => exact ⟨_, _, _, h.orderly⟩
    | process renderer input session hsession hnumbers hpublished => exact h.found
  · cases steps_of_step hstep with
    | publish newValue hmay =>
        rw [hmay] at hsince
        have hpublish := hsince.publish
        rw [hnext hmay] at hpublish
        exact ⟨_, wentLive, handed, Bool.noConfusion, hpublish⟩
    | collectGarbage =>
        exact ⟨handled.session.published + 1, [], [], fun _ => rfl,
          sinceFound_collectGarbage _ _⟩
    | process renderer input session hsession hnumbers hpublished =>
        have htaken := Session.InTurn.takePending h.orderly
        obtain ⟨wentLive', handed', hadvance⟩ :=
          hsince.advance h.fadingOut_eq_none
            (fun hfade => htaken.fadingOut_iff.mpr (Nat.pos_of_ne_zero hfade))
            (input.take maxProcessFrames).length
        rw [← hnumbers] at hadvance
        refine ⟨next, wentLive', handed', fun hmay => ?_, hadvance⟩
        rw [hpublished]
        exact hnext hmay

/-- A step overwrites an instance in the trash exactly if it ends a fade late. -/
theorem Watched.overwrites_iff (h : handled.Watched)
    (hstep : handled.step event = some after) :
    Overwrites handled.session.slot after.session.slot ↔
      handled.EndsLate event := by
  cases steps_of_step hstep with
  | publish newValue hmay => exact iff_of_false (fun hmoved => hmoved.1 rfl) id
  | collectGarbage => exact iff_of_false (fun hmoved => hmoved.1 rfl) id
  | process renderer input session hsession hnumbers hpublished =>
      have htaken := Session.InTurn.takePending h.orderly
      rw [← overwrites_map Instance.number]
      show Overwrites handled.session.numbers session.numbers ↔ _
      rw [hnumbers, overwrites_advance_iff, EndsLate]
      apply and_congr_right
      intro hend
      obtain ⟨old, hold⟩ := Option.isSome_iff_exists.mp
        (htaken.fadingOut_iff.mpr (Nat.pos_of_ne_zero hend.1))
      obtain ⟨live, hlive, -⟩ := htaken.live
      obtain ⟨next, wentLive, handed, -, hsince⟩ := h.since
      obtain ⟨wentLive', hsince'⟩ := hsince.takePending h.fadingOut_eq_none
      obtain ⟨published, lives, trashed, hfound⟩ := h.found
      have hfull := hsince'.full_iff hfound hold hlive
      rw [takePending_trash, takePending_trashSlot] at hfull
      rw [hfull, hold]
      simp

theorem NeverFades.step (h : handled.NeverFades)
    (hstep : handled.step event = some after) : after.NeverFades := by
  cases steps_of_step hstep with
  | publish newValue hmay => exact h
  | collectGarbage => exact h
  | process renderer input session hsession hnumbers hpublished =>
      show session.numbers.crossfadeFrames = 0 ∧
        session.numbers.fadeFramesRemaining = 0
      rw [hnumbers, advance_of_not_endsFade (h.not_endsFade _)]
      rw [takePending]
      split
      · exact ⟨h.1, Nat.sub_eq_zero_of_le (h.1.le.trans (Nat.zero_le _))⟩
      · exact ⟨h.1, Nat.sub_eq_zero_of_le (h.2.le.trans (Nat.zero_le _))⟩

theorem NeverFades.overwrites_iff (h : handled.NeverFades)
    (hstep : handled.step event = some after) :
    Overwrites handled.session.slot after.session.slot ↔
      handled.EndsLate event := by
  cases steps_of_step hstep with
  | publish newValue hmay => exact iff_of_false (fun hmoved => hmoved.1 rfl) id
  | collectGarbage => exact iff_of_false (fun hmoved => hmoved.1 rfl) id
  | process renderer input session hsession hnumbers hpublished =>
      have hends := h.not_endsFade (input.take maxProcessFrames).length
      rw [← overwrites_map Instance.number]
      show Overwrites handled.session.numbers session.numbers ↔ _
      rw [hnumbers, overwrites_advance_iff]
      exact iff_of_false (fun hfull => hends hfull.1) fun hlate => hends hlate.1

/-- The step stores into no slot of the trash that still holds an instance. -/
def KeepsTrash (handled : Handled T c α) (event : Event T ι c α) : Prop :=
  ∀ after, handled.step event = some after →
    ¬ Overwrites handled.session.slot after.session.slot

theorem Watched.keepsTrash_iff (h : handled.Watched) (event : Event T ι c α) :
    handled.KeepsTrash event ↔ ¬ handled.EndsLate event := by
  constructor
  · intro hkeeps hlate
    cases event with
    | publish newValue => exact hlate
    | collectGarbage => exact hlate
    | process renderer input =>
        obtain ⟨session, hsession, -⟩ := h.orderly.step (.process renderer input)
        have hstep : handled.step (.process renderer input) =
            some { handled with session } := by
          rw [Handled.step, hsession]
          rfl
        exact hkeeps _ hstep ((h.overwrites_iff hstep).mpr hlate)
  · intro hlate after hstep hoverwrites
    exact hlate ((h.overwrites_iff hstep).mp hoverwrites)

theorem NeverFades.keepsTrash_iff (h : handled.NeverFades) (event : Event T ι c α) :
    handled.KeepsTrash event ↔ ¬ handled.EndsLate event := by
  refine iff_of_true ?_ ?_
  · intro after hstep hoverwrites
    have hlate := (h.overwrites_iff hstep).mp hoverwrites
    cases event with
    | publish newValue => exact hlate
    | collectGarbage => exact hlate
    | process renderer input => exact h.not_endsFade _ hlate.1
  · intro hlate
    cases event with
    | publish newValue => exact hlate
    | collectGarbage => exact hlate
    | process renderer input => exact h.not_endsFade _ hlate.1

/-- In every run of the handlers, `Process` stores into an empty slot of the
trash exactly as long as it ends no fade late. -/
theorem keepsTrash_run_iff (initial : T) (crossfadeFrames : ℕ)
    (events : List (Event T ι c α)) :
    (AtEachEvent
        (StepMeets step KeepsTrash (new initial crossfadeFrames)) events ↔
      AtEachEvent
        (StepMeets step (fun handled event => ¬ handled.EndsLate event)
          (new initial crossfadeFrames)) events) ∧
    (0 < crossfadeFrames →
      AtEachEvent
        (StepMeets step
          (fun handled _ =>
            handled.session.slot.Takes → handled.session.slot.fadingOut = none)
          (new initial crossfadeFrames)) events) := by
  have hwatched (hpos : 0 < crossfadeFrames) (past : List (Event T ι c α)) reached :
      runFrom step (new initial crossfadeFrames) past = some reached →
      reached.Watched :=
    invariant_of_runFrom Watched (watched_new initial hpos)
      (fun _ _ _ hinv hstep => hinv.step hstep)
  refine ⟨?_, ?_⟩
  · refine stepMeets_congr (fun past reached event hreached => ?_) events
    rcases Nat.eq_zero_or_pos crossfadeFrames with rfl | hpos
    · have hnever : reached.NeverFades :=
        invariant_of_runFrom NeverFades ⟨rfl, rfl⟩
          (fun _ _ _ hinv hstep => hinv.step hstep) hreached
      exact hnever.keepsTrash_iff event
    · exact (hwatched hpos past reached hreached).keepsTrash_iff event
  · intro hpos past event hpast reached hreached htakes
    have hnone :=
      (hwatched hpos past reached hreached).fadingOut_eq_none htakes.1
    exact Option.map_eq_none_iff.mp hnone

/-- Three fades end between a collection and the next one: the first is running
when the handler collects, the second instance waits behind it, and the third
one is what the handler builds meanwhile. -/
theorem keepsTrash_lost :
    ¬ AtEachEvent (StepMeets step KeepsTrash (new 0 2))
      ([.collectGarbage, .publish 1, .process Renderer.amplifier [1],
        .collectGarbage, .publish 2, .collectGarbage,
        .process Renderer.amplifier [1], .process Renderer.amplifier [1, 1],
        .publish 3, .process Renderer.amplifier [1, 1]] :
          List (Event ℝ ℝ 1 ℝ)) := by
  intro h
  refine h [_, _, _, _, _, _, _, _, _] _ (List.prefix_refl _) _ rfl _ rfl ⟨?_, rfl⟩
  exact trashSlot_succ_ne 0

end

end Handled

end CrossfadingSlot

end RamkolFX
