import RamkolFX.Dsp.SlotRuns
import RamkolFX.Support.Crossfade

/-!
# Weights of a crossfading slot

In exact arithmetic, each frame that is put out is a weighted sum of what the
instances have rendered for it, and from one frame to the next no weight moves
by more than one step of a fade.
-/

namespace RamkolFX

open Support

namespace CrossfadingSlot

variable {κ : Type} {c : ℕ}

/-- The frame is the weighted sum of what the sources have rendered. -/
structure Mixes (weight : κ →₀ ℝ) (frame : MixedFrame κ c ℝ) : Prop where
  nonneg : ∀ source, 0 ≤ weight source
  le_one : ∀ source, weight source ≤ 1
  sum_one : (weight.sum fun _ w => w) = 1
  rendered : ∀ source ∈ weight.support, (frame.rendered source).isSome
  output : ∀ channel, frame.output channel =
    weight.sum fun source w => w * (frame.rendered source).getD 0 channel

/-- The frames are mixed with weights that move by one step of a fade at most. -/
def SmoothlyMixed (crossfadeFrames : ℕ) (frames : List (MixedFrame κ c ℝ)) : Prop :=
  ∃ weights : List (κ →₀ ℝ), List.Forall₂ Mixes weights frames ∧
    Crossfade.Continuous crossfadeFrames weights

/-- The frame is mixed as the fade says. -/
structure Blends (crossfadeFrames : ℕ) (fade : Crossfade κ)
    (frame : MixedFrame κ c ℝ) : Prop where
  incoming : (frame.rendered fade.incoming).isSome
  outgoing : fade.remaining ≠ 0 → (frame.rendered fade.outgoing).isSome
  output : ∀ channel, frame.output channel =
    fade.share ℝ crossfadeFrames * (frame.rendered fade.outgoing).getD 0 channel +
      (1 - fade.share ℝ crossfadeFrames) *
        (frame.rendered fade.incoming).getD 0 channel

/-- The frames are smoothly mixed so far, and the fade goes on from there. -/
def MixedUpTo (crossfadeFrames : ℕ) (frames : List (MixedFrame κ c ℝ))
    (fade : Crossfade κ) : Prop :=
  ∃ weights : List (κ →₀ ℝ), List.Forall₂ Mixes weights frames ∧
    Crossfade.Continuous crossfadeFrames weights ∧
    Crossfade.GoesOn crossfadeFrames weights fade

section

variable {crossfadeFrames : ℕ} {fade : Crossfade κ}

theorem Blends.mixes {frame : MixedFrame κ c ℝ} (h : Blends crossfadeFrames fade frame)
    (hremaining : fade.remaining ≤ crossfadeFrames) :
    Mixes (fade.weight ℝ crossfadeFrames) frame where
  nonneg := Crossfade.weight_nonneg hremaining
  le_one := Crossfade.weight_le_one hremaining
  sum_one := Crossfade.sum_weight_one fade crossfadeFrames
  rendered := by
    intro source hsource
    rcases Crossfade.eq_of_mem_support hsource with rfl | ⟨rfl, hne⟩
    · exact h.incoming
    · exact h.outgoing hne
  output := by
    intro channel
    rw [h.output channel]
    exact (Crossfade.sum_weight fun source =>
      (frame.rendered source).getD 0 channel).symm

/-- A source that is alone. -/
theorem blends_of_over {frame : MixedFrame κ c ℝ} (hover : fade.remaining = 0)
    (h : frame.rendered fade.incoming = some frame.output) :
    Blends crossfadeFrames fade frame where
  incoming := Option.isSome_iff_exists.mpr ⟨frame.output, h⟩
  outgoing := fun hne => absurd hover hne
  output := by
    intro channel
    rw [Crossfade.share, hover, Nat.cast_zero, zero_div, zero_mul, zero_add, sub_zero,
      one_mul, h, Option.getD_some]

/-- Two sources. -/
theorem blends_of_mixed {frame : MixedFrame κ c ℝ} {oldFrame newFrame : AudioFrame c ℝ}
    (hnew : frame.rendered fade.incoming = some newFrame)
    (hold : frame.rendered fade.outgoing = some oldFrame)
    (h : ∀ channel, frame.output channel =
      fade.share ℝ crossfadeFrames * oldFrame channel +
        (1 - fade.share ℝ crossfadeFrames) * newFrame channel) :
    Blends crossfadeFrames fade frame where
  incoming := Option.isSome_iff_exists.mpr ⟨newFrame, hnew⟩
  outgoing := fun _ => Option.isSome_iff_exists.mpr ⟨oldFrame, hold⟩
  output := by
    intro channel
    rw [hnew, hold, Option.getD_some, Option.getD_some]
    exact h channel

theorem mixedUpTo_nil :
    MixedUpTo crossfadeFrames ([] : List (MixedFrame κ c ℝ)) fade := by
  refine ⟨[], .nil, List.isChain_nil, ?_⟩
  intro last hlast
  cases hlast

theorem MixedUpTo.smoothlyMixed {frames : List (MixedFrame κ c ℝ)}
    (h : MixedUpTo crossfadeFrames frames fade) :
    SmoothlyMixed crossfadeFrames frames := by
  obtain ⟨weights, hmixes, hcontinuous, -⟩ := h
  exact ⟨weights, hmixes, hcontinuous⟩

/-- A block that is mixed as the fade says goes on smoothly. -/
theorem MixedUpTo.append {frames : List (MixedFrame κ c ℝ)}
    {output : List (AudioFrame c ℝ)} {rendered : ℕ → κ → Option (AudioFrame c ℝ)}
    (h : MixedUpTo crossfadeFrames frames fade)
    (hremaining : fade.remaining ≤ crossfadeFrames)
    (hblock : ∀ i frame, output[i]? = some frame →
      Blends crossfadeFrames (fade.after i) ⟨frame, rendered i⟩) :
    MixedUpTo crossfadeFrames
      (frames ++ output.mapIdx fun i frame => ⟨frame, rendered i⟩)
      (fade.after output.length) := by
  obtain ⟨weights, hmixes, hcontinuous, hgoesOn⟩ := h
  obtain ⟨hcontinuous', hgoesOn'⟩ :=
    hcontinuous.append_nextWeights hgoesOn output.length
  refine ⟨_, List.rel_append hmixes ?_, hcontinuous', hgoesOn'⟩
  rw [Crossfade.nextWeights, List.forall₂_map_left_iff, List.forall₂_iff_get]
  refine ⟨List.length_range.trans List.length_mapIdx.symm, fun i hi hi' => ?_⟩
  rw [List.get_eq_getElem, List.get_eq_getElem, List.getElem_range, List.getElem_mapIdx]
  apply (hblock i _ (List.getElem?_eq_getElem _)).mixes
  exact (Nat.sub_le _ _).trans hremaining

/-- Only the weights of a fade matter for what follows. -/
theorem MixedUpTo.congr {frames : List (MixedFrame κ c ℝ)} {fade' : Crossfade κ}
    (h : MixedUpTo crossfadeFrames frames fade)
    (hweight : fade'.weight ℝ crossfadeFrames = fade.weight ℝ crossfadeFrames) :
    MixedUpTo crossfadeFrames frames fade' := by
  obtain ⟨weights, hmixes, hcontinuous, hgoesOn⟩ := h
  refine ⟨weights, hmixes, hcontinuous, ?_⟩
  intro last hlast source
  rw [hweight]
  exact hgoesOn last hlast source

end

/-! ## The mixing loop -/

/-- The gain of the old instance is its share of the fade. -/
theorem mix_getElem? {crossfadeFrames remaining i : ℕ}
    {oldFrames newFrames : List (AudioFrame c ℝ)} {frame : AudioFrame c ℝ}
    (h : (mix crossfadeFrames remaining oldFrames newFrames)[i]? = some frame) :
    ∃ oldFrame newFrame, oldFrames[i]? = some oldFrame ∧
      newFrames[i]? = some newFrame ∧ ∀ channel, frame channel =
        ((remaining - i : ℕ) : ℝ) / (crossfadeFrames : ℝ) * oldFrame channel +
          (1 - ((remaining - i : ℕ) : ℝ) / (crossfadeFrames : ℝ)) *
            newFrame channel := by
  induction oldFrames generalizing remaining newFrames i with
  | nil => simp [mix] at h
  | cons oldFrame oldFrames ih =>
      cases newFrames with
      | nil => simp [mix] at h
      | cons newFrame newFrames =>
          cases i with
          | zero =>
              refine ⟨oldFrame, newFrame, rfl, rfl, fun channel => ?_⟩
              rw [← Option.some.inj h]
              show oldFrame channel *
                  (1 - (1 - (remaining : ℝ) / (crossfadeFrames : ℝ))) +
                newFrame channel * (1 - (remaining : ℝ) / (crossfadeFrames : ℝ)) = _
              rw [Nat.sub_zero]
              ring
          | succ i =>
              obtain ⟨old, new, hold, hnew, hframe⟩ :=
                @ih (remaining - 1) i newFrames h
              refine ⟨old, new, hold, hnew, fun channel => ?_⟩
              rw [hframe channel, Nat.sub_sub, Nat.add_comm 1 i]

/-! ## One block -/

/-- The fade that a slot is in. -/
def fade (numbers : CrossfadingSlot ℕ) : Crossfade ℕ where
  incoming := numbers.live.getD 0
  outgoing := numbers.fadingOut.getD 0
  remaining := numbers.fadeFramesRemaining

@[simp] theorem takePending_crossfadeFrames {T : Type} (slot : CrossfadingSlot T) :
    slot.takePending.crossfadeFrames = slot.crossfadeFrames := by
  rw [takePending]
  split <;> rfl

theorem remaining_takePending_le {T : Type} {slot : CrossfadingSlot T}
    (h : slot.fadeFramesRemaining ≤ slot.crossfadeFrames) :
    slot.takePending.fadeFramesRemaining ≤ slot.crossfadeFrames := by
  rw [takePending]
  split
  · exact le_rfl
  · exact h

/-- A block only counts down. -/
theorem finish_counts {T : Type} (slot : CrossfadingSlot T) (frames : ℕ) :
    (slot.finish frames).crossfadeFrames = slot.crossfadeFrames ∧
      (slot.finish frames).fadeFramesRemaining ≤ slot.fadeFramesRemaining := by
  rw [finish, discardFaded]
  split
  · exact ⟨rfl, le_rfl⟩
  · split <;> exact ⟨rfl, Nat.sub_le _ _⟩

section

variable {numbers : CrossfadingSlot ℕ} {published : ℕ} {wentLive trashed : List ℕ}

/-- An instance that is taken has no weight yet. -/
theorem weight_fade_takePending
    (h : Session.InTurn numbers published wentLive trashed) :
    numbers.takePending.fade.weight ℝ numbers.crossfadeFrames =
      numbers.fade.weight ℝ numbers.crossfadeFrames := by
  by_cases htakes : numbers.Takes
  · have hlength : (numbers.crossfadeFrames : ℝ) ≠ 0 :=
      Nat.cast_ne_zero.mpr h.crossfadeFrames_pos.ne'
    have hover : numbers.fade.remaining = 0 := htakes.1
    rw [takePending, if_pos htakes]
    exact Crossfade.weight_start hover hlength (numbers.pending.getD 0)
  · rw [takePending, if_neg htakes]

/-- The instance that has faded out has no weight left. -/
theorem weight_fade_finish (numbers : CrossfadingSlot ℕ) (frames length : ℕ) :
    (numbers.finish frames).fade.weight ℝ length =
      (numbers.fade.after frames).weight ℝ length := by
  rw [finish]
  by_cases hfade : numbers.fadeFramesRemaining = 0
  · have hover : (numbers.fade.after frames).remaining = 0 :=
      Nat.sub_eq_zero_of_le (hfade.le.trans (Nat.zero_le _))
    rw [if_pos hfade, Crossfade.weight_of_over hover, Crossfade.weight_of_over hfade]
    rfl
  · rw [if_neg hfade, discardFaded]
    split
    next hover =>
      have hover' : (numbers.fade.after frames).remaining = 0 := hover
      rw [Crossfade.weight_of_over hover', Crossfade.weight_of_over hover]
      rfl
    next => rfl

end

variable {T ι : Type}

section

variable {slot : CrossfadingSlot (Instance T)} {renderer : Renderer T ι c ℝ}
  {input : List ι} {live old : Instance T}

theorem renderedFrame_live (hlive : slot.takePending.live = some live) (i : ℕ) :
    renderedFrame slot renderer input i live.number =
      (renderer.run live.value (input.take maxProcessFrames)).1[i]? := by
  rw [renderedFrame, rendering, hlive]
  simp

theorem renderedFrame_old (hlive : slot.takePending.live = some live)
    (hold : slot.takePending.fadingOut = some old)
    (hfade : slot.takePending.fadeFramesRemaining ≠ 0)
    (hne : live.number ≠ old.number) (i : ℕ) :
    renderedFrame slot renderer input i old.number =
      (renderer.run old.value (input.take maxProcessFrames)).1[i]? := by
  rw [renderedFrame, rendering, hlive, hold, if_neg hfade]
  simp [hne]

/-- The frames of a block are mixed as the fade says. -/
theorem blends_process {published : ℕ} {wentLive trashed : List ℕ}
    (h : Session.InTurn (slot.map Instance.number).takePending published wentLive
      trashed)
    {output : List (AudioFrame c ℝ)} {after : CrossfadingSlot (Instance T)}
    (hprocess : process renderer.render slot input = some (output, after)) :
    output.length = (input.take maxProcessFrames).length ∧
    ∀ i frame, output[i]? = some frame →
      Blends slot.crossfadeFrames
        ((slot.map Instance.number).takePending.fade.after i)
        ⟨frame, renderedFrame slot renderer input i⟩ := by
  rw [takePending_map] at h ⊢
  obtain ⟨number, hnumber, -⟩ := h.live
  obtain ⟨live, hlive, rfl⟩ := Option.map_eq_some_iff.mp hnumber
  by_cases hfade : slot.takePending.fadeFramesRemaining = 0
  · rw [process_of_single hlive hfade rfl] at hprocess
    obtain ⟨rfl, -⟩ := Prod.mk.inj (Option.some.inj hprocess)
    refine ⟨renderer.length_run _ _, fun i frame hframe => ?_⟩
    have hover : ((slot.takePending.map Instance.number).fade.after i).remaining = 0 :=
      Nat.sub_eq_zero_of_le (hfade.le.trans (Nat.zero_le i))
    apply blends_of_over hover
    show renderedFrame slot renderer input i
      ((slot.takePending.map Instance.number).live.getD 0) = some frame
    rw [hnumber, Option.getD_some, renderedFrame_live hlive, hframe]
  · obtain ⟨number, hnumber'⟩ := Option.isSome_iff_exists.mp
      (h.fadingOut_iff.mpr (Nat.pos_of_ne_zero hfade))
    have hlt := h.fadingOut_lt number hnumber' live.number hnumber
    obtain ⟨old, hold, rfl⟩ := Option.map_eq_some_iff.mp hnumber'
    rw [process_of_fade hlive hfade hold rfl rfl] at hprocess
    obtain ⟨rfl, -⟩ := Prod.mk.inj (Option.some.inj hprocess)
    constructor
    · rw [length_mix, renderer.length_run, renderer.length_run, Nat.min_self]
    · intro i frame hframe
      obtain ⟨oldFrame, newFrame, holdFrame, hnewFrame, hmixed⟩ := mix_getElem? hframe
      rw [takePending_crossfadeFrames] at hmixed
      refine blends_of_mixed ?_ ?_ hmixed
      · show renderedFrame slot renderer input i
          ((slot.takePending.map Instance.number).live.getD 0) = some newFrame
        rw [hnumber, Option.getD_some, renderedFrame_live hlive, hnewFrame]
      · show renderedFrame slot renderer input i
          ((slot.takePending.map Instance.number).fadingOut.getD 0) = some oldFrame
        rw [hnumber', Option.getD_some, renderedFrame_old hlive hold hfade hlt.ne',
          holdFrame]

end

/-! ## Whole runs -/

namespace Session

/-- The frames so far are smoothly mixed, and the fade that the slot is in goes
on from there. -/
structure Smooth (crossfadeFrames : ℕ) (session : Session T c ℝ) : Prop where
  orderly : session.Orderly
  crossfadeFrames_eq : session.numbers.crossfadeFrames = crossfadeFrames
  remaining_le : session.numbers.fadeFramesRemaining ≤ crossfadeFrames
  mixed : MixedUpTo crossfadeFrames session.frames session.numbers.fade

theorem smooth_new (initial : T) {crossfadeFrames : ℕ} (h : 0 < crossfadeFrames) :
    Smooth crossfadeFrames (new initial crossfadeFrames : Session T c ℝ) where
  orderly := orderly_new initial h
  crossfadeFrames_eq := rfl
  remaining_le := Nat.zero_le _
  mixed := mixedUpTo_nil

theorem Smooth.step {crossfadeFrames : ℕ} {session : Session T c ℝ}
    (h : session.Smooth crossfadeFrames) (event : Event T ι c ℝ) :
    ∃ session', session.step event = some session' ∧
      session'.Smooth crossfadeFrames := by
  obtain ⟨session', hstep, horderly⟩ := h.orderly.step event
  refine ⟨session', hstep, ?_⟩
  cases event with
  | publish newValue =>
      obtain rfl := Option.some.inj hstep
      exact { h with orderly := horderly }
  | collectGarbage =>
      obtain rfl := Option.some.inj hstep
      exact { h with orderly := horderly }
  | process renderer input =>
      obtain ⟨hnumbers, -⟩ := numbers_of_process hstep
      obtain ⟨⟨output, slot⟩, hprocess, hafter⟩ := Option.bind_eq_some_iff.mp hstep
      obtain ⟨hlength, hblends⟩ := blends_process h.orderly.takePending hprocess
      obtain rfl := h.crossfadeFrames_eq
      have htaken := remaining_takePending_le h.remaining_le
      obtain ⟨hlength', hcounts⟩ := finish_counts session.numbers.takePending
        (input.take maxProcessFrames).length
      refine ⟨horderly, ?_, ?_, ?_⟩
      · rw [hnumbers]
        exact hlength'.trans (takePending_crossfadeFrames _)
      · rw [hnumbers]
        exact hcounts.trans htaken
      · have hmixed :=
          (h.mixed.congr (weight_fade_takePending h.orderly)).append htaken hblends
        rw [hnumbers, ← Option.some.inj hafter]
        apply hmixed.congr
        rw [hlength]
        exact weight_fade_finish _ _ _

theorem smooth_run (initial : T) {crossfadeFrames : ℕ} (h : 0 < crossfadeFrames)
    (events : List (Event T ι c ℝ)) :
    ∃ session : Session T c ℝ,
      runFrom Session.step (new initial crossfadeFrames) events = some session ∧
      session.Smooth crossfadeFrames := by
  have hall : AtEachEvent (fun _ _ => True) events := fun _ _ _ => trivial
  refine runFrom_invariant Session.step (fun _ session => session.Smooth crossfadeFrames)
    (smooth_new initial h) ?_ hall
  intro past session event _ hsmooth _
  exact hsmooth.step event

end Session

end CrossfadingSlot

end RamkolFX
