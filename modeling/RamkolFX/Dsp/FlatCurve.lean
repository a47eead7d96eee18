import RamkolFX.Dsp.BiquadStability
import RamkolFX.Dsp.StageBuffers
import RamkolFX.Support.Binary32Arith
import RamkolFX.Support.Interleaving

/-!
# The flat curve

A peaking section without gain divides its denominator by itself, whatever its
frequency and its Q.  In exact arithmetic such a section never has anything in
its delay state, so a stage that is only given flat curves passes its input on,
and fading from one of them to another does not show either.
-/

namespace RamkolFX

open Support

/-- A peaking band without gain; its frequency and its Q are left open. -/
def EqBand.IsFlat (band : EqBand) : Prop :=
  band.filterType = .peaking ∧ band.gainDb.IsZero

/-! ## The sections -/

namespace Biquad

/-- Numerator and denominator agree, and nothing is delayed. -/
structure Transparent (biquad : Biquad ℝ) : Prop where
  b0 : biquad.b0 = 1
  b1 : biquad.b1 = biquad.a1
  b2 : biquad.b2 = biquad.a2
  z1 : biquad.z1 = 0
  z2 : biquad.z2 = 0

theorem Transparent.processSample {biquad : Biquad ℝ} (h : biquad.Transparent)
    (input : ℝ) : biquad.processSample input = (input, biquad) := by
  have hout : biquad.b0 * input + biquad.z1 = input := by
    rw [h.b0, h.z1, one_mul, add_zero]
  have hz1 : biquad.b1 * input - biquad.a1 * input + biquad.z2 = biquad.z1 := by
    rw [h.b1, sub_self, h.z1, h.z2, add_zero]
  have hz2 : biquad.b2 * input - biquad.a2 * input = biquad.z2 := by
    rw [h.b2, sub_self, h.z2]
  rw [Biquad.processSample]
  simp only [hout, hz1, hz2]

theorem cascade_of_transparent {biquads : List (Biquad ℝ)}
    (h : ∀ biquad ∈ biquads, biquad.Transparent) (sample : ℝ) :
    cascade biquads sample = (sample, biquads) := by
  induction biquads with
  | nil => rfl
  | cons biquad biquads ih =>
      have hfirst := (h biquad List.mem_cons_self).processSample sample
      have hrest := ih fun other hother => h other (List.mem_cons_of_mem _ hother)
      rw [cascade, hfirst]
      simp only [hrest]

theorem amplitudeOf_zero : amplitudeOf 0 = 1 := by
  rw [amplitudeOf, zero_div]
  exact Real.rpow_zero 10

/-- Without gain, numerator and denominator of the peaking response agree. -/
theorem design_peaking_one (c alpha : ℝ) :
    (design .peaking c alpha 1).b0 = (design .peaking c alpha 1).a0 ∧
      (design .peaking c alpha 1).b1 = (design .peaking c alpha 1).a1 ∧
      (design .peaking c alpha 1).b2 = (design .peaking c alpha 1).a2 := by
  have hproduct : alpha * 1 = alpha / 1 := by rw [mul_one, div_one]
  exact ⟨congrArg (1 + ·) hproduct, rfl, congrArg (1 - ·) hproduct⟩

theorem transparent_setCoefficients (frequencyHz q : ℝ) {sampleRate : ℝ}
    (hrange : 1 ≤ sampleRate * FloatArith.ofFloat ⟨0x3EFAE148⟩) :
    (new.setCoefficients .peaking frequencyHz 0 q sampleRate).Transparent := by
  have hstable := designOf_isStable .peaking frequencyHz 0 q hrange
  rw [designOf, amplitudeOf_zero] at hstable
  obtain ⟨hb0, hb1, hb2⟩ := design_peaking_one
    (Real.cos (w0Of frequencyHz sampleRate))
    (alphaOf (Real.sin (w0Of frequencyHz sampleRate)) q)
  rw [setCoefficients_eq, designOf, amplitudeOf_zero, Design.normalized, hb0, hb1,
    hb2, div_self hstable.a0_pos.ne']
  exact ⟨rfl, rfl, rfl, rfl, rfl⟩

end Biquad

/-! ## The filter -/

/-- A zero of either sign has the value zero. -/
theorem ofFloat_of_isZero {x : Binary32} (h : x.IsZero) :
    (FloatArith.ofFloat x : ℝ) = 0 := by
  have hmagnitude : x.magnitude = 0 := h
  have hvalue : x.value = 0 := by
    simp [Binary32.value, hmagnitude]
  show ((x.value : ℚ) : ℝ) = 0
  rw [hvalue, Rat.cast_zero]

namespace GraphicEqFilter

/-- All twenty sections are. -/
def Transparent (filter : GraphicEqFilter ℝ) : Prop :=
  (∀ biquad ∈ filter.left, biquad.Transparent) ∧
    ∀ biquad ∈ filter.right, biquad.Transparent

theorem transparent_new {bands : Fin maxEqBands → EqBand}
    (h : ∀ i, (bands i).IsFlat) {sampleRate : ℝ}
    (hrange : 1 ≤ sampleRate * FloatArith.ofFloat ⟨0x3EFAE148⟩) :
    (new bands sampleRate).Transparent := by
  have hsection : ∀ biquad ∈ List.ofFn fun i => bandSection (bands i) sampleRate,
      biquad.Transparent := by
    intro biquad hbiquad
    obtain ⟨i, rfl⟩ := List.mem_ofFn.mp hbiquad
    obtain ⟨hpeaking, hgain⟩ := h i
    rw [bandSection, hpeaking, ofFloat_of_isZero hgain]
    exact Biquad.transparent_setCoefficients _ _ hrange
  exact ⟨hsection, hsection⟩

theorem Transparent.processFrame {filter : GraphicEqFilter ℝ}
    (h : filter.Transparent) (inFrame : StereoFrame ℝ) :
    filter.processFrame inFrame = (inFrame, filter) := by
  rw [GraphicEqFilter.processFrame, Biquad.cascade_of_transparent h.1,
    Biquad.cascade_of_transparent h.2]
  have hframe : ![inFrame 0, inFrame 1] = inFrame :=
    funext (Fin.forall_fin_two.mpr ⟨rfl, rfl⟩)
  simp only [hframe]

end GraphicEqFilter

/-! ## The slot -/

namespace CrossfadingSlot

/-- Mixing a stream with itself gives the stream, whatever the weights. -/
theorem mix_self (crossfadeFrames remaining : ℕ) (frames : List (StereoFrame ℝ)) :
    mix crossfadeFrames remaining frames frames = frames := by
  induction frames generalizing remaining with
  | nil => rfl
  | cons frame frames ih =>
      rw [mix, ih]
      congr 1
      funext channel
      show frame channel * (1 - (1 - _)) + frame channel * (1 - _) = _
      ring

/-- A block of a slot whose instances all pass their input on. -/
theorem process_of_passes {T : Type} {step : T → StereoFrame ℝ → StereoFrame ℝ × T}
    {Ok : T → Prop} (hpasses : ∀ t, Ok t → ∀ frame, step t frame = (frame, t))
    {slot : CrossfadingSlot T} (h : slot.Sound Ok) (input : List (StereoFrame ℝ)) :
    ∃ after, slot.process (fun t input => some (transduce step t input)) input =
        some (input.take maxProcessFrames, after) ∧ after.Sound Ok := by
  have hrun (t : T) (ht : Ok t) (frames : List (StereoFrame ℝ)) :
      some (transduce step t frames) = some (frames, t) := by
    rw [transduce_of_forall (hpasses t ht)]
  obtain ⟨output, after, hprocess, hsound, -⟩ := process_sound
    (fun t input => some (transduce step t input)) Ok (fun _ _ => True)
    (fun t frames ht => ⟨frames, t, hrun t ht frames, ht, trivial⟩) h input
  refine ⟨after, ?_, hsound⟩
  obtain ⟨live, hlive, hok⟩ := h.takePending.live
  have hnew := hrun live hok (input.take maxProcessFrames)
  by_cases hfade : slot.takePending.fadeFramesRemaining = 0
  · rw [process_of_single hlive hfade hnew] at hprocess ⊢
    rw [(Prod.mk.inj (Option.some.inj hprocess)).2]
  · obtain ⟨old, hold, hokOld⟩ := h.takePending.fadingOut hfade
    have holdRun := hrun old hokOld (input.take maxProcessFrames)
    rw [process_of_fade hlive hfade hold hnew holdRun, mix_self] at hprocess ⊢
    rw [(Prod.mk.inj (Option.some.inj hprocess)).2]

theorem Sound.mono {T : Type} {Ok Weaker : T → Prop} {slot : CrossfadingSlot T}
    (h : slot.Sound Ok) (hmono : ∀ t, Ok t → Weaker t) : slot.Sound Weaker := by
  constructor
  case live =>
    obtain ⟨live, hlive, hok⟩ := h.live
    exact ⟨live, hlive, hmono live hok⟩
  case fadingOut =>
    intro hfade
    obtain ⟨old, hold, hok⟩ := h.fadingOut hfade
    exact ⟨old, hold, hmono old hok⟩
  case pending =>
    intro pending hpending
    exact hmono pending (h.pending pending hpending)

end CrossfadingSlot

/-! ## The stage -/

namespace HwEqStage

/-- Whatever the stage may render is transparent. -/
def Flat (stage : HwEqStage ℝ) : Prop :=
  stage.slot.Sound GraphicEqFilter.Transparent

/-- The input as a block leaves it in the output buffer; in place, nothing has
changed there at all. -/
structure Unchanged (inPlace : Bool) (frames : ℕ) (before after : StereoMemory ℝ) :
    Prop where
  block : ∀ i < min frames maxProcessFrames,
    after .output i = before (inputBuffer inPlace) i
  inPlace : inPlace = true → after .output = before .output

theorem Flat.processInto {stage : HwEqStage ℝ} (h : stage.Flat) (inPlace : Bool)
    (frames : ℕ) (memory : StereoMemory ℝ) :
    ∃ after memory', stage.processInto inPlace frames memory = some (after, memory') ∧
      after.sampleRate = stage.sampleRate ∧ after.Flat ∧
      Unchanged inPlace frames memory memory' := by
  obtain ⟨slot, hprocess, hflat⟩ := CrossfadingSlot.process_of_passes
    (fun _ hfilter => GraphicEqFilter.Transparent.processFrame hfilter) h
    (memory.read (inputBuffer inPlace) frames)
  obtain ⟨memory', hinto, houtput⟩ := CrossfadingSlot.processInto_of_process
    (h.mono fun _ _ => trivial) (inputBuffer_ne inPlace) (fun _ _ _ _ => rfl) hprocess
  have hbehind := fun i => CrossfadingSlot.processInto_of_le (i := i)
    (fun _ _ _ _ => rfl) hinto
  rw [Buffers.take_read, Nat.min_comm maxProcessFrames] at houtput
  have hblock : ∀ i < min frames maxProcessFrames,
      memory' .output i = memory (inputBuffer inPlace) i := by
    intro i hi
    exact List.map_inj_left.mp houtput i (List.mem_range.mpr hi)
  refine ⟨{ stage with slot }, memory', ?_, rfl, hflat, hblock, ?_⟩
  · rw [HwEqStage.processInto, FilterStage.processInto]
    simp only [GraphicEqFilter.processInto, hinto]
    rfl
  · intro hinPlace
    funext i
    obtain hlt | hle := lt_or_ge i (min frames maxProcessFrames)
    · rw [hblock i hlt, inputBuffer, if_pos hinPlace]
    · exact hbehind i hle

/-- What happens to a stage. -/
inductive Event
  | setBands (bands : Fin maxEqBands → EqBand)
  | collectGarbage
  | process (inPlace : Bool) (frames : ℕ) (memory : StereoMemory ℝ)

/-- Every curve that is set is flat. -/
def Event.SetsFlat : Event → Prop
  | .setBands bands => ∀ i, (bands i).IsFlat
  | _ => True

noncomputable def step (stage : HwEqStage ℝ) : Event → Option (HwEqStage ℝ)
  | .setBands bands => some (stage.setBands bands)
  | .collectGarbage => some stage.collectGarbage
  | .process inPlace frames memory =>
      (stage.processInto inPlace frames memory).map Prod.fst

/-- The sample rate of a stage leaves the frequency clamp a range. -/
def HasRange (stage : HwEqStage ℝ) : Prop :=
  1 ≤ stage.sampleRate * FloatArith.ofFloat ⟨0x3EFAE148⟩

theorem Flat.step {stage : HwEqStage ℝ} (h : stage.Flat) (hrange : stage.HasRange)
    {event : Event} (hevent : event.SetsFlat) :
    ∃ after, stage.step event = some after ∧ after.Flat ∧ after.HasRange := by
  cases event with
  | setBands bands =>
      refine ⟨_, rfl, ?_, hrange⟩
      exact CrossfadingSlot.Sound.publish h
        (GraphicEqFilter.transparent_new hevent hrange)
  | collectGarbage => exact ⟨_, rfl, CrossfadingSlot.Sound.collectGarbage h, hrange⟩
  | process inPlace frames memory =>
      obtain ⟨after, memory', hinto, hrate, hflat, -⟩ :=
        h.processInto inPlace frames memory
      refine ⟨after, ?_, hflat, ?_⟩
      · rw [HwEqStage.step, hinto, Option.map_some]
      · rw [HasRange, hrate]
        exact hrange

theorem flat_runFrom {initialBands : Fin maxEqBands → EqBand}
    (hinitial : ∀ i, (initialBands i).IsFlat) {sampleRate : ℝ}
    (hrange : 1 ≤ sampleRate * FloatArith.ofFloat ⟨0x3EFAE148⟩)
    {events : List Event} (hevents : ∀ event ∈ events, event.SetsFlat) :
    ∃ stage, runFrom step (new initialBands sampleRate) events = some stage ∧
      stage.Flat ∧ stage.HasRange := by
  induction events using List.reverseRecOn with
  | nil =>
      refine ⟨_, rfl, ?_, hrange⟩
      exact CrossfadingSlot.sound_initial
        (GraphicEqFilter.transparent_new hinitial hrange) _
  | append_singleton events event ih =>
      obtain ⟨stage, hrun, hflat, hrate⟩ :=
        ih fun event hevent => hevents event (List.mem_append_left _ hevent)
      obtain ⟨after, hstep, hafter⟩ := hflat.step hrate
        (hevents event (List.mem_append_right events (List.mem_singleton_self event)))
      exact ⟨after, runFrom_concat_of hrun hstep, hafter⟩

/-- A stage that is built from a flat curve and only retuned to flat ones passes
every block on unchanged, in the middle of a fade as well. -/
theorem flat_passes_input {initialBands : Fin maxEqBands → EqBand}
    (hinitial : ∀ i, (initialBands i).IsFlat) {sampleRate : ℝ}
    (hrange : 1 ≤ sampleRate * FloatArith.ofFloat ⟨0x3EFAE148⟩)
    {events : List Event} (hevents : ∀ event ∈ events, event.SetsFlat) :
    ∃ stage, runFrom step (new initialBands sampleRate) events = some stage ∧
      ∀ inPlace frames memory, ∃ after memory',
        stage.processInto inPlace frames memory = some (after, memory') ∧
          Unchanged inPlace frames memory memory' := by
  obtain ⟨stage, hrun, hflat, -⟩ := flat_runFrom hinitial hrange hevents
  refine ⟨stage, hrun, ?_⟩
  intro inPlace frames memory
  obtain ⟨after, memory', hinto, -, -, hunchanged⟩ :=
    hflat.processInto inPlace frames memory
  exact ⟨after, memory', hinto, hunchanged⟩

theorem isFlat_defaultHwEqBands (i : Fin maxEqBands) :
    (defaultHwEqBands i).IsFlat :=
  ⟨rfl, rfl⟩

/-- The default curve, set again before the second block of the stream. -/
theorem flat_passes_input_default :
    ∃ stage, runFrom step (new defaultHwEqBands HardwareOutput.sampleRate)
        [.process true 64 fun _ _ _ => 1, .setBands defaultHwEqBands] =
          some stage ∧
      ∃ after memory',
        stage.processInto true 64 (fun _ _ _ => 1) = some (after, memory') ∧
          Unchanged true 64 (fun _ _ _ => 1) memory' := by
  have hevents : ∀ event ∈ [Event.process true 64 fun _ _ _ => 1,
      .setBands defaultHwEqBands], event.SetsFlat := by
    intro event hevent
    simp only [List.mem_cons, List.not_mem_nil, or_false] at hevent
    rcases hevent with rfl | rfl
    · trivial
    · exact isFlat_defaultHwEqBands
  obtain ⟨stage, hrun, hpasses⟩ := flat_passes_input isFlat_defaultHwEqBands
    Biquad.one_le_sampleRate_mul hevents
  exact ⟨stage, hrun, hpasses true 64 fun _ _ _ => 1⟩

end HwEqStage

end RamkolFX
