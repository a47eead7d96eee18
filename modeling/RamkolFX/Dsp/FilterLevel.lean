import RamkolFX.Dsp.EqRuns
import Mathlib.Analysis.SpecialFunctions.Trigonometric.DerivHyp

/-!
# The level behind the filter stages

In exact arithmetic every curve raises the level of a stereo stream by a factor
of its own at most, the bass enhancer adds a limited amount, and a fade between
two filters never exceeds the louder one.
-/

namespace RamkolFX

open Support

/-- No sample of these frames exceeds the level. -/
def Within {c : ℕ} (level : ℝ) (frames : List (AudioFrame c ℝ)) : Prop :=
  ∀ frame ∈ frames, ∀ channel, |frame channel| ≤ level

theorem Within.mono {c : ℕ} {level higher : ℝ} {frames : List (AudioFrame c ℝ)}
    (h : Within level frames) (hle : level ≤ higher) : Within higher frames :=
  fun frame hframe channel => (h frame hframe channel).trans hle

theorem Within.append {c : ℕ} {level : ℝ} {frames more : List (AudioFrame c ℝ)}
    (h : Within level frames) (hmore : Within level more) :
    Within level (frames ++ more) := by
  intro frame hframe
  rcases List.mem_append.mp hframe with hfirst | hsecond
  · exact h frame hfirst
  · exact hmore frame hsecond

section

variable {F : Type} {step : F → StereoFrame ℝ → StereoFrame ℝ × F}

/-- From this filter as it is constructed, frames within a level come out within
the raised one. -/
def Raises (step : F → StereoFrame ℝ → StereoFrame ℝ × F) (fresh : F)
    (gain offset : ℝ) : Prop :=
  ∀ level frames, 0 ≤ level → Within level frames →
    Within (gain * level + offset) (transduce step fresh frames).1

theorem Raises.mono {fresh : F} {gain offset gain' offset' : ℝ}
    (h : Raises step fresh gain offset) (hgain : gain ≤ gain')
    (hoffset : offset ≤ offset') : Raises step fresh gain' offset' := by
  intro level frames hlevel hframes
  apply (h level frames hlevel hframes).mono
  exact add_le_add (mul_le_mul_of_nonneg_right hgain hlevel) hoffset

/-- It is enough to look at endless streams. -/
theorem raises_of_outputAt {fresh : F} {gain offset : ℝ}
    (h : ∀ (x : ℕ → StereoFrame ℝ) (level : ℝ), 0 ≤ level →
      (∀ n channel, |x n channel| ≤ level) →
      ∀ n channel, |outputAt step fresh x n channel| ≤ gain * level + offset) :
    Raises step fresh gain offset := by
  intro level frames hlevel hframes
  let x : ℕ → StereoFrame ℝ := fun n => frames.getD n 0
  have hx : ∀ n channel, |x n channel| ≤ level := by
    intro n channel
    by_cases hn : n < frames.length
    · rw [show x n = frames[n] from List.getD_eq_getElem _ _ hn]
      exact hframes _ (List.getElem_mem hn) channel
    · rw [show x n = 0 from List.getD_eq_default _ _ (Nat.not_lt.mp hn)]
      rwa [Pi.zero_apply, abs_zero]
  have hpiece : frames = piece x 0 frames.length := by
    apply List.ext_getElem
    · rw [length_piece, Nat.sub_zero]
    · intro n hn hn'
      rw [getElem_piece, Nat.zero_add]
      exact (List.getD_eq_getElem _ _ hn).symm
  have houtput := transduce_piece step fresh x (Nat.zero_le frames.length)
  rw [← hpiece] at houtput
  intro frame hframe channel
  rw [show (transduce step fresh frames).1 = _ from congrArg Prod.fst houtput, piece,
    List.mem_map] at hframe
  obtain ⟨n, -, rfl⟩ := hframe
  exact h x level hlevel hx n channel

/-- A filter that was fresh and has run on frames within the level. -/
def Reached (step : F → StereoFrame ℝ → StereoFrame ℝ × F) (Fresh : F → Prop)
    (level : ℝ) (filter : F) : Prop :=
  ∃ fresh past, Fresh fresh ∧ Within level past ∧
    filter = (transduce step fresh past).2

variable {Fresh : F → Prop} {gain offset level : ℝ}

theorem reached_of_fresh {filter : F} (h : Fresh filter) :
    Reached step Fresh level filter :=
  ⟨filter, [], h, nofun, rfl⟩

/-- A filter goes on with the stream. -/
theorem Reached.transduce
    (hraises : ∀ fresh, Fresh fresh → Raises step fresh gain offset)
    {filter : F} (h : Reached step Fresh level filter) (hlevel : 0 ≤ level)
    {frames : List (StereoFrame ℝ)} (hframes : Within level frames) :
    Within (gain * level + offset) (Support.transduce step filter frames).1 ∧
      Reached step Fresh level (Support.transduce step filter frames).2 := by
  obtain ⟨fresh, past, hfresh, hpast, rfl⟩ := h
  have hall := hraises fresh hfresh level (past ++ frames) hlevel
    (hpast.append hframes)
  rw [transduce_append] at hall
  refine ⟨fun frame hframe => hall frame (List.mem_append_right _ hframe), ?_⟩
  refine ⟨fresh, past ++ frames, hfresh, hpast.append hframes, ?_⟩
  rw [transduce_append]

end

/-- The factors of finitely many filters have a common bound. -/
theorem exists_common_gain {filters : List F}
    (h : ∀ fresh ∈ filters, ∃ gain offset,
      0 ≤ gain ∧ 0 ≤ offset ∧ Raises step fresh gain offset) :
    ∃ gain offset, 0 ≤ gain ∧ 0 ≤ offset ∧
      ∀ fresh ∈ filters, Raises step fresh gain offset := by
  induction filters with
  | nil => exact ⟨0, 0, le_rfl, le_rfl, nofun⟩
  | cons filter filters ih =>
      obtain ⟨first, firstOffset, hfirst, hfirstOffset, hraises⟩ :=
        h filter List.mem_cons_self
      obtain ⟨rest, restOffset, hrest, hrestOffset, hothers⟩ :=
        ih fun other hother => h other (List.mem_cons_of_mem _ hother)
      refine ⟨max first rest, max firstOffset restOffset, hfirst.trans (le_max_left _ _),
        hfirstOffset.trans (le_max_left _ _), ?_⟩
      intro fresh hfresh
      rcases List.mem_cons.mp hfresh with rfl | hmem
      · exact hraises.mono (le_max_left _ _) (le_max_left _ _)
      · exact (hothers fresh hmem).mono (le_max_right _ _) (le_max_right _ _)

/-! ## The two filters -/

/-- A curve raises every level by a factor of its own at most. -/
theorem GraphicEqFilter.exists_raises (bands : Fin maxEqBands → EqBand) {sampleRate : ℝ}
    (hrange : 1 ≤ sampleRate * FloatArith.ofFloat ⟨0x3EFAE148⟩) :
    ∃ gain, 0 ≤ gain ∧ Raises processFrame (new bands sampleRate) gain 0 := by
  obtain ⟨gain, hgain, hbound⟩ := Biquad.exists_gain_cascade
    (stable_bands bands hrange) (silent_bands bands)
  refine ⟨gain, hgain, raises_of_outputAt fun x level _ hx n channel => ?_⟩
  rw [outputAt_processFrame, add_zero]
  revert channel
  exact Fin.forall_fin_two.mpr
    ⟨hbound (fun k => x k 0) level (fun k => hx k 0) n,
      hbound (fun k => x k 1) level (fun k => hx k 1) n⟩

namespace BassEnhancerFilter

variable (filter : BassEnhancerFilter ℝ) (x : ℕ → StereoFrame ℝ)

/-- What the low-pass section is fed. -/
noncomputable def monoAt (n : ℕ) : ℝ :=
  FloatArith.ofFloat ⟨0x3F000000⟩ * (x n 0 + x n 1)

/-- What the high-pass section is fed. -/
noncomputable def drivenAt (n : ℕ) : ℝ :=
  Real.tanh (filter.drive * outputAt Biquad.processSample filter.lowPass (monoAt x) n) /
    filter.tanhDrive

/-- The state of an enabled enhancer, section by section. -/
theorem stateAt_passFrame (henabled : filter.bEnabled = true) (n : ℕ) :
    stateAt passFrame filter x n =
      { filter with
        lowPass := stateAt Biquad.processSample filter.lowPass (monoAt x) n
        highPass :=
          stateAt Biquad.processSample filter.highPass (filter.drivenAt x) n } := by
  induction n with
  | zero => rfl
  | succ n ih =>
      rw [stateAt, ih, passFrame, if_pos henabled]
      rfl

theorem outputAt_passFrame (henabled : filter.bEnabled = true) (n : ℕ) :
    outputAt passFrame filter x n = fun channel => x n channel +
      outputAt Biquad.processSample filter.highPass (filter.drivenAt x) n *
        filter.mix := by
  rw [outputAt, stateAt_passFrame filter x henabled, passFrame, if_pos henabled]
  funext channel
  revert channel
  exact Fin.forall_fin_two.mpr ⟨rfl, rfl⟩

/-- An enhancer that is switched off passes everything on. -/
theorem outputAt_passFrame_of_disabled (hdisabled : filter.bEnabled = false) (n : ℕ) :
    outputAt passFrame filter x n = x n := by
  have hstate : ∀ n, stateAt passFrame filter x n = filter := by
    intro n
    induction n with
    | zero => rfl
    | succ n ih => rw [stateAt, ih, passFrame, hdisabled, if_neg Bool.false_ne_true]
  rw [outputAt, hstate, passFrame, hdisabled, if_neg Bool.false_ne_true]

/-- The drive amplifies, so that the saturation is never scaled by a division by
zero. -/
theorem tanhDrive_pos (settings : BassEnhancerSettings) (sampleRate : ℝ) :
    0 < (new settings sampleRate).tanhDrive := by
  have hpow : 0 < Real.rpow (maxInternalGain / minInternalGain)
      (stdClamp (FloatArith.ofFloat settings.drive) 0 1) := by
    apply Real.rpow_pos_of_pos
    rw [maxInternalGain, minInternalGain]
    norm_num
  have hdrive : 0 < (new settings sampleRate).drive := by
    show 0 < minInternalGain * Real.rpow _ _
    rw [minInternalGain, one_mul]
    exact hpow
  show 0 < Real.tanh (new settings sampleRate).drive
  rw [Real.tanh_eq_sinh_div_cosh]
  exact div_pos (Real.sinh_pos_iff.mpr hdrive) (Real.cosh_pos _)

/-- The enhancer adds a limited amount. -/
theorem exists_raises (settings : BassEnhancerSettings) {sampleRate : ℝ}
    (hrange : 1 ≤ sampleRate * FloatArith.ofFloat ⟨0x3EFAE148⟩) :
    ∃ offset, 0 ≤ offset ∧ Raises passFrame (new settings sampleRate) 1 offset := by
  let filter : BassEnhancerFilter ℝ := new settings sampleRate
  have hpositive : 0 < filter.tanhDrive := tanhDrive_pos settings sampleRate
  have hstable : filter.highPass.Stable :=
    Biquad.stable_setCoefficients _ .highPass _ _ _ hrange
  obtain ⟨gain, hgain, hbound⟩ := (Biquad.stable_toSecondOrder hstable).exists_gain
  have hoffset : 0 ≤ gain * (1 / filter.tanhDrive) * |filter.mix| := by positivity
  refine ⟨_, hoffset, raises_of_outputAt fun x level _ hx n channel => ?_⟩
  rw [one_mul]
  cases henabled : filter.bEnabled with
  | false =>
      rw [outputAt_passFrame_of_disabled filter x henabled]
      exact (hx n channel).trans (le_add_of_nonneg_right hoffset)
  | true =>
      have hdriven : ∀ n, |filter.drivenAt x n| ≤ 1 / filter.tanhDrive := by
        intro n
        rw [drivenAt, abs_div, abs_of_pos hpositive]
        exact div_le_div_of_nonneg_right (Real.abs_tanh_lt_one _).le hpositive.le
      have hwet := hbound _ _ _ _ _ (Biquad.runs_stateAt filter.highPass
        (filter.drivenAt x)) rfl rfl hdriven n
      rw [outputAt_passFrame filter x henabled]
      refine (abs_add_le _ _).trans (add_le_add (hx n channel) ?_)
      rw [abs_mul]
      exact mul_le_mul_of_nonneg_right hwet (abs_nonneg _)

end BassEnhancerFilter

/-! ## Fades -/

namespace CrossfadingSlot

theorem abs_mix_le {old new weight level : ℝ} (hold : |old| ≤ level)
    (hnew : |new| ≤ level) (hweight : 0 ≤ weight) (hweight1 : weight ≤ 1) :
    |old * (1 - weight) + new * weight| ≤ level := by
  calc |old * (1 - weight) + new * weight|
      ≤ |old * (1 - weight)| + |new * weight| := abs_add_le _ _
    _ = |old| * (1 - weight) + |new| * weight := by
        rw [abs_mul, abs_mul, abs_of_nonneg hweight,
          abs_of_nonneg (sub_nonneg.mpr hweight1)]
    _ ≤ level * (1 - weight) + level * weight := by
        gcongr
    _ = level := by ring

/-- A fade does not exceed the louder of its filters. -/
theorem within_mix {level : ℝ} {crossfadeFrames remaining : ℕ}
    (hremaining : remaining ≤ crossfadeFrames)
    {oldFrames newFrames : List (StereoFrame ℝ)} (hold : Within level oldFrames)
    (hnew : Within level newFrames) :
    Within level (mix crossfadeFrames remaining oldFrames newFrames) := by
  induction oldFrames generalizing remaining newFrames with
  | nil => exact nofun
  | cons oldFrame oldFrames ih =>
      match newFrames, hnew with
      | [], _ => exact nofun
      | newFrame :: newFrames, hnew =>
          intro frame hframe channel
          rw [mix] at hframe
          rcases List.mem_cons.mp hframe with rfl | hrest
          · have hshare : (remaining : ℝ) / crossfadeFrames ≤ 1 :=
              div_le_one_of_le₀ (Nat.cast_le.mpr hremaining) (Nat.cast_nonneg _)
            have hshare0 : 0 ≤ (remaining : ℝ) / crossfadeFrames :=
              div_nonneg (Nat.cast_nonneg _) (Nat.cast_nonneg _)
            exact abs_mix_le (hold oldFrame List.mem_cons_self channel)
              (hnew newFrame List.mem_cons_self channel) (sub_nonneg.mpr hshare)
              (sub_le_self 1 hshare0)
          · exact ih ((Nat.sub_le _ _).trans hremaining)
              (fun other hother => hold other (List.mem_cons_of_mem _ hother))
              (fun other hother => hnew other (List.mem_cons_of_mem _ hother)) frame
              hrest channel

variable {T : Type} {step : T → StereoFrame ℝ → StereoFrame ℝ × T} {Fresh : T → Prop}
  {gain offset level : ℝ} {slot after : CrossfadingSlot T}

/-- Whatever the slot may render was fresh once and has run on frames within the
level. -/
structure Playing (step : T → StereoFrame ℝ → StereoFrame ℝ × T) (Fresh : T → Prop)
    (level : ℝ) (slot : CrossfadingSlot T) : Prop where
  sound : slot.Sound (Reached step Fresh level)
  fading : slot.fadeFramesRemaining ≤ slot.crossfadeFrames

theorem playing_initial {initial : T} (h : Fresh initial) (crossfadeFrames : ℕ) :
    Playing step Fresh level { live := some initial, crossfadeFrames } :=
  ⟨sound_initial (reached_of_fresh h) crossfadeFrames, Nat.zero_le _⟩

theorem Playing.publish (h : Playing step Fresh level slot) {newValue : T}
    (hnew : Fresh newValue) : Playing step Fresh level (slot.publish newValue) :=
  ⟨h.sound.publish (reached_of_fresh hnew), h.fading⟩

theorem Playing.collectGarbage (h : Playing step Fresh level slot) :
    Playing step Fresh level slot.collectGarbage :=
  ⟨h.sound.collectGarbage, h.fading⟩

theorem Playing.takePending (h : Playing step Fresh level slot) :
    Playing step Fresh level slot.takePending := by
  refine ⟨h.sound.takePending, ?_⟩
  rw [CrossfadingSlot.takePending]
  split
  · exact Nat.le_refl _
  · exact h.fading

/-- A block within the level is rendered within the raised level. -/
theorem Playing.process (h : Playing step Fresh level slot) (hlevel : 0 ≤ level)
    (hraises : ∀ fresh, Fresh fresh → Raises step fresh gain offset)
    {block output : List (StereoFrame ℝ)} (hblock : Within level block)
    (hprocess : slot.process (fun t input => some (transduce step t input)) block =
      some (output, after)) :
    Within (gain * level + offset) output ∧ Playing step Fresh level after := by
  have htaken := h.takePending
  have htake : Within level (block.take maxProcessFrames) :=
    fun frame hframe => hblock frame (List.mem_of_mem_take hframe)
  obtain ⟨live, hlive, hreached⟩ := htaken.sound.live
  obtain ⟨hnew, hlive'⟩ := hreached.transduce hraises hlevel htake
  by_cases hfade : slot.takePending.fadeFramesRemaining = 0
  · rw [process_of_single hlive hfade rfl] at hprocess
    obtain ⟨rfl, rfl⟩ := Prod.mk.inj (Option.some.inj hprocess)
    refine ⟨hnew, ⟨⟨_, rfl, hlive'⟩, htaken.sound.fadingOut, htaken.sound.pending⟩, ?_⟩
    exact htaken.fading
  · obtain ⟨old, hold, hreachedOld⟩ := htaken.sound.fadingOut hfade
    obtain ⟨holdFrames, hold'⟩ := hreachedOld.transduce hraises hlevel htake
    rw [process_of_fade hlive hfade hold rfl rfl] at hprocess
    obtain ⟨rfl, rfl⟩ := Prod.mk.inj (Option.some.inj hprocess)
    refine ⟨within_mix htaken.fading holdFrames hnew, ?_, ?_⟩
    · apply Sound.discardFaded
      exact ⟨⟨_, rfl, hlive'⟩, fun _ => ⟨_, rfl, hold'⟩, htaken.sound.pending⟩
    · rw [discardFaded_fadeFramesRemaining, discardFaded_crossfadeFrames]
      exact (Nat.sub_le _ _).trans htaken.fading

end CrossfadingSlot

/-- A block through a stage whose filters have all run within the level. -/
theorem FilterStage.process_playing {F : Type}
    {step : F → StereoFrame ℝ → StereoFrame ℝ × F} {Fresh : F → Prop}
    {gain offset level : ℝ} {runOne : F → List (StereoFrame ℝ) → List (StereoFrame ℝ) × F}
    (hrun : ∀ filter input, runOne filter input = transduce step filter input)
    {stage stage' : FilterStage F ℝ} (hplaying : stage.slot.Playing step Fresh level)
    (hlevel : 0 ≤ level)
    (hraises : ∀ fresh, Fresh fresh → Raises step fresh gain offset)
    {block output : List (StereoFrame ℝ)} (hblock : Within level block)
    (hprocess : stage.process runOne block = some (output, stage')) :
    Within (gain * level + offset) output ∧ stage'.slot.Playing step Fresh level ∧
      stage'.sampleRate = stage.sampleRate := by
  obtain rfl : runOne = transduce step := by
    funext filter input
    exact hrun filter input
  obtain ⟨⟨rendered, slot⟩, hslot, hrest⟩ := Option.bind_eq_some_iff.mp hprocess
  obtain ⟨rfl, rfl⟩ := Prod.mk.inj (Option.some.inj hrest)
  obtain ⟨hwithin, hplaying'⟩ := hplaying.process hlevel hraises hblock hslot
  exact ⟨hwithin, hplaying', rfl⟩

end RamkolFX
