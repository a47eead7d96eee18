import RamkolFX.Daemon.MutedSpeakers
import RamkolFX.Daemon.TestNoise
import RamkolFX.Daemon.SpeakerDistances
import RamkolFX.Dsp.AmbisonicsBound
import RamkolFX.Dsp.FilterLevel

/-!
# The level of the output

In exact arithmetic the daemon does not run away: in the modes that do not
convolve, what it pushes to the hardware side stays within a level that depends
only on the level of what is captured, on the curves and on the settings that
are ever used, however long it runs and whatever is switched, moved (to a distance
that is a number), muted or faded in the meantime.
-/

namespace RamkolFX

open Support

namespace AudioEngine

/-! ## What the stages get to see -/

/-- A sample of the test noise stays within its gain. -/
theorem abs_noiseSample_le (noiseState : UInt32) :
    |(noiseSample noiseState : ℝ)| ≤ 1 / 4 := by
  have hbits : noiseState.toNat / 256 < 2 ^ 24 := by
    have hlt := noiseState.toNat_lt
    omega
  have hbound : ((noiseState.toNat / 256 : ℕ) : ℝ) ≤ 2 ^ 24 := by
    exact_mod_cast hbits.le
  have hnonneg : (0 : ℝ) ≤ ((noiseState.toNat / 256 : ℕ) : ℝ) := Nat.cast_nonneg _
  rw [noiseSample_eq, abs_le]
  constructor <;> linarith

theorem within_fillTestNoise (frames : ℕ) (noiseState : UInt32) :
    Within (1 / 4) (fillTestNoise frames noiseState : List (SevenOneFrame ℝ) × UInt32).1 := by
  rw [fillTestNoise_eq]
  intro frame hframe channel
  obtain ⟨k, -, rfl⟩ := List.mem_map.mp hframe
  rw [noiseFrame]
  rcases eq_lfe_or_speaker channel with rfl | ⟨speaker, rfl⟩
  · rw [testNoiseFrame_lfe, abs_zero]
    norm_num
  · rw [testNoiseFrame_speaker]
    exact abs_noiseSample_le _

/-- The speakers' samples do not leave a level, the LFE sample is left alone. -/
theorem within_mapSpeakers {level higher : ℝ} (hhigher : level ≤ higher)
    {f : SpeakerChannel → ℝ → ℝ}
    (hf : ∀ speaker sample, |sample| ≤ level → |f speaker sample| ≤ higher)
    {input : List (SevenOneFrame ℝ)} (h : Within level input) :
    Within higher (input.map (mapSpeakers f)) := by
  intro frame hframe channel
  obtain ⟨inFrame, hmem, rfl⟩ := List.mem_map.mp hframe
  rcases eq_lfe_or_speaker channel with rfl | ⟨speaker, rfl⟩
  · rw [mapSpeakers_lfe]
    exact (h inFrame hmem _).trans hhigher
  · rw [mapSpeakers_speaker]
    exact hf speaker _ (h inFrame hmem _)

theorem within_applySpeakerMute (layout : SpeakerLayout) {level : ℝ} (hlevel : 0 ≤ level)
    {input : List (SevenOneFrame ℝ)} (h : Within level input) :
    Within level (applySpeakerMute layout input) := by
  rw [applySpeakerMute]
  split
  · exact h
  · apply within_mapSpeakers le_rfl _ h
    intro speaker sample hsample
    split
    · rwa [abs_zero]
    · exact hsample

theorem abs_falloffGain_le {layout : SpeakerLayout} (h : layout.DistancesAreNumbers)
    (speaker : SpeakerChannel) : |(falloffGain layout speaker : ℝ)| ≤ 10 / 3 := by
  have hclamped : Clamped (layout.speakerDistanceMeters speaker) := by
    have hclamped := clamped_clampDistance (h speaker)
    rwa [layout.clamped speaker] at hclamped
  have hmin : 3 / 10 < minSpeakerDistanceMeters.value := by decide +kernel
  have hdivisor : 3 / 10 < (stdMax (layout.speakerDistanceMeters speaker)
      minSpeakerDistanceMeters).value := by
    rw [stdMax]
    split
    · exact hmin
    · exact hmin.trans_le hclamped.inRange.lower
  have hreal : ((3 / 10 : ℚ) : ℝ) < FloatArith.ofFloat
      (stdMax (layout.speakerDistanceMeters speaker) minSpeakerDistanceMeters) :=
    Rat.cast_lt.mpr hdivisor
  push_cast at hreal
  rw [falloffGain, abs_of_pos (one_div_pos.mpr (by linarith)), one_div]
  calc _ ≤ (3 / 10 : ℝ)⁻¹ := by gcongr
    _ = 10 / 3 := by norm_num

/-- Speakers that are near are made louder, by the clamped distance at most. -/
theorem within_applyNearFieldLoudnessFalloff (bNearFieldEnabled : Bool)
    {layout : SpeakerLayout}
    (hdistances : layout.DistancesAreNumbers) {level : ℝ}
    (hlevel : 0 ≤ level) {input : List (SevenOneFrame ℝ)} (h : Within level input) :
    Within (10 / 3 * level)
      (applyNearFieldLoudnessFalloff bNearFieldEnabled layout input) := by
  have hhigher : level ≤ 10 / 3 * level := by linarith
  rw [applyNearFieldLoudnessFalloff]
  split
  · apply within_mapSpeakers hhigher _ h
    intro speaker sample hsample
    rw [abs_mul]
    have hgain := abs_falloffGain_le hdistances speaker
    calc |sample| * |falloffGain layout speaker| ≤ level * (10 / 3) :=
          mul_le_mul hsample hgain (abs_nonneg _) hlevel
      _ = 10 / 3 * level := mul_comm _ _
  · exact h.mono hhigher

theorem within_captureInput (engine : AudioEngine ℝ)
    (hdistances : engine.sharedLayout.DistancesAreNumbers) {level : ℝ} (hlevel : 0 ≤ level)
    {block : List (SevenOneFrame ℝ)} (h : Within level block) :
    Within (10 / 3 * (level + 1 / 4)) (captureInput engine block).1 := by
  have hnoisy : 0 ≤ level + 1 / 4 := by linarith
  have htake : Within level (block.take maxProcessFrames) :=
    fun frame hframe => h frame (List.mem_of_mem_take hframe)
  rw [captureInput]
  apply within_applyNearFieldLoudnessFalloff _ hdistances hnoisy
  apply within_applySpeakerMute _ hnoisy
  split
  · exact (within_fillTestNoise _ _).mono (by linarith)
  · exact htake.mono (by linarith)

/-! ## What the stages make of it -/

theorem within_passthrough {level : ℝ} (hlevel : 0 ≤ level)
    {input : List (SevenOneFrame ℝ)} (h : Within level input) :
    Within (15 / 2 * level) (PassthroughStage.process input) := by
  have hscaled : ∀ {gain sample : ℝ}, 0 < gain ∧ gain < 1 → |sample| ≤ level →
      |gain * sample| ≤ level := by
    rintro gain sample ⟨hpos, hlt⟩ hsample
    rw [abs_mul, abs_of_pos hpos]
    exact (mul_le_of_le_one_left (abs_nonneg sample) hlt.le).trans hsample
  have hcenter : 0 < (PassthroughStage.centerGain : ℝ) ∧
      (PassthroughStage.centerGain : ℝ) < 1 := by
    have hmem := @ofFloat_mem ⟨0x3F34FDF4⟩ 0 1 (by decide +kernel) (by decide +kernel)
    exact_mod_cast hmem
  have hhalf : 0 < (PassthroughStage.surroundGain : ℝ) ∧
      (PassthroughStage.surroundGain : ℝ) < 1 := by
    have hmem := @ofFloat_mem ⟨0x3F000000⟩ 0 1 (by decide +kernel) (by decide +kernel)
    exact_mod_cast hmem
  have hsum : ∀ inFrame ∈ input, ∀ front rear side : SevenOneChannel,
      |inFrame.at front + PassthroughStage.centerGain * inFrame.at .fc +
        PassthroughStage.surroundGain * inFrame.at rear +
        PassthroughStage.surroundGain * inFrame.at side +
        lfeGain * inFrame.at .lfe| ≤ 15 / 2 * level := by
    intro inFrame hmem front rear side
    have hfront := abs_le.mp (h inFrame hmem front.index)
    have hfc := abs_le.mp (hscaled hcenter (h inFrame hmem SevenOneChannel.fc.index))
    have hrear := abs_le.mp (hscaled hhalf (h inFrame hmem rear.index))
    have hside := abs_le.mp (hscaled hhalf (h inFrame hmem side.index))
    have hlfe : _ ∧ lfeGain * inFrame.at .lfe ≤ level :=
      abs_le.mp (hscaled hhalf (h inFrame hmem SevenOneChannel.lfe.index))
    simp only [SevenOneFrame.at] at hlfe ⊢
    rw [abs_le]
    constructor <;> linarith
  intro outFrame hframe channel
  obtain ⟨inFrame, hmem, rfl⟩ := List.mem_map.mp hframe
  revert channel
  exact Fin.forall_fin_two.mpr
    ⟨hsum inFrame hmem .fl .rl .sl, hsum inFrame hmem .fr .rr .sr⟩

theorem within_ambisonics (layout : SpeakerLayout) {level : ℝ}
    {input : List (SevenOneFrame ℝ)} (h : Within level input) :
    Within (15 / 2 * level) (AmbisonicsStage.process layout input) := by
  intro outFrame hframe channel
  obtain ⟨inFrame, hmem, rfl⟩ := List.mem_map.mp hframe
  have hsources : ∑ speaker, |inFrame.sources speaker| ≤ 7 * level := by
    have hsum := Finset.sum_le_card_nsmul (Finset.univ : Finset SpeakerChannel)
      (fun speaker => |inFrame.sources speaker|) level fun speaker _ => h inFrame hmem _
    rwa [Finset.card_univ, Fintype.card_fin, nsmul_eq_mul] at hsum
  have hlfe : |inFrame.at .lfe| ≤ level := h inFrame hmem _
  calc |AmbisonicsStage.processFrame layout.snapshotDirections inFrame channel|
      ≤ AmbisonicsStage.level inFrame :=
        AmbisonicsStage.abs_processFrame_le (layout.snapshotDirections_onCircle) _ _
    _ = ∑ speaker, |inFrame.sources speaker| + 1 / 2 * |inFrame.at .lfe| := rfl
    _ ≤ 15 / 2 * level := by linarith

/-- A state in which the output is bounded: the stage that is active does not
convolve, no distance is a NaN, and the curve and the settings are among these. -/
structure Tame (curves : List (Fin maxEqBands → EqBand))
    (settings : List BassEnhancerSettings) (engine : AudioEngine ℝ) : Prop where
  mode : engine.mode ≠ .advanced
  distances : engine.sharedLayout.DistancesAreNumbers
  curve : engine.hwEqBandState ∈ curves
  enhancer : engine.bassEnhancerSettingsState ∈ settings

theorem Tame.processActiveStage {curves : List (Fin maxEqBands → EqBand)}
    {settings : List BassEnhancerSettings} {engine : AudioEngine ℝ}
    (h : engine.Tame curves settings) (libs : DspLibraries ℝ) {level : ℝ}
    (hlevel : 0 ≤ level) {block : List (SevenOneFrame ℝ)} (hblock : Within level block)
    {output : List (StereoFrame ℝ)} {deck : HrtfDeck ℝ}
    (hprocess : processActiveStage libs engine (captureInput engine block).1 =
      some (output, deck)) :
    Within (25 * (level + 1 / 4)) output := by
  have hinput := within_captureInput engine h.distances hlevel hblock
  have hloud : 15 / 2 * (10 / 3 * (level + 1 / 4)) = 25 * (level + 1 / 4) := by ring
  rw [AudioEngine.processActiveStage, if_neg h.mode] at hprocess
  split at hprocess
  · obtain ⟨rfl, -⟩ := Prod.mk.inj (Option.some.inj hprocess)
    rw [← hloud]
    exact within_ambisonics _ hinput
  · obtain ⟨rfl, -⟩ := Prod.mk.inj (Option.some.inj hprocess)
    rw [← hloud]
    exact within_passthrough (by linarith) hinput

/-! ## Runs -/

/-- The filters that a stage can have been given. -/
def Fresh {κ F : Type} (new : κ → ℝ → F) (used : List κ) (filter : F) : Prop :=
  ∃ settings ∈ used, filter = new settings HardwareOutput.sampleRate

variable {curves : List (Fin maxEqBands → EqBand)} {settings : List BassEnhancerSettings}
  {engine engine' : AudioEngine ℝ} {eqLevel bassLevel : ℝ}

/-- The filters of the engine have seen frames within these levels only. -/
structure Levelled (curves : List (Fin maxEqBands → EqBand))
    (settings : List BassEnhancerSettings) (eqLevel bassLevel : ℝ)
    (engine : AudioEngine ℝ) : Prop where
  sound : engine.Sound
  hwEq : engine.hwEq.slot.Playing GraphicEqFilter.processFrame
    (Fresh GraphicEqFilter.new curves) eqLevel
  hwEqRate : engine.hwEq.sampleRate = HardwareOutput.sampleRate
  bassEnhancer : engine.bassEnhancer.slot.Playing BassEnhancerFilter.passFrame
    (Fresh BassEnhancerFilter.new settings) bassLevel
  bassEnhancerRate : engine.bassEnhancer.sampleRate = HardwareOutput.sampleRate

/-- What leaves the filters alone keeps their levels. -/
theorem Levelled.of_same (h : engine.Levelled curves settings eqLevel bassLevel)
    (hsound : engine'.Sound) (hhwEq : engine'.hwEq = engine.hwEq)
    (hbass : engine'.bassEnhancer = engine.bassEnhancer) :
    engine'.Levelled curves settings eqLevel bassLevel := by
  refine ⟨hsound, ?_, ?_, ?_, ?_⟩
  · rw [hhwEq]
    exact h.hwEq
  · rw [hhwEq]
    exact h.hwEqRate
  · rw [hbass]
    exact h.bassEnhancer
  · rw [hbass]
    exact h.bassEnhancerRate

theorem levelled_run (setup : DaemonSetup ℝ) (store : SettingsStore)
    (devices : DeviceRegistry) (htame : (run setup store devices).Tame curves settings) :
    (run setup store devices).Levelled curves settings eqLevel bassLevel :=
  ⟨sound_run setup store devices,
    CrossfadingSlot.playing_initial ⟨_, htame.curve, rfl⟩ _, rfl,
    CrossfadingSlot.playing_initial ⟨_, htame.enhancer, rfl⟩ _, rfl⟩

/-- A command can publish a filter to a stage, from what it has left as the
state of that stage. -/
theorem Levelled.applies {libs : DspLibraries ℝ} {inCommand : Command}
    (h : engine.Levelled curves settings eqLevel bassLevel) (hsound : engine'.Sound)
    (happlies : Applies libs engine inCommand engine')
    (htame : engine'.Tame curves settings) :
    engine'.Levelled curves settings eqLevel bassLevel := by
  cases happlies with
  | setHwEqBand hop i hband =>
      refine ⟨hsound, h.hwEq.publish ⟨_, htame.curve, ?_⟩, h.hwEqRate, h.bassEnhancer,
        h.bassEnhancerRate⟩
      rw [h.hwEqRate]
      rfl
  | setBassEnhancer hop =>
      refine ⟨hsound, h.hwEq, h.hwEqRate,
        h.bassEnhancer.publish ⟨_, htame.enhancer, ?_⟩, h.bassEnhancerRate⟩
      rw [h.bassEnhancerRate]
      rfl
  | _ => exact h.of_same hsound rfl rfl

theorem Levelled.handled {libs : DspLibraries ℝ} {inCommand : Command}
    (h : engine.Levelled curves settings eqLevel bassLevel)
    (hhandled : Handled libs engine inCommand engine')
    (htame : engine'.Tame curves settings) :
    engine'.Levelled curves settings eqLevel bassLevel := by
  obtain ⟨deck, applied, saved, hdeck, happlies, rfl⟩ := hhandled.applied
  obtain ⟨deck', _, hdeck', rfl, -, hcollected⟩ := h.sound.collectGarbage
  obtain rfl := Option.some.inj (hdeck'.symm.trans hdeck)
  have hlevelled : Levelled curves settings eqLevel bassLevel
      { engine with
        advancedStage := deck'
        hwEq := engine.hwEq.collectGarbage
        bassEnhancer := engine.bassEnhancer.collectGarbage } :=
    ⟨hcollected, h.hwEq.collectGarbage, h.hwEqRate, h.bassEnhancer.collectGarbage,
      h.bassEnhancerRate⟩
  have hsound := hhandled.sound
  have happlied : applied.Levelled curves settings eqLevel bassLevel :=
    hlevelled.applies ⟨hsound.advancedStage, hsound.hwEq, hsound.bassEnhancer⟩ happlies
      ⟨htame.mode, htame.distances, htame.curve, htame.enhancer⟩
  exact happlied.of_same hsound rfl rfl

/-- How much the filters of these curves and settings raise a level. -/
structure FilterGains (curves : List (Fin maxEqBands → EqBand))
    (settings : List BassEnhancerSettings) where
  eqGain : ℝ
  eqOffset : ℝ
  bassGain : ℝ
  bassOffset : ℝ
  eqGain_nonneg : 0 ≤ eqGain
  eqOffset_nonneg : 0 ≤ eqOffset
  bassGain_nonneg : 0 ≤ bassGain
  eqRaises : ∀ fresh, Fresh GraphicEqFilter.new curves fresh →
    Raises GraphicEqFilter.processFrame fresh eqGain eqOffset
  bassRaises : ∀ fresh, Fresh BassEnhancerFilter.new settings fresh →
    Raises BassEnhancerFilter.passFrame fresh bassGain bassOffset

/-- Filters of one kind have a common gain. -/
theorem exists_gain_of_fresh {κ F : Type} {new : κ → ℝ → F}
    {step : F → StereoFrame ℝ → StereoFrame ℝ × F} (used : List κ)
    (h : ∀ settings, ∃ gain offset, 0 ≤ gain ∧ 0 ≤ offset ∧
      Raises step (new settings HardwareOutput.sampleRate) gain offset) :
    ∃ gain offset, 0 ≤ gain ∧ 0 ≤ offset ∧
      ∀ fresh, Fresh new used fresh → Raises step fresh gain offset := by
  have hused : ∀ fresh ∈ used.map fun settings => new settings HardwareOutput.sampleRate,
      ∃ gain offset, 0 ≤ gain ∧ 0 ≤ offset ∧ Raises step fresh gain offset := by
    intro fresh hfresh
    obtain ⟨settings, -, rfl⟩ := List.mem_map.mp hfresh
    exact h settings
  obtain ⟨gain, offset, hgain, hoffset, hraises⟩ := exists_common_gain hused
  refine ⟨gain, offset, hgain, hoffset, ?_⟩
  rintro _ ⟨settings, hmem, rfl⟩
  exact hraises _ (List.mem_map_of_mem hmem)

theorem exists_filterGains (curves : List (Fin maxEqBands → EqBand))
    (settings : List BassEnhancerSettings) : Nonempty (FilterGains curves settings) := by
  obtain ⟨eqGain, eqOffset, heqGain, heqOffset, heq⟩ :=
    exists_gain_of_fresh curves fun bands => by
      obtain ⟨gain, hgain, hraises⟩ :=
        GraphicEqFilter.exists_raises bands Biquad.one_le_sampleRate_mul
      exact ⟨gain, 0, hgain, le_rfl, hraises⟩
  obtain ⟨bassGain, bassOffset, hbassGain, -, hbass⟩ :=
    exists_gain_of_fresh settings fun enhancer => by
      obtain ⟨offset, hoffset, hraises⟩ :=
        BassEnhancerFilter.exists_raises enhancer Biquad.one_le_sampleRate_mul
      exact ⟨1, offset, zero_le_one, hoffset, hraises⟩
  exact ⟨⟨eqGain, eqOffset, bassGain, bassOffset, heqGain, heqOffset, hbassGain, heq,
    hbass⟩⟩

/-- A block of captured audio, through all stages. -/
theorem Levelled.handleVirtualSinkAudio (gains : FilterGains curves settings)
    {libs : DspLibraries ℝ} {level : ℝ} (hlevel : 0 ≤ level)
    (h : engine.Levelled curves settings (25 * (level + 1 / 4))
      (gains.eqGain * (25 * (level + 1 / 4)) + gains.eqOffset))
    (htame : engine.Tame curves settings) {block : List (SevenOneFrame ℝ)}
    (hblock : Within level block) :
    (∀ output, stereoOutput libs engine block = some output →
      Within (gains.bassGain * (gains.eqGain * (25 * (level + 1 / 4)) + gains.eqOffset) +
        gains.bassOffset) output) ∧
    ∀ engine', handleVirtualSinkAudio libs engine block = some engine' →
      engine'.Sound → engine'.Levelled curves settings (25 * (level + 1 / 4))
        (gains.eqGain * (25 * (level + 1 / 4)) + gains.eqOffset) := by
  have heqLevel : 0 ≤ 25 * (level + 1 / 4) := by linarith
  have hbassLevel : 0 ≤ gains.eqGain * (25 * (level + 1 / 4)) + gains.eqOffset :=
    add_nonneg (mul_nonneg gains.eqGain_nonneg heqLevel) gains.eqOffset_nonneg
  constructor
  · intro output houtput
    obtain ⟨⟨rendered, deck⟩, hrendered, houtput⟩ := Option.bind_eq_some_iff.mp houtput
    obtain ⟨⟨filtered, hwEq⟩, hfiltered, houtput⟩ := Option.bind_eq_some_iff.mp houtput
    obtain ⟨⟨enhanced, bass⟩, henhanced, houtput⟩ := Option.bind_eq_some_iff.mp houtput
    obtain rfl := Option.some.inj houtput
    have hloud := htame.processActiveStage libs hlevel hblock hrendered
    obtain ⟨hequalized, -, -⟩ := FilterStage.process_playing
      GraphicEqFilter.process_eq_transduce h.hwEq heqLevel gains.eqRaises hloud hfiltered
    exact (FilterStage.process_playing BassEnhancerFilter.process_eq_transduce
      h.bassEnhancer hbassLevel gains.bassRaises hequalized henhanced).1
  · intro engine' hhandle hsound
    obtain ⟨⟨rendered, deck⟩, hrendered, hhandle⟩ := Option.bind_eq_some_iff.mp hhandle
    obtain ⟨⟨filtered, hwEq⟩, hfiltered, hhandle⟩ := Option.bind_eq_some_iff.mp hhandle
    obtain ⟨⟨enhanced, bass⟩, henhanced, hhandle⟩ := Option.bind_eq_some_iff.mp hhandle
    obtain rfl := Option.some.inj hhandle
    have hloud := htame.processActiveStage libs hlevel hblock hrendered
    obtain ⟨hequalized, hhwEq, hhwEqRate⟩ := FilterStage.process_playing
      GraphicEqFilter.process_eq_transduce h.hwEq heqLevel gains.eqRaises hloud hfiltered
    obtain ⟨-, hbass, hbassRate⟩ := FilterStage.process_playing
      BassEnhancerFilter.process_eq_transduce h.bassEnhancer hbassLevel gains.bassRaises
      hequalized henhanced
    exact ⟨hsound, hhwEq, hhwEqRate.trans h.hwEqRate, hbass,
      hbassRate.trans h.bassEnhancerRate⟩

/-- What is captured with an event stays within the level. -/
def Event.Within (level : ℝ) : Event ℝ → Prop
  | .virtualSinkAudio interleaved => RamkolFX.Within level interleaved
  | _ => True

/-- An event that leaves a tame state keeps the levels. -/
theorem Levelled.takes {setup : DaemonSetup ℝ} {daemon daemon' : Daemon ℝ}
    {event : Event ℝ} (gains : FilterGains curves settings) {level : ℝ}
    (hlevel : 0 ≤ level)
    (h : daemon.engine.Levelled curves settings (25 * (level + 1 / 4))
      (gains.eqGain * (25 * (level + 1 / 4)) + gains.eqOffset))
    (htame : daemon.engine.Tame curves settings) (hevent : event.Within level)
    (htakes : Takes setup daemon event daemon')
    (htame' : daemon'.engine.Tame curves settings) :
    daemon'.engine.Levelled curves settings (25 * (level + 1 / 4))
      (gains.eqGain * (25 * (level + 1 / 4)) + gains.eqOffset) := by
  have hsound := (htakes.stepped h.sound).sound
  cases htakes with
  | undecoded frame bConnects hcommand => exact h
  | handled frame bConnects inCommand limit hcommand hbounds engine' hhandled =>
      exact h.handled hhandled htame'
  | rendered interleaved engine' hblock hrendered =>
      exact (h.handleVirtualSinkAudio gains hlevel htame hevent).2 engine' hblock hsound
  | hardwareOutputRequest | registry | hrtfDirectoryChanged =>
      exact h.of_same hsound rfl rfl

/-- In exact arithmetic, every run whose states stay tame, from any start, and every
block after it: the output is within a level that is affine in the one of the
captured audio. -/
theorem output_bounded (curves : List (Fin maxEqBands → EqBand))
    (settings : List BassEnhancerSettings) :
    ∃ gain offset : ℝ, 0 ≤ gain ∧
      ∀ (setup : DaemonSetup ℝ) (store : SettingsStore) (devices : DeviceRegistry)
        (events : List (Event ℝ)) (level : ℝ), 0 ≤ level →
        Throughout (fun past => ∀ daemon,
          runFrom (step setup) ⟨run setup store devices, []⟩ past = some daemon →
          daemon.engine.Tame curves settings) events →
        (∀ event ∈ events, event.Within level) →
        ∃ daemon, runFrom (step setup) ⟨run setup store devices, []⟩ events =
            some daemon ∧
          ∀ block, Within level block → ∃ output,
            stereoOutput setup.libs daemon.engine block = some output ∧
              Within (gain * level + offset) output := by
  obtain ⟨gains⟩ := exists_filterGains curves settings
  refine ⟨gains.bassGain * gains.eqGain * 25,
    gains.bassGain * (gains.eqGain * (25 / 4) + gains.eqOffset) + gains.bassOffset,
    ?_, ?_⟩
  · have hproduct := mul_nonneg gains.bassGain_nonneg gains.eqGain_nonneg
    linarith
  intro setup store devices events level hlevel htame hevents
  have hinit : (run setup store devices).Tame curves settings :=
    htame [] (List.nil_prefix) _ rfl
  have heach : AtEachEvent (fun past event => event.Within level ∧ ∀ daemon,
      runFrom (step setup) ⟨run setup store devices, []⟩ (past ++ [event]) =
        some daemon → daemon.engine.Tame curves settings) events := by
    intro past event hpast
    have hmem : event ∈ events :=
      hpast.subset (List.mem_append_right past (List.mem_singleton_self event))
    exact ⟨hevents event hmem, htame _ hpast⟩
  obtain ⟨daemon, hrun, hlevelled, htameLast⟩ := runFrom_invariant (step setup)
    (fun _ daemon => daemon.engine.Levelled curves settings (25 * (level + 1 / 4))
        (gains.eqGain * (25 * (level + 1 / 4)) + gains.eqOffset) ∧
      daemon.engine.Tame curves settings)
    (s := ⟨run setup store devices, []⟩) ⟨levelled_run setup store devices hinit, hinit⟩
    (by
      rintro past daemon event hrun ⟨hlevelled, htameNow⟩ ⟨hevent, htameNext⟩
      obtain ⟨daemon', hstep, htakes⟩ := hlevelled.sound.exists_takes setup event
      have htame' := htameNext daemon' (runFrom_concat_of hrun hstep)
      exact ⟨daemon', hstep,
        hlevelled.takes gains hlevel htameNow hevent htakes htame', htame'⟩)
    heach
  refine ⟨daemon, hrun, fun block hblock => ?_⟩
  obtain ⟨engine', hhandle, -⟩ := hlevelled.sound.handleVirtualSinkAudio setup.libs block
  obtain ⟨-, output, houtput, -⟩ := handleVirtualSinkAudio_pushes hhandle
  have hwithin := (hlevelled.handleVirtualSinkAudio gains hlevel htameLast hblock).1
    output houtput
  have hsum : gains.bassGain * gains.eqGain * 25 * level +
      (gains.bassGain * (gains.eqGain * (25 / 4) + gains.eqOffset) + gains.bassOffset) =
      gains.bassGain * (gains.eqGain * (25 * (level + 1 / 4)) + gains.eqOffset) +
        gains.bassOffset := by ring
  rw [hsum]
  exact ⟨output, houtput, hwithin⟩

/-- A daemon without saved settings, and a block at full level. -/
theorem output_bounded_default :
    ∃ (gain offset : ℝ) (output : List (StereoFrame ℝ)),
      stereoOutput exactSetup.libs (run exactSetup ⟨none, true⟩ .new) [fun _ => 1] =
          some output ∧
        Within (gain * 1 + offset) output := by
  obtain ⟨gain, offset, -, hbounded⟩ := output_bounded [defaultHwEqBands] [{}]
  have htame : (run exactSetup ⟨none, true⟩ .new).Tame [defaultHwEqBands] [{}] := by
    refine ⟨?_, ?_, List.mem_singleton_self _, List.mem_singleton_self _⟩
    · decide
    · show ∀ speaker, ¬ (SpeakerLayout.new.speakerDistanceMeters speaker).IsNaN
      decide
  obtain ⟨daemon, hrun, hblocks⟩ := hbounded exactSetup ⟨none, true⟩ .new [] 1
    zero_le_one (by
      rintro past hpast daemon hrun
      obtain rfl := List.prefix_nil.mp hpast
      obtain rfl := Option.some.inj hrun
      exact htame) nofun
  obtain rfl := Option.some.inj hrun
  obtain ⟨output, houtput, hwithin⟩ := hblocks [fun _ => 1] (by
    intro frame hframe channel
    obtain rfl := List.mem_singleton.mp hframe
    rw [abs_one])
  exact ⟨gain, offset, output, houtput, hwithin⟩

end AudioEngine

end RamkolFX
