import RamkolFX.Dsp.EqResponse
import RamkolFX.Dsp.LastPublished

/-!
# The equalizer over whole runs

In exact arithmetic the equalizer stage ends up with the response of the curve
that was set last, at every frequency, whatever was fading before; and nothing
that is ever set makes it, or the bass enhancer behind it, run away.
-/

namespace RamkolFX

open Support Filter Topology

theorem endsExactly_exact : EndsExactly ℝ := endsExactly Real.tanh

/-! ## The response of the stage -/

namespace GraphicEqFilter

/-- The two channels are filtered on their own. -/
theorem stateAt_processFrame (filter : GraphicEqFilter ℝ) (x : ℕ → StereoFrame ℝ)
    (n : ℕ) :
    stateAt processFrame filter x n =
      ⟨stateAt Biquad.cascade filter.left (fun k => x k 0) n,
        stateAt Biquad.cascade filter.right (fun k => x k 1) n⟩ := by
  induction n with
  | zero => rfl
  | succ n ih =>
      rw [stateAt, ih]
      rfl

theorem outputAt_processFrame (filter : GraphicEqFilter ℝ) (x : ℕ → StereoFrame ℝ)
    (n : ℕ) :
    outputAt processFrame filter x n =
      ![outputAt Biquad.cascade filter.left (fun k => x k 0) n,
        outputAt Biquad.cascade filter.right (fun k => x k 1) n] := by
  rw [outputAt, stateAt_processFrame]
  rfl

/-- The response of a curve: the product of the responses of its bands. -/
noncomputable def curveResponse (bands : Fin maxEqBands → EqBand) (sampleRate : ℝ)
    (ζ : ℂ) : ℂ :=
  ∏ i, (bandSection (bands i) sampleRate).toSecondOrder.response ζ

/-- What a band is labelled with. -/
noncomputable def bandGain (band : EqBand) : Biquad.BandGain :=
  Biquad.labelledGain band.filterType (FloatArith.ofFloat band.gainDb)
    (FloatArith.ofFloat band.q)

section

variable (bands : Fin maxEqBands → EqBand) {sampleRate : ℝ}
  (hrange : 1 ≤ sampleRate * FloatArith.ofFloat ⟨0x3EFAE148⟩)

theorem cascadeResponse_bands (ζ : ℂ) :
    Biquad.cascadeResponse (List.ofFn fun i => bandSection (bands i) sampleRate) ζ =
      curveResponse bands sampleRate ζ := by
  rw [Biquad.cascadeResponse, List.map_ofFn, List.prod_ofFn]
  rfl

include hrange in
theorem stable_bands :
    ∀ biquad ∈ List.ofFn fun i => bandSection (bands i) sampleRate,
      biquad.Stable := by
  intro biquad hbiquad
  obtain ⟨i, rfl⟩ := List.mem_ofFn.mp hbiquad
  exact Biquad.stable_setCoefficients _ _ _ _ _ hrange

include hrange in
theorem norm_curveResponse :
    ‖curveResponse bands sampleRate 1‖ = ∏ i, (bandGain (bands i)).constant ∧
      ‖curveResponse bands sampleRate (-1)‖ =
        ∏ i, (bandGain (bands i)).alternating := by
  have hlabelled : ∀ i, Biquad.AsLabelled (bandSection (bands i) sampleRate) _ _ :=
    fun i => Biquad.asLabelled_setCoefficients _ (bands i).filterType
      (FloatArith.ofFloat (bands i).frequencyHz) (FloatArith.ofFloat (bands i).gainDb)
      (FloatArith.ofFloat (bands i).q) hrange
  rw [curveResponse, curveResponse, norm_prod, norm_prod]
  constructor
  · exact Finset.prod_congr rfl fun i _ => (hlabelled i).constant
  · exact Finset.prod_congr rfl fun i _ => (hlabelled i).alternating

theorem silent_bands :
    ∀ biquad ∈ List.ofFn fun i => bandSection (bands i) sampleRate,
      biquad.Silent := by
  intro biquad hbiquad
  obtain ⟨i, rfl⟩ := List.mem_ofFn.mp hbiquad
  exact ⟨rfl, rfl⟩

include hrange in
/-- Each channel of the filter settles with the response of the curve. -/
theorem settles_new (x : ℕ → StereoFrame ℝ) (channel : Fin 2) {ζ amplitude : ℂ}
    (hζ : ‖ζ‖ = 1)
    (hx : SecondOrder.Settles (fun n => x n channel) amplitude ζ) :
    SecondOrder.Settles
      (fun n => outputAt processFrame (new bands sampleRate) x n channel)
      (curveResponse bands sampleRate ζ * amplitude) ζ := by
  have hsettles := Biquad.settles_cascade (stable_bands bands hrange) hζ hx
  rw [cascadeResponse_bands] at hsettles
  have houtput : (fun n => outputAt processFrame (new bands sampleRate) x n channel) =
      outputAt Biquad.cascade (List.ofFn fun i => bandSection (bands i) sampleRate)
        (fun n => x n channel) := by
    funext n
    rw [outputAt_processFrame]
    revert channel
    exact Fin.forall_fin_two.mpr ⟨fun _ _ => rfl, fun _ _ => rfl⟩
  rw [houtput]
  exact hsettles

end

end GraphicEqFilter

namespace HwEqStage

/-- Whatever the stage was playing and fading, in exact arithmetic and after the
last curve was set a signal that settles to an oscillation comes out settling to the
same oscillation, scaled by the response of that curve, which for a constant and for
an alternating signal is the product of the gains on the labels of its bands. -/
theorem settles_lastSet {stage : HwEqStage ℝ} (hsound : stage.Sound)
    (hrange : stage.HasRange) (bands : Fin maxEqBands → EqBand)
    {stages : ℕ → HwEqStage ℝ} {offsets : ℕ → ℕ} {x y : ℕ → StereoFrame ℝ}
    (hstart : stages 0 = stage.setBands bands)
    (hplays : FilterStage.Plays HwEqStage.process stages offsets x y)
    (channel : Fin 2) {ζ amplitude : ℂ} (hζ : ‖ζ‖ = 1)
    (hx : SecondOrder.Settles (fun t => x t channel) amplitude ζ) :
    SecondOrder.Settles (fun t => y t channel)
        (GraphicEqFilter.curveResponse bands stage.sampleRate ζ * amplitude) ζ ∧
      ‖GraphicEqFilter.curveResponse bands stage.sampleRate 1‖ =
        ∏ i, (GraphicEqFilter.bandGain (bands i)).constant ∧
      ‖GraphicEqFilter.curveResponse bands stage.sampleRate (-1)‖ =
        ∏ i, (GraphicEqFilter.bandGain (bands i)).alternating := by
  refine ⟨?_, GraphicEqFilter.norm_curveResponse bands hrange⟩
  have hsettlesOn : FilterStage.SettlesOnNewest (α := ℝ) HwEqStage.process
      GraphicEqFilter.processFrame :=
    FilterStage.settlesOnNewest_of_transduce endsExactly_exact
      GraphicEqFilter.process_eq_transduce
  obtain ⟨start, -, hlate⟩ :=
    hsettlesOn stage _ stages offsets x y hsound hstart hplays
  have hlater := (SecondOrder.settles_shift_iff start).mpr hx
  have hfilter := GraphicEqFilter.settles_new bands hrange
    (fun k => x (start + k)) channel hζ hlater
  rw [← mul_assoc] at hfilter
  rw [← SecondOrder.settles_shift_iff start]
  apply hfilter.congr
  intro n hn
  rw [hlate (start + n) (Nat.add_le_add_left hn start), Nat.add_sub_cancel_left]

/-- The raised curve, set while a constant is playing. -/
theorem settles_lastSet_raised :
    let stage : HwEqStage ℝ := new defaultHwEqBands HardwareOutput.sampleRate
    ∃ (stages : ℕ → HwEqStage ℝ) (output : ℕ → StereoFrame ℝ),
      stages 0 = stage.setBands raisedHwEqBands ∧
      FilterStage.Plays HwEqStage.process stages id (fun _ _ => 1) output ∧
      SecondOrder.Settles (fun t => output t 0)
        (GraphicEqFilter.curveResponse raisedHwEqBands stage.sampleRate 1 * 1) 1 := by
  intro stage
  have hsound : stage.Sound := FilterStage.sound_new _ _
  obtain ⟨stages, output, hstart, hplays⟩ := FilterStage.exists_plays
    (FilterStage.Sound.publish hsound
      (GraphicEqFilter.new raisedHwEqBands stage.sampleRate)) fun _ _ => 1
  have hprocess : HwEqStage.process (α := ℝ) =
      FilterStage.process (transduce GraphicEqFilter.processFrame) := by
    funext stage input
    rw [HwEqStage.process]
    congr 1
    funext filter input
    exact filter.process_eq_transduce input
  rw [← hprocess] at hplays
  have hconstant : SecondOrder.Settles (fun _ => 1) 1 1 := by
    simp [SecondOrder.Settles]
  exact ⟨stages, output, hstart, hplays,
    (settles_lastSet hsound Biquad.one_le_sampleRate_mul raisedHwEqBands hstart hplays
      0 norm_one hconstant).1⟩

end HwEqStage

end RamkolFX
