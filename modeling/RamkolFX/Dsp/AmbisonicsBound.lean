import RamkolFX.Dsp.DspStages
import RamkolFX.Dsp.ExactArith
import Mathlib.Algebra.Order.BigOperators.Group.Finset
import Mathlib.Algebra.BigOperators.Fin

/-!
# The level of the ambisonic decode

Each output of the decode weighs every source by a gain that depends on its
direction only.  The widened side term takes the worst of them to an azimuth
between the literals of the code, and `DecodeNormalization` brings it to unity.
-/

namespace RamkolFX

open Support
open scoped BigOperators

namespace SpeakerLayout

/-- Every speaker lies in a direction. -/
def Directions.OnCircle (dirs : Directions ℝ) : Prop :=
  ∀ speaker, dirs.cos speaker * dirs.cos speaker +
    dirs.sin speaker * dirs.sin speaker = 1

theorem snapshotDirections_onCircle (layout : SpeakerLayout) :
    layout.snapshotDirections.OnCircle := by
  intro speaker
  rw [← sq, ← sq]
  exact Real.cos_sq_add_sin_sq _

/-- The loop of `Encode`, from any field on. -/
theorem foldl_encode (sources : SpeakerChannel → ℝ) (dirs : Directions ℝ)
    (speakers : List SpeakerChannel) (field : Field ℝ) :
    speakers.foldl
        (fun field speaker =>
          ⟨field.w + sources speaker * oneOverSqrtTwo,
            field.x + sources speaker * dirs.cos speaker,
            field.y + sources speaker * dirs.sin speaker⟩) field =
      ⟨field.w + (speakers.map fun speaker =>
          sources speaker * oneOverSqrtTwo).sum,
        field.x + (speakers.map fun speaker =>
          sources speaker * dirs.cos speaker).sum,
        field.y + (speakers.map fun speaker =>
          sources speaker * dirs.sin speaker).sum⟩ := by
  induction speakers generalizing field with
  | nil => simp
  | cons speaker speakers ih =>
      rw [List.foldl_cons, ih]
      simp only [List.map_cons, List.sum_cons, ← add_assoc]

/-- The field is the sum of the sources' fields. -/
theorem encode_eq_sum (sources : SpeakerChannel → ℝ) (dirs : Directions ℝ) :
    encode sources dirs =
      ⟨∑ speaker, sources speaker * oneOverSqrtTwo,
        ∑ speaker, sources speaker * dirs.cos speaker,
        ∑ speaker, sources speaker * dirs.sin speaker⟩ := by
  rw [encode, foldl_encode]
  simp only [zero_add, Fin.sum_univ_def]

end SpeakerLayout

namespace AmbisonicsStage

open SpeakerLayout

/-! ## The gain of a direction -/

/-- What the left output makes of a unit source; the right one takes the sine
with the other sign. -/
noncomputable def decodeGain (c s : ℝ) : ℝ :=
  (oneOverSqrtTwo * oneOverSqrtTwo + c * decodeCos + s * decodeSin * widthGain) *
    decodeNormalization

theorem oneOverSqrtTwo_mem :
    0 < (oneOverSqrtTwo : ℝ) ∧ (oneOverSqrtTwo : ℝ) < 0.7071068 := by
  have hlower : 0 < (⟨0x3F3504F3⟩ : Binary32).value := by decide +kernel
  have hupper : (⟨0x3F3504F3⟩ : Binary32).value < 7071068 / 10000000 := by
    decide +kernel
  obtain ⟨hlo, hhi⟩ := ofFloat_mem hlower hupper
  norm_num at hlo hhi ⊢
  exact ⟨hlo, hhi⟩

theorem decodeNormalization_mem :
    0 < (decodeNormalization : ℝ) ∧ (decodeNormalization : ℝ) < 0.4805061 := by
  have hlower : 0 < (⟨0x3EF604E5⟩ : Binary32).value := by decide +kernel
  have hupper : (⟨0x3EF604E5⟩ : Binary32).value < 4805061 / 10000000 := by
    decide +kernel
  obtain ⟨hlo, hhi⟩ := ofFloat_mem hlower hupper
  norm_num at hlo hhi ⊢
  exact ⟨hlo, hhi⟩

/-- The cosine and the widened sine together stay below the root of five. -/
theorem abs_add_two_mul_le {c s : ℝ} (hcircle : c * c + s * s = 1) :
    |c + s * 2| ≤ 2.23606798 := by
  -- what is missing to five is the square of the orthogonal combination
  have hsquare : (c + s * 2) ^ 2 + (c * 2 - s) ^ 2 = 5 := by
    calc (c + s * 2) ^ 2 + (c * 2 - s) ^ 2 = 5 * (c * c + s * s) := by ring
      _ = 5 := by rw [hcircle, mul_one]
  have hfive : (c + s * 2) ^ 2 ≤ 2.23606798 ^ 2 := by
    have hrest := sq_nonneg (c * 2 - s)
    norm_num
    linarith
  exact abs_le_of_sq_le_sq hfive (by norm_num)

theorem abs_decodeGain_le {c s : ℝ} (hcircle : c * c + s * s = 1) :
    |decodeGain c s| ≤ 1 := by
  obtain ⟨hroot, hroot'⟩ := oneOverSqrtTwo_mem
  obtain ⟨hnorm, hnorm'⟩ := decodeNormalization_mem
  have hgain : decodeGain c s = oneOverSqrtTwo *
      (oneOverSqrtTwo + (c + s * 2)) * decodeNormalization := by
    show (oneOverSqrtTwo * oneOverSqrtTwo + c * oneOverSqrtTwo +
      s * oneOverSqrtTwo * 2) * decodeNormalization = _
    ring
  have hraw : |oneOverSqrtTwo + (c + s * 2)| ≤ 2.94317478 := by
    calc |oneOverSqrtTwo + (c + s * 2)|
        ≤ |oneOverSqrtTwo| + |c + s * 2| := abs_add_le _ _
      _ ≤ 0.7071068 + 2.23606798 := by
          rw [abs_of_pos hroot]
          exact add_le_add hroot'.le (abs_add_two_mul_le hcircle)
      _ = 2.94317478 := by norm_num
  rw [hgain, abs_mul, abs_mul, abs_of_pos hroot, abs_of_pos hnorm]
  calc oneOverSqrtTwo * |oneOverSqrtTwo + (c + s * 2)| * decodeNormalization
      ≤ 0.7071068 * 2.94317478 * 0.4805061 := by gcongr
    _ ≤ 1 := by norm_num

/-! ## A frame -/

/-- The decoded field, with the side term on either side. -/
theorem decode_eq_sum (sources : SpeakerChannel → ℝ) (dirs : Directions ℝ)
    (side : ℝ) :
    ((encode sources dirs).w * oneOverSqrtTwo +
        (encode sources dirs).x * decodeCos +
        side * ((encode sources dirs).y * decodeSin * widthGain)) *
        decodeNormalization =
      ∑ speaker, sources speaker *
        decodeGain (dirs.cos speaker) (side * dirs.sin speaker) := by
  rw [encode_eq_sum]
  simp only [Finset.sum_mul, Finset.mul_sum, ← Finset.sum_add_distrib]
  refine Finset.sum_congr rfl ?_
  intro speaker _
  rw [decodeGain]
  ring

/-- An output is the sum of the weighted sources, and of half the LFE sample. -/
theorem processFrame_eq_sum (dirs : Directions ℝ) (inFrame : SevenOneFrame ℝ) :
    processFrame dirs inFrame 0 =
        ∑ speaker, inFrame.sources speaker *
          decodeGain (dirs.cos speaker) (1 * dirs.sin speaker) +
        lfeGain * inFrame.at .lfe ∧
      processFrame dirs inFrame 1 =
        ∑ speaker, inFrame.sources speaker *
          decodeGain (dirs.cos speaker) (-1 * dirs.sin speaker) +
        lfeGain * inFrame.at .lfe := by
  constructor
  · rw [← decode_eq_sum, one_mul]
    rfl
  · rw [← decode_eq_sum, neg_one_mul, ← sub_eq_add_neg]
    rfl

theorem lfeGain_eq : (lfeGain : ℝ) = 1 / 2 := by
  have hvalue : (⟨0x3F000000⟩ : Binary32).value = 1 / 2 := by decide +kernel
  show (((⟨0x3F000000⟩ : Binary32).value : ℚ) : ℝ) = 1 / 2
  rw [hvalue]
  norm_num

/-- A sum whose weights do not exceed unity. -/
theorem abs_weighted_add_le {sources gains : SpeakerChannel → ℝ}
    (hgains : ∀ speaker, |gains speaker| ≤ 1) (lfe : ℝ) :
    |∑ speaker, sources speaker * gains speaker + lfeGain * lfe| ≤
      ∑ speaker, |sources speaker| + 1 / 2 * |lfe| := by
  have hsource (speaker : SpeakerChannel) :
      |sources speaker * gains speaker| ≤ |sources speaker| := by
    rw [abs_mul]
    exact mul_le_of_le_one_right (abs_nonneg _) (hgains speaker)
  calc |∑ speaker, sources speaker * gains speaker + lfeGain * lfe|
      ≤ |∑ speaker, sources speaker * gains speaker| + |lfeGain * lfe| :=
        abs_add_le _ _
    _ ≤ ∑ speaker, |sources speaker * gains speaker| + 1 / 2 * |lfe| := by
        have hhalf : (0 : ℝ) < 1 / 2 := one_half_pos
        rw [abs_mul, lfeGain_eq, abs_of_pos hhalf]
        exact add_le_add_left (Finset.abs_sum_le_sum_abs _ _) _
    _ ≤ ∑ speaker, |sources speaker| + 1 / 2 * |lfe| :=
        add_le_add_left (Finset.sum_le_sum fun speaker _ => hsource speaker) _

/-- The level that a frame's outputs keep. -/
noncomputable def level (inFrame : SevenOneFrame ℝ) : ℝ :=
  ∑ speaker, |inFrame.sources speaker| + 1 / 2 * |inFrame.at .lfe|

theorem abs_processFrame_le {dirs : Directions ℝ} (hdirs : dirs.OnCircle)
    (inFrame : SevenOneFrame ℝ) (ear : Fin 2) :
    |processFrame dirs inFrame ear| ≤ level inFrame := by
  have hgain (side : ℝ) (hside : side * side = 1) (speaker : SpeakerChannel) :
      |decodeGain (dirs.cos speaker) (side * dirs.sin speaker)| ≤ 1 := by
    apply abs_decodeGain_le
    rw [mul_mul_mul_comm, hside, one_mul]
    exact hdirs speaker
  obtain ⟨hleft, hright⟩ := processFrame_eq_sum dirs inFrame
  by_cases hear : ear = 0
  · rw [hear, hleft]
    exact abs_weighted_add_le (hgain 1 (one_mul 1)) _
  · have hone : ear = 1 := Fin.eq_one_of_ne_zero ear hear
    rw [hone, hright]
    exact abs_weighted_add_le (hgain (-1) (by norm_num)) _

/-- One speaker plays, and none of the other channels does. -/
structure IsSource (inFrame : SevenOneFrame ℝ) (speaker : SpeakerChannel) :
    Prop where
  lfe : inFrame.at .lfe = 0
  sources : ∀ other, other ≠ speaker → inFrame.sources other = 0

theorem IsSource.level_eq {inFrame : SevenOneFrame ℝ} {speaker : SpeakerChannel}
    (h : IsSource inFrame speaker) :
    level inFrame = |inFrame.sources speaker| := by
  have hothers : ∀ other ∈ Finset.univ, other ≠ speaker →
      |inFrame.sources other| = 0 := by
    intro other _ hother
    rw [h.sources other hother, abs_zero]
  rw [level, h.lfe, abs_zero, mul_zero, add_zero]
  exact Finset.sum_eq_single speaker hothers
    fun habsent => absurd (Finset.mem_univ speaker) habsent

/-- The outputs never exceed the summed amplitudes of the sources and half that
of the LFE channel, whatever the directions of the speakers; a single source
stays within its own amplitude, and so within unity. -/
theorem process_bounded :
    (∀ dirs : Directions ℝ, dirs.OnCircle → ∀ (inFrame : SevenOneFrame ℝ) ear,
      |processFrame dirs inFrame ear| ≤
        ∑ speaker, |inFrame.sources speaker| + 1 / 2 * |inFrame.at .lfe|) ∧
      (∀ (layout : SpeakerLayout) (input : List (SevenOneFrame ℝ)),
        List.Forall₂
          (fun inFrame outFrame => ∀ ear, |outFrame ear| ≤
            ∑ speaker, |inFrame.sources speaker| + 1 / 2 * |inFrame.at .lfe|)
          input (process layout input)) ∧
      ∀ dirs : Directions ℝ, dirs.OnCircle →
        ∀ (inFrame : SevenOneFrame ℝ) (speaker : SpeakerChannel),
          IsSource inFrame speaker → |inFrame.sources speaker| ≤ 1 →
            ∀ ear, |processFrame dirs inFrame ear| ≤ 1 := by
  refine ⟨?_, ?_, ?_⟩
  · intro dirs hdirs inFrame ear
    exact abs_processFrame_le hdirs inFrame ear
  · intro layout input
    rw [process, List.forall₂_map_right_iff, List.forall₂_same]
    intro inFrame _ ear
    exact abs_processFrame_le (snapshotDirections_onCircle layout) inFrame ear
  · intro dirs hdirs inFrame speaker hsource hunit ear
    calc |processFrame dirs inFrame ear| ≤ level inFrame :=
          abs_processFrame_le hdirs inFrame ear
      _ = |inFrame.sources speaker| := hsource.level_eq
      _ ≤ 1 := hunit

/-- The center speaker alone, at full level and straight to the left. -/
theorem process_bounded_center :
    ∀ ear, |processFrame ⟨fun _ => 0, fun _ => 1⟩ (Pi.single 2 1) ear| ≤ (1 : ℝ) := by
  have hsource : IsSource (Pi.single 2 1) 2 := by
    constructor
    case lfe => rfl
    case sources =>
      intro other hother
      apply Pi.single_eq_of_ne
      intro heq
      exact hother (speakerToFrameIndex_injective heq)
  have hamplitude : |SevenOneFrame.sources (Pi.single 2 (1 : ℝ)) 2| ≤ 1 := by
    show |(1 : ℝ)| ≤ 1
    rw [abs_one]
  exact process_bounded.2.2 ⟨fun _ => 0, fun _ => 1⟩
    (fun _ => by norm_num) (Pi.single 2 1) 2 hsource hamplitude

end AmbisonicsStage

end RamkolFX
