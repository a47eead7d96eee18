import RamkolFX.Dsp.ExactArith
import RamkolFX.Dsp.HrtfFilter
import Mathlib.Algebra.Order.ToIntervalMod

/-!
# Symmetry of the head models

The synthetic filter and the near-field correction choose the ear that faces a
source by the sign of its wrapped azimuth.  In exact arithmetic the wrapped
azimuth is a representative modulo a full turn, and where the sign changes, in
front and behind, the two ears hear the same.
-/

namespace RamkolFX

open Support

/-- Exact arithmetic with any functions for `exp` and `sin`. -/
noncomputable abbrev exactArithOf (exp sin : ℝ → ℝ) : FloatArith ℝ :=
  { exactArith with exp, sin }

/-- The filter with its two ears exchanged. -/
def HrtfFilter.mirrored (filter : HrtfFilter ℝ) : HrtfFilter ℝ :=
  ⟨filter.right, filter.left, filter.delayRightSamples, filter.delayLeftSamples⟩

/-- Filters by azimuth that treat both ears, and front and back, alike. -/
structure HeadSymmetric (filterAt : ℝ → HrtfFilter ℝ) : Prop where
  mirror : ∀ azimuthDegrees,
    filterAt (-azimuthDegrees) = (filterAt azimuthDegrees).mirrored
  period : ∀ (azimuthDegrees : ℝ) (turns : ℤ),
    filterAt (azimuthDegrees + turns * 360) = filterAt azimuthDegrees
  frontBack : ∀ azimuthDegrees,
    filterAt (180 - azimuthDegrees) = filterAt azimuthDegrees

/-! ## The wrapped azimuth -/

section Azimuth

/-- The remainder of `std::fmod` has the sign of the azimuth. -/
theorem fmod_fullTurn (azimuthDegrees : ℝ) :
    ∃ turns : ℤ,
      azimuthDegrees = FloatArith.fmod azimuthDegrees 360 + turns * 360 ∧
        -360 < FloatArith.fmod azimuthDegrees 360 ∧
        FloatArith.fmod azimuthDegrees 360 < 360 := by
  have hquotient : azimuthDegrees = azimuthDegrees / 360 * 360 := by ring
  by_cases hsign : 0 ≤ azimuthDegrees / 360
  · have hfmod : FloatArith.fmod azimuthDegrees 360 =
        azimuthDegrees - 360 * ⌊azimuthDegrees / 360⌋ := if_pos hsign
    have hlower := Int.floor_le (azimuthDegrees / 360)
    have hupper := Int.lt_floor_add_one (azimuthDegrees / 360)
    refine ⟨⌊azimuthDegrees / 360⌋, ?_, ?_, ?_⟩ <;> rw [hfmod] <;> linarith
  · have hfmod : FloatArith.fmod azimuthDegrees 360 =
        azimuthDegrees - 360 * ⌈azimuthDegrees / 360⌉ := if_neg hsign
    have hlower := Int.ceil_lt_add_one (azimuthDegrees / 360)
    have hupper := Int.le_ceil (azimuthDegrees / 360)
    refine ⟨⌈azimuthDegrees / 360⌉, ?_, ?_, ?_⟩ <;> rw [hfmod] <;> linarith

theorem fullTurn_pos : (0 : ℝ) < 360 := by norm_num

/-- Wrapping picks the representative in the half-open turn. -/
theorem normalizeAzimuthDegrees_eq_toIocMod (azimuthDegrees : ℝ) :
    normalizeAzimuthDegrees azimuthDegrees =
      toIocMod fullTurn_pos (-180) azimuthDegrees := by
  obtain ⟨turns, heq, hlower, hupper⟩ := fmod_fullTurn azimuthDegrees
  symm
  rw [toIocMod_eq_iff, normalizeAzimuthDegrees]
  split_ifs with hover hunder
  · refine ⟨⟨?_, ?_⟩, turns + 1, ?_⟩
    · linarith
    · linarith
    · rw [zsmul_eq_mul, Int.cast_add, Int.cast_one]
      linarith
  · refine ⟨⟨?_, ?_⟩, turns - 1, ?_⟩
    · linarith
    · linarith
    · rw [zsmul_eq_mul, Int.cast_sub, Int.cast_one]
      linarith
  · refine ⟨⟨?_, ?_⟩, turns, ?_⟩
    · linarith
    · linarith
    · rw [zsmul_eq_mul]
      exact heq

theorem normalizeAzimuthDegrees_mem (azimuthDegrees : ℝ) :
    -180 < normalizeAzimuthDegrees azimuthDegrees ∧
      normalizeAzimuthDegrees azimuthDegrees ≤ 180 := by
  obtain ⟨hlower, hupper⟩ := toIocMod_mem_Ioc fullTurn_pos (-180) azimuthDegrees
  rw [normalizeAzimuthDegrees_eq_toIocMod]
  constructor
  · exact hlower
  · linarith

theorem exists_turns (azimuthDegrees : ℝ) :
    ∃ turns : ℤ,
      azimuthDegrees = normalizeAzimuthDegrees azimuthDegrees + turns * 360 := by
  refine ⟨toIocDiv fullTurn_pos (-180) azimuthDegrees, ?_⟩
  rw [normalizeAzimuthDegrees_eq_toIocMod, toIocMod_add_toIocDiv_mul]

/-- Whatever lies in the half-open turn, whole turns away, is the wrapped
azimuth. -/
theorem normalizeAzimuthDegrees_eq {wrapped azimuthDegrees : ℝ}
    (hlower : -180 < wrapped) (hupper : wrapped ≤ 180) (turns : ℤ)
    (heq : azimuthDegrees = wrapped + turns * 360) :
    normalizeAzimuthDegrees azimuthDegrees = wrapped := by
  rw [normalizeAzimuthDegrees_eq_toIocMod, toIocMod_eq_iff]
  refine ⟨⟨hlower, ?_⟩, turns, ?_⟩
  · linarith
  · rw [zsmul_eq_mul]
    exact heq

theorem normalizeAzimuthDegrees_add_turns (azimuthDegrees : ℝ) (turns : ℤ) :
    normalizeAzimuthDegrees (azimuthDegrees + turns * 360) =
      normalizeAzimuthDegrees azimuthDegrees := by
  rw [normalizeAzimuthDegrees_eq_toIocMod, normalizeAzimuthDegrees_eq_toIocMod,
    ← zsmul_eq_mul, toIocMod_add_zsmul]

/-- The mirrored azimuth wraps to the mirrored one, except straight behind. -/
theorem normalizeAzimuthDegrees_neg (azimuthDegrees : ℝ) :
    normalizeAzimuthDegrees azimuthDegrees = 180 ∧
        normalizeAzimuthDegrees (-azimuthDegrees) = 180 ∨
      normalizeAzimuthDegrees (-azimuthDegrees) =
        -normalizeAzimuthDegrees azimuthDegrees := by
  obtain ⟨turns, heq⟩ := exists_turns azimuthDegrees
  obtain ⟨hlower, hupper⟩ := normalizeAzimuthDegrees_mem azimuthDegrees
  by_cases hbehind : normalizeAzimuthDegrees azimuthDegrees = 180
  · left
    refine ⟨hbehind, normalizeAzimuthDegrees_eq (by norm_num) le_rfl (-turns - 1) ?_⟩
    rw [hbehind] at heq
    push_cast
    linarith
  · right
    have hlt := lt_of_le_of_ne hupper hbehind
    refine normalizeAzimuthDegrees_eq (by linarith) (by linarith) (-turns) ?_
    push_cast
    linarith

/-- Front and back: the wrapped azimuth is taken from half a turn on its own
side. -/
theorem normalizeAzimuthDegrees_frontBack (azimuthDegrees : ℝ) :
    0 ≤ normalizeAzimuthDegrees azimuthDegrees ∧
        normalizeAzimuthDegrees (180 - azimuthDegrees) =
          180 - normalizeAzimuthDegrees azimuthDegrees ∨
      normalizeAzimuthDegrees azimuthDegrees < 0 ∧
        normalizeAzimuthDegrees (180 - azimuthDegrees) =
          -180 - normalizeAzimuthDegrees azimuthDegrees := by
  obtain ⟨turns, heq⟩ := exists_turns azimuthDegrees
  obtain ⟨hlower, hupper⟩ := normalizeAzimuthDegrees_mem azimuthDegrees
  by_cases hleft : 0 ≤ normalizeAzimuthDegrees azimuthDegrees
  · left
    refine ⟨hleft,
      normalizeAzimuthDegrees_eq (by linarith) (by linarith) (-turns) ?_⟩
    push_cast
    linarith
  · right
    have hright := not_le.mp hleft
    refine ⟨hright,
      normalizeAzimuthDegrees_eq (by linarith) (by linarith) (1 - turns) ?_⟩
    push_cast
    linarith

end Azimuth

/-! ## The lateral angle -/

theorem lateralAngleDegrees_eq (azimuth : ℝ) :
    lateralAngleDegrees azimuth = 90 - |90 - (|azimuth|)| :=
  rfl

theorem lateralAngleDegrees_neg (azimuth : ℝ) :
    lateralAngleDegrees (-azimuth) = lateralAngleDegrees azimuth := by
  rw [lateralAngleDegrees_eq, abs_neg, lateralAngleDegrees_eq]

theorem lateralAngleDegrees_front : lateralAngleDegrees (0 : ℝ) = 0 := by
  rw [lateralAngleDegrees_eq]
  norm_num

theorem lateralAngleDegrees_behind : lateralAngleDegrees (180 : ℝ) = 0 := by
  rw [lateralAngleDegrees_eq]
  norm_num

/-- On the left side, front and back have the same lateral angle. -/
theorem lateralAngleDegrees_frontBack {azimuth : ℝ} (hlower : 0 ≤ azimuth)
    (hupper : azimuth ≤ 180) :
    lateralAngleDegrees (180 - azimuth) = lateralAngleDegrees azimuth := by
  have hmirror : 90 - (180 - azimuth) = -(90 - azimuth) := by ring
  rw [lateralAngleDegrees_eq, lateralAngleDegrees_eq, abs_of_nonneg hlower,
    abs_of_nonneg (sub_nonneg.mpr hupper), hmirror, abs_neg]

/-! ## Two ears -/

/-- The two ears by lateral angle: their responses and the delay of the far
one.  Straight ahead they do not differ. -/
structure TwoEars where
  near : ℝ → List ℝ
  far : ℝ → List ℝ
  farDelaySamples : ℝ → ℝ
  far_front : far 0 = near 0
  farDelaySamples_front : farDelaySamples 0 = 0

namespace TwoEars

/-- The ears on their sides, for a wrapped azimuth. -/
noncomputable def facing (ears : TwoEars) (azimuth : ℝ) : HrtfFilter ℝ :=
  let alpha := lateralAngleDegrees azimuth
  if 0 < azimuth then
    ⟨ears.near alpha, ears.far alpha, 0, ears.farDelaySamples alpha⟩
  else if azimuth < 0 then
    ⟨ears.far alpha, ears.near alpha, ears.farDelaySamples alpha, 0⟩
  else ⟨ears.near alpha, ears.near alpha, 0, 0⟩

theorem facing_of_pos (ears : TwoEars) {azimuth : ℝ} (h : 0 < azimuth) :
    ears.facing azimuth =
      ⟨ears.near (lateralAngleDegrees azimuth),
        ears.far (lateralAngleDegrees azimuth), 0,
        ears.farDelaySamples (lateralAngleDegrees azimuth)⟩ :=
  if_pos h

theorem facing_of_neg (ears : TwoEars) {azimuth : ℝ} (h : azimuth < 0) :
    ears.facing azimuth =
      ⟨ears.far (lateralAngleDegrees azimuth),
        ears.near (lateralAngleDegrees azimuth),
        ears.farDelaySamples (lateralAngleDegrees azimuth), 0⟩ := by
  rw [facing, if_neg h.le.not_gt, if_pos h]

/-- In front and behind the sides make no difference. -/
theorem facing_of_medial (ears : TwoEars) {azimuth : ℝ}
    (h : lateralAngleDegrees azimuth = 0) :
    ears.facing azimuth = ⟨ears.near 0, ears.near 0, 0, 0⟩ := by
  rw [facing, h, ears.far_front, ears.farDelaySamples_front]
  split_ifs <;> rfl

theorem facing_neg (ears : TwoEars) (azimuth : ℝ) :
    ears.facing (-azimuth) = (ears.facing azimuth).mirrored := by
  obtain hneg | hzero | hpos := lt_trichotomy azimuth 0
  · rw [ears.facing_of_pos (neg_pos.mpr hneg), ears.facing_of_neg hneg,
      lateralAngleDegrees_neg]
    rfl
  · rw [hzero, neg_zero, ears.facing_of_medial lateralAngleDegrees_front]
    rfl
  · rw [ears.facing_of_neg (neg_neg_iff_pos.mpr hpos), ears.facing_of_pos hpos,
      lateralAngleDegrees_neg]
    rfl

/-- Front and back on the left side. -/
theorem facing_frontBack (ears : TwoEars) {azimuth : ℝ} (hlower : 0 ≤ azimuth)
    (hupper : azimuth ≤ 180) :
    ears.facing (180 - azimuth) = ears.facing azimuth := by
  have hlateral := lateralAngleDegrees_frontBack hlower hupper
  obtain hfront | hpos := hlower.eq_or_lt
  · rw [← hfront, sub_zero, ears.facing_of_medial lateralAngleDegrees_front,
      ears.facing_of_medial lateralAngleDegrees_behind]
  obtain hbehind | hlt := hupper.eq_or_lt
  · rw [hbehind, sub_self, ears.facing_of_medial lateralAngleDegrees_front,
      ears.facing_of_medial lateralAngleDegrees_behind]
  · rw [ears.facing_of_pos (sub_pos.mpr hlt), ears.facing_of_pos hpos, hlateral]

theorem facing_normalize_neg (ears : TwoEars) (azimuthDegrees : ℝ) :
    ears.facing (normalizeAzimuthDegrees (-azimuthDegrees)) =
      (ears.facing (normalizeAzimuthDegrees azimuthDegrees)).mirrored := by
  obtain ⟨hbehind, hmirror⟩ | hmirror := normalizeAzimuthDegrees_neg azimuthDegrees
  · rw [hmirror, hbehind, ears.facing_of_medial lateralAngleDegrees_behind]
    rfl
  · rw [hmirror]
    exact ears.facing_neg _

theorem facing_normalize_frontBack (ears : TwoEars) (azimuthDegrees : ℝ) :
    ears.facing (normalizeAzimuthDegrees (180 - azimuthDegrees)) =
      ears.facing (normalizeAzimuthDegrees azimuthDegrees) := by
  obtain ⟨hlower, hupper⟩ := normalizeAzimuthDegrees_mem azimuthDegrees
  obtain ⟨hleft, heq⟩ | ⟨hright, heq⟩ :=
    normalizeAzimuthDegrees_frontBack azimuthDegrees
  · rw [heq]
    exact ears.facing_frontBack hleft hupper
  · -- the right side is the mirrored left one
    have hwithin : -normalizeAzimuthDegrees azimuthDegrees ≤ 180 := by linarith
    have hmirror := ears.facing_frontBack (neg_nonneg.mpr hright.le) hwithin
    have hneg : -180 - normalizeAzimuthDegrees azimuthDegrees =
        -(180 - -normalizeAzimuthDegrees azimuthDegrees) := by ring
    rw [heq, hneg, ears.facing_neg, hmirror, ears.facing_neg]
    rfl

/-- Two ears on a head that faces the wrapped azimuth are symmetric. -/
theorem headSymmetric (ears : TwoEars) :
    HeadSymmetric fun azimuthDegrees =>
      ears.facing (normalizeAzimuthDegrees azimuthDegrees) where
  mirror := ears.facing_normalize_neg
  period := fun azimuthDegrees turns =>
    congrArg ears.facing (normalizeAzimuthDegrees_add_turns azimuthDegrees turns)
  frontBack := ears.facing_normalize_frontBack

end TwoEars

/-! ## The head models -/

section Models

variable (exp sin : ℝ → ℝ)

open SyntheticHrtf in
/-- The ears of the synthetic model. -/
noncomputable def sphericalEars (hsin : sin 0 = 0) (sampleRate : ℝ) : TwoEars :=
  let _ := exactArithOf exp sin
  { near := fun alpha =>
      buildShelfFilter farEarCutoffHzAtFront
        (lerp nearEarGainAtFront nearEarGainAtSide (alpha / 90)) sampleRate
    far := fun alpha =>
      buildShelfFilter
        (lerp farEarCutoffHzAtFront farEarCutoffHzAtSide (alpha / 90))
        (lerp farEarGainAtFront farEarGainAtSide (alpha / 90)) sampleRate
    farDelaySamples := fun alpha =>
      headRadiusMeters / speedOfSoundMetersPerSecond *
        (alpha * (pi / 180) + sin (alpha * (pi / 180))) * sampleRate
    far_front := by
      have hfront (a b : ℝ) : lerp a b (0 / 90) = a := by
        show a + (b - a) * (0 / 90) = a
        rw [zero_div, mul_zero, add_zero]
      rw [hfront, hfront, hfront]
      rfl
    farDelaySamples_front := by
      have hfront (seconds radians : ℝ) :
          seconds * (0 * radians + sin (0 * radians)) * sampleRate = 0 := by
        rw [zero_mul, hsin, add_zero, mul_zero, zero_mul]
      exact hfront _ _ }

theorem computeSphericalHeadFilter_eq (hsin : sin 0 = 0)
    (azimuthDegrees elevationDegrees sampleRate : ℝ) :
    @computeSphericalHeadFilter ℝ (exactArithOf exp sin) azimuthDegrees
        elevationDegrees sampleRate =
      (sphericalEars exp sin hsin sampleRate).facing
        (normalizeAzimuthDegrees azimuthDegrees) := by
  rw [TwoEars.facing]
  rfl

theorem headSymmetric_computeSphericalHeadFilter (hsin : sin 0 = 0)
    (elevationDegrees sampleRate : ℝ) :
    HeadSymmetric fun azimuthDegrees =>
      @computeSphericalHeadFilter ℝ (exactArithOf exp sin) azimuthDegrees
        elevationDegrees sampleRate := by
  simp only [computeSphericalHeadFilter_eq exp sin hsin]
  exact (sphericalEars exp sin hsin sampleRate).headSymmetric

open NearField in
/-- The ears of the correction for a distance; it does not delay. -/
noncomputable def nearFieldEars (distanceMeters sampleRate : ℝ) : TwoEars :=
  let _ := exactArithOf exp sin
  let distance := stdClamp distanceMeters
    (FloatArith.ofFloat minSpeakerDistanceMeters)
    (FloatArith.ofFloat maxSpeakerDistanceMeters)
  let referenceGain := onAxisDcGain referenceSpeakerDistanceMeters
  let nearGain := onAxisDcGain distance / referenceGain
  let farGain :=
    FloatArith.sqrt (onAxisDcGain distance) / FloatArith.sqrt referenceGain
  { near := fun alpha =>
      buildBoostShelf (1 + (nearGain - 1) * (alpha / 90)) sampleRate
    far := fun alpha =>
      buildBoostShelf (1 + (farGain - 1) * (alpha / 90)) sampleRate
    farDelaySamples := fun _ => 0
    far_front := by
      have hfront (gain : ℝ) : 1 + (gain - 1) * (0 / 90) = 1 := by
        rw [zero_div, mul_zero, add_zero]
      exact congrArg₂ buildBoostShelf ((hfront farGain).trans (hfront nearGain).symm)
        rfl
    farDelaySamples_front := rfl }

theorem computeNearFieldCorrection_eq
    (azimuthDegrees distanceMeters sampleRate : ℝ) :
    @computeNearFieldCorrection ℝ (exactArithOf exp sin) azimuthDegrees
        distanceMeters sampleRate =
      (nearFieldEars exp sin distanceMeters sampleRate).facing
        (normalizeAzimuthDegrees azimuthDegrees) := by
  rw [TwoEars.facing]
  rfl

theorem headSymmetric_computeNearFieldCorrection
    (distanceMeters sampleRate : ℝ) :
    HeadSymmetric fun azimuthDegrees =>
      @computeNearFieldCorrection ℝ (exactArithOf exp sin) azimuthDegrees
        distanceMeters sampleRate := by
  simp only [computeNearFieldCorrection_eq]
  exact (nearFieldEars exp sin distanceMeters sampleRate).headSymmetric

/-- A symmetric filter stays symmetric when it is corrected. -/
theorem HeadSymmetric.applyNearFieldCorrection {farFieldAt : ℝ → HrtfFilter ℝ}
    (h : HeadSymmetric farFieldAt) (distanceMeters sampleRate : ℝ) :
    HeadSymmetric fun azimuthDegrees =>
      @applyNearFieldCorrection ℝ (exactArithOf exp sin)
        (farFieldAt azimuthDegrees) azimuthDegrees distanceMeters sampleRate := by
  obtain ⟨hmirror, hperiod, hfrontBack⟩ :=
    headSymmetric_computeNearFieldCorrection exp sin distanceMeters sampleRate
  constructor
  case mirror =>
    intro azimuthDegrees
    simp only [RamkolFX.applyNearFieldCorrection, h.mirror, hmirror]
    rfl
  case period =>
    intro azimuthDegrees turns
    simp only [RamkolFX.applyNearFieldCorrection, h.period, hperiod]
  case frontBack =>
    intro azimuthDegrees
    simp only [RamkolFX.applyNearFieldCorrection, h.frontBack, hfrontBack]

/-- Both head models, and the one corrected by the other, mirror with the
azimuth, repeat with every turn and do not tell front from back. -/
theorem headModels_symmetric (hsin : sin 0 = 0)
    (elevationDegrees distanceMeters sampleRate : ℝ) :
    letI := exactArithOf exp sin
    HeadSymmetric (fun azimuthDegrees =>
        computeSphericalHeadFilter azimuthDegrees elevationDegrees sampleRate) ∧
      HeadSymmetric (fun azimuthDegrees =>
        computeNearFieldCorrection azimuthDegrees distanceMeters sampleRate) ∧
      HeadSymmetric fun azimuthDegrees =>
        applyNearFieldCorrection
          (computeSphericalHeadFilter azimuthDegrees elevationDegrees sampleRate)
          azimuthDegrees distanceMeters sampleRate := by
  have hspherical := headSymmetric_computeSphericalHeadFilter exp sin hsin
    elevationDegrees sampleRate
  exact ⟨hspherical,
    headSymmetric_computeNearFieldCorrection exp sin distanceMeters sampleRate,
    hspherical.applyNearFieldCorrection exp sin distanceMeters sampleRate⟩

end Models

/-- A speaker half a metre away, to the left and to the right. -/
theorem headModels_symmetric_left :
    applyNearFieldCorrection (computeSphericalHeadFilter (-90) 0 48000) (-90) 0.5
        48000 =
      (applyNearFieldCorrection (computeSphericalHeadFilter 90 0 48000) 90 0.5
        48000 : HrtfFilter ℝ).mirrored :=
  (headModels_symmetric Real.exp Real.sin Real.sin_zero 0 0.5 48000).2.2.mirror 90

end RamkolFX
