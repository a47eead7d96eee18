import RamkolFX.Dsp.HeadSymmetry
import RamkolFX.Dsp.NearFieldConvolution

/-!
# The near-field correction over the distance

In exact arithmetic the tap sum of each ear's shelf is an affine function of its
gain.  The gains fall with the distance, so the near ear is the louder the
nearer the speaker is; that the ears also come apart holds because the gains of
all distances in range stay above one half.
-/

namespace RamkolFX

open Support

namespace NearField

/-! ## The sum of a shelf -/

theorem sum_lowpassTaps (pole : ℝ) (n : ℕ) (polePower : ℝ) :
    (lowpassTaps pole n polePower).sum = polePower * (1 - pole ^ n) := by
  induction n generalizing polePower with
  | zero => simp [lowpassTaps]
  | succ n ih =>
      rw [lowpassTaps, List.sum_cons, ih, pow_succ]
      ring

theorem sum_addUnitImpulse {taps : List ℝ} (h : taps ≠ []) :
    (addUnitImpulse taps).sum = taps.sum + 1 := by
  cases taps with
  | nil => exact absurd rfl h
  | cons tap taps =>
      rw [addUnitImpulse, List.sum_cons, List.sum_cons]
      exact add_right_comm tap 1 taps.sum

/-- The pole of the shelves. -/
noncomputable def shelfPole (sampleRate : ℝ) : ℝ :=
  FloatArith.exp (-2 * pi * cornerHz / sampleRate)

/-- The part of a gain's boost that the taps of its shelf add up to. -/
noncomputable def shelfShare (sampleRate : ℝ) : ℝ :=
  1 - shelfPole sampleRate ^ tapCount

theorem sum_buildBoostShelf (gain sampleRate : ℝ) :
    (buildBoostShelf gain sampleRate).sum =
      1 + (gain - 1) * shelfShare sampleRate := by
  have htaps : ((buildUnityGainLowpassIR cornerHz sampleRate tapCount).map
      fun tap => tap * (gain - 1)) ≠ [] := by
    rw [buildUnityGainLowpassIR, tapCount, lowpassTaps, List.map_cons]
    exact List.cons_ne_nil _ _
  have hsum := sum_lowpassTaps (shelfPole sampleRate) tapCount 1
  rw [buildBoostShelf, sum_addUnitImpulse htaps, List.sum_map_mul_right]
  simp only [List.map_id']
  show (lowpassTaps (shelfPole sampleRate) tapCount 1).sum * (gain - 1) + 1 = _
  rw [hsum, shelfShare]
  ring

theorem headRadiusMeters_mem :
    0 < (headRadiusMeters : ℝ) ∧ (headRadiusMeters : ℝ) < 0.1 := by
  have hlower : 0 < (⟨0x3DB33333⟩ : Binary32).value := by decide +kernel
  have hupper : (⟨0x3DB33333⟩ : Binary32).value < 1 / 10 := by decide +kernel
  obtain ⟨hlo, hhi⟩ := ofFloat_mem hlower hupper
  norm_num at hlo hhi ⊢
  exact ⟨hlo, hhi⟩

theorem pi_pos : 0 < (pi : ℝ) :=
  ofFloat_pos (by decide +kernel)

theorem cornerHz_pos : 0 < (cornerHz : ℝ) := by
  have hspeed : (0 : ℝ) < 343 := by norm_num
  exact div_pos hspeed (mul_pos (mul_pos two_pos pi_pos) headRadiusMeters_mem.1)

/-- The low-pass is stable, so its taps do not add up to unity entirely. -/
theorem shelfShare_mem {sampleRate : ℝ} (hrate : 0 < sampleRate) :
    0 < shelfShare sampleRate ∧ shelfShare sampleRate < 1 := by
  have hcutoff : 0 < 2 * pi * cornerHz / sampleRate :=
    div_pos (mul_pos (mul_pos two_pos pi_pos) cornerHz_pos) hrate
  have hpole : shelfPole sampleRate < 1 := by
    have hexponent : -2 * pi * cornerHz / sampleRate < 0 := by
      rw [neg_mul, neg_mul, neg_div]
      exact neg_neg_iff_pos.mpr hcutoff
    exact Real.exp_lt_one_iff.mpr hexponent
  have hpos : 0 < shelfPole sampleRate := Real.exp_pos _
  have hpower : shelfPole sampleRate ^ tapCount < 1 :=
    pow_lt_one₀ hpos.le hpole (by decide)
  constructor
  · exact sub_pos.mpr hpower
  · exact sub_lt_self 1 (pow_pos hpos tapCount)

/-! ## The gain of a distance -/

theorem onAxisDcGain_eq {distanceMeters : ℝ}
    (h : headRadiusMeters < distanceMeters) :
    onAxisDcGain distanceMeters =
      1 + headRadiusMeters / (distanceMeters - headRadiusMeters) := by
  have hradius := headRadiusMeters_mem.1
  have hgap : distanceMeters - headRadiusMeters ≠ 0 := (sub_pos.mpr h).ne'
  have hrho : distanceMeters / headRadiusMeters - 1 =
      (distanceMeters - headRadiusMeters) / headRadiusMeters := by
    rw [sub_div, div_self hradius.ne']
  show distanceMeters / headRadiusMeters / (distanceMeters / headRadiusMeters - 1) = _
  rw [hrho, div_div_div_cancel_right₀ hradius.ne', eq_comm, ← div_self hgap,
    ← add_div, sub_add_cancel]

/-- Outside the head the gain falls with the distance. -/
theorem onAxisDcGain_lt {distanceMeters farther : ℝ}
    (hhead : headRadiusMeters < distanceMeters) (h : distanceMeters < farther) :
    onAxisDcGain farther < onAxisDcGain distanceMeters := by
  have hradius := headRadiusMeters_mem.1
  rw [onAxisDcGain_eq (hhead.trans h), onAxisDcGain_eq hhead]
  have hgap : distanceMeters - headRadiusMeters < farther - headRadiusMeters :=
    sub_lt_sub_right h _
  exact add_lt_add_right
    (div_lt_div_of_pos_left hradius (sub_pos.mpr hhead) hgap) 1

theorem one_lt_onAxisDcGain {distanceMeters : ℝ}
    (h : headRadiusMeters < distanceMeters) : 1 < onAxisDcGain distanceMeters := by
  rw [onAxisDcGain_eq h]
  exact lt_add_of_pos_right 1
    (div_pos headRadiusMeters_mem.1 (sub_pos.mpr h))

/-- The distances that the correction is computed for. -/
theorem distance_range :
    headRadiusMeters < (FloatArith.ofFloat minSpeakerDistanceMeters : ℝ) ∧
      (FloatArith.ofFloat minSpeakerDistanceMeters : ℝ) < 1 ∧
      1 < (FloatArith.ofFloat maxSpeakerDistanceMeters : ℝ) := by
  have hmin : 1 / 10 < minSpeakerDistanceMeters.value := by decide +kernel
  have hmin' : minSpeakerDistanceMeters.value < 1 := by decide +kernel
  have hmax : 1 < maxSpeakerDistanceMeters.value := by decide +kernel
  obtain ⟨hlo, hhi⟩ := ofFloat_mem hmin hmin'
  have hlo' := Rat.cast_lt (K := ℝ).mpr hmax
  have hradius := headRadiusMeters_mem.2
  norm_num at hlo hhi hlo' hradius
  exact ⟨hradius.trans hlo, hhi, hlo'⟩

/-- A distance as the correction clamps it. -/
noncomputable def clampedDistance (distanceMeters : ℝ) : ℝ :=
  stdClamp distanceMeters (FloatArith.ofFloat minSpeakerDistanceMeters)
    (FloatArith.ofFloat maxSpeakerDistanceMeters)

theorem headRadiusMeters_lt_clampedDistance (distanceMeters : ℝ) :
    headRadiusMeters < clampedDistance distanceMeters := by
  obtain ⟨hmin, hlo, hhi⟩ := distance_range
  exact hmin.trans_le (stdClamp_mem (hlo.trans hhi).le distanceMeters).1

/-- What the far ear gains at the side; the near ear gains its square. -/
noncomputable def distanceGain (distanceMeters : ℝ) : ℝ :=
  Real.sqrt (onAxisDcGain (clampedDistance distanceMeters)) /
    Real.sqrt (onAxisDcGain referenceSpeakerDistanceMeters)

theorem one_lt_referenceGain :
    (1 : ℝ) < onAxisDcGain referenceSpeakerDistanceMeters := by
  obtain ⟨hmin, hlo, -⟩ := distance_range
  exact one_lt_onAxisDcGain (hmin.trans hlo)

theorem distanceGain_sq (distanceMeters : ℝ) :
    distanceGain distanceMeters ^ 2 =
      onAxisDcGain (clampedDistance distanceMeters) /
        onAxisDcGain referenceSpeakerDistanceMeters := by
  have hgain :=
    one_lt_onAxisDcGain (headRadiusMeters_lt_clampedDistance distanceMeters)
  rw [distanceGain, div_pow, Real.sq_sqrt (one_pos.trans hgain).le,
    Real.sq_sqrt (one_pos.trans one_lt_referenceGain).le]

/-- No gain is as low as one half: the reference gain is below two. -/
theorem half_lt_distanceGain (distanceMeters : ℝ) :
    1 / 2 < distanceGain distanceMeters := by
  obtain ⟨hradius, hradius'⟩ := headRadiusMeters_mem
  have hgain :=
    one_lt_onAxisDcGain (headRadiusMeters_lt_clampedDistance distanceMeters)
  have hreference : onAxisDcGain (referenceSpeakerDistanceMeters : ℝ) < 2 := by
    have hhead : (headRadiusMeters : ℝ) < 1 := hradius'.trans (by norm_num)
    have hquotient : (headRadiusMeters : ℝ) / (1 - headRadiusMeters) < 1 := by
      rw [div_lt_one (sub_pos.mpr hhead)]
      linarith
    rw [referenceSpeakerDistanceMeters, onAxisDcGain_eq hhead]
    linarith
  have hsquare : (1 / 2 : ℝ) ^ 2 < distanceGain distanceMeters ^ 2 := by
    rw [distanceGain_sq, lt_div_iff₀ (one_pos.trans one_lt_referenceGain)]
    linarith
  exact lt_of_pow_lt_pow_left₀ 2
    (div_nonneg (Real.sqrt_nonneg _) (Real.sqrt_nonneg _)) hsquare

theorem distanceGain_lt {distanceMeters farther : ℝ}
    (h : clampedDistance distanceMeters < clampedDistance farther) :
    distanceGain farther < distanceGain distanceMeters := by
  have hgain :=
    onAxisDcGain_lt (headRadiusMeters_lt_clampedDistance distanceMeters) h
  have hfarther := one_lt_onAxisDcGain (headRadiusMeters_lt_clampedDistance farther)
  have hreference : 0 < Real.sqrt (onAxisDcGain referenceSpeakerDistanceMeters) :=
    Real.sqrt_pos.mpr (one_pos.trans one_lt_referenceGain)
  exact div_lt_div_of_pos_right
    (Real.sqrt_lt_sqrt (one_pos.trans hfarther).le hgain) hreference

theorem distanceGain_antitone : Antitone distanceGain := by
  intro distanceMeters farther h
  obtain ⟨-, hlo, hhi⟩ := distance_range
  have hclamped : clampedDistance distanceMeters ≤ clampedDistance farther :=
    stdClamp_le_stdClamp (hlo.trans hhi).le h
  obtain heq | hlt := hclamped.eq_or_lt
  · rw [distanceGain, ← heq]
    exact le_refl _
  · exact (distanceGain_lt hlt).le

/-- Inside the range no two distances have the same gain. -/
theorem distanceGain_strictAntiOn :
    StrictAntiOn distanceGain
      (Set.Icc (FloatArith.ofFloat minSpeakerDistanceMeters)
        (FloatArith.ofFloat maxSpeakerDistanceMeters)) := by
  intro distanceMeters hdistance farther hfarther h
  apply distanceGain_lt
  rw [clampedDistance, clampedDistance, stdClamp_of_mem hdistance.1 hdistance.2,
    stdClamp_of_mem hfarther.1 hfarther.2]
  exact h

theorem distanceGain_reference : distanceGain 1 = 1 := by
  obtain ⟨-, hlo, hhi⟩ := distance_range
  have hclamped : clampedDistance 1 = referenceSpeakerDistanceMeters :=
    stdClamp_of_mem hlo.le hhi.le
  rw [distanceGain, hclamped]
  exact div_self (Real.sqrt_pos.mpr (one_pos.trans one_lt_referenceGain)).ne'

/-! ## The ratio of the ears -/

section Ears

variable {share gain higher : ℝ}

/-- The sum of an ear's shelf, for the part of the boost that it takes. -/
noncomputable def earSum (share gain : ℝ) : ℝ := 1 + (gain - 1) * share

theorem earSum_pos (hshare : 0 ≤ share) (hshare' : share < 1) (hgain : 0 < gain) :
    0 < earSum share gain := by
  have hboost : 0 ≤ gain * share := mul_nonneg hgain.le hshare
  rw [earSum]
  linarith

theorem earSum_lt (hshare : 0 < share) (h : gain < higher) :
    earSum share gain < earSum share higher :=
  add_lt_add_right (mul_lt_mul_of_pos_right (sub_lt_sub_right h 1) hshare) 1

/-- Two gains that add up to more than unity have their ratios in order. -/
theorem earRatio_lt (hshare : 0 < share) (hshare' : share < 1)
    (hgain : 1 / 2 < gain) (h : gain < higher) :
    earSum share (gain ^ 2) / earSum share gain <
      earSum share (higher ^ 2) / earSum share higher := by
  have hpos : 0 < gain := one_half_pos.trans hgain
  have hfar := earSum_pos hshare.le hshare' hpos
  have hfar' := earSum_pos hshare.le hshare' (hpos.trans h)
  have hslope : 0 < (1 - share) * (gain + higher - 1) + share * (gain * higher) := by
    have hinner : 0 < gain + higher - 1 := by linarith
    exact add_pos (mul_pos (sub_pos.mpr hshare') hinner)
      (mul_pos hshare (mul_pos hpos (hpos.trans h)))
  have hdifference : earSum share (higher ^ 2) * earSum share gain -
      earSum share (gain ^ 2) * earSum share higher =
        share * (higher - gain) *
          ((1 - share) * (gain + higher - 1) + share * (gain * higher)) := by
    simp only [earSum]
    ring
  rw [div_lt_div_iff₀ hfar hfar', ← sub_pos, hdifference]
  exact mul_pos (mul_pos hshare (sub_pos.mpr h)) hslope

theorem earRatio_le (hshare : 0 ≤ share) (hshare' : share < 1)
    (hgain : 1 / 2 < gain) (h : gain ≤ higher) :
    earSum share (gain ^ 2) / earSum share gain ≤
      earSum share (higher ^ 2) / earSum share higher := by
  obtain heq | hlt := h.eq_or_lt
  · rw [heq]
  obtain hzero | hpos := hshare.eq_or_lt
  · simp only [← hzero, earSum, mul_zero, add_zero, le_refl]
  · exact (earRatio_lt hpos hshare' hgain hlt).le

end Ears

end NearField

/-! ## The ears of a source -/

/-- The taps of the ear that faces a source, the left one in the middle. -/
noncomputable def HrtfFilter.nearEar (filter : HrtfFilter ℝ)
    (azimuthDegrees : ℝ) : List ℝ :=
  if normalizeAzimuthDegrees azimuthDegrees < 0 then filter.right else filter.left

/-- The taps of the other ear. -/
noncomputable def HrtfFilter.farEar (filter : HrtfFilter ℝ)
    (azimuthDegrees : ℝ) : List ℝ :=
  if normalizeAzimuthDegrees azimuthDegrees < 0 then filter.left else filter.right

theorem TwoEars.nearEar_facing (ears : TwoEars) (azimuthDegrees : ℝ) :
    (ears.facing (normalizeAzimuthDegrees azimuthDegrees)).nearEar azimuthDegrees =
      ears.near (lateralAngleDegrees (normalizeAzimuthDegrees azimuthDegrees)) := by
  obtain hneg | hzero | hpos :=
    lt_trichotomy (normalizeAzimuthDegrees azimuthDegrees) 0
  · rw [HrtfFilter.nearEar, if_pos hneg, ears.facing_of_neg hneg]
  · rw [HrtfFilter.nearEar, if_neg hzero.not_lt, hzero,
      ears.facing_of_medial lateralAngleDegrees_front, lateralAngleDegrees_front]
  · rw [HrtfFilter.nearEar, if_neg hpos.le.not_gt, ears.facing_of_pos hpos]

theorem TwoEars.farEar_facing (ears : TwoEars) (azimuthDegrees : ℝ) :
    (ears.facing (normalizeAzimuthDegrees azimuthDegrees)).farEar azimuthDegrees =
      ears.far (lateralAngleDegrees (normalizeAzimuthDegrees azimuthDegrees)) := by
  obtain hneg | hzero | hpos :=
    lt_trichotomy (normalizeAzimuthDegrees azimuthDegrees) 0
  · rw [HrtfFilter.farEar, if_pos hneg, ears.facing_of_neg hneg]
  · rw [HrtfFilter.farEar, if_neg hzero.not_lt, hzero,
      ears.facing_of_medial lateralAngleDegrees_front, lateralAngleDegrees_front,
      ears.far_front]
  · rw [HrtfFilter.farEar, if_neg hpos.le.not_gt, ears.facing_of_pos hpos]

namespace NearField

/-- The sum of the near ear's taps of the correction. -/
noncomputable def nearEarSum (azimuthDegrees sampleRate distanceMeters : ℝ) : ℝ :=
  ((computeNearFieldCorrection azimuthDegrees distanceMeters sampleRate).nearEar
    azimuthDegrees).sum

noncomputable def farEarSum (azimuthDegrees sampleRate distanceMeters : ℝ) : ℝ :=
  ((computeNearFieldCorrection azimuthDegrees distanceMeters sampleRate).farEar
    azimuthDegrees).sum

noncomputable def earRatio (azimuthDegrees sampleRate distanceMeters : ℝ) : ℝ :=
  nearEarSum azimuthDegrees sampleRate distanceMeters /
    farEarSum azimuthDegrees sampleRate distanceMeters

/-- The part of the boost that a direction's shelves add up to. -/
noncomputable def directionShare (azimuthDegrees sampleRate : ℝ) : ℝ :=
  lateralAngleDegrees (normalizeAzimuthDegrees azimuthDegrees) / 90 *
    shelfShare sampleRate

theorem computeNearFieldCorrection_eq_facing
    (azimuthDegrees distanceMeters sampleRate : ℝ) :
    computeNearFieldCorrection azimuthDegrees distanceMeters sampleRate =
      (nearFieldEars Real.exp Real.sin distanceMeters sampleRate).facing
        (normalizeAzimuthDegrees azimuthDegrees) :=
  computeNearFieldCorrection_eq Real.exp Real.sin azimuthDegrees distanceMeters
    sampleRate

theorem nearFieldEars_near (distanceMeters sampleRate alpha : ℝ) :
    (nearFieldEars Real.exp Real.sin distanceMeters sampleRate).near alpha =
      buildBoostShelf (1 + (distanceGain distanceMeters ^ 2 - 1) * (alpha / 90))
        sampleRate := by
  rw [distanceGain_sq]
  rfl

theorem nearFieldEars_far (distanceMeters sampleRate alpha : ℝ) :
    (nearFieldEars Real.exp Real.sin distanceMeters sampleRate).far alpha =
      buildBoostShelf (1 + (distanceGain distanceMeters - 1) * (alpha / 90))
        sampleRate := by
  rw [distanceGain]
  rfl

theorem farEarSum_eq (azimuthDegrees sampleRate distanceMeters : ℝ) :
    farEarSum azimuthDegrees sampleRate distanceMeters =
      earSum (directionShare azimuthDegrees sampleRate)
        (distanceGain distanceMeters) := by
  rw [farEarSum, computeNearFieldCorrection_eq_facing, TwoEars.farEar_facing,
    nearFieldEars_far, sum_buildBoostShelf, earSum, directionShare]
  ring

theorem nearEarSum_eq (azimuthDegrees sampleRate distanceMeters : ℝ) :
    nearEarSum azimuthDegrees sampleRate distanceMeters =
      earSum (directionShare azimuthDegrees sampleRate)
        (distanceGain distanceMeters ^ 2) := by
  rw [nearEarSum, computeNearFieldCorrection_eq_facing, TwoEars.nearEar_facing,
    nearFieldEars_near, sum_buildBoostShelf, earSum, directionShare]
  ring

theorem lateralAngleDegrees_mem (azimuthDegrees : ℝ) :
    0 ≤ lateralAngleDegrees (normalizeAzimuthDegrees azimuthDegrees) ∧
      lateralAngleDegrees (normalizeAzimuthDegrees azimuthDegrees) ≤ 90 := by
  obtain ⟨hlower, hupper⟩ := normalizeAzimuthDegrees_mem azimuthDegrees
  have hwrapped : |normalizeAzimuthDegrees azimuthDegrees| ≤ 180 :=
    abs_le.mpr ⟨hlower.le, hupper⟩
  have hpos := abs_nonneg (normalizeAzimuthDegrees azimuthDegrees)
  have hfolded : |90 - (|normalizeAzimuthDegrees azimuthDegrees|)| ≤ 90 := by
    rw [abs_le]
    constructor <;> linarith
  rw [lateralAngleDegrees_eq]
  constructor
  · exact sub_nonneg.mpr hfolded
  · exact sub_le_self 90 (abs_nonneg _)

theorem directionShare_mem (azimuthDegrees : ℝ) {sampleRate : ℝ}
    (hrate : 0 < sampleRate) :
    0 ≤ directionShare azimuthDegrees sampleRate ∧
      directionShare azimuthDegrees sampleRate < 1 := by
  obtain ⟨hlower, hupper⟩ := lateralAngleDegrees_mem azimuthDegrees
  obtain ⟨hshare, hshare'⟩ := shelfShare_mem hrate
  have hfraction : lateralAngleDegrees (normalizeAzimuthDegrees azimuthDegrees) / 90
      ≤ 1 := by
    rw [div_le_one (by norm_num)]
    exact hupper
  constructor
  · exact mul_nonneg (div_nonneg hlower (by norm_num)) hshare.le
  · exact (mul_le_of_le_one_left hshare.le hfraction).trans_lt hshare'

theorem directionShare_pos {azimuthDegrees sampleRate : ℝ}
    (hrate : 0 < sampleRate)
    (h : lateralAngleDegrees (normalizeAzimuthDegrees azimuthDegrees) ≠ 0) :
    0 < directionShare azimuthDegrees sampleRate := by
  have hpos := (lateralAngleDegrees_mem azimuthDegrees).1.lt_of_ne h.symm
  exact mul_pos (div_pos hpos (by norm_num)) (shelfShare_mem hrate).1

/-! ## Monotonicity -/

section Distances

variable (azimuthDegrees : ℝ) {sampleRate : ℝ} (hrate : 0 < sampleRate)

theorem distanceGain_pos (distanceMeters : ℝ) : 0 < distanceGain distanceMeters :=
  one_half_pos.trans (half_lt_distanceGain distanceMeters)

include hrate

theorem farEarSum_pos (distanceMeters : ℝ) :
    0 < farEarSum azimuthDegrees sampleRate distanceMeters := by
  obtain ⟨hshare, hshare'⟩ := directionShare_mem azimuthDegrees hrate
  rw [farEarSum_eq]
  exact earSum_pos hshare hshare' (distanceGain_pos distanceMeters)

theorem nearEarSum_antitone : Antitone (nearEarSum azimuthDegrees sampleRate) := by
  intro distanceMeters farther h
  have hgain := pow_le_pow_left₀ (distanceGain_pos farther).le
    (distanceGain_antitone h) 2
  obtain ⟨hshare, -⟩ := directionShare_mem azimuthDegrees hrate
  rw [nearEarSum_eq, nearEarSum_eq, earSum, earSum]
  exact add_le_add_right
    (mul_le_mul_of_nonneg_right (sub_le_sub_right hgain 1) hshare) 1

theorem earRatio_antitone : Antitone (earRatio azimuthDegrees sampleRate) := by
  intro distanceMeters farther h
  obtain ⟨hshare, hshare'⟩ := directionShare_mem azimuthDegrees hrate
  simp only [earRatio, nearEarSum_eq, farEarSum_eq]
  exact earRatio_le hshare hshare' (half_lt_distanceGain farther)
    (distanceGain_antitone h)

variable {azimuthDegrees}
  (hlateral : lateralAngleDegrees (normalizeAzimuthDegrees azimuthDegrees) ≠ 0)

include hlateral

theorem nearEarSum_strictAntiOn :
    StrictAntiOn (nearEarSum azimuthDegrees sampleRate)
      (Set.Icc (FloatArith.ofFloat minSpeakerDistanceMeters)
        (FloatArith.ofFloat maxSpeakerDistanceMeters)) := by
  intro distanceMeters hdistance farther hfarther h
  have hgain := pow_lt_pow_left₀
    (distanceGain_strictAntiOn hdistance hfarther h) (distanceGain_pos farther).le
    two_ne_zero
  rw [nearEarSum_eq, nearEarSum_eq]
  exact earSum_lt (directionShare_pos hrate hlateral) hgain

theorem earRatio_strictAntiOn :
    StrictAntiOn (earRatio azimuthDegrees sampleRate)
      (Set.Icc (FloatArith.ofFloat minSpeakerDistanceMeters)
        (FloatArith.ofFloat maxSpeakerDistanceMeters)) := by
  intro distanceMeters hdistance farther hfarther h
  obtain ⟨-, hshare'⟩ := directionShare_mem azimuthDegrees hrate
  simp only [earRatio, nearEarSum_eq, farEarSum_eq]
  exact earRatio_lt (directionShare_pos hrate hlateral) hshare'
    (half_lt_distanceGain farther)
    (distanceGain_strictAntiOn hdistance hfarther h)

end Distances

/-! ## The reference distance -/

theorem earRatio_reference (azimuthDegrees sampleRate : ℝ) :
    earRatio azimuthDegrees sampleRate 1 = 1 := by
  rw [earRatio, nearEarSum_eq, farEarSum_eq, distanceGain_reference]
  norm_num [earSum]

/-- A shelf of unit gain passes everything on. -/
theorem buildBoostShelf_one (sampleRate : ℝ) :
    buildBoostShelf 1 sampleRate = 1 :: List.replicate (tapCount - 1) 0 := by
  have hzero (taps : List ℝ) :
      taps.map (fun tap => tap * (1 - 1)) = List.replicate taps.length 0 := by
    rw [List.eq_replicate_iff]
    simp
  have hlength : (buildUnityGainLowpassIR (cornerHz : ℝ) sampleRate tapCount).length =
      tapCount := length_lowpassTaps _ _ _
  rw [buildBoostShelf, hzero, hlength]
  show (0 + 1 : ℝ) :: List.replicate (tapCount - 1) 0 = _
  rw [zero_add]

/-- At one meter both ears get a shelf of unit gain. -/
theorem computeNearFieldCorrection_reference (azimuthDegrees sampleRate : ℝ) :
    computeNearFieldCorrection azimuthDegrees 1 sampleRate =
      ⟨1 :: List.replicate (tapCount - 1) 0, 1 :: List.replicate (tapCount - 1) 0,
        0, 0⟩ := by
  have hnear (alpha : ℝ) :
      (nearFieldEars Real.exp Real.sin 1 sampleRate).near alpha =
        1 :: List.replicate (tapCount - 1) 0 := by
    rw [nearFieldEars_near, distanceGain_reference, one_pow, sub_self, zero_mul,
      add_zero, buildBoostShelf_one]
  have hfar (alpha : ℝ) :
      (nearFieldEars Real.exp Real.sin 1 sampleRate).far alpha =
        1 :: List.replicate (tapCount - 1) 0 := by
    rw [nearFieldEars_far, distanceGain_reference, sub_self, zero_mul, add_zero,
      buildBoostShelf_one]
  have hdelay (alpha : ℝ) :
      (nearFieldEars Real.exp Real.sin 1 sampleRate).farDelaySamples alpha = 0 :=
    rfl
  rw [computeNearFieldCorrection_eq_facing, TwoEars.facing]
  simp only [hnear, hfar, hdelay, ite_self]

theorem convolve_unitShelf (taps : List ℝ) :
    ∃ n, convolve taps (1 :: List.replicate (tapCount - 1) 0) =
      taps ++ List.replicate n 0 := by
  by_cases htaps : taps = []
  · refine ⟨0, ?_⟩
    rw [htaps]
    rfl
  · exact ⟨tapCount - 1, isConvolution_convolve.impulse htaps _⟩

/-- At one meter the correction adds nothing but zeros behind the filter, and at
any other distance the nearer speaker is the louder one and lies further to its
side: strictly so off the middle, as far as the distances are told apart. -/
theorem nearField_by_distance (azimuthDegrees : ℝ) {sampleRate : ℝ}
    (hrate : 0 < sampleRate) :
    (∀ farFieldFilter : HrtfFilter ℝ,
      ∃ leftZeros rightZeros,
        applyNearFieldCorrection farFieldFilter azimuthDegrees 1 sampleRate =
          { farFieldFilter with
            left := farFieldFilter.left ++ List.replicate leftZeros 0
            right := farFieldFilter.right ++ List.replicate rightZeros 0 }) ∧
      (∀ distanceMeters, 0 < farEarSum azimuthDegrees sampleRate distanceMeters) ∧
      Antitone (nearEarSum azimuthDegrees sampleRate) ∧
      Antitone (earRatio azimuthDegrees sampleRate) ∧
      (lateralAngleDegrees (normalizeAzimuthDegrees azimuthDegrees) ≠ 0 →
        StrictAntiOn (nearEarSum azimuthDegrees sampleRate)
            (Set.Icc (FloatArith.ofFloat minSpeakerDistanceMeters)
              (FloatArith.ofFloat maxSpeakerDistanceMeters)) ∧
          StrictAntiOn (earRatio azimuthDegrees sampleRate)
            (Set.Icc (FloatArith.ofFloat minSpeakerDistanceMeters)
              (FloatArith.ofFloat maxSpeakerDistanceMeters))) ∧
      (∀ distanceMeters ≤ 1, 1 ≤ earRatio azimuthDegrees sampleRate distanceMeters) ∧
      ∀ distanceMeters ≥ 1, earRatio azimuthDegrees sampleRate distanceMeters ≤ 1 := by
  have hratio := earRatio_antitone azimuthDegrees hrate
  have hreference := earRatio_reference azimuthDegrees sampleRate
  refine ⟨?_, farEarSum_pos azimuthDegrees hrate,
    nearEarSum_antitone azimuthDegrees hrate, hratio, ?_, ?_, ?_⟩
  · intro farFieldFilter
    obtain ⟨leftZeros, hleft⟩ := convolve_unitShelf farFieldFilter.left
    obtain ⟨rightZeros, hright⟩ := convolve_unitShelf farFieldFilter.right
    refine ⟨leftZeros, rightZeros, ?_⟩
    rw [applyNearFieldCorrection, computeNearFieldCorrection_reference, hleft, hright]
  · intro hlateral
    exact ⟨nearEarSum_strictAntiOn hrate hlateral,
      earRatio_strictAntiOn hrate hlateral⟩
  · intro distanceMeters h
    rw [← hreference]
    exact hratio h
  · intro distanceMeters h
    rw [← hreference]
    exact hratio h

/-- Straight to the left, half a meter is closer than a whole one. -/
theorem nearField_by_distance_side :
    earRatio 90 48000 1 < earRatio 90 48000 0.5 := by
  have hwrapped : normalizeAzimuthDegrees (90 : ℝ) = 90 :=
    normalizeAzimuthDegrees_eq (by norm_num) (by norm_num) 0 (by norm_num)
  have hlateral : lateralAngleDegrees (normalizeAzimuthDegrees (90 : ℝ)) ≠ 0 := by
    rw [hwrapped, lateralAngleDegrees_eq]
    norm_num
  have hmin : 1 / 10 < minSpeakerDistanceMeters.value := by decide +kernel
  have hmin' : minSpeakerDistanceMeters.value < 1 / 2 := by decide +kernel
  obtain ⟨-, hhalf⟩ := ofFloat_mem hmin hmin'
  obtain ⟨-, hlo, hhi⟩ := distance_range
  norm_num at hhalf
  obtain ⟨-, -, -, -, hstrict, -⟩ :=
    nearField_by_distance 90 (by norm_num : (0 : ℝ) < 48000)
  refine (hstrict hlateral).2 ⟨?_, ?_⟩ ⟨hlo.le, hhi.le⟩ ?_
  · linarith
  · linarith
  · norm_num

end NearField

end RamkolFX
