import RamkolFX.Dsp.FlatCurve
import RamkolFX.Support.SecondOrder

/-!
# The response of the equalizer

What the labels of the bands promise: in exact arithmetic a section passes a
steady oscillation on, in the limit and from whatever its delays hold, scaled by
its response, and the response at the ends of the spectrum and at the frequency
of the band is the one its type, its gain and its Q stand for.
-/

namespace RamkolFX

open Support Filter Topology

/-! ## Sections -/

namespace Biquad

def toSecondOrder (biquad : Biquad ℝ) : SecondOrder ℝ :=
  ⟨biquad.b0, biquad.b1, biquad.b2, biquad.a1, biquad.a2⟩

theorem stable_toSecondOrder {biquad : Biquad ℝ} (h : biquad.Stable) :
    biquad.toSecondOrder.Stable :=
  h

variable (biquad : Biquad ℝ) (x : ℕ → ℝ)

@[simp] theorem toSecondOrder_processSample (input : ℝ) :
    (biquad.processSample input).2.toSecondOrder = biquad.toSecondOrder := rfl

theorem toSecondOrder_stateAt (n : ℕ) :
    (stateAt processSample biquad x n).toSecondOrder = biquad.toSecondOrder := by
  induction n with
  | zero => rfl
  | succ n ih => rw [stateAt, toSecondOrder_processSample, ih]

/-- The signals of a section that is fed an endless stream. -/
theorem runs_stateAt :
    biquad.toSecondOrder.Runs x (outputAt processSample biquad x)
      (fun n => (stateAt processSample biquad x n).z1)
      (fun n => (stateAt processSample biquad x n).z2) := by
  have hcoefficients := toSecondOrder_stateAt biquad x
  constructor
  · intro n
    rw [← hcoefficients n]
    rfl
  · intro n
    rw [← hcoefficients n]
    rfl
  · intro n
    rw [← hcoefficients n]
    rfl

/-! ## Cascades -/

/-- The sections of a cascade are each fed the output of the one before. -/
theorem stateAt_cascade (biquads : List (Biquad ℝ)) (n : ℕ) :
    stateAt cascade (biquad :: biquads) x n =
      stateAt processSample biquad x n ::
        stateAt cascade biquads (outputAt processSample biquad x) n := by
  induction n with
  | zero => rfl
  | succ n ih =>
      rw [stateAt, ih]
      rfl

theorem outputAt_cascade (biquads : List (Biquad ℝ)) (n : ℕ) :
    outputAt cascade (biquad :: biquads) x n =
      outputAt cascade biquads (outputAt processSample biquad x) n := by
  rw [outputAt, stateAt_cascade]
  rfl

theorem outputAt_cascade_nil : outputAt cascade [] x = x := by
  have hstate : ∀ n, stateAt cascade [] x n = [] := by
    intro n
    induction n with
    | zero => rfl
    | succ n ih => rw [stateAt, ih]; rfl
  funext n
  rw [outputAt, hstate]
  rfl

/-- The response of a cascade. -/
noncomputable def cascadeResponse (biquads : List (Biquad ℝ)) (ζ : ℂ) : ℂ :=
  (biquads.map fun biquad => biquad.toSecondOrder.response ζ).prod

theorem settles_cascade {biquads : List (Biquad ℝ)}
    (hstable : ∀ biquad ∈ biquads, biquad.Stable) {ζ amplitude : ℂ} (hζ : ‖ζ‖ = 1)
    {x : ℕ → ℝ} (hx : SecondOrder.Settles x amplitude ζ) :
    SecondOrder.Settles (outputAt cascade biquads x)
      (cascadeResponse biquads ζ * amplitude) ζ := by
  induction biquads generalizing x amplitude with
  | nil =>
      rw [cascadeResponse, List.map_nil, List.prod_nil, one_mul, outputAt_cascade_nil]
      exact hx
  | cons biquad biquads ih =>
      have hfirst := (stable_toSecondOrder (hstable biquad List.mem_cons_self)).settles
        (runs_stateAt biquad x) hζ hx
      have hrest := ih
        (fun other hother => hstable other (List.mem_cons_of_mem _ hother)) hfirst
      have houtput : outputAt cascade (biquad :: biquads) x =
          outputAt cascade biquads (outputAt processSample biquad x) :=
        funext (outputAt_cascade biquad x biquads)
      have hproduct : cascadeResponse (biquad :: biquads) ζ * amplitude =
          cascadeResponse biquads ζ *
            (biquad.toSecondOrder.response ζ * amplitude) := by
        rw [cascadeResponse, List.map_cons, List.prod_cons, cascadeResponse]
        ring
      rw [houtput, hproduct]
      exact hrest

/-- Nothing is delayed. -/
def Silent (biquad : Biquad ℝ) : Prop := biquad.z1 = 0 ∧ biquad.z2 = 0

/-- A cascade that starts in silence raises no bounded signal by more than a
factor of its own. -/
theorem exists_gain_cascade {biquads : List (Biquad ℝ)}
    (hstable : ∀ biquad ∈ biquads, biquad.Stable)
    (hsilent : ∀ biquad ∈ biquads, biquad.Silent) :
    ∃ gain : ℝ, 0 ≤ gain ∧ ∀ (x : ℕ → ℝ) (level : ℝ), (∀ n, |x n| ≤ level) →
      ∀ n, |outputAt cascade biquads x n| ≤ gain * level := by
  induction biquads with
  | nil =>
      refine ⟨1, zero_le_one, fun x level hx n => ?_⟩
      rw [one_mul, outputAt_cascade_nil]
      exact hx n
  | cons biquad biquads ih =>
      obtain ⟨rest, hrest, hrestBound⟩ := ih
        (fun other hother => hstable other (List.mem_cons_of_mem _ hother))
        (fun other hother => hsilent other (List.mem_cons_of_mem _ hother))
      obtain ⟨first, hfirst, hfirstBound⟩ :=
        (stable_toSecondOrder (hstable biquad List.mem_cons_self)).exists_gain
      obtain ⟨hz1, hz2⟩ := hsilent biquad List.mem_cons_self
      refine ⟨rest * first, mul_nonneg hrest hfirst, fun x level hx n => ?_⟩
      rw [outputAt_cascade, mul_assoc]
      apply hrestBound
      exact hfirstBound x _ _ _ level (runs_stateAt biquad x) hz1 hz2 hx

/-! ## Labels -/

/-- The gain of a section at the ends of the spectrum, for a constant and for an
alternating signal, and at the frequency of the band. -/
structure BandGain where
  constant : ℝ
  center : ℝ
  alternating : ℝ

/-- The gain that a label in decibels stands for. -/
noncomputable def gainOf (gainDb : ℝ) : ℝ := amplitudeOf gainDb ^ 2

theorem gainOf_eq (gainDb : ℝ) : gainOf gainDb = Real.rpow 10 (gainDb / 20) := by
  have hten : (0 : ℝ) ≤ 10 := by norm_num
  rw [gainOf, amplitudeOf, Real.rpow_eq_pow, Real.rpow_eq_pow, ← Real.rpow_natCast,
    ← Real.rpow_mul hten]
  congr 1
  push_cast
  ring

/-- What a band is labelled with: its gain where it acts, the half of it (in
decibels) at the edge of a shelf, the Q at the edge of a pass filter. -/
noncomputable def labelledGain (filterType : EqFilterType) (gainDb q : ℝ) :
    BandGain :=
  if filterType = .peaking then ⟨1, gainOf gainDb, 1⟩
  else if filterType = .lowShelf then ⟨gainOf gainDb, amplitudeOf gainDb, 1⟩
  else if filterType = .highShelf then ⟨1, amplitudeOf gainDb, gainOf gainDb⟩
  else if filterType = .lowPass then ⟨1, stdMax q (FloatArith.ofFloat minQ), 0⟩
  else if filterType = .highPass then ⟨0, stdMax q (FloatArith.ofFloat minQ), 1⟩
  else if filterType = .notch then ⟨1, 0, 1⟩
  else ⟨1, 1, 1⟩

namespace Design

/-- The polynomials of a design at a point of the unit circle, turned by that
point. -/
def numerator (d : Design ℝ) (c s : ℝ) : ℂ := ⟨(d.b0 + d.b2) * c + d.b1, (d.b0 - d.b2) * s⟩

def denominator (d : Design ℝ) (c s : ℝ) : ℂ :=
  ⟨(d.a0 + d.a2) * c + d.a1, (d.a0 - d.a2) * s⟩

/-- The squares of the polynomials differ by the squares of these gains. -/
structure HasGain (d : Design ℝ) (c s : ℝ) (gain : BandGain) : Prop where
  constant : Complex.normSq (d.numerator 1 0) =
    gain.constant ^ 2 * Complex.normSq (d.denominator 1 0)
  center : Complex.normSq (d.numerator c s) =
    gain.center ^ 2 * Complex.normSq (d.denominator c s)
  alternating : Complex.normSq (d.numerator (-1) 0) =
    gain.alternating ^ 2 * Complex.normSq (d.denominator (-1) 0)

end Design

section

variable {c s alpha a q : ℝ}

theorem normSq_numerator (d : Design ℝ) (c s : ℝ) :
    Complex.normSq (d.numerator c s) =
      ((d.b0 + d.b2) * c + d.b1) ^ 2 + ((d.b0 - d.b2) * s) ^ 2 := by
  rw [Design.numerator, Complex.normSq_mk]
  ring

theorem normSq_denominator (d : Design ℝ) (c s : ℝ) :
    Complex.normSq (d.denominator c s) =
      ((d.a0 + d.a2) * c + d.a1) ^ 2 + ((d.a0 - d.a2) * s) ^ 2 := by
  rw [Design.denominator, Complex.normSq_mk]
  ring

theorem hasGain_peaking (ha : a ≠ 0) :
    (design .peaking c alpha a).HasGain c s ⟨1, a ^ 2, 1⟩ := by
  constructor
  all_goals
    simp +decide only [normSq_numerator, normSq_denominator, design, reduceIte]
    field_simp
    ring

theorem hasGain_lowShelf :
    (design .lowShelf c alpha a).HasGain c s ⟨a ^ 2, a, 1⟩ := by
  constructor
  all_goals
    simp +decide only [normSq_numerator, normSq_denominator, design, reduceIte]
    ring

theorem hasGain_highShelf :
    (design .highShelf c alpha a).HasGain c s ⟨1, a, a ^ 2⟩ := by
  constructor
  all_goals
    simp +decide only [normSq_numerator, normSq_denominator, design, reduceIte]
    ring

theorem sq_sub_cos (hcs : c * c + s * s = 1) :
    ((1 - c) * (1 + c)) ^ 2 = s ^ 4 := by
  have hs : (1 - c) * (1 + c) = s * s := by linear_combination -hcs
  rw [hs]
  ring

theorem hasGain_lowPass (hcs : c * c + s * s = 1) (hq : q ≠ 0) :
    (design .lowPass c (s / (2 * q)) a).HasGain c s ⟨1, q, 0⟩ := by
  constructor
  case center =>
    simp +decide only [normSq_numerator, normSq_denominator, design, reduceIte]
    field_simp
    linear_combination 4 * sq_sub_cos hcs
  all_goals
    simp +decide only [normSq_numerator, normSq_denominator, design, reduceIte]
    ring

theorem hasGain_highPass (hcs : c * c + s * s = 1) (hq : q ≠ 0) :
    (design .highPass c (s / (2 * q)) a).HasGain c s ⟨0, q, 1⟩ := by
  constructor
  case center =>
    simp +decide only [normSq_numerator, normSq_denominator, design, reduceIte]
    field_simp
    linear_combination 4 * sq_sub_cos hcs
  all_goals
    simp +decide only [normSq_numerator, normSq_denominator, design, reduceIte]
    ring

theorem hasGain_notch : (design .notch c alpha a).HasGain c s ⟨1, 0, 1⟩ := by
  constructor
  all_goals
    simp +decide only [normSq_numerator, normSq_denominator, design, reduceIte]
    ring

/-- The design of a band has the gains on its label. -/
theorem hasGain_designOf (filterType : EqFilterType)
    (frequencyHz gainDb q sampleRate : ℝ) :
    (designOf filterType frequencyHz gainDb q sampleRate).HasGain
      (Real.cos (w0Of frequencyHz sampleRate))
      (Real.sin (w0Of frequencyHz sampleRate)) (labelledGain filterType gainDb q) := by
  have hcs : Real.cos (w0Of frequencyHz sampleRate) *
      Real.cos (w0Of frequencyHz sampleRate) +
      Real.sin (w0Of frequencyHz sampleRate) *
        Real.sin (w0Of frequencyHz sampleRate) = 1 := by
    rw [← sq, ← sq]
    exact Real.cos_sq_add_sin_sq _
  have hq : stdMax q (FloatArith.ofFloat minQ) ≠ 0 := by
    rw [stdMax_eq_max]
    exact (lt_max_of_lt_right ofFloat_minQ_pos).ne'
  have ha : amplitudeOf gainDb ≠ 0 := (Real.rpow_pos_of_pos (by norm_num) _).ne'
  rw [designOf, labelledGain]
  by_cases hpeaking : filterType = .peaking
  · rw [if_pos hpeaking, hpeaking]
    exact hasGain_peaking ha
  by_cases hlowShelf : filterType = .lowShelf
  · rw [if_neg hpeaking, if_pos hlowShelf, hlowShelf]
    exact hasGain_lowShelf
  by_cases hhighShelf : filterType = .highShelf
  · rw [if_neg hpeaking, if_neg hlowShelf, if_pos hhighShelf, hhighShelf]
    exact hasGain_highShelf
  by_cases hlowPass : filterType = .lowPass
  · rw [if_neg hpeaking, if_neg hlowShelf, if_neg hhighShelf, if_pos hlowPass,
      hlowPass]
    exact hasGain_lowPass hcs hq
  by_cases hhighPass : filterType = .highPass
  · rw [if_neg hpeaking, if_neg hlowShelf, if_neg hhighShelf, if_neg hlowPass,
      if_pos hhighPass, hhighPass]
    exact hasGain_highPass hcs hq
  by_cases hnotch : filterType = .notch
  · rw [if_neg hpeaking, if_neg hlowShelf, if_neg hhighShelf, if_neg hlowPass,
      if_neg hhighPass, if_pos hnotch, hnotch]
    exact hasGain_notch
  rw [if_neg hpeaking, if_neg hlowShelf, if_neg hhighShelf, if_neg hlowPass,
    if_neg hhighPass, if_neg hnotch, design, if_neg hpeaking, if_neg hlowShelf,
    if_neg hhighShelf, if_neg hlowPass, if_neg hhighPass, if_neg hnotch]
  constructor
  all_goals
    simp only [normSq_numerator, normSq_denominator]
    ring

theorem ne_zero_of_circle (hcs : c * c + s * s = 1) : (⟨c, s⟩ : ℂ) ≠ 0 := by
  intro hzero
  have hc : c = 0 := congrArg Complex.re hzero
  have hs : s = 0 := congrArg Complex.im hzero
  rw [hc, hs] at hcs
  norm_num at hcs

theorem inv_of_circle (hcs : c * c + s * s = 1) : (⟨c, s⟩ : ℂ)⁻¹ = ⟨c, -s⟩ := by
  apply inv_eq_of_mul_eq_one_right
  apply Complex.ext
  · rw [Complex.mul_re, Complex.one_re]
    linear_combination hcs
  · rw [Complex.mul_im, Complex.one_im]
    ring

/-- A polynomial in the inverse of a point of the circle, turned by that
point. -/
theorem turned_polynomial (hcs : c * c + s * s = 1) (k0 k1 k2 : ℝ) :
    ((k0 : ℂ) + k1 * (⟨c, s⟩ : ℂ)⁻¹ + k2 * (⟨c, s⟩ : ℂ)⁻¹ ^ 2) * ⟨c, s⟩ =
      ⟨(k0 + k2) * c + k1, (k0 - k2) * s⟩ := by
  rw [inv_of_circle hcs, pow_two]
  apply Complex.ext
  · simp only [Complex.mul_re, Complex.mul_im, Complex.add_re, Complex.add_im,
      Complex.ofReal_re, Complex.ofReal_im]
    linear_combination (k1 + k2 * c) * hcs
  · simp only [Complex.mul_re, Complex.mul_im, Complex.add_re, Complex.add_im,
      Complex.ofReal_re, Complex.ofReal_im]
    linear_combination (-k2 * s) * hcs

/-- The response of a normalized design, before both of its polynomials are
divided by `a0`. -/
theorem response_normalized {d : Design ℝ} (h0 : d.a0 ≠ 0) (biquad : Biquad ℝ)
    (ζ : ℂ) :
    (d.normalized biquad).toSecondOrder.response ζ =
      (d.b0 + d.b1 * ζ⁻¹ + d.b2 * ζ⁻¹ ^ 2) /
        (d.a0 + d.a1 * ζ⁻¹ + d.a2 * ζ⁻¹ ^ 2) := by
  have ha0 : (d.a0 : ℂ) ≠ 0 := Complex.ofReal_ne_zero.mpr h0
  have hdivided : ∀ k : ℝ, (d.a0 : ℂ) * ((k / d.a0 : ℝ) : ℂ) = k := by
    intro k
    rw [← Complex.ofReal_mul, mul_div_cancel₀ _ h0]
  rw [SecondOrder.response, ← mul_div_mul_left _ _ ha0]
  simp only [toSecondOrder, Design.normalized]
  congr 1
  · linear_combination hdivided d.b0 + ζ⁻¹ * hdivided d.b1 + ζ⁻¹ ^ 2 * hdivided d.b2
  · linear_combination ζ⁻¹ * hdivided d.a1 + ζ⁻¹ ^ 2 * hdivided d.a2

/-- Where the squares of the polynomials of a stable design differ by the square
of a gain, the response has that gain. -/
theorem norm_response_of_normSq {d : Design ℝ} (hstable : d.IsStable) {gain : ℝ}
    (hcs : c * c + s * s = 1) (hgain : 0 ≤ gain)
    (h : Complex.normSq (d.numerator c s) =
      gain ^ 2 * Complex.normSq (d.denominator c s)) (biquad : Biquad ℝ) :
    ‖(d.normalized biquad).toSecondOrder.response ⟨c, s⟩‖ = gain := by
  have hpoint := ne_zero_of_circle hcs
  have hnorm : ‖(⟨c, s⟩ : ℂ)‖ = 1 := by
    have hsq : ‖(⟨c, s⟩ : ℂ)‖ ^ 2 = 1 ^ 2 := by
      rw [← Complex.normSq_eq_norm_sq, Complex.normSq_mk, hcs, one_pow]
    exact (pow_left_inj₀ (norm_nonneg _) zero_le_one two_ne_zero).mp hsq
  have hdenominator : d.denominator c s ≠ 0 := by
    have hfeedback :=
      (stable_toSecondOrder (hstable.normalized biquad)).feedback_ne hnorm
    have hturned := turned_polynomial hcs d.a0 d.a1 d.a2
    rw [Design.denominator, ← hturned]
    apply mul_ne_zero _ hpoint
    have hscaled : (d.a0 : ℂ) + d.a1 * (⟨c, s⟩ : ℂ)⁻¹ + d.a2 * (⟨c, s⟩ : ℂ)⁻¹ ^ 2 =
        d.a0 * (1 + ((d.a1 / d.a0 : ℝ) : ℂ) * (⟨c, s⟩ : ℂ)⁻¹ +
          ((d.a2 / d.a0 : ℝ) : ℂ) * (⟨c, s⟩ : ℂ)⁻¹ ^ 2) := by
      have ha0 : (d.a0 : ℂ) ≠ 0 := Complex.ofReal_ne_zero.mpr hstable.a0_pos.ne'
      push_cast
      field_simp
    rw [hscaled]
    exact mul_ne_zero (Complex.ofReal_ne_zero.mpr hstable.a0_pos.ne') hfeedback
  have hquotient : (d.normalized biquad).toSecondOrder.response ⟨c, s⟩ =
      d.numerator c s / d.denominator c s := by
    rw [response_normalized hstable.a0_pos.ne', ← mul_div_mul_right _ _ hpoint,
      turned_polynomial hcs, turned_polynomial hcs]
    rfl
  have hsquare : ‖d.numerator c s‖ ^ 2 = (gain * ‖d.denominator c s‖) ^ 2 := by
    rw [mul_pow, ← Complex.normSq_eq_norm_sq, ← Complex.normSq_eq_norm_sq, h]
  have heq : ‖d.numerator c s‖ = gain * ‖d.denominator c s‖ :=
    (pow_left_inj₀ (norm_nonneg _) (mul_nonneg hgain (norm_nonneg _))
      two_ne_zero).mp hsquare
  rw [hquotient, norm_div, heq,
    mul_div_cancel_right₀ _ (norm_ne_zero_iff.mpr hdenominator)]

theorem labelledGain_nonneg (filterType : EqFilterType) (gainDb q : ℝ) :
    0 ≤ (labelledGain filterType gainDb q).constant ∧
      0 ≤ (labelledGain filterType gainDb q).center ∧
      0 ≤ (labelledGain filterType gainDb q).alternating := by
  have hamplitude : 0 ≤ amplitudeOf gainDb :=
    Real.rpow_nonneg (by norm_num) _
  have hgain : 0 ≤ gainOf gainDb := sq_nonneg _
  have hq : 0 ≤ stdMax q (FloatArith.ofFloat minQ) := by
    rw [stdMax_eq_max]
    exact le_max_of_le_right ofFloat_minQ_pos.le
  rw [labelledGain]
  split_ifs <;> refine ⟨?_, ?_, ?_⟩ <;>
    first | exact zero_le_one | exact le_rfl | assumption

/-- The response of a band as it is labelled: at the ends of the spectrum and at
the frequency of the band. -/
structure AsLabelled (biquad : Biquad ℝ) (w0 : ℝ) (gain : BandGain) : Prop where
  constant : ‖biquad.toSecondOrder.response 1‖ = gain.constant
  center : ‖biquad.toSecondOrder.response (Complex.exp (w0 * Complex.I))‖ =
    gain.center
  alternating : ‖biquad.toSecondOrder.response (-1)‖ = gain.alternating

theorem asLabelled_setCoefficients (biquad : Biquad ℝ) (filterType : EqFilterType)
    (frequencyHz gainDb q : ℝ) {sampleRate : ℝ}
    (hrange : 1 ≤ sampleRate * FloatArith.ofFloat ⟨0x3EFAE148⟩) :
    AsLabelled (biquad.setCoefficients filterType frequencyHz gainDb q sampleRate)
      (w0Of frequencyHz sampleRate) (labelledGain filterType gainDb q) := by
  have hstable := designOf_isStable filterType frequencyHz gainDb q hrange
  have hgain := hasGain_designOf filterType frequencyHz gainDb q sampleRate
  obtain ⟨hconstant, hcenter, halternating⟩ :=
    labelledGain_nonneg filterType gainDb q
  have hone : (1 : ℂ) = ⟨1, 0⟩ := rfl
  have hminus : (-1 : ℂ) = ⟨-1, 0⟩ := by
    apply Complex.ext
    · rfl
    · exact neg_zero
  have hangle : Complex.exp (w0Of frequencyHz sampleRate * Complex.I) =
      ⟨Real.cos (w0Of frequencyHz sampleRate),
        Real.sin (w0Of frequencyHz sampleRate)⟩ := by
    apply Complex.ext
    · exact Complex.exp_ofReal_mul_I_re _
    · exact Complex.exp_ofReal_mul_I_im _
  rw [setCoefficients_eq]
  constructor
  · rw [hone]
    exact norm_response_of_normSq hstable (by norm_num) hconstant hgain.constant biquad
  · rw [hangle]
    refine norm_response_of_normSq hstable ?_ hcenter hgain.center biquad
    rw [← sq, ← sq]
    exact Real.cos_sq_add_sin_sq _
  · rw [hminus]
    exact norm_response_of_normSq hstable (by norm_num) halternating
      hgain.alternating biquad

theorem stable_setCoefficients (biquad : Biquad ℝ) (filterType : EqFilterType)
    (frequencyHz gainDb q : ℝ) {sampleRate : ℝ}
    (hrange : 1 ≤ sampleRate * FloatArith.ofFloat ⟨0x3EFAE148⟩) :
    (biquad.setCoefficients filterType frequencyHz gainDb q sampleRate).Stable := by
  rw [setCoefficients_eq]
  exact (designOf_isStable filterType frequencyHz gainDb q hrange).normalized biquad

/-- Whatever a section holds in its delays and whatever it is set to, in exact
arithmetic a signal that settles to an oscillation comes out settling to the same
oscillation, and a constant signal, an alternating one and one at the frequency of
the band come out with the gain on the label. -/
theorem setCoefficients_settles (biquad : Biquad ℝ) (filterType : EqFilterType)
    (frequencyHz gainDb q : ℝ) :
    let tuned :=
      biquad.setCoefficients filterType frequencyHz gainDb q HardwareOutput.sampleRate
    (∀ (ζ amplitude : ℂ) (x : ℕ → ℝ), ‖ζ‖ = 1 → SecondOrder.Settles x amplitude ζ →
      SecondOrder.Settles (outputAt processSample tuned x)
        (tuned.toSecondOrder.response ζ * amplitude) ζ) ∧
    AsLabelled tuned (w0Of frequencyHz HardwareOutput.sampleRate)
      (labelledGain filterType gainDb q) := by
  intro tuned
  refine ⟨fun ζ amplitude x hζ hx => ?_,
    asLabelled_setCoefficients biquad filterType frequencyHz gainDb q
      one_le_sampleRate_mul⟩
  have hstable : tuned.Stable := stable_setCoefficients biquad filterType frequencyHz
    gainDb q one_le_sampleRate_mul
  exact (stable_toSecondOrder hstable).settles (runs_stateAt tuned x) hζ hx

/-- A constant signal comes out of a low shelf with the gain of the shelf. -/
theorem setCoefficients_settles_lowShelf :
    let tuned := (new : Biquad ℝ).setCoefficients .lowShelf 100 6 1
      HardwareOutput.sampleRate
    SecondOrder.Settles (outputAt processSample tuned fun _ => 1)
        (tuned.toSecondOrder.response 1 * 1) 1 ∧
      ‖tuned.toSecondOrder.response 1‖ = gainOf 6 := by
  intro tuned
  obtain ⟨hsettles, hlabelled⟩ := setCoefficients_settles new .lowShelf 100 6 1
  have hconstant : SecondOrder.Settles (fun _ => 1) 1 1 := by
    simp [SecondOrder.Settles]
  exact ⟨hsettles 1 1 _ norm_one hconstant, hlabelled.constant⟩

end

end Biquad

end RamkolFX
