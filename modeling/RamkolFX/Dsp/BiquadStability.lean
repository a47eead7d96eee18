import RamkolFX.Dsp.Equalizer
import RamkolFX.Dsp.ExactArith
import RamkolFX.Daemon.HardwareOutput
import Mathlib.Analysis.Real.Pi.Bounds
import Mathlib.Tactic.FieldSimp

/-!
# Stability of the equalizer sections

A section feeds two of its outputs back into itself, and a bad pair of feedback
coefficients makes it blow up.  In exact arithmetic no setting designs such a
pair: the clamped frequency keeps the sine of `w0` positive, the clamped Q keeps
`alpha` positive, and then each of the responses is stable.
-/

namespace RamkolFX

open Support

namespace Biquad

/-- The feedback coefficients lie in the stability triangle. -/
def Stable (biquad : Biquad ℝ) : Prop :=
  |biquad.a2| < 1 ∧ |biquad.a1| < 1 + biquad.a2

namespace Design

/-- A design divides by a positive `a0` and gives a stable section. -/
structure IsStable (d : Design ℝ) : Prop where
  a0_pos : 0 < d.a0
  a2_lt : |d.a2 / d.a0| < 1
  a1_lt : |d.a1 / d.a0| < 1 + d.a2 / d.a0

/-- The outer coefficients of a denominator lie `radius` around `middle`. -/
structure SplitsAt (d : Design ℝ) (middle radius : ℝ) : Prop where
  a0_eq : d.a0 = middle + radius
  a2_eq : d.a2 = middle - radius
  radius_pos : 0 < radius
  a1_lt : |d.a1| < 2 * middle

theorem SplitsAt.isStable {d : Design ℝ} {middle radius : ℝ}
    (h : d.SplitsAt middle radius) : d.IsStable := by
  have hradius := h.radius_pos
  have hmiddle : 0 < middle := by linarith [abs_nonneg d.a1, h.a1_lt]
  have hpos : 0 < d.a0 := by
    rw [h.a0_eq]
    exact add_pos hmiddle hradius
  have hsum : d.a0 + d.a2 = 2 * middle := by
    rw [h.a0_eq, h.a2_eq]
    ring
  refine ⟨hpos, ?_, ?_⟩
  · rw [abs_div, abs_of_pos hpos, div_lt_one hpos, h.a0_eq, h.a2_eq, abs_lt]
    constructor <;> linarith
  · have hone : 1 + d.a2 / d.a0 = (d.a0 + d.a2) / d.a0 := by
      rw [add_div, div_self hpos.ne']
    rw [hone, hsum, abs_div, abs_of_pos hpos]
    exact div_lt_div_of_pos_right h.a1_lt hpos

end Design

/-! ## The responses -/

section Responses

variable {c alpha a : ℝ}

theorem abs_neg_two_mul_lt (hc : |c| < 1) : |(-2) * c| < 2 * 1 := by
  rw [abs_mul, abs_neg, abs_two]
  linarith

theorem design_peaking_splitsAt (hc : |c| < 1) (halpha : 0 < alpha)
    (ha : 0 < a) : (design .peaking c alpha a).SplitsAt 1 (alpha / a) :=
  ⟨rfl, rfl, div_pos halpha ha, abs_neg_two_mul_lt hc⟩

/-- The low-pass, high-pass and notch filters share their denominator. -/
theorem splitsAt_of_pass {d : Design ℝ} (h0 : d.a0 = 1 + alpha)
    (h1 : d.a1 = -2 * c) (h2 : d.a2 = 1 - alpha) (hc : |c| < 1)
    (halpha : 0 < alpha) : d.SplitsAt 1 alpha := by
  refine ⟨h0, h2, halpha, ?_⟩
  rw [h1]
  exact abs_neg_two_mul_lt hc

/-- The middle of a shelf's denominator outweighs its first coefficient. -/
theorem abs_shelf_lt (hc : |c| < 1) (ha : 0 < a) :
    |(-2) * ((a - 1) + (a + 1) * c)| < 2 * ((a + 1) + (a - 1) * c) := by
  obtain ⟨hlower, hupper⟩ := abs_lt.mp hc
  have hbelow : 0 < a * (1 + c) := mul_pos ha (by linarith)
  rw [abs_lt]
  constructor <;> linarith

theorem shelf_radius_pos (halpha : 0 < alpha) (ha : 0 < a) :
    0 < 2 * Real.sqrt a * alpha :=
  mul_pos (mul_pos two_pos (Real.sqrt_pos.mpr ha)) halpha

theorem design_lowShelf_splitsAt (hc : |c| < 1) (halpha : 0 < alpha)
    (ha : 0 < a) :
    (design .lowShelf c alpha a).SplitsAt ((a + 1) + (a - 1) * c)
      (2 * Real.sqrt a * alpha) :=
  ⟨rfl, rfl, shelf_radius_pos halpha ha, abs_shelf_lt hc ha⟩

/-- A high shelf is a low shelf seen from the other end of the spectrum. -/
theorem design_highShelf_splitsAt (hc : |c| < 1) (halpha : 0 < alpha)
    (ha : 0 < a) :
    (design .highShelf c alpha a).SplitsAt ((a + 1) - (a - 1) * c)
      (2 * Real.sqrt a * alpha) := by
  refine ⟨rfl, rfl, shelf_radius_pos halpha ha, ?_⟩
  show |2 * ((a - 1) - (a + 1) * c)| < 2 * ((a + 1) - (a - 1) * c)
  have hneg : |(-c)| < 1 := by rwa [abs_neg]
  have hshelf := abs_shelf_lt hneg ha
  have hfirst : (-2) * ((a - 1) + (a + 1) * -c) =
      -(2 * ((a - 1) - (a + 1) * c)) := by ring
  rw [hfirst, abs_neg] at hshelf
  linarith

/-- Every filter type designs a stable section; an unnamed one designs the
transparent section. -/
theorem design_isStable (filterType : EqFilterType) (hc : |c| < 1)
    (halpha : 0 < alpha) (ha : 0 < a) :
    (design filterType c alpha a).IsStable := by
  by_cases hpeaking : filterType = .peaking
  · rw [hpeaking]
    exact (design_peaking_splitsAt hc halpha ha).isStable
  by_cases hlowShelf : filterType = .lowShelf
  · rw [hlowShelf]
    exact (design_lowShelf_splitsAt hc halpha ha).isStable
  by_cases hhighShelf : filterType = .highShelf
  · rw [hhighShelf]
    exact (design_highShelf_splitsAt hc halpha ha).isStable
  by_cases hlowPass : filterType = .lowPass
  · rw [hlowPass]
    exact (splitsAt_of_pass rfl rfl rfl hc halpha).isStable
  by_cases hhighPass : filterType = .highPass
  · rw [hhighPass]
    exact (splitsAt_of_pass rfl rfl rfl hc halpha).isStable
  by_cases hnotch : filterType = .notch
  · rw [hnotch]
    exact (splitsAt_of_pass rfl rfl rfl hc halpha).isStable
  have hdesign : design filterType c alpha a = ⟨1, 0, 0, 1, 0, 0⟩ := by
    simp only [design, if_neg hpeaking, if_neg hlowShelf, if_neg hhighShelf,
      if_neg hlowPass, if_neg hhighPass, if_neg hnotch]
  have hsplits : Design.SplitsAt ⟨1, 0, 0, 1, 0, 0⟩ (1 / 2) (1 / 2) := by
    constructor <;> norm_num
  rw [hdesign]
  exact hsplits.isStable

/-- The cosine next to a positive sine stays inside the unit interval. -/
theorem abs_lt_one_of_sin_pos {s : ℝ} (hcs : c * c + s * s = 1) (hs : 0 < s) :
    |c| < 1 := by
  have hss : 0 < s * s := mul_pos hs hs
  have hcc : c ^ 2 < 1 := by
    rw [sq]
    linarith
  exact (sq_lt_one_iff_abs_lt_one c).mp hcc

end Responses

/-! ## The settings -/

/-- `0.05f` -/
def minQ : Binary32 := ⟨0x3D4CCCCD⟩

/-- The `alpha` of a response, from the sine of `w0` and the Q. -/
noncomputable def alphaOf (s q : ℝ) : ℝ :=
  s / (2 * stdMax q (FloatArith.ofFloat minQ))

theorem ofFloat_minQ_pos : (0 : ℝ) < FloatArith.ofFloat minQ :=
  ofFloat_pos (by decide +kernel)

theorem alphaOf_pos {s : ℝ} (hs : 0 < s) (q : ℝ) : 0 < alphaOf s q := by
  have hq : 0 < stdMax q (FloatArith.ofFloat minQ) := by
    rw [stdMax_eq_max]
    exact lt_max_of_lt_right ofFloat_minQ_pos
  exact div_pos hs (mul_pos two_pos hq)

/-- The normalized frequency of the clamped frequency. -/
noncomputable def w0Of (frequencyHz sampleRate : ℝ) : ℝ :=
  2 * FloatArith.ofFloat ⟨0x40490FDB⟩ * -- pi
    stdClamp frequencyHz 1 (sampleRate * FloatArith.ofFloat ⟨0x3EFAE148⟩) /
    sampleRate

/-- The amplitude of a gain. -/
noncomputable def amplitudeOf (gainDb : ℝ) : ℝ := Real.rpow 10 (gainDb / 40)

/-- The design that the settings of a band ask for. -/
noncomputable def designOf (filterType : EqFilterType)
    (frequencyHz gainDb q sampleRate : ℝ) : Design ℝ :=
  design filterType (Real.cos (w0Of frequencyHz sampleRate))
    (alphaOf (Real.sin (w0Of frequencyHz sampleRate)) q) (amplitudeOf gainDb)

/-- The section of a design: its coefficients divided by `a0`. -/
noncomputable def Design.normalized (d : Design ℝ) (biquad : Biquad ℝ) :
    Biquad ℝ :=
  { biquad with
    b0 := d.b0 / d.a0
    b1 := d.b1 / d.a0
    b2 := d.b2 / d.a0
    a1 := d.a1 / d.a0
    a2 := d.a2 / d.a0 }

theorem Design.IsStable.normalized {d : Design ℝ} (h : d.IsStable)
    (biquad : Biquad ℝ) : (d.normalized biquad).Stable :=
  ⟨h.a2_lt, h.a1_lt⟩

theorem setCoefficients_eq (biquad : Biquad ℝ) (filterType : EqFilterType)
    (frequencyHz gainDb q sampleRate : ℝ) :
    biquad.setCoefficients filterType frequencyHz gainDb q sampleRate =
      (designOf filterType frequencyHz gainDb q sampleRate).normalized biquad :=
  rfl

/-- The code's pi. -/
theorem ofFloat_pi_mem :
    0 < (FloatArith.ofFloat ⟨0x40490FDB⟩ : ℝ) ∧
      (FloatArith.ofFloat ⟨0x40490FDB⟩ : ℝ) < 3.15 := by
  have hlower : 0 < (⟨0x40490FDB⟩ : Binary32).value := by decide +kernel
  have hupper : (⟨0x40490FDB⟩ : Binary32).value < 315 / 100 := by decide +kernel
  obtain ⟨hlo, hhi⟩ := ofFloat_mem hlower hupper
  norm_num at hlo hhi ⊢
  exact ⟨hlo, hhi⟩

/-- `0.49f` -/
theorem ofFloat_limit_mem :
    0.4 < (FloatArith.ofFloat ⟨0x3EFAE148⟩ : ℝ) ∧
      (FloatArith.ofFloat ⟨0x3EFAE148⟩ : ℝ) < 0.491 := by
  have hlower : 4 / 10 < (⟨0x3EFAE148⟩ : Binary32).value := by decide +kernel
  have hupper : (⟨0x3EFAE148⟩ : Binary32).value < 491 / 1000 := by decide +kernel
  obtain ⟨hlo, hhi⟩ := ofFloat_mem hlower hupper
  norm_num at hlo hhi ⊢
  exact ⟨hlo, hhi⟩

/-- The clamp keeps `w0` between zero and half a turn, where the sine is
positive. -/
theorem sin_w0Of_pos (frequencyHz : ℝ) {sampleRate : ℝ}
    (hrange : 1 ≤ sampleRate * FloatArith.ofFloat ⟨0x3EFAE148⟩) :
    0 < Real.sin (w0Of frequencyHz sampleRate) := by
  obtain ⟨hpi, hpi'⟩ := ofFloat_pi_mem
  obtain ⟨hlimit, hlimit'⟩ := ofFloat_limit_mem
  have hpos : 0 < sampleRate := by
    by_contra hneg
    nlinarith
  obtain ⟨hlower, hupper⟩ := stdClamp_mem hrange frequencyHz
  apply Real.sin_pos_of_pos_of_lt_pi
  · exact div_pos (mul_pos (mul_pos two_pos hpi) (by linarith)) hpos
  · have hw0 : w0Of frequencyHz sampleRate < 3.14 := by
      rw [w0Of, div_lt_iff₀ hpos]
      nlinarith
    exact hw0.trans Real.pi_gt_d2

theorem designOf_isStable (filterType : EqFilterType)
    (frequencyHz gainDb q : ℝ) {sampleRate : ℝ}
    (hrange : 1 ≤ sampleRate * FloatArith.ofFloat ⟨0x3EFAE148⟩) :
    (designOf filterType frequencyHz gainDb q sampleRate).IsStable := by
  have hsin := sin_w0Of_pos frequencyHz hrange
  have hcircle : Real.cos (w0Of frequencyHz sampleRate) *
      Real.cos (w0Of frequencyHz sampleRate) +
      Real.sin (w0Of frequencyHz sampleRate) *
        Real.sin (w0Of frequencyHz sampleRate) = 1 := by
    rw [← sq, ← sq, Real.cos_sq_add_sin_sq]
  exact design_isStable filterType (abs_lt_one_of_sin_pos hcircle hsin)
    (alphaOf_pos hsin q) (Real.rpow_pos_of_pos (by norm_num) _)

/-- The daemon's sample rate leaves the clamp a range. -/
theorem one_le_sampleRate_mul :
    (1 : ℝ) ≤ HardwareOutput.sampleRate * FloatArith.ofFloat ⟨0x3EFAE148⟩ := by
  obtain ⟨hlimit, -⟩ := ofFloat_limit_mem
  rw [HardwareOutput.sampleRate]
  norm_num at hlimit ⊢
  linarith

/-- Whatever the filter type and the settings of a band, the coefficients are
divided by a positive `a0` and give a stable section; so they do for any point
of the upper half circle in place of the cosine and sine of `w0` and any
positive amplitude. -/
theorem setCoefficients_stable :
    (∀ (filterType : EqFilterType) (c s q a : ℝ), c * c + s * s = 1 → 0 < s →
      0 < a → (design filterType c (alphaOf s q) a).IsStable) ∧
    ∀ (biquad : Biquad ℝ) (filterType : EqFilterType)
      (frequencyHz gainDb q : ℝ),
      biquad.setCoefficients filterType frequencyHz gainDb q
          HardwareOutput.sampleRate =
        (designOf filterType frequencyHz gainDb q
          HardwareOutput.sampleRate).normalized biquad ∧
      (designOf filterType frequencyHz gainDb q
        HardwareOutput.sampleRate).IsStable ∧
      (biquad.setCoefficients filterType frequencyHz gainDb q
        HardwareOutput.sampleRate).Stable := by
  constructor
  · intro filterType c s q a hcircle hs ha
    exact design_isStable filterType (abs_lt_one_of_sin_pos hcircle hs)
      (alphaOf_pos hs q) ha
  · intro biquad filterType frequencyHz gainDb q
    have hdesign := designOf_isStable filterType frequencyHz gainDb q
      one_le_sampleRate_mul
    exact ⟨setCoefficients_eq biquad filterType frequencyHz gainDb q _, hdesign,
      hdesign.normalized biquad⟩

/-- At a quarter of the sample rate, with unit Q and amplitude. -/
theorem setCoefficients_stable_quarter :
    (design .lowShelf 0 (alphaOf 1 1) 1).IsStable :=
  setCoefficients_stable.1 .lowShelf 0 1 1 1 (by norm_num) one_pos one_pos

end Biquad

end RamkolFX
