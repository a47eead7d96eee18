import Mathlib

/-!
# Second-order sections

A section with two delays feeds its output back into itself.  If its feedback
coefficients lie in the stability triangle, the feedback splits into two
contractions: a bounded signal stays bounded, a signal that dies away dies away,
and a steady oscillation comes out as a steady oscillation of the same
frequency, scaled by the response of the section.
-/

namespace Support

open Filter Topology

/-! ## Contractions -/

/-- What each step contracts and then moves by at most `w` stays near zero. -/
theorem contracting_le {a : ℕ → ℝ} {r w : ℝ} (hr : 0 ≤ r) (hr1 : r < 1)
    (hw : 0 ≤ w) (h : ∀ n, a (n + 1) ≤ r * a n + w) (n : ℕ) :
    a n ≤ r ^ n * a 0 + w / (1 - r) := by
  have hgap : 0 < 1 - r := by linarith
  induction n with
  | zero =>
      have hrest : 0 ≤ w / (1 - r) := div_nonneg hw hgap.le
      rw [pow_zero, one_mul]
      linarith
  | succ n ih =>
      have hfixed : r * (w / (1 - r)) + w = w / (1 - r) := by
        field_simp
        ring
      calc a (n + 1) ≤ r * a n + w := h n
        _ ≤ r * (r ^ n * a 0 + w / (1 - r)) + w := by
            gcongr
        _ = r ^ (n + 1) * a 0 + (r * (w / (1 - r)) + w) := by ring
        _ = r ^ (n + 1) * a 0 + w / (1 - r) := by rw [hfixed]

/-- What each step contracts and then moves by less and less dies away. -/
theorem tendsto_zero_of_contracting {a w : ℕ → ℝ} {r : ℝ} (hr : 0 ≤ r)
    (hr1 : r < 1) (ha : ∀ n, 0 ≤ a n) (h : ∀ n, a (n + 1) ≤ r * a n + w n)
    (hw : Tendsto w atTop (𝓝 0)) : Tendsto a atTop (𝓝 0) := by
  have hgap : 0 < 1 - r := by linarith
  rw [Metric.tendsto_atTop]
  intro ε hε
  obtain ⟨start, hstart⟩ := Metric.tendsto_atTop.mp hw (ε / 2 * (1 - r))
    (mul_pos (half_pos hε) hgap)
  have hlate : ∀ n, a (start + (n + 1)) ≤ r * a (start + n) + ε / 2 * (1 - r) := by
    intro n
    have hnext := h (start + n)
    have hsmall := hstart (start + n) (Nat.le_add_right _ _)
    rw [Real.dist_0_eq_abs] at hsmall
    have hle := le_abs_self (w (start + n))
    rw [← add_assoc]
    linarith
  have hbound := contracting_le (a := fun n => a (start + n)) hr hr1
    (mul_pos (half_pos hε) hgap).le hlate
  have hgone : Tendsto (fun n => r ^ n * a start) atTop (𝓝 0) := by
    have hpow := (tendsto_pow_atTop_nhds_zero_of_lt_one hr hr1).mul_const (a start)
    rwa [zero_mul] at hpow
  obtain ⟨more, hmore⟩ := Metric.tendsto_atTop.mp hgone (ε / 2) (half_pos hε)
  refine ⟨start + more, fun n hn => ?_⟩
  obtain ⟨k, rfl⟩ := Nat.exists_eq_add_of_le hn
  have hk := hmore (more + k) (Nat.le_add_right _ _)
  have hn' := hbound (more + k)
  rw [Real.dist_0_eq_abs] at hk ⊢
  have hdiv : ε / 2 * (1 - r) / (1 - r) = ε / 2 :=
    mul_div_cancel_right₀ _ hgap.ne'
  simp only [add_zero, hdiv] at hn'
  rw [add_assoc, abs_of_nonneg (ha _)]
  linarith [le_abs_self (r ^ (more + k) * a start)]

/-! ## Feedback inside the stability triangle -/

/-- A polynomial whose coefficients lie in the stability triangle has its roots
inside the unit circle. -/
theorem exists_roots_of_triangle {a1 a2 : ℝ} (h2 : |a2| < 1)
    (h1 : |a1| < 1 + a2) :
    ∃ p q : ℂ, ‖p‖ < 1 ∧ ‖q‖ < 1 ∧ p + q = -a1 ∧ p * q = a2 := by
  obtain ⟨-, ha2⟩ := abs_lt.mp h2
  rcases le_total 0 (a1 ^ 2 - 4 * a2) with hreal | hcomplex
  · -- two real roots
    have hsq : Real.sqrt (a1 ^ 2 - 4 * a2) ^ 2 = a1 ^ 2 - 4 * a2 :=
      Real.sq_sqrt hreal
    set s := Real.sqrt (a1 ^ 2 - 4 * a2) with hs
    have hs0 : 0 ≤ s := Real.sqrt_nonneg _
    have hroom : 0 < 2 - |a1| := by linarith
    have hlt : s < 2 - |a1| := by
      apply lt_of_pow_lt_pow_left₀ 2 hroom.le
      rw [hsq]
      have habs : |a1| ^ 2 = a1 ^ 2 := sq_abs a1
      nlinarith
    have hbelow := neg_abs_le a1
    have habove := le_abs_self a1
    refine ⟨((-a1 + s) / 2 : ℝ), ((-a1 - s) / 2 : ℝ), ?_, ?_, ?_, ?_⟩
    · rw [Complex.norm_real, Real.norm_eq_abs, abs_lt]
      constructor <;> linarith
    · rw [Complex.norm_real, Real.norm_eq_abs, abs_lt]
      constructor <;> linarith
    · rw [← Complex.ofReal_add, ← Complex.ofReal_neg]
      congr 1
      ring
    · rw [← Complex.ofReal_mul]
      congr 1
      linear_combination (-(1 : ℝ) / 4) * hsq
  · -- two conjugate roots
    have hsq : Real.sqrt (4 * a2 - a1 ^ 2) ^ 2 = 4 * a2 - a1 ^ 2 :=
      Real.sq_sqrt (by linarith)
    set s := Real.sqrt (4 * a2 - a1 ^ 2)
    have hnorm : ∀ t : ℝ, t ^ 2 = 4 * a2 - a1 ^ 2 →
        ‖(⟨-a1 / 2, t / 2⟩ : ℂ)‖ < 1 := by
      intro t ht
      have hle : Complex.normSq ⟨-a1 / 2, t / 2⟩ < 1 := by
        rw [Complex.normSq_mk]
        nlinarith
      rw [Complex.normSq_eq_norm_sq] at hle
      exact (sq_lt_one_iff₀ (norm_nonneg _)).mp hle
    refine ⟨⟨-a1 / 2, s / 2⟩, ⟨-a1 / 2, -s / 2⟩, hnorm s hsq, ?_, ?_, ?_⟩
    · exact hnorm (-s) ((neg_sq s).trans hsq)
    · apply Complex.ext
      · simp only [Complex.add_re, Complex.neg_re, Complex.ofReal_re]
        ring
      · simp only [Complex.add_im, Complex.neg_im, Complex.ofReal_im]
        ring
    · apply Complex.ext
      · simp only [Complex.mul_re, Complex.ofReal_re]
        linear_combination (1 / 4 : ℝ) * hsq
      · simp only [Complex.mul_im, Complex.ofReal_im]
        ring

/-! ## Signals of a section -/

/-- The coefficients of a section. -/
structure SecondOrder (R : Type*) where
  b0 : R
  b1 : R
  b2 : R
  a1 : R
  a2 : R

namespace SecondOrder

variable {R S : Type*} [CommRing R] [CommRing S]

/-- The signals of a section: what goes in, what comes out, and its two
delays. -/
structure Runs (c : SecondOrder R) (x y z1 z2 : ℕ → R) : Prop where
  out : ∀ n, y n = c.b0 * x n + z1 n
  next1 : ∀ n, z1 (n + 1) = c.b1 * x n - c.a1 * y n + z2 n
  next2 : ∀ n, z2 (n + 1) = c.b2 * x n - c.a2 * y n

/-- The section over another ring. -/
def map (f : R → S) (c : SecondOrder R) : SecondOrder S :=
  ⟨f c.b0, f c.b1, f c.b2, f c.a1, f c.a2⟩

theorem Runs.map {c : SecondOrder R} {x y z1 z2 : ℕ → R}
    (h : c.Runs x y z1 z2) (f : R →+* S) :
    (c.map f).Runs (fun n => f (x n)) (fun n => f (y n)) (fun n => f (z1 n))
      (fun n => f (z2 n)) where
  out n := by
    rw [h.out, map_add, map_mul]
    rfl
  next1 n := by
    rw [h.next1, map_add, map_sub, map_mul, map_mul]
    rfl
  next2 n := by
    rw [h.next2, map_sub, map_mul, map_mul]
    rfl

theorem Runs.sub {c : SecondOrder R} {x y z1 z2 x' y' z1' z2' : ℕ → R}
    (h : c.Runs x y z1 z2) (h' : c.Runs x' y' z1' z2') :
    c.Runs (fun n => x n - x' n) (fun n => y n - y' n) (fun n => z1 n - z1' n)
      (fun n => z2 n - z2' n) where
  out n := by
    rw [h.out, h'.out]
    ring
  next1 n := by
    rw [h.next1, h'.next1]
    ring
  next2 n := by
    rw [h.next2, h'.next2]
    ring

/-- A section with real coefficients treats real parts on their own. -/
theorem Runs.re {c : SecondOrder ℝ} {x y z1 z2 : ℕ → ℂ}
    (h : (c.map Complex.ofReal).Runs x y z1 z2) :
    c.Runs (fun n => (x n).re) (fun n => (y n).re) (fun n => (z1 n).re)
      (fun n => (z2 n).re) where
  out n := by
    rw [h.out, SecondOrder.map, Complex.add_re, Complex.re_ofReal_mul]
  next1 n := by
    rw [h.next1, SecondOrder.map, Complex.add_re, Complex.sub_re,
      Complex.re_ofReal_mul, Complex.re_ofReal_mul]
  next2 n := by
    rw [h.next2, SecondOrder.map, Complex.sub_re, Complex.re_ofReal_mul,
      Complex.re_ofReal_mul]

/-! ## Two contractions -/

/-- The feedback of a section splits into two contractions. -/
structure Splits (c : SecondOrder ℂ) (p q : ℂ) : Prop where
  p_lt : ‖p‖ < 1
  q_lt : ‖q‖ < 1
  sum : p + q = -c.a1
  product : p * q = c.a2

section

variable {c : SecondOrder ℂ} {p q : ℂ} {x y z1 z2 : ℕ → ℂ}

/-- The first contraction is driven by the input. -/
theorem Splits.first (hsplits : c.Splits p q) (h : c.Runs x y z1 z2) (n : ℕ) :
    p * z1 (n + 1) + z2 (n + 1) = p * (p * z1 n + z2 n) +
      (p * (c.b1 - c.a1 * c.b0) + (c.b2 - c.a2 * c.b0)) * x n := by
  rw [h.next1, h.next2, h.out]
  linear_combination -p * z1 n * hsplits.sum + z1 n * hsplits.product

/-- The second contraction is driven by the first one and the input. -/
theorem Splits.second (hsplits : c.Splits p q) (h : c.Runs x y z1 z2) (n : ℕ) :
    z1 (n + 1) = q * z1 n + ((p * z1 n + z2 n) + (c.b1 - c.a1 * c.b0) * x n) := by
  rw [h.next1, h.out]
  linear_combination -z1 n * hsplits.sum

/-- A bounded signal stays bounded, by a factor that only depends on the
section. -/
theorem Splits.exists_gain (hsplits : c.Splits p q) :
    ∃ gain : ℝ, 0 ≤ gain ∧ ∀ (x y z1 z2 : ℕ → ℂ) (level : ℝ),
      c.Runs x y z1 z2 → z1 0 = 0 → z2 0 = 0 → (∀ n, ‖x n‖ ≤ level) →
      ∀ n, ‖y n‖ ≤ gain * level := by
  have hp : 0 < 1 - ‖p‖ := by linarith [hsplits.p_lt]
  have hq : 0 < 1 - ‖q‖ := by linarith [hsplits.q_lt]
  let first := ‖p * (c.b1 - c.a1 * c.b0) + (c.b2 - c.a2 * c.b0)‖ / (1 - ‖p‖)
  let second := (first + ‖c.b1 - c.a1 * c.b0‖) / (1 - ‖q‖)
  have hfirst : 0 ≤ first := div_nonneg (norm_nonneg _) hp.le
  have hsecond : 0 ≤ second :=
    div_nonneg (add_nonneg hfirst (norm_nonneg _)) hq.le
  refine ⟨‖c.b0‖ + second, add_nonneg (norm_nonneg _) hsecond, ?_⟩
  intro x y z1 z2 level h hz1 hz2 hx
  have hlevel : 0 ≤ level := (norm_nonneg _).trans (hx 0)
  have hinput : ∀ (k : ℂ) n, ‖k * x n‖ ≤ ‖k‖ * level := by
    intro k n
    rw [norm_mul]
    exact mul_le_mul_of_nonneg_left (hx n) (norm_nonneg k)
  have hu : ∀ n, ‖p * z1 n + z2 n‖ ≤ first * level := by
    intro n
    have hcontracts := contracting_le (a := fun n => ‖p * z1 n + z2 n‖)
      (norm_nonneg p) hsplits.p_lt
      (mul_nonneg (norm_nonneg (p * (c.b1 - c.a1 * c.b0) + (c.b2 - c.a2 * c.b0)))
        hlevel) (fun n => by
        rw [hsplits.first h n]
        apply (norm_add_le _ _).trans
        rw [norm_mul]
        exact add_le_add_right (hinput _ n) _) n
    simp only [hz1, hz2, mul_zero, add_zero, norm_zero, zero_add] at hcontracts
    rwa [mul_div_right_comm] at hcontracts
  have hz : ∀ n, ‖z1 n‖ ≤ second * level := by
    intro n
    have hcontracts := contracting_le (a := fun n => ‖z1 n‖)
      (norm_nonneg q) hsplits.q_lt
      (mul_nonneg (add_nonneg hfirst (norm_nonneg (c.b1 - c.a1 * c.b0))) hlevel)
      (fun n => by
        rw [hsplits.second h n]
        apply (norm_add_le _ _).trans
        rw [norm_mul, add_mul]
        exact add_le_add_right ((norm_add_le _ _).trans
          (add_le_add (hu n) (hinput _ n))) _) n
    simp only [hz1, norm_zero, mul_zero, zero_add] at hcontracts
    rwa [mul_div_right_comm] at hcontracts
  intro n
  rw [h.out, add_mul]
  exact (norm_add_le _ _).trans (add_le_add (hinput _ n) (hz n))

/-- A signal that dies away dies away, whatever the delays hold. -/
theorem Splits.tendsto_zero (hsplits : c.Splits p q) (h : c.Runs x y z1 z2)
    (hx : Tendsto x atTop (𝓝 0)) : Tendsto y atTop (𝓝 0) := by
  have hinput : ∀ k : ℂ, Tendsto (fun n => ‖k * x n‖) atTop (𝓝 0) := by
    intro k
    have hscaled := (hx.const_mul k).norm
    rwa [mul_zero, norm_zero] at hscaled
  have hu : Tendsto (fun n => ‖p * z1 n + z2 n‖) atTop (𝓝 0) := by
    apply tendsto_zero_of_contracting (norm_nonneg p) hsplits.p_lt
      (fun _ => norm_nonneg _) _
      (hinput (p * (c.b1 - c.a1 * c.b0) + (c.b2 - c.a2 * c.b0)))
    intro n
    rw [hsplits.first h n]
    exact (norm_add_le _ _).trans (by rw [norm_mul])
  have hz : Tendsto (fun n => ‖z1 n‖) atTop (𝓝 0) := by
    have hdriven := hu.add (hinput (c.b1 - c.a1 * c.b0))
    rw [add_zero] at hdriven
    apply tendsto_zero_of_contracting (norm_nonneg q) hsplits.q_lt
      (fun _ => norm_nonneg _) _ hdriven
    intro n
    rw [hsplits.second h n]
    apply (norm_add_le _ _).trans
    rw [norm_mul]
    exact add_le_add_right (norm_add_le _ _) _
  have hsum := (hx.const_mul c.b0).add (tendsto_zero_iff_norm_tendsto_zero.mpr hz)
  rw [mul_zero, add_zero] at hsum
  exact hsum.congr fun n => (h.out n).symm

end

/-! ## Stable sections -/

/-- The feedback coefficients lie in the stability triangle. -/
def Stable (c : SecondOrder ℝ) : Prop := |c.a2| < 1 ∧ |c.a1| < 1 + c.a2

section

variable {c : SecondOrder ℝ} {x y z1 z2 : ℕ → ℝ}

theorem Stable.splits (hstable : c.Stable) :
    ∃ p q, (c.map Complex.ofReal).Splits p q := by
  obtain ⟨p, q, hp, hq, hsum, hproduct⟩ :=
    exists_roots_of_triangle hstable.1 hstable.2
  exact ⟨p, q, hp, hq, hsum, hproduct⟩

theorem Stable.exists_gain (hstable : c.Stable) :
    ∃ gain : ℝ, 0 ≤ gain ∧ ∀ (x y z1 z2 : ℕ → ℝ) (level : ℝ),
      c.Runs x y z1 z2 → z1 0 = 0 → z2 0 = 0 → (∀ n, |x n| ≤ level) →
      ∀ n, |y n| ≤ gain * level := by
  obtain ⟨p, q, hsplits⟩ := hstable.splits
  obtain ⟨gain, hgain, hbound⟩ := hsplits.exists_gain
  refine ⟨gain, hgain, ?_⟩
  intro x y z1 z2 level h hz1 hz2 hx n
  have hcomplex := hbound _ _ _ _ level (h.map Complex.ofRealHom)
    (by rw [hz1, map_zero]) (by rw [hz2, map_zero])
    (fun n => (Complex.norm_real _).trans_le (hx n)) n
  exact (Complex.norm_real _).symm.trans_le hcomplex

theorem Stable.tendsto_zero (hstable : c.Stable) (h : c.Runs x y z1 z2)
    (hx : Tendsto x atTop (𝓝 0)) : Tendsto y atTop (𝓝 0) := by
  obtain ⟨p, q, hsplits⟩ := hstable.splits
  have hinput := (Complex.continuous_ofReal.tendsto 0).comp hx
  rw [Complex.ofReal_zero] at hinput
  have hcomplex := hsplits.tendsto_zero (h.map Complex.ofRealHom) hinput
  have hreal := (Complex.continuous_re.tendsto 0).comp hcomplex
  rw [Complex.zero_re] at hreal
  exact hreal.congr fun n => Complex.ofReal_re (y n)

/-! ## Response -/

/-- What a section makes of a steady oscillation: the oscillation is scaled by
this factor. -/
noncomputable def response (c : SecondOrder ℝ) (ζ : ℂ) : ℂ :=
  (c.b0 + c.b1 * ζ⁻¹ + c.b2 * ζ⁻¹ ^ 2) / (1 + c.a1 * ζ⁻¹ + c.a2 * ζ⁻¹ ^ 2)

/-- In the limit, the signal is the real part of the oscillation. -/
def Settles (x : ℕ → ℝ) (amplitude ζ : ℂ) : Prop :=
  Tendsto (fun n => x n - (amplitude * ζ ^ n).re) atTop (𝓝 0)

/-- Settling does not depend on when one starts to listen. -/
theorem settles_shift_iff {amplitude ζ : ℂ} (start : ℕ) :
    Settles (fun k => x (start + k)) (amplitude * ζ ^ start) ζ ↔
      Settles x amplitude ζ := by
  rw [Settles, Settles,
    ← tendsto_add_atTop_iff_nat (f := fun n => x n - (amplitude * ζ ^ n).re) start]
  have hshift : (fun k => x (start + k) - (amplitude * ζ ^ start * ζ ^ k).re) =
      fun n => x (n + start) - (amplitude * ζ ^ (n + start)).re := by
    funext k
    rw [mul_assoc, ← pow_add, Nat.add_comm start k]
  rw [hshift]

theorem Settles.congr {amplitude ζ : ℂ} (h : Settles x amplitude ζ) {start : ℕ}
    (hsame : ∀ n, start ≤ n → y n = x n) : Settles y amplitude ζ := by
  apply Tendsto.congr' _ h
  filter_upwards [eventually_ge_atTop start] with n hn
  rw [hsame n hn]

/-- On the unit circle the feedback of a stable section does not cancel. -/
theorem Stable.feedback_ne (hstable : c.Stable) {ζ : ℂ} (hζ : ‖ζ‖ = 1) :
    1 + c.a1 * ζ⁻¹ + c.a2 * ζ⁻¹ ^ 2 ≠ 0 := by
  obtain ⟨p, q, hsplits⟩ := hstable.splits
  have hinv : ‖ζ⁻¹‖ = 1 := by rw [norm_inv, hζ, inv_one]
  have hfactor : 1 + c.a1 * ζ⁻¹ + c.a2 * ζ⁻¹ ^ 2 =
      (1 - p * ζ⁻¹) * (1 - q * ζ⁻¹) := by
    have hsum : p + q = -(c.a1 : ℂ) := hsplits.sum
    have hproduct : p * q = (c.a2 : ℂ) := hsplits.product
    linear_combination ζ⁻¹ * hsum - ζ⁻¹ ^ 2 * hproduct
  have hne : ∀ r : ℂ, ‖r‖ < 1 → 1 - r * ζ⁻¹ ≠ 0 := by
    intro r hr hzero
    have hone : ‖r * ζ⁻¹‖ = 1 := by
      rw [← sub_eq_zero.mp hzero, norm_one]
    rw [norm_mul, hinv, mul_one] at hone
    exact hr.ne hone
  rw [hfactor]
  exact mul_ne_zero (hne p hsplits.p_lt) (hne q hsplits.q_lt)

/-- A steady oscillation, as it goes through the section. -/
theorem Stable.runs_response (hstable : c.Stable) {ζ : ℂ} (hζ : ‖ζ‖ = 1)
    (amplitude : ℂ) :
    (c.map Complex.ofReal).Runs (fun n => amplitude * ζ ^ n)
      (fun n => c.response ζ * amplitude * ζ ^ n)
      (fun n => (c.response ζ - c.b0) * amplitude * ζ ^ n)
      (fun n => (c.b2 - c.a2 * c.response ζ) * amplitude * ζ⁻¹ * ζ ^ n) := by
  have hne : ζ ≠ 0 := by
    rintro rfl
    rw [norm_zero] at hζ
    exact zero_ne_one hζ
  have hcancel : ζ⁻¹ * ζ = 1 := inv_mul_cancel₀ hne
  have hresponse : c.response ζ * (1 + c.a1 * ζ⁻¹ + c.a2 * ζ⁻¹ ^ 2) =
      c.b0 + c.b1 * ζ⁻¹ + c.b2 * ζ⁻¹ ^ 2 :=
    div_mul_cancel₀ _ (hstable.feedback_ne hζ)
  constructor
  · intro n
    simp only [SecondOrder.map]
    ring
  · intro n
    simp only [SecondOrder.map, pow_succ]
    linear_combination (amplitude * ζ ^ n * ζ) * hresponse +
      (c.b1 - c.a1 * c.response ζ) * amplitude * ζ ^ n * hcancel +
      (c.b2 - c.a2 * c.response ζ) * amplitude * ζ ^ n * ζ⁻¹ * hcancel
  · intro n
    simp only [SecondOrder.map, pow_succ]
    linear_combination
      ((c.b2 - c.a2 * c.response ζ) * amplitude * ζ ^ n) * hcancel

/-- From any state, a signal that settles to an oscillation comes out settling
to the same oscillation, scaled by the response. -/
theorem Stable.settles (hstable : c.Stable) (h : c.Runs x y z1 z2) {ζ : ℂ}
    (hζ : ‖ζ‖ = 1) {amplitude : ℂ} (hx : Settles x amplitude ζ) :
    Settles y (c.response ζ * amplitude) ζ :=
  hstable.tendsto_zero (h.sub (hstable.runs_response hζ amplitude).re) hx

end

end SecondOrder

end Support
