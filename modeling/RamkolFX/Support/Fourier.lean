import Mathlib.Analysis.Fourier.ZMod

/-!
# Circular convolution

The discrete Fourier transform turns a circular convolution into a product.
For real signals the first half of the spectrum determines the rest, and where
the filter does not wrap around, the circular convolution is the linear one.
-/

namespace Support

open ZMod Complex ComplexConjugate

variable {n : ℕ} [NeZero n]

/-- The convolution of two periodic signals. -/
noncomputable def circularConv (x y : ZMod n → ℂ) : ZMod n → ℂ :=
  fun t => ∑ s, x s * y (t - s)

theorem circularConv_comm (x y : ZMod n → ℂ) :
    circularConv x y = circularConv y x := by
  funext t
  refine Fintype.sum_equiv (Equiv.subLeft t) _ _ ?_
  intro s
  rw [Equiv.subLeft_apply, sub_sub_cancel, mul_comm]

theorem dft_circularConv (x y : ZMod n → ℂ) (k : ZMod n) :
    dft (circularConv x y) k = dft x k * dft y k := by
  have hshift (s : ZMod n) :
      ∑ t, stdAddChar (-(t * k)) * (x s * y (t - s)) =
        stdAddChar (-(s * k)) * x s * dft y k := by
    rw [dft_apply, Finset.mul_sum]
    refine Fintype.sum_equiv (Equiv.subRight s) _ _ ?_
    intro t
    have hsplit : -(t * k) = -(s * k) + -((t - s) * k) := by ring
    rw [hsplit, AddChar.map_add_eq_mul, Equiv.subRight_apply, smul_eq_mul]
    ring
  calc dft (circularConv x y) k
      = ∑ t, ∑ s, stdAddChar (-(t * k)) * (x s * y (t - s)) := by
        simp only [dft_apply, circularConv, smul_eq_mul, Finset.mul_sum]
    _ = ∑ s, stdAddChar (-(s * k)) * x s * dft y k := by
        rw [Finset.sum_comm]
        exact Finset.sum_congr rfl fun s _ => hshift s
    _ = dft x k * dft y k := by
        rw [← Finset.sum_mul, dft_apply x]
        simp only [smul_eq_mul]

/-- The inverse transform without its normalization. -/
theorem sum_dft_mul_char (x : ZMod n → ℂ) (t : ZMod n) :
    ∑ k, stdAddChar (k * t) * dft x k = n * x t := by
  have hn : (n : ℂ) ≠ 0 := Nat.cast_ne_zero.mpr (NeZero.ne n)
  have hinv := invDFT_apply (dft x) t
  rw [LinearEquiv.symm_apply_apply] at hinv
  simp only [smul_eq_mul] at hinv
  rw [hinv, mul_inv_cancel_left₀ hn]

/-- The spectrum of a real signal is conjugate symmetric. -/
theorem dft_neg_of_real {x : ZMod n → ℂ} (hx : ∀ t, conj (x t) = x t)
    (k : ZMod n) : dft x (-k) = conj (dft x k) := by
  rw [dft_apply, dft_apply, map_sum]
  refine Finset.sum_congr rfl ?_
  intro t _
  rw [smul_eq_mul, smul_eq_mul, map_mul, hx t, ← AddChar.map_neg_eq_conj, mul_neg]

theorem circularConv_real {x y : ZMod n → ℂ} (hx : ∀ t, conj (x t) = x t)
    (hy : ∀ t, conj (y t) = y t) (t : ZMod n) :
    conj (circularConv x y t) = circularConv x y t := by
  rw [circularConv, map_sum]
  refine Finset.sum_congr rfl ?_
  intro s _
  rw [map_mul, hx, hy]

/-! ## Signals given by their samples -/

omit [NeZero n] in
/-- A signal of a period, from the samples in its first one. -/
def periodic (samples : ℕ → ℝ) : ZMod n → ℂ := fun t => (samples t.val : ℂ)

omit [NeZero n] in
theorem periodic_real (samples : ℕ → ℝ) (t : ZMod n) :
    conj (periodic samples t) = periodic samples t :=
  conj_ofReal _

theorem sum_zmod (f : ZMod n → ℂ) :
    ∑ t, f t = ∑ t ∈ Finset.range n, f (t : ZMod n) := by
  refine Finset.sum_bij' (fun t _ => t.val) (fun t _ => (t : ZMod n)) ?_ ?_ ?_ ?_ ?_
  · intro t _
    exact Finset.mem_range.mpr (val_lt t)
  · intro t _
    exact Finset.mem_univ _
  · intro t _
    exact natCast_zmod_val t
  · intro t ht
    exact val_cast_of_lt (Finset.mem_range.mp ht)
  · intro t _
    rw [natCast_zmod_val]

/-- The character at a product of natural numbers. -/
theorem stdAddChar_natCast_mul (t k : ℕ) :
    stdAddChar ((t : ZMod n) * (k : ZMod n)) =
      exp (((2 * Real.pi * k * t / n : ℝ) : ℂ) * I) := by
  have hcast : (t : ZMod n) * (k : ZMod n) = ((t * k : ℤ) : ZMod n) := by
    push_cast
    rfl
  rw [hcast, stdAddChar_coe]
  congr 1
  push_cast
  ring

/-- A bin of the spectrum in sines and cosines. -/
theorem dft_periodic (samples : ℕ → ℝ) (k : ℕ) :
    dft (periodic samples) (k : ZMod n) =
      ⟨∑ t ∈ Finset.range n,
          samples t * Real.cos (2 * Real.pi * k * t / n),
        -∑ t ∈ Finset.range n,
          samples t * Real.sin (2 * Real.pi * k * t / n)⟩ := by
  have hterm : ∀ t ∈ Finset.range n,
      stdAddChar (-((t : ZMod n) * (k : ZMod n))) • periodic samples (t : ZMod n) =
        ⟨samples t * Real.cos (2 * Real.pi * k * t / n),
          -(samples t * Real.sin (2 * Real.pi * k * t / n))⟩ := by
    intro t ht
    have hsample : periodic samples (t : ZMod n) = (samples t : ℂ) := by
      rw [periodic, val_cast_of_lt (Finset.mem_range.mp ht)]
    rw [AddChar.map_neg_eq_conj, stdAddChar_natCast_mul, hsample, smul_eq_mul,
      exp_mul_I]
    generalize 2 * Real.pi * k * t / n = angle
    apply Complex.ext
    · simp [mul_comm, cos_ofReal_re]
    · simp [mul_comm, sin_ofReal_re]
  rw [dft_apply, sum_zmod, Finset.sum_congr rfl hterm]
  apply Complex.ext
  · rw [re_sum]
  · rw [im_sum, Finset.sum_neg_distrib]

/-- Where the filter does not wrap around, the circular convolution is the
linear one. -/
theorem circularConv_periodic {taps window : ℕ → ℝ} {count p : ℕ}
    (htaps : ∀ s, count ≤ s → taps s = 0) (hcount : count ≤ p + 1) (hp : p < n) :
    circularConv (periodic taps) (periodic window) (p : ZMod n) =
      ((∑ s ∈ Finset.range count, taps s * window (p - s) : ℝ) : ℂ) := by
  have hterm : ∀ s ∈ Finset.range n,
      periodic taps (s : ZMod n) * periodic window ((p : ZMod n) - (s : ZMod n)) =
        if s < count then ((taps s * window (p - s) : ℝ) : ℂ) else 0 := by
    intro s hs
    have htap : periodic taps (s : ZMod n) = (taps s : ℂ) := by
      rw [periodic, val_cast_of_lt (Finset.mem_range.mp hs)]
    rw [htap]
    split
    · rename_i hlt
      have hback : s ≤ p := by omega
      have hval : ((p : ZMod n) - (s : ZMod n)).val = p - s := by
        rw [← Nat.cast_sub hback, val_cast_of_lt (by omega)]
      rw [periodic, hval, ofReal_mul]
    · rename_i hge
      rw [htaps s (by omega), ofReal_zero, zero_mul]
  have hrange : (Finset.range n).filter (fun s => s < count) =
      Finset.range count := by
    ext s
    simp only [Finset.mem_filter, Finset.mem_range]
    omega
  rw [circularConv, sum_zmod, Finset.sum_congr rfl hterm, ← Finset.sum_filter,
    hrange, ofReal_sum]

end Support
