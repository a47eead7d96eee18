import RamkolFX.Dsp.FloatArith
import Mathlib.Analysis.SpecialFunctions.Pow.Real
import Mathlib.Analysis.SpecialFunctions.Trigonometric.Basic
import Mathlib.Analysis.Complex.Trigonometric

/-!
# Exact arithmetic

The audio path over the real numbers, without rounding.
-/

namespace RamkolFX

open Support

/-- `float` values are exact, but infinities and NaNs, which no caller passes,
become `0`. -/
noncomputable scoped instance exactArith : FloatArith ℝ where
  decidableLT := inferInstance
  decidableLE := inferInstance
  ofFloat x := (x.value : ℝ)
  sin := Real.sin
  cos := Real.cos
  exp := Real.exp
  sqrt := Real.sqrt
  tanh := Real.tanh
  fabs x := |x|
  pow := Real.rpow
  fmod x y :=
    if 0 ≤ x / y then x - y * ⌊x / y⌋ else x - y * ⌈x / y⌉
  -- halves are rounded away from zero
  lround x := if 0 ≤ x then ⌊x + 1 / 2⌋ else ⌈x - 1 / 2⌉
  toUInt32 x := UInt32.ofNat ⌊x⌋₊

theorem ofFloat_pos {x : Binary32} (h : 0 < x.value) :
    (0 : ℝ) < FloatArith.ofFloat x :=
  Rat.cast_pos.mpr h

/-- The literals of the code have the values of their bits. -/
theorem ofFloat_mem {x : Binary32} {lo hi : ℚ} (hlo : lo < x.value)
    (hhi : x.value < hi) :
    (lo : ℝ) < FloatArith.ofFloat x ∧ (FloatArith.ofFloat x : ℝ) < hi :=
  ⟨Rat.cast_lt.mpr hlo, Rat.cast_lt.mpr hhi⟩

end RamkolFX
