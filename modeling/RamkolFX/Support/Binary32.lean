import Mathlib.Order.Basic
import Mathlib.Algebra.Order.Ring.Int
import Mathlib.Algebra.Order.Field.Rat

/-!
# Binary32 values as bit patterns

A `float` is kept as its 32-bit pattern, so copying it through memory or over
a wire is exact.  The ordered comparison is the one of IEEE 754: a comparison
with a NaN is false, and the two zeros compare equal.
-/

namespace Support

/-- A binary32 value, NaNs and signed zeros included. -/
structure Binary32 where
  bits : UInt32
  deriving DecidableEq, Repr

namespace Binary32

/-- Exponent and fraction without the sign. -/
def magnitude (x : Binary32) : ℕ := x.bits.toNat % 2 ^ 31

/-- The sign bit is set. -/
def Negative (x : Binary32) : Prop := 2 ^ 31 ≤ x.bits.toNat

instance (x : Binary32) : Decidable x.Negative :=
  inferInstanceAs (Decidable (_ ≤ _))

/-- All exponent bits are set and the fraction is not zero. -/
def IsNaN (x : Binary32) : Prop := 0x7F800000 < x.magnitude

instance (x : Binary32) : Decidable x.IsNaN :=
  inferInstanceAs (Decidable (_ < _))

/-- Sign and magnitude as one integer: on numbers it is ordered as the values
are, and both zeros have key `0`. -/
def key (x : Binary32) : ℤ :=
  if x.Negative then -(x.magnitude : ℤ) else x.magnitude

/-- The value of a finite number; infinities and NaNs have none and give
`0`. -/
def value (x : Binary32) : ℚ :=
  let exponent : ℕ := x.magnitude / 2 ^ 23
  let fraction : ℕ := x.magnitude % 2 ^ 23
  let magnitude : ℚ :=
    if exponent = 255 then 0
    else if exponent = 0 then fraction / 2 ^ 149
    else (2 ^ 23 + fraction) * 2 ^ exponent / 2 ^ 150
  if x.Negative then -magnitude else magnitude

/-- The ordered comparison `<`: false when either side is a NaN. -/
instance : LT Binary32 where
  lt x y := ¬ x.IsNaN ∧ ¬ y.IsNaN ∧ x.key < y.key

instance (x y : Binary32) : Decidable (x < y) :=
  inferInstanceAs (Decidable (¬ x.IsNaN ∧ ¬ y.IsNaN ∧ x.key < y.key))

instance : Std.Irrefl (α := Binary32) (· < ·) where
  irrefl x := by
    rintro ⟨-, -, h⟩
    exact lt_irrefl x.key h

end Binary32

end Support
