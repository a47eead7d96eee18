import RamkolFX.Support.Binary32
import Mathlib.Data.Nat.Cast.Defs

/-!
# Arithmetic of the audio path

The audio path computes with `float` and the `<cmath>` functions.  Its model is
written over any type that offers these operations: nothing is assumed of
them, so what is proved holds of rounded and of exact arithmetic alike.

Azimuths, distances and EQ settings are `Binary32` values outside the audio
path, where they are only stored, compared and sent; `ofFloat` takes them, and
the literals of the code, into it.
-/

namespace RamkolFX

open Support

/-- The operations on samples that the audio path uses. -/
class FloatArith (α : Type) extends
    Zero α, One α, Add α, Sub α, Mul α, Div α, Neg α, NatCast α, LT α, LE α where
  decidableLT : DecidableLT α
  decidableLE : DecidableLE α
  /-- The value of a `float`. -/
  ofFloat : Binary32 → α
  sin : α → α
  cos : α → α
  exp : α → α
  sqrt : α → α
  tanh : α → α
  fabs : α → α
  pow : α → α → α
  fmod : α → α → α
  /-- `std::lround` -/
  lround : α → ℤ
  /-- The cast to `uint32`, which truncates. -/
  toUInt32 : α → UInt32

attribute [reducible, instance] FloatArith.decidableLT FloatArith.decidableLE

/-- One frame of interleaved audio: a sample for each of `c` channels. -/
abbrev AudioFrame (c : ℕ) (α : Type) := Fin c → α

/-! The conditions that the numerals of the audio path rest on, by name. -/

scoped instance neZero_two : NeZero 2 := ⟨by decide⟩

scoped instance atLeastTwo_two : Nat.AtLeastTwo 2 := ⟨by decide⟩

scoped instance atLeastTwo_ten : Nat.AtLeastTwo 10 := ⟨by decide⟩

scoped instance atLeastTwo_forty : Nat.AtLeastTwo 40 := ⟨by decide⟩

scoped instance atLeastTwo_ninety : Nat.AtLeastTwo 90 := ⟨by decide⟩

scoped instance atLeastTwo_oneEighty : Nat.AtLeastTwo 180 := ⟨by decide⟩

scoped instance atLeastTwo_threeSixty : Nat.AtLeastTwo 360 := ⟨by decide⟩

end RamkolFX
