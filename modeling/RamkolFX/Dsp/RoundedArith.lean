import RamkolFX.Dsp.ExactArith
import RamkolFX.Support.Binary32Arith

/-!
# Rounded arithmetic

The audio path over `float`, every operation rounded.  The functions of
`<cmath>` are not part of the repository and not rounded in one way only: they
are a parameter.
-/

namespace RamkolFX

open Support

/-- The `<cmath>` functions that the audio path calls on a `float`. -/
class CMath where
  sin : Binary32 → Binary32
  cos : Binary32 → Binary32
  exp : Binary32 → Binary32
  sqrt : Binary32 → Binary32
  tanh : Binary32 → Binary32
  pow : Binary32 → Binary32 → Binary32
  fmod : Binary32 → Binary32 → Binary32

instance roundedArith [CMath] : FloatArith Binary32 where
  zero := ⟨0⟩
  one := ⟨0x3F800000⟩
  add := Binary32.add
  sub := Binary32.sub
  mul := Binary32.mul
  div := Binary32.div
  neg := Binary32.neg
  natCast := Binary32.ofNat
  decidableLT := inferInstance
  decidableLE := inferInstance
  ofFloat := id
  sin := CMath.sin
  cos := CMath.cos
  exp := CMath.exp
  sqrt := CMath.sqrt
  tanh := CMath.tanh
  fabs := Binary32.abs
  pow := CMath.pow
  fmod := CMath.fmod
  lround := Binary32.lround
  toUInt32 x := UInt32.ofNat x.value.floor.toNat

/-! ## Rounded functions of the reals -/

/-- A finite number next to a real one. -/
def IsNearest (x : Binary32) (r : ℝ) : Prop :=
  x.magnitude < 0x7F800000 ∧ ∀ y : Binary32, y.magnitude < 0x7F800000 →
    |(x.value : ℝ) - r| ≤ |(y.value : ℝ) - r|

open Classical in
noncomputable def nearest (r : ℝ) : Binary32 :=
  if h : ∃ x, IsNearest x r then h.choose else Binary32.nan

/-- A function of the reals on finite numbers. -/
noncomputable def lifted (f : ℝ → ℝ) (x : Binary32) : Binary32 :=
  if x.magnitude < 0x7F800000 then nearest (f x.value) else Binary32.nan

noncomputable def lifted₂ (f : ℝ → ℝ → ℝ) (x y : Binary32) : Binary32 :=
  if x.magnitude < 0x7F800000 ∧ y.magnitude < 0x7F800000 then
    nearest (f x.value y.value)
  else Binary32.nan

noncomputable abbrev nearestCMath : CMath where
  sin := lifted Real.sin
  cos := lifted Real.cos
  exp := lifted Real.exp
  sqrt := lifted Real.sqrt
  tanh := lifted Real.tanh
  pow := lifted₂ Real.rpow
  fmod := lifted₂ exactArith.fmod

end RamkolFX
