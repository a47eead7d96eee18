import RamkolFX.Support.NumberText
import Mathlib.Data.Int.Log
import Mathlib.Algebra.Order.Field.Power

/-!
# Binary32 arithmetic

The operations of IEEE 754 on bit patterns: an exact result is rounded to the
nearest value, ties to even, and becomes an infinity when it is too large; an
operation without a result gives a NaN.

Rounding is monotone, so a result lies between the roundings of any bounds of
the exact one.
-/

namespace Support

open NumberText

namespace Binary32

/-! ## Rounding is monotone -/

theorem roundHalfEven_le_succ_floor {q : ℚ} :
    roundHalfEven q ≤ q.floor.toNat + 1 := by
  simp only [roundHalfEven]
  split_ifs <;> omega

theorem floor_le_roundHalfEven {q : ℚ} : q.floor.toNat ≤ roundHalfEven q := by
  simp only [roundHalfEven]
  split_ifs <;> omega

theorem roundHalfEven_mono {p q : ℚ} (h : p ≤ q) :
    roundHalfEven p ≤ roundHalfEven q := by
  have hfloor : p.floor.toNat ≤ q.floor.toNat :=
    Int.toNat_le_toNat (Rat.floor_monotone h)
  rcases hfloor.lt_or_eq with hlt | heq
  · exact roundHalfEven_le_succ_floor.trans
      (Nat.succ_le_of_lt hlt |>.trans floor_le_roundHalfEven)
  · -- the same integer below: the larger rest is rounded up first
    simp only [roundHalfEven, heq]
    split_ifs <;> first | omega | linarith

theorem roundHalfEven_natCast (n : ℕ) : roundHalfEven n = n := by
  have hfloor : (n : ℚ).floor.toNat = n :=
    (congrArg Int.toNat (Rat.floor_intCast n)).trans (Int.toNat_natCast n)
  simp only [roundHalfEven, hfloor, sub_self]
  rw [if_pos (by norm_num)]

/-- The exponent of the last place of a positive number. -/
def lastPlace (q : ℚ) : ℤ := max (-149) (Int.log 2 q - 23)

/-- The significand of a positive number in its last place. -/
def scaled (q : ℚ) : ℚ := q / 2 ^ lastPlace q

theorem roundToMagnitude_of_pos {q : ℚ} (hq : 0 < q) :
    roundToMagnitude q =
      (lastPlace q + 149).toNat * 2 ^ 23 + roundHalfEven (scaled q) := by
  rw [roundToMagnitude, if_neg hq.ne']
  rfl

theorem lastPlace_mono {p q : ℚ} (hp : 0 < p) (h : p ≤ q) :
    lastPlace p ≤ lastPlace q :=
  max_le_max le_rfl (sub_le_sub_right (Int.log_mono_right hp h) 23)

/-- A significand fits into 24 bits, but for a carry. -/
theorem roundHalfEven_scaled_le (q : ℚ) :
    roundHalfEven (scaled q) ≤ 2 ^ 24 := by
  have hlast : Int.log 2 q + 1 ≤ lastPlace q + 24 := by
    have h := le_max_right (-149) (Int.log 2 q - 23)
    rw [lastPlace]
    omega
  have hbound : q ≤ 2 ^ lastPlace q * 2 ^ 24 := by
    calc q ≤ (2 : ℚ) ^ (Int.log 2 q + 1) :=
          (Int.lt_zpow_succ_log_self (by decide) q).le
      _ ≤ (2 : ℚ) ^ (lastPlace q + 24) := zpow_le_zpow_right₀ (by norm_num) hlast
      _ = 2 ^ lastPlace q * 2 ^ 24 := zpow_add₀ (by norm_num) _ _
  have hscaled : scaled q ≤ ((2 ^ 24 : ℕ) : ℚ) := by
    rw [scaled, div_le_iff₀ (zpow_pos (by norm_num) _), mul_comm]
    exact_mod_cast hbound
  have hround := roundHalfEven_mono hscaled
  rwa [roundHalfEven_natCast] at hround

/-- Above the least last place, a significand uses all 24 bits. -/
theorem le_roundHalfEven_scaled {q : ℚ} (hq : 0 < q)
    (hlast : -149 < lastPlace q) : 2 ^ 23 ≤ roundHalfEven (scaled q) := by
  have hlog : lastPlace q + 23 = Int.log 2 q := by
    rw [lastPlace] at hlast ⊢
    omega
  have hbound : 2 ^ lastPlace q * 2 ^ 23 ≤ q := by
    calc 2 ^ lastPlace q * 2 ^ 23 = (2 : ℚ) ^ (lastPlace q + 23) :=
          (zpow_add₀ (by norm_num) _ _).symm
      _ = (2 : ℚ) ^ Int.log 2 q := by rw [hlog]
      _ ≤ q := Int.zpow_log_le_self (by decide) hq
  have hscaled : ((2 ^ 23 : ℕ) : ℚ) ≤ scaled q := by
    rw [scaled, le_div_iff₀ (zpow_pos (by norm_num) _), mul_comm]
    exact_mod_cast hbound
  have hround := roundHalfEven_mono hscaled
  rwa [roundHalfEven_natCast] at hround

theorem roundToMagnitude_mono {p q : ℚ} (hp : 0 ≤ p) (h : p ≤ q) :
    roundToMagnitude p ≤ roundToMagnitude q := by
  rcases hp.eq_or_lt with rfl | hpos
  · rw [roundToMagnitude, if_pos rfl]
    exact Nat.zero_le _
  have hqpos : 0 < q := hpos.trans_le h
  have hleast : -149 ≤ lastPlace p := le_max_left _ _
  rw [roundToMagnitude_of_pos hpos, roundToMagnitude_of_pos hqpos]
  rcases (lastPlace_mono hpos h).eq_or_lt with heq | hlt
  · -- the same last place
    have hscaled : scaled p ≤ scaled q := by
      rw [scaled, scaled, heq]
      exact div_le_div_of_nonneg_right h (zpow_nonneg (by norm_num) _)
    rw [heq]
    exact Nat.add_le_add_left (roundHalfEven_mono hscaled) _
  · -- a carry of the smaller one reaches the next binade at most
    have hcarry := roundHalfEven_scaled_le p
    have hfull := le_roundHalfEven_scaled hqpos (by omega)
    have hplaces : (lastPlace p + 149).toNat + 1 ≤ (lastPlace q + 149).toNat := by
      omega
    have hscale := Nat.mul_le_mul_right (2 ^ 23) hplaces
    omega

/-! ## Values are ordered as magnitudes -/

/-- The value of a number's magnitude, in units of the last place of the
subnormal ones. -/
def units (magnitude : ℕ) : ℕ :=
  if magnitude / 2 ^ 23 = 0 then 2 * (magnitude % 2 ^ 23)
  else (2 ^ 23 + magnitude % 2 ^ 23) * 2 ^ (magnitude / 2 ^ 23)

theorem units_mono {m n : ℕ} (h : m ≤ n) : units m ≤ units n := by
  have hexponent : m / 2 ^ 23 ≤ n / 2 ^ 23 := Nat.div_le_div_right h
  have hm := Nat.div_add_mod m (2 ^ 23)
  have hn := Nat.div_add_mod n (2 ^ 23)
  have hfraction : m % 2 ^ 23 < 2 ^ 23 := Nat.mod_lt _ (by decide)
  rcases hexponent.eq_or_lt with heq | hlt
  · -- one binade: the fractions are ordered
    have hle : m % 2 ^ 23 ≤ n % 2 ^ 23 := by
      rw [heq] at hm
      omega
    rw [units, units, heq]
    split
    · exact Nat.mul_le_mul_left 2 hle
    · exact Nat.mul_le_mul_right _ (Nat.add_le_add_left hle _)
  · -- a later binade starts behind the end of an earlier one
    have hstart : 2 ^ 23 * 2 ^ (m / 2 ^ 23 + 1) ≤ units n := by
      rw [units, if_neg (by omega)]
      exact Nat.mul_le_mul (Nat.le_add_right _ _)
        (Nat.pow_le_pow_right (by decide) hlt)
    have hend : units m ≤ 2 ^ 23 * 2 ^ (m / 2 ^ 23 + 1) := by
      rw [units]
      split
      · rename_i hzero
        rw [hzero]
        omega
      · have hdouble : 2 ^ 23 * 2 ^ (m / 2 ^ 23 + 1) =
            2 ^ 24 * 2 ^ (m / 2 ^ 23) := by
          rw [pow_succ 2 (m / 2 ^ 23)]
          ring
        rw [hdouble]
        exact Nat.mul_le_mul_right _ (by omega)
    exact hend.trans hstart

/-- A number that is neither negative nor too large. -/
theorem value_eq_units {x : Binary32} (hsign : ¬ x.Negative)
    (hfinite : x.magnitude < 0x7F800000) :
    x.value = units x.magnitude / 2 ^ 150 := by
  have hexponent : x.magnitude / 2 ^ 23 ≠ 255 := by omega
  simp only [value, if_neg hsign, if_neg hexponent, units]
  split
  · push_cast
    ring
  · push_cast
    ring

theorem value_mono {x y : Binary32} (hx : ¬ x.Negative) (hy : ¬ y.Negative)
    (hfinite : y.magnitude < 0x7F800000) (h : x.magnitude ≤ y.magnitude) :
    x.value ≤ y.value := by
  rw [value_eq_units hx (h.trans_lt hfinite), value_eq_units hy hfinite]
  have hunits : (units x.magnitude : ℚ) ≤ units y.magnitude :=
    Nat.cast_le.mpr (units_mono h)
  exact div_le_div_of_nonneg_right hunits (by positivity)

/-! ## Operations -/

/-- The quiet NaN of an operation without a result. -/
def nan : Binary32 := ⟨0x7FC00000⟩

def IsInfinite (x : Binary32) : Prop := x.magnitude = 0x7F800000

instance (x : Binary32) : Decidable x.IsInfinite :=
  inferInstanceAs (Decidable (_ = _))

def IsZero (x : Binary32) : Prop := x.magnitude = 0

instance (x : Binary32) : Decidable x.IsZero :=
  inferInstanceAs (Decidable (_ = _))

def infinity (negative : Bool) : Binary32 := ofMagnitude negative 0x7F800000

/-- The nearest number with a sign; too large a one becomes infinite. -/
def round (negative : Bool) (q : ℚ) : Binary32 :=
  ofMagnitude negative (min (roundToMagnitude q) 0x7F800000)

/-- A sum that cancels is a positive zero. -/
def roundSum (q : ℚ) : Binary32 := round (q < 0) |q|

/-- The sign of a product or a quotient. -/
def signOf (x y : Binary32) : Bool := x.Negative ≠ y.Negative

def neg (x : Binary32) : Binary32 := ⟨x.bits ^^^ 0x80000000⟩

def abs (x : Binary32) : Binary32 := ofMagnitude false x.magnitude

def add (x y : Binary32) : Binary32 :=
  if x.IsNaN ∨ y.IsNaN then nan
  else if x.IsInfinite then
    if y.IsInfinite ∧ signOf x y then nan else x
  else if y.IsInfinite then y
  else if x.IsZero ∧ y.IsZero ∧ x.Negative ∧ y.Negative then x
  else roundSum (x.value + y.value)

def sub (x y : Binary32) : Binary32 := x.add y.neg

def mul (x y : Binary32) : Binary32 :=
  if x.IsNaN ∨ y.IsNaN then nan
  else if x.IsInfinite ∨ y.IsInfinite then
    if x.IsZero ∨ y.IsZero then nan else infinity (signOf x y)
  else round (signOf x y) |x.value * y.value|

def div (x y : Binary32) : Binary32 :=
  if x.IsNaN ∨ y.IsNaN then nan
  else if x.IsInfinite then
    if y.IsInfinite then nan else infinity (signOf x y)
  else if y.IsInfinite then ofMagnitude (signOf x y) 0
  else if y.IsZero then
    if x.IsZero then nan else infinity (signOf x y)
  else round (signOf x y) |x.value / y.value|

def ofNat (n : ℕ) : Binary32 := round false n

/-- The nearest integer, halves away from zero. -/
def lround (x : Binary32) : ℤ :=
  if x.Negative then -((|x.value| + 1 / 2).floor) else (x.value + 1 / 2).floor

instance : LE Binary32 where
  le x y := ¬ x.IsNaN ∧ ¬ y.IsNaN ∧ x.key ≤ y.key

instance (x y : Binary32) : Decidable (x ≤ y) :=
  inferInstanceAs (Decidable (¬ x.IsNaN ∧ ¬ y.IsNaN ∧ x.key ≤ y.key))

/-! ## Results are numbers -/

theorem toNat_bits_ofMagnitude (negative : Bool) {magnitude : ℕ}
    (h : magnitude < 2 ^ 31) :
    (ofMagnitude negative magnitude).bits.toNat =
      if negative then 2 ^ 31 + magnitude else magnitude := by
  simp only [ofMagnitude]
  rw [UInt32.toNat_ofNat_of_lt']
  show (if negative then 2 ^ 31 + magnitude else magnitude) < 2 ^ 32
  split <;> omega

theorem magnitude_ofMagnitude (negative : Bool) {magnitude : ℕ}
    (h : magnitude < 2 ^ 31) :
    (ofMagnitude negative magnitude).magnitude = magnitude := by
  rw [Binary32.magnitude, toNat_bits_ofMagnitude negative h]
  split <;> omega

theorem not_negative_ofMagnitude {magnitude : ℕ} (h : magnitude < 2 ^ 31) :
    ¬ (ofMagnitude false magnitude).Negative := by
  rw [Negative, toNat_bits_ofMagnitude false h, if_neg Bool.false_ne_true]
  omega

theorem magnitude_round (negative : Bool) (q : ℚ) :
    (round negative q).magnitude = min (roundToMagnitude q) 0x7F800000 :=
  magnitude_ofMagnitude negative (by omega)

theorem not_isNaN_round (negative : Bool) (q : ℚ) :
    ¬ (round negative q).IsNaN := by
  rw [IsNaN, magnitude_round]
  omega

theorem not_isNaN_infinity (negative : Bool) : ¬ (infinity negative).IsNaN := by
  revert negative
  decide

/-- Rounding keeps the order of numbers that are not negative. -/
theorem value_round_mono {p q : ℚ} (hp : 0 ≤ p) (h : p ≤ q)
    (hfinite : roundToMagnitude q < 0x7F800000) :
    (round false p).value ≤ (round false q).value := by
  have hmagnitudes := roundToMagnitude_mono hp h
  have hsign (q : ℚ) : ¬ (round false q).Negative :=
    not_negative_ofMagnitude (by omega)
  apply value_mono (hsign p) (hsign q)
  · rw [magnitude_round]
    omega
  · rw [magnitude_round, magnitude_round]
    omega

/-- Only the product of an infinity with a zero is no number. -/
theorem not_isNaN_mul {x y : Binary32} (hx : ¬ x.IsNaN) (hy : ¬ y.IsNaN)
    (hinfinite : ¬ y.IsInfinite) (hzero : ¬ y.IsZero) : ¬ (x.mul y).IsNaN := by
  rw [mul, if_neg (not_or.mpr ⟨hx, hy⟩)]
  split
  · rename_i hlarge
    have hxinfinite : x.IsInfinite := hlarge.resolve_right hinfinite
    have hxzero : ¬ x.IsZero := by
      intro h
      exact absurd (hxinfinite.symm.trans h) (by decide)
    rw [if_neg (not_or.mpr ⟨hxzero, hzero⟩)]
    exact not_isNaN_infinity _
  · exact not_isNaN_round _ _

/-- The quotient of two positive finite numbers is rounded. -/
theorem div_of_pos {x y : Binary32} (hx : ¬ x.Negative)
    (hxfinite : x.magnitude < 0x7F800000) (hy : ¬ y.Negative)
    (hyfinite : y.magnitude < 0x7F800000) (hypos : 0 < y.magnitude) :
    x.div y = round false (x.value / y.value) := by
  have hnumbers : ¬ (x.IsNaN ∨ y.IsNaN) := by
    rw [IsNaN, IsNaN]
    omega
  have hxnot : ¬ x.IsInfinite := hxfinite.ne
  have hynot : ¬ y.IsInfinite := hyfinite.ne
  have hyzero : ¬ y.IsZero := hypos.ne'
  have hsign : signOf x y = false := by
    simp [signOf, hx, hy]
  have hquotient : 0 ≤ x.value / y.value := by
    rw [value_eq_units hx hxfinite, value_eq_units hy hyfinite]
    positivity
  rw [div, if_neg hnumbers, if_neg hxnot, if_neg hynot, if_neg hyzero, hsign,
    abs_of_nonneg hquotient]

end Binary32

end Support
