import Mathlib

/-!
# Periods of additive feedback

An additive map on a group in which everything is its own inverse, such as the
words of a shift register under exclusive or.  If the register's bits, fed back,
give its next value from the first `k`, then its value after `n` steps is a
combination of the first `k` values, and the coefficients are computed by squaring.
-/

namespace Support

open Function

/-- A period that no prime can be taken out of is the least. -/
theorem minimalPeriod_of_primes {α : Type*} {f : α → α} {x : α} {n : ℕ}
    (hperiod : IsPeriodicPt f n x)
    (hprimes : ∀ p, p.Prime → p ∣ n → ¬ IsPeriodicPt f (n / p) x) :
    minimalPeriod f x = n := by
  have hdvd := hperiod.minimalPeriod_dvd
  obtain ⟨m, hm⟩ := hdvd
  by_contra hne
  have hm1 : m ≠ 1 := by
    rintro rfl
    exact hne (by rw [hm, mul_one])
  obtain ⟨p, hp, q, rfl⟩ := Nat.exists_prime_and_dvd hm1
  have hquotient : n / p = minimalPeriod f x * q := by
    rw [hm, mul_left_comm, Nat.mul_div_cancel_left _ hp.pos]
  apply hprimes p hp ⟨minimalPeriod f x * q, by rw [hm, mul_left_comm]⟩
  rw [hquotient]
  exact (isPeriodicPt_minimalPeriod f x).mul_const q

/-- A cycle of at least as many points as there are goes through all of them. -/
theorem image_iterate_eq {α : Type*} {f : α → α} {x : α} {points : Set α}
    (hfinite : points.Finite) (hpoints : ∀ i, f^[i] x ∈ points)
    (hcard : points.ncard ≤ minimalPeriod f x) :
    (fun i => f^[i] x) '' Set.Iio (minimalPeriod f x) = points := by
  apply Set.eq_of_subset_of_ncard_le _ _ hfinite
  · rintro - ⟨i, -, rfl⟩
    exact hpoints i
  · rw [iterate_injOn_Iio_minimalPeriod.ncard_image, Set.ncard_Iio_nat]
    exact hcard

/-- Going round once, a property is met as often as there are points that have it. -/
theorem ncard_iterate_eq {α : Type*} {f : α → α} {x : α} {points : Set α}
    (hcycle : (fun i => f^[i] x) '' Set.Iio (minimalPeriod f x) = points)
    (Q : α → Prop) :
    {i | i < minimalPeriod f x ∧ Q (f^[i] x)}.ncard = {y | y ∈ points ∧ Q y}.ncard := by
  have himage : (fun i => f^[i] x) '' {i | i < minimalPeriod f x ∧ Q (f^[i] x)} =
      {y | y ∈ points ∧ Q y} := by
    rw [← hcycle]
    ext y
    constructor
    · rintro ⟨i, ⟨hi, hQ⟩, rfl⟩
      exact ⟨⟨i, hi, rfl⟩, hQ⟩
    · rintro ⟨⟨i, hi, rfl⟩, hQ⟩
      exact ⟨i, ⟨hi, hQ⟩, rfl⟩
  have hinj : Set.InjOn (fun i => f^[i] x) {i | i < minimalPeriod f x ∧ Q (f^[i] x)} :=
    iterate_injOn_Iio_minimalPeriod.mono fun i hi => hi.1
  rw [← himage, hinj.ncard_image]

namespace Feedback

variable {V : Type*} [AddCommGroup V]

/-- The sum of those of the first `k` values from `v` on that the bits of `c`
select, the lowest bit for `v` itself. -/
def combine (f : V → V) : ℕ → ℕ → V → V
  | 0, _, _ => 0
  | k + 1, c, v => (if c % 2 = 1 then v else 0) + combine f k (c / 2) (f v)

/-- The coefficients one step later, when the value behind the first `k` is their
combination by `low`. -/
def timesX (k low c : ℕ) : ℕ :=
  if 2 * c < 2 ^ k then 2 * c else (2 * c - 2 ^ k) ^^^ low

/-- The coefficients of a combination of a combination. -/
def mulMod (k low : ℕ) : ℕ → ℕ → ℕ → ℕ
  | 0, _, _ => 0
  | j + 1, a, b =>
      (if a % 2 = 1 then b else 0) ^^^ timesX k low (mulMod k low j (a / 2) b)

/-- The coefficients of the value after `n` steps, for `n` of at most `j` bits. -/
def powX (k low : ℕ) : ℕ → ℕ → ℕ
  | 0, _ => 1
  | j + 1, n =>
      let square := mulMod k low k (powX k low j (n / 2)) (powX k low j (n / 2))
      if n % 2 = 1 then timesX k low square else square

variable {f : V → V} {k low : ℕ} {v : V}

section

variable (hadd : ∀ v w, f (v + w) = f v + f w)

include hadd

theorem map_zero_of_additive : f 0 = 0 := by
  have h := hadd 0 0
  rw [add_zero] at h
  exact left_eq_add.mp h

theorem combine_apply (j c : ℕ) (v : V) : combine f j c (f v) = f (combine f j c v) := by
  induction j generalizing c v with
  | zero => exact (map_zero_of_additive hadd).symm
  | succ j ih =>
      rw [combine, combine, hadd, ih]
      split
      · rfl
      · rw [map_zero_of_additive hadd]

theorem combine_iterate (j c n : ℕ) (v : V) :
    combine f j c (f^[n] v) = f^[n] (combine f j c v) := by
  induction n generalizing v with
  | zero => rfl
  | succ n ih => rw [iterate_succ_apply, iterate_succ_apply, ih, combine_apply hadd]

end

theorem combine_zero (j : ℕ) (v : V) : combine f j 0 v = 0 := by
  induction j generalizing v with
  | zero => rfl
  | succ j ih => simp [combine, ih]

theorem combine_one (j : ℕ) (v : V) : combine f (j + 1) 1 v = v := by
  simp [combine, combine_zero]

/-- Where everything is its own inverse, coefficients are added bit by bit. -/
theorem combine_xor (hself : ∀ v : V, v + v = 0) (j a b : ℕ) (v : V) :
    combine f j (a ^^^ b) v = combine f j a v + combine f j b v := by
  induction j generalizing a b v with
  | zero => exact (add_zero 0).symm
  | succ j ih =>
      have hbit : (if (a ^^^ b) % 2 = 1 then v else 0) =
          (if a % 2 = 1 then v else 0) + (if b % 2 = 1 then v else 0) := by
        have hmod : (a ^^^ b) % 2 = (a + b) % 2 := Nat.xor_mod_two_eq
        rcases Nat.mod_two_eq_zero_or_one a with ha | ha <;>
          rcases Nat.mod_two_eq_zero_or_one b with hb | hb <;>
          simp [hmod, Nat.add_mod, ha, hb, hself]
      rw [combine, combine, combine, hbit, Nat.xor_div_two, ih]
      exact add_add_add_comm _ _ _ _

theorem combine_of_lt {c : ℕ} (hc : c < 2 ^ k) (v : V) :
    combine f (k + 1) c v = combine f k c v := by
  induction k generalizing c v with
  | zero =>
      obtain rfl : c = 0 := by omega
      simp [combine]
  | succ k ih =>
      have hhalf : c / 2 < 2 ^ k := by omega
      rw [combine, ih hhalf]
      rfl

/-- The coefficient of the value behind the first `k`. -/
theorem combine_top {c : ℕ} (hc : c < 2 ^ k) (v : V) :
    combine f (k + 1) (c + 2 ^ k) v = combine f k c v + f^[k] v := by
  induction k generalizing c v with
  | zero =>
      obtain rfl : c = 0 := by omega
      simp [combine]
  | succ k ih =>
      have hhalf : c / 2 < 2 ^ k := by omega
      have hbit : (c + 2 ^ (k + 1)) % 2 = c % 2 := by omega
      have hrest : (c + 2 ^ (k + 1)) / 2 = c / 2 + 2 ^ k := by omega
      rw [combine, hbit, hrest, ih hhalf, combine, iterate_succ_apply, add_assoc]

theorem timesX_lt (hlow : low < 2 ^ k) {c : ℕ} (hc : c < 2 ^ k) :
    timesX k low c < 2 ^ k := by
  rw [timesX]
  split
  · assumption
  · exact Nat.xor_lt_two_pow (by omega) hlow

theorem mulMod_lt (hlow : low < 2 ^ k) (j a : ℕ) {b : ℕ} (hb : b < 2 ^ k) :
    mulMod k low j a b < 2 ^ k := by
  induction j generalizing a with
  | zero => exact Nat.two_pow_pos k
  | succ j ih =>
      rw [mulMod]
      refine Nat.xor_lt_two_pow ?_ (timesX_lt hlow (ih (a / 2)))
      split
      · exact hb
      · exact Nat.two_pow_pos k

theorem powX_lt (hlow : low < 2 ^ k) (hk : 0 < k) (j n : ℕ) :
    powX k low j n < 2 ^ k := by
  induction j generalizing n with
  | zero => exact Nat.one_lt_two_pow hk.ne'
  | succ j ih =>
      have hsquare := mulMod_lt hlow k (powX k low j (n / 2)) (ih (n / 2))
      rw [powX]
      split
      · exact timesX_lt hlow hsquare
      · exact hsquare

section

variable (hadd : ∀ v w, f (v + w) = f v + f w) (hself : ∀ v : V, v + v = 0)
  (hnext : f^[k] v = combine f k low v)

include hadd hself hnext

/-- One step. -/
theorem combine_timesX {c : ℕ} (hc : c < 2 ^ k) :
    combine f k (timesX k low c) v = f (combine f k c v) := by
  have hdouble : combine f (k + 1) (2 * c) v = f (combine f k c v) := by
    rw [combine, Nat.mul_mod_right, if_neg (by decide), zero_add,
      Nat.mul_div_cancel_left c (by decide), combine_apply hadd]
  rw [← hdouble, timesX]
  split
  · rename_i hlt
    exact (combine_of_lt hlt v).symm
  · rename_i hge
    have hrest : 2 * c - 2 ^ k < 2 ^ k := by omega
    have hsplit : 2 * c = (2 * c - 2 ^ k) + 2 ^ k := by omega
    conv_rhs => rw [hsplit]
    rw [combine_top hrest, hnext, combine_xor hself]

/-- A combination of a combination. -/
theorem combine_mulMod (hlow : low < 2 ^ k) (j a : ℕ) {b : ℕ} (hb : b < 2 ^ k) :
    combine f k (mulMod k low j a b) v = combine f j a (combine f k b v) := by
  induction j generalizing a with
  | zero => exact combine_zero k v
  | succ j ih =>
      have hlt := mulMod_lt hlow j (a / 2) hb
      rw [mulMod, combine_xor hself, combine_timesX hadd hself hnext hlt, ih, combine,
        combine_apply hadd]
      split
      · rfl
      · rw [combine_zero]

/-- The value after `n` steps is the combination by the power. -/
theorem iterate_eq_combine (hlow : low < 2 ^ k) (hk : 0 < k) {j n : ℕ}
    (hn : n < 2 ^ j) : f^[n] v = combine f k (powX k low j n) v := by
  obtain ⟨k', rfl⟩ := Nat.exists_eq_succ_of_ne_zero hk.ne'
  induction j generalizing n with
  | zero =>
      obtain rfl : n = 0 := by omega
      exact (combine_one k' v).symm
  | succ j ih =>
      have hhalf : n / 2 < 2 ^ j := by omega
      have hpower := powX_lt hlow hk j (n / 2)
      have hsquare : f^[n / 2 + n / 2] v = combine f (k' + 1)
          (mulMod (k' + 1) low (k' + 1) (powX (k' + 1) low j (n / 2))
            (powX (k' + 1) low j (n / 2))) v := by
        rw [combine_mulMod hadd hself hnext hlow _ _ hpower, ← ih hhalf,
          combine_iterate hadd, ← ih hhalf, iterate_add_apply]
      rw [powX]
      split
      · have hodd : n = (n / 2 + n / 2) + 1 := by omega
        rw [combine_timesX hadd hself hnext (mulMod_lt hlow _ _ hpower), ← hsquare]
        conv_lhs => rw [hodd]
        exact iterate_succ_apply' f _ v
      · have heven : n = n / 2 + n / 2 := by omega
        rw [← hsquare]
        conv_lhs => rw [heven]

/-- The period is `n` if the power is one and no power by a divisor that leaves
out a prime leads back. -/
theorem minimalPeriod_of_powX (hlow : low < 2 ^ k) (hk : 0 < k) {j n : ℕ}
    (hn : n < 2 ^ j) (hone : powX k low j n = 1)
    (hprimes : ∀ p, p.Prime → p ∣ n →
      combine f k (powX k low j (n / p)) v ≠ v) :
    minimalPeriod f v = n := by
  have hiterate {m : ℕ} (hm : m < 2 ^ j) :=
    iterate_eq_combine hadd hself hnext hlow hk hm
  apply minimalPeriod_of_primes
  · show f^[n] v = v
    obtain ⟨k', rfl⟩ := Nat.exists_eq_succ_of_ne_zero hk.ne'
    rw [hiterate hn, hone, combine_one]
  · intro p hp hdvd hperiod
    apply hprimes p hp hdvd
    rw [← hiterate ((Nat.div_le_self n p).trans_lt hn)]
    exact hperiod

end

end Feedback

end Support
