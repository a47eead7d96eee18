import RamkolFX.Support.Binary32
import Mathlib.Data.Int.Log
import Mathlib.Data.List.TakeWhile
import Mathlib.Data.Nat.Digits.Lemmas
import Mathlib.Data.Rat.Floor

/-!
# Numbers as text

What the standard library writes and reads in the C locale: `std::to_string`
and `std::stol` for integers, the stream output of a `float` with its default
six digits and `std::stof`.  A conversion that throws is `none`.
-/

namespace Support

namespace NumberText

/-! ## Characters -/

/-- `isspace` -/
def IsSpace (b : UInt8) : Prop := b = ' '.toUInt8 ∨ 0x09 ≤ b ∧ b ≤ 0x0D

instance (b : UInt8) : Decidable (IsSpace b) :=
  inferInstanceAs (Decidable (_ ∨ _))

/-- The value of a digit in a base up to sixteen; `none` for other bytes. -/
def digitValue (base : ℕ) (b : UInt8) : Option ℕ :=
  let value :=
    if '0'.toUInt8 ≤ b ∧ b ≤ '9'.toUInt8 then (b - '0'.toUInt8).toNat
    else if 'a'.toUInt8 ≤ b ∧ b ≤ 'f'.toUInt8 then (b - 'a'.toUInt8).toNat + 10
    else if 'A'.toUInt8 ≤ b ∧ b ≤ 'F'.toUInt8 then (b - 'A'.toUInt8).toNat + 10
    else 16
  if value < base then some value else none

def isDigit (base : ℕ) (b : UInt8) : Bool := (digitValue base b).isSome

def toLower (b : UInt8) : UInt8 :=
  if 'A'.toUInt8 ≤ b ∧ b ≤ 'Z'.toUInt8 then b + 32 else b

/-- The number a row of digits stands for. -/
def readDigits (base : ℕ) (digits : List UInt8) : ℕ :=
  digits.foldl (fun n b => base * n + (digitValue base b).getD 0) 0

/-- An optional sign, and the text behind it. -/
def readSign : List UInt8 → Bool × List UInt8
  | [] => (false, [])
  | b :: rest =>
      if b = '-'.toUInt8 then (true, rest)
      else if b = '+'.toUInt8 then (false, rest)
      else (false, b :: rest)

/-! ## Integers -/

/-- `std::to_string` of a number that is not negative. -/
def printNat (n : ℕ) : List UInt8 :=
  if n = 0 then ['0'.toUInt8]
  else (Nat.digits 10 n).reverse.map fun d => UInt8.ofNat (48 + d)

/-- `std::stol` for a `long` of 64 bits. -/
def stol (text : List UInt8) : Option ℤ :=
  let (negative, rest) := readSign (text.dropWhile fun b => IsSpace b)
  let digits := rest.takeWhile (isDigit 10)
  let magnitude : ℤ := readDigits 10 digits
  let value := if negative then -magnitude else magnitude
  if digits ≠ [] ∧ -2 ^ 63 ≤ value ∧ value < 2 ^ 63 then some value else none

/-! ## Rounding -/

/-- The nearest integer to a number that is not negative, ties to even. -/
def roundHalfEven (q : ℚ) : ℕ :=
  let n := q.floor.toNat
  let rest := q - n
  if rest < 1 / 2 then n
  else if 1 / 2 < rest then n + 1
  else if n % 2 = 0 then n
  else n + 1

/-- The magnitude bits of the nearest `float` to a number that is not
negative; from `0x7F800000` on it is too large. -/
def roundToMagnitude (q : ℚ) : ℕ :=
  if q = 0 then 0
  else
    -- the exponent of the last place
    let e := max (-149) (Int.log 2 q - 23)
    -- the implicit bit of the fraction carries into the exponent field
    (e + 149).toNat * 2 ^ 23 + roundHalfEven (q / 2 ^ e)

/-- A `float` from its sign and magnitude bits. -/
def ofMagnitude (negative : Bool) (magnitude : ℕ) : Binary32 :=
  ⟨UInt32.ofNat (if negative then 2 ^ 31 + magnitude else magnitude)⟩

/-! ## Printing floats -/

/-- Two digits at least, as in an exponent. -/
def printExponent (e : ℤ) : List UInt8 :=
  let digits := printNat e.natAbs
  (if e < 0 then '-'.toUInt8 else '+'.toUInt8) ::
    (if digits.length < 2 then '0'.toUInt8 :: digits else digits)

/-- A fraction, without the point when it is empty. -/
def printFraction (digits : List UInt8) : List UInt8 :=
  if digits = [] then [] else '.'.toUInt8 :: digits

/-- The six significant digits of a positive number, and its decimal
exponent. -/
def significant (q : ℚ) : ℕ × ℤ :=
  let e := Int.log 10 q
  let n := roundHalfEven (q / 10 ^ (e - 5))
  if n = 10 ^ 6 then (10 ^ 5, e + 1) else (n, e)

/-- The style `%g` of a number that is not negative. -/
def printMagnitude (q : ℚ) : List UInt8 :=
  if q = 0 then ['0'.toUInt8]
  else
    let (n, e) := significant q
    -- trailing zeros are not printed
    let digits :=
      ((printNat n).reverse.dropWhile fun b => b = '0'.toUInt8).reverse
    if e < -4 ∨ 6 ≤ e then
      digits.take 1 ++ printFraction (digits.drop 1) ++
        'e'.toUInt8 :: printExponent e
    else if e < 0 then
      '0'.toUInt8 ::
        printFraction (List.replicate (-e - 1).toNat '0'.toUInt8 ++ digits)
    else
      let whole := e.toNat + 1
      digits.take whole ++ List.replicate (whole - digits.length) '0'.toUInt8 ++
        printFraction (digits.drop whole)

/-- Stream output of a `float`. -/
def printFloat (x : Binary32) : List UInt8 :=
  (if x.Negative then ['-'.toUInt8] else []) ++
    if x.IsNaN then ['n'.toUInt8, 'a'.toUInt8, 'n'.toUInt8]
    else if x.magnitude = 0x7F800000 then
      ['i'.toUInt8, 'n'.toUInt8, 'f'.toUInt8]
    else printMagnitude |x.value|

/-! ## Reading floats -/

/-- A number with an optional fraction: its digits as one integer, how many of
them are behind the point, and the text behind it. -/
def readMantissa (base : ℕ) (text : List UInt8) :
    Option (ℕ × ℕ × List UInt8) :=
  let whole := text.takeWhile (isDigit base)
  let rest := text.dropWhile (isDigit base)
  let behindPoint := if rest.head? = some '.'.toUInt8 then rest.drop 1 else []
  let fraction := behindPoint.takeWhile (isDigit base)
  if whole ++ fraction = [] then none
  else some (readDigits base (whole ++ fraction), fraction.length,
    if rest.head? = some '.'.toUInt8 then behindPoint.dropWhile (isDigit base)
    else rest)

/-- An exponent behind its marker; `0` when there is none. -/
def readExponent (marker : UInt8) (text : List UInt8) : ℤ :=
  if text.head?.map toLower = some marker then
    let (negative, rest) := readSign (text.drop 1)
    let magnitude : ℤ := readDigits 10 (rest.takeWhile (isDigit 10))
    if negative then -magnitude else magnitude
  else 0

/-- The value of a decimal number at the start of a text. -/
def readDecimal (text : List UInt8) : Option ℚ :=
  (readMantissa 10 text).map fun (mantissa, scale, rest) =>
    mantissa * (10 : ℚ) ^ (readExponent 'e'.toUInt8 rest - scale)

/-- The value of a hexadecimal number behind its `0x`. -/
def readHexadecimal (text : List UInt8) : Option ℚ :=
  (readMantissa 16 text).map fun (mantissa, scale, rest) =>
    mantissa * (2 : ℚ) ^ (readExponent 'p'.toUInt8 rest - 4 * scale)

/-- The number at the start of a text without a sign. -/
def readMagnitude (text : List UInt8) : Option ℚ :=
  if (text.take 2).map toLower = ['0'.toUInt8, 'x'.toUInt8] then
    -- without a hexadecimal digit, only the zero is read
    some ((readHexadecimal (text.drop 2)).getD 0)
  else readDecimal text

/-- Rounded to 24 bits with an exponent of any size, the number is below the
normal range: the half between `2 ^ -126` and the next such number below it is
rounded up. -/
def IsTiny (q : ℚ) : Prop := q < (2 ^ 25 - 1) / 2 ^ 151

instance (q : ℚ) : Decidable (IsTiny q) := inferInstanceAs (Decidable (_ < _))

/-- `std::stof`.  It throws on text that does not start with a number, on
overflow, and on a tiny number that is not exact, as it is on the machines that
detect underflow after rounding.  A NaN is read without its payload. -/
def stof (text : List UInt8) : Option Binary32 :=
  let (negative, rest) := readSign (text.dropWhile fun b => IsSpace b)
  if (rest.take 3).map toLower = ['i'.toUInt8, 'n'.toUInt8, 'f'.toUInt8] then
    some (ofMagnitude negative 0x7F800000)
  else if (rest.take 3).map toLower =
      ['n'.toUInt8, 'a'.toUInt8, 'n'.toUInt8] then
    some (ofMagnitude negative 0x7FC00000)
  else
    (readMagnitude rest).bind fun q =>
      let x := ofMagnitude negative (roundToMagnitude q)
      if roundToMagnitude q ≥ 0x7F800000 then none
      else if IsTiny q ∧ |x.value| ≠ q then none
      else some x

/-! ## Integers round trip -/

theorem digitValue_digit {d : ℕ} (h : d < 10) :
    digitValue 10 (UInt8.ofNat (48 + d)) = some d := by
  interval_cases d <;> rfl

theorem isDigit_of_mem_printNat {n : ℕ} {b : UInt8} (h : b ∈ printNat n) :
    isDigit 10 b := by
  rw [printNat] at h
  split at h
  · obtain rfl : b = '0'.toUInt8 := by simpa using h
    rfl
  · obtain ⟨d, hd, rfl⟩ := List.mem_map.mp h
    have hlt := Nat.digits_lt_base (by decide) (List.mem_reverse.mp hd)
    rw [isDigit, digitValue_digit hlt]
    rfl

theorem printNat_ne_nil (n : ℕ) : printNat n ≠ [] := by
  rw [printNat]
  split
  · simp
  · rename_i h
    simpa [Nat.digits_ne_nil_iff_ne_zero] using h

theorem length_printNat_le {n k : ℕ} (hk : 0 < k) (h : n < 10 ^ k) :
    (printNat n).length ≤ k := by
  rw [printNat]
  split
  · exact hk
  · rw [List.length_map, List.length_reverse]
    exact (Nat.digits_length_le_iff (by decide) n).mpr h

theorem readDigits_reverse_digits (digits : List ℕ) (h : ∀ d ∈ digits, d < 10) :
    readDigits 10 (digits.reverse.map fun d => UInt8.ofNat (48 + d)) =
      Nat.ofDigits 10 digits := by
  induction digits with
  | nil => rfl
  | cons d digits ih =>
      rw [List.forall_mem_cons] at h
      have hrest := ih h.2
      rw [readDigits] at hrest
      rw [List.reverse_cons, List.map_append, readDigits, List.foldl_append,
        hrest, Nat.ofDigits_cons]
      show 10 * Nat.ofDigits 10 digits +
        (digitValue 10 (UInt8.ofNat (48 + d))).getD 0 = _
      rw [digitValue_digit h.1, Nat.add_comm]
      rfl

theorem readDigits_printNat (n : ℕ) : readDigits 10 (printNat n) = n := by
  by_cases h : n = 0
  · subst h
    rfl
  · rw [printNat, if_neg h,
      readDigits_reverse_digits _ fun d hd => Nat.digits_lt_base (by decide) hd,
      Nat.ofDigits_digits]

theorem isDigit_ten_iff {b : UInt8} :
    isDigit 10 b ↔ '0'.toUInt8 ≤ b ∧ b ≤ '9'.toUInt8 := by
  constructor
  · intro h
    by_contra hnot
    rw [isDigit, digitValue, if_neg hnot] at h
    split at h
    · simp at h
    · split at h <;> simp at h
  · intro h
    have hle : b.toNat ≤ 57 := h.2
    have hlt : (b - '0'.toUInt8).toNat < 10 := by
      rw [UInt8.toNat_sub_of_le b _ h.1]
      show b.toNat - 48 < 10
      omega
    rw [isDigit, digitValue, if_pos h, if_pos hlt]
    rfl

theorem not_isSpace_of_isDigit {b : UInt8} (h : isDigit 10 b) : ¬ IsSpace b := by
  have hge : 48 ≤ b.toNat := (isDigit_ten_iff.mp h).1
  rintro (rfl | ⟨-, hle⟩)
  · exact absurd hge (by decide)
  · exact absurd (le_trans hge hle) (by decide)

theorem readSign_of_isDigit {text : List UInt8} (h : ∀ b ∈ text, isDigit 10 b) :
    readSign text = (false, text) := by
  cases text with
  | nil => rfl
  | cons b rest =>
      have hb := h b (List.mem_cons_self)
      have hminus : b ≠ '-'.toUInt8 := by
        rintro rfl
        exact absurd hb (by decide)
      have hplus : b ≠ '+'.toUInt8 := by
        rintro rfl
        exact absurd hb (by decide)
      rw [readSign, if_neg hminus, if_neg hplus]

/-- A number that fits is read back as it was printed. -/
theorem stol_printNat {n : ℕ} (h : n < 2 ^ 63) : stol (printNat n) = some n := by
  have hdigits : ∀ b ∈ printNat n, isDigit 10 b :=
    fun b hb => isDigit_of_mem_printNat hb
  have hspace : (printNat n).dropWhile (fun b => IsSpace b) = printNat n := by
    cases htext : printNat n with
    | nil => rfl
    | cons b rest =>
        have hb := hdigits b (htext ▸ List.mem_cons_self)
        exact List.dropWhile_cons_of_neg (by simpa using not_isSpace_of_isDigit hb)
  have htake : (printNat n).takeWhile (isDigit 10) = printNat n :=
    List.takeWhile_eq_self_iff.mpr hdigits
  simp only [stol, hspace, readSign_of_isDigit hdigits, htake,
    readDigits_printNat]
  have hnonneg : (0 : ℤ) ≤ n := Int.natCast_nonneg n
  have hfits : (n : ℤ) < 2 ^ 63 := by exact_mod_cast h
  exact if_pos ⟨printNat_ne_nil n, le_trans (by norm_num) hnonneg, hfits⟩

/-! ## Printed text has no line break -/

/-- No character below `+` is printed. -/
def Plain (text : List UInt8) : Prop := ∀ b ∈ text, '+'.toUInt8 ≤ b

instance (text : List UInt8) : Decidable (Plain text) :=
  List.decidableBAll (fun b => '+'.toUInt8 ≤ b) text

theorem Plain.append {text text' : List UInt8} (h : Plain text)
    (h' : Plain text') : Plain (text ++ text') := by
  intro b hb
  rcases List.mem_append.mp hb with hb | hb
  · exact h b hb
  · exact h' b hb

theorem Plain.of_subset {text text' : List UInt8} (h : Plain text)
    (hsub : text' ⊆ text) : Plain text' :=
  fun b hb => h b (hsub hb)

theorem plain_of_isDigit {b : UInt8} (h : isDigit 10 b) : '+'.toUInt8 ≤ b :=
  UInt8.le_trans (by decide) (isDigit_ten_iff.mp h).1

theorem plain_printNat (n : ℕ) : Plain (printNat n) :=
  fun _ hb => plain_of_isDigit (isDigit_of_mem_printNat hb)

theorem plain_replicate_zero (n : ℕ) :
    Plain (List.replicate n '0'.toUInt8) := by
  intro b hb
  obtain ⟨-, rfl⟩ := List.mem_replicate.mp hb
  decide

theorem Plain.cons {text : List UInt8} {b : UInt8} (h : Plain text)
    (hb : '+'.toUInt8 ≤ b) : Plain (b :: text) :=
  List.forall_mem_cons.mpr ⟨hb, h⟩

theorem Plain.printFraction {digits : List UInt8} (h : Plain digits) :
    Plain (printFraction digits) := by
  rw [NumberText.printFraction]
  split
  · exact fun b hb => absurd hb (by simp)
  · exact h.cons (by decide)

theorem plain_printExponent (e : ℤ) : Plain (printExponent e) := by
  have hdigits := plain_printNat e.natAbs
  rw [printExponent]
  refine Plain.cons ?_ (by split <;> decide)
  split
  · exact hdigits.cons (by decide)
  · exact hdigits

theorem plain_printMagnitude (q : ℚ) : Plain (printMagnitude q) := by
  rw [printMagnitude]
  split
  · exact plain_replicate_zero 1
  · have hdigits : Plain ((printNat (significant q).1).reverse.dropWhile
        fun b => b = '0'.toUInt8).reverse := by
      apply (plain_printNat (significant q).1).of_subset
      intro b hb
      exact List.mem_reverse.mp
        ((List.dropWhile_suffix _).subset (List.mem_reverse.mp hb))
    have htake := fun n => hdigits.of_subset (List.take_subset n _)
    have hdrop := fun n => hdigits.of_subset (List.drop_subset n _)
    dsimp only
    split
    · exact ((htake 1).append (hdrop 1).printFraction).append
        ((plain_printExponent _).cons (by decide))
    · split
      · exact Plain.cons
          (Plain.printFraction ((plain_replicate_zero _).append hdigits))
          (by decide)
      · exact ((htake _).append (plain_replicate_zero _)).append
          (hdrop _).printFraction

theorem plain_printFloat (x : Binary32) : Plain (printFloat x) := by
  rw [printFloat]
  apply Plain.append
  · split <;> decide
  · split
    · decide
    · split
      · decide
      · exact plain_printMagnitude _

end NumberText

end Support
