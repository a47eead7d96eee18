import Mathlib.Algebra.Polynomial.Coeff
import Mathlib.Data.List.GetD
import Mathlib.Tactic.Ring

/-!
# Linear convolution

A finite signal is the list of coefficients of a polynomial, and the convolution
of two signals is the list of their product.  What is an identity of products
is then one of convolutions, as soon as the lengths agree.
-/

namespace Support

open Polynomial

variable {R : Type*} [CommSemiring R]

/-- The polynomial with these coefficients, lowest first. -/
noncomputable def ofCoeffs : List R → R[X]
  | [] => 0
  | a :: as => C a + X * ofCoeffs as

theorem ofCoeffs_cons (a : R) (as : List R) :
    ofCoeffs (a :: as) = C a + X * ofCoeffs as := rfl

theorem coeff_ofCoeffs (as : List R) (i : ℕ) :
    (ofCoeffs as).coeff i = as.getD i 0 := by
  induction as generalizing i with
  | nil => simp [ofCoeffs]
  | cons a as ih =>
      cases i with
      | zero => simp [ofCoeffs_cons]
      | succ i => simp [ofCoeffs_cons, ih]

/-- Lists of one length are told apart by their polynomials. -/
theorem eq_of_ofCoeffs_eq {as bs : List R} (hlength : as.length = bs.length)
    (h : ofCoeffs as = ofCoeffs bs) : as = bs := by
  apply List.ext_getElem hlength
  intro i hi hi'
  have hcoeff := congrArg (fun p => p.coeff i) h
  simp only [coeff_ofCoeffs] at hcoeff
  rwa [List.getD_eq_getElem _ _ hi, List.getD_eq_getElem _ _ hi'] at hcoeff

@[simp] theorem ofCoeffs_replicate_zero (n : ℕ) :
    ofCoeffs (List.replicate n (0 : R)) = 0 := by
  induction n with
  | zero => rfl
  | succ n ih => rw [List.replicate_succ, ofCoeffs_cons, ih, C_0, mul_zero, add_zero]

/-- A delay multiplies by a power of the variable. -/
theorem ofCoeffs_delay (n : ℕ) (as : List R) :
    ofCoeffs (List.replicate n 0 ++ as) = X ^ n * ofCoeffs as := by
  induction n with
  | zero => simp
  | succ n ih =>
      rw [List.replicate_succ, List.cons_append, ofCoeffs_cons, ih, C_0, zero_add,
        pow_succ']
      ring

theorem ofCoeffs_append_zeros (as : List R) (n : ℕ) :
    ofCoeffs (as ++ List.replicate n 0) = ofCoeffs as := by
  induction as with
  | nil => exact ofCoeffs_replicate_zero n
  | cons a as ih => rw [List.cons_append, ofCoeffs_cons, ih, ofCoeffs_cons]

/-! ## Operations that convolve -/

/-- The operation is the convolution of finite signals; with an empty one, there
is nothing to put out. -/
structure IsConvolution (conv : List R → List R → List R) : Prop where
  nil_left : ∀ bs, conv [] bs = []
  nil_right : ∀ as, conv as [] = []
  length : ∀ {as bs}, as ≠ [] → bs ≠ [] →
    (conv as bs).length + 1 = as.length + bs.length
  ofCoeffs_eq : ∀ as bs, ofCoeffs (conv as bs) = ofCoeffs as * ofCoeffs bs

namespace IsConvolution

variable {conv : List R → List R → List R} (h : IsConvolution conv)

include h

theorem ne_nil {as bs : List R} (has : as ≠ []) (hbs : bs ≠ []) :
    conv as bs ≠ [] := by
  have hlength := h.length has hbs
  have hpos := List.length_pos_iff.mpr has
  have hpos' := List.length_pos_iff.mpr hbs
  apply List.ne_nil_of_length_pos
  omega

theorem comm (as bs : List R) : conv as bs = conv bs as := by
  by_cases has : as = []
  · rw [has, h.nil_left, h.nil_right]
  by_cases hbs : bs = []
  · rw [hbs, h.nil_left, h.nil_right]
  apply eq_of_ofCoeffs_eq
  · have hlength := h.length has hbs
    have hlength' := h.length hbs has
    omega
  · rw [h.ofCoeffs_eq, h.ofCoeffs_eq, mul_comm]

theorem assoc (as bs cs : List R) :
    conv (conv as bs) cs = conv as (conv bs cs) := by
  by_cases has : as = []
  · rw [has, h.nil_left, h.nil_left, h.nil_left]
  by_cases hbs : bs = []
  · rw [hbs, h.nil_right, h.nil_left, h.nil_right]
  by_cases hcs : cs = []
  · rw [hcs, h.nil_right, h.nil_right, h.nil_right]
  apply eq_of_ofCoeffs_eq
  · have hlength := h.length (h.ne_nil has hbs) hcs
    have hlength' := h.length has (h.ne_nil hbs hcs)
    have hfront := h.length has hbs
    have hback := h.length hbs hcs
    omega
  · simp only [h.ofCoeffs_eq, mul_assoc]

/-- A delay can be taken before or after the convolution. -/
theorem delay {as bs : List R} (has : as ≠ []) (hbs : bs ≠ []) (n : ℕ) :
    conv (List.replicate n 0 ++ as) bs = List.replicate n 0 ++ conv as bs := by
  have hdelayed : List.replicate n 0 ++ as ≠ [] :=
    List.append_ne_nil_of_right_ne_nil _ has
  apply eq_of_ofCoeffs_eq
  · have hlength := h.length hdelayed hbs
    have hlength' := h.length has hbs
    rw [List.length_append] at hlength ⊢
    omega
  · rw [h.ofCoeffs_eq, ofCoeffs_delay, ofCoeffs_delay, h.ofCoeffs_eq, mul_assoc]

/-- The unit impulse, with zeros behind it, adds these zeros. -/
theorem impulse {as : List R} (has : as ≠ []) (n : ℕ) :
    conv as (1 :: List.replicate n 0) = as ++ List.replicate n 0 := by
  apply eq_of_ofCoeffs_eq
  · have hlength := h.length has (List.cons_ne_nil 1 (List.replicate n 0))
    rw [List.length_append]
    rw [List.length_cons] at hlength
    omega
  · rw [h.ofCoeffs_eq, ofCoeffs_append_zeros, ofCoeffs_cons, ofCoeffs_replicate_zero,
      mul_zero, add_zero, C_1, mul_one]

end IsConvolution

end Support
