import Mathlib.Order.Defs.Unbundled
import Mathlib.Order.Lattice
import Mathlib.Order.MinMax

/-!
# Clamping with a partial comparison

`std::clamp` and `std::max` as the standard library writes them, over any type
with a decidable `<`.  Nothing is assumed of the comparison but what a lemma
asks for, so the functions also say what becomes of a value that compares
false with everything.
-/

namespace Support

variable {α : Type*} [LT α] [DecidableLT α]

/-- `std::clamp` -/
def stdClamp (v lo hi : α) : α :=
  if v < lo then lo else if hi < v then hi else v

/-- `std::max` -/
def stdMax (a b : α) : α :=
  if a < b then b else a

/-- Clamping to a nonempty range is idempotent. -/
theorem stdClamp_stdClamp [Std.Irrefl (α := α) (· < ·)]
    {lo hi : α} (h : ¬ hi < lo) (v : α) :
    stdClamp (stdClamp v lo hi) lo hi = stdClamp v lo hi := by
  by_cases hlo : v < lo
  · have hv : stdClamp v lo hi = lo := if_pos hlo
    rw [hv, stdClamp, if_neg (irrefl lo), if_neg h]
  · by_cases hhi : hi < v
    · have hv : stdClamp v lo hi = hi := by
        rw [stdClamp, if_neg hlo, if_pos hhi]
      rw [hv, stdClamp, if_neg h, if_neg (irrefl hi)]
    · have hv : stdClamp v lo hi = v := by
        rw [stdClamp, if_neg hlo, if_neg hhi]
      rw [hv, hv]

/-! ## Total orders -/

section LinearOrder

variable {β : Type*} [LinearOrder β]

theorem stdMax_eq_max (a b : β) : stdMax a b = max a b := by
  rw [stdMax]
  split
  · rename_i h
    exact (max_eq_right h.le).symm
  · rename_i h
    exact (max_eq_left (not_lt.mp h)).symm

/-- A clamped value lies in the range. -/
theorem stdClamp_mem {lo hi : β} (h : lo ≤ hi) (v : β) :
    lo ≤ stdClamp v lo hi ∧ stdClamp v lo hi ≤ hi := by
  rw [stdClamp]
  split
  · exact ⟨le_refl lo, h⟩
  · rename_i hlo
    split
    · exact ⟨h, le_refl hi⟩
    · rename_i hhi
      exact ⟨not_lt.mp hlo, not_lt.mp hhi⟩

theorem stdClamp_of_mem {v lo hi : β} (hlo : lo ≤ v) (hhi : v ≤ hi) :
    stdClamp v lo hi = v := by
  rw [stdClamp, if_neg hlo.not_gt, if_neg hhi.not_gt]

/-- Clamping to a nonempty range keeps the order. -/
theorem stdClamp_le_stdClamp {v w lo hi : β} (h : lo ≤ hi) (hvw : v ≤ w) :
    stdClamp v lo hi ≤ stdClamp w lo hi := by
  by_cases hlo : v < lo
  · rw [stdClamp, if_pos hlo]
    exact (stdClamp_mem h w).1
  by_cases hhi : hi < w
  · have hw : stdClamp w lo hi = hi := by
      rw [stdClamp, if_neg (h.trans hhi.le).not_gt, if_pos hhi]
    rw [hw]
    exact (stdClamp_mem h v).2
  · have hlo := not_lt.mp hlo
    have hhi := not_lt.mp hhi
    rw [stdClamp_of_mem hlo (hvw.trans hhi), stdClamp_of_mem (hlo.trans hvw) hhi]
    exact hvw

end LinearOrder

end Support
