import Mathlib.Logic.Function.Basic
import Mathlib.Data.List.FinRange

/-!
# Loops that write an array

A loop that writes one entry per round leaves the values of the rounds, and
the old ones where no round wrote.
-/

namespace Support

variable {ι κ β γ : Type*} [DecidableEq ι] [DecidableEq κ]

/-- `entries` reads an array out of the loop's state, and each round writes
its value at its index. -/
theorem foldl_update {step : β → ι → β} (entries : β → ι → γ) {value : ι → γ}
    (hstep : ∀ b i, entries (step b i) = Function.update (entries b) i (value i))
    (indices : List ι) (b : β) (j : ι) :
    entries (indices.foldl step b) j =
      if j ∈ indices then value j else entries b j := by
  induction indices generalizing b with
  | nil => simp
  | cons i indices ih =>
      rw [List.foldl_cons, ih, hstep]
      by_cases hrest : j ∈ indices
      · simp [hrest]
      · by_cases heq : j = i <;> simp [hrest, heq]

/-- A loop over every index leaves nothing of the old array. -/
theorem foldl_update_finRange {n : ℕ} {step : β → Fin n → β}
    (entries : β → Fin n → γ) {value : Fin n → γ}
    (hstep : ∀ b i, entries (step b i) = Function.update (entries b) i (value i))
    (b : β) : entries ((List.finRange n).foldl step b) = value := by
  funext j
  rw [foldl_update entries hstep, if_pos (List.mem_finRange j)]

/-- A loop that rewrites one entry per round, each from its own old value,
rewrites the entries of the rounds. -/
theorem foldl_update_self {place : ι → κ} (hplace : Function.Injective place)
    (f : ι → γ → γ) {indices : List ι} (hnodup : indices.Nodup)
    (entries : κ → γ) (j : ι) :
    indices.foldl (fun entries i => Function.update entries (place i)
        (f i (entries (place i)))) entries (place j) =
      if j ∈ indices then f j (entries (place j)) else entries (place j) := by
  induction indices generalizing entries with
  | nil => simp
  | cons i indices ih =>
      obtain ⟨hi, hrest⟩ := List.nodup_cons.mp hnodup
      rw [List.foldl_cons, ih hrest]
      by_cases heq : j = i
      · subst heq
        simp [hi]
      · have hplaces : place j ≠ place i := fun h => heq (hplace h)
        simp [heq, hplaces]

omit [DecidableEq ι] in
/-- Such a loop leaves the other entries alone. -/
theorem foldl_update_of_ne {place : ι → κ} (f : ι → γ → γ) {k : κ}
    (hk : ∀ i, place i ≠ k) (indices : List ι) (entries : κ → γ) :
    indices.foldl (fun entries i => Function.update entries (place i)
        (f i (entries (place i)))) entries k = entries k := by
  induction indices generalizing entries with
  | nil => rfl
  | cons i indices ih =>
      rw [List.foldl_cons, ih, Function.update_of_ne (hk i).symm]

/-- An entry of an updated array is the new one or an old one. -/
theorem eq_or_of_update {entries : ι → γ} {i j : ι} {value entry : γ}
    (h : Function.update entries i value j = entry) :
    j = i ∧ value = entry ∨ j ≠ i ∧ entries j = entry := by
  by_cases hj : j = i
  · rw [hj, Function.update_self] at h
    exact Or.inl ⟨hj, h⟩
  · rw [Function.update_of_ne hj] at h
    exact Or.inr ⟨hj, h⟩

end Support
