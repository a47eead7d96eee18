import Mathlib.Algebra.BigOperators.Finsupp.Basic
import Mathlib.Algebra.Order.Field.Basic
import Mathlib.Data.Finsupp.Single
import Mathlib.Data.List.Chain
import Mathlib.Tactic.Linarith

/-!
# Linear crossfades

A crossfade takes the weight from one source to another in equal steps.  Its
weights are never negative and add up to one, a step moves each of them by at
most the size of a step, and a fade that begins where the last one has ended
moves none.
-/

namespace Support

/-- Which source comes in, which one goes out, and in how many steps the second
has none of the weight left. -/
structure Crossfade (ι : Type*) where
  incoming : ι
  outgoing : ι
  remaining : ℕ

namespace Crossfade

variable {ι K : Type*}

/-- The next step. -/
def tick (fade : Crossfade ι) : Crossfade ι :=
  { fade with remaining := fade.remaining - 1 }

/-- Some steps on. -/
def after (fade : Crossfade ι) (steps : ℕ) : Crossfade ι :=
  { fade with remaining := fade.remaining - steps }

/-- A fade to a new source over some steps. -/
def start (fade : Crossfade ι) (source : ι) (steps : ℕ) : Crossfade ι :=
  ⟨source, fade.incoming, steps⟩

theorem after_succ (fade : Crossfade ι) (steps : ℕ) :
    fade.after (steps + 1) = (fade.after steps).tick := rfl

variable [Field K]

/-- The share of the outgoing source in a fade over `length` steps. -/
def share (K : Type*) [Field K] (length : ℕ) (fade : Crossfade ι) : K :=
  (fade.remaining : K) / (length : K)

/-- The weights of the sources. -/
noncomputable def weight (K : Type*) [Field K] (length : ℕ)
    (fade : Crossfade ι) : ι →₀ K :=
  Finsupp.single fade.outgoing (fade.share K length) +
    Finsupp.single fade.incoming (1 - fade.share K length)

/-- A sum over the sources has two summands. -/
theorem sum_weight {fade : Crossfade ι} {length : ℕ} (f : ι → K) :
    ((fade.weight K length).sum fun source w => w * f source) =
      fade.share K length * f fade.outgoing +
        (1 - fade.share K length) * f fade.incoming := by
  rw [weight, Finsupp.sum_add_index' (fun source => zero_mul (f source))
    (fun source w w' => add_mul w w' (f source)),
    Finsupp.sum_single_index (zero_mul _), Finsupp.sum_single_index (zero_mul _)]

theorem sum_weight_one (fade : Crossfade ι) (length : ℕ) :
    ((fade.weight K length).sum fun _ w => w) = 1 := by
  have hsum : ((fade.weight K length).sum fun _ w => w * 1) =
      fade.share K length * 1 + (1 - fade.share K length) * 1 :=
    sum_weight fun _ => 1
  simp only [mul_one] at hsum
  rw [hsum, add_sub_cancel]

/-- Only the two sources have weight. -/
theorem eq_of_mem_support {fade : Crossfade ι} {length : ℕ} {source : ι}
    (h : source ∈ (fade.weight K length).support) :
    source = fade.incoming ∨ source = fade.outgoing ∧ fade.remaining ≠ 0 := by
  classical
  by_contra hneither
  obtain ⟨hincoming, houtgoing⟩ := not_or.mp hneither
  apply Finsupp.mem_support_iff.mp h
  rw [weight, Finsupp.add_apply, Finsupp.single_eq_of_ne hincoming, add_zero]
  by_cases hsource : source = fade.outgoing
  · have hzero : fade.remaining = 0 := by
      by_contra hne
      exact houtgoing ⟨hsource, hne⟩
    rw [hsource, Finsupp.single_eq_same, share, hzero, Nat.cast_zero, zero_div]
  · exact Finsupp.single_eq_of_ne hsource

theorem weight_of_over {fade : Crossfade ι} (hover : fade.remaining = 0)
    (length : ℕ) : fade.weight K length = Finsupp.single fade.incoming 1 := by
  rw [weight, share, hover, Nat.cast_zero, zero_div, sub_zero, Finsupp.single_zero,
    zero_add]

/-- The next fade begins where one that is over has ended. -/
theorem weight_start {fade : Crossfade ι} (hover : fade.remaining = 0)
    {length : ℕ} (hlength : (length : K) ≠ 0) (source : ι) :
    (fade.start source length).weight K length = fade.weight K length := by
  rw [weight_of_over hover, weight, share, start, div_self hlength, sub_self,
    Finsupp.single_zero, add_zero]

variable [LinearOrder K] [IsStrictOrderedRing K]

section

variable {fade : Crossfade ι} {length : ℕ}

theorem share_nonneg : 0 ≤ fade.share K length :=
  div_nonneg (Nat.cast_nonneg _) (Nat.cast_nonneg _)

theorem share_le_one (h : fade.remaining ≤ length) : fade.share K length ≤ 1 :=
  div_le_one_of_le₀ (Nat.cast_le.mpr h) (Nat.cast_nonneg _)

theorem weight_nonneg (h : fade.remaining ≤ length) (source : ι) :
    0 ≤ fade.weight K length source := by
  classical
  rw [weight, Finsupp.add_apply, Finsupp.single_apply, Finsupp.single_apply]
  have hshare : 0 ≤ fade.share K length := share_nonneg
  have hrest := sub_nonneg.mpr (share_le_one (K := K) h)
  apply add_nonneg
  · split
    · exact hshare
    · exact le_rfl
  · split
    · exact hrest
    · exact le_rfl

theorem weight_le_one (h : fade.remaining ≤ length) (source : ι) :
    fade.weight K length source ≤ 1 := by
  classical
  rw [weight, Finsupp.add_apply, Finsupp.single_apply, Finsupp.single_apply]
  have hshare : 0 ≤ fade.share K length := share_nonneg
  have hle := share_le_one (K := K) h
  split <;> split <;> linarith

/-- A step moves at most one step's weight. -/
theorem abs_weight_tick_sub_le (source : ι) :
    |fade.tick.weight K length source - fade.weight K length source| ≤
      1 / (length : K) := by
  classical
  have hstep : 0 ≤ fade.share K length - fade.tick.share K length ∧
      fade.share K length - fade.tick.share K length ≤ 1 / (length : K) := by
    rw [share, share, tick, ← sub_div]
    cases hremaining : fade.remaining with
    | zero => simp
    | succ remaining =>
        simp only [Nat.add_sub_cancel, Nat.cast_succ, add_sub_cancel_left]
        exact ⟨div_nonneg zero_le_one (Nat.cast_nonneg _), le_rfl⟩
  have htick : fade.tick.incoming = fade.incoming ∧
      fade.tick.outgoing = fade.outgoing := ⟨rfl, rfl⟩
  rw [weight, weight, htick.1, htick.2]
  simp only [Finsupp.add_apply, Finsupp.single_apply]
  rw [abs_le]
  split <;> split <;> constructor <;> linarith [hstep.1, hstep.2]

end

/-! ## Sequences of weights -/

/-- From one step to the next, no weight moves by more than a step's. -/
def Continuous (length : ℕ) (weights : List (ι →₀ K)) : Prop :=
  weights.IsChain fun w w' => ∀ source, |w' source - w source| ≤ 1 / (length : K)

/-- A fade goes on from the last weights. -/
def GoesOn (length : ℕ) (weights : List (ι →₀ K)) (fade : Crossfade ι) : Prop :=
  ∀ last ∈ weights.getLast?, ∀ source,
    |fade.weight K length source - last source| ≤ 1 / (length : K)

/-- The weights of the next steps. -/
noncomputable def nextWeights (K : Type*) [Field K] (length : ℕ)
    (fade : Crossfade ι) (steps : ℕ) : List (ι →₀ K) :=
  (List.range steps).map fun i => (fade.after i).weight K length

omit [LinearOrder K] [IsStrictOrderedRing K] in
theorem nextWeights_succ (fade : Crossfade ι) (length steps : ℕ) :
    fade.nextWeights K length (steps + 1) =
      fade.nextWeights K length steps ++ [(fade.after steps).weight K length] := by
  rw [nextWeights, List.range_succ, List.map_append]
  rfl

/-- Continuous weights stay so over the steps of a fade that goes on from
them, and the fade goes on from there. -/
theorem Continuous.append_nextWeights {length : ℕ} {weights : List (ι →₀ K)}
    (h : Continuous length weights) {fade : Crossfade ι}
    (hgoesOn : GoesOn length weights fade) (steps : ℕ) :
    Continuous length (weights ++ fade.nextWeights K length steps) ∧
      GoesOn length (weights ++ fade.nextWeights K length steps)
        (fade.after steps) := by
  induction steps with
  | zero =>
      rw [nextWeights, List.range_zero, List.map_nil, List.append_nil]
      exact ⟨h, hgoesOn⟩
  | succ steps ih =>
      obtain ⟨hchain, hnext⟩ := ih
      rw [nextWeights_succ, ← List.append_assoc, after_succ]
      refine ⟨?_, ?_⟩
      · rw [Continuous, List.isChain_append]
        refine ⟨hchain, List.isChain_singleton _, ?_⟩
        intro last hlast next hhead source
        obtain rfl := Option.some.inj hhead
        exact hnext last hlast source
      · intro last hlast source
        rw [List.getLast?_concat] at hlast
        obtain rfl := Option.some.inj hlast
        exact abs_weight_tick_sub_le source

end Crossfade

end Support
