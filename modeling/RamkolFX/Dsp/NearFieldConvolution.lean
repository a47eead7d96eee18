import RamkolFX.Dsp.HrtfFilter
import RamkolFX.Dsp.OverlapSave
import RamkolFX.Support.Convolution

/-!
# The near-field correction as a cascade

In exact arithmetic the double loop of `Convolve` is the convolution of its two
tap vectors, so a filter with the correction convolved onto it filters as the
two do one after the other, and arrives when the filter alone does.
-/

namespace RamkolFX

open Support

namespace NearField

/-! ## The double loop -/

theorem length_addRow (a : ℝ) (row out : List ℝ) :
    (addRow a row out).length = out.length := by
  induction row generalizing out with
  | nil => simp [addRow]
  | cons tap row ih =>
      cases out with
      | nil => simp [addRow]
      | cons slot out => simp [addRow, ih]

theorem ofCoeffs_addRow (a : ℝ) {row out : List ℝ}
    (h : row.length ≤ out.length) :
    ofCoeffs (addRow a row out) = ofCoeffs out + Polynomial.C a * ofCoeffs row := by
  induction row generalizing out with
  | nil => simp [addRow, ofCoeffs]
  | cons tap row ih =>
      cases out with
      | nil => exact absurd h (Nat.not_succ_le_zero _)
      | cons slot out =>
          rw [addRow, ofCoeffs_cons, ih (Nat.le_of_succ_le_succ h), ofCoeffs_cons,
            ofCoeffs_cons]
          show Polynomial.C (slot + a * tap) + _ = _
          rw [Polynomial.C_add, Polynomial.C_mul]
          ring

/-- What the rows of a filter are added to; the last one still fits. -/
theorem convolveInto_spec {as bs out : List ℝ} (hbs : bs ≠ [])
    (h : as.length + bs.length ≤ out.length + 1) :
    (convolveInto as bs out).length = out.length ∧
      ofCoeffs (convolveInto as bs out) =
        ofCoeffs out + ofCoeffs as * ofCoeffs bs := by
  induction as generalizing out with
  | nil => simp [convolveInto, ofCoeffs]
  | cons a as ih =>
      rw [List.length_cons] at h
      have hrow : bs.length ≤ out.length := by omega
      have hlength := length_addRow a bs out
      have hcoeffs := ofCoeffs_addRow a hrow
      rw [convolveInto]
      cases hadded : addRow a bs out with
      | nil =>
          have hpos := List.length_pos_iff.mpr hbs
          rw [hadded, List.length_nil] at hlength
          omega
      | cons slot rest =>
          rw [hadded, List.length_cons] at hlength
          rw [hadded, ofCoeffs_cons] at hcoeffs
          have hfits : as.length + bs.length ≤ rest.length + 1 := by omega
          obtain ⟨hlengthRest, hrest⟩ := ih hfits
          constructor
          · rw [List.length_cons, hlengthRest, hlength]
          · rw [ofCoeffs_cons, hrest, ofCoeffs_cons]
            linear_combination hcoeffs

theorem convolve_spec {as bs : List ℝ} (has : as ≠ []) (hbs : bs ≠ []) :
    (convolve as bs).length + 1 = as.length + bs.length ∧
      ofCoeffs (convolve as bs) = ofCoeffs as * ofCoeffs bs := by
  have hpos := List.length_pos_iff.mpr has
  have hfill : as.length + bs.length ≤
      (List.replicate (as.length + bs.length - 1) (0 : ℝ)).length + 1 := by
    rw [List.length_replicate]
    omega
  obtain ⟨hlength, hcoeffs⟩ := convolveInto_spec hbs hfill
  rw [convolve, if_neg (by simp [has, hbs])]
  constructor
  · rw [hlength, List.length_replicate]
    omega
  · rw [hcoeffs, ofCoeffs_replicate_zero, zero_add]

theorem isConvolution_convolve : IsConvolution (convolve (α := ℝ)) where
  nil_left := fun _ => rfl
  nil_right := by
    intro as
    rw [convolve, if_pos (by simp)]
  length := fun has hbs => (convolve_spec has hbs).1
  ofCoeffs_eq := by
    intro as bs
    by_cases has : as = []
    · rw [has, ofCoeffs, zero_mul]
      rfl
    by_cases hbs : bs = []
    · rw [hbs, convolve, if_pos (by simp), ofCoeffs, mul_zero]
    · exact (convolve_spec has hbs).2

/-! ## Filters in sequence -/

/-- A sample of a filtered stream, as a coefficient. -/
theorem convolve_eq_coeff (taps input : List ℝ) (t : ℕ) :
    PartitionedConvolver.convolve taps input t =
      (ofCoeffs taps * ofCoeffs input).coeff t := by
  rw [PartitionedConvolver.convolve, Polynomial.coeff_mul,
    Finset.Nat.sum_antidiagonal_eq_sum_range_succ_mk]
  refine Finset.sum_congr rfl ?_
  intro s _
  rw [coeff_ofCoeffs, coeff_ofCoeffs]

/-- The stream that a filter puts out for one. -/
noncomputable def filtered (taps input : List ℝ) : List ℝ :=
  (List.range input.length).map (PartitionedConvolver.convolve taps input)

/-- One filter behind the other is the filter of their convolution. -/
theorem convolve_filtered (taps correction input : List ℝ) {t : ℕ}
    (ht : t < input.length) :
    PartitionedConvolver.convolve correction (filtered taps input) t =
      PartitionedConvolver.convolve (convolve taps correction) input t := by
  have hsample (i : ℕ) (hi : i ≤ t) : (filtered taps input).getD i 0 =
      (ofCoeffs taps * ofCoeffs input).coeff i := by
    have hlt : i < (filtered taps input).length := by
      rw [filtered, List.length_map, List.length_range]
      omega
    rw [List.getD_eq_getElem _ _ hlt]
    simp only [filtered, List.getElem_map, List.getElem_range]
    exact convolve_eq_coeff taps input i
  calc PartitionedConvolver.convolve correction (filtered taps input) t
      = ∑ s ∈ Finset.range (t + 1), correction.getD s 0 *
          (ofCoeffs taps * ofCoeffs input).coeff (t - s) := by
        refine Finset.sum_congr rfl ?_
        intro s _
        rw [hsample (t - s) (Nat.sub_le t s)]
    _ = (ofCoeffs correction * (ofCoeffs taps * ofCoeffs input)).coeff t := by
        rw [Polynomial.coeff_mul, Finset.Nat.sum_antidiagonal_eq_sum_range_succ_mk]
        refine Finset.sum_congr rfl ?_
        intro s _
        rw [coeff_ofCoeffs]
    _ = (ofCoeffs (convolve taps correction) * ofCoeffs input).coeff t := by
        rw [isConvolution_convolve.ofCoeffs_eq]
        congr 1
        ring
    _ = PartitionedConvolver.convolve (convolve taps correction) input t :=
        (convolve_eq_coeff _ _ t).symm

/-- The delay of a response and the correction do not depend on the order. -/
theorem buildDelayedHrtfFilter_convolve {taps correction : List ℝ}
    (htaps : taps ≠ []) (hcorrection : correction ≠ []) (delaySamples : ℝ) :
    buildDelayedHrtfFilter (convolve taps correction) delaySamples =
      convolve (buildDelayedHrtfFilter taps delaySamples) correction :=
  (isConvolution_convolve.delay htaps hcorrection _).symm

end NearField

/-! ## The corrected filter -/

open NearField

/-- The cascade has the delays of the far-field filter, and each ear's delayed
response is the far-field one followed by the correction. -/
structure HrtfFilter.IsCascade (farField correction cascade : HrtfFilter ℝ) :
    Prop where
  delayLeftSamples : cascade.delayLeftSamples = farField.delayLeftSamples
  delayRightSamples : cascade.delayRightSamples = farField.delayRightSamples
  left : farField.left ≠ [] →
    buildDelayedHrtfFilter cascade.left cascade.delayLeftSamples =
      convolve (buildDelayedHrtfFilter farField.left farField.delayLeftSamples)
        correction.left
  right : farField.right ≠ [] →
    buildDelayedHrtfFilter cascade.right cascade.delayRightSamples =
      convolve (buildDelayedHrtfFilter farField.right farField.delayRightSamples)
        correction.right

namespace NearField

theorem length_lowpassTaps (pole : ℝ) (n : ℕ) (polePower : ℝ) :
    (lowpassTaps pole n polePower).length = n := by
  induction n generalizing polePower with
  | zero => rfl
  | succ n ih => rw [lowpassTaps, List.length_cons, ih]

theorem length_addUnitImpulse (taps : List ℝ) :
    (addUnitImpulse taps).length = taps.length := by
  cases taps with
  | nil => rfl
  | cons tap taps => rfl

theorem length_buildBoostShelf (gain sampleRate : ℝ) :
    (buildBoostShelf gain sampleRate).length = tapCount := by
  rw [buildBoostShelf, length_addUnitImpulse, List.length_map,
    buildUnityGainLowpassIR, length_lowpassTaps]

theorem buildBoostShelf_ne_nil (gain sampleRate : ℝ) :
    buildBoostShelf gain sampleRate ≠ [] := by
  apply List.ne_nil_of_length_pos
  rw [length_buildBoostShelf]
  decide

/-- Each ear gets a shelf of some gain, and neither a delay. -/
theorem exists_shelves (azimuthDegrees distanceMeters sampleRate : ℝ) :
    ∃ leftGain rightGain,
      computeNearFieldCorrection azimuthDegrees distanceMeters sampleRate =
        ⟨buildBoostShelf leftGain sampleRate,
          buildBoostShelf rightGain sampleRate, 0, 0⟩ := by
  rw [computeNearFieldCorrection]
  split
  · exact ⟨_, _, rfl⟩
  · split
    · exact ⟨_, _, rfl⟩
    · exact ⟨_, _, rfl⟩

end NearField

theorem isCascade_applyNearFieldCorrection (farField : HrtfFilter ℝ)
    (azimuthDegrees distanceMeters sampleRate : ℝ) :
    farField.IsCascade
      (computeNearFieldCorrection azimuthDegrees distanceMeters sampleRate)
      (applyNearFieldCorrection farField azimuthDegrees distanceMeters sampleRate) := by
  obtain ⟨leftGain, rightGain, hcorrection⟩ :=
    exists_shelves azimuthDegrees distanceMeters sampleRate
  constructor
  case delayLeftSamples => rfl
  case delayRightSamples => rfl
  case left =>
    intro hleft
    rw [applyNearFieldCorrection, hcorrection]
    exact buildDelayedHrtfFilter_convolve hleft (buildBoostShelf_ne_nil _ _) _
  case right =>
    intro hright
    rw [applyNearFieldCorrection, hcorrection]
    exact buildDelayedHrtfFilter_convolve hright (buildBoostShelf_ne_nil _ _) _

/-- The laws of `Convolve`, and with them what the correction does to a filter:
cascaded onto it, it filters behind it, and the sound arrives when it did. -/
theorem convolve_cascades :
    (∀ taps : List ℝ, convolve taps [] = [] ∧ convolve [] taps = []) ∧
      (∀ as bs : List ℝ, convolve as bs = convolve bs as) ∧
      (∀ as bs cs : List ℝ,
        convolve (convolve as bs) cs = convolve as (convolve bs cs)) ∧
      (∀ (taps correction : List ℝ) (delaySamples : ℝ), taps ≠ [] →
        correction ≠ [] →
        buildDelayedHrtfFilter (convolve taps correction) delaySamples =
          convolve (buildDelayedHrtfFilter taps delaySamples) correction) ∧
      (∀ (taps correction input : List ℝ) (t : ℕ), t < input.length →
        PartitionedConvolver.convolve correction (filtered taps input) t =
          PartitionedConvolver.convolve (convolve taps correction) input t) ∧
      ∀ (farField : HrtfFilter ℝ) (azimuthDegrees distanceMeters sampleRate : ℝ),
        farField.IsCascade
          (computeNearFieldCorrection azimuthDegrees distanceMeters sampleRate)
          (applyNearFieldCorrection farField azimuthDegrees distanceMeters
            sampleRate) := by
  have hconv := isConvolution_convolve
  refine ⟨?_, hconv.comm, hconv.assoc, ?_, ?_, isCascade_applyNearFieldCorrection⟩
  · intro taps
    exact ⟨hconv.nil_right taps, hconv.nil_left taps⟩
  · intro taps correction delaySamples htaps hcorrection
    exact buildDelayedHrtfFilter_convolve htaps hcorrection delaySamples
  · intro taps correction input t ht
    exact convolve_filtered taps correction input ht

/-- A filter of two taps, corrected by another and delayed by a sample. -/
theorem convolve_cascades_pair :
    buildDelayedHrtfFilter (convolve [1, 2] [3, 4]) (1 : ℝ) =
        convolve (buildDelayedHrtfFilter [1, 2] 1) [3, 4] ∧
      PartitionedConvolver.convolve [3, 4] (filtered [1, 2] [1, 0]) 1 =
        PartitionedConvolver.convolve (convolve [1, 2] [3, 4]) [1, 0] 1 := by
  obtain ⟨-, -, -, hdelay, hsequence, -⟩ := convolve_cascades
  exact ⟨hdelay [1, 2] [3, 4] 1 (List.cons_ne_nil _ _) (List.cons_ne_nil _ _),
    hsequence [1, 2] [3, 4] [1, 0] 1 (by decide)⟩

end RamkolFX
