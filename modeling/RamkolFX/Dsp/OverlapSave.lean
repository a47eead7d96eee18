import RamkolFX.Dsp.ConvolverRuns
import RamkolFX.Support.Fourier
import Mathlib.Data.List.GetD

/-!
# Overlap-save

In exact arithmetic `runOneBlock` yields samples of the linear convolution of
the filter with all input so far.  The window is the end of the input behind
zeros, the product of spectra convolves it with the filter circularly, and on
the last block of the window the filter does not wrap around.
-/

namespace RamkolFX

open Support

namespace PartitionedConvolver

/-- A sample of the causal linear convolution of a filter with a stream that
comes after silence. -/
noncomputable def convolve (taps input : List ℝ) (t : ℕ) : ℝ :=
  ∑ s ∈ Finset.range (t + 1), taps.getD s 0 * input.getD (t - s) 0

/-! ## Exact transforms -/

/-- A bin of the real DFT. -/
noncomputable def dftBin (n : ℕ) (samples : List ℝ) (k : ℕ) : KissFftCpx ℝ :=
  ⟨∑ t ∈ Finset.range n,
      samples.getD t 0 * Real.cos (2 * Real.pi * k * t / n),
    -∑ t ∈ Finset.range n,
      samples.getD t 0 * Real.sin (2 * Real.pi * k * t / n)⟩

/-- The real DFT: the other bins are the conjugates of these. -/
noncomputable def realDft (n : ℕ) (samples : List ℝ) : List (KissFftCpx ℝ) :=
  (List.range (n / 2 + 1)).map (dftBin n samples)

/-- A bin of the whole spectrum. -/
def mirroredBin (n : ℕ) (bins : List (KissFftCpx ℝ)) (k : ℕ) : KissFftCpx ℝ :=
  if k ≤ n / 2 then bins.getD k ⟨0, 0⟩
  else ⟨(bins.getD (n - k) ⟨0, 0⟩).r, -(bins.getD (n - k) ⟨0, 0⟩).i⟩

/-- A bin's share of a sample. -/
noncomputable def binShare (n t : ℕ) (bin : KissFftCpx ℝ) (k : ℕ) : ℝ :=
  bin.r * Real.cos (2 * Real.pi * k * t / n) -
    bin.i * Real.sin (2 * Real.pi * k * t / n)

/-- The inverse of the real DFT without its normalisation. -/
noncomputable def inverseRealDft (n : ℕ) (bins : List (KissFftCpx ℝ)) : List ℝ :=
  (List.range n).map fun t =>
    ∑ k ∈ Finset.range n, binShare n t (mirroredBin n bins k) k

/-- KissFFT computes the real DFT of an even number of samples, and its
unnormalised inverse. -/
structure IsExact (fft : RealFft ℝ) : Prop where
  fftr : ∀ n samples, 0 < n → n % 2 = 0 → samples.length = n →
    fft.fftr n samples = realDft n samples
  fftri : ∀ n bins, 0 < n → n % 2 = 0 → bins.length = n / 2 + 1 →
    fft.fftri n bins = inverseRealDft n bins

theorem sum_map_range (f : ℕ → ℝ) (count : ℕ) :
    ((List.range count).map f).sum = ∑ t ∈ Finset.range count, f t := by
  rfl

/-- Indices may be cast before they are used. -/
theorem map_cast_range {T : Type} (f : ℝ → T) (count : ℕ) :
    ((do
      let t ← List.range count
      pure (t : ℝ)) : List ℝ).map f =
      (List.range count).map fun t : ℕ => f t := by
  show ((List.range count).flatMap fun t : ℕ => [(t : ℝ)]).map f = _
  rw [← List.map_eq_flatMap, List.map_map]
  rfl

theorem isExact_exactFft : IsExact exactFft := by
  constructor
  · intro n samples _ _ _
    refine (map_cast_range _ _).trans ?_
    rfl
  · intro n bins _ _ _
    refine (map_cast_range _ _).trans (List.map_congr_left ?_)
    intro t _
    rw [sum_map_range]
    refine Finset.sum_congr rfl ?_
    intro k _
    rw [binShare, mirroredBin]
    split
    · rfl
    · ring

/-! ## Spectra -/

section Spectra

variable {n : ℕ} [NeZero n]

def toCpx (z : ℂ) : KissFftCpx ℝ := ⟨z.re, z.im⟩

theorem complexMul_toCpx (a b : ℂ) :
    complexMul (toCpx a) (toCpx b) = toCpx (a * b) := by
  rw [complexMul, toCpx, toCpx, toCpx, Complex.mul_re, Complex.mul_im]

/-- The bins that a real transform keeps. -/
noncomputable def halfSpectrum (x : ZMod n → ℂ) : List (KissFftCpx ℝ) :=
  (List.range (n / 2 + 1)).map fun k : ℕ => toCpx (ZMod.dft x (k : ZMod n))

theorem length_halfSpectrum (x : ZMod n → ℂ) :
    (halfSpectrum x).length = n / 2 + 1 := by
  rw [halfSpectrum, List.length_map, List.length_range]

theorem getD_halfSpectrum (x : ZMod n → ℂ) {k : ℕ} (hk : k ≤ n / 2)
    (bin : KissFftCpx ℝ) :
    (halfSpectrum x).getD k bin = toCpx (ZMod.dft x (k : ZMod n)) := by
  rw [halfSpectrum, List.getD_eq_getElem _ _ (by simp; omega), List.getElem_map,
    List.getElem_range]

/-- The signal of some samples. -/
noncomputable def signal (samples : List ℝ) : ZMod n → ℂ :=
  periodic fun t => samples.getD t 0

omit [NeZero n] in
theorem signal_real (samples : List ℝ) (t : ZMod n) :
    (starRingEnd ℂ) (signal samples t) = signal samples t :=
  periodic_real _ t

theorem realDft_eq (samples : List ℝ) :
    realDft n samples = halfSpectrum (n := n) (signal samples) := by
  refine List.map_congr_left ?_
  intro k _
  rw [signal, dft_periodic]
  rfl

theorem zipWith_complexMul_halfSpectrum (x y : ZMod n → ℂ) :
    List.zipWith complexMul (halfSpectrum x) (halfSpectrum y) =
      halfSpectrum (circularConv x y) := by
  rw [halfSpectrum, halfSpectrum, halfSpectrum, List.zipWith_map,
    List.zipWith_self]
  refine List.map_congr_left ?_
  intro k _
  rw [complexMul_toCpx, dft_circularConv]

theorem binShare_toCpx (t : ℕ) (z : ℂ) (k : ℕ) :
    binShare n t (toCpx z) k =
      (ZMod.stdAddChar ((k : ZMod n) * (t : ZMod n)) * z).re := by
  rw [mul_comm (k : ZMod n), stdAddChar_natCast_mul, Complex.exp_mul_I, binShare]
  generalize 2 * Real.pi * k * t / n = angle
  simp [toCpx, Complex.cos_ofReal_re, Complex.sin_ofReal_re, mul_comm]

/-- The bins that a real transform keeps give back the ones it drops. -/
theorem mirroredBin_halfSpectrum {x : ZMod n → ℂ}
    (hx : ∀ t, (starRingEnd ℂ) (x t) = x t) {k : ℕ} (hk : k < n) :
    mirroredBin n (halfSpectrum x) k = toCpx (ZMod.dft x (k : ZMod n)) := by
  rw [mirroredBin]
  split
  · rename_i hkept
    exact getD_halfSpectrum x hkept _
  · rename_i hdropped
    have hmirror : n - k ≤ n / 2 := by omega
    have hneg : ((n - k : ℕ) : ZMod n) = -(k : ZMod n) := by
      rw [Nat.cast_sub hk.le, ZMod.natCast_self, zero_sub]
    rw [getD_halfSpectrum x hmirror, hneg, dft_neg_of_real hx]
    simp only [toCpx, Complex.conj_re, Complex.conj_im, neg_neg]

/-- The inverse transform gives a real signal back, scaled by its length. -/
theorem inverseRealDft_halfSpectrum {x : ZMod n → ℂ}
    (hx : ∀ t, (starRingEnd ℂ) (x t) = x t) :
    inverseRealDft n (halfSpectrum x) =
      (List.range n).map fun t : ℕ => n * (x (t : ZMod n)).re := by
  refine List.map_congr_left ?_
  intro t _
  have hbin : ∀ k ∈ Finset.range n,
      binShare n t (mirroredBin n (halfSpectrum x) k) k =
        (ZMod.stdAddChar ((k : ZMod n) * (t : ZMod n)) *
          ZMod.dft x (k : ZMod n)).re := by
    intro k hk
    rw [mirroredBin_halfSpectrum hx (Finset.mem_range.mp hk), binShare_toCpx]
  have hsum := sum_dft_mul_char x (t : ZMod n)
  rw [sum_zmod] at hsum
  rw [Finset.sum_congr rfl hbin, ← Complex.re_sum, hsum, ← Complex.ofReal_natCast,
    Complex.re_ofReal_mul]

/-- Multiplied with the spectrum of a filter and transformed back, a window is
convolved with the filter circularly. -/
theorem fftri_product {fft : RealFft ℝ} (hfft : IsExact fft) (heven : n % 2 = 0)
    {window : List ℝ} (hwindow : window.length = n) (filter : List ℝ) :
    fft.fftri n (List.zipWith complexMul (fft.fftr n window) (realDft n filter)) =
      (List.range n).map fun t : ℕ =>
        n * (circularConv (signal filter) (signal window) (t : ZMod n)).re := by
  have hpos : 0 < n := Nat.pos_of_ne_zero (NeZero.ne n)
  have hreal := circularConv_real (signal_real (n := n) filter)
    (signal_real window)
  rw [hfft.fftr n window hpos heven hwindow, realDft_eq, realDft_eq,
    zipWith_complexMul_halfSpectrum, circularConv_comm,
    hfft.fftri n _ hpos heven (length_halfSpectrum _),
    inverseRealDft_halfSpectrum hreal]

end Spectra

/-! ## One block -/

instance (conv : PartitionedConvolver ℝ) : NeZero conv.fftSize :=
  ⟨(lt_of_lt_of_le (by decide) conv.blockFits).ne'⟩

/-- A block yields the end of the circular convolution of the window with the
filter. -/
theorem pendingOutput_runOneBlock {fft : RealFft ℝ} (hfft : IsExact fft)
    {conv : PartitionedConvolver ℝ} {filter : List ℝ}
    (heven : conv.fftSize % 2 = 0)
    (hfilter : conv.filterFreq = realDft conv.fftSize filter)
    (hwindow : (conv.window.drop blockSamples ++ conv.pendingInput).length =
      conv.fftSize) :
    (runOneBlock fft conv).pendingOutput =
      (List.range blockSamples).map fun i : ℕ =>
        (circularConv (signal (n := conv.fftSize) filter)
          (signal (conv.window.drop blockSamples ++ conv.pendingInput))
          ((conv.fftSize - blockSamples + i : ℕ) : ZMod conv.fftSize)).re := by
  have hfits := conv.blockFits
  have hsize : (conv.fftSize : ℝ) ≠ 0 := Nat.cast_ne_zero.mpr (NeZero.ne _)
  have htime := fftri_product hfft heven hwindow filter
  rw [← hfilter] at htime
  simp only [runOneBlock, htime]
  apply List.ext_getElem
  · simp only [List.length_map, List.length_take, List.length_drop,
      List.length_range]
    omega
  · intro i _ _
    simp only [List.getElem_map, List.getElem_take, List.getElem_drop,
      List.getElem_range]
    rw [mul_comm (conv.fftSize : ℝ), mul_assoc, mul_one_div_cancel hsize, mul_one]

/-! ## All blocks -/

/-- A convolver that has taken in some input since it was loaded. -/
structure Fed (fft : RealFft ℝ) (taps input : List ℝ)
    (conv : PartitionedConvolver ℝ) : Prop where
  fftSize : conv.fftSize = (load fft taps).fftSize
  filterFreq : conv.filterFreq = (load fft taps).filterFreq
  /-- The window is the end of the input, behind silence. -/
  window : conv.window =
    (List.replicate conv.fftSize 0 ++ input).drop input.length

theorem fed_load (fft : RealFft ℝ) (taps : List ℝ) :
    Fed fft taps [] (load fft taps) :=
  ⟨rfl, rfl, by simp [load]⟩

theorem Fed.slid {fft : RealFft ℝ} {taps input : List ℝ}
    {conv : PartitionedConvolver ℝ} (h : Fed fft taps input conv)
    {block : List ℝ} (hblock : block.length = blockSamples) :
    conv.window.drop blockSamples ++ block =
      (List.replicate conv.fftSize 0 ++ (input ++ block)).drop
        (input ++ block).length := by
  have hfits := conv.blockFits
  have hlength : input.length + blockSamples ≤
      (List.replicate conv.fftSize (0 : ℝ) ++ input).length := by
    rw [List.length_append, List.length_replicate]
    omega
  rw [h.window, List.drop_drop, ← List.append_assoc, List.length_append, hblock,
    List.drop_append_of_le_length hlength]

theorem Fed.runOneBlock {fft : RealFft ℝ} {taps input : List ℝ}
    {conv : PartitionedConvolver ℝ} (h : Fed fft taps input conv)
    {block : List ℝ} (hblock : block.length = blockSamples) :
    Fed fft taps (input ++ block)
      (PartitionedConvolver.runOneBlock fft
        { conv with pendingInput := block }) :=
  ⟨h.fftSize, h.filterFreq, h.slid hblock⟩

theorem fed_afterBlocks (fft : RealFft ℝ) (taps : List ℝ) {blocks : List (List ℝ)}
    (hblocks : ∀ block ∈ blocks, block.length = blockSamples) :
    Fed fft taps blocks.flatten (afterBlocks fft (load fft taps) blocks) := by
  induction blocks using List.reverseRecOn with
  | nil => exact fed_load fft taps
  | append_singleton blocks block ih =>
      have hpast := ih fun block hblock =>
        hblocks block (List.mem_append_left _ hblock)
      have hlast : block.length = blockSamples := hblocks block (by simp)
      rw [afterBlocks_append, List.flatten_append, List.flatten_singleton]
      exact hpast.runOneBlock hlast

/-! ## Linear convolution -/

/-- What the filter is transformed from. -/
theorem filterFreq_load {fft : RealFft ℝ} (hfft : IsExact fft) (taps : List ℝ) :
    (load fft taps).filterFreq =
      realDft (load fft taps).fftSize
        (taps ++ List.replicate ((load fft taps).fftSize - taps.length) 0) := by
  have hsize := fft.le_nextFastSizeReal (taps.length + blockSamples - 1)
  have heven := fft.even_nextFastSizeReal (taps.length + blockSamples - 1)
  have hfits : taps.length ≤ (load fft taps).fftSize := by
    show taps.length ≤ fft.nextFastSizeReal (taps.length + blockSamples - 1)
    have hblock : blockSamples = 128 := rfl
    omega
  have hpos : 0 < (load fft taps).fftSize := Nat.pos_of_ne_zero (NeZero.ne _)
  have hpadded : (taps ++
      List.replicate ((load fft taps).fftSize - taps.length) (0 : ℝ)).length =
        (load fft taps).fftSize := by
    rw [List.length_append, List.length_replicate, Nat.add_sub_cancel' hfits]
  rw [← hfft.fftr _ _ hpos heven hpadded]
  show fft.fftr _ (taps.take (load fft taps).fftSize ++ _) = _
  rw [List.take_of_length_le hfits]
  rfl

theorem getD_replicate_zero (count t : ℕ) :
    (List.replicate count (0 : ℝ)).getD t 0 = 0 := by
  rw [List.getD_eq_getElem?_getD, List.getElem?_replicate]
  split <;> rfl

/-- Padding with zeros changes no sample. -/
theorem getD_append_replicate (samples : List ℝ) (count t : ℕ) :
    (samples ++ List.replicate count 0).getD t 0 = samples.getD t 0 := by
  rcases Nat.lt_or_ge t samples.length with h | h
  · rw [List.getD_append _ _ _ _ h]
  · rw [List.getD_append_right _ _ _ _ h, List.getD_eq_default _ _ h,
      getD_replicate_zero]

/-- The window holds the input up to the current sample, counted back from it,
and silence before. -/
theorem getD_window {input : List ℝ} {size t s : ℕ}
    (hsize : input.length + s ≤ size + t) :
    ((List.replicate size 0 ++ input).drop input.length).getD
        (size + t - input.length - s) 0 =
      if s ≤ t then input.getD (t - s) 0 else 0 := by
  have hindex : input.length + (size + t - input.length - s) = size + t - s := by
    omega
  rw [List.getD_eq_getElem?_getD, List.getElem?_drop, hindex,
    ← List.getD_eq_getElem?_getD]
  split
  · rename_i hle
    have hback : size + t - s - size = t - s := by omega
    rw [List.getD_append_right _ _ _ _ (by rw [List.length_replicate]; omega),
      List.length_replicate, hback]
  · rename_i hgt
    rw [List.getD_append _ _ _ _ (by rw [List.length_replicate]; omega),
      getD_replicate_zero]

/-- The taps that reach back behind the first sample meet silence. -/
theorem convolve_eq (taps input : List ℝ) (t : ℕ) :
    convolve taps input t =
      ∑ s ∈ Finset.range taps.length,
        taps.getD s 0 * if s ≤ t then input.getD (t - s) 0 else 0 := by
  simp only [mul_ite, mul_zero]
  rw [convolve, ← Finset.sum_filter]
  symm
  apply Finset.sum_subset
  · intro s hs
    have hle := (Finset.mem_filter.mp hs).2
    exact Finset.mem_range.mpr (Nat.lt_succ_of_le hle)
  · intro s hs hout
    have hle : s ≤ t := Nat.le_of_lt_succ (Finset.mem_range.mp hs)
    have hbehind : taps.length ≤ s := by
      by_contra hlt
      exact hout (Finset.mem_filter.mpr
        ⟨Finset.mem_range.mpr (Nat.lt_of_not_le hlt), hle⟩)
    rw [List.getD_eq_default _ _ hbehind, zero_mul]

/-- The last block of a window that holds the end of the input convolves with
the filter as the whole input does. -/
theorem circularConv_window {n : ℕ} [NeZero n] {taps input : List ℝ} {t : ℕ}
    (htaps : taps ≠ []) (hlast : t < input.length)
    (hfits : taps.length + input.length ≤ n + t + 1) :
    (circularConv (signal (n := n) (taps ++ List.replicate (n - taps.length) 0))
      (signal ((List.replicate n 0 ++ input).drop input.length))
      ((n + t - input.length : ℕ) : ZMod n)).re = convolve taps input t := by
  have hcount : 0 < taps.length := List.length_pos_iff.mpr htaps
  have hzeros : ∀ s, taps.length ≤ s →
      (taps ++ List.replicate (n - taps.length) 0).getD s 0 = 0 := by
    intro s hs
    rw [getD_append_replicate, List.getD_eq_default _ _ hs]
  rw [signal, signal, circularConv_periodic hzeros (by omega) (by omega),
    Complex.ofReal_re, convolve_eq]
  refine Finset.sum_congr rfl ?_
  intro s hs
  have hlt := Finset.mem_range.mp hs
  rw [getD_append_replicate, getD_window (by omega)]

/-- Later input does not reach back. -/
theorem convolve_append (taps : List ℝ) {input : List ℝ} (rest : List ℝ) {t : ℕ}
    (ht : t < input.length) :
    convolve taps (input ++ rest) t = convolve taps input t := by
  refine Finset.sum_congr rfl ?_
  intro s _
  rw [List.getD_append _ _ _ _ (lt_of_le_of_lt (Nat.sub_le t s) ht)]

theorem length_flatten_blocks {blocks : List (List ℝ)}
    (hblocks : ∀ block ∈ blocks, block.length = blockSamples) :
    blocks.flatten.length = blockSamples * blocks.length := by
  rw [List.length_flatten, List.map_congr_left hblocks, List.map_const',
    List.sum_replicate, smul_eq_mul, mul_comm]

/-- What a fed convolver yields for the next block. -/
theorem Fed.pendingOutput {fft : RealFft ℝ} (hfft : IsExact fft)
    {taps input : List ℝ} {conv : PartitionedConvolver ℝ}
    (h : Fed fft taps input conv) (htaps : taps ≠ []) {block : List ℝ}
    (hblock : block.length = blockSamples) :
    (PartitionedConvolver.runOneBlock fft
      { conv with pendingInput := block }).pendingOutput =
      (List.range' input.length blockSamples).map
        (convolve taps (input ++ block)) := by
  have hsize := fft.le_nextFastSizeReal (taps.length + blockSamples - 1)
  have heven : conv.fftSize % 2 = 0 := by
    rw [h.fftSize]
    exact fft.even_nextFastSizeReal _
  have hfits : taps.length + blockSamples - 1 ≤ conv.fftSize := by
    rw [h.fftSize]
    exact hsize
  have hfilter : conv.filterFreq = realDft conv.fftSize
      (taps ++ List.replicate (conv.fftSize - taps.length) 0) := by
    rw [h.filterFreq, filterFreq_load hfft, h.fftSize]
  have hlength : (input ++ block).length = input.length + blockSamples := by
    rw [List.length_append, hblock]
  have hslid := h.slid hblock
  have hwindow : (conv.window.drop blockSamples ++ block).length =
      conv.fftSize := by
    rw [hslid, List.length_drop, List.length_append, List.length_replicate,
      Nat.add_sub_cancel]
  have hcovers := conv.blockFits
  let filled : PartitionedConvolver ℝ := { conv with pendingInput := block }
  have hblockOutput : (PartitionedConvolver.runOneBlock fft filled).pendingOutput =
      _ := pendingOutput_runOneBlock hfft heven hfilter hwindow
  rw [hblockOutput, List.range'_eq_map_range, List.map_map]
  refine List.map_congr_left ?_
  intro i hi
  have hlt := List.mem_range.mp hi
  have hindex : conv.fftSize - blockSamples + i =
      conv.fftSize + (input.length + i) - (input ++ block).length := by
    omega
  show (circularConv _ (signal (conv.window.drop blockSamples ++ block)) _).re = _
  rw [hslid, hindex]
  have hlast : input.length + i < (input ++ block).length := by omega
  have hroom : taps.length + (input ++ block).length ≤
      conv.fftSize + (input.length + i) + 1 := by omega
  exact circularConv_window htaps hlast hroom

/-- With exact transforms, the block behind any sequence of complete blocks
yields the next samples of the causal linear convolution of the taps with the
whole input, whatever their number. -/
theorem pendingOutput_eq_convolve {fft : RealFft ℝ} (hfft : IsExact fft)
    {taps : List ℝ} (htaps : taps ≠ []) {blocks : List (List ℝ)}
    (hblocks : ∀ block ∈ blocks, block.length = blockSamples) {m : ℕ}
    (hm : m < blocks.length) :
    (afterBlocks fft (load fft taps) (blocks.take (m + 1))).pendingOutput =
      (List.range' (blockSamples * m) blockSamples).map
        (convolve taps blocks.flatten) := by
  have hpast : ∀ block ∈ blocks.take m, block.length = blockSamples :=
    fun block hblock => hblocks block (List.mem_of_mem_take hblock)
  have hblock : blocks[m].length = blockSamples :=
    hblocks blocks[m] (List.getElem_mem hm)
  have hsplit : blocks.flatten = ((blocks.take m).flatten ++ blocks[m]) ++
      (blocks.drop (m + 1)).flatten := by
    conv_lhs => rw [← List.take_append_drop (m + 1) blocks]
    rw [List.flatten_append, List.take_succ_eq_append_getElem hm,
      List.flatten_append, List.flatten_singleton]
  have hlength : (blocks.take m).flatten.length = blockSamples * m := by
    rw [length_flatten_blocks hpast, List.length_take_of_le hm.le]
  rw [List.take_succ_eq_append_getElem hm, afterBlocks_append]
  show (runOneBlock fft _).pendingOutput = _
  rw [(fed_afterBlocks fft taps hpast).pendingOutput hfft htaps hblock, hlength]
  refine List.map_congr_left ?_
  intro t ht
  obtain ⟨-, hlt⟩ := List.mem_range'_1.mp ht
  have hreached : t < ((blocks.take m).flatten ++ blocks[m]).length := by
    rwa [List.length_append, hlength, hblock]
  rw [hsplit, convolve_append taps _ hreached]

/-- A filter that delays by one sample, fed one block. -/
theorem pendingOutput_eq_convolve_delay :
    (afterBlocks exactFft (load exactFft [0, 1])
        [List.replicate blockSamples 1]).pendingOutput =
      (List.range' 0 blockSamples).map
        (convolve [0, 1] [List.replicate blockSamples 1].flatten) := by
  have htaps : ([0, 1] : List ℝ) ≠ [] := List.cons_ne_nil _ _
  have hblocks : ∀ block ∈ [List.replicate blockSamples (1 : ℝ)],
      block.length = blockSamples := by
    simp
  exact pendingOutput_eq_convolve isExact_exactFft htaps hblocks Nat.one_pos

end PartitionedConvolver

end RamkolFX
