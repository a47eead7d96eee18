import RamkolFX.Support.Framing

/-!
# Partitioned convolver

A single-partition overlap-save convolver.  `processAccumulate` queues input
until a block of `blockSamples` is complete, transforms it, and adds queued
output into the caller's buffer.

The sample type is a parameter with the arithmetic the code uses, and the real
FFT is KissFFT, which is not part of the repository: it is a parameter with
the sizes its documentation promises.
-/

namespace RamkolFX

open Support

/-- `kiss_fft_cpx` -/
structure KissFftCpx (α : Type) where
  r : α
  i : α
  deriving DecidableEq, Repr

/-- KissFFT's real transforms for a given size. -/
structure RealFft (α : Type) where
  /-- `kiss_fftr_next_fast_size_real` -/
  nextFastSizeReal : ℕ → ℕ
  /-- `kiss_fftr` -/
  fftr : ℕ → List α → List (KissFftCpx α)
  /-- `kiss_fftri` -/
  fftri : ℕ → List (KissFftCpx α) → List α
  /-- A fast size is not smaller than the size asked for. -/
  le_nextFastSizeReal : ∀ n, n ≤ nextFastSizeReal n
  /-- A fast size of a real transform is even. -/
  even_nextFastSizeReal : ∀ n, nextFastSizeReal n % 2 = 0
  /-- The inverse transform fills its whole output buffer. -/
  length_fftri : ∀ n bins, (fftri n bins).length = n

/-- New input samples consumed per internal FFT block. -/
abbrev blockSamples : ℕ := 128

/-- A loaded convolver.  `pendingInput` is the first `PendingInputCount`
samples of the input buffer, `pendingOutput` the `PendingOutputCount` samples
from `PendingOutputStart` on: the rest of both buffers is never read. -/
structure PartitionedConvolver (α : Type) where
  fftSize : ℕ
  filterFreq : List (KissFftCpx α)
  window : List α
  pendingInput : List α
  pendingOutput : List α
  /-- The transform covers at least one block. -/
  blockFits : blockSamples ≤ fftSize

namespace PartitionedConvolver

variable {α : Type} [One α] [Add α] [Sub α] [Mul α] [Div α] [NatCast α]

def complexMul (a b : KissFftCpx α) : KissFftCpx α :=
  ⟨a.r * b.r - a.i * b.i, a.r * b.i + a.i * b.r⟩

/-- Size the FFT from the filter length and transform the zero-padded
filter. -/
def load [Zero α] (fft : RealFft α) (taps : List α) : PartitionedConvolver α :=
  let fftSize := fft.nextFastSizeReal (taps.length + blockSamples - 1)
  let paddedFilter :=
    taps.take fftSize ++ List.replicate (fftSize - taps.length) 0
  { fftSize
    filterFreq := fft.fftr fftSize paddedFilter
    window := List.replicate fftSize 0
    pendingInput := []
    pendingOutput := []
    blockFits := by
      -- without taps the size asked for is odd, one less than a block
      have hsize := fft.le_nextFastSizeReal (taps.length + blockSamples - 1)
      have heven := fft.even_nextFastSizeReal (taps.length + blockSamples - 1)
      show blockSamples ≤ fft.nextFastSizeReal (taps.length + blockSamples - 1)
      simp only [blockSamples] at hsize heven ⊢
      omega }

/-- Slide the window over the block just accumulated, filter it in the
frequency domain, and queue the valid region of the result. -/
def runOneBlock (fft : RealFft α) (conv : PartitionedConvolver α) :
    PartitionedConvolver α :=
  let window := conv.window.drop blockSamples ++ conv.pendingInput
  let freqScratch :=
    List.zipWith complexMul (fft.fftr conv.fftSize window) conv.filterFreq
  let timeScratch := fft.fftri conv.fftSize freqScratch
  let normalization := 1 / (conv.fftSize : α)
  { conv with
    window
    pendingInput := []
    pendingOutput :=
      ((timeScratch.drop (conv.fftSize - blockSamples)).take blockSamples).map
        fun sample => sample * normalization }

/-- The first inner loop: queued output is added into free slots of `Output`.
Returns the slots written, the output still queued and the slots left. -/
def addPendingOutput : List α → List α → List α × List α × List α
  | sample :: pendingOutput, slot :: slots =>
      let (written, pendingOutput, slots) :=
        addPendingOutput pendingOutput slots
      ((slot + sample) :: written, pendingOutput, slots)
  | pendingOutput, slots => ([], pendingOutput, slots)

/-- The second inner loop: input is queued until a block is complete.
Returns the queue and the input not consumed. -/
def queueInput : List α → List α → List α × List α
  | pendingInput, [] => (pendingInput, [])
  | pendingInput, sample :: input =>
      if pendingInput.length < blockSamples then
        queueInput (pendingInput ++ [sample]) input
      else (pendingInput, sample :: input)

/-- What one pass of `ProcessAccumulate` leaves.  `appended` and `added` are
records of the pass: the samples appended to `PendingInput` and the samples
added into `Output`, in order. -/
structure Accumulated (α : Type) where
  convolver : PartitionedConvolver α
  output : List α
  appended : List α
  added : List α

omit [One α] [Sub α] [Mul α] [Div α] [NatCast α] in
theorem addPendingOutput_eq (pendingOutput slots : List α) :
    addPendingOutput pendingOutput slots =
      (List.zipWith (· + ·) slots pendingOutput,
        pendingOutput.drop slots.length, slots.drop pendingOutput.length) := by
  induction pendingOutput generalizing slots with
  | nil => cases slots <;> simp [addPendingOutput]
  | cons sample pendingOutput ih =>
      cases slots with
      | nil => simp [addPendingOutput]
      | cons slot slots => simp [addPendingOutput, ih]

omit [One α] [Add α] [Sub α] [Mul α] [Div α] [NatCast α] in
theorem queueInput_eq (pendingInput input : List α) :
    queueInput pendingInput input =
      (pendingInput ++ input.take (blockSamples - pendingInput.length),
        input.drop (blockSamples - pendingInput.length)) := by
  induction input generalizing pendingInput with
  | nil => simp [queueInput]
  | cons sample input ih =>
      by_cases h : pendingInput.length < blockSamples
      · have hroom : blockSamples - pendingInput.length =
            blockSamples - (pendingInput ++ [sample]).length + 1 := by
          simp only [List.length_append, List.length_singleton]
          omega
        rw [queueInput, if_pos h, ih, hroom]
        simp
      · have hroom : blockSamples - pendingInput.length = 0 := by omega
        rw [queueInput, if_neg h, hroom]
        simp

omit [One α] [Add α] [Sub α] [Mul α] [Div α] [NatCast α] in
/-- A block that becomes complete consumes input, or was complete before and
is about to be cleared. -/
theorem queueInput_progress (pendingInput input : List α)
    (hfull : ¬ (queueInput pendingInput input).1.length < blockSamples) :
    Prod.Lex (· < ·) (· < ·)
      ((queueInput pendingInput input).2.length, ([] : List α).length)
      (input.length, pendingInput.length) := by
  rw [queueInput_eq] at hfull ⊢
  simp only [List.length_append, List.length_take] at hfull
  simp only [Prod.lex_def, List.length_drop, List.length_nil]
  have hsize : blockSamples = 128 := rfl
  omega

/-- `ProcessAccumulate`, on the samples not yet consumed and the slots of
`Output` not yet produced.  Both early exits leave the unconsumed input
behind. -/
def accumulate (fft : RealFft α) (conv : PartitionedConvolver α)
    (input slots : List α) : Accumulated α :=
  if slots = [] then ⟨conv, [], [], []⟩
  else
    let handedOut := addPendingOutput conv.pendingOutput slots
    let written := handedOut.1
    let pendingOutput := handedOut.2.1
    let slots := handedOut.2.2
    let added := conv.pendingOutput.take written.length
    if slots = [] then
      ⟨{ conv with pendingOutput }, written, [], added⟩
    else
      let queued := queueInput conv.pendingInput input
      let pendingInput := queued.1
      let rest := queued.2
      let appended := input.take (input.length - rest.length)
      if pendingInput.length < blockSamples then
        ⟨{ conv with pendingInput, pendingOutput }, written ++ slots, appended,
          added⟩
      else
        let next := accumulate fft
          (runOneBlock fft { conv with pendingInput, pendingOutput }) rest slots
        ⟨next.convolver, written ++ next.output, appended ++ next.appended,
          added ++ next.added⟩
termination_by (input.length, conv.pendingInput.length)
decreasing_by
  next hfull => exact queueInput_progress conv.pendingInput input hfull

omit [One α] [Sub α] [Mul α] [Div α] [NatCast α] in
/-- The slots written hold the samples handed out on top of what they held, and
the others are left. -/
theorem addPendingOutput_added {pendingOutput slots added : List α}
    (h : added = pendingOutput.take (addPendingOutput pendingOutput slots).1.length) :
    added.length ≤ slots.length ∧
      (addPendingOutput pendingOutput slots).1 =
        List.zipWith (· + ·) (slots.take added.length) added ∧
      (addPendingOutput pendingOutput slots).2.2 = slots.drop added.length := by
  rw [addPendingOutput_eq, List.length_zipWith] at h
  have hlength : added.length = min slots.length pendingOutput.length := by
    rw [h, List.length_take]
    omega
  rw [addPendingOutput_eq, hlength]
  refine ⟨Nat.min_le_left _ _, ?_, ?_⟩
  · rw [h, ← List.take_zipWith, List.take_of_length_le (Nat.le_of_eq List.length_zipWith)]
  · rcases Nat.le_total slots.length pendingOutput.length with hle | hle
    · rw [Nat.min_eq_left hle, List.drop_of_length_le hle, List.drop_length]
    · rw [Nat.min_eq_right hle]

/-- A pass adds its samples into the slots in front and leaves the other slots as
they are. -/
theorem output_accumulate (fft : RealFft α) (conv : PartitionedConvolver α)
    (input slots : List α) :
    let pass := accumulate fft conv input slots
    pass.added.length ≤ slots.length ∧
      pass.output =
        List.zipWith (· + ·) (slots.take pass.added.length) pass.added ++
          slots.drop pass.added.length := by
  fun_induction accumulate fft conv input slots with
  | case1 => exact ⟨Nat.le_refl _, rfl⟩
  | case2 conv input slots hslots handedOut written pendingOutput rest added hnone =>
      obtain ⟨hle, hwritten, hrest⟩ : added.length ≤ slots.length ∧
          written = List.zipWith (· + ·) (slots.take added.length) added ∧
          rest = slots.drop added.length := addPendingOutput_added rfl
      refine ⟨hle, ?_⟩
      show written = List.zipWith (· + ·) (slots.take added.length) added ++
        slots.drop added.length
      rw [← hrest, hnone, List.append_nil, hwritten]
  | case3 conv input slots hslots handedOut written pendingOutput rest added =>
      obtain ⟨hle, hwritten, hrest⟩ : added.length ≤ slots.length ∧
          written = List.zipWith (· + ·) (slots.take added.length) added ∧
          rest = slots.drop added.length := addPendingOutput_added rfl
      refine ⟨hle, ?_⟩
      show written ++ rest = List.zipWith (· + ·) (slots.take added.length) added ++
        slots.drop added.length
      rw [← hrest, hwritten]
  | case4 conv input slots hslots handedOut written pendingOutput rest added hrest
      queued pendingInput left appended hfull next ih =>
      obtain ⟨hle, hwritten, hrest⟩ : added.length ≤ slots.length ∧
          written = List.zipWith (· + ·) (slots.take added.length) added ∧
          rest = slots.drop added.length := addPendingOutput_added rfl
      obtain ⟨hnext, houtput⟩ : next.added.length ≤ rest.length ∧
          next.output = List.zipWith (· + ·) (rest.take next.added.length)
            next.added ++ rest.drop next.added.length := ih
      have hfits : (added ++ next.added).length ≤ slots.length := by
        rw [hrest, List.length_drop] at hnext
        rw [List.length_append]
        omega
      refine ⟨hfits, ?_⟩
      show written ++ next.output =
        List.zipWith (· + ·) (slots.take (added ++ next.added).length)
          (added ++ next.added) ++ slots.drop (added ++ next.added).length
      have hfront : (slots.take added.length).length = added.length := by
        rw [List.length_take, Nat.min_eq_left hle]
      rw [houtput, hwritten, hrest, List.length_append, List.take_add,
        List.zipWith_append hfront, List.drop_drop, List.append_assoc]

/-- Every slot of `Output` is kept, whether something was added into it or
not. -/
theorem length_output_accumulate (fft : RealFft α) (conv : PartitionedConvolver α)
    (input slots : List α) :
    (accumulate fft conv input slots).output.length = slots.length := by
  obtain ⟨hle, houtput⟩ := output_accumulate fft conv input slots
  rw [houtput, List.length_append, List.length_zipWith, List.length_take,
    List.length_drop]
  omega

/-- Two convolvers that were loaded with the same taps. -/
structure SameTaps (a b : PartitionedConvolver α) : Prop where
  fftSize : a.fftSize = b.fftSize
  filterFreq : a.filterFreq = b.filterFreq

omit [One α] [Add α] [Sub α] [Mul α] [Div α] [NatCast α] in
theorem SameTaps.trans {a b c : PartitionedConvolver α} (h : SameTaps a b)
    (h' : SameTaps b c) : SameTaps a c :=
  ⟨h.fftSize.trans h'.fftSize, h.filterFreq.trans h'.filterFreq⟩

theorem sameTaps_accumulate (fft : RealFft α) (conv : PartitionedConvolver α)
    (input slots : List α) :
    (accumulate fft conv input slots).convolver.SameTaps conv := by
  fun_induction accumulate fft conv input slots with
  | case4 conv input slots hslots handedOut written pendingOutput rest added hrest
      queued pendingInput left appended hfull next ih =>
      exact ⟨ih.fftSize, ih.filterFreq⟩
  | _ => exact ⟨rfl, rfl⟩

/-- `ProcessAccumulate` with as many slots of `Output` as samples of
`Input`. -/
def processAccumulate (fft : RealFft α) (conv : PartitionedConvolver α)
    (input output : List α) : Accumulated α :=
  accumulate fft conv input output

end PartitionedConvolver

end RamkolFX
