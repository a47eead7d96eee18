import RamkolFX.Dsp.PartitionedConvolver
import RamkolFX.Support.Runs

/-!
# Partitioned convolver: what reaches the filter

The reference stream of an input is what `runOneBlock` yields on its
consecutive blocks.  A call of `processAccumulate` continues the reference
stream with the samples it appends, but it stops appending as soon as its
output is full: input behind that point is dropped.  Whether that happens
depends on the residues modulo `blockSamples` of all earlier calls.
-/

namespace RamkolFX

open Support

namespace PartitionedConvolver

variable {α : Type} [One α] [Add α] [Sub α] [Mul α] [Div α] [NatCast α]

/-! ## The reference stream -/

/-- The complete blocks of a stream, and the samples behind them. -/
def cut (samples : List α) : List (List α) × List α :=
  (blockFramer α blockSamples (by decide)).parse samples

/-- The convolver after a sequence of blocks. -/
def afterBlocks (fft : RealFft α) (conv : PartitionedConvolver α)
    (blocks : List (List α)) : PartitionedConvolver α :=
  blocks.foldl
    (fun conv block => runOneBlock fft { conv with pendingInput := block }) conv

/-- The samples `runOneBlock` yields on a sequence of blocks. -/
def blockStream (fft : RealFft α) (conv : PartitionedConvolver α) :
    List (List α) → List α
  | [] => []
  | block :: blocks =>
      let conv := runOneBlock fft { conv with pendingInput := block }
      conv.pendingOutput ++ blockStream fft conv blocks

theorem blockStream_append (fft : RealFft α) (conv : PartitionedConvolver α)
    (front back : List (List α)) :
    blockStream fft conv (front ++ back) =
      blockStream fft conv front ++
        blockStream fft (afterBlocks fft conv front) back := by
  induction front generalizing conv with
  | nil => rfl
  | cons block front ih => simp [blockStream, afterBlocks, ih]

theorem afterBlocks_append (fft : RealFft α) (conv : PartitionedConvolver α)
    (front back : List (List α)) :
    afterBlocks fft conv (front ++ back) =
      afterBlocks fft (afterBlocks fft conv front) back :=
  List.foldl_append

theorem length_pendingOutput_runOneBlock (fft : RealFft α)
    (conv : PartitionedConvolver α) :
    (runOneBlock fft conv).pendingOutput.length = blockSamples := by
  have hfits := conv.blockFits
  simp only [runOneBlock, List.length_map, List.length_take, List.length_drop,
    fft.length_fftri]
  omega

theorem length_blockStream (fft : RealFft α) (conv : PartitionedConvolver α)
    (blocks : List (List α)) :
    (blockStream fft conv blocks).length = blockSamples * blocks.length := by
  induction blocks generalizing conv with
  | nil => rfl
  | cons block blocks ih =>
      simp only [blockStream, List.length_append, ih, List.length_cons,
        length_pendingOutput_runOneBlock]
      rw [Nat.mul_succ, Nat.add_comm]

/-- Two convolvers that filter further input alike. -/
structure SameFilter (a b : PartitionedConvolver α) : Prop where
  fftSize : a.fftSize = b.fftSize
  filterFreq : a.filterFreq = b.filterFreq
  window : a.window = b.window

omit [One α] [Add α] [Sub α] [Mul α] [Div α] [NatCast α] in
theorem SameFilter.trans {a b c : PartitionedConvolver α}
    (h : SameFilter a b) (h' : SameFilter b c) : SameFilter a c :=
  ⟨h.fftSize.trans h'.fftSize, h.filterFreq.trans h'.filterFreq,
    h.window.trans h'.window⟩

/-- A block reads only the filter, the window and its own samples. -/
theorem SameFilter.runOneBlock {a b : PartitionedConvolver α}
    (h : SameFilter a b) (fft : RealFft α) (block : List α) :
    runOneBlock fft { a with pendingInput := block } =
      PartitionedConvolver.runOneBlock fft
        { b with pendingInput := block } := by
  obtain ⟨fftSize, filterFreq, window, _, _, _⟩ := a
  obtain ⟨fftSize', filterFreq', window', _, _, _⟩ := b
  obtain ⟨rfl, rfl, rfl⟩ := h
  rfl

theorem SameFilter.blockStream {a b : PartitionedConvolver α}
    (h : SameFilter a b) (fft : RealFft α) (blocks : List (List α)) :
    blockStream fft a blocks = PartitionedConvolver.blockStream fft b blocks := by
  cases blocks with
  | nil => rfl
  | cons block blocks =>
      simp only [PartitionedConvolver.blockStream, h.runOneBlock fft block]

theorem SameFilter.afterBlocks {a b : PartitionedConvolver α}
    (h : SameFilter a b) (fft : RealFft α) (blocks : List (List α)) :
    SameFilter (afterBlocks fft a blocks)
      (PartitionedConvolver.afterBlocks fft b blocks) := by
  cases blocks with
  | nil => exact h
  | cons block blocks =>
      simp only [PartitionedConvolver.afterBlocks, List.foldl_cons,
        h.runOneBlock fft block]
      exact ⟨rfl, rfl, rfl⟩

/-! ## The three ways a pass goes on -/

section

variable (fft : RealFft α) {conv : PartitionedConvolver α}
  {input slots : List α}

/-- Queued output fills every slot: no input is looked at. -/
theorem accumulate_of_full
    (hfull : slots.length ≤ conv.pendingOutput.length) :
    accumulate fft conv input slots =
      ⟨{ conv with pendingOutput := conv.pendingOutput.drop slots.length },
        List.zipWith (· + ·) slots conv.pendingOutput, [],
        conv.pendingOutput.take slots.length⟩ := by
  rw [accumulate]
  by_cases hslots : slots = []
  · simp [hslots]
  · simp [hslots, addPendingOutput_eq, hfull]

/-- The input runs out before a block is complete. -/
theorem accumulate_of_short
    (hroom : conv.pendingOutput.length < slots.length)
    (hshort : conv.pendingInput.length + input.length < blockSamples) :
    accumulate fft conv input slots =
      ⟨{ conv with
          pendingInput := conv.pendingInput ++ input
          pendingOutput := [] },
        List.zipWith (· + ·) slots conv.pendingOutput ++
          slots.drop conv.pendingOutput.length,
        input, conv.pendingOutput⟩ := by
  have hslots : slots ≠ [] := by
    rintro rfl
    simp at hroom
  have hleft : ¬ slots.length ≤ conv.pendingOutput.length := by omega
  have hall : input.length ≤ blockSamples - conv.pendingInput.length := by omega
  rw [accumulate, if_neg hslots]
  simp only [addPendingOutput_eq, queueInput_eq, List.drop_eq_nil_iff, hleft,
    if_false, List.take_of_length_le hall, List.drop_of_length_le hall,
    List.length_append, hshort, if_true]
  congr 1
  · rw [List.drop_of_length_le hroom.le]
  · simp
  · rw [List.take_of_length_le]
    simp only [List.length_zipWith]
    omega

/-- A block becomes complete and the pass goes on with its output. -/
theorem accumulate_of_block
    (hroom : conv.pendingOutput.length < slots.length)
    (hblock : blockSamples ≤ conv.pendingInput.length + input.length)
    (hpending : conv.pendingInput.length < blockSamples) :
    let taken := blockSamples - conv.pendingInput.length
    let block := conv.pendingInput ++ input.take taken
    let next := accumulate fft
      (runOneBlock fft { conv with pendingInput := block })
      (input.drop taken) (slots.drop conv.pendingOutput.length)
    accumulate fft conv input slots =
      ⟨next.convolver,
        List.zipWith (· + ·) slots conv.pendingOutput ++ next.output,
        input.take taken ++ next.appended,
        conv.pendingOutput ++ next.added⟩ := by
  intro taken block next
  have hslots : slots ≠ [] := by
    rintro rfl
    simp at hroom
  have hleft : ¬ slots.length ≤ conv.pendingOutput.length := by omega
  have hfull : ¬ (conv.pendingInput ++ input.take taken).length < blockSamples := by
    simp only [List.length_append, List.length_take, taken]
    omega
  have htaken : input.length - (input.drop taken).length = taken := by
    simp only [List.length_drop, taken]
    omega
  have hadded : conv.pendingOutput.take
      (List.zipWith (· + ·) slots conv.pendingOutput).length =
      conv.pendingOutput := by
    rw [List.take_of_length_le]
    simp only [List.length_zipWith]
    omega
  rw [accumulate, if_neg hslots]
  simp only [addPendingOutput_eq, queueInput_eq, List.drop_eq_nil_iff, hleft,
    if_false, hadded]
  rw [if_neg hfull, htaken]
  rfl

end

/-! ## One pass -/

/-- What a pass does to the stream: it appends some front part of its input,
and the output added and still queued continues the reference stream by the
blocks completed with it. -/
structure Continues (fft : RealFft α) (conv : PartitionedConvolver α)
    (input slots : List α) (pass : Accumulated α) : Prop where
  appended : pass.appended <+: input
  pendingInput : pass.convolver.pendingInput =
    (cut (conv.pendingInput ++ pass.appended)).2
  stream : pass.added ++ pass.convolver.pendingOutput =
    conv.pendingOutput ++
      blockStream fft conv (cut (conv.pendingInput ++ pass.appended)).1
  sameFilter : SameFilter pass.convolver
    (afterBlocks fft conv (cut (conv.pendingInput ++ pass.appended)).1)
  /-- The pass ends with its output full or with no output queued. -/
  ends : pass.added.length = slots.length ∨
    pass.added.length < slots.length ∧ pass.convolver.pendingOutput = []

omit [One α] [Add α] [Sub α] [Mul α] [Div α] [NatCast α] in
theorem cut_of_lt {samples : List α} (h : samples.length < blockSamples) :
    cut samples = ([], samples) :=
  (blockFramer α blockSamples (by decide)).parse_of_none
    (blockFramer_next_of_lt _ h)

omit [One α] [Add α] [Sub α] [Mul α] [Div α] [NatCast α] in
theorem cut_block_append {block : List α} (h : block.length = blockSamples)
    (rest : List α) :
    cut (block ++ rest) = (block :: (cut rest).1, (cut rest).2) :=
  (blockFramer α blockSamples (by decide)).parse_of_some
    (blockFramer_next_append _ h rest)

theorem continues_of_full (fft : RealFft α) {conv : PartitionedConvolver α}
    (input : List α) {slots : List α}
    (hfull : slots.length ≤ conv.pendingOutput.length)
    (hpending : conv.pendingInput.length < blockSamples) :
    Continues fft conv input slots (accumulate fft conv input slots) := by
  rw [accumulate_of_full fft hfull]
  have hcut : cut (conv.pendingInput ++ []) = ([], conv.pendingInput) := by
    rw [List.append_nil, cut_of_lt hpending]
  constructor
  · exact List.nil_prefix
  · rw [hcut]
  · rw [hcut]
    simp [blockStream]
  · rw [hcut]
    exact ⟨rfl, rfl, rfl⟩
  · exact Or.inl (List.length_take_of_le hfull)

theorem continues_of_short (fft : RealFft α) {conv : PartitionedConvolver α}
    {input slots : List α}
    (hroom : conv.pendingOutput.length < slots.length)
    (hshort : conv.pendingInput.length + input.length < blockSamples) :
    Continues fft conv input slots (accumulate fft conv input slots) := by
  rw [accumulate_of_short fft hroom hshort]
  have hcut : cut (conv.pendingInput ++ input) =
      ([], conv.pendingInput ++ input) := by
    rw [cut_of_lt]
    rwa [List.length_append]
  constructor
  · exact List.prefix_refl input
  · rw [hcut]
  · simp [hcut, blockStream]
  · rw [hcut]
    exact ⟨rfl, rfl, rfl⟩
  · exact Or.inr ⟨hroom, rfl⟩

/-- If the pass goes on behind a completed block as it should, the whole pass
does. -/
theorem continues_of_block (fft : RealFft α) {conv : PartitionedConvolver α}
    {input slots : List α}
    (hroom : conv.pendingOutput.length < slots.length)
    (hblock : blockSamples ≤ conv.pendingInput.length + input.length)
    (hpending : conv.pendingInput.length < blockSamples)
    (hnext :
      let taken := blockSamples - conv.pendingInput.length
      let block := conv.pendingInput ++ input.take taken
      let after := runOneBlock fft { conv with pendingInput := block }
      Continues fft after (input.drop taken)
        (slots.drop conv.pendingOutput.length)
        (accumulate fft after (input.drop taken)
          (slots.drop conv.pendingOutput.length))) :
    Continues fft conv input slots (accumulate fft conv input slots) := by
  rw [accumulate_of_block fft hroom hblock hpending]
  obtain ⟨happended, hinput, hstream, hfilter, hends⟩ := hnext
  have hlen : (conv.pendingInput ++
      input.take (blockSamples - conv.pendingInput.length)).length =
      blockSamples := by
    simp only [List.length_append, List.length_take]
    omega
  have hcut := fun rest => cut_block_append hlen rest
  simp only [List.append_assoc] at hcut
  constructor
  · obtain ⟨tail, htail⟩ := happended
    refine ⟨tail, ?_⟩
    rw [List.append_assoc, htail, List.take_append_drop]
  · rw [hcut]
    exact hinput
  · rw [hcut]
    simp only [List.append_assoc, hstream]
    rfl
  · rw [hcut]
    exact hfilter
  · simp only [List.length_append, List.length_drop] at hends ⊢
    rcases hends with hall | ⟨hsome, hnone⟩
    · exact Or.inl (by omega)
    · exact Or.inr ⟨by omega, hnone⟩

/-- Every pass continues the stream. -/
theorem accumulate_continues (fft : RealFft α) (conv : PartitionedConvolver α)
    (input slots : List α)
    (hpending : conv.pendingInput.length < blockSamples) :
    Continues fft conv input slots (accumulate fft conv input slots) := by
  induction hlen : input.length using Nat.strong_induction_on
    generalizing conv input slots with
  | h n ih =>
      subst hlen
      rcases Nat.lt_or_ge conv.pendingOutput.length slots.length
        with hroom | hfull
      · rcases Nat.lt_or_ge (conv.pendingInput.length + input.length)
          blockSamples with hshort | hblock
        · exact continues_of_short fft hroom hshort
        · apply continues_of_block fft hroom hblock hpending
          refine ih _ ?_ _ _ _ (by simp [runOneBlock]) rfl
          rw [List.length_drop]
          omega
      · exact continues_of_full fft input hfull hpending

omit [One α] [Add α] [Sub α] [Mul α] [Div α] [NatCast α] in
theorem take_append_eq_iff {k : ℕ} {front samples : List α} :
    samples.take k ++ front = samples ↔ front = samples.drop k := by
  constructor
  · intro h
    exact List.append_cancel_left (h.trans (List.take_append_drop k samples).symm)
  · rintro rfl
    exact List.take_append_drop k samples

/-- Room for the blocks behind the first one, counted from it and counted from
the start of the pass. -/
theorem room_for_block_iff
    {pending queued samples room : ℕ} (hroom : queued < room)
    (hblock : 128 ≤ pending + samples) (hpending : pending < 128) :
    (samples - (128 - pending) = 0 ∨
      128 + 128 * ((0 + (samples - (128 - pending)) - 1) / 128) <
        room - queued) ↔
    (samples = 0 ∨ queued + 128 * ((pending + samples - 1) / 128) < room) := by
  omega

/-- A pass appends all of its input exactly when, at every block the input
completes, an output slot was left before that block was needed. -/
theorem appended_eq_input_iff (fft : RealFft α)
    (conv : PartitionedConvolver α) (input slots : List α)
    (hpending : conv.pendingInput.length < blockSamples) :
    (accumulate fft conv input slots).appended = input ↔
      input = [] ∨
        conv.pendingOutput.length + blockSamples *
          ((conv.pendingInput.length + input.length - 1) / blockSamples) <
            slots.length := by
  induction hlen : input.length using Nat.strong_induction_on
    generalizing conv input slots with
  | h n ih =>
      subst hlen
      rcases Nat.lt_or_ge conv.pendingOutput.length slots.length
        with hroom | hfull
      · rcases Nat.lt_or_ge (conv.pendingInput.length + input.length)
          blockSamples with hshort | hblock
        · rw [accumulate_of_short fft hroom hshort]
          have hnone : (conv.pendingInput.length + input.length - 1) /
              blockSamples = 0 := Nat.div_eq_of_lt (by omega)
          simp only [hnone, Nat.mul_zero, Nat.add_zero, hroom, or_true]
        · have hdrop : (input.drop
              (blockSamples - conv.pendingInput.length)).length <
              input.length := by
            rw [List.length_drop]
            omega
          have hrest := ih _ hdrop
            (runOneBlock fft { conv with
              pendingInput := conv.pendingInput ++
                input.take (blockSamples - conv.pendingInput.length) })
            _ (slots.drop conv.pendingOutput.length) (by simp [runOneBlock]) rfl
          rw [accumulate_of_block fft hroom hblock hpending]
          simp only [take_append_eq_iff, hrest, ← List.length_eq_zero_iff,
            length_pendingOutput_runOneBlock, List.length_drop]
          exact room_for_block_iff hroom hblock hpending
      · rw [accumulate_of_full fft hfull]
        have hle : ¬ conv.pendingOutput.length + blockSamples *
            ((conv.pendingInput.length + input.length - 1) / blockSamples) <
            slots.length := by omega
        simp only [hle, or_false, eq_comm]

end PartitionedConvolver

end RamkolFX
