import RamkolFX.Dsp.ConvolverStream
import RamkolFX.Dsp.ExactArith

/-!
# Partitioned convolver: sequences of calls

A run of calls streams its input when everything passed in was appended in
order, the output is a prefix of the reference stream, and the output lags
behind by less than a block.  A run does so throughout exactly when every call
leaves the running total of `Frames` at a multiple of `blockSamples` or at a
residue above all earlier ones.
-/

namespace RamkolFX

open Support

namespace PartitionedConvolver

variable {α : Type} [One α] [Add α] [Sub α] [Mul α] [Div α] [NatCast α]

/-- One call of `ProcessAccumulate`: `Frames` samples of input, and an output
buffer of as many samples. -/
structure Call (α : Type) where
  input : List α
  output : List α
  sameLength : output.length = input.length

/-- A convolver after some calls, with the records of all of them. -/
structure Session (α : Type) where
  convolver : PartitionedConvolver α
  appended : List α
  added : List α

def Session.step (fft : RealFft α) (session : Session α) (call : Call α) :
    Session α :=
  let pass :=
    processAccumulate fft session.convolver call.input call.output
  ⟨pass.convolver, session.appended ++ pass.appended,
    session.added ++ pass.added⟩

/-- The calls `calls`, one after the other. -/
def runCalls (fft : RealFft α) (conv : PartitionedConvolver α)
    (calls : List (Call α)) : Session α :=
  calls.foldl (Session.step fft) ⟨conv, [], []⟩

/-- All samples passed in. -/
def passed (calls : List (Call α)) : List α := calls.flatMap Call.input

/-- The calls behave as one stream: nothing passed in is lost, the output is a
prefix of what the blocks of the whole input yield, and less than a block is
missing from it. -/
structure StreamsInput (fft : RealFft α) (conv : PartitionedConvolver α)
    (calls : List (Call α)) : Prop where
  appended : (runCalls fft conv calls).appended = passed calls
  added : (runCalls fft conv calls).added <+:
    blockStream fft conv (cut (passed calls)).1
  lag : (passed calls).length ≤ (runCalls fft conv calls).added.length + 127

/-- The residue at which some calls leave the block being filled. -/
def residue (calls : List (Call α)) : ℕ := (passed calls).length % blockSamples

/-- The next call passes nothing, completes its last block, or leaves a higher
residue than every call before it. -/
def RaisesResidue (past : List (Call α)) (call : Call α) : Prop :=
  call.input = [] ∨ residue (past ++ [call]) = 0 ∨
    ∀ earlier, earlier <+: past → residue earlier < residue (past ++ [call])

/-- A session that has lost nothing: the queues hold the open block and the
rest of the reference stream, and together as many samples as the highest
residue so far. -/
structure InStep (fft : RealFft α) (conv : PartitionedConvolver α)
    (calls : List (Call α)) : Prop where
  appended : (runCalls fft conv calls).appended = passed calls
  pendingInput :
    (runCalls fft conv calls).convolver.pendingInput = (cut (passed calls)).2
  stream : (runCalls fft conv calls).added ++
      (runCalls fft conv calls).convolver.pendingOutput =
    blockStream fft conv (cut (passed calls)).1
  sameFilter : SameFilter (runCalls fft conv calls).convolver
    (afterBlocks fft conv (cut (passed calls)).1)
  residue_le : ∀ earlier, earlier <+: calls → residue earlier ≤
    (runCalls fft conv calls).convolver.pendingInput.length +
      (runCalls fft conv calls).convolver.pendingOutput.length
  residue_eq : ∃ earlier, earlier <+: calls ∧ residue earlier =
    (runCalls fft conv calls).convolver.pendingInput.length +
      (runCalls fft conv calls).convolver.pendingOutput.length

omit [One α] [Add α] [Sub α] [Mul α] [Div α] [NatCast α] in
theorem length_cut (samples : List α) :
    (cut samples).1.length = samples.length / blockSamples ∧
      (cut samples).2.length = samples.length % blockSamples :=
  length_blocks _ samples

omit [One α] [Add α] [Sub α] [Mul α] [Div α] [NatCast α] in
theorem passed_concat (past : List (Call α)) (call : Call α) :
    passed (past ++ [call]) = passed past ++ call.input := by
  simp [passed]

theorem runCalls_concat (fft : RealFft α) (conv : PartitionedConvolver α)
    (past : List (Call α)) (call : Call α) :
    runCalls fft conv (past ++ [call]) =
      (runCalls fft conv past).step fft call := by
  simp [runCalls]

section

variable {fft : RealFft α} {conv : PartitionedConvolver α}
  {past : List (Call α)}

theorem InStep.length_pendingInput (h : InStep fft conv past) :
    (runCalls fft conv past).convolver.pendingInput.length = residue past := by
  rw [h.pendingInput, (length_cut _).2]
  rfl

theorem InStep.pendingInput_lt (h : InStep fft conv past) :
    (runCalls fft conv past).convolver.pendingInput.length < blockSamples := by
  rw [h.length_pendingInput]
  exact Nat.mod_lt _ (by decide)

/-- Queued samples of both kinds make up less than a block. -/
theorem InStep.queued_lt (h : InStep fft conv past) :
    (runCalls fft conv past).convolver.pendingInput.length +
      (runCalls fft conv past).convolver.pendingOutput.length <
        blockSamples := by
  obtain ⟨earlier, -, heq⟩ := h.residue_eq
  rw [← heq]
  exact Nat.mod_lt _ (by decide)

/-- A session that has lost nothing streams its input. -/
theorem InStep.streamsInput (h : InStep fft conv past) :
    StreamsInput fft conv past := by
  refine ⟨h.appended, ⟨_, h.stream⟩, ?_⟩
  have hlen := congrArg List.length h.stream
  rw [List.length_append, length_blockStream, (length_cut _).1] at hlen
  have hqueued := h.queued_lt
  have hpending := h.length_pendingInput
  simp only [residue, blockSamples] at hlen hqueued hpending
  omega

/-- From a session that has lost nothing, the next call loses nothing exactly
when it raises the residue. -/
theorem InStep.appended_iff (h : InStep fft conv past) (call : Call α) :
    (processAccumulate fft (runCalls fft conv past).convolver call.input
        call.output).appended = call.input ↔ RaisesResidue past call := by
  rw [processAccumulate, appended_eq_input_iff fft _ _ _ h.pendingInput_lt,
    call.sameLength, RaisesResidue]
  have hqueued := h.queued_lt
  have hpending := h.length_pendingInput
  have htotal : residue (past ++ [call]) =
      (residue past + call.input.length) % blockSamples := by
    rw [residue, passed_concat, List.length_append, residue, Nat.mod_add_mod]
  have hpeak : (∀ earlier, earlier <+: past →
      residue earlier < residue (past ++ [call])) ↔
      (runCalls fft conv past).convolver.pendingInput.length +
        (runCalls fft conv past).convolver.pendingOutput.length <
          residue (past ++ [call]) := by
    constructor
    · intro hall
      obtain ⟨earlier, hearlier, heq⟩ := h.residue_eq
      rw [← heq]
      exact hall earlier hearlier
    · intro hlt earlier hearlier
      exact lt_of_le_of_lt (h.residue_le earlier hearlier) hlt
  rw [hpeak, ← List.length_eq_zero_iff, htotal]
  simp only [hpending, blockSamples] at hqueued ⊢
  omega

omit [One α] [Add α] [Sub α] [Mul α] [Div α] [NatCast α] in
/-- The blocks of a longer input continue those of its front. -/
theorem cut_append (front back : List α) :
    cut (front ++ back) =
      ((cut front).1 ++ (cut ((cut front).2 ++ back)).1,
        (cut ((cut front).2 ++ back)).2) :=
  (blockFramer α blockSamples (by decide)).parse_append front back

/-- How the queue lengths move in a pass that loses nothing: together they
grow to the new residue if that is higher, and stay otherwise. -/
theorem queued_lengths
    {pending queued frames pending' queued' added : ℕ}
    (hqueued : pending + queued < 128)
    (hpending : pending' = (pending + frames) % 128)
    (hstream : added + queued' = queued + 128 * ((pending + frames) / 128))
    (hends : added = frames ∨ added < frames ∧ queued' = 0) :
    pending + queued ≤ pending' + queued' ∧ pending' ≤ pending' + queued' ∧
      (pending' + queued' = pending + queued ∨ pending' + queued' = pending') := by
  omega

/-- A call that loses nothing keeps the session in step. -/
theorem InStep.step (h : InStep fft conv past) (call : Call α)
    (hcall : (processAccumulate fft (runCalls fft conv past).convolver
      call.input call.output).appended = call.input) :
    InStep fft conv (past ++ [call]) := by
  obtain ⟨-, hinput, hstream, hfilter, hends⟩ :=
    accumulate_continues fft (runCalls fft conv past).convolver
      call.input call.output h.pendingInput_lt
  change (accumulate fft (runCalls fft conv past).convolver call.input
    call.output).appended = call.input at hcall
  rw [hcall, h.pendingInput] at hinput hstream hfilter
  have hcut := cut_append (passed past) call.input
  rw [← passed_concat] at hcut
  have hsession : runCalls fft conv (past ++ [call]) =
      (runCalls fft conv past).step fft call := runCalls_concat fft conv past call
  have hpending : (runCalls fft conv (past ++ [call])).convolver.pendingInput =
      (cut (passed (past ++ [call]))).2 := by
    rw [hsession, hcut]
    exact hinput
  have hlengths := congrArg List.length hstream
  rw [List.length_append, List.length_append, length_blockStream,
    (length_cut _).1, List.length_append, ← h.pendingInput] at hlengths
  have hpending' := congrArg List.length hinput
  rw [(length_cut _).2, List.length_append, ← h.pendingInput] at hpending'
  obtain ⟨hkeep, hnew, htop⟩ := queued_lengths h.queued_lt hpending'
    hlengths (by simpa [call.sameLength] using hends)
  have hresidue : residue (past ++ [call]) =
      (runCalls fft conv (past ++ [call])).convolver.pendingInput.length := by
    rw [hpending, (length_cut _).2]
    rfl
  rw [hsession] at hresidue
  constructor
  · rw [hsession, passed_concat, ← h.appended]
    exact congrArg _ hcall
  · exact hpending
  · rw [hsession, hcut, blockStream_append, ← h.stream,
      ← h.sameFilter.blockStream fft]
    simp only [List.append_assoc, ← hstream]
    exact List.append_assoc _ _ _
  · rw [hsession, hcut, afterBlocks_append]
    exact hfilter.trans (h.sameFilter.afterBlocks fft _)
  · intro earlier hearlier
    rw [hsession]
    rcases List.prefix_concat_iff.mp hearlier with rfl | hold
    · rw [hresidue]
      exact hnew
    · exact (h.residue_le earlier hold).trans hkeep
  · rw [hsession]
    rcases htop with hsame | hrise
    · obtain ⟨earlier, hearlier, heq⟩ := h.residue_eq
      exact ⟨earlier, hearlier.trans (List.prefix_append past [call]),
        heq.trans hsame.symm⟩
    · exact ⟨past ++ [call], List.prefix_refl _, hresidue.trans hrise.symm⟩

/-- The next call of a session in step streams on exactly when it raises the
residue. -/
theorem InStep.streamsInput_iff (h : InStep fft conv past) (call : Call α) :
    StreamsInput fft conv (past ++ [call]) ↔ RaisesResidue past call := by
  rw [← h.appended_iff call]
  constructor
  · intro hnext
    have happended := hnext.appended
    rw [runCalls_concat, passed_concat, ← h.appended] at happended
    exact List.append_cancel_left happended
  · intro hcall
    exact (h.step call hcall).streamsInput

/-- A session that streamed its input throughout has lost nothing. -/
theorem inStep_of_throughout (hnil : InStep fft conv [])
    (h : Throughout (StreamsInput fft conv) past) : InStep fft conv past := by
  induction past using List.reverseRecOn with
  | nil => exact hnil
  | append_singleton past call ih =>
      obtain ⟨hpast, hcall⟩ := (throughout_concat past call).mp h
      have hin := ih hpast
      exact hin.step call ((hin.appended_iff call).mpr
        ((hin.streamsInput_iff call).mp hcall))

end

/-- A freshly loaded convolver is in step. -/
theorem inStep_load [Zero α] (fft : RealFft α) (taps : List α) :
    InStep fft (load fft taps) [] := by
  have hcut : cut (passed ([] : List (Call α))) = ([], []) :=
    cut_of_lt (by simp [passed])
  constructor
  · rfl
  · rw [hcut]
    rfl
  · rw [hcut]
    rfl
  · rw [hcut]
    exact ⟨rfl, rfl, rfl⟩
  · intro earlier hearlier
    rw [List.prefix_nil.mp hearlier]
    exact le_refl 0
  · exact ⟨[], List.prefix_refl _, rfl⟩

/-- The output of every run of calls is the reference stream of its input,
with nothing lost, exactly when every call raises the residue. -/
theorem processAccumulate_streams_iff [Zero α] (fft : RealFft α)
    (taps : List α) (calls : List (Call α)) :
    Throughout (StreamsInput fft (load fft taps)) calls ↔
      AtEachEvent RaisesResidue calls := by
  have hload := inStep_load fft taps
  refine throughout_iff_atEachEvent hload.streamsInput ?_ calls
  intro past call hpast
  exact (inStep_of_throughout hload hpast).streamsInput_iff call

/-! ## The exact transform -/

section

open Real

/-- The real DFT and its unnormalised inverse, in exact arithmetic; sizes are
rounded up to the next even number. -/
noncomputable def exactFft : RealFft ℝ where
  nextFastSizeReal n := n + n % 2
  fftr n samples := (List.range (n / 2 + 1)).map fun k =>
    ⟨((List.range n).map fun t =>
        samples.getD t 0 * cos (2 * π * k * t / n)).sum,
      -((List.range n).map fun t =>
        samples.getD t 0 * sin (2 * π * k * t / n)).sum⟩
  fftri n bins := (List.range n).map fun t =>
    ((List.range n).map fun k =>
      if k ≤ n / 2 then
        (bins.getD k ⟨0, 0⟩).r * cos (2 * π * k * t / n) -
          (bins.getD k ⟨0, 0⟩).i * sin (2 * π * k * t / n)
      else
        (bins.getD (n - k) ⟨0, 0⟩).r * cos (2 * π * k * t / n) +
          (bins.getD (n - k) ⟨0, 0⟩).i * sin (2 * π * k * t / n)).sum
  le_nextFastSizeReal := fun n => Nat.le_add_right n (n % 2)
  even_nextFastSizeReal := fun n => by omega
  length_fftri := fun n bins => by simp

end

/-- A call that passes `frames` samples of full scale. -/
def fullScaleCall (frames : ℕ) : Call ℝ :=
  ⟨List.replicate frames 1, List.replicate frames 0, by simp⟩

theorem residue_fullScaleCalls (frames more : ℕ) :
    residue [fullScaleCall frames] = frames % blockSamples ∧
      residue [fullScaleCall frames, fullScaleCall more] =
        (frames + more) % blockSamples := by
  simp [residue, passed, fullScaleCall]

/-- Two calls of 100 frames lose 72 samples of the second. -/
theorem processAccumulate_drops_input :
    ¬ Throughout (StreamsInput exactFft (load exactFft [1]))
      [fullScaleCall 100, fullScaleCall 100] := by
  intro h
  obtain ⟨hpast, hlast⟩ :=
    (throughout_concat [fullScaleCall 100] (fullScaleCall 100)).mp h
  have hin := inStep_of_throughout (inStep_load exactFft [1]) hpast
  obtain ⟨hfirst, hsecond⟩ := residue_fullScaleCalls 100 100
  rcases (hin.streamsInput_iff (fullScaleCall 100)).mp hlast with
    hnone | hzero | hrise
  · simp [fullScaleCall] at hnone
  · exact absurd (hsecond.symm.trans hzero) (by decide)
  · have hlt := hrise [fullScaleCall 100] (List.prefix_refl _)
    rw [hfirst] at hlt
    exact absurd (lt_of_lt_of_eq hlt hsecond) (by decide)

end PartitionedConvolver

end RamkolFX
