import RamkolFX.Dsp.Equalizer
import RamkolFX.Support.Transducer

/-!
# The filter stages on buffers

`Process` as it runs: over an input and an output buffer, which may be the same
one, and the two scratch buffers of the slot.  It puts the same frames into the
output buffer, and leaves the same stage, in place and into a separate buffer.
-/

namespace RamkolFX

open Support

/-- The buffers a stage reads and writes. -/
inductive StereoBuffer
  | input
  | output
  | scratchOld
  | scratchNew
  deriving DecidableEq

abbrev StereoMemory (α : Type) := Buffers StereoBuffer (StereoFrame α)

/-- What the parameter `Input` points to. -/
def inputBuffer (inPlace : Bool) : StereoBuffer :=
  if inPlace then .output else .input

theorem inputBuffer_ne (inPlace : Bool) : inputBuffer inPlace ≠ .scratchNew := by
  rw [inputBuffer]
  split <;> decide

variable {α : Type} [FloatArith α]

/-! ## The filters -/

namespace GraphicEqFilter

/-- `Process` on buffers. -/
def processInto (source target : StereoBuffer) (filter : GraphicEqFilter α)
    (frames : ℕ) (memory : StereoMemory α) : GraphicEqFilter α × StereoMemory α :=
  transduceLoop processFrame (fun memory i => memory source i) target filter memory
    frames

theorem process_eq_transduce (filter : GraphicEqFilter α)
    (input : List (StereoFrame α)) :
    filter.process input = transduce processFrame filter input := by
  induction input generalizing filter with
  | nil => rfl
  | cons inFrame input ih =>
      rw [transduce_cons, ← ih]
      rfl

end GraphicEqFilter

namespace BassEnhancerFilter

/-- `Process` on buffers: `std::copy` when the filter is disabled. -/
def processInto (source target : StereoBuffer) (filter : BassEnhancerFilter α)
    (frames : ℕ) (memory : StereoMemory α) :
    BassEnhancerFilter α × StereoMemory α :=
  if filter.bEnabled then
    transduceLoop processFrame (fun memory i => memory source i) target filter memory
      frames
  else
    transduceLoop (fun filter frame => (frame, filter))
      (fun memory i => memory source i) target filter memory frames

/-- One frame of `Process`. -/
def passFrame (filter : BassEnhancerFilter α) (inFrame : StereoFrame α) :
    StereoFrame α × BassEnhancerFilter α :=
  if filter.bEnabled then filter.processFrame inFrame else (inFrame, filter)

theorem process_eq_transduce (filter : BassEnhancerFilter α)
    (input : List (StereoFrame α)) :
    filter.process input = transduce passFrame filter input := by
  induction input generalizing filter with
  | nil => rw [process]; split <;> rfl
  | cons inFrame input ih =>
      rw [transduce_cons, ← ih]
      cases henabled : filter.bEnabled with
      | true =>
          have hframe : filter.passFrame inFrame = filter.processFrame inFrame := by
            rw [passFrame, if_pos henabled]
          have hkept : (filter.processFrame inFrame).2.bEnabled = true := henabled
          rw [hframe, process, if_pos henabled, process, if_pos hkept]
          rfl
      | false =>
          have hframe : filter.passFrame inFrame = (inFrame, filter) := by
            rw [passFrame, henabled, if_neg Bool.false_ne_true]
          rw [hframe, process, process, henabled, if_neg Bool.false_ne_true,
            if_neg Bool.false_ne_true]

theorem processInto_eq_transduceLoop (source target : StereoBuffer)
    (filter : BassEnhancerFilter α) (frames : ℕ) (memory : StereoMemory α) :
    filter.processInto source target frames memory =
      transduceLoop passFrame (fun memory i => memory source i) target filter memory
        frames := by
  rw [processInto]
  split
  next henabled =>
    refine (transduceLoop_congr (fun filter => filter.bEnabled = true)
      (fun filter frame hfilter => ⟨?_, hfilter⟩) henabled memory frames).1
    rw [passFrame, if_pos hfilter]
  next hdisabled =>
    refine (transduceLoop_congr (fun filter => ¬ filter.bEnabled = true)
      (fun filter frame hfilter => ⟨?_, hfilter⟩) hdisabled memory frames).1
    rw [passFrame, if_neg hfilter]

end BassEnhancerFilter

/-! ## The slot -/

namespace CrossfadingSlot

variable {T : Type}

/-- One turn of the mixing loop, given the two frames of scratch. -/
def mixFrame (crossfadeFrames fadeFramesRemaining : ℕ)
    (frames : StereoFrame α × StereoFrame α) : StereoFrame α × ℕ :=
  let newGain : α := 1 - (fadeFramesRemaining : α) / (crossfadeFrames : α)
  let oldGain : α := 1 - newGain
  (fun channel => frames.1 channel * oldGain + frames.2 channel * newGain,
    fadeFramesRemaining - 1)

/-- `Process` on buffers: `runOne` renders an instance into a buffer. -/
def processInto
    (runOne : StereoBuffer → T → ℕ → StereoMemory α → T × StereoMemory α)
    (slot : CrossfadingSlot T) (frames : ℕ) (memory : StereoMemory α) :
    Option (CrossfadingSlot T × StereoMemory α) := do
  let frames := min frames maxProcessFrames
  let slot := slot.takePending
  let live ← slot.live
  if slot.fadeFramesRemaining = 0 then
    let (live, memory) := runOne .output live frames memory
    return ({ slot with live := some live }, memory)
  else do
    let (live, memory) := runOne .scratchNew live frames memory
    let (fadingOut, memory) := runOne .scratchOld (← slot.fadingOut) frames memory
    let (fadeFramesRemaining, memory) :=
      transduceLoop (mixFrame slot.crossfadeFrames)
        (fun memory i => (memory .scratchOld i, memory .scratchNew i)) .output
        slot.fadeFramesRemaining memory frames
    let slot :=
      { slot with
        live := some live
        fadingOut := some fadingOut
        fadeFramesRemaining }
    return (slot.discardFaded, memory)

theorem mix_eq_transduce (crossfadeFrames remaining : ℕ)
    (oldFrames newFrames : List (StereoFrame α)) :
    mix crossfadeFrames remaining oldFrames newFrames =
      (transduce (mixFrame crossfadeFrames) remaining
        (oldFrames.zip newFrames)).1 := by
  induction oldFrames generalizing remaining newFrames with
  | nil => rfl
  | cons oldFrame oldFrames ih =>
      match newFrames with
      | [] => rfl
      | newFrame :: newFrames =>
          rw [mix, List.zip_cons_cons, transduce_cons, ih]
          rfl

/-- The loop counts down once per frame. -/
theorem remaining_transduce (crossfadeFrames remaining : ℕ)
    (frames : List (StereoFrame α × StereoFrame α)) :
    (transduce (mixFrame crossfadeFrames) remaining frames).2 =
      remaining - frames.length := by
  induction frames generalizing remaining with
  | nil => rfl
  | cons frame frames ih =>
      rw [transduce_cons, ih, List.length_cons, mixFrame, Nat.sub_sub, Nat.add_comm 1]

section

variable {step : T → StereoFrame α → StereoFrame α × T} {source : StereoBuffer}
  {runOne : StereoBuffer → T → ℕ → StereoMemory α → T × StereoMemory α}
  {slot after : CrossfadingSlot T} {memory : StereoMemory α} {frames : ℕ}
  {output : List (StereoFrame α)}

/-- The mixing loop reads both scratch buffers and writes neither. -/
theorem mixLoop_spec (crossfadeFrames remaining : ℕ) (memory : StereoMemory α)
    (frames : ℕ) :
    let mixed := transduceLoop (mixFrame crossfadeFrames)
      (fun (memory : StereoMemory α) i => (memory .scratchOld i, memory .scratchNew i))
      .output remaining memory frames
    mixed.1 = remaining - frames ∧
      mixed.2.read .output frames =
        mix crossfadeFrames remaining (memory.read .scratchOld frames)
          (memory.read .scratchNew frames) := by
  intro mixed
  have hfetch : FetchesAhead (fun (memory : StereoMemory α) i =>
      (memory .scratchOld i, memory .scratchNew i)) StereoBuffer.output :=
    fun _ _ _ _ _ => rfl
  obtain ⟨hstate, houtput, -, -⟩ :=
    @transduceLoop_spec _ _ _ _ _ (mixFrame crossfadeFrames) _ _ hfetch remaining memory
      frames
  have hzip : (List.range frames).map
      (fun i => (memory .scratchOld i, memory .scratchNew i)) =
      (memory.read .scratchOld frames).zip (memory.read .scratchNew frames) :=
    (List.zip_map' ..).symm
  rw [hzip] at hstate houtput
  rw [remaining_transduce, List.length_zip, Buffers.length_read, Buffers.length_read,
    Nat.min_self] at hstate
  exact ⟨hstate, houtput.trans (mix_eq_transduce ..).symm⟩

/-- A block rendered into the output buffer is the one that is rendered from
the frames of the input buffer, whether the two are one buffer or not. -/
theorem processInto_of_process (h : slot.Sound fun _ => True)
    (hnew : source ≠ .scratchNew)
    (hrun : ∀ target t frames memory, runOne target t frames memory =
      transduceLoop step (fun memory i => memory source i) target t memory frames)
    (hprocess : slot.process (fun t input => some (transduce step t input))
      (memory.read source frames) = some (output, after)) :
    ∃ memory', slot.processInto runOne frames memory = some (after, memory') ∧
      memory'.read .output (min frames maxProcessFrames) = output := by
  obtain ⟨live, hlive, -⟩ := h.takePending.live
  have htake : (memory.read source frames).take maxProcessFrames =
      memory.read source (min frames maxProcessFrames) := by
    rw [Buffers.take_read, Nat.min_comm]
  by_cases hfade : slot.takePending.fadeFramesRemaining = 0
  · rw [process_of_single hlive hfade rfl, htake] at hprocess
    obtain ⟨rfl, rfl⟩ := Prod.mk.inj (Option.some.inj hprocess)
    obtain ⟨hstate, houtput, -, -⟩ := @transduceLoop_spec _ _ _ _ _ step _ _
      (fetchesAhead_buffer source .output) live memory (min frames maxProcessFrames)
    refine ⟨_, ?_, houtput⟩
    rw [processInto, hlive]
    simp only [Option.bind_eq_bind, Option.bind_some, hfade, if_true, hrun]
    rw [hstate]
    rfl
  · obtain ⟨old, hfading, -⟩ := h.takePending.fadingOut hfade
    rw [process_of_fade hlive hfade hfading rfl rfl, htake, Buffers.length_read]
      at hprocess
    obtain ⟨rfl, rfl⟩ := Prod.mk.inj (Option.some.inj hprocess)
    -- the new instance into its scratch buffer, which is not the input
    obtain ⟨hstateNew, houtputNew, -, hkeepsNew⟩ := @transduceLoop_spec _ _ _ _ _ step _
      _ (fetchesAhead_buffer source .scratchNew) live memory
      (min frames maxProcessFrames)
    set afterNew := transduceLoop step (fun memory i => memory source i) .scratchNew live
      memory (min frames maxProcessFrames)
    -- the old one, from the same input
    obtain ⟨hstateOld, houtputOld, -, hkeepsOld⟩ := @transduceLoop_spec _ _ _ _ _ step _
      _ (fetchesAhead_buffer source .scratchOld) old afterNew.2
      (min frames maxProcessFrames)
    set afterOld := transduceLoop step (fun memory i => memory source i) .scratchOld old
      afterNew.2 (min frames maxProcessFrames)
    have hinput : (List.range (min frames maxProcessFrames)).map
        (fun i => afterNew.2 source i) =
        memory.read source (min frames maxProcessFrames) :=
      Buffers.read_congr (hkeepsNew source hnew) _
    rw [hinput] at hstateOld houtputOld
    have hscratchNew : afterOld.2.read .scratchNew (min frames maxProcessFrames) =
        (transduce step live (memory.read source (min frames maxProcessFrames))).1 :=
      (Buffers.read_congr (hkeepsOld .scratchNew (by decide)) _).trans houtputNew
    obtain ⟨hremaining, hmixed⟩ := mixLoop_spec slot.takePending.crossfadeFrames
      slot.takePending.fadeFramesRemaining afterOld.2 (min frames maxProcessFrames)
    rw [houtputOld, hscratchNew] at hmixed
    refine ⟨_, ?_, hmixed⟩
    rw [processInto, hlive]
    simp only [Option.bind_eq_bind, Option.bind_some, hfade, if_false, hrun, hfading]
    rw [hremaining, hstateOld, hstateNew]
    rfl

/-- A block writes nothing behind its frames. -/
theorem processInto_of_le
    (hrun : ∀ target t frames memory, runOne target t frames memory =
      transduceLoop step (fun memory i => memory source i) target t memory frames)
    {memory' : StereoMemory α}
    (h : slot.processInto runOne frames memory = some (after, memory'))
    {i : ℕ} (hi : min frames maxProcessFrames ≤ i) :
    memory' .output i = memory .output i := by
  obtain ⟨live, hlive, h⟩ := Option.bind_eq_some_iff.mp h
  by_cases hfade : slot.takePending.fadeFramesRemaining = 0
  · simp only [hfade, if_true, hrun] at h
    obtain ⟨-, rfl⟩ := Prod.mk.inj (Option.some.inj h)
    exact transduceLoop_of_le _ _ hi
  · simp only [hfade, if_false, hrun] at h
    obtain ⟨old, hold, h⟩ := Option.bind_eq_some_iff.mp h
    obtain ⟨-, rfl⟩ := Prod.mk.inj (Option.some.inj h)
    -- the two renderings go to the scratch buffers
    have hscratch (target : StereoBuffer) (htarget : .output ≠ target) (t : T)
        (memory : StereoMemory α) :
        (transduceLoop step (fun memory i => memory source i) target t memory
          (min frames maxProcessFrames)).2 .output = memory .output :=
      (transduceLoop_spec (fetchesAhead_buffer source target) t memory
        _).2.2.2 .output htarget
    rw [transduceLoop_of_le _ _ hi, hscratch .scratchOld (by decide),
      hscratch .scratchNew (by decide)]

end

end CrossfadingSlot

/-! ## The stages -/

namespace FilterStage

variable {F : Type}

def processInto (runOne : StereoBuffer → F → ℕ → StereoMemory α → F × StereoMemory α)
    (stage : FilterStage F α) (frames : ℕ) (memory : StereoMemory α) :
    Option (FilterStage F α × StereoMemory α) := do
  let (slot, memory) ← stage.slot.processInto runOne frames memory
  return ({ stage with slot }, memory)

end FilterStage

/-- `Process` on buffers; in place, `Input` and `Output` are one buffer. -/
def HwEqStage.processInto (inPlace : Bool) (stage : HwEqStage α) (frames : ℕ)
    (memory : StereoMemory α) : Option (HwEqStage α × StereoMemory α) :=
  FilterStage.processInto
    (fun target filter frames memory =>
      filter.processInto (inputBuffer inPlace) target frames memory)
    stage frames memory

/-- `Process` on buffers; in place, `Input` and `Output` are one buffer. -/
def BassEnhancerStage.processInto (inPlace : Bool) (stage : BassEnhancerStage α)
    (frames : ℕ) (memory : StereoMemory α) :
    Option (BassEnhancerStage α × StereoMemory α) :=
  FilterStage.processInto
    (fun target filter frames memory =>
      filter.processInto (inputBuffer inPlace) target frames memory)
    stage frames memory

end RamkolFX
