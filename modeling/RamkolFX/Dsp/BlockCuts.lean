import RamkolFX.Dsp.ExactArith
import RamkolFX.Dsp.StageBuffers
import RamkolFX.Support.Interleaving

/-!
# A stream cut into blocks

In exact arithmetic, the filter stages put out the same stream however it is cut
into blocks, in place or into a separate buffer, as long as no block but the
first one starts a fade.
-/

namespace RamkolFX

open Support

/-- Exact arithmetic with any function for `tanh`. -/
noncomputable abbrev exactArithWith (tanh : ℝ → ℝ) : FloatArith ℝ :=
  { exactArith with tanh }

section

variable {α : Type} [FloatArith α] {F : Type}

/-- A way of running a stage over a stream: in place or not, what the buffers
hold before, and the blocks. -/
structure Cut (α : Type) where
  inPlace : Bool
  memory : StereoMemory α
  blocks : List (List (StereoFrame α))

/-- A stage, its buffers, and the frames put out. -/
structure StageRun (F α : Type) where
  stage : FilterStage F α
  memory : StereoMemory α
  output : List (StereoFrame α) := []

/-- One block: the caller fills the input buffer, calls `Process` and takes the
frames from the output buffer. -/
def StageRun.step
    (processInto : Bool → FilterStage F α → ℕ → StereoMemory α →
      Option (FilterStage F α × StereoMemory α))
    (inPlace : Bool) (run : StageRun F α) (block : List (StereoFrame α)) :
    Option (StageRun F α) := do
  let memory := run.memory.load (inputBuffer inPlace) block
  let (stage, memory) ← processInto inPlace run.stage block.length memory
  return {
    stage, memory, output := run.output ++ memory.read .output block.length }

namespace Cut

variable (processInto : Bool → FilterStage F α → ℕ → StereoMemory α →
  Option (FilterStage F α × StereoMemory α))

/-- The blocks are the stream, none of them empty or too long. -/
structure Cuts (cut : Cut α) (stream : List (StereoFrame α)) : Prop where
  flatten : cut.blocks.flatten = stream
  ne_nil : ∀ block ∈ cut.blocks, block ≠ []
  length_le : ∀ block ∈ cut.blocks, block.length ≤ maxProcessFrames

/-- No block but the first one starts a fade. -/
def StartsOneFade (cut : Cut α) (stage : FilterStage F α) : Prop :=
  AtEachEvent
    (fun past _ => past ≠ [] → ∀ run,
      runFrom (StageRun.step processInto cut.inPlace) { stage, memory := cut.memory }
        past = some run →
      ¬ run.stage.slot.Takes)
    cut.blocks

/-- The frames put out. -/
def output (cut : Cut α) (stage : FilterStage F α) : Option (List (StereoFrame α)) :=
  (runFrom (StageRun.step processInto cut.inPlace) { stage, memory := cut.memory }
    cut.blocks).map StageRun.output

end Cut

/-- The output for a stream does not depend on the way it is cut. -/
def IndependentOfCuts (processInto : Bool → FilterStage F α → ℕ → StereoMemory α →
    Option (FilterStage F α × StereoMemory α)) : Prop :=
  ∀ (stage : FilterStage F α) (stream : List (StereoFrame α)) (cut cut' : Cut α),
    stage.Sound → cut.Cuts stream → cut'.Cuts stream →
    cut.StartsOneFade processInto stage → cut'.StartsOneFade processInto stage →
    ∃ output, cut.output processInto stage = some output ∧
      cut'.output processInto stage = some output

/-! ## One block -/

/-- A fade ends with the new instance alone. -/
def EndsExactly (α : Type) [FloatArith α] : Prop :=
  ∀ (crossfadeFrames : ℕ) (old new : α),
    old * (1 - (1 - ((0 : ℕ) : α) / (crossfadeFrames : α))) +
      new * (1 - ((0 : ℕ) : α) / (crossfadeFrames : α)) = new

namespace CrossfadingSlot

theorem mix_of_over (h : EndsExactly α) (crossfadeFrames : ℕ)
    {oldFrames newFrames : List (StereoFrame α)}
    (hlength : oldFrames.length = newFrames.length) :
    mix crossfadeFrames 0 oldFrames newFrames = newFrames := by
  induction oldFrames generalizing newFrames with
  | nil =>
      rw [List.length_nil] at hlength
      rw [List.length_eq_zero_iff.mp hlength.symm, mix]
      intros
      contradiction
  | cons oldFrame oldFrames ih =>
      cases newFrames with
      | nil => exact absurd hlength (Nat.succ_ne_zero _)
      | cons newFrame newFrames =>
          rw [mix, Nat.zero_sub, ih (Nat.succ.inj hlength)]
          congr 1
          funext channel
          exact h crossfadeFrames _ _

theorem mix_append {crossfadeFrames remaining : ℕ}
    {oldFrames newFrames : List (StereoFrame α)}
    (hlength : oldFrames.length = newFrames.length)
    (oldFrames' newFrames' : List (StereoFrame α)) :
    mix crossfadeFrames remaining (oldFrames ++ oldFrames') (newFrames ++ newFrames') =
      mix crossfadeFrames remaining oldFrames newFrames ++
        mix crossfadeFrames (remaining - newFrames.length) oldFrames' newFrames' := by
  rw [mix_eq_transduce, List.zip_append hlength, transduce_append, remaining_transduce,
    List.length_zip, hlength, Nat.min_self, mix_eq_transduce, mix_eq_transduce]

variable {step : F → StereoFrame α → StereoFrame α × F} {start slot : CrossfadingSlot F}
  {live old : F} {past block : List (StereoFrame α)}

/-- The stream as the two instances render it from the start, mixed. -/
def renderedStream (step : F → StereoFrame α → StereoFrame α × F)
    (start : CrossfadingSlot F) (live old : F) (stream : List (StereoFrame α)) :
    List (StereoFrame α) :=
  mix start.crossfadeFrames start.fadeFramesRemaining (transduce step old stream).1
    (transduce step live stream).1

/-- The slot after some frames of the stream. -/
structure AfterFrames (step : F → StereoFrame α → StereoFrame α × F)
    (start : CrossfadingSlot F) (live old : F) (past : List (StereoFrame α))
    (slot : CrossfadingSlot F) : Prop where
  crossfadeFrames : slot.crossfadeFrames = start.crossfadeFrames
  remaining : slot.fadeFramesRemaining = start.fadeFramesRemaining - past.length
  live : slot.live = some (transduce step live past).2
  fadingOut : slot.fadeFramesRemaining ≠ 0 →
    slot.fadingOut = some (transduce step old past).2

/-- A block goes on with the stream; past the end of a fade, the old instance
has no share in it. -/
theorem AfterFrames.process (h : AfterFrames step start live old past slot.takePending)
    (hends : EndsExactly α) (hlength : block.length ≤ maxProcessFrames) :
    ∃ output after,
      slot.process (fun t input => some (transduce step t input)) block =
        some (output, after) ∧
      AfterFrames step start live old (past ++ block) after ∧
      renderedStream step start live old (past ++ block) =
        renderedStream step start live old past ++ output := by
  have htake : block.take maxProcessFrames = block := List.take_of_length_le hlength
  have hsplit : renderedStream step start live old (past ++ block) =
      renderedStream step start live old past ++
        mix start.crossfadeFrames slot.takePending.fadeFramesRemaining
          (transduce step (transduce step old past).2 block).1
          (transduce step (transduce step live past).2 block).1 := by
    rw [renderedStream, transduce_append, transduce_append, mix_append, h.remaining,
      length_transduce]
    · rfl
    · rw [length_transduce, length_transduce]
  have hremaining : start.fadeFramesRemaining - (past ++ block).length =
      slot.takePending.fadeFramesRemaining - block.length := by
    rw [h.remaining, List.length_append, Nat.sub_sub]
  have hlive : (transduce step live (past ++ block)).2 =
      (transduce step (transduce step live past).2 block).2 := by
    rw [transduce_append]
  by_cases hfade : slot.takePending.fadeFramesRemaining = 0
  · refine ⟨_, _, process_of_single h.live hfade rfl, ?_, ?_⟩
    · constructor
      case crossfadeFrames => exact h.crossfadeFrames
      case remaining => rw [hremaining, hfade, Nat.zero_sub]
      case live => rw [hlive, htake]
      case fadingOut => exact fun hne => absurd hfade hne
    · rw [hsplit, hfade, htake, mix_of_over hends]
      rw [length_transduce, length_transduce]
  · refine ⟨_, _, process_of_fade h.live hfade (h.fadingOut hfade) rfl rfl, ?_, ?_⟩
    · rw [htake, discardFaded]
      split
      next hover =>
        constructor
        case crossfadeFrames => exact h.crossfadeFrames
        case remaining => exact hremaining.symm
        case live => rw [hlive]
        case fadingOut => exact fun hne => absurd hover hne
      next =>
        constructor
        case crossfadeFrames => exact h.crossfadeFrames
        case remaining => exact hremaining.symm
        case live => rw [hlive]
        case fadingOut => intro _; rw [transduce_append]
    · rw [hsplit, htake, h.crossfadeFrames]

end CrossfadingSlot

/-! ## All blocks -/

section

variable {step : F → StereoFrame α → StereoFrame α × F}
  {processInto : Bool → FilterStage F α → ℕ → StereoMemory α →
    Option (FilterStage F α × StereoMemory α)}

/-- The stage's filters render frame by frame. -/
def RendersBy (processInto : Bool → FilterStage F α → ℕ → StereoMemory α →
      Option (FilterStage F α × StereoMemory α))
    (step : F → StereoFrame α → StereoFrame α × F) : Prop :=
  ∀ inPlace stage frames memory, processInto inPlace stage frames memory =
    FilterStage.processInto
      (fun target filter frames memory => transduceLoop step
        (fun memory i => memory (inputBuffer inPlace) i) target filter memory frames)
      stage frames memory

/-- One block of a run. -/
theorem StageRun.step_of_process (hrenders : RendersBy processInto step)
    {inPlace : Bool} {run : StageRun F α} {block output : List (StereoFrame α)}
    {after : CrossfadingSlot F} (hsound : run.stage.Sound)
    (hlength : block.length ≤ maxProcessFrames)
    (hprocess : run.stage.slot.process (fun t input => some (transduce step t input))
      block = some (output, after)) :
    ∃ memory, run.step processInto inPlace block = some {
      stage := { run.stage with slot := after }
      memory
      output := run.output ++ output } := by
  rw [← Buffers.read_load run.memory (inputBuffer inPlace) block] at hprocess
  obtain ⟨memory, hinto, houtput⟩ := CrossfadingSlot.processInto_of_process hsound
    (inputBuffer_ne inPlace) (fun _ _ _ _ => rfl) hprocess
  refine ⟨memory, ?_⟩
  rw [Nat.min_eq_left hlength] at houtput
  rw [StageRun.step, hrenders]
  dsimp only
  rw [FilterStage.processInto, hinto, ← houtput]
  rfl

/-- A block that takes the pending instance leaves none for the next one. -/
theorem StageRun.not_takes_of_step (hrenders : RendersBy processInto step)
    {inPlace : Bool} {run run' : StageRun F α} {block : List (StereoFrame α)}
    (hsound : run.stage.Sound) (hlength : block.length ≤ maxProcessFrames)
    (htakes : run.stage.slot.Takes)
    (hstep : run.step processInto inPlace block = some run') :
    ¬ run'.stage.slot.Takes := by
  obtain ⟨output, after, hprocess, -, hrendered⟩ := CrossfadingSlot.process_sound
    (fun t input => some (transduce step t input)) (fun _ => True) (fun _ _ => True)
    (fun t input _ => ⟨_, _, rfl, trivial, trivial⟩) hsound block
  obtain ⟨memory, hrun⟩ := StageRun.step_of_process hrenders hsound hlength hprocess
  obtain rfl := Option.some.inj (hstep.symm.trans hrun)
  have hnone : after.pending = none := (hrendered.taken htakes).1
  intro htakes'
  rw [CrossfadingSlot.Takes, hnone] at htakes'
  exact Bool.false_ne_true htakes'.2

/-- Every block of a cut goes on with the stream. -/
theorem Cut.output_eq (hrenders : RendersBy processInto step) (hends : EndsExactly α)
    {stage : FilterStage F α} (hsound : stage.Sound) {live old : F}
    (hstart : CrossfadingSlot.AfterFrames step stage.slot.takePending live old []
      stage.slot.takePending)
    {stream : List (StereoFrame α)} {cut : Cut α} (hcuts : cut.Cuts stream)
    (hone : cut.StartsOneFade processInto stage) :
    cut.output processInto stage = some (CrossfadingSlot.renderedStream step
      stage.slot.takePending live old stream) := by
  let Inv (past : List (List (StereoFrame α))) (run : StageRun F α) : Prop :=
    run.stage.Sound ∧
    run.output = CrossfadingSlot.renderedStream step stage.slot.takePending live old
      past.flatten ∧
    (past = [] ∧ run.stage.slot = stage.slot ∨
      past ≠ [] ∧ CrossfadingSlot.AfterFrames step stage.slot.takePending live old
        past.flatten run.stage.slot)
  have hmeets : AtEachEvent
      (fun past block => block.length ≤ maxProcessFrames ∧
        (past ≠ [] → ∀ run,
          runFrom (StageRun.step processInto cut.inPlace) { stage, memory := cut.memory }
            past = some run → ¬ run.stage.slot.Takes))
      cut.blocks := by
    intro past block hpast
    refine ⟨hcuts.length_le block ?_, hone past block hpast⟩
    exact hpast.subset (List.mem_append_right past (List.mem_singleton_self block))
  have hinit : Inv [] { stage, memory := cut.memory } :=
    ⟨hsound, rfl, Or.inl ⟨rfl, rfl⟩⟩
  have hrun : ∃ run, runFrom (StageRun.step processInto cut.inPlace)
      { stage, memory := cut.memory } cut.blocks = some run ∧ Inv cut.blocks run := by
    refine runFrom_invariant (StageRun.step processInto cut.inPlace) Inv hinit ?_ hmeets
    rintro past run block hrun ⟨hsound, houtput, hslot⟩ ⟨hlength, hkeeps⟩
    have hafter : CrossfadingSlot.AfterFrames step stage.slot.takePending live old
        past.flatten run.stage.slot.takePending := by
      rcases hslot with ⟨rfl, hslot⟩ | ⟨hpast, hslot⟩
      · rw [hslot]
        exact hstart
      · have hkept : run.stage.slot.takePending = run.stage.slot :=
          if_neg (hkeeps hpast run hrun)
        rwa [hkept]
    obtain ⟨output, after, hprocess, hafter', hstream⟩ := hafter.process hends hlength
    obtain ⟨memory, hstep⟩ := StageRun.step_of_process hrenders hsound hlength hprocess
    refine ⟨_, hstep, ?_, ?_, Or.inr ⟨by simp, ?_⟩⟩
    · obtain ⟨output', after', hprocess', hsound', -⟩ := CrossfadingSlot.process_sound
        (fun t input => some (transduce step t input)) (fun _ => True)
        (fun _ _ => True) (fun t input _ => ⟨_, _, rfl, trivial, trivial⟩) hsound block
      have heq : after' = after :=
        congrArg Prod.snd (Option.some.inj (hprocess'.symm.trans hprocess))
      rwa [← heq]
    · rw [List.flatten_append, List.flatten_singleton, hstream, houtput]
    · rwa [List.flatten_append, List.flatten_singleton]
  obtain ⟨run, hrun, -, houtput, -⟩ := hrun
  rw [Cut.output, hrun, Option.map_some, houtput, hcuts.flatten]

omit [FloatArith α] in
/-- The start of a sound stage. -/
theorem afterFrames_start {stage : FilterStage F α} (h : stage.Sound) :
    ∃ live old, CrossfadingSlot.AfterFrames step stage.slot.takePending live old []
      stage.slot.takePending := by
  have htaken := CrossfadingSlot.Sound.takePending h
  obtain ⟨live, hlive, -⟩ := htaken.live
  by_cases hfade : stage.slot.takePending.fadeFramesRemaining = 0
  · exact ⟨live, live, rfl, rfl, hlive, fun hne => absurd hfade hne⟩
  · obtain ⟨old, hold, -⟩ := htaken.fadingOut hfade
    exact ⟨live, old, rfl, rfl, hlive, fun _ => hold⟩

theorem independentOfCuts_of_rendersBy (hrenders : RendersBy processInto step)
    (hends : EndsExactly α) : IndependentOfCuts processInto := by
  intro stage stream cut cut' hsound hcuts hcuts' hone hone'
  obtain ⟨live, old, hstart⟩ :
      ∃ live old, CrossfadingSlot.AfterFrames step stage.slot.takePending live old []
        stage.slot.takePending := afterFrames_start hsound
  exact ⟨_, cut.output_eq hrenders hends hsound hstart hcuts hone,
    cut'.output_eq hrenders hends hsound hstart hcuts' hone'⟩

theorem HwEqStage.rendersBy :
    RendersBy HwEqStage.processInto (GraphicEqFilter.processFrame (α := α)) :=
  fun _ _ _ _ => rfl

theorem BassEnhancerStage.rendersBy :
    RendersBy BassEnhancerStage.processInto (BassEnhancerFilter.passFrame (α := α)) := by
  intro inPlace stage frames memory
  rw [BassEnhancerStage.processInto]
  congr 1
  funext target filter frames memory
  exact filter.processInto_eq_transduceLoop _ target frames memory

end

end

theorem endsExactly (tanh : ℝ → ℝ) : @EndsExactly ℝ (exactArithWith tanh) := by
  intro crossfadeFrames old new
  show old * (1 - (1 - ((0 : ℕ) : ℝ) / (crossfadeFrames : ℝ))) +
    new * (1 - ((0 : ℕ) : ℝ) / (crossfadeFrames : ℝ)) = new
  rw [Nat.cast_zero, zero_div]
  ring

/-- Neither filter stage puts out anything else when the stream is cut in
another way. -/
theorem independentOfCuts (tanh : ℝ → ℝ) :
    @IndependentOfCuts ℝ (GraphicEqFilter ℝ)
        (@HwEqStage.processInto ℝ (exactArithWith tanh)) ∧
      @IndependentOfCuts ℝ (BassEnhancerFilter ℝ)
        (@BassEnhancerStage.processInto ℝ (exactArithWith tanh)) := by
  let _ := exactArithWith tanh
  exact ⟨independentOfCuts_of_rendersBy HwEqStage.rendersBy (endsExactly tanh),
    independentOfCuts_of_rendersBy BassEnhancerStage.rendersBy (endsExactly tanh)⟩

/-- The default curve with its first band at 6 dB. -/
def raisedHwEqBands : Fin maxEqBands → EqBand :=
  Function.update defaultHwEqBands ⟨0, by decide⟩
    { defaultHwEqBands ⟨0, by decide⟩ with gainDb := ⟨0x40C00000⟩ }

/-- Two frames in place in one block, or one by one into a separate buffer, while
the raised curve is faded in. -/
theorem independentOfCuts_two :
    letI := exactArithWith Real.tanh
    let stage : HwEqStage ℝ :=
      (HwEqStage.new defaultHwEqBands 48000).publish (.new raisedHwEqBands 48000)
    let whole : Cut ℝ := ⟨true, fun _ _ _ => 0, [[fun _ => 1, fun _ => 2]]⟩
    let single : Cut ℝ := ⟨false, fun _ _ _ => 0, [[fun _ => 1], [fun _ => 2]]⟩
    stage.slot.Takes ∧
      ∃ output, whole.output HwEqStage.processInto stage = some output ∧
        single.output HwEqStage.processInto stage = some output := by
  intro stage whole single
  let _ := exactArithWith Real.tanh
  have hsound : stage.Sound :=
    FilterStage.Sound.publish
      (FilterStage.sound_new (GraphicEqFilter.new defaultHwEqBands 48000) 48000)
      (GraphicEqFilter.new raisedHwEqBands 48000)
  have hwhole : whole.Cuts [fun _ => 1, fun _ => 2] := by
    constructor
    case flatten => rfl
    case ne_nil => simp [whole]
    case length_le => simp [whole, maxProcessFrames]
  have hsingle : single.Cuts [fun _ => 1, fun _ => 2] := by
    constructor
    case flatten => rfl
    case ne_nil => simp [single]
    case length_le => simp [single, maxProcessFrames]
  refine ⟨⟨rfl, rfl⟩, (independentOfCuts Real.tanh).1 stage _ whole single hsound
    hwhole hsingle ?_ ?_⟩
  · intro past block hpast hne
    have hlength := hpast.length_le
    rw [List.length_append] at hlength
    exact absurd (List.length_eq_zero_iff.mp (by simpa [whole] using hlength)) hne
  · intro past block hpast hne run hrun htakes
    match past, hne with
    | first :: rest, _ =>
        have hlength := hpast.length_le
        obtain ⟨rfl, -⟩ := List.cons_prefix_cons.mp hpast
        have hrest : rest = [] := by
          apply List.length_eq_zero_iff.mp
          simpa [single] using hlength
        rw [hrest, runFrom_singleton] at hrun
        exact StageRun.not_takes_of_step HwEqStage.rendersBy hsound
          (by simp [maxProcessFrames]) ⟨rfl, rfl⟩ hrun htakes

end RamkolFX
