import RamkolFX.Daemon.EngineSteps
import RamkolFX.Support.Runs

/-!
# Muted speakers

A muted speaker's samples are zeroed before anything else looks at a captured
block, so no mode, crossfade or filter state carries them on: two captures that
differ only there render the same stereo samples and leave the same engine.
-/

namespace RamkolFX

open Support

namespace AudioEngine

variable {α : Type} [FloatArith α]

/-! ## What is heard of a captured block -/

/-- Two captured frames agree on the LFE channel and on the channels of the
speakers that are not muted. -/
structure SameUnmuted (layout : SpeakerLayout)
    (frame frame' : SevenOneFrame α) : Prop where
  lfe : frame.at .lfe = frame'.at .lfe
  speaker : ∀ speaker, layout.speakerMuted speaker = false →
    frame (speakerToFrameIndex speaker) = frame' (speakerToFrameIndex speaker)

/-- Two captured blocks agree so in every frame. -/
def SameUnmutedBlock (layout : SpeakerLayout) :
    List (SevenOneFrame α) → List (SevenOneFrame α) → Prop :=
  List.Forall₂ (SameUnmuted layout)

/-! ## Muting -/

omit [FloatArith α] in
/-- A function that ignores the samples of the muted speakers makes frames that
agree on the rest equal. -/
theorem SameUnmuted.mapSpeakers_eq {layout : SpeakerLayout}
    {frame frame' : SevenOneFrame α} (h : SameUnmuted layout frame frame')
    {f : SpeakerChannel → α → α}
    (hmuted : ∀ speaker sample sample', layout.speakerMuted speaker = true →
      f speaker sample = f speaker sample') :
    mapSpeakers f frame = mapSpeakers f frame' := by
  funext channel
  rcases eq_lfe_or_speaker channel with rfl | ⟨speaker, rfl⟩
  · rw [mapSpeakers_lfe, mapSpeakers_lfe, h.lfe]
  · rw [mapSpeakers_speaker, mapSpeakers_speaker]
    cases hmute : layout.speakerMuted speaker with
    | false => rw [h.speaker speaker hmute]
    | true => exact hmuted speaker _ _ hmute

theorem applySpeakerMute_eq {layout : SpeakerLayout}
    {input input' : List (SevenOneFrame α)}
    (h : SameUnmutedBlock layout input input') :
    applySpeakerMute layout input = applySpeakerMute layout input' := by
  rw [applySpeakerMute, applySpeakerMute]
  split
  · -- nothing is muted: the frames agree everywhere
    rename_i hnone
    rw [← List.forall₂_eq_eq_eq]
    refine h.imp ?_
    intro frame frame' hframe
    funext channel
    rcases eq_lfe_or_speaker channel with rfl | ⟨speaker, rfl⟩
    · exact hframe.lfe
    · exact hframe.speaker speaker (hnone speaker)
  · rw [← List.forall₂_eq_eq_eq, List.forall₂_map_left_iff,
      List.forall₂_map_right_iff]
    refine h.imp ?_
    intro frame frame' hframe
    apply hframe.mapSpeakers_eq
    intro speaker sample sample' hmute
    rw [if_pos hmute, if_pos hmute]

/-- What the stages get to see of a block, and the noise generator behind it. -/
theorem captureInput_eq (engine : AudioEngine α)
    {block block' : List (SevenOneFrame α)}
    (h : SameUnmutedBlock engine.sharedLayout block block') :
    captureInput engine block = captureInput engine block' := by
  have htake : SameUnmutedBlock engine.sharedLayout
      (block.take maxProcessFrames) (block'.take maxProcessFrames) :=
    List.forall₂_take maxProcessFrames h
  simp only [captureInput]
  split
  · rw [htake.length_eq]
  · rw [applySpeakerMute_eq htake]

/-! ## Capturing block after block -/

/-- The stereo frames that are pushed for a captured block. -/
def stereoOutput (libs : DspLibraries α) (engine : AudioEngine α)
    (interleaved : List (SevenOneFrame α)) : Option (List (StereoFrame α)) := do
  let (output, _) ←
    processActiveStage libs engine (captureInput engine interleaved).1
  let (output, _) ← HwEqStage.process engine.hwEq output
  let (output, _) ← BassEnhancerStage.process engine.bassEnhancer output
  return output

/-- The engine, and the samples pushed to `StereoMixBuffer` so far. -/
structure Capture (α : Type) where
  engine : AudioEngine α
  pushed : List α := []

def Capture.handleVirtualSinkAudio (libs : DspLibraries α) (capture : Capture α)
    (interleaved : List (SevenOneFrame α)) : Option (Capture α) := do
  let output ← stereoOutput libs capture.engine interleaved
  let engine ←
    AudioEngine.handleVirtualSinkAudio libs capture.engine interleaved
  return ⟨engine, capture.pushed ++ interleave output⟩

/-- Handling a block pushes its stereo frames and keeps the layout. -/
theorem handleVirtualSinkAudio_pushes {libs : DspLibraries α}
    {engine engine' : AudioEngine α} {interleaved : List (SevenOneFrame α)}
    (h : handleVirtualSinkAudio libs engine interleaved = some engine') :
    engine'.sharedLayout = engine.sharedLayout ∧
      ∃ output, stereoOutput libs engine interleaved = some output ∧
        engine'.stereoMixBuffer =
          (engine.stereoMixBuffer.push (interleave output)).2 := by
  obtain ⟨⟨rendered, deck⟩, hrendered, h⟩ := Option.bind_eq_some_iff.mp h
  obtain ⟨⟨filtered, hwEq⟩, hfiltered, h⟩ := Option.bind_eq_some_iff.mp h
  obtain ⟨⟨output, bassEnhancer⟩, houtput, h⟩ := Option.bind_eq_some_iff.mp h
  obtain rfl := Option.some.inj h
  refine ⟨rfl, output, ?_, rfl⟩
  have hactive : processActiveStage libs engine
      (captureInput engine interleaved).1 = some (rendered, deck) := hrendered
  have hhwEq : HwEqStage.process engine.hwEq rendered = some (filtered, hwEq) :=
    hfiltered
  have hbass : BassEnhancerStage.process engine.bassEnhancer filtered =
      some (output, bassEnhancer) := houtput
  simp only [stereoOutput, hactive, hhwEq, hbass, Option.bind_eq_bind,
    Option.bind_some]
  rfl

namespace Capture

/-- Both are computed from the captured input alone. -/
theorem handleVirtualSinkAudio_eq (libs : DspLibraries α) (capture : Capture α)
    {block block' : List (SevenOneFrame α)}
    (h : SameUnmutedBlock capture.engine.sharedLayout block block') :
    capture.handleVirtualSinkAudio libs block =
      capture.handleVirtualSinkAudio libs block' := by
  simp only [Capture.handleVirtualSinkAudio, stereoOutput,
    AudioEngine.handleVirtualSinkAudio, captureInput_eq capture.engine h]

theorem sharedLayout_of_handle {libs : DspLibraries α}
    {capture capture' : Capture α} {block : List (SevenOneFrame α)}
    (h : capture.handleVirtualSinkAudio libs block = some capture') :
    capture'.engine.sharedLayout = capture.engine.sharedLayout := by
  obtain ⟨output, -, h⟩ := Option.bind_eq_some_iff.mp h
  obtain ⟨engine', hengine, h⟩ := Option.bind_eq_some_iff.mp h
  obtain rfl := Option.some.inj h
  exact (handleVirtualSinkAudio_pushes hengine).1

/-- An engine whose stages hold no null pointer handles every block. -/
theorem exists_of_sound (libs : DspLibraries α) {capture : Capture α}
    (hsound : capture.engine.Sound) (block : List (SevenOneFrame α)) :
    ∃ capture', capture.handleVirtualSinkAudio libs block = some capture' ∧
      capture'.engine.Sound := by
  obtain ⟨engine', hhandle, hrendered⟩ :=
    hsound.handleVirtualSinkAudio libs block
  obtain ⟨-, output, houtput, -⟩ := handleVirtualSinkAudio_pushes hhandle
  refine ⟨⟨engine', capture.pushed ++ interleave output⟩, ?_, hrendered.sound⟩
  simp only [Capture.handleVirtualSinkAudio, houtput, hhandle,
    Option.bind_eq_bind, Option.bind_some]
  rfl

end Capture

/-- Two captures that differ only in the samples of muted speakers push the
same samples to `StereoMixBuffer` and end in the same engine, from any state in
any mode; and an engine whose stages hold no null pointer handles them all. -/
theorem mutedSpeakers_unheard (libs : DspLibraries α) (engine : AudioEngine α)
    {blocks blocks' : List (List (SevenOneFrame α))}
    (h : List.Forall₂ (SameUnmutedBlock engine.sharedLayout) blocks blocks') :
    runFrom (Capture.handleVirtualSinkAudio libs) ⟨engine, []⟩ blocks =
        runFrom (Capture.handleVirtualSinkAudio libs) ⟨engine, []⟩ blocks' ∧
      (engine.Sound → ∃ capture,
        runFrom (Capture.handleVirtualSinkAudio libs) ⟨engine, []⟩ blocks =
          some capture) := by
  constructor
  · refine runFrom_eq_of_forall₂
      (fun capture => capture.engine.sharedLayout = engine.sharedLayout)
      ?_ ?_ h rfl
    · intro capture block capture' hlayout hhandle
      exact (Capture.sharedLayout_of_handle hhandle).trans hlayout
    · intro capture block block' hlayout hsame
      rw [← hlayout] at hsame
      exact Capture.handleVirtualSinkAudio_eq libs capture hsame
  · intro hsound
    have hevery : AtEachEvent (fun _ _ => True) blocks :=
      fun _ _ _ => trivial
    obtain ⟨capture, hrun, -⟩ :=
      runFrom_invariant (Capture.handleVirtualSinkAudio libs)
        (fun _ capture => capture.engine.Sound) (s := ⟨engine, []⟩) hsound
        (fun _ capture block _ hcapture _ =>
          Capture.exists_of_sound libs hcapture block) hevery
    exact ⟨capture, hrun⟩

/-- With the front left speaker muted, whatever its channel carries. -/
theorem mutedSpeakers_unheard_frontLeft :
    let engine : AudioEngine ℝ :=
      { run exactSetup ⟨none, true⟩ .new with
        sharedLayout := SpeakerLayout.new.setSpeakerMuted 0 true }
    runFrom (Capture.handleVirtualSinkAudio exactSetup.libs) ⟨engine, []⟩
        [[fun _ => 0]] =
      runFrom (Capture.handleVirtualSinkAudio exactSetup.libs) ⟨engine, []⟩
        [[Function.update (fun _ => 0) 0 1]] := by
  intro engine
  have hframe : SameUnmuted (α := ℝ) engine.sharedLayout (fun _ => 0)
      (Function.update (fun _ => 0) 0 1) := by
    constructor
    · rfl
    · intro speaker hspeaker
      have hne : speakerToFrameIndex speaker ≠ 0 := by
        revert hspeaker
        revert speaker
        decide
      rw [Function.update_of_ne hne]
  exact (mutedSpeakers_unheard exactSetup.libs engine
    (.cons (.cons hframe .nil) .nil)).1

end AudioEngine

end RamkolFX
