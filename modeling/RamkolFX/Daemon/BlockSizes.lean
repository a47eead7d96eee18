import RamkolFX.Daemon.MutedSpeakers
import RamkolFX.Daemon.TestNoise
import RamkolFX.Daemon.VoicePositions
import RamkolFX.Dsp.ToggleSlot

/-!
# The size of the blocks

The sizes of the blocks that the sink is called back with are not the daemon's
choice.  In exact arithmetic they are not heard either: from any state of a running
daemon in which no second fade waits for the end of a first one, the samples pushed
to the hardware side depend on the captured stream alone, in every mode, with test
noise, mutes and near-field loudness, and in the middle of any fade.
-/

namespace RamkolFX

open Support

namespace FilterStage

variable {F : Type}

theorem seamless {step : F → StereoFrame ℝ → StereoFrame ℝ × F}
    {runOne : F → List (StereoFrame ℝ) → List (StereoFrame ℝ) × F}
    (hrun : ∀ filter input, runOne filter input = transduce step filter input) :
    Seamless FitsStage (fun stage : FilterStage F ℝ => stage.slot.FadesOnce fun _ => True)
      (fun stage stage' => stage.slot.Related Eq stage'.slot)
      (fun stage input => stage.process runOne input) := by
  have hfilter : Seamless FitsStage (fun _ : F => True) Eq
      fun filter input => some (runOne filter input) := by
    refine .of_append ?_ ?_
    · intro filter input
      rw [hrun, length_transduce]
    · intro filter front back
      simp only [hrun, transduce_append]
  exact (CrossfadingSlot.seamless hfilter (fun _ hfits => hfits) (endsExactly Real.tanh)).lift
    slot (fun stage slot => { stage with slot }) fun _ _ => rfl

end FilterStage

namespace AudioEngine

/-! ## What the stages get to see -/

/-- Captured frames, from a state of the noise generator. -/
noncomputable def captured (engine : AudioEngine ℝ) (noiseState : UInt32)
    (input : List (SevenOneFrame ℝ)) : List (SevenOneFrame ℝ) × UInt32 :=
  let drawn :=
    if engine.bTestNoiseEnabled then fillTestNoise input.length noiseState
    else (input, noiseState)
  (applyNearFieldLoudnessFalloff engine.bNearFieldEnabled engine.sharedLayout
    (applySpeakerMute engine.sharedLayout drawn.1), drawn.2)

theorem captureInput_eq_captured (engine : AudioEngine ℝ)
    (input : List (SevenOneFrame ℝ)) :
    captureInput engine input =
      captured engine engine.noiseState (input.take maxProcessFrames) := by
  rw [captureInput, captured]

theorem fillTestNoise_succ (frames : ℕ) (noiseState : UInt32) :
    (fillTestNoise (frames + 1) noiseState : List (SevenOneFrame ℝ) × UInt32) =
      let drawn : SevenOneFrame ℝ × UInt32 := testNoiseFrame noiseState
      (drawn.1 :: (fillTestNoise frames drawn.2).1,
        (fillTestNoise frames drawn.2 : List (SevenOneFrame ℝ) × UInt32).2) := rfl

theorem length_fillTestNoise (frames : ℕ) (noiseState : UInt32) :
    (fillTestNoise frames noiseState : List (SevenOneFrame ℝ) × UInt32).1.length =
      frames := by
  rw [fillTestNoise_eq, List.length_map, List.length_range]

theorem fillTestNoise_add (front back : ℕ) (noiseState : UInt32) :
    (fillTestNoise (front + back) noiseState : List (SevenOneFrame ℝ) × UInt32) =
      let drawn : List (SevenOneFrame ℝ) × UInt32 := fillTestNoise front noiseState
      (drawn.1 ++ (fillTestNoise back drawn.2).1,
        (fillTestNoise back drawn.2 : List (SevenOneFrame ℝ) × UInt32).2) := by
  induction front generalizing noiseState with
  | zero => rw [Nat.zero_add]; rfl
  | succ front ih =>
      rw [Nat.succ_add, fillTestNoise_succ, fillTestNoise_succ]
      simp only [ih, List.cons_append]

theorem applySpeakerMute_append (layout : SpeakerLayout)
    (front back : List (SevenOneFrame ℝ)) :
    applySpeakerMute layout (front ++ back) =
      applySpeakerMute layout front ++ applySpeakerMute layout back := by
  rw [applySpeakerMute, applySpeakerMute, applySpeakerMute]
  split
  · rfl
  · exact List.map_append

theorem applyNearFieldLoudnessFalloff_append (bNearFieldEnabled : Bool)
    (layout : SpeakerLayout) (front back : List (SevenOneFrame ℝ)) :
    applyNearFieldLoudnessFalloff bNearFieldEnabled layout (front ++ back) =
      applyNearFieldLoudnessFalloff bNearFieldEnabled layout front ++
        applyNearFieldLoudnessFalloff bNearFieldEnabled layout back := by
  rw [applyNearFieldLoudnessFalloff, applyNearFieldLoudnessFalloff,
    applyNearFieldLoudnessFalloff]
  split
  · exact List.map_append
  · rfl

theorem length_captured (engine : AudioEngine ℝ) (noiseState : UInt32)
    (input : List (SevenOneFrame ℝ)) :
    (captured engine noiseState input).1.length = input.length := by
  have hmute : ∀ frames : List (SevenOneFrame ℝ),
      (applySpeakerMute engine.sharedLayout frames).length = frames.length := by
    intro frames
    rw [applySpeakerMute]
    split
    · rfl
    · exact List.length_map _
  have hfalloff : ∀ frames : List (SevenOneFrame ℝ),
      (applyNearFieldLoudnessFalloff engine.bNearFieldEnabled engine.sharedLayout
        frames).length = frames.length := by
    intro frames
    rw [applyNearFieldLoudnessFalloff]
    split
    · exact List.length_map _
    · rfl
  rw [captured, hfalloff, hmute]
  split
  · exact length_fillTestNoise _ _
  · rfl

theorem captured_append (engine : AudioEngine ℝ) (noiseState : UInt32)
    (front back : List (SevenOneFrame ℝ)) :
    captured engine noiseState (front ++ back) =
      ((captured engine noiseState front).1 ++
          (captured engine (captured engine noiseState front).2 back).1,
        (captured engine (captured engine noiseState front).2 back).2) := by
  simp only [captured]
  split
  · rw [List.length_append, fillTestNoise_add, applySpeakerMute_append,
      applyNearFieldLoudnessFalloff_append]
  · rw [applySpeakerMute_append, applyNearFieldLoudnessFalloff_append]

/-! ## What the stages make of it -/

/-- The stage of the modes that do not convolve. -/
noncomputable def plainStage (engine : AudioEngine ℝ) (input : List (SevenOneFrame ℝ)) :
    List (StereoFrame ℝ) :=
  if engine.mode = .basic then AmbisonicsStage.process engine.sharedLayout input
  else PassthroughStage.process input

/-- The active stage: nothing of it is left behind by a block, or a deck. -/
noncomputable def processActiveHeard (engine : AudioEngine ℝ) :
    Unit ⊕ CrossfadingSlot HeardStage → List (SevenOneFrame ℝ) →
      Option (List (StereoFrame ℝ) × (Unit ⊕ CrossfadingSlot HeardStage)) :=
  choice (fun stage input => some (plainStage engine input, stage))
    fun deck input => deck.process (HeardStage.process engine.sharedLayout) input

/-- What is still to be heard of an engine: of the noise generator, of the active
stage, and of the two filters. -/
abbrev HeardEngine := UInt32 ×
  ((Unit ⊕ CrossfadingSlot HeardStage) × (HwEqStage ℝ × BassEnhancerStage ℝ))

/-- A block, through everything that is still to be heard. -/
noncomputable def processHeard (engine : AudioEngine ℝ) :
    HeardEngine → List (SevenOneFrame ℝ) → Option (List (StereoFrame ℝ) × HeardEngine) :=
  pipe (fun noiseState input => some (captured engine noiseState input))
    (pipe (processActiveHeard engine) (pipe HwEqStage.process BassEnhancerStage.process))

/-- Nothing that is still to be heard waits for the end of a fade. -/
abbrev CalmHeard (heard : HeardEngine) : Prop :=
  True ∧ Sum.elim (fun _ => True) (CrossfadingSlot.FadesOnce HeardStage.Calm) heard.2.1 ∧
    heard.2.2.1.slot.FadesOnce (fun _ => True) ∧ heard.2.2.2.slot.FadesOnce fun _ => True

abbrev AlikeHeard (heard heard' : HeardEngine) : Prop :=
  heard.1 = heard'.1 ∧
    Sum.LiftRel Eq (CrossfadingSlot.Related HeardStage.Alike) heard.2.1 heard'.2.1 ∧
    heard.2.2.1.slot.Related Eq heard'.2.2.1.slot ∧
    heard.2.2.2.slot.Related Eq heard'.2.2.2.slot

theorem seamless_processHeard (engine : AudioEngine ℝ) :
    Seamless FitsStage CalmHeard AlikeHeard (processHeard engine) := by
  have hplain : Seamless FitsStage (fun _ : Unit => True) Eq
      fun stage input => some (plainStage engine input, stage) := by
    refine .of_append ?_ ?_
    · intro stage input
      rw [plainStage]
      split <;> exact List.length_map _
    · intro stage front back
      simp only [plainStage]
      split <;> exact congrArg (·, stage) List.map_append
  exact .pipe (.of_append (length_captured engine) (captured_append engine))
    (.pipe
      (.choice hplain (CrossfadingSlot.seamless (HeardStage.seamless engine.sharedLayout)
        (fun _ hfits => hfits) (endsExactly Real.tanh)))
      (.pipe (FilterStage.seamless GraphicEqFilter.process_eq_transduce)
        (FilterStage.seamless BassEnhancerFilter.process_eq_transduce)))

/-! ## Blocks -/

/-- A block of captured audio: the frames pushed for it, and the engine behind it. -/
noncomputable def renderBlock (libs : DspLibraries ℝ) (engine : AudioEngine ℝ)
    (interleaved : List (SevenOneFrame ℝ)) :
    Option (List (StereoFrame ℝ) × AudioEngine ℝ) := do
  let output ← stereoOutput libs engine interleaved
  let engine ← handleVirtualSinkAudio libs engine interleaved
  return (output, engine)

theorem renderBlock_eq (libs : DspLibraries ℝ) (engine : AudioEngine ℝ)
    (interleaved : List (SevenOneFrame ℝ)) :
    renderBlock libs engine interleaved =
      (processActiveStage libs engine (captureInput engine interleaved).1).bind
        fun rendered => (HwEqStage.process engine.hwEq rendered.1).bind
          fun filtered => (BassEnhancerStage.process engine.bassEnhancer filtered.1).bind
            fun enhanced => some (enhanced.1,
              { engine with
                noiseState := (captureInput engine interleaved).2
                advancedStage := rendered.2
                hwEq := filtered.2
                bassEnhancer := enhanced.2
                stereoMixBuffer :=
                  (engine.stereoMixBuffer.push (interleave enhanced.1)).2 }) := by
  simp only [renderBlock, stereoOutput, handleVirtualSinkAudio, Option.bind_eq_bind]
  cases processActiveStage libs engine (captureInput engine interleaved).1 with
  | none => rfl
  | some rendered =>
      simp only [Option.bind_some]
      cases HwEqStage.process engine.hwEq rendered.1 with
      | none => rfl
      | some filtered =>
          simp only [Option.bind_some]
          cases BassEnhancerStage.process engine.bassEnhancer filtered.1 with
          | none => rfl
          | some enhanced => rfl

/-- Blocks pushed one after the other. -/
theorem exists_capture {libs : DspLibraries ℝ} {engine : AudioEngine ℝ}
    {blocks : List (List (SevenOneFrame ℝ))} {answers : List (List (StereoFrame ℝ))}
    (h : outputs (renderBlock libs) engine blocks = some answers) (pushed : List ℝ) :
    ∃ capture, runFrom (Capture.handleVirtualSinkAudio libs) ⟨engine, pushed⟩ blocks =
        some capture ∧ capture.pushed = pushed ++ interleave answers.flatten := by
  induction blocks generalizing engine answers pushed with
  | nil =>
      obtain rfl := Option.some.inj h
      exact ⟨_, rfl, (List.append_nil pushed).symm⟩
  | cons block blocks ih =>
      obtain ⟨⟨output, engine'⟩, hblock, h⟩ := Option.bind_eq_some_iff.mp h
      obtain ⟨rest, hrest, rfl⟩ := Option.map_eq_some_iff.mp h
      obtain ⟨output', houtput, hblock⟩ := Option.bind_eq_some_iff.mp hblock
      obtain ⟨engine'', hengine, hblock⟩ := Option.bind_eq_some_iff.mp hblock
      obtain ⟨rfl, rfl⟩ := Prod.mk.inj (Option.some.inj hblock)
      obtain ⟨capture, hrun, hpushed⟩ := ih hrest (pushed ++ interleave output')
      have hstep : Capture.handleVirtualSinkAudio libs ⟨engine, pushed⟩ block =
          some ⟨engine'', pushed ++ interleave output'⟩ := by
        simp only [Capture.handleVirtualSinkAudio, houtput, hengine, Option.bind_eq_bind,
          Option.bind_some]
        rfl
      refine ⟨capture, ?_, ?_⟩
      · rw [runFrom, List.foldlM_cons, hstep]
        exact hrun
      · rw [hpushed, List.append_assoc, List.flatten_cons]
        simp only [interleave, List.flatMap_append]

/-- A block that the active stage renders at once, and whole blocks of the convolver
where it convolves. -/
def FitsBlock (engine : AudioEngine ℝ) (frames : ℕ) : Prop :=
  FitsStage frames ∧ (engine.mode = .advanced → blockSamples ∣ frames)

/-- What is still to be heard of an engine that has the settings of this one. -/
structure HeardAs (fft : RealFft ℝ) (engine later : AudioEngine ℝ) (heard : HeardEngine) :
    Prop where
  mode : later.mode = engine.mode
  sharedLayout : later.sharedLayout = engine.sharedLayout
  bTestNoiseEnabled : later.bTestNoiseEnabled = engine.bTestNoiseEnabled
  bNearFieldEnabled : later.bNearFieldEnabled = engine.bNearFieldEnabled
  noiseState : later.noiseState = heard.1
  active : Sum.elim (fun _ => engine.mode ≠ .advanced)
    (fun deck => engine.mode = .advanced ∧ later.advancedStage.Heard fft deck) heard.2.1
  hwEq : later.hwEq = heard.2.2.1
  bassEnhancer : later.bassEnhancer = heard.2.2.2

variable {libs : DspLibraries ℝ} {engine later : AudioEngine ℝ} {heard : HeardEngine}
  {input : List (SevenOneFrame ℝ)}

theorem HeardAs.captureInput (h : HeardAs libs.fft engine later heard)
    (hfits : FitsStage input.length) :
    AudioEngine.captureInput later input = captured engine heard.1 input := by
  rw [captureInput_eq_captured, List.take_of_length_le hfits, captured, captured,
    h.bTestNoiseEnabled, h.bNearFieldEnabled, h.sharedLayout, h.noiseState]

/-- The active stage, on what it gets to see of a block. -/
theorem HeardAs.processActiveStage (h : HeardAs libs.fft engine later heard)
    (hfft : PartitionedConvolver.IsExact libs.fft) (hfits : engine.FitsBlock input.length) :
    Answers
      (fun deck active => Sum.elim (fun _ => engine.mode ≠ .advanced)
        (fun heard => engine.mode = .advanced ∧ deck.Heard libs.fft heard) active)
      (AudioEngine.processActiveStage libs later input)
      (processActiveHeard engine heard.2.1 input) := by
  obtain ⟨noiseState, active, filters⟩ := heard
  have hactive := h.active
  rw [AudioEngine.processActiveStage, h.mode, h.sharedLayout]
  cases active with
  | inl stage =>
      have hplain : engine.mode ≠ .advanced := hactive
      have hchoice : processActiveHeard engine (.inl stage) input =
          some (plainStage engine input, .inl stage) := rfl
      rw [hchoice, plainStage, if_neg hplain]
      split <;> exact .some ⟨rfl, hplain⟩
  | inr deck =>
      obtain ⟨hadvanced, hdeck⟩ := hactive
      have hbasic : engine.mode ≠ .basic := by
        rw [hadvanced]
        decide
      rw [if_neg hbasic, if_pos hadvanced]
      have hanswers := hdeck.process hfft engine.sharedLayout hfits.1 (hfits.2 hadvanced)
      have hchoice : processActiveHeard engine (.inr deck) input =
          (deck.process (HeardStage.process engine.sharedLayout) input).map
            fun answer => (answer.1, .inr answer.2) := rfl
      rw [hchoice]
      generalize later.advancedStage.process libs engine.sharedLayout input = answer,
        deck.process (HeardStage.process engine.sharedLayout) input = answer' at hanswers
      cases hanswers with
      | none => exact .none
      | some hrelated => exact .some ⟨hrelated.1, hadvanced, hrelated.2⟩

theorem HeardAs.renderBlock (h : HeardAs libs.fft engine later heard)
    (hfft : PartitionedConvolver.IsExact libs.fft) (hfits : engine.FitsBlock input.length) :
    Answers (HeardAs libs.fft engine) (AudioEngine.renderBlock libs later input)
      (processHeard engine heard input) := by
  have hseen : engine.FitsBlock (captured engine heard.1 input).1.length := by
    rwa [length_captured]
  have hactive := h.processActiveStage hfft hseen
  rw [renderBlock_eq, h.captureInput hfits.1]
  simp only [processHeard, pipe, Option.bind_some]
  generalize AudioEngine.processActiveStage libs later (captured engine heard.1 input).1 =
    answer, processActiveHeard engine heard.2.1 (captured engine heard.1 input).1 = answer'
    at hactive
  cases hactive with
  | none => exact .none
  | @some rendered rendered' hrelated =>
      obtain ⟨hsame, hnext⟩ := hrelated
      rw [Option.bind_some, Option.bind_some, hsame, h.hwEq]
      cases hfiltered : HwEqStage.process heard.2.2.1 rendered'.1 with
      | none => exact .none
      | some filtered =>
          rw [Option.bind_some, Option.bind_some, h.bassEnhancer]
          cases BassEnhancerStage.process heard.2.2.2 filtered.1 with
          | none => exact .none
          | some enhanced =>
              exact .some ⟨rfl, h.mode, h.sharedLayout, h.bTestNoiseEnabled,
                h.bNearFieldEnabled, rfl, hnext, rfl, rfl⟩

/-! ## Running daemons -/

/-- Nothing waits for the end of a fade: no second filter behind one that is faded in,
and in the mode that convolves no HRTF, no toggle and no position. -/
structure Calm (engine : AudioEngine ℝ) : Prop where
  advancedStage : engine.mode = .advanced → engine.advancedStage.Calm
  hwEq : engine.hwEq.slot.FadesOnce fun _ => True
  bassEnhancer : engine.bassEnhancer.slot.FadesOnce fun _ => True

/-- From a calm state, two cuts of a stream are heard alike. -/
theorem Calm.outputs_of_cuts (hcalm : engine.Calm) {direct : DirectDeck}
    (hconvolves : DirectDeck.Convolves libs.fft engine.advancedStage direct)
    (hfft : PartitionedConvolver.IsExact libs.fft)
    {blocks blocks' : List (List (SevenOneFrame ℝ))}
    (hblocks : ∀ block ∈ blocks, engine.FitsBlock block.length)
    (hblocks' : ∀ block ∈ blocks', engine.FitsBlock block.length)
    (hstream : blocks.flatten = blocks'.flatten) :
    ∃ answers answers', outputs (AudioEngine.renderBlock libs) engine blocks = some answers ∧
      outputs (AudioEngine.renderBlock libs) engine blocks' = some answers' ∧
      answers.flatten = answers'.flatten := by
  have hseamless := seamless_processHeard engine
  obtain ⟨heard, hheard, hcalmHeard⟩ :
      ∃ heard, HeardAs libs.fft engine engine heard ∧ CalmHeard heard := by
    by_cases hadvanced : engine.mode = .advanced
    · obtain ⟨deck, hdeck⟩ := (hcalm.advancedStage hadvanced).exists_heard hconvolves
      exact ⟨(engine.noiseState, .inr deck, engine.hwEq, engine.bassEnhancer),
        ⟨rfl, rfl, rfl, rfl, rfl, ⟨hadvanced, hdeck⟩, rfl, rfl⟩, trivial, hdeck.calm,
        hcalm.hwEq, hcalm.bassEnhancer⟩
    · exact ⟨(engine.noiseState, .inl (), engine.hwEq, engine.bassEnhancer),
        ⟨rfl, rfl, rfl, rfl, rfl, hadvanced, rfl, rfl⟩, trivial, trivial, hcalm.hwEq,
        hcalm.bassEnhancer⟩
  have hsame : ∀ blocks : List (List (SevenOneFrame ℝ)),
      (∀ block ∈ blocks, engine.FitsBlock block.length) →
      outputs (AudioEngine.renderBlock libs) engine blocks =
        outputs (processHeard engine) heard blocks := by
    intro blocks hblocks
    exact outputs_eq (fun later heard input hheard hfits =>
      hheard.renderBlock hfft hfits) hheard hblocks
  have hfits : ∀ block ∈ blocks, FitsStage block.length :=
    fun block hblock => (hblocks block hblock).1
  have hfits' : ∀ block ∈ blocks', FitsStage block.length :=
    fun block hblock => (hblocks' block hblock).1
  obtain ⟨answers, hanswers, -⟩ := hseamless.exists_outputs hcalmHeard hfits
  obtain ⟨answers', hanswers', -⟩ := hseamless.exists_outputs hcalmHeard hfits'
  have hflatten := hseamless.flatten_outputs (fun m n _ h => (Nat.le_add_left n m).trans h)
    (hseamless.equivalence.refl heard) hcalmHeard hcalmHeard hfits hfits' hstream
  rw [hanswers, hanswers'] at hflatten
  exact ⟨answers, answers', (hsame blocks hblocks).trans hanswers,
    (hsame blocks' hblocks').trans hanswers', Option.some.inj hflatten⟩

/-- The deck convolves what it has been given since it was loaded. -/
def Convolves (libs : DspLibraries ℝ) (engine : AudioEngine ℝ) : Prop :=
  ∃ direct, DirectDeck.Convolves libs.fft engine.advancedStage direct

/-- An operation of the deck that succeeds. -/
theorem convolves_of_operate {deck deck' : HrtfDeck ℝ} {direct : DirectDeck}
    (h : DirectDeck.Convolves libs.fft deck direct)
    (hfft : PartitionedConvolver.IsExact libs.fft) {operation : DeckOperation}
    {frames : List (StereoFrame ℝ)}
    (hoperate : deck.operate libs operation = some (frames, deck'))
    (hwhole : operation.Whole) :
    ∃ direct', DirectDeck.Convolves libs.fft deck' direct' := by
  have hanswers := h.operate hfft hwhole
  rw [hoperate] at hanswers
  generalize direct.operate libs operation = answer at hanswers
  cases hanswers with
  | some hrelated => exact ⟨_, hrelated.2⟩

theorem convolves_of_rebuild {deck deck' : HrtfDeck ℝ} {direct : DirectDeck}
    (h : DirectDeck.Convolves libs.fft deck direct)
    (hfft : PartitionedConvolver.IsExact libs.fft) {speaker : SpeakerChannel}
    {azimuthDegrees distanceMeters : Binary32}
    (hrebuild : deck.rebuildVoiceForSpeaker libs speaker azimuthDegrees distanceMeters =
      some deck') : ∃ direct', DirectDeck.Convolves libs.fft deck' direct' := by
  have hoperate : deck.operate libs
      (.rebuildVoiceForSpeaker speaker azimuthDegrees distanceMeters) = some ([], deck') := by
    rw [HrtfDeck.operate, hrebuild]
    rfl
  exact convolves_of_operate h hfft hoperate trivial

/-- Voices rebuilt one after the other. -/
theorem convolves_of_rebuiltDeck (hfft : PartitionedConvolver.IsExact libs.fft)
    (layout : SpeakerLayout) {speakers : List SpeakerChannel} {deck deck' : HrtfDeck ℝ}
    {direct : DirectDeck} (h : DirectDeck.Convolves libs.fft deck direct)
    (hrebuilt : rebuiltDeck libs layout deck speakers = some deck') :
    ∃ direct', DirectDeck.Convolves libs.fft deck' direct' := by
  induction speakers generalizing deck direct with
  | nil =>
      obtain rfl := Option.some.inj hrebuilt
      exact ⟨direct, h⟩
  | cons speaker speakers ih =>
      rw [rebuiltDeck, List.foldlM_cons] at hrebuilt
      obtain ⟨next, hnext, hrest⟩ := Option.bind_eq_some_iff.mp hrebuilt
      obtain ⟨direct', h'⟩ := convolves_of_rebuild h hfft hnext
      exact ih h' hrest

variable {engine' : AudioEngine ℝ} {inCommand : Command}

theorem Convolves.applies (h : engine.Convolves libs)
    (hfft : PartitionedConvolver.IsExact libs.fft)
    (happlies : Applies libs engine inCommand engine') : engine'.Convolves libs := by
  obtain ⟨direct, hdirect⟩ := h
  cases happlies with
  | setSpeakerAzimuth hop channel hchannel deck hdeck =>
      exact convolves_of_rebuild hdirect hfft hdeck
  | setSpeakerDistance hop channel hchannel deck hdeck =>
      exact convolves_of_rebuild hdirect hfft hdeck
  | setNearFieldEnabled hop deck hdeck =>
      have hoperate : engine.advancedStage.operate libs
          (.setNearFieldEnabled inCommand.bNearFieldEnabled) = some ([], deck) := by
        rw [HrtfDeck.operate, hdeck]
        rfl
      exact convolves_of_operate hdirect hfft hoperate trivial
  | resetSpeakerPositions hop deck hdeck =>
      exact convolves_of_rebuiltDeck hfft _ hdirect hdeck
  | setHrtfFile hop entry hentry =>
      have hoperate : engine.advancedStage.operate libs
          (.switchTo engine.sharedLayout entry.kind entry.path) =
            some ([], engine.advancedStage.switchTo libs engine.sharedLayout entry.kind
              entry.path) := rfl
      exact convolves_of_operate hdirect hfft hoperate trivial
  | _ => exact ⟨direct, hdirect⟩

theorem Convolves.handled (h : engine.Convolves libs)
    (hfft : PartitionedConvolver.IsExact libs.fft)
    (hhandled : Handled libs engine inCommand engine') : engine'.Convolves libs := by
  obtain ⟨direct, hdirect⟩ := h
  obtain ⟨deck, applied, settings, hdeck, happlies, rfl⟩ := hhandled.applied
  have hoperate : engine.advancedStage.operate libs .collectGarbage = some ([], deck) := by
    rw [HrtfDeck.operate, hdeck]
    rfl
  have hcollected : Convolves libs
      { engine with
        advancedStage := deck
        hwEq := engine.hwEq.collectGarbage
        bassEnhancer := engine.bassEnhancer.collectGarbage } :=
    convolves_of_operate hdirect hfft hoperate trivial
  have happlied : applied.Convolves libs := hcollected.applies hfft happlies
  exact happlied

/-- A block that the mode lets through whole. -/
theorem Convolves.handleVirtualSinkAudio (h : engine.Convolves libs)
    (hfft : PartitionedConvolver.IsExact libs.fft)
    (hwhole : engine.mode = .advanced → blockSamples ∣ input.length)
    (hhandle : AudioEngine.handleVirtualSinkAudio libs engine input = some engine') :
    engine'.Convolves libs := by
  obtain ⟨direct, hdirect⟩ := h
  obtain ⟨⟨rendered, deck⟩, hrendered, hhandle⟩ := Option.bind_eq_some_iff.mp hhandle
  obtain ⟨⟨filtered, hwEq⟩, hfiltered, hhandle⟩ := Option.bind_eq_some_iff.mp hhandle
  obtain ⟨⟨enhanced, bass⟩, henhanced, hhandle⟩ := Option.bind_eq_some_iff.mp hhandle
  obtain rfl := Option.some.inj hhandle
  have hactive : processActiveStage libs engine (captureInput engine input).1 =
      some (rendered, deck) := hrendered
  rw [processActiveStage] at hactive
  split at hactive
  · obtain ⟨-, rfl⟩ := Prod.mk.inj (Option.some.inj hactive)
    exact ⟨direct, hdirect⟩
  · split at hactive
    · rename_i hadvanced
      have hlength : blockSamples ∣ (captureInput engine input).1.length := by
        rw [captureInput_eq_captured, length_captured]
        exact DirectVoice.dvd_length_take (hwhole hadvanced)
      have hoperate : engine.advancedStage.operate libs
          (.process engine.sharedLayout (captureInput engine input).1) =
            some (rendered, deck) := hactive
      exact convolves_of_operate hdirect hfft hoperate hlength
    · obtain ⟨-, rfl⟩ := Prod.mk.inj (Option.some.inj hactive)
      exact ⟨direct, hdirect⟩

/-- The blocks that the mode does not let through in pieces are whole. -/
def Event.WholeIn (mode : SpatialMode) : Event ℝ → Prop
  | .virtualSinkAudio interleaved => mode = .advanced → blockSamples ∣ interleaved.length
  | _ => True

theorem Convolves.takes {setup : DaemonSetup ℝ} {daemon daemon' : Daemon ℝ}
    {event : Event ℝ} (h : daemon.engine.Convolves setup.libs)
    (hfft : PartitionedConvolver.IsExact setup.libs.fft)
    (hwhole : event.WholeIn daemon.engine.mode) (htakes : Takes setup daemon event daemon') :
    daemon'.engine.Convolves setup.libs := by
  cases htakes with
  | undecoded frame bConnects hcommand => exact h
  | handled frame bConnects inCommand limit hcommand hbounds engine' hhandled =>
      exact h.handled hfft hhandled
  | rendered interleaved engine' hblock hrendered =>
      exact h.handleVirtualSinkAudio hfft hwhole hblock
  | hardwareOutputRequest | registry | hrtfDirectoryChanged => exact h

theorem convolves_run (setup : DaemonSetup ℝ) (store : SettingsStore)
    (devices : DeviceRegistry) : (run setup store devices).Convolves setup.libs :=
  ⟨_, DirectDeck.convolves_new _ _ _ _ _⟩

/-- Along a run, what the deck holds has been convolved. -/
theorem convolves_runFrom {setup : DaemonSetup ℝ}
    (hfft : PartitionedConvolver.IsExact setup.libs.fft) (store : SettingsStore)
    (devices : DeviceRegistry) {events : List (Event ℝ)}
    (hevents : AtEachEvent (fun past event => ∀ daemon,
      runFrom (step setup) ⟨run setup store devices, []⟩ past = some daemon →
      event.WholeIn daemon.engine.mode) events) :
    ∃ daemon, runFrom (step setup) ⟨run setup store devices, []⟩ events = some daemon ∧
      daemon.engine.Convolves setup.libs := by
  obtain ⟨daemon, hrun, -, hconvolves⟩ := runFrom_invariant (step setup)
    (fun _ daemon => daemon.engine.Sound ∧ daemon.engine.Convolves setup.libs)
    (s := ⟨run setup store devices, []⟩)
    ⟨sound_run setup store devices, convolves_run setup store devices⟩
    (by
      rintro past daemon event hrun ⟨hsound, hconvolves⟩ hwhole
      obtain ⟨daemon', hstep, htakes⟩ := hsound.exists_takes setup event
      exact ⟨daemon', hstep, (htakes.stepped hsound).sound,
        hconvolves.takes hfft (hwhole daemon hrun) htakes⟩)
    hevents
  exact ⟨daemon, hrun, hconvolves⟩

/-- After every run whose blocks are whole where the daemon convolves, and from every
state it reaches in which nothing waits for the end of a fade, what is pushed for a
stream of captured audio does not depend on how the stream is cut into blocks. -/
theorem pushed_of_cuts (setup : DaemonSetup ℝ)
    (hfft : PartitionedConvolver.IsExact setup.libs.fft) (store : SettingsStore)
    (devices : DeviceRegistry) (events : List (Event ℝ))
    (hevents : AtEachEvent (fun past event => ∀ daemon,
      runFrom (step setup) ⟨run setup store devices, []⟩ past = some daemon →
      event.WholeIn daemon.engine.mode) events) :
    ∃ daemon, runFrom (step setup) ⟨run setup store devices, []⟩ events = some daemon ∧
      ∀ blocks blocks' : List (List (SevenOneFrame ℝ)), daemon.engine.Calm →
        (∀ block ∈ blocks, daemon.engine.FitsBlock block.length) →
        (∀ block ∈ blocks', daemon.engine.FitsBlock block.length) →
        blocks.flatten = blocks'.flatten →
        ∃ capture capture',
          runFrom (Capture.handleVirtualSinkAudio setup.libs) ⟨daemon.engine, []⟩ blocks =
            some capture ∧
          runFrom (Capture.handleVirtualSinkAudio setup.libs) ⟨daemon.engine, []⟩ blocks' =
            some capture' ∧
          capture.pushed = capture'.pushed := by
  obtain ⟨daemon, hrun, direct, hconvolves⟩ :=
    convolves_runFrom hfft store devices hevents
  refine ⟨daemon, hrun, fun blocks blocks' hcalm hblocks hblocks' hstream => ?_⟩
  obtain ⟨answers, answers', hanswers, hanswers', hsame⟩ :=
    hcalm.outputs_of_cuts hconvolves hfft hblocks hblocks' hstream
  obtain ⟨capture, hcapture, hpushed⟩ := exists_capture hanswers []
  obtain ⟨capture', hcapture', hpushed'⟩ := exists_capture hanswers' []
  refine ⟨capture, capture', hcapture, hcapture', ?_⟩
  rw [hpushed, hpushed', hsame]

theorem calm_run (setup : DaemonSetup ℝ) (store : SettingsStore)
    (devices : DeviceRegistry) : (run setup store devices).Calm :=
  ⟨fun _ => CrossfadingSlot.fadesOnce_initial (BinauralStage.calm_new _ _ _ _ _ _) _,
    CrossfadingSlot.fadesOnce_initial trivial _,
    CrossfadingSlot.fadesOnce_initial trivial _⟩

/-- The head is switched to, and the first band of the equalizer raised to 6 dB. -/
def toHead : List (Event ℝ) :=
  switched.map Played.event ++
    [.request ⟨Opcode.setHwEqBand.toByte,
      [0, 0, 0, 0, 0x7A, 0x44, 0, 0, 0xC0, 0x40, 0, 0, 0x80, 0x3F], by decide⟩ true]

/-- Another convolving stage and another curve wait to be taken. -/
structure AboutToFade (engine : AudioEngine ℝ) : Prop where
  mode : engine.mode = .advanced
  advancedStage : engine.advancedStage.slot.Takes
  hrtf : ∀ stage, engine.advancedStage.slot.pending = some stage → stage.hrtf.isSome
  hwEq : engine.hwEq.slot.Takes

theorem aboutToFade_toHead :
    ∃ daemon, runFrom (step headSetup) headDaemon toHead = some daemon ∧
      daemon.engine.AboutToFade ∧ daemon.engine.Calm := by
  rw [headDaemon_eq]
  refine ⟨_, rfl, ⟨rfl, ⟨rfl, rfl⟩, ?_, ⟨rfl, rfl⟩⟩, ⟨fun _ => ?_, ?_, ?_⟩⟩
  · rintro stage ⟨⟩
    rfl
  · have hlive := BinauralStage.calm_new headSetup.libs
    exact (CrossfadingSlot.fadesOnce_initial
      (hlive _ _ _ _ _).collectVoiceGarbage.collectVoiceGarbage.collectVoiceGarbage
      _).publish rfl (hlive _ _ _ _ _)
  · exact (calm_run headSetup ⟨none, true⟩ .new).hwEq.publish rfl trivial
  · exact (calm_run headSetup ⟨none, true⟩ .new).bassEnhancer

/-- 256 frames in one block or in two, while the stage and the curve are faded in. -/
theorem pushed_of_cuts_toHead :
    ∃ daemon, runFrom (step headSetup) headDaemon toHead = some daemon ∧
      daemon.engine.AboutToFade ∧
      ∃ capture capture',
        runFrom (Capture.handleVirtualSinkAudio headSetup.libs) ⟨daemon.engine, []⟩
            [List.replicate 256 fun _ => 1] = some capture ∧
          runFrom (Capture.handleVirtualSinkAudio headSetup.libs) ⟨daemon.engine, []⟩
            [List.replicate 128 fun _ => 1, List.replicate 128 fun _ => 1] =
              some capture' ∧
          capture.pushed = capture'.pushed := by
  obtain ⟨daemon, hrun, hfade, hcalm⟩ := aboutToFade_toHead
  obtain ⟨other, hother, hpushed⟩ := pushed_of_cuts headSetup
    PartitionedConvolver.isExact_exactFft ⟨none, true⟩ .new toHead (by
      intro past event hpast other hother
      have hmem : event ∈ toHead := hpast.subset (by simp)
      simp only [toHead, switched, List.map_cons, List.map_nil, List.cons_append,
        List.nil_append, List.mem_cons, List.not_mem_nil, or_false] at hmem
      rcases hmem with rfl | rfl | rfl <;> trivial)
  obtain rfl : daemon = other := Option.some.inj (hrun.symm.trans hother)
  refine ⟨daemon, hrun, hfade, hpushed _ _ hcalm ?_ ?_ ?_⟩
  · intro block hblock
    obtain rfl := List.mem_singleton.mp hblock
    rw [List.length_replicate]
    exact ⟨by decide, fun _ => ⟨2, rfl⟩⟩
  · intro block hblock
    obtain rfl : block = List.replicate 128 fun _ => 1 := by
      rcases List.mem_pair.mp hblock with rfl | rfl <;> rfl
    rw [List.length_replicate]
    exact ⟨by decide, fun _ => ⟨1, rfl⟩⟩
  · simp only [List.flatten_cons, List.flatten_nil, List.append_nil, ← List.replicate_add]

end AudioEngine

end RamkolFX
