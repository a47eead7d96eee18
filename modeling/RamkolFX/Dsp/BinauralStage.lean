import RamkolFX.Dsp.BinauralVoice

/-!
# Binaural stage

The mode `Advanced`: 7.1 input is encoded into the first-order field, decoded
to eight virtual loudspeakers and convolved with their HRTFs; with near-field
rendering on, each source goes through a voice of its own instead.  Switching
between the two paths is crossfaded.

A stage whose SOFA file did not load has no convolvers and no voices and falls
back to the algebraic decode.
-/

namespace RamkolFX

open Support

variable {α : Type} [FloatArith α]

abbrev virtualSpeakerCount : ℕ := 8

/-- What a stage holds when its HRTF source is loaded. -/
structure LoadedHrtf (α : Type) where
  source : HrtfSource α
  leftConvolvers : Fin virtualSpeakerCount → PartitionedConvolver α
  rightConvolvers : Fin virtualSpeakerCount → PartitionedConvolver α
  nearFieldNormalizationGain : α
  voices : SpeakerChannel → BinauralVoice α

structure BinauralStage (α : Type) where
  /-- `none` when the source did not load. -/
  hrtf : Option (LoadedHrtf α)
  bNearFieldRequested : Bool
  bNearFieldActive : Bool
  toggleFadeFramesRemaining : ℕ := 0
  toggleCrossfadeFrames : ℕ

namespace BinauralStage

/-! ## Construction -/

/-- `2 / N` -/
def virtualSpeakerGain : α := 2 / (virtualSpeakerCount : ℕ)

/-- Azimuth of virtual speaker `k`. -/
def virtualSpeakerAzimuth (k : Fin virtualSpeakerCount) : α :=
  ((k : ℕ) : α) * (360 / (virtualSpeakerCount : ℕ))

def decodeCos (k : Fin virtualSpeakerCount) : α :=
  FloatArith.cos (virtualSpeakerAzimuth k * SpeakerLayout.degToRad)

def decodeSin (k : Fin virtualSpeakerCount) : α :=
  FloatArith.sin (virtualSpeakerAzimuth k * SpeakerLayout.degToRad)

/-- Identical to `buildDelayedHrtfFilter`, kept apart in the source. -/
def buildDelayedFilter (taps : List α) (delaySamples : α) : List α :=
  buildDelayedHrtfFilter taps delaySamples

/-- `mysofa_open` or the synthetic model, which needs no file. -/
def openSource (libs : DspLibraries α) (kind : HrtfSourceKind)
    (sofaPath : ByteString) (sampleRate : α) : Option (HrtfSource α) :=
  match kind with
  | .syntheticSphericalHead => some .synthetic
  | .sofaFile =>
      (HrtfLoader.openFile libs.mysofa sofaPath sampleRate).map .sofa

/-- The filters of the virtual speakers. -/
def virtualSpeakerFilters (libs : DspLibraries α) (source : HrtfSource α)
    (sampleRate : α) : Fin virtualSpeakerCount → HrtfFilter α :=
  fun k => lookUpFarFieldFilter libs source (virtualSpeakerAzimuth k) sampleRate

/-- The level a source is scaled by: only measured data needs it. -/
def normalizationGain (libs : DspLibraries α) (source : HrtfSource α)
    (sampleRate : α) : α :=
  match source with
  | .synthetic => 1
  | .sofa _ =>
      peakNormalization
        (peakTap (List.ofFn (virtualSpeakerFilters libs source sampleRate)))

/-- `ComputeHrtfNormalizationGain`: opens the file once more. -/
def computeHrtfNormalizationGain (libs : DspLibraries α)
    (kind : HrtfSourceKind) (sofaPath : ByteString) (sampleRate : α) : α :=
  match kind with
  | .syntheticSphericalHead => 1
  | .sofaFile =>
      match HrtfLoader.openFile libs.mysofa sofaPath sampleRate with
      | none => 1
      | some loader =>
          peakNormalization (peakTap (List.ofFn fun k : Fin 8 =>
            loader.getFilter libs.mysofa (((k : ℕ) : α) * 45) 0))

/-- Convolvers and voices for an opened source, positioned as the layout says
at this moment. -/
def load (libs : DspLibraries α) (layout : SpeakerLayout)
    (kind : HrtfSourceKind) (sofaPath : ByteString) (sampleRate : α)
    (source : HrtfSource α) : LoadedHrtf α :=
  let filters := virtualSpeakerFilters libs source sampleRate
  let gain := normalizationGain libs source sampleRate
  let scaled : List α → List α := fun taps =>
    match source with
    | .synthetic => taps
    | .sofa _ => taps.map fun tap => tap * gain
  let nearFieldNormalizationGain :=
    computeHrtfNormalizationGain libs kind sofaPath sampleRate
  { source
    leftConvolvers := fun k => .load libs.fft
      (buildDelayedFilter (scaled (filters k).left) (filters k).delayLeftSamples)
    rightConvolvers := fun k => .load libs.fft
      (buildDelayedFilter (scaled (filters k).right)
        (filters k).delayRightSamples)
    nearFieldNormalizationGain
    voices := fun speaker => .new libs source nearFieldNormalizationGain
      (layout.speakerAzimuthDegrees speaker)
      (layout.speakerDistanceMeters speaker) sampleRate }

def new (libs : DspLibraries α) (layout : SpeakerLayout)
    (kind : HrtfSourceKind) (sofaPath : ByteString) (sampleRate : α)
    (bInitialNearFieldEnabled : Bool) : BinauralStage α :=
  { hrtf := (openSource libs kind sofaPath sampleRate).map
      (load libs layout kind sofaPath sampleRate)
    bNearFieldRequested := bInitialNearFieldEnabled
    bNearFieldActive := bInitialNearFieldEnabled
    toggleCrossfadeFrames := fiftyMilliseconds sampleRate }

/-! ## Control -/

def setNearFieldEnabled (stage : BinauralStage α) (bEnabled : Bool) :
    BinauralStage α :=
  { stage with bNearFieldRequested := bEnabled }

/-- A no-op on a stage whose source did not load. -/
def rebuildVoiceForSpeaker (libs : DspLibraries α) (stage : BinauralStage α)
    (speaker : SpeakerChannel) (azimuthDegrees distanceMeters : Binary32) :
    BinauralStage α :=
  { stage with
    hrtf := stage.hrtf.map fun hrtf =>
      { hrtf with
        voices := Function.update hrtf.voices speaker
          ((hrtf.voices speaker).rebuild libs hrtf.source
            hrtf.nearFieldNormalizationGain azimuthDegrees distanceMeters) } }

def collectVoiceGarbage (stage : BinauralStage α) : BinauralStage α :=
  { stage with
    hrtf := stage.hrtf.map fun hrtf =>
      { hrtf with voices := fun speaker => (hrtf.voices speaker).collectGarbage } }

/-! ## Rendering -/

/-- The convolvers of one ear add their virtual speakers' signals into a mix
that starts at silence. -/
def renderEar (libs : DspLibraries α) (frames : ℕ)
    (signals : Fin virtualSpeakerCount → List α)
    (convolvers : Fin virtualSpeakerCount → PartitionedConvolver α) :
    List α × (Fin virtualSpeakerCount → PartitionedConvolver α) :=
  (List.finRange virtualSpeakerCount).foldl
    (fun (mix, convolvers) k =>
      let pass := (convolvers k).processAccumulate libs.fft (signals k) mix
      (pass.output, Function.update convolvers k pass.convolver))
    (List.replicate frames 0, convolvers)

def renderOriginalPath (libs : DspLibraries α) (layout : SpeakerLayout)
    (hrtf : LoadedHrtf α) (input : List (SevenOneFrame α)) :
    List (StereoFrame α) × LoadedHrtf α :=
  let dirs := layout.snapshotDirections
  let signals : Fin virtualSpeakerCount → List α := fun k =>
    input.map fun inFrame =>
      let field := SpeakerLayout.encode inFrame.sources dirs
      virtualSpeakerGain * (field.w * SpeakerLayout.oneOverSqrtTwo +
        field.x * decodeCos k + field.y * decodeSin k)
  let (mixLeft, leftConvolvers) :=
    renderEar libs input.length signals hrtf.leftConvolvers
  let (mixRight, rightConvolvers) :=
    renderEar libs input.length signals hrtf.rightConvolvers
  let output := List.zipWith
    (fun inFrame (mix : α × α) =>
      ![mix.1 + lfeGain * SevenOneFrame.at inFrame .lfe,
        mix.2 + lfeGain * SevenOneFrame.at inFrame .lfe])
    input (List.zip mixLeft mixRight)
  (output, { hrtf with leftConvolvers, rightConvolvers })

/-- The voices of some speakers, each added into the output. -/
def renderVoices (libs : DspLibraries α) (input : List (SevenOneFrame α)) :
    List SpeakerChannel → List (StereoFrame α) →
      (SpeakerChannel → BinauralVoice α) →
      Option (List (StereoFrame α) × (SpeakerChannel → BinauralVoice α))
  | [], output, voices => return (output, voices)
  | speaker :: speakers, output, voices => do
      let source := input.map fun inFrame =>
        SevenOneFrame.sources inFrame speaker
      let (scratch, voice) ← (voices speaker).process libs source
      renderVoices libs input speakers
        (List.zipWith (fun out frame ch => out ch + frame ch) output scratch)
        (Function.update voices speaker voice)

def renderNearFieldPath (libs : DspLibraries α) (hrtf : LoadedHrtf α)
    (input : List (SevenOneFrame α)) :
    Option (List (StereoFrame α) × LoadedHrtf α) := do
  let (output, voices) ← renderVoices libs input
    (List.finRange speakerCount) (List.replicate input.length fun _ => 0)
    hrtf.voices
  let output := List.zipWith
    (fun inFrame (out : StereoFrame α) ch =>
      out ch + lfeGain * SevenOneFrame.at inFrame .lfe)
    input output
  return (output, { hrtf with voices })

/-- A requested toggle starts unless one is still running. -/
def startToggle (stage : BinauralStage α) : BinauralStage α :=
  if stage.toggleFadeFramesRemaining = 0 ∧
      stage.bNearFieldRequested ≠ stage.bNearFieldActive then
    { stage with
      bNearFieldActive := stage.bNearFieldRequested
      toggleFadeFramesRemaining := stage.toggleCrossfadeFrames }
  else stage

def process (libs : DspLibraries α) (layout : SpeakerLayout)
    (stage : BinauralStage α) (input : List (SevenOneFrame α)) :
    Option (List (StereoFrame α) × BinauralStage α) :=
  match stage.hrtf with
  | none => return (AmbisonicsStage.process layout input, stage)
  | some hrtf => do
    let input := input.take maxProcessFrames
    let stage := stage.startToggle
    if stage.toggleFadeFramesRemaining = 0 then
      if stage.bNearFieldActive then do
        let (output, hrtf) ← renderNearFieldPath libs hrtf input
        return (output, { stage with hrtf := some hrtf })
      else
        let (output, hrtf) := renderOriginalPath libs layout hrtf input
        return (output, { stage with hrtf := some hrtf })
    else do
      let (originalPath, hrtf) := renderOriginalPath libs layout hrtf input
      let (nearFieldPath, hrtf) ← renderNearFieldPath libs hrtf input
      let targetPath :=
        if stage.bNearFieldActive then nearFieldPath else originalPath
      let sourcePath :=
        if stage.bNearFieldActive then originalPath else nearFieldPath
      -- the same gains and the same count-down as between two instances
      let output := CrossfadingSlot.mix stage.toggleCrossfadeFrames
        stage.toggleFadeFramesRemaining sourcePath targetPath
      return (output,
        { stage with
          hrtf := some hrtf
          toggleFadeFramesRemaining :=
            stage.toggleFadeFramesRemaining - input.length })

/-! ## Lengths -/

theorem length_renderEar (libs : DspLibraries α) (frames : ℕ)
    (signals : Fin virtualSpeakerCount → List α)
    (convolvers : Fin virtualSpeakerCount → PartitionedConvolver α) :
    (renderEar libs frames signals convolvers).1.length = frames := by
  rw [renderEar]
  refine List.foldlRecOn _ _ List.length_replicate
    (motive := fun pass : List α × (Fin virtualSpeakerCount → PartitionedConvolver α) =>
      pass.1.length = frames) ?_
  intro pass hlength speaker _
  exact (PartitionedConvolver.length_output_accumulate ..).trans hlength

theorem length_renderOriginalPath (libs : DspLibraries α) (layout : SpeakerLayout)
    (hrtf : LoadedHrtf α) (input : List (SevenOneFrame α)) :
    (renderOriginalPath libs layout hrtf input).1.length = input.length := by
  simp only [renderOriginalPath, List.length_zipWith, List.length_zip,
    length_renderEar, Nat.min_self]

theorem length_renderVoices {libs : DspLibraries α} {input : List (SevenOneFrame α)}
    (hinput : input.length ≤ maxProcessFrames) {speakers : List SpeakerChannel}
    {output output' : List (StereoFrame α)}
    {voices voices' : SpeakerChannel → BinauralVoice α}
    (houtput : output.length = input.length)
    (h : renderVoices libs input speakers output voices = some (output', voices')) :
    output'.length = input.length := by
  induction speakers generalizing output voices with
  | nil =>
      obtain ⟨rfl, -⟩ := Prod.mk.inj (Option.some.inj h)
      exact houtput
  | cons speaker speakers ih =>
      obtain ⟨⟨scratch, voice⟩, hprocess, hrest⟩ := Option.bind_eq_some_iff.mp h
      refine ih ?_ hrest
      have hscratch := BinauralVoice.length_process hprocess
      rw [List.length_take, List.length_map, Nat.min_eq_right hinput] at hscratch
      rw [List.length_zipWith, houtput, hscratch, Nat.min_self]

/-- So does the near-field path. -/
theorem length_renderNearFieldPath {libs : DspLibraries α} {hrtf hrtf' : LoadedHrtf α}
    {input : List (SevenOneFrame α)} (hinput : input.length ≤ maxProcessFrames)
    {output : List (StereoFrame α)}
    (h : renderNearFieldPath libs hrtf input = some (output, hrtf')) :
    output.length = input.length := by
  obtain ⟨⟨mix, voices⟩, hrender, heq⟩ := Option.bind_eq_some_iff.mp h
  obtain ⟨rfl, -⟩ := Prod.mk.inj (Option.some.inj heq)
  rw [List.length_zipWith,
    length_renderVoices hinput List.length_replicate hrender, Nat.min_self]

/-! ## What rendering leaves alone -/

/-- No voice renders a null filter. -/
def Sound (stage : BinauralStage α) : Prop :=
  ∀ hrtf, stage.hrtf = some hrtf → ∀ speaker, (hrtf.voices speaker).Sound

/-- The position a speaker's voice was built for last; `none` without a
loaded source. -/
def builtFor (stage : BinauralStage α) (speaker : SpeakerChannel) :
    Option (Binary32 × Binary32) :=
  stage.hrtf.bind fun hrtf => (hrtf.voices speaker).builtFor

/-- A move that touches neither the requested flag nor what the voices were
built for. -/
structure KeepsControl (before after : BinauralStage α) : Prop where
  bNearFieldRequested : after.bNearFieldRequested = before.bNearFieldRequested
  builtFor : ∀ speaker, after.builtFor speaker = before.builtFor speaker

theorem sound_new (libs : DspLibraries α) (layout : SpeakerLayout)
    (kind : HrtfSourceKind) (sofaPath : ByteString) (sampleRate : α)
    (bInitialNearFieldEnabled : Bool) :
    (new libs layout kind sofaPath sampleRate bInitialNearFieldEnabled).Sound := by
  intro hrtf hhrtf speaker
  obtain ⟨source, -, rfl⟩ := Option.map_eq_some_iff.mp hhrtf
  exact BinauralVoice.sound_new libs source _ _ _ sampleRate

omit [FloatArith α] in
theorem Sound.setNearFieldEnabled {stage : BinauralStage α} (h : stage.Sound)
    (bEnabled : Bool) : (stage.setNearFieldEnabled bEnabled).Sound :=
  h

theorem Sound.rebuildVoiceForSpeaker {stage : BinauralStage α} (h : stage.Sound)
    (libs : DspLibraries α) (speaker : SpeakerChannel)
    (azimuthDegrees distanceMeters : Binary32) :
    (stage.rebuildVoiceForSpeaker libs speaker azimuthDegrees
      distanceMeters).Sound := by
  intro rebuilt hrebuilt other
  obtain ⟨hrtf, hhrtf, rfl⟩ := Option.map_eq_some_iff.mp hrebuilt
  by_cases heq : other = speaker
  · subst heq
    simpa using (h hrtf hhrtf other).rebuild libs hrtf.source
      hrtf.nearFieldNormalizationGain azimuthDegrees distanceMeters
  · simpa [heq] using h hrtf hhrtf other

omit [FloatArith α] in
theorem Sound.collectVoiceGarbage {stage : BinauralStage α} (h : stage.Sound) :
    stage.collectVoiceGarbage.Sound := by
  intro collected hcollected speaker
  obtain ⟨hrtf, hhrtf, rfl⟩ := Option.map_eq_some_iff.mp hcollected
  exact (h hrtf hhrtf speaker).collectGarbage

omit [FloatArith α] in
theorem keepsControl_collectVoiceGarbage (stage : BinauralStage α) :
    KeepsControl stage stage.collectVoiceGarbage := by
  refine ⟨rfl, fun speaker => ?_⟩
  cases hhrtf : stage.hrtf <;>
    simp [BinauralStage.builtFor, collectVoiceGarbage, hhrtf]

theorem renderVoices_sound (libs : DspLibraries α)
    (input : List (SevenOneFrame α)) (speakers : List SpeakerChannel)
    (output : List (StereoFrame α)) (voices : SpeakerChannel → BinauralVoice α)
    (h : ∀ speaker, (voices speaker).Sound) :
    ∃ output' voices',
      renderVoices libs input speakers output voices = some (output', voices') ∧
        ∀ speaker, (voices' speaker).Sound ∧
          (voices' speaker).builtFor = (voices speaker).builtFor := by
  induction speakers generalizing output voices with
  | nil => exact ⟨output, voices, rfl, fun speaker => ⟨h speaker, rfl⟩⟩
  | cons speaker speakers ih =>
      obtain ⟨scratch, voice, hprocess, hsound, hbuilt⟩ :=
        (h speaker).process libs (input.map fun inFrame =>
          SevenOneFrame.sources inFrame speaker)
      have hupdate : ∀ other,
          (Function.update voices speaker voice other).Sound ∧
            (Function.update voices speaker voice other).builtFor =
              (voices other).builtFor := by
        intro other
        by_cases heq : other = speaker
        · subst heq
          simpa using ⟨hsound, hbuilt⟩
        · simpa [heq] using h other
      obtain ⟨output', voices', hrest, hvoices⟩ := ih
        (List.zipWith (fun out frame ch => out ch + frame ch) output scratch)
        _ fun other => (hupdate other).1
      refine ⟨output', voices', ?_, ?_⟩
      · simpa [renderVoices, hprocess] using hrest
      · intro other
        exact ⟨(hvoices other).1, (hvoices other).2.trans (hupdate other).2⟩

/-- Rendering the near-field path succeeds and keeps the voices in place. -/
theorem renderNearFieldPath_sound (libs : DspLibraries α)
    (hrtf : LoadedHrtf α) (input : List (SevenOneFrame α))
    (h : ∀ speaker, (hrtf.voices speaker).Sound) :
    ∃ output hrtf', renderNearFieldPath libs hrtf input = some (output, hrtf') ∧
      ∀ speaker, (hrtf'.voices speaker).Sound ∧
        (hrtf'.voices speaker).builtFor = (hrtf.voices speaker).builtFor := by
  obtain ⟨output, voices, hrender, hvoices⟩ := renderVoices_sound libs input
    (List.finRange speakerCount) (List.replicate input.length fun _ => 0)
    hrtf.voices h
  have hpath : ∃ output', renderNearFieldPath libs hrtf input =
      some (output', { hrtf with voices }) := by
    rw [renderNearFieldPath, hrender]
    exact ⟨_, rfl⟩
  obtain ⟨output', hpath⟩ := hpath
  exact ⟨output', _, hpath, hvoices⟩

omit [FloatArith α] in
theorem startToggle_hrtf (stage : BinauralStage α) :
    stage.startToggle.hrtf = stage.hrtf ∧
      stage.startToggle.bNearFieldRequested = stage.bNearFieldRequested := by
  rw [startToggle]
  split <;> exact ⟨rfl, rfl⟩

omit [FloatArith α] in
/-- A stage that differs from another one in its voices' audio state only. -/
theorem sound_of_voices {before after : BinauralStage α}
    {hrtf hrtf' : LoadedHrtf α} (hbefore : before.hrtf = some hrtf)
    (hafter : after.hrtf = some hrtf')
    (hrequested : after.bNearFieldRequested = before.bNearFieldRequested)
    (hvoices : ∀ speaker, (hrtf'.voices speaker).Sound ∧
      (hrtf'.voices speaker).builtFor = (hrtf.voices speaker).builtFor) :
    after.Sound ∧ KeepsControl before after := by
  refine ⟨?_, hrequested, ?_⟩
  · intro other hother speaker
    obtain rfl : hrtf' = other := Option.some.inj (hafter.symm.trans hother)
    exact (hvoices speaker).1
  · intro speaker
    simp [BinauralStage.builtFor, hbefore, hafter, (hvoices speaker).2]

/-- With the near-field path off, a block goes through the convolvers. -/
theorem process_of_original {stage : BinauralStage α} {hrtf : LoadedHrtf α}
    (libs : DspLibraries α) (layout : SpeakerLayout)
    (input : List (SevenOneFrame α)) (hhrtf : stage.hrtf = some hrtf)
    (hfade : stage.startToggle.toggleFadeFramesRemaining = 0)
    (hactive : stage.startToggle.bNearFieldActive = false) :
    stage.process libs layout input =
      some ((renderOriginalPath libs layout hrtf
          (input.take maxProcessFrames)).1,
        { stage.startToggle with
          hrtf := some (renderOriginalPath libs layout hrtf
            (input.take maxProcessFrames)).2 }) := by
  simp only [process, hhrtf, hfade, hactive, if_true]
  rfl

/-- With the near-field path on, a block goes through the voices. -/
theorem process_of_nearField {stage : BinauralStage α}
    {hrtf hrtf' : LoadedHrtf α} {output : List (StereoFrame α)}
    (libs : DspLibraries α) (layout : SpeakerLayout)
    (input : List (SevenOneFrame α)) (hhrtf : stage.hrtf = some hrtf)
    (hfade : stage.startToggle.toggleFadeFramesRemaining = 0)
    (hactive : stage.startToggle.bNearFieldActive = true)
    (hrender : renderNearFieldPath libs hrtf (input.take maxProcessFrames) =
      some (output, hrtf')) :
    stage.process libs layout input =
      some (output, { stage.startToggle with hrtf := some hrtf' }) := by
  simp only [process, hhrtf, hfade, hactive, if_true, hrender]
  rfl

/-- While a toggle runs, a block goes through both paths. -/
theorem process_of_toggle {stage : BinauralStage α}
    {hrtf hrtf' : LoadedHrtf α} {nearFieldPath : List (StereoFrame α)}
    (libs : DspLibraries α) (layout : SpeakerLayout)
    (input : List (SevenOneFrame α)) (hhrtf : stage.hrtf = some hrtf)
    (hfade : stage.startToggle.toggleFadeFramesRemaining ≠ 0)
    (hrender : renderNearFieldPath libs
      (renderOriginalPath libs layout hrtf (input.take maxProcessFrames)).2
      (input.take maxProcessFrames) = some (nearFieldPath, hrtf')) :
    stage.process libs layout input =
      some (CrossfadingSlot.mix stage.startToggle.toggleCrossfadeFrames
          stage.startToggle.toggleFadeFramesRemaining
          (if stage.startToggle.bNearFieldActive then
            (renderOriginalPath libs layout hrtf (input.take maxProcessFrames)).1
          else nearFieldPath)
          (if stage.startToggle.bNearFieldActive then nearFieldPath
          else (renderOriginalPath libs layout hrtf (input.take maxProcessFrames)).1),
        { stage.startToggle with
          hrtf := some hrtf'
          toggleFadeFramesRemaining :=
            stage.startToggle.toggleFadeFramesRemaining -
              (input.take maxProcessFrames).length }) := by
  simp only [process, hhrtf, hfade, if_false, hrender]
  rfl

/-- A block of a sound stage succeeds and keeps its control state. -/
theorem Sound.process {stage : BinauralStage α} (h : stage.Sound)
    (libs : DspLibraries α) (layout : SpeakerLayout)
    (input : List (SevenOneFrame α)) :
    ∃ output stage', stage.process libs layout input = some (output, stage') ∧
      stage'.Sound ∧ KeepsControl stage stage' := by
  cases hhrtf : stage.hrtf with
  | none =>
      refine ⟨_, stage, by rw [BinauralStage.process, hhrtf]; rfl, h, rfl, ?_⟩
      intro speaker
      rfl
  | some hrtf =>
      obtain ⟨-, hrequested⟩ := startToggle_hrtf stage
      have hvoices := h hrtf hhrtf
      by_cases hfade : stage.startToggle.toggleFadeFramesRemaining = 0
      · cases hactive : stage.startToggle.bNearFieldActive with
        | false =>
            -- this path does not touch the voices
            have hkept : ∀ speaker,
                ((renderOriginalPath libs layout hrtf
                    (input.take maxProcessFrames)).2.voices speaker).Sound ∧
                  ((renderOriginalPath libs layout hrtf
                    (input.take maxProcessFrames)).2.voices speaker).builtFor =
                    (hrtf.voices speaker).builtFor :=
              fun speaker => ⟨hvoices speaker, rfl⟩
            exact ⟨_, _,
              process_of_original libs layout input hhrtf hfade hactive,
              sound_of_voices hhrtf rfl hrequested hkept⟩
        | true =>
            obtain ⟨output, hrtf', hrender, hvoices'⟩ :=
              renderNearFieldPath_sound libs hrtf
                (input.take maxProcessFrames) hvoices
            refine ⟨output, _, process_of_nearField libs layout input hhrtf
              hfade hactive hrender, ?_⟩
            exact sound_of_voices hhrtf rfl hrequested hvoices'
      · obtain ⟨nearFieldPath, hrtf', hrender, hvoices'⟩ :=
          renderNearFieldPath_sound libs
            (renderOriginalPath libs layout hrtf
              (input.take maxProcessFrames)).2
            (input.take maxProcessFrames) hvoices
        exact ⟨_, _, process_of_toggle libs layout input hhrtf hfade hrender,
          sound_of_voices hhrtf rfl hrequested hvoices'⟩

end BinauralStage

end RamkolFX
