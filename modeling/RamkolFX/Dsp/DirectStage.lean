import RamkolFX.Dsp.DirectVoice
import RamkolFX.Dsp.HrtfDeck

/-!
# A deck that convolves directly

The mode `Advanced` without any transform: the same stages and fades, around
filters that add up the linear convolution.  In exact arithmetic, with exact
transforms and blocks of whole multiples of the convolver's own, the deck puts out
the same frames along every run of switches, moves, toggles, collections and blocks.
-/

namespace RamkolFX

open Support

/-- What a stage holds when its HRTF source is loaded. -/
structure DirectHrtf where
  source : HrtfSource ℝ
  left : Fin virtualSpeakerCount → DirectFilter
  right : Fin virtualSpeakerCount → DirectFilter
  nearFieldNormalizationGain : ℝ
  voices : SpeakerChannel → DirectVoice

structure DirectStage where
  hrtf : Option DirectHrtf
  bNearFieldRequested : Bool
  bNearFieldActive : Bool
  toggleFadeFramesRemaining : ℕ := 0
  toggleCrossfadeFrames : ℕ

namespace DirectStage

/-! ## The stage -/

/-- Filters and voices for an opened source, positioned as the layout says at this
moment. -/
noncomputable def load (libs : DspLibraries ℝ) (layout : SpeakerLayout)
    (kind : HrtfSourceKind) (sofaPath : ByteString) (sampleRate : ℝ)
    (source : HrtfSource ℝ) : DirectHrtf :=
  let filters := BinauralStage.virtualSpeakerFilters libs source sampleRate
  let gain := BinauralStage.normalizationGain libs source sampleRate
  let scaled : List ℝ → List ℝ := fun taps =>
    match source with
    | .synthetic => taps
    | .sofa _ => taps.map fun tap => tap * gain
  let nearFieldNormalizationGain :=
    BinauralStage.computeHrtfNormalizationGain libs kind sofaPath sampleRate
  { source
    left := fun k => ⟨buildDelayedHrtfFilter (scaled (filters k).left)
      (filters k).delayLeftSamples, []⟩
    right := fun k => ⟨buildDelayedHrtfFilter (scaled (filters k).right)
      (filters k).delayRightSamples, []⟩
    nearFieldNormalizationGain
    voices := fun speaker => .new libs source nearFieldNormalizationGain
      (layout.speakerAzimuthDegrees speaker)
      (layout.speakerDistanceMeters speaker) sampleRate }

noncomputable def new (libs : DspLibraries ℝ) (layout : SpeakerLayout)
    (kind : HrtfSourceKind) (sofaPath : ByteString) (sampleRate : ℝ)
    (bInitialNearFieldEnabled : Bool) : DirectStage :=
  { hrtf := (BinauralStage.openSource libs kind sofaPath sampleRate).map
      (load libs layout kind sofaPath sampleRate)
    bNearFieldRequested := bInitialNearFieldEnabled
    bNearFieldActive := bInitialNearFieldEnabled
    toggleCrossfadeFrames := fiftyMilliseconds sampleRate }

def setNearFieldEnabled (stage : DirectStage) (bEnabled : Bool) : DirectStage :=
  { stage with bNearFieldRequested := bEnabled }

noncomputable def rebuildVoiceForSpeaker (libs : DspLibraries ℝ) (stage : DirectStage)
    (speaker : SpeakerChannel) (azimuthDegrees distanceMeters : Binary32) :
    DirectStage :=
  { stage with
    hrtf := stage.hrtf.map fun hrtf =>
      { hrtf with
        voices := Function.update hrtf.voices speaker
          ((hrtf.voices speaker).rebuild libs hrtf.source
            hrtf.nearFieldNormalizationGain azimuthDegrees distanceMeters) } }

def collectVoiceGarbage (stage : DirectStage) : DirectStage :=
  { stage with
    hrtf := stage.hrtf.map fun hrtf =>
      { hrtf with voices := fun speaker => (hrtf.voices speaker).collectGarbage } }

/-- What the virtual speakers play. -/
noncomputable def speakerSignals (layout : SpeakerLayout)
    (input : List (SevenOneFrame ℝ)) (k : Fin virtualSpeakerCount) : List ℝ :=
  input.map fun inFrame =>
    let field := SpeakerLayout.encode inFrame.sources layout.snapshotDirections
    BinauralStage.virtualSpeakerGain * (field.w * SpeakerLayout.oneOverSqrtTwo +
      field.x * BinauralStage.decodeCos k + field.y * BinauralStage.decodeSin k)

/-- The signals of the virtual speakers at one ear. -/
noncomputable def renderEar (frames : ℕ) (signals : Fin virtualSpeakerCount → List ℝ)
    (filters : Fin virtualSpeakerCount → DirectFilter) : List ℝ :=
  (List.finRange virtualSpeakerCount).foldl
    (fun mix k => List.zipWith (· + ·) mix ((filters k).render (signals k)))
    (List.replicate frames 0)

noncomputable def renderOriginalPath (layout : SpeakerLayout) (hrtf : DirectHrtf)
    (input : List (SevenOneFrame ℝ)) : List (StereoFrame ℝ) × DirectHrtf :=
  let signals := speakerSignals layout input
  let output := List.zipWith
    (fun inFrame (mix : ℝ × ℝ) =>
      ![mix.1 + lfeGain * SevenOneFrame.at inFrame .lfe,
        mix.2 + lfeGain * SevenOneFrame.at inFrame .lfe])
    input
    (List.zip (renderEar input.length signals hrtf.left)
      (renderEar input.length signals hrtf.right))
  (output,
    { hrtf with
      left := fun k => (hrtf.left k).feed (signals k)
      right := fun k => (hrtf.right k).feed (signals k) })

/-- The voices of some speakers, each added into the output. -/
noncomputable def renderVoices (input : List (SevenOneFrame ℝ)) :
    List SpeakerChannel → List (StereoFrame ℝ) → (SpeakerChannel → DirectVoice) →
      Option (List (StereoFrame ℝ) × (SpeakerChannel → DirectVoice))
  | [], output, voices => return (output, voices)
  | speaker :: speakers, output, voices => do
      let source := input.map fun inFrame => SevenOneFrame.sources inFrame speaker
      let (scratch, voice) ← (voices speaker).process source
      renderVoices input speakers
        (List.zipWith (fun out frame ch => out ch + frame ch) output scratch)
        (Function.update voices speaker voice)

noncomputable def renderNearFieldPath (hrtf : DirectHrtf)
    (input : List (SevenOneFrame ℝ)) : Option (List (StereoFrame ℝ) × DirectHrtf) := do
  let (output, voices) ← renderVoices input (List.finRange speakerCount)
    (List.replicate input.length fun _ => 0) hrtf.voices
  let output := List.zipWith
    (fun inFrame (out : StereoFrame ℝ) ch =>
      out ch + lfeGain * SevenOneFrame.at inFrame .lfe)
    input output
  return (output, { hrtf with voices })

/-- A requested toggle starts unless one is still running. -/
def startToggle (stage : DirectStage) : DirectStage :=
  if stage.toggleFadeFramesRemaining = 0 ∧
      stage.bNearFieldRequested ≠ stage.bNearFieldActive then
    { stage with
      bNearFieldActive := stage.bNearFieldRequested
      toggleFadeFramesRemaining := stage.toggleCrossfadeFrames }
  else stage

noncomputable def process (layout : SpeakerLayout) (stage : DirectStage)
    (input : List (SevenOneFrame ℝ)) : Option (List (StereoFrame ℝ) × DirectStage) :=
  match stage.hrtf with
  | none => return (AmbisonicsStage.process layout input, stage)
  | some hrtf => do
    let input := input.take maxProcessFrames
    let stage := stage.startToggle
    if stage.toggleFadeFramesRemaining = 0 then
      if stage.bNearFieldActive then do
        let (output, hrtf) ← renderNearFieldPath hrtf input
        return (output, { stage with hrtf := some hrtf })
      else
        let (output, hrtf) := renderOriginalPath layout hrtf input
        return (output, { stage with hrtf := some hrtf })
    else do
      let (originalPath, hrtf) := renderOriginalPath layout hrtf input
      let (nearFieldPath, hrtf) ← renderNearFieldPath hrtf input
      let targetPath :=
        if stage.bNearFieldActive then nearFieldPath else originalPath
      let sourcePath :=
        if stage.bNearFieldActive then originalPath else nearFieldPath
      let output := CrossfadingSlot.mix stage.toggleCrossfadeFrames
        stage.toggleFadeFramesRemaining sourcePath targetPath
      return (output,
        { stage with
          hrtf := some hrtf
          toggleFadeFramesRemaining :=
            stage.toggleFadeFramesRemaining - input.length })

/-! ## Stages that convolve alike -/

/-- All convolvers and voices have the taps of the direct ones, and have been fed
the same samples. -/
structure ConvolvesHrtf (fft : RealFft ℝ) (hrtf : LoadedHrtf ℝ) (direct : DirectHrtf) :
    Prop where
  source : hrtf.source = direct.source
  left : ∀ k, (direct.left k).Convolves fft (hrtf.leftConvolvers k)
  right : ∀ k, (direct.right k).Convolves fft (hrtf.rightConvolvers k)
  nearFieldNormalizationGain :
    hrtf.nearFieldNormalizationGain = direct.nearFieldNormalizationGain
  voices : ∀ speaker,
    DirectVoice.Convolves fft (hrtf.voices speaker) (direct.voices speaker)

structure Convolves (fft : RealFft ℝ) (stage : BinauralStage ℝ) (direct : DirectStage) :
    Prop where
  hrtf : Option.Rel (ConvolvesHrtf fft) stage.hrtf direct.hrtf
  bNearFieldRequested : stage.bNearFieldRequested = direct.bNearFieldRequested
  bNearFieldActive : stage.bNearFieldActive = direct.bNearFieldActive
  toggleFadeFramesRemaining :
    stage.toggleFadeFramesRemaining = direct.toggleFadeFramesRemaining
  toggleCrossfadeFrames : stage.toggleCrossfadeFrames = direct.toggleCrossfadeFrames

variable {libs : DspLibraries ℝ} {stage : BinauralStage ℝ} {direct : DirectStage}

theorem convolves_new (layout : SpeakerLayout) (kind : HrtfSourceKind)
    (sofaPath : ByteString) (sampleRate : ℝ) (bInitialNearFieldEnabled : Bool) :
    Convolves libs.fft
      (.new libs layout kind sofaPath sampleRate bInitialNearFieldEnabled)
      (new libs layout kind sofaPath sampleRate bInitialNearFieldEnabled) := by
  refine ⟨?_, rfl, rfl, rfl, rfl⟩
  rw [BinauralStage.new, new]
  cases BinauralStage.openSource libs kind sofaPath sampleRate with
  | none => exact .none
  | some source =>
      refine .some ⟨rfl, fun k => ?_, fun k => ?_, rfl,
        fun speaker => DirectVoice.convolves_new source _ _ _ sampleRate⟩
      · cases source <;> exact DirectFilter.convolves_load libs.fft _
      · cases source <;> exact DirectFilter.convolves_load libs.fft _

theorem Convolves.setNearFieldEnabled (h : Convolves libs.fft stage direct)
    (bEnabled : Bool) :
    Convolves libs.fft (stage.setNearFieldEnabled bEnabled)
      (direct.setNearFieldEnabled bEnabled) :=
  ⟨h.hrtf, rfl, h.bNearFieldActive, h.toggleFadeFramesRemaining,
    h.toggleCrossfadeFrames⟩

theorem Convolves.rebuildVoiceForSpeaker (h : Convolves libs.fft stage direct)
    (speaker : SpeakerChannel) (azimuthDegrees distanceMeters : Binary32) :
    Convolves libs.fft
      (stage.rebuildVoiceForSpeaker libs speaker azimuthDegrees distanceMeters)
      (direct.rebuildVoiceForSpeaker libs speaker azimuthDegrees distanceMeters) := by
  refine ⟨?_, h.bNearFieldRequested, h.bNearFieldActive, h.toggleFadeFramesRemaining,
    h.toggleCrossfadeFrames⟩
  apply rel_map h.hrtf
  intro hrtf direct hhrtf
  refine ⟨hhrtf.source, hhrtf.left, hhrtf.right, hhrtf.nearFieldNormalizationGain, ?_⟩
  intro other
  by_cases hother : other = speaker
  · rw [hother]
    dsimp only
    rw [Function.update_self, Function.update_self, hhrtf.source,
      hhrtf.nearFieldNormalizationGain]
    exact (hhrtf.voices speaker).rebuild _ _ azimuthDegrees distanceMeters
  · dsimp only
    rw [Function.update_of_ne hother, Function.update_of_ne hother]
    exact hhrtf.voices other

theorem Convolves.collectVoiceGarbage (h : Convolves libs.fft stage direct) :
    Convolves libs.fft stage.collectVoiceGarbage direct.collectVoiceGarbage := by
  refine ⟨?_, h.bNearFieldRequested, h.bNearFieldActive, h.toggleFadeFramesRemaining,
    h.toggleCrossfadeFrames⟩
  apply rel_map h.hrtf
  intro hrtf direct hhrtf
  exact ⟨hhrtf.source, hhrtf.left, hhrtf.right, hhrtf.nearFieldNormalizationGain,
    fun speaker => (hhrtf.voices speaker).collectGarbage⟩

theorem Convolves.startToggle (h : Convolves libs.fft stage direct) :
    Convolves libs.fft stage.startToggle direct.startToggle := by
  rw [BinauralStage.startToggle, DirectStage.startToggle, h.toggleFadeFramesRemaining,
    h.bNearFieldRequested, h.bNearFieldActive]
  split
  · exact ⟨h.hrtf, rfl, rfl, h.toggleCrossfadeFrames, h.toggleCrossfadeFrames⟩
  · exact h

section

variable (hfft : PartitionedConvolver.IsExact libs.fft)

include hfft in
/-- The convolvers of one ear, one after the other. -/
theorem renderEar_convolves {frames : ℕ} (hframes : blockSamples ∣ frames)
    {signals : Fin virtualSpeakerCount → List ℝ}
    (hsignals : ∀ k, (signals k).length = frames)
    {convolvers : Fin virtualSpeakerCount → PartitionedConvolver ℝ}
    {filters : Fin virtualSpeakerCount → DirectFilter}
    (h : ∀ k, (filters k).Convolves libs.fft (convolvers k)) :
    (BinauralStage.renderEar libs frames signals convolvers).1 =
        renderEar frames signals filters ∧
      ∀ k, ((filters k).feed (signals k)).Convolves libs.fft
        ((BinauralStage.renderEar libs frames signals convolvers).2 k) := by
  -- the convolvers that are still to come have not been fed, the others have
  have hfold : ∀ (ks : List (Fin virtualSpeakerCount)) (mix : List ℝ) convolvers,
      ks.Nodup → mix.length = frames →
      (∀ k ∈ ks, (filters k).Convolves libs.fft (convolvers k)) →
      (∀ k ∉ ks, ((filters k).feed (signals k)).Convolves libs.fft (convolvers k)) →
      let pass := ks.foldl
        (fun (mix, convolvers) k =>
          let pass := PartitionedConvolver.processAccumulate libs.fft (convolvers k)
            (signals k) mix
          (pass.output, Function.update convolvers k pass.convolver))
        (mix, convolvers)
      pass.1 = ks.foldl
          (fun mix k => List.zipWith (· + ·) mix ((filters k).render (signals k))) mix ∧
        ∀ k, ((filters k).feed (signals k)).Convolves libs.fft (pass.2 k) := by
    intro ks
    induction ks with
    | nil =>
        intro mix convolvers _ _ _ hfed
        exact ⟨rfl, fun k => hfed k List.not_mem_nil⟩
    | cons k ks ih =>
        intro mix convolvers hnodup hmix hcoming hfed
        obtain ⟨hk, hrest⟩ := List.nodup_cons.mp hnodup
        have hinput : blockSamples ∣ (signals k).length := by rwa [hsignals k]
        obtain ⟨houtput, hconvolves⟩ :=
          (hcoming k List.mem_cons_self).processAccumulate hfft hinput
            (hmix.trans (hsignals k).symm)
        have hlength : (List.zipWith (· + ·) mix
            ((filters k).render (signals k))).length = frames := by
          rw [List.length_zipWith, DirectFilter.length_render, hmix, hsignals k,
            Nat.min_self]
        simp only [List.foldl_cons, houtput]
        refine ih _ _ hrest hlength ?_ ?_
        · intro other hother
          have hne : other ≠ k := fun heq => hk (heq ▸ hother)
          rw [Function.update_of_ne hne]
          exact hcoming other (List.mem_cons_of_mem _ hother)
        · intro other hother
          by_cases heq : other = k
          · rw [heq, Function.update_self]
            exact hconvolves
          · rw [Function.update_of_ne heq]
            exact hfed other (List.not_mem_cons_of_ne_of_not_mem heq hother)
  exact hfold (List.finRange virtualSpeakerCount) (List.replicate frames 0) convolvers
    (List.nodup_finRange _) List.length_replicate (fun k _ => h k)
    fun k hk => absurd (List.mem_finRange k) hk

include hfft in
theorem renderOriginalPath_convolves (layout : SpeakerLayout) {hrtf : LoadedHrtf ℝ}
    {direct : DirectHrtf} (h : ConvolvesHrtf libs.fft hrtf direct)
    {input : List (SevenOneFrame ℝ)} (hinput : blockSamples ∣ input.length) :
    (BinauralStage.renderOriginalPath libs layout hrtf input).1 =
        (renderOriginalPath layout direct input).1 ∧
      ConvolvesHrtf libs.fft (BinauralStage.renderOriginalPath libs layout hrtf input).2
        (renderOriginalPath layout direct input).2 := by
  have hsignals : ∀ k, (speakerSignals layout input k).length = input.length :=
    fun k => List.length_map _
  obtain ⟨hleft, hleft'⟩ := renderEar_convolves hfft hinput hsignals h.left
  obtain ⟨hright, hright'⟩ := renderEar_convolves hfft hinput hsignals h.right
  refine ⟨?_, h.source, hleft', hright', h.nearFieldNormalizationGain, h.voices⟩
  rw [renderOriginalPath, ← hleft, ← hright]
  rfl

include hfft in
theorem renderVoices_convolves {input : List (SevenOneFrame ℝ)}
    (hinput : blockSamples ∣ input.length) (speakers : List SpeakerChannel)
    (output : List (StereoFrame ℝ)) {voices : SpeakerChannel → BinauralVoice ℝ}
    {direct : SpeakerChannel → DirectVoice}
    (h : ∀ speaker, DirectVoice.Convolves libs.fft (voices speaker) (direct speaker)) :
    Answers (fun voices direct => ∀ speaker,
        DirectVoice.Convolves libs.fft (voices speaker) (direct speaker))
      (BinauralStage.renderVoices libs input speakers output voices)
      (renderVoices input speakers output direct) := by
  induction speakers generalizing output voices direct with
  | nil => exact .some ⟨rfl, h⟩
  | cons speaker speakers ih =>
      have hsource : blockSamples ∣
          (input.map fun inFrame => SevenOneFrame.sources inFrame speaker).length := by
        rwa [List.length_map]
      apply rel_bind ((h speaker).process hfft hsource)
      rintro ⟨scratch, voice⟩ ⟨_, voice'⟩ ⟨rfl, hvoice⟩
      apply ih
      intro other
      by_cases hother : other = speaker
      · rw [hother, Function.update_self, Function.update_self]
        exact hvoice
      · rw [Function.update_of_ne hother, Function.update_of_ne hother]
        exact h other

include hfft in
theorem renderNearFieldPath_convolves {hrtf : LoadedHrtf ℝ} {direct : DirectHrtf}
    (h : ConvolvesHrtf libs.fft hrtf direct) {input : List (SevenOneFrame ℝ)}
    (hinput : blockSamples ∣ input.length) :
    Answers (ConvolvesHrtf libs.fft) (BinauralStage.renderNearFieldPath libs hrtf input)
      (renderNearFieldPath direct input) := by
  apply rel_bind (renderVoices_convolves hfft hinput (List.finRange speakerCount) _
    h.voices)
  rintro ⟨output, voices⟩ ⟨_, voices'⟩ ⟨rfl, hvoices⟩
  exact .some ⟨rfl, h.source, h.left, h.right, h.nearFieldNormalizationGain, hvoices⟩

include hfft in
/-- Whole blocks are answered alike, in the middle of a toggle as well. -/
theorem Convolves.process (h : Convolves libs.fft stage direct) (layout : SpeakerLayout)
    {input : List (SevenOneFrame ℝ)} (hinput : blockSamples ∣ input.length) :
    Answers (Convolves libs.fft) (stage.process libs layout input)
      (direct.process layout input) := by
  have hblock := DirectVoice.dvd_length_take hinput
  have hstarted := h.startToggle
  have hhrtf := h.hrtf
  rw [BinauralStage.process, DirectStage.process]
  generalize stage.hrtf = loaded, direct.hrtf = loaded' at hhrtf
  cases hhrtf with
  | none => exact .some ⟨rfl, h⟩
  | @some hrtf hrtf' hconvolves =>
      have horiginal := renderOriginalPath_convolves hfft layout hconvolves hblock
      dsimp only
      rw [hstarted.toggleFadeFramesRemaining, hstarted.bNearFieldActive]
      split
      · split
        · apply rel_bind (renderNearFieldPath_convolves hfft hconvolves hblock)
          rintro ⟨output, rendered⟩ ⟨_, rendered'⟩ ⟨rfl, hrendered⟩
          exact .some ⟨rfl, .some hrendered, hstarted.bNearFieldRequested, rfl, rfl,
            hstarted.toggleCrossfadeFrames⟩
        · exact .some ⟨horiginal.1, .some horiginal.2, hstarted.bNearFieldRequested, rfl,
            rfl, hstarted.toggleCrossfadeFrames⟩
      · apply rel_bind (renderNearFieldPath_convolves hfft horiginal.2 hblock)
        rintro ⟨nearFieldPath, rendered⟩ ⟨_, rendered'⟩ ⟨rfl, hrendered⟩
        refine .some ⟨?_, .some hrendered, hstarted.bNearFieldRequested, rfl, rfl,
          hstarted.toggleCrossfadeFrames⟩
        dsimp only
        rw [hstarted.toggleCrossfadeFrames, horiginal.1]

end

end DirectStage

/-! ## The deck -/

structure DirectDeck where
  sampleRate : ℝ
  bNearFieldEnabled : Bool
  slot : CrossfadingSlot DirectStage

/-- What is done to a deck. -/
inductive DeckOperation
  | switchTo (layout : SpeakerLayout) (kind : HrtfSourceKind) (sofaPath : ByteString)
  | setNearFieldEnabled (bEnabled : Bool)
  | rebuildVoiceForSpeaker (speaker : SpeakerChannel)
      (azimuthDegrees distanceMeters : Binary32)
  | collectGarbage
  | process (layout : SpeakerLayout) (input : List (SevenOneFrame ℝ))

/-- A block is made of whole blocks of the convolver. -/
def DeckOperation.Whole : DeckOperation → Prop
  | .process _ input => blockSamples ∣ input.length
  | _ => True

/-- One operation, and the frames that it renders. -/
noncomputable def HrtfDeck.operate (libs : DspLibraries ℝ) (deck : HrtfDeck ℝ) :
    DeckOperation → Option (List (StereoFrame ℝ) × HrtfDeck ℝ)
  | .switchTo layout kind sofaPath => some ([], deck.switchTo libs layout kind sofaPath)
  | .setNearFieldEnabled bEnabled => do
      let deck ← deck.setNearFieldEnabled bEnabled
      return ([], deck)
  | .rebuildVoiceForSpeaker speaker azimuthDegrees distanceMeters => do
      let deck ← deck.rebuildVoiceForSpeaker libs speaker azimuthDegrees distanceMeters
      return ([], deck)
  | .collectGarbage => do
      let deck ← deck.collectGarbage
      return ([], deck)
  | .process layout input => deck.process libs layout input

namespace DirectDeck

noncomputable def new (libs : DspLibraries ℝ) (layout : SpeakerLayout)
    (kind : HrtfSourceKind) (sofaPath : ByteString) (sampleRate : ℝ)
    (bInitialNearFieldEnabled : Bool) : DirectDeck :=
  { sampleRate
    bNearFieldEnabled := bInitialNearFieldEnabled
    slot :=
      { live := some (.new libs layout kind sofaPath sampleRate
          bInitialNearFieldEnabled)
        crossfadeFrames := fiftyMilliseconds sampleRate } }

noncomputable def operate (libs : DspLibraries ℝ) (deck : DirectDeck) :
    DeckOperation → Option (List (StereoFrame ℝ) × DirectDeck)
  | .switchTo layout kind sofaPath =>
      some ([], { deck with
        slot := deck.slot.publish
          (.new libs layout kind sofaPath deck.sampleRate deck.bNearFieldEnabled) })
  | .setNearFieldEnabled bEnabled => do
      let slot ← deck.slot.forwardToLive fun stage => stage.setNearFieldEnabled bEnabled
      return ([], { deck with bNearFieldEnabled := bEnabled, slot })
  | .rebuildVoiceForSpeaker speaker azimuthDegrees distanceMeters => do
      let slot ← deck.slot.forwardToLive fun stage =>
        stage.rebuildVoiceForSpeaker libs speaker azimuthDegrees distanceMeters
      return ([], { deck with slot })
  | .collectGarbage => do
      let slot ← deck.slot.collectGarbage.forwardToLive DirectStage.collectVoiceGarbage
      return ([], { deck with slot })
  | .process layout input => do
      let (output, slot) ← deck.slot.process
        (fun stage input => stage.process layout input) input
      return (output, { deck with slot })

/-- The stages of the deck are the ones of this deck. -/
structure Convolves (fft : RealFft ℝ) (deck : HrtfDeck ℝ) (direct : DirectDeck) :
    Prop where
  sampleRate : deck.sampleRate = direct.sampleRate
  bNearFieldEnabled : deck.bNearFieldEnabled = direct.bNearFieldEnabled
  slot : deck.slot.Related (DirectStage.Convolves fft) direct.slot

variable {libs : DspLibraries ℝ} {deck : HrtfDeck ℝ} {direct : DirectDeck}

theorem convolves_new (layout : SpeakerLayout) (kind : HrtfSourceKind)
    (sofaPath : ByteString) (sampleRate : ℝ) (bInitialNearFieldEnabled : Bool) :
    Convolves libs.fft
      (.new libs layout kind sofaPath sampleRate bInitialNearFieldEnabled)
      (new libs layout kind sofaPath sampleRate bInitialNearFieldEnabled) :=
  ⟨rfl, rfl, CrossfadingSlot.related_initial
    (DirectStage.convolves_new layout kind sofaPath sampleRate
      bInitialNearFieldEnabled) _⟩

/-- Every operation is answered alike. -/
theorem Convolves.operate (hfft : PartitionedConvolver.IsExact libs.fft)
    (h : Convolves libs.fft deck direct) {operation : DeckOperation}
    (hwhole : operation.Whole) :
    Answers (Convolves libs.fft) (deck.operate libs operation)
      (direct.operate libs operation) := by
  -- the calls that the live stage hears of
  have hforwarded : ∀ {forwarded forwarded'} {bEnabled bEnabled' : Bool},
      bEnabled = bEnabled' →
      Option.Rel (CrossfadingSlot.Related (DirectStage.Convolves libs.fft)) forwarded
        forwarded' →
      Answers (Convolves libs.fft)
        ((forwarded.bind fun slot =>
          some { deck with bNearFieldEnabled := bEnabled, slot }).bind
            fun deck => some (([] : List (StereoFrame ℝ)), deck))
        (forwarded'.bind fun slot =>
          some ([], { direct with bNearFieldEnabled := bEnabled', slot })) := by
    intro forwarded forwarded' bEnabled bEnabled' hflag hslot
    rw [Option.bind_assoc]
    exact rel_bind hslot fun slot slot' hslot => .some ⟨rfl, h.sampleRate, hflag, hslot⟩
  cases operation with
  | switchTo layout kind sofaPath =>
      refine .some ⟨rfl, h.sampleRate, h.bNearFieldEnabled, h.slot.publish ?_⟩
      rw [h.sampleRate, h.bNearFieldEnabled]
      exact DirectStage.convolves_new layout kind sofaPath _ _
  | setNearFieldEnabled bEnabled =>
      exact hforwarded rfl (h.slot.forwardToLive fun _ _ hstage =>
        hstage.setNearFieldEnabled bEnabled)
  | rebuildVoiceForSpeaker speaker azimuthDegrees distanceMeters =>
      exact hforwarded h.bNearFieldEnabled (h.slot.forwardToLive fun _ _ hstage =>
        hstage.rebuildVoiceForSpeaker speaker azimuthDegrees distanceMeters)
  | collectGarbage =>
      exact hforwarded h.bNearFieldEnabled
        (h.slot.collectGarbage.forwardToLive fun _ _ hstage =>
          hstage.collectVoiceGarbage)
  | process layout input =>
      have hslot : Answers (CrossfadingSlot.Related (DirectStage.Convolves libs.fft))
          (deck.slot.process (fun stage input => stage.process libs layout input) input)
          (direct.slot.process (fun stage input => stage.process layout input) input) :=
        h.slot.process fun stage direct hstage =>
          hstage.process hfft layout (DirectVoice.dvd_length_take hwhole)
      apply rel_bind hslot
      rintro ⟨output, slot⟩ ⟨_, slot'⟩ ⟨rfl, hslot⟩
      exact .some ⟨rfl, h.sampleRate, h.bNearFieldEnabled, hslot⟩

/-- In exact arithmetic and with exact transforms, a deck that convolves block by
block in the frequency domain puts out what one puts out that adds up every
convolution sample by sample, along every run of operations whose blocks are
whole. -/
theorem operate_direct (libs : DspLibraries ℝ)
    (hfft : PartitionedConvolver.IsExact libs.fft) (layout : SpeakerLayout)
    (kind : HrtfSourceKind) (sofaPath : ByteString) (sampleRate : ℝ)
    (bInitialNearFieldEnabled : Bool) {operations : List DeckOperation}
    (hwhole : ∀ operation ∈ operations, operation.Whole) :
    ∃ rendered,
      outputs (HrtfDeck.operate libs)
          (.new libs layout kind sofaPath sampleRate bInitialNearFieldEnabled)
          operations = some rendered ∧
        outputs (DirectDeck.operate libs)
          (.new libs layout kind sofaPath sampleRate bInitialNearFieldEnabled)
          operations = some rendered := by
  have hsucceeds : ∀ (deck : HrtfDeck ℝ) operation, deck.Sound →
      ∃ frames deck', deck.operate libs operation = some (frames, deck') ∧
        deck'.Sound := by
    intro deck operation hsound
    cases operation with
    | switchTo layout kind sofaPath =>
        exact ⟨_, _, rfl, hsound.switchTo libs layout kind sofaPath⟩
    | setNearFieldEnabled bEnabled =>
        obtain ⟨-, deck', -, -, hset, hsound'⟩ := hsound.setNearFieldEnabled bEnabled
        exact ⟨[], deck', by rw [HrtfDeck.operate, hset]; rfl, hsound'⟩
    | rebuildVoiceForSpeaker speaker azimuthDegrees distanceMeters =>
        obtain ⟨-, deck', -, -, hset, hsound'⟩ :=
          hsound.rebuildVoiceForSpeaker libs speaker azimuthDegrees distanceMeters
        exact ⟨[], deck', by rw [HrtfDeck.operate, hset]; rfl, hsound'⟩
    | collectGarbage =>
        obtain ⟨-, deck', -, -, hset, hsound'⟩ := hsound.collectGarbage
        exact ⟨[], deck', by rw [HrtfDeck.operate, hset]; rfl, hsound'⟩
    | process layout input =>
        obtain ⟨output, deck', hprocess, hsound', -⟩ := hsound.process libs layout input
        exact ⟨output, deck', hprocess, hsound'⟩
  obtain ⟨rendered, hrendered⟩ := exists_outputs hsucceeds
    (HrtfDeck.sound_new libs layout kind sofaPath sampleRate bInitialNearFieldEnabled)
    operations
  have hstep : ∀ (deck : HrtfDeck ℝ) (direct : DirectDeck) (operation : DeckOperation),
      Convolves libs.fft deck direct → operation.Whole →
      Answers (Convolves libs.fft) (deck.operate libs operation)
        (direct.operate libs operation) :=
    fun _ _ _ hconvolves hoperation => hconvolves.operate hfft hoperation
  have hsame := outputs_eq hstep
    (convolves_new layout kind sofaPath sampleRate bInitialNearFieldEnabled) hwhole
  exact ⟨rendered, hrendered, hsame ▸ hrendered⟩

/-- A block of one convolver block, in the middle of the switch to near-field
rendering. -/
theorem operate_direct_synthetic :
    ∃ rendered,
      outputs (HrtfDeck.operate HrtfDeck.exactLibraries)
          (.new HrtfDeck.exactLibraries .new .syntheticSphericalHead [] 48000 false)
          [.setNearFieldEnabled true, .process .new (List.replicate 128 1)] =
            some rendered ∧
        outputs (DirectDeck.operate HrtfDeck.exactLibraries)
          (.new HrtfDeck.exactLibraries .new .syntheticSphericalHead [] 48000 false)
          [.setNearFieldEnabled true, .process .new (List.replicate 128 1)] =
            some rendered := by
  refine operate_direct HrtfDeck.exactLibraries PartitionedConvolver.isExact_exactFft .new
    .syntheticSphericalHead [] 48000 false ?_
  intro operation hoperation
  rcases List.mem_pair.mp hoperation with rfl | rfl
  · trivial
  · exact ⟨1, List.length_replicate⟩

end DirectDeck

end RamkolFX
