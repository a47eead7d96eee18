import RamkolFX.Dsp.DeckSeams
import RamkolFX.Dsp.SlotRuns

/-!
# The two paths of a stage as a slot

A stage that fades from one of its two rendering paths to the other one does what a
slot does whose instances are the paths: the active path is the live instance, the
requested one is pending, and the one that is faded out is forgotten afterwards.
The stage goes on holding the path that nothing is rendered by, with whatever it has
been fed last; so long as no second toggle waits for the end of a first one, this is
not heard.
-/

namespace RamkolFX

open Support

/-- A path, with all that is rendered by it. -/
abbrev HeardPath := DirectStage.EarFilters ⊕ (SpeakerChannel → DirectVoice)

namespace HeardPath

noncomputable def process (layout : SpeakerLayout) :
    HeardPath → List (SevenOneFrame ℝ) → Option (List (StereoFrame ℝ) × HeardPath) :=
  choice (fun filters input => some (DirectStage.renderFilters layout filters input))
    DirectStage.renderVoicePath

abbrev Calm : HeardPath → Prop :=
  Sum.elim (fun _ => True) fun voices => ∀ speaker, (voices speaker).Calm

abbrev Alike : HeardPath → HeardPath → Prop :=
  Sum.LiftRel Eq fun voices voices' => ∀ speaker, (voices speaker).Alike (voices' speaker)

theorem seamless (layout : SpeakerLayout) :
    Seamless FitsStage Calm Alike (process layout) :=
  .choice (.of_append (DirectStage.length_renderFilters layout)
    (DirectStage.renderFilters_append layout)) DirectStage.seamless_renderVoicePath

end HeardPath

/-- A stage without filters, or the slot of its paths. -/
abbrev HeardStage := Unit ⊕ CrossfadingSlot HeardPath

namespace HeardStage

noncomputable def process (layout : SpeakerLayout) :
    HeardStage → List (SevenOneFrame ℝ) → Option (List (StereoFrame ℝ) × HeardStage) :=
  choice (fun stage input => some (AmbisonicsStage.process layout input, stage))
    fun slot input => slot.process (HeardPath.process layout) input

abbrev Calm : HeardStage → Prop :=
  Sum.elim (fun _ => True) (CrossfadingSlot.FadesOnce HeardPath.Calm)

abbrev Alike : HeardStage → HeardStage → Prop :=
  Sum.LiftRel Eq (CrossfadingSlot.Related HeardPath.Alike)

theorem seamless (layout : SpeakerLayout) :
    Seamless FitsStage Calm Alike (process layout) := by
  refine .choice (.of_append (fun _ _ => List.length_map _) ?_)
    (CrossfadingSlot.seamless (HeardPath.seamless layout) (fun _ h => h)
      (endsExactly Real.tanh))
  intro stage front back
  exact congrArg (·, stage) List.map_append

end HeardStage

namespace DirectHrtf

/-- The path that renders near-field sources, or the other one. -/
def path (hrtf : DirectHrtf) (bNearField : Bool) : HeardPath :=
  if bNearField then .inr hrtf.voices else .inl (hrtf.left, hrtf.right)

end DirectHrtf

namespace DirectStage

variable {stage : DirectStage} {hrtf : DirectHrtf} {slot : CrossfadingSlot HeardPath}
  {layout : SpeakerLayout} {input : List (SevenOneFrame ℝ)}

/-- The slot of the stage's paths. -/
def pathSlot (stage : DirectStage) (hrtf : DirectHrtf) : CrossfadingSlot HeardPath :=
  { live := some (hrtf.path stage.bNearFieldActive)
    fadingOut :=
      if stage.toggleFadeFramesRemaining = 0 then none
      else some (hrtf.path !stage.bNearFieldActive)
    pending :=
      if stage.bNearFieldRequested = stage.bNearFieldActive then none
      else some (hrtf.path stage.bNearFieldRequested)
    fadeFramesRemaining := stage.toggleFadeFramesRemaining
    crossfadeFrames := stage.toggleCrossfadeFrames }

/-- The slot holds the paths of the stage that are still to be heard, and no toggle
waits for the end of another one. -/
structure HasPaths (stage : DirectStage) (hrtf : DirectHrtf)
    (slot : CrossfadingSlot HeardPath) : Prop where
  once : stage.toggleFadeFramesRemaining ≠ 0 →
    stage.bNearFieldRequested = stage.bNearFieldActive
  live : slot.live = some (hrtf.path stage.bNearFieldActive)
  fadingOut : stage.toggleFadeFramesRemaining ≠ 0 →
    slot.fadingOut = some (hrtf.path !stage.bNearFieldActive)
  pending : slot.pending =
    if stage.bNearFieldRequested = stage.bNearFieldActive then none
    else some (hrtf.path stage.bNearFieldRequested)
  fadeFramesRemaining : slot.fadeFramesRemaining = stage.toggleFadeFramesRemaining
  crossfadeFrames : slot.crossfadeFrames = stage.toggleCrossfadeFrames

theorem hasPaths_pathSlot (hrtf : DirectHrtf)
    (honce : stage.toggleFadeFramesRemaining ≠ 0 →
      stage.bNearFieldRequested = stage.bNearFieldActive) :
    stage.HasPaths hrtf (stage.pathSlot hrtf) :=
  ⟨honce, rfl, fun hfade => if_neg hfade, rfl, rfl, rfl⟩

/-- A toggle starts when its path is taken from the slot. -/
theorem HasPaths.startToggle (h : stage.HasPaths hrtf slot) :
    stage.startToggle.HasPaths hrtf slot.takePending ∧
      stage.startToggle.bNearFieldRequested = stage.startToggle.bNearFieldActive := by
  by_cases hstarts : stage.toggleFadeFramesRemaining = 0 ∧
      stage.bNearFieldRequested ≠ stage.bNearFieldActive
  · obtain ⟨hover, hrequested⟩ := hstarts
    have hpending : slot.pending = some (hrtf.path stage.bNearFieldRequested) := by
      rw [h.pending, if_neg hrequested]
    have htakes : slot.Takes :=
      ⟨h.fadeFramesRemaining.trans hover, by rw [hpending]; rfl⟩
    have hold : stage.bNearFieldActive = !stage.bNearFieldRequested := by
      revert hrequested
      cases stage.bNearFieldRequested <;> cases stage.bNearFieldActive <;> decide
    rw [DirectStage.startToggle, if_pos ⟨hover, hrequested⟩, CrossfadingSlot.takePending,
      if_pos htakes]
    refine ⟨⟨fun _ => rfl, hpending, ?_, ?_, h.crossfadeFrames, h.crossfadeFrames⟩, rfl⟩
    · intro _
      exact h.live.trans (by rw [hold])
    · exact (if_pos rfl).symm
  · have hsame : stage.bNearFieldRequested = stage.bNearFieldActive := by
      by_cases hfade : stage.toggleFadeFramesRemaining = 0
      · exact not_not.mp fun hne => hstarts ⟨hfade, hne⟩
      · exact h.once hfade
    have hnone : slot.pending = none := h.pending.trans (if_pos hsame)
    rw [DirectStage.startToggle, if_neg hstarts,
      CrossfadingSlot.takePending_of_none hnone]
    exact ⟨h, hsame⟩

/-! ## Blocks -/

theorem renderNearFieldPath_of_voices {frames : List (StereoFrame ℝ)}
    {voices : SpeakerChannel → DirectVoice}
    (h : renderVoicePath hrtf.voices input = some (frames, voices)) :
    renderNearFieldPath hrtf input = some (frames, { hrtf with voices }) := by
  obtain ⟨⟨rendered, voices'⟩, hrendered, hframes⟩ := Option.bind_eq_some_iff.mp h
  obtain ⟨rfl, rfl⟩ := Prod.mk.inj (Option.some.inj hframes)
  rw [renderNearFieldPath, hrendered]
  rfl

theorem process_path_of_voices {frames : List (StereoFrame ℝ)}
    {voices : SpeakerChannel → DirectVoice}
    (h : renderVoicePath hrtf.voices input = some (frames, voices)) :
    HeardPath.process layout (hrtf.path true) input = some (frames, .inr voices) := by
  have hchoice : HeardPath.process layout (hrtf.path true) input =
      (renderVoicePath hrtf.voices input).map fun answer => (answer.1, .inr answer.2) := rfl
  rw [hchoice, h, Option.map_some]

/-- After a block without a fade. -/
theorem HasPaths.over (h : stage.HasPaths hrtf slot)
    (hsame : stage.bNearFieldRequested = stage.bNearFieldActive)
    (hover : stage.toggleFadeFramesRemaining = 0) (hrtf' : DirectHrtf) :
    HasPaths { stage with hrtf := some hrtf' } hrtf'
      { slot with live := some (hrtf'.path stage.bNearFieldActive) } where
  once _ := hsame
  live := rfl
  fadingOut hfade := absurd hover hfade
  pending := h.pending.trans (by simp only [hsame, if_true])
  fadeFramesRemaining := h.fadeFramesRemaining
  crossfadeFrames := h.crossfadeFrames

/-- After a block that fades. -/
theorem HasPaths.fading (h : stage.HasPaths hrtf slot)
    (hsame : stage.bNearFieldRequested = stage.bNearFieldActive) (hrtf' : DirectHrtf)
    (frames : ℕ) :
    HasPaths
      { stage with
        hrtf := some hrtf'
        toggleFadeFramesRemaining := stage.toggleFadeFramesRemaining - frames } hrtf'
      (CrossfadingSlot.discardFaded
        { slot with
          live := some (hrtf'.path stage.bNearFieldActive)
          fadingOut := some (hrtf'.path !stage.bNearFieldActive)
          fadeFramesRemaining := slot.fadeFramesRemaining - frames }) where
  once _ := hsame
  live := CrossfadingSlot.discardFaded_live _
  fadingOut hfade := by
    rw [CrossfadingSlot.discardFaded, h.fadeFramesRemaining, if_neg hfade]
  pending := by
    rw [CrossfadingSlot.discardFaded_pending]
    exact h.pending.trans (by simp only [hsame, if_true])
  fadeFramesRemaining := by
    rw [CrossfadingSlot.discardFaded_fadeFramesRemaining, h.fadeFramesRemaining]
  crossfadeFrames := by
    rw [CrossfadingSlot.discardFaded]
    split <;> exact h.crossfadeFrames

/-- A block of the stage is one of the slot of its paths. -/
theorem HasPaths.process (h : stage.HasPaths hrtf slot) (layout : SpeakerLayout)
    (hhrtf : stage.hrtf = some hrtf)
    (hcalm : slot.FadesOnce HeardPath.Calm) (hinput : FitsStage input.length) :
    ∃ frames stage' hrtf' slot', stage.process layout input = some (frames, stage') ∧
      slot.process (HeardPath.process layout) input = some (frames, slot') ∧
      stage'.hrtf = some hrtf' ∧ stage'.HasPaths hrtf' slot' := by
  obtain ⟨htaken, hnone⟩ := hcalm.takePending
  obtain ⟨hstarted, hsame⟩ := h.startToggle
  rw [DirectStage.process, hhrtf, ← CrossfadingSlot.process_takePending hcalm]
  dsimp only
  rw [List.take_of_length_le hinput]
  generalize stage.startToggle = started, slot.takePending = taken at *
  have hvoices : HeardPath.Calm (hrtf.path true) →
      ∃ near voices, renderVoicePath hrtf.voices input = some (near, voices) := by
    intro hvoices
    obtain ⟨near, voices, hnear, -⟩ :=
      seamless_renderVoicePath.answers hrtf.voices input hvoices hinput
    exact ⟨near, voices, hnear⟩
  have hcalmLive : HeardPath.Calm (hrtf.path started.bNearFieldActive) := by
    obtain ⟨live, hlive, hcalmLive⟩ := htaken.live
    obtain rfl := Option.some.inj (hstarted.live.symm.trans hlive)
    exact hcalmLive
  by_cases hfade : started.toggleFadeFramesRemaining = 0
  · have hover := hstarted.fadeFramesRemaining.trans hfade
    have hafter := hstarted.over hsame hfade
    have hlive := hstarted.live
    rw [if_pos hfade]
    cases hactive : started.bNearFieldActive with
    | true =>
        rw [hactive] at hcalmLive hlive
        obtain ⟨near, voices, hnear⟩ := hvoices hcalmLive
        have hnext := hafter { hrtf with voices }
        rw [hactive] at hnext
        refine ⟨near, _, _, _, ?_, CrossfadingSlot.process_over _ hnone hinput hover hlive
          (process_path_of_voices hnear), rfl, hnext⟩
        rw [if_pos rfl, renderNearFieldPath_of_voices hnear]
        rfl
    | false =>
        rw [hactive] at hlive
        have hnext := hafter (renderOriginalPath layout hrtf input).2
        rw [hactive] at hnext
        exact ⟨_, _, _, _, rfl,
          CrossfadingSlot.process_over _ hnone hinput hover hlive rfl, rfl, hnext⟩
  · have hcalmOld : HeardPath.Calm (hrtf.path !started.bNearFieldActive) :=
      htaken.fadingOut _ (hstarted.fadingOut hfade)
    obtain ⟨near, voices, hnear⟩ : ∃ near voices,
        renderVoicePath hrtf.voices input = some (near, voices) := by
      cases hactive : started.bNearFieldActive with
      | true => exact hvoices (hactive ▸ hcalmLive)
      | false => exact hvoices (by rwa [hactive] at hcalmOld)
    have hlive := hstarted.live
    have hold := hstarted.fadingOut hfade
    have hfading : taken.fadeFramesRemaining ≠ 0 := by
      rwa [hstarted.fadeFramesRemaining]
    have hnext := hstarted.fading hsame { (renderOriginalPath layout hrtf input).2 with voices }
      input.length
    have hnearFieldPath : renderNearFieldPath (renderOriginalPath layout hrtf input).2
        input = some (near, { (renderOriginalPath layout hrtf input).2 with voices }) :=
      renderNearFieldPath_of_voices hnear
    rw [if_neg hfade, hnearFieldPath]
    cases hactive : started.bNearFieldActive with
    | true =>
        rw [hactive] at hlive hold hnext
        refine ⟨CrossfadingSlot.mix taken.crossfadeFrames taken.fadeFramesRemaining
            (renderOriginalPath layout hrtf input).1 near, _, _, _, ?_,
          CrossfadingSlot.process_fading _ hnone hinput hfading hlive hold
            (process_path_of_voices hnear) rfl, rfl, hnext⟩
        rw [hstarted.crossfadeFrames, hstarted.fadeFramesRemaining]
        rfl
    | false =>
        rw [hactive] at hlive hold hnext
        refine ⟨CrossfadingSlot.mix taken.crossfadeFrames taken.fadeFramesRemaining near
            (renderOriginalPath layout hrtf input).1, _, _, _, ?_,
          CrossfadingSlot.process_fading _ hnone hinput hfading hlive hold rfl
            (process_path_of_voices hnear), rfl, hnext⟩
        rw [hstarted.crossfadeFrames, hstarted.fadeFramesRemaining]
        rfl

/-! ## What is heard of a stage -/

/-- What is still to be heard of a stage, which is calm. -/
def Heard (stage : DirectStage) (heard : HeardStage) : Prop :=
  heard.Calm ∧
    Sum.elim (fun _ => stage.hrtf = none)
      (fun slot => ∃ hrtf, stage.hrtf = some hrtf ∧ stage.HasPaths hrtf slot) heard

theorem Heard.process {heard : HeardStage} (h : stage.Heard heard)
    (hinput : FitsStage input.length) :
    Answers Heard (stage.process layout input) (heard.process layout input) := by
  obtain ⟨hcalm, hheard⟩ := h
  have hanswers := (HeardStage.seamless layout).answers heard input hcalm hinput
  obtain ⟨frames, heard', hprocess, -, hcalm'⟩ := hanswers
  rw [hprocess]
  cases heard with
  | inl nothing =>
      have hnone : stage.hrtf = none := hheard
      obtain ⟨rfl, rfl⟩ := Prod.mk.inj (Option.some.inj hprocess)
      rw [DirectStage.process, hnone]
      exact .some ⟨rfl, hcalm', hnone⟩
  | inr slot =>
      obtain ⟨hrtf, hhrtf, hpaths⟩ := hheard
      obtain ⟨frames', stage', hrtf', slot', hrendered, hslot, hhrtf', hpaths'⟩ :=
        hpaths.process layout hhrtf hcalm hinput
      have hsame : HeardStage.process layout (.inr slot) input =
          some (frames', .inr slot') := by
        have hchoice : HeardStage.process layout (.inr slot) input =
            (slot.process (HeardPath.process layout) input).map fun answer =>
              (answer.1, .inr answer.2) := rfl
        rw [hchoice, hslot, Option.map_some]
      obtain ⟨rfl, rfl⟩ := Prod.mk.inj (Option.some.inj (hprocess.symm.trans hsame))
      rw [hrendered]
      exact .some ⟨rfl, hcalm', hrtf', hhrtf', hpaths'⟩

/-- The paths of a stage, if it has any. -/
def heardStage (stage : DirectStage) : HeardStage :=
  match stage.hrtf with
  | none => .inl ()
  | some hrtf => .inr (stage.pathSlot hrtf)

end DirectStage

/-! ## Decks -/

theorem CrossfadingSlot.Related.map {T T' U : Type} {R : T → T' → Prop} {S : T → U → Prop}
    {slot : CrossfadingSlot T} {slot' : CrossfadingSlot T'} (h : Related R slot slot')
    (f : T' → U) (hf : ∀ t t', R t t' → S t (f t')) : Related S slot (slot'.map f) := by
  have hheld : ∀ {held : Option T} {held' : Option T'}, Option.Rel R held held' →
      Option.Rel S held (held'.map f) := by
    rintro _ _ (⟨hrel⟩ | _)
    · exact .some (hf _ _ hrel)
    · exact .none
  exact ⟨hheld h.live, hheld h.fadingOut, hheld h.pending, h.fadeFramesRemaining,
    h.crossfadeFrames⟩

/-- The voice is calm: no position waits for the end of a fade. -/
def BinauralVoice.Calm (voice : BinauralVoice ℝ) : Prop :=
  voice.slot.FadesOnce fun _ => True

/-- The stage is calm: no toggle waits for the end of another one, and the voices
are calm. -/
structure BinauralStage.Calm (stage : BinauralStage ℝ) : Prop where
  once : stage.toggleFadeFramesRemaining ≠ 0 →
    stage.bNearFieldRequested = stage.bNearFieldActive
  voices : ∀ hrtf, stage.hrtf = some hrtf → ∀ speaker, (hrtf.voices speaker).Calm

/-- A loaded stage has nothing to wait for. -/
theorem BinauralStage.calm_new (libs : DspLibraries ℝ) (layout : SpeakerLayout)
    (kind : HrtfSourceKind) (sofaPath : ByteString) (sampleRate : ℝ)
    (bInitialNearFieldEnabled : Bool) :
    (BinauralStage.new libs layout kind sofaPath sampleRate
      bInitialNearFieldEnabled).Calm := by
  refine ⟨fun hfade => absurd rfl hfade, ?_⟩
  intro hrtf hloaded speaker
  obtain ⟨source, -, rfl⟩ := Option.map_eq_some_iff.mp hloaded
  exact CrossfadingSlot.fadesOnce_initial trivial _

theorem BinauralStage.Calm.collectVoiceGarbage {stage : BinauralStage ℝ}
    (h : stage.Calm) : stage.collectVoiceGarbage.Calm := by
  refine ⟨h.once, ?_⟩
  intro hrtf hcollected speaker
  obtain ⟨held, hheld, rfl⟩ := Option.map_eq_some_iff.mp hcollected
  exact CrossfadingSlot.FadesOnce.collectGarbage (h.voices held hheld speaker)

namespace DirectStage

/-- A calm stage is heard by its paths. -/
theorem Convolves.heard {fft : RealFft ℝ} {stage : BinauralStage ℝ} {direct : DirectStage}
    (h : Convolves fft stage direct) (hcalm : stage.Calm) :
    direct.Heard direct.heardStage := by
  have honce : direct.toggleFadeFramesRemaining ≠ 0 →
      direct.bNearFieldRequested = direct.bNearFieldActive := by
    rw [← h.toggleFadeFramesRemaining, ← h.bNearFieldRequested, ← h.bNearFieldActive]
    exact hcalm.once
  have hloaded := h.hrtf
  have hvoices := hcalm.voices
  rw [heardStage]
  generalize stage.hrtf = loaded at hloaded hvoices
  cases hdirect : direct.hrtf with
  | none => exact ⟨trivial, hdirect⟩
  | some hrtf =>
      rw [hdirect] at hloaded
      cases hloaded with
      | some hconvolves =>
          have hcalmVoices : ∀ speaker, (hrtf.voices speaker).Calm :=
            fun speaker => (hvoices _ rfl speaker).of_related
              (hconvolves.voices speaker).slot fun _ _ _ _ => trivial
          have hpath : ∀ bNearField, HeardPath.Calm (hrtf.path bNearField) := by
            rintro (_ | _)
            · trivial
            · exact hcalmVoices
          refine ⟨?_, hrtf, hdirect, hasPaths_pathSlot hrtf honce⟩
          constructor
          case live => exact ⟨_, rfl, hpath _⟩
          case fades => exact fun hfade => ⟨_, if_neg hfade⟩
          case fadingOut =>
            intro old hold
            obtain ⟨-, hsome⟩ := Option.ite_none_left_eq_some.mp hold
            obtain rfl := Option.some.inj hsome
            exact hpath _
          case pending =>
            intro pending hpending
            obtain ⟨-, hsome⟩ := Option.ite_none_left_eq_some.mp hpending
            obtain rfl := Option.some.inj hsome
            exact hpath _
          case once => exact fun hfade => if_pos (honce hfade)

end DirectStage

namespace HrtfDeck

/-- The deck is calm: no stage waits for the end of a fade, and all are calm. -/
def Calm (deck : HrtfDeck ℝ) : Prop :=
  deck.slot.FadesOnce BinauralStage.Calm

/-- What is still to be heard of a deck. -/
structure Heard (fft : RealFft ℝ) (deck : HrtfDeck ℝ)
    (heard : CrossfadingSlot HeardStage) : Prop where
  calm : heard.FadesOnce HeardStage.Calm
  slot : deck.slot.Related
    (fun stage heard => ∃ direct, DirectStage.Convolves fft stage direct ∧ direct.Heard heard)
    heard

variable {libs : DspLibraries ℝ} {deck : HrtfDeck ℝ}

theorem Calm.exists_heard (h : deck.Calm) {direct : DirectDeck}
    (hconvolves : DirectDeck.Convolves libs.fft deck direct) :
    ∃ heard, deck.Heard libs.fft heard := by
  obtain ⟨live, hlive, hcalmLive⟩ := h.live
  have hrelated : deck.slot.Related
      (fun stage direct => DirectStage.Convolves libs.fft stage direct ∧ stage.Calm)
      direct.slot := by
    refine hconvolves.slot.imp ?_ ?_ ?_
    · rintro stage direct hstage - hrelated
      obtain rfl := Option.some.inj (hlive.symm.trans hstage)
      exact ⟨hrelated, hcalmLive⟩
    · exact fun stage _ hstage _ hrelated => ⟨hrelated, h.fadingOut stage hstage⟩
    · exact fun stage _ hstage _ hrelated => ⟨hrelated, h.pending stage hstage⟩
  have hheard : deck.slot.Related
      (fun stage heard => ∃ direct, DirectStage.Convolves libs.fft stage direct ∧
        direct.Heard heard) (direct.slot.map DirectStage.heardStage) :=
    hrelated.map _ fun stage direct hstage =>
      ⟨direct, hstage.1, hstage.1.heard hstage.2⟩
  refine ⟨_, h.of_related hheard ?_, hheard⟩
  rintro stage heard ⟨direct, -, hcalm, -⟩ -
  exact hcalm

/-- A block of the deck is one of what is heard of it. -/
theorem Heard.process {heard : CrossfadingSlot HeardStage} (h : deck.Heard libs.fft heard)
    (hfft : PartitionedConvolver.IsExact libs.fft) (layout : SpeakerLayout)
    {input : List (SevenOneFrame ℝ)} (hfits : FitsStage input.length)
    (hwhole : blockSamples ∣ input.length) :
    Answers (Heard libs.fft) (deck.process libs layout input)
      (heard.process (HeardStage.process layout) input) := by
  have hblock := DirectVoice.dvd_length_take hwhole
  have hshort : FitsStage (input.take maxProcessFrames).length := by
    rwa [List.take_of_length_le hfits]
  have hslot : Answers (CrossfadingSlot.Related fun stage heard =>
        ∃ direct, DirectStage.Convolves libs.fft stage direct ∧ direct.Heard heard)
      (deck.slot.process (fun stage input => stage.process libs layout input) input)
      (heard.process (HeardStage.process layout) input) := by
    refine h.slot.process ?_
    rintro stage heard ⟨direct, hconvolves, hheard⟩
    exact answers_trans (hconvolves.process hfft layout hblock) (hheard.process hshort)
  obtain ⟨frames, heard', hprocess, -, hcalm, -⟩ :=
    h.calm.process (HeardStage.seamless layout) (fun _ hfits => hfits) hfits
  rw [HrtfDeck.process]
  rw [hprocess] at hslot ⊢
  generalize deck.slot.process
    (fun stage input => stage.process libs layout input) input = answer at hslot
  cases hslot with
  | some hrelated =>
      obtain ⟨hsame, hrelated⟩ := hrelated
      exact .some ⟨hsame, hcalm, hrelated⟩

end HrtfDeck

end RamkolFX
