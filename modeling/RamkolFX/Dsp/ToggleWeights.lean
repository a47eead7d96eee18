import RamkolFX.Dsp.HrtfDeck
import RamkolFX.Dsp.SlotWeights

/-!
# Weights of the two paths of a binaural stage

A toggle of near-field rendering crossfades between the two paths of a stage as
a slot does between two instances, and its frames are smoothly mixed as well.
-/

namespace RamkolFX

open Support CrossfadingSlot

namespace BinauralStage

/-- What a frame of the stage is mixed from; the algebraic decode is the only
path of a stage whose source did not load. -/
inductive RenderPath
  | original
  | nearField
  | algebraic
  deriving DecidableEq

/-- The path that the flag stands for. -/
def pathOf (bNearField : Bool) : RenderPath :=
  if bNearField then .nearField else .original

section

variable {α : Type} [FloatArith α]

/-- What the paths render for the `i`-th frame of a block. -/
def renderedPath (libs : DspLibraries α) (layout : SpeakerLayout)
    (stage : BinauralStage α) (input : List (SevenOneFrame α)) (i : ℕ)
    (path : RenderPath) : Option (StereoFrame α) :=
  match stage.hrtf, path with
  | none, .algebraic => (AmbisonicsStage.process layout input)[i]?
  | some hrtf, .original =>
      if stage.startToggle.toggleFadeFramesRemaining = 0 ∧
        stage.startToggle.bNearFieldActive then none
      else (renderOriginalPath libs layout hrtf (input.take maxProcessFrames)).1[i]?
  | some hrtf, .nearField =>
      if stage.startToggle.toggleFadeFramesRemaining = 0 ∧
        ¬ stage.startToggle.bNearFieldActive then none
      else do
        let (output, _) ← renderNearFieldPath libs hrtf (input.take maxProcessFrames)
        output[i]?
  | _, _ => none

section

variable {libs : DspLibraries α} {layout : SpeakerLayout} {stage : BinauralStage α}
  {hrtf : LoadedHrtf α} {input : List (SevenOneFrame α)}

theorem renderedPath_original (hhrtf : stage.hrtf = some hrtf)
    (h : stage.startToggle.toggleFadeFramesRemaining = 0 →
      stage.startToggle.bNearFieldActive = false) (i : ℕ) :
    renderedPath libs layout stage input i .original =
      (renderOriginalPath libs layout hrtf (input.take maxProcessFrames)).1[i]? := by
  simp only [renderedPath, hhrtf]
  apply if_neg
  rintro ⟨hfade, hactive⟩
  exact Bool.false_ne_true ((h hfade).symm.trans hactive)

theorem renderedPath_nearField (hhrtf : stage.hrtf = some hrtf)
    (h : stage.startToggle.toggleFadeFramesRemaining = 0 →
      stage.startToggle.bNearFieldActive = true)
    {output : List (StereoFrame α)}
    (hrender : (renderNearFieldPath libs hrtf (input.take maxProcessFrames)).map
      Prod.fst = some output) (i : ℕ) :
    renderedPath libs layout stage input i .nearField = output[i]? := by
  obtain ⟨rendered, hrendered, rfl⟩ := Option.map_eq_some_iff.mp hrender
  have hactive : ¬ (stage.startToggle.toggleFadeFramesRemaining = 0 ∧
      ¬ stage.startToggle.bNearFieldActive) :=
    fun hoff => hoff.2 (h hoff.1)
  simp only [renderedPath, hhrtf, if_neg hactive, hrendered]
  rfl

end

/-- The near-field path does not touch the convolvers of the original one. -/
theorem renderNearFieldPath_original (libs : DspLibraries α) (layout : SpeakerLayout)
    (hrtf : LoadedHrtf α) (input : List (SevenOneFrame α)) :
    (renderNearFieldPath libs (renderOriginalPath libs layout hrtf input).2
        input).map Prod.fst =
      (renderNearFieldPath libs hrtf input).map Prod.fst := by
  rw [renderNearFieldPath, renderNearFieldPath]
  show ((renderVoices _ _ _ _ hrtf.voices).bind _).map _ =
    ((renderVoices _ _ _ _ hrtf.voices).bind _).map _
  cases renderVoices libs input (List.finRange speakerCount)
    (List.replicate input.length fun _ => 0) hrtf.voices <;> rfl

/-- An operation on the stage. -/
inductive StageEvent (α : Type)
  | setNearFieldEnabled (bEnabled : Bool)
  | rebuildVoiceForSpeaker (speaker : SpeakerChannel)
      (azimuthDegrees distanceMeters : Binary32)
  | collectVoiceGarbage
  | process (layout : SpeakerLayout) (input : List (SevenOneFrame α))

/-- The stage and the frames put out. -/
structure StageSession (α : Type) where
  stage : BinauralStage α
  frames : List (MixedFrame RenderPath 2 α) := []

namespace StageSession

def step (libs : DspLibraries α) (session : StageSession α) :
    StageEvent α → Option (StageSession α)
  | .setNearFieldEnabled bEnabled =>
      some { session with stage := session.stage.setNearFieldEnabled bEnabled }
  | .rebuildVoiceForSpeaker speaker azimuthDegrees distanceMeters =>
      some { session with
        stage := session.stage.rebuildVoiceForSpeaker libs speaker azimuthDegrees
          distanceMeters }
  | .collectVoiceGarbage =>
      some { session with stage := session.stage.collectVoiceGarbage }
  | .process layout input => do
      let (output, stage) ← session.stage.process libs layout input
      return {
        stage
        frames := session.frames ++ output.mapIdx fun i frame =>
          ⟨frame, renderedPath libs layout session.stage input i⟩ }

end StageSession

end

/-- The fade that a stage is in. -/
def toggleFade {α : Type} (stage : BinauralStage α) : Crossfade RenderPath :=
  if stage.hrtf.isSome then
    ⟨pathOf stage.bNearFieldActive, pathOf (!stage.bNearFieldActive),
      stage.toggleFadeFramesRemaining⟩
  else ⟨.algebraic, .algebraic, 0⟩

theorem toggleFade_of_loaded {α : Type} {stage : BinauralStage α} {hrtf : LoadedHrtf α}
    (h : stage.hrtf = some hrtf) :
    stage.toggleFade = ⟨pathOf stage.bNearFieldActive, pathOf (!stage.bNearFieldActive),
      stage.toggleFadeFramesRemaining⟩ := by
  rw [toggleFade, h, Option.isSome_some, if_pos rfl]

@[simp] theorem startToggle_crossfadeFrames {α : Type} (stage : BinauralStage α) :
    stage.startToggle.toggleCrossfadeFrames = stage.toggleCrossfadeFrames := by
  rw [startToggle]
  split <;> rfl

/-- A toggle that starts fades from the active path to the other one. -/
theorem toggleFade_startToggle {α : Type} {stage : BinauralStage α} {hrtf : LoadedHrtf α}
    (hhrtf : stage.hrtf = some hrtf) (hover : stage.toggleFadeFramesRemaining = 0)
    (hne : stage.bNearFieldRequested ≠ stage.bNearFieldActive) :
    stage.startToggle.toggleFade =
      stage.toggleFade.start (pathOf stage.bNearFieldRequested)
        stage.toggleCrossfadeFrames := by
  have hhrtf' : stage.startToggle.hrtf = some hrtf :=
    (startToggle_hrtf stage).1.trans hhrtf
  have hother : (!stage.bNearFieldRequested) = stage.bNearFieldActive :=
    Bool.not_eq.mpr hne
  rw [toggleFade_of_loaded hhrtf', toggleFade_of_loaded hhrtf, startToggle,
    if_pos ⟨hover, hne⟩, hother]
  rfl

/-- The path that a toggle begins to fade in has no weight yet. -/
theorem weight_toggleFade_startToggle {α : Type} {stage : BinauralStage α}
    (h : 0 < stage.toggleCrossfadeFrames) :
    stage.startToggle.toggleFade.weight ℝ stage.toggleCrossfadeFrames =
      stage.toggleFade.weight ℝ stage.toggleCrossfadeFrames := by
  by_cases hstarts : stage.toggleFadeFramesRemaining = 0 ∧
      stage.bNearFieldRequested ≠ stage.bNearFieldActive
  · cases hhrtf : stage.hrtf with
    | none =>
        rw [toggleFade, toggleFade, (startToggle_hrtf stage).1, hhrtf]
        rfl
    | some hrtf =>
        have hover : stage.toggleFade.remaining = 0 := by
          rw [toggleFade_of_loaded hhrtf]
          exact hstarts.1
        rw [toggleFade_startToggle hhrtf hstarts.1 hstarts.2]
        exact Crossfade.weight_start hover (Nat.cast_ne_zero.mpr h.ne') _
  · rw [startToggle, if_neg hstarts]

theorem remaining_startToggle_le {α : Type} {stage : BinauralStage α}
    (h : stage.toggleFade.remaining ≤ stage.toggleCrossfadeFrames) :
    stage.startToggle.toggleFade.remaining ≤ stage.toggleCrossfadeFrames := by
  by_cases hstarts : stage.toggleFadeFramesRemaining = 0 ∧
      stage.bNearFieldRequested ≠ stage.bNearFieldActive
  · cases hhrtf : stage.hrtf with
    | none =>
        rw [toggleFade, (startToggle_hrtf stage).1, hhrtf]
        exact Nat.zero_le _
    | some hrtf =>
        rw [toggleFade_startToggle hhrtf hstarts.1 hstarts.2]
        exact le_rfl
  · rwa [startToggle, if_neg hstarts]

section

variable {libs : DspLibraries ℝ} {layout : SpeakerLayout} {stage after : BinauralStage ℝ}
  {input : List (SevenOneFrame ℝ)} {output : List (StereoFrame ℝ)}

/-- The block is mixed as the toggle says, and leaves the fade where the block
has brought it. -/
structure MixedBy (libs : DspLibraries ℝ) (layout : SpeakerLayout)
    (stage : BinauralStage ℝ) (input : List (SevenOneFrame ℝ))
    (output : List (StereoFrame ℝ)) (after : BinauralStage ℝ) : Prop where
  toggleFade : after.toggleFade = stage.startToggle.toggleFade.after output.length
  crossfadeFrames : after.toggleCrossfadeFrames = stage.toggleCrossfadeFrames
  blends : ∀ i frame, output[i]? = some frame →
    Blends stage.toggleCrossfadeFrames (stage.startToggle.toggleFade.after i)
      ⟨frame, renderedPath libs layout stage input i⟩

/-- A stage in no toggle plays its active path alone. -/
theorem mixedBy_of_settled {hrtf hrtf' : LoadedHrtf ℝ} (hhrtf : stage.hrtf = some hrtf)
    (hfade : stage.startToggle.toggleFadeFramesRemaining = 0)
    (hafter : after = { stage.startToggle with hrtf := some hrtf' })
    (hplays : ∀ i, renderedPath libs layout stage input i
      (pathOf stage.startToggle.bNearFieldActive) = output[i]?) :
    MixedBy libs layout stage input output after := by
  have hhrtf' : stage.startToggle.hrtf = some hrtf :=
    (startToggle_hrtf stage).1.trans hhrtf
  have hover (i : ℕ) : stage.startToggle.toggleFadeFramesRemaining - i = 0 := by
    rw [hfade, Nat.zero_sub]
  obtain rfl := hafter
  refine ⟨?_, startToggle_crossfadeFrames stage, fun i frame hframe => ?_⟩
  · refine (toggleFade_of_loaded rfl).trans ?_
    rw [toggleFade_of_loaded hhrtf', Crossfade.after, hover, ← hfade]
  · rw [toggleFade_of_loaded hhrtf']
    refine blends_of_over (hover i) ?_
    show renderedPath libs layout stage input i
      (pathOf stage.startToggle.bNearFieldActive) = some frame
    rw [hplays, hframe]

/-- During a toggle the block is the mix of both paths. -/
theorem mixedBy_of_toggle {hrtf : LoadedHrtf ℝ} (hsound : stage.Sound)
    (hhrtf : stage.hrtf = some hrtf)
    (hfade : stage.startToggle.toggleFadeFramesRemaining ≠ 0)
    (hprocess : stage.process libs layout input = some (output, after)) :
    MixedBy libs layout stage input output after := by
  have hhrtf' : stage.startToggle.hrtf = some hrtf :=
    (startToggle_hrtf stage).1.trans hhrtf
  obtain ⟨nearFieldPath, rendered, hrender, -⟩ := renderNearFieldPath_sound libs
    (renderOriginalPath libs layout hrtf (input.take maxProcessFrames)).2
    (input.take maxProcessFrames) (hsound hrtf hhrtf)
  have hnearField (i : ℕ) :
      renderedPath libs layout stage input i .nearField = nearFieldPath[i]? :=
    renderedPath_nearField hhrtf (fun hover => absurd hover hfade)
      ((renderNearFieldPath_original libs layout hrtf _).symm.trans
        (congrArg (Option.map Prod.fst) hrender)) i
  have horiginal (i : ℕ) : renderedPath libs layout stage input i .original =
      (renderOriginalPath libs layout hrtf (input.take maxProcessFrames)).1[i]? :=
    renderedPath_original hhrtf (fun hover => absurd hover hfade) i
  have hframes := length_renderNearFieldPath
    (List.length_take_le maxProcessFrames input) hrender
  have hframes' := length_renderOriginalPath libs layout hrtf
    (input.take maxProcessFrames)
  rw [process_of_toggle libs layout input hhrtf hfade hrender] at hprocess
  obtain ⟨rfl, rfl⟩ := Prod.mk.inj (Option.some.inj hprocess)
  have hfadeEq := toggleFade_of_loaded hhrtf'
  cases hactive : stage.startToggle.bNearFieldActive with
  | false =>
      rw [hactive] at hfadeEq
      refine ⟨?_, startToggle_crossfadeFrames stage, fun i frame hframe => ?_⟩
      · refine (toggleFade_of_loaded rfl).trans ?_
        rw [hfadeEq, length_mix, if_neg Bool.false_ne_true,
          if_neg Bool.false_ne_true, hframes, hframes', Nat.min_self, ← hactive]
        rfl
      · obtain ⟨oldFrame, newFrame, hold, hnew, hmixed⟩ := mix_getElem? hframe
        rw [startToggle_crossfadeFrames] at hmixed
        rw [hfadeEq]
        exact blends_of_mixed ((horiginal i).trans hnew) ((hnearField i).trans hold)
          hmixed
  | true =>
      rw [hactive] at hfadeEq
      refine ⟨?_, startToggle_crossfadeFrames stage, fun i frame hframe => ?_⟩
      · refine (toggleFade_of_loaded rfl).trans ?_
        rw [hfadeEq, length_mix, if_pos rfl, if_pos rfl, hframes, hframes',
          Nat.min_self, ← hactive]
        rfl
      · obtain ⟨oldFrame, newFrame, hold, hnew, hmixed⟩ := mix_getElem? hframe
        rw [startToggle_crossfadeFrames] at hmixed
        rw [hfadeEq]
        exact blends_of_mixed ((hnearField i).trans hnew) ((horiginal i).trans hold)
          hmixed

/-- A block of a loaded stage is mixed as the toggle says. -/
theorem mixedBy_process {hrtf : LoadedHrtf ℝ} (hsound : stage.Sound)
    (hhrtf : stage.hrtf = some hrtf)
    (hprocess : stage.process libs layout input = some (output, after)) :
    MixedBy libs layout stage input output after := by
  by_cases hfade : stage.startToggle.toggleFadeFramesRemaining = 0
  · cases hactive : stage.startToggle.bNearFieldActive with
    | false =>
        rw [process_of_original libs layout input hhrtf hfade hactive] at hprocess
        obtain ⟨rfl, rfl⟩ := Prod.mk.inj (Option.some.inj hprocess)
        refine mixedBy_of_settled hhrtf hfade rfl fun i => ?_
        rw [hactive]
        exact renderedPath_original hhrtf (fun _ => hactive) i
    | true =>
        obtain ⟨frames, rendered, hrender, -⟩ := renderNearFieldPath_sound libs hrtf
          (input.take maxProcessFrames) (hsound hrtf hhrtf)
        rw [process_of_nearField libs layout input hhrtf hfade hactive hrender]
          at hprocess
        obtain ⟨rfl, rfl⟩ := Prod.mk.inj (Option.some.inj hprocess)
        refine mixedBy_of_settled hhrtf hfade rfl fun i => ?_
        rw [hactive]
        exact renderedPath_nearField hhrtf (fun _ => hactive)
          (congrArg (Option.map Prod.fst) hrender) i
  · exact mixedBy_of_toggle hsound hhrtf hfade hprocess

/-- A stage without a source mixes nothing. -/
theorem blends_process_algebraic (hhrtf : stage.hrtf = none) :
    stage.process libs layout input =
      some (AmbisonicsStage.process layout input, stage) ∧
    ∀ i frame, (AmbisonicsStage.process layout input)[i]? = some frame →
      Blends stage.toggleCrossfadeFrames (stage.toggleFade.after i)
        ⟨frame, renderedPath libs layout stage input i⟩ := by
  refine ⟨?_, fun i frame hframe => ?_⟩
  · rw [process, hhrtf]
    rfl
  · rw [toggleFade, hhrtf]
    apply blends_of_over (Nat.zero_sub i)
    show renderedPath libs layout stage input i .algebraic = some frame
    simp only [renderedPath, hhrtf, hframe]

end

/-! ## Whole runs -/

theorem toggleFade_of_hrtf {α : Type} {stage : BinauralStage α}
    {hrtf : Option (LoadedHrtf α)} (h : hrtf.isSome = stage.hrtf.isSome) :
    ({ stage with hrtf } : BinauralStage α).toggleFade = stage.toggleFade := by
  rw [toggleFade, toggleFade, h]

namespace StageSession

/-- The frames so far are smoothly mixed, and the fade that the stage is in goes
on from there. -/
structure Smooth (crossfadeFrames : ℕ) (session : StageSession ℝ) : Prop where
  sound : session.stage.Sound
  crossfadeFrames_eq : session.stage.toggleCrossfadeFrames = crossfadeFrames
  remaining_le : session.stage.toggleFade.remaining ≤ crossfadeFrames
  mixed : MixedUpTo crossfadeFrames session.frames session.stage.toggleFade

section

variable {libs : DspLibraries ℝ} {crossfadeFrames : ℕ} {session : StageSession ℝ}

theorem Smooth.process (h : session.Smooth crossfadeFrames) (hpos : 0 < crossfadeFrames)
    (layout : SpeakerLayout) (input : List (SevenOneFrame ℝ)) :
    ∃ session', session.step libs (.process layout input) = some session' ∧
      session'.Smooth crossfadeFrames := by
  obtain ⟨output, stage, hprocess, hsound, -⟩ := h.sound.process libs layout input
  refine ⟨{ stage, frames := session.frames ++ output.mapIdx fun i frame =>
    ⟨frame, renderedPath libs layout session.stage input i⟩ }, ?_, ?_⟩
  · rw [step, hprocess]
    rfl
  · obtain rfl := h.crossfadeFrames_eq
    have hmixed := h.mixed.congr (weight_toggleFade_startToggle hpos)
    have hremaining := remaining_startToggle_le h.remaining_le
    cases hhrtf : session.stage.hrtf with
    | none =>
        obtain ⟨hprocess', hblends⟩ := blends_process_algebraic hhrtf
        obtain ⟨rfl, rfl⟩ :=
          Prod.mk.inj (Option.some.inj (hprocess.symm.trans hprocess'))
        have hfade : (session.stage.toggleFade.after
            (AmbisonicsStage.process layout input).length) =
            session.stage.toggleFade := by
          rw [toggleFade, hhrtf]
          exact congrArg _ (Nat.zero_sub _)
        have hnext := h.mixed.append h.remaining_le hblends
        rw [hfade] at hnext
        exact ⟨hsound, rfl, h.remaining_le, hnext⟩
    | some hrtf =>
        obtain ⟨hfade, hcrossfadeFrames, hblends⟩ :=
          mixedBy_process h.sound hhrtf hprocess
        have hnext := hmixed.append hremaining hblends
        refine ⟨hsound, hcrossfadeFrames, ?_, ?_⟩
        · show stage.toggleFade.remaining ≤ _
          rw [hfade]
          exact (Nat.sub_le _ _).trans hremaining
        · rw [← hfade] at hnext
          exact hnext

theorem Smooth.step (h : session.Smooth crossfadeFrames) (hpos : 0 < crossfadeFrames)
    (event : StageEvent ℝ) :
    ∃ session', session.step libs event = some session' ∧
      session'.Smooth crossfadeFrames := by
  cases event with
  | setNearFieldEnabled bEnabled => exact ⟨_, rfl, { h with }⟩
  | rebuildVoiceForSpeaker speaker azimuthDegrees distanceMeters =>
      have hfade : (session.stage.rebuildVoiceForSpeaker libs speaker azimuthDegrees
          distanceMeters).toggleFade = session.stage.toggleFade :=
        toggleFade_of_hrtf Option.isSome_map
      refine ⟨_, rfl, h.sound.rebuildVoiceForSpeaker libs speaker azimuthDegrees
        distanceMeters, h.crossfadeFrames_eq, ?_, ?_⟩
      · exact (congrArg Crossfade.remaining hfade).trans_le h.remaining_le
      · dsimp only
        rw [hfade]
        exact h.mixed
  | collectVoiceGarbage =>
      have hfade : session.stage.collectVoiceGarbage.toggleFade =
          session.stage.toggleFade := toggleFade_of_hrtf Option.isSome_map
      refine ⟨_, rfl, h.sound.collectVoiceGarbage, h.crossfadeFrames_eq, ?_, ?_⟩
      · exact (congrArg Crossfade.remaining hfade).trans_le h.remaining_le
      · dsimp only
        rw [hfade]
        exact h.mixed
  | process layout input => exact h.process hpos layout input

theorem smooth_new (libs : DspLibraries ℝ) (layout : SpeakerLayout)
    (kind : HrtfSourceKind) (sofaPath : ByteString) (sampleRate : ℝ)
    (bInitialNearFieldEnabled : Bool) :
    Smooth (fiftyMilliseconds sampleRate)
      { stage := new libs layout kind sofaPath sampleRate bInitialNearFieldEnabled } where
  sound := sound_new libs layout kind sofaPath sampleRate bInitialNearFieldEnabled
  crossfadeFrames_eq := rfl
  remaining_le := by
    rw [toggleFade]
    split <;> exact Nat.zero_le _
  mixed := mixedUpTo_nil

theorem smooth_run {session : StageSession ℝ} (h : session.Smooth crossfadeFrames)
    (hpos : 0 < crossfadeFrames) (events : List (StageEvent ℝ)) :
    ∃ session', runFrom (step libs) session events = some session' ∧
      session'.Smooth crossfadeFrames := by
  have hall : AtEachEvent (fun _ _ => True) events := fun _ _ _ => trivial
  refine runFrom_invariant (step libs) (fun _ session => session.Smooth crossfadeFrames)
    h ?_ hall
  intro past session event _ hsmooth _
  exact hsmooth.step hpos event

end

end StageSession

/-- The frames of a slot are smoothly mixed from what its instances render, and
those of a stage from what its paths render, whatever the sequence of
operations. -/
theorem smoothlyMixed_run {T ι : Type} {c : ℕ} (initial : T) {crossfadeFrames : ℕ}
    (h : 0 < crossfadeFrames) (events : List (CrossfadingSlot.Event T ι c ℝ))
    (libs : DspLibraries ℝ) (layout : SpeakerLayout) (kind : HrtfSourceKind)
    (sofaPath : ByteString) {sampleRate : ℝ} (hrate : 0 < fiftyMilliseconds sampleRate)
    (bInitialNearFieldEnabled : Bool) (stageEvents : List (StageEvent ℝ)) :
    (∃ session : CrossfadingSlot.Session T c ℝ,
      runFrom CrossfadingSlot.Session.step (.new initial crossfadeFrames) events =
        some session ∧
      SmoothlyMixed crossfadeFrames session.frames) ∧
    ∃ session, runFrom (StageSession.step libs)
        { stage :=
            new libs layout kind sofaPath sampleRate bInitialNearFieldEnabled }
        stageEvents = some session ∧
      SmoothlyMixed (fiftyMilliseconds sampleRate) session.frames := by
  obtain ⟨session, hrun, hsmooth⟩ := CrossfadingSlot.Session.smooth_run initial h events
  have hstage := StageSession.smooth_new libs layout kind sofaPath sampleRate
    bInitialNearFieldEnabled
  obtain ⟨session', hrun', hsmooth'⟩ :=
    @StageSession.smooth_run libs _ _ hstage hrate stageEvents
  exact ⟨⟨session, hrun, hsmooth.mixed.smoothlyMixed⟩, session', hrun',
    hsmooth'.mixed.smoothlyMixed⟩

/-- The length of the crossfades at the daemon's sample rate. -/
theorem fiftyMilliseconds_48000 : fiftyMilliseconds (48000 : ℝ) = 2400 := by
  have hvalue : (⟨0x3D4CCCCD⟩ : Binary32).value = 13421773 / 2 ^ 28 := by
    have hbits : (0x3D4CCCCD : UInt32).toNat = 1028443341 := rfl
    norm_num [Binary32.value, Binary32.magnitude, Binary32.Negative, hbits]
  have hfloor : ⌊((⟨0x3D4CCCCD⟩ : Binary32).value : ℝ) * 48000⌋₊ = 2400 := by
    rw [hvalue, Nat.floor_eq_iff (by norm_num)]
    norm_num
  show (UInt32.ofNat ⌊((⟨0x3D4CCCCD⟩ : Binary32).value : ℝ) * 48000⌋₊).toNat = 2400
  rw [hfloor]
  rfl

/-- A second instance is published while the first one fades in, and the toggle
is turned back while it runs. -/
theorem smoothlyMixed_back :
    (0 < 4 ∧ 0 < fiftyMilliseconds (48000 : ℝ)) ∧
    (∃ session : CrossfadingSlot.Session ℝ 1 ℝ,
      runFrom CrossfadingSlot.Session.step (.new 0 4)
        [.publish 1, .process Renderer.amplifier [1, 1], .publish 2,
          .process Renderer.amplifier [1, 1, 1]] = some session ∧
      SmoothlyMixed 4 session.frames) ∧
    ∃ session, runFrom (StageSession.step HrtfDeck.exactLibraries)
        { stage := new HrtfDeck.exactLibraries .new .syntheticSphericalHead [] 48000 false }
        [.setNearFieldEnabled true, .process .new [fun _ => 0],
          .setNearFieldEnabled false, .process .new [fun _ => 0]] = some session ∧
      SmoothlyMixed (fiftyMilliseconds (48000 : ℝ)) session.frames := by
  have hrate : 0 < fiftyMilliseconds (48000 : ℝ) := by
    rw [fiftyMilliseconds_48000]
    decide
  exact ⟨⟨by decide, hrate⟩,
    smoothlyMixed_run 0 (by decide) _ HrtfDeck.exactLibraries .new
    .syntheticSphericalHead [] hrate false _⟩

end BinauralStage

end RamkolFX
