import RamkolFX.Dsp.CrossfadingSlot
import RamkolFX.Dsp.DspStages
import RamkolFX.Dsp.HrtfFilter
import RamkolFX.Dsp.PartitionedConvolver

/-!
# Binaural voice

Renders one source straight to stereo through a pair of convolvers, loaded
with the HRTF of the source's azimuth and the near-field correction of its
distance.  Moving the source publishes a new pair to crossfade into.
-/

namespace RamkolFX

open Support

variable {α : Type} [FloatArith α]

/-- Which kind of HRTF source renders the virtual speakers. -/
inductive HrtfSourceKind
  | sofaFile
  | syntheticSphericalHead
  deriving DecidableEq, Repr

/-- The libraries the audio path calls. -/
structure DspLibraries (α : Type) where
  fft : RealFft α
  mysofa : Mysofa α

/-- An HRTF source that is ready to be looked up: the synthetic model, or an
opened SOFA file. -/
inductive HrtfSource (α : Type)
  | synthetic
  | sofa (loader : HrtfLoader α)

def lookUpFarFieldFilter (libs : DspLibraries α) (source : HrtfSource α)
    (azimuthDegrees sampleRate : α) : HrtfFilter α :=
  match source with
  | .synthetic => computeSphericalHeadFilter azimuthDegrees 0 sampleRate
  | .sofa loader => loader.getFilter libs.mysofa azimuthDegrees 0

/-- One position's loaded convolver pair.  `azimuthDegrees` and
`distanceMeters` record the position it was built for. -/
structure BinauralVoiceFilter (α : Type) where
  leftConvolver : PartitionedConvolver α
  rightConvolver : PartitionedConvolver α
  azimuthDegrees : Binary32
  distanceMeters : Binary32

namespace BinauralVoiceFilter

/-- The position the filter was built for. -/
def builtFor (filter : BinauralVoiceFilter α) : Binary32 × Binary32 :=
  (filter.azimuthDegrees, filter.distanceMeters)

/-- `BuildVoiceFilter` -/
def build (libs : DspLibraries α) (source : HrtfSource α)
    (normalizationGain : α) (azimuthDegrees distanceMeters : Binary32)
    (sampleRate : α) : BinauralVoiceFilter α :=
  let farField := lookUpFarFieldFilter libs source
    (FloatArith.ofFloat azimuthDegrees) sampleRate
  let farField := { farField with
    left := farField.left.map fun tap => tap * normalizationGain
    right := farField.right.map fun tap => tap * normalizationGain }
  let combined := applyNearFieldCorrection farField
    (FloatArith.ofFloat azimuthDegrees) (FloatArith.ofFloat distanceMeters)
    sampleRate
  let delayedLeft := buildDelayedHrtfFilter combined.left
    combined.delayLeftSamples
  let delayedRight := buildDelayedHrtfFilter combined.right
    combined.delayRightSamples
  { leftConvolver := .load libs.fft delayedLeft
    rightConvolver := .load libs.fft delayedRight
    azimuthDegrees, distanceMeters }

def process (libs : DspLibraries α) (filter : BinauralVoiceFilter α)
    (monoInput : List α) : List (StereoFrame α) × BinauralVoiceFilter α :=
  let scratch := List.replicate monoInput.length 0
  let left := filter.leftConvolver.processAccumulate libs.fft monoInput scratch
  let right := filter.rightConvolver.processAccumulate libs.fft monoInput scratch
  (List.zipWith (fun l r => ![l, r]) left.output right.output,
    { filter with
      leftConvolver := left.convolver
      rightConvolver := right.convolver })

theorem length_process (libs : DspLibraries α) (filter : BinauralVoiceFilter α)
    (monoInput : List α) :
    (filter.process libs monoInput).1.length = monoInput.length := by
  simp only [process, PartitionedConvolver.processAccumulate, List.length_zipWith,
    PartitionedConvolver.length_output_accumulate, List.length_replicate, Nat.min_self]

/-- The convolvers hold the taps of the position on the filter's label. -/
structure HoldsPosition (libs : DspLibraries α) (source : HrtfSource α)
    (normalizationGain sampleRate : α) (filter : BinauralVoiceFilter α) : Prop where
  left : filter.leftConvolver.SameTaps
    (build libs source normalizationGain filter.azimuthDegrees filter.distanceMeters
      sampleRate).leftConvolver
  right : filter.rightConvolver.SameTaps
    (build libs source normalizationGain filter.azimuthDegrees filter.distanceMeters
      sampleRate).rightConvolver

theorem holdsPosition_build (libs : DspLibraries α) (source : HrtfSource α)
    (normalizationGain : α) (azimuthDegrees distanceMeters : Binary32)
    (sampleRate : α) :
    (build libs source normalizationGain azimuthDegrees distanceMeters
      sampleRate).HoldsPosition libs source normalizationGain sampleRate :=
  ⟨⟨rfl, rfl⟩, ⟨rfl, rfl⟩⟩

theorem HoldsPosition.process {libs : DspLibraries α} {source : HrtfSource α}
    {normalizationGain sampleRate : α} {filter : BinauralVoiceFilter α}
    (h : filter.HoldsPosition libs source normalizationGain sampleRate)
    (monoInput : List α) :
    (filter.process libs monoInput).2.HoldsPosition libs source normalizationGain
      sampleRate := by
  have hkept := PartitionedConvolver.sameTaps_accumulate libs.fft
  exact ⟨(hkept filter.leftConvolver _ _).trans h.left,
    (hkept filter.rightConvolver _ _).trans h.right⟩

end BinauralVoiceFilter

structure BinauralVoice (α : Type) where
  sampleRate : α
  slot : CrossfadingSlot (BinauralVoiceFilter α)

namespace BinauralVoice

def new (libs : DspLibraries α) (source : HrtfSource α)
    (normalizationGain : α) (azimuthDegrees distanceMeters : Binary32)
    (sampleRate : α) : BinauralVoice α :=
  { sampleRate
    slot :=
      { live := some (.build libs source normalizationGain azimuthDegrees
          distanceMeters sampleRate)
        crossfadeFrames := fiftyMilliseconds sampleRate } }

def rebuild (libs : DspLibraries α) (voice : BinauralVoice α)
    (source : HrtfSource α) (normalizationGain : α)
    (azimuthDegrees distanceMeters : Binary32) : BinauralVoice α :=
  { voice with
    slot := voice.slot.publish
      (.build libs source normalizationGain azimuthDegrees distanceMeters
        voice.sampleRate) }

def collectGarbage (voice : BinauralVoice α) : BinauralVoice α :=
  { voice with slot := voice.slot.collectGarbage }

def process (libs : DspLibraries α) (voice : BinauralVoice α)
    (monoInput : List α) :
    Option (List (StereoFrame α) × BinauralVoice α) := do
  let (output, slot) ← voice.slot.process
    (fun filter monoInput => some (filter.process libs monoInput)) monoInput
  return (output, { voice with slot })

theorem length_process {libs : DspLibraries α} {voice voice' : BinauralVoice α}
    {monoInput : List α} {output : List (StereoFrame α)}
    (h : voice.process libs monoInput = some (output, voice')) :
    output.length = (monoInput.take maxProcessFrames).length := by
  obtain ⟨⟨frames, slot⟩, hprocess, heq⟩ := Option.bind_eq_some_iff.mp h
  obtain ⟨rfl, -⟩ := Prod.mk.inj (Option.some.inj heq)
  refine CrossfadingSlot.length_process ?_ hprocess
  intro filter input output filter' hrun
  obtain ⟨rfl, -⟩ := Prod.mk.inj (Option.some.inj hrun)
  exact filter.length_process libs input

/-! ## What a voice was built for -/

/-- The voice never renders a null filter. -/
def Sound (voice : BinauralVoice α) : Prop :=
  voice.slot.Sound fun _ => True

/-- The position of the filter published last. -/
def builtFor (voice : BinauralVoice α) : Option (Binary32 × Binary32) :=
  voice.slot.newest.map BinauralVoiceFilter.builtFor

theorem sound_new (libs : DspLibraries α) (source : HrtfSource α)
    (normalizationGain : α) (azimuthDegrees distanceMeters : Binary32)
    (sampleRate : α) :
    (new libs source normalizationGain azimuthDegrees distanceMeters
      sampleRate).Sound :=
  CrossfadingSlot.sound_initial trivial _

@[simp] theorem builtFor_new (libs : DspLibraries α) (source : HrtfSource α)
    (normalizationGain : α) (azimuthDegrees distanceMeters : Binary32)
    (sampleRate : α) :
    (new libs source normalizationGain azimuthDegrees distanceMeters
      sampleRate).builtFor = some (azimuthDegrees, distanceMeters) := rfl

theorem Sound.rebuild {voice : BinauralVoice α} (h : voice.Sound)
    (libs : DspLibraries α) (source : HrtfSource α) (normalizationGain : α)
    (azimuthDegrees distanceMeters : Binary32) :
    (voice.rebuild libs source normalizationGain azimuthDegrees
      distanceMeters).Sound :=
  CrossfadingSlot.Sound.publish h trivial

@[simp] theorem builtFor_rebuild (libs : DspLibraries α)
    (voice : BinauralVoice α) (source : HrtfSource α) (normalizationGain : α)
    (azimuthDegrees distanceMeters : Binary32) :
    (voice.rebuild libs source normalizationGain azimuthDegrees
      distanceMeters).builtFor = some (azimuthDegrees, distanceMeters) := rfl

omit [FloatArith α] in
theorem Sound.collectGarbage {voice : BinauralVoice α} (h : voice.Sound) :
    voice.collectGarbage.Sound :=
  CrossfadingSlot.Sound.collectGarbage h

omit [FloatArith α] in
@[simp] theorem builtFor_collectGarbage (voice : BinauralVoice α) :
    voice.collectGarbage.builtFor = voice.builtFor := rfl

/-- Rendering succeeds and does not change what the voice was built for. -/
theorem Sound.process {voice : BinauralVoice α} (h : voice.Sound)
    (libs : DspLibraries α) (monoInput : List α) :
    ∃ output voice', voice.process libs monoInput = some (output, voice') ∧
      voice'.Sound ∧ voice'.builtFor = voice.builtFor := by
  obtain ⟨output, slot, hprocess, hsound, hrendered⟩ :=
    CrossfadingSlot.process_sound
      (fun filter monoInput => some (filter.process libs monoInput))
      (fun _ => True)
      (fun filter filter' => filter'.builtFor = filter.builtFor)
      (fun filter input _ => ⟨_, _, rfl, trivial, rfl⟩) h monoInput
  refine ⟨output, { voice with slot }, by simp [BinauralVoice.process, hprocess],
    hsound, ?_⟩
  exact hrendered.newest_map fun filter filter' heq => heq

/-! ## The labels are true -/

/-- Every filter that the voice may render holds the taps of the position on its
label. -/
def HoldsPositions (libs : DspLibraries α) (source : HrtfSource α)
    (normalizationGain : α) (voice : BinauralVoice α) : Prop :=
  voice.slot.Sound
    (BinauralVoiceFilter.HoldsPosition libs source normalizationGain voice.sampleRate)

variable {libs : DspLibraries α} {source : HrtfSource α} {normalizationGain : α}
  {voice voice' : BinauralVoice α}

theorem holdsPositions_new (azimuthDegrees distanceMeters : Binary32)
    (sampleRate : α) :
    (new libs source normalizationGain azimuthDegrees distanceMeters
      sampleRate).HoldsPositions libs source normalizationGain :=
  CrossfadingSlot.sound_initial
    (BinauralVoiceFilter.holdsPosition_build libs source normalizationGain
      azimuthDegrees distanceMeters sampleRate) _

theorem HoldsPositions.rebuild
    (h : voice.HoldsPositions libs source normalizationGain)
    (azimuthDegrees distanceMeters : Binary32) :
    (voice.rebuild libs source normalizationGain azimuthDegrees
      distanceMeters).HoldsPositions libs source normalizationGain :=
  CrossfadingSlot.Sound.publish h
    (BinauralVoiceFilter.holdsPosition_build libs source normalizationGain
      azimuthDegrees distanceMeters voice.sampleRate)

theorem HoldsPositions.collectGarbage
    (h : voice.HoldsPositions libs source normalizationGain) :
    voice.collectGarbage.HoldsPositions libs source normalizationGain :=
  CrossfadingSlot.Sound.collectGarbage h

/-- What a voice renders with is what it was built for: the convolvers' state moves
on, their taps stay. -/
theorem HoldsPositions.process
    (h : voice.HoldsPositions libs source normalizationGain) {monoInput : List α}
    {output : List (StereoFrame α)}
    (hprocess : voice.process libs monoInput = some (output, voice')) :
    voice'.HoldsPositions libs source normalizationGain := by
  obtain ⟨frames, slot, hslot, hsound, -⟩ :=
    CrossfadingSlot.process_sound
      (fun filter monoInput => some (filter.process libs monoInput))
      (BinauralVoiceFilter.HoldsPosition libs source normalizationGain
        voice.sampleRate) (fun _ _ => True)
      (fun filter input hfilter => ⟨_, _, rfl, hfilter.process input, trivial⟩) h
      monoInput
  rw [BinauralVoice.process, hslot] at hprocess
  obtain ⟨-, rfl⟩ := Prod.mk.inj (Option.some.inj hprocess)
  exact hsound

end BinauralVoice

end RamkolFX
