import RamkolFX.Common.RingBuffer
import RamkolFX.Daemon.DeviceRegistry
import RamkolFX.Daemon.HardwareOutput
import RamkolFX.Daemon.HrtfCatalog
import RamkolFX.Daemon.SettingsStore
import RamkolFX.Dsp.HrtfDeck
import RamkolFX.Support.Updates

/-!
# Audio engine

The daemon: its state, the start that restores what was saved, and the audio
callbacks.
-/

namespace RamkolFX

open Support

/-- What the daemon is started with and does not change: the libraries, the
files and environment, and the order its hash map is walked in. -/
structure DaemonSetup (α : Type) where
  libs : DspLibraries α
  files : HrtfFiles
  order : DeviceOrder

/-- About one second of stereo audio, in samples. -/
abbrev mixBufferCapacity : ℕ := 48000 * 2

structure AudioEngine (α : Type) where
  output : HardwareOutput
  devices : DeviceRegistry
  settings : SettingsStore
  sharedLayout : SpeakerLayout
  mode : SpatialMode
  bTestNoiseEnabled : Bool
  bNearFieldEnabled : Bool
  noiseState : UInt32
  advancedStage : HrtfDeck α
  hwEq : HwEqStage α
  hwEqBandState : Fin maxEqBands → EqBand
  bassEnhancer : BassEnhancerStage α
  bassEnhancerSettingsState : BassEnhancerSettings
  catalog : HrtfCatalog.State
  stereoMixBuffer : RingBuffer α mixBufferCapacity

namespace AudioEngine

variable {α : Type} [FloatArith α]

/-! ## Start -/

/-- The fallback when no hardware sink is known at all. -/
def testOutputNodeName : ByteString :=
  ascii "alsa_output.usb-SteelSeries_Arctis_7P_-00.analog-stereo"

/-- The saved device if it is there, else any device, else the fallback. -/
def resolveInitialOutputDevice (order : DeviceOrder) (devices : DeviceRegistry)
    (loadedSettings : Option PersistedSettings) : ByteString :=
  let saved := (loadedSettings.map PersistedSettings.outputDeviceName).getD []
  if saved ≠ [] ∧ devices.hasDevice order saved then saved
  else (devices.pickAnyDevice order).getD testOutputNodeName

/-- The shared layout with the saved positions and mutes. -/
def restoreLayout (loadedSettings : PersistedSettings) : SpeakerLayout :=
  (List.finRange speakerCount).foldl
    (fun layout i =>
      ((layout.setSpeakerAzimuth i
            (loadedSettings.speakerAzimuthDegrees i)).setSpeakerDistance i
          (loadedSettings.speakerDistanceMeters i)).setSpeakerMuted i
        (loadedSettings.speakerMuted i))
    .new

/-- On the first start, or when the saved device is gone, the resolved device
is written back. -/
def rememberOutputDevice (store : SettingsStore)
    (loadedSettings : Option PersistedSettings)
    (initialOutputDevice : ByteString) : SettingsStore :=
  if loadedSettings.map PersistedSettings.outputDeviceName =
      some initialOutputDevice then store
  else
    store.save
      { loadedSettings.getD {} with outputDeviceName := initialOutputDevice }

/-- `Run` up to the main loop, for a start in which the PipeWire objects and
the control socket could be set up.  `devices` is what the initial sync has
found. -/
def run (setup : DaemonSetup α) (store : SettingsStore)
    (devices : DeviceRegistry) : AudioEngine α :=
  let sampleRate : α := (HardwareOutput.sampleRate : α)
  let loadedSettings := store.load
  let sharedLayout := (loadedSettings.map restoreLayout).getD .new
  let bNearFieldEnabled :=
    (loadedSettings.map PersistedSettings.bNearFieldEnabled).getD false
  let hwEqBandState :=
    (loadedSettings.map PersistedSettings.hwEqBands).getD defaultHwEqBands
  let bassEnhancerSettingsState :=
    (loadedSettings.map PersistedSettings.bassEnhancer).getD {}
  let (initialHrtfKind, initialSofaPath, catalog) :=
    HrtfCatalog.resolveInitialHrtf setup.files
      ((loadedSettings.map PersistedSettings.activeHrtfDisplayName).getD [])
      (HrtfCatalog.rebuildHrtfCatalog setup.files {})
  let initialOutputDevice :=
    resolveInitialOutputDevice setup.order devices loadedSettings
  { output := ((HardwareOutput.mk initialOutputDevice none).start true).2
    devices
    settings := rememberOutputDevice store loadedSettings initialOutputDevice
    sharedLayout
    mode := (loadedSettings.map PersistedSettings.mode).getD .off
    bTestNoiseEnabled := false
    bNearFieldEnabled
    noiseState := 0x9E3779B9
    advancedStage := .new setup.libs sharedLayout initialHrtfKind
      initialSofaPath sampleRate bNearFieldEnabled
    hwEq := .new hwEqBandState sampleRate
    hwEqBandState
    bassEnhancer := .new bassEnhancerSettingsState sampleRate
    bassEnhancerSettingsState
    catalog
    stereoMixBuffer := { buffer := fun _ => 0 } }

/-! ## Audio -/

def xorshift32 (noiseState : UInt32) : UInt32 :=
  let noiseState := noiseState ^^^ (noiseState <<< 13)
  let noiseState := noiseState ^^^ (noiseState >>> 17)
  noiseState ^^^ (noiseState <<< 5)

/-- A sample from the generator's 24 high bits, at `TestNoiseGain`. -/
def noiseSample (noiseState : UInt32) : α :=
  let uniform01 : α := ((noiseState >>> 8).toNat : α) *
    (1 / FloatArith.ofFloat ⟨0x4B800000⟩) -- 16777216.0f
  (uniform01 * 2 - 1) * FloatArith.ofFloat ⟨0x3E800000⟩ -- 0.25f

/-- One frame of test noise; the LFE channel is silent and draws nothing. -/
def testNoiseFrame (noiseState : UInt32) : SevenOneFrame α × UInt32 :=
  (List.finRange 8).foldl
    (fun (frame, noiseState) channel =>
      if channel = SevenOneChannel.lfe.index then
        (Function.update frame channel 0, noiseState)
      else
        let noiseState := xorshift32 noiseState
        (Function.update frame channel (noiseSample noiseState), noiseState))
    (fun _ => 0, noiseState)

def fillTestNoise : ℕ → UInt32 → List (SevenOneFrame α) × UInt32
  | 0, noiseState => ([], noiseState)
  | frames + 1, noiseState =>
      let (frame, noiseState) := testNoiseFrame noiseState
      let (rest, noiseState) := fillTestNoise frames noiseState
      (frame :: rest, noiseState)

/-- The samples of the speakers, each through a function of its own. -/
def mapSpeakers (f : SpeakerChannel → α → α) (frame : SevenOneFrame α) :
    SevenOneFrame α :=
  (List.finRange speakerCount).foldl
    (fun frame speaker =>
      Function.update frame (speakerToFrameIndex speaker)
        (f speaker (frame (speakerToFrameIndex speaker))))
    frame

omit [FloatArith α] in
theorem mapSpeakers_speaker (f : SpeakerChannel → α → α)
    (frame : SevenOneFrame α) (speaker : SpeakerChannel) :
    mapSpeakers f frame (speakerToFrameIndex speaker) =
      f speaker (frame (speakerToFrameIndex speaker)) := by
  rw [mapSpeakers, foldl_update_self speakerToFrameIndex_injective f
    (List.nodup_finRange _), if_pos (List.mem_finRange speaker)]

omit [FloatArith α] in
theorem mapSpeakers_lfe (f : SpeakerChannel → α → α) (frame : SevenOneFrame α) :
    mapSpeakers f frame SevenOneChannel.lfe.index = frame.at .lfe :=
  foldl_update_of_ne f speakerToFrameIndex_ne_lfe _ frame

def applySpeakerMute (layout : SpeakerLayout) (input : List (SevenOneFrame α)) :
    List (SevenOneFrame α) :=
  if ∀ speaker, layout.speakerMuted speaker = false then input
  else
    input.map (mapSpeakers fun speaker sample =>
      if layout.speakerMuted speaker then 0 else sample)

/-- `ReferenceSpeakerDistanceMeters / max(distance, MinSpeakerDistanceMeters)` -/
def falloffGain (layout : SpeakerLayout) (speaker : SpeakerChannel) : α :=
  1 / FloatArith.ofFloat
    (stdMax (layout.speakerDistanceMeters speaker) minSpeakerDistanceMeters)

def applyNearFieldLoudnessFalloff (bNearFieldEnabled : Bool)
    (layout : SpeakerLayout) (input : List (SevenOneFrame α)) :
    List (SevenOneFrame α) :=
  if bNearFieldEnabled then
    input.map (mapSpeakers fun speaker sample =>
      sample * falloffGain layout speaker)
  else input

/-- The block through `ActiveStage()`. -/
def processActiveStage (libs : DspLibraries α) (engine : AudioEngine α)
    (input : List (SevenOneFrame α)) :
    Option (List (StereoFrame α) × HrtfDeck α) :=
  if engine.mode = .basic then
    some (AmbisonicsStage.process engine.sharedLayout input, engine.advancedStage)
  else if engine.mode = .advanced then
    engine.advancedStage.process libs engine.sharedLayout input
  else some (PassthroughStage.process input, engine.advancedStage)

/-- The samples of interleaved stereo frames. -/
def interleave (frames : List (StereoFrame α)) : List α :=
  frames.flatMap fun frame => [frame 0, frame 1]

/-- What is rendered of a captured block: the block or test noise, muted and
scaled, and the noise generator behind it. -/
def captureInput (engine : AudioEngine α)
    (interleaved : List (SevenOneFrame α)) : List (SevenOneFrame α) × UInt32 :=
  let interleaved := interleaved.take maxProcessFrames
  let (input, noiseState) :=
    if engine.bTestNoiseEnabled then
      fillTestNoise interleaved.length engine.noiseState
    else (interleaved, engine.noiseState)
  let input := applySpeakerMute engine.sharedLayout input
  let input := applyNearFieldLoudnessFalloff engine.bNearFieldEnabled
    engine.sharedLayout input
  (input, noiseState)

def handleVirtualSinkAudio (libs : DspLibraries α) (engine : AudioEngine α)
    (interleaved : List (SevenOneFrame α)) : Option (AudioEngine α) := do
  let (input, noiseState) := captureInput engine interleaved
  let (output, advancedStage) ← processActiveStage libs engine input
  let (output, hwEq) ← HwEqStage.process engine.hwEq output
  let (output, bassEnhancer) ←
    BassEnhancerStage.process engine.bassEnhancer output
  return { engine with
    noiseState
    advancedStage
    hwEq
    bassEnhancer
    stereoMixBuffer := (engine.stereoMixBuffer.push (interleave output)).2 }

/-- The popped samples, and the number of whole frames among them. -/
def handleHardwareOutputRequest (engine : AudioEngine α) (frames : ℕ) :
    List α × ℕ × AudioEngine α :=
  let (popped, stereoMixBuffer) := engine.stereoMixBuffer.pop (frames * 2)
  (popped, popped.length / 2, { engine with stereoMixBuffer })

/-! ## A daemon without files -/

/-- Nothing is bundled and no SOFA file is there. -/
noncomputable def exactSetup : DaemonSetup ℝ where
  libs := HrtfDeck.exactLibraries
  files := ⟨[], fun _ => false, [], [], [], none⟩
  order := .stored

end AudioEngine

end RamkolFX
