import RamkolFX.Daemon.AudioEngine
import RamkolFX.Control.Frames
import RamkolFX.Protocol.Responses

/-!
# Control commands

The handler of decoded commands, and the daemon's life as a sequence of
requests, audio callbacks and PipeWire events.
-/

namespace RamkolFX

open Support

namespace AudioEngine

variable {α : Type} [FloatArith α]

/-! ## Status and settings -/

def status (engine : AudioEngine α) : Status where
  mode := engine.mode
  outputDeviceName := engine.output.targetNodeName
  bTestNoiseEnabled := engine.bTestNoiseEnabled
  activeHrtfIndex := engine.catalog.activeHrtfIndex
  bNearFieldEnabled := engine.bNearFieldEnabled
  speakerAzimuthDegrees := engine.sharedLayout.speakerAzimuthDegrees
  speakerMuted := engine.sharedLayout.speakerMuted
  speakerDistanceMeters := engine.sharedLayout.speakerDistanceMeters

def persistCurrentSettings (engine : AudioEngine α) (currentStatus : Status) :
    AudioEngine α :=
  let toSave : PersistedSettings :=
    { mode := currentStatus.mode
      speakerAzimuthDegrees := currentStatus.speakerAzimuthDegrees
      speakerDistanceMeters := currentStatus.speakerDistanceMeters
      speakerMuted := currentStatus.speakerMuted
      bNearFieldEnabled := currentStatus.bNearFieldEnabled
      outputDeviceName := currentStatus.outputDeviceName
      hwEqBands := engine.hwEqBandState
      bassEnhancer := engine.bassEnhancerSettingsState
      activeHrtfDisplayName :=
        ((engine.catalog.runtimeHrtfCatalog[
          currentStatus.activeHrtfIndex.toNat]?).map
            HrtfCatalogEntry.displayName).getD [] }
  { engine with settings := engine.settings.save toSave }

/-- Every command first reclaims what the stages have faded out of. -/
def collectGarbage (engine : AudioEngine α) : Option (AudioEngine α) := do
  let advancedStage ← engine.advancedStage.collectGarbage
  return { engine with
    advancedStage
    hwEq := engine.hwEq.collectGarbage
    bassEnhancer := engine.bassEnhancer.collectGarbage }

/-! ## The commands -/

/-- A new filter for the live stage's voice of a speaker. -/
def rebuildVoice (libs : DspLibraries α) (engine : AudioEngine α)
    (speaker : SpeakerChannel) (azimuthDegrees distanceMeters : Binary32) :
    Option (AudioEngine α) := do
  let advancedStage ← engine.advancedStage.rebuildVoiceForSpeaker libs speaker
    azimuthDegrees distanceMeters
  return { engine with advancedStage }

def setSpeakerAzimuth (libs : DspLibraries α) (engine : AudioEngine α)
    (channel : SpeakerChannel) (azimuthDegrees : Binary32) :
    Option (AudioEngine α) :=
  let sharedLayout := engine.sharedLayout.setSpeakerAzimuth channel azimuthDegrees
  rebuildVoice libs { engine with sharedLayout } channel azimuthDegrees
    (sharedLayout.speakerDistanceMeters channel)

/-- The layout clamps the distance; the voice is built for the one sent. -/
def setSpeakerDistance (libs : DspLibraries α) (engine : AudioEngine α)
    (channel : SpeakerChannel) (distanceMeters : Binary32) :
    Option (AudioEngine α) :=
  let sharedLayout :=
    engine.sharedLayout.setSpeakerDistance channel distanceMeters
  rebuildVoice libs { engine with sharedLayout } channel
    (sharedLayout.speakerAzimuthDegrees channel) distanceMeters

def setNearFieldEnabled (engine : AudioEngine α) (bEnabled : Bool) :
    Option (AudioEngine α) := do
  let advancedStage ← engine.advancedStage.setNearFieldEnabled bEnabled
  return { engine with bNearFieldEnabled := bEnabled, advancedStage }

def resetSpeakerPositions (libs : DspLibraries α) (engine : AudioEngine α) :
    Option (AudioEngine α) :=
  let sharedLayout := engine.sharedLayout.resetSpeakerPositions
  (List.finRange speakerCount).foldlM
    (fun engine channel => rebuildVoice libs engine channel
      (sharedLayout.speakerAzimuthDegrees channel)
      (sharedLayout.speakerDistanceMeters channel))
    { engine with sharedLayout }

/-- The engine with a valid index's entry switched to; `none` for an index out
of range. -/
def setHrtfFile (libs : DspLibraries α) (engine : AudioEngine α)
    (hrtfIndex : UInt8) : Option (AudioEngine α) :=
  (engine.catalog.runtimeHrtfCatalog[hrtfIndex.toNat]?).map fun selectedEntry =>
    { engine with
      advancedStage := engine.advancedStage.switchTo libs engine.sharedLayout
        selectedEntry.kind selectedEntry.path
      catalog := { engine.catalog with activeHrtfIndex := hrtfIndex } }

def setHwEqBand (engine : AudioEngine α) (bandIndex : Fin maxEqBands)
    (band : EqBand) : AudioEngine α :=
  let hwEqBandState := Function.update engine.hwEqBandState bandIndex band
  { engine with hwEqBandState, hwEq := engine.hwEq.setBands hwEqBandState }

def setBassEnhancer (engine : AudioEngine α) (settings : BassEnhancerSettings) :
    AudioEngine α :=
  { engine with
    bassEnhancerSettingsState := settings
    bassEnhancer := engine.bassEnhancer.setSettings settings }

/-- `SpeakerIndex` as a channel of the layout; an index the decoder would not
let through is out of its bounds. -/
def speakerChannel (command : Command) : Option SpeakerChannel :=
  if h : command.speakerIndex.toNat < speakerCount then
    some ⟨command.speakerIndex.toNat, h⟩
  else none

/-- `BandIndex` as an index of the band array. -/
def band (command : Command) : Option (Fin maxEqBands) :=
  if h : command.bandIndex.toNat < maxEqBands then
    some ⟨command.bandIndex.toNat, h⟩
  else none

/-- The state change of a command, and whether it is to be saved.  Requests
for presets and content streams have no handler yet.  `bConnects` is the
outcome of a reconnect, if there is one. -/
def applyCommand (libs : DspLibraries α) (engine : AudioEngine α)
    (inCommand : Command) (bConnects : Bool) : Option (AudioEngine α × Bool) :=
  match inCommand.commandOpcode with
  | .setSpatialMode => some ({ engine with mode := inCommand.modeValue }, true)
  | .setSpeakerAzimuth => do
      let channel ← speakerChannel inCommand
      let engine ← setSpeakerAzimuth libs engine channel inCommand.azimuthDegrees
      return (engine, true)
  | .setSpeakerDistance => do
      let channel ← speakerChannel inCommand
      let engine ← setSpeakerDistance libs engine channel inCommand.distanceMeters
      return (engine, true)
  | .setNearFieldEnabled => do
      let engine ← setNearFieldEnabled engine inCommand.bNearFieldEnabled
      return (engine, true)
  | .resetSpeakerPositions => do
      let engine ← resetSpeakerPositions libs engine
      return (engine, true)
  | .setOutputDevice =>
      let output :=
        (engine.output.setTargetNode inCommand.outputDeviceName bConnects).2
      some ({ engine with output }, true)
  | .setSpeakerMute => do
      let channel ← speakerChannel inCommand
      let sharedLayout :=
        engine.sharedLayout.setSpeakerMuted channel inCommand.bMuted
      return ({ engine with sharedLayout }, true)
  | .setTestNoise =>
      -- not persisted
      some ({ engine with bTestNoiseEnabled := inCommand.bTestNoiseEnabled },
        false)
  | .setHrtfFile =>
      match setHrtfFile libs engine inCommand.hrtfIndex with
      | some engine => some (engine, true)
      | none => some (engine, false)
  | .setHwEqBand => do
      let i ← band inCommand
      return (setHwEqBand engine i inCommand.band, true)
  | .setBassEnhancer =>
      some (setBassEnhancer engine inCommand.bassEnhancer, true)
  | _ => some (engine, false)

/-- The response to a command, and the engine behind it. -/
def handleControlCommand (setup : DaemonSetup α) (engine : AudioEngine α)
    (inCommand : Command) (bConnects : Bool) :
    Option (List UInt8 × AudioEngine α) := do
  let engine ← collectGarbage engine
  match inCommand.commandOpcode with
  | .getDevices =>
      return (encodeDeviceListResponse (engine.devices.getDevices setup.order),
        engine)
  | .getHwEqState =>
      return (encodeHwEqStateResponse engine.hwEqBandState, engine)
  | .getBassEnhancerState =>
      return (encodeBassEnhancerStateResponse engine.bassEnhancerSettingsState,
        engine)
  | .getHrtfCatalog =>
      let displayNames :=
        engine.catalog.runtimeHrtfCatalog.map HrtfCatalogEntry.displayName
      return (encodeHrtfCatalogResponse displayNames, engine)
  | _ => do
      let (engine, bPersistedStateChanged) ←
        applyCommand setup.libs engine inCommand bConnects
      let outStatus := engine.status
      let engine :=
        if bPersistedStateChanged then
          persistCurrentSettings engine outStatus
        else engine
      return (encodeStatusResponse outStatus, engine)

/-! ## The life of the daemon -/

/-- What happens to a running daemon: a frame of some client that the server
decodes, an audio callback, a registry event, or a change of the user's
directory to the given files. -/
inductive Event (α : Type)
  | request (frame : Frame) (bConnects : Bool)
  | virtualSinkAudio (interleaved : List (SevenOneFrame α))
  | hardwareOutputRequest (frames : ℕ)
  | registry (event : DeviceRegistry.Event)
  | hrtfDirectoryChanged (files : HrtfFiles)

/-- The engine, and the responses of its command handler so far. -/
structure Daemon (α : Type) where
  engine : AudioEngine α
  responses : List (List UInt8) := []

/-- One event.  A frame that does not decode does not reach the engine. -/
def step (setup : DaemonSetup α) (daemon : Daemon α) :
    Event α → Option (Daemon α)
  | .request frame bConnects =>
      match frame.command with
      | none => some daemon
      | some inCommand => do
          let (response, engine) ←
            handleControlCommand setup daemon.engine inCommand bConnects
          return ⟨engine, daemon.responses ++ [response]⟩
  | .virtualSinkAudio interleaved => do
      let engine ← handleVirtualSinkAudio setup.libs daemon.engine interleaved
      return { daemon with engine }
  | .hardwareOutputRequest frames =>
      let (_, _, engine) := handleHardwareOutputRequest daemon.engine frames
      some { daemon with engine }
  | .registry event =>
      some { daemon with
        engine := { daemon.engine with
          devices := daemon.engine.devices.handle event } }
  | .hrtfDirectoryChanged files =>
      some { daemon with
        engine := { daemon.engine with
          catalog :=
            HrtfCatalog.rebuildHrtfCatalog files daemon.engine.catalog } }

end AudioEngine

end RamkolFX
