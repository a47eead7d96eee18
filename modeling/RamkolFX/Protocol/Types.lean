import RamkolFX.Support.ByteReader
import RamkolFX.Support.Binary32
import Mathlib.Data.Fintype.Basic
import Mathlib.Data.Fintype.Pi

/-!
# Control protocol: data model

The values the control protocol carries between the daemon and its clients,
and the limits both sides share.  Strings are byte strings and floats are
binary32 bit patterns, as on the wire.

`SpatialMode` and `EqFilterType` are C++ enumerations over `uint8`: a cast
can produce a value outside the named ones, so each is its byte, with the
named values as constants and `IsValid` for being one of them.
-/

namespace RamkolFX

open Support

/-- A `std::string`: any bytes. -/
abbrev ByteString := List UInt8

/-- The bytes of an ASCII literal. -/
def ascii (s : String) : ByteString :=
  s.toList.map fun c => UInt8.ofNat c.toNat

/-! ## Limits -/

/-- Wire size of one `EqBand`. -/
def eqBandWireSize : ℕ := 13

/-- Upper bound on bands per curve. -/
abbrev maxEqBands : ℕ := 10

/-- Wire size of `BassEnhancerSettings`. -/
def bassEnhancerWireSize : ℕ := 1 + 4 + 4 + 4

/-- Opcode and payload length. -/
def headerSize : ℕ := 3

def maxPayloadSize : ℕ := 4096

/-- Number of virtual 7.1 speakers whose azimuth is controllable. -/
abbrev speakerCount : ℕ := 7

/-- `0.3f` -/
def minSpeakerDistanceMeters : Binary32 := ⟨0x3E99999A⟩

/-- `3.0f` -/
def maxSpeakerDistanceMeters : Binary32 := ⟨0x40400000⟩

/-- `1.5f` -/
def defaultSpeakerDistanceMeters : Binary32 := ⟨0x3FC00000⟩

/-! ## Opcodes -/

inductive Opcode
  -- requests
  | getStatus
  | setSpatialMode
  | setSpeakerAzimuth
  | getDevices
  | setOutputDevice
  | resetSpeakerPositions
  | setSpeakerMute
  | setTestNoise
  | getHrtfCatalog
  | setHrtfFile
  | setSpeakerDistance
  | setNearFieldEnabled
  | setHwEqBand
  | setHwEqPreset
  | saveHwEqPreset
  | getContentStreams
  | setContentEqBand
  | setContentEqPreset
  | saveContentEqPreset
  | getEqPresetCatalog
  | getHwEqState
  | setBassEnhancer
  | getBassEnhancerState
  -- responses
  | statusResponse
  | errorResponse
  | deviceListResponse
  | hrtfCatalogResponse
  | contentStreamListResponse
  | eqPresetCatalogResponse
  | hwEqStateResponse
  | bassEnhancerStateResponse
  deriving DecidableEq, Repr

namespace Opcode

/-- The opcode's byte on the wire. -/
def toByte : Opcode → UInt8
  | getStatus => 0x01
  | setSpatialMode => 0x02
  | setSpeakerAzimuth => 0x03
  | getDevices => 0x04
  | setOutputDevice => 0x05
  | resetSpeakerPositions => 0x06
  | setSpeakerMute => 0x07
  | setTestNoise => 0x08
  | getHrtfCatalog => 0x09
  | setHrtfFile => 0x0A
  | setSpeakerDistance => 0x0B
  | setNearFieldEnabled => 0x0C
  | setHwEqBand => 0x0D
  | setHwEqPreset => 0x0E
  | saveHwEqPreset => 0x0F
  | getContentStreams => 0x10
  | setContentEqBand => 0x11
  | setContentEqPreset => 0x12
  | saveContentEqPreset => 0x13
  | getEqPresetCatalog => 0x14
  | getHwEqState => 0x15
  | setBassEnhancer => 0x16
  | getBassEnhancerState => 0x17
  | statusResponse => 0x81
  | errorResponse => 0x82
  | deviceListResponse => 0x83
  | hrtfCatalogResponse => 0x84
  | contentStreamListResponse => 0x85
  | eqPresetCatalogResponse => 0x86
  | hwEqStateResponse => 0x87
  | bassEnhancerStateResponse => 0x88

/-- Every opcode, in the order of the enumeration. -/
def all : List Opcode :=
  [getStatus, setSpatialMode, setSpeakerAzimuth, getDevices, setOutputDevice,
    resetSpeakerPositions, setSpeakerMute, setTestNoise, getHrtfCatalog,
    setHrtfFile, setSpeakerDistance, setNearFieldEnabled, setHwEqBand,
    setHwEqPreset, saveHwEqPreset, getContentStreams, setContentEqBand,
    setContentEqPreset, saveContentEqPreset, getEqPresetCatalog, getHwEqState,
    setBassEnhancer, getBassEnhancerState, statusResponse, errorResponse,
    deviceListResponse, hrtfCatalogResponse, contentStreamListResponse,
    eqPresetCatalogResponse, hwEqStateResponse, bassEnhancerStateResponse]

/-- The named opcode a byte stands for; `none` for a byte that is cast to an
unnamed `Opcode` value. -/
def ofByte (b : UInt8) : Option Opcode :=
  all.find? fun op => op.toByte = b

theorem ofByte_toByte (op : Opcode) : ofByte op.toByte = some op := by
  cases op <;> decide

end Opcode

/-! ## Enumerations that travel as one byte -/

/-- The active spatialization path. -/
structure SpatialMode where
  toByte : UInt8
  deriving DecidableEq, Repr

namespace SpatialMode

def off : SpatialMode := ⟨0⟩

def basic : SpatialMode := ⟨1⟩

def advanced : SpatialMode := ⟨2⟩

/-- One of the named modes. -/
def IsValid (mode : SpatialMode) : Prop := mode.toByte ≤ advanced.toByte

instance (mode : SpatialMode) : Decidable mode.IsValid :=
  inferInstanceAs (Decidable (_ ≤ _))

end SpatialMode

/-- The response shape of one EQ band. -/
@[ext] structure EqFilterType where
  toByte : UInt8
  deriving DecidableEq, Repr

namespace EqFilterType

def peaking : EqFilterType := ⟨0⟩

def lowShelf : EqFilterType := ⟨1⟩

def highShelf : EqFilterType := ⟨2⟩

def lowPass : EqFilterType := ⟨3⟩

def highPass : EqFilterType := ⟨4⟩

def notch : EqFilterType := ⟨5⟩

/-- One of the named filter types. -/
def IsValid (filterType : EqFilterType) : Prop :=
  filterType.toByte ≤ notch.toByte

instance (filterType : EqFilterType) : Decidable filterType.IsValid :=
  inferInstanceAs (Decidable (_ ≤ _))

end EqFilterType

/-! ## Records -/

/-- A single parametric EQ band. -/
@[ext] structure EqBand where
  filterType : EqFilterType := .peaking
  frequencyHz : Binary32 := ⟨0x447A0000⟩ -- 1000.0f
  gainDb : Binary32 := ⟨0⟩
  q : Binary32 := ⟨0x3F34FDF4⟩ -- 0.707f
  deriving DecidableEq, Repr

/-- Settings of the headphone bass enhancer. -/
@[ext] structure BassEnhancerSettings where
  bEnabled : Bool := false
  cutoffHz : Binary32 := ⟨0x42700000⟩ -- 60.0f
  drive : Binary32 := ⟨0x3F000000⟩ -- 0.5f
  mix : Binary32 := ⟨0x3F000000⟩ -- 0.5f
  deriving DecidableEq, Repr

/-- A frame header; the opcode byte need not be a named opcode. -/
structure MessageHeader where
  messageOpcode : UInt8
  payloadLength : UInt16
  deriving DecidableEq, Repr

/-- A command decoded from a request message; which fields are meaningful
depends on the opcode. -/
structure Command where
  commandOpcode : Opcode := .getStatus
  modeValue : SpatialMode := .off
  speakerIndex : UInt8 := 0
  azimuthDegrees : Binary32 := ⟨0⟩
  bMuted : Bool := false
  bTestNoiseEnabled : Bool := false
  outputDeviceName : ByteString := []
  hrtfIndex : UInt8 := 0
  distanceMeters : Binary32 := ⟨0⟩
  bNearFieldEnabled : Bool := false
  bandIndex : UInt8 := 0
  band : EqBand := {}
  eqPresetIndex : UInt8 := 0
  presetName : ByteString := []
  contentAppName : ByteString := []
  bassEnhancer : BassEnhancerSettings := {}
  deriving DecidableEq, Repr

/-- The daemon state a `StatusResponse` reports. -/
structure Status where
  mode : SpatialMode := .off
  speakerAzimuthDegrees : Fin speakerCount → Binary32 := fun _ => ⟨0⟩
  speakerMuted : Fin speakerCount → Bool := fun _ => false
  bTestNoiseEnabled : Bool := false
  outputDeviceName : ByteString := []
  activeHrtfIndex : UInt8 := 0
  speakerDistanceMeters : Fin speakerCount → Binary32 := fun _ => ⟨0⟩
  bNearFieldEnabled : Bool := false
  deriving DecidableEq

/-- A hardware playback sink: its `node.name` and `node.description`. -/
structure AudioDeviceInfo where
  name : ByteString
  description : ByteString
  deriving DecidableEq, Repr

/-- A connected playback stream the content EQ can target. -/
structure ContentStreamInfo where
  appName : ByteString
  mediaName : ByteString
  deriving DecidableEq, Repr

end RamkolFX
