import RamkolFX.Protocol.Wire

/-!
# Control protocol: requests

`decodeCommand` as the daemon decodes a request payload, and the request
encoders as control clients use them.  The two sides are written separately;
`decodeCommand_encode` shows that they agree on every request.
-/

namespace RamkolFX

open Support

/-! ## Decoding -/

/-- Decodes a request payload for the given opcode byte.  `none` when the
opcode is not a request or the payload does not match it. -/
def decodeCommand
    (inOpcode : UInt8) (payload : List UInt8) : Checked (Option Command) :=
  match Opcode.ofByte inOpcode with
  | none => return none
  | some op =>
    let outCommand : Command := { commandOpcode := op }
    match op with
    | .getStatus => return some outCommand
    | .setSpatialMode =>
        if payload.length < 1 then return none
        else do
          let mode ← byteAt payload 0
          if SpatialMode.advanced.toByte < mode then return none
          else return some { outCommand with modeValue := ⟨mode⟩ }
    | .setSpeakerAzimuth =>
        if payload.length < 5 then return none
        else do
          let speakerIndex ← byteAt payload 0
          if speakerCount ≤ speakerIndex.toNat then return none
          else do
            let azimuthDegrees ← readFloatBE payload 1
            return some { outCommand with speakerIndex, azimuthDegrees }
    | .getDevices => return some outCommand
    | .setOutputDevice => do
        let outputDeviceName ← bytesAt payload 0 payload.length
        return some { outCommand with outputDeviceName }
    | .resetSpeakerPositions => return some outCommand
    | .setSpeakerMute =>
        if payload.length < 2 then return none
        else do
          let speakerIndex ← byteAt payload 0
          if speakerCount ≤ speakerIndex.toNat then return none
          else do
            let bMuted ← readBool payload 1
            return some { outCommand with speakerIndex, bMuted }
    | .setTestNoise =>
        if payload.length < 1 then return none
        else do
          let bTestNoiseEnabled ← readBool payload 0
          return some { outCommand with bTestNoiseEnabled }
    | .getHrtfCatalog => return some outCommand
    | .setHrtfFile =>
        if payload.length < 1 then return none
        else do
          let hrtfIndex ← byteAt payload 0
          return some { outCommand with hrtfIndex }
    | .setSpeakerDistance =>
        if payload.length < 5 then return none
        else do
          let speakerIndex ← byteAt payload 0
          if speakerCount ≤ speakerIndex.toNat then return none
          else do
            let distanceMeters ← readFloatBE payload 1
            return some { outCommand with speakerIndex, distanceMeters }
    | .setNearFieldEnabled =>
        if payload.length < 1 then return none
        else do
          let bNearFieldEnabled ← readBool payload 0
          return some { outCommand with bNearFieldEnabled }
    | .setHwEqBand =>
        if payload.length < 1 + eqBandWireSize then return none
        else do
          let bandIndex ← byteAt payload 0
          if maxEqBands ≤ bandIndex.toNat then return none
          else do
            let filterType ← byteAt payload 1
            if EqFilterType.notch.toByte < filterType then return none
            else do
              let band ← readEqBand payload 1
              return some { outCommand with bandIndex, band }
    | .setHwEqPreset =>
        if payload.length < 1 then return none
        else do
          let eqPresetIndex ← byteAt payload 0
          return some { outCommand with eqPresetIndex }
    | .saveHwEqPreset => do
        let presetName ← bytesAt payload 0 payload.length
        return some { outCommand with presetName }
    | .getHwEqState => return some outCommand
    | .setBassEnhancer =>
        if payload.length ≠ bassEnhancerWireSize then return none
        else do
          let bassEnhancer ← readBassEnhancerSettings payload 0
          return some { outCommand with bassEnhancer }
    | .getBassEnhancerState => return some outCommand
    | .getContentStreams => return some outCommand
    | .setContentEqBand => do
        match ← readString payload 0 with
        | none => return none
        | some (contentAppName, offset) =>
          if payload.length < offset + (1 + eqBandWireSize) then return none
          else do
            let bandIndex ← byteAt payload offset
            if maxEqBands ≤ bandIndex.toNat then return none
            else do
              let filterType ← byteAt payload (offset + 1)
              if EqFilterType.notch.toByte < filterType then return none
              else do
                let band ← readEqBand payload (offset + 1)
                return some { outCommand with contentAppName, bandIndex, band }
    | .setContentEqPreset => do
        match ← readString payload 0 with
        | none => return none
        | some (contentAppName, offset) =>
          if payload.length < offset + 1 then return none
          else do
            let eqPresetIndex ← byteAt payload offset
            return some { outCommand with contentAppName, eqPresetIndex }
    | .saveContentEqPreset => do
        match ← readString payload 0 with
        | none => return none
        | some (contentAppName, offset) =>
          let presetName ← bytesAt payload offset (payload.length - offset)
          return some { outCommand with contentAppName, presetName }
    | .getEqPresetCatalog => return some outCommand
    | .statusResponse | .errorResponse | .deviceListResponse
    | .hrtfCatalogResponse | .contentStreamListResponse
    | .eqPresetCatalogResponse | .hwEqStateResponse
    | .bassEnhancerStateResponse => return none

/-! ## Encoding -/

/-- A request without a payload. -/
def encodeEmptyRequest (op : Opcode) : List UInt8 :=
  appendHeader [] op 0

def encodeGetStatusRequest : List UInt8 :=
  encodeEmptyRequest .getStatus

def encodeSetSpatialModeRequest (mode : SpatialMode) : List UInt8 :=
  appendHeader [] .setSpatialMode 1 ++ [mode.toByte]

def encodeSetSpeakerAzimuthRequest
    (speakerIndex : UInt8) (azimuthDegrees : Binary32) : List UInt8 :=
  let out := appendHeader [] .setSpeakerAzimuth 5
  let out := out ++ [speakerIndex]
  appendFloatBE out azimuthDegrees

def encodeGetDevicesRequest : List UInt8 :=
  encodeEmptyRequest .getDevices

/-- A request whose payload is one raw string, cut at `maxPayloadSize`. -/
def encodeRawStringRequest (op : Opcode) (value : ByteString) : List UInt8 :=
  let len := if maxPayloadSize < value.length then maxPayloadSize
    else value.length
  appendHeader [] op (UInt16.ofNat len) ++ value.take len

def encodeSetOutputDeviceRequest (deviceName : ByteString) : List UInt8 :=
  encodeRawStringRequest .setOutputDevice deviceName

def encodeResetSpeakerPositionsRequest : List UInt8 :=
  encodeEmptyRequest .resetSpeakerPositions

def encodeSetSpeakerMuteRequest
    (speakerIndex : UInt8) (bMuted : Bool) : List UInt8 :=
  let out := appendHeader [] .setSpeakerMute 2
  let out := out ++ [speakerIndex]
  appendBool out bMuted

def encodeSetTestNoiseRequest (bEnabled : Bool) : List UInt8 :=
  appendBool (appendHeader [] .setTestNoise 1) bEnabled

def encodeGetHrtfCatalogRequest : List UInt8 :=
  encodeEmptyRequest .getHrtfCatalog

def encodeSetHrtfFileRequest (hrtfIndex : UInt8) : List UInt8 :=
  appendHeader [] .setHrtfFile 1 ++ [hrtfIndex]

def encodeSetSpeakerDistanceRequest
    (speakerIndex : UInt8) (distanceMeters : Binary32) : List UInt8 :=
  let out := appendHeader [] .setSpeakerDistance 5
  let out := out ++ [speakerIndex]
  appendFloatBE out distanceMeters

def encodeSetNearFieldEnabledRequest (bEnabled : Bool) : List UInt8 :=
  appendBool (appendHeader [] .setNearFieldEnabled 1) bEnabled

def encodeSetHwEqBandRequest (bandIndex : UInt8) (band : EqBand) : List UInt8 :=
  let payloadSize := 1 + eqBandWireSize
  let out := appendHeader [] .setHwEqBand (UInt16.ofNat payloadSize)
  let out := out ++ [bandIndex]
  appendEqBand out band

def encodeSetHwEqPresetRequest (eqPresetIndex : UInt8) : List UInt8 :=
  appendHeader [] .setHwEqPreset 1 ++ [eqPresetIndex]

def encodeSaveHwEqPresetRequest (presetName : ByteString) : List UInt8 :=
  encodeRawStringRequest .saveHwEqPreset presetName

def encodeGetHwEqStateRequest : List UInt8 :=
  encodeEmptyRequest .getHwEqState

def encodeSetBassEnhancerRequest
    (settings : BassEnhancerSettings) : List UInt8 :=
  appendBassEnhancerSettings
    (appendHeader [] .setBassEnhancer (UInt16.ofNat bassEnhancerWireSize))
    settings

def encodeGetBassEnhancerStateRequest : List UInt8 :=
  encodeEmptyRequest .getBassEnhancerState

def encodeGetContentStreamsRequest : List UInt8 :=
  encodeEmptyRequest .getContentStreams

/-- A message whose header counts an assembled payload. -/
def encodeMessage (op : Opcode) (payload : List UInt8) : List UInt8 :=
  appendHeader [] op (UInt16.ofNat payload.length) ++ payload

def encodeSetContentEqBandRequest
    (appName : ByteString) (bandIndex : UInt8) (band : EqBand) :
    List UInt8 :=
  let payload := appendString [] appName
  let payload := payload ++ [bandIndex]
  let payload := appendEqBand payload band
  encodeMessage .setContentEqBand payload

def encodeSetContentEqPresetRequest
    (appName : ByteString) (eqPresetIndex : UInt8) : List UInt8 :=
  let payload := appendString [] appName
  let payload := payload ++ [eqPresetIndex]
  encodeMessage .setContentEqPreset payload

def encodeSaveContentEqPresetRequest
    (appName presetName : ByteString) : List UInt8 :=
  let payload := appendString [] appName
  let available := if payload.length < maxPayloadSize
    then maxPayloadSize - payload.length else 0
  let len := if available < presetName.length then available
    else presetName.length
  let payload := payload ++ presetName.take len
  encodeMessage .saveContentEqPreset payload

def encodeGetEqPresetCatalogRequest : List UInt8 :=
  encodeEmptyRequest .getEqPresetCatalog

/-! ## Frames -/

/-- A frame whose header announces exactly the payload that follows, within
the payload limit. -/
structure WellFramed
    (op : Opcode) (frame payload : List UInt8) : Prop where
  header : tryReadHeader frame =
    some ⟨op.toByte, UInt16.ofNat payload.length⟩
  exact_length : (UInt16.ofNat payload.length).toNat = payload.length
  rest : frame.drop headerSize = payload
  fits : payload.length ≤ maxPayloadSize

theorem wellFramed_encodeMessage
    {op : Opcode} {payload : List UInt8}
    (h : payload.length ≤ maxPayloadSize) :
    WellFramed op (encodeMessage op payload) payload := by
  refine ⟨tryReadHeader_appendHeader _ _ _, ?_, rfl, h⟩
  rw [UInt16.toNat_ofNat']
  exact Nat.mod_eq_of_lt (lt_of_le_of_lt h (by decide))

end RamkolFX
