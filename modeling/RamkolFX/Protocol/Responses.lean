import RamkolFX.Protocol.Commands

/-!
# Control protocol: responses

The response encoders of the daemon and the decoders control clients use on
the payloads they receive.  The four list responses share one layout, a count
that is patched in after whole entries were added up to `maxPayloadSize`; each
is that layout with its own opcode and entries.
-/

namespace RamkolFX

open Support

/-! ## Encoding -/

def encodeStatusResponse (inStatus : Status) : List UInt8 :=
  let payload := [inStatus.mode.toByte]
  let payload := (List.ofFn inStatus.speakerAzimuthDegrees).foldl appendFloatBE payload
  let payload := (List.ofFn inStatus.speakerMuted).foldl appendBool payload
  let payload := appendBool payload inStatus.bTestNoiseEnabled
  let payload := payload ++ [inStatus.activeHrtfIndex]
  let payload := (List.ofFn inStatus.speakerDistanceMeters).foldl appendFloatBE payload
  let payload := appendBool payload inStatus.bNearFieldEnabled
  let payload := appendString payload inStatus.outputDeviceName
  encodeMessage .statusResponse payload

def encodeErrorResponse (message : ByteString) : List UInt8 :=
  let len := if maxPayloadSize < message.length then maxPayloadSize
    else message.length
  appendHeader [] .errorResponse (UInt16.ofNat len) ++ message.take len

/-- The loop of the list encoders: whole entries are added, and counted, while
the payload stays within `maxPayloadSize`. -/
def appendEntries {α : Type} (entryBytes : α → List UInt8) :
    List α → List UInt8 → UInt16 → List UInt8 × UInt16
  | [], payload, count => (payload, count)
  | a :: as, payload, count =>
      let entry := entryBytes a
      if maxPayloadSize < payload.length + entry.length then (payload, count)
      else appendEntries entryBytes as (payload ++ entry) (count + 1)

/-- A list response: two placeholder bytes, the entries, and the count written
over the placeholder. -/
def encodeListResponse {α : Type}
    (op : Opcode) (entryBytes : α → List UInt8) (entries : List α) :
    List UInt8 :=
  let (payload, count) := appendEntries entryBytes entries [0, 0] 0
  let payload := payload.set 0 ((count >>> 8) &&& 0xFF).toUInt8
  let payload := payload.set 1 (count &&& 0xFF).toUInt8
  encodeMessage op payload

def encodeDeviceListResponse (devices : List AudioDeviceInfo) : List UInt8 :=
  encodeListResponse .deviceListResponse
    (fun device => appendString (appendString [] device.name) device.description)
    devices

def encodeHrtfCatalogResponse (displayNames : List ByteString) : List UInt8 :=
  encodeListResponse .hrtfCatalogResponse (appendString []) displayNames

def encodeHwEqStateResponse (bands : Fin maxEqBands → EqBand) : List UInt8 :=
  encodeMessage .hwEqStateResponse ((List.ofFn bands).foldl appendEqBand [])

def encodeBassEnhancerStateResponse
    (settings : BassEnhancerSettings) : List UInt8 :=
  encodeMessage .bassEnhancerStateResponse
    (appendBassEnhancerSettings [] settings)

def encodeContentStreamListResponse
    (streams : List ContentStreamInfo) : List UInt8 :=
  encodeListResponse .contentStreamListResponse
    (fun stream => appendString (appendString [] stream.appName) stream.mediaName)
    streams

def encodeEqPresetCatalogResponse
    (displayNames : List ByteString) : List UInt8 :=
  encodeListResponse .eqPresetCatalogResponse (appendString []) displayNames

/-! ## Decoding -/

/-- Size of the status fields before the device name. -/
def statusFixedSize : ℕ :=
  1 + 4 * speakerCount + speakerCount + 1 + 1 + 4 * speakerCount + 1

def decodeStatusResponse (payload : List UInt8) : Checked (Option Status) :=
  if payload.length < statusFixedSize then return none
  else do
    let mode ← byteAt payload 0
    if SpatialMode.advanced.toByte < mode then return none
    else do
      let speakerAzimuthDegrees ←
        readArray (fun i => readFloatBE payload (1 + 4 * i)) speakerCount
      let mutedOffset := 1 + 4 * speakerCount
      let speakerMuted ←
        readArray (fun i => readBool payload (mutedOffset + i)) speakerCount
      let bTestNoiseEnabled ← readBool payload (mutedOffset + speakerCount)
      let activeHrtfIndex ← byteAt payload (mutedOffset + speakerCount + 1)
      let distanceOffset := mutedOffset + speakerCount + 2
      let speakerDistanceMeters ←
        readArray (fun i => readFloatBE payload (distanceOffset + 4 * i))
          speakerCount
      let bNearFieldEnabled ←
        readBool payload (distanceOffset + 4 * speakerCount)
      match ← readString payload statusFixedSize with
      | none => return none
      | some (outputDeviceName, _) =>
          return some
            { mode := ⟨mode⟩, speakerAzimuthDegrees, speakerMuted,
              bTestNoiseEnabled, outputDeviceName, activeHrtfIndex,
              speakerDistanceMeters, bNearFieldEnabled }

def decodeErrorResponse (payload : List UInt8) : Checked ByteString :=
  bytesAt payload 0 payload.length

/-- A list response: the count, then that many entries; bytes behind the last
entry are not looked at. -/
def decodeListResponse {α : Type}
    (entry : OffsetReader α) (payload : List UInt8) :
    Checked (Option (List α)) :=
  if payload.length < 2 then return none
  else do
    let count ← uint16At payload 0
    match ← entry.times count.toNat payload 2 with
    | none => return none
    | some (entries, _) => return some entries

def decodeDeviceListResponse :
    List UInt8 → Checked (Option (List AudioDeviceInfo)) :=
  decodeListResponse do
    let name ← readString
    let description ← readString
    return ⟨name, description⟩

def decodeHrtfCatalogResponse :
    List UInt8 → Checked (Option (List ByteString)) :=
  decodeListResponse readString

def decodeHwEqStateResponse
    (payload : List UInt8) : Checked (Option (Fin maxEqBands → EqBand)) :=
  if payload.length ≠ maxEqBands * eqBandWireSize then return none
  else do
    let bands ←
      readArray (fun i => readEqBand payload (i * eqBandWireSize)) maxEqBands
    return some bands

def decodeBassEnhancerStateResponse
    (payload : List UInt8) : Checked (Option BassEnhancerSettings) :=
  if payload.length ≠ bassEnhancerWireSize then return none
  else do
    let settings ← readBassEnhancerSettings payload 0
    return some settings

def decodeContentStreamListResponse :
    List UInt8 → Checked (Option (List ContentStreamInfo)) :=
  decodeListResponse do
    let appName ← readString
    let mediaName ← readString
    return ⟨appName, mediaName⟩

def decodeEqPresetCatalogResponse :
    List UInt8 → Checked (Option (List ByteString)) :=
  decodeListResponse readString

end RamkolFX
