import RamkolFX.Protocol.Commands

/-!
# Control protocol: requests survive the wire

A `Request` is one call of a request encoder with its arguments.  Decoding
the frame of a request whose arguments are in range gives back the command
with exactly those arguments.
-/

namespace RamkolFX

open Support

/-- One call of a request encoder. -/
inductive Request
  | getStatus
  | setSpatialMode (mode : SpatialMode)
  | setSpeakerAzimuth (speakerIndex : UInt8) (azimuthDegrees : Binary32)
  | getDevices
  | setOutputDevice (deviceName : ByteString)
  | resetSpeakerPositions
  | setSpeakerMute (speakerIndex : UInt8) (bMuted : Bool)
  | setTestNoise (bEnabled : Bool)
  | getHrtfCatalog
  | setHrtfFile (hrtfIndex : UInt8)
  | setSpeakerDistance (speakerIndex : UInt8) (distanceMeters : Binary32)
  | setNearFieldEnabled (bEnabled : Bool)
  | setHwEqBand (bandIndex : UInt8) (band : EqBand)
  | setHwEqPreset (eqPresetIndex : UInt8)
  | saveHwEqPreset (presetName : ByteString)
  | getHwEqState
  | setBassEnhancer (settings : BassEnhancerSettings)
  | getBassEnhancerState
  | getContentStreams
  | setContentEqBand (appName : ByteString) (bandIndex : UInt8) (band : EqBand)
  | setContentEqPreset (appName : ByteString) (eqPresetIndex : UInt8)
  | saveContentEqPreset (appName presetName : ByteString)
  | getEqPresetCatalog
  deriving DecidableEq, Repr

namespace Request

/-- The frame the request's encoder returns. -/
def encode : Request → List UInt8
  | getStatus => encodeGetStatusRequest
  | setSpatialMode mode => encodeSetSpatialModeRequest mode
  | setSpeakerAzimuth i a => encodeSetSpeakerAzimuthRequest i a
  | getDevices => encodeGetDevicesRequest
  | setOutputDevice name => encodeSetOutputDeviceRequest name
  | resetSpeakerPositions => encodeResetSpeakerPositionsRequest
  | setSpeakerMute i b => encodeSetSpeakerMuteRequest i b
  | setTestNoise b => encodeSetTestNoiseRequest b
  | getHrtfCatalog => encodeGetHrtfCatalogRequest
  | setHrtfFile i => encodeSetHrtfFileRequest i
  | setSpeakerDistance i d => encodeSetSpeakerDistanceRequest i d
  | setNearFieldEnabled b => encodeSetNearFieldEnabledRequest b
  | setHwEqBand i band => encodeSetHwEqBandRequest i band
  | setHwEqPreset i => encodeSetHwEqPresetRequest i
  | saveHwEqPreset name => encodeSaveHwEqPresetRequest name
  | getHwEqState => encodeGetHwEqStateRequest
  | setBassEnhancer settings => encodeSetBassEnhancerRequest settings
  | getBassEnhancerState => encodeGetBassEnhancerStateRequest
  | getContentStreams => encodeGetContentStreamsRequest
  | setContentEqBand app i band => encodeSetContentEqBandRequest app i band
  | setContentEqPreset app i => encodeSetContentEqPresetRequest app i
  | saveContentEqPreset app name => encodeSaveContentEqPresetRequest app name
  | getEqPresetCatalog => encodeGetEqPresetCatalogRequest

/-- The command that carries the request's opcode and arguments. -/
def command : Request → Command
  | getStatus => { commandOpcode := .getStatus }
  | setSpatialMode mode =>
      { commandOpcode := .setSpatialMode, modeValue := mode }
  | setSpeakerAzimuth i a =>
      { commandOpcode := .setSpeakerAzimuth, speakerIndex := i,
        azimuthDegrees := a }
  | getDevices => { commandOpcode := .getDevices }
  | setOutputDevice name =>
      { commandOpcode := .setOutputDevice, outputDeviceName := name }
  | resetSpeakerPositions => { commandOpcode := .resetSpeakerPositions }
  | setSpeakerMute i b =>
      { commandOpcode := .setSpeakerMute, speakerIndex := i, bMuted := b }
  | setTestNoise b =>
      { commandOpcode := .setTestNoise, bTestNoiseEnabled := b }
  | getHrtfCatalog => { commandOpcode := .getHrtfCatalog }
  | setHrtfFile i => { commandOpcode := .setHrtfFile, hrtfIndex := i }
  | setSpeakerDistance i d =>
      { commandOpcode := .setSpeakerDistance, speakerIndex := i,
        distanceMeters := d }
  | setNearFieldEnabled b =>
      { commandOpcode := .setNearFieldEnabled, bNearFieldEnabled := b }
  | setHwEqBand i band =>
      { commandOpcode := .setHwEqBand, bandIndex := i, band := band }
  | setHwEqPreset i => { commandOpcode := .setHwEqPreset, eqPresetIndex := i }
  | saveHwEqPreset name =>
      { commandOpcode := .saveHwEqPreset, presetName := name }
  | getHwEqState => { commandOpcode := .getHwEqState }
  | setBassEnhancer settings =>
      { commandOpcode := .setBassEnhancer, bassEnhancer := settings }
  | getBassEnhancerState => { commandOpcode := .getBassEnhancerState }
  | getContentStreams => { commandOpcode := .getContentStreams }
  | setContentEqBand app i band =>
      { commandOpcode := .setContentEqBand, contentAppName := app,
        bandIndex := i, band := band }
  | setContentEqPreset app i =>
      { commandOpcode := .setContentEqPreset, contentAppName := app,
        eqPresetIndex := i }
  | saveContentEqPreset app name =>
      { commandOpcode := .saveContentEqPreset, contentAppName := app,
        presetName := name }
  | getEqPresetCatalog => { commandOpcode := .getEqPresetCatalog }

/-- The arguments are in the ranges `decodeCommand` checks, and the strings
leave the payload within `maxPayloadSize`. -/
def InRange : Request → Prop
  | setSpatialMode mode => mode.IsValid
  | setSpeakerAzimuth i _ => i.toNat < speakerCount
  | setOutputDevice name => name.length ≤ maxPayloadSize
  | setSpeakerMute i _ => i.toNat < speakerCount
  | setSpeakerDistance i _ => i.toNat < speakerCount
  | setHwEqBand i band => i.toNat < maxEqBands ∧ band.filterType.IsValid
  | saveHwEqPreset name => name.length ≤ maxPayloadSize
  | setContentEqBand app i band =>
      2 + app.length + 1 + eqBandWireSize ≤ maxPayloadSize ∧
        i.toNat < maxEqBands ∧ band.filterType.IsValid
  | setContentEqPreset app _ => 2 + app.length + 1 ≤ maxPayloadSize
  | saveContentEqPreset app name =>
      2 + app.length + name.length ≤ maxPayloadSize
  | _ => True

end Request

/-! ## Payloads that decode -/

/-- The payload of a well-formed frame decodes, under the opcode of the
header, to `command`. -/
structure Delivers
    (frame payload : List UInt8) (command : Command) : Prop
    extends WellFramed command.commandOpcode frame payload where
  decoded : decodeCommand command.commandOpcode.toByte payload =
    .ok (some command)

theorem delivers_of_encodeMessage
    (op : Opcode) {frame payload : List UInt8} {command : Command}
    (hframe : frame = encodeMessage op payload)
    (hop : command.commandOpcode = op)
    (hlen : payload.length ≤ maxPayloadSize)
    (hdecode : decodeCommand op.toByte payload = .ok (some command)) :
    Delivers frame payload command := by
  subst hframe hop
  exact ⟨wellFramed_encodeMessage hlen, hdecode⟩

/-- A request without a payload delivers its bare opcode. -/
theorem delivers_emptyRequest
    {op : Opcode} {command : Command} (hop : command.commandOpcode = op)
    (hdecode : decodeCommand op.toByte [] = .ok (some command)) :
    Delivers (encodeEmptyRequest op) [] command :=
  delivers_of_encodeMessage op (by simp [encodeEmptyRequest, encodeMessage])
    hop (Nat.zero_le _) hdecode

/-- A raw string within the payload limit is sent whole. -/
theorem delivers_rawStringRequest
    {op : Opcode} {value : ByteString} {command : Command}
    (hop : command.commandOpcode = op)
    (hlen : value.length ≤ maxPayloadSize)
    (hdecode : decodeCommand op.toByte value = .ok (some command)) :
    Delivers (encodeRawStringRequest op value) value command := by
  refine delivers_of_encodeMessage op ?_ hop hlen hdecode
  simp [encodeRawStringRequest, encodeMessage, Nat.not_lt.mpr hlen]

theorem bytesAt_all (payload : List UInt8) :
    bytesAt payload 0 payload.length = .ok payload := by
  simp [bytesAt]

/-! ## One lemma per payload layout -/

theorem delivers_setSpatialMode {mode : SpatialMode} (h : mode.IsValid) :
    Delivers (encodeSetSpatialModeRequest mode) [mode.toByte]
      (Request.setSpatialMode mode).command := by
  have hmode : ¬ SpatialMode.advanced.toByte < mode.toByte :=
    UInt8.not_lt.mpr h
  refine delivers_of_encodeMessage .setSpatialMode ?_ rfl ?_ ?_
  · simp [encodeSetSpatialModeRequest, encodeMessage]
  · simp [maxPayloadSize]
  · simp [decodeCommand, Opcode.ofByte_toByte, hmode, Request.command]

/-- A payload of one byte that is not checked. -/
theorem delivers_setHrtfFile (hrtfIndex : UInt8) :
    Delivers (encodeSetHrtfFileRequest hrtfIndex) [hrtfIndex]
      (Request.setHrtfFile hrtfIndex).command := by
  refine delivers_of_encodeMessage .setHrtfFile ?_ rfl ?_ ?_
  · simp [encodeSetHrtfFileRequest, encodeMessage]
  · simp [maxPayloadSize]
  · simp [decodeCommand, Opcode.ofByte_toByte, Request.command]

theorem delivers_setHwEqPreset (eqPresetIndex : UInt8) :
    Delivers (encodeSetHwEqPresetRequest eqPresetIndex) [eqPresetIndex]
      (Request.setHwEqPreset eqPresetIndex).command := by
  refine delivers_of_encodeMessage .setHwEqPreset ?_ rfl ?_ ?_
  · simp [encodeSetHwEqPresetRequest, encodeMessage]
  · simp [maxPayloadSize]
  · simp [decodeCommand, Opcode.ofByte_toByte, Request.command]

theorem readBool_singleton (b : Bool) :
    readBool [if b then 1 else 0] 0 = .ok b :=
  readBool_at [] [] rfl rfl

theorem delivers_setTestNoise (bEnabled : Bool) :
    Delivers (encodeSetTestNoiseRequest bEnabled) [if bEnabled then 1 else 0]
      (Request.setTestNoise bEnabled).command := by
  refine delivers_of_encodeMessage .setTestNoise ?_ rfl ?_ ?_
  · simp [encodeSetTestNoiseRequest, encodeMessage]
  · simp [maxPayloadSize]
  · simp [decodeCommand, Opcode.ofByte_toByte, readBool_singleton,
      Request.command]

theorem delivers_setNearFieldEnabled (bEnabled : Bool) :
    Delivers (encodeSetNearFieldEnabledRequest bEnabled)
      [if bEnabled then 1 else 0]
      (Request.setNearFieldEnabled bEnabled).command := by
  refine delivers_of_encodeMessage .setNearFieldEnabled ?_ rfl ?_ ?_
  · simp [encodeSetNearFieldEnabledRequest, encodeMessage]
  · simp [maxPayloadSize]
  · simp [decodeCommand, Opcode.ofByte_toByte, readBool_singleton,
      Request.command]

theorem delivers_setSpeakerMute
    {speakerIndex : UInt8} (h : speakerIndex.toNat < speakerCount)
    (bMuted : Bool) :
    Delivers (encodeSetSpeakerMuteRequest speakerIndex bMuted)
      [speakerIndex, if bMuted then 1 else 0]
      (Request.setSpeakerMute speakerIndex bMuted).command := by
  have hindex : ¬ speakerCount ≤ speakerIndex.toNat := Nat.not_le.mpr h
  have hmuted : readBool [speakerIndex, if bMuted then 1 else 0] 1 =
      .ok bMuted :=
    readBool_at [speakerIndex] [] rfl rfl
  refine delivers_of_encodeMessage .setSpeakerMute ?_ rfl ?_ ?_
  · simp [encodeSetSpeakerMuteRequest, encodeMessage]
  · simp [maxPayloadSize]
  · simp [decodeCommand, Opcode.ofByte_toByte, hindex, hmuted,
      Request.command]

theorem readFloatBE_cons (b : UInt8) (value : Binary32) :
    readFloatBE (b :: bytesOfUInt32 value.bits) 1 = .ok value :=
  readFloatBE_at [b] [] (by simp) rfl

theorem delivers_setSpeakerAzimuth
    {speakerIndex : UInt8} (h : speakerIndex.toNat < speakerCount)
    (azimuthDegrees : Binary32) :
    Delivers (encodeSetSpeakerAzimuthRequest speakerIndex azimuthDegrees)
      (speakerIndex :: bytesOfUInt32 azimuthDegrees.bits)
      (Request.setSpeakerAzimuth speakerIndex azimuthDegrees).command := by
  have hindex : ¬ speakerCount ≤ speakerIndex.toNat := Nat.not_le.mpr h
  refine delivers_of_encodeMessage .setSpeakerAzimuth ?_ rfl ?_ ?_
  · simp [encodeSetSpeakerAzimuthRequest, encodeMessage]
  · simp [maxPayloadSize]
  · simp [decodeCommand, Opcode.ofByte_toByte, hindex,
      readFloatBE_cons, Request.command]

theorem delivers_setSpeakerDistance
    {speakerIndex : UInt8} (h : speakerIndex.toNat < speakerCount)
    (distanceMeters : Binary32) :
    Delivers (encodeSetSpeakerDistanceRequest speakerIndex distanceMeters)
      (speakerIndex :: bytesOfUInt32 distanceMeters.bits)
      (Request.setSpeakerDistance speakerIndex distanceMeters).command := by
  have hindex : ¬ speakerCount ≤ speakerIndex.toNat := Nat.not_le.mpr h
  refine delivers_of_encodeMessage .setSpeakerDistance ?_ rfl ?_ ?_
  · simp [encodeSetSpeakerDistanceRequest, encodeMessage]
  · simp [maxPayloadSize]
  · simp [decodeCommand, Opcode.ofByte_toByte, hindex,
      readFloatBE_cons, Request.command]

theorem byteAt_filterType
    {payload : List UInt8} {i : ℕ} {band : EqBand} (before after : List UInt8)
    (hpayload : payload = before ++ (eqBandBytes band ++ after))
    (hi : i = before.length) :
    byteAt payload i = .ok band.filterType.toByte :=
  byteAt_at (by simpa [eqBandBytes] using hpayload) hi

theorem delivers_setHwEqBand
    {bandIndex : UInt8} {band : EqBand}
    (hindex : bandIndex.toNat < maxEqBands) (htype : band.filterType.IsValid) :
    Delivers (encodeSetHwEqBandRequest bandIndex band)
      (bandIndex :: eqBandBytes band)
      (Request.setHwEqBand bandIndex band).command := by
  have hindex' : ¬ maxEqBands ≤ bandIndex.toNat := Nat.not_le.mpr hindex
  have htype' : ¬ EqFilterType.notch.toByte < band.filterType.toByte :=
    UInt8.not_lt.mpr htype
  have hfilter : byteAt (bandIndex :: eqBandBytes band) 1 =
      .ok band.filterType.toByte :=
    byteAt_filterType [bandIndex] [] (by simp) rfl
  have hband : readEqBand (bandIndex :: eqBandBytes band) 1 = .ok band :=
    readEqBand_at [bandIndex] [] (by simp) rfl
  refine delivers_of_encodeMessage .setHwEqBand ?_ rfl ?_ ?_
  · simp [encodeSetHwEqBandRequest, encodeMessage, appendEqBand_eq,
      Nat.add_comm]
  · simp [maxPayloadSize, eqBandWireSize]
  · simp [decodeCommand, Opcode.ofByte_toByte, Nat.add_comm, hindex',
      hfilter, htype', hband, Request.command]

theorem delivers_setBassEnhancer (settings : BassEnhancerSettings) :
    Delivers (encodeSetBassEnhancerRequest settings)
      (bassEnhancerBytes settings)
      (Request.setBassEnhancer settings).command := by
  have hread : readBassEnhancerSettings (bassEnhancerBytes settings) 0 =
      .ok settings :=
    readBassEnhancerSettings_at [] [] (by simp) rfl
  refine delivers_of_encodeMessage .setBassEnhancer ?_ rfl ?_ ?_
  · simp [encodeSetBassEnhancerRequest, encodeMessage,
      appendBassEnhancerSettings_eq]
  · simp [maxPayloadSize, bassEnhancerWireSize]
  · simp [decodeCommand, Opcode.ofByte_toByte, hread, Request.command]

/-! ## Payloads that start with an application name -/

/-- The application name at the front of a payload. -/
theorem readString_front
    {appName : ByteString} (h : appName.length ≤ 0xFFFF)
    (after : List UInt8) :
    readString (stringBytes appName ++ after) 0 =
      .ok (some (appName, 2 + appName.length)) := by
  have hread := (readString_reads h).complete [] after
  simpa [Nat.min_eq_left h] using hread

theorem delivers_setContentEqBand
    {appName : ByteString} {bandIndex : UInt8} {band : EqBand}
    (hlen : 2 + appName.length + 1 + eqBandWireSize ≤ maxPayloadSize)
    (hindex : bandIndex.toNat < maxEqBands) (htype : band.filterType.IsValid) :
    Delivers (encodeSetContentEqBandRequest appName bandIndex band)
      (stringBytes appName ++ bandIndex :: eqBandBytes band)
      (Request.setContentEqBand appName bandIndex band).command := by
  have hname : appName.length ≤ 0xFFFF := by
    simp only [maxPayloadSize] at hlen
    omega
  have hmin : min appName.length 0xFFFF = appName.length := Nat.min_eq_left hname
  have hindex' : ¬ maxEqBands ≤ bandIndex.toNat := Nat.not_le.mpr hindex
  have htype' : ¬ EqFilterType.notch.toByte < band.filterType.toByte :=
    UInt8.not_lt.mpr htype
  have hfront := readString_front hname (bandIndex :: eqBandBytes band)
  have hfirst : byteAt (stringBytes appName ++ bandIndex :: eqBandBytes band)
      (2 + appName.length) = .ok bandIndex :=
    byteAt_at rfl (by simp [hmin])
  have hfilter : byteAt (stringBytes appName ++ bandIndex :: eqBandBytes band)
      (2 + appName.length + 1) = .ok band.filterType.toByte :=
    byteAt_filterType (stringBytes appName ++ [bandIndex]) []
      (by simp) (by simp [hmin])
  have hband : readEqBand (stringBytes appName ++ bandIndex :: eqBandBytes band)
      (2 + appName.length + 1) = .ok band :=
    readEqBand_at (stringBytes appName ++ [bandIndex]) []
      (by simp) (by simp [hmin])
  have hlength : (stringBytes appName ++ bandIndex :: eqBandBytes band).length =
      2 + appName.length + (1 + eqBandWireSize) := by
    simp [hmin]
    omega
  refine delivers_of_encodeMessage .setContentEqBand ?_ rfl ?_ ?_
  · simp [encodeSetContentEqBandRequest, appendString_eq, appendEqBand_eq]
  · omega
  · simp only [decodeCommand, Opcode.ofByte_toByte, hfront, hlength, ok_bind,
      Nat.lt_irrefl, if_false, hfirst, hindex', hfilter, htype', hband]
    rfl

theorem delivers_setContentEqPreset
    {appName : ByteString} (hlen : 2 + appName.length + 1 ≤ maxPayloadSize)
    (eqPresetIndex : UInt8) :
    Delivers (encodeSetContentEqPresetRequest appName eqPresetIndex)
      (stringBytes appName ++ [eqPresetIndex])
      (Request.setContentEqPreset appName eqPresetIndex).command := by
  have hname : appName.length ≤ 0xFFFF := by
    simp only [maxPayloadSize] at hlen
    omega
  have hmin : min appName.length 0xFFFF = appName.length := Nat.min_eq_left hname
  have hfront := readString_front hname [eqPresetIndex]
  have hindex : byteAt (stringBytes appName ++ [eqPresetIndex])
      (2 + appName.length) = .ok eqPresetIndex :=
    byteAt_at rfl (by simp [hmin])
  have hlength : (stringBytes appName ++ [eqPresetIndex]).length =
      2 + appName.length + 1 := by
    simp [hmin]
  refine delivers_of_encodeMessage .setContentEqPreset ?_ rfl ?_ ?_
  · simp [encodeSetContentEqPresetRequest, appendString_eq]
  · omega
  · simp only [decodeCommand, Opcode.ofByte_toByte, hfront, hlength, ok_bind,
      Nat.lt_irrefl, if_false, hindex]
    rfl

theorem delivers_saveContentEqPreset
    {appName presetName : ByteString}
    (hlen : 2 + appName.length + presetName.length ≤ maxPayloadSize) :
    Delivers (encodeSaveContentEqPresetRequest appName presetName)
      (stringBytes appName ++ presetName)
      (Request.saveContentEqPreset appName presetName).command := by
  have hname : appName.length ≤ 0xFFFF := by
    simp only [maxPayloadSize] at hlen
    omega
  have hmin : min appName.length 0xFFFF = appName.length := Nat.min_eq_left hname
  have hfront := readString_front hname presetName
  have htext : bytesAt (stringBytes appName ++ presetName)
      (2 + appName.length) presetName.length = .ok presetName := by
    have h := bytesAt_append (stringBytes appName) presetName []
    simpa [hmin] using h
  have hlength : (stringBytes appName ++ presetName).length -
      (2 + appName.length) = presetName.length := by
    simp [hmin]
  refine delivers_of_encodeMessage .saveContentEqPreset ?_ rfl ?_ ?_
  · have hfits : ¬ (if 2 + appName.length < maxPayloadSize
        then maxPayloadSize - (2 + appName.length) else 0) <
        presetName.length := by
      split <;> omega
    simp [encodeSaveContentEqPresetRequest, appendString_eq, hmin, hfits]
  · simp [hmin]
    omega
  · simp only [decodeCommand, Opcode.ofByte_toByte, hfront, ok_bind, hlength,
      htext]
    rfl

/-- Every request whose arguments are in range reaches the decoder as the
command with exactly those arguments: the header carries its opcode and the
number of payload bytes, and the payload decodes to it. -/
theorem request_round_trip (r : Request) (h : r.InRange) :
    ∃ payload, Delivers r.encode payload r.command := by
  cases r with
  | getStatus | getDevices | resetSpeakerPositions | getHrtfCatalog
  | getHwEqState | getBassEnhancerState | getContentStreams
  | getEqPresetCatalog => exact ⟨[], delivers_emptyRequest rfl rfl⟩
  | setSpatialMode mode => exact ⟨_, delivers_setSpatialMode h⟩
  | setSpeakerAzimuth i a => exact ⟨_, delivers_setSpeakerAzimuth h a⟩
  | setOutputDevice name =>
      exact ⟨name, delivers_rawStringRequest rfl h (by
        simp [decodeCommand, Opcode.ofByte_toByte, bytesAt_all,
          Request.command])⟩
  | setSpeakerMute i b => exact ⟨_, delivers_setSpeakerMute h b⟩
  | setTestNoise b => exact ⟨_, delivers_setTestNoise b⟩
  | setHrtfFile i => exact ⟨_, delivers_setHrtfFile i⟩
  | setSpeakerDistance i d => exact ⟨_, delivers_setSpeakerDistance h d⟩
  | setNearFieldEnabled b => exact ⟨_, delivers_setNearFieldEnabled b⟩
  | setHwEqBand i band => exact ⟨_, delivers_setHwEqBand h.1 h.2⟩
  | setHwEqPreset i => exact ⟨_, delivers_setHwEqPreset i⟩
  | saveHwEqPreset name =>
      exact ⟨name, delivers_rawStringRequest rfl h (by
        simp [decodeCommand, Opcode.ofByte_toByte, bytesAt_all,
          Request.command])⟩
  | setBassEnhancer settings => exact ⟨_, delivers_setBassEnhancer settings⟩
  | setContentEqBand app i band =>
      exact ⟨_, delivers_setContentEqBand h.1 h.2.1 h.2.2⟩
  | setContentEqPreset app i => exact ⟨_, delivers_setContentEqPreset h i⟩
  | saveContentEqPreset app name =>
      exact ⟨_, delivers_saveContentEqPreset h⟩

/-- The last band of an application named `mpv`, retuned to a notch. -/
theorem request_round_trip_contentEqBand :
    ∃ payload, Delivers
      (encodeSetContentEqBandRequest (ascii "mpv") 9 { filterType := .notch })
      payload
      { commandOpcode := .setContentEqBand, contentAppName := ascii "mpv",
        bandIndex := 9, band := { filterType := .notch } } :=
  request_round_trip
    (.setContentEqBand (ascii "mpv") 9 { filterType := .notch })
    ⟨by decide, by decide, by decide⟩

end RamkolFX
