import RamkolFX.Protocol.RequestRoundTrip

/-!
# Control protocol: what frames a request

A request is one message with the opcode of its encoder.  The encoders of raw
strings cut them at `maxPayloadSize`; the three encoders that start with an
application name cut it only where its own 16-bit length ends, so a longer
name takes the payload past the limit and, in the end, past what the header
can count.
-/

namespace RamkolFX

open Support

namespace Request

/-- The bytes behind the header. -/
def payload : Request → List UInt8
  | setSpatialMode mode => [mode.toByte]
  | setSpeakerAzimuth i a => i :: bytesOfUInt32 a.bits
  | setOutputDevice name => name.take maxPayloadSize
  | setSpeakerMute i b => [i, if b then 1 else 0]
  | setTestNoise b => [if b then 1 else 0]
  | setHrtfFile i => [i]
  | setSpeakerDistance i d => i :: bytesOfUInt32 d.bits
  | setNearFieldEnabled b => [if b then 1 else 0]
  | setHwEqBand i band => i :: eqBandBytes band
  | setHwEqPreset i => [i]
  | saveHwEqPreset name => name.take maxPayloadSize
  | setBassEnhancer settings => bassEnhancerBytes settings
  | setContentEqBand app i band => stringBytes app ++ i :: eqBandBytes band
  | setContentEqPreset app i => stringBytes app ++ [i]
  | saveContentEqPreset app name =>
      stringBytes app ++ name.take (maxPayloadSize - (stringBytes app).length)
  | getStatus | getDevices | resetSpeakerPositions | getHrtfCatalog
  | getHwEqState | getBassEnhancerState | getContentStreams
  | getEqPresetCatalog => []

theorem encodeRawStringRequest_eq (op : Opcode) (value : ByteString) :
    encodeRawStringRequest op value =
      encodeMessage op (value.take maxPayloadSize) := by
  rw [encodeRawStringRequest, encodeMessage, List.length_take]
  by_cases h : maxPayloadSize < value.length
  · rw [if_pos h, Nat.min_eq_left h.le]
  · have hle := Nat.not_lt.mp h
    rw [if_neg h, Nat.min_eq_right hle, List.take_of_length_le hle,
      List.take_length]

theorem encodeSaveContentEqPresetRequest_eq (appName presetName : ByteString) :
    encodeSaveContentEqPresetRequest appName presetName =
      encodeMessage .saveContentEqPreset (stringBytes appName ++
        presetName.take (maxPayloadSize - (stringBytes appName).length)) := by
  have havailable : (if (stringBytes appName).length < maxPayloadSize
      then maxPayloadSize - (stringBytes appName).length else 0) =
      maxPayloadSize - (stringBytes appName).length := by
    split <;> omega
  simp only [encodeSaveContentEqPresetRequest, appendString_eq, List.nil_append,
    havailable]
  by_cases h : maxPayloadSize - (stringBytes appName).length < presetName.length
  · rw [if_pos h]
  · have hle := Nat.not_lt.mp h
    rw [if_neg h, List.take_length, List.take_of_length_le hle]

/-- Every encoder writes one message: the opcode, a length and the payload. -/
theorem encode_eq (r : Request) :
    r.encode = encodeMessage r.command.commandOpcode r.payload := by
  cases r with
  | setOutputDevice name => exact encodeRawStringRequest_eq _ name
  | saveHwEqPreset name => exact encodeRawStringRequest_eq _ name
  | saveContentEqPreset app name =>
      exact encodeSaveContentEqPresetRequest_eq app name
  | setContentEqBand app i band =>
      simp [encode, encodeSetContentEqBandRequest, appendString_eq,
        appendEqBand_eq, command, payload]
  | setContentEqPreset app i =>
      simp [encode, encodeSetContentEqPresetRequest, appendString_eq, command,
        payload]
  | setHwEqBand i band =>
      simp [encode, encodeSetHwEqBandRequest, encodeMessage, appendEqBand_eq,
        command, payload, Nat.add_comm]
  | setBassEnhancer settings =>
      simp [encode, encodeSetBassEnhancerRequest, encodeMessage,
        appendBassEnhancerSettings_eq, command, payload]
  | _ => rfl

/-- The header counts exactly the payload that follows, and the payload is
within the limit. -/
def KeepsFraming (r : Request) : Prop :=
  ∃ payload, WellFramed r.command.commandOpcode r.encode payload

theorem keepsFraming_iff_length (r : Request) :
    r.KeepsFraming ↔ r.payload.length ≤ maxPayloadSize := by
  rw [KeepsFraming, r.encode_eq]
  constructor
  · rintro ⟨payload, hframed⟩
    have hrest : r.payload = payload := hframed.rest
    rw [hrest]
    exact hframed.fits
  · intro h
    exact ⟨r.payload, wellFramed_encodeMessage h⟩

/-- The application name leaves room for what is written behind it.  Requests
without such a name always fit. -/
def NameFits : Request → Prop
  | setContentEqBand app _ _ =>
      2 + app.length + 1 + eqBandWireSize ≤ maxPayloadSize
  | setContentEqPreset app _ => 2 + app.length + 1 ≤ maxPayloadSize
  | saveContentEqPreset app _ => 2 + app.length ≤ maxPayloadSize
  | _ => True

/-- A length-prefixed name and `k` further bytes fit exactly if the whole name
does: a name that is cut at the end of its 16-bit length is too long. -/
theorem prefixed_fits_iff (app : ByteString) (k : ℕ) :
    2 + min app.length 0xFFFF + k ≤ maxPayloadSize ↔
      2 + app.length + k ≤ maxPayloadSize := by
  have hlimit : maxPayloadSize < 0xFFFF := by decide
  omega

theorem length_payload_le_iff (r : Request) :
    r.payload.length ≤ maxPayloadSize ↔ r.NameFits := by
  cases r with
  | setContentEqBand app i band =>
      have hfits := prefixed_fits_iff app (1 + eqBandWireSize)
      simp only [payload, NameFits, List.length_append, length_stringBytes,
        List.length_cons, length_eqBandBytes]
      omega
  | setContentEqPreset app i =>
      have hfits := prefixed_fits_iff app 1
      simp only [payload, NameFits, List.length_append, length_stringBytes,
        List.length_cons, List.length_nil]
      omega
  | saveContentEqPreset app name =>
      have hfits := prefixed_fits_iff app 0
      simp only [payload, NameFits, List.length_append, length_stringBytes,
        List.length_take]
      omega
  | setOutputDevice name | saveHwEqPreset name =>
      simp only [payload, NameFits, List.length_take, iff_true]
      exact Nat.min_le_left _ _
  | _ => exact iff_of_true (by simp [payload, maxPayloadSize, eqBandWireSize,
      bassEnhancerWireSize]) trivial

/-- A request keeps the framing of its connection exactly if the application
name it starts with leaves room for the rest. -/
theorem keepsFraming_iff (r : Request) : r.KeepsFraming ↔ r.NameFits :=
  r.keepsFraming_iff_length.trans r.length_payload_le_iff

/-- What the header of a band request announces, and what follows it, for a
name as long as its own length field allows. -/
theorem announced_of_longest_name {app : ByteString}
    (happ : app.length = 65535) (i : UInt8) (band : EqBand) :
    let frame := encodeSetContentEqBandRequest app i band
    (∃ header, tryReadHeader frame = some header ∧
      header.payloadLength.toNat = 15) ∧
    (frame.drop headerSize).length = 65551 ∧
    ¬ (Request.setContentEqBand app i band).KeepsFraming := by
  intro frame
  let r := Request.setContentEqBand app i band
  have hframe : frame = encodeMessage .setContentEqBand r.payload := r.encode_eq
  have hlength : r.payload.length = 65551 := by
    simp only [r, payload, List.length_append, length_stringBytes,
      List.length_cons, length_eqBandBytes, happ, eqBandWireSize]
    rfl
  refine ⟨⟨⟨Opcode.setContentEqBand.toByte, UInt16.ofNat r.payload.length⟩,
    ?_, ?_⟩, ?_, ?_⟩
  · rw [hframe]
    exact tryReadHeader_appendHeader _ _ _
  · rw [hlength]
    rfl
  · rw [hframe]
    exact hlength
  · rw [keepsFraming_iff_length, hlength]
    decide

/-- An application name of 65535 bytes makes a payload of 65551 bytes, of
which the header announces 15. -/
theorem keepsFraming_lost :
    let frame := encodeSetContentEqBandRequest (List.replicate 65535 0x61) 0 {}
    (∃ header, tryReadHeader frame = some header ∧
      header.payloadLength.toNat = 15) ∧
    (frame.drop headerSize).length = 65551 ∧
    ¬ (Request.setContentEqBand (List.replicate 65535 0x61) 0 {}).KeepsFraming :=
  announced_of_longest_name List.length_replicate 0 {}

end Request

end RamkolFX
