import RamkolFX.Control.Frames
import RamkolFX.Gui.ControlClient

/-!
# The calls of a control client

Each call sends one request, which is one frame whatever its arguments, and
takes one response: the bytes it still needs follow from those it has.
-/

namespace RamkolFX

open Support

/-- A call of `ControlClient` that talks to the daemon. -/
inductive ClientCall
  | requestStatus
  | setSpatialMode (mode : SpatialMode)
  | setSpeakerAzimuth (speakerIndex : UInt8) (azimuthDegrees : Binary32)
  | setSpeakerDistance (speakerIndex : UInt8) (distanceMeters : Binary32)
  | setNearFieldEnabled (bEnabled : Bool)
  | resetSpeakerPositions
  | setOutputDevice (deviceName : ByteString)
  | setSpeakerMute (speakerIndex : UInt8) (bMuted : Bool)
  | setTestNoiseEnabled (bEnabled : Bool)
  | requestDevices
  | requestHrtfCatalog
  | setHrtfFile (hrtfIndex : UInt8)
  | setHwEqBand (bandIndex : UInt8) (band : EqBand)
  | requestHwEqState
  | setBassEnhancer (settings : BassEnhancerSettings)
  | requestBassEnhancerState

/-- What a call that succeeds returns. -/
inductive ClientValue
  | status (status : Status)
  | devices (devices : List AudioDeviceInfo)
  | hrtfCatalog (displayNames : List ByteString)
  | hwEqState (bands : Fin maxEqBands → EqBand)
  | bassEnhancerState (settings : BassEnhancerSettings)

namespace ClientCall

def request : ClientCall → List UInt8
  | requestStatus => encodeGetStatusRequest
  | setSpatialMode mode => encodeSetSpatialModeRequest mode
  | setSpeakerAzimuth speakerIndex azimuthDegrees =>
      encodeSetSpeakerAzimuthRequest speakerIndex azimuthDegrees
  | setSpeakerDistance speakerIndex distanceMeters =>
      encodeSetSpeakerDistanceRequest speakerIndex distanceMeters
  | setNearFieldEnabled bEnabled => encodeSetNearFieldEnabledRequest bEnabled
  | resetSpeakerPositions => encodeResetSpeakerPositionsRequest
  | setOutputDevice deviceName => encodeSetOutputDeviceRequest deviceName
  | setSpeakerMute speakerIndex bMuted =>
      encodeSetSpeakerMuteRequest speakerIndex bMuted
  | setTestNoiseEnabled bEnabled => encodeSetTestNoiseRequest bEnabled
  | requestDevices => encodeGetDevicesRequest
  | requestHrtfCatalog => encodeGetHrtfCatalogRequest
  | setHrtfFile hrtfIndex => encodeSetHrtfFileRequest hrtfIndex
  | setHwEqBand bandIndex band => encodeSetHwEqBandRequest bandIndex band
  | requestHwEqState => encodeGetHwEqStateRequest
  | setBassEnhancer settings => encodeSetBassEnhancerRequest settings
  | requestBassEnhancerState => encodeGetBassEnhancerStateRequest

/-- The opcode of the response that the call decodes. -/
def expects : ClientCall → Opcode
  | requestDevices => .deviceListResponse
  | requestHrtfCatalog => .hrtfCatalogResponse
  | requestHwEqState => .hwEqStateResponse
  | requestBassEnhancerState => .bassEnhancerStateResponse
  | _ => .statusResponse

/-- `none` where the payload is rejected. -/
def decodeValue (call : ClientCall) (payload : List UInt8) :
    Checked (Option ClientValue) :=
  match call with
  | requestDevices => do
      return (← decodeDeviceListResponse payload).map .devices
  | requestHrtfCatalog => do
      return (← decodeHrtfCatalogResponse payload).map .hrtfCatalog
  | requestHwEqState => do
      return (← decodeHwEqStateResponse payload).map .hwEqState
  | requestBassEnhancerState => do
      return (← decodeBassEnhancerStateResponse payload).map .bassEnhancerState
  | _ => do
      return (← decodeStatusResponse payload).map .status

/-! ## One frame for each request -/

/-- A message whose payload is within the limit is a frame. -/
theorem exists_frame_of_message (op : Opcode) {message : List UInt8}
    (payload : List UInt8) (hmessage : message = encodeMessage op payload)
    (hlen : payload.length ≤ maxPayloadSize) :
    ∃ frame : Frame, message = frame.bytes := by
  have hfits : payload.length < 2 ^ 16 := lt_of_le_of_lt hlen (by decide)
  refine ⟨⟨op.toByte, payload, hfits⟩, ?_⟩
  rw [hmessage, encodeMessage, appendHeader_eq]
  rfl

theorem exists_frame_emptyRequest (op : Opcode) :
    ∃ frame : Frame, encodeEmptyRequest op = frame.bytes :=
  exists_frame_of_message op [] rfl (Nat.zero_le _)

/-- A raw string is cut to what a frame can hold. -/
theorem exists_frame_rawStringRequest (op : Opcode) (value : ByteString) :
    ∃ frame : Frame, encodeRawStringRequest op value = frame.bytes := by
  have htake : ∀ len, len ≤ value.length → len ≤ maxPayloadSize →
      ∃ frame : Frame, appendHeader [] op (UInt16.ofNat len) ++ value.take len =
        frame.bytes := by
    intro len hle hlen
    have hlength : (value.take len).length = len := List.length_take_of_le hle
    apply exists_frame_of_message op (value.take len)
    · rw [encodeMessage, hlength]
    · rw [hlength]
      exact hlen
  rw [encodeRawStringRequest]
  by_cases hlong : maxPayloadSize < value.length
  · rw [if_pos hlong]
    exact htake maxPayloadSize hlong.le (Nat.le_refl _)
  · rw [if_neg hlong]
    exact htake value.length (Nat.le_refl _) (Nat.not_lt.mp hlong)

/-- Whatever its arguments, a call sends one frame. -/
theorem exists_frame_request (call : ClientCall) :
    ∃ frame : Frame, call.request = frame.bytes := by
  cases call with
  | requestStatus | resetSpeakerPositions | requestDevices | requestHrtfCatalog
  | requestHwEqState | requestBassEnhancerState =>
      exact exists_frame_emptyRequest _
  | setOutputDevice deviceName => exact exists_frame_rawStringRequest _ deviceName
  | setSpatialMode mode =>
      exact exists_frame_of_message _ [mode.toByte] rfl
        (Nat.le_of_ble_eq_true rfl)
  | setSpeakerAzimuth speakerIndex azimuthDegrees =>
      exact exists_frame_of_message _ (speakerIndex ::
        bytesOfUInt32 azimuthDegrees.bits) rfl
        (Nat.le_of_ble_eq_true rfl)
  | setSpeakerDistance speakerIndex distanceMeters =>
      exact exists_frame_of_message _ (speakerIndex ::
        bytesOfUInt32 distanceMeters.bits) rfl
        (Nat.le_of_ble_eq_true rfl)
  | setNearFieldEnabled bEnabled =>
      exact exists_frame_of_message _ [if bEnabled then 1 else 0] rfl
        (Nat.le_of_ble_eq_true rfl)
  | setSpeakerMute speakerIndex bMuted =>
      exact exists_frame_of_message _ [speakerIndex, if bMuted then 1 else 0] rfl
        (Nat.le_of_ble_eq_true rfl)
  | setTestNoiseEnabled bEnabled =>
      exact exists_frame_of_message _ [if bEnabled then 1 else 0] rfl
        (Nat.le_of_ble_eq_true rfl)
  | setHrtfFile hrtfIndex =>
      exact exists_frame_of_message _ [hrtfIndex] rfl
        (Nat.le_of_ble_eq_true rfl)
  | setHwEqBand bandIndex band =>
      exact exists_frame_of_message _ (bandIndex :: eqBandBytes band) rfl
        (Nat.le_of_ble_eq_true rfl)
  | setBassEnhancer settings =>
      exact exists_frame_of_message _ (bassEnhancerBytes settings) rfl
        (Nat.le_of_ble_eq_true rfl)

end ClientCall

/-! ## Receiving a response -/

namespace ControlClient

/-- What a client that has received these bytes of a response does: it receives
at most so many more, disconnects, or has the whole response. -/
inductive Receiving
  | needs (count : ℕ)
  | fails
  | complete (response : RawResponse)

/-- `SendRawRequest` behind the call of `send`: first the header, then the
payload that it announces. -/
def receiving (received : List UInt8) : Receiving :=
  match tryReadHeader received with
  | none => .needs (headerSize - received.length)
  | some header =>
      let length := header.payloadLength.toNat
      let payload := received.drop headerSize
      if maxPayloadSize < length then .fails
      else if payload.length < length then .needs (length - payload.length)
      else .complete ⟨header.messageOpcode, payload.take length⟩

/-- A whole response is what `SendRawRequest` takes from a stream that begins
with it. -/
theorem receiveResponse_of_complete {received : List UInt8}
    {response : RawResponse} (hcomplete : receiving received = .complete response) :
    receiveResponse received =
      some (response, (received.drop headerSize).drop response.payload.length) := by
  rw [receiving] at hcomplete
  cases hheader : tryReadHeader received with
  | none =>
      rw [hheader] at hcomplete
      cases hcomplete
  | some header =>
      simp only [hheader] at hcomplete
      split at hcomplete
      · cases hcomplete
      · rename_i hlimit
        split at hcomplete
        · cases hcomplete
        · rename_i hshort
          obtain rfl := Receiving.complete.inj hcomplete
          simp only [receiveResponse, hheader, Option.bind_eq_bind,
            Option.bind_some]
          rw [if_neg hlimit, if_neg hshort,
            List.length_take_of_le (Nat.not_lt.mp hshort)]
          rfl

/-- Part of a frame that is a whole response is the frame, to its last byte. -/
theorem eq_of_receiving_complete {received : List UInt8} {frame : Frame}
    {response : RawResponse} (hfront : received <+: frame.bytes)
    (hcomplete : receiving received = .complete response) :
    received = frame.bytes ∧
      receiveResponse frame.bytes = some (response, []) := by
  have hlength : (UInt16.ofNat frame.payload.length).toNat =
      frame.payload.length := by
    rw [UInt16.toNat_ofNat']
    exact Nat.mod_eq_of_lt frame.fits
  have hreceive := receiveResponse_of_complete hcomplete
  match received with
  | [] | [_] | [_, _] => cases hcomplete
  | op :: hi :: lo :: body =>
      simp only [Frame.bytes, bytesOfUInt16, List.cons_append, List.nil_append,
        List.cons_prefix_cons] at hfront
      obtain ⟨rfl, rfl, rfl, hbody⟩ := hfront
      simp only [receiving, tryReadHeader, uint16OfBytes_bytes, hlength] at hcomplete
      split at hcomplete
      · cases hcomplete
      · split at hcomplete
        · cases hcomplete
        · rename_i hshort
          obtain rfl := Receiving.complete.inj hcomplete
          have hpayload : body = frame.payload :=
            hbody.eq_of_length_le (Nat.not_lt.mp hshort)
          subst hpayload
          refine ⟨rfl, hreceive.trans ?_⟩
          simp [headerSize]

end ControlClient

end RamkolFX
