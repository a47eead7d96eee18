import RamkolFX.Protocol.ListResponses
import RamkolFX.Protocol.StateResponses

/-!
# Control client

The receiving half of a client's request: the header, its limit, and exactly
the payload it announces.
-/

namespace RamkolFX

namespace ControlClient

structure RawResponse where
  messageOpcode : UInt8
  payload : List UInt8
  deriving DecidableEq

/-- What `SendRawRequest` takes from the bytes that arrive, and the bytes it
leaves; `none` where it disconnects. -/
def receiveResponse (stream : List UInt8) :
    Option (RawResponse × List UInt8) := do
  let header ← tryReadHeader stream
  let length := header.payloadLength.toNat
  let body := stream.drop headerSize
  if maxPayloadSize < length then none
  else if body.length < length then none
  else return (⟨header.messageOpcode, body.take length⟩, body.drop length)

/-- The payload decodes with the decoder of its opcode. -/
def RawResponse.decodes (response : RawResponse) : Bool :=
  match Opcode.ofByte response.messageOpcode with
  | some .statusResponse =>
      (decodeStatusResponse response.payload).toOption.join.isSome
  | some .errorResponse =>
      (decodeErrorResponse response.payload).toOption.isSome
  | some .deviceListResponse =>
      (decodeDeviceListResponse response.payload).toOption.join.isSome
  | some .hrtfCatalogResponse =>
      (decodeHrtfCatalogResponse response.payload).toOption.join.isSome
  | some .contentStreamListResponse =>
      (decodeContentStreamListResponse response.payload).toOption.join.isSome
  | some .eqPresetCatalogResponse =>
      (decodeEqPresetCatalogResponse response.payload).toOption.join.isSome
  | some .hwEqStateResponse =>
      (decodeHwEqStateResponse response.payload).toOption.join.isSome
  | some .bassEnhancerStateResponse =>
      (decodeBassEnhancerStateResponse response.payload).toOption.join.isSome
  | _ => false

/-- The bytes are one response: received to the last byte, and decoded. -/
def Accepts (frame : List UInt8) : Prop :=
  ∃ response, receiveResponse frame = some (response, []) ∧ response.decodes

theorem receiveResponse_of_wellFramed {op : Opcode} {frame payload : List UInt8}
    (h : WellFramed op frame payload) :
    receiveResponse frame = some (⟨op.toByte, payload⟩, []) := by
  simp only [receiveResponse, h.header, h.rest, h.exact_length,
    Option.bind_eq_bind, Option.bind_some]
  rw [if_neg (Nat.not_lt.mpr h.fits), if_neg (Nat.lt_irrefl _),
    List.take_length, List.drop_length]
  rfl

theorem accepts_of_wellFramed {op : Opcode} {frame payload : List UInt8}
    (h : WellFramed op frame payload)
    (hdecodes : RawResponse.decodes ⟨op.toByte, payload⟩ = true) :
    Accepts frame :=
  ⟨_, receiveResponse_of_wellFramed h, hdecodes⟩

/-- A message is received as far as its header says, and that is within the
limit. -/
theorem eq_of_receiveResponse {op : Opcode} {payload rest : List UInt8}
    {response : RawResponse}
    (h : receiveResponse (encodeMessage op payload) = some (response, rest)) :
    ∃ length ≤ maxPayloadSize,
      response = ⟨op.toByte, payload.take length⟩ ∧ rest = payload.drop length := by
  have hheader : tryReadHeader (encodeMessage op payload) =
      some ⟨op.toByte, UInt16.ofNat payload.length⟩ :=
    tryReadHeader_appendHeader _ _ _
  have hbody : (encodeMessage op payload).drop headerSize = payload := rfl
  simp only [receiveResponse, hheader, hbody, Option.bind_eq_bind,
    Option.bind_some] at h
  split at h
  · cases h
  · rename_i hlimit
    split at h
    · cases h
    · obtain ⟨rfl, rfl⟩ := Prod.mk.inj (Option.some.inj h)
      exact ⟨_, Nat.not_lt.mp hlimit, rfl, rfl⟩

/-- A message that is received to its last byte is within the limit. -/
theorem length_le_of_accepts {op : Opcode} {payload : List UInt8}
    (h : Accepts (encodeMessage op payload)) :
    payload.length ≤ maxPayloadSize := by
  obtain ⟨response, hreceive, -⟩ := h
  obtain ⟨length, hlimit, -, hrest⟩ := eq_of_receiveResponse hreceive
  exact (List.drop_eq_nil_iff.mp hrest.symm).trans hlimit

/-! ## The daemon's responses -/

/-- The longest device name that fits into a status. -/
def maxDeviceNameLength : ℕ := maxPayloadSize - (statusFixedSize + 2)

theorem statusBytes_fit_iff (status : Status) :
    (statusFixedBytes status ++ stringBytes status.outputDeviceName).length ≤
        maxPayloadSize ↔
      status.outputDeviceName.length ≤ maxDeviceNameLength := by
  have hroom : statusFixedSize + 2 + maxDeviceNameLength = maxPayloadSize := rfl
  have hword : maxPayloadSize < 0xFFFF := by decide
  rw [List.length_append, length_statusFixedBytes, length_stringBytes]
  omega

theorem maxDeviceNameLength_le : maxDeviceNameLength ≤ 0xFFFF := by decide

/-- A status with a named mode is accepted exactly when its name fits. -/
theorem accepts_statusResponse_iff {status : Status}
    (hmode : status.mode.IsValid) :
    Accepts (encodeStatusResponse status) ↔
      status.outputDeviceName.length ≤ maxDeviceNameLength := by
  rw [encodeStatusResponse_eq]
  constructor
  · intro h
    exact (statusBytes_fit_iff status).mp (length_le_of_accepts h)
  · intro hname
    have hfits := (statusBytes_fit_iff status).mpr hname
    apply accepts_of_wellFramed (wellFramed_encodeMessage hfits)
    simp only [RawResponse.decodes, Opcode.ofByte_toByte,
      decodeStatusResponse_bytes hmode (hname.trans maxDeviceNameLength_le)]
    rfl

theorem accepts_deviceListResponse (devices : List AudioDeviceInfo) :
    Accepts (encodeDeviceListResponse devices) := by
  obtain ⟨payload, kept, hframed, -, hdecode, -⟩ :=
    (encodeDeviceListResponse_delivered devices).delivered
  apply accepts_of_wellFramed hframed
  simp only [RawResponse.decodes, Opcode.ofByte_toByte, hdecode]
  rfl

theorem accepts_hrtfCatalogResponse (displayNames : List ByteString) :
    Accepts (encodeHrtfCatalogResponse displayNames) := by
  obtain ⟨payload, kept, hframed, -, hdecode, -⟩ :=
    (encodeNameList_delivered .hrtfCatalogResponse displayNames).delivered
  apply accepts_of_wellFramed hframed
  simp only [RawResponse.decodes, Opcode.ofByte_toByte,
    decodeHrtfCatalogResponse, hdecode]
  rfl

theorem accepts_hwEqStateResponse (bands : Fin maxEqBands → EqBand) :
    Accepts (encodeHwEqStateResponse bands) := by
  rw [encodeHwEqStateResponse_eq]
  refine accepts_of_wellFramed (wellFramed_encodeMessage ?_) ?_
  · rw [length_hwEqStateBytes]
    decide
  · simp only [RawResponse.decodes, Opcode.ofByte_toByte,
      decodeHwEqStateResponse_bytes]
    rfl

theorem accepts_bassEnhancerStateResponse (settings : BassEnhancerSettings) :
    Accepts (encodeBassEnhancerStateResponse settings) := by
  rw [encodeBassEnhancerStateResponse_eq]
  refine accepts_of_wellFramed (wellFramed_encodeMessage ?_) ?_
  · rw [length_bassEnhancerBytes]
    decide
  · simp only [RawResponse.decodes, Opcode.ofByte_toByte,
      decodeBassEnhancerStateResponse_bytes]
    rfl

end ControlClient

end RamkolFX
