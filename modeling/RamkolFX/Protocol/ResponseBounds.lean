import RamkolFX.Protocol.DecodeBounds
import RamkolFX.Protocol.Responses

/-!
# Control protocol: the response decoders stay inside their payload

Every response decoder answers every payload, and the command decoder rejects
every opcode that is not a request, whatever its payload.
-/

namespace RamkolFX

open Support

/-- The decoder answers every payload: no access of it leaves the payload. -/
def AnswersEvery {α : Type} (decode : List UInt8 → Checked α) : Prop :=
  ∀ payload, Yields (decode payload) fun _ => True

theorem readString_staysInside : OffsetReader.StaysInside readString :=
  fun payload offset _ => readString_yields payload offset

theorem stringPair_staysInside {α : Type} (make : ByteString → ByteString → α) :
    OffsetReader.StaysInside
      (do let a ← readString; let b ← readString; return make a b) :=
  readString_staysInside.bind fun a =>
    readString_staysInside.bind fun b => OffsetReader.StaysInside.pure (make a b)

theorem answersEvery_listResponse {α : Type} {entry : OffsetReader α}
    (h : entry.StaysInside) : AnswersEvery (decodeListResponse entry) := by
  intro payload
  refine Yields.ite (fun _ => Yields.pure trivial) fun hlen => ?_
  refine (uint16At_yields (by omega)).bind fun count _ => ?_
  refine ((h.times count.toNat) payload 2 (by omega)).bind fun result _ => ?_
  cases result with
  | none => exact Yields.pure trivial
  | some entries => exact Yields.pure trivial

theorem answersEvery_statusResponse : AnswersEvery decodeStatusResponse := by
  intro payload
  refine Yields.ite (fun _ => Yields.pure trivial) fun hlen => ?_
  have hsize : statusFixedSize = 67 := rfl
  have hspeakers : speakerCount = 7 := rfl
  rw [hsize] at hlen
  refine (byteAt_yields (by omega)).bind fun mode _ => ?_
  refine Yields.ite (fun _ => Yields.pure trivial) fun hmode => ?_
  refine (readArray_yields fun i hi => readFloatBE_yields (by omega)).bind
    fun azimuths _ => ?_
  refine (readArray_yields fun i hi => readBool_yields (by omega)).bind
    fun mutes _ => ?_
  refine (readBool_yields (by omega)).bind fun noise _ => ?_
  refine (byteAt_yields (by omega)).bind fun index _ => ?_
  refine (readArray_yields fun i hi => readFloatBE_yields (by omega)).bind
    fun distances _ => ?_
  refine (readBool_yields (by omega)).bind fun near _ => ?_
  refine (readString_yields payload statusFixedSize).bind fun result _ => ?_
  cases result with
  | none => exact Yields.pure trivial
  | some named => exact Yields.pure trivial

theorem answersEvery_errorResponse : AnswersEvery decodeErrorResponse := by
  intro payload
  have hinside : 0 + payload.length ≤ payload.length := by omega
  obtain ⟨text, htext, -⟩ := bytesAt_yields hinside
  exact ⟨text, htext, trivial⟩

theorem answersEvery_hwEqStateResponse :
    AnswersEvery decodeHwEqStateResponse := by
  intro payload
  refine Yields.ite (fun _ => Yields.pure trivial) fun hlen => ?_
  have hlength : payload.length = maxEqBands * eqBandWireSize := not_not.mp hlen
  refine (readArray_yields fun i hi => ?_).bind fun bands _ => Yields.pure trivial
  have hinside : i * eqBandWireSize + eqBandWireSize ≤ payload.length := by
    rw [hlength, ← Nat.succ_mul]
    exact Nat.mul_le_mul_right eqBandWireSize hi
  obtain ⟨band, hband, -⟩ := readEqBand_yields hinside
  exact ⟨band, hband, trivial⟩

theorem answersEvery_bassEnhancerStateResponse :
    AnswersEvery decodeBassEnhancerStateResponse := by
  intro payload
  refine Yields.ite (fun _ => Yields.pure trivial) fun hlen => ?_
  exact (readBassEnhancerSettings_yields (by omega)).bind
    fun settings _ => Yields.pure trivial

/-- All response decoders answer every payload. -/
theorem responseDecoders_answerEvery :
    AnswersEvery decodeStatusResponse ∧ AnswersEvery decodeErrorResponse ∧
      AnswersEvery decodeDeviceListResponse ∧
      AnswersEvery decodeHrtfCatalogResponse ∧
      AnswersEvery decodeHwEqStateResponse ∧
      AnswersEvery decodeBassEnhancerStateResponse ∧
      AnswersEvery decodeContentStreamListResponse ∧
      AnswersEvery decodeEqPresetCatalogResponse :=
  ⟨answersEvery_statusResponse, answersEvery_errorResponse,
    answersEvery_listResponse (stringPair_staysInside AudioDeviceInfo.mk),
    answersEvery_listResponse readString_staysInside,
    answersEvery_hwEqStateResponse, answersEvery_bassEnhancerStateResponse,
    answersEvery_listResponse (stringPair_staysInside ContentStreamInfo.mk),
    answersEvery_listResponse readString_staysInside⟩

/-- The opcodes a daemon answers with. -/
def responseOpcodes : List Opcode :=
  [.statusResponse, .errorResponse, .deviceListResponse, .hrtfCatalogResponse,
    .contentStreamListResponse, .eqPresetCatalogResponse, .hwEqStateResponse,
    .bassEnhancerStateResponse]

/-- A byte that is no opcode, or the opcode of a response, is rejected. -/
theorem decodeCommand_of_not_request {inOpcode : UInt8}
    (h : ∀ op, Opcode.ofByte inOpcode = some op → op ∈ responseOpcodes)
    (payload : List UInt8) : decodeCommand inOpcode payload = .ok none := by
  rw [decodeCommand]
  cases hop : Opcode.ofByte inOpcode with
  | none => rfl
  | some op =>
      have hresponse := h op hop
      simp only [responseOpcodes, List.mem_cons, List.not_mem_nil, or_false]
        at hresponse
      rcases hresponse with rfl | rfl | rfl | rfl | rfl | rfl | rfl | rfl <;> rfl

end RamkolFX
