import RamkolFX.Daemon.EngineSteps
import RamkolFX.Protocol.ResponseBounds

/-!
# No payload makes the daemon or a client index out of bounds

The decoders look only at the payload they were handed, and the command
handler indexes the layout and the band array only with what the decoder has
checked.
-/

namespace RamkolFX

open Support

namespace AudioEngine

/-- Every index the handler takes from the command is in the bounds of the
array it is used on. -/
structure IndexesInBounds (inCommand : Command) : Prop where
  speaker : ∃ channel, speakerChannel inCommand = some channel ∧
    channel.val = inCommand.speakerIndex.toNat
  band : ∃ i, band inCommand = some i ∧ i.val = inCommand.bandIndex.toNat

theorem indexesInBounds_of_inBounds {inCommand : Command} {limit : ℕ}
    (h : inCommand.InBounds limit) : IndexesInBounds inCommand where
  speaker := ⟨_, dif_pos h.speakerIndex, rfl⟩
  band := ⟨_, dif_pos h.bandIndex, rfl⟩

/-- What becomes of the frame of any opcode with any payload: it is decoded
within its payload, into a command the handler can take as it is. -/
structure DecodesSafely (inOpcode : UInt8) (payload : List UInt8) : Prop where
  command : Yields (decodeCommand inOpcode payload) fun result =>
    ∀ inCommand, result = some inCommand →
      inCommand.InBounds payload.length ∧ IndexesInBounds inCommand
  rejected : (∀ op, Opcode.ofByte inOpcode = some op → op ∈ responseOpcodes) →
    decodeCommand inOpcode payload = .ok none

theorem decodesSafely (inOpcode : UInt8) (payload : List UInt8) :
    DecodesSafely inOpcode payload where
  command := by
    obtain ⟨result, hdecode, hbounds⟩ := decodeCommand_yields inOpcode payload
    refine ⟨result, hdecode, fun inCommand hresult => ?_⟩
    have hcommand := hbounds inCommand hresult
    exact ⟨hcommand, indexesInBounds_of_inBounds hcommand⟩
  rejected := fun h => decodeCommand_of_not_request h payload

/-- Decoding is safe for every opcode and payload, on both sides of a
connection. -/
theorem decoders_inBounds :
    (∀ inOpcode payload, DecodesSafely inOpcode payload) ∧
      AnswersEvery decodeStatusResponse ∧ AnswersEvery decodeErrorResponse ∧
      AnswersEvery decodeDeviceListResponse ∧
      AnswersEvery decodeHrtfCatalogResponse ∧
      AnswersEvery decodeHwEqStateResponse ∧
      AnswersEvery decodeBassEnhancerStateResponse ∧
      AnswersEvery decodeContentStreamListResponse ∧
      AnswersEvery decodeEqPresetCatalogResponse :=
  ⟨decodesSafely, responseDecoders_answerEvery⟩

end AudioEngine

end RamkolFX
