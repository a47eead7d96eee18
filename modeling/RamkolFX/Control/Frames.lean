import RamkolFX.Support.Framing
import RamkolFX.Protocol.DecodeBounds

/-!
# Frames on a control connection

The reference reading of a byte stream: repeatedly a three-byte header, then
as many payload bytes as it announces.  What is left behind the last complete
frame is a proper prefix of some frame.
-/

namespace RamkolFX

open Support

/-- A complete message: its opcode byte and a payload a 16-bit length can
announce. -/
structure Frame where
  messageOpcode : UInt8
  payload : List UInt8
  fits : payload.length < 2 ^ 16

namespace Frame

/-- The frame on the wire. -/
def bytes (frame : Frame) : List UInt8 :=
  frame.messageOpcode ::
    (bytesOfUInt16 (UInt16.ofNat frame.payload.length) ++ frame.payload)

/-- The command the frame decodes to, if any. -/
def command (frame : Frame) : Option Command :=
  (decodeCommand frame.messageOpcode frame.payload).toOption.join

theorem decodeCommand_eq (frame : Frame) :
    decodeCommand frame.messageOpcode frame.payload = .ok frame.command := by
  obtain ⟨result, hdecode, -⟩ :=
    decodeCommand_yields frame.messageOpcode frame.payload
  simp [command, hdecode, Except.toOption]

/-- A decoded command's indices are in bounds and its enumerators named. -/
theorem inBounds_of_command {frame : Frame} {inCommand : Command}
    (h : frame.command = some inCommand) : ∃ limit, inCommand.InBounds limit := by
  obtain ⟨result, hdecode, hbounds⟩ :=
    decodeCommand_yields frame.messageOpcode frame.payload
  rw [frame.decodeCommand_eq] at hdecode
  obtain rfl := Except.ok.inj hdecode
  exact ⟨_, hbounds inCommand h⟩

theorem bytes_of_header
    {op hi lo : UInt8} {payload : List UInt8}
    (hlen : payload.length = (uint16OfBytes hi lo).toNat)
    (hfits : payload.length < 2 ^ 16) :
    (Frame.mk op payload hfits).bytes = op :: hi :: lo :: payload := by
  have hword : UInt16.ofNat payload.length = uint16OfBytes hi lo := by
    rw [hlen, UInt16.ofNat_toNat]
  simp only [bytes, hword, bytesOfUInt16_uint16OfBytes]
  rfl

end Frame

/-- The first complete frame of a buffer. -/
def nextFrame : List UInt8 → Option (Frame × List UInt8)
  | op :: hi :: lo :: rest =>
      let len := uint16OfBytes hi lo
      if len.toNat ≤ rest.length then
        some (⟨op, rest.take len.toNat,
          lt_of_le_of_lt (List.length_take_le _ _) len.toNat_lt⟩,
          rest.drop len.toNat)
      else none
  | _ => none

theorem nextFrame_eq_some
    {buffer rest : List UInt8} {frame : Frame}
    (h : nextFrame buffer = some (frame, rest)) :
    buffer = frame.bytes ++ rest := by
  match buffer with
  | [] | [_] | [_, _] => simp [nextFrame] at h
  | op :: hi :: lo :: body =>
      simp only [nextFrame] at h
      split at h
      · next hlen =>
          obtain ⟨rfl, rfl⟩ := Prod.mk.inj (Option.some.inj h)
          have htake : (body.take (uint16OfBytes hi lo).toNat).length =
              (uint16OfBytes hi lo).toNat := List.length_take_of_le hlen
          rw [Frame.bytes_of_header htake]
          simp
      · exact absurd h (by simp)

/-- A frame at the front of a buffer is the first complete frame. -/
theorem nextFrame_bytes (frame : Frame) (rest : List UInt8) :
    nextFrame (frame.bytes ++ rest) = some (frame, rest) := by
  obtain ⟨op, payload, hfits⟩ := frame
  have hlen : (UInt16.ofNat payload.length).toNat = payload.length := by
    rw [UInt16.toNat_ofNat']
    exact Nat.mod_eq_of_lt hfits
  simp only [Frame.bytes, bytesOfUInt16, List.cons_append, List.nil_append,
    nextFrame, uint16OfBytes_bytes, hlen]
  simp

/-- Complete frames of a buffer, read as `nextFrame` reads them. -/
def frameReader : Framer UInt8 Frame where
  next := nextFrame
  progress := by
    intro buffer frame rest h
    rw [nextFrame_eq_some h]
    simp only [Frame.bytes, List.length_append, List.length_cons]
    omega
  extend := by
    intro buffer frame rest more h
    rw [nextFrame_eq_some h, List.append_assoc]
    exact nextFrame_bytes frame (rest ++ more)

/-- The frames of a stream, and the bytes behind the last complete one. -/
def referenceParse (stream : List UInt8) : List Frame × List UInt8 :=
  frameReader.parse stream

/-- A proper prefix of some frame. -/
def IsIncompleteFrame (rest : List UInt8) : Prop :=
  ∃ frame : Frame, rest <+: frame.bytes ∧ rest ≠ frame.bytes

/-- Missing payload bytes make a frame incomplete. -/
theorem isIncompleteFrame_of_short
    {op hi lo : UInt8} {body : List UInt8}
    (h : body.length < (uint16OfBytes hi lo).toNat) :
    IsIncompleteFrame (op :: hi :: lo :: body) := by
  let missing : List UInt8 :=
    List.replicate ((uint16OfBytes hi lo).toNat - body.length) 0
  have hlen : (body ++ missing).length = (uint16OfBytes hi lo).toNat := by
    simp only [missing, List.length_append, List.length_replicate]
    omega
  have hfits : (body ++ missing).length < 2 ^ 16 := by
    rw [hlen]
    exact (uint16OfBytes hi lo).toNat_lt
  refine ⟨⟨op, body ++ missing, hfits⟩, ?_, ?_⟩
  · rw [Frame.bytes_of_header hlen]
    exact ⟨missing, by simp⟩
  · rw [Frame.bytes_of_header hlen]
    intro heq
    have hbody := congrArg List.length heq
    simp only [List.length_cons, hlen] at hbody
    omega

/-- Bytes that hold no complete frame are a proper prefix of one. -/
theorem isIncompleteFrame_of_next
    {rest : List UInt8} (h : nextFrame rest = none) :
    IsIncompleteFrame rest := by
  match rest with
  | [] =>
      exact ⟨⟨0, [], by simp⟩, List.nil_prefix, by simp [Frame.bytes]⟩
  | [op] =>
      exact ⟨⟨op, [], by simp⟩, ⟨_, rfl⟩, by simp [Frame.bytes, bytesOfUInt16]⟩
  | [op, hi] =>
      have hlen : (List.replicate (uint16OfBytes hi 0).toNat (0 : UInt8)).length =
          (uint16OfBytes hi 0).toNat := List.length_replicate
      refine ⟨⟨op, _, by rw [hlen]; exact (uint16OfBytes hi 0).toNat_lt⟩, ?_⟩
      rw [Frame.bytes_of_header hlen]
      exact ⟨⟨_, rfl⟩, by simp⟩
  | op :: hi :: lo :: body =>
      apply isIncompleteFrame_of_short
      by_contra hlen
      simp [nextFrame, not_lt.mp hlen] at h

/-- The reference parse cuts the stream into frames and an incomplete rest. -/
theorem referenceParse_spec (stream : List UInt8) :
    (referenceParse stream).1.flatMap Frame.bytes ++ (referenceParse stream).2 =
        stream ∧
      IsIncompleteFrame (referenceParse stream).2 :=
  ⟨frameReader.flatMap_parse nextFrame_eq_some stream,
    isIncompleteFrame_of_next (frameReader.next_rest stream)⟩

end RamkolFX
