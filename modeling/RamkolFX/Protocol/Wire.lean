import RamkolFX.Protocol.Types

/-!
# Control protocol: wire primitives

The append and read helpers every message is built from, and the frame
header.  An `append*` function returns its output buffer extended by the
bytes it writes.
-/

namespace RamkolFX

open Support

/-! ## Writing -/

def appendHeader
    (out : List UInt8) (inOpcode : Opcode) (payloadLength : UInt16) :
    List UInt8 :=
  out ++ (inOpcode.toByte :: bytesOfUInt16 payloadLength)

def appendFloatBE (out : List UInt8) (value : Binary32) : List UInt8 :=
  out ++ bytesOfUInt32 value.bits

def appendBool (out : List UInt8) (value : Bool) : List UInt8 :=
  out ++ [if value then 1 else 0]

def appendEqBand (out : List UInt8) (band : EqBand) : List UInt8 :=
  let out := out ++ [band.filterType.toByte]
  let out := appendFloatBE out band.frequencyHz
  let out := appendFloatBE out band.gainDb
  appendFloatBE out band.q

def appendBassEnhancerSettings
    (out : List UInt8) (settings : BassEnhancerSettings) : List UInt8 :=
  let out := appendBool out settings.bEnabled
  let out := appendFloatBE out settings.cutoffHz
  let out := appendFloatBE out settings.drive
  appendFloatBE out settings.mix

/-- Appends a length-prefixed string, cut at `0xFFFF` bytes. -/
def appendString (out : List UInt8) (value : ByteString) : List UInt8 :=
  let len := UInt16.ofNat (min value.length 0xFFFF)
  out ++ bytesOfUInt16 len ++ value.take len.toNat

/-! ## Reading -/

def readFloatBE (payload : List UInt8) (i : ℕ) : Checked Binary32 :=
  Binary32.mk <$> uint32At payload i

def readBool (payload : List UInt8) (i : ℕ) : Checked Bool :=
  (fun b => decide (b ≠ 0)) <$> byteAt payload i

def readEqBand (payload : List UInt8) (i : ℕ) : Checked EqBand := do
  let filterType ← byteAt payload i
  let frequencyHz ← readFloatBE payload (i + 1)
  let gainDb ← readFloatBE payload (i + 5)
  let q ← readFloatBE payload (i + 9)
  return ⟨⟨filterType⟩, frequencyHz, gainDb, q⟩

def readBassEnhancerSettings
    (payload : List UInt8) (i : ℕ) : Checked BassEnhancerSettings := do
  let bEnabled ← readBool payload i
  let cutoffHz ← readFloatBE payload (i + 1)
  let drive ← readFloatBE payload (i + 5)
  let mix ← readFloatBE payload (i + 9)
  return ⟨bEnabled, cutoffHz, drive, mix⟩

/-- Reads a length-prefixed string, advancing the offset past it. -/
def readString : OffsetReader ByteString := fun payload offset =>
  if payload.length < offset + 2 then return none
  else do
    let len ← uint16At payload offset
    let offset := offset + 2
    if payload.length < offset + len.toNat then return none
    else do
      let value ← bytesAt payload offset len.toNat
      return some (value, offset + len.toNat)

/-- Reads a header from the front of the buffer; `none` if fewer than
`headerSize` bytes are available yet. -/
def tryReadHeader (buffer : List UInt8) : Option MessageHeader :=
  match buffer with
  | op :: hi :: lo :: _ => some ⟨op, uint16OfBytes hi lo⟩
  | _ => none

/-! ## What the helpers write -/

@[simp] theorem appendHeader_eq
    (out : List UInt8) (op : Opcode) (len : UInt16) :
    appendHeader out op len = out ++ (op.toByte :: bytesOfUInt16 len) := rfl

@[simp] theorem appendFloatBE_eq (out : List UInt8) (value : Binary32) :
    appendFloatBE out value = out ++ bytesOfUInt32 value.bits := rfl

@[simp] theorem appendBool_eq (out : List UInt8) (value : Bool) :
    appendBool out value = out ++ [if value then 1 else 0] := rfl

/-- The bytes of one EQ band. -/
def eqBandBytes (band : EqBand) : List UInt8 :=
  band.filterType.toByte ::
    (bytesOfUInt32 band.frequencyHz.bits ++
      (bytesOfUInt32 band.gainDb.bits ++ bytesOfUInt32 band.q.bits))

theorem appendEqBand_eq (out : List UInt8) (band : EqBand) :
    appendEqBand out band = out ++ eqBandBytes band := by
  simp [appendEqBand, eqBandBytes]

@[simp] theorem length_eqBandBytes (band : EqBand) :
    (eqBandBytes band).length = eqBandWireSize := rfl

/-- The bytes of the bass enhancer settings. -/
def bassEnhancerBytes (settings : BassEnhancerSettings) : List UInt8 :=
  (if settings.bEnabled then 1 else 0) ::
    (bytesOfUInt32 settings.cutoffHz.bits ++
      (bytesOfUInt32 settings.drive.bits ++ bytesOfUInt32 settings.mix.bits))

theorem appendBassEnhancerSettings_eq
    (out : List UInt8) (settings : BassEnhancerSettings) :
    appendBassEnhancerSettings out settings =
      out ++ bassEnhancerBytes settings := by
  simp [appendBassEnhancerSettings, bassEnhancerBytes]

@[simp] theorem length_bassEnhancerBytes (settings : BassEnhancerSettings) :
    (bassEnhancerBytes settings).length = bassEnhancerWireSize := rfl

/-- The bytes of a length-prefixed string: the prefix counts what follows. -/
def stringBytes (value : ByteString) : List UInt8 :=
  bytesOfUInt16 (UInt16.ofNat (min value.length 0xFFFF)) ++
    value.take (min value.length 0xFFFF)

theorem toNat_stringLength (value : ByteString) :
    (UInt16.ofNat (min value.length 0xFFFF)).toNat =
      min value.length 0xFFFF := by
  rw [UInt16.toNat_ofNat']
  exact Nat.mod_eq_of_lt (by omega)

theorem appendString_eq (out : List UInt8) (value : ByteString) :
    appendString out value = out ++ stringBytes value := by
  simp only [appendString, toNat_stringLength, stringBytes, List.append_assoc]

@[simp] theorem length_stringBytes (value : ByteString) :
    (stringBytes value).length = 2 + min value.length 0xFFFF := by
  simp [stringBytes]

theorem stringBytes_of_length_le {value : ByteString}
    (h : value.length ≤ 0xFFFF) :
    stringBytes value =
      bytesOfUInt16 (UInt16.ofNat value.length) ++ value := by
  simp [stringBytes, Nat.min_eq_left h]

/-! ## Reading back what was written -/

theorem readFloatBE_at
    {payload : List UInt8} {i : ℕ} {value : Binary32} (before after : List UInt8)
    (hpayload : payload = before ++ (bytesOfUInt32 value.bits ++ after))
    (hi : i = before.length) :
    readFloatBE payload i = .ok value := by
  subst hpayload hi
  simp only [readFloatBE, uint32At_append]
  rfl

theorem readBool_at
    {payload : List UInt8} {i : ℕ} {value : Bool} (before after : List UInt8)
    (hpayload : payload = before ++ ((if value then 1 else 0) :: after))
    (hi : i = before.length) :
    readBool payload i = .ok value := by
  have hbyte : byteAt payload i = .ok (if value then 1 else 0) :=
    byteAt_at hpayload hi
  simp only [readBool, hbyte]
  cases value <;> rfl

theorem readEqBand_at
    {payload : List UInt8} {i : ℕ} {band : EqBand} (before after : List UInt8)
    (hpayload : payload = before ++ (eqBandBytes band ++ after))
    (hi : i = before.length) :
    readEqBand payload i = .ok band := by
  have htype : byteAt payload i = .ok band.filterType.toByte :=
    byteAt_at (by simpa [eqBandBytes] using hpayload) hi
  have hfreq : readFloatBE payload (i + 1) = .ok band.frequencyHz :=
    readFloatBE_at (before ++ [band.filterType.toByte]) _
      (by simpa [eqBandBytes] using hpayload) (by simp [hi])
  have hgain : readFloatBE payload (i + 5) = .ok band.gainDb :=
    readFloatBE_at
      (before ++ [band.filterType.toByte] ++
        bytesOfUInt32 band.frequencyHz.bits) _
      (by simpa [eqBandBytes] using hpayload) (by simp [hi])
  have hq : readFloatBE payload (i + 9) = .ok band.q :=
    readFloatBE_at
      (before ++ [band.filterType.toByte] ++
        bytesOfUInt32 band.frequencyHz.bits ++ bytesOfUInt32 band.gainDb.bits) _
      (by simpa [eqBandBytes] using hpayload) (by simp [hi])
  simp only [readEqBand, htype, hfreq, hgain, hq]
  rfl

theorem readBassEnhancerSettings_at
    {payload : List UInt8} {i : ℕ} {settings : BassEnhancerSettings}
    (before after : List UInt8)
    (hpayload : payload = before ++ (bassEnhancerBytes settings ++ after))
    (hi : i = before.length) :
    readBassEnhancerSettings payload i = .ok settings := by
  have henabled : readBool payload i = .ok settings.bEnabled :=
    readBool_at before _ (by simpa [bassEnhancerBytes] using hpayload) hi
  have hcutoff : readFloatBE payload (i + 1) = .ok settings.cutoffHz :=
    readFloatBE_at (before ++ [if settings.bEnabled then 1 else 0]) _
      (by simpa [bassEnhancerBytes] using hpayload) (by simp [hi])
  have hdrive : readFloatBE payload (i + 5) = .ok settings.drive :=
    readFloatBE_at
      (before ++ [if settings.bEnabled then 1 else 0] ++
        bytesOfUInt32 settings.cutoffHz.bits) _
      (by simpa [bassEnhancerBytes] using hpayload) (by simp [hi])
  have hmix : readFloatBE payload (i + 9) = .ok settings.mix :=
    readFloatBE_at
      (before ++ [if settings.bEnabled then 1 else 0] ++
        bytesOfUInt32 settings.cutoffHz.bits ++ bytesOfUInt32 settings.drive.bits) _
      (by simpa [bassEnhancerBytes] using hpayload) (by simp [hi])
  simp only [readBassEnhancerSettings, henabled, hcutoff, hdrive, hmix]
  rfl

/-- A length prefix is all there, whatever follows it. -/
theorem not_length_lt (before after : List UInt8) (length : UInt16) :
    ¬ (before ++ (bytesOfUInt16 length ++ after)).length < before.length + 2 := by
  simp only [List.length_append, length_bytesOfUInt16]
  omega

/-- `readString` reads a string's bytes exactly, and rejects them when any
byte of the prefix or of the text is missing. -/
theorem readString_reads {value : ByteString} (h : value.length ≤ 0xFFFF) :
    OffsetReader.Reads readString (stringBytes value) value := by
  have hlen : (UInt16.ofNat value.length).toNat = value.length := by
    rw [UInt16.toNat_ofNat']
    exact Nat.mod_eq_of_lt (by omega)
  rw [stringBytes_of_length_le h]
  constructor
  · intro before after
    have hlength := uint16At_append before (value ++ after)
      (UInt16.ofNat value.length)
    have htext := bytesAt_append
      (before ++ bytesOfUInt16 (UInt16.ofNat value.length)) value after
    simp only [List.append_assoc, List.length_append, length_bytesOfUInt16]
      at hlength htext ⊢
    rw [readString, if_neg (not_length_lt _ _ _)]
    simp only [hlength]
    change (if _ then _ else _) = _
    rw [hlen, if_neg (by simp; omega), htext, Nat.add_assoc]
    rfl
  · intro before part hpre hne
    rcases OffsetReader.properPrefix_append_cases hpre hne with
      ⟨hp, hne⟩ | ⟨text, rfl, hp, hne⟩
    · have hshort : part.length < 2 := by
        have hle := hp.length_le
        rcases Nat.lt_or_ge part.length 2 with hlt | hge
        · exact hlt
        · exact absurd (hp.eq_of_length_le (by simpa using hge)) hne
      rw [readString, if_pos (by simp; omega)]
      rfl
    · have hshort : text.length < value.length := by
        rcases Nat.lt_or_ge text.length value.length with hlt | hge
        · exact hlt
        · exact absurd (hp.eq_of_length_le hge) hne
      have hlength := uint16At_append before text (UInt16.ofNat value.length)
      rw [readString, if_neg (not_length_lt _ _ _)]
      simp only [hlength]
      change (if _ then _ else _) = _
      rw [hlen, if_pos (by simp; omega)]
      rfl

/-- The header of a frame is its opcode byte and the length it was given. -/
theorem tryReadHeader_appendHeader
    (op : Opcode) (len : UInt16) (after : List UInt8) :
    tryReadHeader (appendHeader [] op len ++ after) =
      some ⟨op.toByte, len⟩ := by
  simp only [appendHeader_eq, bytesOfUInt16, List.nil_append, List.cons_append,
    tryReadHeader, uint16OfBytes_bytes]

end RamkolFX
