import RamkolFX.Protocol.ListResponses
import RamkolFX.Protocol.StateResponses

/-!
# Control protocol: what the response decoders accept

Each decoder against the payloads its encoder writes.  The decoders of status
and lists stop reading behind the last field they want, and every flag byte
but zero is read as set; apart from that a decoder accepts exactly what the
encoder of its message writes.
-/

namespace RamkolFX

open Support

/-- The payload of an encoded message. -/
def framePayload (frame : List UInt8) : List UInt8 := frame.drop headerSize

theorem framePayload_encodeMessage (op : Opcode) (payload : List UInt8) :
    framePayload (encodeMessage op payload) = payload := rfl

/-! ## Lists -/

/-- A string's bytes are read as they are written, and nothing else is. -/
theorem readString_spells :
    OffsetReader.Spells readString stringBytes fun value =>
      value.length ≤ 0xFFFF := by
  intro payload offset value next h
  rw [readString] at h
  split at h
  · cases h
  · obtain ⟨len, hlen, h⟩ := exists_of_bind_eq_ok h
    simp only at h
    split at h
    · cases h
    · obtain ⟨text, htext, h⟩ := exists_of_bind_eq_ok h
      obtain ⟨rfl, rfl⟩ := Prod.mk.inj (Option.some.inj (Except.ok.inj h))
      obtain ⟨hlength, hprefix⟩ := prefix_of_bytesAt htext
      have hword := len.toNat_lt
      have hfits : text.length ≤ 0xFFFF := by omega
      have hbytes : stringBytes text = bytesOfUInt16 len ++ text := by
        rw [stringBytes_of_length_le hfits, hlength, UInt16.ofNat_toNat]
      refine ⟨hfits, ?_, ?_⟩
      · rw [hbytes, List.length_append, length_bytesOfUInt16, hlength]
        omega
      · rw [hbytes]
        exact prefix_drop_append (prefix_of_uint16At hlen) rfl hprefix

/-- What a list decoder accepts, against its encoder.  `Fits` says that the
lengths of an entry's strings can be written. -/
structure AcceptsList {α : Type} (Fits : α → Prop) (entryBytes : α → List UInt8)
    (encode : List α → List UInt8)
    (decode : List UInt8 → Checked (Option (List α))) : Prop where
  /-- A payload is accepted as some entries exactly if it begins with their
  count and their bytes. -/
  accepts : ∀ payload entries, decode payload = .ok (some entries) ↔
    entries.length < 2 ^ 16 ∧ (∀ a ∈ entries, Fits a) ∧
      listLayout entryBytes entries <+: payload
  /-- Within the payload limit, these are the bytes that the encoder writes. -/
  written : ∀ entries, (listLayout entryBytes entries).length ≤ maxPayloadSize →
    framePayload (encode entries) = listLayout entryBytes entries

section

variable {α : Type} {Fits : α → Prop} {entryBytes : α → List UInt8}

theorem decodeListResponse_eq_some_iff {entry : OffsetReader α}
    (hspells : entry.Spells entryBytes Fits)
    (hreads : ∀ a, Fits a → entry.Reads (entryBytes a) a)
    (payload : List UInt8) (entries : List α) :
    decodeListResponse entry payload = .ok (some entries) ↔
      entries.length < 2 ^ 16 ∧ (∀ a ∈ entries, Fits a) ∧
        listLayout entryBytes entries <+: payload := by
  constructor
  · intro h
    rw [decodeListResponse] at h
    split at h
    · cases h
    · obtain ⟨count, hcount, h⟩ := exists_of_bind_eq_ok h
      obtain ⟨result, hread, h⟩ := exists_of_bind_eq_ok h
      cases result with
      | none => cases h
      | some found =>
          obtain ⟨entries', next⟩ := found
          obtain rfl := Option.some.inj (Except.ok.inj h)
          obtain ⟨⟨hlength, hfits⟩, -, hprefix⟩ :=
            hspells.times count.toNat payload 2 _ next hread
          have hword := count.toNat_lt
          refine ⟨by omega, hfits, ?_⟩
          rw [listLayout, hlength, UInt16.ofNat_toNat]
          exact prefix_drop_append (i := 0) (prefix_of_uint16At hcount) rfl hprefix
  · rintro ⟨hlength, hfits, after, rfl⟩
    have hcount : (UInt16.ofNat entries.length).toNat = entries.length := by
      rw [UInt16.toNat_ofNat']
      exact Nat.mod_eq_of_lt hlength
    have hentries := OffsetReader.Reads.times fun a ha => hreads a (hfits a ha)
    have hfront := uint16At_append [] (entries.flatMap entryBytes ++ after)
      (UInt16.ofNat entries.length)
    have htimes := hentries.complete
      (bytesOfUInt16 (UInt16.ofNat entries.length)) after
    simp only [List.nil_append, List.length_nil] at hfront
    simp only [length_bytesOfUInt16] at htimes
    have hcounted : ¬ (listLayout entryBytes entries ++ after).length < 2 := by
      simp only [listLayout, List.length_append, length_bytesOfUInt16]
      omega
    rw [decodeListResponse, if_neg hcounted]
    simp only [listLayout, List.append_assoc, hfront, ok_bind, hcount, htimes]
    rfl

theorem framePayload_encodeListResponse (op : Opcode) {entries : List α}
    (h : (listLayout entryBytes entries).length ≤ maxPayloadSize) :
    framePayload (encodeListResponse op entryBytes entries) =
      listLayout entryBytes entries := by
  obtain ⟨kept, hkept, hframe⟩ := encodeListResponse_spec op entryBytes entries
  rw [length_listLayout] at h
  have hwhole := hkept.longest entries (List.prefix_refl _) h
  rw [hframe, framePayload_encodeMessage,
    hkept.isPrefix.eq_of_length_le hwhole.length_le]

end

/-- The strings of a device can be written. -/
def AudioDeviceInfo.Fits (device : AudioDeviceInfo) : Prop :=
  device.name.length ≤ 0xFFFF ∧ device.description.length ≤ 0xFFFF

/-- The strings of a stream can be written. -/
def ContentStreamInfo.Fits (stream : ContentStreamInfo) : Prop :=
  stream.appName.length ≤ 0xFFFF ∧ stream.mediaName.length ≤ 0xFFFF

theorem acceptsList_devices :
    AcceptsList AudioDeviceInfo.Fits deviceEntryBytes encodeDeviceListResponse
      decodeDeviceListResponse where
  accepts := decodeListResponse_eq_some_iff
    (readString_spells.pair readString_spells (fun _ _ => rfl)
      fun _ _ hname hdescription => ⟨hname, hdescription⟩)
    fun _ h => stringPair_reads AudioDeviceInfo.mk h.1 h.2
  written := by
    intro devices h
    rw [encodeDeviceListResponse, deviceEntryBytes_eq]
    exact framePayload_encodeListResponse _ h

theorem acceptsList_streams :
    AcceptsList ContentStreamInfo.Fits streamEntryBytes
      encodeContentStreamListResponse decodeContentStreamListResponse where
  accepts := decodeListResponse_eq_some_iff
    (readString_spells.pair readString_spells (fun _ _ => rfl)
      fun _ _ happ hmedia => ⟨happ, hmedia⟩)
    fun _ h => stringPair_reads ContentStreamInfo.mk h.1 h.2
  written := by
    intro streams h
    rw [encodeContentStreamListResponse, streamEntryBytes_eq]
    exact framePayload_encodeListResponse _ h

/-- The catalog responses: display names under an opcode of their own. -/
theorem acceptsList_names (op : Opcode) :
    AcceptsList (fun name : ByteString => name.length ≤ 0xFFFF) stringBytes
      (encodeListResponse op (appendString []))
      (decodeListResponse readString) where
  accepts := decodeListResponse_eq_some_iff readString_spells
    fun _ h => readString_reads h
  written := by
    intro names h
    rw [appendString_nil]
    exact framePayload_encodeListResponse op h

/-! ## Flags -/

/-- The payload with every flag byte but zero read as `1`. -/
def withFlags (flags : List ℕ) (payload : List UInt8) : List UInt8 :=
  payload.mapIdx fun i b => if i ∈ flags ∧ b ≠ 0 then 1 else b

section

variable {flags : List ℕ} {payload : List UInt8} {i : ℕ}

@[simp] theorem length_withFlags :
    (withFlags flags payload).length = payload.length := by
  simp [withFlags]

theorem getElem?_withFlags : (withFlags flags payload)[i]? =
    payload[i]?.map fun b => if i ∈ flags ∧ b ≠ 0 then 1 else b := by
  simp [withFlags]

theorem byteAt_withFlags (h : i ∉ flags) :
    byteAt (withFlags flags payload) i = byteAt payload i := by
  rw [byteAt, byteAt, getElem?_withFlags]
  cases payload[i]? <;> simp [h]

theorem readBool_withFlags :
    readBool (withFlags flags payload) i = readBool payload i := by
  rw [readBool, readBool, byteAt, byteAt, getElem?_withFlags]
  cases payload[i]? with
  | none => rfl
  | some b =>
      by_cases h : i ∈ flags ∧ b ≠ 0
      · simp [h]
      · simp [h]

theorem readFloatBE_withFlags (h : ∀ k < 4, i + k ∉ flags) :
    readFloatBE (withFlags flags payload) i = readFloatBE payload i := by
  have h₀ : i ∉ flags := h 0 (by decide)
  rw [readFloatBE, readFloatBE, uint32At, uint32At, byteAt_withFlags h₀,
    byteAt_withFlags (h 1 (by decide)), byteAt_withFlags (h 2 (by decide)),
    byteAt_withFlags (h 3 (by decide))]

/-- Behind the last flag nothing is changed. -/
theorem drop_withFlags (h : ∀ j ∈ flags, j < i) :
    (withFlags flags payload).drop i = payload.drop i := by
  apply List.ext_getElem?
  intro k
  have hk : i + k ∉ flags := fun hmem => by
    have hlt := h _ hmem
    omega
  rw [List.getElem?_drop, List.getElem?_drop, getElem?_withFlags]
  cases payload[i + k]? <;> simp [hk]

theorem readString_withFlags (h : ∀ j ∈ flags, j < i) :
    readString (withFlags flags payload) i = readString payload i := by
  have hbehind : ∀ k, i + k ∉ flags := fun k hmem => by
    have hlt := h _ hmem
    omega
  have hfirst : i ∉ flags := hbehind 0
  have hlength : uint16At (withFlags flags payload) i = uint16At payload i := by
    rw [uint16At, uint16At, byteAt_withFlags hfirst,
      byteAt_withFlags (hbehind 1)]
  have htext : ∀ len, bytesAt (withFlags flags payload) (i + 2) len =
      bytesAt payload (i + 2) len := by
    intro len
    rw [bytesAt, bytesAt, length_withFlags,
      drop_withFlags fun j hj => (h j hj).trans (by omega)]
  simp only [readString, length_withFlags, hlength, htext]

theorem prefix_of_readFloatBE {value : Binary32}
    (h : readFloatBE payload i = .ok value) :
    floatBytes value <+: payload.drop i := by
  cases hword : uint32At payload i with
  | error fault => simp [readFloatBE, hword] at h
  | ok w =>
      rw [readFloatBE, hword, map_ok] at h
      obtain rfl := Except.ok.inj h
      exact prefix_of_uint32At hword

/-- A flag byte that is `0` or `1` is the byte of the flag it is read as. -/
theorem prefix_of_readBool (hi : i ∈ flags) {value : Bool}
    (h : readBool (withFlags flags payload) i = .ok value) :
    boolBytes value <+: (withFlags flags payload).drop i := by
  cases hbyte : byteAt (withFlags flags payload) i with
  | error fault => simp [readBool, hbyte] at h
  | ok b =>
      rw [readBool, hbyte, map_ok] at h
      obtain rfl := Except.ok.inj h
      have hvalue : boolBytes (decide (b ≠ 0)) = [b] := by
        rw [byteAt_eq_ok_iff, getElem?_withFlags] at hbyte
        obtain ⟨b', -, rfl⟩ := Option.map_eq_some_iff.mp hbyte
        by_cases hzero : b' = 0
        · simp [boolBytes, hzero]
        · simp [boolBytes, hi, hzero]
      rw [hvalue]
      exact prefix_of_byteAt hbyte

end

theorem readArray_congr {α : Type} {read read' : ℕ → Checked α} {n : ℕ}
    (h : ∀ i < n, read i = read' i) : readArray read n = readArray read' n := by
  induction n with
  | zero => rfl
  | succ n ih =>
      rw [readArray, readArray, ih fun i hi => h i (by omega), h n (by omega)]

/-! ## Status -/

/-- Where a status has its mutes, the test noise and the near-field flag. -/
def statusFlags : List ℕ :=
  (List.range speakerCount).map (1 + 4 * speakerCount + ·) ++
    [1 + 4 * speakerCount + speakerCount, statusFixedSize - 1]

theorem mem_statusFlags_of_mute {k : ℕ} (hk : k < speakerCount) :
    1 + 4 * speakerCount + k ∈ statusFlags :=
  List.mem_append_left _ (List.mem_map_of_mem (List.mem_range.mpr hk))

theorem decodeStatusResponse_withFlags (payload : List UInt8) :
    decodeStatusResponse (withFlags statusFlags payload) =
      decodeStatusResponse payload := by
  have hmode : byteAt (withFlags statusFlags payload) 0 = byteAt payload 0 :=
    byteAt_withFlags (by decide)
  have hazimuths : readArray
      (fun i => readFloatBE (withFlags statusFlags payload) (1 + 4 * i))
      speakerCount =
      readArray (fun i => readFloatBE payload (1 + 4 * i)) speakerCount :=
    readArray_congr fun i hi => readFloatBE_withFlags (by decide +revert)
  have hindex : byteAt (withFlags statusFlags payload)
      (1 + 4 * speakerCount + speakerCount + 1) =
      byteAt payload (1 + 4 * speakerCount + speakerCount + 1) :=
    byteAt_withFlags (by decide)
  have hdistances : readArray
      (fun i => readFloatBE (withFlags statusFlags payload)
        (1 + 4 * speakerCount + speakerCount + 2 + 4 * i)) speakerCount =
      readArray (fun i => readFloatBE payload
        (1 + 4 * speakerCount + speakerCount + 2 + 4 * i)) speakerCount :=
    readArray_congr fun i hi => readFloatBE_withFlags (by decide +revert)
  have hname : readString (withFlags statusFlags payload) statusFixedSize =
      readString payload statusFixedSize :=
    readString_withFlags (by decide)
  simp only [decodeStatusResponse, length_withFlags, hmode, hazimuths,
    readBool_withFlags, hindex, hdistances, hname]

/-- A status is read from the bytes it is written as. -/
theorem prefix_of_decodeStatusResponse {payload : List UInt8} {status : Status}
    (h : decodeStatusResponse (withFlags statusFlags payload) =
      .ok (some status)) :
    status.mode.IsValid ∧ status.outputDeviceName.length ≤ 0xFFFF ∧
      statusFixedBytes status ++ stringBytes status.outputDeviceName <+:
        withFlags statusFlags payload := by
  rw [decodeStatusResponse] at h
  split at h
  · cases h
  · obtain ⟨mode, hmode, h⟩ := exists_of_bind_eq_ok h
    split at h
    · cases h
    · next hvalid =>
      obtain ⟨azimuths, hazimuths, h⟩ := exists_of_bind_eq_ok h
      obtain ⟨mutes, hmutes, h⟩ := exists_of_bind_eq_ok h
      obtain ⟨noise, hnoise, h⟩ := exists_of_bind_eq_ok h
      obtain ⟨index, hindex, h⟩ := exists_of_bind_eq_ok h
      obtain ⟨distances, hdistances, h⟩ := exists_of_bind_eq_ok h
      obtain ⟨near, hnear, h⟩ := exists_of_bind_eq_ok h
      obtain ⟨result, hname, h⟩ := exists_of_bind_eq_ok h
      cases result with
      | none => cases h
      | some named =>
          obtain ⟨name, next⟩ := named
          obtain rfl := Option.some.inj (Except.ok.inj h)
          obtain ⟨hfits, -, hnamePrefix⟩ := readString_spells _ _ _ _ hname
          refine ⟨UInt8.not_lt.mp hvalid, hfits, ?_⟩
          have hmutesPrefix : (List.ofFn mutes).flatMap boolBytes <+:
              (withFlags statusFlags payload).drop (1 + 4 * speakerCount) := by
            refine prefix_of_readArray length_boolBytes (fun k hk a ha => ?_) hmutes
            rw [Nat.one_mul]
            exact prefix_of_readBool (mem_statusFlags_of_mute hk) ha
          have hazimuthsPrefix : (List.ofFn azimuths).flatMap floatBytes <+:
              (withFlags statusFlags payload).drop 1 :=
            prefix_of_readArray length_floatBytes
              (fun k hk a ha => prefix_of_readFloatBE ha) hazimuths
          have hdistancesPrefix : (List.ofFn distances).flatMap floatBytes <+:
              (withFlags statusFlags payload).drop
                (1 + 4 * speakerCount + speakerCount + 2) :=
            prefix_of_readArray length_floatBytes
              (fun k hk a ha => prefix_of_readFloatBE ha) hdistances
          have hnoisePrefix : boolBytes noise <+:
              (withFlags statusFlags payload).drop
                (1 + 4 * speakerCount + speakerCount) :=
            prefix_of_readBool (by decide) hnoise
          have hnearPrefix : boolBytes near <+:
              (withFlags statusFlags payload).drop
                (1 + 4 * speakerCount + speakerCount + 2 + 4 * speakerCount) :=
            prefix_of_readBool (by decide) hnear
          simp only [statusFixedBytes, List.append_assoc]
          -- field by field, each behind the one before it
          refine prefix_drop_append (i := 0) (prefix_of_byteAt hmode) rfl ?_
          refine prefix_drop_append hazimuthsPrefix
            (by rw [length_floatArray]) ?_
          refine prefix_drop_append hmutesPrefix (by rw [length_boolArray]) ?_
          refine prefix_drop_append hnoisePrefix rfl ?_
          refine prefix_drop_append (prefix_of_byteAt hindex) rfl ?_
          refine prefix_drop_append hdistancesPrefix
            (by rw [length_floatArray]) ?_
          exact prefix_drop_append hnearPrefix rfl hnamePrefix

/-- A payload is accepted as a status exactly if the mode is a named one, the
length of the name can be written, and, flags apart, the payload begins with
what the encoder writes. -/
theorem decodeStatusResponse_eq_some_iff (payload : List UInt8)
    (status : Status) :
    decodeStatusResponse payload = .ok (some status) ↔
      status.mode.IsValid ∧ status.outputDeviceName.length ≤ 0xFFFF ∧
        framePayload (encodeStatusResponse status) <+:
          withFlags statusFlags payload := by
  rw [encodeStatusResponse_eq, framePayload_encodeMessage,
    ← decodeStatusResponse_withFlags payload]
  constructor
  · exact prefix_of_decodeStatusResponse
  · rintro ⟨hmode, hname, after, hafter⟩
    rw [← hafter, List.append_assoc]
    exact decodeStatusResponse_append hmode hname after

/-! ## Bass enhancer and EQ bands -/

/-- Where the bass enhancer settings have their flag. -/
def bassEnhancerFlags : List ℕ := [0]

theorem eq_of_prefix_drop_zero {xs payload : List UInt8}
    (h : xs <+: payload.drop 0) (hlength : xs.length = payload.length) :
    xs = payload :=
  List.IsPrefix.eq_of_length h hlength

/-- A payload is accepted as some settings exactly if, the flag apart, it is
what the encoder writes for them. -/
theorem decodeBassEnhancerStateResponse_eq_some_iff (payload : List UInt8)
    (settings : BassEnhancerSettings) :
    decodeBassEnhancerStateResponse payload = .ok (some settings) ↔
      framePayload (encodeBassEnhancerStateResponse settings) =
        withFlags bassEnhancerFlags payload := by
  have hread : readBassEnhancerSettings (withFlags bassEnhancerFlags payload) 0 =
      readBassEnhancerSettings payload 0 := by
    simp only [readBassEnhancerSettings, readBool_withFlags]
    rw [readFloatBE_withFlags (by decide), readFloatBE_withFlags (by decide),
      readFloatBE_withFlags (by decide)]
  have hdecode : decodeBassEnhancerStateResponse
      (withFlags bassEnhancerFlags payload) =
      decodeBassEnhancerStateResponse payload := by
    simp only [decodeBassEnhancerStateResponse, length_withFlags, hread]
  rw [encodeBassEnhancerStateResponse_eq, framePayload_encodeMessage, ← hdecode]
  constructor
  · intro h
    rw [decodeBassEnhancerStateResponse] at h
    split at h
    · cases h
    · next hlength =>
      obtain ⟨settings', hsettings, h⟩ := exists_of_bind_eq_ok h
      obtain rfl := Option.some.inj (Except.ok.inj h)
      obtain ⟨bEnabled, henabled, hsettings⟩ := exists_of_bind_eq_ok hsettings
      obtain ⟨cutoff, hcutoff, hsettings⟩ := exists_of_bind_eq_ok hsettings
      obtain ⟨drive, hdrive, hsettings⟩ := exists_of_bind_eq_ok hsettings
      obtain ⟨mix, hmix, hsettings⟩ := exists_of_bind_eq_ok hsettings
      obtain rfl := Except.ok.inj hsettings
      apply eq_of_prefix_drop_zero
      · refine prefix_drop_append (prefix_of_readBool (by decide) henabled) rfl ?_
        refine prefix_drop_append (prefix_of_readFloatBE hcutoff) rfl ?_
        exact prefix_drop_append (prefix_of_readFloatBE hdrive) rfl
          (prefix_of_readFloatBE hmix)
      · rw [length_bassEnhancerBytes]
        exact (not_not.mp hlength).symm
  · intro h
    rw [← h]
    exact decodeBassEnhancerStateResponse_bytes settings

theorem prefix_of_readEqBand {payload : List UInt8} {i : ℕ} {band : EqBand}
    (h : readEqBand payload i = .ok band) :
    eqBandBytes band <+: payload.drop i := by
  obtain ⟨filterType, hfilterType, h⟩ := exists_of_bind_eq_ok h
  obtain ⟨frequency, hfrequency, h⟩ := exists_of_bind_eq_ok h
  obtain ⟨gain, hgain, h⟩ := exists_of_bind_eq_ok h
  obtain ⟨q, hq, h⟩ := exists_of_bind_eq_ok h
  obtain rfl := Except.ok.inj h
  refine prefix_drop_append (prefix_of_byteAt hfilterType) rfl ?_
  refine prefix_drop_append (prefix_of_readFloatBE hfrequency) rfl ?_
  exact prefix_drop_append (prefix_of_readFloatBE hgain) rfl
    (prefix_of_readFloatBE hq)

/-- A payload is accepted as some bands exactly if it is what the encoder
writes for them. -/
theorem decodeHwEqStateResponse_eq_some_iff (payload : List UInt8)
    (bands : Fin maxEqBands → EqBand) :
    decodeHwEqStateResponse payload = .ok (some bands) ↔
      framePayload (encodeHwEqStateResponse bands) = payload := by
  rw [encodeHwEqStateResponse_eq, framePayload_encodeMessage]
  constructor
  · intro h
    rw [decodeHwEqStateResponse] at h
    split at h
    · cases h
    · next hlength =>
      obtain ⟨bands', hbands, h⟩ := exists_of_bind_eq_ok h
      obtain rfl := Option.some.inj (Except.ok.inj h)
      apply eq_of_prefix_drop_zero
      · refine prefix_of_readArray length_eqBandBytes (fun k hk a ha => ?_) hbands
        rw [Nat.zero_add, Nat.mul_comm]
        exact prefix_of_readEqBand ha
      · rw [length_hwEqStateBytes]
        exact (not_not.mp hlength).symm
  · rintro rfl
    exact decodeHwEqStateResponse_bytes bands

/-! ## All response decoders -/

/-- What each response decoder accepts, against the encoder of its message. -/
theorem responseDecoders_accept :
    (∀ payload status, decodeStatusResponse payload = .ok (some status) ↔
      status.mode.IsValid ∧ status.outputDeviceName.length ≤ 0xFFFF ∧
        framePayload (encodeStatusResponse status) <+:
          withFlags statusFlags payload) ∧
    AcceptsList AudioDeviceInfo.Fits deviceEntryBytes encodeDeviceListResponse
      decodeDeviceListResponse ∧
    AcceptsList (fun name : ByteString => name.length ≤ 0xFFFF) stringBytes
      encodeHrtfCatalogResponse decodeHrtfCatalogResponse ∧
    (∀ payload bands, decodeHwEqStateResponse payload = .ok (some bands) ↔
      framePayload (encodeHwEqStateResponse bands) = payload) ∧
    (∀ payload settings,
      decodeBassEnhancerStateResponse payload = .ok (some settings) ↔
        framePayload (encodeBassEnhancerStateResponse settings) =
          withFlags bassEnhancerFlags payload) ∧
    AcceptsList ContentStreamInfo.Fits streamEntryBytes
      encodeContentStreamListResponse decodeContentStreamListResponse ∧
    AcceptsList (fun name : ByteString => name.length ≤ 0xFFFF) stringBytes
      encodeEqPresetCatalogResponse decodeEqPresetCatalogResponse :=
  ⟨decodeStatusResponse_eq_some_iff, acceptsList_devices, acceptsList_names _,
    decodeHwEqStateResponse_eq_some_iff,
    decodeBassEnhancerStateResponse_eq_some_iff, acceptsList_streams,
    acceptsList_names _⟩

end RamkolFX
