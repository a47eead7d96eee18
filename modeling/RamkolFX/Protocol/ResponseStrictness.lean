import RamkolFX.Protocol.ResponseBounds
import RamkolFX.Protocol.ResponseGrammar

/-!
# Control protocol: where the response decoders are strict

A strict decoder returns a value exactly of the payloads its encoder writes for
values with named enumerators.  The response decoders are strict only on some
payloads: bytes behind a status or a list, a flag byte above `1`, a filter type
without a name and a list above the payload limit get past them.
-/

namespace RamkolFX

open Support

/-- At the payload the decoder is strict. -/
def StrictAt {α : Type} (decode : List UInt8 → Checked (Option α))
    (encode : α → List UInt8) (InRange : α → Prop) (payload : List UInt8) :
    Prop :=
  (∃ a, decode payload = .ok (some a)) ↔
    ∃ a, InRange a ∧ framePayload (encode a) = payload

/-- The flag bytes, as far as there are any, are `0` or `1`. -/
def PlainFlags (flags : List ℕ) (payload : List UInt8) : Prop :=
  ∀ i ∈ flags, ∀ b, payload[i]? = some b → b = 0 ∨ b = 1

theorem withFlags_eq_self_iff {flags : List ℕ} {payload : List UInt8} :
    withFlags flags payload = payload ↔ PlainFlags flags payload := by
  constructor
  · intro h i hi b hb
    have hkept : (withFlags flags payload)[i]? = _ := getElem?_withFlags
    rw [h, hb, Option.map_some, Option.some.injEq] at hkept
    by_cases hzero : b = 0
    · exact Or.inl hzero
    · rw [if_pos ⟨hi, hzero⟩] at hkept
      exact Or.inr hkept
  · intro h
    apply List.ext_getElem?
    intro i
    rw [getElem?_withFlags]
    cases hb : payload[i]? with
    | none => rfl
    | some b =>
        rw [Option.map_some, Option.some.injEq]
        split
        · rename_i hflag
          exact ((h i hflag.1 b hb).resolve_left hflag.2).symm
        · rfl

/-! ## Lists -/

/-- Should the payload begin with the bytes of some entries, it ends with them
and is within the limit. -/
def ListExact {α : Type} (Fits : α → Prop) (entryBytes : α → List UInt8)
    (payload : List UInt8) : Prop :=
  ∀ entries, entries.length < 2 ^ 16 → (∀ a ∈ entries, Fits a) →
    listLayout entryBytes entries <+: payload →
    listLayout entryBytes entries = payload ∧ payload.length ≤ maxPayloadSize

section

variable {α : Type} {Fits : α → Prop} {entryBytes : α → List UInt8}
  {encode : List α → List UInt8}
  {decode : List UInt8 → Checked (Option (List α))} {op : Opcode}

/-- What the encoder writes is the layout of entries that are read back. -/
theorem AcceptsList.exists_of_written
    (h : AcceptsList Fits entryBytes encode decode) {entries : List α}
    (hdelivered : ListDelivered op entryBytes decode entries (encode entries)) :
    ∃ kept, decode (framePayload (encode entries)) = .ok (some kept) ∧
      listLayout entryBytes kept = framePayload (encode entries) ∧
      (listLayout entryBytes kept).length ≤ maxPayloadSize := by
  obtain ⟨payload, kept, hframed, hkept, hdecode, htruncated⟩ :=
    hdelivered.delivered
  have hpayload : framePayload (encode entries) = payload := hframed.rest
  obtain ⟨hlength, hfits, hbegins⟩ := (h.accepts payload kept).mp hdecode
  have hlayout : listLayout entryBytes kept = payload := by
    by_contra hne
    have hread := (h.accepts _ kept).mpr ⟨hlength, hfits, List.prefix_refl _⟩
    exact absurd (hread.symm.trans (htruncated _ hbegins hne)) (by simp)
  rw [hpayload]
  refine ⟨kept, hdecode, hlayout, ?_⟩
  rw [length_listLayout]
  exact hkept.fits

theorem AcceptsList.strictAt_iff (h : AcceptsList Fits entryBytes encode decode)
    (hdelivered : ∀ entries,
      ListDelivered op entryBytes decode entries (encode entries))
    (payload : List UInt8) :
    StrictAt decode encode (fun _ => True) payload ↔
      ListExact Fits entryBytes payload := by
  constructor
  · intro hstrict entries hlength hfits hbegins
    have hread := (h.accepts payload entries).mpr ⟨hlength, hfits, hbegins⟩
    obtain ⟨written, -, rfl⟩ := hstrict.mp ⟨entries, hread⟩
    obtain ⟨kept, hdecode, hlayout, hfit⟩ :=
      h.exists_of_written (hdelivered written)
    obtain rfl : kept = entries :=
      Option.some.inj (Except.ok.inj (hdecode.symm.trans hread))
    exact ⟨hlayout, hlayout ▸ hfit⟩
  · intro hexact
    constructor
    · rintro ⟨entries, hread⟩
      obtain ⟨hlength, hfits, hbegins⟩ := (h.accepts payload entries).mp hread
      obtain ⟨hlayout, hlimit⟩ := hexact entries hlength hfits hbegins
      rw [← hlayout] at hlimit ⊢
      exact ⟨entries, trivial, h.written entries hlimit⟩
    · rintro ⟨entries, -, rfl⟩
      obtain ⟨kept, hdecode, -⟩ := h.exists_of_written (hdelivered entries)
      exact ⟨kept, hdecode⟩

end

/-! ## Status -/

/-- Should the mode be a named one and the name as long as it is said to be, the
payload ends with the name and has plain flags. -/
def StatusExact (payload : List UInt8) : Prop :=
  ∀ mode len, byteAt payload 0 = .ok mode → SpatialMode.IsValid ⟨mode⟩ →
    uint16At payload statusFixedSize = .ok len →
    statusFixedSize + 2 + len.toNat ≤ payload.length →
    payload.length = statusFixedSize + 2 + len.toNat ∧
      PlainFlags statusFlags payload

theorem uint16At_withFlags {flags : List ℕ} {payload : List UInt8} {i : ℕ}
    (h₀ : i ∉ flags) (h₁ : i + 1 ∉ flags) :
    uint16At (withFlags flags payload) i = uint16At payload i := by
  rw [uint16At, uint16At, byteAt_withFlags h₀, byteAt_withFlags h₁]

/-- The fields of a status that decide whether it is read. -/
theorem fields_of_decodeStatusResponse {payload : List UInt8} {status : Status}
    (h : decodeStatusResponse payload = .ok (some status)) :
    byteAt payload 0 = .ok status.mode.toByte ∧ status.mode.IsValid ∧
      uint16At payload statusFixedSize =
        .ok (UInt16.ofNat status.outputDeviceName.length) ∧
      status.outputDeviceName.length ≤ 0xFFFF ∧
      statusFixedSize + 2 + status.outputDeviceName.length ≤ payload.length := by
  obtain ⟨hmode, hname, after, hafter⟩ :=
    (decodeStatusResponse_eq_some_iff payload status).mp h
  rw [encodeStatusResponse_eq, framePayload_encodeMessage,
    stringBytes_of_length_le hname] at hafter
  have hlength := congrArg List.length hafter
  simp only [List.length_append, length_statusFixedBytes,
    length_bytesOfUInt16, length_withFlags] at hlength
  refine ⟨?_, hmode, ?_, hname, by omega⟩
  · rw [← @byteAt_withFlags statusFlags _ _ (by decide), ← hafter]
    rfl
  · rw [← @uint16At_withFlags statusFlags _ _ (by decide) (by decide),
      ← hafter, List.append_assoc, List.append_assoc,
      ← length_statusFixedBytes status]
    exact uint16At_append _ _ _

/-- A string is read as soon as there are as many bytes as it is said to
have. -/
theorem readString_ne_none {payload : List UInt8} {offset : ℕ} {len : UInt16}
    (hlen : uint16At payload offset = .ok len)
    (hinside : offset + 2 + len.toNat ≤ payload.length) :
    readString payload offset ≠ .ok none := by
  obtain ⟨text, htext, -⟩ := bytesAt_yields hinside
  rw [readString, if_neg (by omega), hlen, ok_bind]
  simp only
  rw [if_neg (by omega), htext]
  exact fun h => by cases h

/-- A status whose mode is a named one is refused for its name only. -/
theorem readString_of_decodeStatusResponse {payload : List UInt8}
    (h : decodeStatusResponse payload = .ok none)
    (hsize : statusFixedSize ≤ payload.length) {mode : UInt8}
    (hmode : byteAt payload 0 = .ok mode) (hvalid : SpatialMode.IsValid ⟨mode⟩) :
    readString payload statusFixedSize = .ok none := by
  rw [decodeStatusResponse, if_neg (by omega), hmode, ok_bind,
    if_neg (UInt8.not_lt.mpr hvalid)] at h
  obtain ⟨azimuths, -, h⟩ := exists_of_bind_eq_ok h
  obtain ⟨mutes, -, h⟩ := exists_of_bind_eq_ok h
  obtain ⟨noise, -, h⟩ := exists_of_bind_eq_ok h
  obtain ⟨index, -, h⟩ := exists_of_bind_eq_ok h
  obtain ⟨distances, -, h⟩ := exists_of_bind_eq_ok h
  obtain ⟨near, -, h⟩ := exists_of_bind_eq_ok h
  obtain ⟨result, hname, h⟩ := exists_of_bind_eq_ok h
  cases result with
  | none => exact hname
  | some named => cases h

theorem exists_decodeStatusResponse {payload : List UInt8} {mode : UInt8}
    {len : UInt16} (hmode : byteAt payload 0 = .ok mode)
    (hvalid : SpatialMode.IsValid ⟨mode⟩)
    (hlen : uint16At payload statusFixedSize = .ok len)
    (hinside : statusFixedSize + 2 + len.toNat ≤ payload.length) :
    ∃ status, decodeStatusResponse payload = .ok (some status) := by
  obtain ⟨result, hresult, -⟩ := answersEvery_statusResponse payload
  cases result with
  | some status => exact ⟨status, hresult⟩
  | none =>
      have hname := readString_of_decodeStatusResponse hresult (by omega) hmode
        hvalid
      exact absurd hname (readString_ne_none hlen hinside)

/-- A status is written exactly if it is read from a payload that ends with its
name and has plain flags. -/
theorem written_status_iff {payload : List UInt8} {status : Status}
    (h : decodeStatusResponse payload = .ok (some status)) :
    framePayload (encodeStatusResponse status) = payload ↔
      payload.length =
          statusFixedSize + 2 + status.outputDeviceName.length ∧
        PlainFlags statusFlags payload := by
  obtain ⟨-, hname, hbegins⟩ :=
    (decodeStatusResponse_eq_some_iff payload status).mp h
  have hlength : (framePayload (encodeStatusResponse status)).length =
      statusFixedSize + 2 + status.outputDeviceName.length := by
    rw [encodeStatusResponse_eq, framePayload_encodeMessage,
      List.length_append, length_statusFixedBytes, length_stringBytes,
      Nat.min_eq_left hname, Nat.add_assoc]
  rw [← withFlags_eq_self_iff]
  constructor
  · intro hwritten
    rw [hwritten] at hlength hbegins
    refine ⟨hlength, ?_⟩
    exact (hbegins.eq_of_length length_withFlags.symm).symm
  · rintro ⟨hend, hplain⟩
    rw [hplain] at hbegins
    exact hbegins.eq_of_length (hlength.trans hend.symm)

/-- What is written for a named mode is read, though perhaps as another
status, a name above 65535 bytes being cut. -/
theorem exists_decode_of_written {status : Status} (hmode : status.mode.IsValid) :
    ∃ other, decodeStatusResponse (framePayload (encodeStatusResponse status)) =
        .ok (some other) ∧
      framePayload (encodeStatusResponse other) =
        framePayload (encodeStatusResponse status) := by
  let other : Status :=
    { status with outputDeviceName := status.outputDeviceName.take 0xFFFF }
  have hfits : other.outputDeviceName.length ≤ 0xFFFF := by
    simp [other]
  have hbytes : stringBytes other.outputDeviceName =
      stringBytes status.outputDeviceName := by
    simp [other, stringBytes, List.take_take, List.length_take, Nat.min_comm]
  have hsame : framePayload (encodeStatusResponse other) =
      framePayload (encodeStatusResponse status) := by
    rw [encodeStatusResponse_eq, encodeStatusResponse_eq,
      framePayload_encodeMessage, framePayload_encodeMessage, hbytes]
    rfl
  refine ⟨other, ?_, hsame⟩
  rw [← hsame, encodeStatusResponse_eq, framePayload_encodeMessage]
  exact decodeStatusResponse_bytes hmode hfits

theorem strictAt_status_iff (payload : List UInt8) :
    StrictAt decodeStatusResponse encodeStatusResponse
        (fun status => status.mode.IsValid) payload ↔
      StatusExact payload := by
  constructor
  · intro hstrict mode len hmode hvalid hlen hinside
    obtain ⟨status, hread⟩ :=
      exists_decodeStatusResponse hmode hvalid hlen hinside
    obtain ⟨written, hwritten, rfl⟩ := hstrict.mp ⟨status, hread⟩
    obtain ⟨other, hother, hsame⟩ := exists_decode_of_written hwritten
    obtain ⟨-, -, hlen', hname, -⟩ := fields_of_decodeStatusResponse hother
    have hcount : len.toNat = other.outputDeviceName.length := by
      rw [Except.ok.inj (hlen.symm.trans hlen'), UInt16.toNat_ofNat']
      exact Nat.mod_eq_of_lt (by omega)
    rw [hcount]
    exact (written_status_iff hother).mp hsame
  · intro hexact
    constructor
    · rintro ⟨status, hread⟩
      obtain ⟨hmode, hvalid, hlen, hname, hinside⟩ :=
        fields_of_decodeStatusResponse hread
      have hcount : (UInt16.ofNat status.outputDeviceName.length).toNat =
          status.outputDeviceName.length := by
        rw [UInt16.toNat_ofNat']
        exact Nat.mod_eq_of_lt (by omega)
      have hend := hexact _ _ hmode hvalid hlen (by rwa [hcount])
      rw [hcount] at hend
      exact ⟨status, hvalid, (written_status_iff hread).mpr hend⟩
    · rintro ⟨status, hvalid, rfl⟩
      obtain ⟨other, hother, -⟩ := exists_decode_of_written hvalid
      exact ⟨other, hother⟩

/-! ## EQ bands and bass enhancer -/

/-- Should the payload have the length of the bands, their filter types are
named. -/
def HwEqExact (payload : List UInt8) : Prop :=
  payload.length = maxEqBands * eqBandWireSize →
    ∀ i < maxEqBands, ∀ b, byteAt payload (i * eqBandWireSize) = .ok b →
      EqFilterType.IsValid ⟨b⟩

theorem exists_decodeHwEqStateResponse {payload : List UInt8}
    (h : payload.length = maxEqBands * eqBandWireSize) :
    ∃ bands, decodeHwEqStateResponse payload = .ok (some bands) := by
  obtain ⟨result, hresult, -⟩ := answersEvery_hwEqStateResponse payload
  cases result with
  | some bands => exact ⟨bands, hresult⟩
  | none =>
      rw [decodeHwEqStateResponse, if_neg (not_not.mpr h)] at hresult
      obtain ⟨bands, -, hresult⟩ := exists_of_bind_eq_ok hresult
      cases hresult

/-- The first byte of each band that is read is its filter type. -/
theorem byteAt_of_decodeHwEqStateResponse {payload : List UInt8}
    {bands : Fin maxEqBands → EqBand}
    (h : decodeHwEqStateResponse payload = .ok (some bands))
    (i : Fin maxEqBands) :
    byteAt payload (i * eqBandWireSize) = .ok (bands i).filterType.toByte := by
  rw [decodeHwEqStateResponse] at h
  split at h
  · cases h
  · obtain ⟨found, hfound, h⟩ := exists_of_bind_eq_ok h
    obtain rfl := Option.some.inj (Except.ok.inj h)
    have hband := read_of_readArray_eq_ok hfound i
    obtain ⟨filterType, hfilterType, hband⟩ := exists_of_bind_eq_ok hband
    obtain ⟨frequency, -, hband⟩ := exists_of_bind_eq_ok hband
    obtain ⟨gain, -, hband⟩ := exists_of_bind_eq_ok hband
    obtain ⟨q, -, hband⟩ := exists_of_bind_eq_ok hband
    rw [← Except.ok.inj hband]
    exact hfilterType

theorem strictAt_hwEq_iff (payload : List UInt8) :
    StrictAt decodeHwEqStateResponse encodeHwEqStateResponse
        (fun bands => ∀ i, (bands i).filterType.IsValid) payload ↔
      HwEqExact payload := by
  constructor
  · intro hstrict hlength i hi b hb
    obtain ⟨bands, hvalid, hwritten⟩ :=
      hstrict.mp (exists_decodeHwEqStateResponse hlength)
    have hread := (decodeHwEqStateResponse_eq_some_iff payload bands).mpr hwritten
    have hbyte := byteAt_of_decodeHwEqStateResponse hread ⟨i, hi⟩
    rw [Except.ok.inj (hb.symm.trans hbyte)]
    exact hvalid ⟨i, hi⟩
  · intro hexact
    constructor
    · rintro ⟨bands, hread⟩
      have hwritten := (decodeHwEqStateResponse_eq_some_iff payload bands).mp hread
      have hlength : payload.length = maxEqBands * eqBandWireSize := by
        rw [← hwritten, encodeHwEqStateResponse_eq, framePayload_encodeMessage,
          length_hwEqStateBytes]
      refine ⟨bands, fun i => ?_, hwritten⟩
      exact hexact hlength i i.isLt _ (byteAt_of_decodeHwEqStateResponse hread i)
    · rintro ⟨bands, -, hwritten⟩
      exact ⟨bands, (decodeHwEqStateResponse_eq_some_iff payload bands).mpr hwritten⟩

/-- Should the payload have the length of the settings, its flag is plain. -/
def BassEnhancerExact (payload : List UInt8) : Prop :=
  payload.length = bassEnhancerWireSize → PlainFlags bassEnhancerFlags payload

theorem exists_decodeBassEnhancerStateResponse {payload : List UInt8}
    (h : payload.length = bassEnhancerWireSize) :
    ∃ settings, decodeBassEnhancerStateResponse payload = .ok (some settings) := by
  obtain ⟨result, hresult, -⟩ := answersEvery_bassEnhancerStateResponse payload
  cases result with
  | some settings => exact ⟨settings, hresult⟩
  | none =>
      rw [decodeBassEnhancerStateResponse, if_neg (not_not.mpr h)] at hresult
      obtain ⟨settings, -, hresult⟩ := exists_of_bind_eq_ok hresult
      cases hresult

/-- The byte that is written for a flag is plain. -/
theorem plainFlags_bassEnhancerBytes (settings : BassEnhancerSettings) :
    PlainFlags bassEnhancerFlags (bassEnhancerBytes settings) := by
  intro i hi b hb
  rw [List.mem_singleton.mp hi, bassEnhancerBytes, List.getElem?_cons_zero] at hb
  rw [← Option.some.inj hb]
  cases settings.bEnabled with
  | false => exact Or.inl rfl
  | true => exact Or.inr rfl

theorem strictAt_bassEnhancer_iff (payload : List UInt8) :
    StrictAt decodeBassEnhancerStateResponse encodeBassEnhancerStateResponse
        (fun _ => True) payload ↔
      BassEnhancerExact payload := by
  constructor
  · intro hstrict hlength
    obtain ⟨settings, -, rfl⟩ :=
      hstrict.mp (exists_decodeBassEnhancerStateResponse hlength)
    rw [encodeBassEnhancerStateResponse_eq, framePayload_encodeMessage]
    exact plainFlags_bassEnhancerBytes settings
  · intro hexact
    constructor
    · rintro ⟨settings, hread⟩
      have hwritten :=
        (decodeBassEnhancerStateResponse_eq_some_iff payload settings).mp hread
      have hlength : payload.length = bassEnhancerWireSize := by
        rw [← @length_withFlags bassEnhancerFlags, ← hwritten,
          encodeBassEnhancerStateResponse_eq, framePayload_encodeMessage,
          length_bassEnhancerBytes]
      rw [withFlags_eq_self_iff.mpr (hexact hlength)] at hwritten
      exact ⟨settings, trivial, hwritten⟩
    · rintro ⟨settings, -, rfl⟩
      rw [encodeBassEnhancerStateResponse_eq, framePayload_encodeMessage]
      exact ⟨settings, decodeBassEnhancerStateResponse_bytes settings⟩

/-! ## All response decoders -/

/-- Where each response decoder is strict. -/
theorem responseDecoders_strictAt_iff (payload : List UInt8) :
    (StrictAt decodeStatusResponse encodeStatusResponse
        (fun status => status.mode.IsValid) payload ↔ StatusExact payload) ∧
    (StrictAt decodeDeviceListResponse encodeDeviceListResponse
        (fun _ => True) payload ↔
      ListExact AudioDeviceInfo.Fits deviceEntryBytes payload) ∧
    (StrictAt decodeHrtfCatalogResponse encodeHrtfCatalogResponse
        (fun _ => True) payload ↔
      ListExact (fun name : ByteString => name.length ≤ 0xFFFF) stringBytes
        payload) ∧
    (StrictAt decodeHwEqStateResponse encodeHwEqStateResponse
        (fun bands => ∀ i, (bands i).filterType.IsValid) payload ↔
      HwEqExact payload) ∧
    (StrictAt decodeBassEnhancerStateResponse encodeBassEnhancerStateResponse
        (fun _ => True) payload ↔ BassEnhancerExact payload) ∧
    (StrictAt decodeContentStreamListResponse encodeContentStreamListResponse
        (fun _ => True) payload ↔
      ListExact ContentStreamInfo.Fits streamEntryBytes payload) ∧
    (StrictAt decodeEqPresetCatalogResponse encodeEqPresetCatalogResponse
        (fun _ => True) payload ↔
      ListExact (fun name : ByteString => name.length ≤ 0xFFFF) stringBytes
        payload) := by
  obtain ⟨-, hdevices, hnames, -, -, hstreams, hpresets⟩ := responseDecoders_accept
  exact ⟨strictAt_status_iff payload,
    hdevices.strictAt_iff encodeDeviceListResponse_delivered payload,
    hnames.strictAt_iff (encodeNameList_delivered _) payload,
    strictAt_hwEq_iff payload, strictAt_bassEnhancer_iff payload,
    hstreams.strictAt_iff encodeContentStreamListResponse_delivered payload,
    hpresets.strictAt_iff (encodeNameList_delivered _) payload⟩

/-- A filter type of `9`, a flag of `2` and a byte behind a catalog or a status
are accepted, although no encoder writes them. -/
theorem responseDecoders_lenient :
    ¬ StrictAt decodeHwEqStateResponse encodeHwEqStateResponse
        (fun bands => ∀ i, (bands i).filterType.IsValid)
        (9 :: List.replicate 129 0) ∧
      ¬ StrictAt decodeBassEnhancerStateResponse encodeBassEnhancerStateResponse
        (fun _ => True) (2 :: List.replicate 12 0) ∧
      ¬ StrictAt decodeHrtfCatalogResponse encodeHrtfCatalogResponse
        (fun _ => True) [0, 0, 7] ∧
      ¬ StrictAt decodeStatusResponse encodeStatusResponse
        (fun status => status.mode.IsValid) (List.replicate 70 0) := by
  refine ⟨fun hstrict => ?_, fun hstrict => ?_, fun hstrict => ?_,
    fun hstrict => ?_⟩
  · have hlength : ((9 : UInt8) :: List.replicate 129 0).length =
        maxEqBands * eqBandWireSize := by
      rw [List.length_cons, List.length_replicate]
      rfl
    have hvalid := (strictAt_hwEq_iff _).mp hstrict hlength 0 (by decide) 9 rfl
    exact absurd hvalid (by decide)
  · have hplain := (strictAt_bassEnhancer_iff _).mp hstrict rfl 0
      (List.mem_singleton_self _) 2 rfl
    exact absurd hplain (by decide)
  · have hexact := ((acceptsList_names _).strictAt_iff
      (encodeNameList_delivered .hrtfCatalogResponse) _).mp hstrict [] (by decide)
      (by simp) ⟨[7], rfl⟩
    exact absurd hexact.1 (by decide)
  · have hexact := (strictAt_status_iff _).mp hstrict 0 0 rfl (by decide) rfl
      (by decide)
    exact absurd hexact.1 (by decide)

end RamkolFX
