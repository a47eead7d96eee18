import RamkolFX.Protocol.Responses

/-!
# Control protocol: state responses

The responses of a fixed layout: a status whose device name fits, the EQ bands
and the bass enhancer settings are decoded as they were encoded.
-/

namespace RamkolFX

open Support

/-- The bytes of a float. -/
def floatBytes (value : Binary32) : List UInt8 := bytesOfUInt32 value.bits

/-- The byte of a flag. -/
def boolBytes (value : Bool) : List UInt8 := [if value then 1 else 0]

theorem readFloatBE_append (before : List UInt8) (value : Binary32)
    (after : List UInt8) :
    readFloatBE (before ++ (floatBytes value ++ after)) before.length =
      .ok value :=
  readFloatBE_at before after rfl rfl

theorem readBool_append (before : List UInt8) (value : Bool)
    (after : List UInt8) :
    readBool (before ++ (boolBytes value ++ after)) before.length = .ok value :=
  readBool_at before after rfl rfl

/-! ## Status -/

/-- The status fields in front of the device name. -/
def statusFixedBytes (status : Status) : List UInt8 :=
  [status.mode.toByte] ++
    ((List.ofFn status.speakerAzimuthDegrees).flatMap floatBytes ++
      ((List.ofFn status.speakerMuted).flatMap boolBytes ++
        (boolBytes status.bTestNoiseEnabled ++
          ([status.activeHrtfIndex] ++
            ((List.ofFn status.speakerDistanceMeters).flatMap floatBytes ++
              boolBytes status.bNearFieldEnabled)))))

theorem length_floatBytes (value : Binary32) : (floatBytes value).length = 4 :=
  rfl

theorem length_boolBytes (value : Bool) : (boolBytes value).length = 1 := rfl

theorem length_floatArray {n : ℕ} (values : Fin n → Binary32) :
    ((List.ofFn values).flatMap floatBytes).length = 4 * n := by
  rw [length_flatMap_of_size length_floatBytes, List.length_ofFn]

theorem length_boolArray {n : ℕ} (values : Fin n → Bool) :
    ((List.ofFn values).flatMap boolBytes).length = n := by
  rw [length_flatMap_of_size length_boolBytes, List.length_ofFn, Nat.one_mul]

theorem length_statusFixedBytes (status : Status) :
    (statusFixedBytes status).length = statusFixedSize := by
  simp only [statusFixedBytes, List.length_append, length_floatArray,
    length_boolArray]
  rfl

theorem encodeStatusResponse_eq (status : Status) :
    encodeStatusResponse status =
      encodeMessage .statusResponse
        (statusFixedBytes status ++ stringBytes status.outputDeviceName) := by
  have hfloats := foldl_append_flatMap appendFloatBE_eq
  have hbools := foldl_append_flatMap appendBool_eq
  simp only [encodeStatusResponse, hfloats, hbools, appendBool_eq,
    appendString_eq]
  simp [statusFixedBytes, floatBytes, boolBytes]

theorem byteAt_activeHrtfIndex (status : Status) (after : List UInt8) :
    byteAt (statusFixedBytes status ++ after)
      (1 + 4 * speakerCount + speakerCount + 1) = .ok status.activeHrtfIndex := by
  let front := [status.mode.toByte] ++
    ((List.ofFn status.speakerAzimuthDegrees).flatMap floatBytes ++
      ((List.ofFn status.speakerMuted).flatMap boolBytes ++
        boolBytes status.bTestNoiseEnabled))
  let back := (List.ofFn status.speakerDistanceMeters).flatMap floatBytes ++
    (boolBytes status.bNearFieldEnabled ++ after)
  have hsplit : statusFixedBytes status ++ after =
      front ++ (status.activeHrtfIndex :: back) := by
    simp only [statusFixedBytes, front, back, List.append_assoc,
      List.cons_append, List.nil_append]
  apply byteAt_at hsplit
  simp only [front, List.length_append, length_floatArray, length_boolArray]
  rfl

/-- Behind the fields of a status with a named mode, only the device name is
left to read. -/
theorem decodeStatusResponse_fixedBytes {status : Status}
    (hmode : status.mode.IsValid) (after : List UInt8) :
    decodeStatusResponse (statusFixedBytes status ++ after) = do
      match ← readString (statusFixedBytes status ++ after) statusFixedSize with
      | none => return none
      | some (outputDeviceName, _) =>
          return some { status with outputDeviceName } := by
  set payload := statusFixedBytes status ++ after with hpayload
  -- what stands in front of and behind the fields that are read
  let front := [status.mode.toByte] ++
    (List.ofFn status.speakerAzimuthDegrees).flatMap floatBytes
  let middle := front ++ (List.ofFn status.speakerMuted).flatMap boolBytes
  let back := middle ++ boolBytes status.bTestNoiseEnabled ++
    [status.activeHrtfIndex]
  let afterDistances := boolBytes status.bNearFieldEnabled ++ after
  let afterIndex := (List.ofFn status.speakerDistanceMeters).flatMap floatBytes ++
    afterDistances
  let afterMutes := boolBytes status.bTestNoiseEnabled ++
    ([status.activeHrtfIndex] ++ afterIndex)
  have hsplit : payload = middle ++ afterMutes := by
    simp only [hpayload, statusFixedBytes, middle, front, afterMutes, afterIndex,
      afterDistances, List.append_assoc]
  have hfront : front.length = 1 + 4 * speakerCount := by
    rw [List.length_append, length_floatArray]
    rfl
  have hmiddle : middle.length = 1 + 4 * speakerCount + speakerCount := by
    rw [List.length_append, length_boolArray, hfront]
  have hback : back.length = 1 + 4 * speakerCount + speakerCount + 2 := by
    simp only [back, List.length_append, hmiddle]
    rfl
  have hlength : ¬ payload.length < statusFixedSize := by
    rw [hpayload, List.length_append, length_statusFixedBytes]
    omega
  have hmodeByte : byteAt payload 0 = .ok status.mode.toByte := rfl
  have hazimuths : readArray (fun i => readFloatBE payload (1 + 4 * i))
      speakerCount = .ok status.speakerAzimuthDegrees := by
    refine readArray_at length_floatBytes readFloatBE_append
      [status.mode.toByte]
      ((List.ofFn status.speakerMuted).flatMap boolBytes ++ afterMutes) ?_ rfl
    simp only [hsplit, middle, front, List.append_assoc]
  have hmutes : readArray
      (fun i => readBool payload (1 + 4 * speakerCount + 1 * i)) speakerCount =
        .ok status.speakerMuted := by
    refine readArray_at length_boolBytes readBool_append front afterMutes ?_
      hfront.symm
    simp only [hsplit, middle, List.append_assoc]
  have hnoise : readBool payload (1 + 4 * speakerCount + speakerCount) =
      .ok status.bTestNoiseEnabled :=
    readBool_at middle ([status.activeHrtfIndex] ++ afterIndex) hsplit hmiddle.symm
  have hindex : byteAt payload (1 + 4 * speakerCount + speakerCount + 1) =
      .ok status.activeHrtfIndex := byteAt_activeHrtfIndex status _
  have hdistances : readArray
      (fun i => readFloatBE payload
        (1 + 4 * speakerCount + speakerCount + 2 + 4 * i)) speakerCount =
        .ok status.speakerDistanceMeters := by
    refine readArray_at length_floatBytes readFloatBE_append back afterDistances
      ?_ hback.symm
    simp only [hsplit, afterMutes, afterIndex, back, List.append_assoc]
  have hnear : readBool payload
      (1 + 4 * speakerCount + speakerCount + 2 + 4 * speakerCount) =
        .ok status.bNearFieldEnabled := by
    refine readBool_at
      (back ++ (List.ofFn status.speakerDistanceMeters).flatMap floatBytes)
      after ?_ ?_
    · simp only [hsplit, afterMutes, afterIndex, afterDistances, back, boolBytes,
        List.append_assoc, List.cons_append, List.nil_append]
    · rw [List.length_append, length_floatArray, hback]
  simp only [Nat.one_mul] at hmutes
  rw [decodeStatusResponse, if_neg hlength]
  simp only [hmodeByte, ok_bind]
  rw [if_neg (UInt8.not_lt.mpr hmode)]
  simp only [hazimuths, hmutes, hnoise, hindex, hdistances, ok_bind]
  rw [hnear]
  rfl

/-- Whatever is decoded behind the fields of a status, the fields are its. -/
theorem eq_of_decodeStatusResponse {status decoded : Status}
    {after : List UInt8}
    (h : decodeStatusResponse (statusFixedBytes status ++ after) =
      .ok (some decoded)) :
    decoded = { status with outputDeviceName := decoded.outputDeviceName } := by
  have hlength : ¬ (statusFixedBytes status ++ after).length <
      statusFixedSize := by
    rw [List.length_append, length_statusFixedBytes]
    omega
  have hmodeByte : byteAt (statusFixedBytes status ++ after) 0 =
      .ok status.mode.toByte := rfl
  have hmode : status.mode.IsValid := by
    by_contra hinvalid
    rw [decodeStatusResponse, if_neg hlength] at h
    simp only [hmodeByte, ok_bind] at h
    rw [if_pos (UInt8.not_le.mp hinvalid)] at h
    cases h
  rw [decodeStatusResponse_fixedBytes hmode] at h
  obtain ⟨read, -, h⟩ := exists_of_bind_eq_ok h
  cases read with
  | none => cases h
  | some named =>
      obtain rfl := Option.some.inj (Except.ok.inj h)
      rfl

/-- A status with a named mode and a name that a 16-bit length can count is
decoded as it was encoded, whatever follows it. -/
theorem decodeStatusResponse_append {status : Status}
    (hmode : status.mode.IsValid)
    (hname : status.outputDeviceName.length ≤ 0xFFFF) (after : List UInt8) :
    decodeStatusResponse (statusFixedBytes status ++
      (stringBytes status.outputDeviceName ++ after)) = .ok (some status) := by
  have hread := (readString_reads hname).complete (statusFixedBytes status) after
  rw [length_statusFixedBytes] at hread
  rw [decodeStatusResponse_fixedBytes hmode, hread]
  rfl

theorem decodeStatusResponse_bytes {status : Status}
    (hmode : status.mode.IsValid)
    (hname : status.outputDeviceName.length ≤ 0xFFFF) :
    decodeStatusResponse
      (statusFixedBytes status ++ stringBytes status.outputDeviceName) =
        .ok (some status) := by
  have happend := decodeStatusResponse_append hmode hname []
  rwa [List.append_nil] at happend

/-- No proper prefix of a status decodes. -/
theorem decodeStatusResponse_truncated {status : Status}
    (hmode : status.mode.IsValid)
    (hname : status.outputDeviceName.length ≤ 0xFFFF) {part : List UInt8}
    (hpre : part <+:
      statusFixedBytes status ++ stringBytes status.outputDeviceName)
    (hne : part ≠
      statusFixedBytes status ++ stringBytes status.outputDeviceName) :
    decodeStatusResponse part = .ok none := by
  rcases OffsetReader.properPrefix_append_cases hpre hne with
    ⟨hp, hne⟩ | ⟨text, rfl, hp, hne⟩
  · have hshort : part.length < statusFixedSize := by
      rw [← length_statusFixedBytes status]
      exact lt_of_le_of_ne hp.length_le
        fun heq => hne (hp.eq_of_length heq)
    rw [decodeStatusResponse, if_pos hshort]
    rfl
  · have hread := (readString_reads hname).truncated (statusFixedBytes status)
      text hp hne
    rw [length_statusFixedBytes] at hread
    rw [decodeStatusResponse_fixedBytes hmode, hread]
    rfl

/-! ## EQ bands and bass enhancer -/

theorem readEqBand_append (before : List UInt8) (band : EqBand)
    (after : List UInt8) :
    readEqBand (before ++ (eqBandBytes band ++ after)) before.length = .ok band :=
  readEqBand_at before after rfl rfl

/-- The payload of the EQ bands. -/
def hwEqStateBytes (bands : Fin maxEqBands → EqBand) : List UInt8 :=
  (List.ofFn bands).flatMap eqBandBytes

theorem length_hwEqStateBytes (bands : Fin maxEqBands → EqBand) :
    (hwEqStateBytes bands).length = maxEqBands * eqBandWireSize := by
  rw [hwEqStateBytes, length_flatMap_of_size length_eqBandBytes,
    List.length_ofFn, Nat.mul_comm]

theorem encodeHwEqStateResponse_eq (bands : Fin maxEqBands → EqBand) :
    encodeHwEqStateResponse bands =
      encodeMessage .hwEqStateResponse (hwEqStateBytes bands) := by
  rw [encodeHwEqStateResponse, foldl_append_flatMap appendEqBand_eq]
  rfl

theorem decodeHwEqStateResponse_bytes (bands : Fin maxEqBands → EqBand) :
    decodeHwEqStateResponse (hwEqStateBytes bands) = .ok (some bands) := by
  have hread : readArray
      (fun i => readEqBand (hwEqStateBytes bands) (0 + eqBandWireSize * i))
      maxEqBands = .ok bands :=
    readArray_at length_eqBandBytes readEqBand_append [] []
      (by rw [List.append_nil]; rfl) rfl
  simp only [Nat.zero_add, Nat.mul_comm eqBandWireSize] at hread
  rw [decodeHwEqStateResponse, if_neg (not_not.mpr (length_hwEqStateBytes bands)),
    hread]
  rfl

theorem encodeBassEnhancerStateResponse_eq (settings : BassEnhancerSettings) :
    encodeBassEnhancerStateResponse settings =
      encodeMessage .bassEnhancerStateResponse (bassEnhancerBytes settings) := by
  rw [encodeBassEnhancerStateResponse, appendBassEnhancerSettings_eq]
  rfl

theorem decodeBassEnhancerStateResponse_bytes
    (settings : BassEnhancerSettings) :
    decodeBassEnhancerStateResponse (bassEnhancerBytes settings) =
      .ok (some settings) := by
  have hread : readBassEnhancerSettings (bassEnhancerBytes settings) 0 =
      .ok settings :=
    readBassEnhancerSettings_at [] [] (by rw [List.append_nil]; rfl) rfl
  rw [decodeBassEnhancerStateResponse,
    if_neg (not_not.mpr (length_bassEnhancerBytes settings)), hread]
  rfl

/-! ## What a client makes of them -/

/-- The frame of a response carries its value: the header counts a payload
within the limit that decodes to the value, and no proper prefix of it
decodes. -/
structure ValueDelivered {α : Type} (op : Opcode)
    (decode : List UInt8 → Checked (Option α)) (value : α)
    (frame : List UInt8) : Prop where
  delivered : ∃ payload,
    WellFramed op frame payload ∧ decode payload = .ok (some value) ∧
    ∀ part, part <+: payload → part ≠ payload → decode part = .ok none

theorem ne_length_of_properPrefix {part payload : List UInt8}
    (hpre : part <+: payload) (hne : part ≠ payload) :
    part.length ≠ payload.length :=
  fun hlength => hne (hpre.eq_of_length hlength)

/-- A status is delivered if its mode is a named one and its device name
leaves room for the other fields and the length prefix. -/
theorem encodeStatusResponse_delivered {status : Status}
    (hmode : status.mode.IsValid)
    (hname : status.outputDeviceName.length ≤
      maxPayloadSize - (statusFixedSize + 2)) :
    ValueDelivered .statusResponse decodeStatusResponse status
      (encodeStatusResponse status) := by
  have hroom : maxPayloadSize - (statusFixedSize + 2) ≤ 0xFFFF := by decide
  have hword := hname.trans hroom
  rw [encodeStatusResponse_eq]
  refine ⟨_, wellFramed_encodeMessage ?_, decodeStatusResponse_bytes hmode hword,
    fun part => decodeStatusResponse_truncated hmode hword⟩
  have hlimit : statusFixedSize + 2 ≤ maxPayloadSize := by decide
  rw [List.length_append, length_statusFixedBytes, length_stringBytes]
  omega

theorem encodeHwEqStateResponse_delivered (bands : Fin maxEqBands → EqBand) :
    ValueDelivered .hwEqStateResponse decodeHwEqStateResponse bands
      (encodeHwEqStateResponse bands) := by
  rw [encodeHwEqStateResponse_eq]
  refine ⟨_, wellFramed_encodeMessage ?_, decodeHwEqStateResponse_bytes bands, ?_⟩
  · rw [length_hwEqStateBytes]
    decide
  · intro part hpre hne
    have hlength := ne_length_of_properPrefix hpre hne
    rw [length_hwEqStateBytes] at hlength
    rw [decodeHwEqStateResponse, if_pos hlength]
    rfl

theorem encodeBassEnhancerStateResponse_delivered
    (settings : BassEnhancerSettings) :
    ValueDelivered .bassEnhancerStateResponse decodeBassEnhancerStateResponse
      settings (encodeBassEnhancerStateResponse settings) := by
  rw [encodeBassEnhancerStateResponse_eq]
  refine ⟨_, wellFramed_encodeMessage ?_,
    decodeBassEnhancerStateResponse_bytes settings, ?_⟩
  · rw [length_bassEnhancerBytes]
    decide
  · intro part hpre hne
    have hlength := ne_length_of_properPrefix hpre hne
    rw [length_bassEnhancerBytes] at hlength
    rw [decodeBassEnhancerStateResponse, if_pos hlength]
    rfl

/-- Every state response delivers its value, whatever bit patterns its floats
have. -/
theorem stateResponses_delivered :
    (∀ status : Status, status.mode.IsValid →
      status.outputDeviceName.length ≤ maxPayloadSize - (statusFixedSize + 2) →
      ValueDelivered .statusResponse decodeStatusResponse status
        (encodeStatusResponse status)) ∧
    (∀ bands, ValueDelivered .hwEqStateResponse decodeHwEqStateResponse bands
      (encodeHwEqStateResponse bands)) ∧
    (∀ settings, ValueDelivered .bassEnhancerStateResponse
      decodeBassEnhancerStateResponse settings
      (encodeBassEnhancerStateResponse settings)) :=
  ⟨fun _ => encodeStatusResponse_delivered, encodeHwEqStateResponse_delivered,
    encodeBassEnhancerStateResponse_delivered⟩

/-- A status as the daemon starts, with the name of a device. -/
theorem stateResponses_delivered_named :
    ValueDelivered .statusResponse decodeStatusResponse
      { outputDeviceName := ascii "alsa_output" }
      (encodeStatusResponse { outputDeviceName := ascii "alsa_output" }) :=
  stateResponses_delivered.1 _ (by decide) (by decide)

end RamkolFX
