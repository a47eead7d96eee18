import RamkolFX.Protocol.RequestFraming
import RamkolFX.Protocol.ResponseGrammar

/-!
# Control protocol: what the command decoder accepts

`decodeCommand` against the payloads of the request encoders.  It reads every
flag byte but zero as set and, but for the raw strings and the bass enhancer
settings, ignores what follows the last argument.  Raw strings are as long as the
payload, while the encoders cut them at `maxPayloadSize`.
-/

namespace RamkolFX

open Support

theorem Opcode.toByte_of_ofByte {b : UInt8} {op : Opcode}
    (h : Opcode.ofByte b = some op) : op.toByte = b := by
  rw [Opcode.ofByte] at h
  simpa using List.find?_some h

namespace Request

/-! ## Spellings -/

/-- The bytes of the arguments.  Raw strings are not cut. -/
def spelling : Request → List UInt8
  | setOutputDevice name | saveHwEqPreset name => name
  | saveContentEqPreset app name => stringBytes app ++ name
  | r => r.payload

/-- The arguments take up the whole payload. -/
def Closed : Request → Prop
  | setOutputDevice _ | saveHwEqPreset _ | setBassEnhancer _
  | saveContentEqPreset _ _ => True
  | _ => False

/-- Where the arguments have a flag. -/
def flags : Request → List ℕ
  | setSpeakerMute _ _ => [1]
  | setTestNoise _ | setNearFieldEnabled _ => [0]
  | setBassEnhancer _ => bassEnhancerFlags
  | _ => []

/-- The arguments pass the checks of the decoder, and the length of an
application name can be written. -/
def Admissible : Request → Prop
  | setSpatialMode mode => mode.IsValid
  | setSpeakerAzimuth i _ | setSpeakerMute i _ | setSpeakerDistance i _ =>
      i.toNat < speakerCount
  | setHwEqBand i band => i.toNat < maxEqBands ∧ band.filterType.IsValid
  | setContentEqBand app i band =>
      app.length ≤ 0xFFFF ∧ i.toNat < maxEqBands ∧ band.filterType.IsValid
  | setContentEqPreset app _ | saveContentEqPreset app _ => app.length ≤ 0xFFFF
  | _ => True

/-- The opcode is the request's, and the payload begins with its arguments,
flags apart. -/
structure Spells (r : Request) (inOpcode : UInt8) (payload : List UInt8) :
    Prop where
  opcode : r.command.commandOpcode.toByte = inOpcode
  admissible : r.Admissible
  written : r.spelling <+: withFlags r.flags payload
  whole : r.Closed → r.spelling.length = payload.length

theorem withFlags_nil (payload : List UInt8) : withFlags [] payload = payload := by
  apply List.ext_getElem?
  intro i
  rw [getElem?_withFlags]
  cases payload[i]? <;> simp

/-- An argument without a flag. -/
theorem Spells.unflagged {r : Request} {payload : List UInt8} (hflags : r.flags = [])
    (hclosed : ¬ r.Closed) (hadmissible : r.Admissible)
    (hwritten : r.spelling <+: payload) :
    r.Spells r.command.commandOpcode.toByte payload where
  opcode := rfl
  admissible := hadmissible
  written := by
    rw [hflags, withFlags_nil]
    exact hwritten
  whole h := absurd h hclosed

/-- The decoder only asks whether a flag is zero. -/
theorem decodeCommand_withFlags (r : Request) (payload : List UInt8) :
    decodeCommand r.command.commandOpcode.toByte (withFlags r.flags payload) =
      decodeCommand r.command.commandOpcode.toByte payload := by
  cases r with
  | setSpeakerMute i b =>
      have hindex : byteAt (withFlags [1] payload) 0 = byteAt payload 0 :=
        byteAt_withFlags (by decide)
      simp only [command, flags, decodeCommand, Opcode.ofByte_toByte, length_withFlags,
        hindex, readBool_withFlags]
  | setTestNoise b | setNearFieldEnabled b =>
      simp only [command, flags, decodeCommand, Opcode.ofByte_toByte, length_withFlags,
        readBool_withFlags]
  | setBassEnhancer settings =>
      have hread :
          readBassEnhancerSettings (withFlags bassEnhancerFlags payload) 0 =
            readBassEnhancerSettings payload 0 := by
        simp only [readBassEnhancerSettings, readBool_withFlags]
        rw [readFloatBE_withFlags (by decide), readFloatBE_withFlags (by decide),
          readFloatBE_withFlags (by decide)]
      simp only [command, flags, decodeCommand, Opcode.ofByte_toByte, length_withFlags,
        hread]
  | _ => exact congrArg (decodeCommand _) (withFlags_nil payload)

/-! ## What is read was written -/

section

variable {payload : List UInt8} {inCommand : Command}

/-- A check of the decoder that has been passed. -/
theorem passed_of_decode {check : Prop} [Decidable check]
    {rest : Checked (Option Command)}
    (h : (if check then return none else rest) = .ok (some inCommand)) :
    ¬ check ∧ rest = .ok (some inCommand) := by
  split at h
  · cases h
  · rename_i hpassed
    exact ⟨hpassed, h⟩

/-- An index below a bound, followed by other arguments. -/
theorem index_of_decode {bound : ℕ} {i : ℕ}
    {rest : UInt8 → Checked (Option Command)}
    (h : (do
        let index ← byteAt payload i
        if bound ≤ index.toNat then return none else rest index) =
      .ok (some inCommand)) :
    ∃ index : UInt8, index.toNat < bound ∧ [index] <+: payload.drop i ∧
      rest index = .ok (some inCommand) := by
  obtain ⟨index, hindex, h⟩ := exists_of_bind_eq_ok h
  obtain ⟨hbound, h⟩ := passed_of_decode h
  exact ⟨index, Nat.not_le.mp hbound, prefix_of_byteAt hindex, h⟩

/-- A band whose filter type is looked at first. -/
theorem band_of_decode {i : ℕ} {toCommand : EqBand → Command}
    (h : (do
        let filterType ← byteAt payload i
        if EqFilterType.notch.toByte < filterType then return none
        else do
          let band ← readEqBand payload i
          return some (toCommand band)) = .ok (some inCommand)) :
    ∃ band : EqBand, band.filterType.IsValid ∧
      eqBandBytes band <+: payload.drop i ∧ toCommand band = inCommand := by
  obtain ⟨filterType, hfilter, h⟩ := exists_of_bind_eq_ok h
  obtain ⟨hvalid, h⟩ := passed_of_decode h
  obtain ⟨band, hband, h⟩ := exists_of_bind_eq_ok h
  obtain rfl := Option.some.inj (Except.ok.inj h)
  obtain ⟨filterType', hfilter', hfields⟩ := exists_of_bind_eq_ok hband
  obtain rfl := Except.ok.inj (hfilter.symm.trans hfilter')
  obtain ⟨frequency, -, hfields⟩ := exists_of_bind_eq_ok hfields
  obtain ⟨gain, -, hfields⟩ := exists_of_bind_eq_ok hfields
  obtain ⟨q, -, hfields⟩ := exists_of_bind_eq_ok hfields
  obtain rfl := Except.ok.inj hfields
  exact ⟨_, UInt8.not_lt.mp hvalid, prefix_of_readEqBand hband, rfl⟩

/-- The flag of a payload at a position that is read as a flag. -/
theorem flag_of_decode {flags : List ℕ} {i : ℕ} (hi : i ∈ flags)
    {toCommand : Bool → Command}
    (h : (do
        let flag ← readBool payload i
        return some (toCommand flag)) = .ok (some inCommand)) :
    ∃ flag, boolBytes flag <+: (withFlags flags payload).drop i ∧
      toCommand flag = inCommand := by
  obtain ⟨flag, hflag, h⟩ := exists_of_bind_eq_ok h
  obtain rfl := Option.some.inj (Except.ok.inj h)
  exact ⟨flag, prefix_of_readBool hi (readBool_withFlags.trans hflag), rfl⟩

/-- An application name, followed by other arguments. -/
theorem app_of_decode {rest : ByteString → ℕ → Checked (Option Command)}
    (h : (do
        match ← readString payload 0 with
        | none => return none
        | some (app, offset) => rest app offset) = .ok (some inCommand)) :
    ∃ (app : ByteString) (offset : ℕ), app.length ≤ 0xFFFF ∧
      offset = 0 + (stringBytes app).length ∧ stringBytes app <+: payload.drop 0 ∧
      rest app offset = .ok (some inCommand) := by
  obtain ⟨found, hname, h⟩ := exists_of_bind_eq_ok h
  cases found with
  | none => cases h
  | some named =>
      obtain ⟨hfits, hoffset, hbegins⟩ := readString_spells _ _ _ _ hname
      exact ⟨named.1, named.2, hfits, hoffset, hbegins, h⟩

/-! ## The shapes of arguments -/

variable {op : Opcode}

theorem spells_of_noArgument (r : Request) (hflags : r.flags = [])
    (hclosed : ¬ r.Closed) (hadmissible : r.Admissible) (hempty : r.spelling = [])
    (h : (return some r.command : Checked (Option Command)) = .ok (some inCommand)) :
    ∃ r' : Request, r'.command = inCommand ∧
      r'.Spells r.command.commandOpcode.toByte payload := by
  refine ⟨r, Option.some.inj (Except.ok.inj h), .unflagged hflags hclosed hadmissible ?_⟩
  rw [hempty]
  exact List.nil_prefix

theorem spells_of_byte (toRequest : UInt8 → Request)
    (hspells : ∀ b, [b] <+: payload → (toRequest b).Spells op.toByte payload)
    (h : (if payload.length < 1 then return none
      else do
        let b ← byteAt payload 0
        return some (toRequest b).command) = .ok (some inCommand)) :
    ∃ r : Request, r.command = inCommand ∧ r.Spells op.toByte payload := by
  obtain ⟨-, h⟩ := passed_of_decode h
  obtain ⟨b, hbyte, h⟩ := exists_of_bind_eq_ok h
  exact ⟨toRequest b, Option.some.inj (Except.ok.inj h),
    hspells b (prefix_of_byteAt hbyte)⟩

theorem spells_of_flag (toRequest : Bool → Request)
    (hspells : ∀ flag, boolBytes flag <+: withFlags [0] payload →
      (toRequest flag).Spells op.toByte payload)
    (h : (if payload.length < 1 then return none
      else do
        let flag ← readBool payload 0
        return some (toRequest flag).command) = .ok (some inCommand)) :
    ∃ r : Request, r.command = inCommand ∧ r.Spells op.toByte payload := by
  obtain ⟨-, h⟩ := passed_of_decode h
  obtain ⟨flag, hflag, hcommand⟩ := flag_of_decode (List.mem_singleton_self 0) h
  exact ⟨toRequest flag, hcommand, hspells flag hflag⟩

theorem spells_of_speakerFloat (toRequest : UInt8 → Binary32 → Request)
    (hspells : ∀ index value, index.toNat < speakerCount →
      [index] ++ floatBytes value <+: payload →
      (toRequest index value).Spells op.toByte payload)
    (h : (if payload.length < 5 then return none
      else do
        let index ← byteAt payload 0
        if speakerCount ≤ index.toNat then return none
        else do
          let value ← readFloatBE payload 1
          return some (toRequest index value).command) = .ok (some inCommand)) :
    ∃ r : Request, r.command = inCommand ∧ r.Spells op.toByte payload := by
  obtain ⟨-, h⟩ := passed_of_decode h
  obtain ⟨index, hbound, hindex, h⟩ := index_of_decode h
  obtain ⟨value, hvalue, h⟩ := exists_of_bind_eq_ok h
  exact ⟨toRequest index value, Option.some.inj (Except.ok.inj h),
    hspells index value hbound
      (prefix_drop_append (i := 0) hindex rfl (prefix_of_readFloatBE hvalue))⟩

theorem spells_of_rawString (toRequest : ByteString → Request)
    (hspells : ∀ text, text.length = payload.length → text <+: payload →
      (toRequest text).Spells op.toByte payload)
    (h : (do
        let text ← bytesAt payload 0 payload.length
        return some (toRequest text).command) = .ok (some inCommand)) :
    ∃ r : Request, r.command = inCommand ∧ r.Spells op.toByte payload := by
  obtain ⟨text, htext, h⟩ := exists_of_bind_eq_ok h
  obtain ⟨hlength, hbegins⟩ := prefix_of_bytesAt htext
  exact ⟨toRequest text, Option.some.inj (Except.ok.inj h), hspells text hlength hbegins⟩

/-- The decoder has accepted the payload of an opcode as a command. -/
theorem spells_of_decodeCommand
    (h : decodeCommand op.toByte payload = .ok (some inCommand)) :
    ∃ r : Request, r.command = inCommand ∧ r.Spells op.toByte payload := by
  rw [decodeCommand, Opcode.ofByte_toByte] at h
  cases op with
  | getStatus =>
      exact spells_of_noArgument .getStatus rfl not_false trivial rfl h
  | getDevices =>
      exact spells_of_noArgument .getDevices rfl not_false trivial rfl h
  | resetSpeakerPositions =>
      exact spells_of_noArgument .resetSpeakerPositions rfl not_false trivial rfl h
  | getHrtfCatalog =>
      exact spells_of_noArgument .getHrtfCatalog rfl not_false trivial rfl h
  | getHwEqState =>
      exact spells_of_noArgument .getHwEqState rfl not_false trivial rfl h
  | getBassEnhancerState =>
      exact spells_of_noArgument .getBassEnhancerState rfl not_false trivial rfl h
  | getContentStreams =>
      exact spells_of_noArgument .getContentStreams rfl not_false trivial rfl h
  | getEqPresetCatalog =>
      exact spells_of_noArgument .getEqPresetCatalog rfl not_false trivial rfl h
  | setSpatialMode =>
      obtain ⟨-, h⟩ := passed_of_decode h
      obtain ⟨mode, hmode, h⟩ := exists_of_bind_eq_ok h
      obtain ⟨hvalid, h⟩ := passed_of_decode h
      obtain rfl := Option.some.inj (Except.ok.inj h)
      exact ⟨.setSpatialMode ⟨mode⟩, rfl, .unflagged rfl not_false
        (UInt8.not_lt.mp hvalid) (prefix_of_byteAt hmode)⟩
  | setHrtfFile =>
      exact spells_of_byte .setHrtfFile
        (fun _ hbegins => .unflagged rfl not_false trivial hbegins) h
  | setHwEqPreset =>
      exact spells_of_byte .setHwEqPreset
        (fun _ hbegins => .unflagged rfl not_false trivial hbegins) h
  | setSpeakerAzimuth =>
      exact spells_of_speakerFloat .setSpeakerAzimuth
        (fun _ _ hbound hbegins => .unflagged rfl not_false hbound hbegins) h
  | setSpeakerDistance =>
      exact spells_of_speakerFloat .setSpeakerDistance
        (fun _ _ hbound hbegins => .unflagged rfl not_false hbound hbegins) h
  | setTestNoise =>
      exact spells_of_flag .setTestNoise
        (fun _ hflag => ⟨rfl, trivial, hflag, False.elim⟩) h
  | setNearFieldEnabled =>
      exact spells_of_flag .setNearFieldEnabled
        (fun _ hflag => ⟨rfl, trivial, hflag, False.elim⟩) h
  | setSpeakerMute =>
      -- The index stands beside a flag, so it is looked up with the flags read.
      obtain ⟨-, h⟩ := passed_of_decode h
      obtain ⟨index, hindex, h⟩ := exists_of_bind_eq_ok h
      rw [← byteAt_withFlags (i := 0) (show 0 ∉ [1] by decide)] at hindex
      obtain ⟨hbound, h⟩ := passed_of_decode h
      obtain ⟨bMuted, hmuted, rfl⟩ := flag_of_decode (List.mem_singleton_self 1) h
      exact ⟨.setSpeakerMute index bMuted, rfl, rfl, Nat.not_le.mp hbound,
        prefix_drop_append (i := 0) (prefix_of_byteAt hindex) rfl hmuted, False.elim⟩
  | setHwEqBand =>
      obtain ⟨-, h⟩ := passed_of_decode h
      obtain ⟨index, hbound, hindex, h⟩ := index_of_decode h
      obtain ⟨band, hvalid, hband, rfl⟩ := band_of_decode h
      exact ⟨.setHwEqBand index band, rfl, .unflagged rfl not_false ⟨hbound, hvalid⟩
        (prefix_drop_append (i := 0) hindex rfl hband)⟩
  | setOutputDevice =>
      exact spells_of_rawString .setOutputDevice
        (fun _ hlength hbegins => ⟨rfl, trivial,
          (withFlags_nil payload).symm ▸ hbegins, fun _ => hlength⟩) h
  | saveHwEqPreset =>
      exact spells_of_rawString .saveHwEqPreset
        (fun _ hlength hbegins => ⟨rfl, trivial,
          (withFlags_nil payload).symm ▸ hbegins, fun _ => hlength⟩) h
  | setBassEnhancer =>
      obtain ⟨hlength, h⟩ := passed_of_decode h
      obtain ⟨settings, hsettings, h⟩ := exists_of_bind_eq_ok h
      obtain rfl := Option.some.inj (Except.ok.inj h)
      have hdecode : decodeBassEnhancerStateResponse payload = .ok (some settings) := by
        rw [decodeBassEnhancerStateResponse, if_neg hlength, hsettings]
        rfl
      rw [decodeBassEnhancerStateResponse_eq_some_iff,
        encodeBassEnhancerStateResponse_eq, framePayload_encodeMessage] at hdecode
      exact ⟨.setBassEnhancer settings, rfl, rfl, trivial,
        hdecode ▸ List.prefix_refl _, fun _ => (not_not.mp hlength).symm⟩
  | setContentEqBand =>
      obtain ⟨app, offset, hfits, hoffset, happ, h⟩ := app_of_decode h
      obtain ⟨-, h⟩ := passed_of_decode h
      obtain ⟨index, hbound, hindex, h⟩ := index_of_decode h
      obtain ⟨band, hvalid, hband, rfl⟩ := band_of_decode h
      have hbehind : index :: eqBandBytes band <+: payload.drop offset :=
        prefix_drop_append hindex rfl hband
      exact ⟨.setContentEqBand app index band, rfl, .unflagged rfl not_false
        ⟨hfits, hbound, hvalid⟩ (prefix_drop_append (i := 0) happ hoffset hbehind)⟩
  | setContentEqPreset =>
      obtain ⟨app, offset, hfits, hoffset, happ, h⟩ := app_of_decode h
      obtain ⟨-, h⟩ := passed_of_decode h
      obtain ⟨index, hindex, h⟩ := exists_of_bind_eq_ok h
      obtain rfl := Option.some.inj (Except.ok.inj h)
      exact ⟨.setContentEqPreset app index, rfl, .unflagged rfl not_false hfits
        (prefix_drop_append (i := 0) happ hoffset (prefix_of_byteAt hindex))⟩
  | saveContentEqPreset =>
      obtain ⟨app, offset, hfits, hoffset, happ, h⟩ := app_of_decode h
      obtain ⟨name, htext, h⟩ := exists_of_bind_eq_ok h
      obtain rfl := Option.some.inj (Except.ok.inj h)
      obtain ⟨hlength, htext⟩ := prefix_of_bytesAt htext
      have hwhole : stringBytes app ++ name <+: payload :=
        prefix_drop_append (i := 0) happ hoffset htext
      have hle := happ.length_le
      refine ⟨.saveContentEqPreset app name, rfl, rfl, hfits,
        (withFlags_nil payload).symm ▸ hwhole, fun _ => ?_⟩
      simp only [List.drop_zero] at hle
      simp only [spelling, List.length_append]
      omega
  | statusResponse | errorResponse | deviceListResponse | hrtfCatalogResponse
  | contentStreamListResponse | eqPresetCatalogResponse | hwEqStateResponse
  | bassEnhancerStateResponse => cases h

end

/-! ## What was written is read -/

theorem readFloatBE_behind (b : UInt8) (value : Binary32) (after : List UInt8) :
    readFloatBE (b :: (bytesOfUInt32 value.bits ++ after)) 1 = .ok value :=
  readFloatBE_at [b] after (by simp) rfl

theorem readBool_front (b : Bool) (after : List UInt8) :
    readBool ((if b then 1 else 0) :: after) 0 = .ok b :=
  readBool_at [] after rfl rfl

theorem readBool_behind (first : UInt8) (b : Bool) (after : List UInt8) :
    readBool (first :: (if b then 1 else 0) :: after) 1 = .ok b :=
  readBool_at [first] after rfl rfl

/-- The arguments are read from the front of a payload, whatever follows. -/
theorem decodeCommand_spelling (r : Request) (h : r.Admissible) (after : List UInt8)
    (hclosed : r.Closed → after = []) :
    decodeCommand r.command.commandOpcode.toByte (r.spelling ++ after) =
      .ok (some r.command) := by
  rw [decodeCommand]
  cases r with
  | getStatus | getDevices | resetSpeakerPositions | getHrtfCatalog | getHwEqState
  | getBassEnhancerState | getContentStreams | getEqPresetCatalog => rfl
  | setSpatialMode mode =>
      have hmode : ¬ SpatialMode.advanced.toByte < mode.toByte := UInt8.not_lt.mpr h
      simp [command, Opcode.ofByte_toByte, spelling, payload, hmode]
  | setHrtfFile i => simp [command, Opcode.ofByte_toByte, spelling, payload]
  | setHwEqPreset i => simp [command, Opcode.ofByte_toByte, spelling, payload]
  | setTestNoise b =>
      simp [command, Opcode.ofByte_toByte, spelling, payload, readBool_front]
  | setNearFieldEnabled b =>
      simp [command, Opcode.ofByte_toByte, spelling, payload, readBool_front]
  | setSpeakerMute i b =>
      have hindex : ¬ speakerCount ≤ i.toNat := Nat.not_le.mpr h
      simp [command, Opcode.ofByte_toByte, spelling, payload, hindex, readBool_behind]
  | setSpeakerAzimuth i azimuth =>
      have hindex : ¬ speakerCount ≤ i.toNat := Nat.not_le.mpr h
      simp [command, Opcode.ofByte_toByte, spelling, payload, hindex,
        readFloatBE_behind]
  | setSpeakerDistance i distance =>
      have hindex : ¬ speakerCount ≤ i.toNat := Nat.not_le.mpr h
      simp [command, Opcode.ofByte_toByte, spelling, payload, hindex,
        readFloatBE_behind]
  | setOutputDevice name =>
      obtain rfl := hclosed trivial
      simp [command, Opcode.ofByte_toByte, spelling, bytesAt_all]
  | saveHwEqPreset name =>
      obtain rfl := hclosed trivial
      simp [command, Opcode.ofByte_toByte, spelling, bytesAt_all]
  | setHwEqBand i band =>
      have hindex : ¬ maxEqBands ≤ i.toNat := Nat.not_le.mpr h.1
      have hvalid : ¬ EqFilterType.notch.toByte < band.filterType.toByte :=
        UInt8.not_lt.mpr h.2
      have hfilter : byteAt (i :: (eqBandBytes band ++ after)) 1 =
          .ok band.filterType.toByte :=
        byteAt_filterType [i] after rfl rfl
      have hband : readEqBand (i :: (eqBandBytes band ++ after)) 1 = .ok band :=
        readEqBand_at [i] after rfl rfl
      have hlength : 1 + eqBandWireSize ≤ eqBandWireSize + after.length + 1 := by
        omega
      simp [command, Opcode.ofByte_toByte, spelling, payload, hlength, hindex, hfilter,
        hvalid, hband]
  | setBassEnhancer settings =>
      obtain rfl := hclosed trivial
      have hread : readBassEnhancerSettings (bassEnhancerBytes settings) 0 =
          .ok settings :=
        readBassEnhancerSettings_at [] [] (by simp) rfl
      simp [command, Opcode.ofByte_toByte, spelling, payload, hread]
  | setContentEqBand app i band =>
      have hmin : min app.length 0xFFFF = app.length := Nat.min_eq_left h.1
      have hindex : ¬ maxEqBands ≤ i.toNat := Nat.not_le.mpr h.2.1
      have hvalid : ¬ EqFilterType.notch.toByte < band.filterType.toByte :=
        UInt8.not_lt.mpr h.2.2
      have hfront := readString_front h.1 (i :: (eqBandBytes band ++ after))
      have hfirst : byteAt (stringBytes app ++ i :: (eqBandBytes band ++ after))
          (2 + app.length) = .ok i :=
        byteAt_at rfl (by simp [hmin])
      have hfilter : byteAt (stringBytes app ++ i :: (eqBandBytes band ++ after))
          (2 + app.length + 1) = .ok band.filterType.toByte :=
        byteAt_filterType (stringBytes app ++ [i]) after (by simp) (by simp [hmin])
      have hband : readEqBand (stringBytes app ++ i :: (eqBandBytes band ++ after))
          (2 + app.length + 1) = .ok band :=
        readEqBand_at (stringBytes app ++ [i]) after (by simp) (by simp [hmin])
      have hlength : ¬ (stringBytes app ++ i :: (eqBandBytes band ++ after)).length <
          2 + app.length + (1 + eqBandWireSize) := by
        simp only [List.length_append, length_stringBytes, hmin, List.length_cons,
          length_eqBandBytes]
        omega
      simp only [command, spelling, payload, List.append_assoc, List.cons_append,
        Opcode.ofByte_toByte, hfront, ok_bind, if_neg hlength, hfirst, if_neg hindex,
        hfilter, if_neg hvalid, hband]
      rfl
  | setContentEqPreset app i =>
      have hmin : min app.length 0xFFFF = app.length := Nat.min_eq_left h
      have hfront := readString_front h (i :: after)
      have hfirst : byteAt (stringBytes app ++ i :: after) (2 + app.length) = .ok i :=
        byteAt_at rfl (by simp [hmin])
      have hlength : ¬ (stringBytes app ++ i :: after).length < 2 + app.length + 1 := by
        simp only [List.length_append, length_stringBytes, hmin, List.length_cons]
        omega
      simp only [command, spelling, payload, List.append_assoc, List.cons_append,
        List.nil_append, Opcode.ofByte_toByte, hfront, ok_bind, if_neg hlength, hfirst]
      rfl
  | saveContentEqPreset app name =>
      obtain rfl := hclosed trivial
      have hmin : min app.length 0xFFFF = app.length := Nat.min_eq_left h
      have hfront := readString_front h name
      have htext : bytesAt (stringBytes app ++ name) (2 + app.length) name.length =
          .ok name := by
        have hbytes := bytesAt_append (stringBytes app) name []
        simpa [hmin] using hbytes
      have hlength : (stringBytes app ++ name).length - (2 + app.length) =
          name.length := by
        simp [hmin]
      simp only [command, spelling, List.append_nil, Opcode.ofByte_toByte, hfront,
        ok_bind, hlength, htext]
      rfl

/-- A payload is accepted as a command exactly if the command is that of some
request whose arguments, flags apart, the payload begins with. -/
theorem decodeCommand_eq_some_iff (inOpcode : UInt8) (payload : List UInt8)
    (inCommand : Command) :
    decodeCommand inOpcode payload = .ok (some inCommand) ↔
      ∃ r : Request, r.command = inCommand ∧ r.Spells inOpcode payload := by
  constructor
  · intro h
    cases hop : Opcode.ofByte inOpcode with
    | none => simp [decodeCommand, hop] at h
    | some op =>
        rw [← Opcode.toByte_of_ofByte hop] at h ⊢
        exact spells_of_decodeCommand h
  · rintro ⟨r, rfl, rfl, hadmissible, ⟨after, hafter⟩, hwhole⟩
    rw [← r.decodeCommand_withFlags, ← hafter]
    refine r.decodeCommand_spelling hadmissible after fun hclosed => ?_
    have hlength := congrArg List.length hafter
    rw [List.length_append, length_withFlags, hwhole hclosed] at hlength
    exact List.eq_nil_of_length_eq_zero (by omega)

/-- A flag of `2` is read, and the byte behind it is not looked at. -/
example : decodeCommand Opcode.setTestNoise.toByte [2, 7] =
    .ok (some { commandOpcode := .setTestNoise, bTestNoiseEnabled := true }) := by
  decide

end Request

end RamkolFX
