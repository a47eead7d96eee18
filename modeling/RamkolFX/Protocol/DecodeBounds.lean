import RamkolFX.Protocol.Commands

/-!
# Control protocol: the command decoder stays inside its payload

`decodeCommand` answers every payload: no branch reads an index its length
checks do not cover.  The commands it returns hold only values that the daemon
can use as they are: indices below the array sizes and named enum values.
-/

namespace RamkolFX

open Support

theorem readFloatBE_yields {payload : List UInt8} {i : ℕ}
    (h : i + 4 ≤ payload.length) :
    Yields (readFloatBE payload i) fun _ => True := by
  obtain ⟨w, hw, -⟩ := uint32At_yields h
  exact ⟨⟨w⟩, by simp [readFloatBE, hw], trivial⟩

theorem readBool_yields {payload : List UInt8} {i : ℕ}
    (h : i < payload.length) :
    Yields (readBool payload i) fun _ => True := by
  obtain ⟨b, hb, -⟩ := byteAt_yields h
  exact ⟨decide (b ≠ 0), by simp [readBool, hb], trivial⟩

/-- The band's filter type is the byte at the offset. -/
theorem readEqBand_yields {payload : List UInt8} {i : ℕ}
    (h : i + eqBandWireSize ≤ payload.length) :
    Yields (readEqBand payload i) fun band =>
      byteAt payload i = .ok band.filterType.toByte := by
  rw [eqBandWireSize] at h
  refine (byteAt_yields (by omega)).bind fun filterType hfilter => ?_
  refine (readFloatBE_yields (by omega)).bind fun _ _ => ?_
  refine (readFloatBE_yields (by omega)).bind fun _ _ => ?_
  refine (readFloatBE_yields (by omega)).bind fun _ _ => ?_
  exact Yields.pure hfilter

theorem readBassEnhancerSettings_yields {payload : List UInt8} {i : ℕ}
    (h : i + bassEnhancerWireSize ≤ payload.length) :
    Yields (readBassEnhancerSettings payload i) fun _ => True := by
  rw [bassEnhancerWireSize] at h
  refine (readBool_yields (by omega)).bind fun _ _ => ?_
  refine (readFloatBE_yields (by omega)).bind fun _ _ => ?_
  refine (readFloatBE_yields (by omega)).bind fun _ _ => ?_
  refine (readFloatBE_yields (by omega)).bind fun _ _ => ?_
  exact Yields.pure trivial

/-- The offset behind a string is still inside the payload. -/
theorem readString_yields (payload : List UInt8) (offset : ℕ) :
    Yields (readString payload offset) fun result =>
      ∀ value next, result = some (value, next) → next ≤ payload.length := by
  refine Yields.ite (fun _ => Yields.pure (by simp)) fun hlen => ?_
  refine (uint16At_yields (by omega)).bind fun len _ => ?_
  refine Yields.ite (fun _ => Yields.pure (by simp)) fun hvalue => ?_
  refine (bytesAt_yields (by omega)).bind fun text _ => Yields.pure ?_
  rintro value next ⟨⟩
  omega

/-- A command the daemon can execute as it stands: the indices are below the
array sizes, the enum values are named ones, and the device name came out of a
payload of at most `limit` bytes. -/
structure Command.InBounds (command : Command) (limit : ℕ) : Prop where
  modeValue : command.modeValue.IsValid
  speakerIndex : command.speakerIndex.toNat < speakerCount
  bandIndex : command.bandIndex.toNat < maxEqBands
  filterType : command.band.filterType.IsValid
  outputDeviceName : command.outputDeviceName.length ≤ limit

/-- What a decoded command is, if the payload is accepted. -/
def DecodedInBounds (limit : ℕ) (result : Option Command) : Prop :=
  ∀ command, result = some command → command.InBounds limit

theorem decodedInBounds_none (limit : ℕ) : DecodedInBounds limit none := by
  simp [DecodedInBounds]

theorem decodedInBounds_some
    {command : Command} {limit : ℕ} (h : command.InBounds limit) :
    DecodedInBounds limit (some command) := by
  rintro _ ⟨⟩
  exact h

theorem yields_none (limit : ℕ) :
    Yields (pure none) (DecodedInBounds limit) :=
  Yields.pure (decodedInBounds_none limit)

theorem inBounds_default (op : Opcode) (limit : ℕ) :
    ({ commandOpcode := op } : Command).InBounds limit where
  modeValue := show SpatialMode.off.IsValid by decide
  speakerIndex := show 0 < speakerCount by decide
  bandIndex := show 0 < maxEqBands by decide
  filterType := show EqFilterType.peaking.IsValid by decide
  outputDeviceName := Nat.zero_le limit

theorem yields_some {command : Command} {limit : ℕ}
    (h : command.InBounds limit) :
    Yields (pure (some command)) (DecodedInBounds limit) :=
  Yields.pure (decodedInBounds_some h)

/-- The decoder reads an index, refuses it from a bound on and goes on with it
below. -/
theorem indexBelow_yields {payload : List UInt8} {i bound limit : ℕ}
    {rest : UInt8 → Checked (Option Command)} (hi : i < payload.length)
    (hrest : ∀ index : UInt8, index.toNat < bound →
      Yields (rest index) (DecodedInBounds limit)) :
    Yields
      (do
        let index ← byteAt payload i
        if bound ≤ index.toNat then return none else rest index)
      (DecodedInBounds limit) := by
  refine (byteAt_yields hi).bind fun index _ => ?_
  refine Yields.ite (fun _ => yields_none _) fun hindex => ?_
  exact hrest index (not_le.mp hindex)

/-- The decoder looks at the filter type of a band before it reads the band. -/
theorem checkedEqBand_yields {payload : List UInt8} {i limit : ℕ}
    {toCommand : EqBand → Command} (hi : i + eqBandWireSize ≤ payload.length)
    (hcommand : ∀ band : EqBand, band.filterType.IsValid →
      (toCommand band).InBounds limit) :
    Yields
      (do
        let filterType ← byteAt payload i
        if EqFilterType.notch.toByte < filterType then return none
        else do
          let band ← readEqBand payload i
          return some (toCommand band))
      (DecodedInBounds limit) := by
  have hfirst : i < payload.length := by
    rw [eqBandWireSize] at hi
    omega
  refine (byteAt_yields hfirst).bind fun filterType hread => ?_
  refine Yields.ite (fun _ => yields_none _) fun hfilter => ?_
  refine (readEqBand_yields hi).bind fun band hband => ?_
  have htype : filterType = band.filterType.toByte :=
    Except.ok.inj (hread.symm.trans hband)
  subst htype
  exact yields_some (hcommand band (UInt8.not_lt.mp hfilter))

/-- No access of `decodeCommand` leaves the payload, and every command it
returns is in bounds. -/
theorem decodeCommand_yields (inOpcode : UInt8) (payload : List UInt8) :
    Yields (decodeCommand inOpcode payload)
      (DecodedInBounds payload.length) := by
  unfold decodeCommand
  cases Opcode.ofByte inOpcode with
  | none => exact yields_none _
  | some op =>
      have hdefault := inBounds_default op payload.length
      cases op with
      | getStatus | getDevices | resetSpeakerPositions | getHrtfCatalog
      | getHwEqState | getBassEnhancerState | getContentStreams
      | getEqPresetCatalog => exact yields_some hdefault
      | statusResponse | errorResponse | deviceListResponse
      | hrtfCatalogResponse | contentStreamListResponse
      | eqPresetCatalogResponse | hwEqStateResponse
      | bassEnhancerStateResponse => exact yields_none _
      | setSpatialMode =>
          refine Yields.ite (fun _ => yields_none _) fun hlen => ?_
          refine (byteAt_yields (by omega)).bind fun mode _ => ?_
          refine Yields.ite (fun _ => yields_none _) fun hmode => ?_
          exact yields_some { hdefault with modeValue := UInt8.not_lt.mp hmode }
      | setSpeakerAzimuth | setSpeakerDistance =>
          refine Yields.ite (fun _ => yields_none _) fun hlen => ?_
          refine indexBelow_yields (by omega) fun index hindex => ?_
          refine (readFloatBE_yields (by omega)).bind fun _ _ => ?_
          exact yields_some { hdefault with speakerIndex := hindex }
      | setOutputDevice =>
          refine (bytesAt_yields (by omega)).bind fun name hname => ?_
          exact yields_some { hdefault with outputDeviceName := hname.le }
      | setSpeakerMute =>
          refine Yields.ite (fun _ => yields_none _) fun hlen => ?_
          refine indexBelow_yields (by omega) fun index hindex => ?_
          refine (readBool_yields (by omega)).bind fun _ _ => ?_
          exact yields_some { hdefault with speakerIndex := hindex }
      | setTestNoise | setNearFieldEnabled =>
          refine Yields.ite (fun _ => yields_none _) fun hlen => ?_
          refine (readBool_yields (by omega)).bind fun _ _ => ?_
          exact yields_some { hdefault with }
      | setHrtfFile | setHwEqPreset =>
          refine Yields.ite (fun _ => yields_none _) fun hlen => ?_
          refine (byteAt_yields (by omega)).bind fun _ _ => ?_
          exact yields_some { hdefault with }
      | setHwEqBand =>
          refine Yields.ite (fun _ => yields_none _) fun hlen => ?_
          rw [eqBandWireSize] at hlen
          refine indexBelow_yields (by omega) fun index hindex => ?_
          refine checkedEqBand_yields (by rw [eqBandWireSize]; omega)
            fun band hfilter => ?_
          exact { hdefault with bandIndex := hindex, filterType := hfilter }
      | saveHwEqPreset =>
          refine (bytesAt_yields (by omega)).bind fun name _ => ?_
          exact yields_some { hdefault with }
      | setBassEnhancer =>
          refine Yields.ite (fun _ => yields_none _) fun hlen => ?_
          refine (readBassEnhancerSettings_yields (by omega)).bind fun _ _ => ?_
          exact yields_some { hdefault with }
      | setContentEqBand =>
          refine (readString_yields payload 0).bind fun result hresult => ?_
          cases result with
          | none => exact yields_none _
          | some name =>
              obtain ⟨name, offset⟩ := name
              refine Yields.ite (fun _ => yields_none _) fun hlen => ?_
              rw [eqBandWireSize] at hlen
              refine indexBelow_yields (by omega) fun index hindex => ?_
              refine checkedEqBand_yields (by rw [eqBandWireSize]; omega)
                fun band hfilter => ?_
              exact { hdefault with bandIndex := hindex, filterType := hfilter }
      | setContentEqPreset =>
          refine (readString_yields payload 0).bind fun result hresult => ?_
          cases result with
          | none => exact yields_none _
          | some name =>
              refine Yields.ite (fun _ => yields_none _) fun hlen => ?_
              refine (byteAt_yields (by omega)).bind fun _ _ => ?_
              exact yields_some { hdefault with }
      | saveContentEqPreset =>
          refine (readString_yields payload 0).bind fun result hresult => ?_
          cases result with
          | none => exact yields_none _
          | some name =>
              have hoffset := hresult name.1 name.2 rfl
              refine (bytesAt_yields (by omega)).bind fun _ _ => ?_
              exact yields_some { hdefault with }

end RamkolFX
