import RamkolFX.Daemon.Restart
import RamkolFX.Daemon.SavedSettings
import RamkolFX.Protocol.StateResponses

/-!
# Enumerators from the settings file

The wire decoder refuses a byte that names no mode or no filter type; the
loader casts whatever number the file holds.  The state has named enumerators
throughout exactly if the file does.
-/

namespace RamkolFX

open Support NumberText KeyValueText SettingsStore

/-! ## The file -/

namespace SettingsStore

/-- The number that is read for a key, if one is, has a last byte of at most
the bound. -/
def ByteAtMost (fields : Fields) (key : ByteString) (bound : ℤ) : Prop :=
  ∀ text value, fields.lookup key = some text → stol text = some value →
    value % 256 ≤ bound

/-- The mode and the filter types that a text sets are named ones. -/
structure NamesEnumerators (text : ByteString) : Prop where
  mode : ByteAtMost (fields text) (ascii "mode") 2
  filterType : ∀ i : Fin maxEqBands,
    ByteAtMost (fields text) (hwEqBandKey i (ascii "type")) 5

theorem castToByte_le_iff (value : ℤ) (bound : UInt8) :
    castToByte value ≤ bound ↔ value % 256 ≤ bound.toNat := by
  have hbyte : (castToByte value).toNat = (value % 256).toNat := by
    rw [castToByte, UInt8.toNat_ofNat']
    omega
  rw [UInt8.le_iff_toNat_le, hbyte]
  omega

/-- A number with a default within the bound. -/
theorem castToByte_getLong_le_iff {fields : Fields} {key : ByteString}
    {default : ℤ} (bound : UInt8) (hdefault : castToByte default ≤ bound) :
    castToByte (getLong fields key default) ≤ bound ↔
      ByteAtMost fields key bound.toNat := by
  rw [getLong]
  constructor
  · intro h text value htext hvalue
    rw [htext, Option.bind_some, hvalue, Option.getD_some] at h
    exact (castToByte_le_iff value bound).mp h
  · intro h
    cases hread : (fields.lookup key).bind stol with
    | none => exact hdefault
    | some value =>
        obtain ⟨text, htext, hvalue⟩ := Option.bind_eq_some_iff.mp hread
        exact (castToByte_le_iff value bound).mpr (h text value htext hvalue)

end SettingsStore

/-- The mode and the filter types are named ones. -/
structure PersistedSettings.EnumeratorsNamed (settings : PersistedSettings) :
    Prop where
  mode : settings.mode.IsValid
  filterType : ∀ i, (settings.hwEqBands i).filterType.IsValid

theorem enumeratorsNamed_loadFields_iff (text : ByteString) :
    (loadFields (fields text)).EnumeratorsNamed ↔ NamesEnumerators text := by
  have hmode : (loadFields (fields text)).mode.IsValid ↔
      ByteAtMost (fields text) (ascii "mode") 2 :=
    castToByte_getLong_le_iff SpatialMode.advanced.toByte (by decide)
  have htype : ∀ i : Fin maxEqBands,
      ((loadFields (fields text)).hwEqBands i).filterType.IsValid ↔
        ByteAtMost (fields text) (hwEqBandKey i (ascii "type")) 5 := by
    intro i
    refine castToByte_getLong_le_iff EqFilterType.notch.toByte ?_
    revert i
    decide
  constructor
  · intro h
    exact ⟨hmode.mp h.mode, fun i => (htype i).mp (h.filterType i)⟩
  · intro h
    exact ⟨hmode.mpr h.mode, fun i => (htype i).mpr (h.filterType i)⟩

namespace AudioEngine

variable {α : Type} [FloatArith α]

/-! ## The start -/

theorem enumeratorsNamed_run_iff (setup : DaemonSetup α) (store : SettingsStore)
    (devices : DeviceRegistry) :
    (run setup store devices).persistedState.EnumeratorsNamed ↔
      ∀ text, store.settingsFile = some text → NamesEnumerators text := by
  have hrestored := restored_run setup store devices
  have hmode : (run setup store devices).mode =
      (RestoredSettings.of store.load).mode := by rw [← hrestored]; rfl
  have hbands : (run setup store devices).hwEqBandState =
      (RestoredSettings.of store.load).hwEqBands := by rw [← hrestored]; rfl
  have hstart : (run setup store devices).persistedState.EnumeratorsNamed ↔
      (RestoredSettings.of store.load).mode.IsValid ∧
        ∀ i, ((RestoredSettings.of store.load).hwEqBands i).filterType.IsValid := by
    rw [← hmode, ← hbands]
    exact ⟨fun h => ⟨h.mode, h.filterType⟩, fun h => ⟨h.1, h.2⟩⟩
  rw [hstart, SettingsStore.load]
  cases store.settingsFile with
  | none =>
      refine iff_of_true ⟨by decide, by decide⟩ ?_
      intro text htext
      cases htext
  | some text =>
      constructor
      · rintro ⟨hmode, htype⟩ text' htext'
        obtain rfl := Option.some.inj htext'
        exact (enumeratorsNamed_loadFields_iff text).mp ⟨hmode, htype⟩
      · intro h
        have hloaded := (enumeratorsNamed_loadFields_iff text).mpr (h text rfl)
        exact ⟨hloaded.mode, hloaded.filterType⟩

/-! ## Events -/

section

variable {libs : DspLibraries α} {engine engine' : AudioEngine α}
  {inCommand : Command}

theorem Applies.hwEqBandState (h : Applies libs engine inCommand engine') :
    engine'.hwEqBandState = engine.hwEqBandState ∨
      ∃ i, engine'.hwEqBandState =
        Function.update engine.hwEqBandState i inCommand.band := by
  cases h with
  | setHwEqBand hop i hband => exact Or.inr ⟨i, rfl⟩
  | _ => exact Or.inl rfl

/-- A decoded command keeps the enumerators named. -/
theorem Handled.enumeratorsNamed (h : Handled libs engine inCommand engine')
    {limit : ℕ} (hbounds : inCommand.InBounds limit)
    (hnamed : engine.persistedState.EnumeratorsNamed) :
    engine'.persistedState.EnumeratorsNamed := by
  constructor
  · show engine'.mode.IsValid
    rw [h.mode]
    split
    · exact hbounds.modeValue
    · exact hnamed.mode
  · obtain ⟨deck, applied, settings, -, happlies, rfl⟩ := h.applied
    intro j
    show (applied.hwEqBandState j).filterType.IsValid
    rcases happlies.hwEqBandState with hbands | ⟨i, hbands⟩
    · rw [hbands]
      exact hnamed.filterType j
    · rw [hbands]
      by_cases hj : j = i
      · rw [hj, Function.update_self]
        exact hbounds.filterType
      · rw [Function.update_of_ne hj]
        exact hnamed.filterType j

end

/-- Every event keeps the enumerators named. -/
theorem enumeratorsNamed_step {setup : DaemonSetup α} {daemon daemon' : Daemon α}
    {event : Event α} (hsound : daemon.engine.Sound)
    (hstep : step setup daemon event = some daemon')
    (hnamed : daemon.engine.persistedState.EnumeratorsNamed) :
    daemon'.engine.persistedState.EnumeratorsNamed := by
  cases hsound.takes hstep with
  | undecoded => exact hnamed
  | handled frame bConnects inCommand limit hcommand hbounds engine' hhandled =>
      exact hhandled.enumeratorsNamed hbounds hnamed
  | rendered interleaved engine' hblock hrendered =>
      rw [(kept_of_handleVirtualSinkAudio hblock).1]
      exact hnamed
  | hardwareOutputRequest | registry | hrtfDirectoryChanged =>
      exact ⟨hnamed.mode, hnamed.filterType⟩

/-! ## The status -/

omit [FloatArith α] in
/-- A client's decoder takes the status. -/
def StatusDecodes (engine : AudioEngine α) : Prop :=
  ∃ decoded, decodeStatusResponse
    ((encodeStatusResponse engine.status).drop headerSize) = .ok (some decoded)

theorem stringBytes_take (value : ByteString) :
    stringBytes (value.take 0xFFFF) = stringBytes value := by
  have hmin : min (min 0xFFFF value.length) 0xFFFF = min value.length 0xFFFF := by
    omega
  rw [stringBytes, stringBytes, List.length_take, hmin, List.take_take]
  congr 2
  omega

omit [FloatArith α] in
/-- Whatever the device's name, a status with a named mode is decoded. -/
theorem statusDecodes_of_mode {engine : AudioEngine α}
    (hmode : engine.mode.IsValid) : StatusDecodes engine := by
  have hbytes : (encodeStatusResponse engine.status).drop headerSize =
      statusFixedBytes engine.status ++
        stringBytes engine.status.outputDeviceName := by
    rw [encodeStatusResponse_eq]
    rfl
  -- the name is cut to what its length field can count
  let cut : Status := { engine.status with
    outputDeviceName := engine.status.outputDeviceName.take 0xFFFF }
  have hdecode := @decodeStatusResponse_bytes cut hmode (List.length_take_le _ _)
  have hfixed : statusFixedBytes cut = statusFixedBytes engine.status := rfl
  rw [stringBytes_take, hfixed, ← hbytes] at hdecode
  exact ⟨cut, hdecode⟩

/-! ## Runs -/

/-- After these events the mode and the filter types are named ones, and the
status is decoded. -/
def EnumeratorsNamedAfter (setup : DaemonSetup α) (start : Daemon α)
    (past : List (Event α)) : Prop :=
  ∃ daemon, runFrom (step setup) start past = some daemon ∧
    daemon.engine.persistedState.EnumeratorsNamed ∧ StatusDecodes daemon.engine

/-- The enumerators stay named through every run exactly when the settings file
names them. -/
theorem enumeratorsNamedAfter_iff (setup : DaemonSetup α) (store : SettingsStore)
    (devices : DeviceRegistry) (run : List (Event α)) :
    Throughout
        (EnumeratorsNamedAfter setup ⟨.run setup store devices, []⟩) run ↔
      ∀ text, store.settingsFile = some text → NamesEnumerators text := by
  rw [← enumeratorsNamed_run_iff setup store devices]
  constructor
  · intro h
    obtain ⟨daemon, hrun, hnamed, -⟩ := h [] List.nil_prefix
    obtain rfl := Option.some.inj hrun
    exact hnamed
  · intro hstart past _
    have hany : AtEachEvent (fun _ _ => True) past := fun _ _ _ => trivial
    have hkept := runFrom_invariant (step setup)
      (fun _ daemon => daemon.engine.Sound ∧
        daemon.engine.persistedState.EnumeratorsNamed)
      (s := ⟨AudioEngine.run setup store devices, []⟩)
      ⟨sound_run setup store devices, hstart⟩ ?_ hany
    · obtain ⟨daemon, hrun, -, hnamed⟩ := hkept
      exact ⟨daemon, hrun, hnamed, statusDecodes_of_mode hnamed.mode⟩
    · rintro past daemon event - ⟨hsound, hnamed⟩ -
      obtain ⟨daemon', hstep, hstepped⟩ := hsound.step setup event
      exact ⟨daemon', hstep, hstepped.sound,
        enumeratorsNamed_step hsound hstep hnamed⟩

/-- A file whose mode is 7 starts the daemon in no named mode. -/
theorem enumeratorsNamedAfter_lost :
    ¬ Throughout
      (EnumeratorsNamedAfter exactSetup
        ⟨run exactSetup ⟨some (ascii "mode=7\n"), true⟩ .new, []⟩) [] := by
  intro h
  obtain ⟨daemon, hrun, hnamed, -⟩ := h.last
  obtain rfl := Option.some.inj hrun
  have hnames := (enumeratorsNamed_run_iff exactSetup _ _).mp hnamed _ rfl
  have hmode := hnames.mode (ascii "7") 7 (by decide) (by decide)
  exact absurd hmode (by decide)

end AudioEngine

end RamkolFX
