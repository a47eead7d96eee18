import RamkolFX.Daemon.AudioEngine
import RamkolFX.Support.Updates

/-!
# Starting twice

A start restores what the settings file holds, and may write the file anew:
what it restored is not what it writes, and a second start reads the latter.
-/

namespace RamkolFX

open Support NumberText KeyValueText SettingsStore

/-- What a start restores. -/
@[ext] structure RestoredSettings where
  speakerAzimuthDegrees : SpeakerChannel → Binary32
  speakerDistanceMeters : SpeakerChannel → Binary32
  speakerMuted : SpeakerChannel → Bool
  mode : SpatialMode
  bNearFieldEnabled : Bool
  hwEqBands : Fin maxEqBands → EqBand
  bassEnhancer : BassEnhancerSettings

namespace RestoredSettings

/-- Without a file, the layout and the filters keep their own defaults. -/
def ofDefaults : RestoredSettings where
  speakerAzimuthDegrees := SpeakerLayout.new.speakerAzimuthDegrees
  speakerDistanceMeters := SpeakerLayout.new.speakerDistanceMeters
  speakerMuted := SpeakerLayout.new.speakerMuted
  mode := .off
  bNearFieldEnabled := false
  hwEqBands := defaultHwEqBands
  bassEnhancer := {}

/-- What a file says, the distances as the layout stores them. -/
def ofLoaded (loadedSettings : PersistedSettings) : RestoredSettings where
  speakerAzimuthDegrees := loadedSettings.speakerAzimuthDegrees
  speakerDistanceMeters := fun speaker =>
    clampDistance (loadedSettings.speakerDistanceMeters speaker)
  speakerMuted := loadedSettings.speakerMuted
  mode := loadedSettings.mode
  bNearFieldEnabled := loadedSettings.bNearFieldEnabled
  hwEqBands := loadedSettings.hwEqBands
  bassEnhancer := loadedSettings.bassEnhancer

def of : Option PersistedSettings → RestoredSettings
  | none => ofDefaults
  | some loadedSettings => ofLoaded loadedSettings

end RestoredSettings

namespace AudioEngine

variable {α : Type} [FloatArith α]

omit [FloatArith α] in
def restored (engine : AudioEngine α) : RestoredSettings where
  speakerAzimuthDegrees := engine.sharedLayout.speakerAzimuthDegrees
  speakerDistanceMeters := engine.sharedLayout.speakerDistanceMeters
  speakerMuted := engine.sharedLayout.speakerMuted
  mode := engine.mode
  bNearFieldEnabled := engine.bNearFieldEnabled
  hwEqBands := engine.hwEqBandState
  bassEnhancer := engine.bassEnhancerSettingsState

theorem restoreLayout_eq (loadedSettings : PersistedSettings) :
    (restoreLayout loadedSettings).speakerAzimuthDegrees =
        loadedSettings.speakerAzimuthDegrees ∧
      (restoreLayout loadedSettings).speakerDistanceMeters =
        (fun speaker =>
          clampDistance (loadedSettings.speakerDistanceMeters speaker)) ∧
      (restoreLayout loadedSettings).speakerMuted =
        loadedSettings.speakerMuted := by
  refine ⟨?_, ?_, ?_⟩
  · exact foldl_update_finRange SpeakerLayout.speakerAzimuthDegrees
      (fun _ _ => rfl) .new
  · exact foldl_update_finRange SpeakerLayout.speakerDistanceMeters
      (fun _ _ => rfl) .new
  · exact foldl_update_finRange SpeakerLayout.speakerMuted (fun _ _ => rfl) .new

/-- A start restores what the store loads. -/
theorem restored_run (setup : DaemonSetup α) (store : SettingsStore)
    (devices : DeviceRegistry) :
    (run setup store devices).restored = .of store.load := by
  cases hload : store.load with
  | none =>
      simp only [restored, run, hload]
      rfl
  | some loadedSettings =>
      obtain ⟨hazimuth, hdistance, hmuted⟩ := restoreLayout_eq loadedSettings
      simp only [restored, run, hload, Option.map_some, Option.getD_some,
        hazimuth, hdistance, hmuted]
      rfl

/-! ## What a written file is read as -/

/-- What a start writes: what was loaded, or the defaults of the settings, with
the resolved device. -/
def written (loadedSettings : Option PersistedSettings)
    (initialOutputDevice : ByteString) : PersistedSettings :=
  { loadedSettings.getD {} with outputDeviceName := initialOutputDevice }

/-- The text read for a key has a property: the printed one if no further line
of the device's name sets the key, and else the one it is set to. -/
structure KeptAt (device key printed : ByteString) (Reads : ByteString → Prop) :
    Prop where
  printed : (strayFields device).lookup key = none → Reads printed
  injected : ∀ text, (strayFields device).lookup key = some text → Reads text

def KeptFloat (device key : ByteString) (default saved restored : Binary32) :
    Prop :=
  KeptAt device key (printFloat saved) fun text =>
    (stof text).getD default = restored

def KeptBool (device key : ByteString) (saved restored : Bool) : Prop :=
  KeptAt device key (printBool saved) fun text =>
    decide (text = ascii "1") = restored

/-- The values saved under the numeric keys are read back as the ones
restored. -/
structure ReadsBack (device : ByteString) (saved : PersistedSettings)
    (restored : RestoredSettings) : Prop where
  azimuth : ∀ i : SpeakerChannel,
    KeptFloat device (speakerKey i (ascii "azimuth")) ⟨0⟩
      (saved.speakerAzimuthDegrees i) (restored.speakerAzimuthDegrees i)
  distance : ∀ i : SpeakerChannel,
    KeptAt device (speakerKey i (ascii "distance"))
      (printFloat (saved.speakerDistanceMeters i)) fun text =>
        clampDistance ((stof text).getD ⟨0⟩) = restored.speakerDistanceMeters i
  muted : ∀ i : SpeakerChannel,
    KeptBool device (speakerKey i (ascii "muted")) (saved.speakerMuted i)
      (restored.speakerMuted i)
  filterType : ∀ i : Fin maxEqBands,
    KeptAt device (hwEqBandKey i (ascii "type"))
      (printNat (saved.hwEqBands i).filterType.toByte.toNat) fun text =>
        castToByte ((stol text).getD
          (defaultHwEqBands i).filterType.toByte.toNat) =
            (restored.hwEqBands i).filterType.toByte
  frequencyHz : ∀ i : Fin maxEqBands,
    KeptFloat device (hwEqBandKey i (ascii "freq"))
      (defaultHwEqBands i).frequencyHz (saved.hwEqBands i).frequencyHz
      (restored.hwEqBands i).frequencyHz
  gainDb : ∀ i : Fin maxEqBands,
    KeptFloat device (hwEqBandKey i (ascii "gain")) (defaultHwEqBands i).gainDb
      (saved.hwEqBands i).gainDb (restored.hwEqBands i).gainDb
  q : ∀ i : Fin maxEqBands,
    KeptFloat device (hwEqBandKey i (ascii "q")) (defaultHwEqBands i).q
      (saved.hwEqBands i).q (restored.hwEqBands i).q
  bEnabled :
    KeptBool device (ascii "bass_enhancer.enabled") saved.bassEnhancer.bEnabled
      restored.bassEnhancer.bEnabled
  cutoffHz :
    KeptFloat device (ascii "bass_enhancer.cutoff_hz")
      ({} : BassEnhancerSettings).cutoffHz saved.bassEnhancer.cutoffHz
      restored.bassEnhancer.cutoffHz
  drive :
    KeptFloat device (ascii "bass_enhancer.drive")
      ({} : BassEnhancerSettings).drive saved.bassEnhancer.drive
      restored.bassEnhancer.drive
  mix :
    KeptFloat device (ascii "bass_enhancer.mix")
      ({} : BassEnhancerSettings).mix saved.bassEnhancer.mix
      restored.bassEnhancer.mix

/-- `KeptAt` is about the text that is read. -/
theorem keptAt_iff {inSettings : PersistedSettings} {key printed : ByteString}
    {Reads : ByteString → Prop}
    (hname : strayFields inSettings.activeHrtfDisplayName = []) :
    KeptAt inSettings.outputDeviceName key printed Reads ↔
      Reads (textFor inSettings key printed) := by
  rw [textFor, injectedFields, hname, List.append_nil]
  constructor
  · intro h
    cases hlookup : (strayFields inSettings.outputDeviceName).lookup key with
    | none => exact h.printed hlookup
    | some text => exact h.injected text hlookup
  · intro h
    constructor
    · intro hnone
      rwa [hnone] at h
    · intro text hsome
      rwa [hsome] at h

section

variable {inSettings : PersistedSettings} {key : ByteString}

theorem keptFloat_iff (hname : strayFields inSettings.activeHrtfDisplayName = [])
    {default saved restored : Binary32}
    (h : (key, printFloat saved) ∈ numericEntries inSettings) :
    KeptFloat inSettings.outputDeviceName key default saved restored ↔
      getFloat (fields (saveText inSettings)) key default = restored := by
  rw [KeptFloat, keptAt_iff hname, getFloat_saveText h]

theorem keptBool_iff (hname : strayFields inSettings.activeHrtfDisplayName = [])
    {default saved restored : Bool}
    (h : (key, printBool saved) ∈ numericEntries inSettings) :
    KeptBool inSettings.outputDeviceName key saved restored ↔
      getBool (fields (saveText inSettings)) key default = restored := by
  rw [KeptBool, keptAt_iff hname, getBool_saveText h]

end

theorem mode_loadFields_saveText (inSettings : PersistedSettings) :
    (loadFields (fields (saveText inSettings))).mode = inSettings.mode := by
  rw [loadFields, getLong, lookup_mode_saveText, Option.bind_some,
    stol_printNat_toNat, Option.getD_some, castToByte_toNat]

theorem bNearFieldEnabled_loadFields_saveText (inSettings : PersistedSettings) :
    (loadFields (fields (saveText inSettings))).bNearFieldEnabled =
      inSettings.bNearFieldEnabled := by
  rw [loadFields, getBool, lookup_near_field_saveText, Option.map_some,
    Option.getD_some, eq_one_printBool]

/-- A saved file restores some settings exactly when it reads back as them. -/
theorem ofLoaded_saveText_iff {inSettings : PersistedSettings}
    {restored : RestoredSettings}
    (hname : strayFields inSettings.activeHrtfDisplayName = [])
    (hmode : inSettings.mode = restored.mode)
    (hnear : inSettings.bNearFieldEnabled = restored.bNearFieldEnabled) :
    RestoredSettings.ofLoaded (loadFields (fields (saveText inSettings))) =
        restored ↔
      ReadsBack inSettings.outputDeviceName inSettings restored := by
  have hentries := hasNumericEntries inSettings
  rw [RestoredSettings.ext_iff]
  simp only [RestoredSettings.ofLoaded, loadFields, getEqBand, getBassEnhancer,
    funext_iff, EqBand.ext_iff, EqFilterType.ext_iff,
    BassEnhancerSettings.ext_iff]
  constructor
  · rintro ⟨hazimuth, hdistance, hmuted, -, -, hbands, henabled', hcutoff',
      hdrive', hmix'⟩
    constructor
    case azimuth =>
      exact fun i => (keptFloat_iff hname (hentries.azimuth i)).mpr (hazimuth i)
    case distance =>
      intro i
      rw [keptAt_iff hname, ← getFloat_saveText (hentries.distance i)]
      exact hdistance i
    case muted =>
      exact fun i => (keptBool_iff hname (hentries.muted i)).mpr (hmuted i)
    case filterType =>
      intro i
      rw [keptAt_iff hname, ← getLong_saveText (hentries.filterType i)]
      exact (hbands i).1
    case frequencyHz =>
      exact fun i => (keptFloat_iff hname (hentries.frequencyHz i)).mpr (hbands i).2.1
    case gainDb =>
      exact fun i => (keptFloat_iff hname (hentries.gainDb i)).mpr (hbands i).2.2.1
    case q =>
      exact fun i => (keptFloat_iff hname (hentries.q i)).mpr (hbands i).2.2.2
    case bEnabled => exact (keptBool_iff hname hentries.bEnabled).mpr henabled'
    case cutoffHz => exact (keptFloat_iff hname hentries.cutoffHz).mpr hcutoff'
    case drive => exact (keptFloat_iff hname hentries.drive).mpr hdrive'
    case mix => exact (keptFloat_iff hname hentries.mix).mpr hmix'
  · intro h
    refine ⟨?_, ?_, ?_, ?_, ?_, ?_, ?_, ?_, ?_, ?_⟩
    · exact fun i => (keptFloat_iff hname (hentries.azimuth i)).mp (h.azimuth i)
    · intro i
      rw [getFloat_saveText (hentries.distance i)]
      exact (keptAt_iff hname).mp (h.distance i)
    · exact fun i => (keptBool_iff hname (hentries.muted i)).mp (h.muted i)
    · exact (mode_loadFields_saveText inSettings).trans hmode
    · exact (bNearFieldEnabled_loadFields_saveText inSettings).trans hnear
    · intro i
      refine ⟨?_, ?_, ?_, ?_⟩
      · rw [getLong_saveText (hentries.filterType i)]
        exact (keptAt_iff hname).mp (h.filterType i)
      · exact (keptFloat_iff hname (hentries.frequencyHz i)).mp (h.frequencyHz i)
      · exact (keptFloat_iff hname (hentries.gainDb i)).mp (h.gainDb i)
      · exact (keptFloat_iff hname (hentries.q i)).mp (h.q i)
    · exact (keptBool_iff hname hentries.bEnabled).mp h.bEnabled
    · exact (keptFloat_iff hname hentries.cutoffHz).mp h.cutoffHz
    · exact (keptFloat_iff hname hentries.drive).mp h.drive
    · exact (keptFloat_iff hname hentries.mix).mp h.mix

/-! ## The second start -/

/-- What a start writes keeps the display name it loaded, on one line. -/
theorem strayFields_written (store : SettingsStore)
    (initialOutputDevice : ByteString) :
    strayFields (written store.load initialOutputDevice).activeHrtfDisplayName =
      [] := by
  rw [SettingsStore.load]
  cases store.settingsFile with
  | none => rfl
  | some text => exact strayFields_loaded text

/-- A second start after one that wrote the file. -/
theorem restored_rerun_iff_of_written (setup : DaemonSetup α)
    {store : SettingsStore} {devices : DeviceRegistry}
    (devices' : DeviceRegistry) (hwritable : store.bWritable = true)
    (hother : store.load.map PersistedSettings.outputDeviceName ≠
      some (resolveInitialOutputDevice setup.order devices store.load)) :
    let first := run setup store devices
    let device := resolveInitialOutputDevice setup.order devices store.load
    (run setup first.settings devices').restored = first.restored ↔
      ReadsBack device (written store.load device) (.of store.load) := by
  intro first device
  have hsettings : first.settings =
      { store with settingsFile := some (saveText (written store.load device)) } := by
    show rememberOutputDevice store store.load device = _
    rw [rememberOutputDevice, if_neg hother, SettingsStore.save, if_pos hwritable]
    rfl
  have hload : first.settings.load =
      some (loadFields (fields (saveText (written store.load device)))) := by
    rw [hsettings]
    rfl
  rw [restored_run, restored_run, hload]
  apply ofLoaded_saveText_iff (strayFields_written store device)
  · cases store.load <;> rfl
  · cases store.load <;> rfl

/-- Without a file, the positions that are written are zeros and not the ones of
the layout: only a device name that sets them by lines of its own helps. -/
theorem not_readsBack_defaults {device : ByteString}
    (hline : strayFields device = []) :
    ¬ ReadsBack device (written none device) .ofDefaults := by
  intro h
  have hzero : (stof (printFloat ⟨0⟩)).getD ⟨0⟩ = ⟨0⟩ := by decide +kernel
  have hazimuth := (h.azimuth 0).printed (by rw [hline]; rfl)
  exact absurd (hzero.symm.trans hazimuth) (by decide)

/-- The file stays as it is, or what is written reads back as what was
restored. -/
def RestartKeeps (order : DeviceOrder) (store : SettingsStore)
    (devices : DeviceRegistry) : Prop :=
  let device := resolveInitialOutputDevice order devices store.load
  store.bWritable = false ∨
    store.load.map PersistedSettings.outputDeviceName = some device ∨
    ReadsBack device (written store.load device) (.of store.load)

/-- A second start restores what the first one did exactly when the first one
left the file as it was or wrote what reads back as what it restored. -/
theorem restored_rerun_iff (setup : DaemonSetup α) (store : SettingsStore)
    (devices devices' : DeviceRegistry) :
    let first := run setup store devices
    (run setup first.settings devices').restored = first.restored ↔
      RestartKeeps setup.order store devices := by
  intro first
  have hsame : first.settings = store →
      (run setup first.settings devices').restored = first.restored := by
    intro hsettings
    rw [hsettings, restored_run, restored_run]
  by_cases hwritable : store.bWritable = true
  · by_cases hdevice : store.load.map PersistedSettings.outputDeviceName =
        some (resolveInitialOutputDevice setup.order devices store.load)
    · refine iff_of_true (hsame (if_pos hdevice)) (Or.inr (Or.inl hdevice))
    · have hwritten :=
        restored_rerun_iff_of_written setup devices' hwritable hdevice
      constructor
      · intro hrestored
        exact Or.inr (Or.inr (hwritten.mp hrestored))
      · rintro (hnot | hname | hback)
        · exact absurd hwritable (by simp [hnot])
        · exact absurd hname hdevice
        · exact hwritten.mpr hback
  · have hnot : store.bWritable = false := by simpa using hwritable
    refine iff_of_true (hsame ?_) (Or.inl hnot)
    show rememberOutputDevice store store.load _ = store
    rw [rememberOutputDevice]
    split
    · rfl
    · exact if_neg hwritable

/-- Started without a settings file, the daemon places the front left speaker
at 30 degrees; started again, at 0. -/
theorem restored_rerun_lost :
    (run exactSetup (run exactSetup ⟨none, true⟩ .new).settings .new).restored ≠
      (run exactSetup ⟨none, true⟩ .new).restored := by
  intro h
  refine not_readsBack_defaults rfl
    ((restored_rerun_iff_of_written exactSetup DeviceRegistry.new rfl ?_).mp h)
  simp [SettingsStore.load]

end AudioEngine

end RamkolFX
