import RamkolFX.Daemon.NameInjection

/-!
# Saved and loaded again

Settings whose names stay on their lines are loaded as they were saved: every
key is found at its own line, whatever else a name holds, and only a float may
come back as another one, namely what its own text is parsed as.
-/

namespace RamkolFX

open Support NumberText KeyValueText

namespace SettingsStore

/-- The loaded float is what the text of the saved one is parsed as. -/
def ParsedBack (saved loaded : Binary32) : Prop :=
  ∀ x, stof (printFloat saved) = some x → loaded = x

/-- Every field comes back under its own key. -/
structure RoundTrips (saved loaded : PersistedSettings) : Prop where
  mode : loaded.mode = saved.mode
  bNearFieldEnabled : loaded.bNearFieldEnabled = saved.bNearFieldEnabled
  outputDeviceName : loaded.outputDeviceName = saved.outputDeviceName
  activeHrtfDisplayName :
    loaded.activeHrtfDisplayName = saved.activeHrtfDisplayName
  speakerAzimuthDegrees : ∀ i,
    ParsedBack (saved.speakerAzimuthDegrees i) (loaded.speakerAzimuthDegrees i)
  speakerDistanceMeters : ∀ i,
    ParsedBack (saved.speakerDistanceMeters i) (loaded.speakerDistanceMeters i)
  speakerMuted : loaded.speakerMuted = saved.speakerMuted
  filterType : ∀ i,
    (loaded.hwEqBands i).filterType = (saved.hwEqBands i).filterType
  frequencyHz : ∀ i,
    ParsedBack (saved.hwEqBands i).frequencyHz (loaded.hwEqBands i).frequencyHz
  gainDb : ∀ i,
    ParsedBack (saved.hwEqBands i).gainDb (loaded.hwEqBands i).gainDb
  q : ∀ i, ParsedBack (saved.hwEqBands i).q (loaded.hwEqBands i).q
  bEnabled : loaded.bassEnhancer.bEnabled = saved.bassEnhancer.bEnabled
  cutoffHz :
    ParsedBack saved.bassEnhancer.cutoffHz loaded.bassEnhancer.cutoffHz
  drive : ParsedBack saved.bassEnhancer.drive loaded.bassEnhancer.drive
  mix : ParsedBack saved.bassEnhancer.mix loaded.bassEnhancer.mix

section

variable {inSettings : PersistedSettings}

/-- Names on one line inject nothing. -/
theorem textFor_of_newline_not_mem (hdevice : newline ∉ inSettings.outputDeviceName)
    (hname : newline ∉ inSettings.activeHrtfDisplayName)
    (key printed : ByteString) : textFor inSettings key printed = printed := by
  rw [textFor, injectedFields, strayFields_of_not_mem hdevice,
    strayFields_of_not_mem hname]
  rfl

theorem readDisplayName_of_newline_not_mem
    (hdevice : newline ∉ inSettings.outputDeviceName)
    (hname : newline ∉ inSettings.activeHrtfDisplayName) :
    readDisplayName inSettings = inSettings.activeHrtfDisplayName := by
  rw [readDisplayName, strayFields_of_not_mem hdevice,
    firstLine_of_not_mem hname]
  rfl

variable (hplain : ∀ key printed, textFor inSettings key printed = printed)

include hplain

theorem parsedBack_readFloat (key : ByteString) (saved default : Binary32) :
    ParsedBack saved (readFloat inSettings key saved default) := by
  intro x hx
  rw [readFloat, hplain, hx]
  rfl

theorem readFlag_of_plain (key : ByteString) (saved : Bool) :
    readFlag inSettings key saved = saved := by
  rw [readFlag, hplain]
  exact eq_one_printBool saved

theorem readFilterType_of_plain (i : Fin maxEqBands) :
    readFilterType inSettings i = (inSettings.hwEqBands i).filterType.toByte := by
  rw [readFilterType, hplain, stol_printNat_toNat, Option.getD_some,
    castToByte_toNat]

end

/-- Settings with one-line names are loaded as they were saved. -/
theorem load_saveText_roundTrips (inSettings : PersistedSettings)
    (hdevice : newline ∉ inSettings.outputDeviceName)
    (hname : newline ∉ inSettings.activeHrtfDisplayName) (bWritable : Bool) :
    ∃ loaded,
      (SettingsStore.mk (some (saveText inSettings)) bWritable).load =
        some loaded ∧
      RoundTrips inSettings loaded := by
  have hplain := textFor_of_newline_not_mem hdevice hname
  refine ⟨reloaded inSettings, rfl, ?_⟩
  rw [reloaded_eq]
  constructor
  case mode => rfl
  case bNearFieldEnabled => rfl
  case outputDeviceName => exact firstLine_of_not_mem hdevice
  case activeHrtfDisplayName =>
    exact readDisplayName_of_newline_not_mem hdevice hname
  case speakerMuted => exact funext fun i => readFlag_of_plain hplain _ _
  case filterType =>
    exact fun i => EqFilterType.ext (readFilterType_of_plain hplain i)
  case bEnabled => exact readFlag_of_plain hplain _ _
  case speakerAzimuthDegrees | speakerDistanceMeters | frequencyHz | gainDb | q =>
    exact fun i => parsedBack_readFloat hplain _ _ _
  case cutoffHz | drive | mix => exact parsedBack_readFloat hplain _ _ _

/-- A device whose name looks like a line of the file, and no display name. -/
theorem load_saveText_separator :
    let saved : PersistedSettings :=
      { mode := .advanced, outputDeviceName := ascii "speaker.0.muted=1 = x" }
    ∃ loaded,
      (SettingsStore.mk (some (saveText saved)) true).load = some loaded ∧
      RoundTrips saved loaded :=
  load_saveText_roundTrips _ (by decide) (by decide) true

end SettingsStore

end RamkolFX
