import RamkolFX.Dsp.Equalizer
import RamkolFX.Support.KeyValueText
import RamkolFX.Support.NumberText

/-!
# Settings store

What the daemon remembers across restarts, saved as one `key=value` line per
field and loaded field by field, each missing or unreadable one falling back
to its own default.
-/

namespace RamkolFX

open Support NumberText KeyValueText

structure PersistedSettings where
  mode : SpatialMode := .off
  speakerAzimuthDegrees : SpeakerChannel → Binary32 := fun _ => ⟨0⟩
  speakerDistanceMeters : SpeakerChannel → Binary32 := fun _ => ⟨0⟩
  speakerMuted : SpeakerChannel → Bool := fun _ => false
  bNearFieldEnabled : Bool := false
  outputDeviceName : ByteString := []
  activeHrtfDisplayName : ByteString := []
  hwEqBands : Fin maxEqBands → EqBand := defaultHwEqBands
  bassEnhancer : BassEnhancerSettings := {}
  deriving DecidableEq

namespace SettingsStore

def speakerKey (index : ℕ) (field : ByteString) : ByteString :=
  ascii "speaker." ++ printNat index ++ ascii "." ++ field

def hwEqBandKey (index : ℕ) (field : ByteString) : ByteString :=
  ascii "hweq." ++ printNat index ++ ascii "." ++ field

/-! ## Loading -/

/-- The fields of a file; the first line with a key counts. -/
abbrev Fields := List (ByteString × ByteString)

def getString (fields : Fields) (key default : ByteString) : ByteString :=
  (fields.lookup key).getD default

def getLong (fields : Fields) (key : ByteString) (default : ℤ) : ℤ :=
  ((fields.lookup key).bind stol).getD default

def getFloat (fields : Fields) (key : ByteString) (default : Binary32) :
    Binary32 :=
  ((fields.lookup key).bind stof).getD default

def getBool (fields : Fields) (key : ByteString) (default : Bool) : Bool :=
  ((fields.lookup key).map fun text => decide (text = ascii "1")).getD default

/-- The cast of a `long` to an enumeration over `uint8`. -/
def castToByte (value : ℤ) : UInt8 :=
  UInt8.ofNat (value % 256).toNat

def getEqBand (fields : Fields) (i : Fin maxEqBands) (band : EqBand) : EqBand where
  filterType := ⟨castToByte
    (getLong fields (hwEqBandKey i (ascii "type")) band.filterType.toByte.toNat)⟩
  frequencyHz := getFloat fields (hwEqBandKey i (ascii "freq")) band.frequencyHz
  gainDb := getFloat fields (hwEqBandKey i (ascii "gain")) band.gainDb
  q := getFloat fields (hwEqBandKey i (ascii "q")) band.q

def getBassEnhancer (fields : Fields) (settings : BassEnhancerSettings) :
    BassEnhancerSettings where
  bEnabled := getBool fields (ascii "bass_enhancer.enabled") settings.bEnabled
  cutoffHz := getFloat fields (ascii "bass_enhancer.cutoff_hz") settings.cutoffHz
  drive := getFloat fields (ascii "bass_enhancer.drive") settings.drive
  mix := getFloat fields (ascii "bass_enhancer.mix") settings.mix

def loadFields (fields : Fields) : PersistedSettings :=
  let defaults : PersistedSettings := {}
  { mode := ⟨castToByte (getLong fields (ascii "mode") defaults.mode.toByte.toNat)⟩
    bNearFieldEnabled :=
      getBool fields (ascii "near_field") defaults.bNearFieldEnabled
    outputDeviceName :=
      getString fields (ascii "output_device") defaults.outputDeviceName
    activeHrtfDisplayName :=
      getString fields (ascii "hrtf_display_name") defaults.activeHrtfDisplayName
    speakerAzimuthDegrees := fun i => getFloat fields
      (speakerKey i (ascii "azimuth")) (defaults.speakerAzimuthDegrees i)
    speakerDistanceMeters := fun i => getFloat fields
      (speakerKey i (ascii "distance")) (defaults.speakerDistanceMeters i)
    speakerMuted := fun i => getBool fields
      (speakerKey i (ascii "muted")) (defaults.speakerMuted i)
    hwEqBands := fun i => getEqBand fields i (defaults.hwEqBands i)
    bassEnhancer := getBassEnhancer fields defaults.bassEnhancer }

/-! ## Saving -/

def printBool (b : Bool) : ByteString := if b then ascii "1" else ascii "0"

def speakerEntries (inSettings : PersistedSettings) (i : SpeakerChannel) :
    Fields :=
  [(speakerKey i (ascii "azimuth"),
      printFloat (inSettings.speakerAzimuthDegrees i)),
    (speakerKey i (ascii "distance"),
      printFloat (inSettings.speakerDistanceMeters i)),
    (speakerKey i (ascii "muted"), printBool (inSettings.speakerMuted i))]

def hwEqBandEntries (inSettings : PersistedSettings) (i : Fin maxEqBands) :
    Fields :=
  let band := inSettings.hwEqBands i
  [(hwEqBandKey i (ascii "type"), printNat band.filterType.toByte.toNat),
    (hwEqBandKey i (ascii "freq"), printFloat band.frequencyHz),
    (hwEqBandKey i (ascii "gain"), printFloat band.gainDb),
    (hwEqBandKey i (ascii "q"), printFloat band.q)]

/-- The lines in front of the output device. -/
def leadingEntries (inSettings : PersistedSettings) : Fields :=
  [(ascii "mode", printNat inSettings.mode.toByte.toNat),
    (ascii "near_field", printBool inSettings.bNearFieldEnabled)]

def bassEnhancerEntries (inSettings : PersistedSettings) : Fields :=
  [(ascii "bass_enhancer.enabled", printBool inSettings.bassEnhancer.bEnabled),
    (ascii "bass_enhancer.cutoff_hz",
      printFloat inSettings.bassEnhancer.cutoffHz),
    (ascii "bass_enhancer.drive", printFloat inSettings.bassEnhancer.drive),
    (ascii "bass_enhancer.mix", printFloat inSettings.bassEnhancer.mix)]

/-- The lines behind the HRTF display name. -/
def numericEntries (inSettings : PersistedSettings) : Fields :=
  (List.finRange speakerCount).flatMap (speakerEntries inSettings) ++
    (List.finRange maxEqBands).flatMap (hwEqBandEntries inSettings) ++
    bassEnhancerEntries inSettings

def saveText (inSettings : PersistedSettings) : ByteString :=
  print (leadingEntries inSettings) ++
    (printField (ascii "output_device", inSettings.outputDeviceName) ++
      (printField (ascii "hrtf_display_name", inSettings.activeHrtfDisplayName) ++
        print (numericEntries inSettings)))

end SettingsStore

/-- The settings file, and whether its directory lets a new one be written and
renamed over it. -/
structure SettingsStore where
  settingsFile : Option ByteString
  bWritable : Bool
  deriving DecidableEq

namespace SettingsStore

/-- `none` if there is no file that can be opened. -/
def load (store : SettingsStore) : Option PersistedSettings :=
  store.settingsFile.map fun text => loadFields (fields text)

def save (store : SettingsStore) (inSettings : PersistedSettings) :
    SettingsStore :=
  if store.bWritable then
    { store with settingsFile := some (saveText inSettings) }
  else store

/-! ## What a saved file is read as -/

/-- The keys of the numeric entries, in order. -/
def numericKeys : List ByteString :=
  (List.finRange speakerCount).flatMap
      (fun i : SpeakerChannel => [speakerKey i (ascii "azimuth"),
        speakerKey i (ascii "distance"), speakerKey i (ascii "muted")]) ++
    (List.finRange maxEqBands).flatMap
      (fun i : Fin maxEqBands => [hwEqBandKey i (ascii "type"),
        hwEqBandKey i (ascii "freq"), hwEqBandKey i (ascii "gain"),
        hwEqBandKey i (ascii "q")]) ++
    [ascii "bass_enhancer.enabled", ascii "bass_enhancer.cutoff_hz",
      ascii "bass_enhancer.drive", ascii "bass_enhancer.mix"]

theorem map_fst_numericEntries (inSettings : PersistedSettings) :
    (numericEntries inSettings).map Prod.fst = numericKeys := by
  simp only [numericEntries, numericKeys, speakerEntries, hwEqBandEntries,
    bassEnhancerEntries, List.map_append, List.map_flatMap, List.map_cons, List.map_nil]

/-- A key as one number: comparing every pair of keys is cheap on numbers. -/
def keyNumber (key : ByteString) : ℕ :=
  key.foldl (fun n b => 256 * n + b.toNat) 0

theorem numericKeys_nodup : numericKeys.Nodup := by
  have hnumbers : (numericKeys.map keyNumber).Nodup := by decide +kernel
  exact hnumbers.of_map keyNumber

theorem numericKeys_clean : ∀ key ∈ numericKeys,
    equals ∉ key ∧ newline ∉ key ∧ key ≠ ascii "mode" ∧
      key ≠ ascii "near_field" ∧ key ≠ ascii "output_device" ∧
      key ≠ ascii "hrtf_display_name" := by
  decide +kernel

theorem newline_not_mem_of_plain {text : ByteString} (h : Plain text) :
    newline ∉ text := by
  intro hmem
  exact absurd (h newline hmem) (by decide)

theorem newline_not_mem_printBool (b : Bool) : newline ∉ printBool b := by
  cases b <;> decide

theorem newline_not_mem_numericEntries (inSettings : PersistedSettings) :
    ∀ entry ∈ numericEntries inSettings, newline ∉ entry.2 := by
  have hfloat := fun x => newline_not_mem_of_plain (plain_printFloat x)
  have hnat := fun n => newline_not_mem_of_plain (plain_printNat n)
  have hbool := newline_not_mem_printBool
  intro entry hentry
  simp only [numericEntries, speakerEntries, hwEqBandEntries,
    bassEnhancerEntries, List.mem_append,
    List.mem_flatMap, List.mem_finRange, true_and, List.mem_cons,
    List.not_mem_nil, or_false] at hentry
  rcases hentry with (⟨i, rfl | rfl | rfl⟩ | ⟨i, rfl | rfl | rfl | rfl⟩) |
    (rfl | rfl | rfl | rfl)
  all_goals first | apply hfloat | apply hbool | apply hnat

/-- What the further lines of the two names in a saved file are read as. -/
def injectedFields (inSettings : PersistedSettings) : Fields :=
  strayFields inSettings.outputDeviceName ++
    strayFields inSettings.activeHrtfDisplayName

theorem fields_saveText (inSettings : PersistedSettings) :
    fields (saveText inSettings) =
      leadingEntries inSettings ++
        ((ascii "output_device", firstLine inSettings.outputDeviceName) ::
            strayFields inSettings.outputDeviceName ++
          ((ascii "hrtf_display_name",
              firstLine inSettings.activeHrtfDisplayName) ::
              strayFields inSettings.activeHrtfDisplayName ++
            numericEntries inSettings)) := by
  have hleading : ∀ entry ∈ leadingEntries inSettings, newline ∉ entry.2 := by
    simp only [leadingEntries, List.mem_cons, List.not_mem_nil, or_false,
      forall_eq_or_imp, forall_eq]
    exact ⟨newline_not_mem_of_plain (plain_printNat _),
      newline_not_mem_printBool _⟩
  have hleadingKeys : ∀ entry ∈ leadingEntries inSettings, CleanKey entry.1 := by
    simp only [leadingEntries, List.mem_cons, List.not_mem_nil, or_false,
      forall_eq_or_imp, forall_eq]
    exact ⟨⟨by decide, by decide⟩, ⟨by decide, by decide⟩⟩
  have hkeys : ∀ entry ∈ numericEntries inSettings, CleanKey entry.1 := by
    intro entry hentry
    have hkey : entry.1 ∈ numericKeys := by
      rw [← map_fst_numericEntries inSettings]
      exact List.mem_map_of_mem hentry
    obtain ⟨hequals, hnewline, -⟩ := numericKeys_clean entry.1 hkey
    exact ⟨hequals, hnewline⟩
  have hnumeric := fields_print_append hkeys
    (newline_not_mem_numericEntries inSettings) []
  rw [List.append_nil] at hnumeric
  rw [saveText, fields_print_append hleadingKeys hleading,
    fields_printField_append ⟨by decide, by decide⟩,
    fields_printField_append ⟨by decide, by decide⟩, hnumeric]
  simp [fields, lines, field?]

/-- A numeric key is read as the first of the further lines says that sets it,
and else as it was printed. -/
theorem lookup_saveText {inSettings : PersistedSettings}
    {key value : ByteString} (h : (key, value) ∈ numericEntries inSettings) :
    (fields (saveText inSettings)).lookup key =
      some (((injectedFields inSettings).lookup key).getD value) := by
  have hkey : key ∈ numericKeys := by
    rw [← map_fst_numericEntries inSettings]
    exact List.mem_map_of_mem h
  obtain ⟨-, -, hmode, hnear, hdevice, hname⟩ := numericKeys_clean key hkey
  have hvalue : (numericEntries inSettings).lookup key = some value := by
    refine lookup_of_mem ?_ h
    rw [map_fst_numericEntries]
    exact numericKeys_nodup
  rw [fields_saveText, leadingEntries]
  simp only [List.cons_append, List.nil_append, List.lookup_cons,
    List.lookup_append, beq_false_of_ne hmode, beq_false_of_ne hnear,
    beq_false_of_ne hdevice, beq_false_of_ne hname, hvalue, injectedFields]
  cases (strayFields inSettings.outputDeviceName).lookup key <;>
    cases (strayFields inSettings.activeHrtfDisplayName).lookup key <;> rfl

theorem lookup_mode_saveText (inSettings : PersistedSettings) :
    (fields (saveText inSettings)).lookup (ascii "mode") =
      some (printNat inSettings.mode.toByte.toNat) := by
  rw [fields_saveText, leadingEntries]
  simp

theorem lookup_near_field_saveText (inSettings : PersistedSettings) :
    (fields (saveText inSettings)).lookup (ascii "near_field") =
      some (printBool inSettings.bNearFieldEnabled) := by
  have hne : (ascii "near_field" == ascii "mode") = false := by decide
  rw [fields_saveText, leadingEntries]
  simp [List.lookup_cons, hne]

/-! ## Integers and flags survive -/

theorem castToByte_toNat (b : UInt8) : castToByte (b.toNat : ℤ) = b := by
  have hmod : ((b.toNat : ℤ) % 256).toNat = b.toNat := by
    have hlt := b.toNat_lt
    omega
  rw [castToByte, hmod, UInt8.ofNat_toNat]

theorem stol_printNat_toNat (b : UInt8) : stol (printNat b.toNat) = some ↑b.toNat := by
  apply stol_printNat
  have hlt := b.toNat_lt
  omega

theorem eq_one_printBool (b : Bool) : decide (printBool b = ascii "1") = b := by
  cases b <;> decide

/-! ## Getting saved entries -/

section

variable {inSettings : PersistedSettings} {key value : ByteString}

theorem speakerEntries_subset (inSettings : PersistedSettings)
    (i : SpeakerChannel) :
    speakerEntries inSettings i ⊆ numericEntries inSettings := by
  intro entry hentry
  refine List.mem_append_left _ (List.mem_append_left _ ?_)
  exact List.mem_flatMap.mpr ⟨i, List.mem_finRange i, hentry⟩

theorem hwEqBandEntries_subset (inSettings : PersistedSettings)
    (i : Fin maxEqBands) :
    hwEqBandEntries inSettings i ⊆ numericEntries inSettings := by
  intro entry hentry
  refine List.mem_append_left _ (List.mem_append_right _ ?_)
  exact List.mem_flatMap.mpr ⟨i, List.mem_finRange i, hentry⟩

theorem bassEnhancerEntries_subset (inSettings : PersistedSettings) :
    bassEnhancerEntries inSettings ⊆ numericEntries inSettings :=
  List.subset_append_right _ _

/-- What a numeric field is printed as stands under its key. -/
structure HasNumericEntries (inSettings : PersistedSettings) : Prop where
  azimuth : ∀ i : SpeakerChannel, (speakerKey i (ascii "azimuth"),
    printFloat (inSettings.speakerAzimuthDegrees i)) ∈ numericEntries inSettings
  distance : ∀ i : SpeakerChannel, (speakerKey i (ascii "distance"),
    printFloat (inSettings.speakerDistanceMeters i)) ∈ numericEntries inSettings
  muted : ∀ i : SpeakerChannel, (speakerKey i (ascii "muted"),
    printBool (inSettings.speakerMuted i)) ∈ numericEntries inSettings
  filterType : ∀ i : Fin maxEqBands, (hwEqBandKey i (ascii "type"),
    printNat (inSettings.hwEqBands i).filterType.toByte.toNat) ∈
      numericEntries inSettings
  frequencyHz : ∀ i : Fin maxEqBands, (hwEqBandKey i (ascii "freq"),
    printFloat (inSettings.hwEqBands i).frequencyHz) ∈ numericEntries inSettings
  gainDb : ∀ i : Fin maxEqBands, (hwEqBandKey i (ascii "gain"),
    printFloat (inSettings.hwEqBands i).gainDb) ∈ numericEntries inSettings
  q : ∀ i : Fin maxEqBands, (hwEqBandKey i (ascii "q"),
    printFloat (inSettings.hwEqBands i).q) ∈ numericEntries inSettings
  bEnabled : (ascii "bass_enhancer.enabled",
    printBool inSettings.bassEnhancer.bEnabled) ∈ numericEntries inSettings
  cutoffHz : (ascii "bass_enhancer.cutoff_hz",
    printFloat inSettings.bassEnhancer.cutoffHz) ∈ numericEntries inSettings
  drive : (ascii "bass_enhancer.drive",
    printFloat inSettings.bassEnhancer.drive) ∈ numericEntries inSettings
  mix : (ascii "bass_enhancer.mix",
    printFloat inSettings.bassEnhancer.mix) ∈ numericEntries inSettings

theorem hasNumericEntries (inSettings : PersistedSettings) :
    HasNumericEntries inSettings := by
  have hspeaker := fun i => speakerEntries_subset inSettings i
  have hband := fun i => hwEqBandEntries_subset inSettings i
  have hbass := bassEnhancerEntries_subset inSettings
  simp only [speakerEntries, hwEqBandEntries, bassEnhancerEntries,
    List.cons_subset] at hspeaker hband hbass
  obtain ⟨henabled, hcutoff, hdrive, hmix, -⟩ := hbass
  constructor
  case azimuth => exact fun i => (hspeaker i).1
  case distance => exact fun i => (hspeaker i).2.1
  case muted => exact fun i => (hspeaker i).2.2.1
  case filterType => exact fun i => (hband i).1
  case frequencyHz => exact fun i => (hband i).2.1
  case gainDb => exact fun i => (hband i).2.2.1
  case q => exact fun i => (hband i).2.2.2.1
  case bEnabled => exact henabled
  case cutoffHz => exact hcutoff
  case drive => exact hdrive
  case mix => exact hmix

/-- The text that is read for a numeric key: what the first of the further
lines says that sets it, and else what was printed. -/
def textFor (inSettings : PersistedSettings) (key printed : ByteString) :
    ByteString :=
  ((injectedFields inSettings).lookup key).getD printed

theorem getFloat_saveText (h : (key, value) ∈ numericEntries inSettings)
    (default : Binary32) :
    getFloat (fields (saveText inSettings)) key default =
      (stof (textFor inSettings key value)).getD default := by
  rw [getFloat, lookup_saveText h]
  rfl

theorem getLong_saveText (h : (key, value) ∈ numericEntries inSettings)
    (default : ℤ) :
    getLong (fields (saveText inSettings)) key default =
      (stol (textFor inSettings key value)).getD default := by
  rw [getLong, lookup_saveText h]
  rfl

theorem getBool_saveText (h : (key, value) ∈ numericEntries inSettings)
    (default : Bool) :
    getBool (fields (saveText inSettings)) key default =
      decide (textFor inSettings key value = ascii "1") := by
  rw [getBool, lookup_saveText h]
  rfl

/-- A display name that was loaded has no further lines. -/
theorem strayFields_loaded (text : ByteString) :
    strayFields (loadFields (fields text)).activeHrtfDisplayName = [] := by
  apply strayFields_of_not_mem
  show newline ∉ getString (fields text) (ascii "hrtf_display_name") []
  rw [getString]
  cases hname : (fields text).lookup (ascii "hrtf_display_name") with
  | none => simp
  | some name => exact newline_not_mem_of_lookup_fields hname

end

end SettingsStore

end RamkolFX
