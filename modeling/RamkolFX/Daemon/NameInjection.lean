import RamkolFX.Daemon.Restart

/-!
# Names that bring lines of their own

A line break in a saved name starts a new line of the file, and the first line
with a key counts.  So a name can set every key that is written behind it, and
none in front of it.
-/

namespace RamkolFX

open Support NumberText KeyValueText

namespace SettingsStore

/-! ## Reading one key -/

/-- What is read for a float that was saved. -/
def readFloat (inSettings : PersistedSettings) (key : ByteString)
    (saved default : Binary32) : Binary32 :=
  (stof (textFor inSettings key (printFloat saved))).getD default

/-- What is read for a flag that was saved. -/
def readFlag (inSettings : PersistedSettings) (key : ByteString)
    (saved : Bool) : Bool :=
  decide (textFor inSettings key (printBool saved) = ascii "1")

/-- What is read for a filter type that was saved. -/
def readFilterType (inSettings : PersistedSettings) (i : Fin maxEqBands) :
    UInt8 :=
  castToByte ((stol (textFor inSettings (hwEqBandKey i (ascii "type"))
    (printNat (inSettings.hwEqBands i).filterType.toByte.toNat))).getD
      (defaultHwEqBands i).filterType.toByte.toNat)

/-- What is read for the display name that was saved. -/
def readDisplayName (inSettings : PersistedSettings) : ByteString :=
  ((strayFields inSettings.outputDeviceName).lookup
    (ascii "hrtf_display_name")).getD
      (firstLine inSettings.activeHrtfDisplayName)

/-- The keys behind the two names are read alike from two saved files. -/
structure ReadAlike (a b : PersistedSettings) : Prop where
  azimuth : ∀ i : SpeakerChannel,
    readFloat a (speakerKey i (ascii "azimuth")) (a.speakerAzimuthDegrees i) ⟨0⟩ =
      readFloat b (speakerKey i (ascii "azimuth")) (b.speakerAzimuthDegrees i) ⟨0⟩
  distance : ∀ i : SpeakerChannel,
    readFloat a (speakerKey i (ascii "distance"))
        (a.speakerDistanceMeters i) ⟨0⟩ =
      readFloat b (speakerKey i (ascii "distance"))
        (b.speakerDistanceMeters i) ⟨0⟩
  muted : ∀ i : SpeakerChannel,
    readFlag a (speakerKey i (ascii "muted")) (a.speakerMuted i) =
      readFlag b (speakerKey i (ascii "muted")) (b.speakerMuted i)
  filterType : ∀ i, readFilterType a i = readFilterType b i
  frequencyHz : ∀ i : Fin maxEqBands,
    readFloat a (hwEqBandKey i (ascii "freq")) (a.hwEqBands i).frequencyHz
        (defaultHwEqBands i).frequencyHz =
      readFloat b (hwEqBandKey i (ascii "freq")) (b.hwEqBands i).frequencyHz
        (defaultHwEqBands i).frequencyHz
  gainDb : ∀ i : Fin maxEqBands,
    readFloat a (hwEqBandKey i (ascii "gain")) (a.hwEqBands i).gainDb
        (defaultHwEqBands i).gainDb =
      readFloat b (hwEqBandKey i (ascii "gain")) (b.hwEqBands i).gainDb
        (defaultHwEqBands i).gainDb
  q : ∀ i : Fin maxEqBands,
    readFloat a (hwEqBandKey i (ascii "q")) (a.hwEqBands i).q
        (defaultHwEqBands i).q =
      readFloat b (hwEqBandKey i (ascii "q")) (b.hwEqBands i).q
        (defaultHwEqBands i).q
  bEnabled :
    readFlag a (ascii "bass_enhancer.enabled") a.bassEnhancer.bEnabled =
      readFlag b (ascii "bass_enhancer.enabled") b.bassEnhancer.bEnabled
  cutoffHz :
    readFloat a (ascii "bass_enhancer.cutoff_hz") a.bassEnhancer.cutoffHz
        ({} : BassEnhancerSettings).cutoffHz =
      readFloat b (ascii "bass_enhancer.cutoff_hz") b.bassEnhancer.cutoffHz
        ({} : BassEnhancerSettings).cutoffHz
  drive :
    readFloat a (ascii "bass_enhancer.drive") a.bassEnhancer.drive
        ({} : BassEnhancerSettings).drive =
      readFloat b (ascii "bass_enhancer.drive") b.bassEnhancer.drive
        ({} : BassEnhancerSettings).drive
  mix :
    readFloat a (ascii "bass_enhancer.mix") a.bassEnhancer.mix
        ({} : BassEnhancerSettings).mix =
      readFloat b (ascii "bass_enhancer.mix") b.bassEnhancer.mix
        ({} : BassEnhancerSettings).mix

/-! ## What a saved file is loaded as -/

/-- The settings that are loaded from the text of some others. -/
def reloaded (inSettings : PersistedSettings) : PersistedSettings :=
  loadFields (fields (saveText inSettings))

theorem lookup_output_device_saveText (inSettings : PersistedSettings) :
    (fields (saveText inSettings)).lookup (ascii "output_device") =
      some (firstLine inSettings.outputDeviceName) := by
  have hmode : (ascii "output_device" == ascii "mode") = false := by decide
  have hnear : (ascii "output_device" == ascii "near_field") = false := by decide
  rw [fields_saveText, leadingEntries]
  simp [List.lookup_cons, hmode, hnear]

theorem lookup_hrtf_display_name_saveText (inSettings : PersistedSettings) :
    (fields (saveText inSettings)).lookup (ascii "hrtf_display_name") =
      some (readDisplayName inSettings) := by
  have hmode : (ascii "hrtf_display_name" == ascii "mode") = false := by decide
  have hnear : (ascii "hrtf_display_name" == ascii "near_field") = false := by
    decide
  have hdevice : (ascii "hrtf_display_name" == ascii "output_device") = false := by
    decide
  rw [fields_saveText, leadingEntries, readDisplayName]
  simp only [List.cons_append, List.nil_append, List.lookup_cons,
    List.lookup_append, hmode, hnear, hdevice, beq_self_eq_true]
  cases (strayFields inSettings.outputDeviceName).lookup
    (ascii "hrtf_display_name") <;> rfl

/-- A saved file is loaded key by key: the leading ones as they were saved, the
device cut to its first line, the others as they are read behind the further
lines of the names. -/
theorem reloaded_eq (inSettings : PersistedSettings) :
    reloaded inSettings =
      { mode := inSettings.mode
        bNearFieldEnabled := inSettings.bNearFieldEnabled
        outputDeviceName := firstLine inSettings.outputDeviceName
        activeHrtfDisplayName := readDisplayName inSettings
        speakerAzimuthDegrees := fun i => readFloat inSettings
          (speakerKey i (ascii "azimuth"))
          (inSettings.speakerAzimuthDegrees i) ⟨0⟩
        speakerDistanceMeters := fun i => readFloat inSettings
          (speakerKey i (ascii "distance"))
          (inSettings.speakerDistanceMeters i) ⟨0⟩
        speakerMuted := fun i => readFlag inSettings
          (speakerKey i (ascii "muted")) (inSettings.speakerMuted i)
        hwEqBands := fun i =>
          { filterType := ⟨readFilterType inSettings i⟩
            frequencyHz := readFloat inSettings (hwEqBandKey i (ascii "freq"))
              (inSettings.hwEqBands i).frequencyHz
              (defaultHwEqBands i).frequencyHz
            gainDb := readFloat inSettings (hwEqBandKey i (ascii "gain"))
              (inSettings.hwEqBands i).gainDb (defaultHwEqBands i).gainDb
            q := readFloat inSettings (hwEqBandKey i (ascii "q"))
              (inSettings.hwEqBands i).q (defaultHwEqBands i).q }
        bassEnhancer :=
          { bEnabled := readFlag inSettings (ascii "bass_enhancer.enabled")
              inSettings.bassEnhancer.bEnabled
            cutoffHz := readFloat inSettings (ascii "bass_enhancer.cutoff_hz")
              inSettings.bassEnhancer.cutoffHz
              ({} : BassEnhancerSettings).cutoffHz
            drive := readFloat inSettings (ascii "bass_enhancer.drive")
              inSettings.bassEnhancer.drive ({} : BassEnhancerSettings).drive
            mix := readFloat inSettings (ascii "bass_enhancer.mix")
              inSettings.bassEnhancer.mix ({} : BassEnhancerSettings).mix } } := by
  have hentries := hasNumericEntries inSettings
  have hdevice : getString (fields (saveText inSettings)) (ascii "output_device")
      [] = firstLine inSettings.outputDeviceName := by
    rw [getString, lookup_output_device_saveText, Option.getD_some]
  have hname : getString (fields (saveText inSettings))
      (ascii "hrtf_display_name") [] = readDisplayName inSettings := by
    rw [getString, lookup_hrtf_display_name_saveText, Option.getD_some]
  apply PersistedSettings.mk.injEq .. |>.mpr
  refine ⟨AudioEngine.mode_loadFields_saveText inSettings, ?_, ?_, ?_,
    AudioEngine.bNearFieldEnabled_loadFields_saveText inSettings, hdevice, hname,
    ?_, ?_⟩
  · funext i
    exact getFloat_saveText (hentries.azimuth i) _
  · funext i
    exact getFloat_saveText (hentries.distance i) _
  · funext i
    exact getBool_saveText (hentries.muted i) _
  · funext i
    rw [getEqBand, getLong_saveText (hentries.filterType i),
      getFloat_saveText (hentries.frequencyHz i),
      getFloat_saveText (hentries.gainDb i), getFloat_saveText (hentries.q i)]
    rfl
  · rw [getBassEnhancer, getBool_saveText hentries.bEnabled,
      getFloat_saveText hentries.cutoffHz, getFloat_saveText hentries.drive,
      getFloat_saveText hentries.mix]
    rfl

/-! ## Two names -/

/-- Everything but the two names is equal. -/
structure NumbersAgree (a b : PersistedSettings) : Prop where
  mode : a.mode = b.mode
  speakerAzimuthDegrees : a.speakerAzimuthDegrees = b.speakerAzimuthDegrees
  speakerDistanceMeters : a.speakerDistanceMeters = b.speakerDistanceMeters
  speakerMuted : a.speakerMuted = b.speakerMuted
  bNearFieldEnabled : a.bNearFieldEnabled = b.bNearFieldEnabled
  hwEqBands : a.hwEqBands = b.hwEqBands
  bassEnhancer : a.bassEnhancer = b.bassEnhancer

theorem agree_iff_of_device (a b : PersistedSettings) :
    { a with outputDeviceName := b.outputDeviceName } = b ↔
      NumbersAgree a b ∧ a.activeHrtfDisplayName = b.activeHrtfDisplayName := by
  cases a
  cases b
  simp only [PersistedSettings.mk.injEq]
  constructor
  · rintro ⟨h₁, h₂, h₃, h₄, h₅, -, h₆, h₇, h₈⟩
    exact ⟨⟨h₁, h₂, h₃, h₄, h₅, h₇, h₈⟩, h₆⟩
  · rintro ⟨⟨h₁, h₂, h₃, h₄, h₅, h₇, h₈⟩, h₆⟩
    exact ⟨h₁, h₂, h₃, h₄, h₅, trivial, h₆, h₇, h₈⟩

theorem agree_iff_of_displayName (a b : PersistedSettings) :
    { a with activeHrtfDisplayName := b.activeHrtfDisplayName } = b ↔
      NumbersAgree a b ∧ a.outputDeviceName = b.outputDeviceName := by
  cases a
  cases b
  simp only [PersistedSettings.mk.injEq]
  constructor
  · rintro ⟨h₁, h₂, h₃, h₄, h₅, h₆, -, h₇, h₈⟩
    exact ⟨⟨h₁, h₂, h₃, h₄, h₅, h₇, h₈⟩, h₆⟩
  · rintro ⟨⟨h₁, h₂, h₃, h₄, h₅, h₇, h₈⟩, h₆⟩
    exact ⟨h₁, h₂, h₃, h₄, h₅, h₆, trivial, h₇, h₈⟩

/-- Two saved files agree on the numbers exactly when the lines of the names
make them so. -/
theorem numbersAgree_reloaded_iff {a b : PersistedSettings}
    (hmode : a.mode = b.mode) (hnear : a.bNearFieldEnabled = b.bNearFieldEnabled) :
    NumbersAgree (reloaded a) (reloaded b) ↔ ReadAlike a b := by
  rw [reloaded_eq a, reloaded_eq b]
  constructor
  · intro h
    have hbands := fun i => EqBand.ext_iff.mp (congrFun h.hwEqBands i)
    have hbass := BassEnhancerSettings.ext_iff.mp h.bassEnhancer
    constructor
    case azimuth => exact congrFun h.speakerAzimuthDegrees
    case distance => exact congrFun h.speakerDistanceMeters
    case muted => exact congrFun h.speakerMuted
    case filterType => exact fun i => EqFilterType.ext_iff.mp (hbands i).1
    case frequencyHz => exact fun i => (hbands i).2.1
    case gainDb => exact fun i => (hbands i).2.2.1
    case q => exact fun i => (hbands i).2.2.2
    case bEnabled => exact hbass.1
    case cutoffHz => exact hbass.2.1
    case drive => exact hbass.2.2.1
    case mix => exact hbass.2.2.2
  · intro h
    constructor
    case mode => exact hmode
    case speakerAzimuthDegrees => exact funext h.azimuth
    case speakerDistanceMeters => exact funext h.distance
    case speakerMuted => exact funext h.muted
    case bNearFieldEnabled => exact hnear
    case hwEqBands =>
      funext i
      exact EqBand.ext (EqFilterType.ext (h.filterType i)) (h.frequencyHz i)
        (h.gainDb i) (h.q i)
    case bassEnhancer =>
      exact BassEnhancerSettings.ext h.bEnabled h.cutoffHz h.drive h.mix

/-- What is loaded after a save depends on a name in no other field exactly
when its further lines set the keys behind it to what the other name's do:
behind the device stand the display name and the numbers, behind the display
name the numbers. -/
theorem reloaded_agree_iff (inSettings : PersistedSettings) :
    (∀ d₁ d₂ : ByteString,
      let a := { inSettings with outputDeviceName := d₁ }
      let b := { inSettings with outputDeviceName := d₂ }
      { reloaded a with outputDeviceName := (reloaded b).outputDeviceName } =
          reloaded b ↔
        ReadAlike a b ∧ readDisplayName a = readDisplayName b) ∧
    (∀ n₁ n₂ : ByteString,
      let a := { inSettings with activeHrtfDisplayName := n₁ }
      let b := { inSettings with activeHrtfDisplayName := n₂ }
      { reloaded a with
          activeHrtfDisplayName := (reloaded b).activeHrtfDisplayName } =
          reloaded b ↔
        ReadAlike a b) := by
  constructor
  · intro d₁ d₂ a b
    have hnumbers : NumbersAgree (reloaded a) (reloaded b) ↔ ReadAlike a b :=
      numbersAgree_reloaded_iff rfl rfl
    rw [agree_iff_of_device, hnumbers, reloaded_eq a, reloaded_eq b]
  · intro n₁ n₂ a b
    have hnumbers : NumbersAgree (reloaded a) (reloaded b) ↔ ReadAlike a b :=
      numbersAgree_reloaded_iff rfl rfl
    rw [agree_iff_of_displayName, hnumbers, reloaded_eq a, reloaded_eq b]
    exact and_iff_left rfl

/-- Names that bring the same lines of their own are read alike. -/
theorem readAlike_of_strayFields {inSettings : PersistedSettings}
    {d₁ d₂ n₁ n₂ : ByteString} (hdevice : strayFields d₁ = strayFields d₂)
    (hname : strayFields n₁ = strayFields n₂) :
    ReadAlike
      { inSettings with outputDeviceName := d₁, activeHrtfDisplayName := n₁ }
      { inSettings with outputDeviceName := d₂, activeHrtfDisplayName := n₂ } := by
  have htext : ∀ key printed,
      textFor { inSettings with outputDeviceName := d₁, activeHrtfDisplayName := n₁ }
          key printed =
        textFor { inSettings with outputDeviceName := d₂, activeHrtfDisplayName := n₂ }
          key printed := by
    intro key printed
    simp only [textFor, injectedFields, hdevice, hname]
  constructor <;> simp only [readFloat, readFlag, readFilterType, htext,
    implies_true]

/-- Names on one line bring no lines of their own, devices' or files'. -/
theorem readAlike_of_newline_not_mem (inSettings : PersistedSettings) :
    (∀ d₁ d₂ : ByteString, newline ∉ d₁ → newline ∉ d₂ →
      ReadAlike { inSettings with outputDeviceName := d₁ }
        { inSettings with outputDeviceName := d₂ }) ∧
    (∀ n₁ n₂ : ByteString, newline ∉ n₁ → newline ∉ n₂ →
      ReadAlike { inSettings with activeHrtfDisplayName := n₁ }
        { inSettings with activeHrtfDisplayName := n₂ }) := by
  constructor
  · intro d₁ d₂ h₁ h₂
    exact readAlike_of_strayFields
      ((strayFields_of_not_mem h₁).trans (strayFields_of_not_mem h₂).symm) rfl
  · intro n₁ n₂ h₁ h₂
    exact readAlike_of_strayFields rfl
      ((strayFields_of_not_mem h₁).trans (strayFields_of_not_mem h₂).symm)

/-- A device whose name goes on behind a line break mutes a speaker. -/
theorem reloaded_agree_lost :
    let a : PersistedSettings := { outputDeviceName := ascii "x" }
    let b : PersistedSettings :=
      { outputDeviceName := ascii "x\nspeaker.0.muted=1" }
    { reloaded a with outputDeviceName := (reloaded b).outputDeviceName } ≠
      reloaded b := by
  intro a b h
  have hiff : NumbersAgree (reloaded a) (reloaded b) ↔ ReadAlike a b :=
    numbersAgree_reloaded_iff rfl rfl
  have halike := hiff.mp ((agree_iff_of_device _ _).mp h).1
  exact absurd (halike.muted 0) (by decide +kernel)

end SettingsStore

end RamkolFX
