import RamkolFX.Daemon.ActiveHrtf
import RamkolFX.Daemon.SettingsRoundTrip
import RamkolFX.Daemon.UserDirectory

/-!
# The choice across a restart

A choice is saved by its display name and looked for by it.  The bundled names
are told apart from each other and from the user's; a user's file is named
after its stem alone, so that the first of two files with one stem is found for
either.
-/

namespace RamkolFX

open Support KeyValueText SettingsStore

namespace HrtfCatalog

/-! ## The bundled sources -/

def sadieSubjects : List ByteString :=
  ["D1", "D2", "H3", "H4", "H5", "H6", "H7", "H8", "H9", "H10", "H11", "H12",
    "H13", "H14", "H15", "H16", "H17", "H18", "H19", "H20"].map ascii

def hutubsSubjects : List ByteString :=
  ["pp5", "pp30", "pp50", "pp70", "pp90"].map ascii

def sonicomSubjects : List ByteString :=
  ["P0002", "P0057", "P0102", "P0201", "P0301"].map ascii

/-- The entries of one dataset, one for each subject. -/
def datasetEntries (sourceDir label file : ByteString)
    (subjects : List ByteString) : List HrtfCatalogEntry :=
  subjects.map fun subject =>
    ⟨label ++ subject, .sofaFile,
      sourceDir ++ ascii "/data/hrtf/" ++ file ++ subject ++ ascii ".sofa"⟩

/-- `RAMKOLFX_HRTF_CATALOG_ENTRIES`, for the source directory of the build. -/
def catalogEntries (sourceDir : ByteString) : List HrtfCatalogEntry :=
  ⟨ascii "MIT KEMAR (normal pinna)", .sofaFile,
      sourceDir ++ ascii "/data/hrtf/default.sofa"⟩ ::
    (datasetEntries sourceDir (ascii "SADIE II - ") (ascii "sadie/sadie_")
        sadieSubjects ++
      datasetEntries sourceDir (ascii "HUTUBS - ") (ascii "hutubs/hutubs_")
        hutubsSubjects ++
      datasetEntries sourceDir (ascii "SONICOM - ") (ascii "sonicom/sonicom_")
        sonicomSubjects ++
      [⟨ascii "Synthetic spherical head", .syntheticSphericalHead, []⟩])

/-- Bundled names that no other name is taken for. -/
structure WellNamed (bundled : List HrtfCatalogEntry) : Prop where
  distinct : (bundled.map HrtfCatalogEntry.displayName).Nodup
  plain : ∀ name ∈ bundled.map HrtfCatalogEntry.displayName,
    name ≠ [] ∧ newline ∉ name ∧ ¬ ascii "(user) " <+: name

theorem wellNamed_catalogEntries (sourceDir : ByteString) :
    WellNamed (catalogEntries sourceDir) := by
  have hnames : (catalogEntries sourceDir).map HrtfCatalogEntry.displayName =
      (catalogEntries []).map HrtfCatalogEntry.displayName := rfl
  constructor <;> rw [hnames]
  · decide
  · decide

/-! ## The names of a catalog -/

section

variable {files : HrtfFiles} {entry : HrtfCatalogEntry}

theorem mem_of_mem_newCatalog (h : entry ∈ newCatalog files) :
    entry ∈ buildHrtfCatalog files ∨ entry ∈ scanUserHrtfDirectory files :=
  List.mem_append.mp (List.mem_of_mem_take h)

theorem mem_bundled (h : entry ∈ buildHrtfCatalog files) :
    entry ∈ files.bundled :=
  List.mem_of_mem_filter h

theorem plain_of_mem_bundled (hbundled : WellNamed files.bundled)
    (h : entry ∈ buildHrtfCatalog files) :
    entry.displayName ≠ [] ∧ newline ∉ entry.displayName ∧
      ¬ ascii "(user) " <+: entry.displayName :=
  hbundled.plain _ (List.mem_map_of_mem (mem_bundled h))

/-- A user's file is shown under its stem. -/
theorem exists_of_mem_scan (h : entry ∈ scanUserHrtfDirectory files) :
    ∃ dirEntry ∈ files.userDirectory,
      entry.displayName = ascii "(user) " ++ FileName.stem dirEntry.fileName ∧
      entry.kind = .sofaFile := by
  obtain ⟨dirEntry, hmem, huser⟩ := mem_scanUserHrtfDirectory.mp h
  obtain rfl := eq_of_userEntry huser
  exact ⟨dirEntry, hmem, rfl, rfl⟩

theorem displayName_ne_nil (hbundled : WellNamed files.bundled)
    (h : entry ∈ newCatalog files) : entry.displayName ≠ [] := by
  rcases mem_of_mem_newCatalog h with hbuild | hscan
  · exact (plain_of_mem_bundled hbundled hbuild).1
  · obtain ⟨dirEntry, -, hname, -⟩ := exists_of_mem_scan hscan
    rw [hname]
    exact List.cons_ne_nil _ _

theorem newline_not_mem_displayName (hbundled : WellNamed files.bundled)
    (hnames : ∀ dirEntry ∈ files.userDirectory, newline ∉ dirEntry.fileName)
    (h : entry ∈ newCatalog files) : newline ∉ entry.displayName := by
  rcases mem_of_mem_newCatalog h with hbuild | hscan
  · exact (plain_of_mem_bundled hbundled hbuild).2.1
  · obtain ⟨dirEntry, hdir, hname, -⟩ := exists_of_mem_scan hscan
    rw [hname]
    intro hmem
    rcases List.mem_append.mp hmem with huser | hstem
    · exact absurd huser (by decide)
    · exact hnames dirEntry hdir (List.mem_of_mem_take hstem)

end

/-! ## The source found under a name -/

/-- The source of the first entry with this name, and the default one if none
has it. -/
def sourceNamed (files : HrtfFiles) (name : ByteString) :
    HrtfSourceKind × ByteString :=
  (((newCatalog files).find? fun entry => name = entry.displayName).map
    HrtfCatalogEntry.source).getD (.sofaFile, files.defaultHrtfSofaPath)

/-- No other SOFA file of the user that is shown under the entry's name has a
smaller path. -/
def FirstOfName (files : HrtfFiles) (entry : HrtfCatalogEntry) : Prop :=
  ∀ dirEntry ∈ files.userDirectory, ∀ other,
    userEntry files.userHrtfDirectory dirEntry = some other →
    other.displayName = entry.displayName → ¬ other.path < entry.path

/-- Without an override the start resolves the source by the saved name. -/
theorem resolveInitialHrtf_eq_sourceNamed {files : HrtfFiles} {state : State}
    (hbundled : WellNamed files.bundled) (hoverride : files.sofaOverride = none)
    (hcatalog : state.runtimeHrtfCatalog = newCatalog files) (name : ByteString) :
    ((resolveInitialHrtf files name state).1,
      (resolveInitialHrtf files name state).2.1) = sourceNamed files name := by
  have hchoice : persistedChoice files name state =
      (newCatalog files).find? fun entry => name = entry.displayName := by
    rw [persistedChoice, hcatalog]
    by_cases hname : name = []
    · have hnone : (newCatalog files).find?
          (fun entry => name = entry.displayName) = none := by
        rw [List.find?_eq_none]
        intro entry hmem hsame
        refine displayName_ne_nil hbundled hmem ?_
        rw [← of_decide_eq_true hsame, hname]
      rw [if_neg (fun h => h.2 hname), hnone]
    · rw [if_pos ⟨hoverride, hname⟩]
  rw [resolveInitialHrtf, sourceNamed, ← hchoice]
  cases persistedChoice files name state with
  | some chosen => rfl
  | none =>
      have hdefault : resolveHrtfSofaPath files = files.defaultHrtfSofaPath := by
        rw [resolveHrtfSofaPath, hoverride, Option.getD_none]
      simp only [hdefault]
      rfl

/-- In a list in the order of the paths, none of the entries found has a smaller
path than the first. -/
theorem not_path_lt_of_find? {entries : List HrtfCatalogEntry}
    (hsorted : entries.Pairwise fun a b => ¬ b.path < a.path)
    {test : HrtfCatalogEntry → Bool} {found : HrtfCatalogEntry}
    (hfind : entries.find? test = some found) :
    ∀ other ∈ entries, test other = true → ¬ other.path < found.path := by
  obtain ⟨-, front, behind, rfl, hfront⟩ := List.find?_eq_some_iff_append.mp hfind
  obtain ⟨-, hbehind, -⟩ := List.pairwise_append.mp hsorted
  intro other hmem htest
  rcases List.mem_append.mp hmem with hbefore | hmem
  · exact absurd htest (by simpa using hfront other hbefore)
  · rcases List.mem_cons.mp hmem with rfl | hafter
    · exact List.lt_irrefl _
    · exact (List.pairwise_cons.mp hbehind).1 other hafter

section

variable {files : HrtfFiles} {entry : HrtfCatalogEntry}

theorem firstOfName_iff :
    FirstOfName files entry ↔
      ∀ other ∈ scanUserHrtfDirectory files,
        other.displayName = entry.displayName → ¬ other.path < entry.path := by
  constructor
  · intro h other hmem
    obtain ⟨dirEntry, hdir, huser⟩ := mem_scanUserHrtfDirectory.mp hmem
    exact h dirEntry hdir other huser
  · intro h dirEntry hdir other huser
    exact h other (mem_scanUserHrtfDirectory.mpr ⟨dirEntry, hdir, huser⟩)

/-- A name is either bundled or a user file's. -/
theorem not_mem_scan_of_displayName_eq (hbundled : WellNamed files.bundled)
    {other : HrtfCatalogEntry} (h : entry ∈ buildHrtfCatalog files)
    (hname : other.displayName = entry.displayName) :
    other ∉ scanUserHrtfDirectory files := by
  intro hscan
  obtain ⟨dirEntry, -, huser, -⟩ := exists_of_mem_scan hscan
  refine (plain_of_mem_bundled hbundled h).2.2 ?_
  rw [← hname, huser]
  exact List.prefix_append _ _

/-- What the catalog has under no bundled name is the first of the scan. -/
theorem find?_scan {test : HrtfCatalogEntry → Bool} {found : HrtfCatalogEntry}
    (hfind : (newCatalog files).find? test = some found)
    (hbuild : ∀ bundled ∈ buildHrtfCatalog files, ¬ test bundled = true) :
    (scanUserHrtfDirectory files).find? test = some found := by
  have hfront : ((buildHrtfCatalog files ++ scanUserHrtfDirectory files).take
      maxCatalogEntries).find? test = some found := hfind
  have hwhole : (buildHrtfCatalog files ++ scanUserHrtfDirectory files).find? test =
      some found := by
    rw [← List.take_append_drop maxCatalogEntries
      (buildHrtfCatalog files ++ scanUserHrtfDirectory files), List.find?_append,
      hfront, Option.some_or]
  rwa [List.find?_append, List.find?_eq_none.mpr hbuild, Option.none_or] at hwhole

/-- An entry's name finds its source exactly if no file of that name has a
smaller path. -/
theorem sourceNamed_displayName_iff (hbundled : WellNamed files.bundled)
    (h : entry ∈ newCatalog files) :
    sourceNamed files entry.displayName = entry.source ↔
      FirstOfName files entry := by
  have hself : decide (entry.displayName = entry.displayName) = true :=
    decide_eq_true rfl
  obtain ⟨found, hfind⟩ := Option.isSome_iff_exists.mp
    (List.find?_isSome (p := fun other : HrtfCatalogEntry =>
      decide (entry.displayName = other.displayName)) |>.mpr ⟨entry, h, hself⟩)
  have htest := List.find?_some hfind
  have hname : entry.displayName = found.displayName := of_decide_eq_true htest
  have hsource : sourceNamed files entry.displayName = found.source := by
    rw [sourceNamed, hfind]
    rfl
  have hfound := mem_of_mem_newCatalog (List.mem_of_find?_eq_some hfind)
  rw [hsource, firstOfName_iff]
  rcases mem_of_mem_newCatalog h with hbuild | hscan
  · -- a bundled name is the entry's alone
    have hsame : found = entry := by
      rcases hfound with hfound | hfound
      · exact List.inj_on_of_nodup_map hbundled.distinct (mem_bundled hfound)
          (mem_bundled hbuild) hname.symm
      · exact absurd hfound
          (not_mem_scan_of_displayName_eq hbundled hbuild hname.symm)
    refine iff_of_true (by rw [hsame]) ?_
    intro other hmem hother
    exact absurd hmem (not_mem_scan_of_displayName_eq hbundled hbuild hother)
  · -- the user's files of one name stand in the order of their paths
    have hbuild : ∀ bundled ∈ buildHrtfCatalog files,
        ¬ decide (entry.displayName = bundled.displayName) = true := by
      intro bundled hmem hother
      exact not_mem_scan_of_displayName_eq hbundled hmem
        (of_decide_eq_true hother) hscan
    have hfirst := find?_scan hfind hbuild
    have hleast := not_path_lt_of_find? (pairwise_scanUserHrtfDirectory files) hfirst
    have hkind : found.kind = entry.kind := by
      obtain ⟨-, -, -, hfoundKind⟩ :=
        exists_of_mem_scan (List.mem_of_find?_eq_some hfirst)
      obtain ⟨-, -, -, hentryKind⟩ := exists_of_mem_scan hscan
      rw [hfoundKind, hentryKind]
    constructor
    · intro hsources other hmem hother
      have hpath : found.path = entry.path := (Prod.mk.inj hsources).2
      rw [← hpath]
      exact hleast other hmem (decide_eq_true hother.symm)
    · intro hnone
      have hpath : found.path = entry.path := List.le_antisymm
        (hleast entry hscan hself)
        (hnone found (List.mem_of_find?_eq_some hfirst) hname.symm)
      exact Prod.ext hkind hpath

end

end HrtfCatalog

namespace AudioEngine

open HrtfCatalog

variable {α : Type}

/-! ## The restart -/

/-- A start finds the entry's source in what was saved with this device name:
under the entry's own name, or under the one that a further line of the device
name sets. -/
structure FoundAgain (files : HrtfFiles) (device : ByteString)
    (entry : HrtfCatalogEntry) : Prop where
  named : (strayFields device).lookup (ascii "hrtf_display_name") = none →
    FirstOfName files entry
  injected : ∀ name,
    (strayFields device).lookup (ascii "hrtf_display_name") = some name →
    sourceNamed files name = entry.source

/-- What a start reads of the saved choice. -/
theorem load_persistCurrentSettings (engine : AudioEngine α)
    (hwritable : engine.settings.bWritable = true) {entry : HrtfCatalogEntry}
    (hactive : engine.catalog.designated = some entry)
    (hname : newline ∉ entry.displayName) :
    ((persistCurrentSettings engine engine.status).settings.load.map
      PersistedSettings.activeHrtfDisplayName) =
        some (((strayFields engine.output.targetNodeName).lookup
          (ascii "hrtf_display_name")).getD entry.displayName) := by
  obtain ⟨toSave, hsettings, hdevice, hchoice⟩ : ∃ toSave : PersistedSettings,
      (persistCurrentSettings engine engine.status).settings =
          engine.settings.save toSave ∧
        toSave.outputDeviceName = engine.output.targetNodeName ∧
        toSave.activeHrtfDisplayName = entry.displayName := by
    refine ⟨_, rfl, rfl, ?_⟩
    show (engine.catalog.designated.map HrtfCatalogEntry.displayName).getD [] = _
    rw [hactive]
    rfl
  have hload : (engine.settings.save toSave).load = some (reloaded toSave) := by
    rw [save, if_pos hwritable]
    rfl
  rw [hsettings, hload, Option.map_some, reloaded_eq, readDisplayName, hdevice,
    hchoice, firstLine_of_not_mem hname]

section

variable {setup : DaemonSetup α} {sourceDir : ByteString}
  (hbundled : setup.files.bundled = catalogEntries sourceDir)
  (hnames : ∀ dirEntry ∈ setup.files.userDirectory, newline ∉ dirEntry.fileName)
  {engine : AudioEngine α}
  (hcatalog : engine.catalog.runtimeHrtfCatalog = newCatalog setup.files)
  {entry : HrtfCatalogEntry} (hactive : engine.catalog.designated = some entry)

include hbundled

theorem wellNamed_bundled : WellNamed setup.files.bundled := by
  rw [hbundled]
  exact wellNamed_catalogEntries sourceDir

include hnames hcatalog hactive

/-- A restart resolves the name that it reads. -/
theorem initialSource_persisted (hoverride : setup.files.sofaOverride = none)
    (hwritable : engine.settings.bWritable = true) :
    initialSource setup (persistCurrentSettings engine engine.status).settings =
      sourceNamed setup.files
        (((strayFields engine.output.targetNodeName).lookup
          (ascii "hrtf_display_name")).getD entry.displayName) := by
  have hwell := wellNamed_bundled hbundled
  have hmem : entry ∈ newCatalog setup.files := by
    rw [← hcatalog]
    exact List.mem_of_getElem? hactive
  have hload := load_persistCurrentSettings engine hwritable hactive
    (newline_not_mem_displayName hwell hnames hmem)
  rw [initialSource, initialHrtf, hload, Option.getD_some]
  exact resolveInitialHrtf_eq_sourceNamed hwell hoverride
    (runtimeHrtfCatalog_rebuildHrtfCatalog _ _) _

/-- A choice that was saved is found again by a restart with the same files
exactly if no other SOFA file with its stem stands in front of it. -/
theorem initialSource_persisted_iff (hoverride : setup.files.sofaOverride = none)
    (hwritable : engine.settings.bWritable = true) :
    initialSource setup (persistCurrentSettings engine engine.status).settings =
        entry.source ↔
      FoundAgain setup.files engine.output.targetNodeName entry := by
  have hmem : entry ∈ newCatalog setup.files := by
    rw [← hcatalog]
    exact List.mem_of_getElem? hactive
  rw [initialSource_persisted hbundled hnames hcatalog hactive hoverride hwritable]
  cases hlookup : (strayFields engine.output.targetNodeName).lookup
      (ascii "hrtf_display_name") with
  | none =>
      rw [Option.getD_none,
        sourceNamed_displayName_iff (wellNamed_bundled hbundled) hmem]
      constructor
      · intro hfirst
        refine ⟨fun _ => hfirst, fun name hname => ?_⟩
        exact absurd (hlookup.symm.trans hname) (by simp)
      · intro hagain
        exact hagain.named hlookup
  | some name =>
      rw [Option.getD_some]
      constructor
      · intro hfound
        refine ⟨fun hnone => absurd (hlookup.symm.trans hnone) (by simp), ?_⟩
        intro other hother
        obtain rfl := Option.some.inj (hlookup.symm.trans hother)
        exact hfound
      · intro hagain
        exact hagain.injected name hlookup

end

/-! ## Two files with one stem -/

/-- The synthetic source, and two files told apart by the case of their
extensions. -/
def bothCases : HrtfFiles where
  bundled := catalogEntries (ascii "/src")
  exists_ := fun _ => false
  userHrtfDirectory := ascii "/hrtf"
  userDirectory := [⟨ascii "a.SOFA", true⟩, ⟨ascii "a.sofa", true⟩]
  defaultHrtfSofaPath := ascii "/src/data/hrtf/default.sofa"
  sofaOverride := none

def userEntryUpper : HrtfCatalogEntry :=
  ⟨ascii "(user) a", .sofaFile, ascii "/hrtf/a.SOFA"⟩

theorem scan_bothCases :
    scanUserHrtfDirectory bothCases = [userEntryUpper, userEntryA] :=
  scanUserHrtfDirectory_of_pairwise (by decide) (by decide)

theorem newCatalog_bothCases :
    newCatalog bothCases =
      [⟨ascii "Synthetic spherical head", .syntheticSphericalHead, []⟩,
        userEntryUpper, userEntryA] := by
  have hbuild : buildHrtfCatalog bothCases =
      [⟨ascii "Synthetic spherical head", .syntheticSphericalHead, []⟩] := by
    decide
  rw [newCatalog, hbuild, scan_bothCases]
  rfl

noncomputable def bothCasesSetup : DaemonSetup ℝ :=
  { exactSetup with files := bothCases }

/-- A daemon with the entry at this index active. -/
noncomputable def bothCasesEngine (index : UInt8) : AudioEngine ℝ :=
  { run bothCasesSetup ⟨none, true⟩ .new with
    catalog := ⟨newCatalog bothCases, index⟩ }

theorem designated_bothCases (index : UInt8) :
    (bothCasesEngine index).catalog.designated =
      [⟨ascii "Synthetic spherical head", .syntheticSphericalHead, []⟩,
        userEntryUpper, userEntryA][index.toNat]? := by
  show (newCatalog bothCases)[index.toNat]? = _
  rw [newCatalog_bothCases]

theorem newline_not_mem_bothCases :
    ∀ dirEntry ∈ bothCases.userDirectory, newline ∉ dirEntry.fileName := by
  decide

theorem lookup_strayFields_bothCases (index : UInt8) :
    (strayFields (bothCasesEngine index).output.targetNodeName).lookup
      (ascii "hrtf_display_name") = none := by
  have hname : newline ∉ testOutputNodeName := by decide
  show (strayFields testOutputNodeName).lookup _ = none
  rw [strayFields_of_not_mem hname]
  rfl

/-- The first file of the stem is found again. -/
theorem initialSource_persisted_upper :
    initialSource bothCasesSetup (persistCurrentSettings (bothCasesEngine 1)
      (bothCasesEngine 1).status).settings = userEntryUpper.source := by
  refine (initialSource_persisted_iff rfl newline_not_mem_bothCases rfl
    (designated_bothCases 1) rfl rfl).mpr ⟨fun _ => ?_, fun name hname => ?_⟩
  · rw [firstOfName_iff, show bothCasesSetup.files = bothCases from rfl,
      scan_bothCases]
    decide
  · exact absurd ((lookup_strayFields_bothCases 1).symm.trans hname) (by simp)

/-- The second one is selected and saved, and the restart plays the first. -/
theorem initialSource_persisted_lost :
    (bothCasesEngine 2).catalog.designated = some userEntryA ∧
      initialSource bothCasesSetup (persistCurrentSettings (bothCasesEngine 2)
        (bothCasesEngine 2).status).settings ≠ userEntryA.source := by
  refine ⟨designated_bothCases 2, ?_⟩
  intro hsource
  rw [initialSource_persisted rfl newline_not_mem_bothCases rfl
    (designated_bothCases 2) rfl rfl, lookup_strayFields_bothCases,
    Option.getD_none] at hsource
  have hmem : userEntryA ∈ newCatalog bothCases := by
    rw [newCatalog_bothCases]
    decide
  have hfirst := (sourceNamed_displayName_iff
    (wellNamed_catalogEntries (ascii "/src")) hmem).mp hsource
  exact hfirst ⟨ascii "a.SOFA", true⟩ List.mem_cons_self userEntryUpper
    (by decide) rfl (by decide)

end AudioEngine

end RamkolFX
