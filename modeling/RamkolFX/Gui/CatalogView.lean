import RamkolFX.Daemon.ActiveHrtf
import RamkolFX.Daemon.UserDirectory
import RamkolFX.Gui.ClientCalls

/-!
# What clients see of the catalog

A client knows the catalog from the list it decodes, and the active entry from
the index in a status.  The list ends before the first name that does not fit
into the payload, while the catalog and its index go on to 255 entries.
-/

namespace RamkolFX

open Support HrtfCatalog

/-! ## Decoded responses -/

namespace ClientCall

/-- What a call returns of the response it receives. -/
def returns (call : ClientCall) (response : List UInt8) : Option ClientValue := do
  let (raw, _) ← ControlClient.receiveResponse response
  if raw.messageOpcode ≠ call.expects.toByte then none
  else (call.decodeValue raw.payload).toOption.join

theorem returns_of_wellFramed {call : ClientCall} {frame payload : List UInt8}
    {value : ClientValue} (hframed : WellFramed call.expects frame payload)
    (hdecode : call.decodeValue payload = .ok (some value)) :
    call.returns frame = some value := by
  simp only [returns, ControlClient.receiveResponse_of_wellFramed hframed,
    Option.bind_eq_bind, Option.bind_some, hdecode]
  rw [if_neg (not_not.mpr rfl)]
  rfl

/-- The catalog returned is the longest prefix that fits. -/
theorem returns_requestHrtfCatalog (displayNames : List ByteString) :
    ∃ kept, IsLongestFitting stringBytes displayNames kept ∧
      requestHrtfCatalog.returns (encodeHrtfCatalogResponse displayNames) =
        some (.hrtfCatalog kept) := by
  obtain ⟨payload, kept, hframed, hkept, hdecode, -⟩ :=
    (encodeNameList_delivered .hrtfCatalogResponse displayNames).delivered
  refine ⟨kept, hkept, returns_of_wellFramed hframed ?_⟩
  simp only [decodeValue, decodeHrtfCatalogResponse, hdecode]
  rfl

theorem returns_requestStatus {status : Status} (hmode : status.mode.IsValid)
    (hname : status.outputDeviceName.length ≤ ControlClient.maxDeviceNameLength) :
    requestStatus.returns (encodeStatusResponse status) =
      some (.status status) := by
  have hfits := (ControlClient.statusBytes_fit_iff status).mpr hname
  have hshort := hname.trans ControlClient.maxDeviceNameLength_le
  rw [encodeStatusResponse_eq]
  refine returns_of_wellFramed (wellFramed_encodeMessage hfits) ?_
  simp only [decodeValue, decodeStatusResponse_bytes hmode hshort]
  rfl

/-- Whatever name a client makes of a status, the other fields are the ones
encoded. -/
theorem eq_of_returns {status decoded : Status}
    (h : requestStatus.returns (encodeStatusResponse status) =
      some (.status decoded)) :
    decoded = { status with outputDeviceName := decoded.outputDeviceName } := by
  rw [encodeStatusResponse_eq, returns, Option.bind_eq_bind] at h
  obtain ⟨⟨raw, rest⟩, hreceive, h⟩ := Option.bind_eq_some_iff.mp h
  dsimp only at h
  split at h
  · cases h
  · have hvalue : requestStatus.decodeValue raw.payload =
        .ok (some (.status decoded)) := by
      cases hdecode : requestStatus.decodeValue raw.payload with
      | ok value =>
          rw [hdecode] at h
          exact congrArg Except.ok h
      | error fault =>
          rw [hdecode] at h
          cases h
    obtain ⟨read, hread, hdecoded⟩ := exists_of_bind_eq_ok hvalue
    have hsome : read = some decoded := by
      cases read with
      | none => cases hdecoded
      | some _ =>
          obtain rfl := ClientValue.status.inj
            (Option.some.inj (Except.ok.inj hdecoded))
          rfl
    rw [hsome] at hread
    obtain ⟨length, -, rfl, -⟩ := ControlClient.eq_of_receiveResponse hreceive
    have hlong : ¬ length < statusFixedSize := by
      intro hshort
      have htake := (List.length_take_le length (statusFixedBytes status ++
        stringBytes status.outputDeviceName)).trans_lt hshort
      rw [decodeStatusResponse, if_pos htake] at hread
      cases hread
    have hfront : (statusFixedBytes status).take length =
        statusFixedBytes status :=
      List.take_of_length_le (by rw [length_statusFixedBytes]; omega)
    rw [List.take_append, hfront] at hread
    exact eq_of_decodeStatusResponse hread

end ClientCall

namespace HrtfCatalog

/-! ## What is visible -/

/-- The names of the catalog that is built from the files. -/
def catalogNames (files : HrtfFiles) : List ByteString :=
  (newCatalog files).map HrtfCatalogEntry.displayName

/-- The index of an entry of a catalog fits its byte. -/
theorem toNat_ofNat_of_lt {files : HrtfFiles} {i : ℕ}
    (h : i < (newCatalog files).length) : (UInt8.ofNat i).toNat = i := by
  have hle := length_newCatalog_le files
  have hlimit : maxCatalogEntries = 255 := rfl
  rw [UInt8.toNat_ofNat']
  omega

/-- The index of the status is a position in the list, with the name of the
entry that is active. -/
def ShowsActive (catalog : HrtfCatalog.State) (status : Status)
    (names : List ByteString) : Prop :=
  ∃ entry, catalog.designated = some entry ∧
    names[status.activeHrtfIndex.toNat]? = some entry.displayName

/-- Every entry that can be made active is shown under its index. -/
def ShowsEvery (catalog : HrtfCatalog.State) (names : List ByteString) : Prop :=
  ∀ (i : ℕ) entry, catalog.runtimeHrtfCatalog[i]? = some entry →
    names[i]? = some entry.displayName

theorem catalogNames_getElem? {files : HrtfFiles} {i : ℕ}
    {entry : HrtfCatalogEntry} (h : (newCatalog files)[i]? = some entry) :
    (catalogNames files)[i]? = some entry.displayName := by
  rw [catalogNames, List.getElem?_map, h]
  rfl

theorem showsEvery_iff {catalog : HrtfCatalog.State} {files : HrtfFiles}
    {names : List ByteString}
    (hcatalog : catalog.runtimeHrtfCatalog = newCatalog files)
    (hnames : IsLongestFitting stringBytes (catalogNames files) names) :
    ShowsEvery catalog names ↔
      listPayloadSize stringBytes (catalogNames files) ≤ maxPayloadSize := by
  rw [← hnames.forall_getElem?_iff, ShowsEvery, hcatalog]
  constructor
  · intro h i name hname
    rw [catalogNames, List.getElem?_map] at hname
    obtain ⟨entry, hentry, rfl⟩ := Option.map_eq_some_iff.mp hname
    exact h i entry hentry
  · intro h i entry hentry
    exact h i entry.displayName (catalogNames_getElem? hentry)

theorem showsActive_iff {catalog : HrtfCatalog.State} {files : HrtfFiles}
    {names : List ByteString} {status : Status}
    (hcatalog : catalog.runtimeHrtfCatalog = newCatalog files)
    (hnames : IsLongestFitting stringBytes (catalogNames files) names)
    (hstatus : status.activeHrtfIndex = catalog.activeHrtfIndex) {i : ℕ}
    (hlt : i < (newCatalog files).length)
    (hactive : catalog.activeHrtfIndex.toNat = i) :
    ShowsActive catalog status names ↔
      listPayloadSize stringBytes ((catalogNames files).take (i + 1)) ≤
        maxPayloadSize := by
  have hentry : (newCatalog files)[i]? = some (newCatalog files)[i] :=
    List.getElem?_eq_getElem hlt
  have hdesignated : catalog.designated = some (newCatalog files)[i] := by
    rw [State.designated, hcatalog, hactive]
    exact hentry
  rw [← hnames.getElem?_eq_some_iff (catalogNames_getElem? hentry), ShowsActive,
    hstatus, hactive, hdesignated]
  constructor
  · rintro ⟨entry, hsame, hshown⟩
    obtain rfl := Option.some.inj hsame
    exact hshown
  · intro hshown
    exact ⟨_, rfl, hshown⟩

end HrtfCatalog

/-! ## The requests about the catalog -/

def getHrtfCatalogFrame : Frame := ⟨Opcode.getHrtfCatalog.toByte, [], by decide⟩

def setHrtfFileFrame (hrtfIndex : UInt8) : Frame :=
  ⟨Opcode.setHrtfFile.toByte, [hrtfIndex], Nat.le_of_ble_eq_true rfl⟩

theorem command_getHrtfCatalogFrame :
    getHrtfCatalogFrame.command = some Request.getHrtfCatalog.command := by decide

theorem command_setHrtfFileFrame (hrtfIndex : UInt8) :
    (setHrtfFileFrame hrtfIndex).command =
      some (Request.setHrtfFile hrtfIndex).command := rfl

/-- They are what a client sends. -/
theorem request_eq_bytes (hrtfIndex : UInt8) :
    ClientCall.requestHrtfCatalog.request = getHrtfCatalogFrame.bytes ∧
      (ClientCall.setHrtfFile hrtfIndex).request =
        (setHrtfFileFrame hrtfIndex).bytes :=
  ⟨rfl, rfl⟩

namespace AudioEngine

section

variable {α : Type} [FloatArith α]

/-! ## The catalog along a run -/

omit [FloatArith α] in
/-- The files that a rebuild reads. -/
def Event.filesRead : Event α → Option HrtfFiles
  | .hrtfDirectoryChanged files => some files
  | _ => none

omit [FloatArith α] in
/-- The files that the last rebuild of a run has read. -/
def filesAfter (files : HrtfFiles) (run : List (Event α)) : HrtfFiles :=
  run.foldl (fun files event => event.filesRead.getD files) files

omit [FloatArith α] in
theorem filesAfter_concat (files : HrtfFiles) (past : List (Event α))
    (event : Event α) :
    filesAfter files (past ++ [event]) =
      event.filesRead.getD (filesAfter files past) :=
  List.foldl_concat ..

/-- A catalog changes only by a rebuild. -/
theorem runtimeHrtfCatalog_of_step {setup : DaemonSetup α}
    {daemon daemon' : Daemon α} {event : Event α} (h : daemon.engine.Sound)
    (hstep : step setup daemon event = some daemon') :
    daemon'.engine.catalog.runtimeHrtfCatalog =
      (event.filesRead.map newCatalog).getD
        daemon.engine.catalog.runtimeHrtfCatalog := by
  cases h.takes hstep with
  | undecoded | hardwareOutputRequest | registry => rfl
  | handled frame bConnects inCommand limit hcommand hbounds engine' hhandled =>
      show engine'.catalog.runtimeHrtfCatalog = _
      cases hselected : selectedEntry daemon.engine.catalog inCommand with
      | none => rw [hhandled.catalog.2 hselected]; rfl
      | some entry => rw [hhandled.catalog.1 entry hselected]; rfl
  | rendered interleaved engine' hblock hrendered =>
      exact congrArg _ hrendered.catalog
  | hrtfDirectoryChanged files =>
      exact runtimeHrtfCatalog_rebuildHrtfCatalog files _

/-- After every run the catalog is the one of the files read last. -/
theorem runtimeHrtfCatalog_runFrom {setup : DaemonSetup α} {store : SettingsStore}
    {devices : DeviceRegistry} {past : List (Event α)} {daemon : Daemon α}
    (hrun : runFrom (step setup) ⟨run setup store devices, []⟩ past =
      some daemon) :
    daemon.engine.Sound ∧ daemon.engine.catalog.runtimeHrtfCatalog =
      newCatalog (filesAfter setup.files past) := by
  induction past using List.reverseRecOn generalizing daemon with
  | nil =>
      obtain rfl := Option.some.inj hrun
      refine ⟨sound_run setup store devices, ?_⟩
      rw [catalog_run, initialHrtf, runtimeHrtfCatalog_resolveInitialHrtf,
        runtimeHrtfCatalog_rebuildHrtfCatalog]
      rfl
  | append_singleton past event ih =>
      rw [runFrom_concat] at hrun
      obtain ⟨before, hbefore, hstep⟩ := Option.bind_eq_some_iff.mp hrun
      obtain ⟨hsound, hcatalog⟩ := ih hbefore
      obtain ⟨daemon', hstep', hstepped⟩ := hsound.step setup event
      obtain rfl := Option.some.inj (hstep.symm.trans hstep')
      refine ⟨hstepped.sound, ?_⟩
      rw [runtimeHrtfCatalog_of_step hsound hstep, hcatalog, filesAfter_concat]
      cases event.filesRead <;> rfl

/-! ## The active entry -/

/-- The last event of a run makes an entry active: the start does, by the
persisted choice, or a request with a valid index. -/
inductive Activates (setup : DaemonSetup α) (store : SettingsStore)
    (devices : DeviceRegistry) (i : ℕ) : List (Event α) → Prop
  | persisted (name : ByteString)
      (hload : store.load.map PersistedSettings.activeHrtfDisplayName = some name)
      (hoverride : setup.files.sofaOverride = none) (hname : name ≠ [])
      (hindex : (newCatalog setup.files).findIdx?
        (fun entry => name = entry.displayName) = some i) :
      Activates setup store devices i []
  | request (past : List (Event α)) (daemon : Daemon α) (frame : Frame)
      (bConnects : Bool) (inCommand : Command)
      (hpast : runFrom (step setup) ⟨run setup store devices, []⟩ past =
        some daemon)
      (hcommand : frame.command = some inCommand)
      (hop : inCommand.commandOpcode = .setHrtfFile)
      (hindex : inCommand.hrtfIndex.toNat = i)
      (hvalid : i < daemon.engine.catalog.runtimeHrtfCatalog.length) :
      Activates setup store devices i (past ++ [.request frame bConnects])

omit [FloatArith α] in
theorem selectedEntry_setHrtfFile (catalog : HrtfCatalog.State) (hrtfIndex : UInt8) :
    selectedEntry catalog (Request.setHrtfFile hrtfIndex).command =
      catalog.runtimeHrtfCatalog[hrtfIndex.toNat]? :=
  if_pos rfl

/-- The entry that was made active is the one at the active index. -/
theorem Activates.catalog {setup : DaemonSetup α} {store : SettingsStore}
    {devices : DeviceRegistry} {i : ℕ} {run : List (Event α)} {daemon : Daemon α}
    (h : Activates setup store devices i run)
    (hrun : runFrom (step setup) ⟨AudioEngine.run setup store devices, []⟩ run =
      some daemon) :
    i < (newCatalog (filesAfter setup.files run)).length ∧
      daemon.engine.catalog.activeHrtfIndex.toNat = i := by
  cases h with
  | persisted name hload hoverride hname hindex =>
      obtain rfl := Option.some.inj hrun
      obtain ⟨hlt, -⟩ := List.findIdx?_eq_some_iff_getElem.mp hindex
      refine ⟨hlt, ?_⟩
      have hcatalog := runtimeHrtfCatalog_rebuildHrtfCatalog setup.files {}
      have hfound : ((newCatalog setup.files).find? fun entry =>
          name = entry.displayName) = some (newCatalog setup.files)[i] := by
        rw [List.find?_eq_bind_findIdx?_getElem?, hindex, Option.bind_some,
          List.getElem?_eq_getElem hlt]
      have hchosen : persistedChoice setup.files name
          (rebuildHrtfCatalog setup.files {}) =
            some (newCatalog setup.files)[i] := by
        rw [persistedChoice, if_pos ⟨hoverride, hname⟩, hcatalog]
        exact hfound
      rw [catalog_run, initialHrtf, hload, Option.getD_some, resolveInitialHrtf,
        hchosen]
      simp only [State.activateFirst, hcatalog, hindex]
      exact toNat_ofNat_of_lt hlt
  | request past before frame bConnects inCommand hpast hcommand hop hindex
      hvalid =>
      obtain ⟨hsound, hcatalog⟩ := runtimeHrtfCatalog_runFrom hpast
      have hfiles : filesAfter setup.files
          (past ++ [.request frame bConnects]) = filesAfter setup.files past :=
        filesAfter_concat ..
      rw [runFrom_concat, hpast, Option.bind_some] at hrun
      have hselected : selectedEntry before.engine.catalog inCommand =
          some before.engine.catalog.runtimeHrtfCatalog[i] := by
        rw [selectedEntry, if_pos hop, hindex]
        exact List.getElem?_eq_getElem hvalid
      refine ⟨?_, ?_⟩
      · rw [hfiles, ← hcatalog]
        exact hvalid
      · cases hsound.takes hrun with
        | undecoded _ _ hnone =>
            rw [hcommand] at hnone
            cases hnone
        | handled _ _ other limit hother hbounds engine' hhandled =>
            obtain rfl := Option.some.inj (hcommand.symm.trans hother)
            rw [hhandled.catalog.1 _ hselected]
            exact hindex

/-- The list decoded after a run is what fits of the names of the files read
last. -/
theorem isLongestFitting_of_returns {setup : DaemonSetup α} {store : SettingsStore}
    {devices : DeviceRegistry} {run : List (Event α)} {daemon : Daemon α}
    (hrun : runFrom (step setup) ⟨AudioEngine.run setup store devices, []⟩ run =
      some daemon) {names : List ByteString}
    (hnames : ClientCall.requestHrtfCatalog.returns
      (answer setup daemon.engine Request.getHrtfCatalog.command) =
        some (.hrtfCatalog names)) :
    IsLongestFitting stringBytes (catalogNames (filesAfter setup.files run))
      names := by
  obtain ⟨kept, hkept, hreturns⟩ := ClientCall.returns_requestHrtfCatalog
    (daemon.engine.catalog.runtimeHrtfCatalog.map HrtfCatalogEntry.displayName)
  obtain rfl : kept = names := ClientValue.hrtfCatalog.inj
    (Option.some.inj (hreturns.symm.trans hnames))
  rwa [(runtimeHrtfCatalog_runFrom hrun).2] at hkept

/-- The entry made active is shown under its index exactly if the names up to
it fit the payload, and every entry is exactly if all names do. -/
theorem showsCatalog_iff (setup : DaemonSetup α) (store : SettingsStore)
    (devices : DeviceRegistry) {run : List (Event α)} {daemon : Daemon α} {i : ℕ}
    (hrun : runFrom (step setup) ⟨AudioEngine.run setup store devices, []⟩ run =
      some daemon)
    (hactivates : Activates setup store devices i run) {status : Status}
    (hstatus : ClientCall.requestStatus.returns
      (answer setup daemon.engine Request.getStatus.command) =
        some (.status status))
    {names : List ByteString}
    (hnames : ClientCall.requestHrtfCatalog.returns
      (answer setup daemon.engine Request.getHrtfCatalog.command) =
        some (.hrtfCatalog names)) :
    let files := filesAfter setup.files run
    (ShowsActive daemon.engine.catalog status names ↔
      listPayloadSize stringBytes ((catalogNames files).take (i + 1)) ≤
        maxPayloadSize) ∧
    (ShowsEvery daemon.engine.catalog names ↔
      listPayloadSize stringBytes (catalogNames files) ≤ maxPayloadSize) := by
  intro files
  obtain ⟨-, hcatalog⟩ := runtimeHrtfCatalog_runFrom hrun
  obtain ⟨hlt, hactive⟩ := hactivates.catalog hrun
  have hkept := isLongestFitting_of_returns hrun hnames
  have hindex := congrArg Status.activeHrtfIndex (ClientCall.eq_of_returns hstatus)
  exact ⟨showsActive_iff hcatalog hkept hindex hlt hactive,
    showsEvery_iff hcatalog hkept⟩

end

/-! ## Files with long names -/

def letters : List UInt8 :=
  (List.range 16).map fun k => UInt8.ofNat ('a'.toNat + k)

def longStem (letter : UInt8) : ByteString :=
  letter :: List.replicate 247 'x'.toUInt8

/-- The bundled source, and sixteen files whose names are 253 bytes long. -/
def manyFiles : HrtfFiles where
  bundled := [⟨ascii "default", .sofaFile, ascii "/default.sofa"⟩]
  exists_ := fun _ => true
  userHrtfDirectory := ascii "/hrtf"
  userDirectory := letters.map fun letter => ⟨longStem letter ++ ascii ".sofa", true⟩
  defaultHrtfSofaPath := ascii "/default.sofa"
  sofaOverride := none

def longEntry (letter : UInt8) : HrtfCatalogEntry where
  displayName := ascii "(user) " ++ longStem letter
  kind := .sofaFile
  path := FileName.join (ascii "/hrtf") (longStem letter ++ ascii ".sofa")

/-- The first letters decide the order of the paths. -/
theorem not_path_longEntry_lt {a b : UInt8} (h : a < b) :
    ¬ (longEntry b).path < (longEntry a).path := by
  have hpath : ∀ letter, (longEntry letter).path = ascii "/hrtf/" ++
      letter :: (List.replicate 247 'x'.toUInt8 ++ ascii ".sofa") := fun _ => rfl
  rw [hpath, hpath]
  exact List.le_of_lt (List.append_left_lt (List.cons_lt_cons_iff.mpr (Or.inl h)))

theorem newCatalog_manyFiles :
    newCatalog manyFiles =
      ⟨ascii "default", .sofaFile, ascii "/default.sofa"⟩ ::
        letters.map longEntry := by
  have hscan : scanUserHrtfDirectory manyFiles = letters.map longEntry := by
    apply scanUserHrtfDirectory_of_pairwise
    · show (letters.map fun letter =>
          DirectoryEntry.mk (longStem letter ++ ascii ".sofa") true).filterMap
            (userEntry (ascii "/hrtf")) = letters.map longEntry
      rw [List.filterMap_map, ← List.filterMap_eq_map]
      congr 1
      funext letter
      exact userEntry_sofa _ (List.cons_ne_nil _ _)
    · have hletters : letters.Pairwise fun a b => a < b := by decide
      exact List.pairwise_map.mpr (hletters.imp not_path_longEntry_lt)
  rw [newCatalog, hscan]
  rfl

theorem length_newCatalog_manyFiles : (newCatalog manyFiles).length = 17 := by
  rw [newCatalog_manyFiles]
  rfl

theorem listPayloadSize_manyFiles :
    listPayloadSize stringBytes (catalogNames manyFiles) = 4123 := by
  have hsize : ∀ letter, (stringBytes (longEntry letter).displayName).length =
      257 := by
    intro letter
    have hlength : (longEntry letter).displayName.length = 255 := by
      show (ascii "(user) " ++ longStem letter).length = 255
      rw [List.length_append, longStem, List.length_cons, List.length_replicate]
      rfl
    rw [length_stringBytes, hlength]
    rfl
  have hnames : catalogNames manyFiles =
      ascii "default" :: letters.map fun letter => (longEntry letter).displayName := by
    rw [catalogNames, newCatalog_manyFiles, List.map_cons, List.map_map]
    rfl
  rw [hnames, listPayloadSize, List.flatMap_cons, List.length_append,
    List.flatMap_map, length_flatMap_of_size hsize]
  rfl

noncomputable def manyFilesSetup : DaemonSetup ℝ :=
  { exactSetup with files := manyFiles }

/-- A fresh daemon, and the request for an entry of its catalog. -/
theorem decodes_manyFiles (index : UInt8) (hindex : index.toNat < 17) :
    ∃ daemon status names,
      runFrom (step manyFilesSetup) ⟨run manyFilesSetup ⟨none, true⟩ .new, []⟩
        [.request (setHrtfFileFrame index) true] =
          some daemon ∧
      Activates manyFilesSetup ⟨none, true⟩ .new index.toNat
        [.request (setHrtfFileFrame index) true] ∧
      ClientCall.requestStatus.returns
        (answer manyFilesSetup daemon.engine Request.getStatus.command) =
          some (.status status) ∧
      ClientCall.requestHrtfCatalog.returns
        (answer manyFilesSetup daemon.engine Request.getHrtfCatalog.command) =
          some (.hrtfCatalog names) := by
  have hcommand := command_setHrtfFileFrame index
  obtain ⟨hsound, hcatalog⟩ := runtimeHrtfCatalog_runFrom
    (runFrom_nil (⟨run manyFilesSetup ⟨none, true⟩ .new, []⟩ : Daemon ℝ))
  obtain ⟨daemon, hstep, hstepped⟩ := hsound.step manyFilesSetup
    (.request (setHrtfFileFrame index) true)
  have hmode : daemon.engine.mode = .off := hstepped.mode
  have hname : daemon.engine.output.targetNodeName = testOutputNodeName :=
    hstepped.targetNodeName
  obtain ⟨names, -, hnames⟩ := ClientCall.returns_requestHrtfCatalog
    (daemon.engine.catalog.runtimeHrtfCatalog.map HrtfCatalogEntry.displayName)
  refine ⟨daemon, daemon.engine.status, names, ?_, ?_, ?_, hnames⟩
  · rw [runFrom_singleton, hstep]
  · refine .request [] _ _ true _ (runFrom_nil _) hcommand rfl rfl ?_
    rw [hcatalog]
    exact hindex.trans_eq length_newCatalog_manyFiles.symm
  · refine ClientCall.returns_requestStatus ?_ ?_
    · show daemon.engine.mode.IsValid
      rw [hmode]
      decide
    · show daemon.engine.output.targetNodeName.length ≤ _
      rw [hname]
      decide

/-- The first of the files is selected. -/
theorem showsCatalog_first :
    ∃ (daemon : Daemon ℝ) (status : Status) (names : List ByteString),
      (ShowsActive daemon.engine.catalog status names ↔
        listPayloadSize stringBytes ((catalogNames manyFiles).take 2) ≤
          maxPayloadSize) ∧
      (ShowsEvery daemon.engine.catalog names ↔
        listPayloadSize stringBytes (catalogNames manyFiles) ≤ maxPayloadSize) := by
  obtain ⟨daemon, status, names, hrun, hactivates, hstatus, hnames⟩ :=
    decodes_manyFiles 1 (by decide)
  exact ⟨daemon, status, names, showsCatalog_iff manyFilesSetup ⟨none, true⟩ .new
    hrun hactivates hstatus hnames⟩

/-- The last of the files is selected: it is active, and in no list. -/
theorem showsCatalog_lost :
    ∃ (daemon : Daemon ℝ) (status : Status) (names : List ByteString),
      runFrom (step manyFilesSetup) ⟨run manyFilesSetup ⟨none, true⟩ .new, []⟩
        [.request (setHrtfFileFrame 16) true] =
          some daemon ∧
      Activates manyFilesSetup ⟨none, true⟩ .new 16
        [.request (setHrtfFileFrame 16) true] ∧
      ClientCall.requestStatus.returns
        (answer manyFilesSetup daemon.engine Request.getStatus.command) =
          some (.status status) ∧
      ClientCall.requestHrtfCatalog.returns
        (answer manyFilesSetup daemon.engine Request.getHrtfCatalog.command) =
          some (.hrtfCatalog names) ∧
      ¬ ShowsActive daemon.engine.catalog status names ∧
      ¬ ShowsEvery daemon.engine.catalog names := by
  obtain ⟨daemon, status, names, hrun, hactivates, hstatus, hnames⟩ :=
    decodes_manyFiles 16 (by decide)
  obtain ⟨-, hcatalog⟩ := runtimeHrtfCatalog_runFrom hrun
  obtain ⟨hlt, hactive⟩ := hactivates.catalog hrun
  have hkept := isLongestFitting_of_returns hrun hnames
  have hsize : ¬ listPayloadSize stringBytes (catalogNames manyFiles) ≤
      maxPayloadSize := by
    rw [listPayloadSize_manyFiles]
    decide
  refine ⟨daemon, status, names, hrun, hactivates, hstatus, hnames, ?_, ?_⟩
  · have hindex := congrArg Status.activeHrtfIndex (ClientCall.eq_of_returns hstatus)
    rw [showsActive_iff hcatalog hkept hindex hlt hactive]
    have hwhole : (catalogNames manyFiles).length ≤ 16 + 1 := by
      rw [catalogNames, List.length_map, length_newCatalog_manyFiles]
    show ¬ listPayloadSize stringBytes ((catalogNames manyFiles).take (16 + 1)) ≤ _
    rwa [List.take_of_length_le hwhole]
  · rwa [showsEvery_iff hcatalog hkept]

end AudioEngine

end RamkolFX
