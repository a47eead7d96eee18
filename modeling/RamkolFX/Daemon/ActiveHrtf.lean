import RamkolFX.Daemon.EngineSteps

/-!
# The active HRTF entry

A rebuild of the catalog looks for the active entry by its display name, while
the stage that plays was loaded from its path.  The two part when another
file bears the name first, and when the entry is gone and another one stands
at its index.
-/

namespace RamkolFX

open Support

/-- What `SwitchTo` is given of an entry. -/
def HrtfCatalogEntry.source (entry : HrtfCatalogEntry) :
    HrtfSourceKind × ByteString :=
  (entry.kind, entry.path)

namespace HrtfCatalog

/-! ## The entry at the index -/

/-- The entry at the active index; `none` if the index is out of range. -/
def State.designated (state : State) : Option HrtfCatalogEntry :=
  state.runtimeHrtfCatalog[state.activeHrtfIndex.toNat]?

/-- The catalog that a rebuild sets up. -/
def newCatalog (files : HrtfFiles) : List HrtfCatalogEntry :=
  (buildHrtfCatalog files ++ scanUserHrtfDirectory files).take maxCatalogEntries

theorem length_newCatalog_le (files : HrtfFiles) :
    (newCatalog files).length ≤ maxCatalogEntries :=
  List.length_take_le _ _

theorem runtimeHrtfCatalog_activateFirst (state : State)
    (test : HrtfCatalogEntry → Bool) :
    (state.activateFirst test).runtimeHrtfCatalog = state.runtimeHrtfCatalog := by
  rw [State.activateFirst]
  split <;> rfl

/-- The first entry that is accepted is designated; without one the index stays. -/
theorem designated_activateFirst {state : State}
    (hsize : state.runtimeHrtfCatalog.length ≤ maxCatalogEntries)
    (test : HrtfCatalogEntry → Bool) :
    (state.activateFirst test).designated =
      (state.runtimeHrtfCatalog.find? test).or state.designated := by
  rw [State.activateFirst, List.find?_eq_bind_findIdx?_getElem?]
  cases hindex : state.runtimeHrtfCatalog.findIdx? test with
  | none => rfl
  | some i =>
      obtain ⟨hlt, -⟩ := List.findIdx?_eq_some_iff_getElem.mp hindex
      have hbyte : (UInt8.ofNat i).toNat = i := by
        rw [UInt8.toNat_ofNat']
        have hlimit : maxCatalogEntries = 255 := rfl
        omega
      show state.runtimeHrtfCatalog[(UInt8.ofNat i).toNat]? = _
      rw [hbyte, Option.bind_some, List.getElem?_eq_getElem hlt]
      rfl

theorem runtimeHrtfCatalog_rebuildHrtfCatalog (files : HrtfFiles)
    (state : State) :
    (rebuildHrtfCatalog files state).runtimeHrtfCatalog = newCatalog files := by
  rw [rebuildHrtfCatalog]
  split
  · rfl
  · exact runtimeHrtfCatalog_activateFirst _ _

/-- The entry that a rebuild finds for the active one. -/
def relocated (files : HrtfFiles) (state : State) : Option HrtfCatalogEntry :=
  state.designated.bind fun old =>
    (newCatalog files).find? fun entry => entry.displayName = old.displayName

/-- Behind a rebuild the entry it found is designated, and without one whatever
stands at the old index. -/
theorem designated_rebuildHrtfCatalog (files : HrtfFiles) (state : State) :
    (rebuildHrtfCatalog files state).designated =
      (relocated files state).or
        ((newCatalog files)[state.activeHrtfIndex.toNat]?) := by
  rw [rebuildHrtfCatalog, relocated, State.designated.eq_def state]
  cases state.runtimeHrtfCatalog[state.activeHrtfIndex.toNat]? with
  | none => rfl
  | some old =>
      exact designated_activateFirst (length_newCatalog_le files) _

/-! ## The selected source -/

/-- The entry at the active index, if there is one, is the selected source. -/
def State.Designates (state : State) (selected : HrtfSourceKind × ByteString) :
    Prop :=
  ∀ entry, state.designated = some entry → entry.source = selected

/-- The directory lets a rebuild find the selected source: the first new entry
with the active one's display name is that source; and if there is none, so is
the entry that comes to stand at the index, unless that is out of range. -/
structure KeepsSource (files : HrtfFiles) (state : State)
    (selected : HrtfSourceKind × ByteString) : Prop where
  named : ∀ old entry, state.designated = some old →
    (newCatalog files).find?
      (fun entry => entry.displayName = old.displayName) = some entry →
    entry.source = selected
  unnamed : (∀ old, state.designated = some old →
      ∀ entry ∈ newCatalog files, entry.displayName ≠ old.displayName) →
    ∀ entry, (newCatalog files)[state.activeHrtfIndex.toNat]? = some entry →
      entry.source = selected

theorem relocated_eq_none_iff {files : HrtfFiles} {state : State} :
    relocated files state = none ↔
      ∀ old, state.designated = some old →
        ∀ entry ∈ newCatalog files, entry.displayName ≠ old.displayName := by
  rw [relocated, Option.bind_eq_none_iff]
  simp only [List.find?_eq_none, decide_eq_true_eq, ne_eq]

theorem designates_rebuildHrtfCatalog_iff (files : HrtfFiles) (state : State)
    (selected : HrtfSourceKind × ByteString) :
    (rebuildHrtfCatalog files state).Designates selected ↔
      KeepsSource files state selected := by
  rw [State.Designates, designated_rebuildHrtfCatalog]
  constructor
  · intro h
    constructor
    case named =>
      intro old entry hold hfind
      have hrelocated : relocated files state = some entry := by
        rw [relocated, hold]
        exact hfind
      apply h entry
      rw [hrelocated]
      rfl
    case unnamed =>
      intro hnone entry hentry
      apply h entry
      rw [relocated_eq_none_iff.mpr hnone]
      exact hentry
  · intro h entry hentry
    cases hrelocated : relocated files state with
    | some found =>
        rw [hrelocated] at hentry
        obtain rfl := Option.some.inj hentry
        obtain ⟨old, hold, hfind⟩ := Option.bind_eq_some_iff.mp hrelocated
        exact h.named old found hold hfind
    | none =>
        rw [hrelocated] at hentry
        exact h.unnamed (relocated_eq_none_iff.mp hrelocated) entry hentry

theorem runtimeHrtfCatalog_resolveInitialHrtf (files : HrtfFiles)
    (name : ByteString) (state : State) :
    (resolveInitialHrtf files name state).2.2.runtimeHrtfCatalog =
      state.runtimeHrtfCatalog := by
  rw [resolveInitialHrtf]
  split <;> exact runtimeHrtfCatalog_activateFirst _ _

/-- An initial source that the catalog lists is designated. -/
theorem designates_resolveInitialHrtf {files : HrtfFiles} {name : ByteString}
    {state : State} (hsize : state.runtimeHrtfCatalog.length ≤ maxCatalogEntries)
    {selected : HrtfSourceKind × ByteString}
    (hselected : selected = ((resolveInitialHrtf files name state).1,
      (resolveInitialHrtf files name state).2.1))
    (hlisted : ∃ entry ∈ state.runtimeHrtfCatalog, entry.source = selected) :
    (resolveInitialHrtf files name state).2.2.Designates selected := by
  intro entry hentry
  rw [resolveInitialHrtf] at hselected hentry
  cases hchosen : persistedChoice files name state with
  | some chosen =>
      simp only [hchosen] at hselected hentry
      rw [designated_activateFirst hsize] at hentry
      rw [persistedChoice] at hchosen
      split at hchosen
      · rw [hchosen] at hentry
        obtain rfl := Option.some.inj hentry
        exact hselected.symm
      · cases hchosen
  | none =>
      simp only [hchosen] at hselected hentry
      rw [designated_activateFirst hsize] at hentry
      obtain ⟨listed, hmem, hsource⟩ := hlisted
      cases hfind : state.runtimeHrtfCatalog.find? (fun entry =>
          decide (entry.kind = .sofaFile ∧
            resolveHrtfSofaPath files = entry.path)) with
      | some first =>
          rw [hfind] at hentry
          obtain rfl := Option.some.inj hentry
          have hfirst := List.find?_some hfind
          obtain ⟨hkind, hpath⟩ := of_decide_eq_true hfirst
          rw [hselected, HrtfCatalogEntry.source, hkind, hpath]
      | none =>
          have hother := List.find?_eq_none.mp hfind listed hmem
          rw [hselected, HrtfCatalogEntry.source] at hsource
          obtain ⟨hkind, hpath⟩ := Prod.mk.inj hsource
          exact absurd (decide_eq_true ⟨hkind, hpath.symm⟩) hother

end HrtfCatalog

namespace AudioEngine

open HrtfCatalog

variable {α : Type} [FloatArith α]

/-! ## The start -/

/-- Kind and path of the initial source, and the catalog. -/
def initialHrtf (setup : DaemonSetup α) (store : SettingsStore) :
    HrtfSourceKind × ByteString × HrtfCatalog.State :=
  resolveInitialHrtf setup.files
    ((store.load.map PersistedSettings.activeHrtfDisplayName).getD [])
    (rebuildHrtfCatalog setup.files {})

omit [FloatArith α] in
/-- The source the first stage is loaded from. -/
def initialSource (setup : DaemonSetup α) (store : SettingsStore) :
    HrtfSourceKind × ByteString :=
  ((initialHrtf setup store).1, (initialHrtf setup store).2.1)

theorem catalog_run (setup : DaemonSetup α) (store : SettingsStore)
    (devices : DeviceRegistry) :
    (run setup store devices).catalog = (initialHrtf setup store).2.2 :=
  rfl

/-- The initial source is one of the catalog's. -/
def InitialSourceListed (setup : DaemonSetup α) (store : SettingsStore) : Prop :=
  ∃ entry ∈ newCatalog setup.files, entry.source = initialSource setup store

omit [FloatArith α] in
theorem designates_initialHrtf {setup : DaemonSetup α} {store : SettingsStore}
    (hlisted : InitialSourceListed setup store) :
    (initialHrtf setup store).2.2.Designates (initialSource setup store) := by
  have hcatalog := runtimeHrtfCatalog_rebuildHrtfCatalog setup.files {}
  apply designates_resolveInitialHrtf
  · rw [hcatalog]
    exact length_newCatalog_le setup.files
  · rfl
  · rw [hcatalog]
    exact hlisted

/-! ## Events -/

/-- The entry a command selects. -/
def selectedEntry (catalog : HrtfCatalog.State) (inCommand : Command) :
    Option HrtfCatalogEntry :=
  if inCommand.commandOpcode = .setHrtfFile then
    catalog.runtimeHrtfCatalog[inCommand.hrtfIndex.toNat]?
  else none

section

variable {libs : DspLibraries α} {engine engine' : AudioEngine α}
  {inCommand : Command}

/-- A command that selects an entry makes it the active one and gives its source
to `SwitchTo`; every other one leaves the catalog alone. -/
theorem Applies.catalog (h : Applies libs engine inCommand engine') :
    (∀ entry, selectedEntry engine.catalog inCommand = some entry →
      engine'.catalog =
        { engine.catalog with activeHrtfIndex := inCommand.hrtfIndex } ∧
      engine'.advancedStage = engine.advancedStage.switchTo libs
        engine.sharedLayout entry.source.1 entry.source.2) ∧
    (selectedEntry engine.catalog inCommand = none →
      engine'.catalog = engine.catalog) := by
  cases h with
  | setHrtfFile hop entry hentry =>
      have hselected : selectedEntry engine.catalog inCommand = some entry := by
        rw [selectedEntry, if_pos hop]
        exact hentry
      refine ⟨fun other hother => ?_, fun hnone => ?_⟩
      · obtain rfl := Option.some.inj (hselected.symm.trans hother)
        exact ⟨rfl, rfl⟩
      · exact absurd (hselected.symm.trans hnone) (by simp)
  | unchanged hmode hdevice hindex =>
      have hnone : selectedEntry engine.catalog inCommand = none := by
        rw [selectedEntry]
        split
        · rename_i hop
          exact hindex hop
        · rfl
      refine ⟨fun other hother => ?_, fun _ => rfl⟩
      exact absurd (hnone.symm.trans hother) (by simp)
  | _ hop =>
      have hnone : selectedEntry engine.catalog inCommand = none := by
        rw [selectedEntry, if_neg (by simp [hop])]
      refine ⟨fun other hother => ?_, fun _ => rfl⟩
      exact absurd (hnone.symm.trans hother) (by simp)

end

/-- The daemon, and the source that was selected last. -/
structure WatchedDaemon (α : Type) where
  daemon : Daemon α
  selected : HrtfSourceKind × ByteString

/-- The source an event selects. -/
def selectedBy (catalog : HrtfCatalog.State) (event : Event α) :
    Option (HrtfSourceKind × ByteString) :=
  (event.command.bind (selectedEntry catalog)).map HrtfCatalogEntry.source

def watchedStep (setup : DaemonSetup α) (watched : WatchedDaemon α)
    (event : Event α) : Option (WatchedDaemon α) :=
  (step setup watched.daemon event).map fun daemon =>
    ⟨daemon, (selectedBy watched.daemon.engine.catalog event).getD
      watched.selected⟩

omit [FloatArith α] in
/-- An event that is a rebuild finds the selected source in its directory. -/
def RebuildKeepsSource (watched : WatchedDaemon α) : Event α → Prop
  | .hrtfDirectoryChanged files =>
      KeepsSource files watched.daemon.engine.catalog watched.selected
  | _ => True

omit [FloatArith α] in
/-- The active index designates the source that was selected last. -/
def DesignatesSelected (watched : WatchedDaemon α) : Prop :=
  watched.daemon.engine.catalog.Designates watched.selected

theorem Handled.catalog {libs : DspLibraries α} {engine engine' : AudioEngine α}
    {inCommand : Command} (h : Handled libs engine inCommand engine') :
    (∀ entry, selectedEntry engine.catalog inCommand = some entry →
      engine'.catalog =
        { engine.catalog with activeHrtfIndex := inCommand.hrtfIndex }) ∧
    (selectedEntry engine.catalog inCommand = none →
      engine'.catalog = engine.catalog) := by
  obtain ⟨deck, applied, settings, -, happlies, rfl⟩ := h.applied
  obtain ⟨hselects, hkeeps⟩ := happlies.catalog
  exact ⟨fun entry hentry => (hselects entry hentry).1, hkeeps⟩

/-- A request leaves the index on the source selected last. -/
theorem Handled.designates {libs : DspLibraries α} {engine engine' : AudioEngine α}
    {inCommand : Command} (h : Handled libs engine inCommand engine')
    {selected : HrtfSourceKind × ByteString}
    (hdesignates : engine.catalog.Designates selected) :
    engine'.catalog.Designates
      (((selectedEntry engine.catalog inCommand).map
        HrtfCatalogEntry.source).getD selected) := by
  cases hselected : selectedEntry engine.catalog inCommand with
  | some entry =>
      intro other hother
      rw [h.catalog.1 entry hselected] at hother
      have hentry : engine.catalog.runtimeHrtfCatalog[
          inCommand.hrtfIndex.toNat]? = some entry := by
        rw [selectedEntry] at hselected
        split at hselected
        · exact hselected
        · cases hselected
      obtain rfl := Option.some.inj (hentry.symm.trans hother)
      rfl
  | none =>
      rw [h.catalog.2 hselected]
      exact hdesignates

/-- Behind an event the index is on the source selected last exactly if the
event, should it be a rebuild, finds that source. -/
theorem Sound.watchedStep {watched : WatchedDaemon α}
    (h : watched.daemon.engine.Sound) (setup : DaemonSetup α) (event : Event α)
    (hdesignates : DesignatesSelected watched) :
    ∃ after, watchedStep setup watched event = some after ∧
      after.daemon.engine.Sound ∧
      (DesignatesSelected after ↔ RebuildKeepsSource watched event) := by
  obtain ⟨daemon', hstep, htakes⟩ := h.exists_takes setup event
  refine ⟨⟨daemon', (selectedBy watched.daemon.engine.catalog event).getD
    watched.selected⟩, ?_, (htakes.stepped h).sound, ?_⟩
  · rw [AudioEngine.watchedStep, hstep]
    rfl
  · cases htakes with
    | undecoded frame bConnects hcommand =>
        refine iff_of_true ?_ trivial
        rw [DesignatesSelected, selectedBy, Event.command, hcommand]
        exact hdesignates
    | handled frame bConnects inCommand limit hcommand hbounds engine' hhandled =>
        refine iff_of_true ?_ trivial
        rw [DesignatesSelected, selectedBy, Event.command, hcommand]
        exact hhandled.designates hdesignates
    | rendered interleaved engine' hblock hrendered =>
        refine iff_of_true ?_ trivial
        show engine'.catalog.Designates watched.selected
        rw [hrendered.catalog]
        exact hdesignates
    | hardwareOutputRequest | registry => exact iff_of_true hdesignates trivial
    | hrtfDirectoryChanged files =>
        exact designates_rebuildHrtfCatalog_iff files _ watched.selected

/-! ## Runs -/

/-- After these events the active index designates the source selected last,
if it designates any. -/
def IndexFollowsSource (setup : DaemonSetup α) (start : WatchedDaemon α)
    (past : List (Event α)) : Prop :=
  ∃ watched, runFrom (watchedStep setup) start past = some watched ∧
    DesignatesSelected watched

/-- The event after these, should it be a rebuild, finds the selected source. -/
def FindsSource (setup : DaemonSetup α) (start : WatchedDaemon α)
    (past : List (Event α)) (event : Event α) : Prop :=
  ∃ watched, runFrom (watchedStep setup) start past = some watched ∧
    RebuildKeepsSource watched event

/-- A daemon that has just started. -/
def WatchedDaemon.start (setup : DaemonSetup α) (store : SettingsStore)
    (devices : DeviceRegistry) : WatchedDaemon α :=
  ⟨⟨.run setup store devices, []⟩, initialSource setup store⟩

/-- The active index never designates another source than the one selected last
exactly when every rebuild finds that source under the active entry's name, or
nothing and then no other one at its index. -/
theorem indexFollowsSource_iff (setup : DaemonSetup α) (store : SettingsStore)
    (devices : DeviceRegistry) (hlisted : InitialSourceListed setup store)
    (run : List (Event α)) :
    let start := WatchedDaemon.start setup store devices
    Throughout (IndexFollowsSource setup start) run ↔
      AtEachEvent (FindsSource setup start) run := by
  intro start
  refine throughout_iff_of_invariant (watchedStep setup)
    (fun _ watched => watched.daemon.engine.Sound ∧ DesignatesSelected watched)
    (s := start)
    ⟨sound_run setup store devices, designates_initialHrtf hlisted⟩ ?_ ?_ ?_ run
  · intro past watched hrun hinv
    exact ⟨watched, hrun, hinv.2⟩
  · rintro past watched event hrun ⟨hsound, hdesignates⟩ ⟨before, hbefore, hkeeps⟩
    obtain rfl : watched = before := Option.some.inj (hrun.symm.trans hbefore)
    obtain ⟨after, hstep, hsound', hiff⟩ :=
      hsound.watchedStep setup event hdesignates
    exact ⟨after, hstep, hsound', hiff.mpr hkeeps⟩
  · rintro past watched event hrun ⟨hsound, hdesignates⟩ ⟨after, hafter, hgood⟩
    obtain ⟨after', hstep, -, hiff⟩ := hsound.watchedStep setup event hdesignates
    obtain rfl : after' = after := eq_of_runFrom_concat hrun hstep hafter
    exact ⟨watched, hrun, hiff.mp hgood⟩

/-! ## A file that is gone -/

/-- One bundled source, and one file in the user's directory. -/
def oneUserFile (fileName : ByteString) : HrtfFiles where
  bundled := [⟨ascii "default", .sofaFile, ascii "/default.sofa"⟩]
  exists_ := fun _ => true
  userHrtfDirectory := ascii "/hrtf"
  userDirectory := [⟨fileName, true⟩]
  defaultHrtfSofaPath := ascii "/default.sofa"
  sofaOverride := none

/-- The catalog with a user's file behind the bundled source. -/
theorem newCatalog_oneUserFile {fileName : ByteString} {entry : HrtfCatalogEntry}
    (h : userEntry (ascii "/hrtf") ⟨fileName, true⟩ = some entry) :
    newCatalog (oneUserFile fileName) =
      [⟨ascii "default", .sofaFile, ascii "/default.sofa"⟩, entry] := by
  have hscan : scanUserHrtfDirectory (oneUserFile fileName) = [entry] := by
    have hfound : (oneUserFile fileName).userDirectory.filterMap
        (userEntry (oneUserFile fileName).userHrtfDirectory) = [entry] :=
      List.filterMap_cons_some h
    rw [scanUserHrtfDirectory, hfound, List.mergeSort_singleton]
  rw [newCatalog, hscan]
  rfl

/-- A daemon whose user has the file `a.sofa`. -/
noncomputable def oneUserFileSetup : DaemonSetup ℝ :=
  { exactSetup with files := oneUserFile (ascii "a.sofa") }

def userEntryA : HrtfCatalogEntry :=
  ⟨ascii "(user) a", .sofaFile, ascii "/hrtf/a.sofa"⟩

def userEntryB : HrtfCatalogEntry :=
  ⟨ascii "(user) b", .sofaFile, ascii "/hrtf/b.sofa"⟩

theorem newCatalog_a : newCatalog (oneUserFile (ascii "a.sofa")) =
    [⟨ascii "default", .sofaFile, ascii "/default.sofa"⟩, userEntryA] :=
  newCatalog_oneUserFile (by decide)

theorem newCatalog_b : newCatalog (oneUserFile (ascii "b.sofa")) =
    [⟨ascii "default", .sofaFile, ascii "/default.sofa"⟩, userEntryB] :=
  newCatalog_oneUserFile (by decide)

theorem initialSourceListed_oneUserFile :
    InitialSourceListed oneUserFileSetup ⟨none, true⟩ := by
  refine ⟨⟨ascii "default", .sofaFile, ascii "/default.sofa"⟩, ?_, rfl⟩
  show _ ∈ newCatalog (oneUserFile (ascii "a.sofa"))
  rw [newCatalog_a]
  exact List.mem_cons_self

/-- The user's file is selected, and the directory is read again. -/
theorem indexFollowsSource_reread :
    let start := WatchedDaemon.start oneUserFileSetup ⟨none, true⟩ .new
    let run : List (Event ℝ) :=
      [.request ⟨Opcode.setHrtfFile.toByte, [1], by decide⟩ true,
        .hrtfDirectoryChanged (oneUserFile (ascii "a.sofa"))]
    Throughout (IndexFollowsSource oneUserFileSetup start) run ↔
      AtEachEvent (FindsSource oneUserFileSetup start) run :=
  indexFollowsSource_iff oneUserFileSetup ⟨none, true⟩ .new
    initialSourceListed_oneUserFile _

def selectA : Command := { commandOpcode := .setHrtfFile, hrtfIndex := 1 }

/-- The daemon has started with the file, and a client selects it. -/
theorem watchedStep_selectA :
    let start := WatchedDaemon.start oneUserFileSetup ⟨none, true⟩ .new
    ∃ engine' : AudioEngine ℝ,
      engine'.catalog = ⟨[⟨ascii "default", .sofaFile, ascii "/default.sofa"⟩,
        userEntryA], 1⟩ ∧
      engine'.Sound ∧
      watchedStep oneUserFileSetup start
        (.request ⟨Opcode.setHrtfFile.toByte, [1], by decide⟩ true) =
        some ⟨⟨engine', [answer oneUserFileSetup engine' selectA]⟩,
          userEntryA.source⟩ := by
  intro start
  have hcommand : Frame.command ⟨Opcode.setHrtfFile.toByte, [1], by decide⟩ =
      some selectA := by decide
  have hstart : start.daemon.engine.catalog.runtimeHrtfCatalog =
      [⟨ascii "default", .sofaFile, ascii "/default.sofa"⟩, userEntryA] := by
    show (initialHrtf oneUserFileSetup ⟨none, true⟩).2.2.runtimeHrtfCatalog = _
    rw [initialHrtf, runtimeHrtfCatalog_resolveInitialHrtf,
      runtimeHrtfCatalog_rebuildHrtfCatalog]
    exact newCatalog_a
  have hselected : selectedEntry start.daemon.engine.catalog selectA =
      some userEntryA := by
    have hop : selectA.commandOpcode = .setHrtfFile := rfl
    rw [selectedEntry, if_pos hop, hstart]
    rfl
  obtain ⟨limit, hbounds⟩ := Frame.inBounds_of_command hcommand
  have hsound : start.daemon.engine.Sound := sound_run _ _ _
  obtain ⟨engine', hhandle, hhandled⟩ :=
    hsound.handleControlCommand oneUserFileSetup hbounds true
  refine ⟨engine', ?_, hhandled.sound, ?_⟩
  · rw [hhandled.catalog.1 userEntryA hselected]
    exact congrArg (fun entries => HrtfCatalog.State.mk entries 1) hstart
  · rw [watchedStep, step_of_handled hcommand hhandle, selectedBy, Event.command,
      hcommand, Option.bind_some, hselected]
    rfl

/-- The selected file is replaced by another one: the index designates that. -/
theorem indexFollowsSource_lost :
    let start := WatchedDaemon.start oneUserFileSetup ⟨none, true⟩ .new
    ¬ Throughout (IndexFollowsSource oneUserFileSetup start)
      [.request ⟨Opcode.setHrtfFile.toByte, [1], by decide⟩ true,
        .hrtfDirectoryChanged (oneUserFile (ascii "b.sofa"))] := by
  intro start h
  obtain ⟨watched, hrun, hgood⟩ := h.last
  obtain ⟨engine', hcatalog, hsound, hstep⟩ := watchedStep_selectA
  set first : WatchedDaemon ℝ := ⟨⟨engine', [answer oneUserFileSetup engine'
    selectA]⟩, userEntryA.source⟩
  have hdesignates : DesignatesSelected first := by
    intro entry hentry
    show entry.source = userEntryA.source
    have hsame : engine'.catalog.designated = some entry := hentry
    rw [hcatalog] at hsame
    obtain rfl := Option.some.inj hsame
    rfl
  have hfirst : first.daemon.engine.Sound := hsound
  obtain ⟨after, hafter, -, hiff⟩ := hfirst.watchedStep oneUserFileSetup
    (.hrtfDirectoryChanged (oneUserFile (ascii "b.sofa"))) hdesignates
  obtain rfl : after = watched := by
    have hsecond := runFrom_concat_of
      ((runFrom_singleton start _).trans hstep) hafter
    exact Option.some.inj (hsecond.symm.trans hrun)
  -- no entry is called after the file that is gone
  have hkeeps : KeepsSource (oneUserFile (ascii "b.sofa")) engine'.catalog
      userEntryA.source := hiff.mp hgood
  rw [hcatalog] at hkeeps
  have hsource := hkeeps.unnamed ?_ userEntryB ?_
  · exact absurd hsource (by decide)
  · intro old hold
    obtain rfl := Option.some.inj hold
    rw [newCatalog_b]
    decide
  · rw [newCatalog_b]
    rfl

end AudioEngine

end RamkolFX
