import RamkolFX.Daemon.EngineSteps

/-!
# What is saved

The handler saves the persisted part of the engine's state whenever a command
has changed it.  The engine keeps no record of what it gave to the store, so
the runs here do.
-/

namespace RamkolFX

open Support

namespace AudioEngine

variable {α : Type} [FloatArith α]

/-! ## The persisted state -/

omit [FloatArith α] in
/-- The part of the state that `PersistedSettings` holds. -/
def persistedState (engine : AudioEngine α) : PersistedSettings where
  mode := engine.mode
  speakerAzimuthDegrees := engine.sharedLayout.speakerAzimuthDegrees
  speakerDistanceMeters := engine.sharedLayout.speakerDistanceMeters
  speakerMuted := engine.sharedLayout.speakerMuted
  bNearFieldEnabled := engine.bNearFieldEnabled
  outputDeviceName := engine.output.targetNodeName
  activeHrtfDisplayName :=
    ((engine.catalog.runtimeHrtfCatalog[
      engine.catalog.activeHrtfIndex.toNat]?).map
        HrtfCatalogEntry.displayName).getD []
  hwEqBands := engine.hwEqBandState
  bassEnhancer := engine.bassEnhancerSettingsState

omit [FloatArith α] in
theorem persistCurrentSettings_status (engine : AudioEngine α) :
    persistCurrentSettings engine engine.status =
      { engine with settings := engine.settings.save engine.persistedState } :=
  rfl

/-! ## A command before it saves -/

/-- `HandleControlCommand` with the call of `Save` put off: the response, the
engine that is not saved yet, and what it is to save. -/
def handleUnsaved (setup : DaemonSetup α) (engine : AudioEngine α)
    (inCommand : Command) (bConnects : Bool) :
    Option (List UInt8 × AudioEngine α × Option PersistedSettings) := do
  let engine ← collectGarbage engine
  match inCommand.commandOpcode with
  | .getDevices | .getHwEqState | .getBassEnhancerState | .getHrtfCatalog =>
      return (answer setup engine inCommand, engine, none)
  | _ => do
      let (engine, bPersistedStateChanged) ←
        applyCommand setup.libs engine inCommand bConnects
      return (answer setup engine inCommand, engine,
        if bPersistedStateChanged then some engine.persistedState else none)

/-- The engine after the call of `Save`, if there is one. -/
def savedWith (engine : AudioEngine α) (toSave : Option PersistedSettings) :
    AudioEngine α :=
  { engine with settings := toSave.toList.foldl SettingsStore.save engine.settings }

/-- The handler is its part before the call of `Save`, followed by that call. -/
theorem handleControlCommand_eq (setup : DaemonSetup α) (engine : AudioEngine α)
    (inCommand : Command) (bConnects : Bool) :
    handleControlCommand setup engine inCommand bConnects =
      (handleUnsaved setup engine inCommand bConnects).map
        fun (response, engine', toSave) => (response, savedWith engine' toSave) := by
  rw [handleControlCommand, handleUnsaved]
  cases collectGarbage engine with
  | none => rfl
  | some collected =>
      simp only [Option.bind_eq_bind, Option.bind_some]
      cases hop : inCommand.commandOpcode with
      | getDevices | getHwEqState | getBassEnhancerState | getHrtfCatalog =>
          simp only [answer, hop]
          rfl
      | _ =>
          cases applyCommand setup.libs collected inCommand bConnects with
          | none => rfl
          | some applied =>
              obtain ⟨applied, bPersistedStateChanged⟩ := applied
              cases bPersistedStateChanged <;> simp only [answer, hop] <;> rfl

/-! ## What one command saves -/

/-- The requests that change nothing that is persisted: the queries, the test
noise, and the presets and content streams, which have no handler yet. -/
def unsavedOpcodes : List Opcode :=
  [.getStatus, .getDevices, .setTestNoise, .getHrtfCatalog, .setHwEqPreset,
    .saveHwEqPreset, .getContentStreams, .setContentEqBand,
    .setContentEqPreset, .saveContentEqPreset, .getEqPresetCatalog,
    .getHwEqState, .getBassEnhancerState]

section

variable {libs : DspLibraries α} {engine engine' : AudioEngine α}
  {inCommand : Command} {bConnects bPersistedStateChanged : Bool}

theorem Applies.settings (h : Applies libs engine inCommand engine') :
    engine'.settings = engine.settings := by
  cases h <;> rfl

/-- A command that is not to be saved changes the test noise at most. -/
theorem exists_testNoise_of_unsaved
    (h : applyCommand libs engine inCommand bConnects = some (engine', false)) :
    ∃ bTestNoiseEnabled, engine' = { engine with bTestNoiseEnabled } := by
  cases hop : inCommand.commandOpcode with
  | setTestNoise =>
      simp only [applyCommand, hop] at h
      obtain ⟨rfl, -⟩ := Prod.mk.inj (Option.some.inj h)
      exact ⟨_, rfl⟩
  | setHrtfFile =>
      simp only [applyCommand, hop] at h
      split at h
      · cases h
      · obtain ⟨rfl, -⟩ := Prod.mk.inj (Option.some.inj h)
        exact ⟨_, rfl⟩
  | setSpatialMode | setOutputDevice | setBassEnhancer =>
      simp [applyCommand, hop] at h
  | setSpeakerAzimuth | setSpeakerDistance =>
      simp only [applyCommand, hop, Option.bind_eq_bind] at h
      obtain ⟨channel, -, h⟩ := Option.bind_eq_some_iff.mp h
      obtain ⟨engine', -, h⟩ := Option.bind_eq_some_iff.mp h
      cases h
  | setNearFieldEnabled | resetSpeakerPositions | setSpeakerMute | setHwEqBand =>
      simp only [applyCommand, hop, Option.bind_eq_bind] at h
      obtain ⟨_, -, h⟩ := Option.bind_eq_some_iff.mp h
      cases h
  | _ =>
      simp only [applyCommand, hop] at h
      obtain ⟨rfl, -⟩ := Prod.mk.inj (Option.some.inj h)
      exact ⟨_, rfl⟩

theorem persistedState_of_unsaved
    (h : applyCommand libs engine inCommand bConnects = some (engine', false)) :
    engine'.persistedState = engine.persistedState := by
  obtain ⟨bTestNoiseEnabled, rfl⟩ := exists_testNoise_of_unsaved h
  rfl

theorem not_changed_of_mem_unsavedOpcodes
    (hop : inCommand.commandOpcode ∈ unsavedOpcodes)
    (h : applyCommand libs engine inCommand bConnects =
      some (engine', bPersistedStateChanged)) :
    bPersistedStateChanged = false := by
  simp only [unsavedOpcodes, List.mem_cons, List.not_mem_nil, or_false] at hop
  rcases hop with hop | hop | hop | hop | hop | hop | hop | hop | hop | hop |
    hop | hop | hop <;>
  · simp only [applyCommand, hop] at h
    exact (Prod.mk.inj (Option.some.inj h)).2.symm

end

/-- What a command leaves for `Save`: the store is untouched, the state to save
is the one reached, and a state that is not saved has not changed. -/
structure LeavesToSave (engine : AudioEngine α) (inCommand : Command)
    (engine' : AudioEngine α) (toSave : Option PersistedSettings) : Prop where
  sound : engine'.Sound
  settings : engine'.settings = engine.settings
  current : ∀ saved, toSave = some saved → saved = engine'.persistedState
  unchanged : toSave = none → engine'.persistedState = engine.persistedState
  unsaved : inCommand.commandOpcode ∈ unsavedOpcodes → toSave = none

theorem leavesToSave_of_applied {libs : DspLibraries α}
    {engine collected applied : AudioEngine α} {inCommand : Command}
    {bConnects bPersistedStateChanged : Bool} (hsound : applied.Sound)
    (hsettings : applied.settings = engine.settings)
    (hstate : collected.persistedState = engine.persistedState)
    (happly : applyCommand libs collected inCommand bConnects =
      some (applied, bPersistedStateChanged)) :
    LeavesToSave engine inCommand applied
      (if bPersistedStateChanged then some applied.persistedState else none) := by
  constructor
  case sound => exact hsound
  case settings => exact hsettings
  case current =>
    intro saved hsaved
    cases bPersistedStateChanged with
    | false => cases hsaved
    | true => exact (Option.some.inj hsaved).symm
  case unchanged =>
    intro hnone
    cases bPersistedStateChanged with
    | false => exact (persistedState_of_unsaved happly).trans hstate
    | true => cases hnone
  case unsaved =>
    intro hunsaved
    rw [not_changed_of_mem_unsavedOpcodes hunsaved happly]
    rfl

theorem Sound.handleUnsaved {engine : AudioEngine α} (h : engine.Sound)
    (setup : DaemonSetup α) {inCommand : Command} {limit : ℕ}
    (hbounds : inCommand.InBounds limit) (bConnects : Bool) :
    ∃ engine' toSave,
      handleUnsaved setup engine inCommand bConnects =
        some (answer setup engine' inCommand, engine', toSave) ∧
      LeavesToSave engine inCommand engine' toSave := by
  obtain ⟨deck, collected, -, hcollected, hcollect, hsound⟩ := h.collectGarbage
  have hsettings : collected.settings = engine.settings := by rw [hcollected]
  have hstate : collected.persistedState = engine.persistedState := by
    rw [hcollected]
    rfl
  obtain ⟨applied, bPersistedStateChanged, happlies, hsound', happly⟩ :=
    hsound.applyCommand setup.libs hbounds bConnects
  cases hop : inCommand.commandOpcode with
  | getDevices | getHwEqState | getBassEnhancerState | getHrtfCatalog =>
      refine ⟨collected, none, ?_, hsound, hsettings, nofun, fun _ => hstate,
        fun _ => rfl⟩
      simp only [AudioEngine.handleUnsaved, hop, hcollect, Option.bind_eq_bind,
        Option.bind_some]
      rfl
  | _ =>
      refine ⟨applied, if bPersistedStateChanged then
        some applied.persistedState else none, ?_, ?_⟩
      · simp only [AudioEngine.handleUnsaved, hop, hcollect, happly,
          Option.bind_eq_bind, Option.bind_some]
        rfl
      · exact leavesToSave_of_applied hsound' (happlies.settings.trans hsettings)
          hstate happly

/-- A block of audio changes neither the persisted state nor the store. -/
theorem kept_of_handleVirtualSinkAudio {libs : DspLibraries α}
    {engine engine' : AudioEngine α} {interleaved : List (SevenOneFrame α)}
    (h : handleVirtualSinkAudio libs engine interleaved = some engine') :
    engine'.persistedState = engine.persistedState ∧
      engine'.settings = engine.settings := by
  simp only [handleVirtualSinkAudio, Option.bind_eq_bind] at h
  obtain ⟨⟨output, deck⟩, -, h⟩ := Option.bind_eq_some_iff.mp h
  obtain ⟨⟨output', hwEq⟩, -, h⟩ := Option.bind_eq_some_iff.mp h
  obtain ⟨⟨output'', bassEnhancer⟩, -, h⟩ := Option.bind_eq_some_iff.mp h
  obtain rfl := Option.some.inj h
  exact ⟨rfl, rfl⟩

/-! ## Runs -/

/-- The daemon, and what its commands have given to `SettingsStore::Save`, the
latest last. -/
structure SavingDaemon (α : Type) where
  daemon : Daemon α
  saved : List PersistedSettings := []

/-- What an event gives to `Save`. -/
def savedBy (setup : DaemonSetup α) (engine : AudioEngine α) :
    Event α → Option PersistedSettings
  | .request frame bConnects =>
      frame.command.bind fun inCommand =>
        (handleUnsaved setup engine inCommand bConnects).bind
          fun (_, _, toSave) => toSave
  | _ => none

def savingStep (setup : DaemonSetup α) (saving : SavingDaemon α)
    (event : Event α) : Option (SavingDaemon α) :=
  (step setup saving.daemon event).map fun daemon =>
    ⟨daemon, saving.saved ++ (savedBy setup saving.daemon.engine event).toList⟩

namespace Event

omit [FloatArith α]

/-- The user's directory stays as it is. -/
def KeepsHrtfDirectory : Event α → Prop
  | hrtfDirectoryChanged _ => False
  | _ => True

/-- The event is none of the requests that change persisted state. -/
def LeavesPersistedState (event : Event α) : Prop :=
  ∀ inCommand, event.command = some inCommand →
    inCommand.commandOpcode ∈ unsavedOpcodes

end Event

/-- What an event saves: the persisted state it reached, or nothing if it has
not changed it.  The store goes along with the record. -/
structure SavesItsChange (event : Event α) (before after : SavingDaemon α) :
    Prop where
  sound : after.daemon.engine.Sound
  settings : ∃ toSave : Option PersistedSettings,
    after.saved = before.saved ++ toSave.toList ∧
      after.daemon.engine.settings =
        toSave.toList.foldl SettingsStore.save before.daemon.engine.settings
  saved : after.saved = before.saved ++ [after.daemon.engine.persistedState] ∨
    after.saved = before.saved ∧
      after.daemon.engine.persistedState = before.daemon.engine.persistedState
  unsaved : event.LeavesPersistedState → after.saved = before.saved

omit [FloatArith α] in
/-- A change of state that gives nothing to `Save`. -/
theorem savesItsChange_of_kept {event : Event α} {saving : SavingDaemon α}
    {daemon : Daemon α} (hsound : daemon.engine.Sound)
    (hstate : daemon.engine.persistedState =
      saving.daemon.engine.persistedState)
    (hsettings : daemon.engine.settings = saving.daemon.engine.settings) :
    SavesItsChange event saving ⟨daemon, saving.saved ++ []⟩ where
  sound := hsound
  settings := ⟨none, rfl, hsettings⟩
  saved := Or.inr ⟨List.append_nil _, hstate⟩
  unsaved := fun _ => List.append_nil _

omit [FloatArith α] in
/-- A command that has been handled saves what it changed. -/
theorem LeavesToSave.savesItsChange {saving : SavingDaemon α} {event : Event α}
    {inCommand : Command} {engine' : AudioEngine α}
    {toSave : Option PersistedSettings} {responses : List (List UInt8)}
    (h : LeavesToSave saving.daemon.engine inCommand engine' toSave)
    (hcommand : event.command = some inCommand) :
    SavesItsChange event saving
      ⟨⟨savedWith engine' toSave, responses⟩, saving.saved ++ toSave.toList⟩ where
  sound := ⟨h.sound.advancedStage, h.sound.hwEq, h.sound.bassEnhancer⟩
  settings := by
    refine ⟨toSave, rfl, ?_⟩
    rw [← h.settings]
    rfl
  saved := by
    cases htoSave : toSave with
    | none => exact Or.inr ⟨List.append_nil _, h.unchanged htoSave⟩
    | some saved =>
        obtain rfl := h.current saved htoSave
        exact Or.inl rfl
  unsaved := by
    intro hunsaved
    rw [h.unsaved (hunsaved inCommand hcommand)]
    exact List.append_nil _

/-- An event that keeps the user's directory saves what it changes. -/
theorem Sound.savingStep {saving : SavingDaemon α}
    (h : saving.daemon.engine.Sound) (setup : DaemonSetup α) {event : Event α}
    (hkeeps : event.KeepsHrtfDirectory) :
    ∃ after, savingStep setup saving event = some after ∧
      SavesItsChange event saving after := by
  cases event with
  | request frame bConnects =>
      cases hcommand : frame.command with
      | none =>
          refine ⟨⟨saving.daemon, saving.saved ++ []⟩, ?_,
            savesItsChange_of_kept h rfl rfl⟩
          rw [AudioEngine.savingStep, step_of_undecoded hcommand]
          simp only [savedBy, hcommand]
          rfl
      | some inCommand =>
          have hevent : (Event.request frame bConnects : Event α).command =
              some inCommand := hcommand
          obtain ⟨limit, hbounds⟩ := Frame.inBounds_of_command hcommand
          obtain ⟨engine', toSave, hunsaved, hleaves⟩ :=
            h.handleUnsaved setup hbounds bConnects
          have hhandle : AudioEngine.handleControlCommand setup
              saving.daemon.engine inCommand bConnects =
                some (answer setup engine' inCommand,
                  savedWith engine' toSave) := by
            rw [handleControlCommand_eq, hunsaved]
            rfl
          have hsaved : savedBy setup saving.daemon.engine
              (.request frame bConnects) = toSave := by
            simp only [savedBy, hcommand, Option.bind_some, hunsaved]
          refine ⟨⟨⟨savedWith engine' toSave, saving.daemon.responses ++
            [answer setup engine' inCommand]⟩, saving.saved ++ toSave.toList⟩,
            ?_, hleaves.savesItsChange hevent⟩
          rw [AudioEngine.savingStep, step_of_handled hcommand hhandle, hsaved]
          rfl
  | virtualSinkAudio interleaved =>
      obtain ⟨engine', hblock, hrendered⟩ :=
        h.handleVirtualSinkAudio setup.libs interleaved
      obtain ⟨hstate, hsettings⟩ := kept_of_handleVirtualSinkAudio hblock
      refine ⟨⟨{ saving.daemon with engine := engine' }, saving.saved ++ []⟩, ?_,
        savesItsChange_of_kept hrendered.sound hstate hsettings⟩
      rw [AudioEngine.savingStep, step_of_rendered hblock]
      rfl
  | hardwareOutputRequest frames =>
      exact ⟨_, rfl, savesItsChange_of_kept
        ⟨h.advancedStage, h.hwEq, h.bassEnhancer⟩ rfl rfl⟩
  | registry event =>
      exact ⟨_, rfl, savesItsChange_of_kept
        ⟨h.advancedStage, h.hwEq, h.bassEnhancer⟩ rfl rfl⟩
  | hrtfDirectoryChanged files => exact absurd hkeeps id

omit [FloatArith α] in
/-- What was given to `Save` last, if anything was, is the persisted state. -/
def LastSavedIsCurrent (saving : SavingDaemon α) : Prop :=
  ∀ lastSaved, saving.saved.getLast? = some lastSaved →
    lastSaved = saving.daemon.engine.persistedState

omit [FloatArith α] in
theorem lastSavedIsCurrent_of_nil {saving : SavingDaemon α}
    (h : saving.saved = []) : LastSavedIsCurrent saving := by
  intro lastSaved hlast
  rw [h] at hlast
  cases hlast

omit [FloatArith α] in
theorem SavesItsChange.lastSavedIsCurrent {event : Event α}
    {before after : SavingDaemon α} (h : SavesItsChange event before after)
    (hbefore : LastSavedIsCurrent before) : LastSavedIsCurrent after := by
  intro lastSaved hlast
  rcases h.saved with hsaved | ⟨hsaved, hstate⟩
  · rw [hsaved, List.getLast?_concat] at hlast
    exact (Option.some.inj hlast).symm
  · rw [hsaved] at hlast
    rw [hstate]
    exact hbefore lastSaved hlast

omit [FloatArith α] in
/-- The store went through what was saved. -/
theorem SavesItsChange.settings_foldl {event : Event α}
    {before after : SavingDaemon α} (h : SavesItsChange event before after)
    {store : SettingsStore}
    (hbefore : before.daemon.engine.settings =
      before.saved.foldl SettingsStore.save store) :
    after.daemon.engine.settings = after.saved.foldl SettingsStore.save store := by
  obtain ⟨toSave, hsaved, hsettings⟩ := h.settings
  rw [hsaved, hsettings, hbefore, List.foldl_append]

/-- The event after these saves what it changes. -/
def SavesAfter (setup : DaemonSetup α) (start : SavingDaemon α)
    (past : List (Event α)) (event : Event α) : Prop :=
  ∃ before after, runFrom (savingStep setup) start past = some before ∧
    savingStep setup before event = some after ∧
    SavesItsChange event before after

/-- As long as the user's directory stays as it is, what was saved last is the
persisted state, the store holds it, and every event saves what it changes. -/
theorem lastSavedIsCurrent_run (setup : DaemonSetup α) (store : SettingsStore)
    (devices : DeviceRegistry) (run : List (Event α))
    (hkeeps : ∀ event ∈ run, event.KeepsHrtfDirectory) :
    let start : SavingDaemon α := ⟨⟨.run setup store devices, []⟩, []⟩
    (∃ saving, runFrom (savingStep setup) start run = some saving ∧
      LastSavedIsCurrent saving ∧
      saving.daemon.engine.settings =
        saving.saved.foldl SettingsStore.save start.daemon.engine.settings) ∧
    AtEachEvent (SavesAfter setup start) run := by
  intro start
  have hinvariant : ∀ past, AtEachEvent
      (fun _ event => event.KeepsHrtfDirectory) past →
      ∃ saving, runFrom (savingStep setup) start past = some saving ∧
        saving.daemon.engine.Sound ∧ LastSavedIsCurrent saving ∧
        saving.daemon.engine.settings =
          saving.saved.foldl SettingsStore.save start.daemon.engine.settings := by
    intro past hpast
    refine runFrom_invariant (savingStep setup)
      (fun _ saving => saving.daemon.engine.Sound ∧ LastSavedIsCurrent saving ∧
        saving.daemon.engine.settings =
          saving.saved.foldl SettingsStore.save start.daemon.engine.settings)
      ⟨sound_run setup store devices, lastSavedIsCurrent_of_nil rfl, rfl⟩ ?_
      hpast
    rintro past saving event - ⟨hsound, hlast, hstore⟩ hevent
    obtain ⟨after, hstep, hsaves⟩ := hsound.savingStep setup hevent
    exact ⟨after, hstep, hsaves.sound, hsaves.lastSavedIsCurrent hlast,
      hsaves.settings_foldl hstore⟩
  constructor
  · obtain ⟨saving, hrun, -, hlast, hstore⟩ :=
      hinvariant run ((atEachEvent_iff_forall_mem run).mpr hkeeps)
    exact ⟨saving, hrun, hlast, hstore⟩
  · intro past event hpast
    have hmem : ∀ e ∈ past ++ [event], e.KeepsHrtfDirectory :=
      fun e he => hkeeps e (hpast.subset he)
    rw [List.forall_mem_append, List.forall_mem_singleton] at hmem
    obtain ⟨before, hrun, hsound, -⟩ :=
      hinvariant past ((atEachEvent_iff_forall_mem past).mpr hmem.1)
    obtain ⟨after, hstep, hsaves⟩ := hsound.savingStep setup hmem.2
    exact ⟨before, after, hrun, hstep, hsaves⟩

/-- A fresh daemon whose mode is set once. -/
theorem lastSavedIsCurrent_setSpatialMode :
    let start : SavingDaemon ℝ :=
      ⟨⟨.run exactSetup ⟨none, true⟩ .new, []⟩, []⟩
    let run : List (Event ℝ) :=
      [.request ⟨Opcode.setSpatialMode.toByte, [2], by decide⟩ true]
    (∃ saving, runFrom (savingStep exactSetup) start run = some saving ∧
      LastSavedIsCurrent saving ∧
      saving.daemon.engine.settings =
        saving.saved.foldl SettingsStore.save start.daemon.engine.settings) ∧
    AtEachEvent (SavesAfter exactSetup start) run :=
  lastSavedIsCurrent_run exactSetup ⟨none, true⟩ .new _
    (List.forall_mem_singleton.mpr trivial)

end AudioEngine

end RamkolFX
