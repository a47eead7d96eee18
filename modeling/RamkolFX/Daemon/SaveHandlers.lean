import RamkolFX.Daemon.SavedSettings
import RamkolFX.Support.Interleaving

/-!
# Commands of several clients that save

A handler applies its command, reads the persisted state piece by piece, and
saves what it has read.  No lock spans the three, so what is saved last may
have been read before another handler's change.
-/

namespace RamkolFX

open Support

variable {α : Type} [FloatArith α]

/-! ## A state that is read piece by piece -/

/-- What a handler has read so far: `OutStatus`, then the EQ bands, then the
bass settings, and last the display name, which completes what is to be
saved. -/
inductive Snapshot
  | afterStatus (outStatus : Status)
  | afterHwEq (outStatus : Status) (hwEqBands : Fin maxEqBands → EqBand)
  | afterBassEnhancer (outStatus : Status)
      (hwEqBands : Fin maxEqBands → EqBand) (bassEnhancer : BassEnhancerSettings)
  | complete (toSave : PersistedSettings)

namespace Snapshot

/-- The next piece of `PersistCurrentSettings`, read under its own lock. -/
def readNext (engine : AudioEngine α) : Snapshot → Option Snapshot
  | afterStatus outStatus => some (afterHwEq outStatus engine.hwEqBandState)
  | afterHwEq outStatus hwEqBands =>
      some (afterBassEnhancer outStatus hwEqBands
        engine.bassEnhancerSettingsState)
  | afterBassEnhancer outStatus hwEqBands bassEnhancer =>
      some (complete
        { mode := outStatus.mode
          speakerAzimuthDegrees := outStatus.speakerAzimuthDegrees
          speakerDistanceMeters := outStatus.speakerDistanceMeters
          speakerMuted := outStatus.speakerMuted
          bNearFieldEnabled := outStatus.bNearFieldEnabled
          outputDeviceName := outStatus.outputDeviceName
          hwEqBands
          bassEnhancer
          activeHrtfDisplayName :=
            ((engine.catalog.runtimeHrtfCatalog[
              outStatus.activeHrtfIndex.toNat]?).map
                HrtfCatalogEntry.displayName).getD [] })
  | complete _ => none

/-- A status but for the test noise, which is not persisted. -/
def persistedPart (outStatus : Status) : Status :=
  { outStatus with bTestNoiseEnabled := false }

/-- What has been read is what the engine holds. -/
def Current (engine : AudioEngine α) : Snapshot → Prop
  | afterStatus outStatus =>
      persistedPart outStatus = persistedPart engine.status
  | afterHwEq outStatus hwEqBands =>
      persistedPart outStatus = persistedPart engine.status ∧
        hwEqBands = engine.hwEqBandState
  | afterBassEnhancer outStatus hwEqBands bassEnhancer =>
      persistedPart outStatus = persistedPart engine.status ∧
        hwEqBands = engine.hwEqBandState ∧
        bassEnhancer = engine.bassEnhancerSettingsState
  | complete toSave => toSave = engine.persistedState

omit [FloatArith α]

/-- Reading on keeps a snapshot current. -/
theorem Current.readNext {engine : AudioEngine α} {snapshot next : Snapshot}
    (h : snapshot.Current engine) (hnext : snapshot.readNext engine = some next) :
    next.Current engine := by
  cases snapshot with
  | afterStatus outStatus =>
      obtain rfl := Option.some.inj hnext
      exact ⟨h, rfl⟩
  | afterHwEq outStatus hwEqBands =>
      obtain rfl := Option.some.inj hnext
      exact ⟨h.1, h.2, rfl⟩
  | afterBassEnhancer outStatus hwEqBands bassEnhancer =>
      obtain ⟨hstatus, rfl, rfl⟩ := h
      obtain rfl := Option.some.inj hnext
      cases outStatus
      simp only [persistedPart, AudioEngine.status, Status.mk.injEq] at hstatus
      obtain ⟨rfl, rfl, rfl, -, rfl, rfl, rfl, rfl⟩ := hstatus
      rfl
  | complete toSave => cases hnext

/-- The persisted part of the state, whatever else an engine holds. -/
structure SamePersisted (engine engine' : AudioEngine α) : Prop where
  status : persistedPart engine'.status = persistedPart engine.status
  hwEqBandState : engine'.hwEqBandState = engine.hwEqBandState
  bassEnhancerSettingsState :
    engine'.bassEnhancerSettingsState = engine.bassEnhancerSettingsState
  persistedState : engine'.persistedState = engine.persistedState

theorem Current.of_samePersisted {engine engine' : AudioEngine α}
    {snapshot : Snapshot} (h : snapshot.Current engine)
    (hsame : SamePersisted engine engine') : snapshot.Current engine' := by
  cases snapshot with
  | afterStatus outStatus => exact h.trans hsame.status.symm
  | afterHwEq outStatus hwEqBands =>
      exact ⟨h.1.trans hsame.status.symm, h.2.trans hsame.hwEqBandState.symm⟩
  | afterBassEnhancer outStatus hwEqBands bassEnhancer =>
      exact ⟨h.1.trans hsame.status.symm, h.2.1.trans hsame.hwEqBandState.symm,
        h.2.2.trans hsame.bassEnhancerSettingsState.symm⟩
  | complete toSave => exact h.trans hsame.persistedState.symm

end Snapshot

/-! ## Handlers -/

/-- How far a handler is: its command is applied, and then it reads, if the
command is to be saved.  A snapshot comes with the number of changes before it
was begun. -/
inductive SavePhase
  | applied (bPersistedStateChanged : Bool)
  | reading (snapshot : Snapshot) (changesSeen : ℕ)

/-- The handler has a call of `Save` ahead of it. -/
def SavePhase.WillSave : SavePhase → Prop
  | applied bPersistedStateChanged => bPersistedStateChanged = true
  | reading _ _ => True

/-- The engine, what was saved last, and the handlers in flight. -/
structure SaveHandlers (α : Type) where
  engine : AudioEngine α
  lastSaved : Option PersistedSettings := none
  /-- How many commands have changed persisted state. -/
  changes : ℕ := 0
  handlers : Threads SavePhase := fun _ => none

/-- One step of a handler. -/
inductive SaveEvent
  | apply (handler : ℕ) (inCommand : Command) (bConnects : Bool)
  | readStatus (handler : ℕ)
  | readNext (handler : ℕ)
  | save (handler : ℕ)

namespace SaveHandlers

/-- The queries end with their first step, and a command that changes nothing
with the reading of the status it answers. -/
def step (libs : DspLibraries α) (s : SaveHandlers α) :
    SaveEvent → Option (SaveHandlers α)
  | .apply handler inCommand bConnects =>
      match s.handlers handler with
      | some _ => none
      | none => do
          let engine ← AudioEngine.collectGarbage s.engine
          match inCommand.commandOpcode with
          | .getDevices | .getHwEqState | .getBassEnhancerState
          | .getHrtfCatalog => return { s with engine }
          | _ => do
              let (engine, bPersistedStateChanged) ←
                AudioEngine.applyCommand libs engine inCommand bConnects
              return { s with
                engine
                changes :=
                  if bPersistedStateChanged then s.changes + 1 else s.changes
                handlers := s.handlers.start handler
                  (.applied bPersistedStateChanged) }
  | .readStatus handler =>
      match s.handlers handler with
      | some (.applied true) =>
          some { s with
            handlers := s.handlers.start handler
              (.reading (.afterStatus s.engine.status) s.changes) }
      | some (.applied false) =>
          some { s with handlers := s.handlers.finish handler }
      | _ => none
  | .readNext handler =>
      match s.handlers handler with
      | some (.reading snapshot changesSeen) =>
          (snapshot.readNext s.engine).map fun snapshot =>
            { s with
              handlers := s.handlers.start handler
                (.reading snapshot changesSeen) }
      | _ => none
  | .save handler =>
      match s.handlers handler with
      | some (.reading (.complete toSave) _) =>
          some { s with
            engine := { s.engine with settings := s.engine.settings.save toSave }
            lastSaved := some toSave
            handlers := s.handlers.finish handler }
      | _ => none

/-- Once no handler is in flight and something was changed, what was saved last
is the persisted state. -/
def LastSavedIsState (s : SaveHandlers α) : Prop :=
  s.handlers.Idle → 0 < s.changes → s.lastSaved = some s.engine.persistedState

/-- A save behind which no handler has a save ahead of it is of a snapshot that
was begun after the last change. -/
def SavesLatest (s : SaveHandlers α) : SaveEvent → Prop
  | .save handler =>
      (∀ other phase, other ≠ handler → s.handlers other = some phase →
        ¬ phase.WillSave) →
      ∀ snapshot changesSeen,
        s.handlers handler = some (.reading snapshot changesSeen) →
        changesSeen = s.changes
  | _ => True

section

omit [FloatArith α]

/-- A snapshot with no change after it is current, and with no save ahead what
was saved last is the persisted state. -/
structure Invariant (s : SaveHandlers α) : Prop where
  seen : ∀ handler snapshot changesSeen,
    s.handlers handler = some (.reading snapshot changesSeen) →
      changesSeen ≤ s.changes ∧
        (changesSeen = s.changes → snapshot.Current s.engine)
  saved : (∀ handler phase, s.handlers handler = some phase →
      ¬ phase.WillSave) →
    0 < s.changes → s.lastSaved = some s.engine.persistedState

theorem Invariant.lastSavedIsState {s : SaveHandlers α} (h : Invariant s) :
    LastSavedIsState s := by
  intro hidle hchanged
  apply h.saved _ hchanged
  intro handler phase hphase
  rw [hidle handler] at hphase
  cases hphase

variable {s : SaveHandlers α} {engine : AudioEngine α} {handler : ℕ}

/-- A handler that is to save keeps the second part of the invariant idle. -/
theorem not_forall_not_willSave {handlers : Threads SavePhase}
    (phase : SavePhase) (hwill : phase.WillSave) {P : Prop}
    (hnone : ∀ other otherPhase,
      handlers.start handler phase other = some otherPhase →
        ¬ otherPhase.WillSave) : P :=
  absurd hwill (hnone handler phase Threads.start_self)

/-- A command has changed what is persisted: every snapshot becomes an old
one. -/
theorem Invariant.applyChanged (h : Invariant s) :
    Invariant { s with
      engine
      changes := s.changes + 1
      handlers := s.handlers.start handler (.applied true) } where
  seen := by
    intro other snapshot changesSeen hreading
    rcases Threads.eq_or_of_start hreading with hphase | hphase
    · cases hphase
    · obtain ⟨hle, -⟩ := h.seen other snapshot changesSeen hphase
      refine ⟨Nat.le_succ_of_le hle, ?_⟩
      rintro rfl
      exact absurd hle (Nat.not_succ_le_self s.changes)
  saved := fun hnone => not_forall_not_willSave (.applied true) rfl hnone

/-- What is persisted stays the same. -/
theorem Invariant.of_samePersisted (h : Invariant s)
    (hsame : Snapshot.SamePersisted s.engine engine) :
    Invariant { s with engine } where
  seen := by
    intro other snapshot changesSeen hreading
    obtain ⟨hle, hcurrent⟩ := h.seen other snapshot changesSeen hreading
    exact ⟨hle, fun hseen => (hcurrent hseen).of_samePersisted hsame⟩
  saved := by
    intro hnone hchanged
    show s.lastSaved = some engine.persistedState
    rw [hsame.persistedState]
    exact h.saved hnone hchanged

/-- A handler with nothing to save joins. -/
theorem Invariant.startUnchanged (h : Invariant s)
    (hidle : s.handlers handler = none) :
    Invariant { s with
      handlers := s.handlers.start handler (.applied false) } where
  seen := by
    intro other snapshot changesSeen hreading
    rcases Threads.eq_or_of_start hreading with hphase | hphase
    · cases hphase
    · exact h.seen other snapshot changesSeen hphase
  saved := by
    intro hnone hchanged
    apply h.saved _ hchanged
    intro other phase hphase
    have hother : other ≠ handler := by
      rintro rfl
      rw [hidle] at hphase
      cases hphase
    exact hnone other phase ((Threads.start_of_ne hother).trans hphase)

/-- A handler with nothing to save leaves. -/
theorem Invariant.finishUnchanged (h : Invariant s)
    (happlied : s.handlers handler = some (.applied false)) :
    Invariant { s with handlers := s.handlers.finish handler } where
  seen := by
    intro other snapshot changesSeen hreading
    exact h.seen other snapshot changesSeen (Threads.of_finish hreading)
  saved := by
    intro hnone hchanged
    apply h.saved _ hchanged
    intro other phase hphase
    by_cases hother : other = handler
    · rw [hother, happlied] at hphase
      obtain rfl := Option.some.inj hphase
      exact Bool.false_ne_true
    · exact hnone other phase ((Threads.finish_of_ne hother).trans hphase)

/-- A handler reads a piece: its snapshot is current if no change came in
since it began. -/
theorem Invariant.read (h : Invariant s) {snapshot : Snapshot}
    {changesSeen : ℕ} (hle : changesSeen ≤ s.changes)
    (hcurrent : changesSeen = s.changes → snapshot.Current s.engine) :
    Invariant { s with
      handlers := s.handlers.start handler (.reading snapshot changesSeen) } where
  seen := by
    intro other otherSnapshot otherSeen hreading
    rcases Threads.eq_or_of_start hreading with hphase | hphase
    · obtain ⟨rfl, rfl⟩ := SavePhase.reading.inj hphase
      exact ⟨hle, hcurrent⟩
    · exact h.seen other otherSnapshot otherSeen hphase
  saved := fun hnone =>
    not_forall_not_willSave (.reading snapshot changesSeen) trivial hnone

/-- The last handler that is to save does so with the latest state. -/
theorem Invariant.save (h : Invariant s) {toSave : PersistedSettings}
    {changesSeen : ℕ}
    (hreading : s.handlers handler =
      some (.reading (.complete toSave) changesSeen))
    (hlatest : SavesLatest s (.save handler)) :
    Invariant { s with
      engine := { s.engine with settings := s.engine.settings.save toSave }
      lastSaved := some toSave
      handlers := s.handlers.finish handler } where
  seen := by
    intro other snapshot otherSeen hother
    obtain ⟨hle, hcurrent⟩ :=
      h.seen other snapshot otherSeen (Threads.of_finish hother)
    exact ⟨hle, fun hseen =>
      (hcurrent hseen).of_samePersisted ⟨rfl, rfl, rfl, rfl⟩⟩
  saved := by
    intro hnone _
    have hseen : changesSeen = s.changes := by
      apply hlatest _ _ _ hreading
      intro other phase hother hphase
      exact hnone other phase ((Threads.finish_of_ne hother).trans hphase)
    have hcurrent : toSave = s.engine.persistedState :=
      (h.seen handler _ _ hreading).2 hseen
    exact congrArg some hcurrent

end

variable {libs : DspLibraries α} {s s' : SaveHandlers α}

omit [FloatArith α] in
theorem samePersisted_of_collectGarbage {engine engine' : AudioEngine α}
    (h : AudioEngine.collectGarbage engine = some engine') :
    Snapshot.SamePersisted engine engine' := by
  obtain ⟨advancedStage, -, hcollected⟩ := Option.bind_eq_some_iff.mp h
  obtain rfl := Option.some.inj hcollected
  exact ⟨rfl, rfl, rfl, rfl⟩

theorem samePersisted_of_unsaved {engine engine' : AudioEngine α}
    {inCommand : Command} {bConnects : Bool}
    (h : AudioEngine.applyCommand libs engine inCommand bConnects =
      some (engine', false)) : Snapshot.SamePersisted engine engine' := by
  obtain ⟨bTestNoiseEnabled, rfl⟩ := AudioEngine.exists_testNoise_of_unsaved h
  exact ⟨rfl, rfl, rfl, rfl⟩

/-- The first step of a handler: a query, or a command with its state
change. -/
theorem apply_cases {handler : ℕ} {inCommand : Command} {bConnects : Bool}
    (h : step libs s (.apply handler inCommand bConnects) = some s') :
    s.handlers handler = none ∧
    ∃ collected, AudioEngine.collectGarbage s.engine = some collected ∧
      (s' = { s with engine := collected } ∨
        ∃ engine bPersistedStateChanged,
          AudioEngine.applyCommand libs collected inCommand bConnects =
            some (engine, bPersistedStateChanged) ∧
          s' = { s with
            engine
            changes :=
              if bPersistedStateChanged then s.changes + 1 else s.changes
            handlers := s.handlers.start handler
              (.applied bPersistedStateChanged) }) := by
  simp only [step] at h
  split at h
  · cases h
  · rename_i hidle
    obtain ⟨collected, hcollect, h⟩ := Option.bind_eq_some_iff.mp h
    refine ⟨hidle, collected, hcollect, ?_⟩
    split at h
    · exact Or.inl (Option.some.inj h).symm
    · exact Or.inl (Option.some.inj h).symm
    · exact Or.inl (Option.some.inj h).symm
    · exact Or.inl (Option.some.inj h).symm
    · obtain ⟨⟨engine, bPersistedStateChanged⟩, happly, h⟩ :=
        Option.bind_eq_some_iff.mp h
      exact Or.inr ⟨engine, bPersistedStateChanged, happly,
        (Option.some.inj h).symm⟩

theorem Invariant.apply (h : Invariant s) {handler : ℕ} {inCommand : Command}
    {bConnects : Bool}
    (hstep : step libs s (.apply handler inCommand bConnects) = some s') :
    Invariant s' := by
  obtain ⟨hidle, collected, hcollect, hcases⟩ := apply_cases hstep
  have hcollected : Invariant { s with engine := collected } :=
    h.of_samePersisted (samePersisted_of_collectGarbage hcollect)
  rcases hcases with rfl | ⟨engine, bPersistedStateChanged, happly, rfl⟩
  · exact hcollected
  · cases bPersistedStateChanged with
    | true => exact h.applyChanged
    | false =>
        have hsame := samePersisted_of_unsaved happly
        exact (hcollected.of_samePersisted hsame).startUnchanged hidle

/-- Every step keeps the invariant, if the last save of those ahead is of the
latest state. -/
theorem Invariant.step (h : Invariant s) {event : SaveEvent}
    (hlatest : SavesLatest s event) (hstep : step libs s event = some s') :
    Invariant s' := by
  cases event with
  | apply handler inCommand bConnects => exact h.apply hstep
  | readStatus handler =>
      simp only [SaveHandlers.step] at hstep
      split at hstep
      · obtain rfl := Option.some.inj hstep
        exact h.read (Nat.le_refl s.changes) fun _ => rfl
      · rename_i happlied
        obtain rfl := Option.some.inj hstep
        exact h.finishUnchanged happlied
      · cases hstep
  | readNext handler =>
      simp only [SaveHandlers.step] at hstep
      split at hstep
      · rename_i snapshot changesSeen hreading
        obtain ⟨next, hnext, rfl⟩ := Option.map_eq_some_iff.mp hstep
        obtain ⟨hle, hcurrent⟩ := h.seen handler snapshot changesSeen hreading
        exact h.read hle fun hseen => (hcurrent hseen).readNext hnext
      · cases hstep
  | save handler =>
      simp only [SaveHandlers.step] at hstep
      split at hstep
      · rename_i toSave changesSeen hreading
        obtain rfl := Option.some.inj hstep
        exact h.save hreading hlatest
      · cases hstep

/-- Whatever order the steps of the handlers come in, what was saved last is
the persisted state once no handler is in flight, if every save that is the last
of those ahead is of a snapshot begun after the last change. -/
theorem lastSavedIsState_run (libs : DspLibraries α) (engine : AudioEngine α)
    (run : List SaveEvent)
    (hlatest : AtEachEvent
      (StepMeets (SaveHandlers.step libs) SavesLatest { engine }) run)
    (s : SaveHandlers α)
    (hrun : runFrom (SaveHandlers.step libs) { engine } run = some s) :
    LastSavedIsState s := by
  have hstart : Invariant ({ engine } : SaveHandlers α) := by
    constructor
    case seen =>
      intro handler snapshot changesSeen hreading
      cases hreading
    case saved =>
      intro _ hchanged
      exact absurd hchanged (Nat.lt_irrefl 0)
  have hinvariant := invariant_of_stepMeets Invariant hstart
    (fun _ _ _ hinv hmeets hstep => hinv.step hmeets hstep) hlatest hrun
  exact hinvariant.lastSavedIsState

/-! ## One handler at a time -/

/-- The steps of a handler that saves; one that does not stops early. -/
def handlerSteps (handler : ℕ) (inCommand : Command) (bConnects : Bool) :
    List SaveEvent :=
  [.apply handler inCommand bConnects, .readStatus handler, .readNext handler,
    .readNext handler, .readNext handler, .save handler]

/-- A handler reads and saves what is persisted. -/
theorem readAndSave_of_undisturbed (libs : DspLibraries α) {handler : ℕ}
    (happlied : s.handlers handler = some (.applied true)) :
    ∃ s', runFrom (step libs) s [.readStatus handler, .readNext handler,
        .readNext handler, .readNext handler, .save handler] = some s' ∧
      s'.engine = AudioEngine.persistCurrentSettings s.engine s.engine.status := by
  refine ⟨⟨AudioEngine.persistCurrentSettings s.engine s.engine.status,
    some s.engine.persistedState, s.changes, ?_⟩, ?_, rfl⟩
  rotate_left
  · simp only [runFrom, List.foldlM_cons, List.foldlM_nil, step, happlied,
      Threads.start_self, Option.bind_eq_bind, Option.bind_some,
      Snapshot.readNext, Option.map_some]
    rfl

/-- The requests that are answered without a state change and a status. -/
def queryOpcodes : List Opcode :=
  [.getDevices, .getHwEqState, .getBassEnhancerState, .getHrtfCatalog]

/-- A query ends with its first step. -/
theorem step_apply_of_query {handler : ℕ} {inCommand : Command}
    {bConnects : Bool} {collected : AudioEngine α}
    (hidle : s.handlers handler = none)
    (hcollect : AudioEngine.collectGarbage s.engine = some collected)
    (hop : inCommand.commandOpcode ∈ queryOpcodes) :
    step libs s (.apply handler inCommand bConnects) =
      some { s with engine := collected } := by
  simp only [queryOpcodes, List.mem_cons, List.not_mem_nil, or_false] at hop
  rcases hop with hop | hop | hop | hop <;>
  · simp only [step, hidle, hcollect, hop, Option.bind_eq_bind,
      Option.bind_some]
    rfl

theorem step_apply_of_command {handler : ℕ} {inCommand : Command}
    {bConnects bPersistedStateChanged : Bool} {collected engine : AudioEngine α}
    (hidle : s.handlers handler = none)
    (hcollect : AudioEngine.collectGarbage s.engine = some collected)
    (hop : inCommand.commandOpcode ∉ queryOpcodes)
    (happly : AudioEngine.applyCommand libs collected inCommand bConnects =
      some (engine, bPersistedStateChanged)) :
    step libs s (.apply handler inCommand bConnects) =
      some { s with
        engine
        changes := if bPersistedStateChanged then s.changes + 1 else s.changes
        handlers := s.handlers.start handler
          (.applied bPersistedStateChanged) } := by
  simp only [queryOpcodes, List.mem_cons, List.not_mem_nil, or_false,
    not_or] at hop
  obtain ⟨hdevices, hhwEq, hbass, hcatalog⟩ := hop
  simp only [step, hidle, hcollect, happly, Option.bind_eq_bind,
    Option.bind_some]
  rfl

/-- A handler whose steps follow on each other does what `HandleControlCommand`
does. -/
theorem handleControlCommand_of_undisturbed (setup : DaemonSetup α)
    (s : SaveHandlers α) {handler : ℕ} (hidle : s.handlers handler = none)
    {inCommand : Command} {bConnects : Bool} {response : List UInt8}
    {engine' : AudioEngine α}
    (hhandle : AudioEngine.handleControlCommand setup s.engine inCommand
      bConnects = some (response, engine')) :
    ∃ run s', run <+: handlerSteps handler inCommand bConnects ∧
      runFrom (step setup.libs) s run = some s' ∧ s'.engine = engine' := by
  obtain ⟨collected, hcollect, hhandle⟩ := Option.bind_eq_some_iff.mp hhandle
  by_cases hquery : inCommand.commandOpcode ∈ queryOpcodes
  · refine ⟨[.apply handler inCommand bConnects], { s with engine := collected },
      ⟨_, rfl⟩, ?_, ?_⟩
    · rw [runFrom, List.foldlM_cons, step_apply_of_query hidle hcollect hquery]
      rfl
    · simp only [queryOpcodes, List.mem_cons, List.not_mem_nil,
        or_false] at hquery
      rcases hquery with hop | hop | hop | hop <;>
      · simp only [hop] at hhandle
        exact (Prod.mk.inj (Option.some.inj hhandle)).2
  · have hop := hquery
    simp only [queryOpcodes, List.mem_cons, List.not_mem_nil, or_false,
      not_or] at hop
    obtain ⟨hdevices, hhwEq, hbass, hcatalog⟩ := hop
    simp only [Option.bind_eq_bind] at hhandle
    obtain ⟨⟨applied, bPersistedStateChanged⟩, happly, hhandle⟩ :=
      Option.bind_eq_some_iff.mp hhandle
    obtain ⟨-, rfl⟩ := Prod.mk.inj (Option.some.inj hhandle)
    have hstep := step_apply_of_command hidle hcollect hquery happly
    cases bPersistedStateChanged with
    | true =>
        obtain ⟨s', hrun, hengine⟩ := readAndSave_of_undisturbed setup.libs
          (s := ⟨applied, s.lastSaved, s.changes + 1,
            s.handlers.start handler (.applied true)⟩) Threads.start_self
        refine ⟨handlerSteps handler inCommand bConnects, s', List.prefix_rfl, ?_,
          hengine⟩
        rw [handlerSteps, runFrom, List.foldlM_cons, hstep]
        exact hrun
    | false =>
        refine ⟨[.apply handler inCommand bConnects, .readStatus handler],
          ⟨applied, s.lastSaved, s.changes, (s.handlers.start handler
            (.applied false)).finish handler⟩, ⟨_, rfl⟩, ?_, rfl⟩
        rw [runFrom, List.foldlM_cons, hstep]
        simp only [List.foldlM_cons, List.foldlM_nil, step, Threads.start_self,
          Option.bind_eq_bind, Option.bind_some]
        rfl

/-! ## Two handlers -/

def setMode (modeValue : SpatialMode) : Command :=
  { commandOpcode := .setSpatialMode, modeValue }

/-- One client sets the mode. -/
theorem lastSavedIsState_setSpatialMode :
    ∃ s, runFrom (step AudioEngine.exactSetup.libs)
        { engine := AudioEngine.run AudioEngine.exactSetup ⟨none, true⟩ .new }
        (handlerSteps 0 (setMode .advanced) true) = some s ∧
      LastSavedIsState s := by
  obtain ⟨s, hs⟩ : ∃ s, runFrom (step AudioEngine.exactSetup.libs)
      { engine := AudioEngine.run AudioEngine.exactSetup ⟨none, true⟩ .new }
      (handlerSteps 0 (setMode .advanced) true) = some s := ⟨_, rfl⟩
  refine ⟨s, hs, lastSavedIsState_run _ _ _ ?_ s hs⟩
  refine stepMeets_cons trivial ?_
  rintro _ ⟨⟩
  refine stepMeets_cons trivial ?_
  rintro _ ⟨⟩
  refine stepMeets_cons trivial ?_
  rintro _ ⟨⟩
  refine stepMeets_cons trivial ?_
  rintro _ ⟨⟩
  refine stepMeets_cons trivial ?_
  rintro _ ⟨⟩
  refine stepMeets_cons ?_ fun _ _ => atEachEvent_nil
  intro _ snapshot changesSeen hreading
  obtain ⟨-, rfl⟩ := SavePhase.reading.inj (Option.some.inj hreading)
  rfl

/-- Two clients set the mode; the first one reads the state before the second
one's change, and saves it last. -/
theorem lastSavedIsState_lost :
    ∃ s, runFrom (step AudioEngine.exactSetup.libs)
        { engine := AudioEngine.run AudioEngine.exactSetup ⟨none, true⟩ .new }
        [.apply 0 (setMode .basic) true, .readStatus 0,
          .apply 1 (setMode .advanced) true, .readStatus 1,
          .readNext 0, .readNext 0, .readNext 0, .readNext 1, .readNext 1,
          .readNext 1, .save 1, .save 0] = some s ∧
      ¬ LastSavedIsState s := by
  refine ⟨_, rfl, ?_⟩
  intro h
  have hsaved := h (Threads.idle_finish_finish ?_) (Nat.succ_pos 1)
  · have hmode := congrArg PersistedSettings.mode (Option.some.inj hsaved)
    exact absurd hmode (by decide)
  · intro handler hzero hone
    simp only [Threads.start_of_ne hzero, Threads.start_of_ne hone]

end SaveHandlers

end RamkolFX
