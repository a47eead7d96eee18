import RamkolFX.Daemon.ActiveHrtf
import RamkolFX.Support.Interleaving

/-!
# HRTF commands of several clients

A handler copies the entry out of the catalog under a lock, and then switches
to it and stores its index without one.  Between the three steps another
handler may take its own, and a rebuild may move the entries.
-/

namespace RamkolFX

open Support HrtfCatalog

variable {α : Type} [FloatArith α]

/-- How far a `SetHrtfFile` handler is: the index it was sent, and the entry it
found there. -/
inductive HrtfPhase
  | lookedUp (hrtfIndex : UInt8) (selectedEntry : HrtfCatalogEntry)
  | switched (hrtfIndex : UInt8) (selectedEntry : HrtfCatalogEntry)

/-- The engine, the handlers in flight, and the entry whose stage was published
last with the handler that published it. -/
structure HrtfHandlers (α : Type) where
  engine : AudioEngine α
  lastPublished : HrtfCatalogEntry
  lastPublisher : Option ℕ := none
  handlers : Threads HrtfPhase := fun _ => none

/-- One step of a handler, or a rebuild from the given files. -/
inductive HrtfEvent
  | lookup (handler : ℕ) (hrtfIndex : UInt8)
  | switchTo (handler : ℕ)
  | storeIndex (handler : ℕ)
  | rebuild (files : HrtfFiles)

namespace HrtfHandlers

/-- An index out of range ends the handler at once. -/
def step (libs : DspLibraries α) (s : HrtfHandlers α) :
    HrtfEvent → Option (HrtfHandlers α)
  | .lookup handler hrtfIndex =>
      match s.handlers handler with
      | some _ => none
      | none =>
          match s.engine.catalog.runtimeHrtfCatalog[hrtfIndex.toNat]? with
          | none => some s
          | some selectedEntry =>
              some { s with
                handlers := s.handlers.start handler
                  (.lookedUp hrtfIndex selectedEntry) }
  | .switchTo handler =>
      match s.handlers handler with
      | some (.lookedUp hrtfIndex selectedEntry) =>
          some { s with
            engine := { s.engine with
              advancedStage := s.engine.advancedStage.switchTo libs
                s.engine.sharedLayout selectedEntry.kind selectedEntry.path }
            lastPublished := selectedEntry
            lastPublisher := some handler
            handlers := s.handlers.start handler
              (.switched hrtfIndex selectedEntry) }
      | _ => none
  | .storeIndex handler =>
      match s.handlers handler with
      | some (.switched hrtfIndex _) =>
          some { s with
            engine := { s.engine with
              catalog := { s.engine.catalog with activeHrtfIndex := hrtfIndex } }
            handlers := s.handlers.finish handler }
      | _ => none
  | .rebuild files =>
      some { s with
        engine := { s.engine with
          catalog := rebuildHrtfCatalog files s.engine.catalog } }

/-- Once no handler is in flight, the active index designates the entry whose
stage was published last. -/
def IndexIsPublished (s : HrtfHandlers α) : Prop :=
  s.handlers.Idle → s.engine.catalog.designated = some s.lastPublished

/-- A store that leaves no handler in flight is made by the handler that
published last, while its entry still stands at its index; and a rebuild
between the handlers lists the entry published last, and does not cut it off
at the limit of the catalog. -/
def StoresLastPublished (s : HrtfHandlers α) : HrtfEvent → Prop
  | .storeIndex handler =>
      s.handlers.OthersIdle handler →
        s.lastPublisher = some handler ∧
        ∀ hrtfIndex selectedEntry,
          s.handlers handler = some (.switched hrtfIndex selectedEntry) →
          s.engine.catalog.runtimeHrtfCatalog[hrtfIndex.toNat]? =
            some selectedEntry
  | .rebuild files => s.handlers.Idle → s.lastPublished ∈ newCatalog files
  | _ => True

/-- The catalogs of all rebuilds have pairwise distinct display names. -/
def NamesDistinct (run : List HrtfEvent) : Prop :=
  ∀ files, .rebuild files ∈ run →
    ((newCatalog files).map HrtfCatalogEntry.displayName).Nodup

/-! ## Runs -/

/-- The handler that published last, as long as it is in flight, holds the
entry published last. -/
structure Invariant (s : HrtfHandlers α) : Prop where
  published : ∀ handler hrtfIndex selectedEntry,
    s.lastPublisher = some handler →
    s.handlers handler = some (.switched hrtfIndex selectedEntry) →
    selectedEntry = s.lastPublished
  indexIsPublished : IndexIsPublished s

section

variable {libs : DspLibraries α} {s s' : HrtfHandlers α} {handler : ℕ}
  {hrtfIndex : UInt8} {selectedEntry : HrtfCatalogEntry}

omit [FloatArith α] in
theorem Invariant.lookup (h : Invariant s) :
    Invariant { s with
      handlers := s.handlers.start handler
        (.lookedUp hrtfIndex selectedEntry) } where
  published := by
    intro other index entry hlast hother
    rcases Threads.eq_or_of_start hother with hnew | hold
    · cases hnew
    · exact h.published other index entry hlast hold
  indexIsPublished := fun hidle => absurd hidle Threads.not_idle_start

omit [FloatArith α] in
theorem Invariant.switchTo (s : HrtfHandlers α) (advancedStage : HrtfDeck α) :
    Invariant { s with
      engine := { s.engine with advancedStage }
      lastPublished := selectedEntry
      lastPublisher := some handler
      handlers := s.handlers.start handler
        (.switched hrtfIndex selectedEntry) } where
  published := by
    rintro other index entry ⟨⟩ hother
    have hself := Threads.start_self.symm.trans hother
    exact (HrtfPhase.switched.inj (Option.some.inj hself)).2.symm
  indexIsPublished := fun hidle => absurd hidle Threads.not_idle_start

omit [FloatArith α] in
theorem Invariant.storeIndex (h : Invariant s)
    (hswitched : s.handlers handler = some (.switched hrtfIndex selectedEntry))
    (hlast : s.handlers.OthersIdle handler →
      s.lastPublisher = some handler ∧
      s.engine.catalog.runtimeHrtfCatalog[hrtfIndex.toNat]? =
        some selectedEntry) :
    Invariant { s with
      engine := { s.engine with
        catalog := { s.engine.catalog with activeHrtfIndex := hrtfIndex } }
      handlers := s.handlers.finish handler } where
  published := fun other index entry hpublisher hother =>
    h.published other index entry hpublisher (Threads.of_finish hother)
  indexIsPublished := by
    intro hidle
    obtain ⟨hpublisher, hentry⟩ := hlast (Threads.idle_finish_iff.mp hidle)
    rw [h.published handler hrtfIndex selectedEntry hpublisher hswitched] at hentry
    exact hentry

/-- With distinct names, a rebuild that lists the active entry finds it. -/
theorem designated_rebuild_of_mem {files : HrtfFiles} {state : HrtfCatalog.State}
    {entry : HrtfCatalogEntry} (hentry : state.designated = some entry)
    (hmem : entry ∈ newCatalog files)
    (hdistinct :
      ((newCatalog files).map HrtfCatalogEntry.displayName).Nodup) :
    (rebuildHrtfCatalog files state).designated = some entry := by
  have hfound : relocated files state = some entry := by
    rw [relocated, hentry, Option.bind_some]
    cases hfind : (newCatalog files).find? fun other =>
        decide (other.displayName = entry.displayName) with
    | none =>
        have hother := List.find?_eq_none.mp hfind entry hmem
        exact absurd (decide_eq_true rfl) hother
    | some found =>
        have hname := of_decide_eq_true (List.find?_eq_some_iff_append.mp hfind).1
        rw [List.inj_on_of_nodup_map hdistinct (List.mem_of_find?_eq_some hfind)
          hmem hname]
  rw [designated_rebuildHrtfCatalog, hfound]
  rfl

omit [FloatArith α] in
theorem Invariant.rebuild (h : Invariant s) {files : HrtfFiles}
    (hdistinct :
      ((newCatalog files).map HrtfCatalogEntry.displayName).Nodup)
    (hlists : s.handlers.Idle → s.lastPublished ∈ newCatalog files) :
    Invariant { s with
      engine := { s.engine with
        catalog := rebuildHrtfCatalog files s.engine.catalog } } where
  published := h.published
  indexIsPublished := fun hidle =>
    designated_rebuild_of_mem (h.indexIsPublished hidle) (hlists hidle) hdistinct

/-- Every step keeps the invariant, if the handler that published last stores
last and the rebuilds list its entry. -/
theorem Invariant.step (h : Invariant s) {event : HrtfEvent}
    (hdistinct : ∀ files, event = .rebuild files →
      ((newCatalog files).map HrtfCatalogEntry.displayName).Nodup)
    (hlast : StoresLastPublished s event)
    (hstep : step libs s event = some s') : Invariant s' := by
  cases event with
  | lookup handler hrtfIndex =>
      simp only [HrtfHandlers.step] at hstep
      split at hstep
      · cases hstep
      · split at hstep
        · obtain rfl := Option.some.inj hstep
          exact h
        · obtain rfl := Option.some.inj hstep
          exact h.lookup
  | switchTo handler =>
      simp only [HrtfHandlers.step] at hstep
      split at hstep
      · obtain rfl := Option.some.inj hstep
        exact Invariant.switchTo s _
      · cases hstep
  | storeIndex handler =>
      simp only [HrtfHandlers.step] at hstep
      split at hstep
      · rename_i hrtfIndex selectedEntry hswitched
        obtain rfl := Option.some.inj hstep
        apply h.storeIndex hswitched
        intro hothers
        obtain ⟨hpublisher, hentry⟩ := hlast hothers
        exact ⟨hpublisher, hentry hrtfIndex selectedEntry hswitched⟩
      · cases hstep
  | rebuild files =>
      obtain rfl := Option.some.inj hstep
      exact h.rebuild (hdistinct files rfl) hlast

/-- Whatever order the steps of the handlers and the rebuilds come in, the
active index designates the entry published last once no handler is in flight,
if the handler that published last stores last. -/
theorem indexIsPublished_run (libs : DspLibraries α) (engine : AudioEngine α)
    (initialEntry : HrtfCatalogEntry)
    (hinitial : engine.catalog.designated = some initialEntry)
    (run : List HrtfEvent) (hdistinct : NamesDistinct run)
    (hlast : AtEachEvent (StepMeets (HrtfHandlers.step libs) StoresLastPublished
      ⟨engine, initialEntry, none, fun _ => none⟩) run)
    (s : HrtfHandlers α)
    (hrun : runFrom (HrtfHandlers.step libs)
      ⟨engine, initialEntry, none, fun _ => none⟩ run = some s) :
    IndexIsPublished s := by
  have hmeets : AtEachEvent (StepMeets (HrtfHandlers.step libs)
      (fun s event => (∀ files, event = .rebuild files →
          ((newCatalog files).map HrtfCatalogEntry.displayName).Nodup) ∧
        StoresLastPublished s event)
      ⟨engine, initialEntry, none, fun _ => none⟩) run := by
    intro past event hpast before hbefore
    refine ⟨?_, hlast past event hpast before hbefore⟩
    rintro files rfl
    exact hdistinct files (hpast.subset List.mem_concat_self)
  have hstart : Invariant
      (⟨engine, initialEntry, none, fun _ => none⟩ : HrtfHandlers α) := by
    refine ⟨?_, fun _ => hinitial⟩
    intro handler hrtfIndex selectedEntry hnone
    cases hnone
  have hinvariant := invariant_of_stepMeets Invariant hstart
    (fun _ _ _ hinv hmeets hstep => hinv.step hmeets.1 hmeets.2 hstep) hmeets hrun
  exact hinvariant.indexIsPublished

end

/-! ## One handler at a time -/

/-- A handler whose steps follow on each other does what the engine's command
does. -/
theorem setHrtfFile_of_undisturbed (libs : DspLibraries α) (s : HrtfHandlers α)
    {handler : ℕ} (hidle : s.handlers handler = none) {hrtfIndex : UInt8}
    {engine' : AudioEngine α}
    (hset : AudioEngine.setHrtfFile libs s.engine hrtfIndex = some engine') :
    ∃ s', runFrom (step libs) s [.lookup handler hrtfIndex, .switchTo handler,
        .storeIndex handler] = some s' ∧ s'.engine = engine' := by
  obtain ⟨entry, hentry, rfl⟩ := Option.map_eq_some_iff.mp hset
  refine ⟨⟨_, entry, some handler, ((s.handlers.start handler
    (.lookedUp hrtfIndex entry)).start handler
      (.switched hrtfIndex entry)).finish handler⟩, ?_, rfl⟩
  simp only [runFrom, List.foldlM_cons, List.foldlM_nil, step, hidle, hentry,
    Threads.start_self, Option.bind_eq_bind, Option.bind_some]
  rfl

/-! ## Two handlers -/

/-- An engine whose catalog is the bundled source and the file `a.sofa`. -/
noncomputable def oneUserFileEngine : AudioEngine ℝ :=
  { AudioEngine.run AudioEngine.oneUserFileSetup ⟨none, true⟩ .new with
    catalog := ⟨[⟨ascii "default", .sofaFile, ascii "/default.sofa"⟩,
      AudioEngine.userEntryA], 0⟩ }

/-- One client selects the user's file. -/
theorem indexIsPublished_one :
    ∃ s, runFrom (step AudioEngine.oneUserFileSetup.libs)
        ⟨oneUserFileEngine,
          ⟨ascii "default", .sofaFile, ascii "/default.sofa"⟩, none,
          fun _ => none⟩
        [.lookup 0 1, .switchTo 0, .storeIndex 0] = some s ∧
      IndexIsPublished s := by
  obtain ⟨s, hs⟩ : ∃ s, runFrom (step AudioEngine.oneUserFileSetup.libs)
      ⟨oneUserFileEngine, ⟨ascii "default", .sofaFile, ascii "/default.sofa"⟩,
        none, fun _ => none⟩ [.lookup 0 1, .switchTo 0, .storeIndex 0] =
        some s := ⟨_, rfl⟩
  refine ⟨s, hs, indexIsPublished_run _ oneUserFileEngine _ rfl _ ?_ ?_ s hs⟩
  · intro files hfiles
    simp at hfiles
  · refine stepMeets_cons trivial ?_
    rintro _ ⟨⟩
    refine stepMeets_cons trivial ?_
    rintro _ ⟨⟩
    refine stepMeets_cons ?_ fun _ _ => atEachEvent_nil
    intro _
    refine ⟨rfl, ?_⟩
    intro hrtfIndex selectedEntry hswitched
    obtain ⟨rfl, rfl⟩ := HrtfPhase.switched.inj (Option.some.inj hswitched)
    rfl

/-- Two clients select one entry each; the one that published last is the first
to store its index. -/
theorem indexIsPublished_lost :
    ∃ s, runFrom (step AudioEngine.oneUserFileSetup.libs)
        ⟨oneUserFileEngine,
          ⟨ascii "default", .sofaFile, ascii "/default.sofa"⟩, none,
          fun _ => none⟩
        [.lookup 0 1, .lookup 1 0, .switchTo 0, .switchTo 1, .storeIndex 1,
          .storeIndex 0] = some s ∧
      ¬ IndexIsPublished s := by
  refine ⟨_, rfl, ?_⟩
  intro h
  have hidle := h (Threads.idle_finish_finish ?_)
  · exact absurd (Option.some.inj hidle) (by decide)
  · intro handler hzero hone
    simp only [Threads.start_of_ne hzero, Threads.start_of_ne hone]

end HrtfHandlers

end RamkolFX
