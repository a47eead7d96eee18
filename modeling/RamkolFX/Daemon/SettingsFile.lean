import RamkolFX.Daemon.SettingsStore
import RamkolFX.Support.Files
import RamkolFX.Support.Interleaving
import RamkolFX.Support.Updates

/-!
# The settings file on disk

`Save` writes a temp file and renames it over the settings file.  All calls
share one temp name, and the rename follows whatever became of the writing.
-/

namespace RamkolFX

open Support

/-- The two names that `Save` uses. -/
inductive SettingsName
  | settingsPath
  | tempPath
  deriving DecidableEq

/-- How far a call of `Save` is: it writes a file that it has open, or has
closed it.  The text of its settings is what it has written and what remains. -/
inductive SavingPhase
  | writing (inode : Inode) (written remaining : ByteString)
  | closed

/-- The call of `Save` that was the last to open a file, how far it has come
with it, and whether no other call wrote in the file since. -/
structure LastOpener where
  saver : ℕ
  written : ByteString := []
  remaining : ByteString
  bAlone : Bool := true

/-- The record after a call of `Save` has written a chunk. -/
def LastOpener.afterWrite (opener : LastOpener) (saver count : ℕ)
    (chunk : ByteString) : LastOpener :=
  if opener.saver = saver then
    { opener with
      written := opener.written ++ chunk
      remaining := opener.remaining.drop count }
  else { opener with bAlone := opener.bAlone && chunk.isEmpty }

namespace LastOpener

variable {opener : LastOpener} {saver count : ℕ} {chunk : ByteString}

theorem afterWrite_of_own (h : opener.saver = saver) :
    opener.afterWrite saver count chunk = { opener with
      written := opener.written ++ chunk
      remaining := opener.remaining.drop count } :=
  if_pos h

theorem afterWrite_of_other (h : opener.saver ≠ saver) :
    opener.afterWrite saver count chunk =
      { opener with bAlone := opener.bAlone && chunk.isEmpty } :=
  if_neg h

theorem saver_afterWrite :
    (opener.afterWrite saver count chunk).saver = opener.saver := by
  by_cases h : opener.saver = saver
  · rw [afterWrite_of_own h]
  · rw [afterWrite_of_other h]

/-- A chunk moves from what remains to what is written. -/
theorem text_afterWrite
    (h : opener.saver = saver → chunk = opener.remaining.take count) :
    (opener.afterWrite saver count chunk).written ++
        (opener.afterWrite saver count chunk).remaining =
      opener.written ++ opener.remaining := by
  by_cases hown : opener.saver = saver
  · rw [afterWrite_of_own hown, h hown, List.append_assoc, List.take_append_drop]
  · rw [afterWrite_of_other hown]

end LastOpener

/-- The directory of the settings, and the calls of `Save` in flight.  What was
to be saved and who opened which file is recorded beside them. -/
structure SettingsDirectory where
  files : Files SettingsName
  savers : Threads SavingPhase := fun _ => none
  toSave : List PersistedSettings := []
  lastOpener : Inode → Option LastOpener := fun _ => none

/-- One step of a call of `Save`, or the end of the daemon with all calls. -/
inductive SavingEvent
  | openTemp (saver : ℕ) (inSettings : PersistedSettings) (bOpens : Bool)
  | write (saver count : ℕ)
  | close (saver : ℕ)
  | rename (saver : ℕ) (bRenames : Bool)
  | crash

namespace SettingsDirectory

open SettingsStore

/-- A call that cannot open the temp file returns, and one that fails to write
goes on. -/
def step (s : SettingsDirectory) : SavingEvent → Option SettingsDirectory
  | .openTemp saver inSettings bOpens =>
      match s.savers saver with
      | some _ => none
      | none =>
          if bOpens then
            let inode := s.files.opened .tempPath
            some
              { files := s.files.openTruncated .tempPath
                savers := s.savers.start saver
                  (.writing inode [] (saveText inSettings))
                toSave := s.toSave ++ [inSettings]
                lastOpener := Function.update s.lastOpener inode
                  (some { saver, remaining := saveText inSettings }) }
          else some s
  | .write saver count =>
      match s.savers saver with
      | some (.writing inode written remaining) =>
          let chunk := remaining.take count
          some { s with
            files := s.files.write inode written.length chunk
            savers := s.savers.start saver
              (.writing inode (written ++ chunk) (remaining.drop count))
            lastOpener := Function.update s.lastOpener inode
              ((s.lastOpener inode).map fun opener =>
                opener.afterWrite saver count chunk) }
      | _ => none
  | .close saver =>
      match s.savers saver with
      | some (.writing _ _ _) =>
          some { s with savers := s.savers.start saver .closed }
      | _ => none
  | .rename saver bRenames =>
      match s.savers saver with
      | some .closed =>
          if bRenames then
            (s.files.rename .tempPath .settingsPath).map fun files =>
              { s with files, savers := s.savers.finish saver }
          else some { s with savers := s.savers.finish saver }
      | _ => none
  | .crash => some { s with savers := fun _ => none }

def settingsFile (s : SettingsDirectory) : Option ByteString :=
  s.files.read .settingsPath

/-- The settings file is the one from the start, if there was one, or has the
whole text of the settings of one call of `Save`. -/
def HoldsWhole (initialFile : Option ByteString) (s : SettingsDirectory) : Prop :=
  s.settingsFile = initialFile ∨
    ∃ inSettings ∈ s.toSave, s.settingsFile = some (saveText inSettings)

/-- A rename that succeeds is of a file that the last call to open it has
written to the end, with no other call writing in it since; and nothing is
written to a file after it has become the settings file. -/
def RenamesWritten (s : SettingsDirectory) : SavingEvent → Prop
  | .rename _ true =>
      ∀ inode, s.files.inodeOf .tempPath = some inode →
        ∃ opener, s.lastOpener inode = some opener ∧
          opener.remaining = [] ∧ opener.bAlone = true
  | .write saver count =>
      ∀ inode written remaining,
        s.savers saver = some (.writing inode written remaining) →
        s.files.inodeOf .settingsPath = some inode → remaining.take count = []
  | _ => True

/-- A record agrees with the file that was opened, and with the call that has
it open. -/
structure Invariant (initialFile : Option ByteString) (s : SettingsDirectory) :
    Prop where
  holdsWhole : HoldsWhole initialFile s
  text : ∀ inode opener, s.lastOpener inode = some opener →
    ∃ inSettings ∈ s.toSave,
      opener.written ++ opener.remaining = saveText inSettings
  contents : ∀ inode opener, s.lastOpener inode = some opener →
    opener.bAlone = true → s.files.contents inode = opener.written
  writer : ∀ saver inode written remaining opener,
    s.savers saver = some (.writing inode written remaining) →
    s.lastOpener inode = some opener → opener.saver = saver →
      opener.written = written ∧ opener.remaining = remaining

variable {initialFile : Option ByteString} {s s' : SettingsDirectory}

theorem HoldsWhole.of_settingsFile (h : HoldsWhole initialFile s)
    (hfile : s'.settingsFile = s.settingsFile)
    (hsave : ∀ inSettings ∈ s.toSave, inSettings ∈ s'.toSave) :
    HoldsWhole initialFile s' := by
  rw [HoldsWhole, hfile]
  rcases h with h | ⟨inSettings, hmem, h⟩
  · exact Or.inl h
  · exact Or.inr ⟨inSettings, hsave inSettings hmem, h⟩

/-- A call of `Save` opens the temp file. -/
theorem Invariant.openTemp (h : Invariant initialFile s) {saver : ℕ}
    {inSettings : PersistedSettings} :
    Invariant initialFile
      { files := s.files.openTruncated .tempPath
        savers := s.savers.start saver
          (.writing (s.files.opened .tempPath) [] (saveText inSettings))
        toSave := s.toSave ++ [inSettings]
        lastOpener := Function.update s.lastOpener (s.files.opened .tempPath)
          (some { saver, remaining := saveText inSettings }) } := by
  have hsave : ∀ saved ∈ s.toSave, saved ∈ s.toSave ++ [inSettings] :=
    fun saved hmem => List.mem_append_left _ hmem
  constructor
  case holdsWhole =>
    exact h.holdsWhole.of_settingsFile
      (s.files.read_openTruncated_of_ne SettingsName.noConfusion) hsave
  case text =>
    intro inode opener hopener
    rcases eq_or_of_update hopener with ⟨-, hnew⟩ | ⟨-, hold⟩
    · obtain rfl := Option.some.inj hnew
      exact ⟨inSettings, List.mem_concat_self, rfl⟩
    · obtain ⟨saved, hmem, htext⟩ := h.text inode opener hold
      exact ⟨saved, hsave saved hmem, htext⟩
  case contents =>
    intro inode opener hopener halone
    rcases eq_or_of_update hopener with ⟨rfl, hnew⟩ | ⟨hinode, hold⟩
    · obtain rfl := Option.some.inj hnew
      exact Files.contents_openTruncated_self _
    · rw [Files.contents_openTruncated_of_ne _ hinode]
      exact h.contents inode opener hold halone
  case writer =>
    intro other inode written remaining opener hwriting hopener hother
    rcases eq_or_of_update hopener with ⟨rfl, hnew⟩ | ⟨hinode, hold⟩
    · obtain rfl := Option.some.inj hnew
      obtain rfl : saver = other := hother
      obtain ⟨-, rfl, rfl⟩ := SavingPhase.writing.inj
        (Option.some.inj (Threads.start_self.symm.trans hwriting))
      exact ⟨rfl, rfl⟩
    · rcases Threads.eq_or_of_start hwriting with hphase | hphase
      · exact absurd (SavingPhase.writing.inj hphase).1 hinode
      · exact h.writer other inode written remaining opener hphase hold hother

/-- A call of `Save` writes a chunk of its text. -/
theorem Invariant.write (h : Invariant initialFile s) {saver count : ℕ}
    {inode : Inode} {written remaining : ByteString}
    (hwriting : s.savers saver = some (.writing inode written remaining))
    (hkept : s.files.inodeOf .settingsPath = some inode →
      remaining.take count = []) :
    Invariant initialFile { s with
      files := s.files.write inode written.length (remaining.take count)
      savers := s.savers.start saver
        (.writing inode (written ++ remaining.take count) (remaining.drop count))
      lastOpener := Function.update s.lastOpener inode
        ((s.lastOpener inode).map fun opener =>
          opener.afterWrite saver count (remaining.take count)) } := by
  constructor
  case holdsWhole =>
    refine h.holdsWhole.of_settingsFile ?_ fun _ hmem => hmem
    by_cases hsettings : s.files.inodeOf .settingsPath = some inode
    · rw [hkept hsettings, settingsFile, settingsFile, Files.write_nil]
    · exact s.files.read_write_of_ne hsettings
  case text =>
    intro other opener hopener
    rcases eq_or_of_update hopener with ⟨rfl, hnew⟩ | ⟨-, hold⟩
    · obtain ⟨old, hold, rfl⟩ := Option.map_eq_some_iff.mp hnew
      obtain ⟨inSettings, hmem, htext⟩ := h.text other old hold
      refine ⟨inSettings, hmem, (LastOpener.text_afterWrite ?_).trans htext⟩
      intro hown
      rw [(h.writer saver other written remaining old hwriting hold hown).2]
    · exact h.text other opener hold
  case contents =>
    intro other opener hopener halone
    rcases eq_or_of_update hopener with ⟨rfl, hnew⟩ | ⟨hother, hold⟩
    · obtain ⟨old, hold, rfl⟩ := Option.map_eq_some_iff.mp hnew
      rw [Files.contents_write_self]
      by_cases hown : old.saver = saver
      · obtain ⟨hwritten, -⟩ :=
          h.writer saver other written remaining old hwriting hold hown
        rw [LastOpener.afterWrite_of_own hown] at halone ⊢
        rw [h.contents other old hold halone, hwritten, overwrite_at_end]
      · rw [LastOpener.afterWrite_of_other hown] at halone ⊢
        obtain ⟨hbefore, hempty⟩ := Bool.and_eq_true_iff.mp halone
        rw [List.isEmpty_iff.mp hempty, overwrite, if_pos rfl]
        exact h.contents other old hold hbefore
    · rw [Files.contents_write_of_ne _ hother]
      exact h.contents other opener hold halone
  case writer =>
    intro other otherInode otherWritten otherRemaining opener hother hopener hown
    rcases eq_or_of_update hopener with ⟨rfl, hnew⟩ | ⟨hinode, hold⟩
    · obtain ⟨old, hold, rfl⟩ := Option.map_eq_some_iff.mp hnew
      rw [LastOpener.saver_afterWrite] at hown
      by_cases hsaver : old.saver = saver
      · obtain rfl : saver = other := hsaver.symm.trans hown
        obtain ⟨hwritten, hremaining⟩ :=
          h.writer saver otherInode written remaining old hwriting hold hsaver
        obtain ⟨-, rfl, rfl⟩ := SavingPhase.writing.inj
          (Option.some.inj (Threads.start_self.symm.trans hother))
        rw [LastOpener.afterWrite_of_own hsaver, hwritten, hremaining]
        exact ⟨rfl, rfl⟩
      · have hne : other ≠ saver := by
          rintro rfl
          exact hsaver hown
        have hphase := (Threads.start_of_ne hne).symm.trans hother
        rw [LastOpener.afterWrite_of_other hsaver]
        exact h.writer other otherInode otherWritten otherRemaining old hphase hold
          hown
    · rcases Threads.eq_or_of_start hother with hphase | hphase
      · exact absurd (SavingPhase.writing.inj hphase).1 hinode
      · exact h.writer other otherInode otherWritten otherRemaining opener hphase
          hold hown

/-- A call of `Save` renames a file that has a whole text. -/
theorem Invariant.rename (h : Invariant initialFile s) {saver : ℕ}
    {files : Files SettingsName}
    (hrename : s.files.rename .tempPath .settingsPath = some files)
    (hwritten : RenamesWritten s (.rename saver true)) :
    Invariant initialFile
      { s with files, savers := s.savers.finish saver } := by
  obtain ⟨inode, hinode, hread⟩ := Files.read_of_rename _ hrename
  have hcontents := Files.contents_of_rename _ hrename
  constructor
  case holdsWhole =>
    obtain ⟨opener, hopener, hremaining, halone⟩ := hwritten inode hinode
    obtain ⟨inSettings, hmem, htext⟩ := h.text inode opener hopener
    refine Or.inr ⟨inSettings, hmem, ?_⟩
    rw [hremaining, List.append_nil] at htext
    rw [← htext, ← h.contents inode opener hopener halone]
    exact hread
  case text => exact h.text
  case contents =>
    intro other opener hopener hother
    rw [hcontents]
    exact h.contents other opener hopener hother
  case writer =>
    intro other otherInode written remaining opener hwriting
    exact h.writer other otherInode written remaining opener
      (Threads.of_finish hwriting)

/-- Nothing happens to the files. -/
theorem Invariant.of_savers (h : Invariant initialFile s)
    {savers : Threads SavingPhase}
    (hkept : ∀ saver inode written remaining,
      savers saver = some (.writing inode written remaining) →
        s.savers saver = some (.writing inode written remaining)) :
    Invariant initialFile { s with savers } where
  holdsWhole := h.holdsWhole
  text := h.text
  contents := h.contents
  writer := by
    intro saver inode written remaining opener hwriting
    exact h.writer saver inode written remaining opener
      (hkept saver inode written remaining hwriting)

/-- Every step keeps the invariant, if the temp file is whole when it is
renamed. -/
theorem Invariant.step (h : Invariant initialFile s) {event : SavingEvent}
    (hwritten : RenamesWritten s event) (hstep : s.step event = some s') :
    Invariant initialFile s' := by
  cases event with
  | openTemp saver inSettings bOpens =>
      simp only [SettingsDirectory.step] at hstep
      split at hstep
      · cases hstep
      · split at hstep
        · obtain rfl := Option.some.inj hstep
          exact h.openTemp
        · obtain rfl := Option.some.inj hstep
          exact h
  | write saver count =>
      simp only [SettingsDirectory.step] at hstep
      split at hstep
      · rename_i inode written remaining hwriting
        obtain rfl := Option.some.inj hstep
        exact h.write hwriting (hwritten inode written remaining hwriting)
      · cases hstep
  | close saver =>
      simp only [SettingsDirectory.step] at hstep
      split at hstep
      · obtain rfl := Option.some.inj hstep
        apply h.of_savers
        intro other inode written remaining hwriting
        rcases Threads.eq_or_of_start hwriting with hphase | hphase
        · cases hphase
        · exact hphase
      · cases hstep
  | rename saver bRenames =>
      simp only [SettingsDirectory.step] at hstep
      split at hstep
      · cases bRenames with
        | true =>
            obtain ⟨files, hrename, rfl⟩ := Option.map_eq_some_iff.mp hstep
            exact h.rename hrename hwritten
        | false =>
            obtain rfl := Option.some.inj hstep
            apply h.of_savers
            intro other inode written remaining hwriting
            exact Threads.of_finish hwriting
      · cases hstep
  | crash =>
      obtain rfl := Option.some.inj hstep
      apply h.of_savers
      intro saver inode written remaining hwriting
      cases hwriting

/-- Whatever becomes of the steps of the calls, in whatever order they come and
wherever the daemon ends, the settings file is the one from the start or has the
whole text of one call's settings, if every file that is renamed is whole and is
not written any more. -/
theorem holdsWhole_run (files : Files SettingsName) (run : List SavingEvent)
    (hwritten : AtEachEvent (StepMeets step RenamesWritten { files }) run)
    (s : SettingsDirectory) (hrun : runFrom step { files } run = some s) :
    HoldsWhole (files.read .settingsPath) s := by
  have hstart : Invariant (files.read .settingsPath) { files } := by
    constructor
    case holdsWhole => exact Or.inl rfl
    case text => nofun
    case contents => nofun
    case writer => nofun
  have hinvariant := invariant_of_stepMeets (Invariant (files.read .settingsPath))
    hstart (fun _ _ _ hinv hmeets hstep => hinv.step hmeets hstep) hwritten hrun
  exact hinvariant.holdsWhole

/-! ## One call at a time -/

/-- The steps of a call that nothing fails for. -/
def savingSteps (saver : ℕ) (inSettings : PersistedSettings) :
    List SavingEvent :=
  [.openTemp saver inSettings true, .write saver (saveText inSettings).length,
    .close saver, .rename saver true]

/-- What was written to the temp file is in it when the call closes it. -/
theorem close_of_undisturbed {s : SettingsDirectory} {saver : ℕ}
    (hidle : s.savers saver = none) (inSettings : PersistedSettings) :
    ∃ s' inode, runFrom step s [.openTemp saver inSettings true,
        .write saver (saveText inSettings).length, .close saver] = some s' ∧
      s'.savers saver = some .closed ∧
      s'.files.inodeOf .tempPath = some inode ∧
      s'.files.contents inode = saveText inSettings := by
  simp only [runFrom, List.foldlM_cons, List.foldlM_nil, step, hidle,
    Threads.start_self, Option.bind_eq_bind, Option.bind_some, if_true,
    List.take_length]
  refine ⟨_, s.files.opened .tempPath, rfl, Threads.start_self, ?_, ?_⟩
  · simp only [Files.inodeOf_write, Files.inodeOf_openTruncated_self]
  · rw [Files.contents_write_self, Files.contents_openTruncated_self]
    exact overwrite_at_end [] (saveText inSettings)

/-- A call whose steps follow on each other and succeed saves, and one that
cannot open the temp file does not. -/
theorem save_of_undisturbed (s : SettingsDirectory) {saver : ℕ}
    (hidle : s.savers saver = none) (inSettings : PersistedSettings) :
    (∃ s', runFrom step s (savingSteps saver inSettings) = some s' ∧
      s'.settingsFile = (save ⟨s.settingsFile, true⟩ inSettings).settingsFile) ∧
    ∃ s', runFrom step s [.openTemp saver inSettings false] = some s' ∧
      s'.settingsFile = (save ⟨s.settingsFile, false⟩ inSettings).settingsFile := by
  constructor
  · obtain ⟨closed, inode, hrun, hclosed, htemp, hcontents⟩ :=
      close_of_undisturbed hidle inSettings
    obtain ⟨files, hrename⟩ :
        ∃ files, closed.files.rename .tempPath .settingsPath = some files := by
      rw [Files.rename, htemp]
      exact ⟨_, rfl⟩
    obtain ⟨renamed, hrenamed, hread⟩ := Files.read_of_rename _ hrename
    obtain rfl := Option.some.inj (htemp.symm.trans hrenamed)
    refine ⟨{ closed with files, savers := closed.savers.finish saver }, ?_, ?_⟩
    · have hstep : closed.step (.rename saver true) =
          some { closed with files, savers := closed.savers.finish saver } := by
        simp only [step, hclosed, hrename]
        rfl
      exact runFrom_concat_of hrun hstep
    · rw [hcontents] at hread
      exact hread
  · refine ⟨s, ?_, rfl⟩
    simp only [runFrom, List.foldlM_cons, List.foldlM_nil, step, hidle]
    rfl

theorem saveText_ne_nil (inSettings : PersistedSettings) :
    saveText inSettings ≠ [] := by
  simp [saveText, KeyValueText.printField]

/-- The disk is full when the second call of `Save` writes, and it renames the
empty file. -/
theorem holdsWhole_lost :
    ∃ s, runFrom step { files := .empty }
        (savingSteps 0 {} ++ [.openTemp 1 {} true, .write 1 0, .close 1,
          .rename 1 true]) = some s ∧
      ¬ HoldsWhole (Files.read .empty SettingsName.settingsPath) s := by
  refine ⟨_, rfl, ?_⟩
  rintro (h | ⟨inSettings, -, h⟩)
  · cases h
  · exact saveText_ne_nil inSettings (Option.some.inj h).symm

/-- One call of `Save`, whose text takes two writes. -/
theorem holdsWhole_once :
    ∃ s, runFrom step { files := .empty }
        [.openTemp 0 {} true, .write 0 100, .write 0 (saveText {}).length,
          .close 0, .rename 0 true] = some s ∧
      HoldsWhole (Files.read .empty SettingsName.settingsPath) s := by
  obtain ⟨s, hs⟩ : ∃ s, runFrom step { files := .empty }
      [.openTemp 0 {} true, .write 0 100, .write 0 (saveText {}).length,
        .close 0, .rename 0 true] = some s := ⟨_, rfl⟩
  refine ⟨s, hs, holdsWhole_run .empty _ ?_ s hs⟩
  refine stepMeets_cons trivial ?_
  rintro _ ⟨⟩
  refine stepMeets_cons nofun ?_
  rintro _ ⟨⟩
  refine stepMeets_cons nofun ?_
  rintro _ ⟨⟩
  refine stepMeets_cons trivial ?_
  rintro _ ⟨⟩
  refine stepMeets_cons ?_ fun _ _ => atEachEvent_nil
  rintro _ ⟨⟩
  refine ⟨_, rfl, ?_, rfl⟩
  exact List.drop_eq_nil_of_le (List.length_drop.trans_le (Nat.sub_le ..))

end SettingsDirectory

end RamkolFX
