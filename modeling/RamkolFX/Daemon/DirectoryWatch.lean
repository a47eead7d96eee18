import RamkolFX.Daemon.CatalogOrder
import RamkolFX.Support.Interleaving

/-!
# The watched directory

The catalog of user files follows a directory that other programs change at any
moment, also while it is being scanned.  The kernel queues what happens from the moment
on at which the directory is watched; the loop empties the queue first and scans
afterwards, so that a change during the scan is queued again.  The first scan comes
before the watch, and nothing tells of a change between the two.  The watch is on the
directory and not on its path: should another directory take the path, the daemon
hears of it no more, and of permissions and the files that links lead to it hears
nothing at all.
-/

namespace RamkolFX

open Support

/-- What the loop thread is about to do. -/
inductive WatchPhase
  /-- `Run`, in front of the first `RebuildHrtfCatalog`. -/
  | starting
  | idle
  /-- The `read` loop of `OnHrtfDirectoryChanged`. -/
  | draining
  /-- The iterator is open; whether the directory is as it was when it was opened. -/
  | scanning (bUnchanged : Bool)
  /-- The entries are found, and the catalog is not locked yet. -/
  | found (userDirectory : List DirectoryEntry)
  deriving DecidableEq

structure DirectoryWatch where
  /-- What is on disk at the moment. -/
  files : HrtfFiles
  phase : WatchPhase := .starting
  bWatching : Bool := false
  /-- The path has come to lead to another directory than the one watched. -/
  bDetached : Bool := false
  /-- Something is queued at the inotify descriptor. -/
  bPending : Bool := false
  catalog : HrtfCatalog.State := {}

inductive WatchEvent
  /-- Another program adds, removes, renames or writes files. -/
  | change (userDirectory : List DirectoryEntry)
  /-- Another program moves or removes the directory itself; the path leads to another
  one then, or to none.  A watch that ends with its directory queues `IN_IGNORED`. -/
  | replace (userDirectory : List DirectoryEntry) (bIgnored : Bool)
  /-- The scan would find something else, and nothing in the mask tells of it: what a
  link leads to comes or goes elsewhere, or the permissions of the directory change. -/
  | unreported (userDirectory : List DirectoryEntry)
  | openDirectory
  /-- The iterator has come to its end. -/
  | iterated (userDirectory : List DirectoryEntry)
  | rebuild
  | addWatch
  /-- The loop calls `OnHrtfDirectoryChanged`. -/
  | readable
  /-- One `read`, which may leave something in the queue. -/
  | read (bMore : Bool)
  | readFails
  /-- The initial choice, or a `SetHrtfFile`. -/
  | select (hrtfIndex : UInt8)

/-- What other programs do. -/
def WatchEvent.IsForeign : WatchEvent → Prop
  | .change _ | .replace _ _ | .unreported _ => True
  | _ => False

/-- What goes on behind the back of the watch. -/
def WatchEvent.IsUnseen : WatchEvent → Prop
  | .replace _ _ | .unreported _ => True
  | _ => False

namespace DirectoryWatch

/-- The scan that was under way has seen another directory. -/
def disturbed : WatchPhase → WatchPhase
  | .scanning _ => .scanning false
  | phase => phase

def step (watch : DirectoryWatch) : WatchEvent → Option DirectoryWatch
  | .change userDirectory =>
      some { watch with
        files := { watch.files with userDirectory }
        bPending := watch.bPending || (watch.bWatching && !watch.bDetached)
        phase := disturbed watch.phase }
  | .replace userDirectory bIgnored =>
      some { watch with
        files := { watch.files with userDirectory }
        bDetached := watch.bDetached || watch.bWatching
        bPending := watch.bPending || (watch.bWatching && bIgnored)
        phase := disturbed watch.phase }
  | .unreported userDirectory =>
      some { watch with
        files := { watch.files with userDirectory }
        phase := disturbed watch.phase }
  | .openDirectory =>
      if watch.phase = .starting then some { watch with phase := .scanning true }
      else none
  | .iterated userDirectory =>
      match watch.phase with
      | .scanning bUnchanged =>
          -- the entries of a directory come in any order; of one that changes
          -- meanwhile, nothing is said
          if bUnchanged ∧ ¬ userDirectory.Perm watch.files.userDirectory then none
          else some { watch with phase := .found userDirectory }
      | _ => none
  | .rebuild =>
      match watch.phase with
      | .found userDirectory =>
          some { watch with
            catalog := HrtfCatalog.rebuildHrtfCatalog { watch.files with userDirectory }
              watch.catalog
            phase := .idle }
      | _ => none
  | .addWatch =>
      if watch.phase = .idle ∧ ¬ watch.bWatching then some { watch with bWatching := true }
      else none
  | .readable =>
      if watch.phase = .idle ∧ watch.bPending then some { watch with phase := .draining }
      else none
  | .read bMore =>
      if watch.phase = .draining ∧ watch.bPending then some { watch with bPending := bMore }
      else none
  | .readFails =>
      if watch.phase = .draining ∧ ¬ watch.bPending then
        some { watch with phase := .scanning true }
      else none
  | .select hrtfIndex =>
      if hrtfIndex.toNat < watch.catalog.runtimeHrtfCatalog.length then
        some { watch with catalog := { watch.catalog with activeHrtfIndex := hrtfIndex } }
      else none

/-- Nothing is queued, and nothing is under way. -/
structure Quiet (watch : DirectoryWatch) : Prop where
  phase : watch.phase = .idle
  bPending : watch.bPending = false

/-- The catalog lists the directory, or will do so at the end of what is under way. -/
def FollowsDirectory (watch : DirectoryWatch) : Prop :=
  match watch.phase with
  | .starting | .draining => True
  | .scanning bUnchanged => bUnchanged = true
  | .found userDirectory => userDirectory.Perm watch.files.userDirectory
  | .idle =>
      watch.catalog.runtimeHrtfCatalog = HrtfCatalog.newCatalog watch.files

variable {watch watch' : DirectoryWatch} {event : WatchEvent}

/-! ## One step -/

/-- What a step does, and when it can be taken. -/
inductive Steps (watch : DirectoryWatch) : WatchEvent → DirectoryWatch → Prop
  | change (userDirectory : List DirectoryEntry) :
      Steps watch (.change userDirectory)
        { watch with
          files := { watch.files with userDirectory }
          bPending := watch.bPending || (watch.bWatching && !watch.bDetached)
          phase := disturbed watch.phase }
  | replace (userDirectory : List DirectoryEntry) (bIgnored : Bool) :
      Steps watch (.replace userDirectory bIgnored)
        { watch with
          files := { watch.files with userDirectory }
          bDetached := watch.bDetached || watch.bWatching
          bPending := watch.bPending || (watch.bWatching && bIgnored)
          phase := disturbed watch.phase }
  | unreported (userDirectory : List DirectoryEntry) :
      Steps watch (.unreported userDirectory)
        { watch with
          files := { watch.files with userDirectory }
          phase := disturbed watch.phase }
  | openDirectory (hphase : watch.phase = .starting) :
      Steps watch .openDirectory { watch with phase := .scanning true }
  | iterated (bUnchanged : Bool) (userDirectory : List DirectoryEntry)
      (hphase : watch.phase = .scanning bUnchanged)
      (hseen : bUnchanged = true → userDirectory.Perm watch.files.userDirectory) :
      Steps watch (.iterated userDirectory) { watch with phase := .found userDirectory }
  | rebuild (userDirectory : List DirectoryEntry)
      (hphase : watch.phase = .found userDirectory) :
      Steps watch .rebuild
        { watch with
          catalog := HrtfCatalog.rebuildHrtfCatalog { watch.files with userDirectory }
            watch.catalog
          phase := .idle }
  | addWatch (hphase : watch.phase = .idle) :
      Steps watch .addWatch { watch with bWatching := true }
  | readable (hphase : watch.phase = .idle) (hpending : watch.bPending = true) :
      Steps watch .readable { watch with phase := .draining }
  | read (bMore : Bool) (hphase : watch.phase = .draining) :
      Steps watch (.read bMore) { watch with bPending := bMore }
  | readFails (hphase : watch.phase = .draining) (hempty : ¬ watch.bPending = true) :
      Steps watch .readFails { watch with phase := .scanning true }
  | select (hrtfIndex : UInt8) :
      Steps watch (.select hrtfIndex)
        { watch with catalog := { watch.catalog with activeHrtfIndex := hrtfIndex } }

theorem steps_of_step (hstep : watch.step event = some watch') :
    watch.Steps event watch' := by
  cases event with
  | change userDirectory =>
      obtain rfl := Option.some.inj hstep
      exact .change userDirectory
  | replace userDirectory bIgnored =>
      obtain rfl := Option.some.inj hstep
      exact .replace userDirectory bIgnored
  | unreported userDirectory =>
      obtain rfl := Option.some.inj hstep
      exact .unreported userDirectory
  | openDirectory =>
      obtain ⟨hphase, rfl⟩ := Option.ite_some_none_eq_some.mp hstep
      exact .openDirectory hphase
  | iterated userDirectory =>
      rw [DirectoryWatch.step] at hstep
      split at hstep
      · rename_i bUnchanged hphase
        obtain ⟨hseen, hfound⟩ := Option.ite_none_left_eq_some.mp hstep
        obtain rfl := Option.some.inj hfound
        exact .iterated bUnchanged userDirectory hphase fun hunchanged =>
          not_not.mp fun hperm => hseen ⟨hunchanged, hperm⟩
      · cases hstep
  | rebuild =>
      rw [DirectoryWatch.step] at hstep
      split at hstep
      · rename_i userDirectory hphase
        obtain rfl := Option.some.inj hstep
        exact .rebuild userDirectory hphase
      · cases hstep
  | addWatch =>
      obtain ⟨⟨hphase, -⟩, rfl⟩ := Option.ite_some_none_eq_some.mp hstep
      exact .addWatch hphase
  | readable =>
      obtain ⟨⟨hphase, hpending⟩, rfl⟩ := Option.ite_some_none_eq_some.mp hstep
      exact .readable hphase hpending
  | read bMore =>
      obtain ⟨⟨hphase, -⟩, rfl⟩ := Option.ite_some_none_eq_some.mp hstep
      exact .read bMore hphase
  | readFails =>
      obtain ⟨⟨hphase, hempty⟩, rfl⟩ := Option.ite_some_none_eq_some.mp hstep
      exact .readFails hphase hempty
  | select hrtfIndex =>
      obtain ⟨-, rfl⟩ := Option.ite_some_none_eq_some.mp hstep
      exact .select hrtfIndex

/-- A step of the daemon goes on towards a catalog of what is there. -/
theorem FollowsDirectory.step (h : watch.FollowsDirectory) (hevent : ¬ event.IsForeign)
    (hstep : watch.step event = some watch') : watch'.FollowsDirectory := by
  cases steps_of_step hstep with
  | change | replace | unreported => exact absurd trivial hevent
  | iterated bUnchanged userDirectory hphase hseen =>
      rw [FollowsDirectory, hphase] at h
      exact hseen h
  | rebuild userDirectory hphase =>
      rw [FollowsDirectory, hphase] at h
      exact (HrtfCatalog.runtimeHrtfCatalog_rebuildHrtfCatalog _ _).trans
        (HrtfCatalog.newCatalog_of_perm watch.files h)
  | addWatch hphase =>
      rw [FollowsDirectory, hphase] at h ⊢
      exact h
  | read bMore hphase =>
      rw [FollowsDirectory, hphase]
      trivial
  | openDirectory | readFails => rfl
  | readable => trivial
  | select => exact h

/-- A watched directory stays watched, and only a `read` takes something from the queue. -/
theorem kept_of_step (hstep : watch.step event = some watch') :
    (watch.bWatching = true → watch'.bWatching = true) ∧
      ((∀ bMore, event ≠ .read bMore) → watch.bPending = true → watch'.bPending = true) := by
  cases steps_of_step hstep with
  | change | replace =>
      refine ⟨id, fun _ hpending => ?_⟩
      exact Bool.or_eq_true_iff.mpr (.inl hpending)
  | addWatch hphase => exact ⟨fun _ => rfl, fun _ => id⟩
  | read bMore hphase => exact ⟨id, fun hread => absurd rfl (hread bMore)⟩
  | _ => exact ⟨id, fun _ => id⟩

/-- The watch stays with the path as long as the directory stays in place. -/
theorem bDetached_of_step (hstep : watch.step event = some watch')
    (hseen : ¬ event.IsUnseen) : watch'.bDetached = watch.bDetached := by
  cases steps_of_step hstep with
  | replace userDirectory bIgnored => exact absurd trivial hseen
  | _ => rfl

/-- The directory that the path leads to is watched. -/
structure Attached (watch : DirectoryWatch) : Prop where
  bWatching : watch.bWatching = true
  bDetached : watch.bDetached = false

theorem Attached.step (h : watch.Attached) (hstep : watch.step event = some watch')
    (hseen : ¬ event.IsUnseen) : watch'.Attached :=
  ⟨(kept_of_step hstep).1 h.bWatching, (bDetached_of_step hstep hseen).trans h.bDetached⟩

/-- What is queued leads to another scan. -/
structure Informed (watch : DirectoryWatch) : Prop extends Attached watch where
  follows : watch.bPending = true ∨ watch.FollowsDirectory

theorem Attached.informed_of_change {userDirectory : List DirectoryEntry}
    (h : watch.Attached)
    (hstep : watch.step (.change userDirectory) = some watch') : watch'.Informed := by
  obtain rfl := Option.some.inj hstep
  refine ⟨⟨h.bWatching, h.bDetached⟩, .inl ?_⟩
  rw [h.bWatching, h.bDetached]
  exact Bool.or_true _

/-- The queue is emptied in front of the scan, never behind it. -/
theorem Informed.step (h : watch.Informed) (hstep : watch.step event = some watch')
    (hseen : ¬ event.IsUnseen) : watch'.Informed := by
  have hattached := h.toAttached.step hstep hseen
  cases event with
  | change userDirectory => exact h.toAttached.informed_of_change hstep
  | replace | unreported => exact absurd trivial hseen
  | read bMore =>
      cases steps_of_step hstep with
      | read bMore hphase =>
          refine ⟨hattached, .inr ?_⟩
          rw [FollowsDirectory, hphase]
          trivial
  | _ =>
      refine ⟨hattached, ?_⟩
      rcases h.follows with hqueued | hfollows
      · exact .inl ((kept_of_step hstep).2 (by rintro bMore ⟨⟩) hqueued)
      · exact .inr (hfollows.step id hstep)

/-! ## Runs -/

theorem FollowsDirectory.run (h : watch.FollowsDirectory) {events : List WatchEvent}
    (hevents : ∀ event ∈ events, ¬ event.IsForeign)
    (hrun : runFrom DirectoryWatch.step watch events = some watch') :
    watch'.FollowsDirectory := by
  induction events generalizing watch with
  | nil =>
      obtain rfl := Option.some.inj hrun
      exact h
  | cons event events ih =>
      obtain ⟨next, hstep, hrest⟩ := exists_of_runFrom_cons hrun
      have hkeeps := h.step (hevents event List.mem_cons_self) hstep
      exact ih hkeeps (fun later hmem => hevents later (List.mem_cons_of_mem _ hmem)) hrest

/-- The directory itself is neither moved nor removed, and nothing else changes that
the mask leaves out. -/
def StaysInPlace (events : List WatchEvent) : Prop :=
  ∀ event ∈ events, ¬ event.IsUnseen

/-- A property that the steps keep while the directory stays in place. -/
theorem invariant_of_staysInPlace {P : DirectoryWatch → Prop}
    (hkeeps : ∀ {s s' : DirectoryWatch} {event : WatchEvent}, P s →
      s.step event = some s' → ¬ event.IsUnseen → P s')
    {events : List WatchEvent} (h : P watch) (hstays : StaysInPlace events)
    (hrun : runFrom DirectoryWatch.step watch events = some watch') : P watch' := by
  induction events generalizing watch with
  | nil =>
      obtain rfl := Option.some.inj hrun
      exact h
  | cons event events ih =>
      obtain ⟨next, hstep, hrest⟩ := exists_of_runFrom_cons hrun
      obtain ⟨hseen, hstays⟩ := List.forall_mem_cons.mp hstays
      exact ih (hkeeps h hstep hseen) hstays hrest

theorem not_isUnseen_of_not_isForeign (hevent : ¬ event.IsForeign) :
    ¬ event.IsUnseen := by
  cases event with
  | replace | unreported => exact absurd trivial hevent
  | _ => exact id

/-- The first scan has seen the directory as it was when it came to be watched, or
something has happened since. -/
def Announced (startup events : List WatchEvent) : Prop :=
  (∃ before after, startup = before ++ .openDirectory :: after ∧
      ∀ event ∈ after, ¬ event.IsForeign) ∨
    ∃ userDirectory, .change userDirectory ∈ events

/-- Only a directory that is watched already can leave its watch behind. -/
theorem bDetached_of_not_bWatching
    (h : watch.bWatching = false → watch.bDetached = false)
    (hstep : watch.step event = some watch') :
    watch'.bWatching = false → watch'.bDetached = false := by
  cases steps_of_step hstep with
  | addWatch =>
      intro hunwatched
      cases hunwatched
  | replace =>
      intro hunwatched
      have hwatching : watch.bWatching = false := hunwatched
      exact Bool.or_eq_false_iff.mpr ⟨h hwatching, hwatching⟩
  | _ => exact h

/-- The watch is added to the directory that the path leads to at that moment. -/
theorem attached_of_addWatch {files : HrtfFiles} {startup : List WatchEvent}
    {started : DirectoryWatch}
    (hrun : runFrom DirectoryWatch.step { files } startup = some started)
    (hwatched : started.step .addWatch = some watch) : watch.Attached := by
  have hplace : started.bWatching = false → started.bDetached = false :=
    invariant_of_runFrom (fun s => s.bWatching = false → s.bDetached = false)
      (fun _ => rfl) (fun _ _ _ h hstep => bDetached_of_not_bWatching h hstep) hrun
  obtain ⟨⟨-, hunwatched⟩, rfl⟩ := Option.ite_some_none_eq_some.mp hwatched
  exact ⟨rfl, hplace (Bool.eq_false_iff.mpr hunwatched)⟩

theorem informed_runFrom {files : HrtfFiles} {startup events : List WatchEvent}
    (hrun : runFrom DirectoryWatch.step { files } (startup ++ .addWatch :: events) =
      some watch)
    (hannounced : Announced startup events) (hstays : StaysInPlace events) :
    watch.Informed := by
  obtain ⟨started, hstarted, hrest⟩ := exists_of_runFrom_append hrun
  obtain ⟨watched, hwatched, hevents⟩ := exists_of_runFrom_cons hrest
  have hattached := attached_of_addWatch hstarted hwatched
  rcases hannounced with ⟨before, after, rfl, hafter⟩ | ⟨userDirectory, hmem⟩
  · obtain ⟨opening, -, hopened⟩ := exists_of_runFrom_append hstarted
    obtain ⟨opened, hopen, hscan⟩ := exists_of_runFrom_cons hopened
    have hfollows : opened.FollowsDirectory := by
      obtain ⟨-, rfl⟩ := Option.ite_some_none_eq_some.mp hopen
      rfl
    have hscanned := (hfollows.run hafter hscan).step id hwatched
    exact invariant_of_staysInPlace Informed.step ⟨hattached, .inr hscanned⟩ hstays hevents
  · obtain ⟨front, back, rfl⟩ := List.append_of_mem hmem
    obtain ⟨changing, hfront, hback⟩ := exists_of_runFrom_append hevents
    obtain ⟨changed, hchange, hrest⟩ := exists_of_runFrom_cons hback
    obtain ⟨hstaysFront, hstaysBack⟩ := List.forall_mem_append.mp hstays
    have hstill : changing.Attached :=
      invariant_of_staysInPlace Attached.step hattached hstaysFront hfront
    exact invariant_of_staysInPlace Informed.step (hstill.informed_of_change hchange)
      (List.forall_mem_cons.mp hstaysBack).2 hrest

/-! ## The loop comes to rest -/

/-- Steps of the daemon alone lead from one state to another. -/
def Leads (watch watch' : DirectoryWatch) : Prop :=
  ∃ own, (∀ event ∈ own, ¬ event.IsForeign) ∧
    runFrom DirectoryWatch.step watch own = some watch'

theorem Leads.refl (watch : DirectoryWatch) : watch.Leads watch :=
  ⟨[], fun _ hmem => absurd hmem List.not_mem_nil, rfl⟩

theorem Leads.of_step {next : DirectoryWatch} (h : next.Leads watch')
    (hstep : watch.step event = some next)
    (hevent : ¬ event.IsForeign) : watch.Leads watch' := by
  obtain ⟨own, hown, hrun⟩ := h
  refine ⟨event :: own, List.forall_mem_cons.mpr ⟨hevent, hown⟩, ?_⟩
  rw [runFrom, List.foldlM_cons, hstep]
  exact hrun

theorem step_rebuild {userDirectory : List DirectoryEntry}
    (hphase : watch.phase = .found userDirectory) :
    watch.step .rebuild = some { watch with
      catalog := HrtfCatalog.rebuildHrtfCatalog { watch.files with userDirectory }
        watch.catalog
      phase := .idle } := by
  rw [DirectoryWatch.step, hphase]

/-- A scan comes to its end, and its result becomes the catalog. -/
theorem exists_idle_of_scanning {bUnchanged : Bool}
    (hphase : watch.phase = .scanning bUnchanged) :
    ∃ next : DirectoryWatch, next.phase = .idle ∧ next.bPending = watch.bPending ∧
      next.files = watch.files ∧
      ∀ watch', next.Leads watch' → watch.Leads watch' := by
  have hiterated : watch.step (.iterated watch.files.userDirectory) =
      some { watch with phase := .found watch.files.userDirectory } := by
    rw [DirectoryWatch.step, hphase]
    exact if_neg fun hseen => hseen.2 (List.Perm.refl _)
  have hrebuild := step_rebuild
    (show ({ watch with phase := .found watch.files.userDirectory } : DirectoryWatch).phase =
      .found watch.files.userDirectory from rfl)
  refine ⟨_, ?_, ?_, ?_, fun watch' hleads =>
    (hleads.of_step hrebuild id).of_step hiterated id⟩
  · rfl
  · rfl
  · rfl

theorem exists_quiet_of_drained (hphase : watch.phase = .draining)
    (hempty : watch.bPending = false) :
    ∃ watch', watch.Leads watch' ∧ watch'.Quiet ∧ watch'.files = watch.files := by
  have hfails : watch.step .readFails = some { watch with phase := .scanning true } :=
    if_pos ⟨hphase, Bool.eq_false_iff.mp hempty⟩
  obtain ⟨next, hidle, hpending, hfiles, hleads⟩ :=
    @exists_idle_of_scanning { watch with phase := .scanning true } true rfl
  exact ⟨next, (hleads next (.refl next)).of_step hfails id,
    ⟨hidle, hpending.trans hempty⟩, hfiles⟩

theorem exists_quiet_of_idle (hphase : watch.phase = .idle) :
    ∃ watch', watch.Leads watch' ∧ watch'.Quiet ∧ watch'.files = watch.files := by
  cases hpending : watch.bPending with
  | false => exact ⟨watch, .refl watch, ⟨hphase, hpending⟩, rfl⟩
  | true =>
      have hreadable : watch.step .readable = some { watch with phase := .draining } :=
        if_pos ⟨hphase, hpending⟩
      have hread : DirectoryWatch.step { watch with phase := .draining } (.read false) =
          some { watch with phase := .draining, bPending := false } :=
        if_pos ⟨rfl, hpending⟩
      obtain ⟨watch', hleads, hquiet, hfiles⟩ := @exists_quiet_of_drained
        { watch with phase := .draining, bPending := false } rfl rfl
      exact ⟨watch', (hleads.of_step hread id).of_step hreadable id, hquiet, hfiles⟩

theorem exists_quiet_of_scanning {bUnchanged : Bool}
    (hphase : watch.phase = .scanning bUnchanged) :
    ∃ watch', watch.Leads watch' ∧ watch'.Quiet ∧ watch'.files = watch.files := by
  obtain ⟨next, hidle, -, hfiles, hleads⟩ := exists_idle_of_scanning hphase
  obtain ⟨watch', hnext, hquiet, hfiles'⟩ := exists_quiet_of_idle hidle
  exact ⟨watch', hleads watch' hnext, hquiet, hfiles'.trans hfiles⟩

/-- When nothing is changed any more, the daemon comes to rest. -/
theorem exists_quiet (watch : DirectoryWatch) :
    ∃ watch', watch.Leads watch' ∧ watch'.Quiet ∧ watch'.files = watch.files := by
  cases hphase : watch.phase with
  | idle => exact exists_quiet_of_idle hphase
  | scanning bUnchanged => exact exists_quiet_of_scanning hphase
  | starting =>
      have hopen : watch.step .openDirectory =
          some { watch with phase := .scanning true } := if_pos hphase
      obtain ⟨watch', hleads, hquiet, hfiles⟩ :=
        @exists_quiet_of_scanning { watch with phase := .scanning true } true rfl
      exact ⟨watch', hleads.of_step hopen id, hquiet, hfiles⟩
  | draining =>
      cases hpending : watch.bPending with
      | false => exact exists_quiet_of_drained hphase hpending
      | true =>
          have hread : watch.step (.read false) = some { watch with bPending := false } :=
            if_pos ⟨hphase, hpending⟩
          obtain ⟨watch', hleads, hquiet, hfiles⟩ :=
            @exists_quiet_of_drained { watch with bPending := false } hphase rfl
          exact ⟨watch', hleads.of_step hread id, hquiet, hfiles⟩
  | found userDirectory =>
      have hstep := step_rebuild hphase
      obtain ⟨watch', hleads, hquiet, hfiles⟩ := @exists_quiet_of_idle
        { watch with
          catalog := HrtfCatalog.rebuildHrtfCatalog { watch.files with userDirectory }
            watch.catalog
          phase := .idle } rfl
      exact ⟨watch', hleads.of_step hstep id, hquiet, hfiles⟩

/-! ## The catalog of a running daemon -/

theorem Informed.catalog (h : watch.Informed) (hquiet : watch.Quiet) :
    watch.catalog.runtimeHrtfCatalog = HrtfCatalog.newCatalog watch.files := by
  rcases h.follows with hpending | hfollows
  · exact absurd hquiet.bPending (Bool.eq_false_iff.not_left.mpr hpending)
  · rw [FollowsDirectory, hquiet.phase] at hfollows
    exact hfollows

/-- Whatever other programs do in the directory, and whenever, as long as the directory
itself stays in place, its permissions and what links in it lead to: if nothing went by
between the first scan and the watch, or something has happened since, the catalog of a
daemon that has nothing queued and nothing under way lists the directory as it is; and
from every state, the daemon's own steps lead to such a one. -/
theorem catalog_follows {files : HrtfFiles} {startup events : List WatchEvent}
    (hrun : runFrom DirectoryWatch.step { files } (startup ++ .addWatch :: events) =
      some watch) (hannounced : Announced startup events)
    (hstays : StaysInPlace events) :
    (watch.Quiet →
        watch.catalog.runtimeHrtfCatalog = HrtfCatalog.newCatalog watch.files) ∧
      ∃ watch', watch.Leads watch' ∧ watch'.Quiet ∧ watch'.files = watch.files ∧
        watch'.catalog.runtimeHrtfCatalog = HrtfCatalog.newCatalog watch.files := by
  have hinformed := informed_runFrom hrun hannounced hstays
  obtain ⟨watch', hleads, hquiet, hfiles⟩ := exists_quiet watch
  refine ⟨hinformed.catalog, watch', hleads, hquiet, hfiles, ?_⟩
  obtain ⟨own, hforeign, hown⟩ := hleads
  have hinformed' : watch'.Informed :=
    invariant_of_staysInPlace Informed.step hinformed
      (fun event hmem => not_isUnseen_of_not_isForeign (hforeign event hmem)) hown
  rw [hinformed'.catalog hquiet, hfiles]

/-- A file is replaced while the daemon waits. -/
def replacedFile : List WatchEvent :=
  [.openDirectory, .iterated [⟨ascii "a.sofa", true⟩], .rebuild] ++ .addWatch ::
    [.change [⟨ascii "b.sofa", true⟩], .readable, .read false, .readFails,
      .iterated [⟨ascii "b.sofa", true⟩], .rebuild]

theorem catalog_follows_replacedFile :
    ∃ watch, runFrom DirectoryWatch.step
        { files := AudioEngine.oneUserFile (ascii "a.sofa") } replacedFile = some watch ∧
      watch.Quiet ∧
      watch.catalog.runtimeHrtfCatalog = HrtfCatalog.newCatalog watch.files := by
  have hends : (runFrom DirectoryWatch.step
      { files := AudioEngine.oneUserFile (ascii "a.sofa") } replacedFile).map
        (fun watch => (watch.phase, watch.bPending)) = some (.idle, false) := by
    decide +kernel
  obtain ⟨watch, hrun, hlast⟩ := Option.map_eq_some_iff.mp hends
  obtain ⟨hphase, hpending⟩ := Prod.mk.inj hlast
  have hannounced : Announced
      [.openDirectory, .iterated [⟨ascii "a.sofa", true⟩], .rebuild]
      [.change [⟨ascii "b.sofa", true⟩], .readable, .read false, .readFails,
        .iterated [⟨ascii "b.sofa", true⟩], .rebuild] :=
    .inr ⟨_, List.mem_cons_self⟩
  exact ⟨watch, hrun, ⟨hphase, hpending⟩,
    (catalog_follows hrun hannounced
      (by simp [StaysInPlace, WatchEvent.IsUnseen])).1 ⟨hphase, hpending⟩⟩

/-- A change that goes by between the first scan and the watch is not seen: the daemon
rests with the catalog of the directory before. -/
theorem catalog_of_unannounced (files : HrtfFiles) (userDirectory : List DirectoryEntry) :
    ∃ watch, runFrom DirectoryWatch.step { files }
        [.openDirectory, .iterated files.userDirectory, .rebuild, .change userDirectory,
          .addWatch] = some watch ∧
      watch.Quiet ∧ watch.files = { files with userDirectory } ∧
      watch.catalog.runtimeHrtfCatalog = HrtfCatalog.newCatalog files := by
  refine ⟨{
    files := { files with userDirectory }
    phase := .idle
    bWatching := true
    catalog := HrtfCatalog.rebuildHrtfCatalog files {} }, ?_, ⟨rfl, rfl⟩, rfl,
    HrtfCatalog.runtimeHrtfCatalog_rebuildHrtfCatalog files {}⟩
  simp [runFrom, DirectoryWatch.step, disturbed]

/-- Nor is a change seen that comes after the directory was moved away and another one
put in its place. -/
theorem catalog_of_replaced (files : HrtfFiles)
    (moved userDirectory : List DirectoryEntry) :
    ∃ watch, runFrom DirectoryWatch.step { files }
        [.openDirectory, .iterated files.userDirectory, .rebuild, .addWatch,
          .replace moved false, .change userDirectory] = some watch ∧
      watch.Quiet ∧ watch.files = { files with userDirectory } ∧
      watch.catalog.runtimeHrtfCatalog = HrtfCatalog.newCatalog files := by
  refine ⟨{
    files := { files with userDirectory }
    phase := .idle
    bWatching := true
    bDetached := true
    catalog := HrtfCatalog.rebuildHrtfCatalog files {} }, ?_, ⟨rfl, rfl⟩, rfl,
    HrtfCatalog.runtimeHrtfCatalog_rebuildHrtfCatalog files {}⟩
  simp [runFrom, DirectoryWatch.step, disturbed]

end DirectoryWatch

end RamkolFX
