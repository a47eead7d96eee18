import RamkolFX.Daemon.SingleInstanceLock

/-!
# One daemon at a time

The lock is held by one instance that lives, so nobody but that instance touches
the lock file's text and the control socket of its directory.
-/

namespace RamkolFX

open Support Support.NumberText

variable {δ : Type} [DecidableEq δ] {directoryOf : ByteString → δ}
  {s s' : Machine δ} {id : ℕ} {daemon daemon' : DaemonInstance}

/-! ## Phases -/

namespace InstancePhase

theorem holdsLock_of_pastTryAcquire {phase : InstancePhase}
    (h : phase.pastTryAcquire) : phase.holdsLock := by
  revert h
  cases phase <;> decide

theorem holdsLock_of_ownsSocket {phase : InstancePhase} (h : phase.ownsSocket) :
    phase.holdsLock := by
  revert h
  cases phase <;> decide

theorem eq_exited_of_mayHaveBound {phase : InstancePhase} (h : phase.mayHaveBound)
    (hlock : ¬ phase.holdsLock) : phase = exited := by
  revert h hlock
  cases phase <;> decide

/-- Nothing is true of the text and the socket in the second phase that was not
in the first. -/
def Carries (before after : InstancePhase) : Prop :=
  after ≠ truncated ∧ (after.pastTryAcquire → before.pastTryAcquire) ∧
    (before.pastTryAcquire ∨ before = exited →
      after.pastTryAcquire ∨ after = exited) ∧
    (after.ownsSocket → before.ownsSocket)

instance (before after : InstancePhase) : Decidable (Carries before after) :=
  inferInstanceAs (Decidable (_ ∧ _))

theorem carries_exited (before : InstancePhase) : Carries before exited :=
  ⟨nofun, nofun, fun _ => Or.inr rfl, nofun⟩

end InstancePhase

namespace Machine

/-- The lock of a directory is with the one instance that has it open. -/
def LockHeld (directoryOf : ByteString → δ) (s : Machine δ) : Prop :=
  ∀ place id, s.lockHolder place = some id ↔
    ∃ daemon, s.instances id = some daemon ∧ daemon.phase.holdsLock ∧
      daemon.socketPlace directoryOf = place

/-! ## What an instance relies on -/

/-- What an instance can rely on in its directory: its text while it holds the
lock, and its socket from `bind` until it removes it. -/
structure Sees (directoryOf : ByteString → δ) (s : Machine δ) (id : ℕ)
    (daemon : DaemonInstance) : Prop where
  truncated : daemon.phase = .truncated →
    s.lockText (daemon.socketPlace directoryOf) = []
  written : daemon.phase.pastTryAcquire → daemon.bPidWritten →
    s.lockText (daemon.socketPlace directoryOf) = daemon.pidText
  unwritten : daemon.bPidWritten → daemon.phase.pastTryAcquire ∨ daemon.phase = .exited
  socket : daemon.phase.ownsSocket →
    s.socketOwner (daemon.socketPlace directoryOf) = some (some id)

omit [DecidableEq δ] in
/-- A call that moves the instance to a phase in which it relies on nothing
new. -/
theorem Sees.carried (hsees : s.Sees directoryOf id daemon) {phase : InstancePhase}
    (hcarries : daemon.phase.Carries phase) (holderPidText : ByteString) :
    (s.set id { daemon with phase, holderPidText }).Sees directoryOf id
      { daemon with phase, holderPidText } where
  truncated h := absurd h hcarries.1
  written h hbit := hsees.written (hcarries.2.1 h) hbit
  unwritten hbit := hcarries.2.2.1 (hsees.unwritten hbit)
  socket h := hsees.socket (hcarries.2.2.2 h)

theorem Sees.setLockHolder (hsees : s.Sees directoryOf id daemon) (place : δ)
    (holder : Option ℕ) : (s.setLockHolder place holder).Sees directoryOf id daemon :=
  ⟨hsees.truncated, hsees.written, hsees.unwritten, hsees.socket⟩

/-- A socket that is not the instance's own is removed. -/
theorem Sees.setSocketOwner (hsees : s.Sees directoryOf id daemon)
    (howns : ¬ daemon.phase.ownsSocket) (place : δ) (owner : Option (Option ℕ)) :
    (s.setSocketOwner place owner).Sees directoryOf id daemon :=
  ⟨hsees.truncated, hsees.written, hsees.unwritten, fun h => absurd h howns⟩

omit [DecidableEq δ] in
theorem Sees.bPidWritten_eq_false (hsees : s.Sees directoryOf id daemon)
    (hpast : ¬ daemon.phase.pastTryAcquire) (hexited : daemon.phase ≠ .exited) :
    daemon.bPidWritten = false := by
  by_contra hbit
  rcases hsees.unwritten (Bool.eq_true_of_not_eq_false hbit) with h | h
  · exact hpast h
  · exact hexited h

/-! ## What a call can change -/

/-- Who has the lock behind a call: the same as before, or the caller, who found
it free, or nobody, if the caller had it. -/
inductive LockMoves (s : Machine δ) (id : ℕ) (place : δ)
    (before after : InstancePhase) : (δ → Option ℕ) → Prop
  | kept (h : after.holdsLock = before.holdsLock) :
      LockMoves s id place before after s.lockHolder
  | taken (hfree : s.lockHolder place = none) (h : after.holdsLock) :
      LockMoves s id place before after
        (Function.update s.lockHolder place (some id))
  | given (hheld : s.lockHolder place = some id) (h : ¬ after.holdsLock) :
      LockMoves s id place before after
        (Function.update s.lockHolder place none)

/-- A call of an instance moves that instance, and of the directories only its
own: the text and the socket there only if it holds the lock. -/
structure Moves (directoryOf : ByteString → δ) (s : Machine δ) (id : ℕ)
    (daemon : DaemonInstance) (s' : Machine δ) (daemon' : DaemonInstance) : Prop where
  instances : s'.instances = Function.update s.instances id (some daemon')
  environment : daemon'.environment = daemon.environment
  lockText : ∀ place, s'.lockText place = s.lockText place ∨
    daemon.phase.holdsLock ∧ place = daemon.socketPlace directoryOf
  socketOwner : ∀ place, s'.socketOwner place = s.socketOwner place ∨
    (daemon.phase.holdsLock ∧ place = daemon.socketPlace directoryOf) ∧
      (s'.socketOwner place = none ∨
        s'.socketOwner place = some (some id) ∧ daemon'.phase.mayHaveBound)
  lock : LockMoves s id (daemon.socketPlace directoryOf) daemon.phase daemon'.phase
    s'.lockHolder
  mayHaveBound : daemon.phase.mayHaveBound → daemon'.phase.mayHaveBound

/-- A call that only moves the instance. -/
theorem Moves.of_set (henvironment : daemon'.environment = daemon.environment)
    (hlock : daemon'.phase.holdsLock = daemon.phase.holdsLock)
    (hbound : daemon.phase.mayHaveBound → daemon'.phase.mayHaveBound) :
    Moves directoryOf s id daemon (s.set id daemon') daemon' where
  instances := rfl
  environment := henvironment
  lockText _ := Or.inl rfl
  socketOwner _ := Or.inl rfl
  lock := .kept hlock
  mayHaveBound := hbound

/-- A call of the holder of the lock that writes to the lock file. -/
theorem Moves.of_setLockText {text : ByteString}
    (henvironment : daemon'.environment = daemon.environment)
    (hholds : daemon.phase.holdsLock) (hlock : daemon'.phase.holdsLock)
    (hbound : daemon.phase.mayHaveBound → daemon'.phase.mayHaveBound) :
    Moves directoryOf s id daemon
      ((s.set id daemon').setLockText (daemon.socketPlace directoryOf) text) daemon' where
  instances := rfl
  environment := henvironment
  lockText place := by
    by_cases hplace : place = daemon.socketPlace directoryOf
    · exact Or.inr ⟨hholds, hplace⟩
    · exact Or.inl (Function.update_of_ne hplace ..)
  socketOwner _ := Or.inl rfl
  lock := .kept (hlock.trans hholds.symm)
  mayHaveBound := hbound

/-- A call of the holder of the lock that binds or removes the socket. -/
theorem Moves.of_setSocketOwner {owner : Option (Option ℕ)}
    (henvironment : daemon'.environment = daemon.environment)
    (hholds : daemon.phase.holdsLock) (hlock : daemon'.phase.holdsLock)
    (howner : owner = none ∨ owner = some (some id) ∧ daemon'.phase.mayHaveBound)
    (hbound : daemon.phase.mayHaveBound → daemon'.phase.mayHaveBound) :
    Moves directoryOf s id daemon
      ((s.set id daemon').setSocketOwner (daemon.socketPlace directoryOf) owner)
      daemon' where
  instances := rfl
  environment := henvironment
  lockText _ := Or.inl rfl
  socketOwner place := by
    by_cases hplace : place = daemon.socketPlace directoryOf
    · refine Or.inr ⟨⟨hholds, hplace⟩, ?_⟩
      rw [socketOwner_setSocketOwner, hplace, Function.update_self]
      exact howner
    · exact Or.inl (Function.update_of_ne hplace ..)
  lock := .kept (hlock.trans hholds.symm)
  mayHaveBound := hbound

/-- The first bytes of the text of a process id, written into an empty file. -/
theorem overwrite_nil (bytes : ByteString) : overwrite [] 0 bytes = bytes :=
  overwrite_at_end [] bytes

/-- What a call comes to: where it leaves its instance, and that the instance can
rely on what it relied on. -/
def Calls (directoryOf : ByteString → δ) (s : Machine δ) (id : ℕ)
    (daemon : DaemonInstance) (s' : Machine δ) : Prop :=
  ∃ daemon', Moves directoryOf s id daemon s' daemon' ∧
    (s.Sees directoryOf id daemon → s'.Sees directoryOf id daemon')

/-- A call that touches no file. -/
theorem calls_set {before phase : InstancePhase} {holderPidText : ByteString}
    (hphase : daemon.phase = before) (hlock : phase.holdsLock = before.holdsLock)
    (hbound : before.mayHaveBound → phase.mayHaveBound)
    (hcarries : before.Carries phase) :
    Calls directoryOf s id daemon
      (s.set id { daemon with phase, holderPidText }) := by
  subst hphase
  exact ⟨_, .of_set rfl hlock hbound, fun hsees => hsees.carried hcarries _⟩

/-- A socket is removed that the instance will not rely on. -/
theorem calls_unlink {before phase : InstancePhase} (hphase : daemon.phase = before)
    (hholds : before.holdsLock) (hlock : phase.holdsLock)
    (hbound : before.mayHaveBound → phase.mayHaveBound)
    (hcarries : before.Carries phase) (howns : ¬ phase.ownsSocket) :
    Calls directoryOf s id daemon
      ((s.set id { daemon with phase }).setSocketOwner
        (daemon.socketPlace directoryOf) none) := by
  subst hphase
  exact ⟨_, .of_setSocketOwner rfl hholds hlock (Or.inl rfl) hbound,
    fun hsees => (hsees.carried hcarries _).setSocketOwner howns _ _⟩

/-- What each call does. -/
theorem calls_of_call (hheld : s.LockHeld directoryOf)
    (hdaemon : s.instances id = some daemon) {call : InstanceCall}
    (h : s.call directoryOf id daemon call = some s') :
    Calls directoryOf s id daemon s' := by
  cases call with
  | openLockFile bOpened =>
      simp only [Machine.call] at h
      split at h
      · rename_i hphase
        obtain rfl := Option.some.inj h
        cases bOpened with
        | false => exact calls_set hphase rfl nofun (by decide)
        | true => exact calls_set hphase rfl nofun (by decide)
      · cases h
  | flock =>
      simp only [Machine.call, DaemonInstance.lockPlace_eq] at h
      split at h
      · rename_i hphase
        split at h
        · obtain rfl := Option.some.inj h
          exact calls_set hphase rfl nofun (by decide)
        · rename_i hfree
          obtain rfl := Option.some.inj h
          refine ⟨_, ⟨rfl, rfl, fun _ => Or.inl rfl, fun _ => Or.inl rfl,
            .taken hfree rfl, hphase ▸ nofun⟩, fun hsees => ?_⟩
          exact (hsees.carried (hphase ▸ by decide) _).setLockHolder _ _
      · cases h
  | readHolder bRead =>
      simp only [Machine.call] at h
      split at h
      · rename_i hphase
        obtain rfl := Option.some.inj h
        exact calls_set hphase rfl nofun (by decide)
      · cases h
  | truncateLockFile bTruncated =>
      simp only [Machine.call, DaemonInstance.lockPlace_eq] at h
      split at h
      · rename_i hphase
        have hbit : s.Sees directoryOf id daemon → daemon.bPidWritten = false :=
          fun hsees => hsees.bPidWritten_eq_false (hphase ▸ nofun) (hphase ▸ nofun)
        split at h
        · obtain rfl := Option.some.inj h
          refine ⟨_, .of_setLockText rfl (hphase ▸ rfl) rfl (hphase ▸ nofun),
            fun hsees => ⟨fun _ => ?_, nofun, fun h => ?_, nofun⟩⟩
          · exact Function.update_self ..
          · rw [hbit hsees] at h
            cases h
        · obtain rfl := Option.some.inj h
          refine ⟨_, .of_set rfl (hphase ▸ rfl) (hphase ▸ nofun),
            fun hsees => ⟨nofun, fun _ h => ?_, fun _ => Or.inl rfl, nofun⟩⟩
          rw [hbit hsees] at h
          cases h
      · cases h
  | writePid count =>
      simp only [Machine.call, DaemonInstance.lockPlace_eq] at h
      split at h
      · rename_i hphase
        obtain ⟨hphase, -⟩ := hphase
        obtain rfl := Option.some.inj h
        refine ⟨_, .of_setLockText rfl (hphase ▸ rfl) rfl (hphase ▸ nofun),
          fun hsees => ⟨nofun, fun _ hbit => ?_, fun _ => Or.inl rfl, nofun⟩⟩
        obtain rfl := of_decide_eq_true hbit
        refine (Function.update_self ..).trans ?_
        rw [hsees.truncated hphase, overwrite_nil, List.take_length]
        rfl
      · cases h
  | unlinkStale bRemoved =>
      simp only [Machine.call] at h
      split at h
      · rename_i hphase
        split at h
        · obtain rfl := Option.some.inj h
          exact calls_set hphase rfl nofun (by decide)
        · split at h
          · obtain rfl := Option.some.inj h
            exact calls_unlink hphase rfl rfl nofun (by decide) nofun
          · obtain rfl := Option.some.inj h
            exact calls_set hphase rfl nofun (by decide)
      · cases h
  | bind bAllowed =>
      simp only [Machine.call] at h
      split at h
      · rename_i hphase
        split at h
        · obtain rfl := Option.some.inj h
          refine ⟨_, .of_setSocketOwner rfl (hphase ▸ rfl) rfl
            (Or.inr ⟨rfl, rfl⟩) (hphase ▸ nofun), fun hsees => ⟨nofun, fun _ hbit => ?_,
              fun _ => Or.inl rfl, fun _ => Function.update_self ..⟩⟩
          exact hsees.written (hphase ▸ rfl) hbit
        · obtain rfl := Option.some.inj h
          exact calls_set hphase rfl nofun (by decide)
      · cases h
  | listen bListening =>
      simp only [Machine.call] at h
      split at h
      · rename_i hphase
        obtain rfl := Option.some.inj h
        cases bListening with
        | false => exact calls_set hphase rfl (fun _ => rfl) (by decide)
        | true => exact calls_set hphase rfl (fun _ => rfl) (by decide)
      · cases h
  | closeListener =>
      simp only [Machine.call] at h
      split at h
      · rename_i hphase
        obtain rfl := Option.some.inj h
        exact calls_set hphase rfl (fun _ => rfl) (by decide)
      · cases h
  | unlinkOwn bRemoved =>
      simp only [Machine.call] at h
      split at h
      · rename_i hphase
        split at h
        · obtain rfl := Option.some.inj h
          exact calls_unlink hphase rfl rfl (fun _ => rfl) (by decide) nofun
        · obtain rfl := Option.some.inj h
          exact calls_set hphase rfl (fun _ => rfl) (by decide)
      · cases h
  | exit =>
      simp only [Machine.call, DaemonInstance.lockPlace_eq] at h
      split at h
      · cases h
      · split at h
        · rename_i hholder
          obtain rfl := Option.some.inj h
          refine ⟨_, ⟨rfl, rfl, fun _ => Or.inl rfl, fun _ => Or.inl rfl,
            .given hholder nofun, fun _ => rfl⟩, fun hsees => ?_⟩
          exact (hsees.carried (InstancePhase.carries_exited _) _).setLockHolder _ _
        · rename_i hholder
          obtain rfl := Option.some.inj h
          have hunlocked : daemon.phase.holdsLock = false := by
            by_contra hholds
            exact hholder ((hheld _ _).mpr
              ⟨daemon, hdaemon, Bool.eq_true_of_not_eq_false hholds, rfl⟩)
          exact calls_set rfl hunlocked.symm (fun _ => rfl)
            (InstancePhase.carries_exited _)

/-! ## The invariant -/

/-- Who has the lock, what each instance can rely on, and whose sockets lie
about. -/
structure Sound (directoryOf : ByteString → δ) (s : Machine δ) : Prop where
  lockHeld : s.LockHeld directoryOf
  sees : ∀ id daemon, s.instances id = some daemon → s.Sees directoryOf id daemon
  bound : ∀ place id, s.socketOwner place = some (some id) →
    ∃ daemon, s.instances id = some daemon ∧ daemon.phase.mayHaveBound ∧
      daemon.socketPlace directoryOf = place

omit [DecidableEq δ] in
theorem sound_leftBehind (lockText : δ → ByteString) (sockets : δ → Bool) :
    (leftBehind lockText sockets).Sound directoryOf where
  lockHeld place id := by
    constructor
    · nofun
    · rintro ⟨daemon, hdaemon, -⟩
      cases hdaemon
  sees := nofun
  bound place id h := by
    simp only [leftBehind] at h
    split at h <;> cases h

theorem Moves.socketPlace (h : Moves directoryOf s id daemon s' daemon') :
    daemon'.socketPlace directoryOf = daemon.socketPlace directoryOf := by
  rw [DaemonInstance.socketPlace, h.environment]
  rfl

omit [DecidableEq δ] in
/-- Two instances that hold the lock of one directory are the same. -/
theorem LockHeld.unique (h : s.LockHeld directoryOf) {other : ℕ}
    {otherDaemon : DaemonInstance} (hdaemon : s.instances id = some daemon)
    (hother : s.instances other = some otherDaemon) (hholds : daemon.phase.holdsLock)
    (hholds' : otherDaemon.phase.holdsLock)
    (hplace : otherDaemon.socketPlace directoryOf = daemon.socketPlace directoryOf) :
    other = id := by
  have hlock := (h _ id).mpr ⟨daemon, hdaemon, hholds, rfl⟩
  have hlock' := (h _ other).mpr ⟨otherDaemon, hother, hholds', hplace⟩
  exact Option.some.inj (hlock'.symm.trans hlock)

/-- Everyone but the caller, and everywhere but in the caller's directory. -/
theorem Moves.holders_iff (h : Moves directoryOf s id daemon s' daemon')
    (hdaemon : s.instances id = some daemon) {place : δ} {other : ℕ}
    (hapart : other ≠ id ∨ place ≠ daemon.socketPlace directoryOf) :
    (∃ holder, s'.instances other = some holder ∧ holder.phase.holdsLock ∧
        holder.socketPlace directoryOf = place) ↔
      ∃ holder, s.instances other = some holder ∧ holder.phase.holdsLock ∧
        holder.socketPlace directoryOf = place := by
  rw [h.instances]
  by_cases hother : other = id
  · subst hother
    have hplace := hapart.resolve_left (· rfl)
    rw [Function.update_self, hdaemon]
    constructor
    · rintro ⟨holder, hholder, -, rfl⟩
      obtain rfl := Option.some.inj hholder
      exact absurd h.socketPlace hplace
    · rintro ⟨holder, hholder, -, rfl⟩
      obtain rfl := Option.some.inj hholder
      exact absurd rfl hplace
  · rw [Function.update_of_ne hother]

/-- A call of one instance takes the lock from nobody. -/
theorem LockHeld.moves (h : s.LockHeld directoryOf)
    (hdaemon : s.instances id = some daemon)
    (hmoves : Moves directoryOf s id daemon s' daemon') :
    s'.LockHeld directoryOf := by
  intro place other
  have hself : s'.instances id = some daemon' := by
    rw [hmoves.instances, Function.update_self]
  have hlock := hmoves.lock
  generalize s'.lockHolder = after at hlock
  cases hlock with
  | kept hiff =>
      by_cases hapart : other ≠ id ∨ place ≠ daemon.socketPlace directoryOf
      · rw [h, hmoves.holders_iff hdaemon hapart]
      · obtain ⟨rfl, rfl⟩ : other = id ∧ place = daemon.socketPlace directoryOf := by
          simpa using hapart
        rw [h, hdaemon, hself]
        constructor
        · rintro ⟨holder, hholder, hholds, -⟩
          obtain rfl := Option.some.inj hholder
          exact ⟨daemon', rfl, hiff.trans hholds, hmoves.socketPlace⟩
        · rintro ⟨holder, hholder, hholds, -⟩
          obtain rfl := Option.some.inj hholder
          exact ⟨daemon, rfl, hiff.symm.trans hholds, rfl⟩
  | taken hfree hholds =>
      by_cases hplace : place = daemon.socketPlace directoryOf
      · subst hplace
        rw [Function.update_self]
        by_cases hother : other = id
        · subst hother
          exact iff_of_true rfl ⟨daemon', hself, hholds, hmoves.socketPlace⟩
        · rw [hmoves.holders_iff hdaemon (Or.inl hother), ← h, hfree]
          exact iff_of_false (fun heq => hother (Option.some.inj heq).symm) nofun
      · rw [Function.update_of_ne hplace,
          hmoves.holders_iff hdaemon (Or.inr hplace), h]
  | given hheld hnot =>
      by_cases hplace : place = daemon.socketPlace directoryOf
      · subst hplace
        rw [Function.update_self]
        by_cases hother : other = id
        · subst hother
          refine iff_of_false nofun ?_
          rintro ⟨holder, hholder, hholds, -⟩
          obtain rfl := Option.some.inj (hself.symm.trans hholder)
          exact hnot hholds
        · rw [hmoves.holders_iff hdaemon (Or.inl hother), ← h, hheld]
          exact iff_of_false nofun fun heq => hother (Option.some.inj heq).symm
      · rw [Function.update_of_ne hplace,
          hmoves.holders_iff hdaemon (Or.inr hplace), h]

/-- What another instance relies on is not the caller's to change. -/
theorem Sees.moves (hheld : s.LockHeld directoryOf)
    (hdaemon : s.instances id = some daemon)
    (hmoves : Moves directoryOf s id daemon s' daemon') {other : ℕ}
    {otherDaemon : DaemonInstance} (hne : other ≠ id)
    (hother : s.instances other = some otherDaemon)
    (hsees : s.Sees directoryOf other otherDaemon) :
    s'.Sees directoryOf other otherDaemon := by
  have hapart : otherDaemon.phase.holdsLock → ¬ (daemon.phase.holdsLock ∧
      otherDaemon.socketPlace directoryOf = daemon.socketPlace directoryOf) := by
    rintro hholds' ⟨hholds, hplace⟩
    exact hne (hheld.unique hdaemon hother hholds hholds' hplace)
  have htext : otherDaemon.phase.holdsLock →
      s'.lockText (otherDaemon.socketPlace directoryOf) =
        s.lockText (otherDaemon.socketPlace directoryOf) :=
    fun hholds => (hmoves.lockText _).resolve_right (hapart hholds)
  have hsocket : otherDaemon.phase.holdsLock →
      s'.socketOwner (otherDaemon.socketPlace directoryOf) =
        s.socketOwner (otherDaemon.socketPlace directoryOf) :=
    fun hholds => (hmoves.socketOwner _).resolve_right
      fun hchanged => hapart hholds hchanged.1
  constructor
  · intro hphase
    rw [htext (hphase ▸ rfl)]
    exact hsees.truncated hphase
  · intro hpast hbit
    rw [htext (InstancePhase.holdsLock_of_pastTryAcquire hpast)]
    exact hsees.written hpast hbit
  · exact hsees.unwritten
  · intro howns
    rw [hsocket (InstancePhase.holdsLock_of_ownsSocket howns)]
    exact hsees.socket howns

/-- Every call of an instance keeps the invariant. -/
theorem Sound.call (h : s.Sound directoryOf) (hdaemon : s.instances id = some daemon)
    {call : InstanceCall} (hcall : s.call directoryOf id daemon call = some s') :
    s'.Sound directoryOf := by
  obtain ⟨daemon', hmoves, hsees⟩ := calls_of_call h.lockHeld hdaemon hcall
  refine ⟨h.lockHeld.moves hdaemon hmoves, ?_, ?_⟩
  · intro other otherDaemon hother
    rw [hmoves.instances] at hother
    by_cases hne : other = id
    · subst hne
      rw [Function.update_self] at hother
      obtain rfl := Option.some.inj hother
      exact hsees (h.sees other daemon hdaemon)
    · rw [Function.update_of_ne hne] at hother
      exact (h.sees other otherDaemon hother).moves h.lockHeld hdaemon hmoves hne
        hother
  · intro place owner howner
    have hold : s.socketOwner place = some (some owner) →
        ∃ bound, s'.instances owner = some bound ∧ bound.phase.mayHaveBound ∧
          bound.socketPlace directoryOf = place := by
      intro hbefore
      obtain ⟨bound, hbound, hmay, hplace⟩ := h.bound place owner hbefore
      rw [hmoves.instances]
      by_cases hne : owner = id
      · subst hne
        obtain rfl := Option.some.inj (hdaemon.symm.trans hbound)
        exact ⟨daemon', Function.update_self .., hmoves.mayHaveBound hmay,
          hmoves.socketPlace.trans hplace⟩
      · exact ⟨bound, by rw [Function.update_of_ne hne, hbound], hmay, hplace⟩
    rcases hmoves.socketOwner place with hsame | ⟨⟨-, hplace⟩, hnone | ⟨hnew, hmay⟩⟩
    · exact hold (hsame ▸ howner)
    · rw [hnone] at howner
      cases howner
    · obtain rfl : id = owner := by simpa [hnew] using howner
      exact ⟨daemon', by rw [hmoves.instances, Function.update_self], hmay,
        hmoves.socketPlace.trans hplace.symm⟩

omit [DecidableEq δ] in
/-- An instance that starts touches nothing. -/
theorem Sound.start (h : s.Sound directoryOf) (hnew : s.instances id = none)
    (environment : Environment) (pid : UInt32) :
    (s.set id { environment, pid }).Sound directoryOf := by
  have hother : ∀ other, s.instances other ≠ none →
      (s.set id { environment, pid }).instances other = s.instances other := by
    intro other hsome
    refine Function.update_of_ne ?_ ..
    rintro rfl
    exact hsome hnew
  have hself : (s.set id { environment, pid }).instances id =
      some { environment, pid } := Function.update_self ..
  constructor
  · intro place other
    rw [lockHolder_set, h.lockHeld]
    constructor
    · rintro ⟨holder, hholder, hholds⟩
      exact ⟨holder, by rw [hother other (by simp [hholder]), hholder], hholds⟩
    · rintro ⟨holder, hholder, hholds⟩
      by_cases hne : other = id
      · subst hne
        obtain rfl := Option.some.inj (hself.symm.trans hholder)
        exact absurd hholds.1 nofun
      · rw [instances_set, Function.update_of_ne hne] at hholder
        exact ⟨holder, hholder, hholds⟩
  · intro other otherDaemon hsome
    by_cases hne : other = id
    · subst hne
      obtain rfl := Option.some.inj (hself.symm.trans hsome)
      exact ⟨nofun, nofun, nofun, nofun⟩
    · rw [instances_set, Function.update_of_ne hne] at hsome
      have hsees := h.sees other otherDaemon hsome
      exact ⟨hsees.truncated, hsees.written, hsees.unwritten, hsees.socket⟩
  · intro place owner howner
    obtain ⟨bound, hbound, hmay⟩ := h.bound place owner howner
    exact ⟨bound, by rw [hother owner (by simp [hbound]), hbound], hmay⟩

theorem Sound.step (h : s.Sound directoryOf) {event : InstanceEvent}
    (hstep : s.step directoryOf event = some s') : s'.Sound directoryOf := by
  cases event with
  | start id environment pid =>
      simp only [Machine.step] at hstep
      split at hstep
      · rename_i hnew
        obtain rfl := Option.some.inj hstep
        exact h.start hnew environment pid
      · cases hstep
  | call id call =>
      simp only [Machine.step] at hstep
      split at hstep
      · cases hstep
      · rename_i daemon hdaemon
        exact h.call hdaemon hstep

theorem Sound.run (h : s.Sound directoryOf) {events : List InstanceEvent}
    (hrun : runFrom (Machine.step directoryOf) s events = some s') :
    s'.Sound directoryOf :=
  invariant_of_runFrom (Machine.Sound directoryOf) h
    (fun _ _ _ hsound hstep => hsound.step hstep) hrun

/-! ## One daemon -/

/-- What the lock is for. -/
structure OneDaemon (directoryOf : ByteString → δ) (s : Machine δ) : Prop where
  /-- No two instances of one directory are past `TryAcquire`. -/
  exclusive : ∀ id daemon other otherDaemon,
    s.instances id = some daemon → s.instances other = some otherDaemon →
    daemon.phase.pastTryAcquire → otherDaemon.phase.pastTryAcquire →
    otherDaemon.socketPlace directoryOf = daemon.socketPlace directoryOf →
    other = id
  /-- Nobody takes the socket of an instance that serves. -/
  reached : ∀ id daemon, s.instances id = some daemon → daemon.phase = .serving →
    s.reached (daemon.socketPlace directoryOf) = some id
  /-- What `ControlServer::Start` removes is left from an instance that is
  gone. -/
  stale : ∀ id daemon owner, s.instances id = some daemon →
    daemon.phase = .acquired →
    s.socketOwner (daemon.socketPlace directoryOf) = some (some owner) →
    ∃ gone, s.instances owner = some gone ∧ gone.phase = .exited
  /-- The lock is refused only while an instance that lives has it. -/
  free : ∀ id daemon, s.instances id = some daemon → daemon.phase = .opened →
    ∃ s' daemon', s.step directoryOf (.call id .flock) = some s' ∧
      s'.instances id = some daemon' ∧
      (daemon'.phase = .locked ↔ ∀ other holder, s.instances other = some holder →
        holder.socketPlace directoryOf = daemon.socketPlace directoryOf →
        ¬ holder.phase.holdsLock)
  /-- An instance without the lock changes neither the lock file nor a socket. -/
  harmless : ∀ id daemon call s', s.instances id = some daemon →
    ¬ daemon.phase.holdsLock → s.step directoryOf (.call id call) = some s' →
    s'.lockText = s.lockText ∧ s'.socketOwner = s.socketOwner

omit [DecidableEq δ] in
theorem Sound.reached (h : s.Sound directoryOf) (hdaemon : s.instances id = some daemon)
    (hserving : daemon.phase = .serving) :
    s.reached (daemon.socketPlace directoryOf) = some id := by
  have howner := (h.sees id daemon hdaemon).socket (hserving ▸ rfl)
  simp only [Machine.reached, howner, hdaemon, if_pos hserving]

omit [DecidableEq δ] in
theorem Sound.stale (h : s.Sound directoryOf) {owner : ℕ}
    (hdaemon : s.instances id = some daemon) (hacquired : daemon.phase = .acquired)
    (howner : s.socketOwner (daemon.socketPlace directoryOf) = some (some owner)) :
    ∃ gone, s.instances owner = some gone ∧ gone.phase = .exited := by
  obtain ⟨bound, hbound, hmay, hplace⟩ := h.bound _ owner howner
  refine ⟨bound, hbound, InstancePhase.eq_exited_of_mayHaveBound hmay ?_⟩
  intro hholds
  obtain rfl := h.lockHeld.unique hdaemon hbound (hacquired ▸ rfl) hholds hplace
  -- The caller itself has not bound yet.
  obtain rfl := Option.some.inj (hdaemon.symm.trans hbound)
  rw [hacquired] at hmay
  cases hmay

omit [DecidableEq δ] in
theorem LockHeld.free_iff (h : s.LockHeld directoryOf) (place : δ) :
    s.lockHolder place = none ↔ ∀ other holder, s.instances other = some holder →
      holder.socketPlace directoryOf = place → ¬ holder.phase.holdsLock := by
  constructor
  · intro hfree other holder hholder hplace hholds
    rw [(h place other).mpr ⟨holder, hholder, hholds, hplace⟩] at hfree
    cases hfree
  · intro hnobody
    by_contra hheld
    obtain ⟨other, hother⟩ := Option.ne_none_iff_exists'.mp hheld
    obtain ⟨holder, hholder, hholds, hplace⟩ := (h place other).mp hother
    exact hnobody other holder hholder hplace hholds

theorem Sound.free (h : s.Sound directoryOf) (hdaemon : s.instances id = some daemon)
    (hopened : daemon.phase = .opened) :
    ∃ s' daemon', s.step directoryOf (.call id .flock) = some s' ∧
      s'.instances id = some daemon' ∧
      (daemon'.phase = .locked ↔ ∀ other holder, s.instances other = some holder →
        holder.socketPlace directoryOf = daemon.socketPlace directoryOf →
        ¬ holder.phase.holdsLock) := by
  rw [← h.lockHeld.free_iff]
  simp only [Machine.step, hdaemon, Machine.call, if_pos hopened,
    DaemonInstance.lockPlace_eq]
  cases s.lockHolder (daemon.socketPlace directoryOf) with
  | none => exact ⟨_, _, rfl, Function.update_self .., iff_of_true rfl rfl⟩
  | some holder => exact ⟨_, _, rfl, Function.update_self .., iff_of_false nofun nofun⟩

theorem Sound.harmless (h : s.Sound directoryOf) {call : InstanceCall}
    (hdaemon : s.instances id = some daemon) (hlock : ¬ daemon.phase.holdsLock)
    (hstep : s.step directoryOf (.call id call) = some s') :
    s'.lockText = s.lockText ∧ s'.socketOwner = s.socketOwner := by
  simp only [Machine.step, hdaemon] at hstep
  obtain ⟨daemon', hmoves, -⟩ := calls_of_call h.lockHeld hdaemon hstep
  constructor
  · funext place
    exact (hmoves.lockText place).resolve_right fun hchanged => hlock hchanged.1
  · funext place
    exact (hmoves.socketOwner place).resolve_right fun hchanged => hlock hchanged.1.1

/-- However many daemons are started and killed, and whatever an earlier one left
behind: one of them at a time is past the lock, and clients reach that one. -/
theorem one_daemon (lockText : δ → ByteString) (sockets : δ → Bool)
    {events : List InstanceEvent}
    (hrun : runFrom (step directoryOf) (leftBehind lockText sockets) events =
      some s) : s.OneDaemon directoryOf := by
  have hsound := (sound_leftBehind lockText sockets).run hrun
  constructor
  · intro id daemon other otherDaemon hdaemon hother hpast hpast' hplace
    exact hsound.lockHeld.unique hdaemon hother
      (InstancePhase.holdsLock_of_pastTryAcquire hpast)
      (InstancePhase.holdsLock_of_pastTryAcquire hpast') hplace
  · exact fun id daemon => hsound.reached
  · exact fun id daemon owner => hsound.stale
  · exact fun id daemon => hsound.free
  · exact fun id daemon call s' => hsound.harmless

/-- The first daemon is killed while it serves, the second one takes over, and the
third one is refused. -/
def threeInstances : List InstanceEvent :=
  let environment : Environment := ⟨none, 1000⟩
  let up id := [InstanceCall.openLockFile true, .flock, .truncateLockFile true,
    .writePid 5, .unlinkStale true, .bind true, .listen true].map
      (InstanceEvent.call id)
  [.start 0 environment 4711] ++ up 0 ++ [.call 0 .exit, .start 1 environment 4712] ++
    up 1 ++ [.start 2 environment 4713, .call 2 (.openLockFile true),
      .call 2 .flock]

theorem one_daemon_three : ∃ s, runFrom (step fun path => path)
    (leftBehind (fun _ => []) fun _ => true) threeInstances = some s ∧
      s.OneDaemon fun path => path := by
  have hruns : (runFrom (step fun path => path)
      (leftBehind (fun _ => []) fun _ => true) threeInstances).isSome := by
    decide +kernel
  obtain ⟨s, hrun⟩ := Option.isSome_iff_exists.mp hruns
  exact ⟨s, hrun, one_daemon _ _ hrun⟩

/-- The process id that a refused instance reports is that of the daemon which
has the lock, once that daemon has written it; nothing else changes. -/
theorem refused_reads_holder (lockText : δ → ByteString) (sockets : δ → Bool)
    {events : List InstanceEvent}
    (hrun : runFrom (step directoryOf) (leftBehind lockText sockets) events = some s)
    {holder : ℕ} {holderDaemon : DaemonInstance}
    (hdaemon : s.instances id = some daemon) (hrefused : daemon.phase = .refused)
    (hlock : s.lockHolder (daemon.lockPlace directoryOf) = some holder)
    (hholder : s.instances holder = some holderDaemon)
    (hpast : holderDaemon.phase.pastTryAcquire) (hwritten : holderDaemon.bPidWritten) :
    s.step directoryOf (.call id (.readHolder true)) =
      some (s.set id { daemon with
        phase := .turnedAway
        holderPidText := printNat holderDaemon.pid.toNat }) := by
  have hsound := (sound_leftBehind lockText sockets).run hrun
  rw [DaemonInstance.lockPlace_eq] at hlock
  obtain ⟨found, hfound, -, hplace⟩ := (hsound.lockHeld _ holder).mp hlock
  obtain rfl := Option.some.inj (hholder.symm.trans hfound)
  have htext := (hsound.sees holder holderDaemon hholder).written hpast hwritten
  rw [hplace] at htext
  simp only [Machine.step, hdaemon, Machine.call, if_pos hrefused,
    DaemonInstance.lockPlace_eq, htext, readHolderPid_pidText, if_true]

theorem refused_reads_holder_three : ∃ s, ∃ refused : DaemonInstance,
    runFrom (step fun path => path) (leftBehind (fun _ => []) fun _ => true)
        threeInstances = some s ∧
      s.step (fun path => path) (.call 2 (.readHolder true)) =
        some (s.set 2 { refused with
          phase := .turnedAway
          holderPidText := printNat 4712 }) := by
  let environment : Environment := ⟨none, 1000⟩
  let refused : DaemonInstance := { environment, pid := 4713, phase := .refused }
  let serving : DaemonInstance :=
    { environment, pid := 4712, phase := .serving, bPidWritten := true }
  have hreached : (runFrom (step fun path => path)
      (leftBehind (fun _ => []) fun _ => true) threeInstances).map (fun s =>
        (s.instances 2, s.lockHolder (refused.lockPlace fun path => path),
          s.instances 1)) = some (some refused, some 1, some serving) := by
    decide +kernel
  obtain ⟨s, hrun, hs⟩ := Option.map_eq_some_iff.mp hreached
  obtain ⟨hrefused, hlock, hserving⟩ := by simpa only [Prod.mk.injEq] using hs
  exact ⟨s, refused, hrun,
    refused_reads_holder _ _ hrun hrefused rfl hlock hserving rfl rfl⟩

end Machine

end RamkolFX
