import RamkolFX.Protocol.Types
import RamkolFX.Support.Files
import RamkolFX.Support.Interleaving
import RamkolFX.Support.NumberText
import Mathlib.Data.List.DropRight

/-!
# The lock of the single instance

Any number of daemons are started, each goes through `Run` at its own pace, and
each can be killed at any point.  What they share is the directory of the
control socket, with the lock file next to the socket.
-/

namespace RamkolFX

open Support Support.NumberText

/-! ## Paths -/

/-- What `DefaultControlSocketPath` asks of its environment. -/
structure Environment where
  xdgRuntimeDir : Option ByteString
  uid : UInt32
  deriving DecidableEq

namespace Environment

/-- The directory that `DefaultControlSocketPath` makes. -/
def controlDirectory (environment : Environment) : ByteString :=
  match environment.xdgRuntimeDir with
  | some runtimeDir => runtimeDir ++ ascii "/ramkolfx"
  | none => ascii "/tmp/ramkolfx-" ++ printNat environment.uid.toNat

/-- `DefaultControlSocketPath` -/
def defaultControlSocketPath (environment : Environment) : ByteString :=
  environment.controlDirectory ++ ascii "/control.sock"

end Environment

/-- `Path.substr(0, Path.find_last_of('/'))`, all of it if there is none. -/
def directoryPart (path : ByteString) : ByteString :=
  if '/'.toUInt8 ∈ path then
    (path.rdropWhile fun b => b ≠ '/'.toUInt8).dropLast
  else path

/-- The lock path of `Run`. -/
def lockPathOf (socketPath : ByteString) : ByteString :=
  directoryPart socketPath ++ ascii "/daemon.lock"

theorem directoryPart_append {directory name : ByteString}
    (hname : '/'.toUInt8 ∉ name) :
    directoryPart (directory ++ '/'.toUInt8 :: name) = directory := by
  have hname' : ∀ b ∈ name.reverse, decide (b ≠ '/'.toUInt8) := by
    intro b hb
    rw [List.mem_reverse] at hb
    exact decide_eq_true fun h => hname (h ▸ hb)
  have hslash : '/'.toUInt8 ∈ directory ++ '/'.toUInt8 :: name := by simp
  rw [directoryPart, if_pos hslash, List.rdropWhile, List.reverse_append,
    List.reverse_cons, List.append_assoc, List.dropWhile_append_of_pos hname',
    List.singleton_append, List.dropWhile_cons_of_neg (by simp), List.reverse_cons,
    List.reverse_reverse, List.dropLast_concat]

/-- The lock file is next to the control socket. -/
theorem directoryPart_lockPathOf (environment : Environment) :
    directoryPart (lockPathOf environment.defaultControlSocketPath) =
      directoryPart environment.defaultControlSocketPath := by
  rw [lockPathOf]
  exact directoryPart_append (by decide)

theorem directoryPart_defaultControlSocketPath (environment : Environment) :
    directoryPart environment.defaultControlSocketPath =
      environment.controlDirectory :=
  directoryPart_append (by decide)

/-! ## Instances -/

/-- How far an instance is.  The first three phases and `turnedAway` are without
the lock. -/
inductive InstancePhase
  | started
  | opened
  | refused
  /-- `TryAcquire` returned `false`. -/
  | turnedAway
  | locked
  | truncated
  /-- `TryAcquire` returned `true`. -/
  | acquired
  /-- `ControlServer::Start` has removed what was at its path. -/
  | cleared
  | bound
  /-- `ControlServer::Start` returned `true`. -/
  | serving
  /-- `ControlServer::Stop` has closed the listening socket. -/
  | closed
  /-- `Stop` has returned, or `Start` returned `false`. -/
  | stopped
  | exited
  deriving DecidableEq

namespace InstancePhase

/-- `flock` has succeeded, and its file is still open. -/
def holdsLock : InstancePhase → Bool
  | locked | truncated | acquired | cleared | bound | serving | closed | stopped =>
      true
  | started | opened | refused | turnedAway | exited => false

/-- `TryAcquire` has returned `true`, and the process is alive. -/
def pastTryAcquire : InstancePhase → Bool
  | acquired | cleared | bound | serving | closed | stopped => true
  | started | opened | refused | turnedAway | locked | truncated | exited => false

/-- The socket is bound and not removed again by `Stop`. -/
def ownsSocket : InstancePhase → Bool
  | bound | serving | closed => true
  | started | opened | refused | turnedAway | locked | truncated | acquired
  | cleared | stopped | exited => false

/-- A socket that the instance bound may still be there. -/
def mayHaveBound : InstancePhase → Bool
  | bound | serving | closed | stopped | exited => true
  | started | opened | refused | turnedAway | locked | truncated | acquired
  | cleared => false

end InstancePhase

/-- A process that runs the daemon. -/
structure DaemonInstance where
  environment : Environment
  pid : UInt32
  phase : InstancePhase := .started
  holderPidText : ByteString := []
  /-- `write` has taken the whole text of the process id. -/
  bPidWritten : Bool := false
  deriving DecidableEq

namespace DaemonInstance

/-- `std::to_string(getpid()) + "\n"` -/
def pidText (daemon : DaemonInstance) : ByteString :=
  printNat daemon.pid.toNat ++ ['\n'.toUInt8]

variable {δ : Type} (directoryOf : ByteString → δ)

/-- The directory of the lock file. -/
def lockPlace (daemon : DaemonInstance) : δ :=
  directoryOf
    (directoryPart (lockPathOf daemon.environment.defaultControlSocketPath))

/-- The directory of the control socket. -/
def socketPlace (daemon : DaemonInstance) : δ :=
  directoryOf (directoryPart daemon.environment.defaultControlSocketPath)

theorem lockPlace_eq (daemon : DaemonInstance) :
    daemon.lockPlace directoryOf = daemon.socketPlace directoryOf := by
  rw [lockPlace, directoryPart_lockPathOf]
  rfl

end DaemonInstance

/-- `HolderPidText` after `pread` into a buffer of 32 bytes, one of them left for
the terminator. -/
def readHolderPid (lockText : ByteString) : ByteString :=
  (lockText.take 31).rdropWhile fun b => IsSpace b

/-- The text of a process id fits into the buffer, and only the line's end is
trimmed. -/
theorem readHolderPid_pidText (daemon : DaemonInstance) :
    readHolderPid daemon.pidText = printNat daemon.pid.toNat := by
  have hlength : daemon.pidText.length ≤ 31 := by
    have hdigits := length_printNat_le (k := 10) (by decide)
      (daemon.pid.toNat_lt.trans (by norm_num))
    rw [DaemonInstance.pidText, List.length_append, List.length_singleton]
    omega
  rw [readHolderPid, List.take_of_length_le hlength, DaemonInstance.pidText,
    List.rdropWhile_concat_pos _ _ _ (by decide), List.rdropWhile_eq_self_iff]
  intro hne hspace
  have hdigit := isDigit_of_mem_printNat (List.getLast_mem hne)
  exact not_isSpace_of_isDigit hdigit (of_decide_eq_true hspace)

/-- The calls an instance makes, with what the kernel makes of them: whether a
call that may fail succeeds, and how much of the text `write` takes. -/
inductive InstanceCall
  | openLockFile (bOpened : Bool)
  /-- Refused for a lock that is held, and for nothing else. -/
  | flock
  | readHolder (bRead : Bool)
  | truncateLockFile (bTruncated : Bool)
  | writePid (count : ℕ)
  | unlinkStale (bRemoved : Bool)
  | bind (bAllowed : Bool)
  | listen (bListening : Bool)
  | closeListener
  | unlinkOwn (bRemoved : Bool)
  /-- The process returns from `main`, crashes or is killed. -/
  | exit

inductive InstanceEvent
  | start (id : ℕ) (environment : Environment) (pid : UInt32)
  | call (id : ℕ) (call : InstanceCall)

section

variable {δ : Type} [DecidableEq δ]

/-- The instances that were ever started, and the files in the directories that
paths lead to. -/
structure Machine (δ : Type) where
  instances : ℕ → Option DaemonInstance := fun _ => none
  /-- What `daemon.lock` holds, nothing if it is not there. -/
  lockText : δ → ByteString := fun _ => []
  /-- The instance whose open file has the lock on `daemon.lock`. -/
  lockHolder : δ → Option ℕ := fun _ => none
  /-- Who bound the socket at `control.sock`; `some none` is one that no instance
  of this run has bound. -/
  socketOwner : δ → Option (Option ℕ) := fun _ => none

namespace Machine

/-- `sizeof(sockaddr_un::sun_path)` -/
def sunPathSize : ℕ := 108

def set (s : Machine δ) (id : ℕ) (daemon : DaemonInstance) : Machine δ :=
  { s with instances := Function.update s.instances id (some daemon) }

def setLockText (s : Machine δ) (place : δ) (text : ByteString) : Machine δ :=
  { s with lockText := Function.update s.lockText place text }

def setLockHolder (s : Machine δ) (place : δ) (holder : Option ℕ) : Machine δ :=
  { s with lockHolder := Function.update s.lockHolder place holder }

def setSocketOwner (s : Machine δ) (place : δ) (owner : Option (Option ℕ)) :
    Machine δ :=
  { s with socketOwner := Function.update s.socketOwner place owner }

section

variable (s : Machine δ) (id : ℕ) (daemon : DaemonInstance) (place : δ)
  (text : ByteString) (holder : Option ℕ) (owner : Option (Option ℕ))

omit [DecidableEq δ] in
@[simp] theorem instances_set :
    (s.set id daemon).instances = Function.update s.instances id (some daemon) := rfl

omit [DecidableEq δ] in
@[simp] theorem lockText_set : (s.set id daemon).lockText = s.lockText := rfl

omit [DecidableEq δ] in
@[simp] theorem lockHolder_set : (s.set id daemon).lockHolder = s.lockHolder := rfl

omit [DecidableEq δ] in
@[simp] theorem socketOwner_set : (s.set id daemon).socketOwner = s.socketOwner := rfl

@[simp] theorem instances_setLockText :
    (s.setLockText place text).instances = s.instances := rfl

@[simp] theorem lockText_setLockText :
    (s.setLockText place text).lockText =
      Function.update s.lockText place text := rfl

@[simp] theorem socketOwner_setLockText :
    (s.setLockText place text).socketOwner = s.socketOwner := rfl

@[simp] theorem instances_setLockHolder :
    (s.setLockHolder place holder).instances = s.instances := rfl

@[simp] theorem lockHolder_setLockHolder :
    (s.setLockHolder place holder).lockHolder =
      Function.update s.lockHolder place holder := rfl

@[simp] theorem instances_setSocketOwner :
    (s.setSocketOwner place owner).instances = s.instances := rfl

@[simp] theorem lockText_setSocketOwner :
    (s.setSocketOwner place owner).lockText = s.lockText := rfl

@[simp] theorem socketOwner_setSocketOwner :
    (s.setSocketOwner place owner).socketOwner =
      Function.update s.socketOwner place owner := rfl

end

/-- One call of an instance.  `directoryOf` is the directory that the kernel
finds under a path. -/
def call (directoryOf : ByteString → δ) (s : Machine δ) (id : ℕ)
    (daemon : DaemonInstance) : InstanceCall → Option (Machine δ)
  | .openLockFile bOpened =>
      if daemon.phase = .started then
        some (s.set id { daemon with
          phase := if bOpened then .opened else .turnedAway })
      else none
  | .flock =>
      if daemon.phase = .opened then
        match s.lockHolder (daemon.lockPlace directoryOf) with
        | some _ => some (s.set id { daemon with phase := .refused })
        | none =>
            some ((s.set id { daemon with phase := .locked }).setLockHolder
              (daemon.lockPlace directoryOf) (some id))
      else none
  | .readHolder bRead =>
      if daemon.phase = .refused then
        some (s.set id { daemon with
          phase := .turnedAway
          holderPidText :=
            if bRead then readHolderPid (s.lockText (daemon.lockPlace directoryOf))
            else [] })
      else none
  | .truncateLockFile bTruncated =>
      if daemon.phase = .locked then
        if bTruncated then
          some ((s.set id { daemon with phase := .truncated }).setLockText
            (daemon.lockPlace directoryOf) [])
        else some (s.set id { daemon with phase := .acquired })
      else none
  | .writePid count =>
      if daemon.phase = .truncated ∧ count ≤ daemon.pidText.length then
        some ((s.set id { daemon with
            phase := .acquired
            bPidWritten := count = daemon.pidText.length }).setLockText
          (daemon.lockPlace directoryOf)
          (overwrite (s.lockText (daemon.lockPlace directoryOf)) 0
            (daemon.pidText.take count)))
      else none
  | .unlinkStale bRemoved =>
      if daemon.phase = .acquired then
        if sunPathSize ≤ daemon.environment.defaultControlSocketPath.length then
          some (s.set id { daemon with phase := .stopped })
        else if bRemoved then
          some ((s.set id { daemon with phase := .cleared }).setSocketOwner
            (daemon.socketPlace directoryOf) none)
        else some (s.set id { daemon with phase := .cleared })
      else none
  | .bind bAllowed =>
      if daemon.phase = .cleared then
        if bAllowed ∧ s.socketOwner (daemon.socketPlace directoryOf) = none then
          some ((s.set id { daemon with phase := .bound }).setSocketOwner
            (daemon.socketPlace directoryOf) (some (some id)))
        else some (s.set id { daemon with phase := .stopped })
      else none
  | .listen bListening =>
      if daemon.phase = .bound then
        some (s.set id { daemon with
          phase := if bListening then .serving else .stopped })
      else none
  | .closeListener =>
      if daemon.phase = .serving then
        some (s.set id { daemon with phase := .closed })
      else none
  | .unlinkOwn bRemoved =>
      if daemon.phase = .closed then
        if bRemoved then
          some ((s.set id { daemon with phase := .stopped }).setSocketOwner
            (daemon.socketPlace directoryOf) none)
        else some (s.set id { daemon with phase := .stopped })
      else none
  | .exit =>
      if daemon.phase = .exited then none
      -- Closing the lock file's descriptor gives the lock back.
      else if s.lockHolder (daemon.lockPlace directoryOf) = some id then
        some ((s.set id { daemon with phase := .exited }).setLockHolder
          (daemon.lockPlace directoryOf) none)
      else some (s.set id { daemon with phase := .exited })

/-- One step of an instance. -/
def step (directoryOf : ByteString → δ) (s : Machine δ) :
    InstanceEvent → Option (Machine δ)
  | .start id environment pid =>
      match s.instances id with
      | none => some (s.set id { environment, pid })
      | some _ => none
  | .call id call =>
      match s.instances id with
      | none => none
      | some daemon => s.call directoryOf id daemon call

/-- The instance that `connect` reaches at the control socket. -/
def reached (s : Machine δ) (place : δ) : Option ℕ :=
  match s.socketOwner place with
  | some (some owner) =>
      match s.instances owner with
      | some daemon => if daemon.phase = .serving then some owner else none
      | none => none
  | _ => none

/-- No instance runs yet.  Earlier ones may have left a lock file and a socket
behind. -/
def leftBehind (lockText : δ → ByteString) (sockets : δ → Bool) : Machine δ where
  lockText
  socketOwner place := if sockets place then some none else none

end Machine

end

end RamkolFX
