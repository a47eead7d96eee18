import RamkolFX.Gui.CatalogView
import RamkolFX.Support.Binary32Arith
import RamkolFX.Support.Interleaving

/-!
# The equalizer tab

The application keeps the curve and the bass settings, which no status carries.
It fetches them when it connects, changes them where the user does, and sends
the whole band or all of the settings with each change.  A request that it gives
up waiting for may be lost, or be handled by the daemon later.
-/

namespace RamkolFX

open Support

namespace ClientCall

/-- The call is about the curve or the bass settings. -/
def bEq : ClientCall → Bool
  | setHwEqBand _ _ | requestHwEqState | setBassEnhancer _
  | requestBassEnhancerState => true
  | _ => false

/-- What a call makes of the response that it receives, and whether it keeps the
connection: a response of another kind is not fatal to it, one that does not
decode is. -/
def receives (call : ClientCall) (response : List UInt8) :
    Option ClientValue × Bool :=
  match ControlClient.receiveResponse response with
  | none => (none, false)
  | some (raw, _) =>
      if raw.messageOpcode ≠ call.expects.toByte then (none, true)
      else
        match (call.decodeValue raw.payload).toOption.join with
        | some value => (some value, true)
        | none => (none, false)

end ClientCall

/-! ## Edits -/

/-- The curve and the bass settings. -/
@[ext] structure EqSettings where
  hwEqBands : Fin maxEqBands → EqBand := fun _ => {}
  bassEnhancer : BassEnhancerSettings := {}
  deriving DecidableEq

/-- A control of the tab, and the value it is set to. -/
inductive EqEdit
  | gainDb (band : Fin maxEqBands) (value : Binary32)
  /-- One of the six types of the list. -/
  | filterType (band : Fin maxEqBands)
      (value : { filterType : EqFilterType // filterType.IsValid })
  | frequencyHz (band : Fin maxEqBands) (value : Binary32)
  | q (band : Fin maxEqBands) (value : Binary32)
  | bassEnabled (value : Bool)
  | bassAmount (amountPercent : Binary32)
  | bassCutoff (value : Binary32)
  | bassDrive (value : Binary32)

namespace EqEdit

/-- What the user changes. -/
def apply (eq : EqSettings) : EqEdit → EqSettings
  | gainDb i value =>
      { eq with
        hwEqBands := Function.update eq.hwEqBands i
          { eq.hwEqBands i with gainDb := value } }
  | filterType i value =>
      { eq with
        hwEqBands := Function.update eq.hwEqBands i
          { eq.hwEqBands i with filterType := value } }
  | frequencyHz i value =>
      { eq with
        hwEqBands := Function.update eq.hwEqBands i
          { eq.hwEqBands i with frequencyHz := value } }
  | q i value =>
      { eq with
        hwEqBands := Function.update eq.hwEqBands i
          { eq.hwEqBands i with q := value } }
  | bassEnabled value =>
      { eq with bassEnhancer := { eq.bassEnhancer with bEnabled := value } }
  | bassAmount amountPercent =>
      { eq with
        bassEnhancer := { eq.bassEnhancer with
          mix := amountPercent.div ⟨0x42C80000⟩ } } -- 100.0f
  | bassCutoff value =>
      { eq with bassEnhancer := { eq.bassEnhancer with cutoffHz := value } }
  | bassDrive value =>
      { eq with bassEnhancer := { eq.bassEnhancer with drive := value } }

/-- The band of an edit; `none` for one of the bass settings. -/
def band : EqEdit → Option (Fin maxEqBands)
  | gainDb i _ | filterType i _ | frequencyHz i _ | q i _ => some i
  | _ => none

/-- `SendHwEqBand` and `SendBassEnhancer`, with the settings as they are behind
the edit. -/
def call (eq : EqSettings) (edit : EqEdit) : ClientCall :=
  match edit.band with
  | some i => .setHwEqBand (UInt8.ofNat i) (eq.hwEqBands i)
  | none => .setBassEnhancer eq.bassEnhancer

end EqEdit

/-! ## The application -/

structure EqApp where
  /-- `Client.IsConnected()` -/
  bClientConnected : Bool := false
  bConnected : Bool := false
  lastStatus : Status := {}
  devices : List AudioDeviceInfo := []
  hrtfCatalog : List ByteString := []
  eq : EqSettings := {}
  bAdvancedEqMode : Bool := false
  bAdvancedBassMode : Bool := false
  reconnectTimerSeconds : Binary32 := ⟨0⟩
  statusPollTimerSeconds : Binary32 := ⟨0⟩
  devicePollTimerSeconds : Binary32 := ⟨0⟩

/-- The control is drawn. -/
def EqEdit.bShown (app : EqApp) : EqEdit → Bool
  | gainDb _ _ | bassEnabled _ => true
  | filterType _ _ | frequencyHz _ _ | q _ _ => app.bAdvancedEqMode
  | bassAmount _ => app.eq.bassEnhancer.bEnabled
  | bassCutoff _ | bassDrive _ =>
      app.eq.bassEnhancer.bEnabled && app.bAdvancedBassMode

/-- What becomes of a request: it is answered in time, handled but not answered
in time, lost, or handled at some later point. -/
inductive CallOutcome
  | answered
  | answerLost
  | requestLost
  | late

/-- What the user does in a frame: an edit of this tab, a control of the other
one, or one of the two switches. -/
inductive EqControl
  | edit (edit : EqEdit) (outcome : CallOutcome)
  | other (call : { call : ClientCall // call.bEq = false })
      (outcome : CallOutcome)
  | advancedEq (value : Bool)
  | advancedBass (value : Bool)

/-- A frame: whether `connect` succeeds and what becomes of the requests of
`Tick`, if it comes to that, and the controls used, one after the other. -/
structure EqFrame where
  deltaTimeSeconds : Binary32
  bListening : Bool := true
  statusOutcome : CallOutcome := .answered
  devicesOutcome : CallOutcome := .answered
  hrtfOutcome : CallOutcome := .answered
  hwEqOutcome : CallOutcome := .answered
  bassOutcome : CallOutcome := .answered
  controls : List EqControl := []

/-- The application, the daemon, the edits whose requests the daemon is still to
handle, and the edits whose requests it has handled. -/
structure EqSession (α : Type) where
  app : EqApp
  daemon : AudioEngine.Daemon α
  late : List (EqEdit × ClientCall) := []
  handled : List EqEdit := []

/-- A frame, something else that happens to the daemon, or the next late request,
if there is one. -/
inductive EqEvent (α : Type)
  | frame (frame : EqFrame)
  | daemon (event : AudioEngine.Event α)
  | handleLate

namespace EqSession

def reconnectIntervalSeconds : Binary32 := ⟨0x3F800000⟩ -- 1.0

def statusPollIntervalSeconds : Binary32 := ⟨0x3E800000⟩ -- 0.25

def devicePollIntervalSeconds : Binary32 := ⟨0x40000000⟩ -- 2.0

section

variable {α : Type}

def disconnect (s : EqSession α) : EqSession α :=
  { s with app := { s.app with bClientConnected := false } }

/-- A control's request that fails. -/
def fail (s : EqSession α) : EqSession α :=
  { s with
    app := { s.app with bConnected := false, reconnectTimerSeconds := ⟨0⟩ } }

/-- The fields of the application that a call's value goes to. -/
def store (s : EqSession α) (value : Option ClientValue) : EqSession α :=
  match value with
  | some (.status lastStatus) => { s with app := { s.app with lastStatus } }
  | some (.devices devices) => { s with app := { s.app with devices } }
  | some (.hrtfCatalog hrtfCatalog) => { s with app := { s.app with hrtfCatalog } }
  | some (.hwEqState hwEqBands) =>
      { s with app := { s.app with eq := { s.app.eq with hwEqBands } } }
  | some (.bassEnhancerState bassEnhancer) =>
      { s with app := { s.app with eq := { s.app.eq with bassEnhancer } } }
  | none => s

def edited (s : EqSession α) (edit : EqEdit) : EqSession α :=
  { s with app := { s.app with eq := edit.apply s.app.eq } }

/-- An edit that was sent goes on record: handled, or still to be. -/
def enter (s : EqSession α) (edit : EqEdit) (call : ClientCall) :
    CallOutcome → EqSession α
  | .answered | .answerLost => { s with handled := s.handled ++ [edit] }
  | .late => { s with late := s.late ++ [(edit, call)] }
  | .requestLost => s

variable [FloatArith α] (setup : DaemonSetup α)

/-- The daemon's response to a request, and the daemon behind it. -/
def deliver (s : EqSession α) (call : ClientCall) :
    Option (List UInt8 × EqSession α) := do
  let (frame, _) ← nextFrame call.request
  match frame.command with
  | none =>
      return (encodeErrorResponse (ascii "malformed or unknown command"), s)
  | some inCommand => do
      let (response, engine) ←
        AudioEngine.handleControlCommand setup s.daemon.engine inCommand true
      return (response,
        { s with daemon := ⟨engine, s.daemon.responses ++ [response]⟩ })

/-- A call of the client. -/
def perform (s : EqSession α) (call : ClientCall) :
    CallOutcome → Option (Option ClientValue × EqSession α)
  | .answered =>
      if s.app.bClientConnected then do
        let (response, s) ← s.deliver setup call
        let (value, bKept) := call.receives response
        return (value, if bKept then s else s.disconnect)
      else some (none, s)
  | .answerLost =>
      if s.app.bClientConnected then do
        let (_, s) ← s.deliver setup call
        return (none, s.disconnect)
      else some (none, s)
  | .requestLost | .late => some (none, s.disconnect)

/-- A call of `Tick` whose value is stored if there is one. -/
def fetch (s : EqSession α) (call : ClientCall) (outcome : CallOutcome) :
    Option (EqSession α) := do
  let (value, s) ← s.perform setup call outcome
  return s.store value

/-- A call that ends the connection if it fails. -/
def ask (s : EqSession α) (call : ClientCall) (outcome : CallOutcome) :
    Option (EqSession α) := do
  let (value, s) ← s.perform setup call outcome
  return if value.isSome then s.store value else s.fail

/-- `Tick` without a connection. -/
def reconnect (s : EqSession α) (frame : EqFrame) : Option (EqSession α) :=
  let reconnectTimerSeconds :=
    s.app.reconnectTimerSeconds.sub frame.deltaTimeSeconds
  if reconnectTimerSeconds ≤ ⟨0⟩ then
    let s := { s with
      app := { s.app with
        reconnectTimerSeconds := reconnectIntervalSeconds
        bClientConnected := frame.bListening } }
    if frame.bListening then do
      let (value, s) ← s.perform setup .requestStatus frame.statusOutcome
      if value.isSome then do
        let s ← (s.store value).fetch setup .requestDevices frame.devicesOutcome
        let s ← s.fetch setup .requestHrtfCatalog frame.hrtfOutcome
        let s ← s.fetch setup .requestHwEqState frame.hwEqOutcome
        let s ← s.fetch setup .requestBassEnhancerState frame.bassOutcome
        return { s with
          app := { s.app with
            devicePollTimerSeconds := devicePollIntervalSeconds
            bConnected := true } }
      else return s.disconnect
    else some s
  else some { s with app := { s.app with reconnectTimerSeconds } }

/-- The status poll of `Tick`. -/
def pollStatus (s : EqSession α) (frame : EqFrame) : Option (EqSession α) :=
  let statusPollTimerSeconds :=
    s.app.statusPollTimerSeconds.sub frame.deltaTimeSeconds
  if statusPollTimerSeconds ≤ ⟨0⟩ then
    { s with
      app := { s.app with
        statusPollTimerSeconds := EqSession.statusPollIntervalSeconds } }.ask
      setup .requestStatus frame.statusOutcome
  else some { s with app := { s.app with statusPollTimerSeconds } }

/-- The device poll of `Tick`, which the status poll may have made idle. -/
def pollDevices (s : EqSession α) (frame : EqFrame) : Option (EqSession α) :=
  let devicePollTimerSeconds :=
    s.app.devicePollTimerSeconds.sub frame.deltaTimeSeconds
  if s.app.bConnected ∧ devicePollTimerSeconds ≤ ⟨0⟩ then do
    let s ← { s with
      app := { s.app with
        devicePollTimerSeconds := EqSession.devicePollIntervalSeconds } }.ask
      setup .requestDevices frame.devicesOutcome
    if s.app.bConnected then s.ask setup .requestHrtfCatalog frame.hrtfOutcome
    else return s
  else some { s with app := { s.app with devicePollTimerSeconds } }

/-- One control.  The edit is made first, and sent as it then is. -/
def use (s : EqSession α) : EqControl → Option (EqSession α)
  | .edit edit outcome =>
      if edit.bShown s.app then do
        let call := edit.call (edit.apply s.app.eq)
        let s' ← (s.edited edit).ask setup call outcome
        return if s.app.bClientConnected then s'.enter edit call outcome else s'
      else some s
  | .other call outcome => s.ask setup call outcome
  | .advancedEq bAdvancedEqMode => some { s with app := { s.app with bAdvancedEqMode } }
  | .advancedBass bAdvancedBassMode =>
      some { s with app := { s.app with bAdvancedBassMode } }

/-- `Tick`, up to `DrawUI`. -/
def refresh (s : EqSession α) (frame : EqFrame) : Option (EqSession α) :=
  if s.app.bConnected then do
    let s ← s.pollStatus setup frame
    s.pollDevices setup frame
  else s.reconnect setup frame

/-- `Tick`.  The controls are disabled without a connection. -/
def tick (s : EqSession α) (frame : EqFrame) : Option (EqSession α) := do
  let s ← s.refresh setup frame
  if s.app.bConnected then frame.controls.foldlM (use setup) s else return s

def step (s : EqSession α) : EqEvent α → Option (EqSession α)
  | .frame frame => s.tick setup frame
  | .daemon event => do
      let daemon ← AudioEngine.step setup s.daemon event
      return { s with daemon }
  | .handleLate =>
      match s.late with
      | [] => some s
      | (edit, call) :: late => do
          let (_, s) ← s.deliver setup call
          return { s with late, handled := s.handled ++ [edit] }

end

end EqSession

end RamkolFX
