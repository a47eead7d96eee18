import RamkolFX.Gui.CatalogView
import RamkolFX.Gui.PositionDial
import RamkolFX.Support.Interleaving

/-!
# The spatial tab

A frame of the application on a connection: it may poll the daemon's status,
draws the dial, and sends the positions of the handles that the user moves.
Each call carries the positions as they are, and each answer replaces the last
status, in which the dial moves its handles in place.
-/

namespace RamkolFX

open Support

/-! ## Calls that are answered -/

/-- What a call returns, and the daemon behind it; `none` if the daemon does
not answer it. -/
def ClientCall.exchange {α : Type} [FloatArith α] (setup : DaemonSetup α)
    (daemon : AudioEngine.Daemon α) (call : ClientCall) :
    Option (ClientValue × AudioEngine.Daemon α) := do
  let (frame, _) ← nextFrame call.request
  let daemon' ← AudioEngine.step setup daemon (.request frame true)
  let response ← (daemon'.responses.drop daemon.responses.length).head?
  let value ← call.returns response
  return (value, daemon')

/-! ## Positions -/

/-- Where a speaker is. -/
@[ext] structure SpeakerPosition where
  speaker : SpeakerChannel
  azimuthDegrees : Binary32
  distanceMeters : Binary32

namespace SpeakerPosition

def ofStatus (status : Status) (speaker : SpeakerChannel) : SpeakerPosition :=
  ⟨speaker, status.speakerAzimuthDegrees speaker,
    status.speakerDistanceMeters speaker⟩

def ofLayout (layout : SpeakerLayout) (speaker : SpeakerChannel) :
    SpeakerPosition :=
  ⟨speaker, layout.speakerAzimuthDegrees speaker,
    layout.speakerDistanceMeters speaker⟩

/-- The calls that send the position. -/
def calls (position : SpeakerPosition) : List ClientCall :=
  [.setSpeakerAzimuth (UInt8.ofNat position.speaker) position.azimuthDegrees,
    .setSpeakerDistance (UInt8.ofNat position.speaker) position.distanceMeters]

end SpeakerPosition

/-- The positions of the handles that the user moves in a frame. -/
def PositionDial.Input.dragged [DialMath] (input : PositionDial.Input) :
    List SpeakerPosition :=
  match input.active with
  | none => []
  | some i =>
      ⟨i, input.mouseAzimuth, input.mouseDistance⟩ ::
        (if input.bMirrorEnabled then PositionDial.mirrorPartnerIndex i
          else none).toList.map fun mirrorIndex =>
            ⟨mirrorIndex, -input.mouseAzimuth, input.mouseDistance⟩

/-- The last azimuth sent for a speaker. -/
def sentAzimuth (sent : List ClientCall) (speaker : SpeakerChannel) :
    Option Binary32 :=
  (sent.filterMap fun call =>
    match call with
    | .setSpeakerAzimuth index azimuthDegrees =>
        if index = UInt8.ofNat speaker then some azimuthDegrees else none
    | _ => none).getLast?

/-- The last distance sent for a speaker. -/
def sentDistance (sent : List ClientCall) (speaker : SpeakerChannel) :
    Option Binary32 :=
  (sent.filterMap fun call =>
    match call with
    | .setSpeakerDistance index distanceMeters =>
        if index = UInt8.ofNat speaker then some distanceMeters else none
    | _ => none).getLast?

/-- The position is the last one sent for its speaker. -/
structure LastSent (sent : List ClientCall) (position : SpeakerPosition) :
    Prop where
  azimuthDegrees :
    sentAzimuth sent position.speaker = some position.azimuthDegrees
  distanceMeters :
    sentDistance sent position.speaker = some position.distanceMeters

/-! ## Frames -/

/-- What the application keeps for the spatial tab. -/
structure App where
  lastStatus : Status
  statusPollTimerSeconds : Binary32
  positionSendTimerSeconds : Binary32
  bPositionSendPending : Bool
  pendingPositionIndex : Option SpeakerChannel
  pendingMirroredIndex : Option SpeakerChannel

/-- A frame: the time since the last one, as the main loop and as the toolkit
measure it, and the dial. -/
structure GuiFrame where
  deltaTimeSeconds : Binary32
  ioDeltaTime : Binary32
  dial : PositionDial.Input

/-- The application and the daemon, the calls made so far, and the positions
of the handles moved in the last frame. -/
structure DragSession (α : Type) where
  app : App
  daemon : AudioEngine.Daemon α
  sent : List ClientCall := []
  dragged : List SpeakerPosition := []

/-- A frame of the application, or something else that happens to the daemon,
such as another client's request. -/
inductive DragEvent (α : Type)
  | frame (frame : GuiFrame)
  | daemon (event : AudioEngine.Event α)

namespace DragSession

def statusPollIntervalSeconds : Binary32 := ⟨0x3E800000⟩ -- 0.25

def positionSendIntervalSeconds : Binary32 := ⟨0x3CF5C28F⟩ -- 0.03

/-- The frame's status poll falls due. -/
def PollDue {α : Type} (s : DragSession α) (deltaTimeSeconds : Binary32) :
    Prop :=
  s.app.statusPollTimerSeconds.sub deltaTimeSeconds ≤ ⟨0⟩

instance {α : Type} (s : DragSession α) (deltaTimeSeconds : Binary32) :
    Decidable (s.PollDue deltaTimeSeconds) :=
  inferInstanceAs (Decidable (_ ≤ _))

section

variable {α : Type} [FloatArith α] (setup : DaemonSetup α)

/-- A call whose answer becomes the last status. -/
def call (s : DragSession α) (call : ClientCall) : Option (DragSession α) := do
  let (value, daemon) ← call.exchange setup s.daemon
  match value with
  | .status lastStatus =>
      return { s with
        app := { s.app with lastStatus }
        daemon
        sent := s.sent ++ [call] }
  | _ => none

/-- `SendSpeakerPositionValues` -/
def sendSpeakerPositionValues (s : DragSession α)
    (position : SpeakerPosition) : Option (DragSession α) := do
  let s ← s.call setup (.setSpeakerAzimuth (UInt8.ofNat position.speaker)
    position.azimuthDegrees)
  s.call setup (.setSpeakerDistance (UInt8.ofNat position.speaker)
    position.distanceMeters)

/-- Both positions are read before the first answer replaces them. -/
def sendSpeakerPosition (s : DragSession α) (primaryIndex : SpeakerChannel)
    (mirrorIndex : Option SpeakerChannel) : Option (DragSession α) := do
  let primary := SpeakerPosition.ofStatus s.app.lastStatus primaryIndex
  let mirror := mirrorIndex.map (SpeakerPosition.ofStatus s.app.lastStatus)
  let s ← s.sendSpeakerPositionValues setup primary
  match mirror with
  | none => some s
  | some mirror => s.sendSpeakerPositionValues setup mirror

/-- The first lines of `Tick` on a connection. -/
def pollStatus (s : DragSession α) (deltaTimeSeconds : Binary32) :
    Option (DragSession α) :=
  if s.PollDue deltaTimeSeconds then
    { s with
      app := { s.app with
        statusPollTimerSeconds := statusPollIntervalSeconds } }.call setup
      .requestStatus
  else
    some { s with
      app := { s.app with
        statusPollTimerSeconds :=
          s.app.statusPollTimerSeconds.sub deltaTimeSeconds } }

/-- What follows a frame in which a handle is held. -/
def sendThrottled (s : DragSession α) (ioDeltaTime : Binary32)
    (changedIndex : SpeakerChannel) (mirroredIndex : Option SpeakerChannel) :
    Option (DragSession α) :=
  let positionSendTimerSeconds := s.app.positionSendTimerSeconds.sub ioDeltaTime
  let app := { s.app with
    pendingPositionIndex := some changedIndex
    pendingMirroredIndex := mirroredIndex }
  if positionSendTimerSeconds ≤ ⟨0⟩ then do
    let s ← { s with
      app := { app with
        positionSendTimerSeconds := positionSendIntervalSeconds } }
          |>.sendSpeakerPosition setup changedIndex mirroredIndex
    return { s with app := { s.app with bPositionSendPending := false } }
  else
    some { s with
      app := { app with positionSendTimerSeconds, bPositionSendPending := true } }

/-- Send the position that was held back, if there is one. -/
def flushPosition (s : DragSession α) : Option (DragSession α) :=
  match s.app.bPositionSendPending, s.app.pendingPositionIndex with
  | true, some primaryIndex => do
      let s ← s.sendSpeakerPosition setup primaryIndex s.app.pendingMirroredIndex
      return { s with app := { s.app with bPositionSendPending := false } }
  | _, _ => some s

/-- What follows a frame in which no handle is held. -/
def endDrag (s : DragSession α) : Option (DragSession α) := do
  let s ← { s with
    app := { s.app with positionSendTimerSeconds := ⟨0⟩ } }.flushPosition setup
  return { s with
    app := { s.app with
      pendingPositionIndex := none
      pendingMirroredIndex := none } }

variable [DialMath]

/-- The dial, drawn with the positions of the last status. -/
def dial (s : DragSession α) (input : PositionDial.Input) : PositionDial.Output :=
  PositionDial.draw input s.app.lastStatus.speakerAzimuthDegrees
    s.app.lastStatus.speakerDistanceMeters

/-- The dial writes the positions it moves into the last status. -/
def movedBy (s : DragSession α) (input : PositionDial.Input) : DragSession α :=
  { s with
    app := { s.app with
      lastStatus := { s.app.lastStatus with
        speakerAzimuthDegrees := (s.dial input).azimuthsDegrees
        speakerDistanceMeters := (s.dial input).distancesMeters } } }

/-- `DrawSpatialTab`, as far as the dial goes. -/
def drawSpatialTab (s : DragSession α) (frame : GuiFrame) :
    Option (DragSession α) :=
  match (s.dial frame.dial).changedIndex with
  | some changedIndex =>
      (s.movedBy frame.dial).sendThrottled setup frame.ioDeltaTime changedIndex
        (s.dial frame.dial).mirroredIndex
  | none => (s.movedBy frame.dial).endDrag setup

def step (s : DragSession α) : DragEvent α → Option (DragSession α)
  | .frame frame => do
      let s ← s.pollStatus setup frame.deltaTimeSeconds
      let s ← s.drawSpatialTab setup frame
      return { s with dragged := frame.dial.dragged }
  | .daemon event => do
      let daemon ← AudioEngine.step setup s.daemon event
      return { s with daemon }

end

/-! ## Which positions were sent last -/

theorem speakerIndex_inj :
    ∀ {a b : SpeakerChannel}, UInt8.ofNat a = UInt8.ofNat b ↔ a = b := by
  decide

theorem toNat_speakerIndex :
    ∀ speaker : SpeakerChannel, (UInt8.ofNat speaker).toNat = speaker := by
  decide

theorem speakerIndex_lt (speaker : SpeakerChannel) :
    (UInt8.ofNat speaker).toNat < speakerCount :=
  (toNat_speakerIndex speaker).trans_lt speaker.isLt

theorem sentAzimuth_append_calls (sent : List ClientCall)
    (position : SpeakerPosition) (speaker : SpeakerChannel) :
    sentAzimuth (sent ++ position.calls) speaker =
      if position.speaker = speaker then some position.azimuthDegrees
      else sentAzimuth sent speaker := by
  simp only [sentAzimuth, SpeakerPosition.calls, List.filterMap_append,
    List.filterMap_cons, List.filterMap_nil, speakerIndex_inj]
  by_cases hspeaker : position.speaker = speaker
  · simp [hspeaker]
  · simp [hspeaker]

theorem sentDistance_append_calls (sent : List ClientCall)
    (position : SpeakerPosition) (speaker : SpeakerChannel) :
    sentDistance (sent ++ position.calls) speaker =
      if position.speaker = speaker then some position.distanceMeters
      else sentDistance sent speaker := by
  simp only [sentDistance, SpeakerPosition.calls, List.filterMap_append,
    List.filterMap_cons, List.filterMap_nil, speakerIndex_inj]
  by_cases hspeaker : position.speaker = speaker
  · simp [hspeaker]
  · simp [hspeaker]

theorem lastSent_congr {sent sent' : List ClientCall} {position : SpeakerPosition}
    (hazimuth : sentAzimuth sent position.speaker =
      sentAzimuth sent' position.speaker)
    (hdistance : sentDistance sent position.speaker =
      sentDistance sent' position.speaker) :
    LastSent sent position ↔ LastSent sent' position := by
  constructor
  · intro h
    exact ⟨hazimuth ▸ h.azimuthDegrees, hdistance ▸ h.distanceMeters⟩
  · intro h
    exact ⟨hazimuth ▸ h.azimuthDegrees, hdistance ▸ h.distanceMeters⟩

theorem lastSent_append_requestStatus (sent : List ClientCall)
    (position : SpeakerPosition) :
    LastSent (sent ++ [.requestStatus]) position ↔ LastSent sent position := by
  apply lastSent_congr
  · simp [sentAzimuth]
  · simp [sentDistance]

theorem lastSent_append_calls_of_eq {sent : List ClientCall}
    {position next : SpeakerPosition} (h : next.speaker = position.speaker) :
    LastSent (sent ++ next.calls) position ↔ next = position := by
  constructor
  · rintro ⟨hazimuth, hdistance⟩
    rw [sentAzimuth_append_calls, if_pos h] at hazimuth
    rw [sentDistance_append_calls, if_pos h] at hdistance
    exact SpeakerPosition.ext h (Option.some.inj hazimuth)
      (Option.some.inj hdistance)
  · rintro rfl
    refine ⟨?_, ?_⟩
    · rw [sentAzimuth_append_calls, if_pos rfl]
    · rw [sentDistance_append_calls, if_pos rfl]

theorem lastSent_append_calls_of_ne {sent : List ClientCall}
    {position next : SpeakerPosition} (h : next.speaker ≠ position.speaker) :
    LastSent (sent ++ next.calls) position ↔ LastSent sent position := by
  apply lastSent_congr
  · rw [sentAzimuth_append_calls, if_neg h]
  · rw [sentDistance_append_calls, if_neg h]

/-- Behind the positions of some speakers, the last one sent for any of them
is its own. -/
theorem lastSent_append_iff {sent : List ClientCall}
    {at' : SpeakerChannel → SpeakerPosition}
    (hat : ∀ speaker, (at' speaker).speaker = speaker)
    {speakers : List SpeakerChannel} {position : SpeakerPosition}
    (hmem : position.speaker ∈ speakers) :
    LastSent (sent ++ speakers.flatMap fun speaker => (at' speaker).calls)
        position ↔ at' position.speaker = position := by
  induction speakers using List.reverseRecOn with
  | nil => cases hmem
  | append_singleton speakers last ih =>
      have hsplit : sent ++ (speakers ++ [last]).flatMap
          (fun speaker => (at' speaker).calls) =
          (sent ++ speakers.flatMap fun speaker => (at' speaker).calls) ++
            (at' last).calls := by
        simp [List.append_assoc]
      rw [hsplit]
      by_cases hlast : last = position.speaker
      · subst hlast
        exact lastSent_append_calls_of_eq (hat _)
      · have hother : (at' last).speaker ≠ position.speaker := by
          rwa [hat]
        have hfront : position.speaker ∈ speakers := by
          rcases List.mem_append.mp hmem with h | h
          · exact h
          · exact absurd (List.mem_singleton.mp h).symm hlast
        rw [lastSent_append_calls_of_ne hother]
        exact ih hfront

/-! ## What a frame sends -/

/-- Calls were made, whose answers changed nothing but the last status. -/
structure Made {α : Type} (s : DragSession α) (calls : List ClientCall)
    (s' : DragSession α) : Prop where
  app : ∃ lastStatus, s'.app = { s.app with lastStatus }
  sent : s'.sent = s.sent ++ calls

section

variable {α : Type} {s s' s'' : DragSession α}

theorem Made.trans {first second : List ClientCall} (h : Made s first s')
    (h' : Made s' second s'') : Made s (first ++ second) s'' := by
  obtain ⟨lastStatus, happ⟩ := h.app
  obtain ⟨lastStatus', happ'⟩ := h'.app
  refine ⟨⟨lastStatus', ?_⟩, ?_⟩
  · rw [happ', happ]
  · rw [h'.sent, h.sent, List.append_assoc]

variable [FloatArith α] {setup : DaemonSetup α}

theorem made_of_call {call : ClientCall}
    (h : s.call setup call = some s') : Made s [call] s' := by
  obtain ⟨⟨value, daemon⟩, -, h⟩ := Option.bind_eq_some_iff.mp h
  cases value with
  | status lastStatus =>
      obtain rfl := Option.some.inj h
      exact ⟨⟨lastStatus, rfl⟩, rfl⟩
  | _ => cases h

theorem made_of_sendSpeakerPositionValues {position : SpeakerPosition}
    (h : s.sendSpeakerPositionValues setup position = some s') :
    Made s position.calls s' := by
  obtain ⟨between, hazimuth, hdistance⟩ := Option.bind_eq_some_iff.mp h
  exact (made_of_call hazimuth).trans (made_of_call hdistance)

theorem made_of_sendSpeakerPosition {primaryIndex : SpeakerChannel}
    {mirrorIndex : Option SpeakerChannel}
    (h : s.sendSpeakerPosition setup primaryIndex mirrorIndex = some s') :
    Made s ((primaryIndex :: mirrorIndex.toList).flatMap fun speaker =>
      (SpeakerPosition.ofStatus s.app.lastStatus speaker).calls) s' := by
  obtain ⟨between, hprimary, hmirror⟩ := Option.bind_eq_some_iff.mp h
  have hfirst := made_of_sendSpeakerPositionValues hprimary
  cases mirrorIndex with
  | none =>
      obtain rfl := Option.some.inj hmirror
      rwa [Option.toList_none, List.flatMap_cons, List.flatMap_nil,
        List.append_nil]
  | some mirror =>
      rw [Option.toList_some, List.flatMap_cons, List.flatMap_cons,
        List.flatMap_nil, List.append_nil]
      exact hfirst.trans (made_of_sendSpeakerPositionValues hmirror)

/-! ## Polls -/

/-- A call that is answered was handled, and its answer taken. -/
theorem handled_of_call {call : ClientCall} {frame : Frame} {inCommand : Command}
    (hframe : nextFrame call.request = some (frame, []))
    (hcommand : frame.command = some inCommand)
    (h : s.call setup call = some s') :
    ∃ response, AudioEngine.handleControlCommand setup s.daemon.engine inCommand
        true = some (response, s'.daemon.engine) ∧
      call.returns response = some (.status s'.app.lastStatus) := by
  obtain ⟨⟨value, daemon⟩, hexchange, hvalue⟩ := Option.bind_eq_some_iff.mp h
  rw [ClientCall.exchange, hframe, Option.bind_eq_bind, Option.bind_some]
    at hexchange
  obtain ⟨daemon', hstep, hexchange⟩ := Option.bind_eq_some_iff.mp hexchange
  obtain ⟨answer, hanswer, hexchange⟩ := Option.bind_eq_some_iff.mp hexchange
  obtain ⟨returned, hreturns, hexchange⟩ := Option.bind_eq_some_iff.mp hexchange
  obtain ⟨rfl, rfl⟩ := Prod.mk.inj (Option.some.inj hexchange)
  simp only [AudioEngine.step, hcommand] at hstep
  obtain ⟨⟨response, engine⟩, hhandle, hstep⟩ := Option.bind_eq_some_iff.mp hstep
  obtain rfl := Option.some.inj hstep
  rw [List.drop_left, List.head?_cons] at hanswer
  obtain rfl := Option.some.inj hanswer
  cases returned with
  | status lastStatus =>
      obtain rfl := Option.some.inj hvalue
      exact ⟨response, hhandle, hreturns⟩
  | _ => cases hvalue

/-- The status that is polled has the positions of the daemon. -/
theorem ofStatus_of_requestStatus (h : s.call setup .requestStatus = some s')
    (speaker : SpeakerChannel) :
    SpeakerPosition.ofStatus s'.app.lastStatus speaker =
      .ofLayout s.daemon.engine.sharedLayout speaker := by
  obtain ⟨frame, hframe, inCommand, hcommand, hop⟩ :
      ∃ frame : Frame, nextFrame ClientCall.requestStatus.request =
          some (frame, []) ∧
        ∃ inCommand, frame.command = some inCommand ∧
          inCommand.commandOpcode = .getStatus :=
    ⟨_, rfl, _, rfl, rfl⟩
  obtain ⟨response, hhandle, hreturns⟩ := handled_of_call hframe hcommand h
  obtain ⟨rfl, hlayout⟩ := AudioEngine.answers_getStatus hop hhandle
  rw [ClientCall.eq_of_returns hreturns, ← hlayout]
  rfl

/-- The daemon clamps the distance that it is sent. -/
theorem distance_of_sendSpeakerPositionValues {position : SpeakerPosition}
    (h : s.sendSpeakerPositionValues setup position = some s') :
    s'.daemon.engine.sharedLayout.speakerDistanceMeters position.speaker =
      clampDistance position.distanceMeters := by
  obtain ⟨between, -, hdistance⟩ := Option.bind_eq_some_iff.mp h
  have hdelivers := delivers_setSpeakerDistance
    (speakerIndex_lt position.speaker) position.distanceMeters
  obtain ⟨response, hhandle, -⟩ := handled_of_call rfl
    (congrArg (fun decoded => decoded.toOption.join) hdelivers.decoded) hdistance
  refine AudioEngine.distance_of_setSpeakerDistance rfl ?_ hhandle
  refine (dif_pos (speakerIndex_lt position.speaker)).trans ?_
  exact congrArg some (Fin.ext (toNat_speakerIndex position.speaker))

/-- What the poll does, if it falls due, and what it leaves. -/
structure Polled (s : DragSession α) (deltaTimeSeconds : Binary32)
    (s' : DragSession α) : Prop where
  bPositionSendPending :
    s'.app.bPositionSendPending = s.app.bPositionSendPending
  pendingPositionIndex :
    s'.app.pendingPositionIndex = s.app.pendingPositionIndex
  pendingMirroredIndex :
    s'.app.pendingMirroredIndex = s.app.pendingMirroredIndex
  lastSent : ∀ position, LastSent s'.sent position ↔ LastSent s.sent position
  due : PollDue s deltaTimeSeconds → ∀ speaker,
    SpeakerPosition.ofStatus s'.app.lastStatus speaker =
      .ofLayout s.daemon.engine.sharedLayout speaker
  undue : ¬ PollDue s deltaTimeSeconds → s'.app.lastStatus = s.app.lastStatus

theorem polled_of_pollStatus {deltaTimeSeconds : Binary32}
    (h : s.pollStatus setup deltaTimeSeconds = some s') :
    Polled s deltaTimeSeconds s' := by
  rw [pollStatus] at h
  by_cases hdue : PollDue s deltaTimeSeconds
  · rw [if_pos hdue] at h
    have hmade := made_of_call h
    obtain ⟨lastStatus, happ⟩ := hmade.app
    refine ⟨?_, ?_, ?_, ?_, ?_, fun hundue => absurd hdue hundue⟩
    · rw [happ]
    · rw [happ]
    · rw [happ]
    · intro position
      rw [hmade.sent]
      exact lastSent_append_requestStatus s.sent position
    · exact fun _ speaker => ofStatus_of_requestStatus h speaker
  · rw [if_neg hdue] at h
    obtain rfl := Option.some.inj h
    exact ⟨rfl, rfl, rfl, fun _ => Iff.rfl, fun hdue' => absurd hdue' hdue,
      fun _ => rfl⟩

/-! ## The dial -/

section

variable [DialMath] {input : PositionDial.Input}

omit [FloatArith α] in
theorem dial_of_inactive (s : DragSession α) (h : input.active = none) :
    (s.dial input).changedIndex = none ∧ s.movedBy input = s ∧
      input.dragged = [] := by
  rw [movedBy, dial, PositionDial.draw, PositionDial.Input.dragged, h]
  exact ⟨rfl, rfl, rfl⟩

omit [FloatArith α] in
/-- The handles that are moved are where the cursor has them. -/
theorem dial_of_active (s : DragSession α) {i : SpeakerChannel}
    (h : input.active = some i) :
    (s.dial input).changedIndex = some i ∧
      input.dragged = (i :: (s.dial input).mirroredIndex.toList).map
        (SpeakerPosition.ofStatus (s.movedBy input).app.lastStatus) := by
  rw [movedBy, dial, PositionDial.draw, PositionDial.Input.dragged, h]
  cases hmirror : if input.bMirrorEnabled then
      PositionDial.mirrorPartnerIndex i else none with
  | none => simp [hmirror, SpeakerPosition.ofStatus]
  | some mirrorIndex =>
      have hne : i ≠ mirrorIndex := by
        rintro rfl
        split at hmirror
        · exact PositionDial.mirrorPartnerIndex_ne i hmirror
        · cases hmirror
      simp [hmirror, SpeakerPosition.ofStatus, Function.update_of_ne hne]

end

end

/-! ## Runs that come through -/

/-- A daemon whose statuses clients accept. -/
structure Answers {α : Type} (daemon : AudioEngine.Daemon α) : Prop where
  sound : daemon.engine.Sound
  mode : daemon.engine.mode.IsValid
  name : daemon.engine.output.targetNodeName.length ≤
    ControlClient.maxDeviceNameLength

section

variable {α : Type} [FloatArith α] {setup : DaemonSetup α}
  {s : DragSession α}

/-- A call that is answered with a status, and leaves mode and device. -/
theorem Answers.call (h : Answers s.daemon) (setup : DaemonSetup α)
    (call : ClientCall) {frame : Frame} {inCommand : Command}
    (hframe : nextFrame call.request = some (frame, []))
    (hcommand : frame.command = some inCommand)
    (hop : inCommand.commandOpcode ∈
      [Opcode.getStatus, .setSpeakerAzimuth, .setSpeakerDistance])
    (hreturns : call.returns = ClientCall.requestStatus.returns) :
    ∃ s', s.call setup call = some s' ∧ Answers s'.daemon := by
  obtain ⟨daemon', hstep, hstepped⟩ := h.sound.step setup (.request frame true)
  have hselects : inCommand.commandOpcode ≠ .setSpatialMode ∧
      inCommand.commandOpcode ≠ .setOutputDevice ∧
      AudioEngine.answer setup daemon'.engine inCommand =
        encodeStatusResponse daemon'.engine.status := by
    simp only [List.mem_cons, List.not_mem_nil, or_false] at hop
    rcases hop with hop | hop | hop <;>
      exact ⟨by simp [hop], by simp [hop], by simp [AudioEngine.answer, hop]⟩
  obtain ⟨hmode, hdevice, hanswer⟩ := hselects
  have hanswers : Answers daemon' := by
    refine ⟨hstepped.sound, ?_, ?_⟩
    · rw [hstepped.mode]
      simpa [AudioEngine.Event.selectedMode, AudioEngine.Event.command, hcommand,
        hmode] using h.mode
    · rw [hstepped.targetNodeName]
      simpa [AudioEngine.Event.selectedDevice, AudioEngine.Event.command,
        hcommand, hdevice] using h.name
  have hresponses : (daemon'.responses.drop s.daemon.responses.length).head? =
      some (encodeStatusResponse daemon'.engine.status) := by
    rw [hstepped.responses, List.drop_left, AudioEngine.Event.command, hcommand,
      Option.map_some, Option.toList_some, List.head?_cons, hanswer]
  have hvalue : call.returns (encodeStatusResponse daemon'.engine.status) =
      some (.status daemon'.engine.status) := by
    rw [hreturns]
    exact ClientCall.returns_requestStatus hanswers.mode hanswers.name
  refine ⟨{ s with
    app := { s.app with lastStatus := daemon'.engine.status }
    daemon := daemon'
    sent := s.sent ++ [call] }, ?_, hanswers⟩
  rw [DragSession.call, ClientCall.exchange]
  simp only [hframe, hstep, hresponses, hvalue, Option.bind_eq_bind,
    Option.bind_some]
  rfl

theorem Answers.sendSpeakerPositionValues (h : Answers s.daemon)
    (setup : DaemonSetup α) (position : SpeakerPosition) :
    ∃ s', s.sendSpeakerPositionValues setup position = some s' ∧
      Answers s'.daemon := by
  have hindex := speakerIndex_lt position.speaker
  have hazimuth := delivers_setSpeakerAzimuth hindex position.azimuthDegrees
  have hdistance := delivers_setSpeakerDistance hindex position.distanceMeters
  obtain ⟨between, hcall, hbetween⟩ := h.call setup
    (.setSpeakerAzimuth _ position.azimuthDegrees) rfl
    (congrArg (fun r => r.toOption.join) hazimuth.decoded)
    (by simp [Request.command]) rfl
  obtain ⟨after, hcall', hafter⟩ := hbetween.call setup
    (.setSpeakerDistance _ position.distanceMeters) rfl
    (congrArg (fun r => r.toOption.join) hdistance.decoded)
    (by simp [Request.command]) rfl
  exact ⟨after, Option.bind_eq_some_iff.mpr ⟨between, hcall, hcall'⟩, hafter⟩

theorem Answers.sendSpeakerPosition (h : Answers s.daemon)
    (setup : DaemonSetup α) (primaryIndex : SpeakerChannel)
    (mirrorIndex : Option SpeakerChannel) :
    ∃ s', s.sendSpeakerPosition setup primaryIndex mirrorIndex = some s' ∧
      Answers s'.daemon := by
  obtain ⟨between, hprimary, hbetween⟩ := h.sendSpeakerPositionValues setup
    (.ofStatus s.app.lastStatus primaryIndex)
  cases mirrorIndex with
  | none =>
      exact ⟨between, Option.bind_eq_some_iff.mpr ⟨between, hprimary, rfl⟩,
        hbetween⟩
  | some mirror =>
      obtain ⟨after, hmirror, hafter⟩ := hbetween.sendSpeakerPositionValues setup
        (.ofStatus s.app.lastStatus mirror)
      exact ⟨after, Option.bind_eq_some_iff.mpr ⟨between, hprimary, hmirror⟩,
        hafter⟩

theorem Answers.pollStatus (h : Answers s.daemon) (setup : DaemonSetup α)
    (deltaTimeSeconds : Binary32) :
    ∃ s', s.pollStatus setup deltaTimeSeconds = some s' ∧ Answers s'.daemon := by
  rw [DragSession.pollStatus]
  split
  · let asking : DragSession α := { s with
      app := { s.app with
        statusPollTimerSeconds := statusPollIntervalSeconds } }
    have hasking : Answers asking.daemon := h
    exact hasking.call setup .requestStatus rfl rfl (by decide) rfl
  · exact ⟨_, rfl, h⟩

theorem Answers.sendThrottled (h : Answers s.daemon) (setup : DaemonSetup α)
    (ioDeltaTime : Binary32) (changedIndex : SpeakerChannel)
    (mirroredIndex : Option SpeakerChannel) :
    ∃ s', s.sendThrottled setup ioDeltaTime changedIndex mirroredIndex =
      some s' ∧ Answers s'.daemon := by
  rw [DragSession.sendThrottled]
  split
  · let sending : DragSession α := { s with
      app := { s.app with
        pendingPositionIndex := some changedIndex
        pendingMirroredIndex := mirroredIndex
        positionSendTimerSeconds := positionSendIntervalSeconds } }
    have hsending : Answers sending.daemon := h
    obtain ⟨after, hsend, hafter⟩ :=
      hsending.sendSpeakerPosition setup changedIndex mirroredIndex
    exact ⟨_, Option.bind_eq_some_iff.mpr ⟨after, hsend, rfl⟩, hafter⟩
  · exact ⟨_, rfl, h⟩

theorem Answers.flushPosition (h : Answers s.daemon) (setup : DaemonSetup α) :
    ∃ s', s.flushPosition setup = some s' ∧ Answers s'.daemon := by
  rw [DragSession.flushPosition]
  split
  · obtain ⟨after, hsend, hafter⟩ := h.sendSpeakerPosition setup _ _
    exact ⟨_, Option.bind_eq_some_iff.mpr ⟨after, hsend, rfl⟩, hafter⟩
  · exact ⟨s, rfl, h⟩

theorem Answers.endDrag (h : Answers s.daemon) (setup : DaemonSetup α) :
    ∃ s', s.endDrag setup = some s' ∧ Answers s'.daemon := by
  let ended : DragSession α := { s with
    app := { s.app with positionSendTimerSeconds := ⟨0⟩ } }
  have hended : Answers ended.daemon := h
  obtain ⟨after, hflush, hafter⟩ := hended.flushPosition setup
  exact ⟨_, Option.bind_eq_some_iff.mpr ⟨after, hflush, rfl⟩, hafter⟩

theorem Answers.drawSpatialTab [DialMath] (h : Answers s.daemon)
    (setup : DaemonSetup α) (frame : GuiFrame) :
    ∃ s', s.drawSpatialTab setup frame = some s' ∧ Answers s'.daemon := by
  have hmoved : Answers (s.movedBy frame.dial).daemon := h
  rw [DragSession.drawSpatialTab]
  split
  · exact hmoved.sendThrottled setup _ _ _
  · exact hmoved.endDrag setup

/-- Every frame is answered. -/
theorem Answers.step [DialMath] (h : Answers s.daemon) (setup : DaemonSetup α)
    (frame : GuiFrame) :
    ∃ s', s.step setup (.frame frame) = some s' ∧ Answers s'.daemon := by
  obtain ⟨polled, hpoll, hpolled⟩ := h.pollStatus setup frame.deltaTimeSeconds
  obtain ⟨drawn, hdraw, hdrawn⟩ := hpolled.drawSpatialTab setup frame
  exact ⟨{ drawn with dragged := frame.dial.dragged },
    Option.bind_eq_some_iff.mpr
      ⟨polled, hpoll, Option.bind_eq_some_iff.mpr ⟨drawn, hdraw, rfl⟩⟩, hdrawn⟩

end

end DragSession

end RamkolFX
