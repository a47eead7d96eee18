import RamkolFX.Daemon.LoadedEnumerators
import RamkolFX.Gui.EqTab
import RamkolFX.Gui.Linearization
import RamkolFX.Protocol.RequestGrammar

/-!
# No edit is lost

The application sends whole bands and all bass settings, so an edit made on a
copy that is out of date would undo others.  If no other client touches them and
no request from before a reconnect is handled behind it, the copy of a connected
application is the daemon's, and the daemon's settings are those of the start
with the handled edits, in order.  The settings file is one that names known
enumerators: a band of another type is refused when it comes back in an edit.
-/

namespace RamkolFX

open Support SettingsStore

namespace EqSettings

def ofEngine {α : Type} (engine : AudioEngine α) : EqSettings :=
  ⟨engine.hwEqBandState, engine.bassEnhancerSettingsState⟩

/-- The filter types are named ones. -/
def Named (eq : EqSettings) : Prop :=
  ∀ i, (eq.hwEqBands i).filterType.IsValid

/-- What a command makes of the settings. -/
def behind (eq : EqSettings) (inCommand : Command) : EqSettings :=
  match inCommand.commandOpcode with
  | .setHwEqBand =>
      match AudioEngine.band inCommand with
      | some i =>
          { eq with hwEqBands := Function.update eq.hwEqBands i inCommand.band }
      | none => eq
  | .setBassEnhancer => { eq with bassEnhancer := inCommand.bassEnhancer }
  | _ => eq

theorem behind_setHwEqBand (eq : EqSettings) {index : UInt8} {band : EqBand}
    {i : Fin maxEqBands}
    (h : AudioEngine.band (Request.setHwEqBand index band).command = some i) :
    eq.behind (Request.setHwEqBand index band).command =
      { eq with hwEqBands := Function.update eq.hwEqBands i band } := by
  show (match AudioEngine.band (Request.setHwEqBand index band).command with
    | some i => { eq with hwEqBands := Function.update eq.hwEqBands i band }
    | none => eq) = _
  rw [h]

theorem behind_setBassEnhancer (eq : EqSettings) (settings : BassEnhancerSettings) :
    eq.behind (Request.setBassEnhancer settings).command =
      { eq with bassEnhancer := settings } :=
  rfl

/-- The command sets neither. -/
def Spared (inCommand : Command) : Prop :=
  inCommand.commandOpcode ≠ .setHwEqBand ∧
    inCommand.commandOpcode ≠ .setBassEnhancer

theorem behind_of_spared {inCommand : Command} (h : Spared inCommand)
    (eq : EqSettings) : eq.behind inCommand = eq := by
  rw [behind]
  split
  · rename_i hop
    exact absurd hop h.1
  · rename_i hop
    exact absurd hop h.2
  · rfl

end EqSettings

open EqSettings

/-! ## Edits -/

namespace EqEdit

theorem named_apply {eq : EqSettings} (h : eq.Named) (edit : EqEdit) :
    (edit.apply eq).Named := by
  intro j
  cases edit with
  | gainDb i value | frequencyHz i value | q i value =>
      by_cases hj : j = i
      · subst hj
        simpa [apply] using h j
      · simpa [apply, Function.update_of_ne hj] using h j
  | filterType i value =>
      by_cases hj : j = i
      · subst hj
        simpa [apply] using value.property
      · simpa [apply, Function.update_of_ne hj] using h j
  | bassEnabled | bassAmount | bassCutoff | bassDrive => exact h j

theorem toNat_bandIndex : ∀ i : Fin maxEqBands, (UInt8.ofNat i).toNat = i := by
  decide

/-- Nothing but the band of the edit is changed. -/
theorem hwEqBands_apply (eq : EqSettings) {edit : EqEdit} {i : Fin maxEqBands}
    (h : edit.band = some i) :
    edit.apply eq = { eq with
      hwEqBands := Function.update eq.hwEqBands i ((edit.apply eq).hwEqBands i) } := by
  cases edit with
  | gainDb | filterType | frequencyHz | q =>
      obtain rfl := Option.some.inj h
      simp [apply]
  | bassEnabled | bassAmount | bassCutoff | bassDrive => cases h

theorem bassEnhancer_apply (eq : EqSettings) {edit : EqEdit}
    (h : edit.band = none) :
    edit.apply eq = { eq with bassEnhancer := (edit.apply eq).bassEnhancer } := by
  cases edit with
  | gainDb | filterType | frequencyHz | q => cases h
  | bassEnabled | bassAmount | bassCutoff | bassDrive => rfl

end EqEdit

/-! ## Requests -/

/-- The value is the curve or the bass settings. -/
def ClientValue.bEq : ClientValue → Bool
  | hwEqState _ | bassEnhancerState _ => true
  | _ => false

theorem ClientCall.command_of_delivers (call : ClientCall) {payload : List UInt8}
    {inCommand : Command} (h : Delivers call.request payload inCommand) :
    call.command = some inCommand := by
  obtain ⟨frame, hframe⟩ := call.exists_frame_request
  have hnext := nextFrame_request hframe []
  have hheader := h.header
  have hrest := h.rest
  rw [hframe] at hheader hrest
  have hpayload : frame.payload = payload := hrest
  have hopcode : frame.messageOpcode = inCommand.commandOpcode.toByte :=
    congrArg MessageHeader.messageOpcode (Option.some.inj hheader)
  rw [List.append_nil] at hnext
  rw [ClientCall.command, hnext]
  show frame.command = some inCommand
  rw [Frame.command, hpayload, hopcode, h.decoded]
  rfl

theorem ClientCall.command_requestHwEqState :
    requestHwEqState.command = some Request.getHwEqState.command :=
  rfl

theorem ClientCall.command_requestBassEnhancerState :
    requestBassEnhancerState.command = some Request.getBassEnhancerState.command :=
  rfl

theorem ClientCall.command_setHwEqBand {index : UInt8} {band : EqBand}
    (hindex : index.toNat < maxEqBands) (htype : band.filterType.IsValid) :
    (setHwEqBand index band).command =
      some (Request.setHwEqBand index band).command :=
  command_of_delivers (setHwEqBand index band)
    (delivers_setHwEqBand hindex htype)

theorem ClientCall.command_setBassEnhancer (settings : BassEnhancerSettings) :
    (setBassEnhancer settings).command =
      some (Request.setBassEnhancer settings).command :=
  command_of_delivers (setBassEnhancer settings)
    (delivers_setBassEnhancer settings)

/-- The first byte of a request is the opcode of its command. -/
theorem ClientCall.opcode_of_command {call : ClientCall} {inCommand : Command}
    (h : call.command = some inCommand) :
    call.request.head? = some inCommand.commandOpcode.toByte := by
  obtain ⟨frame, hframe⟩ := call.exists_frame_request
  have hnext := nextFrame_request hframe []
  rw [List.append_nil] at hnext
  rw [ClientCall.command, hnext] at h
  have hdecode := frame.decodeCommand_eq
  rw [show frame.command = some inCommand from h,
    Request.decodeCommand_eq_some_iff] at hdecode
  obtain ⟨r, rfl, hspells⟩ := hdecode
  rw [hframe, hspells.opcode]
  rfl

theorem ClientCall.spared_of_command {call : ClientCall} {inCommand : Command}
    (hcall : call.bEq = false) (h : call.command = some inCommand) :
    Spared inCommand := by
  have hop := call.opcode_of_command h
  cases call with
  | setHwEqBand | setBassEnhancer | requestHwEqState | requestBassEnhancerState =>
      cases hcall
  | _ =>
      constructor
      · intro hset
        rw [hset] at hop
        exact absurd (Option.some.inj hop) (by decide)
      · intro hset
        rw [hset] at hop
        exact absurd (Option.some.inj hop) (by decide)

/-- A value that is received was decoded. -/
theorem ClientCall.decodeValue_of_receives {call : ClientCall}
    {response : List UInt8} {value : ClientValue}
    (h : (call.receives response).1 = some value) :
    ∃ payload, call.decodeValue payload = .ok (some value) := by
  rw [receives] at h
  split at h
  · cases h
  · rename_i raw rest hreceive
    split at h
    · cases h
    · cases hdecode : call.decodeValue raw.payload with
      | error fault =>
          rw [hdecode] at h
          cases h
      | ok decoded =>
          rw [hdecode] at h
          cases decoded with
          | none => cases h
          | some decoded =>
              obtain rfl := Option.some.inj h
              exact ⟨raw.payload, hdecode⟩

/-- The call does not ask for settings. -/
def ClientCall.NoFetch (call : ClientCall) : Prop :=
  call.expects ≠ .hwEqStateResponse ∧ call.expects ≠ .bassEnhancerStateResponse

theorem ClientCall.noFetch_of_bEq {call : ClientCall} (h : call.bEq = false) :
    call.NoFetch := by
  cases call with
  | setHwEqBand | setBassEnhancer | requestHwEqState | requestBassEnhancerState =>
      cases h
  | _ => exact ⟨by simp [expects], by simp [expects]⟩

theorem EqEdit.noFetch_call (eq : EqSettings) (edit : EqEdit) :
    (edit.call eq).NoFetch := by
  rw [EqEdit.call]
  cases edit.band with
  | some i => exact ⟨by simp [ClientCall.expects], by simp [ClientCall.expects]⟩
  | none => exact ⟨by simp [ClientCall.expects], by simp [ClientCall.expects]⟩

/-- Such a call does not return settings. -/
theorem ClientCall.decodeValue_ne_settings {call : ClientCall}
    (hcall : call.NoFetch) (payload : List UInt8) {value : ClientValue}
    (hvalue : value.bEq = true) :
    call.decodeValue payload ≠ .ok (some value) := by
  intro h
  cases call with
  | requestHwEqState => exact hcall.1 rfl
  | requestBassEnhancerState => exact hcall.2 rfl
  | _ =>
      obtain ⟨decoded, -, hmap⟩ := exists_of_bind_eq_ok h
      cases decoded with
      | none => cases hmap
      | some decoded =>
          obtain rfl := Option.some.inj (Except.ok.inj hmap)
          cases hvalue

/-- A response that is delivered is received, and the connection kept. -/
theorem ClientCall.receives_of_wellFramed {call : ClientCall}
    {frame payload : List UInt8} {value : ClientValue}
    (hframed : WellFramed call.expects frame payload)
    (hdecode : call.decodeValue payload = .ok (some value)) :
    call.receives frame = (some value, true) := by
  simp only [receives, ControlClient.receiveResponse_of_wellFramed hframed, hdecode]
  rw [if_neg (not_not.mpr rfl)]
  rfl

theorem ClientCall.receives_requestHwEqState (bands : Fin maxEqBands → EqBand) :
    requestHwEqState.receives (encodeHwEqStateResponse bands) =
      (some (.hwEqState bands), true) := by
  obtain ⟨payload, hframed, hdecode, -⟩ :=
    (encodeHwEqStateResponse_delivered bands).delivered
  refine receives_of_wellFramed hframed ?_
  rw [decodeValue, hdecode]
  rfl

theorem ClientCall.receives_requestBassEnhancerState
    (settings : BassEnhancerSettings) :
    requestBassEnhancerState.receives (encodeBassEnhancerStateResponse settings) =
      (some (.bassEnhancerState settings), true) := by
  obtain ⟨payload, hframed, hdecode, -⟩ :=
    (encodeBassEnhancerStateResponse_delivered settings).delivered
  refine receives_of_wellFramed hframed ?_
  rw [decodeValue, hdecode]
  rfl

/-! ## The daemon -/

namespace AudioEngine

variable {α : Type} [FloatArith α] {setup : DaemonSetup α}
  {engine engine' : AudioEngine α} {inCommand : Command}

theorem Handled.ofEngine_of_spared {libs : DspLibraries α}
    (h : Handled libs engine inCommand engine') (hspared : Spared inCommand) :
    ofEngine engine' = ofEngine engine := by
  obtain ⟨deck, applied, settings, -, happlies, rfl⟩ := h.applied
  cases happlies with
  | setHwEqBand hop => exact absurd hop hspared.1
  | setBassEnhancer hop => exact absurd hop hspared.2
  | _ => rfl

/-- A command that is handled makes of the settings what it says. -/
theorem ofEngine_of_handled {bConnects : Bool} {response : List UInt8}
    (hhandled : Handled setup.libs engine inCommand engine')
    (h : handleControlCommand setup engine inCommand bConnects =
      some (response, engine')) :
    ofEngine engine' = (ofEngine engine).behind inCommand := by
  by_cases hspared : Spared inCommand
  · rw [behind_of_spared hspared]
    exact hhandled.ofEngine_of_spared hspared
  · obtain ⟨collected, hcollect, h⟩ := Option.bind_eq_some_iff.mp h
    obtain ⟨deck, -, hcollected⟩ := Option.bind_eq_some_iff.mp hcollect
    obtain rfl := Option.some.inj hcollected
    rcases not_and_or.mp hspared with hop | hop
    · have hop := not_not.mp hop
      simp only [hop] at h
      obtain ⟨⟨applied, bSaved⟩, happly, h⟩ := Option.bind_eq_some_iff.mp h
      simp only [applyCommand, hop] at happly
      obtain ⟨i, hi, happly⟩ := Option.bind_eq_some_iff.mp happly
      obtain ⟨rfl, rfl⟩ := Prod.mk.inj (Option.some.inj happly)
      obtain ⟨-, rfl⟩ := Prod.mk.inj (Option.some.inj h)
      simp only [behind, hop, hi]
      rfl
    · have hop := not_not.mp hop
      simp only [hop] at h
      obtain ⟨⟨applied, bSaved⟩, happly, h⟩ := Option.bind_eq_some_iff.mp h
      simp only [applyCommand, hop] at happly
      obtain ⟨rfl, rfl⟩ := Prod.mk.inj (Option.some.inj happly)
      obtain ⟨-, rfl⟩ := Prod.mk.inj (Option.some.inj h)
      simp only [behind, hop]
      rfl

/-- No other client sets the curve or the bass settings. -/
def Event.KeepsEq (event : Event α) : Prop :=
  ∀ inCommand, event.command = some inCommand → Spared inCommand

theorem Takes.ofEngine {daemon daemon' : Daemon α} {event : Event α}
    (h : Takes setup daemon event daemon') (hkeeps : event.KeepsEq) :
    ofEngine daemon'.engine = ofEngine daemon.engine := by
  cases h with
  | handled frame bConnects inCommand limit hcommand hbounds engine' hhandled =>
      exact hhandled.ofEngine_of_spared (hkeeps inCommand hcommand)
  | rendered interleaved engine' hblock hrendered =>
      have hkept := (kept_of_handleVirtualSinkAudio hblock).1
      exact EqSettings.ext (congrArg PersistedSettings.hwEqBands hkept)
        (congrArg PersistedSettings.bassEnhancer hkept)
  | undecoded | hardwareOutputRequest | registry | hrtfDirectoryChanged => rfl

end AudioEngine

/-! ## Calls -/

namespace EqSession

/-- The daemon's settings. -/
def daemonEq {α : Type} (s : EqSession α) : EqSettings :=
  ofEngine s.daemon.engine

/-- The daemon's settings and the records are the same, and no connection was
made. -/
structure Keeps {α : Type} [FloatArith α] (s s' : EqSession α) : Prop where
  sound : s'.daemon.engine.Sound
  daemonEq : s'.daemonEq = s.daemonEq
  late : s'.late = s.late
  handled : s'.handled = s.handled
  bClientConnected : s'.app.bClientConnected → s.app.bClientConnected

/-- The copy of the application is the same, too. -/
structure Spares {α : Type} [FloatArith α] (s s' : EqSession α) : Prop
    extends Keeps s s' where
  eq : s'.app.eq = s.app.eq
  bConnected : s'.app.bConnected → s.app.bConnected

section

variable {α : Type} [FloatArith α] {s s' s'' : EqSession α}

theorem Keeps.trans (h : Keeps s s') (h' : Keeps s' s'') : Keeps s s'' where
  sound := h'.sound
  daemonEq := h'.daemonEq.trans h.daemonEq
  late := h'.late.trans h.late
  handled := h'.handled.trans h.handled
  bClientConnected := h.bClientConnected ∘ h'.bClientConnected

theorem Spares.trans (h : Spares s s') (h' : Spares s' s'') : Spares s s'' where
  toKeeps := h.toKeeps.trans h'.toKeeps
  eq := h'.eq.trans h.eq
  bConnected := h.bConnected ∘ h'.bConnected

theorem Spares.refl (hsound : s.daemon.engine.Sound) : Spares s s :=
  ⟨⟨hsound, rfl, rfl, rfl, id⟩, rfl, id⟩

theorem spares_disconnect (hsound : s.daemon.engine.Sound) :
    Spares s s.disconnect :=
  ⟨⟨hsound, rfl, rfl, rfl, fun h => absurd h Bool.false_ne_true⟩, rfl, id⟩

theorem spares_fail (hsound : s.daemon.engine.Sound) : Spares s s.fail :=
  ⟨⟨hsound, rfl, rfl, rfl, id⟩, rfl, fun h => absurd h Bool.false_ne_true⟩

variable (setup : DaemonSetup α) {call : ClientCall}

/-- A request that decodes is handled. -/
theorem exists_deliver (hsound : s.daemon.engine.Sound) {inCommand : Command}
    (h : call.command = some inCommand) :
    ∃ daemon : AudioEngine.Daemon α, s.deliver setup call =
        some (AudioEngine.answer setup daemon.engine inCommand, { s with daemon }) ∧
      daemon.engine.Sound ∧ ofEngine daemon.engine = s.daemonEq.behind inCommand := by
  obtain ⟨⟨frame, rest⟩, hnext, hcommand⟩ := Option.bind_eq_some_iff.mp h
  obtain ⟨limit, hbounds⟩ := Frame.inBounds_of_command hcommand
  obtain ⟨engine', hhandle, hhandled⟩ :=
    hsound.handleControlCommand setup hbounds true
  let response := AudioEngine.answer setup engine' inCommand
  refine ⟨⟨engine', s.daemon.responses ++ [response]⟩, ?_, hhandled.sound,
    AudioEngine.ofEngine_of_handled hhandled hhandle⟩
  simp only [deliver, hnext, Option.bind_eq_bind, Option.bind_some, hcommand, hhandle]
  rfl

/-- One that does not changes nothing. -/
theorem deliver_of_undecoded (h : call.command = none) :
    s.deliver setup call =
      some (encodeErrorResponse (ascii "malformed or unknown command"), s) := by
  obtain ⟨frame, hframe⟩ := call.exists_frame_request
  have hnext := nextFrame_request hframe []
  rw [List.append_nil] at hnext
  rw [ClientCall.command, hnext] at h
  have hcommand : frame.command = none := h
  simp only [deliver, hnext, Option.bind_eq_bind, Option.bind_some, hcommand]
  rfl

/-- A call about something else. -/
theorem deliver_spares (hsound : s.daemon.engine.Sound) (hcall : call.bEq = false) :
    ∃ response s', s.deliver setup call = some (response, s') ∧ Spares s s' := by
  cases hcommand : call.command with
  | none => exact ⟨_, s, deliver_of_undecoded setup hcommand, .refl hsound⟩
  | some inCommand =>
      obtain ⟨daemon, hdeliver, hsound', heq⟩ :=
        exists_deliver setup hsound hcommand
      rw [behind_of_spared (ClientCall.spared_of_command hcall hcommand)] at heq
      exact ⟨_, _, hdeliver, ⟨hsound', heq, rfl, rfl, id⟩, rfl, id⟩

/-- The value of a call that asks for no settings is not stored with them. -/
theorem store_spares (hsound : s.daemon.engine.Sound) (hcall : call.NoFetch)
    (response : List UInt8) : Spares s (s.store (call.receives response).1) := by
  cases hvalue : (call.receives response).1 with
  | none => exact .refl hsound
  | some value =>
      obtain ⟨payload, hdecode⟩ := ClientCall.decodeValue_of_receives hvalue
      cases value with
      | status | devices | hrtfCatalog => exact ⟨⟨hsound, rfl, rfl, rfl, id⟩, rfl, id⟩
      | hwEqState | bassEnhancerState =>
          exact absurd hdecode (ClientCall.decodeValue_ne_settings hcall payload rfl)

/-- A call that is handled, and answered in time or not. -/
theorem perform_of_delivered (hclient : s.app.bClientConnected)
    {response : List UInt8} (hdeliver : s.deliver setup call = some (response, s'))
    (hsound : s'.daemon.engine.Sound) (hcall : call.NoFetch) {outcome : CallOutcome}
    (houtcome : outcome = .answered ∨ outcome = .answerLost) :
    ∃ value s'', s.perform setup call outcome = some (value, s'') ∧ Spares s' s'' ∧
      Spares s'' (s''.store value) := by
  have hdisconnect := spares_disconnect hsound
  rcases houtcome with rfl | rfl
  · rw [perform, if_pos hclient]
    simp only [hdeliver, Option.bind_eq_bind, Option.bind_some]
    cases (call.receives response).2 with
    | true => exact ⟨_, s', rfl, .refl hsound, store_spares hsound hcall response⟩
    | false =>
        exact ⟨_, _, rfl, hdisconnect, store_spares hdisconnect.sound hcall response⟩
  · rw [perform, if_pos hclient]
    simp only [hdeliver, Option.bind_eq_bind, Option.bind_some]
    exact ⟨_, _, rfl, hdisconnect, .refl hdisconnect.sound⟩

omit [FloatArith α] in
theorem disconnect_of_idle (hclient : s.app.bClientConnected = false) :
    s.disconnect = s := by
  rw [disconnect, ← hclient]

/-- Without a connection a call returns at once. -/
theorem perform_of_idle (hclient : s.app.bClientConnected = false)
    (call : ClientCall) (outcome : CallOutcome) :
    s.perform setup call outcome = some (none, s) := by
  have hnot : ¬ s.app.bClientConnected = true := by simp [hclient]
  cases outcome with
  | answered | answerLost => exact if_neg hnot
  | requestLost | late => rw [perform, disconnect_of_idle hclient]

theorem perform_spares (hsound : s.daemon.engine.Sound) (call : ClientCall)
    (hcall : call.bEq = false) (outcome : CallOutcome) :
    ∃ value s', s.perform setup call outcome = some (value, s') ∧ Spares s s' ∧
      Spares s' (s'.store value) := by
  cases hclient : s.app.bClientConnected with
  | false =>
      exact ⟨none, s, perform_of_idle setup hclient call outcome, .refl hsound,
        .refl hsound⟩
  | true =>
      obtain ⟨response, s', hdeliver, hspares⟩ := deliver_spares setup hsound hcall
      have hno := ClientCall.noFetch_of_bEq hcall
      have hdisconnect := spares_disconnect hsound
      cases outcome with
      | answered =>
          obtain ⟨value, s'', hperform, hspares', hstore⟩ := perform_of_delivered setup
            hclient hdeliver hspares.sound hno (Or.inl rfl)
          exact ⟨value, s'', hperform, hspares.trans hspares', hstore⟩
      | answerLost =>
          obtain ⟨value, s'', hperform, hspares', hstore⟩ := perform_of_delivered setup
            hclient hdeliver hspares.sound hno (Or.inr rfl)
          exact ⟨value, s'', hperform, hspares.trans hspares', hstore⟩
      | requestLost | late =>
          exact ⟨none, _, rfl, hdisconnect, .refl hdisconnect.sound⟩

theorem fetch_spares (hsound : s.daemon.engine.Sound) (call : ClientCall)
    (hcall : call.bEq = false) (outcome : CallOutcome) :
    ∃ s', s.fetch setup call outcome = some s' ∧ Spares s s' := by
  obtain ⟨value, s', hperform, hspares, hstore⟩ :=
    perform_spares setup hsound call hcall outcome
  refine ⟨s'.store value, ?_, hspares.trans hstore⟩
  rw [fetch, hperform]
  rfl

theorem ask_of_performed {value : Option ClientValue} {outcome : CallOutcome}
    (h : s.perform setup call outcome = some (value, s')) :
    s.ask setup call outcome =
      some (if value.isSome then s'.store value else s'.fail) := by
  rw [ask, h]
  rfl

theorem ask_spares (hsound : s.daemon.engine.Sound) (call : ClientCall)
    (hcall : call.bEq = false) (outcome : CallOutcome) :
    ∃ s', s.ask setup call outcome = some s' ∧ Spares s s' := by
  obtain ⟨value, s', hperform, hspares, hstore⟩ :=
    perform_spares setup hsound call hcall outcome
  refine ⟨_, ask_of_performed setup hperform, ?_⟩
  split
  · exact hspares.trans hstore
  · exact hspares.trans (spares_fail hspares.sound)

/-! ## Ticks on a connection -/

theorem pollStatus_spares (hsound : s.daemon.engine.Sound) (frame : EqFrame) :
    ∃ s', s.pollStatus setup frame = some s' ∧ Spares s s' := by
  rw [pollStatus]
  split
  · let due : EqSession α := { s with
      app := { s.app with statusPollTimerSeconds := statusPollIntervalSeconds } }
    have hdue : Spares s due := ⟨⟨hsound, rfl, rfl, rfl, id⟩, rfl, id⟩
    obtain ⟨s', hask, hspares⟩ := ask_spares setup hdue.sound
      .requestStatus rfl frame.statusOutcome
    exact ⟨s', hask, hdue.trans hspares⟩
  · exact ⟨_, rfl, ⟨hsound, rfl, rfl, rfl, id⟩, rfl, id⟩

theorem pollDevices_spares (hsound : s.daemon.engine.Sound) (frame : EqFrame) :
    ∃ s', s.pollDevices setup frame = some s' ∧ Spares s s' := by
  rw [pollDevices]
  split
  · let due : EqSession α := { s with
      app := { s.app with devicePollTimerSeconds := devicePollIntervalSeconds } }
    have hdue : Spares s due := ⟨⟨hsound, rfl, rfl, rfl, id⟩, rfl, id⟩
    obtain ⟨between, hask, hspares⟩ := ask_spares setup hdue.sound
      .requestDevices rfl frame.devicesOutcome
    have hfirst := hdue.trans hspares
    have hbetween : due.ask setup .requestDevices frame.devicesOutcome =
      some between := hask
    simp only [due] at hbetween
    rw [hbetween, Option.bind_eq_bind, Option.bind_some]
    split
    · obtain ⟨s', hask', hspares'⟩ := ask_spares setup hfirst.sound
        .requestHrtfCatalog rfl frame.hrtfOutcome
      exact ⟨s', hask', hfirst.trans hspares'⟩
    · exact ⟨between, rfl, hfirst⟩
  · exact ⟨_, rfl, ⟨hsound, rfl, rfl, rfl, id⟩, rfl, id⟩

/-! ## The copy of the application -/

/-- A request for settings brings those of the daemon, or the connection ends. -/
theorem perform_settings (hsound : s.daemon.engine.Sound) {inCommand : Command}
    (hcommand : call.command = some inCommand) (hspared : Spared inCommand)
    (value : AudioEngine α → ClientValue)
    (hreceives : ∀ engine, call.receives
      (AudioEngine.answer setup engine inCommand) = (some (value engine), true))
    (outcome : CallOutcome) :
    ∃ received s', s.perform setup call outcome = some (received, s') ∧
      Spares s s' ∧ (received = none ∧ s'.app.bClientConnected = false ∨
        received = some (value s'.daemon.engine)) := by
  obtain ⟨daemon, hdeliver, hsound', heq⟩ :=
    exists_deliver setup hsound hcommand
  rw [behind_of_spared hspared] at heq
  have hspares : Spares s { s with daemon } :=
    ⟨⟨hsound', heq, rfl, rfl, id⟩, rfl, id⟩
  cases hclient : s.app.bClientConnected with
  | false =>
      exact ⟨none, s, perform_of_idle setup hclient call outcome, .refl hsound,
        Or.inl ⟨rfl, hclient⟩⟩
  | true =>
      cases outcome with
      | answered =>
          rw [perform, if_pos hclient]
          simp only [hdeliver, hreceives, Option.bind_eq_bind, Option.bind_some]
          exact ⟨_, _, rfl, hspares, Or.inr rfl⟩
      | answerLost =>
          rw [perform, if_pos hclient]
          simp only [hdeliver, Option.bind_eq_bind, Option.bind_some]
          exact ⟨none, _, rfl, hspares.trans (spares_disconnect hsound'),
            Or.inl ⟨rfl, rfl⟩⟩
      | requestLost | late =>
          exact ⟨none, _, rfl, spares_disconnect hsound, Or.inl ⟨rfl, rfl⟩⟩

/-- The application has a copy of the bands, or no connection. -/
theorem fetch_hwEqState (hsound : s.daemon.engine.Sound) (outcome : CallOutcome) :
    ∃ s', s.fetch setup .requestHwEqState outcome = some s' ∧ Keeps s s' ∧
      (s'.app.bClientConnected → s'.app.eq.hwEqBands = s'.daemonEq.hwEqBands) := by
  obtain ⟨received, s', hperform, hspares, hreceived⟩ :=
    perform_settings setup hsound ClientCall.command_requestHwEqState
      ⟨by decide, by decide⟩ (fun engine => .hwEqState engine.hwEqBandState)
      (fun engine => ClientCall.receives_requestHwEqState engine.hwEqBandState)
      outcome
  have hfetch : s.fetch setup .requestHwEqState outcome =
      some (s'.store received) := by
    rw [fetch, hperform]
    rfl
  rcases hreceived with ⟨rfl, hclient⟩ | rfl
  · refine ⟨s', hfetch, hspares.toKeeps, fun hconnected => ?_⟩
    rw [hclient] at hconnected
    cases hconnected
  · exact ⟨_, hfetch, hspares.toKeeps.trans ⟨hspares.sound, rfl, rfl, rfl, id⟩,
      fun _ => rfl⟩

/-- So has it of the bass settings. -/
theorem fetch_bassEnhancerState (hsound : s.daemon.engine.Sound)
    (outcome : CallOutcome) :
    ∃ s', s.fetch setup .requestBassEnhancerState outcome = some s' ∧ Keeps s s' ∧
      s'.app.eq.hwEqBands = s.app.eq.hwEqBands ∧
      (s'.app.bClientConnected →
        s'.app.eq.bassEnhancer = s'.daemonEq.bassEnhancer) := by
  obtain ⟨received, s', hperform, hspares, hreceived⟩ :=
    perform_settings setup hsound ClientCall.command_requestBassEnhancerState
      ⟨by decide, by decide⟩
      (fun engine => .bassEnhancerState engine.bassEnhancerSettingsState)
      (fun engine => ClientCall.receives_requestBassEnhancerState
        engine.bassEnhancerSettingsState)
      outcome
  have hfetch : s.fetch setup .requestBassEnhancerState outcome =
      some (s'.store received) := by
    rw [fetch, hperform]
    rfl
  have hbands := congrArg EqSettings.hwEqBands hspares.eq
  rcases hreceived with ⟨rfl, hclient⟩ | rfl
  · refine ⟨s', hfetch, hspares.toKeeps, hbands, fun hconnected => ?_⟩
    rw [hclient] at hconnected
    cases hconnected
  · exact ⟨_, hfetch, hspares.toKeeps.trans ⟨hspares.sound, rfl, rfl, rfl, id⟩,
      hbands, fun _ => rfl⟩

omit [FloatArith α] in
/-- The application connects in this frame. -/
def Connects (s : EqSession α) (frame : EqFrame) : Prop :=
  s.app.bConnected = false ∧
    s.app.reconnectTimerSeconds.sub frame.deltaTimeSeconds ≤ ⟨0⟩ ∧ frame.bListening

/-- Without a new connection a tick leaves the settings alone. -/
theorem reconnect_spares (hsound : s.daemon.engine.Sound)
    (hconnected : s.app.bConnected = false) {frame : EqFrame}
    (h : ¬ s.Connects frame) :
    ∃ s', s.reconnect setup frame = some s' ∧ Spares s s' := by
  simp only [reconnect]
  split
  · rename_i hdue
    have hlistening : ¬ frame.bListening = true := fun hlistening =>
      h ⟨hconnected, hdue, hlistening⟩
    rw [if_neg hlistening]
    refine ⟨_, rfl, ⟨hsound, rfl, rfl, rfl, ?_⟩, rfl, id⟩
    exact fun hclient => absurd hclient hlistening
  · exact ⟨_, rfl, ⟨hsound, rfl, rfl, rfl, id⟩, rfl, id⟩

/-- Behind a new connection the copy of the application is the daemon's. -/
theorem reconnect_copies (hsound : s.daemon.engine.Sound) {frame : EqFrame}
    (h : s.Connects frame) :
    ∃ s', s.reconnect setup frame = some s' ∧ s'.daemon.engine.Sound ∧
      s'.daemonEq = s.daemonEq ∧ s'.late = s.late ∧ s'.handled = s.handled ∧
      (s'.app.bClientConnected → s'.app.eq = s'.daemonEq) := by
  obtain ⟨-, hdue, hlistening⟩ := h
  let opened : EqSession α := { s with
    app := { s.app with
      reconnectTimerSeconds := reconnectIntervalSeconds
      bClientConnected := frame.bListening } }
  obtain ⟨value, s₁, hstatus, hfirst, hstore⟩ :=
    perform_spares (s := opened) setup hsound .requestStatus rfl
      frame.statusOutcome
  simp only [opened] at hstatus
  simp only [reconnect, if_pos hdue, if_pos hlistening, hstatus,
    Option.bind_eq_bind, Option.bind_some]
  split
  · have hasked := hfirst.trans hstore
    obtain ⟨s₂, hdevices, hsecond⟩ := fetch_spares setup hasked.sound
      .requestDevices rfl frame.devicesOutcome
    obtain ⟨s₃, hhrtf, hthird⟩ := fetch_spares setup hsecond.sound
      .requestHrtfCatalog rfl frame.hrtfOutcome
    obtain ⟨s₄, hhwEq, hfourth, hbands⟩ :=
      fetch_hwEqState setup hthird.sound frame.hwEqOutcome
    obtain ⟨s₅, hbass, hfifth, hsame, hsettings⟩ :=
      fetch_bassEnhancerState setup hfourth.sound frame.bassOutcome
    have hall := ((hasked.trans (hsecond.trans hthird)).toKeeps.trans hfourth).trans
      hfifth
    rw [hdevices, Option.bind_some, hhrtf, Option.bind_some, hhwEq, Option.bind_some,
      hbass, Option.bind_some]
    refine ⟨_, rfl, hall.sound, hall.daemonEq, hall.late, hall.handled, ?_⟩
    intro hclient
    have hcopied := hbands (hfifth.bClientConnected hclient)
    refine EqSettings.ext ?_ (hsettings hclient)
    rw [← hfifth.daemonEq] at hcopied
    exact hsame.trans hcopied
  · exact ⟨_, rfl, hfirst.sound, hfirst.daemonEq, hfirst.late, hfirst.handled,
      fun hclient => absurd hclient Bool.false_ne_true⟩

/-! ## Edits take place -/

/-- The request of an edit made on a copy of the settings makes the same edit of
them. -/
theorem exists_command_edit {eq : EqSettings} (hnamed : eq.Named) (edit : EqEdit) :
    ∃ inCommand, (edit.call (edit.apply eq)).command = some inCommand ∧
      eq.behind inCommand = edit.apply eq := by
  cases hband : edit.band with
  | some i =>
      have hindex : (UInt8.ofNat i).toNat < maxEqBands :=
        (EqEdit.toNat_bandIndex i).trans_lt i.isLt
      have hcommand := ClientCall.command_setHwEqBand hindex
        (edit.named_apply hnamed i)
      have hcall : edit.call (edit.apply eq) =
          .setHwEqBand (UInt8.ofNat i) ((edit.apply eq).hwEqBands i) := by
        rw [EqEdit.call, hband]
      have hsent : AudioEngine.band (Request.setHwEqBand (UInt8.ofNat i)
          ((edit.apply eq).hwEqBands i)).command = some i :=
        (dif_pos hindex).trans (congrArg some (Fin.ext (EqEdit.toNat_bandIndex i)))
      exact ⟨_, hcall ▸ hcommand,
        (eq.behind_setHwEqBand hsent).trans (edit.hwEqBands_apply eq hband).symm⟩
  | none =>
      have hcommand :=
        ClientCall.command_setBassEnhancer (edit.apply eq).bassEnhancer
      have hcall : edit.call (edit.apply eq) =
          .setBassEnhancer (edit.apply eq).bassEnhancer := by
        rw [EqEdit.call, hband]
      exact ⟨_, hcall ▸ hcommand,
        (eq.behind_setBassEnhancer _).trans (edit.bassEnhancer_apply eq hband).symm⟩

/-- The copy of a connected application is the daemon's, the daemon's settings are
those of the start with the handled edits, and an edit whose request is late was
the last one made. -/
structure Coherent (start : EqSettings) (s : EqSession α) : Prop where
  sound : s.daemon.engine.Sound
  named : s.daemonEq.Named
  copy : s.app.bClientConnected → s.app.eq = s.daemonEq
  handled : s.daemonEq = s.handled.foldl EqEdit.apply start
  late : s.late = [] ∨
    s.app.bClientConnected = false ∧ s.app.bConnected = false ∧
      ∃ edit : EqEdit, s.late = [(edit, edit.call (edit.apply s.daemonEq))]

variable {start : EqSettings}

theorem Coherent.spares (h : Coherent start s) (hspares : Spares s s') :
    Coherent start s' where
  sound := hspares.sound
  named := by
    rw [hspares.daemonEq]
    exact h.named
  copy hclient := by
    rw [hspares.eq, hspares.daemonEq]
    exact h.copy (hspares.bClientConnected hclient)
  handled := by
    rw [hspares.daemonEq, hspares.handled]
    exact h.handled
  late := by
    rw [hspares.daemonEq, hspares.late]
    rcases h.late with hnone | ⟨hclient, hconnected, hedit⟩
    · exact Or.inl hnone
    · refine Or.inr ⟨?_, ?_, hedit⟩
      · rw [← Bool.not_eq_true] at hclient ⊢
        exact hclient ∘ hspares.bClientConnected
      · rw [← Bool.not_eq_true] at hconnected ⊢
        exact hconnected ∘ hspares.bConnected

/-- The daemon handles an edit that was made on a copy of its settings. -/
theorem exists_deliver_edit (hsound : s.daemon.engine.Sound)
    (hnamed : s.daemonEq.Named) (edit : EqEdit) :
    ∃ response daemon, s.deliver setup (edit.call (edit.apply s.daemonEq)) =
        some (response, { s with daemon }) ∧
      daemon.engine.Sound ∧ ofEngine daemon.engine = edit.apply s.daemonEq := by
  obtain ⟨inCommand, hcommand, hbehind⟩ := exists_command_edit hnamed edit
  obtain ⟨daemon, hdeliver, hsound', heq⟩ := exists_deliver setup hsound hcommand
  exact ⟨_, daemon, hdeliver, hsound', heq.trans hbehind⟩

omit [FloatArith α] in
/-- One more edit is handled. -/
theorem Coherent.handles (h : Coherent start s) {edit : EqEdit} (app : EqApp)
    {daemon : AudioEngine.Daemon α} (hsound : daemon.engine.Sound)
    (heq : ofEngine daemon.engine = edit.apply s.daemonEq)
    (hcopy : app.bClientConnected → app.eq = edit.apply s.daemonEq) :
    Coherent start ⟨app, daemon, [], s.handled ++ [edit]⟩ where
  sound := hsound
  named := by
    show (ofEngine daemon.engine).Named
    rw [heq]
    exact edit.named_apply h.named
  copy hclient := (hcopy hclient).trans heq.symm
  handled := by
    show ofEngine daemon.engine = (s.handled ++ [edit]).foldl EqEdit.apply start
    rw [heq, h.handled, List.foldl_append]
    rfl
  late := Or.inl rfl

omit [FloatArith α] in
/-- A request that fails leaves a session without a connection. -/
theorem Coherent.fails (h : Coherent start s) (app : EqApp)
    (hclient : app.bClientConnected = false) (hconnected : app.bConnected = false) :
    Coherent start { s with app } where
  sound := h.sound
  named := h.named
  copy hclient' := by
    rw [hclient] at hclient'
    cases hclient'
  handled := h.handled
  late := h.late.imp id fun ⟨_, _, hedit⟩ => ⟨hclient, hconnected, hedit⟩

theorem use_of_shown {edit : EqEdit} {outcome : CallOutcome}
    (hshown : edit.bShown s.app)
    (hask : (s.edited edit).ask setup (edit.call (edit.apply s.app.eq)) outcome =
      some s') :
    s.use setup (.edit edit outcome) =
      some (if s.app.bClientConnected then
        s'.enter edit (edit.call (edit.apply s.app.eq)) outcome else s') := by
  rw [use, if_pos hshown]
  simp only [hask, Option.bind_eq_bind, Option.bind_some]
  rfl

/-- An edit that reaches the daemon, whether the answer comes in time or not. -/
theorem Coherent.use_handled (h : Coherent start s) {edit : EqEdit}
    (hshown : edit.bShown s.app) (hclient : s.app.bClientConnected)
    (hlate : s.late = []) {outcome : CallOutcome}
    (houtcome : outcome = .answered ∨ outcome = .answerLost) :
    ∃ s', s.use setup (.edit edit outcome) = some s' ∧ Coherent start s' := by
  have hcopy := h.copy hclient
  obtain ⟨response, daemon, hdeliver, hsound, heq⟩ :=
    exists_deliver_edit (s := s.edited edit) setup h.sound h.named edit
  have hsent : (edit.call (edit.apply s.daemonEq)) = edit.call (edit.apply s.app.eq) := by
    rw [hcopy]
  rw [show (s.edited edit).daemonEq = s.daemonEq from rfl, hsent] at hdeliver
  obtain ⟨value, s', hperform, hspares, hstore⟩ := perform_of_delivered setup
    (s := s.edited edit) hclient hdeliver hsound (edit.noFetch_call _) houtcome
  have hasked : Spares { s.edited edit with daemon }
      (if value.isSome then s'.store value else s'.fail) := by
    split
    · exact hspares.trans hstore
    · exact hspares.trans (spares_fail hspares.sound)
  refine ⟨_, use_of_shown setup hshown (ask_of_performed setup hperform), ?_⟩
  rw [if_pos hclient]
  have henter : ∀ s'' : EqSession α, Spares { s.edited edit with daemon } s'' →
      Coherent start (s''.enter edit (edit.call (edit.apply s.app.eq)) outcome) := by
    intro s'' hspares
    have hcopied : s''.app.eq = edit.apply s.daemonEq := by
      rw [hspares.eq, ← hcopy]
      rfl
    have hentered := h.handles s''.app hspares.sound
      (hspares.daemonEq.trans heq) fun _ => hcopied
    rw [← hlate, ← show s''.late = s.late from hspares.late,
      ← show s''.handled = s.handled from hspares.handled] at hentered
    rcases houtcome with rfl | rfl
    · exact hentered
    · exact hentered
  exact henter _ hasked

/-- An edit, whatever becomes of its request. -/
theorem Coherent.use_edit (h : Coherent start s) (edit : EqEdit)
    (outcome : CallOutcome) :
    ∃ s', s.use setup (.edit edit outcome) = some s' ∧ Coherent start s' := by
  by_cases hshown : edit.bShown s.app
  case neg => exact ⟨s, by rw [use, if_neg hshown], h⟩
  cases hclient : s.app.bClientConnected with
  | false =>
      have hidle : (s.edited edit).app.bClientConnected = false := hclient
      have hask := ask_of_performed setup
        (perform_of_idle setup hidle (edit.call (edit.apply s.app.eq)) outcome)
      refine ⟨_, use_of_shown setup hshown hask, ?_⟩
      rw [if_neg (by simp [hclient])]
      exact h.fails _ hclient rfl
  | true =>
      have hlate : s.late = [] := by
        rcases h.late with hnone | ⟨hidle, -⟩
        · exact hnone
        · rw [hclient] at hidle
          cases hidle
      have hcopy := h.copy hclient
      cases outcome with
      | answered => exact h.use_handled setup hshown hclient hlate (Or.inl rfl)
      | answerLost => exact h.use_handled setup hshown hclient hlate (Or.inr rfl)
      | requestLost =>
          refine ⟨_, use_of_shown setup hshown rfl, ?_⟩
          rw [if_pos hclient]
          exact h.fails _ rfl rfl
      | late =>
          refine ⟨_, use_of_shown setup hshown rfl, ?_⟩
          rw [if_pos hclient]
          refine { h.fails (s.edited edit).disconnect.fail.app rfl rfl with
            late := Or.inr ⟨rfl, rfl, edit, ?_⟩ }
          show s.late ++ [(edit, edit.call (edit.apply s.app.eq))] =
            [(edit, edit.call (edit.apply s.daemonEq))]
          rw [hlate, hcopy]
          rfl

/-! ## Runs -/

theorem Coherent.use (h : Coherent start s) (control : EqControl) :
    ∃ s', s.use setup control = some s' ∧ Coherent start s' := by
  cases control with
  | edit edit outcome => exact h.use_edit setup edit outcome
  | other call outcome =>
      obtain ⟨s', hask, hspares⟩ :=
        ask_spares setup h.sound call.val call.property outcome
      exact ⟨s', hask, h.spares hspares⟩
  | advancedEq | advancedBass =>
      exact ⟨_, rfl, h.spares ⟨⟨h.sound, rfl, rfl, rfl, id⟩, rfl, id⟩⟩

theorem Coherent.controls (h : Coherent start s) (controls : List EqControl) :
    ∃ s', controls.foldlM (EqSession.use setup) s = some s' ∧ Coherent start s' := by
  induction controls generalizing s with
  | nil => exact ⟨s, rfl, h⟩
  | cons control controls ih =>
      obtain ⟨between, huse, hbetween⟩ := h.use setup control
      obtain ⟨s', hrest, hlast⟩ := ih hbetween
      refine ⟨s', ?_, hlast⟩
      rw [List.foldlM_cons, huse]
      exact hrest

/-- A new connection is made when no request is late. -/
theorem Coherent.reconnect (h : Coherent start s)
    (hconnected : s.app.bConnected = false) (frame : EqFrame)
    (hlate : s.Connects frame → s.late = []) :
    ∃ s', s.reconnect setup frame = some s' ∧ Coherent start s' := by
  by_cases hconnects : s.Connects frame
  · obtain ⟨s', hreconnect, hsound, heq, hsame, hhandled, hcopy⟩ :=
      reconnect_copies setup h.sound hconnects
    refine ⟨s', hreconnect, hsound, ?_, hcopy, ?_, Or.inl ?_⟩
    · rw [heq]
      exact h.named
    · rw [heq, hhandled]
      exact h.handled
    · rw [hsame, hlate hconnects]
  · obtain ⟨s', hreconnect, hspares⟩ :=
      reconnect_spares setup h.sound hconnected hconnects
    exact ⟨s', hreconnect, h.spares hspares⟩

theorem Coherent.refresh (h : Coherent start s) (frame : EqFrame)
    (hlate : s.Connects frame → s.late = []) :
    ∃ s', s.refresh setup frame = some s' ∧ Coherent start s' := by
  cases hconnected : s.app.bConnected with
  | false =>
      rw [EqSession.refresh, if_neg (by simp [hconnected])]
      exact h.reconnect setup hconnected frame hlate
  | true =>
      obtain ⟨polled, hpoll, hspares⟩ := pollStatus_spares setup h.sound frame
      obtain ⟨s', hdevices, hspares'⟩ := pollDevices_spares setup hspares.sound frame
      refine ⟨s', ?_, h.spares (hspares.trans hspares')⟩
      rw [EqSession.refresh, if_pos hconnected, hpoll]
      exact hdevices

theorem Coherent.tick (h : Coherent start s) (frame : EqFrame)
    (hlate : s.Connects frame → s.late = []) :
    ∃ s', s.tick setup frame = some s' ∧ Coherent start s' := by
  obtain ⟨between, hrefresh, hcoherent⟩ := h.refresh setup frame hlate
  obtain ⟨s', hcontrols, hlast⟩ := hcoherent.controls setup frame.controls
  rw [EqSession.tick, hrefresh, Option.bind_eq_bind, Option.bind_some]
  split
  · exact ⟨s', hcontrols, hlast⟩
  · exact ⟨between, rfl, hcoherent⟩

/-- No request is late when the application connects, and no other client sets the
curve or the bass settings. -/
def Meets (s : EqSession α) : EqEvent α → Prop
  | .frame frame => s.Connects frame → s.late = []
  | .daemon event => event.KeepsEq
  | .handleLate => True

theorem Coherent.step (h : Coherent start s) {event : EqEvent α}
    (hmeets : Meets s event) :
    ∃ s', s.step setup event = some s' ∧ Coherent start s' := by
  cases event with
  | frame frame => exact h.tick setup frame hmeets
  | daemon event =>
      obtain ⟨daemon, hstep, htakes⟩ := h.sound.exists_takes setup event
      obtain ⟨_, hstep', hstepped⟩ := h.sound.step setup event
      obtain rfl := Option.some.inj (hstep.symm.trans hstep')
      have heq : ofEngine daemon.engine = s.daemonEq := htakes.ofEngine hmeets
      refine ⟨{ s with daemon }, ?_, ?_⟩
      · rw [EqSession.step, hstep]
        rfl
      · exact h.spares ⟨⟨hstepped.sound, heq, rfl, rfl, id⟩, rfl, id⟩
  | handleLate =>
      rcases h.late with hnone | ⟨hclient, hconnected, edit, hedit⟩
      · exact ⟨s, by simp only [EqSession.step, hnone], h⟩
      · obtain ⟨response, daemon, hdeliver, hsound, heq⟩ :=
          exists_deliver_edit setup h.sound h.named edit
        refine ⟨⟨s.app, daemon, [], s.handled ++ [edit]⟩, ?_, ?_⟩
        · simp only [EqSession.step, hedit, hdeliver, Option.bind_eq_bind,
            Option.bind_some]
          rfl
        · refine h.handles s.app hsound heq fun hconnected => ?_
          rw [hclient] at hconnected
          cases hconnected

/-- A daemon that has been running for a while, and the application as it is
started beside it. -/
def opened (daemon : AudioEngine.Daemon α) (bAdvancedEqMode bAdvancedBassMode : Bool) :
    EqSession α where
  app := { bAdvancedEqMode, bAdvancedBassMode }
  daemon := daemon

/-- Whatever becomes of the requests, and whatever else happens to a daemon whose
settings file named known enumerators only: as long as no request is late when the
application connects and no other client sets the curve or the bass settings, a
connected application has the daemon's settings, and these are what the edits that
were handled, one after the other, make of those at the start. -/
theorem coherent_run (store : SettingsStore) (devices : DeviceRegistry)
    (hnamed : ∀ text, store.settingsFile = some text → NamesEnumerators text)
    {past : List (AudioEngine.Event α)} {daemon : AudioEngine.Daemon α}
    (hpast : runFrom (AudioEngine.step setup) ⟨.run setup store devices, []⟩ past =
      some daemon)
    (bAdvancedEqMode bAdvancedBassMode : Bool) (run : List (EqEvent α))
    (hmeets : AtEachEvent (StepMeets (step setup) Meets
      (opened daemon bAdvancedEqMode bAdvancedBassMode)) run) :
    ∃ s, runFrom (step setup) (opened daemon bAdvancedEqMode bAdvancedBassMode) run =
        some s ∧
      (s.app.bClientConnected → s.app.eq = s.daemonEq) ∧
      s.daemonEq = s.handled.foldl EqEdit.apply (ofEngine daemon.engine) := by
  obtain ⟨hsound, hdaemon⟩ : daemon.engine.Sound ∧
      daemon.engine.persistedState.EnumeratorsNamed := by
    refine invariant_of_runFrom (fun daemon => daemon.engine.Sound ∧
      daemon.engine.persistedState.EnumeratorsNamed) ⟨AudioEngine.sound_run _ _ _,
      (AudioEngine.enumeratorsNamed_run_iff setup store devices).mpr hnamed⟩ ?_ hpast
    rintro before event after ⟨hsound, hbefore⟩ hstep
    exact ⟨((hsound.takes hstep).stepped hsound).sound,
      AudioEngine.enumeratorsNamed_step hsound hstep hbefore⟩
  have hstart : Coherent (ofEngine daemon.engine)
      (opened daemon bAdvancedEqMode bAdvancedBassMode) :=
    ⟨hsound, hdaemon.filterType, fun hclient => absurd hclient Bool.false_ne_true,
      rfl, Or.inl rfl⟩
  obtain ⟨s, hrun, hcoherent⟩ := runFrom_invariant (step setup)
    (fun _ => Coherent (ofEngine daemon.engine)) hstart
    (fun past s event hreached hcoherent hmeets =>
      hcoherent.step setup (hmeets s hreached)) hmeets
  exact ⟨s, hrun, hcoherent.copy, hcoherent.handled⟩

end

/-- A band is raised, the bass enhancer is switched on by a request that is given
up, and the daemon handles it later. -/
theorem coherent_run_late :
    ∃ s : EqSession ℝ, runFrom (step AudioEngine.exactSetup)
        (opened ⟨.run AudioEngine.exactSetup ⟨none, true⟩ .new, []⟩ false false)
        [.frame {
            deltaTimeSeconds := ⟨0x3C888889⟩ -- 1 / 60
            controls := [.edit (.gainDb 3 ⟨0x40800000⟩) .answered,
              .edit (.bassEnabled true) .late] },
          .handleLate] = some s ∧
      (s.app.bClientConnected → s.app.eq = s.daemonEq) ∧
      s.daemonEq = s.handled.foldl EqEdit.apply
        (ofEngine (AudioEngine.run AudioEngine.exactSetup ⟨none, true⟩ .new)) :=
  coherent_run AudioEngine.exactSetup ⟨none, true⟩ .new (fun _ h => by cases h) (runFrom_nil _)
    false false _ (stepMeets_cons (fun _ => rfl) fun _ _ =>
      stepMeets_cons trivial fun _ _ => atEachEvent_nil)

end EqSession

end RamkolFX
