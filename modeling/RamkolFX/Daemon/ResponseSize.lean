import RamkolFX.Daemon.EngineSteps
import RamkolFX.Gui.ControlClient

/-!
# Responses that clients accept

The list responses are cut to the limit and the state responses have a fixed
size.  A status carries the device name, which a request may set to anything
its payload holds.
-/

namespace RamkolFX

open Support

namespace AudioEngine

variable {α : Type} [FloatArith α]

omit [FloatArith α] in
/-- Behind a named mode and a name that fits a status, every response is
accepted. -/
theorem accepts_answer (setup : DaemonSetup α) (engine : AudioEngine α)
    (hmode : engine.mode.IsValid)
    (hname : engine.output.targetNodeName.length ≤
      ControlClient.maxDeviceNameLength) (inCommand : Command) :
    ControlClient.Accepts (answer setup engine inCommand) := by
  rw [answer]
  split
  · exact ControlClient.accepts_deviceListResponse _
  · exact ControlClient.accepts_hwEqStateResponse _
  · exact ControlClient.accepts_bassEnhancerStateResponse _
  · exact ControlClient.accepts_hrtfCatalogResponse _
  · exact (ControlClient.accepts_statusResponse_iff hmode).mpr hname

/-- After these events every response is accepted, and so is the status. -/
def ResponsesAccepted (setup : DaemonSetup α) (start : Daemon α)
    (past : List (Event α)) : Prop :=
  ∃ daemon, runFrom (step setup) start past = some daemon ∧
    (∀ response ∈ daemon.responses, ControlClient.Accepts response) ∧
    ControlClient.Accepts (encodeStatusResponse daemon.engine.status)

omit [FloatArith α] in
/-- A device that the request selects has a name that fits a status. -/
def SelectsShortName (event : Event α) : Prop :=
  ∀ name, event.selectedDevice = some name →
    name.length ≤ ControlClient.maxDeviceNameLength

/-- A daemon whose statuses clients accept. -/
structure ShortlyNamed (daemon : Daemon α) : Prop where
  sound : daemon.engine.Sound
  mode : daemon.engine.mode.IsValid
  targetNodeName : daemon.engine.output.targetNodeName.length ≤
    ControlClient.maxDeviceNameLength
  responses : ∀ response ∈ daemon.responses, ControlClient.Accepts response

variable {setup : DaemonSetup α} {daemon daemon' : Daemon α} {event : Event α}

omit [FloatArith α] in
theorem ShortlyNamed.accepts_status (h : ShortlyNamed daemon) :
    ControlClient.Accepts (encodeStatusResponse daemon.engine.status) :=
  (ControlClient.accepts_statusResponse_iff h.mode).mpr h.targetNodeName

omit [FloatArith α] in
theorem ShortlyNamed.mode_of_stepped (h : ShortlyNamed daemon)
    (hstepped : Stepped setup daemon event daemon') :
    daemon'.engine.mode.IsValid := by
  rw [hstepped.mode]
  cases hselected : event.selectedMode with
  | none => exact h.mode
  | some mode => exact Event.selectedMode_isValid hselected

omit [FloatArith α] in
theorem ShortlyNamed.stepped (h : ShortlyNamed daemon)
    (hstepped : Stepped setup daemon event daemon')
    (hselects : SelectsShortName event) : ShortlyNamed daemon' := by
  have hmode := h.mode_of_stepped hstepped
  have hname : daemon'.engine.output.targetNodeName.length ≤
      ControlClient.maxDeviceNameLength := by
    rw [hstepped.targetNodeName]
    cases hselected : event.selectedDevice with
    | none => exact h.targetNodeName
    | some name => exact hselects name hselected
  refine ⟨hstepped.sound, hmode, hname, ?_⟩
  intro response hresponse
  rw [hstepped.responses] at hresponse
  rcases List.mem_append.mp hresponse with hold | hnew
  · exact h.responses response hold
  · obtain ⟨inCommand, -, rfl⟩ :=
      Option.map_eq_some_iff.mp (Option.mem_toList.mp hnew)
    exact accepts_answer setup daemon'.engine hmode hname inCommand

omit [FloatArith α] in
/-- A status that is accepted behind an event shows that the name selected
fits. -/
theorem ShortlyNamed.selectsShortName (h : ShortlyNamed daemon)
    (hstepped : Stepped setup daemon event daemon')
    (haccepts : ControlClient.Accepts (encodeStatusResponse daemon'.engine.status)) :
    SelectsShortName event := by
  intro name hselected
  have hmode : daemon'.engine.status.mode.IsValid := h.mode_of_stepped hstepped
  have hname := (ControlClient.accepts_statusResponse_iff hmode).mp haccepts
  have htarget : daemon'.engine.status.outputDeviceName = name := by
    have hstatus := hstepped.targetNodeName
    rw [hselected] at hstatus
    exact hstatus
  rwa [htarget] at hname

/-- Clients accept every response exactly when no request selects a device
whose name is too long for a status. -/
theorem responsesAccepted_iff (setup : DaemonSetup α) (engine : AudioEngine α)
    (hsound : engine.Sound) (hmode : engine.mode.IsValid)
    (hname : engine.output.targetNodeName.length ≤
      ControlClient.maxDeviceNameLength) (run : List (Event α)) :
    Throughout (ResponsesAccepted setup ⟨engine, []⟩) run ↔
      ∀ event ∈ run, SelectsShortName event := by
  have hstart : ShortlyNamed (⟨engine, []⟩ : Daemon α) :=
    ⟨hsound, hmode, hname, by simp⟩
  rw [← atEachEvent_iff_forall_mem]
  refine throughout_iff_of_invariant (step setup)
    (fun _ daemon => ShortlyNamed daemon) hstart ?_ ?_ ?_ run
  · intro past daemon hrun hshort
    exact ⟨daemon, hrun, hshort.responses, hshort.accepts_status⟩
  · intro past daemon event hrun hshort hselects
    obtain ⟨daemon', hstep, hstepped⟩ := hshort.sound.step setup event
    exact ⟨daemon', hstep, hshort.stepped hstepped hselects⟩
  · rintro past daemon event hrun hshort ⟨after, hafter, -, haccepts⟩
    obtain ⟨daemon', hstep, hstepped⟩ := hshort.sound.step setup event
    obtain rfl : daemon' = after := eq_of_runFrom_concat hrun hstep hafter
    exact hshort.selectsShortName hstepped haccepts

/-! ## A fresh daemon -/

theorem shortlyNamed_run :
    ShortlyNamed
      ⟨run exactSetup ⟨none, true⟩ (DeviceRegistry.after []), []⟩ where
  sound := sound_run _ _ _
  mode := show SpatialMode.off.IsValid by decide
  targetNodeName := show testOutputNodeName.length ≤ _ by decide
  responses := by simp

/-- A device is selected by a short name, between two requests for the status. -/
theorem responsesAccepted_speakers :
    Throughout
      (ResponsesAccepted exactSetup
        ⟨run exactSetup ⟨none, true⟩ (DeviceRegistry.after []), []⟩)
      [.request ⟨Opcode.getStatus.toByte, [], by decide⟩ true,
        .request ⟨Opcode.setOutputDevice.toByte, ascii "speakers", by decide⟩ true,
        .request ⟨Opcode.getStatus.toByte, [], by decide⟩ true] := by
  refine (responsesAccepted_iff exactSetup _ shortlyNamed_run.sound
    shortlyNamed_run.mode shortlyNamed_run.targetNodeName _).mpr ?_
  have hstatus : SelectsShortName (α := ℝ)
      (.request ⟨Opcode.getStatus.toByte, [], by decide⟩ true) := by
    intro name hselected
    cases hselected
  have hspeakers : SelectsShortName (α := ℝ)
      (.request ⟨Opcode.setOutputDevice.toByte, ascii "speakers", by decide⟩
        true) := by
    intro name hselected
    rw [Event.selectedDevice_setOutputDevice] at hselected
    rw [← Option.some.inj hselected]
    decide
  intro event hevent
  rcases List.mem_cons.mp hevent with rfl | hevent
  · exact hstatus
  rcases List.mem_cons.mp hevent with rfl | hevent
  · exact hspeakers
  · rw [List.mem_singleton.mp hevent]
    exact hstatus

/-- A device name of 4028 bytes makes a status that no client accepts. -/
theorem responsesAccepted_lost :
    ¬ Throughout
      (ResponsesAccepted exactSetup
        ⟨run exactSetup ⟨none, true⟩ (DeviceRegistry.after []), []⟩)
      [.request ⟨Opcode.setOutputDevice.toByte, List.replicate 4028 97,
        by rw [List.length_replicate]; decide⟩ true] := by
  intro h
  obtain ⟨daemon, hrun, -, haccepts⟩ := h.last
  obtain ⟨daemon', hstep, hstepped⟩ := shortlyNamed_run.sound.step exactSetup
    (.request ⟨Opcode.setOutputDevice.toByte, List.replicate 4028 97,
      by rw [List.length_replicate]; decide⟩ true)
  rw [runFrom_singleton] at hrun
  obtain rfl : daemon' = daemon := Option.some.inj (hstep.symm.trans hrun)
  have hshort := shortlyNamed_run.selectsShortName hstepped haccepts _
    (Event.selectedDevice_setOutputDevice _ _ _)
  rw [List.length_replicate] at hshort
  exact absurd hshort (by decide)

end AudioEngine

end RamkolFX
