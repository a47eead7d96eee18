import RamkolFX.Daemon.DeviceHistory
import RamkolFX.Daemon.EngineSteps

/-!
# The output target

The registry keeps the daemon's own capture sink out of the devices it lists,
so neither the saved device nor the picked one is that sink.  A request names
its device freely, and the handler hands the name on as it came; PipeWire is
given what stands before its first NUL.
-/

namespace RamkolFX

open Support

namespace AudioEngine

/-- A name that may be a hardware sink's: any but the empty one and the
capture sink's. -/
def IsHardwareName (name : ByteString) : Prop :=
  name ≠ [] ∧ name ≠ virtualSinkNodeName

theorem isHardwareName_testOutputNodeName :
    IsHardwareName (cStr testOutputNodeName) := by
  constructor <;> decide

/-- A name whose C string is a hardware sink's is one itself. -/
theorem IsHardwareName.of_cStr {name : ByteString}
    (h : IsHardwareName (cStr name)) : IsHardwareName name := by
  constructor
  · rintro rfl
    exact h.1 rfl
  · rintro rfl
    exact h.2 (cStr_eq_self_iff.mpr (by decide))

/-- The recorded target and the one the stream is pinned to. -/
def OnHardware (output : HardwareOutput) : Prop :=
  IsHardwareName output.targetNodeName ∧
    ∃ stream, output.stream = some stream ∧ IsHardwareName stream.targetObject

/-- The stream decides, being pinned to the C string of the recorded name. -/
theorem onHardware_iff {output : HardwareOutput} (h : output.Pinned) :
    OnHardware output ↔ IsHardwareName (cStr output.targetNodeName) := by
  obtain ⟨bConnected, hstream⟩ := h
  constructor
  · rintro ⟨-, stream, hsome, hhardware⟩
    obtain rfl := Option.some.inj (hstream.symm.trans hsome)
    exact hhardware
  · intro hhardware
    exact ⟨hhardware.of_cStr, _, hstream, hhardware⟩

/-! ## The start -/

/-- The saved device, should it be listed. -/
def SavedDevice (order : DeviceOrder) (store : SettingsStore)
    (devices : DeviceRegistry) (name : ByteString) : Prop :=
  ∃ loadedSettings, store.load = some loadedSettings ∧
    loadedSettings.outputDeviceName = name ∧ name ≠ [] ∧
    devices.hasDevice order name

/-- The saved device reads like a hardware sink; should it not be listed, the
sink of the lowest id does. -/
def StartsOnNamedSink (order : DeviceOrder) (store : SettingsStore)
    (devices : DeviceRegistry) : Prop :=
  (∀ name, SavedDevice order store devices name →
    IsHardwareName (cStr name)) ∧
  ((∀ name, ¬ SavedDevice order store devices name) →
    ∀ info, devices.IsLowest info → IsHardwareName (cStr info.name))

variable {order : DeviceOrder} {store : SettingsStore} {devices : DeviceRegistry}

/-- A saved device that is listed is resolved to. -/
theorem SavedDevice.resolve {name : ByteString}
    (h : SavedDevice order store devices name) :
    resolveInitialOutputDevice order devices store.load = name := by
  obtain ⟨loadedSettings, hload, rfl, hname, hlisted⟩ := h
  rw [hload]
  exact if_pos ⟨hname, hlisted⟩

/-- Without such a device the picked one is, or the fallback. -/
theorem resolve_of_not_saved (h : ∀ name, ¬ SavedDevice order store devices name) :
    resolveInitialOutputDevice order devices store.load =
      (devices.pickAnyDevice order).getD testOutputNodeName := by
  rw [resolveInitialOutputDevice]
  apply if_neg
  rintro ⟨hname, hlisted⟩
  cases hload : store.load with
  | none =>
      rw [hload] at hname
      exact hname rfl
  | some loadedSettings =>
      rw [hload] at hname hlisted
      exact h _ ⟨loadedSettings, hload, rfl, hname, hlisted⟩

/-- The pick is the sink of the lowest id; there being none, the fallback is a
hardware sink's name. -/
theorem isHardwareName_pick_iff :
    IsHardwareName
        (cStr ((devices.pickAnyDevice order).getD testOutputNodeName)) ↔
      ∀ info, devices.IsLowest info → IsHardwareName (cStr info.name) := by
  have hpick : ∀ info, devices.IsLowest info →
      devices.pickAnyDevice order = some info.name := fun info hlowest =>
    DeviceRegistry.pickAnyDevice_eq_some_iff.mpr ⟨info, hlowest, rfl⟩
  constructor
  · intro hhardware info hlowest
    rwa [hpick info hlowest] at hhardware
  · intro hlowest
    cases hpicked : devices.pickAnyDevice order with
    | none => exact isHardwareName_testOutputNodeName
    | some name =>
        obtain ⟨info, hinfo, rfl⟩ :=
          DeviceRegistry.pickAnyDevice_eq_some_iff.mp hpicked
        exact hlowest info hinfo

theorem isHardwareName_resolve_iff :
    IsHardwareName
        (cStr (resolveInitialOutputDevice order devices store.load)) ↔
      StartsOnNamedSink order store devices := by
  rw [StartsOnNamedSink]
  by_cases hsaved : ∃ name, SavedDevice order store devices name
  · obtain ⟨name, hname⟩ := hsaved
    rw [hname.resolve]
    constructor
    · intro hhardware
      refine ⟨fun other hother => ?_, fun hnone => absurd hname (hnone name)⟩
      rwa [← hother.resolve, hname.resolve]
    · intro hstarts
      exact hstarts.1 name hname
  · have hnone := not_exists.mp hsaved
    rw [resolve_of_not_saved hnone, isHardwareName_pick_iff]
    constructor
    · intro hlowest
      exact ⟨fun name hname => absurd hname (hnone name), fun _ => hlowest⟩
    · intro hstarts
      exact hstarts.2 hnone

/-- PipeWire's names being C strings and the capture sink not being listed, a
start goes wrong only on a picked sink without a name. -/
theorem startsOnNamedSink_iff {found : List DeviceRegistry.Event}
    (h : ∀ event ∈ found, event.OfCStrings) :
    StartsOnNamedSink order store (.after found) ↔
      ((∀ name, ¬ SavedDevice order store (.after found) name) →
        ∀ info, (DeviceRegistry.after found).IsLowest info → info.name ≠ []) := by
  have hentry : ∀ device ∈ (DeviceRegistry.after found).devicesById.entries,
      device.2.name ≠ [] → IsHardwareName (cStr device.2.name) := by
    intro device hdevice hname
    rw [cStr_eq_self_iff.mpr
      (DeviceRegistry.zero_not_mem_of_mem_after h device hdevice)]
    exact ⟨hname, DeviceRegistry.name_ne_of_mem_after found device hdevice⟩
  constructor
  · intro hstarts hnone info hlowest
    exact (hstarts.2 hnone info hlowest).of_cStr.1
  · intro hnamed
    constructor
    · rintro name ⟨loadedSettings, -, -, hname, hlisted⟩
      obtain ⟨device, hdevice, rfl⟩ := DeviceRegistry.exists_of_hasDevice hlisted
      exact hentry device hdevice hname
    · intro hnone info hlowest
      have hname := hnamed hnone info hlowest
      obtain ⟨id, hmem, -⟩ := hlowest
      exact hentry _ hmem hname

/-! ## Runs -/

variable {α : Type} [FloatArith α]

/-- After these events the output is on a hardware sink. -/
def TargetsHardware (setup : DaemonSetup α) (start : Daemon α)
    (past : List (Event α)) : Prop :=
  ∃ daemon, runFrom (step setup) start past = some daemon ∧
    OnHardware daemon.engine.output

omit [FloatArith α] in
/-- A request that selects a device selects one that reads like a hardware
sink. -/
def SelectsHardware (event : Event α) : Prop :=
  ∀ name, event.selectedDevice = some name → IsHardwareName (cStr name)

theorem pinned_run (setup : DaemonSetup α) (store : SettingsStore)
    (devices : DeviceRegistry) :
    (AudioEngine.run setup store devices).output.Pinned :=
  HardwareOutput.pinned_start _ _

/-- The target is never the capture sink and never empty exactly when the
daemon starts on a named sink and no request names one of the two, as far as
its first NUL. -/
theorem targetsHardware_iff (setup : DaemonSetup α) (store : SettingsStore)
    (found : List DeviceRegistry.Event) (run : List (Event α)) :
    let devices := DeviceRegistry.after found
    Throughout (TargetsHardware setup ⟨.run setup store devices, []⟩) run ↔
      StartsOnNamedSink setup.order store devices ∧
        ∀ event ∈ run, SelectsHardware event := by
  intro devices
  set start : Daemon α := ⟨.run setup store devices, []⟩
  have hpinned : start.engine.output.Pinned := pinned_run setup store devices
  have hstart : IsHardwareName (cStr start.engine.output.targetNodeName) ↔
      StartsOnNamedSink setup.order store devices := isHardwareName_resolve_iff
  by_cases hnamed : StartsOnNamedSink setup.order store devices
  · rw [and_iff_right hnamed, ← atEachEvent_iff_forall_mem]
    refine throughout_iff_of_invariant (step setup)
      (fun _ daemon => daemon.engine.Sound ∧ daemon.engine.output.Pinned ∧
        IsHardwareName (cStr daemon.engine.output.targetNodeName))
      ⟨sound_run setup store devices, hpinned, hstart.mpr hnamed⟩ ?_ ?_ ?_ run
    · rintro past daemon hrun ⟨-, hpinned, hhardware⟩
      exact ⟨daemon, hrun, (onHardware_iff hpinned).mpr hhardware⟩
    · rintro past daemon event hrun ⟨hsound, hpinned, hhardware⟩ hselects
      obtain ⟨daemon', hstep, hstepped⟩ := hsound.step setup event
      refine ⟨daemon', hstep, hstepped.sound, hstepped.pinned hpinned, ?_⟩
      rw [hstepped.targetNodeName]
      cases hselected : event.selectedDevice with
      | none => exact hhardware
      | some name => exact hselects name hselected
    · rintro past daemon event hrun ⟨hsound, hpinned, -⟩ ⟨after, hafter, htarget⟩
        name hselected
      obtain ⟨daemon', hstep, hstepped⟩ := hsound.step setup event
      obtain rfl : daemon' = after := eq_of_runFrom_concat hrun hstep hafter
      have hhardware := (onHardware_iff (hstepped.pinned hpinned)).mp htarget
      rwa [hstepped.targetNodeName, hselected] at hhardware
  · refine iff_of_false ?_ fun h => hnamed h.1
    intro h
    obtain ⟨daemon, hrun, htarget⟩ := h [] List.nil_prefix
    obtain rfl : start = daemon := Option.some.inj hrun
    exact hnamed (hstart.mp ((onHardware_iff hpinned).mp htarget))

/-- A daemon that has just started takes its output to where it is asked to. -/
theorem not_targetsHardware_of_selected {name : ByteString}
    (h : name.length < 2 ^ 16) (hname : ¬ IsHardwareName (cStr name)) :
    ¬ Throughout
      (TargetsHardware exactSetup
        ⟨.run exactSetup ⟨none, true⟩ (DeviceRegistry.after []), []⟩)
      [.request ⟨Opcode.setOutputDevice.toByte, name, h⟩ true] := by
  intro hthroughout
  obtain ⟨daemon, hrun, htarget⟩ := hthroughout.last
  have hsound : (Daemon.engine ⟨.run exactSetup ⟨none, true⟩
      (DeviceRegistry.after []), []⟩).Sound := sound_run _ _ _
  obtain ⟨daemon', hstep, hstepped⟩ := hsound.step exactSetup
    (.request ⟨Opcode.setOutputDevice.toByte, name, h⟩ true)
  rw [runFrom_singleton] at hrun
  obtain rfl : daemon' = daemon := Option.some.inj (hstep.symm.trans hrun)
  have hhardware :=
    (onHardware_iff (hstepped.pinned (pinned_run _ _ _))).mp htarget
  rw [hstepped.targetNodeName, Event.selectedDevice_setOutputDevice] at hhardware
  exact hname hhardware

/-- Asked for the capture sink, with or without a NUL behind its name, a daemon
that has just started pins its output onto it. -/
theorem targetsHardware_lost :
    let start : Daemon ℝ :=
      ⟨.run exactSetup ⟨none, true⟩ (DeviceRegistry.after []), []⟩
    ¬ Throughout (TargetsHardware exactSetup start)
        [.request ⟨Opcode.setOutputDevice.toByte, virtualSinkNodeName, by decide⟩
          true] ∧
      ¬ Throughout (TargetsHardware exactSetup start)
        [.request ⟨Opcode.setOutputDevice.toByte, virtualSinkNodeName ++ [0],
          by decide⟩ true] := by
  intro start
  constructor
  · apply not_targetsHardware_of_selected
    exact fun hhardware => hhardware.2 (by decide)
  · apply not_targetsHardware_of_selected
    exact fun hhardware => hhardware.2 (by decide)

end AudioEngine

end RamkolFX
