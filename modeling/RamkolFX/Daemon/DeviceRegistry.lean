import RamkolFX.Protocol.Types
import Mathlib.Data.List.AList

/-!
# Device registry

The hardware playback sinks, kept up to date by the PipeWire registry's add
and remove events.  The daemon's own virtual sink is left out: chosen as the
hardware output it would be fed its own signal.
-/

namespace RamkolFX

/-- `VirtualSink::NodeName` -/
def virtualSinkNodeName : ByteString := ascii "ramkolfx_virtual_sink"

/-- The properties of a registry object, `spa_dict`. -/
abbrev SpaDict := List (ByteString × ByteString)

/-- The order in which a hash map is walked: the standard leaves it open. -/
structure IterationOrder (β : Type) where
  walk : List β → List β
  walk_perm : ∀ entries, (walk entries).Perm entries

/-- The entries as they are stored. -/
def IterationOrder.stored {β : Type} : IterationOrder β := ⟨id, .refl⟩

/-- `DevicesById` -/
abbrev DeviceMap := AList fun _ : UInt32 => AudioDeviceInfo

abbrev DeviceOrder := IterationOrder (Sigma fun _ : UInt32 => AudioDeviceInfo)

structure DeviceRegistry where
  devicesById : DeviceMap
  /-- The id of the bound session-wide metadata object. -/
  defaultMetadata : Option UInt32
  /-- The virtual sink was set as the default sink. -/
  bClaimedDefaultSink : Bool

namespace DeviceRegistry

/-- A registry before its first event. -/
def new : DeviceRegistry := ⟨∅, none, false⟩

def claimVirtualSinkAsDefault (registry : DeviceRegistry) : DeviceRegistry :=
  { registry with bClaimedDefaultSink := true }

/-- Bind the metadata object called "default", once, and claim the virtual
sink.  `bBound` is the outcome of `pw_registry_bind`. -/
def bindDefaultMetadata (registry : DeviceRegistry) (id : UInt32)
    (props : SpaDict) (bBound : Bool) : DeviceRegistry :=
  if registry.defaultMetadata = none ∧
      props.lookup (ascii "metadata.name") = some (ascii "default") ∧
      bBound then
    claimVirtualSinkAsDefault { registry with defaultMetadata := some id }
  else registry

/-- The sink that a node's properties describe: an `Audio/Sink` with a name
that is not our own. -/
def sinkOfProps (props : SpaDict) : Option AudioDeviceInfo :=
  match props.lookup (ascii "media.class"), props.lookup (ascii "node.name") with
  | some mediaClass, some nodeName =>
      if mediaClass ≠ ascii "Audio/Sink" ∨ nodeName = virtualSinkNodeName then
        none
      else
        some
          { name := nodeName
            description :=
              (props.lookup (ascii "node.description")).getD nodeName }
  | _, _ => none

def handleGlobalAdded (registry : DeviceRegistry) (id : UInt32)
    (type : ByteString) (props : Option SpaDict) (bBound : Bool) :
    DeviceRegistry :=
  match props with
  | none => registry
  | some props =>
      if type = ascii "PipeWire:Interface:Metadata" then
        bindDefaultMetadata registry id props bBound
      else if type = ascii "PipeWire:Interface:Node" then
        match sinkOfProps props with
        | none => registry
        | some info =>
            { registry with devicesById := registry.devicesById.insert id info }
      else registry

def handleGlobalRemoved (registry : DeviceRegistry) (id : UInt32) :
    DeviceRegistry :=
  { registry with devicesById := registry.devicesById.erase id }

/-! ## Queries -/

variable (order : DeviceOrder) (registry : DeviceRegistry)

def getDevices : List AudioDeviceInfo :=
  (order.walk registry.devicesById.entries).map Sigma.snd

def hasDevice (name : ByteString) : Bool :=
  (order.walk registry.devicesById.entries).any fun device =>
    decide (device.2.name = name)

/-- The loop of `pickAnyDevice`: the lowest id so far, and its device. -/
def pickLowest (devices : List (Sigma fun _ : UInt32 => AudioDeviceInfo)) :
    UInt32 × Option AudioDeviceInfo :=
  devices.foldl
    (fun (lowestId, picked) device =>
      if device.1 < lowestId then (device.1, some device.2)
      else (lowestId, picked))
    (0xFFFFFFFF, none)

def pickAnyDevice : Option ByteString :=
  (pickLowest (order.walk registry.devicesById.entries)).2.map
    AudioDeviceInfo.name

/-! ## Events -/

/-- One registry event. -/
inductive Event
  | globalAdded (id : UInt32) (type : ByteString) (props : Option SpaDict)
      (bBound : Bool)
  | globalRemoved (id : UInt32)

def handle (registry : DeviceRegistry) : Event → DeviceRegistry
  | .globalAdded id type props bBound =>
      registry.handleGlobalAdded id type props bBound
  | .globalRemoved id => registry.handleGlobalRemoved id

/-- The registry after some events. -/
def after (events : List Event) : DeviceRegistry := events.foldl handle new

variable {order registry}

/-- The metadata object is bound once. -/
theorem defaultMetadata_handle (h : registry.defaultMetadata ≠ none)
    (event : Event) :
    (registry.handle event).defaultMetadata = registry.defaultMetadata := by
  cases event with
  | globalRemoved id => rfl
  | globalAdded id type props bBound =>
      cases props with
      | none => rfl
      | some props =>
          rw [handle, handleGlobalAdded]
          split
          · rw [bindDefaultMetadata, if_neg fun hunseen => h hunseen.1]
          · split
            · split <;> rfl
            · rfl

/-- A device that the walk finds is an entry. -/
theorem exists_of_hasDevice {name : ByteString}
    (h : registry.hasDevice order name) :
    ∃ device ∈ registry.devicesById.entries, device.2.name = name := by
  obtain ⟨device, hdevice, hname⟩ := List.any_eq_true.mp h
  exact ⟨device, (order.walk_perm _).mem_iff.mp hdevice,
    of_decide_eq_true hname⟩

/-! ## The picked device -/

/-- What the loop has found: an id no greater than any so far, with its
device unless no id was below the initial one. -/
theorem pickLowest_spec
    (devices : List (Sigma fun _ : UInt32 => AudioDeviceInfo)) :
    (∀ device ∈ devices, (pickLowest devices).1 ≤ device.1) ∧
      match (pickLowest devices).2 with
      | none => (pickLowest devices).1 = 0xFFFFFFFF
      | some info => (pickLowest devices).1 < 0xFFFFFFFF ∧
          ⟨(pickLowest devices).1, info⟩ ∈ devices := by
  induction devices using List.reverseRecOn with
  | nil => exact ⟨by simp, rfl⟩
  | append_singleton devices device ih =>
      obtain ⟨hle, hpicked⟩ := ih
      have hstep : pickLowest (devices ++ [device]) =
          if device.1 < (pickLowest devices).1 then (device.1, some device.2)
          else pickLowest devices := by
        rw [pickLowest, List.foldl_append]
        rfl
      by_cases hlower : device.1 < (pickLowest devices).1
      · rw [hstep, if_pos hlower]
        refine ⟨?_, ?_, by simp⟩
        · intro other hother
          rcases List.mem_append.mp hother with hold | hnew
          · exact UInt32.le_of_lt (UInt32.lt_of_lt_of_le hlower (hle other hold))
          · rw [List.mem_singleton.mp hnew]
            exact UInt32.le_refl _
        · exact UInt32.lt_of_lt_of_le hlower (UInt32.le_iff_toNat_le.mpr
            (Nat.le_of_lt_succ (UInt32.toNat_lt _)))
      · rw [hstep, if_neg hlower]
        refine ⟨?_, ?_⟩
        · intro other hother
          rcases List.mem_append.mp hother with hold | hnew
          · exact hle other hold
          · rw [List.mem_singleton.mp hnew]
            exact UInt32.not_lt.mp hlower
        · cases hinfo : (pickLowest devices).2 with
          | none =>
              rw [hinfo] at hpicked
              exact hpicked
          | some info =>
              rw [hinfo] at hpicked
              exact ⟨hpicked.1, List.mem_append_left _ hpicked.2⟩

/-- The entry of the lowest id, if that is not the greatest id there is. -/
def IsLowest (registry : DeviceRegistry) (info : AudioDeviceInfo) : Prop :=
  ∃ id, ⟨id, info⟩ ∈ registry.devicesById.entries ∧ id < 0xFFFFFFFF ∧
    ∀ device ∈ registry.devicesById.entries, id ≤ device.1

/-- The pick is the entry of the lowest id, in whatever order the map is
walked. -/
theorem pickAnyDevice_eq_some_iff {name : ByteString} :
    registry.pickAnyDevice order = some name ↔
      ∃ info, registry.IsLowest info ∧ info.name = name := by
  have hmem : ∀ device, device ∈ order.walk registry.devicesById.entries ↔
      device ∈ registry.devicesById.entries :=
    fun device => (order.walk_perm _).mem_iff
  obtain ⟨hle, hpicked⟩ :=
    pickLowest_spec (order.walk registry.devicesById.entries)
  rw [pickAnyDevice]
  constructor
  · intro h
    obtain ⟨info, hinfo, rfl⟩ := Option.map_eq_some_iff.mp h
    rw [hinfo] at hpicked
    refine ⟨info, ⟨_, (hmem _).mp hpicked.2, hpicked.1, ?_⟩, rfl⟩
    intro device hdevice
    exact hle device ((hmem device).mpr hdevice)
  · rintro ⟨info, ⟨id, hentry, hid, hlowest⟩, rfl⟩
    have hbelow := hle _ ((hmem _).mpr hentry)
    cases hfound : (pickLowest (order.walk registry.devicesById.entries)).2 with
    | none =>
        rw [hfound] at hpicked
        exact absurd hid (UInt32.not_lt.mpr (hpicked ▸ hbelow))
    | some found =>
        rw [hfound] at hpicked
        have hsame := UInt32.le_antisymm hbelow (hlowest _ ((hmem _).mp hpicked.2))
        have hentry' := (hmem _).mp hpicked.2
        rw [hsame] at hentry'
        obtain rfl := List.NodupKeys.eq_of_mk_mem
          registry.devicesById.nodupKeys hentry hentry'
        rfl

end DeviceRegistry

end RamkolFX
