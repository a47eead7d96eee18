import RamkolFX.Daemon.DeviceRegistry

/-!
# Devices and the events behind them

Of all that the PipeWire registry has reported, the latest event about an id
decides whether the id is listed, and as which device.  The queries walk the
map in an order that the standard leaves open; none of their answers but the
order of the list depends on it.
-/

namespace RamkolFX

namespace DeviceRegistry

/-! ## The latest event -/

def Event.id : Event → UInt32
  | .globalAdded id _ _ _ => id
  | .globalRemoved id => id

/-- The latest event about an id. -/
def latest (events : List Event) (id : UInt32) : Option Event :=
  (events.filter fun event => event.id = id).getLast?

theorem latest_append_of_eq (events : List Event) (event : Event) :
    latest (events ++ [event]) event.id = some event := by
  simp [latest]

theorem latest_append_of_ne (events : List Event) {event : Event} {id : UInt32}
    (h : event.id ≠ id) : latest (events ++ [event]) id = latest events id := by
  simp [latest, h]

/-- The addition of a node that plays audio back, under another name than the
virtual sink's. -/
inductive Event.AddsSink : Event → AudioDeviceInfo → Prop
  | mk {id : UInt32} {props : SpaDict} {bBound : Bool} {name : ByteString}
      (mediaClass : props.lookup (ascii "media.class") = some (ascii "Audio/Sink"))
      (nodeName : props.lookup (ascii "node.name") = some name)
      (ne : name ≠ virtualSinkNodeName) :
      AddsSink
        (.globalAdded id (ascii "PipeWire:Interface:Node") (some props) bBound)
        ⟨name, (props.lookup (ascii "node.description")).getD name⟩

/-- The device that an id stands for after some events. -/
def Listed (events : List Event) (id : UInt32) (info : AudioDeviceInfo) : Prop :=
  ∃ event, latest events id = some event ∧ event.AddsSink info

/-- What the registry reports: no id is the invalid one, and one that has been
added is removed before it is added again. -/
inductive History : List Event → Prop
  | nil : History []
  | removed {past : List Event} {id : UInt32} (past_history : History past)
      (valid : id < 0xFFFFFFFF) : History (past ++ [.globalRemoved id])
  | added {past : List Event} {id : UInt32} {type : ByteString}
      {props : Option SpaDict} {bBound : Bool} (past_history : History past)
      (valid : id < 0xFFFFFFFF)
      (fresh : latest past id = none ∨ latest past id = some (.globalRemoved id)) :
      History (past ++ [.globalAdded id type props bBound])

theorem History.id_lt {events : List Event} (h : History events) {event : Event}
    (hevent : event ∈ events) : event.id < 0xFFFFFFFF := by
  induction h with
  | nil => exact absurd hevent List.not_mem_nil
  | removed _ valid ih =>
      rcases List.mem_append.mp hevent with hpast | hlast
      · exact ih hpast
      · rw [List.mem_singleton.mp hlast]
        exact valid
  | added _ valid _ ih =>
      rcases List.mem_append.mp hevent with hpast | hlast
      · exact ih hpast
      · rw [List.mem_singleton.mp hlast]
        exact valid

/-! ## The map follows the events -/

/-- The device that an event puts into the map. -/
def Event.sink : Event → Option AudioDeviceInfo
  | .globalAdded _ type props _ =>
      if type = ascii "PipeWire:Interface:Node" then props.bind sinkOfProps
      else none
  | .globalRemoved _ => none

theorem Event.sink_eq_some_iff {event : Event} {info : AudioDeviceInfo} :
    event.sink = some info ↔ event.AddsSink info := by
  constructor
  · intro h
    cases event with
    | globalRemoved id => cases h
    | globalAdded id type props bBound =>
        rw [sink] at h
        split at h
        · rename_i hnode
          obtain ⟨dict, rfl, hdict⟩ := Option.bind_eq_some_iff.mp h
          rw [sinkOfProps] at hdict
          split at hdict
          · rename_i mediaClass nodeName hclass hname
            split at hdict
            · cases hdict
            · rename_i hsink
              obtain ⟨hclass', hname'⟩ := not_or.mp hsink
              rw [not_not.mp hclass'] at hclass
              obtain rfl := Option.some.inj hdict
              rw [hnode]
              exact .mk hclass hname hname'
          · cases hdict
        · cases h
  · intro h
    cases h with
    | mk mediaClass nodeName ne =>
        rw [sink, if_pos rfl, Option.bind_some, sinkOfProps, mediaClass, nodeName]
        simp [ne]

theorem devicesById_bindDefaultMetadata (registry : DeviceRegistry)
    (id : UInt32) (props : SpaDict) (bBound : Bool) :
    (registry.bindDefaultMetadata id props bBound).devicesById =
      registry.devicesById := by
  rw [bindDefaultMetadata]
  split <;> rfl

/-- An addition puts its sink into the map and does nothing else to it. -/
theorem devicesById_handleGlobalAdded (registry : DeviceRegistry) (id : UInt32)
    (type : ByteString) (props : Option SpaDict) (bBound : Bool) :
    (registry.handleGlobalAdded id type props bBound).devicesById =
      (Event.globalAdded id type props bBound).sink.elim registry.devicesById
        (registry.devicesById.insert id) := by
  rw [Event.sink]
  cases props with
  | none =>
      rw [Option.bind_none, ite_self]
      rfl
  | some props =>
      rw [handleGlobalAdded, Option.bind_some]
      by_cases hmetadata : type = ascii "PipeWire:Interface:Metadata"
      · have hnode : type ≠ ascii "PipeWire:Interface:Node" := by
          rw [hmetadata]
          decide
        rw [if_pos hmetadata, if_neg hnode, devicesById_bindDefaultMetadata]
        rfl
      by_cases hnode : type = ascii "PipeWire:Interface:Node"
      · rw [if_neg hmetadata, if_pos hnode, if_pos hnode]
        cases sinkOfProps props with
        | none => rfl
        | some info => rfl
      · rw [if_neg hmetadata, if_neg hnode, if_neg hnode]
        rfl

/-- An event leaves the entries of other ids alone. -/
theorem lookup_handle_of_ne (registry : DeviceRegistry) {event : Event}
    {id : UInt32} (h : event.id ≠ id) :
    (registry.handle event).devicesById.lookup id =
      registry.devicesById.lookup id := by
  cases event with
  | globalRemoved removed => exact AList.lookup_erase_ne h.symm
  | globalAdded added type props bBound =>
      rw [handle, devicesById_handleGlobalAdded]
      cases (Event.globalAdded added type props bBound).sink with
      | none => rfl
      | some info => exact AList.lookup_insert_ne h.symm

theorem lookup_handle_removed (registry : DeviceRegistry) (id : UInt32) :
    (registry.handle (.globalRemoved id)).devicesById.lookup id = none :=
  AList.lookup_erase id _

/-- An id that is not in the map is afterwards what its addition made of it. -/
theorem lookup_handle_added {registry : DeviceRegistry} {id : UInt32}
    (h : registry.devicesById.lookup id = none) (type : ByteString)
    (props : Option SpaDict) (bBound : Bool) :
    (registry.handle (.globalAdded id type props bBound)).devicesById.lookup id =
      (Event.globalAdded id type props bBound).sink := by
  rw [handle, devicesById_handleGlobalAdded]
  cases (Event.globalAdded id type props bBound).sink with
  | none => exact h
  | some info => exact AList.lookup_insert _

theorem after_append (events : List Event) (event : Event) :
    after (events ++ [event]) = (after events).handle event := by
  rw [after, List.foldl_append]
  rfl

/-- What holds of every sink that some events have added holds of the
entries. -/
theorem forall_mem_after {P : AudioDeviceInfo → Prop} {events : List Event}
    (h : ∀ event ∈ events, ∀ info, event.sink = some info → P info) :
    ∀ device ∈ (after events).devicesById.entries, P device.2 := by
  induction events using List.reverseRecOn with
  | nil =>
      intro device hdevice
      exact absurd hdevice List.not_mem_nil
  | append_singleton events event ih =>
      have hpast := ih fun past hpast => h past (List.mem_append_left _ hpast)
      have hlast := h event (List.mem_append_right _ (List.mem_singleton_self _))
      intro device hdevice
      rw [after_append] at hdevice
      cases event with
      | globalRemoved id =>
          exact hpast device ((List.kerase_sublist _ _).subset hdevice)
      | globalAdded id type props bBound =>
          rw [handle, devicesById_handleGlobalAdded] at hdevice
          cases hsink : (Event.globalAdded id type props bBound).sink with
          | none =>
              rw [hsink] at hdevice
              exact hpast device hdevice
          | some info =>
              rw [hsink] at hdevice
              rcases List.mem_cons.mp hdevice with rfl | hold
              · exact hlast info hsink
              · exact hpast device ((List.kerase_sublist _ _).subset hold)

/-- Whatever events have come, the virtual sink is not an entry. -/
theorem name_ne_of_mem_after (events : List Event) :
    ∀ device ∈ (after events).devicesById.entries,
      device.2.name ≠ virtualSinkNodeName := by
  refine forall_mem_after (P := fun info => info.name ≠ virtualSinkNodeName) ?_
  intro event _ info hsink
  cases (Event.sink_eq_some_iff.mp hsink) with
  | mk mediaClass nodeName ne => exact ne

/-- The properties are C strings, as PipeWire hands them over. -/
def Event.OfCStrings : Event → Prop
  | .globalAdded _ _ (some props) _ => ∀ entry ∈ props, 0 ∉ entry.2
  | _ => True

/-- The names of the entries are C strings too. -/
theorem zero_not_mem_of_mem_after {events : List Event}
    (h : ∀ event ∈ events, event.OfCStrings) :
    ∀ device ∈ (after events).devicesById.entries, 0 ∉ device.2.name := by
  refine forall_mem_after (P := fun info => 0 ∉ info.name) ?_
  intro event hevent info hsink
  have hstrings := h event hevent
  cases (Event.sink_eq_some_iff.mp hsink) with
  | mk mediaClass nodeName ne =>
      obtain ⟨before, behind, rfl, -⟩ := List.lookup_eq_some_iff.mp nodeName
      exact hstrings _ (List.mem_append_right _ List.mem_cons_self)

/-- The map holds what the latest events have put there. -/
theorem lookup_after {events : List Event} (h : History events) (id : UInt32) :
    (after events).devicesById.lookup id = (latest events id).bind Event.sink := by
  induction h with
  | nil => rfl
  | @removed past removed _ _ ih =>
      rw [after_append]
      by_cases hid : (Event.globalRemoved removed).id = id
      · subst hid
        rw [latest_append_of_eq]
        exact lookup_handle_removed _ _
      · rw [lookup_handle_of_ne _ hid, latest_append_of_ne past hid]
        exact ih
  | @added past added type props bBound _ _ fresh ih =>
      rw [after_append]
      by_cases hid : (Event.globalAdded added type props bBound).id = id
      · subst hid
        rw [latest_append_of_eq, Option.bind_some]
        apply lookup_handle_added
        obtain hnone | hremoved := fresh
        · rw [Event.id, hnone] at ih
          exact ih
        · rw [Event.id, hremoved] at ih
          exact ih
      · rw [lookup_handle_of_ne _ hid, latest_append_of_ne past hid]
        exact ih

theorem mem_entries_after_iff {events : List Event} (h : History events)
    {id : UInt32} {info : AudioDeviceInfo} :
    ⟨id, info⟩ ∈ (after events).devicesById.entries ↔ Listed events id info := by
  rw [← AList.mem_lookup_iff, Option.mem_def, lookup_after h,
    Option.bind_eq_some_iff, Listed]
  constructor
  · rintro ⟨event, hevent, hsink⟩
    exact ⟨event, hevent, Event.sink_eq_some_iff.mp hsink⟩
  · rintro ⟨event, hevent, hsink⟩
    exact ⟨event, hevent, Event.sink_eq_some_iff.mpr hsink⟩

/-! ## The queries -/

theorem mem_of_latest {events : List Event} {id : UInt32} {event : Event}
    (h : latest events id = some event) : event ∈ events ∧ event.id = id := by
  obtain ⟨hevent, hid⟩ := List.mem_filter.mp (List.mem_of_getLast? h)
  exact ⟨hevent, of_decide_eq_true hid⟩

theorem Listed.id_lt {events : List Event} {id : UInt32} {info : AudioDeviceInfo}
    (hlisted : Listed events id info) (h : History events) : id < 0xFFFFFFFF := by
  obtain ⟨event, hlatest, -⟩ := hlisted
  obtain ⟨hevent, hid⟩ := mem_of_latest hlatest
  rw [← hid]
  exact h.id_lt hevent

/-- The list has one device for each id that stands for one. -/
theorem getDevices_after {events : List Event} (h : History events)
    (order : DeviceOrder) :
    ∃ ids : List UInt32, ids.Nodup ∧
      (∀ id, id ∈ ids ↔ ∃ info, Listed events id info) ∧
      List.Forall₂ (Listed events) ids ((after events).getDevices order) := by
  have hperm := order.walk_perm (after events).devicesById.entries
  refine ⟨(order.walk (after events).devicesById.entries).map Sigma.fst, ?_, ?_, ?_⟩
  · exact ((hperm.map Sigma.fst).nodup_iff).mpr (after events).devicesById.nodupKeys
  · intro id
    rw [List.mem_map]
    constructor
    · rintro ⟨⟨entry, info⟩, hentry, rfl⟩
      exact ⟨info, (mem_entries_after_iff h).mp (hperm.mem_iff.mp hentry)⟩
    · rintro ⟨info, hlisted⟩
      exact ⟨⟨id, info⟩, hperm.mem_iff.mpr ((mem_entries_after_iff h).mpr hlisted), rfl⟩
  · rw [getDevices, List.forall₂_map_left_iff, List.forall₂_map_right_iff,
      List.forall₂_same]
    rintro ⟨id, info⟩ hentry
    exact (mem_entries_after_iff h).mp (hperm.mem_iff.mp hentry)

/-- Two walks of a map pass the same devices. -/
theorem mem_getDevices_iff {registry : DeviceRegistry} {order : DeviceOrder}
    {info : AudioDeviceInfo} :
    info ∈ registry.getDevices order ↔
      ∃ id, ⟨id, info⟩ ∈ registry.devicesById.entries := by
  have hperm := order.walk_perm registry.devicesById.entries
  rw [getDevices, List.mem_map]
  constructor
  · rintro ⟨⟨id, found⟩, hentry, rfl⟩
    exact ⟨id, hperm.mem_iff.mp hentry⟩
  · rintro ⟨id, hentry⟩
    exact ⟨⟨id, info⟩, hperm.mem_iff.mpr hentry, rfl⟩

theorem hasDevice_iff {registry : DeviceRegistry} {order listOrder : DeviceOrder}
    {name : ByteString} :
    registry.hasDevice order name ↔
      ∃ info ∈ registry.getDevices listOrder, info.name = name := by
  constructor
  · intro h
    obtain ⟨⟨id, info⟩, hentry, hname⟩ := exists_of_hasDevice h
    exact ⟨info, mem_getDevices_iff.mpr ⟨id, hentry⟩, hname⟩
  · rintro ⟨info, hinfo, hname⟩
    obtain ⟨id, hentry⟩ := mem_getDevices_iff.mp hinfo
    rw [hasDevice, List.any_eq_true]
    exact ⟨⟨id, info⟩, (order.walk_perm _).mem_iff.mpr hentry, decide_eq_true hname⟩

/-- Below the invalid id the loop misses no device. -/
theorem pickAnyDevice_eq_none_iff {registry : DeviceRegistry}
    {order listOrder : DeviceOrder}
    (hvalid : ∀ device ∈ registry.devicesById.entries, device.1 < 0xFFFFFFFF) :
    registry.pickAnyDevice order = none ↔ registry.getDevices listOrder = [] := by
  obtain ⟨hle, hpicked⟩ :=
    pickLowest_spec (order.walk registry.devicesById.entries)
  rw [pickAnyDevice, Option.map_eq_none_iff]
  constructor
  · intro hnone
    rw [hnone] at hpicked
    rw [List.eq_nil_iff_forall_not_mem]
    intro info hinfo
    obtain ⟨id, hentry⟩ := mem_getDevices_iff.mp hinfo
    have hlowest := hle _ ((order.walk_perm _).mem_iff.mpr hentry)
    rw [hpicked] at hlowest
    exact UInt32.not_lt.mpr hlowest (hvalid _ hentry)
  · intro hempty
    cases hfound : (pickLowest (order.walk registry.devicesById.entries)).2 with
    | none => rfl
    | some info =>
        rw [hfound] at hpicked
        have hentry := (order.walk_perm _).mem_iff.mp hpicked.2
        have hinfo : info ∈ registry.getDevices listOrder :=
          mem_getDevices_iff.mpr ⟨_, hentry⟩
        rw [hempty] at hinfo
        exact absurd hinfo List.not_mem_nil

/-- In whatever order the map is walked: the list has exactly one device for
each id whose latest event added a sink, `HasDevice` finds the listed names, and
`PickAnyDevice` fails on the empty list only and otherwise names the listed
device of the lowest id. -/
theorem queries_follow_events {events : List Event} (h : History events)
    (order listOrder : DeviceOrder) :
    (∃ ids : List UInt32, ids.Nodup ∧
      (∀ id, id ∈ ids ↔ ∃ info, Listed events id info) ∧
      List.Forall₂ (Listed events) ids ((after events).getDevices listOrder)) ∧
    (∀ name, (after events).hasDevice order name ↔
      ∃ info ∈ (after events).getDevices listOrder, info.name = name) ∧
    ((after events).pickAnyDevice order = none ↔
      (after events).getDevices listOrder = []) ∧
    ∀ name, (after events).pickAnyDevice order = some name ↔
      ∃ id info, Listed events id info ∧ info.name = name ∧
        ∀ other otherInfo, Listed events other otherInfo → id ≤ other := by
  refine ⟨getDevices_after h listOrder, fun _ => hasDevice_iff,
    pickAnyDevice_eq_none_iff ?_, ?_⟩
  · rintro ⟨id, info⟩ hentry
    exact ((mem_entries_after_iff h).mp hentry).id_lt h
  · intro name
    rw [pickAnyDevice_eq_some_iff]
    constructor
    · rintro ⟨info, ⟨id, hentry, -, hlowest⟩, hname⟩
      refine ⟨id, info, (mem_entries_after_iff h).mp hentry, hname, ?_⟩
      intro other otherInfo hother
      exact hlowest ⟨other, otherInfo⟩ ((mem_entries_after_iff h).mpr hother)
    · rintro ⟨id, info, hlisted, hname, hlowest⟩
      refine ⟨info, ⟨id, (mem_entries_after_iff h).mpr hlisted, hlisted.id_lt h, ?_⟩,
        hname⟩
      rintro ⟨other, otherInfo⟩ hentry
      exact hlowest other otherInfo ((mem_entries_after_iff h).mp hentry)

/-- Speakers that are plugged in, pulled out and plugged in again. -/
theorem queries_follow_events_replugged :
    let props : SpaDict := [(ascii "media.class", ascii "Audio/Sink"),
      (ascii "node.name", ascii "speakers")]
    let added := Event.globalAdded 1 (ascii "PipeWire:Interface:Node") props true
    (after [added, .globalRemoved 1, added]).pickAnyDevice .stored =
      some (ascii "speakers") := by
  intro props added
  have hfirst : History [added] := .added .nil (by decide) (Or.inl rfl)
  have hremoved : History [added, .globalRemoved 1] := .removed hfirst (by decide)
  have hhistory : History [added, .globalRemoved 1, added] :=
    .added hremoved (by decide) (Or.inr rfl)
  have hsink : Event.AddsSink added ⟨ascii "speakers", ascii "speakers"⟩ :=
    Event.sink_eq_some_iff.mp rfl
  refine ((queries_follow_events hhistory .stored .stored).2.2.2 _).mpr
    ⟨1, ⟨ascii "speakers", ascii "speakers"⟩, ⟨added, rfl, hsink⟩, rfl, ?_⟩
  rintro other otherInfo ⟨event, hlatest, -⟩
  obtain ⟨hevent, hid⟩ := mem_of_latest hlatest
  simp only [List.mem_cons, List.not_mem_nil, or_false] at hevent
  rw [← hid]
  rcases hevent with rfl | rfl | rfl <;> exact UInt32.le_refl _

end DeviceRegistry

end RamkolFX
