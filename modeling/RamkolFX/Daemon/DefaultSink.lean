import RamkolFX.Daemon.DeviceRegistry
import RamkolFX.Support.Interleaving

/-!
# The default sink

The registry binds the session's metadata object, makes the virtual sink the
default one, and puts back what it found when the daemon stops.  What it found
is the value of the first property event for the key: the server replays the
properties that are set when the object is bound, and echoes each later change.

A key that is not set is not replayed, so the first event may be the echo of
the daemon's own claim, and what is replayed may be the virtual sink itself.
-/

namespace RamkolFX

open Support

/-! ## The metadata object -/

/-- A property of the metadata object. -/
structure MetadataKey where
  subject : UInt32
  key : ByteString
  deriving DecidableEq

/-- `default.configured.audio.sink` of `PW_ID_CORE` -/
def defaultSinkKey : MetadataKey := ⟨0, ascii "default.configured.audio.sink"⟩

/-- The value that names the virtual sink. -/
def virtualSinkValue : ByteString :=
  ascii "\x7b \"name\": \"" ++ virtualSinkNodeName ++ ascii "\" \x7d"

/-- The properties that are set. -/
abbrev MetadataProperties := AList fun _ : MetadataKey => ByteString

/-- The order in which the server replays its properties. -/
abbrev ReplayOrder := IterationOrder (Sigma fun _ : MetadataKey => ByteString)

/-- `pw_registry_bind` and `pw_metadata_set_property` -/
inductive MetadataRequest
  | bind
  | setProperty (key : MetadataKey) (value : Option ByteString)

/-- A property event.  `bReplayed` is a record of the ones that bring the
properties set before the object was bound. -/
structure PropertyEvent where
  key : MetadataKey
  value : Option ByteString
  bReplayed : Bool

/-! ## The daemon -/

/-- The registry, and what it knows of the default sink. -/
structure DefaultSinkKeeper where
  registry : DeviceRegistry := .new
  bCapturedPreviousDefaultSink : Bool := false
  previousDefaultSinkValue : ByteString := []

namespace DefaultSinkKeeper

/-- `ClaimVirtualSinkAsDefault`, behind the bind that precedes it. -/
def claimRequests : List MetadataRequest :=
  [.bind, .setProperty defaultSinkKey (some virtualSinkValue)]

/-- A registry event; the one that binds the metadata object claims the virtual
sink. -/
def handleRegistry (keeper : DefaultSinkKeeper) (event : DeviceRegistry.Event) :
    DefaultSinkKeeper × List MetadataRequest :=
  let registry := keeper.registry.handle event
  ({ keeper with registry },
    if keeper.registry.defaultMetadata = none ∧
        registry.defaultMetadata ≠ none then claimRequests
    else [])

/-- Only the first event for the key matters. -/
def handleMetadataProperty (keeper : DefaultSinkKeeper) (event : PropertyEvent) :
    DefaultSinkKeeper :=
  if keeper.bCapturedPreviousDefaultSink ∨ event.key ≠ defaultSinkKey then keeper
  else
    { keeper with
      bCapturedPreviousDefaultSink := true
      previousDefaultSinkValue :=
        event.value.getD keeper.previousDefaultSinkValue }

def restorePreviousDefaultSink (keeper : DefaultSinkKeeper) :
    List MetadataRequest :=
  if keeper.registry.defaultMetadata = none ∨
      keeper.previousDefaultSinkValue = [] then []
  else [.setProperty defaultSinkKey (some keeper.previousDefaultSinkValue)]

end DefaultSinkKeeper

/-! ## The session -/

/-- The daemon, the server's metadata object, and what is under way between
them.  `bBound` says whether the server sends property events. -/
structure MetadataSession where
  keeper : DefaultSinkKeeper := {}
  bStopped : Bool := false
  properties : MetadataProperties
  bBound : Bool := false
  requests : List MetadataRequest := []
  events : List PropertyEvent := []

namespace MetadataSession

/-- A session before the daemon has seen the metadata object. -/
def start (properties : MetadataProperties) : MetadataSession := { properties }

/-- The configured default sink. -/
def defaultSink (s : MetadataSession) : Option ByteString :=
  s.properties.lookup defaultSinkKey

def assign (properties : MetadataProperties) (key : MetadataKey) :
    Option ByteString → MetadataProperties
  | none => properties.erase key
  | some value => properties.insert key value

/-- A change of a property, which the server sends to a bound object even when
the value stays. -/
def change (s : MetadataSession) (key : MetadataKey)
    (value : Option ByteString) : MetadataSession :=
  { s with
    properties := assign s.properties key value
    events := s.events ++ if s.bBound then [⟨key, value, false⟩] else [] }

/-- The properties that are set, one event each. -/
def replay (order : ReplayOrder) (properties : MetadataProperties) :
    List PropertyEvent :=
  (order.walk properties.entries).map fun property =>
    ⟨property.1, some property.2, true⟩

def serve (order : ReplayOrder) (s : MetadataSession) :
    MetadataRequest → MetadataSession
  | .bind =>
      { s with
        bBound := true
        events := s.events ++ replay order s.properties }
  | .setProperty key value => s.change key value

/-- What happens next: a registry event, a request is served, another client
changes another key, an event is delivered, or the daemon stops. -/
inductive Action
  | registry (event : DeviceRegistry.Event)
  | serve
  | others (key : MetadataKey) (value : Option ByteString)
  | deliver
  | restore

/-- Requests and events arrive in the order they were sent. -/
def step (order : ReplayOrder) (s : MetadataSession) :
    Action → Option MetadataSession
  | .registry event =>
      if s.bStopped then none
      else
        let (keeper, requests) := s.keeper.handleRegistry event
        some { s with keeper, requests := s.requests ++ requests }
  | .serve =>
      match s.requests with
      | [] => none
      | request :: requests => some ({ s with requests }.serve order request)
  | .others key value =>
      if key = defaultSinkKey then none else some (s.change key value)
  | .deliver =>
      match s.events with
      | [] => none
      | event :: events =>
          some { s with keeper := s.keeper.handleMetadataProperty event, events }
  | .restore =>
      if s.bStopped then none
      else
        some { s with
          bStopped := true
          requests := s.requests ++ s.keeper.restorePreviousDefaultSink }

/-- The default sink behind a request. -/
def sinkBehind (sink : Option ByteString) :
    MetadataRequest → Option ByteString
  | .bind => sink
  | .setProperty key value => if key = defaultSinkKey then value else sink

/-- The configured default sink once every request under way is served. -/
def eventualSink (s : MetadataSession) : Option ByteString :=
  s.requests.foldl sinkBehind s.defaultSink

/-- What the daemon found is put back when that was a real sink, and the
virtual sink does not stay the default one. -/
structure LeavesDefault (NamesVirtualSink : ByteString → Prop)
    (initial final : Option ByteString) : Prop where
  restored : ∀ value, initial = some value → value ≠ [] →
    ¬ NamesVirtualSink value → final = some value
  released : ∀ value, final = some value → ¬ NamesVirtualSink value

/-- The server has replayed its properties, and the event for the default sink
has been delivered. -/
structure ReplaySeen (s : MetadataSession) : Prop where
  bound : s.bBound
  delivered : ∀ event ∈ s.events, event.key = defaultSinkKey →
    event.bReplayed = false

/-! ## Changes of properties -/

section

variable {s : MetadataSession} {key : MetadataKey} {value : Option ByteString}

theorem defaultSink_change (s : MetadataSession) (value : Option ByteString) :
    (s.change defaultSinkKey value).defaultSink = value := by
  cases value with
  | none => exact AList.lookup_erase _ _
  | some value => exact AList.lookup_insert _

theorem defaultSink_change_of_ne (hkey : key ≠ defaultSinkKey) :
    (s.change key value).defaultSink = s.defaultSink := by
  cases value with
  | none => exact AList.lookup_erase_ne hkey.symm
  | some value => exact AList.lookup_insert_ne hkey.symm

/-- The events for the default sink, each with its record. -/
def sinkEvents (events : List PropertyEvent) :
    List (Option ByteString × Bool) :=
  (events.filter fun event => event.key = defaultSinkKey).map fun event =>
    (event.value, event.bReplayed)

theorem sinkEvents_append (front back : List PropertyEvent) :
    sinkEvents (front ++ back) = sinkEvents front ++ sinkEvents back := by
  simp [sinkEvents]

theorem sinkEvents_cons_of_eq {event : PropertyEvent}
    (h : event.key = defaultSinkKey) (events : List PropertyEvent) :
    sinkEvents (event :: events) =
      (event.value, event.bReplayed) :: sinkEvents events := by
  simp [sinkEvents, h]

theorem sinkEvents_cons_of_ne {event : PropertyEvent}
    (h : event.key ≠ defaultSinkKey) (events : List PropertyEvent) :
    sinkEvents (event :: events) = sinkEvents events := by
  simp [sinkEvents, h]

theorem sinkEvents_change (hbound : s.bBound) :
    sinkEvents (s.change key value).events =
      sinkEvents s.events ++ sinkEvents [⟨key, value, false⟩] := by
  show sinkEvents (s.events ++ if s.bBound then _ else _) = _
  rw [if_pos hbound, sinkEvents_append]

theorem sinkEvents_change_of_ne (hkey : key ≠ defaultSinkKey) :
    sinkEvents (s.change key value).events = sinkEvents s.events := by
  have hnone : sinkEvents [⟨key, value, false⟩] = [] :=
    sinkEvents_cons_of_ne hkey []
  show sinkEvents (s.events ++ if s.bBound then _ else _) = _
  rw [sinkEvents_append]
  split
  · rw [hnone, List.append_nil]
  · exact List.append_nil _

end

/-- The replay holds one event for the default sink, if that is set. -/
theorem sinkEvents_replay (order : ReplayOrder)
    (properties : MetadataProperties) :
    sinkEvents (replay order properties) =
      (properties.lookup defaultSinkKey).toList.map fun value =>
        (some value, true) := by
  have hall (entries : List (Sigma fun _ : MetadataKey => ByteString)) :
      sinkEvents (entries.map fun property =>
        ⟨property.1, some property.2, true⟩) =
        (entries.lookupAll defaultSinkKey).map fun value => (some value, true) := by
    induction entries with
    | nil => rfl
    | cons property entries ih =>
        by_cases hkey : property.1 = defaultSinkKey
        · obtain ⟨key, value⟩ := property
          obtain rfl : key = defaultSinkKey := hkey
          rw [List.map_cons, sinkEvents_cons_of_eq rfl, ih,
            List.lookupAll_cons_eq, List.map_cons]
        · rw [List.map_cons, sinkEvents_cons_of_ne hkey, ih,
            List.lookupAll_cons_ne _ _ (Ne.symm hkey)]
  have hperm := order.walk_perm properties.entries
  have hnodup := properties.nodupKeys
  rw [replay, hall, List.perm_lookupAll _
    ((List.perm_nodupKeys hperm).mpr hnodup) hperm,
    List.lookupAll_eq_dlookup _ hnodup]
  rfl

/-! ## Steps -/

/-- The session that an action leaves, case by case. -/
inductive Takes (order : ReplayOrder) (s : MetadataSession) :
    Action → MetadataSession → Prop
  | registry (event : DeviceRegistry.Event) (hrunning : s.bStopped = false) :
      Takes order s (.registry event)
        { s with
          keeper := (s.keeper.handleRegistry event).1
          requests := s.requests ++ (s.keeper.handleRegistry event).2 }
  | serve (request : MetadataRequest) (requests : List MetadataRequest)
      (hrequests : s.requests = request :: requests) :
      Takes order s .serve ({ s with requests }.serve order request)
  | others (key : MetadataKey) (value : Option ByteString)
      (hkey : key ≠ defaultSinkKey) :
      Takes order s (.others key value) (s.change key value)
  | deliver (event : PropertyEvent) (events : List PropertyEvent)
      (hevents : s.events = event :: events) :
      Takes order s .deliver
        { s with keeper := s.keeper.handleMetadataProperty event, events }
  | restore (hrunning : s.bStopped = false) :
      Takes order s .restore
        { s with
          bStopped := true
          requests := s.requests ++ s.keeper.restorePreviousDefaultSink }

theorem takes_of_step {order : ReplayOrder} {s s' : MetadataSession}
    {action : Action} (h : step order s action = some s') :
    Takes order s action s' := by
  cases action with
  | registry event =>
      simp only [step] at h
      split at h
      · cases h
      · rename_i hrunning
        obtain rfl := Option.some.inj h
        exact .registry event (Bool.eq_false_iff.mpr hrunning)
  | serve =>
      simp only [step] at h
      split at h
      · cases h
      · rename_i request requests hrequests
        obtain rfl := Option.some.inj h
        exact .serve request requests hrequests
  | others key value =>
      simp only [step] at h
      split at h
      · cases h
      · rename_i hkey
        obtain rfl := Option.some.inj h
        exact .others key value hkey
  | deliver =>
      simp only [step] at h
      split at h
      · cases h
      · rename_i event events hevents
        obtain rfl := Option.some.inj h
        exact .deliver event events hevents
  | restore =>
      simp only [step] at h
      split at h
      · cases h
      · rename_i hrunning
        obtain rfl := Option.some.inj h
        exact .restore (Bool.eq_false_iff.mpr hrunning)

/-! ## Before the daemon stops -/

/-- Where a running session stands. -/
structure Stage where
  bClaimed : Bool
  requests : List MetadataRequest
  bBound : Bool
  sink : Option ByteString
  /-- The events for the default sink that the server has sent. -/
  stream : List (Option ByteString × Bool)

namespace Stage

variable (initial : Option ByteString)

def replayed : List (Option ByteString × Bool) :=
  initial.toList.map fun value => (some value, true)

/-- The metadata object has not been seen. -/
def unclaimed : Stage := ⟨false, [], false, initial, []⟩

/-- The bind and the claim are under way. -/
def claimed : Stage :=
  ⟨true, DefaultSinkKeeper.claimRequests, false, initial, []⟩

/-- The bind is served. -/
def bound : Stage :=
  ⟨true, [.setProperty defaultSinkKey (some virtualSinkValue)], true, initial,
    replayed initial⟩

/-- The claim is served. -/
def taken : Stage :=
  ⟨true, [], true, some virtualSinkValue,
    replayed initial ++ [(some virtualSinkValue, false)]⟩

end Stage

/-- The first of the delivered events is the one that is kept. -/
structure Captures (keeper : DefaultSinkKeeper)
    (delivered : List (Option ByteString × Bool)) : Prop where
  captured : keeper.bCapturedPreviousDefaultSink = true ↔ delivered ≠ []
  previous : keeper.previousDefaultSinkValue =
    (delivered.head?.bind Prod.fst).getD []

structure IsAt (stage : Stage) (s : MetadataSession) : Prop where
  running : s.bStopped = false
  claimed : s.keeper.registry.defaultMetadata ≠ none ↔ stage.bClaimed = true
  requests : s.requests = stage.requests
  bound : s.bBound = stage.bBound
  sink : s.defaultSink = stage.sink
  flow : ∃ delivered, delivered ++ sinkEvents s.events = stage.stream ∧
    Captures s.keeper delivered

theorem Captures.handle {keeper : DefaultSinkKeeper}
    {delivered : List (Option ByteString × Bool)} (h : Captures keeper delivered)
    (event : PropertyEvent) :
    Captures (keeper.handleMetadataProperty event)
      (delivered ++ sinkEvents [event]) := by
  rw [DefaultSinkKeeper.handleMetadataProperty]
  by_cases hkey : event.key = defaultSinkKey
  · rw [sinkEvents_cons_of_eq hkey]
    rcases List.eq_nil_or_concat delivered with rfl | ⟨front, last, rfl⟩
    · have hfresh : ¬ keeper.bCapturedPreviousDefaultSink = true :=
        fun hcaptured => h.captured.mp hcaptured rfl
      have hempty : keeper.previousDefaultSinkValue = [] := h.previous
      rw [if_neg (not_or.mpr ⟨hfresh, not_not.mpr hkey⟩)]
      refine ⟨iff_of_true rfl (by simp), ?_⟩
      show event.value.getD keeper.previousDefaultSinkValue = _
      rw [hempty]
      rfl
    · have hold : keeper.bCapturedPreviousDefaultSink = true :=
        h.captured.mpr (by simp)
      rw [if_pos (Or.inl hold)]
      refine ⟨iff_of_true hold (by simp), ?_⟩
      rw [h.previous]
      cases front <;> rfl
  · rw [sinkEvents_cons_of_ne hkey, if_pos (Or.inr hkey)]
    exact (List.append_nil delivered).symm ▸ h

section

variable {stage : Stage} {initial : Option ByteString} {s : MetadataSession}

theorem isAt_start (properties : MetadataProperties) :
    IsAt (Stage.unclaimed (properties.lookup defaultSinkKey))
      (start properties) := by
  have hunseen : (start properties).keeper.registry.defaultMetadata = none := rfl
  refine ⟨rfl, iff_of_false (not_not.mpr hunseen) Bool.false_ne_true, rfl, rfl,
    rfl, [], rfl, iff_of_false Bool.false_ne_true (not_not.mpr rfl), rfl⟩

theorem IsAt.others (h : IsAt stage s) {key : MetadataKey}
    (hkey : key ≠ defaultSinkKey) (value : Option ByteString) :
    IsAt stage (s.change key value) := by
  obtain ⟨delivered, hstream, hcaptures⟩ := h.flow
  refine ⟨h.running, h.claimed, h.requests, h.bound, ?_, delivered, ?_, hcaptures⟩
  · rw [defaultSink_change_of_ne hkey, h.sink]
  · rw [sinkEvents_change_of_ne hkey, hstream]

theorem IsAt.deliver (h : IsAt stage s) {event : PropertyEvent}
    {events : List PropertyEvent} (hevents : s.events = event :: events) :
    IsAt stage
      { s with keeper := s.keeper.handleMetadataProperty event, events } := by
  obtain ⟨delivered, hstream, hcaptures⟩ := h.flow
  have hregistry : (s.keeper.handleMetadataProperty event).registry =
      s.keeper.registry := by
    rw [DefaultSinkKeeper.handleMetadataProperty]
    split <;> rfl
  refine ⟨h.running, ?_, h.requests, h.bound, h.sink, _, ?_,
    hcaptures.handle event⟩
  · rw [hregistry]
    exact h.claimed
  · rw [List.append_assoc, ← sinkEvents_append, List.singleton_append, ← hevents,
      hstream]

/-- A registry event leaves the stage, or claims the default sink once. -/
theorem IsAt.registry (h : IsAt stage s) (event : DeviceRegistry.Event) :
    ∃ stage', IsAt stage'
        { s with
          keeper := (s.keeper.handleRegistry event).1
          requests := s.requests ++ (s.keeper.handleRegistry event).2 } ∧
      (stage' = stage ∨ stage.bClaimed = false ∧ stage' =
        { stage with
          bClaimed := true
          requests := stage.requests ++ DefaultSinkKeeper.claimRequests }) := by
  obtain ⟨delivered, hstream, hcaptures⟩ := h.flow
  by_cases hclaims : s.keeper.registry.defaultMetadata = none ∧
      (s.keeper.registry.handle event).defaultMetadata ≠ none
  · have hunclaimed : stage.bClaimed = false :=
      Bool.eq_false_iff.mpr fun hclaimed => h.claimed.mpr hclaimed hclaims.1
    refine ⟨_, ?_, Or.inr ⟨hunclaimed, rfl⟩⟩
    refine ⟨h.running, iff_of_true hclaims.2 rfl, ?_, h.bound, h.sink,
      delivered, hstream, hcaptures.captured, hcaptures.previous⟩
    rw [DefaultSinkKeeper.handleRegistry, if_pos hclaims, h.requests]
  · have hkeeps : (s.keeper.registry.handle event).defaultMetadata ≠ none ↔
        s.keeper.registry.defaultMetadata ≠ none := by
      constructor
      · intro hseen hnone
        exact hclaims ⟨hnone, hseen⟩
      · intro hseen
        rwa [DeviceRegistry.defaultMetadata_handle hseen]
    refine ⟨stage, ?_, Or.inl rfl⟩
    refine ⟨h.running, hkeeps.trans h.claimed, ?_, h.bound, h.sink,
      delivered, hstream, hcaptures.captured, hcaptures.previous⟩
    rw [DefaultSinkKeeper.handleRegistry, if_neg hclaims, List.append_nil,
      h.requests]

theorem IsAt.serve_bind (h : IsAt (Stage.claimed initial) s)
    (order : ReplayOrder) {request : MetadataRequest}
    {requests : List MetadataRequest}
    (hrequests : s.requests = request :: requests) :
    IsAt (Stage.bound initial) ({ s with requests }.serve order request) := by
  obtain ⟨rfl, rfl⟩ := List.cons.inj (hrequests.symm.trans h.requests)
  obtain ⟨delivered, hstream, hcaptures⟩ := h.flow
  refine ⟨h.running, h.claimed, rfl, rfl, h.sink, delivered, ?_, hcaptures⟩
  have hsink : s.properties.lookup defaultSinkKey = initial := h.sink
  show delivered ++ sinkEvents (s.events ++ replay order s.properties) = _
  rw [sinkEvents_append, ← List.append_assoc, hstream, sinkEvents_replay, hsink]
  rfl

theorem IsAt.serve_claim (h : IsAt (Stage.bound initial) s)
    (order : ReplayOrder) {request : MetadataRequest}
    {requests : List MetadataRequest}
    (hrequests : s.requests = request :: requests) :
    IsAt (Stage.taken initial) ({ s with requests }.serve order request) := by
  obtain ⟨rfl, rfl⟩ := List.cons.inj (hrequests.symm.trans h.requests)
  obtain ⟨delivered, hstream, hcaptures⟩ := h.flow
  have hbound : s.bBound = true := h.bound
  refine ⟨h.running, h.claimed, rfl, hbound, defaultSink_change _ _, delivered, ?_,
    hcaptures⟩
  let claiming : MetadataSession := { s with requests := [] }
  have hclaiming : claiming.bBound = true := hbound
  have hevents : sinkEvents (claiming.change defaultSinkKey
      (some virtualSinkValue)).events = _ := sinkEvents_change hclaiming
  refine (congrArg (delivered ++ ·) hevents).trans ?_
  rw [← List.append_assoc, hstream]
  rfl

end

/-! ## Runs until the daemon stops -/

/-- The session runs and is at one of the four stages. -/
def Running (initial : Option ByteString) (s : MetadataSession) : Prop :=
  ∃ stage ∈ [Stage.unclaimed initial, .claimed initial, .bound initial,
    .taken initial], IsAt stage s

section

variable {initial : Option ByteString} {order : ReplayOrder}
  {s s' : MetadataSession} {action : Action}

theorem Running.serve (h : Running initial s) {request : MetadataRequest}
    {requests : List MetadataRequest}
    (hrequests : s.requests = request :: requests) :
    Running initial ({ s with requests }.serve order request) := by
  obtain ⟨stage, hstage, hat⟩ := h
  have hsome : stage.requests ≠ [] := by
    rw [← hat.requests, hrequests]
    exact List.cons_ne_nil _ _
  simp only [List.mem_cons, List.not_mem_nil, or_false] at hstage
  rcases hstage with rfl | rfl | rfl | rfl
  · exact absurd rfl hsome
  · exact ⟨_, by simp, hat.serve_bind order hrequests⟩
  · exact ⟨_, by simp, hat.serve_claim order hrequests⟩
  · exact absurd rfl hsome

theorem Running.registry (h : Running initial s) (event : DeviceRegistry.Event) :
    Running initial
      { s with
        keeper := (s.keeper.handleRegistry event).1
        requests := s.requests ++ (s.keeper.handleRegistry event).2 } := by
  obtain ⟨stage, hstage, hat⟩ := h
  obtain ⟨stage', hat', rfl | ⟨hunclaimed, rfl⟩⟩ := hat.registry event
  · exact ⟨_, hstage, hat'⟩
  · simp only [List.mem_cons, List.not_mem_nil, or_false] at hstage
    rcases hstage with rfl | rfl | rfl | rfl
    · exact ⟨Stage.claimed initial, by simp, hat'⟩
    · cases hunclaimed
    · cases hunclaimed
    · cases hunclaimed

/-- A session that has not been stopped keeps to the stages. -/
theorem Running.step (h : Running initial s)
    (hstep : step order s action = some s') :
    s'.bStopped = true ∨ Running initial s' := by
  obtain ⟨stage, hstage, hat⟩ := id h
  cases takes_of_step hstep with
  | registry event => exact Or.inr (h.registry event)
  | serve request requests hrequests => exact Or.inr (h.serve hrequests)
  | others key value hkey => exact Or.inr ⟨stage, hstage, hat.others hkey value⟩
  | deliver event events hevents =>
      exact Or.inr ⟨stage, hstage, hat.deliver hevents⟩
  | restore => exact Or.inl rfl

theorem bStopped_step (h : s.bStopped = true)
    (hstep : step order s action = some s') : s'.bStopped = true := by
  cases takes_of_step hstep with
  | registry event hrunning => rw [hrunning] at h; cases h
  | serve request requests hrequests => cases request <;> exact h
  | others key value hkey => exact h
  | deliver event events hevents => exact h
  | restore hrunning => rfl

theorem running_of_runFrom {properties : MetadataProperties}
    {past : List Action}
    (hpast : runFrom (step order) (start properties) past = some s)
    (hrunning : s.bStopped = false) :
    Running (properties.lookup defaultSinkKey) s := by
  have hinv := invariant_of_runFrom
    (fun s => s.bStopped = true ∨ Running (properties.lookup defaultSinkKey) s)
    (Or.inr ⟨_, by simp, isAt_start properties⟩)
    (fun s action s' hinv hstep => hinv.elim
      (fun hstopped => Or.inl (bStopped_step hstopped hstep))
      (fun hrunning => hrunning.step hstep))
    hpast
  rw [hrunning] at hinv
  exact hinv.resolve_left Bool.false_ne_true

end

/-! ## What the daemon puts back -/

theorem replaySeen_iff (s : MetadataSession) :
    ReplaySeen s ↔ s.bBound = true ∧
      ∀ event ∈ sinkEvents s.events, event.2 = false := by
  simp only [sinkEvents, List.mem_map, List.mem_filter, decide_eq_true_eq]
  constructor
  · rintro ⟨hbound, hdelivered⟩
    refine ⟨hbound, ?_⟩
    rintro _ ⟨event, ⟨hevent, hkey⟩, rfl⟩
    exact hdelivered event hevent hkey
  · rintro ⟨hbound, hdelivered⟩
    exact ⟨hbound, fun event hevent hkey =>
      hdelivered _ ⟨event, ⟨hevent, hkey⟩, rfl⟩⟩

/-- The daemon holds the value that was set, or nothing but its own. -/
def Found (initial : Option ByteString) (s : MetadataSession) : Prop :=
  (ReplaySeen s ∧ ∃ value, initial = some value ∧
      s.keeper.previousDefaultSinkValue = value) ∨
    (¬ (ReplaySeen s ∧ initial.isSome) ∧
      (s.keeper.previousDefaultSinkValue = [] ∨
        s.keeper.previousDefaultSinkValue = virtualSinkValue))

section

variable {stage : Stage} {initial : Option ByteString} {order : ReplayOrder}
  {s s' : MetadataSession} {action : Action}

theorem IsAt.found_of_bound (h : IsAt stage s) (hbound : stage.bBound = true)
    {echoes : List (Option ByteString × Bool)}
    (hstream : stage.stream = Stage.replayed initial ++ echoes)
    (hechoes : ∀ event ∈ echoes, event = (some virtualSinkValue, false)) :
    Found initial s := by
  obtain ⟨delivered, hflow, hcaptures⟩ := h.flow
  have hprevious := hcaptures.previous
  rw [hstream] at hflow
  cases initial with
  | none =>
      refine Or.inr ⟨fun hseen => Bool.false_ne_true hseen.2, ?_⟩
      cases delivered with
      | nil => exact Or.inl hprevious
      | cons event delivered =>
          have hevent : event ∈ echoes := by
            rw [← show _ = echoes from hflow]
            exact List.mem_cons_self
          obtain rfl := hechoes event hevent
          exact Or.inr hprevious
  | some value =>
      cases delivered with
      | nil =>
          refine Or.inr ⟨fun hseen => ?_, Or.inl hprevious⟩
          have hpending : (some value, true) ∈ sinkEvents s.events := by
            rw [show sinkEvents s.events = _ from hflow]
            exact List.mem_cons_self
          exact Bool.false_ne_true.symm
            (((replaySeen_iff s).mp hseen.1).2 _ hpending)
      | cons event delivered =>
          obtain ⟨rfl, hrest⟩ := List.cons.inj hflow
          refine Or.inl ⟨(replaySeen_iff s).mpr ⟨h.bound.trans hbound, ?_⟩,
            value, rfl, hprevious⟩
          intro event hevent
          have hecho : event ∈ echoes := by
            rw [← show _ = echoes from hrest]
            exact List.mem_append_right delivered hevent
          rw [hechoes event hecho]

/-- What the daemon has found by the time it stops, and what the default sink
would be without putting that back. -/
theorem Running.found (h : Running initial s)
    (hclaimed : s.keeper.registry.defaultMetadata ≠ none) :
    Found initial s ∧ s.eventualSink = some virtualSinkValue := by
  obtain ⟨stage, hstage, hat⟩ := h
  have hstaged := hat.claimed.mp hclaimed
  have hsink : s.eventualSink = stage.requests.foldl sinkBehind stage.sink := by
    rw [eventualSink, hat.requests, hat.sink]
  simp only [List.mem_cons, List.not_mem_nil, or_false] at hstage
  rcases hstage with rfl | rfl | rfl | rfl
  · cases hstaged
  · refine ⟨Or.inr ⟨fun hseen => ?_, Or.inl ?_⟩, hsink⟩
    · exact Bool.false_ne_true
        (hat.bound.symm.trans ((replaySeen_iff s).mp hseen.1).1)
    · obtain ⟨delivered, hflow, hcaptures⟩ := hat.flow
      rw [hcaptures.previous, (List.append_eq_nil_iff.mp hflow).1]
      rfl
  · refine ⟨hat.found_of_bound rfl (List.append_nil _).symm ?_, hsink⟩
    exact fun event hevent => absurd hevent List.not_mem_nil
  · refine ⟨hat.found_of_bound rfl rfl ?_, hsink⟩
    exact fun event hevent => List.mem_singleton.mp hevent

/-- Once the daemon has stopped, the default sink is only that which its last
requests make it. -/
theorem eventualSink_step (h : s.bStopped = true)
    (hstep : step order s action = some s') : s'.eventualSink = s.eventualSink := by
  cases takes_of_step hstep with
  | registry event hrunning => rw [hrunning] at h; cases h
  | serve request requests hrequests =>
      rw [eventualSink, eventualSink, hrequests, List.foldl_cons]
      cases request with
      | bind => rfl
      | setProperty key value =>
          refine congrArg (requests.foldl sinkBehind ·) ?_
          show MetadataSession.defaultSink (change _ key value) =
            if key = defaultSinkKey then value else s.defaultSink
          by_cases hkey : key = defaultSinkKey
          · rw [hkey, defaultSink_change, if_pos rfl]
          · rw [defaultSink_change_of_ne hkey, if_neg hkey]
            rfl
  | others key value hkey =>
      exact congrArg (s.requests.foldl sinkBehind ·)
        (defaultSink_change_of_ne hkey)
  | deliver event events hevents => rfl
  | restore hrunning => rw [hrunning] at h; cases h

theorem eventualSink_of_runFrom (h : s.bStopped = true) {rest : List Action}
    (hrest : runFrom (step order) s rest = some s') :
    s'.eventualSink = s.eventualSink := by
  have hinv := invariant_of_runFrom
    (fun s' => s'.bStopped = true ∧ s'.eventualSink = s.eventualSink) ⟨h, rfl⟩
    (fun s action s' hinv hstep => ⟨bStopped_step hinv.1 hstep,
      (eventualSink_step hinv.1 hstep).trans hinv.2⟩)
    hrest
  exact hinv.2

/-- The default sink that stopping the daemon leads to. -/
theorem eventualSink_restore
    (hclaimed : s.keeper.registry.defaultMetadata ≠ none) :
    eventualSink { s with
      bStopped := true
      requests := s.requests ++ s.keeper.restorePreviousDefaultSink } =
      if s.keeper.previousDefaultSinkValue = [] then s.eventualSink
      else some s.keeper.previousDefaultSinkValue := by
  rw [eventualSink, List.foldl_append, DefaultSinkKeeper.restorePreviousDefaultSink]
  by_cases hempty : s.keeper.previousDefaultSinkValue = []
  · rw [if_pos (Or.inr hempty), if_pos hempty]
    rfl
  · rw [if_neg (not_or.mpr ⟨hclaimed, hempty⟩), if_neg hempty]
    rfl

end

/-- The default sink is left right exactly when a real one was set and the
event that says so reached the daemon before it stopped. -/
theorem leavesDefault_iff (NamesVirtualSink : ByteString → Prop)
    (hvirtual : NamesVirtualSink virtualSinkValue) (order : ReplayOrder)
    (properties : MetadataProperties) {past rest : List Action}
    {before after final : MetadataSession}
    (hpast : runFrom (step order) (start properties) past = some before)
    (hbound : before.keeper.registry.defaultMetadata ≠ none)
    (hrestore : step order before .restore = some after)
    (hrest : runFrom (step order) after rest = some final)
    (hserved : final.requests = []) :
    LeavesDefault NamesVirtualSink (properties.lookup defaultSinkKey)
        final.defaultSink ↔
      (∃ value, properties.lookup defaultSinkKey = some value ∧ value ≠ [] ∧
        ¬ NamesVirtualSink value) ∧ ReplaySeen before := by
  generalize hinitial : properties.lookup defaultSinkKey = initial
  obtain ⟨hrunning, rfl⟩ : before.bStopped = false ∧ { before with
      bStopped := true
      requests := before.requests ++
        before.keeper.restorePreviousDefaultSink } = after := by
    cases takes_of_step hrestore with
    | restore hrunning => exact ⟨hrunning, rfl⟩
  have hstages := running_of_runFrom hpast hrunning
  rw [hinitial] at hstages
  obtain ⟨hfound, hclaim⟩ := hstages.found hbound
  have hfinal : final.defaultSink =
      if before.keeper.previousDefaultSinkValue = [] then some virtualSinkValue
      else some before.keeper.previousDefaultSinkValue := by
    rw [← hclaim, ← eventualSink_restore hbound,
      ← eventualSink_of_runFrom rfl hrest, eventualSink, hserved]
    rfl
  rw [hfinal]
  rcases hfound with ⟨hseen, value, rfl, hprevious⟩ | ⟨hunseen, hown⟩
  · rw [hprevious]
    constructor
    · intro hleaves
      by_cases hempty : value = []
      · rw [if_pos hempty] at hleaves
        exact absurd hvirtual (hleaves.released _ rfl)
      · rw [if_neg hempty] at hleaves
        exact ⟨⟨value, rfl, hempty, hleaves.released _ rfl⟩, hseen⟩
    · rintro ⟨⟨value', hvalue, hempty, hreal⟩, -⟩
      obtain rfl := Option.some.inj hvalue
      rw [if_neg hempty]
      refine ⟨fun _ hvalue' _ _ => hvalue', fun value' hvalue' => ?_⟩
      rwa [← Option.some.inj hvalue']
  · have hkept : (if before.keeper.previousDefaultSinkValue = [] then
        some virtualSinkValue
        else some before.keeper.previousDefaultSinkValue) =
          some virtualSinkValue := by
      rcases hown with hempty | hown
      · rw [if_pos hempty]
      · rw [hown, ite_self]
    rw [hkept]
    constructor
    · intro hleaves
      exact absurd hvirtual (hleaves.released _ rfl)
    · rintro ⟨⟨value, rfl, -⟩, hseen⟩
      exact absurd ⟨hseen, rfl⟩ hunseen

/-! ## With and without a configured sink -/

/-- The registry announces the session's metadata object. -/
def announcesMetadata : DeviceRegistry.Event :=
  .globalAdded 1 (ascii "PipeWire:Interface:Metadata")
    (some [(ascii "metadata.name", ascii "default")]) true

/-- The bind and the claim are served, and one event is delivered. -/
def untilFirstEvent : List Action :=
  [.registry announcesMetadata, .serve, .serve, .deliver]

/-- The user has chosen the speakers. -/
def speakersChosen : MetadataProperties :=
  (∅ : MetadataProperties).insert defaultSinkKey (ascii "speakers")

theorem leavesDefault_iff_speakers :
    ∃ before after final,
      runFrom (step .stored) (start speakersChosen) untilFirstEvent =
        some before ∧
      step .stored before .restore = some after ∧
      runFrom (step .stored) after [.serve] = some final ∧
      LeavesDefault (· = virtualSinkValue) (some (ascii "speakers"))
        final.defaultSink := by
  obtain ⟨before, hpast, hclaimed, hseen⟩ : ∃ before,
      runFrom (step .stored) (start speakersChosen) untilFirstEvent =
        some before ∧
      before.keeper.registry.defaultMetadata ≠ none ∧ ReplaySeen before :=
    ⟨_, rfl, by decide, (replaySeen_iff _).mpr (by decide)⟩
  obtain ⟨after, final, hrestore, hrest, hserved⟩ : ∃ after final,
      step .stored before .restore = some after ∧
      runFrom (step .stored) after [.serve] = some final ∧
      final.requests = [] := by
    obtain rfl := Option.some.inj hpast
    exact ⟨_, _, rfl, rfl, rfl⟩
  exact ⟨before, after, final, hpast, hrestore, hrest,
    (leavesDefault_iff (· = virtualSinkValue) rfl .stored speakersChosen hpast
      hclaimed hrestore hrest hserved).mpr
        ⟨⟨ascii "speakers", rfl, by decide, by decide⟩, hseen⟩⟩

/-- With no sink chosen, the first event is the echo of the claim. -/
theorem leavesDefault_lost :
    ¬ ∀ (order : ReplayOrder) (properties : MetadataProperties)
      (past rest : List Action) (before after final : MetadataSession),
      runFrom (step order) (start properties) past = some before →
      before.keeper.registry.defaultMetadata ≠ none →
      step order before .restore = some after →
      runFrom (step order) after rest = some final →
      final.requests = [] →
      LeavesDefault (· = virtualSinkValue) (properties.lookup defaultSinkKey)
        final.defaultSink := by
  intro h
  have hleaves := h .stored ∅ untilFirstEvent [.serve] _ _ _ rfl (by decide)
    rfl rfl rfl
  exact hleaves.released virtualSinkValue rfl rfl

end MetadataSession

end RamkolFX
