import RamkolFX.Daemon.ControlCommands
import RamkolFX.Protocol.RequestRoundTrip

/-!
# What an event does to the engine

One inversion lemma for the command handler, one for the audio callback, and
one for the events.  An engine whose stages hold no null pointer answers every
decoded command and renders every block, and stays such an engine.
-/

namespace RamkolFX

open Support

namespace AudioEngine

variable {α : Type} [FloatArith α]

/-- No stage renders a null pointer. -/
structure Sound (engine : AudioEngine α) : Prop where
  advancedStage : engine.advancedStage.Sound
  hwEq : engine.hwEq.Sound
  bassEnhancer : engine.bassEnhancer.Sound

theorem sound_run (setup : DaemonSetup α) (store : SettingsStore)
    (devices : DeviceRegistry) : (run setup store devices).Sound :=
  ⟨HrtfDeck.sound_new _ _ _ _ _ _, FilterStage.sound_new _ _,
    FilterStage.sound_new _ _⟩

variable {engine : AudioEngine α}

/-! ## The parts of a command -/

omit [FloatArith α] in
theorem Sound.collectGarbage (h : engine.Sound) :
    ∃ deck engine', engine.advancedStage.collectGarbage = some deck ∧
      engine' =
        { engine with
          advancedStage := deck
          hwEq := engine.hwEq.collectGarbage
          bassEnhancer := engine.bassEnhancer.collectGarbage } ∧
      collectGarbage engine = some engine' ∧ engine'.Sound := by
  obtain ⟨live, deck, -, -, hcollect, hsound⟩ := h.advancedStage.collectGarbage
  refine ⟨deck, _, hcollect, rfl, ?_, hsound, h.hwEq.collectGarbage,
    h.bassEnhancer.collectGarbage⟩
  rw [AudioEngine.collectGarbage, hcollect]
  rfl

theorem Sound.rebuildVoice (h : engine.Sound) (libs : DspLibraries α)
    (speaker : SpeakerChannel) (azimuthDegrees distanceMeters : Binary32) :
    ∃ deck engine',
      engine.advancedStage.rebuildVoiceForSpeaker libs speaker azimuthDegrees
        distanceMeters = some deck ∧
      engine' = { engine with advancedStage := deck } ∧
      rebuildVoice libs engine speaker azimuthDegrees distanceMeters =
        some engine' ∧ engine'.Sound := by
  obtain ⟨live, deck, -, -, hrebuild, hsound⟩ :=
    h.advancedStage.rebuildVoiceForSpeaker libs speaker azimuthDegrees
      distanceMeters
  refine ⟨deck, _, hrebuild, rfl, ?_, hsound, h.hwEq, h.bassEnhancer⟩
  rw [AudioEngine.rebuildVoice, hrebuild]
  rfl

/-- The deck after the voices of some speakers are rebuilt for the positions
a layout holds. -/
def rebuiltDeck (libs : DspLibraries α) (layout : SpeakerLayout)
    (deck : HrtfDeck α) (speakers : List SpeakerChannel) : Option (HrtfDeck α) :=
  speakers.foldlM
    (fun deck channel => deck.rebuildVoiceForSpeaker libs channel
      (layout.speakerAzimuthDegrees channel)
      (layout.speakerDistanceMeters channel)) deck

/-- Rebuilding the voices of some speakers changes the deck only. -/
theorem Sound.rebuildVoices (h : engine.Sound) (libs : DspLibraries α)
    (layout : SpeakerLayout) (speakers : List SpeakerChannel) :
    ∃ deck, rebuiltDeck libs layout engine.advancedStage speakers = some deck ∧
      speakers.foldlM
        (fun engine channel => AudioEngine.rebuildVoice libs engine channel
          (layout.speakerAzimuthDegrees channel)
          (layout.speakerDistanceMeters channel)) engine =
        some { engine with advancedStage := deck } ∧
      ({ engine with advancedStage := deck } : AudioEngine α).Sound := by
  induction speakers generalizing engine with
  | nil => exact ⟨engine.advancedStage, rfl, rfl, h⟩
  | cons speaker speakers ih =>
      obtain ⟨deck, _, hdeck, rfl, hrebuild, hsound⟩ := h.rebuildVoice libs
        speaker (layout.speakerAzimuthDegrees speaker)
        (layout.speakerDistanceMeters speaker)
      obtain ⟨deck', hdeck', hrest, hsound'⟩ := ih hsound
      refine ⟨deck', ?_, ?_, hsound'⟩
      · rw [rebuiltDeck, List.foldlM_cons, hdeck]
        exact hdeck'
      · rw [List.foldlM_cons, hrebuild]
        exact hrest

theorem Sound.setSpeakerAzimuth (h : engine.Sound) (libs : DspLibraries α)
    (channel : SpeakerChannel) (azimuthDegrees : Binary32) :
    ∃ deck engine', engine.advancedStage.rebuildVoiceForSpeaker libs channel
        azimuthDegrees (engine.sharedLayout.speakerDistanceMeters channel) =
          some deck ∧
      engine' =
        { engine with
          sharedLayout :=
            engine.sharedLayout.setSpeakerAzimuth channel azimuthDegrees
          advancedStage := deck } ∧
      setSpeakerAzimuth libs engine channel azimuthDegrees = some engine' ∧
      engine'.Sound := by
  have hmoved : ({ engine with
      sharedLayout :=
        engine.sharedLayout.setSpeakerAzimuth channel azimuthDegrees } :
      AudioEngine α).Sound := ⟨h.advancedStage, h.hwEq, h.bassEnhancer⟩
  obtain ⟨deck, _, hdeck, rfl, hrebuild, hsound⟩ := hmoved.rebuildVoice libs
    channel azimuthDegrees (engine.sharedLayout.speakerDistanceMeters channel)
  exact ⟨deck, _, hdeck, rfl, hrebuild, hsound⟩

theorem Sound.setSpeakerDistance (h : engine.Sound) (libs : DspLibraries α)
    (channel : SpeakerChannel) (distanceMeters : Binary32) :
    ∃ deck engine', engine.advancedStage.rebuildVoiceForSpeaker libs channel
        (engine.sharedLayout.speakerAzimuthDegrees channel) distanceMeters =
          some deck ∧
      engine' =
        { engine with
          sharedLayout :=
            engine.sharedLayout.setSpeakerDistance channel distanceMeters
          advancedStage := deck } ∧
      setSpeakerDistance libs engine channel distanceMeters = some engine' ∧
      engine'.Sound := by
  have hmoved : ({ engine with
      sharedLayout :=
        engine.sharedLayout.setSpeakerDistance channel distanceMeters } :
      AudioEngine α).Sound := ⟨h.advancedStage, h.hwEq, h.bassEnhancer⟩
  obtain ⟨deck, _, hdeck, rfl, hrebuild, hsound⟩ := hmoved.rebuildVoice libs
    channel (engine.sharedLayout.speakerAzimuthDegrees channel) distanceMeters
  exact ⟨deck, _, hdeck, rfl, hrebuild, hsound⟩

omit [FloatArith α] in
theorem Sound.setNearFieldEnabled (h : engine.Sound) (bEnabled : Bool) :
    ∃ deck engine', engine.advancedStage.setNearFieldEnabled bEnabled =
        some deck ∧
      engine' =
        { engine with
          bNearFieldEnabled := bEnabled
          advancedStage := deck } ∧
      setNearFieldEnabled engine bEnabled = some engine' ∧ engine'.Sound := by
  obtain ⟨live, deck, -, -, hset, hsound⟩ :=
    h.advancedStage.setNearFieldEnabled bEnabled
  refine ⟨deck, _, hset, rfl, ?_, hsound, h.hwEq, h.bassEnhancer⟩
  rw [AudioEngine.setNearFieldEnabled, hset]
  rfl

theorem Sound.resetSpeakerPositions (h : engine.Sound) (libs : DspLibraries α) :
    ∃ deck engine', rebuiltDeck libs engine.sharedLayout.resetSpeakerPositions
        engine.advancedStage (List.finRange speakerCount) = some deck ∧
      engine' =
        { engine with
          sharedLayout := engine.sharedLayout.resetSpeakerPositions
          advancedStage := deck } ∧
      resetSpeakerPositions libs engine = some engine' ∧ engine'.Sound := by
  have hmoved : ({ engine with
      sharedLayout := engine.sharedLayout.resetSpeakerPositions } :
      AudioEngine α).Sound := ⟨h.advancedStage, h.hwEq, h.bassEnhancer⟩
  obtain ⟨deck, hdeck, hrebuild, hsound⟩ := hmoved.rebuildVoices libs
    engine.sharedLayout.resetSpeakerPositions (List.finRange speakerCount)
  exact ⟨deck, _, hdeck, rfl, hrebuild, hsound⟩

/-! ## Commands -/

/-- The engine that a command leaves, case by case. -/
inductive Applies (libs : DspLibraries α) (engine : AudioEngine α)
    (inCommand : Command) : AudioEngine α → Prop
  | setSpatialMode (hop : inCommand.commandOpcode = .setSpatialMode) :
      Applies libs engine inCommand { engine with mode := inCommand.modeValue }
  | setSpeakerAzimuth (hop : inCommand.commandOpcode = .setSpeakerAzimuth)
      (channel : SpeakerChannel) (hchannel : speakerChannel inCommand = some channel)
      (deck : HrtfDeck α)
      (hdeck : engine.advancedStage.rebuildVoiceForSpeaker libs channel
        inCommand.azimuthDegrees
        (engine.sharedLayout.speakerDistanceMeters channel) = some deck) :
      Applies libs engine inCommand
        { engine with
          sharedLayout := engine.sharedLayout.setSpeakerAzimuth channel
            inCommand.azimuthDegrees
          advancedStage := deck }
  | setSpeakerDistance (hop : inCommand.commandOpcode = .setSpeakerDistance)
      (channel : SpeakerChannel) (hchannel : speakerChannel inCommand = some channel)
      (deck : HrtfDeck α)
      (hdeck : engine.advancedStage.rebuildVoiceForSpeaker libs channel
        (engine.sharedLayout.speakerAzimuthDegrees channel)
        inCommand.distanceMeters = some deck) :
      Applies libs engine inCommand
        { engine with
          sharedLayout := engine.sharedLayout.setSpeakerDistance channel
            inCommand.distanceMeters
          advancedStage := deck }
  | setNearFieldEnabled (hop : inCommand.commandOpcode = .setNearFieldEnabled)
      (deck : HrtfDeck α)
      (hdeck : engine.advancedStage.setNearFieldEnabled
        inCommand.bNearFieldEnabled = some deck) :
      Applies libs engine inCommand
        { engine with
          bNearFieldEnabled := inCommand.bNearFieldEnabled
          advancedStage := deck }
  | resetSpeakerPositions (hop : inCommand.commandOpcode = .resetSpeakerPositions)
      (deck : HrtfDeck α)
      (hdeck : rebuiltDeck libs engine.sharedLayout.resetSpeakerPositions
        engine.advancedStage (List.finRange speakerCount) = some deck) :
      Applies libs engine inCommand
        { engine with
          sharedLayout := engine.sharedLayout.resetSpeakerPositions
          advancedStage := deck }
  | setOutputDevice (hop : inCommand.commandOpcode = .setOutputDevice)
      (bConnects : Bool) :
      Applies libs engine inCommand
        { engine with
          output := (engine.output.setTargetNode inCommand.outputDeviceName
            bConnects).2 }
  | setSpeakerMute (hop : inCommand.commandOpcode = .setSpeakerMute)
      (channel : SpeakerChannel)
      (hchannel : speakerChannel inCommand = some channel) :
      Applies libs engine inCommand
        { engine with
          sharedLayout :=
            engine.sharedLayout.setSpeakerMuted channel inCommand.bMuted }
  | setTestNoise (hop : inCommand.commandOpcode = .setTestNoise) :
      Applies libs engine inCommand
        { engine with bTestNoiseEnabled := inCommand.bTestNoiseEnabled }
  | setHrtfFile (hop : inCommand.commandOpcode = .setHrtfFile)
      (entry : HrtfCatalogEntry)
      (hentry : engine.catalog.runtimeHrtfCatalog[inCommand.hrtfIndex.toNat]? =
        some entry) :
      Applies libs engine inCommand
        { engine with
          advancedStage := engine.advancedStage.switchTo libs
            engine.sharedLayout entry.kind entry.path
          catalog :=
            { engine.catalog with activeHrtfIndex := inCommand.hrtfIndex } }
  | setHwEqBand (hop : inCommand.commandOpcode = .setHwEqBand)
      (i : Fin maxEqBands) (hband : band inCommand = some i) :
      Applies libs engine inCommand (setHwEqBand engine i inCommand.band)
  | setBassEnhancer (hop : inCommand.commandOpcode = .setBassEnhancer) :
      Applies libs engine inCommand
        (setBassEnhancer engine inCommand.bassEnhancer)
  | unchanged (hmode : inCommand.commandOpcode ≠ .setSpatialMode)
      (hdevice : inCommand.commandOpcode ≠ .setOutputDevice)
      (hindex : inCommand.commandOpcode = .setHrtfFile →
        engine.catalog.runtimeHrtfCatalog[inCommand.hrtfIndex.toNat]? = none) :
      Applies libs engine inCommand engine

theorem speakerChannel_of_inBounds {inCommand : Command} {limit : ℕ}
    (h : inCommand.InBounds limit) :
    ∃ channel, speakerChannel inCommand = some channel :=
  ⟨_, dif_pos h.speakerIndex⟩

theorem band_of_inBounds {inCommand : Command} {limit : ℕ}
    (h : inCommand.InBounds limit) : ∃ i, band inCommand = some i :=
  ⟨_, dif_pos h.bandIndex⟩

/-- Every command whose indices are in bounds is applied. -/
theorem Sound.applyCommand (h : engine.Sound) (libs : DspLibraries α)
    {inCommand : Command} {limit : ℕ} (hbounds : inCommand.InBounds limit)
    (bConnects : Bool) :
    ∃ engine' bPersistedStateChanged,
      Applies libs engine inCommand engine' ∧ engine'.Sound ∧
      applyCommand libs engine inCommand bConnects =
        some (engine', bPersistedStateChanged) := by
  obtain ⟨channel, hchannel⟩ := speakerChannel_of_inBounds hbounds
  obtain ⟨i, hband⟩ := band_of_inBounds hbounds
  cases hop : inCommand.commandOpcode with
  | setSpatialMode =>
      refine ⟨_, true, .setSpatialMode hop,
        ⟨h.advancedStage, h.hwEq, h.bassEnhancer⟩, ?_⟩
      simp only [AudioEngine.applyCommand, hop]
  | setOutputDevice =>
      refine ⟨_, true, .setOutputDevice hop bConnects,
        ⟨h.advancedStage, h.hwEq, h.bassEnhancer⟩, ?_⟩
      simp only [AudioEngine.applyCommand, hop]
  | setSpeakerAzimuth =>
      obtain ⟨deck, _, hdeck, rfl, hset, hsound⟩ :=
        h.setSpeakerAzimuth libs channel inCommand.azimuthDegrees
      refine ⟨_, true, .setSpeakerAzimuth hop channel hchannel deck hdeck,
        hsound, ?_⟩
      simp only [AudioEngine.applyCommand, hop, hchannel, hset,
        Option.bind_eq_bind, Option.bind_some]
      rfl
  | setSpeakerDistance =>
      obtain ⟨deck, _, hdeck, rfl, hset, hsound⟩ :=
        h.setSpeakerDistance libs channel inCommand.distanceMeters
      refine ⟨_, true, .setSpeakerDistance hop channel hchannel deck hdeck,
        hsound, ?_⟩
      simp only [AudioEngine.applyCommand, hop, hchannel, hset,
        Option.bind_eq_bind, Option.bind_some]
      rfl
  | setNearFieldEnabled =>
      obtain ⟨deck, _, hdeck, rfl, hset, hsound⟩ :=
        h.setNearFieldEnabled inCommand.bNearFieldEnabled
      refine ⟨_, true, .setNearFieldEnabled hop deck hdeck, hsound, ?_⟩
      simp only [AudioEngine.applyCommand, hop, hset, Option.bind_eq_bind,
        Option.bind_some]
      rfl
  | resetSpeakerPositions =>
      obtain ⟨deck, _, hdeck, rfl, hset, hsound⟩ := h.resetSpeakerPositions libs
      refine ⟨_, true, .resetSpeakerPositions hop deck hdeck, hsound, ?_⟩
      simp only [AudioEngine.applyCommand, hop, hset, Option.bind_eq_bind,
        Option.bind_some]
      rfl
  | setSpeakerMute =>
      refine ⟨_, true, .setSpeakerMute hop channel hchannel,
        ⟨h.advancedStage, h.hwEq, h.bassEnhancer⟩, ?_⟩
      simp only [AudioEngine.applyCommand, hop, hchannel, Option.bind_eq_bind,
        Option.bind_some]
      rfl
  | setTestNoise =>
      refine ⟨_, false, .setTestNoise hop,
        ⟨h.advancedStage, h.hwEq, h.bassEnhancer⟩, ?_⟩
      simp only [AudioEngine.applyCommand, hop]
  | setHrtfFile =>
      cases hset : setHrtfFile libs engine inCommand.hrtfIndex with
      | none =>
          have hindex := Option.map_eq_none_iff.mp hset
          refine ⟨engine, false, .unchanged (by simp [hop]) (by simp [hop])
            fun _ => hindex, h, ?_⟩
          simp only [AudioEngine.applyCommand, hop, hset]
      | some engine' =>
          obtain ⟨entry, hentry, rfl⟩ := Option.map_eq_some_iff.mp hset
          have hswitched := h.advancedStage.switchTo libs engine.sharedLayout
            entry.kind entry.path
          refine ⟨_, true, .setHrtfFile hop entry hentry,
            ⟨hswitched, h.hwEq, h.bassEnhancer⟩, ?_⟩
          simp only [AudioEngine.applyCommand, hop, hset]
  | setHwEqBand =>
      refine ⟨_, true, .setHwEqBand hop i hband,
        ⟨h.advancedStage, h.hwEq.publish _, h.bassEnhancer⟩, ?_⟩
      simp only [AudioEngine.applyCommand, hop, hband, Option.bind_eq_bind,
        Option.bind_some]
      rfl
  | setBassEnhancer =>
      refine ⟨_, true, .setBassEnhancer hop,
        ⟨h.advancedStage, h.hwEq, h.bassEnhancer.publish _⟩, ?_⟩
      simp only [AudioEngine.applyCommand, hop]
  | _ =>
      refine ⟨engine, false,
        .unchanged (by simp [hop]) (by simp [hop]) (by simp [hop]), h, ?_⟩
      simp only [AudioEngine.applyCommand, hop]

section

variable {libs : DspLibraries α} {inCommand : Command} {engine' : AudioEngine α}

theorem Applies.targetNodeName (h : Applies libs engine inCommand engine') :
    engine'.output.targetNodeName =
      if inCommand.commandOpcode = .setOutputDevice then
        inCommand.outputDeviceName
      else engine.output.targetNodeName := by
  cases h with
  | setOutputDevice hop bConnects =>
      rw [if_pos hop, HardwareOutput.targetNodeName_setTargetNode]
  | unchanged hmode hdevice hindex => rw [if_neg hdevice]
  | setHwEqBand hop | setBassEnhancer hop =>
      rw [if_neg (by simp [hop])]
      rfl
  | _ hop => rw [if_neg (by simp [hop])]

/-- A command leaves the stream pinned to the target that it leaves. -/
theorem Applies.pinned (h : Applies libs engine inCommand engine')
    (hpinned : engine.output.Pinned) : engine'.output.Pinned := by
  cases h with
  | setOutputDevice hop bConnects => exact hpinned.setTargetNode _ bConnects
  | _ => exact hpinned

theorem Applies.mode (h : Applies libs engine inCommand engine') :
    engine'.mode = if inCommand.commandOpcode = .setSpatialMode then
      inCommand.modeValue else engine.mode := by
  cases h with
  | setSpatialMode hop => rw [if_pos hop]
  | unchanged hmode hdevice hindex => rw [if_neg hmode]
  | setHwEqBand hop | setBassEnhancer hop =>
      rw [if_neg (by simp [hop])]
      rfl
  | _ hop => rw [if_neg (by simp [hop])]

end

/-! ## Responses -/

/-- The response to a command, from the engine behind it. -/
def answer (setup : DaemonSetup α) (engine : AudioEngine α)
    (inCommand : Command) : List UInt8 :=
  match inCommand.commandOpcode with
  | .getDevices =>
      encodeDeviceListResponse (engine.devices.getDevices setup.order)
  | .getHwEqState => encodeHwEqStateResponse engine.hwEqBandState
  | .getBassEnhancerState =>
      encodeBassEnhancerStateResponse engine.bassEnhancerSettingsState
  | .getHrtfCatalog =>
      encodeHrtfCatalogResponse
        (engine.catalog.runtimeHrtfCatalog.map HrtfCatalogEntry.displayName)
  | _ => encodeStatusResponse engine.status

/-- A command handled: the stages are collected, the command is applied, and
what it left may be saved. -/
structure Handled (libs : DspLibraries α) (engine : AudioEngine α)
    (inCommand : Command) (engine' : AudioEngine α) : Prop where
  sound : engine'.Sound
  applied : ∃ deck applied settings,
    engine.advancedStage.collectGarbage = some deck ∧
    Applies libs
      { engine with
        advancedStage := deck
        hwEq := engine.hwEq.collectGarbage
        bassEnhancer := engine.bassEnhancer.collectGarbage } inCommand applied ∧
    engine' = { applied with settings }

theorem Handled.targetNodeName {libs : DspLibraries α} {inCommand : Command}
    {engine' : AudioEngine α} (h : Handled libs engine inCommand engine') :
    engine'.output.targetNodeName =
      if inCommand.commandOpcode = .setOutputDevice then
        inCommand.outputDeviceName
      else engine.output.targetNodeName := by
  obtain ⟨deck, applied, settings, -, happlies, rfl⟩ := h.applied
  exact happlies.targetNodeName

theorem Handled.pinned {libs : DspLibraries α} {inCommand : Command}
    {engine' : AudioEngine α} (h : Handled libs engine inCommand engine')
    (hpinned : engine.output.Pinned) : engine'.output.Pinned := by
  obtain ⟨deck, applied, settings, -, happlies, rfl⟩ := h.applied
  exact happlies.pinned hpinned

theorem Handled.mode {libs : DspLibraries α} {inCommand : Command}
    {engine' : AudioEngine α} (h : Handled libs engine inCommand engine') :
    engine'.mode = if inCommand.commandOpcode = .setSpatialMode then
      inCommand.modeValue else engine.mode := by
  obtain ⟨deck, applied, settings, -, happlies, rfl⟩ := h.applied
  exact happlies.mode

/-- Every decoded command is answered. -/
theorem Sound.handleControlCommand (h : engine.Sound) (setup : DaemonSetup α)
    {inCommand : Command} {limit : ℕ} (hbounds : inCommand.InBounds limit)
    (bConnects : Bool) :
    ∃ engine', handleControlCommand setup engine inCommand bConnects =
        some (answer setup engine' inCommand, engine') ∧
      Handled setup.libs engine inCommand engine' := by
  obtain ⟨deck, collected, hdeck, rfl, hcollect, hsound⟩ := h.collectGarbage
  cases hop : inCommand.commandOpcode with
  | getDevices | getHwEqState | getBassEnhancerState | getHrtfCatalog =>
      refine ⟨_, ?_, hsound, deck, _, _, hdeck, .unchanged (by simp [hop])
        (by simp [hop]) (by simp [hop]), rfl⟩
      simp only [AudioEngine.handleControlCommand, answer, hop, hcollect,
        Option.bind_eq_bind, Option.bind_some]
      rfl
  | _ =>
      obtain ⟨engine', bPersistedStateChanged, happlies, hsound', happly⟩ :=
        hsound.applyCommand setup.libs hbounds bConnects
      cases bPersistedStateChanged with
      | false =>
          refine ⟨engine', ?_, hsound', deck, engine', _, hdeck, happlies, rfl⟩
          simp only [AudioEngine.handleControlCommand, answer, hop, hcollect,
            happly, Option.bind_eq_bind, Option.bind_some]
          rfl
      | true =>
          refine ⟨persistCurrentSettings engine' engine'.status, ?_,
            ⟨hsound'.advancedStage, hsound'.hwEq, hsound'.bassEnhancer⟩, deck,
            engine', _, hdeck, happlies, rfl⟩
          simp only [AudioEngine.handleControlCommand, answer, hop, hcollect,
            happly, Option.bind_eq_bind, Option.bind_some]
          rfl

/-- A status is read and answered, and the positions stay. -/
theorem answers_getStatus {setup : DaemonSetup α} {engine' : AudioEngine α}
    {inCommand : Command} {bConnects : Bool} {response : List UInt8}
    (hop : inCommand.commandOpcode = .getStatus)
    (h : handleControlCommand setup engine inCommand bConnects =
      some (response, engine')) :
    response = encodeStatusResponse engine'.status ∧
      engine'.sharedLayout = engine.sharedLayout := by
  obtain ⟨collected, hcollect, h⟩ := Option.bind_eq_some_iff.mp h
  obtain ⟨deck, -, hcollected⟩ := Option.bind_eq_some_iff.mp hcollect
  obtain rfl := Option.some.inj hcollected
  simp only [hop] at h
  obtain ⟨⟨applied, bSaved⟩, happly, h⟩ := Option.bind_eq_some_iff.mp h
  simp only [applyCommand, hop] at happly
  obtain ⟨rfl, rfl⟩ := Prod.mk.inj (Option.some.inj happly)
  obtain ⟨rfl, rfl⟩ := Prod.mk.inj (Option.some.inj h)
  exact ⟨rfl, rfl⟩

/-- The command stores the clamped distance. -/
theorem distance_of_setSpeakerDistance {setup : DaemonSetup α}
    {engine' : AudioEngine α} {inCommand : Command} {bConnects : Bool}
    {response : List UInt8} {channel : SpeakerChannel}
    (hop : inCommand.commandOpcode = .setSpeakerDistance)
    (hchannel : speakerChannel inCommand = some channel)
    (h : handleControlCommand setup engine inCommand bConnects =
      some (response, engine')) :
    engine'.sharedLayout.speakerDistanceMeters channel =
      clampDistance inCommand.distanceMeters := by
  obtain ⟨collected, -, h⟩ := Option.bind_eq_some_iff.mp h
  simp only [hop] at h
  obtain ⟨⟨applied, bSaved⟩, happly, h⟩ := Option.bind_eq_some_iff.mp h
  simp only [applyCommand, hop, hchannel, Option.bind_eq_bind,
    Option.bind_some] at happly
  obtain ⟨moved, hmoved, happly⟩ := Option.bind_eq_some_iff.mp happly
  obtain ⟨deck, -, hmoved⟩ := Option.bind_eq_some_iff.mp hmoved
  obtain rfl := Option.some.inj hmoved
  obtain ⟨rfl, rfl⟩ := Prod.mk.inj (Option.some.inj happly)
  obtain ⟨-, rfl⟩ := Prod.mk.inj (Option.some.inj h)
  exact Function.update_self ..

/-! ## Audio -/

/-- What a block of captured audio leaves behind: only the audio state moves,
and the deck only in the mode that renders through it. -/
structure Rendered (engine engine' : AudioEngine α) : Prop where
  sound : engine'.Sound
  output : engine'.output = engine.output
  mode : engine'.mode = engine.mode
  sharedLayout : engine'.sharedLayout = engine.sharedLayout
  catalog : engine'.catalog = engine.catalog
  sampleRate :
    engine'.advancedStage.sampleRate = engine.advancedStage.sampleRate
  idle : engine.mode ≠ .advanced → engine'.advancedStage = engine.advancedStage
  active : engine.mode = .advanced →
    CrossfadingSlot.Rendered BinauralStage.KeepsControl engine.advancedStage.slot
      engine'.advancedStage.slot

theorem Sound.processActiveStage (h : engine.Sound) (libs : DspLibraries α)
    (input : List (SevenOneFrame α)) :
    ∃ output deck, processActiveStage libs engine input = some (output, deck) ∧
      deck.Sound ∧ deck.sampleRate = engine.advancedStage.sampleRate ∧
      (engine.mode ≠ .advanced → deck = engine.advancedStage) ∧
      (engine.mode = .advanced →
        CrossfadingSlot.Rendered BinauralStage.KeepsControl
          engine.advancedStage.slot deck.slot) := by
  by_cases hbasic : engine.mode = .basic
  · refine ⟨_, engine.advancedStage, by rw [AudioEngine.processActiveStage,
      if_pos hbasic], h.advancedStage, rfl, fun _ => rfl, ?_⟩
    intro hadvanced
    exact absurd (hbasic.symm.trans hadvanced) (by decide)
  · by_cases hadvanced : engine.mode = .advanced
    · obtain ⟨output, deck, hprocess, hsound, hdeck, hrendered⟩ :=
        h.advancedStage.process libs engine.sharedLayout input
      refine ⟨output, deck, by rw [AudioEngine.processActiveStage,
        if_neg hbasic, if_pos hadvanced, hprocess], hsound, by rw [hdeck], ?_,
        fun _ => hrendered⟩
      intro hidle
      exact absurd hadvanced hidle
    · refine ⟨_, engine.advancedStage, by rw [AudioEngine.processActiveStage,
        if_neg hbasic, if_neg hadvanced], h.advancedStage, rfl, fun _ => rfl, ?_⟩
      intro hactive
      exact absurd hactive hadvanced

/-- Every block of captured audio is rendered. -/
theorem Sound.handleVirtualSinkAudio (h : engine.Sound) (libs : DspLibraries α)
    (interleaved : List (SevenOneFrame α)) :
    ∃ engine', handleVirtualSinkAudio libs engine interleaved = some engine' ∧
      Rendered engine engine' := by
  obtain ⟨output, deck, hdeck, hsound, hrate, hidle, hactive⟩ :=
    h.processActiveStage libs (captureInput engine interleaved).1
  obtain ⟨output', hwEq, heq, hwEqSound⟩ :=
    h.hwEq.process GraphicEqFilter.process output
  obtain ⟨output'', bassEnhancer, hbass, bassSound⟩ :=
    h.bassEnhancer.process BassEnhancerFilter.process output'
  have hstep : AudioEngine.handleVirtualSinkAudio libs engine interleaved =
      some { engine with
        noiseState := (captureInput engine interleaved).2
        advancedStage := deck
        hwEq
        bassEnhancer
        stereoMixBuffer :=
          (engine.stereoMixBuffer.push (interleave output'')).2 } := by
    simp only [AudioEngine.handleVirtualSinkAudio, hdeck, HwEqStage.process, heq,
      BassEnhancerStage.process, hbass, Option.bind_eq_bind, Option.bind_some]
    rfl
  refine ⟨_, hstep, ?_⟩
  exact ⟨⟨hsound, hwEqSound, bassSound⟩, rfl, rfl, rfl, rfl, hrate, hidle,
    hactive⟩

/-! ## Events -/

namespace Event

omit [FloatArith α]

/-- The command of a request, if its frame decodes. -/
def command : Event α → Option Command
  | .request frame _ => frame.command
  | _ => none

/-- The device that a request selects. -/
def selectedDevice (event : Event α) : Option ByteString :=
  event.command.bind fun inCommand =>
    if inCommand.commandOpcode = .setOutputDevice then
      some inCommand.outputDeviceName
    else none

/-- The mode that a request selects. -/
def selectedMode (event : Event α) : Option SpatialMode :=
  event.command.bind fun inCommand =>
    if inCommand.commandOpcode = .setSpatialMode then some inCommand.modeValue
    else none

theorem inBounds_of_command {event : Event α} {inCommand : Command}
    (h : event.command = some inCommand) : ∃ limit, inCommand.InBounds limit := by
  cases event with
  | request frame bConnects => exact Frame.inBounds_of_command h
  | _ => cases h

theorem selectedMode_isValid {event : Event α} {mode : SpatialMode}
    (h : event.selectedMode = some mode) : mode.IsValid := by
  obtain ⟨inCommand, hcommand, hmode⟩ := Option.bind_eq_some_iff.mp h
  obtain ⟨limit, hbounds⟩ := inBounds_of_command hcommand
  split at hmode
  · obtain rfl := Option.some.inj hmode
    exact hbounds.modeValue
  · cases hmode

theorem selectedDevice_setOutputDevice (name : ByteString)
    (h : name.length < 2 ^ 16) (bConnects : Bool) :
    selectedDevice
      (.request (α := α) ⟨Opcode.setOutputDevice.toByte, name, h⟩ bConnects) =
        some name := by
  have hdecode : decodeCommand Opcode.setOutputDevice.toByte name =
      .ok (some
        { commandOpcode := .setOutputDevice, outputDeviceName := name }) := by
    rw [decodeCommand]
    simp only [Opcode.ofByte_toByte, bytesAt_all]
    rfl
  rw [selectedDevice, command, Frame.command, hdecode]
  rfl

end Event

/-- What an event leaves behind: the target and the mode are the ones it
selects, the stream is still pinned to the target, and a decoded request is
answered. -/
structure Stepped (setup : DaemonSetup α) (daemon : Daemon α) (event : Event α)
    (daemon' : Daemon α) : Prop where
  sound : daemon'.engine.Sound
  targetNodeName : daemon'.engine.output.targetNodeName =
    event.selectedDevice.getD daemon.engine.output.targetNodeName
  pinned : daemon.engine.output.Pinned → daemon'.engine.output.Pinned
  mode : daemon'.engine.mode = event.selectedMode.getD daemon.engine.mode
  responses : daemon'.responses = daemon.responses ++
    (event.command.map (answer setup daemon'.engine)).toList

theorem step_of_undecoded {setup : DaemonSetup α} {frame : Frame}
    (hcommand : frame.command = none) (daemon : Daemon α) (bConnects : Bool) :
    step setup daemon (.request frame bConnects) = some daemon := by
  simp only [step, hcommand]

theorem step_of_handled {setup : DaemonSetup α} {daemon : Daemon α}
    {frame : Frame} {inCommand : Command} {bConnects : Bool}
    {response : List UInt8} {engine' : AudioEngine α}
    (hcommand : frame.command = some inCommand)
    (hhandle : handleControlCommand setup daemon.engine inCommand bConnects =
      some (response, engine')) :
    step setup daemon (.request frame bConnects) =
      some ⟨engine', daemon.responses ++ [response]⟩ := by
  simp only [step, hcommand, hhandle, Option.bind_eq_bind, Option.bind_some]
  rfl

theorem step_of_rendered {setup : DaemonSetup α} {daemon : Daemon α}
    {interleaved : List (SevenOneFrame α)} {engine' : AudioEngine α}
    (hblock : handleVirtualSinkAudio setup.libs daemon.engine interleaved =
      some engine') :
    step setup daemon (.virtualSinkAudio interleaved) =
      some { daemon with engine := engine' } := by
  simp only [step, hblock, Option.bind_eq_bind, Option.bind_some]
  rfl

/-- The daemon that an event leaves, case by case. -/
inductive Takes (setup : DaemonSetup α) (daemon : Daemon α) :
    Event α → Daemon α → Prop
  | undecoded (frame : Frame) (bConnects : Bool)
      (hcommand : frame.command = none) :
      Takes setup daemon (.request frame bConnects) daemon
  | handled (frame : Frame) (bConnects : Bool) (inCommand : Command) (limit : ℕ)
      (hcommand : frame.command = some inCommand)
      (hbounds : inCommand.InBounds limit) (engine' : AudioEngine α)
      (hhandled : Handled setup.libs daemon.engine inCommand engine') :
      Takes setup daemon (.request frame bConnects)
        ⟨engine', daemon.responses ++ [answer setup engine' inCommand]⟩
  | rendered (interleaved : List (SevenOneFrame α)) (engine' : AudioEngine α)
      (hblock : handleVirtualSinkAudio setup.libs daemon.engine interleaved =
        some engine')
      (hrendered : Rendered daemon.engine engine') :
      Takes setup daemon (.virtualSinkAudio interleaved)
        { daemon with engine := engine' }
  | hardwareOutputRequest (frames : ℕ) :
      Takes setup daemon (.hardwareOutputRequest frames)
        { daemon with
          engine := (handleHardwareOutputRequest daemon.engine frames).2.2 }
  | registry (event : DeviceRegistry.Event) :
      Takes setup daemon (.registry event)
        { daemon with
          engine := { daemon.engine with
            devices := daemon.engine.devices.handle event } }
  | hrtfDirectoryChanged (files : HrtfFiles) :
      Takes setup daemon (.hrtfDirectoryChanged files)
        { daemon with
          engine := { daemon.engine with
            catalog :=
              HrtfCatalog.rebuildHrtfCatalog files daemon.engine.catalog } }

/-- Every event can take place. -/
theorem Sound.exists_takes {daemon : Daemon α} (h : daemon.engine.Sound)
    (setup : DaemonSetup α) (event : Event α) :
    ∃ daemon', step setup daemon event = some daemon' ∧
      Takes setup daemon event daemon' := by
  cases event with
  | request frame bConnects =>
      cases hcommand : frame.command with
      | none =>
          exact ⟨daemon, step_of_undecoded hcommand daemon bConnects,
            .undecoded frame bConnects hcommand⟩
      | some inCommand =>
          obtain ⟨limit, hbounds⟩ := Frame.inBounds_of_command hcommand
          obtain ⟨engine', hhandle, hhandled⟩ :=
            h.handleControlCommand setup hbounds bConnects
          exact ⟨_, step_of_handled hcommand hhandle,
            .handled frame bConnects inCommand limit hcommand hbounds engine'
              hhandled⟩
  | virtualSinkAudio interleaved =>
      obtain ⟨engine', hblock, hrendered⟩ :=
        h.handleVirtualSinkAudio setup.libs interleaved
      exact ⟨_, step_of_rendered hblock,
        .rendered interleaved engine' hblock hrendered⟩
  | hardwareOutputRequest frames => exact ⟨_, rfl, .hardwareOutputRequest frames⟩
  | registry event => exact ⟨_, rfl, .registry event⟩
  | hrtfDirectoryChanged files => exact ⟨_, rfl, .hrtfDirectoryChanged files⟩

theorem Sound.takes {setup : DaemonSetup α} {daemon daemon' : Daemon α}
    {event : Event α} (h : daemon.engine.Sound)
    (hstep : step setup daemon event = some daemon') :
    Takes setup daemon event daemon' := by
  obtain ⟨daemon'', hstep', htakes⟩ := h.exists_takes setup event
  obtain rfl := Option.some.inj (hstep.symm.trans hstep')
  exact htakes

theorem Takes.stepped {setup : DaemonSetup α} {daemon daemon' : Daemon α}
    {event : Event α} (htakes : Takes setup daemon event daemon')
    (h : daemon.engine.Sound) : Stepped setup daemon event daemon' := by
  have hkept : ∀ engine : AudioEngine α, engine.Sound →
      engine.output = daemon.engine.output → engine.mode = daemon.engine.mode →
      event.command = none → Stepped setup daemon event { daemon with engine } := by
    intro engine hsound houtput hmode hcommand
    refine ⟨hsound, ?_, ?_, ?_, ?_⟩
    · simp [Event.selectedDevice, hcommand, houtput]
    · intro hpinned
      rwa [houtput]
    · simp [Event.selectedMode, hcommand, hmode]
    · simp [hcommand]
  cases htakes with
  | undecoded frame bConnects hcommand =>
      exact hkept daemon.engine h rfl rfl hcommand
  | handled frame bConnects inCommand limit hcommand hbounds engine' hhandled =>
      refine ⟨hhandled.sound, ?_, hhandled.pinned, ?_, ?_⟩
      · rw [hhandled.targetNodeName]
        by_cases hop : inCommand.commandOpcode = .setOutputDevice <;>
          simp [Event.selectedDevice, Event.command, hcommand, hop]
      · rw [hhandled.mode]
        by_cases hop : inCommand.commandOpcode = .setSpatialMode <;>
          simp [Event.selectedMode, Event.command, hcommand, hop]
      · simp [Event.command, hcommand]
  | rendered interleaved engine' hblock hrendered =>
      exact hkept engine' hrendered.sound hrendered.output hrendered.mode rfl
  | hardwareOutputRequest | registry | hrtfDirectoryChanged =>
      exact hkept _ ⟨h.advancedStage, h.hwEq, h.bassEnhancer⟩ rfl rfl rfl

theorem Sound.step {daemon : Daemon α} (h : daemon.engine.Sound)
    (setup : DaemonSetup α) (event : Event α) :
    ∃ daemon', step setup daemon event = some daemon' ∧
      Stepped setup daemon event daemon' := by
  obtain ⟨daemon', hstep, htakes⟩ := h.exists_takes setup event
  exact ⟨daemon', hstep, htakes.stepped h⟩

end AudioEngine

end RamkolFX
