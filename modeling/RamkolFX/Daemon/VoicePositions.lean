import RamkolFX.Daemon.EngineSteps
import RamkolFX.Dsp.VoicePositions
import RamkolFX.Support.Updates

/-!
# The voices follow the speakers

A command that moves a speaker moves it in the shared layout and in the live
stage.  A stage that a switch has built waits for a block of the mode that
renders through the deck, and does not hear of moves until then.
-/

namespace RamkolFX

open Support

/-- The command switches the HRTF source: its index is in the catalog. -/
def Command.switches (inCommand : Command) (catalogSize : ℕ) : Bool :=
  inCommand.commandOpcode = .setHrtfFile ∧
    inCommand.hrtfIndex.toNat < catalogSize

namespace AudioEngine

variable {α : Type} [FloatArith α]

/-! ## Commands -/

/-- A layout with some speakers put where another layout has them. -/
def placed (target layout : SpeakerLayout) (speakers : List SpeakerChannel) :
    SpeakerLayout :=
  speakers.foldl
    (fun layout speaker =>
      (layout.setSpeakerAzimuth speaker
          (target.speakerAzimuthDegrees speaker)).setSpeakerDistance speaker
        (target.speakerDistanceMeters speaker))
    layout

theorem samePositions_placed (target layout : SpeakerLayout) :
    (placed target layout (List.finRange speakerCount)).SamePositions target := by
  constructor
  · exact foldl_update_finRange SpeakerLayout.speakerAzimuthDegrees
      (fun _ _ => rfl) layout
  · refine foldl_update_finRange SpeakerLayout.speakerDistanceMeters
      (fun layout speaker => ?_) layout
    exact congrArg (Function.update layout.speakerDistanceMeters speaker)
      (target.clamped speaker)

/-- Rebuilding the voices of some speakers one after the other follows the
layout that has them in place. -/
theorem follows_rebuiltDeck {libs : DspLibraries α} {target : SpeakerLayout}
    (speakers : List SpeakerChannel) {deck deck' : HrtfDeck α}
    {layout switchLayout : SpeakerLayout}
    (hsound : deck.Sound) (h : deck.Follows layout switchLayout)
    (hrebuilt : rebuiltDeck libs target deck speakers = some deck') :
    deck'.Follows (placed target layout speakers) switchLayout ∧
      deck'.sampleRate = deck.sampleRate := by
  induction speakers generalizing deck layout with
  | nil =>
      obtain rfl := Option.some.inj hrebuilt
      exact ⟨h, rfl⟩
  | cons speaker speakers ih =>
      obtain ⟨next, hnext, hrest⟩ := Option.bind_eq_some_iff.mp hrebuilt
      obtain ⟨live, _, -, rfl, hrebuild, hsound'⟩ :=
        hsound.rebuildVoiceForSpeaker libs speaker
          (target.speakerAzimuthDegrees speaker)
          (target.speakerDistanceMeters speaker)
      obtain rfl := Option.some.inj (hrebuild.symm.trans hnext)
      have hfollows : HrtfDeck.Follows _
          ((layout.setSpeakerAzimuth speaker
              (target.speakerAzimuthDegrees speaker)).setSpeakerDistance speaker
            (target.speakerDistanceMeters speaker)) switchLayout :=
        h.rebuildVoiceForSpeaker hsound hrebuild rfl rfl
      have hplaced := ih hsound' hfollows hrest
      exact hplaced

/-- The engine's deck follows its layout, and its catalog is the given one. -/
structure Positioned (catalog : List HrtfCatalogEntry) (sampleRate : α)
    (switchLayout : SpeakerLayout) (engine : AudioEngine α) : Prop where
  sound : engine.Sound
  sampleRate : engine.advancedStage.sampleRate = sampleRate
  catalog : engine.catalog.runtimeHrtfCatalog = catalog
  follows : engine.advancedStage.Follows engine.sharedLayout switchLayout

variable {catalog : List HrtfCatalogEntry} {sampleRate : α}
  {switchLayout : SpeakerLayout} {engine engine' : AudioEngine α}
  {libs : DspLibraries α} {inCommand : Command}

/-- Every entry of the catalog can be opened. -/
def CatalogLoads (libs : DspLibraries α) (catalog : List HrtfCatalogEntry)
    (sampleRate : α) : Prop :=
  ∀ entry ∈ catalog,
    (BinauralStage.openSource libs entry.kind entry.path sampleRate).isSome

/-- The layout that a pending stage follows after a command. -/
def switchLayoutAfter (catalog : List HrtfCatalogEntry)
    (switchLayout layout : SpeakerLayout) (inCommand : Command) : SpeakerLayout :=
  if inCommand.switches catalog.length then layout else switchLayout

theorem Positioned.applies
    (h : Positioned catalog sampleRate switchLayout engine)
    (hloads : CatalogLoads libs catalog sampleRate)
    (happlies : Applies libs engine inCommand engine') (hsound : engine'.Sound) :
    Positioned catalog sampleRate
      (switchLayoutAfter catalog switchLayout engine'.sharedLayout inCommand)
      engine' := by
  have hstay : inCommand.switches catalog.length = false →
      switchLayoutAfter catalog switchLayout engine'.sharedLayout inCommand =
        switchLayout := by
    intro hswitches
    rw [switchLayoutAfter, if_neg (by simp [hswitches])]
  have hother : inCommand.commandOpcode ≠ .setHrtfFile →
      switchLayoutAfter catalog switchLayout engine'.sharedLayout inCommand =
        switchLayout :=
    fun hop => hstay (by simp [Command.switches, hop])
  cases happlies with
  | setSpeakerAzimuth hop channel hchannel deck hdeck =>
      rw [hother (by simp [hop])]
      refine ⟨hsound, ?_, h.catalog, ?_⟩
      · rw [HrtfDeck.sampleRate_of_rebuildVoiceForSpeaker hdeck, h.sampleRate]
      · apply h.follows.rebuildVoiceForSpeaker h.sound.advancedStage hdeck rfl
        rw [engine.sharedLayout.clamped channel, Function.update_eq_self]
        rfl
  | setSpeakerDistance hop channel hchannel deck hdeck =>
      rw [hother (by simp [hop])]
      refine ⟨hsound, ?_, h.catalog, ?_⟩
      · rw [HrtfDeck.sampleRate_of_rebuildVoiceForSpeaker hdeck, h.sampleRate]
      · refine h.follows.rebuildVoiceForSpeaker h.sound.advancedStage hdeck ?_ rfl
        rw [Function.update_eq_self]
        rfl
  | setNearFieldEnabled hop deck hdeck =>
      rw [hother (by simp [hop])]
      refine ⟨hsound, ?_, h.catalog, ?_⟩
      · rw [HrtfDeck.sampleRate_of_setNearFieldEnabled hdeck, h.sampleRate]
      · exact h.follows.setNearFieldEnabled h.sound.advancedStage hdeck
  | resetSpeakerPositions hop deck hdeck =>
      rw [hother (by simp [hop])]
      obtain ⟨hfollows, hrate⟩ := follows_rebuiltDeck _ h.sound.advancedStage
        h.follows hdeck
      refine ⟨hsound, hrate.trans h.sampleRate, h.catalog, ?_⟩
      exact hfollows.of_samePositions (samePositions_placed _ _)
  | setSpeakerMute hop channel hchannel =>
      rw [hother (by simp [hop])]
      exact ⟨hsound, h.sampleRate, h.catalog,
        h.follows.of_samePositions ⟨rfl, rfl⟩⟩
  | setHrtfFile hop entry hentry =>
      have hindex := (List.getElem?_eq_some_iff.mp hentry).1
      have hmem : entry ∈ catalog := h.catalog ▸ List.mem_of_getElem? hentry
      have hswitches : inCommand.switches catalog.length := by
        simp [Command.switches, hop, ← h.catalog, hindex]
      rw [switchLayoutAfter, if_pos hswitches]
      refine ⟨hsound, h.sampleRate, h.catalog, h.follows.live, ?_⟩
      rintro pending ⟨⟩
      refine BinauralStage.follows_new libs engine.sharedLayout entry.kind
        entry.path _ _ ?_
      rw [h.sampleRate]
      exact hloads entry hmem
  | unchanged hmode hdevice hindex =>
      rw [hstay]
      · exact h
      · rw [Command.switches, decide_eq_false_iff_not]
        rintro ⟨hop, hlt⟩
        rw [← h.catalog] at hlt
        exact absurd (List.getElem?_eq_none_iff.mp (hindex hop)) (by omega)
  | setSpatialMode hop | setOutputDevice hop | setTestNoise hop | setHwEqBand hop
  | setBassEnhancer hop =>
      rw [hother (by simp [hop])]
      exact ⟨hsound, h.sampleRate, h.catalog, h.follows⟩

theorem Positioned.handled
    (h : Positioned catalog sampleRate switchLayout engine)
    (hloads : CatalogLoads libs catalog sampleRate)
    (hhandled : Handled libs engine inCommand engine') :
    Positioned catalog sampleRate
      (switchLayoutAfter catalog switchLayout engine'.sharedLayout inCommand)
      engine' := by
  obtain ⟨deck, applied, settings, hcollect, happlies, rfl⟩ := hhandled.applied
  obtain ⟨live, _, -, rfl, hcollect', hsound⟩ := h.sound.advancedStage.collectGarbage
  obtain rfl := Option.some.inj (hcollect'.symm.trans hcollect)
  have hcollected : Positioned catalog sampleRate switchLayout
      { engine with
        advancedStage := _
        hwEq := engine.hwEq.collectGarbage
        bassEnhancer := engine.bassEnhancer.collectGarbage } :=
    ⟨⟨hsound, h.sound.hwEq.collectGarbage, h.sound.bassEnhancer.collectGarbage⟩,
      h.sampleRate, h.catalog,
      h.follows.collectGarbage h.sound.advancedStage hcollect⟩
  have happlied := hcollected.applies hloads happlies
    ⟨hhandled.sound.advancedStage, hhandled.sound.hwEq,
      hhandled.sound.bassEnhancer⟩
  exact ⟨hhandled.sound, happlied.sampleRate, happlied.catalog, happlied.follows⟩

/-! ## Runs of commands and blocks -/

/-- What reaches a playing daemon: a request, or a block of captured audio. -/
inductive Played (α : Type)
  | request (frame : Frame) (bConnects : Bool)
  | block (interleaved : List (SevenOneFrame α))

namespace Played

omit [FloatArith α]

def event : Played α → Event α
  | .request frame bConnects => .request frame bConnects
  | .block interleaved => .virtualSinkAudio interleaved

/-- The request switches the HRTF source. -/
def switches (catalogSize : ℕ) (played : Played α) : Bool :=
  played.event.command.any fun inCommand => inCommand.switches catalogSize

end Played

/-- The past up to the last switch. -/
def upToSwitch (catalogSize : ℕ) (past : List (Played α)) : List (Played α) :=
  past.rdropWhile fun played => !played.switches catalogSize

omit [FloatArith α] in
theorem upToSwitch_concat (catalogSize : ℕ) (past : List (Played α))
    (played : Played α) :
    upToSwitch catalogSize (past ++ [played]) =
      if played.switches catalogSize then past ++ [played]
      else upToSwitch catalogSize past := by
  cases hswitches : played.switches catalogSize with
  | true =>
      rw [upToSwitch, List.rdropWhile_concat_neg _ _ _ (by simp [hswitches])]
      rfl
  | false =>
      rw [upToSwitch, List.rdropWhile_concat_pos _ _ _ (by simp [hswitches])]
      rfl

def playStep (setup : DaemonSetup α) (daemon : Daemon α) (played : Played α) :
    Option (Daemon α) :=
  step setup daemon played.event

/-- After these events, unless a switch is pending, every voice of the live
stage follows the layout. -/
def VoicesFollow (setup : DaemonSetup α) (start : Daemon α)
    (past : List (Played α)) : Prop :=
  ∃ daemon live, runFrom (playStep setup) start past = some daemon ∧
    daemon.engine.advancedStage.slot.live = some live ∧
    (daemon.engine.advancedStage.slot.pending = none →
      live.Follows daemon.engine.sharedLayout)

/-- A block that takes a pending stage comes while the speakers are where they
were at the switch. -/
def TakesCurrentPositions (setup : DaemonSetup α) (start : Daemon α)
    (past : List (Played α)) : Played α → Prop
  | .request _ _ => True
  | .block _ => ∀ daemon atSwitch,
      runFrom (playStep setup) start past = some daemon →
      runFrom (playStep setup) start
        (upToSwitch start.engine.catalog.runtimeHrtfCatalog.length past) =
          some atSwitch →
      daemon.engine.mode = .advanced →
      daemon.engine.advancedStage.slot.Takes →
      atSwitch.engine.sharedLayout.SamePositions daemon.engine.sharedLayout

section

variable {setup : DaemonSetup α} {start daemon : Daemon α}
  {past : List (Played α)}

/-- The deck follows the layout now and the layout at the last switch. -/
def FollowsSinceSwitch (setup : DaemonSetup α) (start : Daemon α)
    (past : List (Played α)) (daemon : Daemon α) : Prop :=
  ∃ atSwitch,
    runFrom (playStep setup) start
      (upToSwitch start.engine.catalog.runtimeHrtfCatalog.length past) =
        some atSwitch ∧
    Positioned start.engine.catalog.runtimeHrtfCatalog
      start.engine.advancedStage.sampleRate atSwitch.engine.sharedLayout
      daemon.engine

theorem FollowsSinceSwitch.voicesFollow
    (h : FollowsSinceSwitch setup start past daemon)
    (hrun : runFrom (playStep setup) start past = some daemon) :
    VoicesFollow setup start past := by
  obtain ⟨atSwitch, -, hpositioned⟩ := h
  obtain ⟨live, hlive, -⟩ := hpositioned.sound.advancedStage.live
  exact ⟨daemon, live, hrun, hlive, fun _ => hpositioned.follows.live live hlive⟩

/-- A request keeps the layouts followed. -/
theorem FollowsSinceSwitch.request
    (h : FollowsSinceSwitch setup start past daemon)
    (hrun : runFrom (playStep setup) start past = some daemon)
    (hloads : CatalogLoads setup.libs start.engine.catalog.runtimeHrtfCatalog
      start.engine.advancedStage.sampleRate)
    (frame : Frame) (bConnects : Bool) :
    ∃ daemon', playStep setup daemon (.request frame bConnects) = some daemon' ∧
      FollowsSinceSwitch setup start (past ++ [.request frame bConnects])
        daemon' := by
  obtain ⟨atSwitch, hswitch, hpositioned⟩ := h
  cases hcommand : frame.command with
  | none =>
      refine ⟨daemon, step_of_undecoded hcommand daemon bConnects, atSwitch, ?_,
        hpositioned⟩
      have hstay : Played.switches (α := α)
          start.engine.catalog.runtimeHrtfCatalog.length
          (.request frame bConnects) = false := by
        simp [Played.switches, Played.event, Event.command, hcommand]
      rw [upToSwitch_concat, hstay]
      exact hswitch
  | some inCommand =>
      have hevent : (Event.request frame bConnects : Event α).command =
          some inCommand := hcommand
      obtain ⟨limit, hbounds⟩ := Frame.inBounds_of_command hcommand
      obtain ⟨engine', hhandle, hhandled⟩ :=
        hpositioned.sound.handleControlCommand setup hbounds bConnects
      have hstep : playStep setup daemon (.request frame bConnects) =
          some ⟨engine', daemon.responses ++ [answer setup engine' inCommand]⟩ :=
        step_of_handled hcommand hhandle
      have hpositioned' := hpositioned.handled hloads hhandled
      have hsame : Played.switches (α := α)
          start.engine.catalog.runtimeHrtfCatalog.length
          (.request frame bConnects) =
          inCommand.switches start.engine.catalog.runtimeHrtfCatalog.length := by
        simp [Played.switches, Played.event, hevent]
      refine ⟨_, hstep, ?_⟩
      rw [switchLayoutAfter, ← hsame] at hpositioned'
      by_cases hswitches : Played.switches (α := α)
          start.engine.catalog.runtimeHrtfCatalog.length (.request frame bConnects)
      · rw [if_pos hswitches] at hpositioned'
        refine ⟨⟨engine', daemon.responses ++ [answer setup engine' inCommand]⟩, ?_,
          hpositioned'⟩
        rw [upToSwitch_concat, if_pos hswitches]
        exact runFrom_concat_of hrun hstep
      · rw [if_neg hswitches] at hpositioned'
        refine ⟨atSwitch, ?_, hpositioned'⟩
        rw [upToSwitch_concat, if_neg hswitches]
        exact hswitch

/-- A block keeps the layouts followed if the positions are current where it
takes a stage. -/
theorem FollowsSinceSwitch.block
    (h : FollowsSinceSwitch setup start past daemon)
    (hrun : runFrom (playStep setup) start past = some daemon)
    (interleaved : List (SevenOneFrame α))
    (hcurrent : TakesCurrentPositions setup start past (.block interleaved)) :
    ∃ daemon', playStep setup daemon (.block interleaved) = some daemon' ∧
      FollowsSinceSwitch setup start (past ++ [.block interleaved]) daemon' := by
  obtain ⟨atSwitch, hswitch, hpositioned⟩ := h
  obtain ⟨engine', hblock, hrendered⟩ :=
    hpositioned.sound.handleVirtualSinkAudio setup.libs interleaved
  refine ⟨_, step_of_rendered hblock, atSwitch, ?_, hrendered.sound, ?_, ?_, ?_⟩
  · rw [upToSwitch_concat]
    exact hswitch
  · exact hrendered.sampleRate.trans hpositioned.sampleRate
  · exact (congrArg _ hrendered.catalog).trans hpositioned.catalog
  · rw [hrendered.sharedLayout]
    by_cases hmode : daemon.engine.mode = .advanced
    · exact hpositioned.follows.rendered (hrendered.active hmode)
        (hcurrent daemon atSwitch hrun hswitch hmode)
    · rw [hrendered.idle hmode]
      exact hpositioned.follows

theorem FollowsSinceSwitch.step (h : FollowsSinceSwitch setup start past daemon)
    (hrun : runFrom (playStep setup) start past = some daemon)
    (hloads : CatalogLoads setup.libs start.engine.catalog.runtimeHrtfCatalog
      start.engine.advancedStage.sampleRate)
    (played : Played α) (hcurrent : TakesCurrentPositions setup start past played) :
    ∃ daemon', playStep setup daemon played = some daemon' ∧
      FollowsSinceSwitch setup start (past ++ [played]) daemon' := by
  cases played with
  | request frame bConnects => exact h.request hrun hloads frame bConnects
  | block interleaved => exact h.block hrun interleaved hcurrent

/-- A block that takes a stage and leaves the voices following came while the
positions were the ones at the switch. -/
theorem FollowsSinceSwitch.takesCurrentPositions
    (h : FollowsSinceSwitch setup start past daemon)
    (hrun : runFrom (playStep setup) start past = some daemon)
    (interleaved : List (SevenOneFrame α))
    (hfollow : VoicesFollow setup start (past ++ [.block interleaved])) :
    TakesCurrentPositions setup start past (.block interleaved) := by
  intro other atSwitch hother hatSwitch hmode htakes
  obtain rfl : daemon = other := Option.some.inj (hrun.symm.trans hother)
  obtain ⟨atSwitch', hswitch, hpositioned⟩ := h
  obtain rfl : atSwitch' = atSwitch :=
    Option.some.inj (hswitch.symm.trans hatSwitch)
  obtain ⟨engine', hblock, hrendered⟩ :=
    hpositioned.sound.handleVirtualSinkAudio setup.libs interleaved
  have hstep : playStep setup daemon (.block interleaved) =
      some { daemon with engine := engine' } := step_of_rendered hblock
  obtain ⟨after, live, hafter, hlive, hfollows⟩ := hfollow
  obtain rfl : { daemon with engine := engine' } = after :=
    eq_of_runFrom_concat hrun hstep hafter
  refine hpositioned.follows.samePositions (hrendered.active hmode) ?_ htakes
  intro live' hnone hlive'
  obtain rfl := Option.some.inj (hlive.symm.trans hlive')
  rw [← hrendered.sharedLayout]
  exact hfollows hnone

end

theorem followsSinceSwitch_run (setup : DaemonSetup α) (store : SettingsStore)
    (devices : DeviceRegistry)
    (hinitial : ∀ live, (run setup store devices).advancedStage.slot.live =
      some live → live.hrtf.isSome) :
    FollowsSinceSwitch setup ⟨run setup store devices, []⟩ []
      ⟨run setup store devices, []⟩ := by
  refine ⟨_, rfl, sound_run setup store devices, rfl, rfl, ?_, ?_⟩
  · rintro live ⟨⟩
    have hloads := hinitial _ rfl
    rw [BinauralStage.new, Option.isSome_map] at hloads
    exact BinauralStage.follows_new _ _ _ _ _ _ hloads
  · intro pending hpending
    exact absurd hpending (by simp [run, HrtfDeck.new])

/-- With sources that load, the voices follow the speakers all along a run
exactly when every pending stage is taken while the speakers are where they
were at the switch. -/
theorem voicesFollow_iff (setup : DaemonSetup α) (store : SettingsStore)
    (devices : DeviceRegistry)
    (hinitial : ∀ live, (AudioEngine.run setup store devices).advancedStage.slot.live =
      some live → live.hrtf.isSome)
    (hcatalog : CatalogLoads setup.libs
      (AudioEngine.run setup store devices).catalog.runtimeHrtfCatalog
      (HardwareOutput.sampleRate : α))
    (run : List (Played α)) :
    let start : Daemon α := ⟨.run setup store devices, []⟩
    Throughout (VoicesFollow setup start) run ↔
      AtEachEvent (TakesCurrentPositions setup start) run := by
  intro start
  refine throughout_iff_of_invariant (playStep setup)
    (FollowsSinceSwitch setup start)
    (followsSinceSwitch_run setup store devices hinitial) ?_ ?_ ?_ run
  · intro past daemon hrun h
    exact h.voicesFollow hrun
  · intro past daemon played hrun h hmeets
    exact h.step hrun hcatalog played hmeets
  · intro past daemon played hrun h hfollow
    cases played with
    | request frame bConnects => trivial
    | block interleaved => exact h.takesCurrentPositions hrun interleaved hfollow

/-! ## A daemon with one bundled head -/

/-- A SOFA file that is measured as a unit impulse wherever it is looked up,
and the synthetic head in the catalog. -/
noncomputable def headSetup : DaemonSetup ℝ where
  libs :=
    { fft := PartitionedConvolver.exactFft
      mysofa := ⟨fun _ _ => some ⟨fun _ _ _ => ([1], [1], 0, 0)⟩,
        fun coordinates => coordinates⟩ }
  files := ⟨[⟨ascii "Head", .syntheticSphericalHead, []⟩], fun _ => false, [], [],
    [], none⟩
  order := .stored

/-- A started daemon without saved settings. -/
noncomputable def headDaemon : Daemon ℝ :=
  ⟨.run headSetup ⟨none, true⟩ DeviceRegistry.new, []⟩

theorem catalog_headDaemon :
    headDaemon.engine.catalog =
      ⟨[⟨ascii "Head", .syntheticSphericalHead, []⟩], 0⟩ := by
  simp [headDaemon, run, headSetup, HrtfCatalog.resolveInitialHrtf,
    HrtfCatalog.persistedChoice, HrtfCatalog.rebuildHrtfCatalog,
    HrtfCatalog.buildHrtfCatalog, HrtfCatalog.scanUserHrtfDirectory,
    HrtfCatalog.State.activateFirst, SettingsStore.load,
    HrtfCatalog.maxCatalogEntries]

/-- The catalog is the only part that does not evaluate. -/
theorem headDaemon_eq :
    headDaemon = ⟨{ headDaemon.engine with
      catalog := ⟨[⟨ascii "Head", .syntheticSphericalHead, []⟩], 0⟩ }, []⟩ := by
  rw [← catalog_headDaemon]
  rfl

theorem headDaemon_loads :
    ∀ live, headDaemon.engine.advancedStage.slot.live = some live →
      live.hrtf.isSome := by
  rintro live ⟨⟩
  rfl

theorem catalogLoads_headDaemon :
    CatalogLoads headSetup.libs headDaemon.engine.catalog.runtimeHrtfCatalog
      (HardwareOutput.sampleRate : ℝ) := by
  intro entry hentry
  rw [catalog_headDaemon] at hentry
  obtain rfl := List.mem_singleton.mp hentry
  rfl

/-- The mode that renders through the deck is set, and the head switched to. -/
def switched : List (Played ℝ) :=
  [.request ⟨Opcode.setSpatialMode.toByte, [2], by decide⟩ true,
    .request ⟨Opcode.setHrtfFile.toByte, [0], by decide⟩ true]

/-- Then the front left speaker is moved to the front. -/
def movedAfterSwitch : List (Played ℝ) :=
  switched ++
    [.request ⟨Opcode.setSpeakerAzimuth.toByte, [0, 0, 0, 0, 0], by decide⟩ true]

theorem upToSwitch_switched :
    upToSwitch headDaemon.engine.catalog.runtimeHrtfCatalog.length switched =
      switched := by
  rw [catalog_headDaemon]
  rfl

theorem upToSwitch_movedAfterSwitch :
    upToSwitch headDaemon.engine.catalog.runtimeHrtfCatalog.length
      movedAfterSwitch = switched := by
  rw [catalog_headDaemon]
  rfl

/-- Without a block there is nothing to meet. -/
theorem takesCurrentPositions_of_requests {past : List (Played ℝ)}
    (h : ∀ played ∈ past, ∃ frame bConnects,
      played = .request frame bConnects) :
    AtEachEvent (TakesCurrentPositions headSetup headDaemon) past := by
  intro front played hpast
  obtain ⟨frame, bConnects, rfl⟩ := h played (hpast.subset (by simp))
  trivial

/-- A switch that is taken at once is followed. -/
theorem voicesFollow_switched :
    Throughout (VoicesFollow headSetup headDaemon)
      (switched ++ [.block [fun _ => 0]]) := by
  refine (voicesFollow_iff headSetup ⟨none, true⟩ DeviceRegistry.new
    headDaemon_loads catalogLoads_headDaemon _).mpr ?_
  refine (atEachEvent_concat _ _).mpr
    ⟨takesCurrentPositions_of_requests (by simp [switched]), ?_⟩
  intro daemon atSwitch hrun hswitch _ _
  have hsame : runFrom (playStep headSetup) headDaemon switched =
      some atSwitch := upToSwitch_switched ▸ hswitch
  obtain rfl := Option.some.inj (hrun.symm.trans hsame)
  exact ⟨rfl, rfl⟩

/-- The voices of the stage that a block takes were built before the move. -/
theorem voicesFollow_lost :
    ¬ Throughout (VoicesFollow headSetup headDaemon)
      (movedAfterSwitch ++ [.block [fun _ => 0]]) := by
  intro h
  have hruns : ∃ daemon atSwitch,
      runFrom (playStep headSetup) headDaemon movedAfterSwitch = some daemon ∧
      runFrom (playStep headSetup) headDaemon switched = some atSwitch ∧
      daemon.engine.mode = .advanced ∧
      daemon.engine.advancedStage.slot.Takes ∧
      atSwitch.engine.sharedLayout.speakerAzimuthDegrees 0 ≠
        daemon.engine.sharedLayout.speakerAzimuthDegrees 0 := by
    rw [headDaemon_eq]
    refine ⟨_, _, rfl, rfl, rfl, ⟨rfl, rfl⟩, ?_⟩
    show (⟨0x41F00000⟩ : Binary32) ≠ ⟨0⟩
    decide
  obtain ⟨daemon, atSwitch, hrun, hswitch, hmode, htakes, hmoved⟩ := hruns
  have hrequests : AtEachEvent (TakesCurrentPositions headSetup headDaemon)
      movedAfterSwitch :=
    takesCurrentPositions_of_requests (by simp [movedAfterSwitch, switched])
  obtain ⟨other, hother, hfollows⟩ := runFrom_invariant (playStep headSetup)
    (FollowsSinceSwitch headSetup headDaemon)
    (followsSinceSwitch_run headSetup ⟨none, true⟩ DeviceRegistry.new
      headDaemon_loads)
    (fun past daemon played hrun h hmeets =>
      h.step hrun catalogLoads_headDaemon played hmeets) hrequests
  obtain rfl : daemon = other := Option.some.inj (hrun.symm.trans hother)
  have hsame := hfollows.takesCurrentPositions hrun [fun _ => 0] h.last daemon
    atSwitch hrun (upToSwitch_movedAfterSwitch ▸ hswitch) hmode htakes
  exact hmoved (congrFun hsame.1 0)

end AudioEngine

end RamkolFX
