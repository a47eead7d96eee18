import RamkolFX.Dsp.BinauralStage
import RamkolFX.Dsp.ConvolverRuns
import RamkolFX.Dsp.ExactArith
import Mathlib.Data.List.DropRight

/-!
# HRTF deck

Two binaural stages in a crossfading slot, so that the HRTF source can be
switched while audio runs.  Control calls reach the stage that is live at that
instant; a stage that is still pending does not hear of them.
-/

namespace RamkolFX

open Support

variable {α : Type}

structure HrtfDeck (α : Type) where
  sampleRate : α
  bNearFieldEnabled : Bool
  slot : CrossfadingSlot (BinauralStage α)

namespace HrtfDeck

section

variable [FloatArith α]

def new (libs : DspLibraries α) (layout : SpeakerLayout) (kind : HrtfSourceKind)
    (sofaPath : ByteString) (sampleRate : α) (bInitialNearFieldEnabled : Bool) :
    HrtfDeck α :=
  { sampleRate
    bNearFieldEnabled := bInitialNearFieldEnabled
    slot :=
      { live := some (.new libs layout kind sofaPath sampleRate
          bInitialNearFieldEnabled)
        crossfadeFrames := fiftyMilliseconds sampleRate } }

def switchTo (libs : DspLibraries α) (layout : SpeakerLayout)
    (deck : HrtfDeck α) (kind : HrtfSourceKind) (sofaPath : ByteString) :
    HrtfDeck α :=
  { deck with
    slot := deck.slot.publish
      (.new libs layout kind sofaPath deck.sampleRate deck.bNearFieldEnabled) }

omit [FloatArith α] in
def setNearFieldEnabled (deck : HrtfDeck α) (bEnabled : Bool) :
    Option (HrtfDeck α) := do
  let slot ← deck.slot.forwardToLive fun stage =>
    stage.setNearFieldEnabled bEnabled
  return { deck with bNearFieldEnabled := bEnabled, slot }

def rebuildVoiceForSpeaker (libs : DspLibraries α) (deck : HrtfDeck α)
    (speaker : SpeakerChannel) (azimuthDegrees distanceMeters : Binary32) :
    Option (HrtfDeck α) := do
  let slot ← deck.slot.forwardToLive fun stage =>
    stage.rebuildVoiceForSpeaker libs speaker azimuthDegrees distanceMeters
  return { deck with slot }

def collectGarbage (deck : HrtfDeck α) : Option (HrtfDeck α) := do
  let slot ← deck.slot.collectGarbage.forwardToLive
    BinauralStage.collectVoiceGarbage
  return { deck with slot }

def process (libs : DspLibraries α) (layout : SpeakerLayout)
    (deck : HrtfDeck α) (input : List (SevenOneFrame α)) :
    Option (List (StereoFrame α) × HrtfDeck α) := do
  let (output, slot) ← deck.slot.process
    (fun stage input => stage.process libs layout input) input
  return (output, { deck with slot })

/-! ## What each call does -/

omit [FloatArith α] in
theorem sampleRate_of_setNearFieldEnabled {deck deck' : HrtfDeck α}
    {bEnabled : Bool} (h : deck.setNearFieldEnabled bEnabled = some deck') :
    deck'.sampleRate = deck.sampleRate := by
  obtain ⟨slot, -, hdeck⟩ := Option.bind_eq_some_iff.mp h
  obtain rfl := Option.some.inj hdeck
  rfl

theorem sampleRate_of_rebuildVoiceForSpeaker {deck deck' : HrtfDeck α}
    {libs : DspLibraries α} {speaker : SpeakerChannel}
    {azimuthDegrees distanceMeters : Binary32}
    (h : deck.rebuildVoiceForSpeaker libs speaker azimuthDegrees
      distanceMeters = some deck') : deck'.sampleRate = deck.sampleRate := by
  obtain ⟨slot, -, hdeck⟩ := Option.bind_eq_some_iff.mp h
  obtain rfl := Option.some.inj hdeck
  rfl

/-- No stage of the deck renders a null pointer. -/
def Sound (deck : HrtfDeck α) : Prop :=
  deck.slot.Sound BinauralStage.Sound

section

variable {deck : HrtfDeck α}

theorem sound_new (libs : DspLibraries α) (layout : SpeakerLayout)
    (kind : HrtfSourceKind) (sofaPath : ByteString) (sampleRate : α)
    (bInitialNearFieldEnabled : Bool) :
    (new libs layout kind sofaPath sampleRate bInitialNearFieldEnabled).Sound :=
  CrossfadingSlot.sound_initial (BinauralStage.sound_new _ _ _ _ _ _) _

theorem Sound.switchTo (h : deck.Sound) (libs : DspLibraries α)
    (layout : SpeakerLayout) (kind : HrtfSourceKind) (sofaPath : ByteString) :
    (deck.switchTo libs layout kind sofaPath).Sound :=
  CrossfadingSlot.Sound.publish h (BinauralStage.sound_new _ _ _ _ _ _)

omit [FloatArith α] in
/-- The live stage hears of the toggle; a pending one keeps its own. -/
theorem Sound.setNearFieldEnabled (h : deck.Sound) (bEnabled : Bool) :
    ∃ live deck', deck.slot.live = some live ∧
      deck' =
        { deck with
          bNearFieldEnabled := bEnabled
          slot := { deck.slot with
            live := some (live.setNearFieldEnabled bEnabled) } } ∧
      deck.setNearFieldEnabled bEnabled = some deck' ∧ deck'.Sound := by
  obtain ⟨live, hlive, hforward, hsound⟩ :=
    CrossfadingSlot.Sound.forwardToLive h
      (fun _ hstage => BinauralStage.Sound.setNearFieldEnabled hstage bEnabled)
  refine ⟨live, _, hlive, rfl, ?_, hsound⟩
  rw [HrtfDeck.setNearFieldEnabled, hforward]
  rfl

/-- The live stage's voice is rebuilt; a pending stage keeps its own. -/
theorem Sound.rebuildVoiceForSpeaker (h : deck.Sound) (libs : DspLibraries α)
    (speaker : SpeakerChannel) (azimuthDegrees distanceMeters : Binary32) :
    ∃ live deck', deck.slot.live = some live ∧
      deck' =
        { deck with
          slot := { deck.slot with
            live := some (live.rebuildVoiceForSpeaker libs speaker
              azimuthDegrees distanceMeters) } } ∧
      deck.rebuildVoiceForSpeaker libs speaker azimuthDegrees distanceMeters =
        some deck' ∧ deck'.Sound := by
  obtain ⟨live, hlive, hforward, hsound⟩ :=
    CrossfadingSlot.Sound.forwardToLive h
      (fun _ hstage => BinauralStage.Sound.rebuildVoiceForSpeaker hstage libs
        speaker azimuthDegrees distanceMeters)
  refine ⟨live, _, hlive, rfl, ?_, hsound⟩
  rw [HrtfDeck.rebuildVoiceForSpeaker, hforward]
  rfl

omit [FloatArith α] in
theorem Sound.collectGarbage (h : deck.Sound) :
    ∃ live deck', deck.slot.live = some live ∧
      deck' =
        { deck with
          slot := { deck.slot.collectGarbage with
            live := some live.collectVoiceGarbage } } ∧
      deck.collectGarbage = some deck' ∧ deck'.Sound := by
  obtain ⟨live, hlive, hforward, hsound⟩ :=
    CrossfadingSlot.Sound.forwardToLive (CrossfadingSlot.Sound.collectGarbage h)
      (fun _ hstage => BinauralStage.Sound.collectVoiceGarbage hstage)
  refine ⟨live, _, hlive, rfl, ?_, hsound⟩
  rw [HrtfDeck.collectGarbage, hforward]
  rfl

/-- A block is rendered, and moves no stage but by its audio state. -/
theorem Sound.process (h : deck.Sound) (libs : DspLibraries α)
    (layout : SpeakerLayout) (input : List (SevenOneFrame α)) :
    ∃ output deck', deck.process libs layout input = some (output, deck') ∧
      deck'.Sound ∧ deck' = { deck with slot := deck'.slot } ∧
      CrossfadingSlot.Rendered BinauralStage.KeepsControl deck.slot
        deck'.slot := by
  obtain ⟨output, slot, hprocess, hsound, hrendered⟩ :=
    CrossfadingSlot.process_sound
      (fun stage input => BinauralStage.process libs layout stage input)
      BinauralStage.Sound BinauralStage.KeepsControl
      (fun stage input hstage => hstage.process libs layout input) h input
  exact ⟨output, { deck with slot }, by simp [HrtfDeck.process, hprocess],
    hsound, rfl, hrendered⟩

end

end

/-! ## The near-field toggle along a run -/

/-- One call of the deck.  A switch and a block read the shared layout as it
is at that moment. -/
inductive Call (α : Type)
  | switchTo (layout : SpeakerLayout) (kind : HrtfSourceKind)
      (sofaPath : ByteString)
  | setNearFieldEnabled (bEnabled : Bool)
  | process (layout : SpeakerLayout) (input : List (SevenOneFrame α))

def isSwitch : Call α → Bool
  | .switchTo _ _ _ => true
  | _ => false

/-- The value set last, or the initial one. -/
def nearFieldToggle (initial : Bool) (past : List (Call α)) : Bool :=
  past.foldl
    (fun toggle call =>
      match call with
      | .setNearFieldEnabled bEnabled => bEnabled
      | _ => toggle)
    initial

/-- The toggle at the time of the last switch. -/
def toggleAtLastSwitch (initial : Bool) (past : List (Call α)) : Bool :=
  nearFieldToggle initial (past.rdropWhile fun call => !isSwitch call)

theorem nearFieldToggle_concat (initial : Bool) (past : List (Call α))
    (call : Call α) :
    nearFieldToggle initial (past ++ [call]) =
      match call with
      | .setNearFieldEnabled bEnabled => bEnabled
      | _ => nearFieldToggle initial past := by
  rw [nearFieldToggle, List.foldl_append]
  rfl

theorem toggleAtLastSwitch_concat (initial : Bool) (past : List (Call α))
    (call : Call α) :
    toggleAtLastSwitch initial (past ++ [call]) =
      match call with
      | .switchTo _ _ _ => nearFieldToggle initial past
      | _ => toggleAtLastSwitch initial past := by
  cases call with
  | switchTo layout kind sofaPath =>
      rw [toggleAtLastSwitch, List.rdropWhile_concat_neg _ _ _ (by simp [isSwitch]),
        nearFieldToggle_concat]
  | setNearFieldEnabled bEnabled =>
      rw [toggleAtLastSwitch, List.rdropWhile_concat_pos _ _ _ (by simp [isSwitch])]
      rfl
  | process layout input =>
      rw [toggleAtLastSwitch, List.rdropWhile_concat_pos _ _ _ (by simp [isSwitch])]
      rfl

section

variable [FloatArith α] (libs : DspLibraries α)

def step (deck : HrtfDeck α) : Call α → Option (HrtfDeck α)
  | .switchTo layout kind sofaPath =>
      some (deck.switchTo libs layout kind sofaPath)
  | .setNearFieldEnabled bEnabled => deck.setNearFieldEnabled bEnabled
  | .process layout input =>
      (deck.process libs layout input).map Prod.snd

variable (initial : HrtfDeck α)

/-- After these calls, unless a switch is pending, the live stage is asked for
the toggle that was set last. -/
def LiveFollowsToggle (past : List (Call α)) : Prop :=
  ∃ deck live, runFrom (step libs) initial past = some deck ∧
    deck.slot.live = some live ∧
    (deck.slot.pending = none → live.bNearFieldRequested =
      nearFieldToggle initial.bNearFieldEnabled past)

/-- A block that takes a pending stage comes while the toggle is the one the
stage was built with. -/
def TakesCurrentToggle (past : List (Call α)) : Call α → Prop
  | .process _ _ => ∀ deck, runFrom (step libs) initial past = some deck →
      deck.slot.Takes →
      toggleAtLastSwitch initial.bNearFieldEnabled past =
        nearFieldToggle initial.bNearFieldEnabled past
  | _ => True

/-- The toggle as the deck, its live stage and its pending stage know it. -/
structure ToggleKnown (past : List (Call α)) (deck : HrtfDeck α) :
    Prop where
  sound : deck.Sound
  enabled : deck.bNearFieldEnabled =
    nearFieldToggle initial.bNearFieldEnabled past
  live : ∀ live, deck.slot.live = some live → live.bNearFieldRequested =
    nearFieldToggle initial.bNearFieldEnabled past
  pending : ∀ pending, deck.slot.pending = some pending →
    pending.bNearFieldRequested =
      toggleAtLastSwitch initial.bNearFieldEnabled past

variable {libs initial} {past : List (Call α)} {deck : HrtfDeck α}

theorem ToggleKnown.liveFollowsToggle (h : ToggleKnown initial past deck)
    (hrun : runFrom (step libs) initial past = some deck) :
    LiveFollowsToggle libs initial past := by
  obtain ⟨live, hlive, -⟩ := h.sound.live
  exact ⟨deck, live, hrun, hlive, fun _ => h.live live hlive⟩

theorem ToggleKnown.switchTo (h : ToggleKnown initial past deck)
    (layout : SpeakerLayout) (kind : HrtfSourceKind) (sofaPath : ByteString) :
    ToggleKnown initial (past ++ [.switchTo layout kind sofaPath])
      (deck.switchTo libs layout kind sofaPath) := by
  constructor
  · exact h.sound.switchTo libs layout kind sofaPath
  · rw [nearFieldToggle_concat]
    exact h.enabled
  · rw [nearFieldToggle_concat]
    exact h.live
  · rintro pending ⟨⟩
    rw [toggleAtLastSwitch_concat]
    exact h.enabled

omit [FloatArith α] in
theorem ToggleKnown.setNearFieldEnabled (h : ToggleKnown initial past deck)
    (bEnabled : Bool) :
    ∃ deck', deck.setNearFieldEnabled bEnabled = some deck' ∧
      ToggleKnown initial (past ++ [.setNearFieldEnabled bEnabled]) deck' := by
  obtain ⟨live, deck', hlive, rfl, hset, hsound⟩ :=
    h.sound.setNearFieldEnabled bEnabled
  refine ⟨_, hset, hsound, ?_, ?_, ?_⟩
  · rw [nearFieldToggle_concat]
  · rintro live' ⟨⟩
    rw [nearFieldToggle_concat]
    rfl
  · rw [toggleAtLastSwitch_concat]
    exact h.pending

/-- A block keeps the flags known unless it takes a stage whose flag is out of
date. -/
theorem ToggleKnown.process (h : ToggleKnown initial past deck)
    (layout : SpeakerLayout) (input : List (SevenOneFrame α))
    (hcurrent : deck.slot.Takes →
      toggleAtLastSwitch initial.bNearFieldEnabled past =
        nearFieldToggle initial.bNearFieldEnabled past) :
    ∃ output deck', deck.process libs layout input = some (output, deck') ∧
      ToggleKnown initial (past ++ [.process layout input]) deck' := by
  obtain ⟨output, deck', hprocess, hsound, hdeck, hrendered⟩ :=
    h.sound.process libs layout input
  refine ⟨output, deck', hprocess, hsound, ?_, ?_, ?_⟩
  · rw [nearFieldToggle_concat]
    rw [hdeck]
    exact h.enabled
  · intro live hlive
    rw [nearFieldToggle_concat]
    by_cases htakes : deck.slot.Takes
    · obtain ⟨-, pending, live', hpending, hlive', hmoves⟩ :=
        hrendered.taken htakes
      obtain rfl := Option.some.inj (hlive.symm.trans hlive')
      calc live.bNearFieldRequested = pending.bNearFieldRequested :=
            hmoves.bNearFieldRequested
        _ = toggleAtLastSwitch initial.bNearFieldEnabled past :=
            h.pending pending hpending
        _ = nearFieldToggle initial.bNearFieldEnabled past := hcurrent htakes
    · obtain ⟨-, old, live', hold, hlive', hmoves⟩ := hrendered.kept htakes
      obtain rfl := Option.some.inj (hlive.symm.trans hlive')
      exact hmoves.bNearFieldRequested.trans (h.live old hold)
  · intro pending hpending
    rw [toggleAtLastSwitch_concat]
    by_cases htakes : deck.slot.Takes
    · exact absurd ((hrendered.taken htakes).1.symm.trans hpending) (by simp)
    · exact h.pending pending ((hrendered.kept htakes).1 ▸ hpending)

theorem ToggleKnown.step (h : ToggleKnown initial past deck)
    (hrun : runFrom (step libs) initial past = some deck) (call : Call α)
    (hmeets : TakesCurrentToggle libs initial past call) :
    ∃ deck', HrtfDeck.step libs deck call = some deck' ∧
      ToggleKnown initial (past ++ [call]) deck' := by
  cases call with
  | switchTo layout kind sofaPath =>
      exact ⟨_, rfl, h.switchTo layout kind sofaPath⟩
  | setNearFieldEnabled bEnabled => exact h.setNearFieldEnabled bEnabled
  | process layout input =>
      obtain ⟨output, deck', hprocess, hknown⟩ :=
        h.process layout input (hmeets deck hrun)
      exact ⟨deck', by rw [HrtfDeck.step, hprocess]; rfl, hknown⟩

/-- A block that takes a stage with another toggle leaves that toggle live. -/
theorem ToggleKnown.takesCurrentToggle (h : ToggleKnown initial past deck)
    (hrun : runFrom (HrtfDeck.step libs) initial past = some deck)
    (call : Call α) (hfollows : LiveFollowsToggle libs initial (past ++ [call])) :
    TakesCurrentToggle libs initial past call := by
  cases call with
  | switchTo layout kind sofaPath => trivial
  | setNearFieldEnabled bEnabled => trivial
  | process layout input =>
      intro other hother htakes
      obtain rfl : deck = other := Option.some.inj (hrun.symm.trans hother)
      obtain ⟨output, deck', hprocess, -, -, hrendered⟩ :=
        h.sound.process libs layout input
      obtain ⟨hnone, pending, live', hpending, hlive', hmoves⟩ :=
        hrendered.taken htakes
      obtain ⟨after, live, hafter, hlive, hflag⟩ := hfollows
      have hstep : HrtfDeck.step libs deck (.process layout input) =
          some deck' := by
        rw [HrtfDeck.step, hprocess]
        rfl
      obtain rfl : deck' = after := eq_of_runFrom_concat hrun hstep hafter
      obtain rfl := Option.some.inj (hlive.symm.trans hlive')
      calc toggleAtLastSwitch initial.bNearFieldEnabled past
          = pending.bNearFieldRequested := (h.pending pending hpending).symm
        _ = live.bNearFieldRequested := hmoves.bNearFieldRequested.symm
        _ = nearFieldToggle initial.bNearFieldEnabled past := by
            rw [hflag hnone, nearFieldToggle_concat]

end

section

variable [FloatArith α]

theorem toggleKnown_new (libs : DspLibraries α) (layout : SpeakerLayout)
    (kind : HrtfSourceKind) (sofaPath : ByteString) (sampleRate : α)
    (bInitialNearFieldEnabled : Bool) :
    let initial :=
      new libs layout kind sofaPath sampleRate bInitialNearFieldEnabled
    ToggleKnown initial [] initial := by
  refine ⟨sound_new libs layout kind sofaPath sampleRate _, rfl, ?_, ?_⟩
  · rintro live ⟨⟩
    rfl
  · intro pending hpending
    exact absurd hpending (by simp [new])

/-- The live stage follows the toggle all along a run exactly when every
switch is taken while the toggle it was built with is still the current
one. -/
theorem liveFollowsToggle_iff (libs : DspLibraries α) (layout : SpeakerLayout)
    (kind : HrtfSourceKind) (sofaPath : ByteString) (sampleRate : α)
    (bInitialNearFieldEnabled : Bool) (run : List (Call α)) :
    let initial :=
      new libs layout kind sofaPath sampleRate bInitialNearFieldEnabled
    Throughout (LiveFollowsToggle libs initial) run ↔
      AtEachEvent (TakesCurrentToggle libs initial) run := by
  intro initial
  have hnew : ToggleKnown initial [] initial :=
    toggleKnown_new libs layout kind sofaPath sampleRate _
  refine throughout_iff_of_invariant (step libs) (ToggleKnown initial) hnew
    ?_ ?_ ?_ run
  · intro past deck hrun hknown
    exact hknown.liveFollowsToggle hrun
  · intro past deck call hrun hknown hmeets
    exact hknown.step hrun call hmeets
  · intro past deck call hrun hknown hfollows
    exact hknown.takesCurrentToggle hrun call hfollows

end

/-- No SOFA file is there. -/
noncomputable def exactLibraries : DspLibraries ℝ where
  fft := PartitionedConvolver.exactFft
  mysofa := ⟨fun _ _ => none, fun coordinates => coordinates⟩

/-- Turned on between a switch and the block that takes it, the toggle is lost
to the live stage. -/
theorem liveFollowsToggle_lost :
    ¬ Throughout
      (LiveFollowsToggle exactLibraries
        (new exactLibraries .new .syntheticSphericalHead [] 48000 false))
      [.switchTo .new .syntheticSphericalHead [], .setNearFieldEnabled true,
        .process .new [fun _ => 0]] := by
  intro h
  have hinitial := toggleKnown_new exactLibraries .new .syntheticSphericalHead []
    48000 false
  have hswitched : ToggleKnown _ _
      ((new exactLibraries .new .syntheticSphericalHead [] 48000 false).switchTo
        exactLibraries .new .syntheticSphericalHead []) :=
    hinitial.switchTo .new .syntheticSphericalHead []
  obtain ⟨deck, hset, hknown⟩ := hswitched.setNearFieldEnabled true
  have hrun : runFrom (step exactLibraries)
      (new exactLibraries .new .syntheticSphericalHead [] 48000 false)
      [.switchTo .new .syntheticSphericalHead [], .setNearFieldEnabled true] =
      some deck := hset
  have htakes : deck.slot.Takes := by
    obtain rfl := Option.some.inj hset
    exact ⟨rfl, rfl⟩
  have htoggle := hknown.takesCurrentToggle hrun (.process .new [fun _ => 0])
    h.last deck hrun htakes
  exact absurd htoggle (by decide)

end HrtfDeck

end RamkolFX
