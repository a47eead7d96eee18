import RamkolFX.Dsp.HrtfDeck

/-!
# Positions of the voices

A voice is built for a position.  It follows a layout if that is the position
the layout holds, the distance up to the layout's clamping.  Moving a speaker
reaches the live stage of a deck; a pending stage keeps following the layout
it was built from.
-/

namespace RamkolFX

open Support

/-- Two layouts with every speaker in the same place. -/
def SpeakerLayout.SamePositions (layout other : SpeakerLayout) : Prop :=
  layout.speakerAzimuthDegrees = other.speakerAzimuthDegrees ∧
    layout.speakerDistanceMeters = other.speakerDistanceMeters

variable {α : Type}

namespace BinauralStage

/-- The speaker's voice was built for the azimuth the layout holds and for a
distance that clamps to the one it holds. -/
def FollowsAt (stage : BinauralStage α) (layout : SpeakerLayout)
    (speaker : SpeakerChannel) : Prop :=
  ∃ distanceMeters,
    stage.builtFor speaker =
      some (layout.speakerAzimuthDegrees speaker, distanceMeters) ∧
    clampDistance distanceMeters = layout.speakerDistanceMeters speaker

def Follows (stage : BinauralStage α) (layout : SpeakerLayout) : Prop :=
  ∀ speaker, stage.FollowsAt layout speaker

variable {stage stage' : BinauralStage α} {layout layout' : SpeakerLayout}

theorem FollowsAt.loaded {speaker : SpeakerChannel}
    (h : stage.FollowsAt layout speaker) : ∃ hrtf, stage.hrtf = some hrtf := by
  obtain ⟨distanceMeters, hbuilt, -⟩ := h
  obtain ⟨hrtf, hhrtf, -⟩ := Option.bind_eq_some_iff.mp hbuilt
  exact ⟨hrtf, hhrtf⟩

theorem FollowsAt.of_builtFor {speaker : SpeakerChannel}
    (h : stage.FollowsAt layout speaker)
    (hbuilt : stage'.builtFor speaker = stage.builtFor speaker) :
    stage'.FollowsAt layout speaker := by
  rw [FollowsAt, hbuilt]
  exact h

theorem Follows.of_keepsControl (h : stage.Follows layout)
    (hkeeps : KeepsControl stage stage') : stage'.Follows layout :=
  fun speaker => (h speaker).of_builtFor (hkeeps.builtFor speaker)

/-- A stage that follows a layout follows exactly those with the same
positions. -/
theorem Follows.follows_iff (h : stage.Follows layout) :
    stage.Follows layout' ↔ layout.SamePositions layout' := by
  constructor
  · intro h'
    have hsame : ∀ speaker,
        layout.speakerAzimuthDegrees speaker =
            layout'.speakerAzimuthDegrees speaker ∧
          layout.speakerDistanceMeters speaker =
            layout'.speakerDistanceMeters speaker := by
      intro speaker
      obtain ⟨distanceMeters, hbuilt, hclamp⟩ := h speaker
      obtain ⟨distanceMeters', hbuilt', hclamp'⟩ := h' speaker
      obtain ⟨hazimuth, rfl⟩ :=
        Prod.mk.inj (Option.some.inj (hbuilt.symm.trans hbuilt'))
      exact ⟨hazimuth, hclamp.symm.trans hclamp'⟩
    exact ⟨funext fun speaker => (hsame speaker).1,
      funext fun speaker => (hsame speaker).2⟩
  · rintro ⟨hazimuth, hdistance⟩ speaker
    obtain ⟨distanceMeters, hbuilt, hclamp⟩ := h speaker
    refine ⟨distanceMeters, ?_, ?_⟩
    · rw [hbuilt, hazimuth]
    · rw [hclamp, hdistance]

section

variable [FloatArith α]

/-- A loaded stage is built for the layout of that moment. -/
theorem follows_new (libs : DspLibraries α) (layout : SpeakerLayout)
    (kind : HrtfSourceKind) (sofaPath : ByteString) (sampleRate : α)
    (bInitialNearFieldEnabled : Bool)
    (hloads : (openSource libs kind sofaPath sampleRate).isSome) :
    (new libs layout kind sofaPath sampleRate bInitialNearFieldEnabled).Follows
      layout := by
  obtain ⟨source, hsource⟩ := Option.isSome_iff_exists.mp hloads
  intro speaker
  refine ⟨layout.speakerDistanceMeters speaker, ?_, layout.clamped speaker⟩
  simp [builtFor, new, load, hsource]

theorem builtFor_rebuildVoiceForSpeaker {hrtf : LoadedHrtf α}
    (hhrtf : stage.hrtf = some hrtf) (libs : DspLibraries α)
    (speaker : SpeakerChannel) (azimuthDegrees distanceMeters : Binary32)
    (other : SpeakerChannel) :
    (stage.rebuildVoiceForSpeaker libs speaker azimuthDegrees
        distanceMeters).builtFor other =
      if other = speaker then some (azimuthDegrees, distanceMeters)
      else stage.builtFor other := by
  by_cases heq : other = speaker
  · subst heq
    simp [builtFor, rebuildVoiceForSpeaker, hhrtf]
  · simp [builtFor, rebuildVoiceForSpeaker, hhrtf, heq]

/-- The speaker whose voice is rebuilt follows the position it is rebuilt
for. -/
theorem followsAt_rebuilt {hrtf : LoadedHrtf α} (hhrtf : stage.hrtf = some hrtf)
    (libs : DspLibraries α) (speaker : SpeakerChannel)
    {azimuthDegrees distanceMeters : Binary32}
    (hazimuth : layout.speakerAzimuthDegrees speaker = azimuthDegrees)
    (hdistance :
      layout.speakerDistanceMeters speaker = clampDistance distanceMeters) :
    (stage.rebuildVoiceForSpeaker libs speaker azimuthDegrees
      distanceMeters).FollowsAt layout speaker := by
  refine ⟨distanceMeters, ?_, hdistance.symm⟩
  rw [builtFor_rebuildVoiceForSpeaker hhrtf, if_pos rfl, hazimuth]

/-- The voices of the other speakers are not touched. -/
theorem FollowsAt.rebuild {other speaker : SpeakerChannel}
    (h : stage.FollowsAt layout other) (hother : other ≠ speaker)
    (libs : DspLibraries α) (azimuthDegrees distanceMeters : Binary32)
    (hazimuth : layout'.speakerAzimuthDegrees other =
      layout.speakerAzimuthDegrees other)
    (hdistance : layout'.speakerDistanceMeters other =
      layout.speakerDistanceMeters other) :
    (stage.rebuildVoiceForSpeaker libs speaker azimuthDegrees
      distanceMeters).FollowsAt layout' other := by
  obtain ⟨hrtf, hhrtf⟩ := h.loaded
  obtain ⟨distanceMeters, hbuilt, hclamp⟩ := h
  refine ⟨distanceMeters, ?_, ?_⟩
  · rw [builtFor_rebuildVoiceForSpeaker hhrtf, if_neg hother, hbuilt, hazimuth]
  · rw [hclamp, hdistance]

end

end BinauralStage

namespace HrtfDeck

/-- The live stage follows the shared layout, a pending one the layout at the
switch that built it. -/
structure Follows (deck : HrtfDeck α) (layout switchLayout : SpeakerLayout) :
    Prop where
  live : ∀ live, deck.slot.live = some live → live.Follows layout
  pending : ∀ pending, deck.slot.pending = some pending →
    pending.Follows switchLayout

variable {deck deck' : HrtfDeck α} {layout layout' switchLayout : SpeakerLayout}

theorem Follows.of_samePositions (h : deck.Follows layout switchLayout)
    (hsame : layout.SamePositions layout') : deck.Follows layout' switchLayout :=
  ⟨fun live hlive => (h.live live hlive).follows_iff.mpr hsame, h.pending⟩

theorem Follows.collectGarbage (h : deck.Follows layout switchLayout)
    (hsound : deck.Sound) (hcollect : deck.collectGarbage = some deck') :
    deck'.Follows layout switchLayout := by
  obtain ⟨live, _, hlive, rfl, hcollect', -⟩ := hsound.collectGarbage
  obtain rfl := Option.some.inj (hcollect'.symm.trans hcollect)
  refine ⟨?_, h.pending⟩
  rintro _ ⟨⟩
  exact (h.live live hlive).of_keepsControl
    (BinauralStage.keepsControl_collectVoiceGarbage live)

theorem Follows.setNearFieldEnabled (h : deck.Follows layout switchLayout)
    (hsound : deck.Sound) {bEnabled : Bool}
    (hset : deck.setNearFieldEnabled bEnabled = some deck') :
    deck'.Follows layout switchLayout := by
  obtain ⟨live, _, hlive, rfl, hset', -⟩ := hsound.setNearFieldEnabled bEnabled
  obtain rfl := Option.some.inj (hset'.symm.trans hset)
  refine ⟨?_, h.pending⟩
  rintro _ ⟨⟩
  exact h.live live hlive

/-- A block leaves the layouts followed unless it takes a stage built for
other positions. -/
theorem Follows.rendered (h : deck.Follows layout switchLayout)
    (hrendered : CrossfadingSlot.Rendered BinauralStage.KeepsControl deck.slot
      deck'.slot)
    (hcurrent : deck.slot.Takes → switchLayout.SamePositions layout) :
    deck'.Follows layout switchLayout := by
  by_cases htakes : deck.slot.Takes
  · obtain ⟨hnone, pending, live', hpending, hlive', hmoves⟩ :=
      hrendered.taken htakes
    constructor
    · intro live hlive
      obtain rfl := Option.some.inj (hlive.symm.trans hlive')
      have hfollows := (h.pending pending hpending).of_keepsControl hmoves
      exact hfollows.follows_iff.mpr (hcurrent htakes)
    · intro other hother
      exact absurd (hnone.symm.trans hother) (by simp)
  · obtain ⟨hpending, old, live', hold, hlive', hmoves⟩ := hrendered.kept htakes
    constructor
    · intro live hlive
      obtain rfl := Option.some.inj (hlive.symm.trans hlive')
      exact (h.live old hold).of_keepsControl hmoves
    · intro other hother
      exact h.pending other (hpending ▸ hother)

/-- A block that takes a stage, and leaves the live stage following the
layout, took it while the positions were the ones it was built for. -/
theorem Follows.samePositions (h : deck.Follows layout switchLayout)
    (hrendered : CrossfadingSlot.Rendered BinauralStage.KeepsControl deck.slot
      deck'.slot)
    (hlive : ∀ live, deck'.slot.pending = none → deck'.slot.live = some live →
      live.Follows layout)
    (htakes : deck.slot.Takes) : switchLayout.SamePositions layout := by
  obtain ⟨hnone, pending, live, hpending, hlive', hmoves⟩ :=
    hrendered.taken htakes
  have hfollows := (h.pending pending hpending).of_keepsControl hmoves
  exact hfollows.follows_iff.mp (hlive live hnone hlive')

section

variable [FloatArith α]

/-- The speaker that a layout moves is followed once its voice is rebuilt. -/
theorem Follows.rebuildVoiceForSpeaker (h : deck.Follows layout switchLayout)
    (hsound : deck.Sound) {libs : DspLibraries α} {speaker : SpeakerChannel}
    {azimuthDegrees distanceMeters : Binary32}
    (hrebuild : deck.rebuildVoiceForSpeaker libs speaker azimuthDegrees
      distanceMeters = some deck')
    (hazimuth : layout'.speakerAzimuthDegrees =
      Function.update layout.speakerAzimuthDegrees speaker azimuthDegrees)
    (hdistance : layout'.speakerDistanceMeters =
      Function.update layout.speakerDistanceMeters speaker
        (clampDistance distanceMeters)) :
    deck'.Follows layout' switchLayout := by
  obtain ⟨live, _, hlive, rfl, hrebuild', -⟩ :=
    hsound.rebuildVoiceForSpeaker libs speaker azimuthDegrees distanceMeters
  obtain rfl := Option.some.inj (hrebuild'.symm.trans hrebuild)
  refine ⟨?_, h.pending⟩
  rintro _ ⟨⟩ other
  have hold := h.live live hlive other
  by_cases heq : other = speaker
  · subst heq
    obtain ⟨hrtf, hhrtf⟩ := hold.loaded
    exact BinauralStage.followsAt_rebuilt hhrtf libs other (by simp [hazimuth])
      (by simp [hdistance])
  · exact hold.rebuild heq libs azimuthDegrees distanceMeters
      (by simp [hazimuth, heq]) (by simp [hdistance, heq])

end

end HrtfDeck

end RamkolFX
