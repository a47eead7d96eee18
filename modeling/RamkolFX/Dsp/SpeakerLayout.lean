import RamkolFX.Protocol.Types
import RamkolFX.Support.Clamp
import RamkolFX.Dsp.FloatArith
import Mathlib.Data.Fin.VecNotation

/-!
# Speaker layout

The live positions of the seven virtual speakers, shared by every
spatialization stage, and the first-order encoding of their signals.
-/

namespace RamkolFX

open Support

/-- The non-LFE channels of a 7.1 frame. -/
abbrev SpeakerChannel := Fin speakerCount

/-- A distance as the layout stores it. -/
def clampDistance (distanceMeters : Binary32) : Binary32 :=
  stdClamp distanceMeters minSpeakerDistanceMeters maxSpeakerDistanceMeters

theorem clampDistance_clampDistance (distanceMeters : Binary32) :
    clampDistance (clampDistance distanceMeters) =
      clampDistance distanceMeters :=
  stdClamp_stdClamp (by decide) distanceMeters

theorem clampDistance_default :
    clampDistance defaultSpeakerDistanceMeters = defaultSpeakerDistanceMeters := by
  decide

/-- The only writers of a distance clamp it or store the default. -/
structure SpeakerLayout where
  speakerAzimuthDegrees : SpeakerChannel → Binary32
  speakerDistanceMeters : SpeakerChannel → Binary32
  speakerMuted : SpeakerChannel → Bool
  clamped : ∀ speaker, clampDistance (speakerDistanceMeters speaker) =
    speakerDistanceMeters speaker
  deriving DecidableEq

/-- The default azimuths, in the order FL, FR, FC, RL, RR, SL, SR. -/
def defaultSpeakerAzimuthDegrees : SpeakerChannel → Binary32 :=
  ![⟨0x41F00000⟩, ⟨0xC1F00000⟩, ⟨0x00000000⟩, ⟨0x43070000⟩, ⟨0xC3070000⟩,
    ⟨0x42B40000⟩, ⟨0xC2B40000⟩] -- 30, -30, 0, 135, -135, 90, -90

namespace SpeakerLayout

def setSpeakerAzimuth (layout : SpeakerLayout)
    (speaker : SpeakerChannel) (azimuthDegrees : Binary32) : SpeakerLayout :=
  { layout with
    speakerAzimuthDegrees :=
      Function.update layout.speakerAzimuthDegrees speaker azimuthDegrees }

def setSpeakerDistance (layout : SpeakerLayout)
    (speaker : SpeakerChannel) (distanceMeters : Binary32) : SpeakerLayout :=
  { layout with
    speakerDistanceMeters :=
      Function.update layout.speakerDistanceMeters speaker
        (clampDistance distanceMeters)
    clamped := by
      intro other
      by_cases heq : other = speaker
      · subst heq
        simpa using clampDistance_clampDistance distanceMeters
      · simpa [heq] using layout.clamped other }

def setSpeakerMuted (layout : SpeakerLayout)
    (speaker : SpeakerChannel) (bMuted : Bool) : SpeakerLayout :=
  { layout with
    speakerMuted := Function.update layout.speakerMuted speaker bMuted }

def resetSpeakerPositions (layout : SpeakerLayout) : SpeakerLayout :=
  { layout with
    speakerAzimuthDegrees := defaultSpeakerAzimuthDegrees
    speakerDistanceMeters := fun _ => defaultSpeakerDistanceMeters
    clamped := fun _ => clampDistance_default }

/-- A layout as it is constructed: reset, and nothing muted. -/
def new : SpeakerLayout where
  speakerAzimuthDegrees := defaultSpeakerAzimuthDegrees
  speakerDistanceMeters := fun _ => defaultSpeakerDistanceMeters
  speakerMuted := fun _ => false
  clamped := fun _ => clampDistance_default

/-! ## Encoding -/

variable {α : Type} [FloatArith α]

def degToRad : α :=
  FloatArith.ofFloat ⟨0x40490FDB⟩ / 180 -- pi

/-- `0.70710678f` -/
def oneOverSqrtTwo : α := FloatArith.ofFloat ⟨0x3F3504F3⟩

/-- Direction cosines and sines of the speakers. -/
structure Directions (α : Type) where
  cos : SpeakerChannel → α
  sin : SpeakerChannel → α

def snapshotDirections (layout : SpeakerLayout) : Directions α :=
  let azimuthRadians : SpeakerChannel → α := fun speaker =>
    FloatArith.ofFloat (layout.speakerAzimuthDegrees speaker) * degToRad
  ⟨fun speaker => FloatArith.cos (azimuthRadians speaker),
    fun speaker => FloatArith.sin (azimuthRadians speaker)⟩

/-- A first-order B-format field. -/
structure Field (α : Type) where
  w : α
  x : α
  y : α

def encode (sources : SpeakerChannel → α) (dirs : Directions α) : Field α :=
  (List.finRange speakerCount).foldl
    (fun field speaker =>
      ⟨field.w + sources speaker * oneOverSqrtTwo,
        field.x + sources speaker * dirs.cos speaker,
        field.y + sources speaker * dirs.sin speaker⟩)
    ⟨0, 0, 0⟩

end SpeakerLayout

end RamkolFX
