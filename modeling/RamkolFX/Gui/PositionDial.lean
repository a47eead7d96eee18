import RamkolFX.Dsp.RoundedArith
import RamkolFX.Dsp.SpeakerLayout

/-!
# The position dial

The dial's handles, one for each speaker: the angle of a handle is its
azimuth, its distance from the center the distance of the speaker.  A handle
that is held follows the cursor, and in mirror mode its counterpart on the
other side follows it.
-/

namespace RamkolFX

open Support

/-- The `<cmath>` functions that the dial calls on a `float`. -/
class DialMath extends CMath where
  atan2 : Binary32 → Binary32 → Binary32

/-- A point of the screen. -/
structure ImVec2 where
  x : Binary32
  y : Binary32

namespace PositionDial

def positionDialSize : Binary32 := ⟨0x43820000⟩ -- 260

def handleRadius : Binary32 := ⟨0x41100000⟩ -- 9

def innerRadiusFraction : Binary32 := ⟨0x3E800000⟩ -- 0.25

def pi : Binary32 := ⟨0x40490FDB⟩

/-- The counterpart of each speaker, in the order FL, FR, FC, RL, RR, SL, SR. -/
def mirrorPartnerIndex : SpeakerChannel → Option SpeakerChannel :=
  ![some 1, some 0, none, some 4, some 3, some 6, some 5]

theorem mirrorPartnerIndex_ne (speaker : SpeakerChannel) :
    mirrorPartnerIndex speaker ≠ some speaker := by
  revert speaker
  decide

section Geometry

variable [DialMath]

def screenPosToAzimuth (center pos : ImVec2) : Binary32 :=
  let dx := pos.x - center.x
  let dy := pos.y - center.y
  if dx.IsZero ∧ dy.IsZero then ⟨0⟩
  else DialMath.atan2 (-dx) (-dy) * (⟨0x43340000⟩ / pi) -- 180

def lerp (a b t : Binary32) : Binary32 := a + (b - a) * t

def inverseLerp (a b v : Binary32) : Binary32 := (v - a) / (b - a)

def pixelRadiusToDistance (radiusPx innerRadiusPx outerRadiusPx : Binary32) :
    Binary32 :=
  let clamped := stdClamp radiusPx innerRadiusPx outerRadiusPx
  let t := inverseLerp innerRadiusPx outerRadiusPx clamped
  lerp minSpeakerDistanceMeters maxSpeakerDistanceMeters t

/-- Where a frame draws the dial, and what the user does with it: `active` is
the handle that is held, of which there is at most one. -/
structure Input where
  origin : ImVec2
  scale : Binary32
  mousePos : ImVec2
  active : Option SpeakerChannel
  bMirrorEnabled : Bool

namespace Input

variable (input : Input)

def scaledDialSize : Binary32 := positionDialSize * input.scale

def center : ImVec2 :=
  ⟨input.origin.x + input.scaledDialSize * ⟨0x3F000000⟩, -- 0.5
    input.origin.y + input.scaledDialSize * ⟨0x3F000000⟩⟩

def outerRadiusPx : Binary32 :=
  input.scaledDialSize * ⟨0x3F000000⟩ - handleRadius * input.scale -
    ⟨0x40800000⟩ * input.scale -- 4

def innerRadiusPx : Binary32 := input.outerRadiusPx * innerRadiusFraction

/-- The azimuth and the distance of a handle at the cursor. -/
def mouseAzimuth : Binary32 := screenPosToAzimuth input.center input.mousePos

def mouseDistance : Binary32 :=
  let dx := input.mousePos.x - input.center.x
  let dy := input.mousePos.y - input.center.y
  pixelRadiusToDistance (CMath.sqrt (dx * dx + dy * dy)) input.innerRadiusPx
    input.outerRadiusPx

end Input

/-- The arrays after a frame, and the handles that were moved. -/
structure Output where
  azimuthsDegrees : SpeakerChannel → Binary32
  distancesMeters : SpeakerChannel → Binary32
  changedIndex : Option SpeakerChannel := none
  mirroredIndex : Option SpeakerChannel := none

/-- `DrawPositionDial`, as far as it moves handles. -/
def draw (input : Input)
    (azimuthsDegrees distancesMeters : SpeakerChannel → Binary32) : Output :=
  match input.active with
  | none => { azimuthsDegrees, distancesMeters }
  | some i =>
      let azimuthsDegrees := Function.update azimuthsDegrees i input.mouseAzimuth
      let distancesMeters := Function.update distancesMeters i input.mouseDistance
      match if input.bMirrorEnabled then mirrorPartnerIndex i else none with
      | none => { azimuthsDegrees, distancesMeters, changedIndex := some i }
      | some mirrorIndex =>
          { azimuthsDegrees :=
              Function.update azimuthsDegrees mirrorIndex (-azimuthsDegrees i)
            distancesMeters :=
              Function.update distancesMeters mirrorIndex (distancesMeters i)
            changedIndex := some i
            mirroredIndex := some mirrorIndex }

end Geometry

end PositionDial

end RamkolFX
