import RamkolFX.Dsp.SpeakerLayout

/-!
# Stateless stages

The modes `Off` and `Basic`: a plain downmix, and the algebraic decode of the
first-order field.  Every stage is only ever called with 7.1 input and stereo
output, which the frame types say.
-/

namespace RamkolFX

open Support

/-- Raw 7.1 input channel order. -/
inductive SevenOneChannel
  | fl
  | fr
  | fc
  | lfe
  | rl
  | rr
  | sl
  | sr
  deriving DecidableEq, Repr

def SevenOneChannel.index : SevenOneChannel → Fin 8
  | fl => 0
  | fr => 1
  | fc => 2
  | lfe => 3
  | rl => 4
  | rr => 5
  | sl => 6
  | sr => 7

/-- Frame offset of each non-LFE channel, in the order of `SpeakerChannel`. -/
def speakerToFrameIndex : SpeakerChannel → Fin 8 :=
  ![SevenOneChannel.fl.index, SevenOneChannel.fr.index,
    SevenOneChannel.fc.index, SevenOneChannel.rl.index,
    SevenOneChannel.rr.index, SevenOneChannel.sl.index,
    SevenOneChannel.sr.index]

theorem speakerToFrameIndex_injective :
    Function.Injective speakerToFrameIndex := by
  decide

theorem speakerToFrameIndex_ne_lfe (speaker : SpeakerChannel) :
    speakerToFrameIndex speaker ≠ SevenOneChannel.lfe.index := by
  revert speaker
  decide

/-- Every channel but the LFE one belongs to a speaker. -/
theorem eq_lfe_or_speaker (channel : Fin 8) :
    channel = SevenOneChannel.lfe.index ∨
      ∃ speaker, channel = speakerToFrameIndex speaker := by
  revert channel
  decide

abbrev SevenOneFrame (α : Type) := AudioFrame 8 α

abbrev StereoFrame (α : Type) := AudioFrame 2 α

section

variable {α : Type} [FloatArith α]

def SevenOneFrame.at (inFrame : SevenOneFrame α) (ch : SevenOneChannel) : α :=
  inFrame ch.index

/-- The seven non-LFE samples of a frame. -/
def SevenOneFrame.sources (inFrame : SevenOneFrame α) : SpeakerChannel → α :=
  fun speaker => inFrame (speakerToFrameIndex speaker)

/-- `0.5f` -/
def lfeGain : α := FloatArith.ofFloat ⟨0x3F000000⟩

namespace PassthroughStage

/-- `0.707f` -/
def centerGain : α := FloatArith.ofFloat ⟨0x3F34FDF4⟩

/-- `0.5f` -/
def surroundGain : α := FloatArith.ofFloat ⟨0x3F000000⟩

def process (input : List (SevenOneFrame α)) : List (StereoFrame α) :=
  input.map fun inFrame =>
    ![inFrame.at .fl + centerGain * inFrame.at .fc +
        surroundGain * inFrame.at .rl + surroundGain * inFrame.at .sl +
        lfeGain * inFrame.at .lfe,
      inFrame.at .fr + centerGain * inFrame.at .fc +
        surroundGain * inFrame.at .rr + surroundGain * inFrame.at .sr +
        lfeGain * inFrame.at .lfe]

end PassthroughStage

namespace AmbisonicsStage

def decodeCos : α := SpeakerLayout.oneOverSqrtTwo

def decodeSin : α := SpeakerLayout.oneOverSqrtTwo

def widthGain : α := 2

/-- `0.4805061f` -/
def decodeNormalization : α := FloatArith.ofFloat ⟨0x3EF604E5⟩

/-- One frame, for given speaker directions. -/
def processFrame (dirs : SpeakerLayout.Directions α)
    (inFrame : SevenOneFrame α) : StereoFrame α :=
  let field := SpeakerLayout.encode inFrame.sources dirs
  let side := field.y * decodeSin * widthGain
  let left := (field.w * SpeakerLayout.oneOverSqrtTwo + field.x * decodeCos +
    side) * decodeNormalization
  let right := (field.w * SpeakerLayout.oneOverSqrtTwo + field.x * decodeCos -
    side) * decodeNormalization
  ![left + lfeGain * inFrame.at .lfe, right + lfeGain * inFrame.at .lfe]

def process (layout : SpeakerLayout) (input : List (SevenOneFrame α)) :
    List (StereoFrame α) :=
  input.map (processFrame layout.snapshotDirections)

end AmbisonicsStage

end

end RamkolFX
