import RamkolFX.Dsp.FloatArith
import RamkolFX.Support.Clamp
import RamkolFX.Protocol.Types

/-!
# HRTF filters

A direction's pair of impulse responses, from a SOFA file or from the
synthetic rigid-sphere model, and the near-field correction that is cascaded
with it.

SOFA files are read by libmysofa, which is not part of the repository: an
opened file is the lookup function the library makes of it.
-/

namespace RamkolFX

open Support

variable {α : Type} [FloatArith α]

/-- One direction's stereo impulse response and each ear's delay. -/
structure HrtfFilter (α : Type) where
  left : List α
  right : List α
  delayLeftSamples : α
  delayRightSamples : α

/-- Prepends the delay, rounded to whole samples, as zeros. -/
def buildDelayedHrtfFilter (taps : List α) (delaySamples : α) : List α :=
  let intDelay := UInt32.ofInt (FloatArith.lround (stdMax 0 delaySamples))
  List.replicate intDelay.toNat 0 ++ taps

/-! ## Rigid-sphere model -/

/-- `std::numbers::pi_v<float>` -/
def pi : α := FloatArith.ofFloat ⟨0x40490FDB⟩

/-- `0.0875f` -/
def headRadiusMeters : α := FloatArith.ofFloat ⟨0x3DB33333⟩

def speedOfSoundMetersPerSecond : α := 343

/-- Wraps an azimuth to (-180, 180]. -/
def normalizeAzimuthDegrees (azimuthDegrees : α) : α :=
  let azimuth := FloatArith.fmod azimuthDegrees 360
  if 180 < azimuth then azimuth - 360
  else if azimuth ≤ -180 then azimuth + 360
  else azimuth

def lateralAngleDegrees (normalizedAzimuthDegrees : α) : α :=
  90 - FloatArith.fabs (90 - FloatArith.fabs normalizedAzimuthDegrees)

/-- The loop of `buildUnityGainLowpassIR`. -/
def lowpassTaps (pole : α) : ℕ → α → List α
  | 0, _ => []
  | n + 1, polePower =>
      (1 - pole) * polePower :: lowpassTaps pole n (polePower * pole)

def buildUnityGainLowpassIR (cutoffHz sampleRate : α) (tapCount : ℕ) : List α :=
  let pole := FloatArith.exp (-2 * pi * cutoffHz / sampleRate)
  lowpassTaps pole tapCount 1

namespace SyntheticHrtf

def tapCount : ℕ := 128

def farEarCutoffHzAtFront : α := 20000

def farEarCutoffHzAtSide : α := 1500

def nearEarGainAtFront : α := 1

/-- `0.9f` -/
def nearEarGainAtSide : α := FloatArith.ofFloat ⟨0x3F666666⟩

def farEarGainAtFront : α := 1

/-- `0.55f` -/
def farEarGainAtSide : α := FloatArith.ofFloat ⟨0x3F0CCCCD⟩

def lerp (a b t : α) : α := a + (b - a) * t

def buildShelfFilter (cutoffHz gain sampleRate : α) : List α :=
  (buildUnityGainLowpassIR cutoffHz sampleRate tapCount).map fun tap =>
    tap * gain

end SyntheticHrtf

open SyntheticHrtf in
/-- The synthetic model's filter; it does not use the elevation. -/
def computeSphericalHeadFilter
    (azimuthDegrees _elevationDegrees sampleRate : α) : HrtfFilter α :=
  let azimuth := normalizeAzimuthDegrees azimuthDegrees
  let alpha := lateralAngleDegrees azimuth
  let alphaRad := alpha * (pi / 180)
  let alphaFraction := alpha / 90
  let itdSeconds := headRadiusMeters / speedOfSoundMetersPerSecond *
    (alphaRad + FloatArith.sin alphaRad)
  let itdSamples := itdSeconds * sampleRate
  let nearGain := lerp nearEarGainAtFront nearEarGainAtSide alphaFraction
  let farGain := lerp farEarGainAtFront farEarGainAtSide alphaFraction
  let farCutoffHz := lerp farEarCutoffHzAtFront farEarCutoffHzAtSide alphaFraction
  let nearFilter := buildShelfFilter farEarCutoffHzAtFront nearGain sampleRate
  let farFilter := buildShelfFilter farCutoffHz farGain sampleRate
  if 0 < azimuth then ⟨nearFilter, farFilter, 0, itdSamples⟩
  else if azimuth < 0 then ⟨farFilter, nearFilter, itdSamples, 0⟩
  else ⟨nearFilter, nearFilter, 0, 0⟩

/-! ## Near-field correction -/

/-- `1.0f` -/
def referenceSpeakerDistanceMeters : α := 1

namespace NearField

def tapCount : ℕ := 64

def cornerHz : α :=
  speedOfSoundMetersPerSecond / (2 * pi * headRadiusMeters)

def onAxisDcGain (distanceMeters : α) : α :=
  let rho := distanceMeters / headRadiusMeters
  rho / (rho - 1)

/-- Adds one to the first tap. -/
def addUnitImpulse : List α → List α
  | [] => []
  | tap :: taps => (tap + 1) :: taps

def buildBoostShelf (gain sampleRate : α) : List α :=
  addUnitImpulse
    ((buildUnityGainLowpassIR cornerHz sampleRate tapCount).map fun tap =>
      tap * (gain - 1))

/-- Adds one row of the convolution into the output at its offset. -/
def addRow (a : α) : List α → List α → List α
  | tap :: row, slot :: out => (slot + a * tap) :: addRow a row out
  | _, out => out

/-- The double loop of `Convolve`: row `i` is added at offset `i`. -/
def convolveInto : List α → List α → List α → List α
  | [], _, out => out
  | a :: as, bs, out =>
      match addRow a bs out with
      | [] => []
      | slot :: rest => slot :: convolveInto as bs rest

def convolve (as bs : List α) : List α :=
  if as.isEmpty || bs.isEmpty then []
  else convolveInto as bs (List.replicate (as.length + bs.length - 1) 0)

end NearField

open NearField in
def computeNearFieldCorrection
    (azimuthDegrees distanceMeters sampleRate : α) : HrtfFilter α :=
  let distance := stdClamp distanceMeters
    (FloatArith.ofFloat minSpeakerDistanceMeters)
    (FloatArith.ofFloat maxSpeakerDistanceMeters)
  let nearGainRaw := onAxisDcGain distance
  let farGainRaw := FloatArith.sqrt nearGainRaw
  let referenceGain : α := onAxisDcGain referenceSpeakerDistanceMeters
  let nearGainNormalized := nearGainRaw / referenceGain
  let farGainNormalized := farGainRaw / FloatArith.sqrt referenceGain
  let azimuth := normalizeAzimuthDegrees azimuthDegrees
  let alphaFraction := lateralAngleDegrees azimuth / 90
  let nearEarGain := 1 + (nearGainNormalized - 1) * alphaFraction
  let farEarGain := 1 + (farGainNormalized - 1) * alphaFraction
  let nearShelf := buildBoostShelf nearEarGain sampleRate
  let farShelf := buildBoostShelf farEarGain sampleRate
  if 0 < azimuth then ⟨nearShelf, farShelf, 0, 0⟩
  else if azimuth < 0 then ⟨farShelf, nearShelf, 0, 0⟩
  else ⟨nearShelf, nearShelf, 0, 0⟩

def applyNearFieldCorrection (farFieldFilter : HrtfFilter α)
    (azimuthDegrees distanceMeters sampleRate : α) : HrtfFilter α :=
  let correction :=
    computeNearFieldCorrection azimuthDegrees distanceMeters sampleRate
  { left := NearField.convolve farFieldFilter.left correction.left
    right := NearField.convolve farFieldFilter.right correction.right
    delayLeftSamples := farFieldFilter.delayLeftSamples
    delayRightSamples := farFieldFilter.delayRightSamples }

/-! ## SOFA files -/

/-- An opened SOFA file: `mysofa_getfilter_float` gives the two impulse
responses and the two delays in seconds for a Cartesian direction. -/
structure MysofaEasy (α : Type) where
  getfilterFloat : α → α → α → List α × List α × α × α

/-- libmysofa, and the files on disk as it opens them. -/
structure Mysofa (α : Type) where
  /-- `mysofa_open` for a path and a sample rate; `none` on any error. -/
  mysofaOpen : ByteString → α → Option (MysofaEasy α)
  /-- `mysofa_s2c`: azimuth, elevation and radius to Cartesian coordinates. -/
  s2c : α × α × α → α × α × α

/-- `HrtfLoader`: an open file and the rate it was resampled to. -/
structure HrtfLoader (α : Type) where
  easy : MysofaEasy α
  sampleRate : α

namespace HrtfLoader

/-- `Open`; a loader that could not open its file is `none`. -/
def openFile (mysofa : Mysofa α) (sofaPath : ByteString)
    (targetSampleRate : α) : Option (HrtfLoader α) :=
  (mysofa.mysofaOpen sofaPath targetSampleRate).map fun easy =>
    ⟨easy, targetSampleRate⟩

def getFilter (mysofa : Mysofa α) (loader : HrtfLoader α)
    (azimuthDegrees elevationDegrees : α) : HrtfFilter α :=
  let (x, y, z) := mysofa.s2c (azimuthDegrees, elevationDegrees, 1)
  let (left, right, delayLeftSeconds, delayRightSeconds) :=
    loader.easy.getfilterFloat x y z
  ⟨left, right, delayLeftSeconds * loader.sampleRate,
    delayRightSeconds * loader.sampleRate⟩

end HrtfLoader

/-! ## Level normalization -/

/-- `0.7f` -/
def targetPeakTap : α := FloatArith.ofFloat ⟨0x3F333333⟩

/-- The largest absolute tap of some filters. -/
def peakTap (filters : List (HrtfFilter α)) : α :=
  filters.foldl
    (fun peak filter =>
      filter.right.foldl (fun peak tap => stdMax peak (FloatArith.fabs tap))
        (filter.left.foldl (fun peak tap => stdMax peak (FloatArith.fabs tap))
          peak))
    0

/-- The gain that takes the peak tap to `targetPeakTap`. -/
def peakNormalization (peak : α) : α :=
  if FloatArith.ofFloat ⟨0x358637BD⟩ < peak then targetPeakTap / peak -- 1e-6f
  else 1

end RamkolFX
