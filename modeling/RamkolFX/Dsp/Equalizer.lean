import RamkolFX.Dsp.CrossfadingSlot
import RamkolFX.Dsp.DspStages

/-!
# Equalizer and bass enhancer

Two stereo filters behind the spatialization stages, each in a crossfading
slot so that new settings can be published while audio runs.
-/

namespace RamkolFX

open Support

variable {α : Type} [FloatArith α]

/-! ## Biquad sections -/

/-- Coefficients and Direct Form II Transposed delay state. -/
structure Biquad (α : Type) where
  b0 : α
  b1 : α
  b2 : α
  a1 : α
  a2 : α
  z1 : α
  z2 : α

namespace Biquad

/-- A section as it is constructed. -/
def new : Biquad α := ⟨1, 0, 0, 0, 0, 0, 0⟩

/-- The coefficients before they are divided by `a0`. -/
structure Design (α : Type) where
  b0 : α
  b1 : α
  b2 : α
  a0 : α
  a1 : α
  a2 : α

/-- The six responses; an unnamed filter type designs nothing. -/
def design (filterType : EqFilterType) (cosW0 alpha a : α) : Design α :=
  let sqrtA2Alpha := 2 * FloatArith.sqrt a * alpha
  if filterType = .peaking then
    ⟨1 + alpha * a, -2 * cosW0, 1 - alpha * a,
      1 + alpha / a, -2 * cosW0, 1 - alpha / a⟩
  else if filterType = .lowShelf then
    ⟨a * ((a + 1) - (a - 1) * cosW0 + sqrtA2Alpha),
      2 * a * ((a - 1) - (a + 1) * cosW0),
      a * ((a + 1) - (a - 1) * cosW0 - sqrtA2Alpha),
      (a + 1) + (a - 1) * cosW0 + sqrtA2Alpha,
      -2 * ((a - 1) + (a + 1) * cosW0),
      (a + 1) + (a - 1) * cosW0 - sqrtA2Alpha⟩
  else if filterType = .highShelf then
    ⟨a * ((a + 1) + (a - 1) * cosW0 + sqrtA2Alpha),
      -2 * a * ((a - 1) + (a + 1) * cosW0),
      a * ((a + 1) + (a - 1) * cosW0 - sqrtA2Alpha),
      (a + 1) - (a - 1) * cosW0 + sqrtA2Alpha,
      2 * ((a - 1) - (a + 1) * cosW0),
      (a + 1) - (a - 1) * cosW0 - sqrtA2Alpha⟩
  else if filterType = .lowPass then
    ⟨(1 - cosW0) / 2, 1 - cosW0, (1 - cosW0) / 2,
      1 + alpha, -2 * cosW0, 1 - alpha⟩
  else if filterType = .highPass then
    ⟨(1 + cosW0) / 2, -(1 + cosW0), (1 + cosW0) / 2,
      1 + alpha, -2 * cosW0, 1 - alpha⟩
  else if filterType = .notch then
    ⟨1, -2 * cosW0, 1, 1 + alpha, -2 * cosW0, 1 - alpha⟩
  else ⟨1, 0, 0, 1, 0, 0⟩

def setCoefficients (biquad : Biquad α) (filterType : EqFilterType)
    (frequencyHz gainDb q sampleRate : α) : Biquad α :=
  let frequency :=
    stdClamp frequencyHz 1 (sampleRate * FloatArith.ofFloat ⟨0x3EFAE148⟩) -- 0.49f
  let clampedQ := stdMax q (FloatArith.ofFloat ⟨0x3D4CCCCD⟩) -- 0.05f
  let w0 := 2 * FloatArith.ofFloat ⟨0x40490FDB⟩ * frequency / sampleRate -- pi
  let cosW0 := FloatArith.cos w0
  let sinW0 := FloatArith.sin w0
  let alpha := sinW0 / (2 * clampedQ)
  let a := FloatArith.pow 10 (gainDb / 40)
  let d := design filterType cosW0 alpha a
  { biquad with
    b0 := d.b0 / d.a0
    b1 := d.b1 / d.a0
    b2 := d.b2 / d.a0
    a1 := d.a1 / d.a0
    a2 := d.a2 / d.a0 }

def processSample (biquad : Biquad α) (input : α) : α × Biquad α :=
  let out := biquad.b0 * input + biquad.z1
  (out,
    { biquad with
      z1 := biquad.b1 * input - biquad.a1 * out + biquad.z2
      z2 := biquad.b2 * input - biquad.a2 * out })

/-- One sample through a cascade of sections. -/
def cascade : List (Biquad α) → α → α × List (Biquad α)
  | [], sample => (sample, [])
  | biquad :: biquads, sample =>
      let (sample, biquad) := biquad.processSample sample
      let (sample, biquads) := cascade biquads sample
      (sample, biquad :: biquads)

end Biquad

/-! ## Graphic EQ -/

/-- `DefaultEqCenterFrequenciesHz` -/
def defaultEqCenterFrequenciesHz : Fin maxEqBands → Binary32 :=
  ![⟨0x41FC0000⟩, ⟨0x427C0000⟩, ⟨0x42FA0000⟩, ⟨0x437A0000⟩, ⟨0x43FA0000⟩,
    ⟨0x447A0000⟩, ⟨0x44FA0000⟩, ⟨0x457A0000⟩, ⟨0x45FA0000⟩, ⟨0x467A0000⟩]

/-- `1.41f` -/
def defaultGraphicEqQ : Binary32 := ⟨0x3FB47AE1⟩

/-- Peaking bands at the default center frequencies, all flat. -/
def defaultHwEqBands : Fin maxEqBands → EqBand := fun i =>
  { filterType := .peaking
    frequencyHz := defaultEqCenterFrequenciesHz i
    gainDb := ⟨0⟩
    q := defaultGraphicEqQ }

/-- Ten sections for each channel. -/
structure GraphicEqFilter (α : Type) where
  left : List (Biquad α)
  right : List (Biquad α)

namespace GraphicEqFilter

/-- The section of one band. -/
def bandSection (band : EqBand) (sampleRate : α) : Biquad α :=
  Biquad.new.setCoefficients band.filterType
    (FloatArith.ofFloat band.frequencyHz) (FloatArith.ofFloat band.gainDb)
    (FloatArith.ofFloat band.q) sampleRate

def new (bands : Fin maxEqBands → EqBand) (sampleRate : α) :
    GraphicEqFilter α where
  left := List.ofFn fun i => bandSection (bands i) sampleRate
  right := List.ofFn fun i => bandSection (bands i) sampleRate

def processFrame (filter : GraphicEqFilter α) (inFrame : StereoFrame α) :
    StereoFrame α × GraphicEqFilter α :=
  let (leftSample, left) := Biquad.cascade filter.left (inFrame 0)
  let (rightSample, right) := Biquad.cascade filter.right (inFrame 1)
  (![leftSample, rightSample], ⟨left, right⟩)

def process (filter : GraphicEqFilter α) :
    List (StereoFrame α) → List (StereoFrame α) × GraphicEqFilter α
  | [] => ([], filter)
  | inFrame :: input =>
      let (outFrame, filter) := filter.processFrame inFrame
      let (output, filter) := process filter input
      (outFrame :: output, filter)

end GraphicEqFilter

/-! ## Bass enhancer -/

structure BassEnhancerFilter (α : Type) where
  bEnabled : Bool
  drive : α
  tanhDrive : α
  mix : α
  lowPass : Biquad α
  highPass : Biquad α

namespace BassEnhancerFilter

/-- Butterworth Q of the isolation filters, `0.7071067811865476f`. -/
def bassEnhancerFilterQ : α := FloatArith.ofFloat ⟨0x3F3504F3⟩

def minInternalGain : α := 1

def maxInternalGain : α := 20

def new (settings : BassEnhancerSettings) (sampleRate : α) :
    BassEnhancerFilter α :=
  let drive : α := minInternalGain *
    FloatArith.pow (maxInternalGain / minInternalGain)
      (stdClamp (FloatArith.ofFloat settings.drive) 0 1)
  let cutoffHz : α := FloatArith.ofFloat settings.cutoffHz
  { bEnabled := settings.bEnabled
    drive
    tanhDrive := FloatArith.tanh drive
    mix := FloatArith.ofFloat settings.mix
    lowPass := Biquad.new.setCoefficients .lowPass cutoffHz 0
      bassEnhancerFilterQ sampleRate
    highPass := Biquad.new.setCoefficients .highPass cutoffHz 0
      bassEnhancerFilterQ sampleRate }

def processFrame (filter : BassEnhancerFilter α) (inFrame : StereoFrame α) :
    StereoFrame α × BassEnhancerFilter α :=
  let (monoLow, lowPass) := filter.lowPass.processSample
    (FloatArith.ofFloat ⟨0x3F000000⟩ * (inFrame 0 + inFrame 1)) -- 0.5f
  let driven := FloatArith.tanh (filter.drive * monoLow) / filter.tanhDrive
  let (harmonics, highPass) := filter.highPass.processSample driven
  let wet := harmonics * filter.mix
  (![inFrame 0 + wet, inFrame 1 + wet], { filter with lowPass, highPass })

/-- The enabled path, frame by frame. -/
def enhance (filter : BassEnhancerFilter α) :
    List (StereoFrame α) → List (StereoFrame α) × BassEnhancerFilter α
  | [] => ([], filter)
  | inFrame :: input =>
      let (outFrame, filter) := filter.processFrame inFrame
      let (output, filter) := enhance filter input
      (outFrame :: output, filter)

def process (filter : BassEnhancerFilter α) (input : List (StereoFrame α)) :
    List (StereoFrame α) × BassEnhancerFilter α :=
  if filter.bEnabled then filter.enhance input else (input, filter)

end BassEnhancerFilter

/-! ## The stages -/

/-- A stereo filter of type `F` in a crossfading slot. -/
structure FilterStage (F α : Type) where
  sampleRate : α
  slot : CrossfadingSlot F

namespace FilterStage

variable {F : Type}

def new (initial : F) (sampleRate : α) : FilterStage F α :=
  { sampleRate
    slot :=
      { live := some initial
        crossfadeFrames := fiftyMilliseconds sampleRate } }

def publish (stage : FilterStage F α) (filter : F) : FilterStage F α :=
  { stage with slot := stage.slot.publish filter }

def collectGarbage (stage : FilterStage F α) : FilterStage F α :=
  { stage with slot := stage.slot.collectGarbage }

def process
    (runOne : F → List (StereoFrame α) → List (StereoFrame α) × F)
    (stage : FilterStage F α) (input : List (StereoFrame α)) :
    Option (List (StereoFrame α) × FilterStage F α) := do
  let (output, slot) ← stage.slot.process
    (fun filter input => some (runOne filter input)) input
  return (output, { stage with slot })

/-- The stage never renders a null filter. -/
def Sound (stage : FilterStage F α) : Prop :=
  stage.slot.Sound fun _ => True

theorem sound_new (initial : F) (sampleRate : α) : (new initial sampleRate).Sound :=
  CrossfadingSlot.sound_initial trivial _

section

variable {stage : FilterStage F α}

omit [FloatArith α]

theorem Sound.publish (h : stage.Sound) (filter : F) :
    (stage.publish filter).Sound :=
  CrossfadingSlot.Sound.publish h trivial

theorem Sound.collectGarbage (h : stage.Sound) : stage.collectGarbage.Sound :=
  CrossfadingSlot.Sound.collectGarbage h

end

theorem Sound.process {stage : FilterStage F α} (h : stage.Sound)
    (runOne : F → List (StereoFrame α) → List (StereoFrame α) × F)
    (input : List (StereoFrame α)) :
    ∃ output stage', stage.process runOne input = some (output, stage') ∧
      stage'.Sound := by
  obtain ⟨output, slot, hprocess, hsound, -⟩ :=
    CrossfadingSlot.process_sound
      (fun filter input => some (runOne filter input)) (fun _ => True)
      (fun _ _ => True) (fun filter input _ => ⟨_, _, rfl, trivial, trivial⟩)
      h input
  exact ⟨output, { stage with slot }, by simp [FilterStage.process, hprocess],
    hsound⟩

end FilterStage

abbrev HwEqStage (α : Type) := FilterStage (GraphicEqFilter α) α

namespace HwEqStage

def new (initialBands : Fin maxEqBands → EqBand) (sampleRate : α) :
    HwEqStage α :=
  FilterStage.new (.new initialBands sampleRate) sampleRate

def setBands (stage : HwEqStage α) (bands : Fin maxEqBands → EqBand) :
    HwEqStage α :=
  stage.publish (.new bands stage.sampleRate)

def process (stage : HwEqStage α) (input : List (StereoFrame α)) :
    Option (List (StereoFrame α) × HwEqStage α) :=
  FilterStage.process GraphicEqFilter.process stage input

end HwEqStage

abbrev BassEnhancerStage (α : Type) := FilterStage (BassEnhancerFilter α) α

namespace BassEnhancerStage

def new (initialSettings : BassEnhancerSettings) (sampleRate : α) :
    BassEnhancerStage α :=
  FilterStage.new (.new initialSettings sampleRate) sampleRate

def setSettings (stage : BassEnhancerStage α) (settings : BassEnhancerSettings) :
    BassEnhancerStage α :=
  stage.publish (.new settings stage.sampleRate)

def process (stage : BassEnhancerStage α) (input : List (StereoFrame α)) :
    Option (List (StereoFrame α) × BassEnhancerStage α) :=
  FilterStage.process BassEnhancerFilter.process stage input

end BassEnhancerStage

end RamkolFX
