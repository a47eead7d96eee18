import RamkolFX.Dsp.BinauralVoice
import RamkolFX.Dsp.OverlapSave
import RamkolFX.Support.Bisimulation

/-!
# Voices that convolve directly

What the partitioned convolvers are for: a filter that keeps its taps and
everything it was ever fed, and puts out samples of the linear convolution.  With
exact transforms, and as long as blocks are whole multiples of the convolver's
own, a loaded convolver and a voice made of two of them answer every block as the
direct filters do, without any latency.
-/

namespace RamkolFX

open Support

/-! ## One filter -/

/-- Taps, and the samples they have been fed so far. -/
structure DirectFilter where
  taps : List ℝ
  fed : List ℝ := []

namespace DirectFilter

open PartitionedConvolver

/-- The samples of the convolution that an input brings. -/
noncomputable def render (filter : DirectFilter) (input : List ℝ) : List ℝ :=
  (List.range' filter.fed.length input.length).map
    (PartitionedConvolver.convolve filter.taps (filter.fed ++ input))

def feed (filter : DirectFilter) (input : List ℝ) : DirectFilter :=
  { filter with fed := filter.fed ++ input }

@[simp] theorem length_render (filter : DirectFilter) (input : List ℝ) :
    (filter.render input).length = input.length := by
  rw [render, List.length_map, List.length_range']

/-- The convolution goes on over the seam of two inputs. -/
theorem render_append (filter : DirectFilter) (front back : List ℝ) :
    filter.render (front ++ back) =
      filter.render front ++ (filter.feed front).render back := by
  rw [render, List.length_append, ← List.range'_append_1, List.map_append]
  congr 1
  · apply List.map_congr_left
    intro t ht
    obtain ⟨-, hlt⟩ := List.mem_range'_1.mp ht
    rw [← List.append_assoc, convolve_append]
    rwa [List.length_append]
  · rw [render, feed, List.length_append, List.append_assoc]

/-- A convolver without queued samples that was loaded with the taps and has been
fed the samples. -/
structure Convolves (fft : RealFft ℝ) (filter : DirectFilter)
    (conv : PartitionedConvolver ℝ) : Prop where
  fed : Fed fft filter.taps filter.fed conv
  pendingInput : conv.pendingInput = []
  pendingOutput : conv.pendingOutput = []

theorem convolves_load (fft : RealFft ℝ) (taps : List ℝ) :
    Convolves fft ⟨taps, []⟩ (load fft taps) :=
  ⟨fed_load fft taps, rfl, rfl⟩

/-- What a fed convolver yields for the next block, also without any taps. -/
theorem pendingOutput_of_fed {fft : RealFft ℝ} (hfft : IsExact fft)
    {filter : DirectFilter} {conv : PartitionedConvolver ℝ}
    (h : Fed fft filter.taps filter.fed conv) {block : List ℝ}
    (hblock : block.length = blockSamples) :
    (runOneBlock fft { conv with pendingInput := block }).pendingOutput =
      filter.render block := by
  rw [render, hblock]
  by_cases htaps : filter.taps = []
  · have hsize : conv.fftSize = (load fft []).fftSize := by rw [h.fftSize, htaps]
    have heven : conv.fftSize % 2 = 0 := by
      rw [hsize]
      exact fft.even_nextFastSizeReal _
    have hfilter : conv.filterFreq = realDft conv.fftSize
        (List.replicate conv.fftSize 0) := by
      rw [h.filterFreq, htaps, filterFreq_load hfft, hsize, List.nil_append,
        List.length_nil, Nat.sub_zero]
    have hwindow : (conv.window.drop blockSamples ++ block).length = conv.fftSize := by
      rw [h.slid hblock, List.length_drop, List.length_append, List.length_replicate,
        Nat.add_sub_cancel]
    let filled : PartitionedConvolver ℝ := { conv with pendingInput := block }
    have hyields : (runOneBlock fft filled).pendingOutput = _ :=
      pendingOutput_runOneBlock hfft heven hfilter hwindow
    have hsilent : signal (n := conv.fftSize) (List.replicate conv.fftSize 0) = 0 := by
      funext t
      show (((List.replicate conv.fftSize (0 : ℝ)).getD t.val 0 : ℝ) : ℂ) = 0
      rw [getD_replicate_zero, Complex.ofReal_zero]
    rw [hyields, hsilent, htaps, List.range'_eq_map_range, List.map_map]
    apply List.map_congr_left
    intro t _
    have hnothing : circularConv 0 (signal (n := conv.fftSize)
        (conv.window.drop blockSamples ++ block)) = 0 := by
      funext s
      exact Finset.sum_eq_zero fun _ _ => zero_mul _
    show (circularConv 0 (signal (conv.window.drop blockSamples ++ block)) _).re =
      PartitionedConvolver.convolve [] _ _
    rw [hnothing, convolve_eq]
    rfl
  · exact h.pendingOutput hfft htaps hblock

theorem zipWith_add_append (slots front back : List ℝ)
    (h : front.length ≤ slots.length) :
    List.zipWith (· + ·) slots (front ++ back) =
      List.zipWith (· + ·) slots front ++
        List.zipWith (· + ·) (slots.drop front.length) back := by
  induction front generalizing slots with
  | nil => rw [List.zipWith_nil_right]; rfl
  | cons sample front ih =>
      cases slots with
      | nil => exact absurd h (Nat.not_succ_le_zero _)
      | cons slot slots =>
          have hrest := ih slots (Nat.le_of_succ_le_succ h)
          exact congrArg ((slot + sample) :: ·) hrest

/-- A pass over whole blocks first adds what is queued, then the samples of the
convolution, and leaves nothing queued. -/
theorem accumulate_direct {fft : RealFft ℝ} (hfft : IsExact fft) (m : ℕ) :
    ∀ {filter : DirectFilter} {conv : PartitionedConvolver ℝ},
      Fed fft filter.taps filter.fed conv → conv.pendingInput = [] →
      ∀ {input slots : List ℝ}, input.length = blockSamples * m →
        slots.length = conv.pendingOutput.length + input.length →
        (accumulate fft conv input slots).output =
            List.zipWith (· + ·) slots (conv.pendingOutput ++ filter.render input) ∧
          Convolves fft (filter.feed input) (accumulate fft conv input slots).convolver := by
  induction m with
  | zero =>
      intro filter conv hfed hpending input slots hinput hslots
      obtain rfl : input = [] := List.length_eq_zero_iff.mp hinput
      have hfull : slots.length ≤ conv.pendingOutput.length := hslots.le
      rw [accumulate_of_full fft hfull]
      refine ⟨?_, ?_, hpending, ?_⟩
      · rw [render, List.length_nil, List.range'_zero, List.map_nil, List.append_nil]
      · rw [feed, List.append_nil]
        exact ⟨hfed.fftSize, hfed.filterFreq, hfed.window⟩
      · exact List.drop_of_length_le hslots.ge
  | succ m ih =>
      intro filter conv hfed hpending input slots hinput hslots
      have hsize : blockSamples = 128 := rfl
      rw [Nat.mul_succ] at hinput
      have hroom : conv.pendingOutput.length < slots.length := by omega
      have hwhole : blockSamples ≤ conv.pendingInput.length + input.length := by omega
      have hempty : conv.pendingInput.length < blockSamples := by
        rw [hpending]
        exact Nat.zero_lt_succ _
      have hfront : (input.take blockSamples).length = blockSamples := by
        rw [List.length_take]
        omega
      have hback : (input.drop blockSamples).length = blockSamples * m := by
        rw [List.length_drop, hinput]
        omega
      have hblock := accumulate_of_block fft hroom hwhole hempty
      simp only [hpending, List.length_nil, Nat.sub_zero, List.nil_append] at hblock
      have hout := pendingOutput_of_fed hfft hfed hfront
      have hslots' : (slots.drop conv.pendingOutput.length).length =
          (runOneBlock fft { conv with
            pendingInput := input.take blockSamples }).pendingOutput.length +
            (input.drop blockSamples).length := by
        rw [hout, length_render, hfront, List.length_drop]
        omega
      have hfed' : Fed fft (filter.feed (input.take blockSamples)).taps
          (filter.feed (input.take blockSamples)).fed _ := hfed.runOneBlock hfront
      obtain ⟨houtput, hconvolves⟩ := ih hfed' rfl hback hslots'
      rw [hblock]
      refine ⟨?_, ?_⟩
      · rw [houtput, hout, ← render_append, List.take_append_drop,
          zipWith_add_append _ _ _ hroom.le]
      · rw [feed, feed, List.append_assoc, List.take_append_drop] at hconvolves
        exact hconvolves

/-- Samples that are added into silence. -/
theorem zipWith_silence {n : ℕ} (samples : List ℝ) (h : samples.length = n) :
    List.zipWith (· + ·) (List.replicate n 0) samples = samples := by
  subst h
  induction samples with
  | nil => rfl
  | cons sample samples ih =>
      rw [List.length_cons, List.replicate_succ, List.zipWith_cons_cons, zero_add, ih]

/-- A loaded convolver answers whole blocks as the direct filter does. -/
theorem Convolves.processAccumulate {fft : RealFft ℝ} (hfft : IsExact fft)
    {filter : DirectFilter} {conv : PartitionedConvolver ℝ}
    (h : Convolves fft filter conv) {input slots : List ℝ}
    (hinput : blockSamples ∣ input.length) (hslots : slots.length = input.length) :
    (conv.processAccumulate fft input slots).output =
        List.zipWith (· + ·) slots (filter.render input) ∧
      Convolves fft (filter.feed input)
        (conv.processAccumulate fft input slots).convolver := by
  obtain ⟨m, hm⟩ := hinput
  have hroom : slots.length = conv.pendingOutput.length + input.length := by
    rw [h.pendingOutput, hslots, List.length_nil, Nat.zero_add]
  have hdirect := accumulate_direct hfft m h.fed h.pendingInput hm hroom
  rw [h.pendingOutput, List.nil_append] at hdirect
  exact hdirect

end DirectFilter

/-! ## Slots -/

/-- Two slots that hold related instances in the same places. -/
structure CrossfadingSlot.Related {T T' : Type} (R : T → T' → Prop)
    (slot : CrossfadingSlot T) (slot' : CrossfadingSlot T') : Prop where
  live : Option.Rel R slot.live slot'.live
  fadingOut : Option.Rel R slot.fadingOut slot'.fadingOut
  pending : Option.Rel R slot.pending slot'.pending
  fadeFramesRemaining : slot.fadeFramesRemaining = slot'.fadeFramesRemaining
  crossfadeFrames : slot.crossfadeFrames = slot'.crossfadeFrames

namespace CrossfadingSlot

variable {T T' : Type} {R : T → T' → Prop} {slot : CrossfadingSlot T}
  {slot' : CrossfadingSlot T'}

theorem related_initial {initial : T} {initial' : T'} (h : R initial initial')
    (crossfadeFrames : ℕ) :
    Related R { live := some initial, crossfadeFrames }
      { live := some initial', crossfadeFrames } :=
  ⟨.some h, .none, .none, rfl, rfl⟩

theorem Related.publish (h : Related R slot slot') {newValue : T} {newValue' : T'}
    (hnew : R newValue newValue') :
    Related R (slot.publish newValue) (slot'.publish newValue') :=
  ⟨h.live, h.fadingOut, .some hnew, h.fadeFramesRemaining, h.crossfadeFrames⟩

theorem Related.collectGarbage (h : Related R slot slot') :
    Related R slot.collectGarbage slot'.collectGarbage :=
  ⟨h.live, h.fadingOut, h.pending, h.fadeFramesRemaining, h.crossfadeFrames⟩

theorem Related.forwardToLive (h : Related R slot slot') {runFn : T → T}
    {runFn' : T' → T'} (hrun : ∀ t t', R t t' → R (runFn t) (runFn' t')) :
    Option.Rel (Related R) (slot.forwardToLive runFn) (slot'.forwardToLive runFn') :=
  rel_map h.live fun t t' ht =>
    ⟨.some (hrun t t' ht), h.fadingOut, h.pending, h.fadeFramesRemaining,
      h.crossfadeFrames⟩

theorem Related.takes_iff (h : Related R slot slot') : slot.Takes ↔ slot'.Takes := by
  rw [Takes, Takes, h.fadeFramesRemaining]
  have hpending := h.pending
  generalize slot.pending = waiting, slot'.pending = waiting' at hpending
  cases hpending <;> rfl

theorem Related.takePending (h : Related R slot slot') :
    Related R slot.takePending slot'.takePending := by
  rw [CrossfadingSlot.takePending, CrossfadingSlot.takePending]
  by_cases htakes : slot.Takes
  · rw [if_pos htakes, if_pos (h.takes_iff.mp htakes)]
    exact ⟨h.pending, h.live, .none, h.crossfadeFrames, h.crossfadeFrames⟩
  · rw [if_neg htakes, if_neg (mt h.takes_iff.mpr htakes)]
    exact h

theorem Related.discardFaded (h : Related R slot slot') :
    Related R slot.discardFaded slot'.discardFaded := by
  rw [CrossfadingSlot.discardFaded, CrossfadingSlot.discardFaded, h.fadeFramesRemaining]
  split
  · exact ⟨h.live, .none, h.pending, rfl, h.crossfadeFrames⟩
  · exact h

/-- Slots whose instances answer the block alike answer it alike. -/
theorem Related.process {α ι : Type} [FloatArith α] {c : ℕ}
    {runOne : T → List ι → Option (List (AudioFrame c α) × T)}
    {runOne' : T' → List ι → Option (List (AudioFrame c α) × T')} {input : List ι}
    (hrun : ∀ t t', R t t' → Answers R (runOne t (input.take maxProcessFrames))
      (runOne' t' (input.take maxProcessFrames)))
    (h : Related R slot slot') :
    Answers (Related R) (slot.process runOne input) (slot'.process runOne' input) := by
  have htaken := h.takePending
  simp only [CrossfadingSlot.process]
  apply rel_bind htaken.live
  intro live live' hlive
  apply rel_bind (hrun live live' hlive)
  rintro ⟨newFrames, live⟩ ⟨_, live'⟩ ⟨rfl, hlive⟩
  dsimp only at hlive ⊢
  rw [htaken.fadeFramesRemaining]
  split
  · exact .some ⟨rfl, .some hlive, htaken.fadingOut, htaken.pending, rfl,
      htaken.crossfadeFrames⟩
  · apply rel_bind htaken.fadingOut
    intro old old' hold
    apply rel_bind (hrun old old' hold)
    rintro ⟨oldFrames, old⟩ ⟨_, old'⟩ ⟨rfl, hold⟩
    dsimp only at hold ⊢
    rw [htaken.crossfadeFrames]
    refine .some ⟨rfl, ?_⟩
    apply Related.discardFaded
    exact ⟨.some hlive, .some hold, htaken.pending, rfl, rfl⟩

end CrossfadingSlot

/-! ## Voices -/

/-- A filter for each ear. -/
structure DirectVoiceFilter where
  left : DirectFilter
  right : DirectFilter

namespace DirectVoiceFilter

/-- The HRTF of an azimuth, scaled, corrected for the distance and delayed. -/
noncomputable def build (libs : DspLibraries ℝ) (source : HrtfSource ℝ)
    (normalizationGain : ℝ) (azimuthDegrees distanceMeters : Binary32)
    (sampleRate : ℝ) : DirectVoiceFilter :=
  let farField := lookUpFarFieldFilter libs source
    (FloatArith.ofFloat azimuthDegrees) sampleRate
  let farField := { farField with
    left := farField.left.map fun tap => tap * normalizationGain
    right := farField.right.map fun tap => tap * normalizationGain }
  let combined := applyNearFieldCorrection farField
    (FloatArith.ofFloat azimuthDegrees) (FloatArith.ofFloat distanceMeters)
    sampleRate
  { left := ⟨buildDelayedHrtfFilter combined.left combined.delayLeftSamples, []⟩
    right := ⟨buildDelayedHrtfFilter combined.right combined.delayRightSamples, []⟩ }

noncomputable def process (filter : DirectVoiceFilter) (monoInput : List ℝ) :
    List (StereoFrame ℝ) × DirectVoiceFilter :=
  (List.zipWith (fun l r => ![l, r]) (filter.left.render monoInput)
      (filter.right.render monoInput),
    ⟨filter.left.feed monoInput, filter.right.feed monoInput⟩)

/-- The convolvers of a voice filter have the taps of this one, and have been fed
the same samples. -/
structure Convolves (fft : RealFft ℝ) (filter : BinauralVoiceFilter ℝ)
    (direct : DirectVoiceFilter) : Prop where
  left : direct.left.Convolves fft filter.leftConvolver
  right : direct.right.Convolves fft filter.rightConvolver

theorem convolves_build (libs : DspLibraries ℝ) (source : HrtfSource ℝ)
    (normalizationGain : ℝ) (azimuthDegrees distanceMeters : Binary32)
    (sampleRate : ℝ) :
    Convolves libs.fft
      (.build libs source normalizationGain azimuthDegrees distanceMeters sampleRate)
      (build libs source normalizationGain azimuthDegrees distanceMeters sampleRate) :=
  ⟨DirectFilter.convolves_load libs.fft _, DirectFilter.convolves_load libs.fft _⟩

theorem Convolves.process {libs : DspLibraries ℝ}
    (hfft : PartitionedConvolver.IsExact libs.fft) {filter : BinauralVoiceFilter ℝ}
    {direct : DirectVoiceFilter} (h : Convolves libs.fft filter direct)
    {monoInput : List ℝ} (hinput : blockSamples ∣ monoInput.length) :
    (filter.process libs monoInput).1 = (direct.process monoInput).1 ∧
      Convolves libs.fft (filter.process libs monoInput).2
        (direct.process monoInput).2 := by
  have hslots : (List.replicate monoInput.length (0 : ℝ)).length = monoInput.length :=
    List.length_replicate
  obtain ⟨hleft, hleft'⟩ := h.left.processAccumulate hfft hinput hslots
  obtain ⟨hright, hright'⟩ := h.right.processAccumulate hfft hinput hslots
  rw [DirectFilter.zipWith_silence _ (DirectFilter.length_render _ _)] at hleft hright
  refine ⟨?_, hleft', hright'⟩
  rw [BinauralVoiceFilter.process, hleft, hright]
  rfl

end DirectVoiceFilter

structure DirectVoice where
  sampleRate : ℝ
  slot : CrossfadingSlot DirectVoiceFilter

namespace DirectVoice

noncomputable def new (libs : DspLibraries ℝ) (source : HrtfSource ℝ)
    (normalizationGain : ℝ) (azimuthDegrees distanceMeters : Binary32)
    (sampleRate : ℝ) : DirectVoice :=
  { sampleRate
    slot :=
      { live := some (.build libs source normalizationGain azimuthDegrees
          distanceMeters sampleRate)
        crossfadeFrames := fiftyMilliseconds sampleRate } }

noncomputable def rebuild (libs : DspLibraries ℝ) (voice : DirectVoice)
    (source : HrtfSource ℝ) (normalizationGain : ℝ)
    (azimuthDegrees distanceMeters : Binary32) : DirectVoice :=
  { voice with
    slot := voice.slot.publish
      (.build libs source normalizationGain azimuthDegrees distanceMeters
        voice.sampleRate) }

def collectGarbage (voice : DirectVoice) : DirectVoice :=
  { voice with slot := voice.slot.collectGarbage }

noncomputable def process (voice : DirectVoice) (monoInput : List ℝ) :
    Option (List (StereoFrame ℝ) × DirectVoice) := do
  let (output, slot) ← voice.slot.process
    (fun filter monoInput => some (filter.process monoInput)) monoInput
  return (output, { voice with slot })

/-- The filters of a voice, also those that fade or wait, are the ones of this
voice. -/
structure Convolves (fft : RealFft ℝ) (voice : BinauralVoice ℝ) (direct : DirectVoice) :
    Prop where
  sampleRate : voice.sampleRate = direct.sampleRate
  slot : voice.slot.Related (DirectVoiceFilter.Convolves fft) direct.slot

section

variable {libs : DspLibraries ℝ} {voice : BinauralVoice ℝ} {direct : DirectVoice}

theorem convolves_new (source : HrtfSource ℝ) (normalizationGain : ℝ)
    (azimuthDegrees distanceMeters : Binary32) (sampleRate : ℝ) :
    Convolves libs.fft
      (.new libs source normalizationGain azimuthDegrees distanceMeters sampleRate)
      (new libs source normalizationGain azimuthDegrees distanceMeters sampleRate) :=
  ⟨rfl, CrossfadingSlot.related_initial
    (DirectVoiceFilter.convolves_build libs source normalizationGain azimuthDegrees
      distanceMeters sampleRate) _⟩

theorem Convolves.rebuild (h : Convolves libs.fft voice direct) (source : HrtfSource ℝ)
    (normalizationGain : ℝ) (azimuthDegrees distanceMeters : Binary32) :
    Convolves libs.fft
      (voice.rebuild libs source normalizationGain azimuthDegrees distanceMeters)
      (direct.rebuild libs source normalizationGain azimuthDegrees distanceMeters) := by
  refine ⟨h.sampleRate, h.slot.publish ?_⟩
  rw [← h.sampleRate]
  exact DirectVoiceFilter.convolves_build libs source normalizationGain azimuthDegrees
    distanceMeters voice.sampleRate

theorem Convolves.collectGarbage (h : Convolves libs.fft voice direct) :
    Convolves libs.fft voice.collectGarbage direct.collectGarbage :=
  ⟨h.sampleRate, h.slot.collectGarbage⟩

/-- A block is longer than what a stage renders at once only by whole blocks of
the convolver. -/
theorem dvd_length_take {ι : Type} {input : List ι} (h : blockSamples ∣ input.length) :
    blockSamples ∣ (input.take maxProcessFrames).length := by
  rw [List.length_take]
  rcases Nat.le_total maxProcessFrames input.length with hle | hle
  · rw [Nat.min_eq_left hle]
    exact ⟨64, rfl⟩
  · rwa [Nat.min_eq_right hle]

theorem Convolves.process (hfft : PartitionedConvolver.IsExact libs.fft)
    (h : Convolves libs.fft voice direct) {monoInput : List ℝ}
    (hinput : blockSamples ∣ monoInput.length) :
    Answers (Convolves libs.fft) (voice.process libs monoInput)
      (direct.process monoInput) := by
  have hslot : Answers (CrossfadingSlot.Related (DirectVoiceFilter.Convolves libs.fft))
      (voice.slot.process
        (fun filter monoInput => some (filter.process libs monoInput)) monoInput)
      (direct.slot.process
        (fun filter monoInput => some (filter.process monoInput)) monoInput) :=
    h.slot.process fun filter direct hfilter =>
      .some (hfilter.process hfft (dvd_length_take hinput))
  apply rel_bind hslot
  rintro ⟨output, slot⟩ ⟨_, slot'⟩ ⟨rfl, hslot⟩
  exact .some ⟨rfl, h.sampleRate, hslot⟩

end

end DirectVoice

end RamkolFX
