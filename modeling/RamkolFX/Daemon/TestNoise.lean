import Mathlib
import RamkolFX.Support.FeedbackPeriod
import RamkolFX.Daemon.EngineSteps

/-!
# The test noise

The generator behind the test noise goes through all words but zero before it
repeats.  A frame draws seven words, one for each speaker, so every speaker gets
every level in turn, equally often, and goes on where it was when the noise was
switched off.
-/

namespace RamkolFX

open Support Function

/-- A word of the generator, with exclusive or for its addition. -/
@[ext] structure NoiseWord where
  word : UInt32
  deriving DecidableEq

namespace NoiseWord

instance : Add NoiseWord := ⟨fun v w => ⟨v.word ^^^ w.word⟩⟩

instance : Zero NoiseWord := ⟨⟨0⟩⟩

instance : Neg NoiseWord := ⟨fun v => v⟩

theorem add_self (v : NoiseWord) : v + v = 0 :=
  NoiseWord.ext UInt32.xor_self

instance : AddCommGroup NoiseWord where
  add_assoc u v w := NoiseWord.ext (UInt32.xor_assoc u.word v.word w.word)
  zero_add _ := NoiseWord.ext UInt32.zero_xor
  add_zero _ := NoiseWord.ext UInt32.xor_zero
  add_comm v w := NoiseWord.ext (UInt32.xor_comm v.word w.word)
  neg_add_cancel v := add_self v
  nsmul := nsmulRec
  zsmul := zsmulRec

/-- One turn of the generator. -/
def step (v : NoiseWord) : NoiseWord :=
  ⟨AudioEngine.xorshift32 v.word⟩

theorem step_iterate (n : ℕ) (v : NoiseWord) :
    step^[n] v = ⟨AudioEngine.xorshift32^[n] v.word⟩ := by
  induction n generalizing v with
  | zero => rfl
  | succ n ih => rw [iterate_succ_apply, iterate_succ_apply, ih, step]

theorem add_shiftLeft (v w n : UInt32) :
    (v ^^^ w) ^^^ (v ^^^ w) <<< n = (v ^^^ v <<< n) ^^^ (w ^^^ w <<< n) := by
  rw [UInt32.shiftLeft_xor]
  ac_rfl

theorem add_shiftRight (v w n : UInt32) :
    (v ^^^ w) ^^^ (v ^^^ w) >>> n = (v ^^^ v >>> n) ^^^ (w ^^^ w >>> n) := by
  rw [UInt32.shiftRight_xor]
  ac_rfl

theorem step_add (v w : NoiseWord) : step (v + w) = step v + step w := by
  apply NoiseWord.ext
  show AudioEngine.xorshift32 (v.word ^^^ w.word) =
    AudioEngine.xorshift32 v.word ^^^ AudioEngine.xorshift32 w.word
  simp only [AudioEngine.xorshift32]
  rw [add_shiftLeft v.word w.word 13, add_shiftRight _ _ 17, add_shiftLeft _ _ 5]

/-- The register's polynomial without its leading term. -/
def feedback : ℕ := 0x003EC241

theorem step_feedback :
    step^[32] ⟨1⟩ = Feedback.combine step 32 feedback ⟨1⟩ := by
  decide +kernel

theorem powX_feedback : Feedback.powX 32 feedback 32 (2 ^ 32 - 1) = 1 := by
  decide +kernel

/-- `2^32 - 1` is the product of the known Fermat primes. -/
theorem prime_dvd_period {p : ℕ} (hp : p.Prime) (hdvd : p ∣ 2 ^ 32 - 1) :
    p ∈ [3, 5, 17, 257, 65537] := by
  have hfactors : 2 ^ 32 - 1 = [3, 5, 17, 257, 65537].prod := by decide
  have hprimes : ∀ q ∈ [3, 5, 17, 257, 65537], Nat.Prime q := by
    simp only [List.forall_mem_cons]
    norm_num
  rw [hfactors] at hdvd
  obtain ⟨q, hmem, hq⟩ := hp.prime.dvd_prod_iff.mp hdvd
  rwa [(Nat.prime_dvd_prime_iff_eq hp (hprimes q hmem)).mp hq]

/-- No power by a divisor that leaves out a prime leads back. -/
theorem combine_powX_ne :
    ∀ p ∈ [3, 5, 17, 257, 65537], Feedback.combine step 32
      (Feedback.powX 32 feedback 32 ((2 ^ 32 - 1) / p)) ⟨1⟩ ≠ ⟨1⟩ := by
  decide +kernel

theorem minimalPeriod_step : minimalPeriod step ⟨1⟩ = 2 ^ 32 - 1 := by
  apply Feedback.minimalPeriod_of_powX step_add add_self step_feedback
    (by decide) (by decide) (by decide) powX_feedback
  intro p hp hdvd
  exact combine_powX_ne p (prime_dvd_period hp hdvd)

end NoiseWord

namespace AudioEngine

/-! ## The generator -/

theorem minimalPeriod_xorshift32_one : minimalPeriod xorshift32 1 = 2 ^ 32 - 1 := by
  rw [← NoiseWord.minimalPeriod_step]
  apply minimalPeriod_eq_minimalPeriod_iff.mpr
  intro n
  rw [IsPeriodicPt, IsFixedPt, IsPeriodicPt, IsFixedPt, NoiseWord.step_iterate]
  exact NoiseWord.ext_iff.symm

/-- The words of a range of values. -/
theorem ncard_words (low : ℕ) {high : ℕ} (hhigh : high ≤ 2 ^ 32) :
    {w : UInt32 | low ≤ w.toNat ∧ w.toNat < high}.ncard = high - low := by
  have himage : UInt32.toNat '' {w : UInt32 | low ≤ w.toNat ∧ w.toNat < high} =
      Set.Ico low high := by
    ext n
    constructor
    · rintro ⟨w, hw, rfl⟩
      exact hw
    · rintro ⟨hlow, hlt⟩
      have hn : (UInt32.ofNat n).toNat = n :=
        UInt32.toNat_ofNat_of_lt' (hlt.trans_le hhigh)
      exact ⟨UInt32.ofNat n, ⟨hn.symm ▸ hlow, hn.symm ▸ hlt⟩, hn⟩
  have hinj : Set.InjOn UInt32.toNat {w : UInt32 | low ≤ w.toNat ∧ w.toNat < high} :=
    fun v _ w _ h => UInt32.toNat_inj.mp h
  rw [← hinj.ncard_image, himage, Set.ncard_Ico_nat]

theorem words_ne_zero_eq :
    {w : UInt32 | w ≠ 0} = {w : UInt32 | 1 ≤ w.toNat ∧ w.toNat < 2 ^ 32} := by
  ext w
  have hzero : w = 0 ↔ w.toNat = 0 := UInt32.toNat_inj.symm
  have hlt := w.toNat_lt
  simp only [Set.mem_ofPred_eq, ne_eq, hzero]
  omega

instance : Finite UInt32 :=
  Finite.of_injective UInt32.toFin fun _ _ h => UInt32.toFin_inj.mp h

theorem xorshift32_zero : xorshift32 0 = 0 := by decide

theorem xorshift32_iterate_one_ne (n : ℕ) : xorshift32^[n] 1 ≠ 0 := by
  intro hzero
  have hperiod : xorshift32^[(2 ^ 32 - 1) * n] 1 = 1 := by
    rw [← minimalPeriod_xorshift32_one]
    exact (isPeriodicPt_minimalPeriod xorshift32 1).mul_const n
  have hsplit : (2 ^ 32 - 1) * n = (2 ^ 32 - 2) * n + n := by omega
  rw [hsplit, iterate_add_apply, hzero, iterate_fixed xorshift32_zero] at hperiod
  exact absurd hperiod (by decide)

/-- The orbit of one is every word but zero. -/
theorem image_xorshift32_iterate :
    (fun n => xorshift32^[n] 1) '' Set.Iio (2 ^ 32 - 1) = {w | w ≠ 0} := by
  rw [← minimalPeriod_xorshift32_one]
  apply image_iterate_eq (Set.toFinite _) xorshift32_iterate_one_ne
  rw [minimalPeriod_xorshift32_one, words_ne_zero_eq, ncard_words 1 le_rfl]

theorem minimalPeriod_xorshift32 {w : UInt32} (hw : w ≠ 0) :
    minimalPeriod xorshift32 w = 2 ^ 32 - 1 := by
  have hmem : w ∈ (fun n => xorshift32^[n] 1) '' Set.Iio (2 ^ 32 - 1) := by
    rw [image_xorshift32_iterate]
    exact hw
  obtain ⟨n, -, rfl⟩ := hmem
  have hperiodic : (1 : UInt32) ∈ periodicPts xorshift32 :=
    minimalPeriod_pos_iff_mem_periodicPts.mp (by
      rw [minimalPeriod_xorshift32_one]
      decide)
  exact (minimalPeriod_apply_iterate hperiodic n).trans minimalPeriod_xorshift32_one

theorem xorshift32_iterate_ne {w : UInt32} (hw : w ≠ 0) (n : ℕ) :
    xorshift32^[n] w ≠ 0 := by
  have hmem : w ∈ (fun n => xorshift32^[n] 1) '' Set.Iio (2 ^ 32 - 1) := by
    rw [image_xorshift32_iterate]
    exact hw
  obtain ⟨m, -, rfl⟩ := hmem
  dsimp only
  rw [← iterate_add_apply]
  exact xorshift32_iterate_one_ne (n + m)

/-- A speaker draws every seventh word, and seven does not divide the period. -/
theorem minimalPeriod_seven {w : UInt32} (hw : w ≠ 0) :
    minimalPeriod xorshift32^[7] w = 2 ^ 32 - 1 := by
  rw [minimalPeriod_iterate_eq_div_gcd (by decide), minimalPeriod_xorshift32 hw]
  decide

theorem image_seven_iterate {w : UInt32} (hw : w ≠ 0) :
    (fun k => (xorshift32^[7])^[k] w) '' Set.Iio (minimalPeriod xorshift32^[7] w) =
      {w | w ≠ 0} := by
  apply image_iterate_eq (Set.toFinite _)
  · intro k
    rw [← iterate_mul]
    exact xorshift32_iterate_ne hw (7 * k)
  · rw [minimalPeriod_seven hw, words_ne_zero_eq, ncard_words 1 le_rfl]

/-! ## Levels -/

/-- The level of a word is its 24 high bits on a scale of a quarter. -/
theorem noiseSample_eq (w : UInt32) :
    (noiseSample w : ℝ) = ((w.toNat / 256 : ℕ) / 2 ^ 24 * 2 - 1) / 4 := by
  have hscale : (FloatArith.ofFloat ⟨0x4B800000⟩ : ℝ) = 2 ^ 24 := by
    have hvalue : (⟨0x4B800000⟩ : Binary32).value = 2 ^ 24 := by decide +kernel
    show (((⟨0x4B800000⟩ : Binary32).value : ℚ) : ℝ) = 2 ^ 24
    rw [hvalue]
    norm_num
  have hgain : (FloatArith.ofFloat ⟨0x3E800000⟩ : ℝ) = 1 / 4 := by
    have hvalue : (⟨0x3E800000⟩ : Binary32).value = 1 / 4 := by decide +kernel
    show (((⟨0x3E800000⟩ : Binary32).value : ℚ) : ℝ) = 1 / 4
    rw [hvalue]
    norm_num
  have hbits : (w >>> 8).toNat = w.toNat / 256 := by
    rw [UInt32.toNat_shiftRight]
    simp only [UInt32.reduceToNat, Nat.reduceMod, Nat.shiftRight_eq_div_pow]
  rw [noiseSample, hscale, hgain, hbits]
  ring

/-- The words at a level: 256, and one fewer where zero would be among them. -/
theorem ncard_level {u : ℕ} (hu : u < 2 ^ 24) :
    {w : UInt32 | w ≠ 0 ∧
      (noiseSample w : ℝ) = ((u : ℝ) / 2 ^ 24 * 2 - 1) / 4}.ncard =
      if u = 0 then 255 else 256 := by
  have hlevel : {w : UInt32 | w ≠ 0 ∧
      (noiseSample w : ℝ) = ((u : ℝ) / 2 ^ 24 * 2 - 1) / 4} =
      {w : UInt32 | max 1 (256 * u) ≤ w.toNat ∧ w.toNat < 256 * u + 256} := by
    ext w
    have hzero : w = 0 ↔ w.toNat = 0 := UInt32.toNat_inj.symm
    have hsame : ((w.toNat / 256 : ℕ) / 2 ^ 24 * 2 - 1) / 4 =
        ((u : ℝ) / 2 ^ 24 * 2 - 1) / 4 ↔ w.toNat / 256 = u := by
      rw [← Nat.cast_inj (R := ℝ)]
      constructor <;> intro h <;> linarith
    rw [Set.mem_ofPred_eq, Set.mem_ofPred_eq, noiseSample_eq, hsame, ne_eq, hzero]
    omega
  rw [hlevel, ncard_words _ (by omega)]
  split <;> omega

/-! ## Frames -/

section

variable {α : Type} [FloatArith α]

/-- The frame of test noise that is `k` frames behind a word. -/
def noiseFrame (noiseState : UInt32) (k : ℕ) : SevenOneFrame α :=
  (testNoiseFrame (xorshift32^[7 * k] noiseState)).1

theorem testNoiseFrame_speaker (noiseState : UInt32) (speaker : SpeakerChannel) :
    (testNoiseFrame noiseState : SevenOneFrame α × UInt32).1
        (speakerToFrameIndex speaker) =
      noiseSample (xorshift32^[speaker + 1] noiseState) := by
  fin_cases speaker <;> rfl

theorem testNoiseFrame_lfe (noiseState : UInt32) :
    (testNoiseFrame noiseState : SevenOneFrame α × UInt32).1 SevenOneChannel.lfe.index =
      0 :=
  rfl

theorem testNoiseFrame_state (noiseState : UInt32) :
    (testNoiseFrame noiseState : SevenOneFrame α × UInt32).2 =
      xorshift32^[7] noiseState :=
  rfl

theorem noiseFrame_add (noiseState : UInt32) (frames k : ℕ) :
    (noiseFrame (xorshift32^[7 * frames] noiseState) k : SevenOneFrame α) =
      noiseFrame noiseState (frames + k) := by
  have hturns : 7 * (frames + k) = 7 * k + 7 * frames := by ring
  rw [noiseFrame, noiseFrame, ← iterate_add_apply, hturns]

/-- A filled block goes on where the last one stopped. -/
theorem fillTestNoise_eq (frames : ℕ) (noiseState : UInt32) :
    (fillTestNoise frames noiseState : List (SevenOneFrame α) × UInt32) =
      ((List.range frames).map (noiseFrame noiseState),
        xorshift32^[7 * frames] noiseState) := by
  induction frames generalizing noiseState with
  | zero => rfl
  | succ frames ih =>
      have hnext : ∀ k, (noiseFrame (xorshift32^[7] noiseState) k : SevenOneFrame α) =
          noiseFrame noiseState (k + 1) := by
        intro k
        rw [Nat.add_comm]
        exact noiseFrame_add noiseState 1 k
      have hturns : 7 * (frames + 1) = 7 * frames + 7 := by ring
      simp only [fillTestNoise, testNoiseFrame_state, ih]
      rw [List.range_succ_eq_map, List.map_cons, List.map_map, hturns,
        iterate_add_apply, List.map_congr_left fun k _ => hnext k]
      rfl

end

theorem periodic_noiseFrame {noiseState : UInt32} (h : noiseState ≠ 0) :
    Periodic (noiseFrame noiseState : ℕ → SevenOneFrame ℝ) (2 ^ 32 - 1) := by
  intro k
  have hturns : 7 * (k + (2 ^ 32 - 1)) = 7 * k + (2 ^ 32 - 1) * 7 := by ring
  have hperiod : xorshift32^[(2 ^ 32 - 1) * 7] noiseState = noiseState := by
    rw [← minimalPeriod_xorshift32 h]
    exact (isPeriodicPt_minimalPeriod xorshift32 noiseState).mul_const 7
  rw [noiseFrame, hturns, iterate_add_apply, hperiod, noiseFrame]

/-- In as many frames as the period has, wherever they begin, a speaker gets
every level, and every level equally often but the lowest, which zero misses. -/
theorem ncard_noiseFrame {noiseState : UInt32} (h : noiseState ≠ 0)
    (speaker : SpeakerChannel) (first : ℕ) {u : ℕ} (hu : u < 2 ^ 24) :
    {k | k < 2 ^ 32 - 1 ∧
      (noiseFrame noiseState (first + k) : SevenOneFrame ℝ)
        (speakerToFrameIndex speaker) = ((u : ℝ) / 2 ^ 24 * 2 - 1) / 4}.ncard =
      if u = 0 then 255 else 256 := by
  have hstart : xorshift32^[7 * first + (speaker + 1)] noiseState ≠ 0 :=
    xorshift32_iterate_ne h _
  have hdrawn : ∀ k, (noiseFrame noiseState (first + k) : SevenOneFrame ℝ)
      (speakerToFrameIndex speaker) = noiseSample ((xorshift32^[7])^[k]
        (xorshift32^[7 * first + (speaker + 1)] noiseState)) := by
    intro k
    have hturns : speaker + 1 + 7 * (first + k) =
        7 * k + (7 * first + (speaker + 1)) := by ring
    rw [noiseFrame, testNoiseFrame_speaker, ← iterate_mul, ← iterate_add_apply,
      ← iterate_add_apply, hturns]
  have hround := ncard_iterate_eq (image_seven_iterate hstart)
    fun w => (noiseSample w : ℝ) = ((u : ℝ) / 2 ^ 24 * 2 - 1) / 4
  rw [minimalPeriod_seven hstart] at hround
  simp only [hdrawn]
  exact hround.trans (ncard_level hu)

/-! ## Runs -/

section

variable {α : Type} [FloatArith α]

/-- The daemon, and the frames of test noise it has drawn, the latest last. -/
structure NoisyDaemon (α : Type) where
  daemon : Daemon α
  drawn : List (SevenOneFrame α) := []

/-- The frames of test noise that take the place of what is captured. -/
def Event.drawn (engine : AudioEngine α) : Event α → List (SevenOneFrame α)
  | .virtualSinkAudio interleaved =>
      if engine.bTestNoiseEnabled then
        (fillTestNoise (interleaved.take maxProcessFrames).length engine.noiseState).1
      else []
  | _ => []

def noisyStep (setup : DaemonSetup α) (noisy : NoisyDaemon α) (event : Event α) :
    Option (NoisyDaemon α) :=
  (step setup noisy.daemon event).map fun daemon =>
    ⟨daemon, noisy.drawn ++ event.drawn noisy.daemon.engine⟩

/-- The seed of `NoiseState`. -/
def noiseSeed : UInt32 := 0x9E3779B9

/-- The frames drawn are the first of the generator's, and it stands behind them. -/
structure NoiseGoesOn (noisy : NoisyDaemon α) : Prop where
  sound : noisy.daemon.engine.Sound
  drawn : noisy.drawn = (List.range noisy.drawn.length).map (noiseFrame noiseSeed)
  noiseState : noisy.daemon.engine.noiseState =
    xorshift32^[7 * noisy.drawn.length] noiseSeed

theorem Applies.noiseState {libs : DspLibraries α}
    {engine engine' : AudioEngine α} {inCommand : Command}
    (h : Applies libs engine inCommand engine') :
    engine'.noiseState = engine.noiseState := by
  cases h <;> rfl

/-- A block moves the generator by the frames it draws. -/
theorem drawn_of_handleVirtualSinkAudio {libs : DspLibraries α}
    {engine engine' : AudioEngine α} {interleaved : List (SevenOneFrame α)}
    (h : handleVirtualSinkAudio libs engine interleaved = some engine') :
    ∃ frames, (Event.virtualSinkAudio interleaved).drawn engine =
        (List.range frames).map (noiseFrame engine.noiseState) ∧
      engine'.noiseState = xorshift32^[7 * frames] engine.noiseState := by
  have hcaptured : engine'.noiseState = (captureInput engine interleaved).2 := by
    simp only [handleVirtualSinkAudio, Option.bind_eq_bind] at h
    obtain ⟨⟨output, deck⟩, -, h⟩ := Option.bind_eq_some_iff.mp h
    obtain ⟨⟨output', hwEq⟩, -, h⟩ := Option.bind_eq_some_iff.mp h
    obtain ⟨⟨output'', bassEnhancer⟩, -, h⟩ := Option.bind_eq_some_iff.mp h
    obtain rfl := Option.some.inj h
    rfl
  rw [hcaptured, captureInput, Event.drawn]
  cases engine.bTestNoiseEnabled with
  | false => exact ⟨0, rfl, rfl⟩
  | true =>
      refine ⟨(interleaved.take maxProcessFrames).length, ?_, ?_⟩
      · rw [if_pos rfl, fillTestNoise_eq]
      · simp only [if_true, fillTestNoise_eq]

theorem NoiseGoesOn.draws {noisy : NoisyDaemon α} (h : NoiseGoesOn noisy)
    {daemon : Daemon α} (hsound : daemon.engine.Sound) (frames : ℕ)
    (hstate : daemon.engine.noiseState =
      xorshift32^[7 * frames] noisy.daemon.engine.noiseState) :
    NoiseGoesOn ⟨daemon, noisy.drawn ++
      (List.range frames).map (noiseFrame noisy.daemon.engine.noiseState)⟩ where
  sound := hsound
  drawn := by
    have hdrawn : (List.range frames).map
        (noiseFrame noisy.daemon.engine.noiseState) =
          (List.range frames).map fun k =>
            (noiseFrame noiseSeed (noisy.drawn.length + k) : SevenOneFrame α) := by
      apply List.map_congr_left
      intro k _
      rw [h.noiseState, noiseFrame_add]
    dsimp only
    rw [List.length_append, List.length_map, List.length_range, List.range_add,
      List.map_append, List.map_map, ← h.drawn, hdrawn]
    rfl
  noiseState := by
    have hturns : 7 * (noisy.drawn.length + frames) =
        7 * frames + 7 * noisy.drawn.length := by ring
    dsimp only
    rw [List.length_append, List.length_map, List.length_range, hturns,
      iterate_add_apply, ← h.noiseState]
    exact hstate

/-- An event that draws nothing leaves the generator where it is. -/
theorem NoiseGoesOn.rests {noisy : NoisyDaemon α} (h : NoiseGoesOn noisy)
    {daemon : Daemon α} (hsound : daemon.engine.Sound)
    (hstate : daemon.engine.noiseState = noisy.daemon.engine.noiseState) :
    NoiseGoesOn ⟨daemon, noisy.drawn ++ []⟩ :=
  h.draws hsound 0 hstate

theorem NoiseGoesOn.noisyStep {noisy : NoisyDaemon α} (h : NoiseGoesOn noisy)
    (setup : DaemonSetup α) (event : Event α) :
    ∃ noisy', noisyStep setup noisy event = some noisy' ∧ NoiseGoesOn noisy' := by
  obtain ⟨daemon, hstep, htakes⟩ := h.sound.exists_takes setup event
  refine ⟨⟨daemon, noisy.drawn ++ event.drawn noisy.daemon.engine⟩, ?_, ?_⟩
  · rw [AudioEngine.noisyStep, hstep]
    rfl
  have hsound := (htakes.stepped h.sound).sound
  cases htakes with
  | undecoded frame bConnects hcommand => exact h.rests h.sound rfl
  | handled frame bConnects inCommand limit hcommand hbounds engine' hhandled =>
      obtain ⟨deck, applied, settings, -, happlies, rfl⟩ := hhandled.applied
      exact h.rests hsound happlies.noiseState
  | rendered interleaved engine' hblock hrendered =>
      obtain ⟨frames, hdrawn, hstate⟩ := drawn_of_handleVirtualSinkAudio hblock
      rw [hdrawn]
      exact h.draws hsound frames hstate
  | hardwareOutputRequest | registry | hrtfDirectoryChanged =>
      exact h.rests hsound rfl

end

/-- Whatever happens, the frames that take the place of captured audio are one
stretch of the generator's, and in its stream every speaker gets every level. -/
theorem testNoise_run (setup : DaemonSetup ℝ) (store : SettingsStore)
    (devices : DeviceRegistry) (events : List (Event ℝ)) :
    (∃ noisy, runFrom (noisyStep setup) ⟨⟨run setup store devices, []⟩, []⟩ events =
        some noisy ∧
      noisy.drawn = (List.range noisy.drawn.length).map (noiseFrame noiseSeed)) ∧
    Periodic (noiseFrame noiseSeed : ℕ → SevenOneFrame ℝ) (2 ^ 32 - 1) ∧
    ∀ (speaker : SpeakerChannel) (first u : ℕ), u < 2 ^ 24 →
      {k | k < 2 ^ 32 - 1 ∧
        (noiseFrame noiseSeed (first + k) : SevenOneFrame ℝ)
          (speakerToFrameIndex speaker) = ((u : ℝ) / 2 ^ 24 * 2 - 1) / 4}.ncard =
        if u = 0 then 255 else 256 := by
  have hseed : noiseSeed ≠ 0 := by decide
  refine ⟨?_, periodic_noiseFrame hseed, fun speaker first u hu =>
    ncard_noiseFrame hseed speaker first hu⟩
  have hany : AtEachEvent (fun _ _ => True) events := fun _ _ _ => trivial
  obtain ⟨noisy, hrun, hnoise⟩ := runFrom_invariant (noisyStep setup)
    (fun _ noisy => NoiseGoesOn noisy)
    (s := ⟨⟨run setup store devices, []⟩, []⟩)
    ⟨sound_run setup store devices, rfl, rfl⟩
    (fun _ _ event _ hnoise _ => hnoise.noisyStep setup event) hany
  exact ⟨noisy, hrun, hnoise.drawn⟩

end AudioEngine

end RamkolFX
