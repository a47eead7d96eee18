import RamkolFX.Daemon.EngineSteps
import RamkolFX.Daemon.Restart
import RamkolFX.Dsp.RoundedArith
import RamkolFX.Support.Runs

/-!
# Speaker distances

Distances are clamped wherever they enter the layout, so that the loudness
falloff divides by a bounded number.  The clamp and the `std::max` before the
division compare, and a comparison with a NaN is false: a NaN passes both, is
saved and restored, and makes NaNs of whatever the speaker plays.
-/

namespace RamkolFX

open Support

/-! ## One distance -/

/-- A number in `[MinSpeakerDistanceMeters, MaxSpeakerDistanceMeters]`. -/
structure DistanceInRange (distanceMeters : Binary32) : Prop where
  number : ¬ distanceMeters.IsNaN
  lower : minSpeakerDistanceMeters.value ≤ distanceMeters.value
  upper : distanceMeters.value ≤ maxSpeakerDistanceMeters.value

/-- A number in `[1/3, 10/3]`. -/
structure GainInRange (gain : Binary32) : Prop where
  number : ¬ gain.IsNaN
  lower : 1 / 3 ≤ gain.value
  upper : gain.value ≤ 10 / 3

/-- The clamp lets a NaN through and nothing else that is out of range. -/
theorem isNaN_clampDistance_iff (distanceMeters : Binary32) :
    (clampDistance distanceMeters).IsNaN ↔ distanceMeters.IsNaN := by
  rw [clampDistance, stdClamp]
  split
  · rename_i h
    exact iff_of_false (by decide) h.1
  · split
    · rename_i h
      exact iff_of_false (by decide) h.2.1
    · exact Iff.rfl

/-- A clamped number, in its bits. -/
structure Clamped (distanceMeters : Binary32) : Prop where
  positive : ¬ distanceMeters.Negative
  lower : minSpeakerDistanceMeters.magnitude ≤ distanceMeters.magnitude
  upper : distanceMeters.magnitude ≤ maxSpeakerDistanceMeters.magnitude

theorem clamped_clampDistance {distanceMeters : Binary32}
    (hnumber : ¬ distanceMeters.IsNaN) :
    Clamped (clampDistance distanceMeters) := by
  rw [clampDistance, stdClamp]
  split
  · constructor <;> decide
  · rename_i hlower
    split
    · constructor <;> decide
    · rename_i hupper
      have hmin : minSpeakerDistanceMeters.key ≤ distanceMeters.key := by
        by_contra hlt
        exact hlower ⟨hnumber, by decide, not_le.mp hlt⟩
      have hmax : distanceMeters.key ≤ maxSpeakerDistanceMeters.key := by
        by_contra hlt
        exact hupper ⟨by decide, hnumber, not_le.mp hlt⟩
      have hminKey : minSpeakerDistanceMeters.key = 0x3E99999A := by decide
      have hmaxKey : maxSpeakerDistanceMeters.key = 0x40400000 := by decide
      have hpositive : ¬ distanceMeters.Negative := by
        intro hnegative
        have hkey : distanceMeters.key = -(distanceMeters.magnitude : ℤ) :=
          if_pos hnegative
        omega
      have hkey : distanceMeters.key = distanceMeters.magnitude :=
        if_neg hpositive
      have hminMagnitude : minSpeakerDistanceMeters.magnitude = 0x3E99999A := by
        decide
      have hmaxMagnitude : maxSpeakerDistanceMeters.magnitude = 0x40400000 := by
        decide
      refine ⟨hpositive, ?_, ?_⟩ <;> omega

namespace Clamped

variable {distanceMeters : Binary32}

theorem finite (h : Clamped distanceMeters) :
    distanceMeters.magnitude < 0x7F800000 :=
  h.upper.trans_lt (by decide)

theorem number (h : Clamped distanceMeters) : ¬ distanceMeters.IsNaN :=
  Nat.lt_asymm h.finite

theorem inRange (h : Clamped distanceMeters) : DistanceInRange distanceMeters :=
  ⟨h.number, Binary32.value_mono (by decide) h.positive h.finite h.lower,
    Binary32.value_mono h.positive (by decide) (by decide) h.upper⟩

/-- The exact gain at a clamped distance. -/
theorem quotient_mem (h : Clamped distanceMeters) :
    1 / 3 ≤ 1 / distanceMeters.value ∧ 1 / distanceMeters.value ≤ 10 / 3 := by
  have hmin : 3 / 10 < minSpeakerDistanceMeters.value := by decide +kernel
  have hmax : maxSpeakerDistanceMeters.value = 3 := by decide +kernel
  obtain ⟨-, hlower, hupper⟩ := h.inRange
  have hpos : 0 < distanceMeters.value := by linarith
  constructor
  · rw [div_le_div_iff₀ (by norm_num) hpos]
    linarith
  · rw [div_le_div_iff₀ hpos (by norm_num)]
    linarith

/-- Rounding does not leave the range: its ends are rounded inwards. -/
theorem gainInRange (h : Clamped distanceMeters) :
    GainInRange (Binary32.div ⟨0x3F800000⟩ distanceMeters) := by
  have hone : (⟨0x3F800000⟩ : Binary32).value = 1 := by decide +kernel
  have hpos : 0 < distanceMeters.magnitude := lt_of_lt_of_le (by decide) h.lower
  have hdiv : Binary32.div ⟨0x3F800000⟩ distanceMeters =
      Binary32.round false (1 / distanceMeters.value) := by
    rw [Binary32.div_of_pos (by decide) (by decide) h.positive h.finite hpos, hone]
  obtain ⟨hlower, hupper⟩ := h.quotient_mem
  have hfinite : NumberText.roundToMagnitude (10 / 3) < 0x7F800000 := by
    decide +kernel
  have hfinite' : NumberText.roundToMagnitude (1 / distanceMeters.value) <
      0x7F800000 :=
    (Binary32.roundToMagnitude_mono (by linarith) hupper).trans_lt hfinite
  have hfirst : 1 / 3 ≤ (Binary32.round false (1 / 3)).value := by decide +kernel
  have hlast : (Binary32.round false (10 / 3)).value ≤ 10 / 3 := by decide +kernel
  rw [hdiv]
  refine ⟨Binary32.not_isNaN_round _ _, ?_, ?_⟩
  · exact hfirst.trans (Binary32.value_round_mono (by norm_num) hlower hfinite')
  · exact (Binary32.value_round_mono (by linarith) hupper hfinite).trans hlast

end Clamped

/-- The gain scales a number to a number. -/
theorem not_isNaN_mul_gain {sample gain : Binary32} (hsample : ¬ sample.IsNaN)
    (hgain : GainInRange gain) : ¬ (sample.mul gain).IsNaN := by
  apply Binary32.not_isNaN_mul hsample hgain.number
  · intro hinfinite
    have hvalue : gain.value = 0 := by
      have hmagnitude : gain.magnitude = 0x7F800000 := hinfinite
      have hexponent : gain.magnitude / 2 ^ 23 = 255 := by omega
      simp only [Binary32.value, hexponent, if_true, neg_zero, ite_self]
    linarith [hgain.lower]
  · intro hzero
    have hmagnitude : gain.magnitude = 0 := hzero
    have hvalue : gain.value = 0 := by
      simp [Binary32.value, hmagnitude]
    linarith [hgain.lower]

/-! ## A layout -/

section Layout

variable [CMath]

/-- Every distance is a number in its range, every gain is one in its range,
and no block without NaNs gets one from the falloff. -/
structure NearFieldSafe (layout : SpeakerLayout) : Prop where
  distance : ∀ speaker, DistanceInRange (layout.speakerDistanceMeters speaker)
  gain : ∀ speaker,
    GainInRange (AudioEngine.falloffGain layout speaker : Binary32)
  frames : ∀ (bNearFieldEnabled : Bool) (input : List (SevenOneFrame Binary32)),
    (∀ frame ∈ input, ∀ channel, ¬ (frame channel).IsNaN) →
    ∀ frame ∈ AudioEngine.applyNearFieldLoudnessFalloff bNearFieldEnabled layout
      input, ∀ channel, ¬ (frame channel).IsNaN

/-- No distance of the layout is a NaN. -/
def SpeakerLayout.DistancesAreNumbers (layout : SpeakerLayout) : Prop :=
  ∀ speaker, ¬ (layout.speakerDistanceMeters speaker).IsNaN

theorem falloffGain_of_clamped {layout : SpeakerLayout}
    {speaker : SpeakerChannel}
    (h : Clamped (layout.speakerDistanceMeters speaker)) :
    (AudioEngine.falloffGain layout speaker : Binary32) =
      Binary32.div ⟨0x3F800000⟩ (layout.speakerDistanceMeters speaker) := by
  have hmax : stdMax (layout.speakerDistanceMeters speaker)
      minSpeakerDistanceMeters = layout.speakerDistanceMeters speaker := by
    rw [stdMax, if_neg]
    rintro ⟨-, -, hlt⟩
    have hmin : minSpeakerDistanceMeters.key =
        minSpeakerDistanceMeters.magnitude := if_neg (by decide)
    have hkey : (layout.speakerDistanceMeters speaker).key =
        (layout.speakerDistanceMeters speaker).magnitude := if_neg h.positive
    have hlower := h.lower
    omega
  show Binary32.div ⟨0x3F800000⟩ (stdMax _ _) = _
  rw [hmax]

theorem nearFieldSafe_iff (layout : SpeakerLayout) :
    NearFieldSafe layout ↔ layout.DistancesAreNumbers := by
  constructor
  · intro h speaker
    exact (h.distance speaker).number
  · intro h
    have hclamped : ∀ speaker, Clamped (layout.speakerDistanceMeters speaker) := by
      intro speaker
      have hclamped := clamped_clampDistance (h speaker)
      rwa [layout.clamped speaker] at hclamped
    have hgain : ∀ speaker,
        GainInRange (AudioEngine.falloffGain layout speaker : Binary32) := by
      intro speaker
      rw [falloffGain_of_clamped (hclamped speaker)]
      exact (hclamped speaker).gainInRange
    refine ⟨fun speaker => (hclamped speaker).inRange, hgain, ?_⟩
    intro bNearFieldEnabled input hinput frame hframe channel
    rw [AudioEngine.applyNearFieldLoudnessFalloff] at hframe
    split at hframe
    · obtain ⟨original, horiginal, rfl⟩ := List.mem_map.mp hframe
      rcases eq_lfe_or_speaker channel with rfl | ⟨speaker, rfl⟩
      · rw [AudioEngine.mapSpeakers_lfe]
        exact hinput original horiginal _
      · rw [AudioEngine.mapSpeakers_speaker]
        exact not_isNaN_mul_gain (hinput original horiginal _) (hgain speaker)
    · exact hinput frame hframe channel

end Layout

/-! ## The life of a daemon -/

/-- What the daemon lives through: its events, and starts that restore what a
settings store holds. -/
inductive LifeEvent (α : Type)
  | happens (event : AudioEngine.Event α)
  | restart (store : SettingsStore) (devices : DeviceRegistry)

/-- The command sets no distance to a NaN. -/
def Command.SetsNoNaN (inCommand : Command) : Prop :=
  inCommand.commandOpcode = .setSpeakerDistance →
    ¬ inCommand.distanceMeters.IsNaN

/-- The store holds no distance that is a NaN. -/
def SettingsStore.RestoresNoNaN (store : SettingsStore) : Prop :=
  ∀ loadedSettings, store.load = some loadedSettings →
    ∀ speaker, ¬ (loadedSettings.speakerDistanceMeters speaker).IsNaN

/-- Neither a command nor a settings store brings in a NaN distance. -/
def LifeEvent.BringsNoNaN {α : Type} : LifeEvent α → Prop
  | .happens event =>
      ∀ inCommand, event.command = some inCommand → inCommand.SetsNoNaN
  | .restart store _ => store.RestoresNoNaN

namespace AudioEngine

section Life

variable {α : Type} [FloatArith α]

def live (setup : DaemonSetup α) (daemon : Daemon α) :
    LifeEvent α → Option (Daemon α)
  | .happens event => step setup daemon event
  | .restart store devices => some ⟨run setup store devices, []⟩

theorem distancesAreNumbers_run_iff (setup : DaemonSetup α)
    (store : SettingsStore) (devices : DeviceRegistry) :
    (run setup store devices).sharedLayout.DistancesAreNumbers ↔
      store.RestoresNoNaN := by
  have hrestored : (run setup store devices).sharedLayout.speakerDistanceMeters =
      (RestoredSettings.of store.load).speakerDistanceMeters :=
    congrArg RestoredSettings.speakerDistanceMeters
      (restored_run setup store devices)
  rw [SpeakerLayout.DistancesAreNumbers, hrestored]
  cases hload : store.load with
  | none =>
      refine iff_of_true ?_ ?_
      · show ∀ speaker : SpeakerChannel,
          ¬ (SpeakerLayout.new.speakerDistanceMeters speaker).IsNaN
        decide
      · intro loadedSettings hsome
        rw [hload] at hsome
        cases hsome
  | some loadedSettings =>
      have hdistance (speaker : SpeakerChannel) :
          ((RestoredSettings.of (some loadedSettings)).speakerDistanceMeters
            speaker).IsNaN ↔
            (loadedSettings.speakerDistanceMeters speaker).IsNaN :=
        isNaN_clampDistance_iff _
      constructor
      · intro h loaded hsome speaker
        obtain rfl := Option.some.inj (hload.symm.trans hsome)
        exact mt (hdistance speaker).mpr (h speaker)
      · intro h speaker
        exact mt (hdistance speaker).mp (h loadedSettings hload speaker)

variable {engine engine' : AudioEngine α} {inCommand : Command}

theorem Applies.distancesAreNumbers {libs : DspLibraries α}
    (h : Applies libs engine inCommand engine')
    (hnumbers : engine.sharedLayout.DistancesAreNumbers)
    (hcommand : inCommand.SetsNoNaN) :
    engine'.sharedLayout.DistancesAreNumbers := by
  cases h with
  | setSpeakerDistance hop channel hchannel deck hdeck =>
      intro speaker
      show ¬ (Function.update engine.sharedLayout.speakerDistanceMeters channel
        (clampDistance inCommand.distanceMeters) speaker).IsNaN
      by_cases hspeaker : speaker = channel
      · rw [hspeaker, Function.update_self, isNaN_clampDistance_iff]
        exact hcommand hop
      · rw [Function.update_of_ne hspeaker]
        exact hnumbers speaker
  | resetSpeakerPositions hop deck hdeck =>
      intro speaker
      show ¬ defaultSpeakerDistanceMeters.IsNaN
      decide
  | _ => exact hnumbers

theorem Takes.distancesAreNumbers {setup : DaemonSetup α}
    {daemon daemon' : Daemon α} {event : Event α}
    (h : Takes setup daemon event daemon')
    (hnumbers : daemon.engine.sharedLayout.DistancesAreNumbers)
    (hevent : (LifeEvent.happens event).BringsNoNaN) :
    daemon'.engine.sharedLayout.DistancesAreNumbers := by
  cases h with
  | handled frame bConnects inCommand limit hcommand hbounds engine' hhandled =>
      obtain ⟨deck, applied, settings, -, happlies, rfl⟩ := hhandled.applied
      exact happlies.distancesAreNumbers hnumbers (hevent inCommand hcommand)
  | rendered interleaved engine' hblock hrendered =>
      rw [hrendered.sharedLayout]
      exact hnumbers
  | _ => exact hnumbers

/-- A distance is a NaN behind a command that sets one. -/
theorem setsNoNaN_of_distancesAreNumbers (setup : DaemonSetup α)
    {daemon : Daemon α} (hsound : daemon.engine.Sound) {event : Event α}
    (h : ∀ daemon', step setup daemon event = some daemon' →
      daemon'.engine.sharedLayout.DistancesAreNumbers) :
    (LifeEvent.happens event).BringsNoNaN := by
  intro inCommand hcommand hop
  cases event with
  | request frame bConnects =>
      obtain ⟨limit, hbounds⟩ := Frame.inBounds_of_command hcommand
      obtain ⟨channel, hchannel⟩ := speakerChannel_of_inBounds hbounds
      obtain ⟨engine', hhandle, -⟩ :=
        hsound.handleControlCommand setup hbounds bConnects
      have hnumber := h _ (step_of_handled hcommand hhandle) channel
      rw [distance_of_setSpeakerDistance hop hchannel hhandle,
        isNaN_clampDistance_iff] at hnumber
      exact hnumber
  | _ => cases hcommand

/-- A daemon whose stages are sound and whose distances are numbers. -/
structure LivesInRange (daemon : Daemon α) : Prop where
  sound : daemon.engine.Sound
  distances : daemon.engine.sharedLayout.DistancesAreNumbers

theorem LivesInRange.live {daemon : Daemon α} (h : LivesInRange daemon)
    (setup : DaemonSetup α) {event : LifeEvent α} (hevent : event.BringsNoNaN) :
    ∃ daemon', live setup daemon event = some daemon' ∧ LivesInRange daemon' := by
  cases event with
  | happens event =>
      obtain ⟨daemon', hstep, htakes⟩ := h.sound.exists_takes setup event
      exact ⟨daemon', hstep, (htakes.stepped h.sound).sound,
        htakes.distancesAreNumbers h.distances hevent⟩
  | restart store devices =>
      exact ⟨_, rfl, sound_run setup store devices,
        (distancesAreNumbers_run_iff setup store devices).mpr hevent⟩

theorem LivesInRange.bringsNoNaN {daemon : Daemon α} (h : LivesInRange daemon)
    {setup : DaemonSetup α} {event : LifeEvent α}
    (hafter : ∀ daemon', AudioEngine.live setup daemon event = some daemon' →
      daemon'.engine.sharedLayout.DistancesAreNumbers) : event.BringsNoNaN := by
  cases event with
  | happens event => exact setsNoNaN_of_distancesAreNumbers setup h.sound hafter
  | restart store devices =>
      exact (distancesAreNumbers_run_iff setup store devices).mp
        (hafter _ rfl)

end Life

section Falloff

variable [CMath]

/-- The daemon that a life leads to, started with a store, has a safe near
field. -/
def StaysSafe (setup : DaemonSetup Binary32) (store : SettingsStore)
    (devices : DeviceRegistry) (life : List (LifeEvent Binary32)) : Prop :=
  ∀ daemon, runFrom (live setup) ⟨run setup store devices, []⟩ life =
    some daemon → NearFieldSafe daemon.engine.sharedLayout

/-- Throughout a life every distance and every gain is a number in its range
and the falloff makes no NaN, exactly if no restored settings and no command
bring in a distance that is a NaN. -/
theorem staysSafe_iff (setup : DaemonSetup Binary32) (store : SettingsStore)
    (devices : DeviceRegistry) (life : List (LifeEvent Binary32)) :
    Throughout (StaysSafe setup store devices) life ↔
      store.RestoresNoNaN ∧ ∀ event ∈ life, event.BringsNoNaN := by
  have hrun : store.RestoresNoNaN →
      (Throughout (StaysSafe setup store devices) life ↔
        AtEachEvent (fun _ event => event.BringsNoNaN) life) := by
    intro hstore
    have hinit : LivesInRange
        (⟨run setup store devices, []⟩ : Daemon Binary32) :=
      ⟨sound_run setup store devices,
        (distancesAreNumbers_run_iff setup store devices).mpr hstore⟩
    refine throughout_iff_of_invariant (live setup)
      (fun _ daemon => LivesInRange daemon) hinit ?_ ?_ ?_ life
    · intro past daemon hpast hinv daemon' hpast'
      obtain rfl := Option.some.inj (hpast.symm.trans hpast')
      exact (nearFieldSafe_iff _).mpr hinv.distances
    · intro past daemon event _ hinv hevent
      exact hinv.live setup hevent
    · intro past daemon event hpast hinv hgood
      apply hinv.bringsNoNaN
      intro daemon' hstep
      exact (nearFieldSafe_iff _).mp
        (hgood daemon' (runFrom_concat_of hpast hstep))
  constructor
  · intro h
    have hstore : store.RestoresNoNaN :=
      (distancesAreNumbers_run_iff setup store devices).mp
        ((nearFieldSafe_iff _).mp (h [] List.nil_prefix _ rfl))
    exact ⟨hstore, (atEachEvent_iff_forall_mem life).mp ((hrun hstore).mp h)⟩
  · rintro ⟨hstore, hlife⟩
    exact (hrun hstore).mpr ((atEachEvent_iff_forall_mem life).mpr hlife)

end Falloff

/-- Nothing is bundled, and no voice needs a transform. -/
def roundedSetup : DaemonSetup Binary32 where
  libs :=
    { fft :=
        { nextFastSizeReal := fun n => 2 * n
          fftr := fun _ _ => []
          fftri := fun n _ => List.replicate n ⟨0⟩
          le_nextFastSizeReal := fun n => Nat.le_mul_of_pos_left n two_pos
          even_nextFastSizeReal := fun n => Nat.mul_mod_right 2 n
          length_fftri := fun _ _ => List.length_replicate }
      mysofa := ⟨fun _ _ => none, fun coordinates => coordinates⟩ }
  files := ⟨[], fun _ => false, [], [], [], none⟩
  order := .stored

/-- `SetSpeakerDistance` of the front left speaker to a NaN. -/
def nanDistanceRequest : Event Binary32 :=
  .request ⟨0x0B, [0, 0x7F, 0xC0, 0, 0], by decide⟩ true

/-- The NaN passes the clamp. -/
theorem staysSafe_lost :
    ¬ Throughout (@StaysSafe nearestCMath roundedSetup ⟨none, true⟩ .new)
      [.happens nanDistanceRequest] := by
  let _ := nearestCMath
  intro h
  let daemon : Daemon Binary32 := ⟨run roundedSetup ⟨none, true⟩ .new, []⟩
  have hsound : daemon.engine.Sound := sound_run roundedSetup ⟨none, true⟩ .new
  have hnumbers : (LifeEvent.happens nanDistanceRequest).BringsNoNaN := by
    apply setsNoNaN_of_distancesAreNumbers roundedSetup hsound
    intro daemon' hstep
    have hafter : runFrom (live roundedSetup) daemon
        [.happens nanDistanceRequest] = some daemon' :=
      (runFrom_singleton _ _).trans hstep
    exact (nearFieldSafe_iff _).mp (h.last daemon' hafter)
  exact hnumbers _ rfl rfl (by decide)

end AudioEngine

end RamkolFX
