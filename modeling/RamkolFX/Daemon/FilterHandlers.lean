import RamkolFX.Daemon.ControlCommands
import RamkolFX.Dsp.ExactArith
import RamkolFX.Support.Interleaving
import Mathlib.Tactic.Linarith

/-!
# Filter commands of several clients

A handler updates the settings under a lock, and then reads them back, builds
a filter and publishes it without one.  A filter that was built before another
handler's update can be published after that handler's filter.
-/

namespace RamkolFX

open Support

variable {α : Type} [FloatArith α]

/-! ## What rendering leaves of a filter -/

/-- A section with its delays empty. -/
def Biquad.atRest (biquad : Biquad α) : Biquad α :=
  { biquad with z1 := 0, z2 := 0 }

theorem Biquad.atRest_cascade (biquads : List (Biquad α)) (sample : α) :
    (cascade biquads sample).2.map atRest = biquads.map atRest := by
  induction biquads generalizing sample with
  | nil => rfl
  | cons biquad biquads ih =>
      simp only [cascade, List.map_cons, ih]
      rfl

namespace GraphicEqFilter

def atRest (filter : GraphicEqFilter α) : GraphicEqFilter α :=
  ⟨filter.left.map Biquad.atRest, filter.right.map Biquad.atRest⟩

theorem atRest_new (bands : Fin maxEqBands → EqBand) (sampleRate : α) :
    (new bands sampleRate).atRest = new bands sampleRate := by
  simp only [atRest, new, List.map_ofFn]
  rfl

theorem atRest_process (filter : GraphicEqFilter α)
    (input : List (StereoFrame α)) :
    (process filter input).2.atRest = filter.atRest := by
  induction input generalizing filter with
  | nil => rfl
  | cons inFrame input ih =>
      show (process (filter.processFrame inFrame).2 input).2.atRest = _
      rw [ih]
      simp only [atRest, processFrame, Biquad.atRest_cascade]

end GraphicEqFilter

namespace BassEnhancerFilter

def atRest (filter : BassEnhancerFilter α) : BassEnhancerFilter α :=
  { filter with
    lowPass := filter.lowPass.atRest
    highPass := filter.highPass.atRest }

theorem atRest_new (settings : BassEnhancerSettings) (sampleRate : α) :
    (new settings sampleRate).atRest = new settings sampleRate :=
  rfl

theorem atRest_process (filter : BassEnhancerFilter α)
    (input : List (StereoFrame α)) :
    (process filter input).2.atRest = filter.atRest := by
  have henhance : (enhance filter input).2.atRest = filter.atRest := by
    induction input generalizing filter with
    | nil => rfl
    | cons inFrame input ih =>
        show (enhance (filter.processFrame inFrame).2 input).2.atRest = _
        rw [ih]
        rfl
  rw [process]
  split
  · exact henhance
  · rfl

end BassEnhancerFilter

/-! ## The two filters -/

/-- A filter that is built from settings of type `σ`, which commands of type
`κ` change. -/
structure FilterKind (σ κ F α : Type) where
  change : σ → κ → σ
  build : σ → α → F
  runOne : F → List (StereoFrame α) → List (StereoFrame α) × F
  /-- The filter without what it remembers of the audio. -/
  atRest : F → F
  atRest_build : ∀ settings sampleRate,
    atRest (build settings sampleRate) = build settings sampleRate
  atRest_runOne : ∀ filter input, atRest (runOne filter input).2 = atRest filter

/-- `SetHwEqBand`, `HwEqBandState` and `HwEqStage`. -/
def hwEqKind : FilterKind (Fin maxEqBands → EqBand) (Fin maxEqBands × EqBand)
    (GraphicEqFilter α) α where
  change bands command := Function.update bands command.1 command.2
  build := .new
  runOne := GraphicEqFilter.process
  atRest := .atRest
  atRest_build := GraphicEqFilter.atRest_new
  atRest_runOne := GraphicEqFilter.atRest_process

/-- `SetBassEnhancer`, `BassEnhancerSettingsState` and `BassEnhancerStage`. -/
def bassEnhancerKind : FilterKind BassEnhancerSettings BassEnhancerSettings
    (BassEnhancerFilter α) α where
  change _ command := command
  build := .new
  runOne := BassEnhancerFilter.process
  atRest := .atRest
  atRest_build := BassEnhancerFilter.atRest_new
  atRest_runOne := BassEnhancerFilter.atRest_process

/-! ## Handlers and audio -/

/-- How far a handler is.  A built filter comes with the number of updates
before it was built. -/
inductive FilterPhase (F : Type)
  | updated
  | built (filter : F) (updatesSeen : ℕ)

structure FilterHandlers (σ F α : Type) where
  settings : σ
  stage : FilterStage F α
  handlers : Threads (FilterPhase F) := fun _ => none
  updates : ℕ := 0

/-- One step of a handler, a block of audio, or the reclaiming of faded
filters. -/
inductive FilterEvent (κ α : Type)
  | update (handler : ℕ) (command : κ)
  | build (handler : ℕ)
  | publish (handler : ℕ)
  | audio (input : List (StereoFrame α))
  | collectGarbage

namespace FilterHandlers

variable {σ κ F : Type}

/-- Everything is as the daemon sets it up, and no handler is in flight. -/
def start (kind : FilterKind σ κ F α) (settings : σ) (sampleRate : α) :
    FilterHandlers σ F α :=
  { settings
    stage := .new (kind.build settings sampleRate) sampleRate }

def step (kind : FilterKind σ κ F α) (s : FilterHandlers σ F α) :
    FilterEvent κ α → Option (FilterHandlers σ F α)
  | .update handler command =>
      match s.handlers handler with
      | none =>
          some { s with
            settings := kind.change s.settings command
            handlers := s.handlers.start handler .updated
            updates := s.updates + 1 }
      | some _ => none
  | .build handler =>
      match s.handlers handler with
      | some .updated =>
          let filter := kind.build s.settings s.stage.sampleRate
          some { s with
            handlers := s.handlers.start handler (.built filter s.updates) }
      | _ => none
  | .publish handler =>
      match s.handlers handler with
      | some (.built filter _) =>
          some { s with
            stage := s.stage.publish filter
            handlers := s.handlers.finish handler }
      | _ => none
  | .audio input =>
      (s.stage.process kind.runOne input).map fun (_, stage) => { s with stage }
  | .collectGarbage => some { s with stage := s.stage.collectGarbage }

/-- Once no handler is in flight, the filter published last is the one of the
settings. -/
def PublishedIsCurrent (kind : FilterKind σ κ F α) (s : FilterHandlers σ F α) :
    Prop :=
  s.handlers.Idle →
    s.stage.slot.newest.map kind.atRest =
      some (kind.build s.settings s.stage.sampleRate)

/-- A publication that leaves no handler in flight is of a filter built after
the last update. -/
def PublishesLatest (s : FilterHandlers σ F α) : FilterEvent κ α → Prop
  | .publish handler =>
      s.handlers.OthersIdle handler → ∀ filter updatesSeen,
        s.handlers handler = some (.built filter updatesSeen) →
        updatesSeen = s.updates
  | _ => True

/-! ## Runs -/

/-- A filter that was built after the last update is the one of the settings. -/
structure Invariant (kind : FilterKind σ κ F α) (s : FilterHandlers σ F α) :
    Prop where
  sound : s.stage.Sound
  seen : ∀ handler filter updatesSeen,
    s.handlers handler = some (.built filter updatesSeen) →
    updatesSeen ≤ s.updates
  built : ∀ handler filter, s.handlers handler = some (.built filter s.updates) →
    filter = kind.build s.settings s.stage.sampleRate
  published : PublishedIsCurrent kind s

section

variable {kind : FilterKind σ κ F α} {s s' : FilterHandlers σ F α}
  {event : FilterEvent κ α} {handler : ℕ}

theorem invariant_start (kind : FilterKind σ κ F α) (settings : σ)
    (sampleRate : α) : Invariant kind (start kind settings sampleRate) where
  sound := FilterStage.sound_new _ _
  seen := nofun
  built := nofun
  published := fun _ => congrArg some (kind.atRest_build settings sampleRate)

omit [FloatArith α] in
theorem Invariant.update (h : Invariant kind s) (command : κ) :
    Invariant kind
      { s with
        settings := kind.change s.settings command
        handlers := s.handlers.start handler .updated
        updates := s.updates + 1 } where
  sound := h.sound
  seen := by
    intro other filter updatesSeen hother
    rcases Threads.eq_or_of_start hother with hnew | hold
    · cases hnew
    · exact Nat.le_succ_of_le (h.seen other filter updatesSeen hold)
  built := by
    -- whatever was built before this update is out of date
    intro other filter hother
    rcases Threads.eq_or_of_start hother with hnew | hold
    · cases hnew
    · exact absurd (h.seen other filter _ hold) (Nat.not_succ_le_self _)
  published := fun hidle => absurd hidle Threads.not_idle_start

omit [FloatArith α] in
theorem Invariant.build (h : Invariant kind s) :
    Invariant kind
      { s with
        handlers := s.handlers.start handler
          (.built (kind.build s.settings s.stage.sampleRate) s.updates) } where
  sound := h.sound
  seen := by
    intro other filter updatesSeen hother
    rcases Threads.eq_or_of_start hother with hnew | hold
    · obtain ⟨-, rfl⟩ := FilterPhase.built.inj hnew
      exact Nat.le_refl _
    · exact h.seen other filter updatesSeen hold
  built := by
    intro other filter hother
    rcases Threads.eq_or_of_start hother with hnew | hold
    · exact (FilterPhase.built.inj hnew).1
    · exact h.built other filter hold
  published := fun hidle => absurd hidle Threads.not_idle_start

omit [FloatArith α] in
theorem Invariant.publish (h : Invariant kind s) {filter : F} {updatesSeen : ℕ}
    (hbuilt : s.handlers handler = some (.built filter updatesSeen))
    (hlatest : s.handlers.OthersIdle handler → updatesSeen = s.updates) :
    Invariant kind
      { s with
        stage := s.stage.publish filter
        handlers := s.handlers.finish handler } where
  sound := h.sound.publish filter
  seen := fun other filter updatesSeen hother =>
    h.seen other filter updatesSeen (Threads.of_finish hother)
  built := fun other filter hother =>
    h.built other filter (Threads.of_finish hother)
  published := by
    intro hidle
    have hseen := hlatest (Threads.idle_finish_iff.mp hidle)
    rw [hseen] at hbuilt
    obtain rfl := h.built handler filter hbuilt
    exact congrArg some (kind.atRest_build s.settings s.stage.sampleRate)

theorem Invariant.audio (h : Invariant kind s) {input : List (StereoFrame α)}
    (hstep : step kind s (.audio input) = some s') : Invariant kind s' := by
  obtain ⟨output, slot, hprocess, hsound, hrendered⟩ :=
    CrossfadingSlot.process_sound
      (fun filter input => some (kind.runOne filter input)) (fun _ => True)
      (fun filter filter' => kind.atRest filter' = kind.atRest filter)
      (fun filter input _ =>
        ⟨_, _, rfl, trivial, kind.atRest_runOne filter input⟩) h.sound input
  have hstage : s.stage.process kind.runOne input =
      some (output, { s.stage with slot }) := by
    rw [FilterStage.process, hprocess]
    rfl
  rw [step, hstage] at hstep
  obtain rfl := Option.some.inj hstep
  constructor
  case sound => exact hsound
  case seen => exact h.seen
  case built => exact h.built
  case published =>
    intro hidle
    exact (hrendered.newest_map fun _ _ hmoves => hmoves).trans
      (h.published hidle)

/-- Every step keeps the invariant, if a publication that leaves no handler in
flight is of a filter built after the last update. -/
theorem Invariant.step (h : Invariant kind s) (hlatest : PublishesLatest s event)
    (hstep : step kind s event = some s') : Invariant kind s' := by
  cases event with
  | update handler command =>
      simp only [FilterHandlers.step] at hstep
      split at hstep
      · obtain rfl := Option.some.inj hstep
        exact h.update command
      · cases hstep
  | build handler =>
      simp only [FilterHandlers.step] at hstep
      split at hstep
      · obtain rfl := Option.some.inj hstep
        exact h.build
      · cases hstep
  | publish handler =>
      simp only [FilterHandlers.step] at hstep
      split at hstep
      · rename_i filter updatesSeen hbuilt
        obtain rfl := Option.some.inj hstep
        exact h.publish hbuilt fun hothers =>
          hlatest hothers filter updatesSeen hbuilt
      · cases hstep
  | audio input => exact h.audio hstep
  | collectGarbage =>
      obtain rfl := Option.some.inj hstep
      exact ⟨h.sound.collectGarbage, h.seen, h.built, h.published⟩

/-- Whatever order the steps of the handlers and the audio blocks come in, the
filter published last is the one of the settings once no handler is in flight,
if the last publication before that is of a filter built after the last
update. -/
theorem publishedIsCurrent_of_publishesLatest (kind : FilterKind σ κ F α)
    (settings : σ) (sampleRate : α) {run : List (FilterEvent κ α)}
    (hlatest : AtEachEvent (StepMeets (FilterHandlers.step kind) PublishesLatest
      (start kind settings sampleRate)) run)
    (hrun : runFrom (FilterHandlers.step kind) (start kind settings sampleRate)
      run = some s) : PublishedIsCurrent kind s := by
  have hinvariant := invariant_of_stepMeets (Invariant kind)
    (invariant_start kind settings sampleRate)
    (fun _ _ _ hinv hmeets hstep => hinv.step hmeets hstep) hlatest hrun
  exact hinvariant.published

/-! ## One handler at a time -/

/-- A handler whose steps follow on each other publishes what it set. -/
theorem runFrom_undisturbed (hidle : s.handlers handler = none) (command : κ) :
    ∃ s', runFrom (FilterHandlers.step kind) s
        [.update handler command, .build handler, .publish handler] = some s' ∧
      s'.settings = kind.change s.settings command ∧
      s'.stage = s.stage.publish
        (kind.build (kind.change s.settings command) s.stage.sampleRate) := by
  let filter := kind.build (kind.change s.settings command) s.stage.sampleRate
  let handlers := ((s.handlers.start handler .updated).start handler
    (.built filter (s.updates + 1))).finish handler
  refine ⟨⟨kind.change s.settings command, s.stage.publish filter, handlers,
    s.updates + 1⟩, ?_, rfl, rfl⟩
  simp only [runFrom, List.foldlM_cons, List.foldlM_nil, FilterHandlers.step,
    hidle, Threads.start_self, Option.bind_eq_bind, Option.bind_some]
  rfl

end

/-- An undisturbed `SetHwEqBand` is the one of the engine. -/
theorem setHwEqBand_of_undisturbed (engine : AudioEngine α) (handler : ℕ)
    (i : Fin maxEqBands) (band : EqBand) :
    ∃ s', runFrom (step hwEqKind) ⟨engine.hwEqBandState, engine.hwEq,
        fun _ => none, 0⟩
        [.update handler (i, band), .build handler, .publish handler] = some s' ∧
      s'.settings = (AudioEngine.setHwEqBand engine i band).hwEqBandState ∧
      s'.stage = (AudioEngine.setHwEqBand engine i band).hwEq :=
  runFrom_undisturbed rfl (i, band)

/-- An undisturbed `SetBassEnhancer` is the one of the engine. -/
theorem setBassEnhancer_of_undisturbed (engine : AudioEngine α) (handler : ℕ)
    (settings : BassEnhancerSettings) :
    ∃ s', runFrom (step bassEnhancerKind) ⟨engine.bassEnhancerSettingsState,
        engine.bassEnhancer, fun _ => none, 0⟩
        [.update handler settings, .build handler, .publish handler] = some s' ∧
      s'.settings =
        (AudioEngine.setBassEnhancer engine settings).bassEnhancerSettingsState ∧
      s'.stage = (AudioEngine.setBassEnhancer engine settings).bassEnhancer :=
  runFrom_undisturbed rfl settings

/-! ## Both stages -/

/-- What the queries report is what is heard, of the equalizer and of the bass
enhancer, once no handler is in flight. -/
theorem publishedIsCurrent_run (sampleRate : α)
    (bands : Fin maxEqBands → EqBand) (settings : BassEnhancerSettings) :
    (∀ run s, AtEachEvent (StepMeets (step hwEqKind) PublishesLatest
        (start hwEqKind bands sampleRate)) run →
      runFrom (step hwEqKind) (start hwEqKind bands sampleRate) run = some s →
      PublishedIsCurrent hwEqKind s) ∧
    (∀ run s, AtEachEvent (StepMeets (step bassEnhancerKind) PublishesLatest
        (start bassEnhancerKind settings sampleRate)) run →
      runFrom (step bassEnhancerKind)
        (start bassEnhancerKind settings sampleRate) run = some s →
      PublishedIsCurrent bassEnhancerKind s) := by
  constructor
  · intro run s hlatest hrun
    exact publishedIsCurrent_of_publishesLatest hwEqKind bands sampleRate hlatest
      hrun
  · intro run s hlatest hrun
    exact publishedIsCurrent_of_publishesLatest bassEnhancerKind settings
      sampleRate hlatest hrun

/-! ## Two handlers -/

/-- `1.0f` -/
theorem ofFloat_one : (FloatArith.ofFloat ⟨0x3F800000⟩ : ℝ) = 1 := by
  have hvalue : (⟨0x3F800000⟩ : Binary32).value = 1 := by decide +kernel
  show (((⟨0x3F800000⟩ : Binary32).value : ℚ) : ℝ) = 1
  rw [hvalue, Rat.cast_one]

def lowPassBand : EqBand := { filterType := .lowPass, q := ⟨0x3F800000⟩ } -- 1.0f

def highPassBand : EqBand := { filterType := .highPass, q := ⟨0x3F800000⟩ }

/-- The two designs have the same denominator and differ by two above it. -/
theorem bandSection_lowPass_ne (sampleRate : ℝ) :
    GraphicEqFilter.bandSection lowPassBand sampleRate ≠
      GraphicEqFilter.bandSection highPassBand sampleRate := by
  intro h
  let limit : ℝ := sampleRate * FloatArith.ofFloat ⟨0x3EFAE148⟩
  let w0 : ℝ := 2 * FloatArith.ofFloat ⟨0x40490FDB⟩ *
    stdClamp (FloatArith.ofFloat ⟨0x447A0000⟩) 1 limit / sampleRate
  let clampedQ : ℝ :=
    stdMax (FloatArith.ofFloat ⟨0x3F800000⟩) (FloatArith.ofFloat ⟨0x3D4CCCCD⟩)
  let alpha : ℝ := Real.sin w0 / (2 * clampedQ)
  have hb1 : (1 - Real.cos w0) / (1 + alpha) = -(1 + Real.cos w0) / (1 + alpha) :=
    congrArg Biquad.b1 h
  have hq : 1 ≤ clampedQ := by
    have hmax : clampedQ = max (FloatArith.ofFloat ⟨0x3F800000⟩) _ :=
      stdMax_eq_max _ _
    rw [hmax, ← ofFloat_one]
    exact le_max_left _ _
  have hsin : -1 ≤ Real.sin w0 := Real.neg_one_le_sin w0
  have halpha : -1 < alpha := by
    rw [lt_div_iff₀ (by linarith)]
    linarith
  have hpos : 1 + alpha ≠ 0 := by linarith
  rw [div_left_inj' hpos] at hb1
  linarith

/-- Two clients set the same band, and the filter of the first one is published
last. -/
theorem publishedIsCurrent_lost :
    ∃ s, runFrom (step hwEqKind) (start hwEqKind defaultHwEqBands (48000 : ℝ))
        [.update 0 (0, lowPassBand), .build 0, .update 1 (0, highPassBand),
          .build 1, .publish 1, .publish 0] = some s ∧
      ¬ PublishedIsCurrent hwEqKind s := by
  refine ⟨_, rfl, ?_⟩
  intro h
  let first := Function.update defaultHwEqBands 0 lowPassBand
  let both := Function.update first 0 highPassBand
  have hpublished := h (Threads.idle_finish_finish ?_)
  swap
  · intro handler hzero hone
    simp only [Threads.start_of_ne hzero, Threads.start_of_ne hone]
    rfl
  have hfilter : (GraphicEqFilter.new first (48000 : ℝ)).atRest =
      .new both 48000 := Option.some.inj hpublished
  rw [GraphicEqFilter.atRest_new] at hfilter
  have hleft : List.ofFn (fun i => GraphicEqFilter.bandSection (first i) (48000 : ℝ)) =
      List.ofFn fun i => GraphicEqFilter.bandSection (both i) 48000 :=
    congrArg GraphicEqFilter.left hfilter
  exact bandSection_lowPass_ne 48000 (congrFun (List.ofFn_injective hleft) 0)

/-- One client sets one band. -/
theorem publishedIsCurrent_setHwEqBand :
    ∃ s, runFrom (step hwEqKind) (start hwEqKind defaultHwEqBands (48000 : ℝ))
        [.update 0 (0, lowPassBand), .build 0, .publish 0] = some s ∧
      PublishedIsCurrent hwEqKind s := by
  obtain ⟨s, hs⟩ : ∃ s, runFrom (step hwEqKind)
      (start hwEqKind defaultHwEqBands (48000 : ℝ))
      [.update 0 (0, lowPassBand), .build 0, .publish 0] = some s := ⟨_, rfl⟩
  refine ⟨s, hs,
    (publishedIsCurrent_run 48000 defaultHwEqBands {}).1 _ s ?_ hs⟩
  refine stepMeets_cons trivial ?_
  rintro _ ⟨⟩
  refine stepMeets_cons trivial ?_
  rintro _ ⟨⟩
  refine stepMeets_cons ?_ fun _ _ => atEachEvent_nil
  intro _ filter updatesSeen hbuilt
  obtain ⟨-, rfl⟩ := FilterPhase.built.inj (Option.some.inj hbuilt)
  rfl

end FilterHandlers

end RamkolFX
