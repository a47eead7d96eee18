import RamkolFX.Dsp.FloatArith

/-!
# Crossfading slot

Swaps a live instance for a new one without a click: a published instance
waits in `pending` until `process` takes it, is crossfaded with the old one
over `crossfadeFrames` frames, and the old one is then handed to `trash`.

The instances are distinct objects behind `shared_ptr`s.  A null pointer is
`none`, and so is the result of an operation that dereferences one.
-/

namespace RamkolFX

open Support

/-- Upper bound on the frames of one `process` call. -/
abbrev maxProcessFrames : ℕ := 8192

/-- Frames of a crossfade of about 50 ms, the length every slot is given. -/
def fiftyMilliseconds {α : Type} [FloatArith α] (sampleRate : α) : ℕ :=
  (FloatArith.toUInt32 (FloatArith.ofFloat ⟨0x3D4CCCCD⟩ * sampleRate)).toNat -- 0.05f

structure CrossfadingSlot (T : Type) where
  live : Option T
  fadingOut : Option T := none
  fadeFramesRemaining : ℕ := 0
  trashSlot : Fin 2 := 0
  crossfadeFrames : ℕ
  pending : Option T := none
  trash : Fin 2 → Option T := fun _ => none

namespace CrossfadingSlot

variable {T : Type}

def publish (slot : CrossfadingSlot T) (newValue : T) : CrossfadingSlot T :=
  { slot with pending := some newValue }

def collectGarbage (slot : CrossfadingSlot T) : CrossfadingSlot T :=
  { slot with trash := fun _ => none }

def forwardToLive (runFn : T → T) (slot : CrossfadingSlot T) :
    Option (CrossfadingSlot T) :=
  slot.live.map fun live => { slot with live := some (runFn live) }

/-- The next `process` call takes the pending instance. -/
def Takes (slot : CrossfadingSlot T) : Prop :=
  slot.fadeFramesRemaining = 0 ∧ slot.pending.isSome

instance (slot : CrossfadingSlot T) : Decidable slot.Takes :=
  inferInstanceAs (Decidable (_ ∧ _))

/-- The instance published last: it waits, or has been taken. -/
def newest (slot : CrossfadingSlot T) : Option T :=
  slot.pending <|> slot.live

/-- Start of `process`: without a running fade, a pending instance becomes
live and a fade out of the old one begins. -/
def takePending (slot : CrossfadingSlot T) : CrossfadingSlot T :=
  if slot.Takes then
    { slot with
      pending := none
      fadingOut := slot.live
      live := slot.pending
      fadeFramesRemaining := slot.crossfadeFrames }
  else slot

/-- End of `process`: when the fade is over, the old instance is handed off
for the control thread to drop. -/
def discardFaded (slot : CrossfadingSlot T) : CrossfadingSlot T :=
  if slot.fadeFramesRemaining = 0 then
    { slot with
      trash := Function.update slot.trash slot.trashSlot slot.fadingOut
      fadingOut := none
      trashSlot := slot.trashSlot + 1 }
  else slot

variable {α ι : Type} [FloatArith α] {c : ℕ}

/-- The mixing loop: the gain of the new instance rises from frame to frame
while `fadeFramesRemaining` counts down. -/
def mix (crossfadeFrames : ℕ) :
    ℕ → List (AudioFrame c α) → List (AudioFrame c α) → List (AudioFrame c α)
  | fadeFramesRemaining, oldFrame :: oldFrames, newFrame :: newFrames =>
      let newGain : α := 1 - (fadeFramesRemaining : α) / (crossfadeFrames : α)
      let oldGain : α := 1 - newGain
      (fun channel =>
          oldFrame channel * oldGain + newFrame channel * newGain) ::
        mix crossfadeFrames (fadeFramesRemaining - 1) oldFrames newFrames
  | _, _, _ => []

theorem length_mix (crossfadeFrames remaining : ℕ)
    (oldFrames newFrames : List (AudioFrame c α)) :
    (mix crossfadeFrames remaining oldFrames newFrames).length =
      min oldFrames.length newFrames.length := by
  induction oldFrames generalizing remaining newFrames with
  | nil => simp [mix]
  | cons oldFrame oldFrames ih =>
      match newFrames with
      | [] => simp [mix]
      | newFrame :: newFrames => simp [mix, ih, Nat.add_min_add_right]

/-- Render one block.  `runOne` renders one instance's output for a block of
input frames; it is called twice while a fade runs. -/
def process (runOne : T → List ι → Option (List (AudioFrame c α) × T))
    (slot : CrossfadingSlot T) (input : List ι) :
    Option (List (AudioFrame c α) × CrossfadingSlot T) := do
  let input := input.take maxProcessFrames
  let slot := slot.takePending
  let (newFrames, live) ← runOne (← slot.live) input
  let slot := { slot with live := some live }
  if slot.fadeFramesRemaining = 0 then return (newFrames, slot)
  else do
    let (oldFrames, fadingOut) ← runOne (← slot.fadingOut) input
    let output := mix slot.crossfadeFrames slot.fadeFramesRemaining oldFrames
      newFrames
    -- the mixing loop counts down once per frame
    let slot :=
      { slot with
        fadingOut := some fadingOut
        fadeFramesRemaining := slot.fadeFramesRemaining - input.length }
    return (output, slot.discardFaded)

/-! ## No null pointer is rendered -/

/-- Every instance the slot may render is there and satisfies `Ok`. -/
structure Sound (Ok : T → Prop) (slot : CrossfadingSlot T) : Prop where
  live : ∃ live, slot.live = some live ∧ Ok live
  fadingOut : slot.fadeFramesRemaining ≠ 0 →
    ∃ fadingOut, slot.fadingOut = some fadingOut ∧ Ok fadingOut
  pending : ∀ pending, slot.pending = some pending → Ok pending

section

variable {Ok : T → Prop} {slot : CrossfadingSlot T}

theorem sound_initial {initial : T} (h : Ok initial) (crossfadeFrames : ℕ) :
    Sound Ok { live := some initial, crossfadeFrames } := by
  refine ⟨⟨initial, rfl, h⟩, ?_, ?_⟩
  · intro hfade
    exact absurd rfl hfade
  · intro pending hpending
    exact absurd hpending (by simp)

theorem Sound.publish (h : Sound Ok slot) {newValue : T} (hnew : Ok newValue) :
    Sound Ok (slot.publish newValue) := by
  refine ⟨h.live, h.fadingOut, ?_⟩
  rintro pending ⟨⟩
  exact hnew

theorem Sound.collectGarbage (h : Sound Ok slot) :
    Sound Ok slot.collectGarbage :=
  ⟨h.live, h.fadingOut, h.pending⟩

theorem Sound.forwardToLive (h : Sound Ok slot) {runFn : T → T}
    (hfn : ∀ t, Ok t → Ok (runFn t)) :
    ∃ live, slot.live = some live ∧
      slot.forwardToLive runFn = some { slot with live := some (runFn live) } ∧
      Sound Ok { slot with live := some (runFn live) } := by
  obtain ⟨live, hlive, hok⟩ := h.live
  refine ⟨live, hlive, by simp [CrossfadingSlot.forwardToLive, hlive], ?_⟩
  exact ⟨⟨runFn live, rfl, hfn live hok⟩, h.fadingOut, h.pending⟩

theorem Sound.takePending (h : Sound Ok slot) : Sound Ok slot.takePending := by
  by_cases htakes : slot.Takes
  · rw [CrossfadingSlot.takePending, if_pos htakes]
    obtain ⟨pending, hpending⟩ := Option.isSome_iff_exists.mp htakes.2
    refine ⟨⟨pending, hpending, h.pending pending hpending⟩, ?_, ?_⟩
    · intro _
      exact h.live
    · intro pending hnone
      exact absurd hnone (by simp)
  · rwa [CrossfadingSlot.takePending, if_neg htakes]

theorem Sound.discardFaded (h : Sound Ok slot) : Sound Ok slot.discardFaded := by
  by_cases hfade : slot.fadeFramesRemaining = 0
  · rw [CrossfadingSlot.discardFaded, if_pos hfade]
    refine ⟨h.live, ?_, h.pending⟩
    intro hne
    exact absurd hfade hne
  · rwa [CrossfadingSlot.discardFaded, if_neg hfade]

end

@[simp] theorem discardFaded_live (slot : CrossfadingSlot T) :
    slot.discardFaded.live = slot.live := by
  rw [discardFaded]
  split <;> rfl

@[simp] theorem discardFaded_pending (slot : CrossfadingSlot T) :
    slot.discardFaded.pending = slot.pending := by
  rw [discardFaded]
  split <;> rfl

/-! ## What a block does to the instances -/

/-- How a block changes the slot, if rendering moves an instance as `Moves`
says: an instance that is taken becomes the live one, and otherwise the live
one stays and the pending one is not touched. -/
structure Rendered (Moves : T → T → Prop)
    (before after : CrossfadingSlot T) : Prop where
  taken : before.Takes → after.pending = none ∧
    ∃ pending live, before.pending = some pending ∧ after.live = some live ∧
      Moves pending live
  kept : ¬ before.Takes → after.pending = before.pending ∧
    ∃ old live, before.live = some old ∧ after.live = some live ∧
      Moves old live

/-- What rendering does not change of an instance, a block does not change of
the instance published last. -/
theorem Rendered.newest_map {β : Type} {Moves : T → T → Prop}
    {before after : CrossfadingSlot T} (h : Rendered Moves before after)
    {f : T → β}
    (hf : ∀ t t', Moves t t' → f t' = f t) :
    after.newest.map f = before.newest.map f := by
  by_cases htakes : before.Takes
  · obtain ⟨hnone, pending, live, hpending, hlive, hmoves⟩ := h.taken htakes
    simp [newest, hnone, hpending, hlive, hf pending live hmoves]
  · obtain ⟨hpending, old, live, hold, hlive, hmoves⟩ := h.kept htakes
    cases hcase : before.pending with
    | none => simp [newest, hpending, hcase, hold, hlive, hf old live hmoves]
    | some pending => simp [newest, hpending, hcase]

section

variable {runOne : T → List ι → Option (List (AudioFrame c α) × T)}
  {slot : CrossfadingSlot T} {input : List ι}

/-- Without a fade, the live instance renders the block. -/
theorem process_of_single
    {live live' : T} {frames : List (AudioFrame c α)}
    (hlive : slot.takePending.live = some live)
    (hfade : slot.takePending.fadeFramesRemaining = 0)
    (hnew : runOne live (input.take maxProcessFrames) = some (frames, live')) :
    process runOne slot input =
      some (frames, { slot.takePending with live := some live' }) := by
  simp [process, hlive, hnew, hfade]

/-- During a fade, both instances render the block and are mixed. -/
theorem process_of_fade
    {live live' old old' : T} {newFrames oldFrames : List (AudioFrame c α)}
    (hlive : slot.takePending.live = some live)
    (hfade : slot.takePending.fadeFramesRemaining ≠ 0)
    (hold : slot.takePending.fadingOut = some old)
    (hnew : runOne live (input.take maxProcessFrames) = some (newFrames, live'))
    (holdRun :
      runOne old (input.take maxProcessFrames) = some (oldFrames, old')) :
    process runOne slot input =
      some (mix slot.takePending.crossfadeFrames
          slot.takePending.fadeFramesRemaining oldFrames newFrames,
        discardFaded
          { slot.takePending with
            live := some live'
            fadingOut := some old'
            fadeFramesRemaining := slot.takePending.fadeFramesRemaining -
              (input.take maxProcessFrames).length }) := by
  simp only [process, hlive, hold, Option.bind_eq_bind, Option.bind_some,
    hnew, holdRun, hfade, if_false]
  rfl

/-- A block has a frame of output for each frame of input if the renderings
have. -/
theorem length_process {output : List (AudioFrame c α)} {after : CrossfadingSlot T}
    (hrun : ∀ t input output t', runOne t input = some (output, t') →
      output.length = input.length)
    (h : process runOne slot input = some (output, after)) :
    output.length = (input.take maxProcessFrames).length := by
  obtain ⟨live, hlive, hrest⟩ := Option.bind_eq_some_iff.mp h
  obtain ⟨⟨newFrames, live'⟩, hnew, hrest⟩ := Option.bind_eq_some_iff.mp hrest
  by_cases hfade : slot.takePending.fadeFramesRemaining = 0
  · rw [process_of_single hlive hfade hnew] at h
    obtain ⟨rfl, -⟩ := Prod.mk.inj (Option.some.inj h)
    exact hrun _ _ _ _ hnew
  · dsimp only at hrest
    rw [if_neg hfade] at hrest
    obtain ⟨old, hold, hrest⟩ := Option.bind_eq_some_iff.mp hrest
    obtain ⟨⟨oldFrames, old'⟩, holdRun, -⟩ := Option.bind_eq_some_iff.mp hrest
    rw [process_of_fade hlive hfade hold hnew holdRun] at h
    obtain ⟨rfl, -⟩ := Prod.mk.inj (Option.some.inj h)
    rw [length_mix, hrun _ _ _ _ hnew, hrun _ _ _ _ holdRun, Nat.min_self]

/-- If rendering a sound instance succeeds, keeps it sound and moves it as
`Moves` says, then a block of a sound slot succeeds and does so too. -/
theorem process_sound
    (runOne : T → List ι → Option (List (AudioFrame c α) × T))
    (Ok : T → Prop) (Moves : T → T → Prop)
    (hrun : ∀ t input, Ok t →
      ∃ output t', runOne t input = some (output, t') ∧ Ok t' ∧ Moves t t')
    (h : Sound Ok slot) (input : List ι) :
    ∃ output slot', process runOne slot input = some (output, slot') ∧
      Sound Ok slot' ∧ Rendered Moves slot slot' := by
  have htake := h.takePending
  obtain ⟨live, hlive, hok⟩ := htake.live
  obtain ⟨newFrames, live', hnew, hok', hmoves⟩ :=
    hrun live (input.take maxProcessFrames) hok
  have hrendered : ∀ after : CrossfadingSlot T, after.live = some live' →
      after.pending = slot.takePending.pending → Rendered Moves slot after := by
    intro after hafter hpending
    constructor
    · intro htakes
      rw [takePending, if_pos htakes] at hlive hpending
      exact ⟨hpending, live, live', hlive, hafter, hmoves⟩
    · intro htakes
      rw [takePending, if_neg htakes] at hlive hpending
      exact ⟨hpending, live, live', hlive, hafter, hmoves⟩
  by_cases hfade : slot.takePending.fadeFramesRemaining = 0
  · refine ⟨_, _, process_of_single hlive hfade hnew, ?_, hrendered _ rfl rfl⟩
    exact ⟨⟨live', rfl, hok'⟩, htake.fadingOut, htake.pending⟩
  · obtain ⟨old, hold, hokOld⟩ := htake.fadingOut hfade
    obtain ⟨oldFrames, old', holdRun, hokOld', -⟩ :=
      hrun old (input.take maxProcessFrames) hokOld
    refine ⟨_, _, process_of_fade hlive hfade hold hnew holdRun, ?_,
      hrendered _ (by simp) (by simp)⟩
    apply Sound.discardFaded
    exact ⟨⟨live', rfl, hok'⟩, fun _ => ⟨old', rfl, hokOld'⟩, htake.pending⟩

end

end CrossfadingSlot

end RamkolFX
