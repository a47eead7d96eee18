import RamkolFX.Dsp.CrossfadingSlot
import RamkolFX.Dsp.ExactArith
import RamkolFX.Support.Runs

/-!
# Runs of a crossfading slot

The slot under any sequence of its operations.  The instances are numbered in
the order in which they are published, the initial one being 0, and it is
written down which of them become live, which are rendered, and which are
handed to the trash.
-/

namespace RamkolFX

open Support

/-- An object behind a `shared_ptr`: rendering changes what it holds, its
number tells it from the others. -/
structure Instance (T : Type) where
  number : ℕ
  value : T

/-- What `Process` is given to render an instance with: one frame of output for
each frame of input. -/
structure Renderer (T ι : Type) (c : ℕ) (α : Type) where
  run : T → List ι → List (AudioFrame c α) × T
  length_run : ∀ t input, (run t input).1.length = input.length

namespace Renderer

variable {T ι α : Type} {c : ℕ}

/-- The rendering of a numbered instance. -/
def render (renderer : Renderer T ι c α) (inst : Instance T) (input : List ι) :
    Option (List (AudioFrame c α) × Instance T) :=
  some ((renderer.run inst.value input).1,
    { inst with value := (renderer.run inst.value input).2 })

/-- Instances that are gains. -/
noncomputable def amplifier : Renderer ℝ ℝ 1 ℝ where
  run gain input := (input.map fun sample _ => gain * sample, gain)
  length_run _ _ := List.length_map ..

end Renderer

namespace CrossfadingSlot

variable {T ι α : Type} {c : ℕ}

/-! ## One block -/

/-- The instances that the next block is rendered by. -/
def rendering (slot : CrossfadingSlot T) : List T :=
  slot.takePending.live.toList ++
    if slot.takePending.fadeFramesRemaining = 0 then []
    else slot.takePending.fadingOut.toList

/-- The instance that a block has handed to the trash: `TrashSlot` has moved on
from the slot it is in. -/
def handedOff (before after : CrossfadingSlot T) : Option T :=
  if after.trashSlot = before.trashSlot then none
  else after.trash before.trashSlot

section

variable [FloatArith α] {slot : CrossfadingSlot T}
  {runOne : T → List ι → Option (List (AudioFrame c α) × T)} {input : List ι}

/-- Just these instances are rendered: the block succeeds exactly if they are
there and rendering each of them succeeds. -/
theorem isSome_process_iff :
    (process runOne slot input).isSome ↔
      slot.takePending.live.isSome ∧
      (slot.takePending.fadeFramesRemaining ≠ 0 →
        slot.takePending.fadingOut.isSome) ∧
      ∀ t ∈ slot.rendering, (runOne t (input.take maxProcessFrames)).isSome := by
  rw [rendering]
  cases hlive : slot.takePending.live with
  | none => simp [process, hlive]
  | some live =>
      by_cases hfade : slot.takePending.fadeFramesRemaining = 0
      · cases hnew : runOne live (input.take maxProcessFrames) with
        | none => simp [process, hlive, hnew, hfade]
        | some rendered => simp [process, hlive, hnew, hfade]
      · cases hold : slot.takePending.fadingOut with
        | none =>
            cases hnew : runOne live (input.take maxProcessFrames) with
            | none => simp [process, hlive, hnew, hfade, hold]
            | some rendered => simp [process, hlive, hnew, hfade, hold]
        | some old =>
            cases hnew : runOne live (input.take maxProcessFrames) with
            | none => simp [process, hlive, hnew, hfade, hold]
            | some rendered =>
                cases holdRun : runOne old (input.take maxProcessFrames) with
                | none => simp [process, hlive, hnew, hfade, hold, holdRun]
                | some renderedOld =>
                    simp [process, hlive, hnew, hfade, hold, holdRun]

end

/-! ## Who is where -/

/-- The slot with something else in the place of each instance. -/
def map {β : Type} (f : T → β) (slot : CrossfadingSlot T) : CrossfadingSlot β where
  live := slot.live.map f
  fadingOut := slot.fadingOut.map f
  fadeFramesRemaining := slot.fadeFramesRemaining
  trashSlot := slot.trashSlot
  crossfadeFrames := slot.crossfadeFrames
  pending := slot.pending.map f
  trash := fun i => (slot.trash i).map f

/-- What is left of a block once an instance may have been taken: the fade goes
on, and ends or not. -/
def finish (frames : ℕ) (slot : CrossfadingSlot T) : CrossfadingSlot T :=
  if slot.fadeFramesRemaining = 0 then slot
  else
    discardFaded
      { slot with fadeFramesRemaining := slot.fadeFramesRemaining - frames }

/-- What a block does with the instances, whatever they are. -/
def advance (frames : ℕ) (slot : CrossfadingSlot T) : CrossfadingSlot T :=
  slot.takePending.finish frames

section

variable {β : Type} (f : T → β) (slot : CrossfadingSlot T)

theorem takes_map : (slot.map f).Takes ↔ slot.Takes := by
  rw [Takes, Takes, map, Option.isSome_map]

theorem takePending_map : (slot.map f).takePending = slot.takePending.map f := by
  by_cases htakes : slot.Takes
  · rw [takePending, if_pos ((takes_map f slot).mpr htakes), takePending,
      if_pos htakes]
    rfl
  · rw [takePending, if_neg (mt (takes_map f slot).mp htakes), takePending,
      if_neg htakes]

theorem discardFaded_map :
    (slot.map f).discardFaded = slot.discardFaded.map f := by
  by_cases hfade : slot.fadeFramesRemaining = 0
  · have hfade' : (slot.map f).fadeFramesRemaining = 0 := hfade
    rw [discardFaded, if_pos hfade', discardFaded, if_pos hfade]
    simp only [map, Option.map_none, CrossfadingSlot.mk.injEq, true_and]
    funext i
    by_cases hi : i = slot.trashSlot
    · simp [hi]
    · simp [hi]
  · have hfade' : ¬ (slot.map f).fadeFramesRemaining = 0 := hfade
    rw [discardFaded, if_neg hfade', discardFaded, if_neg hfade]

end

section

variable [FloatArith α] {slot after : CrossfadingSlot (Instance T)}
  {renderer : Renderer T ι c α} {input : List ι}

/-- Rendering a block changes what the instances hold, and otherwise does with
them what it does with their numbers. -/
theorem process_render (hlive : slot.takePending.live.isSome)
    (hfading : slot.takePending.fadeFramesRemaining ≠ 0 →
      slot.takePending.fadingOut.isSome) :
    ∃ output after, process renderer.render slot input = some (output, after) ∧
      after.map Instance.number =
        (slot.map Instance.number).advance (input.take maxProcessFrames).length := by
  obtain ⟨live, hlive⟩ := Option.isSome_iff_exists.mp hlive
  rw [advance, takePending_map]
  by_cases hfade : slot.takePending.fadeFramesRemaining = 0
  · refine ⟨_, _, process_of_single hlive hfade rfl, ?_⟩
    have hfade' : (slot.takePending.map Instance.number).fadeFramesRemaining = 0 :=
      hfade
    rw [finish, if_pos hfade']
    simp [map, hlive]
  · obtain ⟨old, hold⟩ := Option.isSome_iff_exists.mp (hfading hfade)
    refine ⟨_, _, process_of_fade hlive hfade hold rfl rfl, ?_⟩
    have hfade' : ¬ (slot.takePending.map Instance.number).fadeFramesRemaining = 0 :=
      hfade
    rw [finish, if_neg hfade', ← discardFaded_map]
    simp [map, hlive, hold]

end

/-! ## Runs -/

/-- An operation on the slot. -/
inductive Event (T ι : Type) (c : ℕ) (α : Type)
  | publish (newValue : T)
  | collectGarbage
  | process (renderer : Renderer T ι c α) (input : List ι)

/-- A frame of output, and the frames that the sources have rendered for it;
`none` for a source that was not rendered. -/
structure MixedFrame (κ : Type) (c : ℕ) (α : Type) where
  output : AudioFrame c α
  rendered : κ → Option (AudioFrame c α)

/-- What the instances render for the `i`-th frame of a block. -/
def renderedFrame (slot : CrossfadingSlot (Instance T))
    (renderer : Renderer T ι c α) (input : List ι) (i number : ℕ) :
    Option (AudioFrame c α) :=
  (slot.rendering.find? fun inst => inst.number = number).bind fun inst =>
    (renderer.run inst.value (input.take maxProcessFrames)).1[i]?

/-- The slot, how many instances have been published, which ones have become
live, which ones have been handed to the trash, and the frames put out. -/
structure Session (T : Type) (c : ℕ) (α : Type) where
  slot : CrossfadingSlot (Instance T)
  published : ℕ := 0
  wentLive : List ℕ := [0]
  trashed : List ℕ := []
  frames : List (MixedFrame ℕ c α) := []

namespace Session

/-- A new slot. -/
def new (initial : T) (crossfadeFrames : ℕ) : Session T c α where
  slot := { live := some ⟨0, initial⟩, crossfadeFrames }

def numbers (session : Session T c α) : CrossfadingSlot ℕ :=
  session.slot.map Instance.number

/-- The instance that has become live. -/
def becameLive (before after : CrossfadingSlot ℕ) : Option ℕ :=
  if after.live = before.live then none else after.live

def step [FloatArith α] (session : Session T c α) :
    Event T ι c α → Option (Session T c α)
  | .publish newValue =>
      let number := session.published + 1
      some { session with
        slot := session.slot.publish ⟨number, newValue⟩
        published := number }
  | .collectGarbage =>
      some { session with slot := session.slot.collectGarbage }
  | .process renderer input => do
      let (output, slot) ← session.slot.process renderer.render input
      let numbers := slot.map Instance.number
      return {
        slot
        published := session.published
        wentLive :=
          session.wentLive ++ (becameLive session.numbers numbers).toList
        trashed := session.trashed ++ (handedOff session.numbers numbers).toList
        frames := session.frames ++ output.mapIdx fun i frame =>
          ⟨frame, renderedFrame session.slot renderer input i⟩ }

/-- The instances after a block. -/
theorem numbers_of_process [FloatArith α] {session after : Session T c α}
    {renderer : Renderer T ι c α} {input : List ι}
    (h : session.step (.process renderer input) = some after) :
    after.numbers =
      session.numbers.advance (input.take maxProcessFrames).length ∧
    after.published = session.published := by
  obtain ⟨⟨output, slot⟩, hprocess, hafter⟩ := Option.bind_eq_some_iff.mp h
  have hsome := Option.isSome_iff_exists.mpr ⟨_, hprocess⟩
  obtain ⟨hlive, hfading, -⟩ := isSome_process_iff.mp hsome
  obtain ⟨output', slot', hprocess', hnumbers⟩ :=
    @process_render _ _ _ _ _ _ renderer input hlive hfading
  obtain rfl : slot' = slot :=
    congrArg Prod.snd (Option.some.inj (hprocess'.symm.trans hprocess))
  rw [← Option.some.inj hafter]
  exact ⟨hnumbers, rfl⟩

/-- Every instance is older than the ones before it on its way: those in the
trash, the one fading out, the live one, the pending one. -/
structure InTurn (numbers : CrossfadingSlot ℕ) (published : ℕ)
    (wentLive trashed : List ℕ) : Prop where
  crossfadeFrames_pos : 0 < numbers.crossfadeFrames
  live : ∃ live, numbers.live = some live ∧ (∀ n ∈ wentLive, n ≤ live)
  wentLive : wentLive.Pairwise (· < ·)
  fadingOut_iff : numbers.fadingOut.isSome ↔ 0 < numbers.fadeFramesRemaining
  fadingOut_lt : ∀ old ∈ numbers.fadingOut, ∀ live ∈ numbers.live, old < live
  pending_gt : ∀ pending ∈ numbers.pending, ∀ live ∈ numbers.live, live < pending
  trashed_lt : ∀ n ∈ trashed, ∀ live ∈ numbers.live, n < live
  trashed_lt_fadingOut : ∀ n ∈ trashed, ∀ old ∈ numbers.fadingOut, n < old
  newest : numbers.newest = some published

section

variable {numbers : CrossfadingSlot ℕ} {published : ℕ} {wentLive trashed : List ℕ}

theorem InTurn.live_le (h : InTurn numbers published wentLive trashed) :
    ∀ live ∈ numbers.live, live ≤ published := by
  intro live hlive
  have hnewest : (numbers.pending <|> numbers.live) = some published := h.newest
  cases hpending : numbers.pending with
  | none =>
      rw [hpending, Option.mem_def.mp hlive] at hnewest
      exact (Option.some.inj hnewest).le
  | some pending =>
      rw [hpending] at hnewest
      obtain rfl := Option.some.inj hnewest
      exact (h.pending_gt pending hpending live hlive).le

theorem InTurn.publish (h : InTurn numbers published wentLive trashed) :
    InTurn (numbers.publish (published + 1)) (published + 1) wentLive trashed := by
  refine { h with pending_gt := ?_, newest := rfl }
  intro pending hpending live hlive
  obtain rfl := Option.some.inj hpending
  exact Nat.lt_succ_of_le (h.live_le live hlive)

theorem InTurn.collectGarbage (h : InTurn numbers published wentLive trashed) :
    InTurn numbers.collectGarbage published wentLive trashed :=
  { h with }

/-- A pending instance is taken in its turn. -/
theorem InTurn.takePending (h : InTurn numbers published wentLive trashed) :
    InTurn numbers.takePending published
      (wentLive ++ (becameLive numbers numbers.takePending).toList) trashed := by
  obtain ⟨live, hlive, hle⟩ := h.live
  by_cases htakes : numbers.Takes
  · obtain ⟨pending, hpending⟩ := Option.isSome_iff_exists.mp htakes.2
    have hlt : live < pending := h.pending_gt pending hpending live hlive
    have hbecame : becameLive numbers
        { numbers with
          pending := none
          fadingOut := numbers.live
          live := numbers.pending
          fadeFramesRemaining := numbers.crossfadeFrames } = some pending := by
      rw [becameLive, hlive, hpending,
        if_neg fun heq => hlt.ne (Option.some.inj heq).symm]
    rw [CrossfadingSlot.takePending, if_pos htakes, hbecame]
    have hnewest : (numbers.pending <|> numbers.live) = some published := h.newest
    rw [hpending] at hnewest
    obtain rfl : pending = published := Option.some.inj hnewest
    constructor
    case crossfadeFrames_pos => exact h.crossfadeFrames_pos
    case live =>
      refine ⟨pending, hpending, ?_⟩
      intro n hn
      rcases List.mem_append.mp hn with hold | hnew
      · exact (hle n hold).trans hlt.le
      · exact (List.mem_singleton.mp hnew).le
    case wentLive =>
      refine List.pairwise_append.mpr ⟨h.wentLive, List.pairwise_singleton _ _, ?_⟩
      intro n hn m hm
      rw [List.mem_singleton.mp hm]
      exact (hle n hn).trans_lt hlt
    case fadingOut_iff =>
      refine iff_of_true ?_ h.crossfadeFrames_pos
      rw [hlive]
      rfl
    case fadingOut_lt =>
      intro old hold next hnext
      exact h.pending_gt next hnext old hold
    case pending_gt =>
      intro next hnext
      cases hnext
    case trashed_lt =>
      intro n hn next hnext
      obtain rfl := Option.some.inj (hpending.symm.trans hnext)
      exact (h.trashed_lt n hn live hlive).trans hlt
    case trashed_lt_fadingOut => exact h.trashed_lt
    case newest => exact hpending
  · rw [CrossfadingSlot.takePending, if_neg htakes, becameLive, if_pos rfl,
      Option.toList_none, List.append_nil]
    exact h

theorem handedOff_of_same {T : Type} (slot after : CrossfadingSlot T)
    (h : after.trashSlot = slot.trashSlot) : handedOff slot after = none :=
  if_pos h

/-- The instance that has faded out is handed to the trash. -/
theorem handedOff_discardFaded {T : Type} {slot : CrossfadingSlot T}
    (hfade : slot.fadeFramesRemaining = 0) :
    handedOff slot slot.discardFaded = slot.fadingOut := by
  have hnext : slot.trashSlot + 1 ≠ slot.trashSlot := by
    generalize slot.trashSlot = i
    revert i
    decide
  rw [handedOff, discardFaded, if_pos hfade, if_neg hnext]
  exact Function.update_self ..

/-- A fade that ends hands the old instance to the trash. -/
theorem InTurn.finish (h : InTurn numbers published wentLive trashed)
    (frames : ℕ) :
    InTurn (numbers.finish frames) published wentLive
      (trashed ++ (handedOff numbers (numbers.finish frames)).toList) := by
  by_cases hfade : numbers.fadeFramesRemaining = 0
  · rw [CrossfadingSlot.finish, if_pos hfade, handedOff_of_same _ _ rfl,
      Option.toList_none, List.append_nil]
    exact h
  · rw [CrossfadingSlot.finish, if_neg hfade]
    set faded : CrossfadingSlot ℕ :=
      { numbers with
        fadeFramesRemaining := numbers.fadeFramesRemaining - frames }
    have hsame : handedOff numbers faded.discardFaded =
        handedOff faded faded.discardFaded := rfl
    rw [hsame]
    by_cases hover : faded.fadeFramesRemaining = 0
    · rw [handedOff_discardFaded hover, discardFaded, if_pos hover]
      refine
        { h with
          fadingOut_iff := ?_
          fadingOut_lt := ?_
          trashed_lt := ?_
          trashed_lt_fadingOut := ?_ }
      · refine iff_of_false Bool.false_ne_true ?_
        exact Nat.not_lt.mpr hover.le
      · intro old hold
        cases hold
      · intro n hn live hlive
        rcases List.mem_append.mp hn with hearlier | hlast
        · exact h.trashed_lt n hearlier live hlive
        · exact h.fadingOut_lt n (Option.mem_toList.mp hlast) live hlive
      · intro n hn old hold
        cases hold
    · rw [discardFaded, if_neg hover, handedOff_of_same _ _ rfl,
        Option.toList_none, List.append_nil]
      refine { h with fadingOut_iff := ?_ }
      refine iff_of_true ?_ (Nat.pos_of_ne_zero hover)
      exact h.fadingOut_iff.mpr (Nat.pos_of_ne_zero hfade)

/-- A block moves the instances in their turn. -/
theorem InTurn.advance (h : InTurn numbers published wentLive trashed)
    (frames : ℕ) :
    InTurn (numbers.advance frames) published
      (wentLive ++ (becameLive numbers (numbers.advance frames)).toList)
      (trashed ++ (handedOff numbers (numbers.advance frames)).toList) := by
  have hlive : (numbers.advance frames).live = numbers.takePending.live := by
    rw [CrossfadingSlot.advance, CrossfadingSlot.finish]
    split
    · rfl
    · rw [discardFaded_live]
  have htrashSlot : numbers.takePending.trashSlot = numbers.trashSlot := by
    rw [CrossfadingSlot.takePending]
    split <;> rfl
  have hbecame : becameLive numbers (numbers.advance frames) =
      becameLive numbers numbers.takePending := by
    rw [becameLive, becameLive, hlive]
  have hhanded : handedOff numbers (numbers.advance frames) =
      handedOff numbers.takePending (numbers.takePending.finish frames) := by
    rw [handedOff, handedOff, htrashSlot]
    rfl
  rw [hbecame, hhanded]
  exact h.takePending.finish frames

end

/-! ## Whole runs -/

/-- The instances of a session are in their turn. -/
def Orderly (session : Session T c α) : Prop :=
  InTurn session.numbers session.published session.wentLive session.trashed

theorem orderly_new (initial : T) {crossfadeFrames : ℕ} (h : 0 < crossfadeFrames) :
    Orderly (new initial crossfadeFrames : Session T c α) := by
  constructor
  case crossfadeFrames_pos => exact h
  case live =>
    refine ⟨0, rfl, fun n hn => ?_⟩
    rw [List.mem_singleton.mp hn]
  case wentLive => exact List.pairwise_singleton _ _
  case fadingOut_iff => exact iff_of_false Bool.false_ne_true (Nat.lt_irrefl 0)
  case fadingOut_lt =>
    intro old hold
    cases hold
  case pending_gt =>
    intro pending hpending
    cases hpending
  case trashed_lt =>
    intro n hn
    cases hn
  case trashed_lt_fadingOut =>
    intro n hn
    cases hn
  case newest => rfl

section

variable {session : Session T c α}

/-- The next block finds what it is to render. -/
theorem Orderly.renders (h : session.Orderly) :
    session.slot.takePending.live.isSome ∧
      (session.slot.takePending.fadeFramesRemaining ≠ 0 →
        session.slot.takePending.fadingOut.isSome) := by
  have htaken := h.takePending
  have hmap : session.numbers.takePending =
      session.slot.takePending.map Instance.number := takePending_map _ _
  rw [hmap] at htaken
  constructor
  · obtain ⟨live, hlive, -⟩ := htaken.live
    have hsome : session.slot.takePending.live.map Instance.number = some live :=
      hlive
    obtain ⟨inst, hinst, -⟩ := Option.map_eq_some_iff.mp hsome
    exact Option.isSome_iff_exists.mpr ⟨inst, hinst⟩
  · intro hfade
    have hsome : (session.slot.takePending.fadingOut.map Instance.number).isSome :=
      htaken.fadingOut_iff.mpr (Nat.pos_of_ne_zero hfade)
    rwa [Option.isSome_map] at hsome

variable [FloatArith α]

theorem Orderly.step (h : session.Orderly) (event : Event T ι c α) :
    ∃ session', session.step event = some session' ∧ session'.Orderly := by
  cases event with
  | publish newValue => exact ⟨_, rfl, h.publish⟩
  | collectGarbage => exact ⟨_, rfl, h.collectGarbage⟩
  | process renderer input =>
      obtain ⟨hlive, hfading⟩ := h.renders
      obtain ⟨output, after, hprocess, hnumbers⟩ :=
        @process_render _ _ _ _ _ _ renderer input hlive hfading
      have hstep : session.step (.process renderer input) = some {
          slot := after
          published := session.published
          wentLive := session.wentLive ++
            (becameLive session.numbers (after.map Instance.number)).toList
          trashed := session.trashed ++
            (handedOff session.numbers (after.map Instance.number)).toList
          frames := session.frames ++ output.mapIdx fun i frame =>
            ⟨frame, renderedFrame session.slot renderer input i⟩ } := by
        rw [Session.step, hprocess]
        rfl
      refine ⟨_, hstep, ?_⟩
      show InTurn (after.map Instance.number) _ _ _
      rw [hnumbers]
      exact InTurn.advance h _

theorem orderly_run (initial : T) {crossfadeFrames : ℕ} (h : 0 < crossfadeFrames)
    (events : List (Event T ι c α)) :
    ∃ session : Session T c α,
      runFrom Session.step (new initial crossfadeFrames) events = some session ∧
      session.Orderly := by
  have hall : AtEachEvent (fun _ _ => True) events := fun _ _ _ => trivial
  refine runFrom_invariant Session.step (fun _ session => session.Orderly)
    (orderly_new initial h) ?_ hall
  intro past session event _ horderly _
  exact horderly.step event

end

/-- No null pointer is rendered, the instance published last is not lost, the
instances take their turns, and one in the trash is done with. -/
structure KeepsInstances (session : Session T c α) : Prop where
  live : session.slot.live.isSome
  fadingOut_iff :
    session.slot.fadingOut.isSome ↔ 0 < session.slot.fadeFramesRemaining
  renders : session.slot.takePending.live.isSome ∧
    (session.slot.takePending.fadeFramesRemaining ≠ 0 →
      session.slot.takePending.fadingOut.isSome)
  newest : session.numbers.pending = some session.published ∨
    session.numbers.live = some session.published
  wentLive : session.wentLive.Pairwise (· < ·)
  trashed : ∀ inst ∈ session.slot.rendering, inst.number ∉ session.trashed

theorem Orderly.keepsInstances {session : Session T c α} (h : session.Orderly) :
    session.KeepsInstances := by
  have htaken := h.takePending
  have hmap : session.numbers.takePending =
      session.slot.takePending.map Instance.number := takePending_map _ _
  rw [hmap] at htaken
  constructor
  case live =>
    obtain ⟨live, hlive, -⟩ := InTurn.live h
    obtain ⟨inst, hinst, -⟩ := Option.map_eq_some_iff.mp hlive
    exact Option.isSome_iff_exists.mpr ⟨inst, hinst⟩
  case fadingOut_iff =>
    have hiff := InTurn.fadingOut_iff h
    have hsome : session.numbers.fadingOut.isSome ↔
        session.slot.fadingOut.isSome := by rw [numbers, map, Option.isSome_map]
    exact hsome.symm.trans hiff
  case renders => exact h.renders
  case newest =>
    have hnewest : (session.numbers.pending <|> session.numbers.live) =
        some session.published := InTurn.newest h
    cases hpending : session.numbers.pending with
    | none =>
        rw [hpending] at hnewest
        exact Or.inr hnewest
    | some pending =>
        rw [hpending] at hnewest
        exact Or.inl hnewest
  case wentLive => exact InTurn.wentLive h
  case trashed =>
    intro inst hinst htrash
    rw [rendering] at hinst
    rcases List.mem_append.mp hinst with hlive | hold
    · have hnumber : inst.number ∈
          (session.slot.takePending.map Instance.number).live :=
        Option.mem_map_of_mem _ (Option.mem_toList.mp hlive)
      exact absurd (htaken.trashed_lt _ htrash _ hnumber) (Nat.lt_irrefl _)
    · split at hold
      · cases hold
      · have hnumber : inst.number ∈
            (session.slot.takePending.map Instance.number).fadingOut :=
          Option.mem_map_of_mem _ (Option.mem_toList.mp hold)
        exact absurd (htaken.trashed_lt_fadingOut _ htrash _ hnumber)
          (Nat.lt_irrefl _)

variable [FloatArith α]

/-- The instances are kept, whatever the sequence of operations. -/
theorem keepsInstances_run (initial : T) {crossfadeFrames : ℕ}
    (h : 0 < crossfadeFrames) (events : List (Event T ι c α)) :
    ∃ session : Session T c α,
      runFrom Session.step (new initial crossfadeFrames) events = some session ∧
      session.KeepsInstances := by
  obtain ⟨session, hrun, horderly⟩ := orderly_run initial h events
  exact ⟨session, hrun, horderly.keepsInstances⟩

/-- A second instance is published while the first one fades in. -/
theorem keepsInstances_twice :
    0 < 4 ∧
    ∃ session : Session ℝ 1 ℝ,
      runFrom Session.step (new 0 4) [.publish 1, .process Renderer.amplifier [1, 1],
        .publish 2, .collectGarbage, .process Renderer.amplifier [1, 1, 1],
        .process Renderer.amplifier []] = some session ∧
      session.KeepsInstances :=
  ⟨by decide, keepsInstances_run 0 (by decide) _⟩

end Session

end CrossfadingSlot

end RamkolFX
