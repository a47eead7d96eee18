import RamkolFX.Dsp.BlockCuts

/-!
# The filter published last is heard

Nothing is published any more, and the stage goes on playing: as soon as the
fade that is under way is over, the filter published last is taken, and when it
has been faded in, it is all that is heard.
-/

namespace RamkolFX

open Support

variable {α : Type} [FloatArith α] {F : Type}

/-! ## Endless playing -/

/-- The blocks that a stage renders one after the other, up to each of these
offsets, and the frames that it puts out for them.  Before any block, a control
thread may collect the garbage. -/
structure FilterStage.Plays
    (process : FilterStage F α → List (StereoFrame α) →
      Option (List (StereoFrame α) × FilterStage F α))
    (stages : ℕ → FilterStage F α) (offsets : ℕ → ℕ) (input output : ℕ → StereoFrame α) :
    Prop where
  start : offsets 0 = 0
  mono : Monotone offsets
  fits : ∀ n, offsets (n + 1) ≤ offsets n + maxProcessFrames
  endless : ∀ t, ∃ n, t < offsets n
  block : ∀ n, ∃ stage, (stage = stages n ∨ stage = (stages n).collectGarbage) ∧
    process stage (piece input (offsets n) (offsets (n + 1))) =
      some (piece output (offsets n) (offsets (n + 1)), stages (n + 1))

/-! ## One block -/

namespace CrossfadingSlot

variable {T : Type} {step : T → StereoFrame α → StereoFrame α × T}
  {slot after : CrossfadingSlot T} {newest : T}
  {block output : List (StereoFrame α)}

/-- A filter waits behind the fade that is under way. -/
structure Waits (newest : T) (crossfadeFrames remaining : ℕ) (slot : CrossfadingSlot T) :
    Prop where
  sound : slot.Sound fun _ => True
  pending : slot.pending = some newest
  crossfadeFrames : slot.crossfadeFrames = crossfadeFrames
  remaining : slot.fadeFramesRemaining = remaining

omit [FloatArith α] in
theorem Waits.collectGarbage {crossfadeFrames remaining : ℕ}
    (h : slot.Waits newest crossfadeFrames remaining) :
    slot.collectGarbage.Waits newest crossfadeFrames remaining :=
  ⟨h.sound.collectGarbage, h.pending, h.crossfadeFrames, h.remaining⟩

@[simp] theorem discardFaded_fadeFramesRemaining (slot : CrossfadingSlot T) :
    slot.discardFaded.fadeFramesRemaining = slot.fadeFramesRemaining := by
  rw [discardFaded]
  split <;> rfl

@[simp] theorem discardFaded_crossfadeFrames (slot : CrossfadingSlot T) :
    slot.discardFaded.crossfadeFrames = slot.crossfadeFrames := by
  rw [discardFaded]
  split <;> rfl

/-- During the fade, a block brings its end nearer. -/
theorem Waits.process {crossfadeFrames remaining : ℕ}
    (h : slot.Waits newest crossfadeFrames remaining) (hremaining : remaining ≠ 0)
    (hlength : block.length ≤ maxProcessFrames)
    (hprocess : slot.process (fun t input => some (transduce step t input)) block =
      some (output, after)) :
    after.Waits newest crossfadeFrames (remaining - block.length) := by
  have hfade : slot.fadeFramesRemaining ≠ 0 := h.remaining.trans_ne hremaining
  have htakes : ¬ slot.Takes := fun htakes => hfade htakes.1
  have hkept : slot.takePending = slot := if_neg htakes
  obtain ⟨live, hlive, -⟩ := h.sound.live
  obtain ⟨old, hold, -⟩ := h.sound.fadingOut hfade
  obtain ⟨output', after', hprocess', hsound, -⟩ := process_sound
    (fun t input => some (transduce step t input)) (fun _ => True)
    (fun _ _ => True) (fun t input _ => ⟨_, _, rfl, trivial, trivial⟩) h.sound block
  rw [hprocess'] at hprocess
  obtain ⟨-, rfl⟩ := Prod.mk.inj (Option.some.inj hprocess)
  have hlive' : slot.takePending.live = some live := by rwa [hkept]
  have hfade' : slot.takePending.fadeFramesRemaining ≠ 0 := by rwa [hkept]
  have hold' : slot.takePending.fadingOut = some old := by rwa [hkept]
  rw [process_of_fade hlive' hfade' hold' rfl rfl, hkept] at hprocess'
  obtain ⟨-, hafter⟩ := Prod.mk.inj (Option.some.inj hprocess')
  refine ⟨hsound, ?_, ?_, ?_⟩
  · rw [← hafter, discardFaded_pending]
    exact h.pending
  · rw [← hafter, discardFaded_crossfadeFrames]
    exact h.crossfadeFrames
  · rw [← hafter, discardFaded_fadeFramesRemaining, ← h.remaining,
      List.take_of_length_le hlength]

/-- Once the fade is over, the frames of the mix are those of the new filter. -/
theorem getElem_mix_of_le (hends : EndsExactly α) (crossfadeFrames : ℕ) {remaining i : ℕ}
    {oldFrames newFrames : List (StereoFrame α)}
    (hlength : oldFrames.length = newFrames.length) (hi : i < newFrames.length)
    (hover : remaining ≤ i)
    (hi' : i < (mix crossfadeFrames remaining oldFrames newFrames).length) :
    (mix crossfadeFrames remaining oldFrames newFrames)[i] = newFrames[i] := by
  have hold : (oldFrames.take remaining).length = (newFrames.take remaining).length := by
    rw [List.length_take, List.length_take, hlength]
  have hrest : (oldFrames.drop remaining).length = (newFrames.drop remaining).length := by
    rw [List.length_drop, List.length_drop, hlength]
  have hfront : (newFrames.take remaining).length = remaining :=
    List.length_take_of_le (hover.trans hi.le)
  have hsplit : mix crossfadeFrames remaining oldFrames newFrames =
      mix crossfadeFrames remaining (oldFrames.take remaining)
        (newFrames.take remaining) ++ newFrames.drop remaining := by
    have happend : mix crossfadeFrames remaining
        (oldFrames.take remaining ++ oldFrames.drop remaining)
        (newFrames.take remaining ++ newFrames.drop remaining) = _ :=
      mix_append hold (oldFrames.drop remaining) (newFrames.drop remaining)
    rwa [List.take_append_drop, List.take_append_drop, hfront, Nat.sub_self,
      mix_of_over hends crossfadeFrames hrest] at happend
  have hmixed : (mix crossfadeFrames remaining (oldFrames.take remaining)
      (newFrames.take remaining)).length = remaining := by
    rw [length_mix, hold, hfront, Nat.min_self]
  simp only [hsplit]
  rw [List.getElem_append_right (hmixed.trans_le hover), List.getElem_drop]
  congr 1
  omega

omit [FloatArith α] in
theorem takePending_collectGarbage (slot : CrossfadingSlot T) :
    slot.collectGarbage.takePending = slot.takePending.collectGarbage := by
  by_cases htakes : slot.Takes
  · have htakes' : slot.collectGarbage.Takes := htakes
    rw [takePending, if_pos htakes', takePending, if_pos htakes]
    rfl
  · have htakes' : ¬ slot.collectGarbage.Takes := htakes
    rw [takePending, if_neg htakes', takePending, if_neg htakes]

omit [FloatArith α] in
theorem AfterFrames.collectGarbage {start : CrossfadingSlot T} {live old : T}
    {past : List (StereoFrame α)} (h : AfterFrames step start live old past slot) :
    AfterFrames step start live old past slot.collectGarbage :=
  ⟨h.crossfadeFrames, h.remaining, h.live, h.fadingOut⟩

end CrossfadingSlot

/-! ## All blocks -/

namespace FilterStage

open CrossfadingSlot

variable {step : F → StereoFrame α → StereoFrame α × F}
  {stages : ℕ → FilterStage F α} {offsets : ℕ → ℕ} {input output : ℕ → StereoFrame α}
  {newest : F} {crossfadeFrames remaining : ℕ}

/-- The slot that a block is rendered with. -/
theorem Plays.block_slot (h : Plays (FilterStage.process (transduce step)) stages offsets
    input output) (n : ℕ) :
    ∃ slot, (slot = (stages n).slot ∨ slot = (stages n).slot.collectGarbage) ∧
      slot.process (fun t input => some (transduce step t input))
        (piece input (offsets n) (offsets (n + 1))) =
          some (piece output (offsets n) (offsets (n + 1)), (stages (n + 1)).slot) := by
  obtain ⟨stage, hstage, hprocess⟩ := h.block n
  obtain ⟨⟨rendered, slot⟩, hslot, hrest⟩ := Option.bind_eq_some_iff.mp hprocess
  obtain ⟨hrendered, hnext⟩ := Prod.mk.inj (Option.some.inj hrest)
  refine ⟨stage.slot, ?_, ?_⟩
  · rcases hstage with rfl | rfl
    · exact Or.inl rfl
    · exact Or.inr rfl
  · rw [hslot, ← hrendered, ← hnext]

theorem Plays.length_block (h : Plays (FilterStage.process (transduce step)) stages
    offsets input output) (n : ℕ) :
    (piece input (offsets n) (offsets (n + 1))).length ≤ maxProcessFrames := by
  have hfits := h.fits n
  rw [length_piece]
  omega

/-- The waiting filter gets its turn at the end of a block. -/
theorem Plays.exists_turn (h : Plays (FilterStage.process (transduce step)) stages
    offsets input output)
    (hwaits : (stages 0).slot.Waits newest crossfadeFrames remaining) :
    ∃ n, offsets n ≤ remaining + maxProcessFrames ∧
      (stages n).slot.Waits newest crossfadeFrames 0 := by
  have hreached : ∃ n, remaining ≤ offsets n := by
    obtain ⟨n, hn⟩ := h.endless remaining
    exact ⟨n, hn.le⟩
  have hnear : ∀ n, (∀ m < n, offsets m < remaining) →
      (stages n).slot.Waits newest crossfadeFrames (remaining - offsets n) := by
    intro n
    induction n with
    | zero =>
        intro _
        rw [h.start, Nat.sub_zero]
        exact hwaits
    | succ n ih =>
        intro hbefore
        have hn := ih fun m hm => hbefore m (hm.trans (Nat.lt_succ_self n))
        have hopen := hbefore n (Nat.lt_succ_self n)
        obtain ⟨slot, hslot, hprocess⟩ := h.block_slot n
        have hslotWaits : slot.Waits newest crossfadeFrames (remaining - offsets n) := by
          rcases hslot with rfl | rfl
          · exact hn
          · exact hn.collectGarbage
        have hafter := hslotWaits.process (by omega) (h.length_block n) hprocess
        have hmono := h.mono (Nat.le_succ n)
        rw [length_piece] at hafter
        have hleft : remaining - offsets n - (offsets (n + 1) - offsets n) =
            remaining - offsets (n + 1) := by
          simp only [Nat.succ_eq_add_one] at hmono
          omega
        rwa [hleft] at hafter
  classical
  let n := Nat.find hreached
  have hbefore : ∀ m < n, offsets m < remaining := by
    intro m hm
    exact not_le.mp (Nat.find_min hreached hm)
  have hover : remaining ≤ offsets n := Nat.find_spec hreached
  refine ⟨n, ?_, ?_⟩
  · cases hn : n with
    | zero =>
        rw [h.start]
        exact Nat.zero_le _
    | succ m =>
        have hm := hbefore m (by omega)
        have hfits := h.fits m
        omega
  · have hwaitsAt := hnear n hbefore
    rwa [Nat.sub_eq_zero_of_le hover] at hwaitsAt

/-- The stage after some blocks, of which the first took the waiting filter. -/
structure TurnsTo (step : F → StereoFrame α → StereoFrame α × F)
    (start : CrossfadingSlot F) (newest old : F) (past : List (StereoFrame α))
    (slot : CrossfadingSlot F) : Prop where
  sound : slot.Sound fun _ => True
  nothingPending : slot.takePending.pending = none
  afterFrames : AfterFrames step start newest old past slot.takePending

omit [FloatArith α] in
theorem TurnsTo.collectGarbage {start slot : CrossfadingSlot F} {old : F}
    {past : List (StereoFrame α)} (h : TurnsTo step start newest old past slot) :
    TurnsTo step start newest old past slot.collectGarbage where
  sound := h.sound.collectGarbage
  nothingPending := by
    rw [takePending_collectGarbage]
    exact h.nothingPending
  afterFrames := by
    rw [takePending_collectGarbage]
    exact h.afterFrames.collectGarbage

/-- A block goes on with the stream. -/
theorem TurnsTo.process {start slot after : CrossfadingSlot F} {old : F}
    {past block frames : List (StereoFrame α)} (hends : EndsExactly α)
    (h : TurnsTo step start newest old past slot)
    (hlength : block.length ≤ maxProcessFrames)
    (hprocess : slot.process (fun t input => some (transduce step t input)) block =
      some (frames, after)) :
    TurnsTo step start newest old (past ++ block) after ∧
      renderedStream step start newest old (past ++ block) =
        renderedStream step start newest old past ++ frames := by
  obtain ⟨frames', after', hprocess', hafter, hstream⟩ :=
    h.afterFrames.process hends hlength
  obtain ⟨frames'', after'', hprocess'', hsound, hrendered⟩ := process_sound
    (fun t input => some (transduce step t input)) (fun _ => True)
    (fun _ _ => True) (fun t input _ => ⟨_, _, rfl, trivial, trivial⟩) h.sound block
  rw [hprocess'] at hprocess hprocess''
  obtain ⟨rfl, rfl⟩ := Prod.mk.inj (Option.some.inj hprocess)
  obtain ⟨-, rfl⟩ := Prod.mk.inj (Option.some.inj hprocess'')
  have hpending : after'.pending = none := by
    by_cases htakes : slot.Takes
    · exact (hrendered.taken htakes).1
    · rw [(hrendered.kept htakes).1]
      have hnothing := h.nothingPending
      rwa [takePending, if_neg htakes] at hnothing
  have hkept : after'.takePending = after' := by
    apply if_neg
    rintro ⟨-, hsome⟩
    rw [hpending] at hsome
    exact Bool.false_ne_true hsome
  refine ⟨⟨hsound, ?_, ?_⟩, hstream⟩
  · rw [hkept]
    exact hpending
  · rw [hkept]
    exact hafter

/-- From the turn of the waiting filter on, the stage puts out its stream. -/
theorem Plays.turnsTo (hends : EndsExactly α)
    (h : Plays (FilterStage.process (transduce step)) stages offsets input output)
    {start : CrossfadingSlot F} {old : F} {n : ℕ}
    (hturn : TurnsTo step start newest old [] (stages n).slot) (k : ℕ) :
    TurnsTo step start newest old (piece input (offsets n) (offsets (n + k)))
        (stages (n + k)).slot ∧
      piece output (offsets n) (offsets (n + k)) =
        renderedStream step start newest old
          (piece input (offsets n) (offsets (n + k))) := by
  induction k with
  | zero =>
      have hnothing : ∀ stream : ℕ → StereoFrame α,
          piece stream (offsets n) (offsets (n + 0)) = [] := by
        intro stream
        apply List.length_eq_zero_iff.mp
        rw [length_piece, Nat.add_zero, Nat.sub_self]
      rw [hnothing, hnothing]
      refine ⟨hturn, ?_⟩
      rw [renderedStream, transduce, transduce, mix]
      intros
      contradiction
  | succ k ih =>
      obtain ⟨hturns, hsame⟩ := ih
      obtain ⟨slot, hslot, hprocess⟩ := h.block_slot (n + k)
      have hslotTurns : TurnsTo step start newest old
          (piece input (offsets n) (offsets (n + k))) slot := by
        rcases hslot with rfl | rfl
        · exact hturns
        · exact hturns.collectGarbage
      obtain ⟨hafter, hstream⟩ :=
        hslotTurns.process hends (h.length_block (n + k)) hprocess
      have hfirst : offsets n ≤ offsets (n + k) := h.mono (Nat.le_add_right n k)
      have hnext : offsets (n + k) ≤ offsets (n + k + 1) := h.mono (Nat.le_succ _)
      rw [piece_append input hfirst hnext, ← hsame, piece_append output hfirst hnext]
        at hstream
      rw [piece_append input hfirst hnext] at hafter
      exact ⟨hafter, hstream.symm⟩

omit [FloatArith α] in
/-- The first block that is rendered with the waiting filter. -/
theorem exists_turnsTo {slot : CrossfadingSlot F}
    (h : slot.Waits newest crossfadeFrames 0) :
    ∃ start old, TurnsTo step start newest old [] slot ∧
      start.crossfadeFrames = crossfadeFrames ∧
      start.fadeFramesRemaining = crossfadeFrames := by
  have htakes : slot.Takes := ⟨h.remaining, by rw [h.pending]; rfl⟩
  obtain ⟨old, hold, -⟩ := h.sound.live
  refine ⟨slot.takePending, old, ⟨h.sound, ?_, ?_⟩, ?_, ?_⟩
  · rw [takePending, if_pos htakes]
  · rw [takePending, if_pos htakes]
    exact ⟨rfl, rfl, h.pending, fun _ => hold⟩
  · rw [takePending, if_pos htakes]
    exact h.crossfadeFrames
  · rw [takePending, if_pos htakes]
    exact h.crossfadeFrames

/-- Past its fade, the stream is what the new filter makes of the input. -/
theorem getElem_renderedStream (hends : EndsExactly α) {start : CrossfadingSlot F} {old : F}
    (stream : ℕ → StereoFrame α) {t stop : ℕ} (ht : t < stop)
    (hover : start.fadeFramesRemaining ≤ t)
    (hlt : t < (renderedStream step start newest old (piece stream 0 stop)).length) :
    (renderedStream step start newest old (piece stream 0 stop))[t] =
      outputAt step newest stream t := by
  have hnew : transduce step newest (piece stream 0 stop) =
      (piece (outputAt step newest stream) 0 stop, stateAt step newest stream stop) :=
    transduce_piece step newest stream (Nat.zero_le stop)
  have hlength : (transduce step old (piece stream 0 stop)).1.length =
      (transduce step newest (piece stream 0 stop)).1.length := by
    rw [length_transduce, length_transduce]
  have ht' : t < (transduce step newest (piece stream 0 stop)).1.length := by
    rwa [length_transduce, length_piece, Nat.sub_zero]
  have hmix := getElem_mix_of_le hends start.crossfadeFrames hlength ht' hover hlt
  simp only [renderedStream] at hlt ⊢
  rw [hmix]
  simp only [hnew]
  rw [getElem_piece, Nat.zero_add]

/-- At the latest one block after the fade that is under way, the waiting filter
starts from the frames that come then, and from the end of its own fade it is
heard alone. -/
theorem Plays.newest_alone (hends : EndsExactly α)
    (h : Plays (FilterStage.process (transduce step)) stages offsets input output)
    (hwaits : (stages 0).slot.Waits newest crossfadeFrames remaining) :
    ∃ start ≤ remaining + maxProcessFrames, ∀ t, start + crossfadeFrames ≤ t →
      output t = outputAt step newest (fun k => input (start + k)) (t - start) := by
  obtain ⟨n, hn, hready⟩ := h.exists_turn hwaits
  obtain ⟨slot, old, hturn, hframes, hfade⟩ := exists_turnsTo hready
  refine ⟨offsets n, hn, fun t ht => ?_⟩
  obtain ⟨m, hm⟩ := h.endless t
  have hnm : n ≤ m := by
    by_contra hlt
    have hback := h.mono (Nat.le_of_lt (Nat.not_le.mp hlt))
    omega
  obtain ⟨k, rfl⟩ := Nat.exists_eq_add_of_le hnm
  obtain ⟨-, hstream⟩ := h.turnsTo hends hturn k
  have hlt : t - offsets n < (piece output (offsets n) (offsets (n + k))).length := by
    rw [length_piece]
    omega
  have hwhere : output t =
      (piece output (offsets n) (offsets (n + k)))[t - offsets n] := by
    rw [getElem_piece output hlt]
    congr 1
    omega
  rw [hwhere]
  simp only [hstream, piece_eq_piece_zero input]
  apply getElem_renderedStream hends
  · omega
  · rw [hfade]
    omega

/-- After a filter was published to a stage that renders frame by frame, and none
after it, at the latest one block after the fade under way the stage starts it,
and one fade later puts out exactly what it makes of the frames since. -/
def SettlesOnNewest
    (process : FilterStage F α → List (StereoFrame α) →
      Option (List (StereoFrame α) × FilterStage F α))
    (step : F → StereoFrame α → StereoFrame α × F) : Prop :=
  ∀ (stage : FilterStage F α) (newest : F) (stages : ℕ → FilterStage F α)
    (offsets : ℕ → ℕ) (input output : ℕ → StereoFrame α),
    stage.Sound → stages 0 = stage.publish newest →
    Plays process stages offsets input output →
    ∃ start ≤ stage.slot.fadeFramesRemaining + maxProcessFrames,
      ∀ t, start + stage.slot.crossfadeFrames ≤ t →
        output t = outputAt step newest (fun k => input (start + k)) (t - start)

theorem settlesOnNewest_of_transduce (hends : EndsExactly α)
    {runOne : F → List (StereoFrame α) → List (StereoFrame α) × F}
    (hrun : ∀ filter input, runOne filter input = transduce step filter input) :
    SettlesOnNewest (FilterStage.process runOne) step := by
  obtain rfl : runOne = transduce step := by
    funext filter input
    exact hrun filter input
  intro stage newest stages offsets input output hsound hstart hplays
  apply hplays.newest_alone hends
  rw [hstart]
  exact ⟨hsound.publish newest, rfl, rfl, rfl⟩

end FilterStage

/-- In exact arithmetic both filter stages end up playing what was published last,
whatever `tanh` is. -/
theorem settlesOnNewest (tanh : ℝ → ℝ) :
    @FilterStage.SettlesOnNewest ℝ (GraphicEqFilter ℝ)
        (@HwEqStage.process ℝ (exactArithWith tanh))
        (@GraphicEqFilter.processFrame ℝ (exactArithWith tanh)) ∧
      @FilterStage.SettlesOnNewest ℝ (BassEnhancerFilter ℝ)
        (@BassEnhancerStage.process ℝ (exactArithWith tanh))
        (@BassEnhancerFilter.passFrame ℝ (exactArithWith tanh)) := by
  let _ := exactArithWith tanh
  have hwEq : FilterStage.SettlesOnNewest (α := ℝ) HwEqStage.process
      GraphicEqFilter.processFrame :=
    FilterStage.settlesOnNewest_of_transduce (endsExactly tanh)
      GraphicEqFilter.process_eq_transduce
  have hbass : FilterStage.SettlesOnNewest (α := ℝ) BassEnhancerStage.process
      BassEnhancerFilter.passFrame :=
    FilterStage.settlesOnNewest_of_transduce (endsExactly tanh)
      BassEnhancerFilter.process_eq_transduce
  exact ⟨hwEq, hbass⟩

theorem piece_succ {ω : Type} (stream : ℕ → ω) (n : ℕ) :
    piece stream n (n + 1) = [stream n] := by
  rw [piece, Nat.add_sub_cancel_left]
  rfl

/-- A sound stage can play any stream, frame by frame. -/
theorem FilterStage.exists_plays {step : F → StereoFrame α → StereoFrame α × F}
    {stage : FilterStage F α} (h : stage.Sound) (input : ℕ → StereoFrame α) :
    ∃ stages output, stages 0 = stage ∧
      Plays (FilterStage.process (transduce step)) stages id input output := by
  have hnext : ∀ (s : { s : FilterStage F α // s.Sound }) (frame : StereoFrame α),
      ∃ (out : StereoFrame α) (s' : { s : FilterStage F α // s.Sound }),
        FilterStage.process (transduce step) s.1 [frame] = some ([out], s'.1) := by
    rintro ⟨s, hs⟩ frame
    obtain ⟨frames, s', hprocess, hs'⟩ := hs.process (transduce step) [frame]
    obtain ⟨⟨frames', slot⟩, hslot, hrest⟩ := Option.bind_eq_some_iff.mp hprocess
    have hframes : frames' = frames := (Prod.mk.inj (Option.some.inj hrest)).1
    have hlength := CrossfadingSlot.length_process
      (fun t input output t' hrun => by
        obtain ⟨rfl, -⟩ := Prod.mk.inj (Option.some.inj hrun)
        exact length_transduce step t input) hslot
    rw [hframes] at hlength
    obtain ⟨out, rfl⟩ := List.length_eq_one_iff.mp hlength
    exact ⟨out, ⟨s', hs'⟩, hprocess⟩
  choose out next hprocess using hnext
  let stages : ℕ → { s : FilterStage F α // s.Sound } :=
    fun n => Nat.rec ⟨stage, h⟩ (fun n s => next s (input n)) n
  refine ⟨fun n => (stages n).1, fun n => out (stages n) (input n), rfl, rfl,
    monotone_id, ?_, ?_, ?_⟩
  · intro n
    show n + 1 ≤ n + 8192
    omega
  · exact fun t => ⟨t + 1, Nat.lt_succ_self t⟩
  · intro n
    refine ⟨_, Or.inl rfl, ?_⟩
    rw [show id n = n from rfl, show id (n + 1) = n + 1 from rfl, piece_succ, piece_succ]
    exact hprocess (stages n) (input n)

/-- The raised curve, published to a stage that plays a constant through the
default one. -/
theorem settlesOnNewest_raised :
    letI := exactArithWith Real.tanh
    let stage : HwEqStage ℝ := HwEqStage.new defaultHwEqBands 48000
    ∃ (stages : ℕ → HwEqStage ℝ) (output : ℕ → StereoFrame ℝ),
      stages 0 = stage.publish (.new raisedHwEqBands 48000) ∧
      FilterStage.Plays HwEqStage.process stages id (fun _ _ => 1) output ∧
      ∃ start ≤ maxProcessFrames, ∀ t, start + stage.slot.crossfadeFrames ≤ t →
        output t = outputAt GraphicEqFilter.processFrame
          (.new raisedHwEqBands 48000) (fun _ _ => 1) (t - start) := by
  let _ := exactArithWith Real.tanh
  intro stage
  have hsound : stage.Sound := FilterStage.sound_new _ _
  obtain ⟨stages, output, hstart, hplays⟩ := FilterStage.exists_plays
    (FilterStage.Sound.publish hsound (GraphicEqFilter.new raisedHwEqBands 48000))
    fun _ _ => 1
  have hprocess : HwEqStage.process (α := ℝ) =
      FilterStage.process (transduce GraphicEqFilter.processFrame) := by
    funext stage input
    rw [HwEqStage.process]
    congr 1
    funext filter input
    exact filter.process_eq_transduce input
  rw [← hprocess] at hplays
  obtain ⟨start, hle, hplayed⟩ := (settlesOnNewest Real.tanh).1 stage _ stages id _ output
    hsound hstart hplays
  rw [show stage.slot.fadeFramesRemaining = 0 from rfl, Nat.zero_add] at hle
  exact ⟨stages, output, hstart, hplays, start, hle, hplayed⟩

end RamkolFX
