import RamkolFX.Support.Seams
import RamkolFX.Dsp.BlockCuts
import RamkolFX.Dsp.DirectStage
import RamkolFX.Dsp.LastPublished

/-!
# The deck between two blocks

What a deck that convolves directly puts out does not depend on how the stream is
cut into blocks, from any state in which no second fade waits for the end of a
first one: not within a filter, nor in the middle of a fade between two filters of
a voice, between the two paths of a stage or between two stages.
-/

namespace RamkolFX

open Support

/-! ## Slots -/

namespace CrossfadingSlot

section

variable {T : Type} {R : T → T → Prop} {slot : CrossfadingSlot T}

theorem related_equivalence (h : Equivalence R) :
    Equivalence (Related R : CrossfadingSlot T → CrossfadingSlot T → Prop) := by
  have hrel := rel_equivalence h
  refine ⟨fun slot => ⟨hrel.refl _, hrel.refl _, hrel.refl _, rfl, rfl⟩, ?_, ?_⟩
  · rintro slot slot' ⟨hlive, hold, hpending, hremaining, hframes⟩
    exact ⟨hrel.symm hlive, hrel.symm hold, hrel.symm hpending, hremaining.symm,
      hframes.symm⟩
  · rintro slot slot' slot'' ⟨hlive, hold, hpending, hremaining, hframes⟩
      ⟨hlive', hold', hpending', hremaining', hframes'⟩
    exact ⟨hrel.trans hlive hlive', hrel.trans hold hold', hrel.trans hpending hpending',
      hremaining.trans hremaining', hframes.trans hframes'⟩

/-- Related slots, by what is known of the instances in them. -/
theorem Related.imp {T' : Type} {R S : T → T' → Prop} {slot' : CrossfadingSlot T'}
    (h : Related R slot slot')
    (hlive : ∀ t t', slot.live = some t → slot'.live = some t' → R t t' → S t t')
    (hold : ∀ t t', slot.fadingOut = some t → slot'.fadingOut = some t' → R t t' → S t t')
    (hpending : ∀ t t', slot.pending = some t → slot'.pending = some t' → R t t' →
      S t t') : Related S slot slot' :=
  ⟨rel_imp h.live hlive, rel_imp h.fadingOut hold, rel_imp h.pending hpending,
    h.fadeFramesRemaining, h.crossfadeFrames⟩

/-- All instances are calm, and nothing waits for the end of a fade. -/
structure FadesOnce (Calm : T → Prop) (slot : CrossfadingSlot T) : Prop where
  live : ∃ live, slot.live = some live ∧ Calm live
  fades : slot.fadeFramesRemaining ≠ 0 → ∃ old, slot.fadingOut = some old
  fadingOut : ∀ old, slot.fadingOut = some old → Calm old
  pending : ∀ pending, slot.pending = some pending → Calm pending
  once : slot.fadeFramesRemaining ≠ 0 → slot.pending = none

variable {Calm : T → Prop}

theorem fadesOnce_initial {initial : T} (h : Calm initial) (crossfadeFrames : ℕ) :
    FadesOnce Calm { live := some initial, crossfadeFrames } := by
  refine ⟨⟨initial, rfl, h⟩, fun hfade => absurd rfl hfade, ?_, ?_, fun _ => rfl⟩
  · intro old hnone
    cases hnone
  · intro pending hnone
    cases hnone

/-- Without a fade, what is published need not wait. -/
theorem FadesOnce.publish (h : FadesOnce Calm slot) (hfade : slot.fadeFramesRemaining = 0)
    {newValue : T} (hnew : Calm newValue) : FadesOnce Calm (slot.publish newValue) := by
  refine ⟨h.live, h.fades, h.fadingOut, ?_, fun hne => absurd hfade hne⟩
  intro pending hpending
  obtain rfl := Option.some.inj hpending
  exact hnew

theorem FadesOnce.collectGarbage (h : FadesOnce Calm slot) :
    FadesOnce Calm slot.collectGarbage :=
  ⟨h.live, h.fades, h.fadingOut, h.pending, h.once⟩

theorem FadesOnce.takePending (h : FadesOnce Calm slot) :
    FadesOnce Calm slot.takePending ∧ slot.takePending.pending = none := by
  obtain ⟨live, hlive, hcalm⟩ := h.live
  rw [CrossfadingSlot.takePending]
  split
  · rename_i htakes
    obtain ⟨pending, hpending⟩ := Option.isSome_iff_exists.mp htakes.2
    refine ⟨⟨⟨pending, hpending, h.pending pending hpending⟩, fun _ => ⟨live, hlive⟩,
      ?_, ?_, fun _ => rfl⟩, rfl⟩
    · intro old hold
      obtain rfl := Option.some.inj (hlive.symm.trans hold)
      exact hcalm
    · intro pending hnone
      cases hnone
  · rename_i htakes
    refine ⟨h, ?_⟩
    by_cases hfade : slot.fadeFramesRemaining = 0
    · have hnone : ¬ slot.pending.isSome := fun hsome => htakes ⟨hfade, hsome⟩
      exact Option.not_isSome_iff_eq_none.mp hnone
    · exact h.once hfade

/-- Slots that hold related instances fade alike. -/
theorem FadesOnce.of_related {T' : Type} {R : T → T' → Prop} {slot' : CrossfadingSlot T'}
    {Calm' : T' → Prop} (h : FadesOnce Calm slot) (hrelated : Related R slot slot')
    (hcalm : ∀ t t', R t t' → Calm t → Calm' t') : FadesOnce Calm' slot' := by
  have hheld : ∀ {held : Option T} {held' : Option T'}, Option.Rel R held held' →
      (∀ t, held = some t → Calm t) → ∀ t', held' = some t' → Calm' t' := by
    rintro _ _ (⟨hrel⟩ | _) hall t' ht'
    · obtain rfl := Option.some.inj ht'
      exact hcalm _ _ hrel (hall _ rfl)
    · cases ht'
  have hrel := hrelated.live
  obtain ⟨live, hlive, hcalmLive⟩ := h.live
  constructor
  case live =>
    rw [hlive] at hrel
    obtain ⟨live', hlive'⟩ : ∃ live', slot'.live = some live' := by
      generalize slot'.live = other at hrel
      cases hrel with
      | some _ => exact ⟨_, rfl⟩
    refine ⟨live', hlive', hheld hrelated.live ?_ live' hlive'⟩
    intro t ht
    obtain rfl := Option.some.inj (hlive.symm.trans ht)
    exact hcalmLive
  case fades =>
    intro hfade
    obtain ⟨old, hold⟩ := h.fades (hrelated.fadeFramesRemaining ▸ hfade)
    have hrelOld := hrelated.fadingOut
    rw [hold] at hrelOld
    generalize slot'.fadingOut = other at hrelOld
    cases hrelOld with
    | some _ => exact ⟨_, rfl⟩
  case fadingOut => exact hheld hrelated.fadingOut h.fadingOut
  case pending => exact hheld hrelated.pending h.pending
  case once =>
    intro hfade
    have hnone := h.once (hrelated.fadeFramesRemaining ▸ hfade)
    have hrelPending := hrelated.pending
    rw [hnone] at hrelPending
    generalize slot'.pending = other at hrelPending
    cases hrelPending with
    | none => rfl

theorem takePending_of_none (h : slot.pending = none) : slot.takePending = slot := by
  have htakes : ¬ slot.Takes := by
    rintro ⟨-, hsome⟩
    rw [h] at hsome
    exact Bool.false_ne_true hsome
  rw [takePending, if_neg htakes]

theorem FadesOnce.discardFaded (h : FadesOnce Calm slot) :
    FadesOnce Calm slot.discardFaded := by
  rw [CrossfadingSlot.discardFaded]
  split
  · rename_i hover
    refine ⟨h.live, fun hfade => absurd hover hfade, ?_, h.pending, h.once⟩
    intro old hnone
    cases hnone
  · exact h

end

section

variable {α T ι : Type} [FloatArith α] {Fits : ℕ → Prop} {Calm : T → Prop}
  {Alike : T → T → Prop} {runOne : T → List ι → Option (List (StereoFrame α) × T)}
  {slot : CrossfadingSlot T}

theorem process_takePending (h : FadesOnce Calm slot) (xs : List ι) :
    slot.takePending.process runOne xs = slot.process runOne xs := by
  simp only [process, takePending_of_none h.takePending.2]

section

variable (slot) (hnone : slot.pending = none) {xs : List ι} (hshort : xs.length ≤ maxProcessFrames)
  {live live' old old' : T} {new fading : List (StereoFrame α)}

include hnone hshort

/-- A block without a fade. -/
theorem process_over (hover : slot.fadeFramesRemaining = 0) (hlive : slot.live = some live)
    (hnew : runOne live xs = some (new, live')) :
    slot.process runOne xs = some (new, { slot with live := some live' }) := by
  have htaken := takePending_of_none hnone
  rw [process_of_single (by rwa [htaken]) (by rwa [htaken])
    (by rwa [List.take_of_length_le hshort]), htaken]

/-- A block that fades. -/
theorem process_fading (hfade : slot.fadeFramesRemaining ≠ 0)
    (hlive : slot.live = some live) (hold : slot.fadingOut = some old)
    (hnew : runOne live xs = some (new, live'))
    (hfading : runOne old xs = some (fading, old')) :
    slot.process runOne xs =
      some (mix slot.crossfadeFrames slot.fadeFramesRemaining fading new,
        discardFaded
          { slot with
            live := some live'
            fadingOut := some old'
            fadeFramesRemaining := slot.fadeFramesRemaining - xs.length }) := by
  have htaken := takePending_of_none hnone
  rw [process_of_fade (by rwa [htaken]) (by rwa [htaken]) (by rwa [htaken])
    (by rwa [List.take_of_length_le hshort]) (by rwa [List.take_of_length_le hshort]),
    htaken, List.take_of_length_le hshort]

end

section

variable (hrun : Seamless Fits Calm Alike runOne)
  (hshort : ∀ n, Fits n → n ≤ maxProcessFrames)

include hrun hshort

/-- A block is answered, and from then on nothing is pending. -/
theorem FadesOnce.process (h : FadesOnce Calm slot) {xs : List ι} (hxs : Fits xs.length) :
    ∃ ys slot', slot.process runOne xs = some (ys, slot') ∧ ys.length = xs.length ∧
      FadesOnce Calm slot' ∧ slot'.pending = none := by
  obtain ⟨htaken, hnone⟩ := h.takePending
  rw [← process_takePending h]
  generalize slot.takePending = taken at htaken hnone
  obtain ⟨live, hlive, hcalm⟩ := htaken.live
  obtain ⟨new, live', hnew, hlength, hcalm'⟩ := hrun.answers live xs hcalm hxs
  by_cases hfade : taken.fadeFramesRemaining = 0
  · exact ⟨_, _, process_over _ hnone (hshort _ hxs) hfade hlive hnew, hlength,
      ⟨⟨live', rfl, hcalm'⟩, fun hne => absurd hfade hne, htaken.fadingOut,
        htaken.pending, htaken.once⟩, hnone⟩
  · obtain ⟨old, hold⟩ := htaken.fades hfade
    obtain ⟨fading, old', hfading, hlength', hcalm''⟩ :=
      hrun.answers old xs (htaken.fadingOut old hold) hxs
    refine ⟨_, _, process_fading _ hnone (hshort _ hxs) hfade hlive hold hnew hfading, ?_,
      FadesOnce.discardFaded ?_, ?_⟩
    · rw [length_mix, hlength, hlength', Nat.min_self]
    · refine ⟨⟨live', rfl, hcalm'⟩, fun _ => ⟨old', rfl⟩, ?_, htaken.pending,
        fun _ => hnone⟩
      rintro other ⟨⟩
      exact hcalm''
    · rw [discardFaded_pending]
      exact hnone

/-- Two blocks, of which the first one may end a fade. -/
theorem FadesOnce.seam (hends : EndsExactly α) (h : FadesOnce Calm slot)
    (hnone : slot.pending = none) {xs xs' : List ι} (hxs : Fits xs.length)
    (hxs' : Fits xs'.length) (hfits : Fits (xs ++ xs').length) :
    ∃ ys slot₁ ys' slot₂ slot', slot.process runOne xs = some (ys, slot₁) ∧
      slot₁.process runOne xs' = some (ys', slot₂) ∧
      slot.process runOne (xs ++ xs') = some (ys ++ ys', slot') ∧
      Related Alike slot' slot₂ := by
  have hrel := rel_equivalence hrun.equivalence
  have hfront := hshort _ hxs
  have hback := hshort _ hxs'
  have hwhole := hshort _ hfits
  obtain ⟨live, hlive, hcalm⟩ := h.live
  obtain ⟨new, live₁, hnew, hlength, hcalm₁⟩ := hrun.answers live xs hcalm hxs
  obtain ⟨new', live₂, hnew', hlength', -⟩ := hrun.answers live₁ xs' hcalm₁ hxs'
  obtain ⟨live', hboth, halike⟩ := hrun.seam_of_eq hcalm hxs hxs' hfits hnew hnew'
  by_cases hfade : slot.fadeFramesRemaining = 0
  · have hsecond := process_over { slot with live := some live₁ } hnone hback hfade rfl
      hnew'
    exact ⟨_, _, _, _, _, process_over _ hnone hfront hfade hlive hnew, hsecond,
      process_over _ hnone hwhole hfade hlive hboth, .some halike, hrel.refl _,
      hrel.refl _, rfl, rfl⟩
  obtain ⟨old, hold⟩ := h.fades hfade
  have hcalmOld := h.fadingOut old hold
  obtain ⟨fading, old₁, hfading, hlengthOld, hcalmOld₁⟩ := hrun.answers old xs hcalmOld hxs
  obtain ⟨fading', old₂, hfading', hlengthOld', -⟩ := hrun.answers old₁ xs' hcalmOld₁ hxs'
  obtain ⟨old', hbothOld, halikeOld⟩ :=
    hrun.seam_of_eq hcalmOld hxs hxs' hfits hfading hfading'
  have hprocess := process_fading _ hnone hwhole hfade hlive hold hboth hbothOld
  rw [mix_append (hlengthOld.trans hlength.symm), hlength, List.length_append] at hprocess
  have hfirst := process_fading _ hnone hfront hfade hlive hold hnew hfading
  by_cases hover : slot.fadeFramesRemaining - xs.length = 0
  · -- the old instance has been discarded when the second block comes
    have hdone : slot.fadeFramesRemaining - (xs.length + xs'.length) = 0 := by omega
    rw [hover, mix_of_over hends _ (hlengthOld'.trans hlength'.symm)] at hprocess
    have hsecond := process_over (CrossfadingSlot.discardFaded
      { slot with
        live := some live₁
        fadingOut := some old₁
        fadeFramesRemaining := slot.fadeFramesRemaining - xs.length })
      ((discardFaded_pending _).trans hnone) hback
      ((discardFaded_fadeFramesRemaining _).trans hover) (discardFaded_live _) hnew'
    refine ⟨_, _, _, _, _, hfirst, hsecond, hprocess, ?_⟩
    rw [CrossfadingSlot.discardFaded, if_pos hdone, CrossfadingSlot.discardFaded,
      if_pos hover]
    exact ⟨.some halike, .none, hrel.refl _, hdone.trans hover.symm, rfl⟩
  · rw [CrossfadingSlot.discardFaded, if_neg hover] at hfirst
    have hsecond := process_fading
      { slot with
        live := some live₁
        fadingOut := some old₁
        fadeFramesRemaining := slot.fadeFramesRemaining - xs.length }
      hnone hback hover rfl rfl hnew' hfading'
    refine ⟨_, _, _, _, _, hfirst, hsecond, hprocess, Related.discardFaded ?_⟩
    exact ⟨.some halike, .some halikeOld, hrel.refl _, Nat.sub_add_eq _ _ _, rfl⟩

/-- A slot of machines without seams has none. -/
theorem seamless (hends : EndsExactly α) :
    Seamless Fits (FadesOnce Calm) (Related Alike)
      (fun slot xs => CrossfadingSlot.process runOne slot xs) where
  equivalence := related_equivalence hrun.equivalence
  answers slot xs h hxs := by
    obtain ⟨ys, slot', hprocess, hlength, hcalm, -⟩ := h.process hrun hshort hxs
    exact ⟨ys, slot', hprocess, hlength, hcalm⟩
  alike slot slot' xs halike h h' hxs := by
    have htake : xs.take maxProcessFrames = xs :=
      List.take_of_length_le (hshort _ hxs)
    have hcalm : Related (fun t t' => Alike t t' ∧ Calm t ∧ Calm t') slot slot' := by
      obtain ⟨live, hlive, hcalm⟩ := h.live
      obtain ⟨live', hlive', hcalm'⟩ := h'.live
      refine halike.imp ?_ ?_ ?_
      · rintro t t' ht ht' hrelated
        obtain rfl := Option.some.inj (hlive.symm.trans ht)
        obtain rfl := Option.some.inj (hlive'.symm.trans ht')
        exact ⟨hrelated, hcalm, hcalm'⟩
      · rintro t t' ht ht' hrelated
        exact ⟨hrelated, h.fadingOut t ht, h'.fadingOut t' ht'⟩
      · rintro t t' ht ht' hrelated
        exact ⟨hrelated, h.pending t ht, h'.pending t' ht'⟩
    have hblocks : ∀ t t', Alike t t' ∧ Calm t ∧ Calm t' →
        Answers (fun t t' => Alike t t' ∧ Calm t ∧ Calm t')
          (runOne t (xs.take maxProcessFrames)) (runOne t' (xs.take maxProcessFrames)) := by
      rintro t t' ⟨hrelated, ht, ht'⟩
      obtain ⟨ys, s, hone, -, hs⟩ := hrun.answers t xs ht hxs
      obtain ⟨s', hone', hrelated', hs'⟩ := hrun.alike_of_eq hrelated ht ht' hxs hone
      rw [htake, hone, hone']
      exact .some ⟨rfl, hrelated', hs, hs'⟩
    have hblock := hcalm.process hblocks
    refine rel_imp hblock ?_
    rintro ⟨ys, after⟩ ⟨_, after'⟩ - - ⟨rfl, hafter⟩
    exact ⟨rfl, hafter.imp (fun _ _ _ _ h => h.1) (fun _ _ _ _ h => h.1)
      fun _ _ _ _ h => h.1⟩
  seam slot xs xs' h hxs hxs' hfits := by
    obtain ⟨htaken, hnone⟩ := h.takePending
    obtain ⟨ys, slot₁, ys', slot₂, slot', hfirst, hsecond, hwhole, hrelated⟩ :=
      htaken.seam hrun hshort hends hnone hxs hxs' hfits
    rw [process_takePending h] at hfirst hwhole
    rw [hfirst, Option.bind_some, hsecond, Option.map_some, hwhole]
    exact .some ⟨rfl, hrelated⟩

end

end

end CrossfadingSlot

/-! ## Voices -/

/-- Blocks of at most the frames that are rendered at once. -/
abbrev FitsStage (frames : ℕ) : Prop := frames ≤ maxProcessFrames

theorem DirectVoiceFilter.process_append (filter : DirectVoiceFilter)
    (front back : List ℝ) :
    filter.process (front ++ back) =
      ((filter.process front).1 ++ ((filter.process front).2.process back).1,
        ((filter.process front).2.process back).2) := by
  simp only [process, DirectFilter.render_append, DirectFilter.feed, List.append_assoc]
  rw [List.zipWith_append]
  rw [DirectFilter.length_render, DirectFilter.length_render]

theorem DirectVoiceFilter.length_process (filter : DirectVoiceFilter)
    (monoInput : List ℝ) : (filter.process monoInput).1.length = monoInput.length := by
  rw [process, List.length_zipWith, DirectFilter.length_render,
    DirectFilter.length_render, Nat.min_self]

namespace DirectVoice

/-- The voice is calm: none of its filters waits for the end of a fade. -/
def Calm (voice : DirectVoice) : Prop :=
  voice.slot.FadesOnce fun _ => True

/-- The filters of the voices are the same. -/
def Alike (voice voice' : DirectVoice) : Prop :=
  voice.slot.Related Eq voice'.slot

theorem seamless : Seamless FitsStage Calm Alike process :=
  (CrossfadingSlot.seamless
    (.of_append DirectVoiceFilter.length_process DirectVoiceFilter.process_append)
    (fun _ h => h) (endsExactly Real.tanh)).lift slot
      (fun voice slot => { voice with slot }) fun _ _ => rfl

end DirectVoice

/-! ## Stages -/

/-- Signals that are mixed one after the other, in two pieces. -/
theorem foldl_zipWith_append {κ β γ : Type} (add : β → γ → β) {ks : List κ}
    {front back : List β} {fronts backs : κ → List γ}
    (hfronts : ∀ k, (fronts k).length = front.length) :
    ks.foldl (fun mix k => List.zipWith add mix (fronts k ++ backs k)) (front ++ back) =
      ks.foldl (fun mix k => List.zipWith add mix (fronts k)) front ++
        ks.foldl (fun mix k => List.zipWith add mix (backs k)) back := by
  induction ks generalizing front back with
  | nil => rfl
  | cons k ks ih =>
      have hmixed : (List.zipWith add front (fronts k)).length = front.length := by
        rw [List.length_zipWith, hfronts, Nat.min_self]
      rw [List.foldl_cons, List.zipWith_append (hfronts k).symm,
        ih fun k => (hfronts k).trans hmixed.symm]
      rfl

theorem length_foldl_zipWith {κ β γ : Type} (add : β → γ → β) (ks : List κ)
    {mix : List β} {signals : κ → List γ} (h : ∀ k, (signals k).length = mix.length) :
    (ks.foldl (fun mix k => List.zipWith add mix (signals k)) mix).length =
      mix.length := by
  induction ks generalizing mix with
  | nil => rfl
  | cons k ks ih =>
      have hmixed : (List.zipWith add mix (signals k)).length = mix.length := by
        rw [List.length_zipWith, h, Nat.min_self]
      rw [List.foldl_cons, ih fun k => (h k).trans hmixed.symm, hmixed]

namespace DirectStage

/-- The filters of the virtual speakers. -/
abbrev EarFilters := (Fin virtualSpeakerCount → DirectFilter) ×
  (Fin virtualSpeakerCount → DirectFilter)

/-- The original path, by its filters alone. -/
noncomputable def renderFilters (layout : SpeakerLayout) (filters : EarFilters)
    (input : List (SevenOneFrame ℝ)) : List (StereoFrame ℝ) × EarFilters :=
  let signals := speakerSignals layout input
  (List.zipWith
      (fun inFrame (mix : ℝ × ℝ) =>
        ![mix.1 + lfeGain * SevenOneFrame.at inFrame .lfe,
          mix.2 + lfeGain * SevenOneFrame.at inFrame .lfe])
      input
      (List.zip (renderEar input.length signals filters.1)
        (renderEar input.length signals filters.2)),
    (fun k => (filters.1 k).feed (signals k), fun k => (filters.2 k).feed (signals k)))

theorem length_renderEar {frames : ℕ} {signals : Fin virtualSpeakerCount → List ℝ}
    (hsignals : ∀ k, (signals k).length = frames)
    (filters : Fin virtualSpeakerCount → DirectFilter) :
    (renderEar frames signals filters).length = frames := by
  have hlength : (List.replicate frames (0 : ℝ)).length = frames := List.length_replicate
  rw [renderEar, length_foldl_zipWith, hlength]
  intro k
  rw [DirectFilter.length_render, hsignals, hlength]

theorem renderEar_append {signals signals' : Fin virtualSpeakerCount → List ℝ}
    {frames frames' : ℕ} (hsignals : ∀ k, (signals k).length = frames)
    (filters : Fin virtualSpeakerCount → DirectFilter) :
    renderEar (frames + frames') (fun k => signals k ++ signals' k) filters =
      renderEar frames signals filters ++
        renderEar frames' signals' fun k => (filters k).feed (signals k) := by
  simp only [renderEar, DirectFilter.render_append]
  rw [List.replicate_add, foldl_zipWith_append]
  intro k
  rw [DirectFilter.length_render, hsignals, List.length_replicate]

theorem length_speakerSignals (layout : SpeakerLayout) (input : List (SevenOneFrame ℝ))
    (k : Fin virtualSpeakerCount) :
    (speakerSignals layout input k).length = input.length :=
  List.length_map _

theorem length_renderFilters (layout : SpeakerLayout) (filters : EarFilters)
    (input : List (SevenOneFrame ℝ)) :
    (renderFilters layout filters input).1.length = input.length := by
  have hsignals := length_speakerSignals layout input
  simp only [renderFilters, List.length_zipWith, List.length_zip,
    length_renderEar hsignals, Nat.min_self]

theorem renderFilters_append (layout : SpeakerLayout) (filters : EarFilters)
    (front back : List (SevenOneFrame ℝ)) :
    renderFilters layout filters (front ++ back) =
      ((renderFilters layout filters front).1 ++
          (renderFilters layout (renderFilters layout filters front).2 back).1,
        (renderFilters layout (renderFilters layout filters front).2 back).2) := by
  have hsignals := length_speakerSignals layout front
  have hjoined : speakerSignals layout (front ++ back) =
      fun k => speakerSignals layout front k ++ speakerSignals layout back k := by
    funext k
    exact List.map_append
  simp only [renderFilters, hjoined, List.length_append, renderEar_append hsignals]
  rw [List.zip_append, List.zipWith_append]
  · simp only [DirectFilter.feed, List.append_assoc]
  · rw [List.length_zip, length_renderEar hsignals, length_renderEar hsignals,
      Nat.min_self]
  · rw [length_renderEar hsignals, length_renderEar hsignals]

/-- The signal of one speaker. -/
def speakerSource (input : List (SevenOneFrame ℝ)) (speaker : SpeakerChannel) : List ℝ :=
  input.map fun inFrame => SevenOneFrame.sources inFrame speaker

theorem length_speakerSource (input : List (SevenOneFrame ℝ)) (speaker : SpeakerChannel) :
    (speakerSource input speaker).length = input.length :=
  List.length_map _

/-- Every voice renders its own signal, and what they render is mixed. -/
theorem renderVoices_eq {input : List (SevenOneFrame ℝ)} {speakers : List SpeakerChannel}
    (hnodup : speakers.Nodup) {voices : SpeakerChannel → DirectVoice}
    {frames : SpeakerChannel → List (StereoFrame ℝ)} {next : SpeakerChannel → DirectVoice}
    (hprocess : ∀ speaker ∈ speakers, (voices speaker).process
      (speakerSource input speaker) = some (frames speaker, next speaker))
    (output : List (StereoFrame ℝ)) :
    renderVoices input speakers output voices =
      some (speakers.foldl (fun mix speaker =>
          List.zipWith (fun out frame ch => out ch + frame ch) mix (frames speaker)) output,
        fun speaker => if speaker ∈ speakers then next speaker else voices speaker) := by
  induction speakers generalizing output voices with
  | nil =>
      simp only [List.not_mem_nil, if_false]
      rfl
  | cons speaker speakers ih =>
      obtain ⟨hnotMem, hnodup⟩ := List.nodup_cons.mp hnodup
      have hhead := hprocess speaker List.mem_cons_self
      rw [speakerSource] at hhead
      have hrest : ∀ other ∈ speakers,
          (Function.update voices speaker (next speaker) other).process
            (speakerSource input other) = some (frames other, next other) := by
        intro other hother
        have hne : other ≠ speaker := fun heq => hnotMem (heq ▸ hother)
        rw [Function.update_of_ne hne]
        exact hprocess other (List.mem_cons_of_mem _ hother)
      rw [renderVoices]
      simp only [hhead, Option.bind_eq_bind, Option.bind_some]
      rw [ih hnodup hrest, List.foldl_cons]
      congr 2
      funext other
      by_cases hother : other = speaker
      · subst hother
        simp [hnotMem]
      · simp [hother]

/-- The near-field path, by its voices alone. -/
noncomputable def renderVoicePath (voices : SpeakerChannel → DirectVoice)
    (input : List (SevenOneFrame ℝ)) :
    Option (List (StereoFrame ℝ) × (SpeakerChannel → DirectVoice)) :=
  (renderVoices input (List.finRange speakerCount)
      (List.replicate input.length fun _ => 0) voices).bind fun rendered =>
    some (List.zipWith
        (fun inFrame (out : StereoFrame ℝ) ch =>
          out ch + lfeGain * SevenOneFrame.at inFrame .lfe)
        input rendered.1,
      rendered.2)

/-- The voices mixed, and the LFE channel. -/
noncomputable def voiceMix (input : List (SevenOneFrame ℝ))
    (frames : SpeakerChannel → List (StereoFrame ℝ)) : List (StereoFrame ℝ) :=
  List.zipWith
    (fun inFrame (out : StereoFrame ℝ) ch =>
      out ch + lfeGain * SevenOneFrame.at inFrame .lfe)
    input ((List.finRange speakerCount).foldl (fun mix speaker =>
      List.zipWith (fun out frame ch => out ch + frame ch) mix (frames speaker))
        (List.replicate input.length fun _ => 0))

theorem renderVoicePath_eq {input : List (SevenOneFrame ℝ)}
    {voices next : SpeakerChannel → DirectVoice}
    {frames : SpeakerChannel → List (StereoFrame ℝ)}
    (hprocess : ∀ speaker, (voices speaker).process (speakerSource input speaker) =
      some (frames speaker, next speaker)) :
    renderVoicePath voices input = some (voiceMix input frames, next) := by
  rw [renderVoicePath, renderVoices_eq (List.nodup_finRange _) fun speaker _ =>
    hprocess speaker]
  simp only [List.mem_finRange, if_true]
  rfl

theorem length_voiceMix {input : List (SevenOneFrame ℝ)}
    {frames : SpeakerChannel → List (StereoFrame ℝ)}
    (hframes : ∀ speaker, (frames speaker).length = input.length) :
    (voiceMix input frames).length = input.length := by
  have hsilence : (List.replicate input.length fun _ => 0 : List (StereoFrame ℝ)).length =
      input.length := List.length_replicate
  rw [voiceMix, List.length_zipWith, length_foldl_zipWith, hsilence, Nat.min_self]
  intro speaker
  rw [hframes, hsilence]

theorem voiceMix_append {front back : List (SevenOneFrame ℝ)}
    {fronts backs : SpeakerChannel → List (StereoFrame ℝ)}
    (hfronts : ∀ speaker, (fronts speaker).length = front.length) :
    voiceMix (front ++ back) (fun speaker => fronts speaker ++ backs speaker) =
      voiceMix front fronts ++ voiceMix back backs := by
  have hsilence : (List.replicate front.length fun _ => 0 : List (StereoFrame ℝ)).length =
      front.length := List.length_replicate
  have hfronts' : ∀ speaker, (fronts speaker).length =
      (List.replicate front.length fun _ => 0 : List (StereoFrame ℝ)).length :=
    fun speaker => (hfronts speaker).trans hsilence.symm
  rw [voiceMix, List.length_append, List.replicate_add, foldl_zipWith_append _ hfronts',
    List.zipWith_append]
  · rfl
  · rw [length_foldl_zipWith _ _ hfronts', hsilence]

theorem seamless_renderVoicePath :
    Seamless FitsStage (fun voices => ∀ speaker, (voices speaker).Calm)
      (fun voices voices' => ∀ speaker, (voices speaker).Alike (voices' speaker))
      renderVoicePath where
  equivalence := by
    have hvoice := DirectVoice.seamless.equivalence
    exact ⟨fun voices speaker => hvoice.refl _,
      fun halike speaker => hvoice.symm (halike speaker),
      fun halike halike' speaker => hvoice.trans (halike speaker) (halike' speaker)⟩
  answers voices input hcalm hinput := by
    have hsource : ∀ speaker, FitsStage (speakerSource input speaker).length :=
      fun speaker => (length_speakerSource input speaker).symm ▸ hinput
    choose frames next hprocess hlength hnext using fun speaker =>
      DirectVoice.seamless.answers _ _ (hcalm speaker) (hsource speaker)
    refine ⟨_, next, renderVoicePath_eq hprocess, length_voiceMix fun speaker => ?_, hnext⟩
    rw [hlength, length_speakerSource]
  alike voices voices' input halike hcalm hcalm' hinput := by
    have hsource : ∀ speaker, FitsStage (speakerSource input speaker).length :=
      fun speaker => (length_speakerSource input speaker).symm ▸ hinput
    choose frames next hprocess hlength hnext using fun speaker =>
      DirectVoice.seamless.answers _ _ (hcalm speaker) (hsource speaker)
    choose next' hprocess' halike' hnext' using fun speaker =>
      DirectVoice.seamless.alike_of_eq (halike speaker) (hcalm speaker) (hcalm' speaker)
        (hsource speaker) (hprocess speaker)
    rw [renderVoicePath_eq hprocess, renderVoicePath_eq hprocess']
    exact .some ⟨rfl, halike'⟩
  seam voices front back hcalm hfront hback hfits := by
    have hsource : ∀ speaker, FitsStage (speakerSource front speaker).length :=
      fun speaker => (length_speakerSource front speaker).symm ▸ hfront
    have hsource' : ∀ speaker, FitsStage (speakerSource back speaker).length :=
      fun speaker => (length_speakerSource back speaker).symm ▸ hback
    have hjoined : ∀ speaker, speakerSource (front ++ back) speaker =
        speakerSource front speaker ++ speakerSource back speaker :=
      fun speaker => List.map_append
    have hboth : ∀ speaker, FitsStage
        (speakerSource front speaker ++ speakerSource back speaker).length := by
      intro speaker
      rw [← hjoined, length_speakerSource]
      exact hfits
    choose frames next hprocess hlength hnext using fun speaker =>
      DirectVoice.seamless.answers _ _ (hcalm speaker) (hsource speaker)
    choose frames' next' hprocess' hlength' hnext' using fun speaker =>
      DirectVoice.seamless.answers _ _ (hnext speaker) (hsource' speaker)
    choose whole hwhole halike using fun speaker =>
      DirectVoice.seamless.seam_of_eq (hcalm speaker) (hsource speaker) (hsource' speaker)
        (hboth speaker) (hprocess speaker) (hprocess' speaker)
    have hframes : ∀ speaker, (frames speaker).length = front.length :=
      fun speaker => (hlength speaker).trans (length_speakerSource front speaker)
    have hwhole' : renderVoicePath voices (front ++ back) = some
        (voiceMix (front ++ back) fun speaker => frames speaker ++ frames' speaker, whole) :=
      renderVoicePath_eq fun speaker => (hjoined speaker).symm ▸ hwhole speaker
    rw [hwhole', voiceMix_append hframes, renderVoicePath_eq hprocess, Option.bind_some,
      renderVoicePath_eq hprocess', Option.map_some]
    exact .some ⟨rfl, halike⟩

end DirectStage

end RamkolFX
