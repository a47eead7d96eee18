import RamkolFX.Support.Bisimulation
import Mathlib.Data.Nat.Init
import Mathlib.Tactic.WLOG

/-!
# Streams that come in blocks

A machine that is given a stream block by block.  If two blocks are answered like
the one block they make up, up to what no later answer shows, then the answers to a
stream do not depend on how it was cut into blocks.  A pipe of such machines is one.
-/

namespace Support

variable {σ τ ι κ ο : Type*}

/-- Calm states answer every block that fits, element by element, and stay calm;
states that are alike answer alike; and a block can be cut in two. -/
structure Seamless (Fits : ℕ → Prop) (Calm : σ → Prop) (Alike : σ → σ → Prop)
    (process : σ → List ι → Option (List ο × σ)) : Prop where
  equivalence : Equivalence Alike
  answers : ∀ s xs, Calm s → Fits xs.length →
    ∃ ys s', process s xs = some (ys, s') ∧ ys.length = xs.length ∧ Calm s'
  alike : ∀ s t xs, Alike s t → Calm s → Calm t → Fits xs.length →
    Answers Alike (process s xs) (process t xs)
  seam : ∀ s xs xs', Calm s → Fits xs.length → Fits xs'.length →
    Fits (xs ++ xs').length →
    Answers Alike (process s (xs ++ xs'))
      ((process s xs).bind fun front =>
        (process front.2 xs').map fun back => (front.1 ++ back.1, back.2))

namespace Seamless

variable {Fits : ℕ → Prop} {Calm : σ → Prop} {Alike : σ → σ → Prop}
  {process : σ → List ι → Option (List ο × σ)}

theorem calm_of_eq (h : Seamless Fits Calm Alike process) {s s' : σ} {xs : List ι}
    {ys : List ο} (hs : Calm s) (hfits : Fits xs.length)
    (hprocess : process s xs = some (ys, s')) : Calm s' := by
  obtain ⟨zs, s'', hprocess', -, hs'⟩ := h.answers s xs hs hfits
  obtain ⟨-, rfl⟩ := Prod.mk.inj (Option.some.inj (hprocess.symm.trans hprocess'))
  exact hs'

/-- One block, given the result for one state. -/
theorem alike_of_eq (h : Seamless Fits Calm Alike process) {s t s' : σ} {xs : List ι}
    {ys : List ο} (halike : Alike s t) (hs : Calm s) (ht : Calm t)
    (hfits : Fits xs.length) (hprocess : process s xs = some (ys, s')) :
    ∃ t', process t xs = some (ys, t') ∧ Alike s' t' ∧ Calm t' := by
  obtain ⟨zs, t', hprocessed, -, ht'⟩ := h.answers t xs ht hfits
  have hanswers := h.alike s t xs halike hs ht hfits
  rw [hprocess, hprocessed] at hanswers
  cases hanswers with
  | some hrelated =>
      obtain ⟨rfl, halike'⟩ := hrelated
      exact ⟨t', hprocessed, halike', ht'⟩

/-- A block in two pieces, given the results for the pieces. -/
theorem seam_of_eq (h : Seamless Fits Calm Alike process) {s s₁ s₂ : σ}
    {xs xs' : List ι} {ys ys' : List ο} (hs : Calm s) (hxs : Fits xs.length)
    (hxs' : Fits xs'.length) (hfits : Fits (xs ++ xs').length)
    (hfront : process s xs = some (ys, s₁)) (hback : process s₁ xs' = some (ys', s₂)) :
    ∃ s', process s (xs ++ xs') = some (ys ++ ys', s') ∧ Alike s' s₂ := by
  obtain ⟨zs, s', hwhole, -, -⟩ := h.answers s (xs ++ xs') hs hfits
  have hanswers := h.seam s xs xs' hs hxs hxs' hfits
  rw [hwhole, hfront, Option.bind_some, hback, Option.map_some] at hanswers
  cases hanswers with
  | some hrelated =>
      obtain ⟨rfl, halike⟩ := hrelated
      exact ⟨s', hwhole, halike⟩

/-- Blocks that are answered one after the other. -/
theorem exists_outputs (h : Seamless Fits Calm Alike process) {s : σ} (hs : Calm s)
    {blocks : List (List ι)} (hblocks : ∀ block ∈ blocks, Fits block.length) :
    ∃ ys, outputs process s blocks = some ys ∧
      ys.flatten.length = blocks.flatten.length := by
  induction blocks generalizing s with
  | nil => exact ⟨[], rfl, rfl⟩
  | cons block blocks ih =>
      obtain ⟨hblock, hrest⟩ := List.forall_mem_cons.mp hblocks
      obtain ⟨ys, s', hprocess, hlength, hs'⟩ := h.answers s block hs hblock
      obtain ⟨yss, houtputs, hlengths⟩ := ih hs' hrest
      refine ⟨ys :: yss, ?_, ?_⟩
      · rw [outputs, hprocess, Option.bind_some, houtputs, Option.map_some]
      · rw [List.flatten_cons, List.flatten_cons, List.length_append,
          List.length_append, hlength, hlengths]

/-- From states that are alike, the same blocks are answered alike. -/
theorem outputs_eq_of_alike (h : Seamless Fits Calm Alike process) {s t : σ}
    (halike : Alike s t) (hs : Calm s) (ht : Calm t) {blocks : List (List ι)}
    (hblocks : ∀ block ∈ blocks, Fits block.length) :
    outputs process s blocks = outputs process t blocks := by
  refine outputs_eq (R := fun s t => Alike s t ∧ Calm s ∧ Calm t)
    ?_ ⟨halike, hs, ht⟩ hblocks
  rintro s t block ⟨halike, hs, ht⟩ hblock
  obtain ⟨ys, s', hprocess, -, hs'⟩ := h.answers s block hs hblock
  obtain ⟨t', hprocess', halike', ht'⟩ := h.alike_of_eq halike hs ht hblock hprocess
  rw [hprocess, hprocess']
  exact .some ⟨rfl, halike', hs', ht'⟩

/-- The answers to a stream do not depend on how it is cut into blocks. -/
theorem flatten_outputs (h : Seamless Fits Calm Alike process)
    (hfits : ∀ m n, Fits m → Fits (m + n) → Fits n) {s t : σ} (halike : Alike s t)
    (hs : Calm s) (ht : Calm t) {blocks blocks' : List (List ι)}
    (hblocks : ∀ block ∈ blocks, Fits block.length)
    (hblocks' : ∀ block ∈ blocks', Fits block.length)
    (hflatten : blocks.flatten = blocks'.flatten) :
    (outputs process s blocks).map List.flatten =
      (outputs process t blocks').map List.flatten := by
  induction hsize : blocks.length + blocks'.length using Nat.strong_induction_on
    generalizing s t blocks blocks' with
  | h size ih =>
    subst hsize
    -- the first block of one cut is the front of the first block of the other
    wlog hle : (blocks.headD []).length ≤ (blocks'.headD []).length generalizing s t
      blocks blocks'
    · refine (this (h.equivalence.symm halike) ht hs hblocks' hblocks hflatten.symm ?_
        (Nat.le_of_not_le hle)).symm
      rw [Nat.add_comm]
      exact ih
    obtain ⟨answers, houtputs, hlength⟩ := h.exists_outputs hs hblocks
    obtain ⟨answers', houtputs', hlength'⟩ := h.exists_outputs ht hblocks'
    cases blocks with
    | nil =>
        -- nothing is left but empty blocks
        obtain rfl : answers = [] := (Option.some.inj houtputs).symm
        have hnothing : answers'.flatten = [] := by
          apply List.eq_nil_of_length_eq_zero
          rw [hlength', ← hflatten]
          rfl
        rw [houtputs, houtputs', Option.map_some, Option.map_some, hnothing]
        rfl
    | cons block blocks =>
        cases blocks' with
        | nil =>
            have hnothing : answers.flatten = [] := by
              apply List.eq_nil_of_length_eq_zero
              rw [hlength, hflatten]
              rfl
            obtain rfl : answers' = [] := (Option.some.inj houtputs').symm
            rw [houtputs, houtputs', Option.map_some, Option.map_some, hnothing]
            rfl
        | cons block' blocks' =>
            obtain ⟨hblock, hrest⟩ := List.forall_mem_cons.mp hblocks
            obtain ⟨hblock', hrest'⟩ := List.forall_mem_cons.mp hblocks'
            rw [List.flatten_cons, List.flatten_cons] at hflatten
            obtain ⟨back, rfl⟩ : block <+: block' :=
              List.prefix_of_prefix_length_le (List.prefix_append block _)
                (hflatten ▸ List.prefix_append block' _) hle
            have hback : Fits back.length :=
              hfits block.length back.length hblock (List.length_append ▸ hblock')
            rw [List.append_assoc, List.append_cancel_left_eq] at hflatten
            obtain ⟨ys, s₁, hprocess, -, hs₁⟩ := h.answers s block hs hblock
            obtain ⟨t₁, hfront, halike₁, ht₁⟩ :=
              h.alike_of_eq halike hs ht hblock hprocess
            obtain ⟨ys', t₂, hsecond, -, ht₂⟩ := h.answers t₁ back ht₁ hback
            obtain ⟨t', hwhole, halike₂⟩ :=
              h.seam_of_eq ht hblock hback hblock' hfront hsecond
            have ht' := h.calm_of_eq ht hblock' hwhole
            have hgoesOn := ih _ (by simp only [List.length_cons]; omega) halike₁ hs₁ ht₁
              hrest (List.forall_mem_cons.mpr ⟨hback, hrest'⟩) hflatten rfl
            rw [outputs, hsecond, Option.bind_some,
              ← h.outputs_eq_of_alike halike₂ ht' ht₂ hrest'] at hgoesOn
            rw [outputs, outputs, hprocess, hwhole, Option.bind_some, Option.bind_some]
            have hfronted := congrArg (Option.map fun rest => ys ++ rest) hgoesOn
            simpa [Function.comp_def] using hfronted

/-! ## Machines without seams -/

/-- A machine that never fails, and that goes on exactly where it stopped. -/
theorem of_append {next : σ → List ι → List ο × σ}
    (hlength : ∀ s xs, (next s xs).1.length = xs.length)
    (happend : ∀ s xs xs', next s (xs ++ xs') =
      ((next s xs).1 ++ (next (next s xs).2 xs').1, (next (next s xs).2 xs').2)) :
    Seamless Fits (fun _ => True) Eq fun s xs => some (next s xs) where
  equivalence := eq_equivalence
  answers s xs _ _ := ⟨(next s xs).1, (next s xs).2, rfl, hlength s xs, trivial⟩
  alike := by
    rintro s - xs rfl - - -
    exact .some ⟨rfl, rfl⟩
  seam s xs xs' _ _ _ _ := by
    rw [happend]
    exact .some ⟨rfl, rfl⟩

/-- A machine inside a larger state, of which it needs no more. -/
theorem lift (h : Seamless Fits Calm Alike process) (get : τ → σ) (set : τ → σ → τ)
    (hget : ∀ t s, get (set t s) = s) :
    Seamless Fits (fun t => Calm (get t)) (fun t t' => Alike (get t) (get t'))
      fun t xs => (process (get t) xs).bind fun answer => some (answer.1, set t answer.2)
    where
  equivalence := by
    refine ⟨fun t => h.equivalence.refl _, h.equivalence.symm, h.equivalence.trans⟩
  answers t xs ht hxs := by
    obtain ⟨ys, s, hprocess, hlength, hs⟩ := h.answers (get t) xs ht hxs
    refine ⟨ys, set t s, by rw [hprocess]; rfl, hlength, ?_⟩
    rwa [hget]
  alike t t' xs halike ht ht' hxs := by
    obtain ⟨ys, s, hprocess, -, -⟩ := h.answers (get t) xs ht hxs
    obtain ⟨s', hprocess', halike', -⟩ := h.alike_of_eq halike ht ht' hxs hprocess
    rw [hprocess, hprocess']
    exact .some ⟨rfl, by simpa only [hget] using halike'⟩
  seam t xs xs' ht hxs hxs' hfits := by
    obtain ⟨ys, s₁, hfront, -, hs₁⟩ := h.answers (get t) xs ht hxs
    obtain ⟨ys', s₂, hback, -, -⟩ := h.answers s₁ xs' hs₁ hxs'
    obtain ⟨s', hwhole, halike⟩ := h.seam_of_eq ht hxs hxs' hfits hfront hback
    rw [hwhole, hfront, Option.bind_some, Option.bind_some, Option.bind_some, hget,
      hback]
    exact .some ⟨rfl, by simpa only [hget] using halike⟩

end Seamless

/-- One machine behind another one. -/
def pipe (first : σ → List ι → Option (List κ × σ))
    (second : τ → List κ → Option (List ο × τ)) (s : σ × τ) (xs : List ι) :
    Option (List ο × (σ × τ)) :=
  (first s.1 xs).bind fun middle =>
    (second s.2 middle.1).map fun last => (last.1, (middle.2, last.2))

theorem pipe_of_eq {first : σ → List ι → Option (List κ × σ)}
    {second : τ → List κ → Option (List ο × τ)} {s s' : σ} {t t' : τ} {xs : List ι}
    {ys : List κ} {zs : List ο} (hfirst : first s xs = some (ys, s'))
    (hsecond : second t ys = some (zs, t')) :
    pipe first second (s, t) xs = some (zs, (s', t')) := by
  simp only [pipe, hfirst, hsecond, Option.bind_some, Option.map_some]

theorem Seamless.pipe {Fits : ℕ → Prop} {Calm : σ → Prop} {Alike : σ → σ → Prop}
    {Calm' : τ → Prop} {Alike' : τ → τ → Prop}
    {first : σ → List ι → Option (List κ × σ)}
    {second : τ → List κ → Option (List ο × τ)}
    (h : Seamless Fits Calm Alike first) (h' : Seamless Fits Calm' Alike' second) :
    Seamless Fits (fun s : σ × τ => Calm s.1 ∧ Calm' s.2)
      (fun s t => Alike s.1 t.1 ∧ Alike' s.2 t.2) (pipe first second) where
  equivalence := by
    refine ⟨fun s => ⟨h.equivalence.refl _, h'.equivalence.refl _⟩, ?_, ?_⟩
    · rintro s t ⟨halike, halike'⟩
      exact ⟨h.equivalence.symm halike, h'.equivalence.symm halike'⟩
    · rintro s t u ⟨hst, hst'⟩ ⟨htu, htu'⟩
      exact ⟨h.equivalence.trans hst htu, h'.equivalence.trans hst' htu'⟩
  answers := by
    rintro ⟨s, t⟩ xs ⟨hs, ht⟩ hxs
    obtain ⟨ys, s', hfirst, hlength, hs'⟩ := h.answers s xs hs hxs
    obtain ⟨zs, t', hsecond, hlength', ht'⟩ := h'.answers t ys ht (hlength ▸ hxs)
    exact ⟨zs, (s', t'), pipe_of_eq hfirst hsecond, hlength'.trans hlength, hs', ht'⟩
  alike := by
    rintro ⟨s, t⟩ ⟨u, v⟩ xs ⟨hsu, htv⟩ ⟨hs, ht⟩ ⟨hu, hv⟩ hxs
    obtain ⟨ys, s', hfirst, hlength, -⟩ := h.answers s xs hs hxs
    obtain ⟨zs, t', hsecond, -, -⟩ := h'.answers t ys ht (hlength ▸ hxs)
    obtain ⟨u', hfirst', hsu', -⟩ := h.alike_of_eq hsu hs hu hxs hfirst
    obtain ⟨v', hsecond', htv', -⟩ :=
      h'.alike_of_eq htv ht hv (hlength ▸ hxs) hsecond
    rw [pipe_of_eq hfirst hsecond, pipe_of_eq hfirst' hsecond']
    exact .some ⟨rfl, hsu', htv'⟩
  seam := by
    rintro ⟨s, t⟩ xs xs' ⟨hs, ht⟩ hxs hxs' hfits
    obtain ⟨ys, s₁, hfront, hlength, hs₁⟩ := h.answers s xs hs hxs
    obtain ⟨ys', s₂, hback, hlength', -⟩ := h.answers s₁ xs' hs₁ hxs'
    obtain ⟨s', hwhole, halike⟩ := h.seam_of_eq hs hxs hxs' hfits hfront hback
    have hys : Fits ys.length := hlength ▸ hxs
    have hys' : Fits ys'.length := hlength' ▸ hxs'
    have hjoined : Fits (ys ++ ys').length := by
      rwa [List.length_append, hlength, hlength', ← List.length_append]
    obtain ⟨zs, t₁, hfront', -, ht₁⟩ := h'.answers t ys ht hys
    obtain ⟨zs', t₂, hback', -, -⟩ := h'.answers t₁ ys' ht₁ hys'
    obtain ⟨t', hwhole', halike'⟩ := h'.seam_of_eq ht hys hys' hjoined hfront' hback'
    rw [pipe_of_eq hwhole hwhole', pipe_of_eq hfront hfront', Option.bind_some,
      pipe_of_eq hback hback', Option.map_some]
    exact .some ⟨rfl, halike, halike'⟩

/-- One of two machines. -/
def choice (first : σ → List ι → Option (List ο × σ))
    (second : τ → List ι → Option (List ο × τ)) :
    σ ⊕ τ → List ι → Option (List ο × (σ ⊕ τ))
  | .inl s, xs => (first s xs).map fun answer => (answer.1, .inl answer.2)
  | .inr t, xs => (second t xs).map fun answer => (answer.1, .inr answer.2)

theorem Seamless.choice {Fits : ℕ → Prop} {Calm : σ → Prop} {Alike : σ → σ → Prop}
    {Calm' : τ → Prop} {Alike' : τ → τ → Prop}
    {first : σ → List ι → Option (List ο × σ)}
    {second : τ → List ι → Option (List ο × τ)}
    (h : Seamless Fits Calm Alike first) (h' : Seamless Fits Calm' Alike' second) :
    Seamless Fits (Sum.elim Calm Calm') (Sum.LiftRel Alike Alike')
      (choice first second) where
  equivalence := by
    refine ⟨?_, ?_, ?_⟩
    · rintro (s | t)
      · exact .inl (h.equivalence.refl s)
      · exact .inr (h'.equivalence.refl t)
    · rintro _ _ (hst | hst)
      · exact .inl (h.equivalence.symm hst)
      · exact .inr (h'.equivalence.symm hst)
    · rintro _ _ _ (hst | hst) (htu | htu)
      · exact .inl (h.equivalence.trans hst htu)
      · exact .inr (h'.equivalence.trans hst htu)
  answers := by
    rintro (s | t) xs hcalm hxs
    · obtain ⟨ys, s', hprocess, hlength, hs'⟩ := h.answers s xs hcalm hxs
      exact ⟨ys, .inl s', by rw [Support.choice, hprocess, Option.map_some], hlength, hs'⟩
    · obtain ⟨ys, t', hprocess, hlength, ht'⟩ := h'.answers t xs hcalm hxs
      exact ⟨ys, .inr t', by rw [Support.choice, hprocess, Option.map_some], hlength, ht'⟩
  alike := by
    rintro _ _ xs (halike | halike) hs ht hxs
    · exact rel_map (h.alike _ _ xs halike hs ht hxs) fun _ _ hrelated =>
        ⟨hrelated.1, .inl hrelated.2⟩
    · exact rel_map (h'.alike _ _ xs halike hs ht hxs) fun _ _ hrelated =>
        ⟨hrelated.1, .inr hrelated.2⟩
  seam := by
    rintro (s | t) xs xs' hcalm hxs hxs' hfits
    · obtain ⟨ys, s₁, hfront, -, hs₁⟩ := h.answers s xs hcalm hxs
      obtain ⟨ys', s₂, hback, -, -⟩ := h.answers s₁ xs' hs₁ hxs'
      obtain ⟨s', hwhole, halike⟩ := h.seam_of_eq hcalm hxs hxs' hfits hfront hback
      simp only [Support.choice, hwhole, hfront, hback, Option.map_some, Option.bind_some]
      exact .some ⟨rfl, .inl halike⟩
    · obtain ⟨ys, t₁, hfront, -, ht₁⟩ := h'.answers t xs hcalm hxs
      obtain ⟨ys', t₂, hback, -, -⟩ := h'.answers t₁ xs' ht₁ hxs'
      obtain ⟨t', hwhole, halike⟩ := h'.seam_of_eq hcalm hxs hxs' hfits hfront hback
      simp only [Support.choice, hwhole, hfront, hback, Option.map_some, Option.bind_some]
      exact .some ⟨rfl, .inr halike⟩

end Support
