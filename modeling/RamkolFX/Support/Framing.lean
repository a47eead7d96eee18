import Mathlib.Data.List.Basic

/-!
# Cutting a stream into frames

A framer takes the first complete frame off the front of a buffer.  What it
finds must not change when more of the stream arrives, and each frame it takes
must be non-empty.  Then the frames of a stream, and the incomplete rest behind
them, do not depend on the chunks in which the stream arrives.
-/

namespace Support

/-- Takes the first complete frame off the front of a buffer. -/
structure Framer (α β : Type) where
  next : List α → Option (β × List α)
  progress : ∀ {buffer frame rest},
    next buffer = some (frame, rest) → rest.length < buffer.length
  extend : ∀ {buffer frame rest} (more : List α),
    next buffer = some (frame, rest) →
      next (buffer ++ more) = some (frame, rest ++ more)

namespace Framer

variable {α β : Type} (F : Framer α β)

/-- All complete frames of a stream, and the rest behind the last one. -/
def parse (stream : List α) : List β × List α :=
  match _h : F.next stream with
  | none => ([], stream)
  | some (frame, rest) => (frame :: (parse rest).1, (parse rest).2)
termination_by stream.length
decreasing_by all_goals exact F.progress _h

theorem parse_of_none {stream : List α} (h : F.next stream = none) :
    F.parse stream = ([], stream) := by
  rw [parse]
  split
  · rfl
  · next h' => simp [h] at h'

theorem parse_of_some
    {stream rest : List α} {frame : β} (h : F.next stream = some (frame, rest)) :
    F.parse stream = (frame :: (F.parse rest).1, (F.parse rest).2) := by
  rw [parse]
  split
  · next h' => simp [h] at h'
  · next frame' rest' h' =>
      obtain ⟨rfl, rfl⟩ : frame = frame' ∧ rest = rest' := by
        simpa [h] using h'
      rfl

/-- Induction along the frames of a stream. -/
theorem parse_induction {motive : List α → Prop}
    (incomplete : ∀ stream, F.next stream = none → motive stream)
    (frame : ∀ stream frame rest, F.next stream = some (frame, rest) →
      motive rest → motive stream)
    (stream : List α) : motive stream :=
  match h : F.next stream with
  | none => incomplete stream h
  | some (first, rest) =>
      frame stream first rest h (parse_induction incomplete frame rest)
termination_by stream.length
decreasing_by exact F.progress h

theorem next_rest (stream : List α) : F.next (F.parse stream).2 = none := by
  induction stream using F.parse_induction with
  | incomplete stream h => rw [F.parse_of_none h, h]
  | frame stream frame rest h ih => rw [F.parse_of_some h, ih]

/-- Frames found early stay: parsing a longer stream goes on from the rest. -/
theorem parse_append (front back : List α) :
    F.parse (front ++ back) =
      ((F.parse front).1 ++ (F.parse ((F.parse front).2 ++ back)).1,
        (F.parse ((F.parse front).2 ++ back)).2) := by
  induction front using F.parse_induction with
  | incomplete front h => simp [F.parse_of_none h]
  | frame front frame rest h ih =>
      rw [F.parse_of_some (F.extend back h), ih, F.parse_of_some h]
      rfl

/-- The stream is its frames followed by its rest. -/
theorem flatMap_parse
    {enc : β → List α}
    (hnext : ∀ {buffer frame rest}, F.next buffer = some (frame, rest) →
      buffer = enc frame ++ rest)
    (stream : List α) :
    (F.parse stream).1.flatMap enc ++ (F.parse stream).2 = stream := by
  induction stream using F.parse_induction with
  | incomplete stream h => simp [F.parse_of_none h]
  | frame stream frame rest h ih =>
      rw [F.parse_of_some h, hnext h]
      simpa using ih

end Framer

/-! ## Blocks of one size -/

/-- Cuts a stream into blocks of `n` samples. -/
def blockFramer (α : Type) (n : ℕ) (hn : 0 < n) : Framer α (List α) where
  next buffer :=
    if n ≤ buffer.length then some (buffer.take n, buffer.drop n) else none
  progress := by
    intro buffer frame rest h
    by_cases hlen : n ≤ buffer.length
    · obtain ⟨-, rfl⟩ : buffer.take n = frame ∧ buffer.drop n = rest := by
        simpa [hlen] using h
      rw [List.length_drop]
      omega
    · simp [hlen] at h
  extend := by
    intro buffer frame rest more h
    by_cases hlen : n ≤ buffer.length
    · obtain ⟨rfl, rfl⟩ : buffer.take n = frame ∧ buffer.drop n = rest := by
        simpa [hlen] using h
      have hlong : n ≤ (buffer ++ more).length := by
        rw [List.length_append]
        omega
      rw [if_pos hlong, List.take_append_of_le_length hlen,
        List.drop_append_of_le_length hlen]
    · simp [hlen] at h

section Blocks

variable {α : Type} {n : ℕ} (hn : 0 < n)

theorem blockFramer_next_of_lt {buffer : List α} (h : buffer.length < n) :
    (blockFramer α n hn).next buffer = none :=
  if_neg (Nat.not_le.mpr h)

/-- A full block in front of the rest is the next block. -/
theorem blockFramer_next_append {block : List α} (h : block.length = n)
    (rest : List α) :
    (blockFramer α n hn).next (block ++ rest) = some (block, rest) := by
  have hlen : n ≤ (block ++ rest).length := by
    rw [List.length_append]
    omega
  have htake : (block ++ rest).take n = block := by
    rw [← h, List.take_left]
  have hdrop : (block ++ rest).drop n = rest := by
    rw [← h, List.drop_left]
  simp only [blockFramer, if_pos hlen, htake, hdrop]

/-- A stream of `k` samples holds `k / n` blocks and a rest of `k % n`. -/
theorem length_blocks (stream : List α) :
    ((blockFramer α n hn).parse stream).1.length = stream.length / n ∧
      ((blockFramer α n hn).parse stream).2.length = stream.length % n := by
  induction stream using (blockFramer α n hn).parse_induction with
  | incomplete stream h =>
      have hlen : stream.length < n := by
        by_contra hge
        simp [blockFramer, Nat.not_lt.mp hge] at h
      rw [(blockFramer α n hn).parse_of_none h]
      exact ⟨(Nat.div_eq_of_lt hlen).symm, (Nat.mod_eq_of_lt hlen).symm⟩
  | frame stream frame rest h ih =>
      have hlen : n ≤ stream.length := by
        by_contra hlt
        simp [blockFramer, hlt] at h
      obtain ⟨-, rfl⟩ : stream.take n = frame ∧ stream.drop n = rest := by
        simpa [blockFramer, hlen] using h
      rw [(blockFramer α n hn).parse_of_some h, List.length_cons, ih.1, ih.2,
        List.length_drop]
      constructor
      · rw [Nat.div_eq_sub_div hn hlen]
      · rw [← Nat.mod_eq_sub_mod hlen]

end Blocks

end Support
