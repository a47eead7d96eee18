import Mathlib.Data.List.Basic
import Mathlib.Logic.Function.Basic
import Mathlib.Order.Nat

/-!
# Transducers

A transducer puts out one element for each element it is given and carries a
state along.  On a stream that comes in pieces it does what it does on the whole
stream, and a loop that reads each element from a buffer before it stores the
result at the same place does what the transducer does, even in place.
-/

namespace Support

variable {σ ι ο κ ω : Type*}

/-- The output for a stream, and the state it leads to. -/
def transduce (step : σ → ι → ο × σ) : σ → List ι → List ο × σ
  | s, [] => ([], s)
  | s, x :: xs =>
      let (y, s) := step s x
      let (ys, s) := transduce step s xs
      (y :: ys, s)

section

variable (step : σ → ι → ο × σ)

theorem transduce_cons (s : σ) (x : ι) (xs : List ι) :
    transduce step s (x :: xs) =
      ((step s x).1 :: (transduce step (step s x).2 xs).1,
        (transduce step (step s x).2 xs).2) := rfl

/-- A stream in two pieces. -/
theorem transduce_append (s : σ) (xs ys : List ι) :
    transduce step s (xs ++ ys) =
      ((transduce step s xs).1 ++ (transduce step (transduce step s xs).2 ys).1,
        (transduce step (transduce step s xs).2 ys).2) := by
  induction xs generalizing s with
  | nil => rfl
  | cons x xs ih => rw [List.cons_append, transduce_cons, ih, transduce_cons]; rfl

@[simp] theorem length_transduce (s : σ) (xs : List ι) :
    (transduce step s xs).1.length = xs.length := by
  induction xs generalizing s with
  | nil => rfl
  | cons x xs ih => rw [transduce_cons, List.length_cons, ih, List.length_cons]

end

/-- A transducer that puts its input out and stays in its state. -/
theorem transduce_of_forall {step : σ → ι → ι × σ} {s : σ}
    (h : ∀ x, step s x = (x, s)) (xs : List ι) : transduce step s xs = (xs, s) := by
  induction xs with
  | nil => rfl
  | cons x xs ih => rw [transduce_cons, h, ih]

/-! ## Endless streams -/

section

variable (step : σ → ι → ο × σ)

/-- The state before the `n`-th element of an endless stream. -/
def stateAt (s : σ) (stream : ℕ → ι) : ℕ → σ
  | 0 => s
  | n + 1 => (step (stateAt s stream n) (stream n)).2

/-- The output for the `n`-th element. -/
def outputAt (s : σ) (stream : ℕ → ι) (n : ℕ) : ο :=
  (step (stateAt step s stream n) (stream n)).1

/-- The elements from `start` on, up to but not including `stop`. -/
def piece (stream : ℕ → ω) (start stop : ℕ) : List ω :=
  (List.range' start (stop - start)).map stream

@[simp] theorem length_piece (stream : ℕ → ω) (start stop : ℕ) :
    (piece stream start stop).length = stop - start := by
  rw [piece, List.length_map, List.length_range']

theorem getElem_piece (stream : ℕ → ω) {start stop i : ℕ}
    (hi : i < (piece stream start stop).length) :
    (piece stream start stop)[i] = stream (start + i) := by
  simp [piece]

/-- A piece of a stream is one of the stream that begins there. -/
theorem piece_eq_piece_zero (stream : ℕ → ω) (start stop : ℕ) :
    piece stream start stop = piece (fun k => stream (start + k)) 0 (stop - start) := by
  apply List.ext_getElem
  · rw [length_piece, length_piece, Nat.sub_zero]
  · intro i hi hi'
    rw [getElem_piece stream hi, getElem_piece _ hi', Nat.zero_add]

theorem piece_append (stream : ℕ → ω) {start middle stop : ℕ}
    (h : start ≤ middle) (h' : middle ≤ stop) :
    piece stream start middle ++ piece stream middle stop =
      piece stream start stop := by
  obtain ⟨m, rfl⟩ := Nat.exists_eq_add_of_le h
  obtain ⟨n, rfl⟩ := Nat.exists_eq_add_of_le h'
  rw [piece, piece, piece, ← List.map_append, Nat.add_sub_cancel_left,
    Nat.add_sub_cancel_left, List.range'_append_1, Nat.add_assoc,
    Nat.add_sub_cancel_left]

/-- A piece of an endless stream leads from one of its states to another. -/
theorem transduce_piece (s : σ) (stream : ℕ → ι) {start stop : ℕ}
    (h : start ≤ stop) :
    transduce step (stateAt step s stream start) (piece stream start stop) =
      (piece (outputAt step s stream) start stop, stateAt step s stream stop) := by
  obtain ⟨n, rfl⟩ := Nat.exists_eq_add_of_le h
  rw [piece, piece, Nat.add_sub_cancel_left]
  induction n generalizing start with
  | zero => rfl
  | succ n ih =>
      have hnext : (step (stateAt step s stream start) (stream start)).2 =
          stateAt step s stream (start + 1) := rfl
      rw [List.range'_succ, List.map_cons, transduce_cons, hnext,
        ih (Nat.le_add_right _ _), List.map_cons, Nat.add_right_comm]
      rfl

end

/-! ## Buffers -/

/-- The contents of some buffers. -/
abbrev Buffers (κ ω : Type*) := κ → ℕ → ω

namespace Buffers

variable (buffers : Buffers κ ω)

/-- The first elements of a buffer. -/
def read (buffer : κ) (n : ℕ) : List ω :=
  (List.range n).map (buffers buffer)

theorem read_succ (buffer : κ) (n : ℕ) :
    buffers.read buffer (n + 1) = buffers.read buffer n ++ [buffers buffer n] := by
  rw [read, List.range_succ, List.map_append]
  rfl

@[simp] theorem length_read (buffer : κ) (n : ℕ) :
    (buffers.read buffer n).length = n := by
  rw [read, List.length_map, List.length_range]

theorem read_congr {buffers buffers' : Buffers κ ω} {buffer : κ}
    (h : buffers buffer = buffers' buffer) (n : ℕ) :
    buffers.read buffer n = buffers'.read buffer n := by
  rw [read, read, h]

theorem take_read (buffer : κ) (n k : ℕ) :
    (buffers.read buffer n).take k = buffers.read buffer (min k n) := by
  rw [read, ← List.map_take, List.take_range]
  rfl

variable [DecidableEq κ]

/-- Store one element. -/
def store (buffer : κ) (i : ℕ) (x : ω) : Buffers κ ω :=
  Function.update buffers buffer (Function.update (buffers buffer) i x)

/-- Fill the front of a buffer. -/
def load (buffer : κ) (xs : List ω) : Buffers κ ω :=
  Function.update buffers buffer fun i => xs[i]?.getD (buffers buffer i)

theorem read_load (buffer : κ) (xs : List ω) :
    (buffers.load buffer xs).read buffer xs.length = xs := by
  apply List.ext_getElem (length_read ..)
  intro i hi hi'
  simp only [read, load, List.getElem_map, List.getElem_range, Function.update_self]
  rw [List.getElem?_eq_getElem hi', Option.getD_some]

theorem store_of_ne {buffer other : κ} (h : other ≠ buffer) (i : ℕ) (x : ω) :
    buffers.store buffer i x other = buffers other :=
  Function.update_of_ne h ..

theorem store_self (buffer : κ) (i : ℕ) (x : ω) :
    buffers.store buffer i x buffer = Function.update (buffers buffer) i x :=
  Function.update_self ..

/-- Storing behind the front does not change it. -/
theorem read_store (buffer : κ) (n : ℕ) (x : ω) :
    (buffers.store buffer n x).read buffer n = buffers.read buffer n := by
  apply List.map_congr_left
  intro i hi
  have hlt : i < n := List.mem_range.mp hi
  rw [store_self, Function.update_of_ne hlt.ne]

end Buffers

/-! ## Loops over buffers -/

section

variable [DecidableEq κ]

/-- A loop over `n` places: each turn fetches its input, and stores the result
at its place in the target. -/
def transduceLoop (step : σ → ι → ω × σ) (fetch : Buffers κ ω → ℕ → ι) (target : κ)
    (s : σ) (buffers : Buffers κ ω) : ℕ → σ × Buffers κ ω
  | 0 => (s, buffers)
  | n + 1 =>
      let before := transduceLoop step fetch target s buffers n
      let next := step before.1 (fetch before.2 n)
      (next.2, before.2.store target n next.1)

variable {step : σ → ι → ω × σ} {fetch : Buffers κ ω → ℕ → ι} {target : κ}

/-- Steps that agree on the states that are reached. -/
theorem transduceLoop_congr {step' : σ → ι → ω × σ} (Reached : σ → Prop)
    (hstep : ∀ s x, Reached s → step s x = step' s x ∧ Reached (step s x).2)
    {s : σ} (hs : Reached s) (buffers : Buffers κ ω) (n : ℕ) :
    transduceLoop step fetch target s buffers n =
        transduceLoop step' fetch target s buffers n ∧
      Reached (transduceLoop step fetch target s buffers n).1 := by
  induction n with
  | zero => exact ⟨rfl, hs⟩
  | succ n ih =>
      obtain ⟨hloop, hreached⟩ := ih
      obtain ⟨hnext, hreached'⟩ := hstep _
        (fetch (transduceLoop step fetch target s buffers n).2 n) hreached
      refine ⟨?_, hreached'⟩
      rw [transduceLoop, transduceLoop, hnext, hloop]

/-- The loop stores nothing behind its places. -/
theorem transduceLoop_of_le (s : σ) (buffers : Buffers κ ω) {n j : ℕ} (h : n ≤ j) :
    (transduceLoop step fetch target s buffers n).2 target j = buffers target j := by
  induction n with
  | zero => rfl
  | succ n ih =>
      have hne : j ≠ n := (Nat.lt_of_succ_le h).ne'
      rw [transduceLoop]
      dsimp only
      rw [Buffers.store_self, Function.update_of_ne hne]
      exact ih (Nat.le_of_succ_le h)

/-- What is fetched at a place does not depend on what was stored before it. -/
def FetchesAhead (fetch : Buffers κ ω → ℕ → ι) (target : κ) : Prop :=
  ∀ (buffers : Buffers κ ω) (i : ℕ) (x : ω) (j : ℕ), i < j →
    fetch (buffers.store target i x) j = fetch buffers j

/-- A loop from any buffer, the target itself included. -/
theorem fetchesAhead_buffer (source target : κ) :
    FetchesAhead (fun (buffers : Buffers κ ω) i => buffers source i) target := by
  intro buffers i x j hij
  dsimp only
  by_cases h : source = target
  · rw [h, Buffers.store_self, Function.update_of_ne hij.ne']
  · rw [Buffers.store_of_ne _ h]

/-- The loop does what the transducer does, and stores nowhere else. -/
theorem transduceLoop_spec (hfetch : FetchesAhead fetch target) (s : σ)
    (buffers : Buffers κ ω) (n : ℕ) :
    (transduceLoop step fetch target s buffers n).1 =
        (transduce step s ((List.range n).map (fetch buffers))).2 ∧
      (transduceLoop step fetch target s buffers n).2.read target n =
        (transduce step s ((List.range n).map (fetch buffers))).1 ∧
      (∀ j, n ≤ j →
        fetch (transduceLoop step fetch target s buffers n).2 j = fetch buffers j) ∧
      ∀ other, other ≠ target →
        (transduceLoop step fetch target s buffers n).2 other = buffers other := by
  induction n with
  | zero => exact ⟨rfl, rfl, fun _ _ => rfl, fun _ _ => rfl⟩
  | succ n ih =>
      obtain ⟨hstate, houtput, hahead, hother⟩ := ih
      have hnext := hahead n le_rfl
      rw [List.range_succ, List.map_append, transduce_append, ← hstate, ← houtput,
        List.map_singleton, transduce_cons, ← hnext]
      refine ⟨rfl, ?_, ?_, ?_⟩
      · rw [Buffers.read_succ, transduceLoop, Buffers.read_store]
        dsimp only
        rw [Buffers.store_self, Function.update_self]
        rfl
      · intro j hj
        rw [transduceLoop, hfetch _ _ _ _ hj]
        exact hahead j (Nat.le_of_succ_le hj)
      · intro other hne
        rw [transduceLoop]
        dsimp only
        rw [Buffers.store_of_ne _ hne]
        exact hother other hne

end

end Support
