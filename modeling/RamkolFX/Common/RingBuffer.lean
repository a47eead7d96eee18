import Mathlib.Algebra.GroupWithZero.Nat
import Mathlib.Data.Fin.Basic
import Mathlib.Logic.Function.Basic

/-!
# Ring buffer

A single-producer, single-consumer queue over `capacity + 1` slots, one of
which stays free so that a full buffer differs from an empty one.  `push` and
`pop` are given here as they run undisturbed.
-/

namespace RamkolFX

namespace RingBuffer

/-- There is a slot. -/
scoped instance (priority := high) neZero_slots (capacity : ℕ) :
    NeZero (capacity + 1) :=
  ⟨Nat.succ_ne_zero capacity⟩

end RingBuffer

open scoped RingBuffer

structure RingBuffer (T : Type) (capacity : ℕ) where
  buffer : Fin (capacity + 1) → T
  writeIndex : Fin (capacity + 1) := 0
  readIndex : Fin (capacity + 1) := 0

namespace RingBuffer

variable {T : Type} {capacity : ℕ}

/-- No slot is free: the next write index, modulo the size, is the read
index. -/
def IsFull (ring : RingBuffer T capacity) : Prop :=
  ring.writeIndex + 1 = ring.readIndex

instance (ring : RingBuffer T capacity) : Decidable ring.IsFull :=
  inferInstanceAs (Decidable (_ = _))

def IsEmpty (ring : RingBuffer T capacity) : Prop :=
  ring.readIndex = ring.writeIndex

instance (ring : RingBuffer T capacity) : Decidable ring.IsEmpty :=
  inferInstanceAs (Decidable (_ = _))

/-- Copy an element into the slot to be written. -/
def writeSlot (ring : RingBuffer T capacity) (value : T) : RingBuffer T capacity :=
  { ring with buffer := Function.update ring.buffer ring.writeIndex value }

/-- Store the next write index. -/
def advanceWrite (ring : RingBuffer T capacity) : RingBuffer T capacity :=
  { ring with writeIndex := ring.writeIndex + 1 }

/-- The element in the slot to be read. -/
def readSlot (ring : RingBuffer T capacity) : T := ring.buffer ring.readIndex

/-- Store the next read index. -/
def advanceRead (ring : RingBuffer T capacity) : RingBuffer T capacity :=
  { ring with readIndex := ring.readIndex + 1 }

/-- Push up to all the elements; also how many were written. -/
def push (ring : RingBuffer T capacity) : List T → ℕ × RingBuffer T capacity
  | [] => (0, ring)
  | value :: data =>
      if ring.IsFull then (0, ring)
      else
        let (written, ring) := push (ring.writeSlot value).advanceWrite data
        (written + 1, ring)

/-- Pop up to `count` elements. -/
def pop (ring : RingBuffer T capacity) : ℕ → List T × RingBuffer T capacity
  | 0 => ([], ring)
  | count + 1 =>
      if ring.IsEmpty then ([], ring)
      else
        let (data, ring') := pop ring.advanceRead count
        (ring.readSlot :: data, ring')

end RingBuffer

end RamkolFX
