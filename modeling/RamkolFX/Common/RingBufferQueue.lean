import RamkolFX.Common.RingBuffer
import Mathlib.Algebra.Group.Fin.Basic

/-!
# A ring buffer as a bounded queue

Between the two indices the buffer holds a queue of at most `capacity` values,
front first.  The actions of `push` and `pop` append to it and take from it.
-/

namespace RamkolFX

namespace RingBuffer

variable {T : Type} {capacity : ℕ}

/-- The `i`-th slot from the one to be read. -/
def slot (ring : RingBuffer T capacity) (i : ℕ) : Fin (capacity + 1) :=
  ring.readIndex + Fin.ofNat (capacity + 1) i

/-- The buffer holds the values of the queue, front first. -/
structure Holds (ring : RingBuffer T capacity) (queue : List T) : Prop where
  length_le : queue.length ≤ capacity
  writeIndex : ring.writeIndex = ring.slot queue.length
  values : ∀ i (h : i < queue.length), ring.buffer (ring.slot i) = queue[i]

variable {ring : RingBuffer T capacity} {queue : List T} {value : T}

theorem ofNat_succ (i : ℕ) :
    Fin.ofNat (capacity + 1) (i + 1) = Fin.ofNat (capacity + 1) i + 1 := by
  apply Fin.ext
  simp [Fin.ofNat, Fin.val_add]

@[simp] theorem slot_zero (ring : RingBuffer T capacity) :
    ring.slot 0 = ring.readIndex := by
  simp [slot]

theorem slot_succ (ring : RingBuffer T capacity) (i : ℕ) :
    ring.slot (i + 1) = ring.slot i + 1 := by
  rw [slot, slot, ofNat_succ, add_assoc]

theorem slot_injective {i j : ℕ} (hi : i ≤ capacity) (hj : j ≤ capacity)
    (h : ring.slot i = ring.slot j) : i = j := by
  have hval := congrArg Fin.val (add_left_cancel h)
  simpa [Fin.ofNat, Nat.mod_eq_of_lt (Nat.lt_succ_of_le hi),
    Nat.mod_eq_of_lt (Nat.lt_succ_of_le hj)] using hval

/-- A full turn leads back. -/
theorem slot_full (ring : RingBuffer T capacity) :
    ring.slot (capacity + 1) = ring.readIndex := by
  have hturn : Fin.ofNat (capacity + 1) (capacity + 1) = 0 := by
    apply Fin.ext
    simp [Fin.ofNat]
  rw [slot, hturn, add_zero]

theorem holds_nil (ring : RingBuffer T capacity)
    (h : ring.writeIndex = ring.readIndex) : ring.Holds [] :=
  ⟨Nat.zero_le _, by simpa using h, fun i hi => absurd hi (Nat.not_lt_zero i)⟩

theorem Holds.isFull_iff (h : ring.Holds queue) :
    ring.IsFull ↔ queue.length = capacity := by
  rw [IsFull, h.writeIndex, ← slot_succ]
  constructor
  · intro hfull
    by_contra hne
    have hlt : queue.length + 1 ≤ capacity := lt_of_le_of_ne h.length_le hne
    have hzero := slot_injective hlt (Nat.zero_le _)
      (hfull.trans ring.slot_zero.symm)
    exact absurd hzero (Nat.succ_ne_zero _)
  · intro hlength
    rw [hlength, slot_full]

theorem Holds.isEmpty_iff (h : ring.Holds queue) :
    ring.IsEmpty ↔ queue = [] := by
  rw [IsEmpty, h.writeIndex]
  constructor
  · intro hempty
    exact List.length_eq_zero_iff.mp (slot_injective h.length_le (Nat.zero_le _)
      (hempty.symm.trans ring.slot_zero.symm))
  · rintro rfl
    exact ring.slot_zero.symm

/-- The slot to be written is not one that the queue lies in. -/
theorem Holds.writeSlot (h : ring.Holds queue) (hroom : queue.length < capacity)
    (value : T) : (ring.writeSlot value).Holds queue := by
  refine ⟨h.length_le, h.writeIndex, fun i hi => ?_⟩
  have hne : ring.slot i ≠ ring.writeIndex := by
    intro heq
    rw [h.writeIndex] at heq
    exact absurd (slot_injective (hi.le.trans hroom.le) h.length_le heq) hi.ne
  exact (Function.update_of_ne hne value ring.buffer).trans (h.values i hi)

/-- The value in the slot to be written joins the queue. -/
theorem Holds.advanceWrite (h : ring.Holds queue) (hroom : queue.length < capacity)
    (hvalue : ring.buffer ring.writeIndex = value) :
    ring.advanceWrite.Holds (queue ++ [value]) := by
  refine ⟨?_, ?_, fun i hi => ?_⟩
  · rw [List.length_append, List.length_singleton]
    exact hroom
  · show ring.writeIndex + 1 = ring.slot (queue ++ [value]).length
    rw [List.length_append, List.length_singleton, slot_succ, h.writeIndex]
  · show ring.buffer (ring.slot i) = (queue ++ [value])[i]
    by_cases hold : i < queue.length
    · rw [List.getElem_append_left hold]
      exact h.values i hold
    · have hlast : i = queue.length := by
        rw [List.length_append, List.length_singleton] at hi
        omega
      subst hlast
      rw [← h.writeIndex, hvalue]
      simp

theorem Holds.readSlot (h : ring.Holds (value :: queue)) :
    ring.readSlot = value := by
  have hfront := h.values 0 (by simp)
  rwa [slot_zero] at hfront

/-- The front leaves the queue. -/
theorem Holds.advanceRead (h : ring.Holds (value :: queue)) :
    ring.advanceRead.Holds queue := by
  have hslot : ∀ i, ring.advanceRead.slot i = ring.slot (i + 1) := by
    intro i
    rw [slot_succ, slot, slot, RingBuffer.advanceRead, add_right_comm]
  refine ⟨(Nat.le_succ _).trans h.length_le, ?_, fun i hi => ?_⟩
  · rw [hslot]
    exact h.writeIndex
  · rw [hslot]
    exact h.values (i + 1) (Nat.succ_lt_succ hi)

/-! ## Whole calls -/

/-- `push` appends as many values as there is room for. -/
theorem Holds.push {ring : RingBuffer T capacity} {queue : List T}
    (h : ring.Holds queue) (data : List T) :
    (ring.push data).1 = min data.length (capacity - queue.length) ∧
      (ring.push data).2.Holds
        (queue ++ data.take (capacity - queue.length)) := by
  induction data generalizing ring queue with
  | nil => exact ⟨by simp [RingBuffer.push], by simpa [RingBuffer.push] using h⟩
  | cons value data ih =>
      by_cases hfull : ring.IsFull
      · have hlength := h.isFull_iff.mp hfull
        rw [RingBuffer.push, if_pos hfull, hlength, Nat.sub_self]
        exact ⟨by simp, by simpa using h⟩
      · have hroom : queue.length < capacity :=
          lt_of_le_of_ne h.length_le (mt h.isFull_iff.mpr hfull)
        have hnext : (ring.writeSlot value).advanceWrite.Holds
            (queue ++ [value]) :=
          (h.writeSlot hroom value).advanceWrite hroom
            (by simp [RingBuffer.writeSlot])
        have hleft : capacity - queue.length =
            capacity - (queue ++ [value]).length + 1 := by
          rw [List.length_append, List.length_singleton]
          omega
        obtain ⟨hcount, hholds⟩ := ih hnext
        rw [RingBuffer.push, if_neg hfull, hleft, List.take_succ_cons]
        refine ⟨?_, ?_⟩
        · simp only [hcount, List.length_cons]
          exact (Nat.add_min_add_right _ _ 1).symm
        · simpa using hholds

/-- `pop` takes values from the front. -/
theorem Holds.pop {ring : RingBuffer T capacity} {queue : List T}
    (h : ring.Holds queue) (count : ℕ) :
    (ring.pop count).1 = queue.take count ∧
      (ring.pop count).2.Holds (queue.drop count) := by
  induction count generalizing ring queue with
  | zero => exact ⟨by simp [RingBuffer.pop], by simpa [RingBuffer.pop] using h⟩
  | succ count ih =>
      cases queue with
      | nil =>
          have hempty : ring.IsEmpty := h.isEmpty_iff.mpr rfl
          rw [RingBuffer.pop, if_pos hempty]
          exact ⟨rfl, h⟩
      | cons value queue =>
          have hsome : ¬ ring.IsEmpty := mt h.isEmpty_iff.mp (by simp)
          obtain ⟨hdata, hholds⟩ := ih h.advanceRead
          rw [RingBuffer.pop, if_neg hsome, List.take_succ_cons,
            List.drop_succ_cons]
          exact ⟨by simp only [hdata, h.readSlot], hholds⟩

end RingBuffer

end RamkolFX
