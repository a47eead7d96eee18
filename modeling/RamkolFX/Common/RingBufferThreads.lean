import RamkolFX.Common.RingBufferQueue

/-!
# Two threads on a ring buffer

`Push` and `Pop` as sequences of atomic actions: the load of one index, the
copy of one element, the store of one index.  One thread pushes and one pops,
and their actions interleave in any order.

What the popping thread has taken, what lies in the queue and what the pushing
thread has still to write form one sequence; an action moves the borders in it
and, where a call returns, cuts off an end.
-/

namespace RamkolFX

namespace RingBuffer

variable {T : Type} {capacity : ℕ}

/-- A running `Push`, by its next action: the value to be written, the ones
behind it, and the write index once it is loaded. -/
inductive Pushing (T : Type) (capacity : ℕ)
  | loadWriteIndex (value : T) (rest : List T)
  | loadReadIndex (value : T) (rest : List T) (writeIdx : Fin (capacity + 1))
  | copy (value : T) (rest : List T) (writeIdx : Fin (capacity + 1))
  | store (value : T) (rest : List T) (writeIdx : Fin (capacity + 1))

/-- A running `Pop`, by its next action: the values taken so far, how many more
are wanted behind the next one, and the read index once it is loaded. -/
inductive Popping (T : Type) (capacity : ℕ)
  | loadReadIndex (data : List T) (more : ℕ)
  | loadWriteIndex (data : List T) (more : ℕ) (readIdx : Fin (capacity + 1))
  | copy (data : List T) (more : ℕ) (readIdx : Fin (capacity + 1))
  | store (data : List T) (more : ℕ) (readIdx : Fin (capacity + 1))

namespace Pushing

/-- The values that are not in the queue yet. -/
def unwritten : Pushing T capacity → List T
  | loadWriteIndex value rest | loadReadIndex value rest _ | copy value rest _
  | store value rest _ => value :: rest

/-- Into the loop, or past it when nothing is left. -/
def loop : List T → Option (Pushing T capacity)
  | [] => none
  | value :: rest => some (.loadWriteIndex value rest)

/-- One action: the call goes on, or returns and leaves values unwritten.  The
test for room is made on the read index as it is loaded. -/
def act (ring : RingBuffer T capacity) : Pushing T capacity →
    RingBuffer T capacity × Option (Pushing T capacity) × List T
  | .loadWriteIndex value rest =>
      (ring, some (.loadReadIndex value rest ring.writeIndex), [])
  | .loadReadIndex value rest writeIdx =>
      if writeIdx + 1 = ring.readIndex then (ring, none, value :: rest)
      else (ring, some (.copy value rest writeIdx), [])
  | .copy value rest writeIdx =>
      ({ ring with buffer := Function.update ring.buffer writeIdx value },
        some (.store value rest writeIdx), [])
  | .store _ rest writeIdx =>
      ({ ring with writeIndex := writeIdx + 1 }, loop rest, [])

end Pushing

namespace Popping

/-- The values that the call has copied. -/
def taken : Popping T capacity → List T
  | loadReadIndex data _ | loadWriteIndex data _ _ | copy data _ _
  | store data _ _ => data

/-- How many more values are to be copied. -/
def wanted : Popping T capacity → ℕ
  | loadReadIndex _ more | loadWriteIndex _ more _ | copy _ more _ => more + 1
  | store _ more _ => more

/-- Into the loop, or past it when no more values are wanted. -/
def loop (data : List T) : ℕ → Option (Popping T capacity)
  | 0 => none
  | more + 1 => some (.loadReadIndex data more)

/-- One action: the call goes on, or returns the values it has taken. -/
def act (ring : RingBuffer T capacity) : Popping T capacity →
    RingBuffer T capacity × Option (Popping T capacity) × List T
  | .loadReadIndex data more =>
      (ring, some (.loadWriteIndex data more ring.readIndex), [])
  | .loadWriteIndex data more readIdx =>
      if readIdx = ring.writeIndex then (ring, none, data)
      else (ring, some (.copy data more readIdx), [])
  | .copy data more readIdx =>
      (ring, some (.store (data ++ [ring.buffer readIdx]) more readIdx), [])
  | .store data more readIdx =>
      let ring := { ring with readIndex := readIdx + 1 }
      match loop data more with
      | none => (ring, none, data)
      | some popping => (ring, some popping, [])

end Popping

/-! ## Undisturbed, the actions are those of `push` and `pop` -/

/-- A call's actions until it returns, at most `fuel` of them. -/
def Pushing.run (ring : RingBuffer T capacity) (pushing : Pushing T capacity) :
    ℕ → RingBuffer T capacity × Option (Pushing T capacity) × List T
  | 0 => (ring, some pushing, [])
  | fuel + 1 =>
      match pushing.act ring with
      | (ring, none, unwritten) => (ring, none, unwritten)
      | (ring, some pushing, _) => run ring pushing fuel

def Popping.run (ring : RingBuffer T capacity) (popping : Popping T capacity) :
    ℕ → RingBuffer T capacity × Option (Popping T capacity) × List T
  | 0 => (ring, some popping, [])
  | fuel + 1 =>
      match popping.act ring with
      | (ring, none, data) => (ring, none, data)
      | (ring, some popping, _) => run ring popping fuel

/-- Four actions write an element where there is room for it. -/
theorem Pushing.run_round {ring : RingBuffer T capacity} (hroom : ¬ ring.IsFull)
    (value : T) (rest : List T) (fuel : ℕ) :
    (Pushing.loadWriteIndex value rest).run ring (fuel + 4) =
      match loop rest with
      | none => ((ring.writeSlot value).advanceWrite, none, [])
      | some pushing => pushing.run (ring.writeSlot value).advanceWrite fuel := by
  have hroom' : ¬ ring.writeIndex + 1 = ring.readIndex := hroom
  simp only [run, act, if_neg hroom']
  cases rest <;> rfl

/-- Four actions take an element where there is one. -/
theorem Popping.run_round {ring : RingBuffer T capacity} (hsome : ¬ ring.IsEmpty)
    (data : List T) (more fuel : ℕ) :
    (Popping.loadReadIndex data more).run ring (fuel + 4) =
      match loop (data ++ [ring.readSlot]) more with
      | none => (ring.advanceRead, none, data ++ [ring.readSlot])
      | some popping => popping.run ring.advanceRead fuel := by
  have hsome' : ¬ ring.readIndex = ring.writeIndex := hsome
  simp only [run, act, if_neg hsome']
  cases more <;> rfl

/-- Run to its end, the call leaves the ring that `push` leaves, and the
elements that `push` does not write. -/
theorem Pushing.run_eq_push (ring : RingBuffer T capacity) (value : T)
    (rest : List T) :
    (Pushing.loadWriteIndex value rest).run ring (4 * (rest.length + 1)) =
      ((ring.push (value :: rest)).2, none,
        (value :: rest).drop (ring.push (value :: rest)).1) := by
  induction rest generalizing ring value with
  | nil =>
      by_cases hfull : ring.IsFull
      · have hfull' : ring.writeIndex + 1 = ring.readIndex := hfull
        simp [run, act, push, hfull, hfull']
      · rw [List.length_nil, Nat.zero_add, Nat.mul_one, ← Nat.zero_add 4,
          run_round hfull]
        simp [loop, push, hfull]
  | cons next rest ih =>
      have hfuel : 4 * ((next :: rest).length + 1) =
          4 * (rest.length + 1) + 4 := by
        rw [List.length_cons, Nat.mul_add]
      rw [hfuel]
      by_cases hfull : ring.IsFull
      · have hfull' : ring.writeIndex + 1 = ring.readIndex := hfull
        simp [run, act, push, hfull, hfull']
      · rw [run_round hfull, push, if_neg hfull]
        simp only [loop, ih, List.drop_succ_cons]

/-- The call takes the values that `pop` returns. -/
theorem Popping.run_eq_pop (ring : RingBuffer T capacity) (data : List T)
    (more : ℕ) :
    (Popping.loadReadIndex data more).run ring (4 * (more + 1)) =
      ((ring.pop (more + 1)).2, none, data ++ (ring.pop (more + 1)).1) := by
  induction more generalizing ring data with
  | zero =>
      by_cases hempty : ring.IsEmpty
      · have hempty' : ring.readIndex = ring.writeIndex := hempty
        simp [run, act, pop, hempty, hempty']
      · rw [Nat.zero_add, Nat.mul_one, ← Nat.zero_add 4, run_round hempty]
        simp [loop, pop, hempty]
  | succ more ih =>
      rw [Nat.mul_succ]
      by_cases hempty : ring.IsEmpty
      · have hempty' : ring.readIndex = ring.writeIndex := hempty
        simp [run, act, pop, hempty, hempty']
      · rw [run_round hempty, pop, if_neg hempty]
        simp only [loop, ih, List.append_assoc, List.singleton_append]

/-! ## The values in flight -/

/-- The ring, and the calls of the two threads where they run. -/
structure Threads (T : Type) (capacity : ℕ) where
  ring : RingBuffer T capacity
  pushing : Option (Pushing T capacity) := none
  popping : Option (Popping T capacity) := none

namespace Threads

def unwritten (threads : Threads T capacity) : List T :=
  (threads.pushing.map Pushing.unwritten).getD []

def taken (threads : Threads T capacity) : List T :=
  (threads.popping.map Popping.taken).getD []

/-- What a running `Push` knows: the write index once it has loaded it, that a
slot is free once it has checked that, and the value in the slot once it has
copied it. -/
def PushKnows (ring : RingBuffer T capacity) (queue : List T) :
    Option (Pushing T capacity) → Prop
  | none | some (.loadWriteIndex _ _) => True
  | some (.loadReadIndex _ _ writeIdx) => writeIdx = ring.writeIndex
  | some (.copy _ _ writeIdx) =>
      writeIdx = ring.writeIndex ∧ queue.length < capacity
  | some (.store value _ writeIdx) =>
      writeIdx = ring.writeIndex ∧ queue.length < capacity ∧
        ring.buffer writeIdx = value

/-- What a running `Pop` knows: the read index once it has loaded it, and what
of the queue is not taken yet, all of it but for the front once that has been
copied. -/
def PopKnows (readIndex : Fin (capacity + 1)) (queue between : List T) :
    Option (Popping T capacity) → Prop
  | none | some (.loadReadIndex _ _) => queue = between
  | some (.loadWriteIndex _ _ readIdx) => readIdx = readIndex ∧ queue = between
  | some (.copy _ _ readIdx) =>
      readIdx = readIndex ∧ queue = between ∧ between ≠ []
  | some (.store _ _ readIdx) =>
      readIdx = readIndex ∧ ∃ value, queue = value :: between

/-- The values that are written and not taken. -/
def Flow (threads : Threads T capacity) (between : List T) : Prop :=
  ∃ queue, threads.ring.Holds queue ∧
    PushKnows threads.ring queue threads.pushing ∧
    PopKnows threads.ring.readIndex queue between threads.popping

variable {ring : RingBuffer T capacity} {queue between : List T}

/-- A value that is appended to the queue is one more that is not taken. -/
theorem popKnows_append {readIndex : Fin (capacity + 1)}
    {popping : Option (Popping T capacity)}
    (h : PopKnows readIndex queue between popping) (value : T) :
    PopKnows readIndex (queue ++ [value]) (between ++ [value]) popping := by
  match popping, h with
  | none, h | some (.loadReadIndex _ _), h => exact congrArg (· ++ [value]) h
  | some (.loadWriteIndex _ _ _), ⟨hread, hqueue⟩ =>
      exact ⟨hread, congrArg (· ++ [value]) hqueue⟩
  | some (.copy _ _ _), ⟨hread, hqueue, _⟩ =>
      exact ⟨hread, congrArg (· ++ [value]) hqueue, by simp⟩
  | some (.store _ _ _), ⟨hread, front, hqueue⟩ =>
      exact ⟨hread, front, congrArg (· ++ [value]) hqueue⟩

/-- Room that a running `Push` has found does not go away when a value is
taken. -/
theorem pushKnows_advanceRead {value : T} {pushing : Option (Pushing T capacity)}
    (h : PushKnows ring (value :: queue) pushing) :
    PushKnows ring.advanceRead queue pushing := by
  match pushing, h with
  | none, _ | some (.loadWriteIndex _ _), _ => trivial
  | some (.loadReadIndex _ _ _), hwrite => exact hwrite
  | some (.copy _ _ _), ⟨hwrite, hroom⟩ =>
      exact ⟨hwrite, (Nat.lt_succ_self _).trans hroom⟩
  | some (.store _ _ _), ⟨hwrite, hroom, hvalue⟩ =>
      exact ⟨hwrite, (Nat.lt_succ_self _).trans hroom, hvalue⟩

/-- An action of a `Push` moves the border between what is written and what
is not, and cuts off the values it leaves unwritten. -/
theorem Flow.push_act {pushing : Pushing T capacity}
    {popping : Option (Popping T capacity)}
    (h : Flow ⟨ring, some pushing, popping⟩ between) :
    ∃ ring' next left between', pushing.act ring = (ring', next, left) ∧
      Flow ⟨ring', next, popping⟩ between' ∧
      between' ++ unwritten ⟨ring', next, popping⟩ ++ left =
        between ++ pushing.unwritten := by
  obtain ⟨queue, hholds, hpush, hpop⟩ := h
  cases pushing with
  | loadWriteIndex value rest =>
      refine ⟨ring, some (.loadReadIndex value rest ring.writeIndex), [], between,
        rfl, ⟨queue, hholds, rfl, hpop⟩, ?_⟩
      simp [unwritten, Pushing.unwritten]
  | loadReadIndex value rest writeIdx =>
      obtain rfl : writeIdx = ring.writeIndex := hpush
      by_cases hfull : ring.IsFull
      · refine ⟨ring, none, value :: rest, between, if_pos hfull,
          ⟨queue, hholds, trivial, hpop⟩, ?_⟩
        simp [unwritten, Pushing.unwritten]
      · have hroom : queue.length < capacity :=
          lt_of_le_of_ne hholds.length_le (mt hholds.isFull_iff.mpr hfull)
        refine ⟨ring, some (.copy value rest ring.writeIndex), [], between,
          if_neg hfull, ⟨queue, hholds, ⟨rfl, hroom⟩, hpop⟩, ?_⟩
        simp [unwritten, Pushing.unwritten]
  | copy value rest writeIdx =>
      obtain ⟨hwrite, hroom⟩ := hpush
      obtain rfl : writeIdx = ring.writeIndex := hwrite
      have hcopied : (ring.writeSlot value).buffer ring.writeIndex = value := by
        simp [RingBuffer.writeSlot]
      refine ⟨ring.writeSlot value, some (.store value rest ring.writeIndex), [],
        between, rfl,
        ⟨queue, hholds.writeSlot hroom value, ⟨rfl, hroom, hcopied⟩, hpop⟩, ?_⟩
      simp [unwritten, Pushing.unwritten]
  | store value rest writeIdx =>
      obtain ⟨hwrite, hroom, hvalue⟩ := hpush
      obtain rfl : writeIdx = ring.writeIndex := hwrite
      refine ⟨ring.advanceWrite, Pushing.loop rest, [], between ++ [value], rfl,
        ⟨queue ++ [value], hholds.advanceWrite hroom hvalue, ?_,
          popKnows_append hpop value⟩, ?_⟩
      · cases rest <;> trivial
      · cases rest <;> simp [unwritten, Pushing.unwritten, Pushing.loop]

/-- An action of a `Pop` moves the border between what is taken and what is
not, and cuts off the values it returns. -/
theorem Flow.pop_act {pushing : Option (Pushing T capacity)}
    {popping : Popping T capacity}
    (h : Flow ⟨ring, pushing, some popping⟩ between) :
    ∃ ring' next data between', popping.act ring = (ring', next, data) ∧
      Flow ⟨ring', pushing, next⟩ between' ∧
      data ++ taken ⟨ring', pushing, next⟩ ++ between' =
        popping.taken ++ between := by
  obtain ⟨queue, hholds, hpush, hpop⟩ := h
  cases popping with
  | loadReadIndex data more =>
      refine ⟨ring, some (.loadWriteIndex data more ring.readIndex), [], between,
        rfl, ⟨queue, hholds, hpush, rfl, hpop⟩, ?_⟩
      simp [taken, Popping.taken]
  | loadWriteIndex data more readIdx =>
      obtain ⟨hread, rfl⟩ := hpop
      obtain rfl : readIdx = ring.readIndex := hread
      by_cases hempty : ring.IsEmpty
      · refine ⟨ring, none, data, queue, if_pos hempty,
          ⟨queue, hholds, hpush, rfl⟩, ?_⟩
        simp [taken, Popping.taken]
      · have hsome : queue ≠ [] := mt hholds.isEmpty_iff.mpr hempty
        refine ⟨ring, some (.copy data more ring.readIndex), [], queue,
          if_neg hempty, ⟨queue, hholds, hpush, rfl, rfl, hsome⟩, ?_⟩
        simp [taken, Popping.taken]
  | copy data more readIdx =>
      obtain ⟨hread, rfl, hsome⟩ := hpop
      obtain rfl : readIdx = ring.readIndex := hread
      obtain ⟨value, between', rfl⟩ := List.exists_cons_of_ne_nil hsome
      have hvalue : ring.buffer ring.readIndex = value := hholds.readSlot
      refine ⟨ring, some (.store (data ++ [value]) more ring.readIndex), [],
        between', ?_, ⟨_, hholds, hpush, rfl, value, rfl⟩, ?_⟩
      · rw [Popping.act, hvalue]
      · simp [taken, Popping.taken]
  | store data more readIdx =>
      obtain ⟨hread, value, rfl⟩ := hpop
      obtain rfl : readIdx = ring.readIndex := hread
      have hflow : ∀ next : Option (Popping T capacity),
          PopKnows ring.advanceRead.readIndex between between next →
          Flow ⟨ring.advanceRead, pushing, next⟩ between := by
        intro next hnext
        exact ⟨between, hholds.advanceRead, pushKnows_advanceRead hpush, hnext⟩
      cases more with
      | zero =>
          refine ⟨ring.advanceRead, none, data, between, rfl, hflow none rfl, ?_⟩
          simp [taken, Popping.taken]
      | succ more =>
          refine ⟨ring.advanceRead, some (.loadReadIndex data more), [], between,
            rfl, hflow _ rfl, ?_⟩
          simp [taken, Popping.taken]

end Threads

end RingBuffer

end RamkolFX
