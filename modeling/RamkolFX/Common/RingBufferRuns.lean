import RamkolFX.Common.RingBufferThreads

/-!
# Runs of two threads on a ring buffer

Whatever a scheduler makes of the atomic actions of `Push` and `Pop`, what has
been popped is the front of what has been pushed, and the rest lies in the
buffer.
-/

namespace RamkolFX

namespace RingBuffer

variable {T : Type} {capacity : ℕ}

/-- Read on its own, the number of elements between the two indices. -/
def availableToRead (ring : RingBuffer T capacity) : ℕ :=
  (ring.writeIndex.val + (capacity + 1) - ring.readIndex.val) % (capacity + 1)

/-- The element that the next action makes visible to the other thread. -/
def Pushing.publishes : Pushing T capacity → List T
  | .store value _ _ => [value]
  | _ => []

/-- The two threads, the elements pushed so far, and the ones that the `Pop`
calls so far have returned. -/
structure Session (T : Type) (capacity : ℕ) where
  threads : Threads T capacity
  pushed : List T := []
  returned : List T := []

namespace Session

/-- What the scheduler picks: a call is made, or the running call of one side
takes its next atomic action. -/
inductive Action (T : Type)
  | push (data : List T)
  | produce
  | pop (count : ℕ)
  | consume

/-- Each side makes one call at a time. -/
def step (session : Session T capacity) : Action T → Session T capacity
  | .push data =>
      match session.threads.pushing with
      | some _ => session
      | none => { session with threads.pushing := Pushing.loop data }
  | .produce =>
      match session.threads.pushing with
      | none => session
      | some pushing =>
          let (ring, next, _) := pushing.act session.threads.ring
          { session with
            threads := ⟨ring, next, session.threads.popping⟩
            pushed := session.pushed ++ pushing.publishes }
  | .pop count =>
      match session.threads.popping with
      | some _ => session
      | none => { session with threads.popping := Popping.loop [] count }
  | .consume =>
      match session.threads.popping with
      | none => session
      | some popping =>
          let (ring, next, data) := popping.act session.threads.ring
          { session with
            threads := ⟨ring, session.threads.pushing, next⟩
            returned := session.returned ++ data }

/-- A new buffer, whatever its slots hold. -/
def fresh (buffer : Fin (capacity + 1) → T) : Session T capacity where
  threads := { ring := { buffer } }

/-- The elements that have been copied out of the buffer. -/
def popped (session : Session T capacity) : List T :=
  session.returned ++ session.threads.taken

/-- Neither side is in a call. -/
def Idle (session : Session T capacity) : Prop :=
  session.threads.pushing = none ∧ session.threads.popping = none

/-- What has been pushed and not popped is what the threads have between
them. -/
def InOrder (session : Session T capacity) (between : List T) : Prop :=
  session.threads.Flow between ∧ session.popped ++ between = session.pushed

/-! ## One action -/

section

variable {session : Session T capacity} {between : List T}

theorem inOrder_fresh (buffer : Fin (capacity + 1) → T) :
    InOrder (fresh buffer) [] :=
  ⟨⟨[], holds_nil _ rfl, trivial, rfl⟩, rfl⟩

/-- An action of a `Push` publishes an element, leaves it to a later action, or
cuts it off. -/
theorem unwritten_act (ring : RingBuffer T capacity)
    (pushing : Pushing T capacity) :
    pushing.unwritten = pushing.publishes ++
      (((pushing.act ring).2.1.map Pushing.unwritten).getD [] ++
        (pushing.act ring).2.2) := by
  cases pushing with
  | loadWriteIndex value rest =>
      simp [Pushing.act, Pushing.publishes, Pushing.unwritten]
  | loadReadIndex value rest writeIdx =>
      rw [Pushing.act]
      split <;> simp [Pushing.publishes, Pushing.unwritten]
  | copy value rest writeIdx =>
      simp [Pushing.act, Pushing.publishes, Pushing.unwritten]
  | store value rest writeIdx =>
      cases rest <;> simp [Pushing.act, Pushing.publishes, Pushing.unwritten,
        Pushing.loop]

theorem InOrder.push (h : session.InOrder between) (data : List T) :
    (session.step (.push data)).InOrder between := by
  cases hpushing : session.threads.pushing with
  | some pushing =>
      rw [step, hpushing]
      exact h
  | none =>
      obtain ⟨⟨queue, hholds, -, hpop⟩, horder⟩ := h
      rw [step, hpushing]
      refine ⟨⟨queue, hholds, ?_, hpop⟩, horder⟩
      cases data <;> trivial

theorem InOrder.pop (h : session.InOrder between) (count : ℕ) :
    (session.step (.pop count)).InOrder between := by
  cases hpopping : session.threads.popping with
  | some popping =>
      rw [step, hpopping]
      exact h
  | none =>
      obtain ⟨⟨queue, hholds, hpush, hpop⟩, horder⟩ := h
      rw [hpopping] at hpop
      have htaken : session.threads.taken = [] := by
        rw [Threads.taken, hpopping]
        rfl
      rw [popped, htaken] at horder
      rw [step, hpopping]
      cases count with
      | zero => exact ⟨⟨queue, hholds, hpush, hpop⟩, horder⟩
      | succ count => exact ⟨⟨queue, hholds, hpush, hpop⟩, horder⟩

theorem InOrder.produce (h : session.InOrder between) :
    ∃ between', (session.step .produce).InOrder between' := by
  obtain ⟨⟨ring, running, popping⟩, pushed, returned⟩ := session
  cases running with
  | none => exact ⟨between, h⟩
  | some pushing =>
      obtain ⟨hflow, horder⟩ := h
      obtain ⟨ring', next, left, between', hact, hflow', hborder⟩ := hflow.push_act
      have hsplit := unwritten_act ring pushing
      rw [hact] at hsplit
      have hbetween : between' = between ++ pushing.publishes := by
        apply List.append_cancel_right
        rw [List.append_assoc, ← hsplit, ← hborder, List.append_assoc]
        rfl
      refine ⟨between', ?_⟩
      simp only [Session.step, hact]
      refine ⟨hflow', ?_⟩
      show _ ++ between' = pushed ++ pushing.publishes
      rw [hbetween, ← List.append_assoc]
      exact congrArg (· ++ pushing.publishes) horder

theorem InOrder.consume (h : session.InOrder between) :
    ∃ between', (session.step .consume).InOrder between' := by
  obtain ⟨⟨ring, pushing, running⟩, pushed, returned⟩ := session
  cases running with
  | none => exact ⟨between, h⟩
  | some popping =>
      obtain ⟨hflow, horder⟩ := h
      obtain ⟨ring', next, data, between', hact, hflow', hborder⟩ := hflow.pop_act
      refine ⟨between', ?_⟩
      simp only [Session.step, hact]
      refine ⟨hflow', ?_⟩
      calc returned ++ data ++ Threads.taken ⟨ring', pushing, next⟩ ++ between'
          = returned ++
              (data ++ Threads.taken ⟨ring', pushing, next⟩ ++ between') := by
            simp only [List.append_assoc]
        _ = returned ++ popping.taken ++ between := by
            rw [hborder, List.append_assoc]
        _ = pushed := horder

theorem InOrder.step (h : session.InOrder between) (action : Action T) :
    ∃ between', (session.step action).InOrder between' := by
  cases action with
  | push data => exact ⟨between, h.push data⟩
  | produce => exact h.produce
  | pop count => exact ⟨between, h.pop count⟩
  | consume => exact h.consume

theorem InOrder.run (h : session.InOrder between) (actions : List (Action T)) :
    ∃ between', (actions.foldl Session.step session).InOrder between' := by
  induction actions generalizing session between with
  | nil => exact ⟨between, h⟩
  | cons action actions ih =>
      obtain ⟨between', hnext⟩ := h.step action
      exact ih hnext

end

end Session

/-! ## The number of elements -/

section

variable {ring : RingBuffer T capacity} {queue queue' : List T}

theorem Holds.availableToRead (h : ring.Holds queue) :
    ring.availableToRead = queue.length := by
  have hwrite : ring.writeIndex.val =
      (ring.readIndex.val + queue.length) % (capacity + 1) := by
    rw [h.writeIndex, slot, Fin.val_add]
    simp [Fin.ofNat]
  have hread := ring.readIndex.isLt
  have hlength := h.length_le
  rw [RingBuffer.availableToRead, hwrite]
  by_cases hturn : ring.readIndex.val + queue.length < capacity + 1
  · have hdistance : ring.readIndex.val + queue.length + (capacity + 1) -
        ring.readIndex.val = queue.length + (capacity + 1) := by omega
    rw [Nat.mod_eq_of_lt hturn, hdistance, Nat.add_mod_right]
    exact Nat.mod_eq_of_lt (Nat.lt_succ_of_le hlength)
  · -- the write index has turned around once more
    have hturned : (ring.readIndex.val + queue.length) % (capacity + 1) =
        ring.readIndex.val + queue.length - (capacity + 1) := by
      rw [Nat.mod_eq_sub_mod (Nat.le_of_not_lt hturn)]
      exact Nat.mod_eq_of_lt (by omega)
    have hdistance : ring.readIndex.val + queue.length - (capacity + 1) +
        (capacity + 1) - ring.readIndex.val = queue.length := by omega
    rw [hturned, hdistance]
    exact Nat.mod_eq_of_lt (Nat.lt_succ_of_le hlength)

/-- The buffer holds one queue. -/
theorem Holds.unique (h : ring.Holds queue) (h' : ring.Holds queue') :
    queue = queue' := by
  have hlength : queue.length = queue'.length :=
    slot_injective h.length_le h'.length_le (h.writeIndex.symm.trans h'.writeIndex)
  apply List.ext_getElem hlength
  intro i hi hi'
  exact (h.values i hi).symm.trans (h'.values i hi')

end

namespace Session

section

variable {session : Session T capacity} {between : List T}

/-- Between calls, the elements in between are the ones in the buffer. -/
theorem InOrder.holds_of_idle (h : session.InOrder between) (hidle : session.Idle) :
    session.threads.ring.Holds between := by
  obtain ⟨queue, hholds, -, hpop⟩ := h.1
  rw [hidle.2] at hpop
  obtain rfl : queue = between := hpop
  exact hholds

/-- What has not been popped lies in the buffer, behind an element that is just
being popped. -/
theorem InOrder.stored (h : session.InOrder between) :
    ∃ stored, session.threads.ring.Holds stored ∧ between <:+ stored := by
  obtain ⟨⟨queue, hholds, -, hpop⟩, -⟩ := h
  refine ⟨queue, hholds, ?_⟩
  match session.threads.popping, hpop with
  | none, hqueue | some (.loadReadIndex _ _), hqueue => exact hqueue ▸ List.suffix_rfl
  | some (.loadWriteIndex _ _ _), ⟨_, hqueue⟩
  | some (.copy _ _ _), ⟨_, hqueue, _⟩ => exact hqueue ▸ List.suffix_rfl
  | some (.store _ _ _), ⟨_, value, hqueue⟩ =>
      exact hqueue ▸ List.suffix_cons value between

theorem InOrder.between_eq (h : session.InOrder between) :
    between = session.pushed.drop session.popped.length := by
  rw [← h.2, List.drop_left]

end

/-! ## Undisturbed calls -/

/-- The actions of a `Push` that is not disturbed. -/
def pushActions (data : List T) : List (Action T) :=
  .push data :: List.replicate (4 * data.length) .produce

/-- The actions of a `Pop` that is not disturbed. -/
def popActions (T : Type) (count : ℕ) : List (Action T) :=
  .pop count :: List.replicate (4 * count) .consume

theorem foldl_produce_of_none {session : Session T capacity}
    (h : session.threads.pushing = none) (count : ℕ) :
    (List.replicate count Action.produce).foldl step session = session := by
  have hstep : session.step .produce = session := by rw [step, h]
  induction count with
  | zero => rfl
  | succ count ih => rw [List.replicate_succ, List.foldl_cons, hstep, ih]

theorem foldl_consume_of_none {session : Session T capacity}
    (h : session.threads.popping = none) (count : ℕ) :
    (List.replicate count Action.consume).foldl step session = session := by
  have hstep : session.step .consume = session := by rw [step, h]
  induction count with
  | zero => rfl
  | succ count ih => rw [List.replicate_succ, List.foldl_cons, hstep, ih]

/-- Left alone, the pushing thread runs its call. -/
theorem threads_foldl_produce (ring : RingBuffer T capacity)
    (pushing : Pushing T capacity) (popping : Option (Popping T capacity))
    (pushed returned : List T) (fuel : ℕ) :
    ((List.replicate fuel Action.produce).foldl step
        ⟨⟨ring, some pushing, popping⟩, pushed, returned⟩).threads =
      ⟨(pushing.run ring fuel).1, (pushing.run ring fuel).2.1, popping⟩ ∧
    ((List.replicate fuel Action.produce).foldl step
        ⟨⟨ring, some pushing, popping⟩, pushed, returned⟩).returned = returned := by
  induction fuel generalizing ring pushing pushed with
  | zero => exact ⟨rfl, rfl⟩
  | succ fuel ih =>
      rw [List.replicate_succ, List.foldl_cons, Pushing.run, step]
      rcases hact : pushing.act ring with ⟨ring', next, left⟩
      simp only [hact]
      cases next with
      | none =>
          rw [foldl_produce_of_none rfl]
          exact ⟨rfl, rfl⟩
      | some next => exact ih ring' next _

/-- A `Pop` that goes on returns nothing yet. -/
theorem data_eq_nil_of_act {ring ring' : RingBuffer T capacity}
    {popping next : Popping T capacity} {data : List T}
    (h : popping.act ring = (ring', some next, data)) : data = [] := by
  cases popping with
  | loadReadIndex taken more =>
      obtain ⟨-, -, rfl⟩ := h
      rfl
  | loadWriteIndex taken more readIdx =>
      rw [Popping.act] at h
      split at h
      · cases h
      · obtain ⟨-, -, rfl⟩ := h
        rfl
  | copy taken more readIdx =>
      obtain ⟨-, -, rfl⟩ := h
      rfl
  | store taken more readIdx =>
      cases more with
      | zero => cases h
      | succ more =>
          obtain ⟨-, -, rfl⟩ := h
          rfl

/-- Left alone, the popping thread runs its call and returns what it took. -/
theorem foldl_consume (ring : RingBuffer T capacity)
    (pushing : Option (Pushing T capacity)) (popping : Popping T capacity)
    (pushed returned : List T) (fuel : ℕ) :
    (List.replicate fuel Action.consume).foldl step
        ⟨⟨ring, pushing, some popping⟩, pushed, returned⟩ =
      ⟨⟨(popping.run ring fuel).1, pushing, (popping.run ring fuel).2.1⟩, pushed,
        returned ++ (popping.run ring fuel).2.2⟩ := by
  induction fuel generalizing ring popping returned with
  | zero => simp [Popping.run]
  | succ fuel ih =>
      rw [List.replicate_succ, List.foldl_cons, Popping.run, step]
      rcases hact : popping.act ring with ⟨ring', next, data⟩
      simp only [hact]
      cases next with
      | none => exact foldl_consume_of_none rfl fuel
      | some next =>
          obtain rfl : data = [] := data_eq_nil_of_act hact
          rw [List.append_nil]
          exact ih ring' next returned

section

variable {session : Session T capacity} {between : List T}

/-- A `Push` that is not disturbed appends as many elements as there is room
for. -/
theorem InOrder.push_undisturbed (h : session.InOrder between)
    (hidle : session.Idle) (data : List T) :
    let session' := (pushActions data).foldl Session.step session
    session'.Idle ∧ session'.popped = session.popped ∧
      session'.pushed =
        session.pushed ++ data.take (capacity - between.length) := by
  intro session'
  have hholds := h.holds_of_idle hidle
  obtain ⟨⟨ring, pushing, popping⟩, pushed, returned⟩ := session
  obtain ⟨hpushing, hpopping⟩ := hidle
  obtain rfl : pushing = none := hpushing
  obtain rfl : popping = none := hpopping
  cases data with
  | nil =>
      refine ⟨⟨rfl, rfl⟩, rfl, ?_⟩
      simp [session', pushActions, Session.step, Pushing.loop]
  | cons value rest =>
      obtain ⟨hthreads, hreturned⟩ := threads_foldl_produce ring
        (.loadWriteIndex value rest) none pushed returned (4 * (rest.length + 1))
      rw [Pushing.run_eq_push] at hthreads
      have hthreads' : session'.threads =
          ⟨(ring.push (value :: rest)).2, none, none⟩ := hthreads
      have hidle' : session'.Idle := by
        rw [Idle, hthreads']
        exact ⟨rfl, rfl⟩
      have hpopped : session'.popped = returned := by
        have htaken : session'.threads.taken = [] := by
          rw [hthreads']
          rfl
        rw [popped, htaken, List.append_nil]
        exact hreturned
      obtain ⟨between', h'⟩ := h.run (pushActions (value :: rest))
      have hholds' := h'.holds_of_idle hidle'
      have hbetween : between' =
          between ++ (value :: rest).take (capacity - between.length) := by
        apply hholds'.unique
        rw [hthreads']
        exact (hholds.push (value :: rest)).2
      have horder : returned ++ between = pushed := by
        have hbefore := h.2
        rwa [popped, Threads.taken, Option.map_none, Option.getD_none,
          List.append_nil] at hbefore
      refine ⟨hidle', hpopped.trans (List.append_nil returned).symm, ?_⟩
      calc session'.pushed = session'.popped ++ between' := h'.2.symm
        _ = returned ++ between ++
              (value :: rest).take (capacity - between.length) := by
            rw [hpopped, hbetween, List.append_assoc]
        _ = pushed ++ (value :: rest).take (capacity - between.length) := by
            rw [horder]

/-- A `Pop` that is not disturbed takes as many elements as there are. -/
theorem InOrder.pop_undisturbed (h : session.InOrder between)
    (hidle : session.Idle) (count : ℕ) :
    let session' := (popActions T count).foldl Session.step session
    session'.Idle ∧ session'.pushed = session.pushed ∧
      session'.popped = session.popped ++ between.take count := by
  intro session'
  have hholds := h.holds_of_idle hidle
  obtain ⟨⟨ring, pushing, popping⟩, pushed, returned⟩ := session
  obtain ⟨hpushing, hpopping⟩ := hidle
  obtain rfl : pushing = none := hpushing
  obtain rfl : popping = none := hpopping
  cases count with
  | zero =>
      refine ⟨⟨rfl, rfl⟩, rfl, ?_⟩
      simp [session', popActions, Session.step, Popping.loop]
  | succ more =>
      have hrun := foldl_consume ring none (.loadReadIndex [] more) pushed
        returned (4 * (more + 1))
      rw [Popping.run_eq_pop, List.nil_append, (hholds.pop (more + 1)).1] at hrun
      have hrun' : session' = ⟨⟨(ring.pop (more + 1)).2, none, none⟩, pushed,
          returned ++ between.take (more + 1)⟩ := hrun
      rw [hrun']
      exact ⟨⟨rfl, rfl⟩, rfl, by simp [popped, Threads.taken]⟩

end

/-! ## Whole runs -/

/-- The buffer is a queue of bounded length: in order, without loss, and read
and written as far as it goes where nothing interferes. -/
structure Queues (session : Session T capacity) : Prop where
  inOrder : session.popped <+: session.pushed
  stored : ∃ stored, session.threads.ring.Holds stored ∧
    stored.length ≤ capacity ∧
    session.pushed.drop session.popped.length <:+ stored
  available : session.Idle →
    session.popped.length + session.threads.ring.availableToRead =
      session.pushed.length
  push : session.Idle → ∀ data : List T,
    let free := capacity - (session.pushed.length - session.popped.length)
    let session' := (pushActions data).foldl step session
    session'.Idle ∧ session'.popped = session.popped ∧
      session'.pushed = session.pushed ++ data.take (min data.length free)
  pop : session.Idle → ∀ count : ℕ,
    let stored := session.pushed.length - session.popped.length
    let session' := (popActions T count).foldl step session
    session'.Idle ∧ session'.pushed = session.pushed ∧
      session'.popped = session.popped ++
        (session.pushed.drop session.popped.length).take (min count stored)

theorem InOrder.queues {session : Session T capacity} {between : List T}
    (h : session.InOrder between) : session.Queues := by
  have hbetween := h.between_eq
  have hlength : between.length =
      session.pushed.length - session.popped.length := by
    rw [hbetween, List.length_drop]
  constructor
  case inOrder => exact ⟨between, h.2⟩
  case stored =>
    obtain ⟨stored, hholds, hsuffix⟩ := h.stored
    exact ⟨stored, hholds, hholds.length_le, hbetween ▸ hsuffix⟩
  case available =>
    intro hidle
    rw [(h.holds_of_idle hidle).availableToRead, ← h.2, List.length_append]
  case push =>
    intro hidle data free session'
    obtain ⟨hidle', hpopped, hpushed⟩ := h.push_undisturbed hidle data
    refine ⟨hidle', hpopped, hpushed.trans ?_⟩
    have htake : data.take (capacity - between.length) =
        data.take (min data.length free) := by
      rw [List.take_eq_take_iff, hlength]
      omega
    rw [htake]
  case pop =>
    intro hidle count stored session'
    obtain ⟨hidle', hpushed, hpopped⟩ := h.pop_undisturbed hidle count
    refine ⟨hidle', hpushed, hpopped.trans ?_⟩
    have htake : between.take count = between.take (min count stored) := by
      rw [List.take_eq_take_iff, hlength]
      omega
    rw [htake, ← hbetween]

/-- Whatever the order of the actions of one pushing and one popping thread, the
buffer is a queue. -/
theorem queues_run (buffer : Fin (capacity + 1) → T) (actions : List (Action T)) :
    Queues (actions.foldl step (fresh buffer)) := by
  obtain ⟨between, h⟩ := (inOrder_fresh buffer).run actions
  exact h.queues

end Session

end RingBuffer

end RamkolFX
