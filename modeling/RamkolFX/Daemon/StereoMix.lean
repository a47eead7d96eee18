import RamkolFX.Common.RingBufferThreads
import RamkolFX.Daemon.AudioEngine
import RamkolFX.Support.Runs
import Mathlib.Algebra.Order.Ring.Int

/-!
# The stereo mix buffer

The audio callbacks of the capture and the playback side meet in a ring buffer
of samples.  Both count in frames, and one after the other they move whole
frames; but a `Push` that finds the buffer full and a `Pop` that finds it empty
stop at a sample, and in between them the other side may have moved one.

For runs of both, the samples are told apart by the frame they were pushed with
and their side.
-/

namespace RamkolFX

open Support RingBuffer

/-- A sample, as the side of a numbered frame. -/
structure Sample where
  frame : ℕ
  side : Fin 2
  deriving DecidableEq

/-- The two threads on the buffer, how many frames have been rendered, the
frames handed to the hardware stream, and the samples that neither entered the
buffer nor were handed on. -/
structure StereoMix (capacity : ℕ) where
  threads : Threads Sample capacity
  pushed : ℕ := 0
  delivered : List (StereoFrame Sample) := []
  discarded : List Sample := []

namespace StereoMix

open AudioEngine (interleave)

variable {capacity : ℕ}

/-- The frame with a number. -/
def numbered (frame : ℕ) : StereoFrame Sample := fun side => ⟨frame, side⟩

/-- The frames that a hardware buffer of interleaved samples holds. -/
def wholeFrames {T : Type} : List T → List (StereoFrame T)
  | left :: right :: samples => ![left, right] :: wholeFrames samples
  | _ => []

/-- The sample behind the last whole frame. -/
def unpaired {T : Type} : List T → List T
  | _ :: _ :: samples => unpaired samples
  | samples => samples

/-- What the scheduler picks: a callback is entered, or the running call of
one side takes its next atomic action. -/
inductive Action
  | push (frames : ℕ)
  | produce
  | request (frames : ℕ)
  | consume

/-- A callback is not entered again while it runs. -/
def step (mix : StereoMix capacity) : Action → StereoMix capacity
  | .push frames =>
      match mix.threads.pushing with
      | some _ => mix
      | none =>
          { mix with
            threads.pushing := Pushing.loop
              (interleave ((List.range' mix.pushed frames).map numbered))
            pushed := mix.pushed + frames }
  | .produce =>
      match mix.threads.pushing with
      | none => mix
      | some pushing =>
          let (ring, next, unwritten) := pushing.act mix.threads.ring
          { mix with
            threads := ⟨ring, next, mix.threads.popping⟩
            discarded := mix.discarded ++ unwritten }
  | .request frames =>
      match mix.threads.popping with
      | some _ => mix
      | none => { mix with threads.popping := Popping.loop [] (frames * 2) }
  | .consume =>
      match mix.threads.popping with
      | none => mix
      | some popping =>
          let (ring, next, data) := popping.act mix.threads.ring
          { mix with
            threads := ⟨ring, mix.threads.pushing, next⟩
            delivered := mix.delivered ++ wholeFrames data
            discarded := mix.discarded ++ unpaired data }

/-- A buffer that nothing was pushed to yet. -/
def fresh (buffer : Fin (capacity + 1) → Sample) : StereoMix capacity where
  threads := { ring := { buffer } }

/-- The samples are those of rendered frames, left before right. -/
def Whole (pushed : ℕ) (samples : List Sample) : Prop :=
  ∃ frames : List ℕ, (∀ frame ∈ frames, frame < pushed) ∧
    samples = interleave (frames.map numbered)

/-- Both samples of a frame that is handed on belong to one rendered frame, and
no sample is discarded without the other one of its frame. -/
structure Paired (mix : StereoMix capacity) : Prop where
  delivered : ∀ frame ∈ mix.delivered, ∃ n < mix.pushed, frame = numbered n
  discarded : Whole mix.pushed mix.discarded

/-- A `Push` that tests for room for a right sample finds it, and a `Pop` that
has copied a left sample finds the right one where it tests for it. -/
def FindsRight (mix : StereoMix capacity) : Action → Prop
  | .produce => ∀ right rest writeIdx,
      mix.threads.pushing = some (.loadReadIndex right rest writeIdx) →
      Even rest.length → ¬ mix.threads.ring.IsFull
  | .consume => ∀ data more readIdx,
      mix.threads.popping = some (.loadWriteIndex data more readIdx) →
      Odd data.length → ¬ mix.threads.ring.IsEmpty
  | _ => True

/-! ## Whole frames -/

section

variable {pushed pushed' : ℕ} {samples samples' front back : List Sample}

theorem whole_nil : Whole pushed [] := ⟨[], by simp, rfl⟩

theorem Whole.mono (h : Whole pushed samples) (hle : pushed ≤ pushed') :
    Whole pushed' samples := by
  obtain ⟨frames, hframes, rfl⟩ := h
  exact ⟨frames, fun frame hframe => (hframes frame hframe).trans_le hle, rfl⟩

theorem Whole.append (h : Whole pushed samples) (h' : Whole pushed samples') :
    Whole pushed (samples ++ samples') := by
  obtain ⟨frames, hframes, rfl⟩ := h
  obtain ⟨frames', hframes', rfl⟩ := h'
  refine ⟨frames ++ frames', ?_, by simp [interleave]⟩
  intro frame hframe
  rcases List.mem_append.mp hframe with hfront | hback
  · exact hframes frame hfront
  · exact hframes' frame hback

theorem length_interleave {T : Type} (frames : List (StereoFrame T)) :
    (interleave frames).length = 2 * frames.length := by
  simp [interleave, Nat.mul_comm]

theorem Whole.even_length (h : Whole pushed samples) : Even samples.length := by
  obtain ⟨frames, -, rfl⟩ := h
  rw [length_interleave]
  exact even_two_mul _

/-- Cut at an even place, whole frames are whole frames on both sides. -/
theorem Whole.of_append (h : Whole pushed (front ++ back))
    (heven : Even front.length) : Whole pushed front ∧ Whole pushed back := by
  obtain ⟨frames, hlt, hframes⟩ := h
  induction frames generalizing front with
  | nil =>
      obtain ⟨rfl, rfl⟩ := List.append_eq_nil_iff.mp hframes
      exact ⟨whole_nil, whole_nil⟩
  | cons frame frames ih =>
      obtain ⟨hfirst, hothers⟩ := List.forall_mem_cons.mp hlt
      match front, heven with
      | [], _ => exact ⟨whole_nil, frame :: frames, hlt, hframes⟩
      | [left], hodd => exact absurd hodd (by simp)
      | left :: right :: front, heven =>
          have hsplit : left = ⟨frame, 0⟩ ∧ right = ⟨frame, 1⟩ ∧
              front ++ back = interleave (frames.map numbered) := by
            simpa [interleave, numbered] using hframes
          obtain ⟨rfl, rfl, hrest⟩ := hsplit
          have hrestEven : Even front.length := by
            simpa [Nat.even_add_one] using heven
          obtain ⟨⟨framesFront, hfront, rfl⟩, hback⟩ := ih hrestEven hothers hrest
          refine ⟨⟨frame :: framesFront, ?_, by simp [interleave, numbered]⟩, hback⟩
          exact List.forall_mem_cons.mpr ⟨hfirst, hfront⟩

/-- An even number of samples at the end is cut off whole. -/
theorem Whole.of_append_right (h : Whole pushed (front ++ back))
    (heven : Even back.length) : Whole pushed front ∧ Whole pushed back := by
  apply h.of_append
  have hsum := h.even_length
  rw [List.length_append] at hsum
  exact (Nat.even_add.mp hsum).mpr heven

theorem Whole.even_length_right (h : Whole pushed front)
    (h' : Whole pushed (front ++ back)) : Even back.length := by
  have hsum := h'.even_length
  rw [List.length_append] at hsum
  exact (Nat.even_add.mp hsum).mp h.even_length

/-- Of whole frames, the hardware is handed just these. -/
theorem Whole.delivered (h : Whole pushed samples) :
    (∀ frame ∈ wholeFrames samples, ∃ n < pushed, frame = numbered n) ∧
      unpaired samples = [] := by
  obtain ⟨frames, hlt, rfl⟩ := h
  induction frames with
  | nil => exact ⟨by simp [interleave, wholeFrames], rfl⟩
  | cons frame frames ih =>
      obtain ⟨hfirst, hothers⟩ := List.forall_mem_cons.mp hlt
      refine ⟨?_, (ih hothers).2⟩
      intro other hother
      rcases List.mem_cons.mp hother with rfl | hrest
      · refine ⟨frame, hfirst, ?_⟩
        funext side
        fin_cases side <;> rfl
      · exact (ih hothers).1 other hrest

end

theorem length_unpaired {T : Type} (samples : List T) :
    (unpaired samples).length = samples.length % 2 := by
  induction samples using unpaired.induct with
  | case1 left right samples ih =>
      rw [unpaired, ih]
      exact (Nat.add_mod_right samples.length 2).symm
  | case2 samples h =>
      match samples, h with
      | [], _ | [_], _ => rfl
      | left :: right :: rest, h => exact absurd rfl (h left right rest)

theorem length_wholeFrames {T : Type} (samples : List T) :
    (wholeFrames samples).length = samples.length / 2 := by
  induction samples using wholeFrames.induct with
  | case1 left right samples ih =>
      rw [wholeFrames, List.length_cons, ih]
      exact (Nat.add_div_right samples.length Nat.two_pos).symm
  | case2 samples h =>
      match samples, h with
      | [], _ | [_], _ => simp [wholeFrames]
      | left :: right :: rest, h => exact absurd rfl (h left right rest)

theorem handleHardwareOutputRequest_frames {α : Type} (engine : AudioEngine α)
    (frames : ℕ) :
    (engine.handleHardwareOutputRequest frames).2.1 =
      (wholeFrames (engine.handleHardwareOutputRequest frames).1).length :=
  (length_wholeFrames _).symm

/-! ## One callback at a time -/

section

variable {T : Type} {frameCapacity : ℕ} {frames : List (StereoFrame T)}

theorem take_interleave (frames : List (StereoFrame T)) (count : ℕ) :
    (interleave frames).take (count * 2) = interleave (frames.take count) := by
  induction frames generalizing count with
  | nil => simp [interleave]
  | cons frame frames ih =>
      cases count with
      | zero => simp [interleave]
      | succ count =>
          rw [Nat.succ_mul]
          simpa [interleave] using ih count

theorem drop_interleave (frames : List (StereoFrame T)) (count : ℕ) :
    (interleave frames).drop (count * 2) = interleave (frames.drop count) := by
  induction frames generalizing count with
  | nil => simp [interleave]
  | cons frame frames ih =>
      cases count with
      | zero => simp [interleave]
      | succ count =>
          rw [Nat.succ_mul]
          simpa [interleave] using ih count

/-- A buffer for whole frames that holds whole frames is filled up with whole
frames. -/
theorem push_frames {ring : RingBuffer T (frameCapacity * 2)}
    (h : ring.Holds (interleave frames)) (output : List (StereoFrame T)) :
    (ring.push (interleave output)).2.Holds
      (interleave (frames ++ output.take (frameCapacity - frames.length))) := by
  have hroom : frameCapacity * 2 - (interleave frames).length =
      (frameCapacity - frames.length) * 2 := by
    rw [length_interleave, Nat.mul_comm 2, Nat.sub_mul]
  have hpush := (h.push (interleave output)).2
  rw [hroom, take_interleave] at hpush
  simpa [interleave] using hpush

theorem pop_frames {ring : RingBuffer T (frameCapacity * 2)}
    (h : ring.Holds (interleave frames)) (count : ℕ) :
    (ring.pop (count * 2)).1 = interleave (frames.take count) ∧
      (ring.pop (count * 2)).2.Holds (interleave (frames.drop count)) := by
  rw [← take_interleave, ← drop_interleave]
  exact h.pop (count * 2)

end

section

variable {α : Type} {engine : AudioEngine α} {frames : List (StereoFrame α)}

/-- A request that nothing disturbs hands on whole frames, the oldest first. -/
theorem handleHardwareOutputRequest_whole
    (h : engine.stereoMixBuffer.Holds (interleave frames)) (count : ℕ) :
    (engine.handleHardwareOutputRequest count).1 =
        interleave (frames.take count) ∧
      (engine.handleHardwareOutputRequest count).2.1 =
        (frames.take count).length ∧
      (engine.handleHardwareOutputRequest count).2.2.stereoMixBuffer.Holds
        (interleave (frames.drop count)) := by
  obtain ⟨hdata, hholds⟩ := pop_frames h count
  refine ⟨hdata, ?_, hholds⟩
  show (engine.stereoMixBuffer.pop (count * 2)).1.length / 2 = _
  rw [hdata, length_interleave, Nat.mul_div_cancel_left _ Nat.two_pos]

/-- A block that nothing disturbs appends whole frames. -/
theorem handleVirtualSinkAudio_whole [FloatArith α] {libs : DspLibraries α}
    {block : List (SevenOneFrame α)} {engine' : AudioEngine α}
    (h : engine.stereoMixBuffer.Holds (interleave frames))
    (hblock : engine.handleVirtualSinkAudio libs block = some engine') :
    ∃ output : List (StereoFrame α), engine'.stereoMixBuffer.Holds
      (interleave (frames ++ output.take (48000 - frames.length))) := by
  obtain ⟨rendered, -, hblock⟩ := Option.bind_eq_some_iff.mp hblock
  obtain ⟨filtered, -, hblock⟩ := Option.bind_eq_some_iff.mp hblock
  obtain ⟨output, -, hblock⟩ := Option.bind_eq_some_iff.mp hblock
  obtain rfl := Option.some.inj hblock
  exact ⟨output.1, push_frames h output.1⟩

end

/-! ## The frames in flight -/

/-- What has been taken, what lies in the buffer and what is still to be
written are whole frames, and the running `Pop` wants whole frames. -/
structure Aligned (mix : StereoMix capacity) : Prop where
  flow : ∃ between, mix.threads.Flow between ∧
    Whole mix.pushed (mix.threads.taken ++ between ++ mix.threads.unwritten)
  wanted : ∀ popping, mix.threads.popping = some popping →
    Even (popping.taken.length + popping.wanted)
  paired : mix.Paired

theorem aligned_fresh (buffer : Fin (capacity + 1) → Sample) :
    (fresh buffer).Aligned := by
  refine ⟨⟨[], ⟨[], holds_nil _ rfl, trivial, rfl⟩, whole_nil⟩, ?_, ?_⟩
  · rintro popping ⟨⟩
  · exact ⟨by simp [fresh], whole_nil⟩

theorem unwritten_loop {T : Type} (data : List T) :
    ((Pushing.loop data : Option (Pushing T capacity)).map
      Pushing.unwritten).getD [] = data := by
  cases data <;> rfl

theorem taken_loop {T : Type} (data : List T) (more : ℕ)
    (popping : Popping T capacity)
    (h : Popping.loop data more = some popping) :
    popping.taken = data ∧ popping.wanted = more := by
  cases more with
  | zero => exact absurd h nofun
  | succ more =>
      obtain rfl := Option.some.inj h
      exact ⟨rfl, rfl⟩

/-- A call that goes on wants as many values in all as before. -/
theorem wanted_act {T : Type} {ring : RingBuffer T capacity}
    {popping next : Popping T capacity}
    (h : (popping.act ring).2.1 = some next) :
    next.taken.length + next.wanted = popping.taken.length + popping.wanted := by
  cases popping with
  | loadReadIndex data more =>
      obtain rfl := Option.some.inj h
      rfl
  | loadWriteIndex data more readIdx =>
      by_cases hempty : readIdx = ring.writeIndex
      · simp [Popping.act, hempty] at h
      · obtain rfl : Popping.copy data more readIdx = next := by
          simpa [Popping.act, hempty] using h
        rfl
  | copy data more readIdx =>
      obtain rfl := Option.some.inj h
      simp [Popping.taken, Popping.wanted, Nat.add_assoc, Nat.add_comm 1]
  | store data more readIdx =>
      cases more with
      | zero => simp [Popping.act, Popping.loop] at h
      | succ more =>
          obtain rfl := Option.some.inj h
          rfl

/-- A `Push` leaves a right sample unwritten exactly when it finds no room
for it. -/
theorem even_unwritten_iff {T : Type} {ring : RingBuffer T capacity}
    {queue : List T} {pushing : Pushing T capacity}
    (h : Threads.PushKnows ring queue (some pushing)) :
    Even (pushing.act ring).2.2.length ↔
      ∀ right rest writeIdx, pushing = .loadReadIndex right rest writeIdx →
        Even rest.length → ¬ ring.IsFull := by
  cases pushing with
  | loadReadIndex value rest writeIdx =>
      obtain rfl : writeIdx = ring.writeIndex := h
      rw [RingBuffer.IsFull]
      by_cases hfull : ring.writeIndex + 1 = ring.readIndex
      · simp [Pushing.act, hfull, Nat.even_add_one]
      · simp [Pushing.act, hfull]
  | loadWriteIndex value rest => simp [Pushing.act]
  | copy value rest writeIdx => simp [Pushing.act]
  | store value rest writeIdx => simp [Pushing.act]

/-- A `Pop` of whole frames returns a left sample at the end exactly when it
does not find the right one. -/
theorem even_data_iff {T : Type} {ring : RingBuffer T capacity}
    {queue between : List T} {popping : Popping T capacity}
    (h : Threads.PopKnows ring.readIndex queue between (some popping))
    (hwanted : Even (popping.taken.length + popping.wanted)) :
    Even (popping.act ring).2.2.length ↔
      ∀ data more readIdx, popping = .loadWriteIndex data more readIdx →
        Odd data.length → ¬ ring.IsEmpty := by
  cases popping with
  | loadWriteIndex data more readIdx =>
      obtain rfl : readIdx = ring.readIndex := h.1
      rw [RingBuffer.IsEmpty]
      by_cases hempty : ring.readIndex = ring.writeIndex
      · simp [Popping.act, hempty]
      · simp [Popping.act, hempty]
  | loadReadIndex data more => simp [Popping.act]
  | copy data more readIdx => simp [Popping.act]
  | store data more readIdx =>
      cases more with
      | zero =>
          simpa [Popping.act, Popping.loop, Popping.taken, Popping.wanted]
            using hwanted
      | succ more => simp [Popping.act, Popping.loop]

variable {mix : StereoMix capacity}

theorem Aligned.push (h : mix.Aligned) (frames : ℕ) :
    (mix.step (.push frames)).Aligned := by
  obtain ⟨⟨ring, pushing, popping⟩, pushed, delivered, discarded⟩ := mix
  obtain ⟨⟨between, hflow, hwhole⟩, hwanted, hpaired⟩ := h
  cases pushing with
  | some pushing => exact ⟨⟨between, hflow, hwhole⟩, hwanted, hpaired⟩
  | none =>
      have hle : pushed ≤ pushed + frames := Nat.le_add_right pushed frames
      have hsource : Whole (pushed + frames)
          (interleave ((List.range' pushed frames).map numbered)) := by
        refine ⟨List.range' pushed frames, fun frame hframe => ?_, rfl⟩
        exact (List.mem_range'_1.mp hframe).2
      have hold : Whole pushed
          (((popping.map Popping.taken).getD []) ++ between) := by
        simpa [Threads.taken, Threads.unwritten] using hwhole
      obtain ⟨queue, hholds, -, hpop⟩ := hflow
      refine ⟨⟨between, ⟨queue, hholds, ?_, hpop⟩, ?_⟩, hwanted, ?_⟩
      · show Threads.PushKnows ring queue (Pushing.loop _)
        cases interleave ((List.range' pushed frames).map numbered) <;> trivial
      · have happended := (hold.mono hle).append hsource
        rw [← unwritten_loop (interleave _)] at happended
        exact happended
      · refine ⟨fun frame hframe => ?_, hpaired.discarded.mono hle⟩
        obtain ⟨n, hn, hnumbered⟩ := hpaired.delivered frame hframe
        exact ⟨n, hn.trans_le hle, hnumbered⟩

theorem Aligned.request (h : mix.Aligned) (frames : ℕ) :
    (mix.step (.request frames)).Aligned := by
  obtain ⟨⟨ring, pushing, popping⟩, pushed, delivered, discarded⟩ := mix
  obtain ⟨⟨between, hflow, hwhole⟩, hwanted, hpaired⟩ := h
  cases popping with
  | some popping => exact ⟨⟨between, hflow, hwhole⟩, hwanted, hpaired⟩
  | none =>
      obtain ⟨queue, hholds, hpush, hpop⟩ := hflow
      refine ⟨⟨between, ⟨queue, hholds, hpush, ?_⟩, ?_⟩, ?_,
        hpaired.delivered, hpaired.discarded⟩
      · show Threads.PopKnows ring.readIndex queue between
          (Popping.loop [] (frames * 2))
        cases frames * 2 <;> exact hpop
      · show Whole pushed (((Popping.loop [] (frames * 2) :
          Option (Popping Sample capacity)).map Popping.taken).getD [] ++
            between ++ _)
        cases frames * 2 <;> exact hwhole
      · intro popping hpopping
        obtain ⟨htaken, hmore⟩ := taken_loop _ _ _ hpopping
        rw [htaken, hmore, List.length_nil, Nat.zero_add, Nat.mul_comm]
        exact even_two_mul frames

/-- An action of the producer keeps the frames aligned if it leaves no right
sample, and only then does it discard whole frames. -/
theorem Aligned.produce (h : mix.Aligned) :
    (mix.FindsRight .produce → (mix.step .produce).Aligned) ∧
      ((mix.step .produce).Paired → mix.FindsRight .produce) := by
  obtain ⟨⟨ring, pushing, popping⟩, pushed, delivered, discarded⟩ := mix
  obtain ⟨⟨between, hflow, hwhole⟩, hwanted, hpaired⟩ := h
  cases pushing with
  | none => exact ⟨fun _ => ⟨⟨between, hflow, hwhole⟩, hwanted, hpaired⟩, nofun⟩
  | some pushing =>
      have hfinds : FindsRight ⟨⟨ring, some pushing, popping⟩, pushed, delivered,
          discarded⟩ .produce ↔ Even (pushing.act ring).2.2.length := by
        obtain ⟨queue, -, hpush, -⟩ := hflow
        rw [even_unwritten_iff hpush]
        simp [FindsRight]
      obtain ⟨ring', next, left, between', hact, hflow', hsame⟩ := hflow.push_act
      have hstep : step ⟨⟨ring, some pushing, popping⟩, pushed, delivered,
          discarded⟩ .produce =
          ⟨⟨ring', next, popping⟩, pushed, delivered, discarded ++ left⟩ := by
        simp [step, hact]
      rw [hfinds, hstep, hact]
      constructor
      · intro heven
        have hcut : Whole pushed
            (Threads.taken ⟨ring', next, popping⟩ ++ between' ++
              Threads.unwritten ⟨ring', next, popping⟩ ++ left) := by
          change Whole pushed (Threads.taken ⟨ring', next, popping⟩ ++ between ++
            pushing.unwritten) at hwhole
          rw [List.append_assoc, ← hsame] at hwhole
          simpa only [List.append_assoc] using hwhole
        obtain ⟨hflight, hleft⟩ := hcut.of_append_right heven
        exact ⟨⟨between', hflow', hflight⟩, hwanted,
          ⟨hpaired.delivered, hpaired.discarded.append hleft⟩⟩
      · intro hpaired'
        exact hpaired.discarded.even_length_right hpaired'.discarded

/-- An action of the consumer keeps the frames aligned if it returns no left
sample alone, and only then does it discard whole frames. -/
theorem Aligned.consume (h : mix.Aligned) :
    (mix.FindsRight .consume → (mix.step .consume).Aligned) ∧
      ((mix.step .consume).Paired → mix.FindsRight .consume) := by
  obtain ⟨⟨ring, pushing, popping⟩, pushed, delivered, discarded⟩ := mix
  obtain ⟨⟨between, hflow, hwhole⟩, hwanted, hpaired⟩ := h
  cases popping with
  | none => exact ⟨fun _ => ⟨⟨between, hflow, hwhole⟩, hwanted, hpaired⟩, nofun⟩
  | some popping =>
      have hfinds : FindsRight ⟨⟨ring, pushing, some popping⟩, pushed, delivered,
          discarded⟩ .consume ↔ Even (popping.act ring).2.2.length := by
        obtain ⟨queue, -, -, hpop⟩ := hflow
        rw [even_data_iff hpop (hwanted popping rfl)]
        simp [FindsRight]
      obtain ⟨ring', next, data, between', hact, hflow', hsame⟩ := hflow.pop_act
      have hstep : step ⟨⟨ring, pushing, some popping⟩, pushed, delivered,
          discarded⟩ .consume =
          ⟨⟨ring', pushing, next⟩, pushed, delivered ++ wholeFrames data,
            discarded ++ unpaired data⟩ := by
        simp [step, hact]
      rw [hfinds, hstep, hact]
      constructor
      · intro heven
        have hcut : Whole pushed (data ++
            (Threads.taken ⟨ring', pushing, next⟩ ++ between' ++
              Threads.unwritten ⟨ring', pushing, next⟩)) := by
          change Whole pushed (popping.taken ++ between ++
            Threads.unwritten ⟨ring', pushing, next⟩) at hwhole
          rw [← hsame] at hwhole
          simpa only [List.append_assoc] using hwhole
        obtain ⟨hdata, hflight⟩ := hcut.of_append heven
        obtain ⟨hframes, hunpaired⟩ := hdata.delivered
        refine ⟨⟨between', hflow', hflight⟩, ?_, ?_, ?_⟩
        · rintro next rfl
          rw [wanted_act (congrArg (·.2.1) hact)]
          exact hwanted popping rfl
        · intro frame hframe
          rcases List.mem_append.mp hframe with hbefore | hnow
          · exact hpaired.delivered frame hbefore
          · exact hframes frame hnow
        · rw [hunpaired, List.append_nil]
          exact hpaired.discarded
      · intro hpaired'
        have heven := hpaired.discarded.even_length_right hpaired'.discarded
        rw [length_unpaired] at heven
        exact Nat.even_iff.mpr (Nat.mod_mod data.length 2 ▸ Nat.even_iff.mp heven)

/-- The samples stay paired throughout a run exactly when, at every action, a
side that is in the middle of a frame finds room for or the data of the right
sample. -/
theorem paired_iff (buffer : Fin (capacity + 1) → Sample) (run : List Action) :
    Throughout (fun past => (past.foldl step (fresh buffer)).Paired) run ↔
      AtEachEvent (fun past action =>
        (past.foldl step (fresh buffer)).FindsRight action) run := by
  refine throughout_foldl_iff Aligned (aligned_fresh buffer)
    (fun mix h => h.paired) ?_ ?_ run
  · intro mix action h hfinds
    cases action with
    | push frames => exact h.push frames
    | produce => exact h.produce.1 hfinds
    | request frames => exact h.request frames
    | consume => exact h.consume.1 hfinds
  · intro mix action h hpaired
    cases action with
    | push frames => trivial
    | produce => exact h.produce.2 hpaired
    | request frames => trivial
    | consume => exact h.consume.2 hpaired

/-- A request that comes between the two samples of a frame takes the left one
and discards it. -/
theorem paired_lost :
    ¬ Throughout (fun past => (past.foldl step
        (fresh fun _ : Fin (mixBufferCapacity + 1) => ⟨0, 0⟩)).Paired)
      ([.push 1] ++ List.replicate 4 .produce ++ [.request 1] ++
        List.replicate 6 .consume) := by
  intro h
  have hodd := h.last.discarded.even_length
  revert hodd
  decide

end StereoMix

end RamkolFX
