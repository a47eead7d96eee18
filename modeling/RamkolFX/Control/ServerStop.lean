import RamkolFX.Control.ControlServer
import RamkolFX.Support.Interleaving

/-!
# Stopping the control server

The accept loop, any number of detached client threads, and the thread that
calls `Stop`, each at its own pace.  `Stop` waits for the accept thread and for
no client thread.
-/

namespace RamkolFX

open Support

/-- Where the accept thread is: at the condition of its loop, in `accept`, or
behind the loop. -/
inductive AcceptPhase
  | checking
  | accepting
  | ended

/-- How far a call of `Stop` is: it has cleared `bRunning`, closed the listening
socket, or joined the accept thread. -/
inductive StopPhase
  | cleared
  | closed
  | joined

/-- Where a client thread is: in `recv`, or answering what it has received. -/
inductive ClientPhase
  | receiving (buffer : List UInt8)
  | answering (buffer : List UInt8)

def ClientPhase.buffer : ClientPhase → List UInt8
  | receiving buffer => buffer
  | answering buffer => buffer

/-- A server that has started, the daemon behind its handler, and the commands
that the handler was given after `Stop` had returned. -/
structure RunningServer (σ : Type) where
  daemon : σ
  bRunning : Bool := true
  acceptThread : AcceptPhase := .checking
  stopCall : Option StopPhase := none
  bStopReturned : Bool := false
  clients : Threads ClientPhase := fun _ => none
  invokedAfterStop : List Command := []

/-- One step of a thread. -/
inductive ServerEvent
  | checkRunning
  | accept (client : ℕ)
  | acceptFails
  | receive (client : ℕ) (chunk : Chunk)
  | answer (client : ℕ)
  | disconnect (client : ℕ)
  | stopClears
  | stopCloses
  | stopJoins
  | stopReturns

namespace RunningServer

section

variable {σ : Type} (handler : Option (CommandHandler σ))

/-- `accept` may still give a connection that was waiting when the listening
socket was shut down. -/
def step (s : RunningServer σ) : ServerEvent → Option (RunningServer σ)
  | .checkRunning =>
      match s.acceptThread with
      | .checking =>
          some { s with
            acceptThread := if s.bRunning then .accepting else .ended }
      | _ => none
  | .accept client =>
      match s.acceptThread, s.clients client with
      | .accepting, none =>
          some { s with
            acceptThread := .checking
            clients := s.clients.start client (.receiving []) }
      | _, _ => none
  | .acceptFails =>
      match s.acceptThread with
      | .accepting => some { s with acceptThread := .ended }
      | _ => none
  | .receive client chunk =>
      match s.clients client with
      | some (.receiving buffer) =>
          some { s with
            clients := s.clients.start client
              (.answering (buffer ++ chunk.bytes)) }
      | _ => none
  | .answer client =>
      match s.clients client with
      | some (.answering buffer) =>
          match answerFront handler buffer s.daemon with
          | .ok none =>
              some { s with
                clients := s.clients.start client (.receiving buffer) }
          | .ok (some (rest, exchange, daemon)) =>
              some { s with
                daemon
                clients := s.clients.start client (.answering rest)
                invokedAfterStop :=
                  if s.bStopReturned then
                    s.invokedAfterStop ++ exchange.dispatched.toList
                  else s.invokedAfterStop }
          | .error _ => none
      | _ => none
  | .disconnect client =>
      match s.clients client with
      | some (.receiving _) =>
          some { s with clients := s.clients.finish client }
      | _ => none
  | .stopClears =>
      match s.stopCall with
      | none =>
          if s.bRunning then
            some { s with bRunning := false, stopCall := some .cleared }
          else some { s with bStopReturned := true }
      | some _ => none
  | .stopCloses =>
      match s.stopCall with
      | some .cleared => some { s with stopCall := some .closed }
      | _ => none
  | .stopJoins =>
      match s.stopCall, s.acceptThread with
      | some .closed, .ended => some { s with stopCall := some .joined }
      | _, _ => none
  | .stopReturns =>
      match s.stopCall with
      | some .joined =>
          some { s with stopCall := none, bStopReturned := true }
      | _ => none

/-- A complete frame of a buffer decodes to a command. -/
def HoldsCommand (buffer : List UInt8) : Prop :=
  ∃ frame ∈ (referenceParse buffer).1, frame.command ≠ none

/-- No client thread holds a command when `Stop` returns, and none gets one
afterwards. -/
def LeavesNoCommand (s : RunningServer σ) : ServerEvent → Prop
  | .stopReturns =>
      ∀ client phase, s.clients client = some phase →
        ¬ HoldsCommand phase.buffer
  | .receive client chunk =>
      s.bStopReturned = true → ∀ buffer,
        s.clients client = some (.receiving buffer) →
          ¬ HoldsCommand (buffer ++ chunk.bytes)
  | _ => True

/-- A call of `Stop` that has joined the accept thread, or returned, leaves it
ended; and after it has returned no client thread holds a command. -/
structure Invariant (s : RunningServer σ) : Prop where
  cleared : s.bRunning = false → s.stopCall = none → s.bStopReturned = true
  joined : s.stopCall = some .joined → s.acceptThread = .ended
  returned : s.bStopReturned = true → s.acceptThread = .ended ∧
    ∀ client phase, s.clients client = some phase → ¬ HoldsCommand phase.buffer
  invoked : s.invokedAfterStop = []

/-- The first frame of a buffer without a command, and what is behind it. -/
theorem of_not_holdsCommand {buffer rest : List UInt8} {frame : Frame}
    (h : ¬ HoldsCommand buffer) (hnext : nextFrame buffer = some (frame, rest)) :
    frame.command = none ∧ ¬ HoldsCommand rest := by
  have hparse := frameReader.parse_of_some hnext
  constructor
  · by_contra hcommand
    apply h
    refine ⟨frame, ?_, hcommand⟩
    rw [referenceParse, hparse]
    exact List.mem_cons_self
  · rintro ⟨later, hlater, hcommand⟩
    apply h
    refine ⟨later, ?_, hcommand⟩
    rw [referenceParse, hparse]
    exact List.mem_cons_of_mem _ hlater

theorem dispatched_respond_none (daemon : σ) :
    (respond handler none daemon).1.dispatched = none := by
  cases handler with
  | none => rfl
  | some handler => rfl

variable {s s' : RunningServer σ} {handler}

/-- A client thread moves on, with nothing in its buffer that must not be
there. -/
theorem Invariant.start (h : Invariant s) {client : ℕ} {phase : ClientPhase}
    (hphase : s.bStopReturned = true → ¬ HoldsCommand phase.buffer) :
    Invariant { s with clients := s.clients.start client phase } where
  cleared := h.cleared
  joined := h.joined
  returned := by
    intro hreturned
    obtain ⟨hended, hclients⟩ := h.returned hreturned
    refine ⟨hended, ?_⟩
    intro other otherPhase hother
    rcases Threads.eq_or_of_start hother with rfl | hold
    · exact hphase hreturned
    · exact hclients other otherPhase hold
  invoked := h.invoked

/-- The accept thread moves, which no call of `Stop` has seen ended yet. -/
theorem Invariant.acceptMoves (h : Invariant s) (hmoving : s.acceptThread ≠ .ended)
    {acceptThread : AcceptPhase} {clients : Threads ClientPhase} :
    Invariant { s with acceptThread, clients } where
  cleared := h.cleared
  joined := fun hjoined => absurd (h.joined hjoined) hmoving
  returned := fun hreturned => absurd (h.returned hreturned).1 hmoving
  invoked := h.invoked

/-- The server after a client thread has answered the frame at the front of its
buffer. -/
def afterAnswer (handler : Option (CommandHandler σ)) (s : RunningServer σ)
    (client : ℕ) (frame : Frame) (rest : List UInt8) : RunningServer σ :=
  { s with
    daemon := (respond handler frame.command s.daemon).2
    clients := s.clients.start client (.answering rest)
    invokedAfterStop :=
      if s.bStopReturned then s.invokedAfterStop ++
        (respond handler frame.command s.daemon).1.dispatched.toList
      else s.invokedAfterStop }

/-- A client thread answers the frame at the front of its buffer. -/
theorem Invariant.answerFrame (h : Invariant s) {client : ℕ}
    {buffer rest : List UInt8} {frame : Frame}
    (hanswering : s.clients client = some (.answering buffer))
    (hnext : nextFrame buffer = some (frame, rest)) :
    Invariant (afterAnswer handler s client frame rest) := by
  have hkept : s.bStopReturned = true →
      frame.command = none ∧ ¬ HoldsCommand rest := by
    intro hreturned
    have hbuffer := (h.returned hreturned).2 client _ hanswering
    exact of_not_holdsCommand hbuffer hnext
  have hmoved : Invariant { s with
      clients := s.clients.start client (.answering rest) } :=
    h.start fun hreturned => (hkept hreturned).2
  refine ⟨hmoved.cleared, hmoved.joined, hmoved.returned, ?_⟩
  show (if s.bStopReturned then _ else _) = _
  split
  · rename_i hreturned
    rw [(hkept hreturned).1, dispatched_respond_none, h.invoked]
    rfl
  · exact h.invoked

/-- A client thread does one round of its inner loop. -/
theorem Invariant.answer (h : Invariant s) {client : ℕ}
    (hstep : step handler s (.answer client) = some s') : Invariant s' := by
  simp only [RunningServer.step] at hstep
  split at hstep
  · rename_i buffer hanswering
    cases hnext : nextFrame buffer with
    | none =>
        rw [answerFront_of_none handler hnext] at hstep
        obtain rfl := Option.some.inj hstep
        exact h.start fun hreturned =>
          (h.returned hreturned).2 client (.answering buffer) hanswering
    | some found =>
        obtain ⟨frame, rest⟩ := found
        rw [answerFront_of_some handler hnext] at hstep
        obtain rfl := Option.some.inj hstep
        exact h.answerFrame hanswering hnext
  · cases hstep

/-- A client thread ends. -/
theorem Invariant.disconnect (h : Invariant s) {client : ℕ} :
    Invariant { s with clients := s.clients.finish client } where
  cleared := h.cleared
  joined := h.joined
  returned := by
    intro hreturned
    obtain ⟨hended, hclients⟩ := h.returned hreturned
    refine ⟨hended, ?_⟩
    intro other phase hother
    exact hclients other phase (Threads.of_finish hother)
  invoked := h.invoked

/-- Every step keeps the invariant, if `Stop` leaves no command behind. -/
theorem Invariant.step (h : Invariant s) {event : ServerEvent}
    (hleaves : LeavesNoCommand s event) (hstep : step handler s event = some s') :
    Invariant s' := by
  cases event with
  | checkRunning =>
      simp only [RunningServer.step] at hstep
      split at hstep
      · rename_i hchecking
        obtain rfl := Option.some.inj hstep
        apply h.acceptMoves
        rw [hchecking]
        exact AcceptPhase.noConfusion
      · cases hstep
  | accept client =>
      simp only [RunningServer.step] at hstep
      split at hstep
      · rename_i haccepting hidle
        obtain rfl := Option.some.inj hstep
        apply h.acceptMoves
        rw [haccepting]
        exact AcceptPhase.noConfusion
      · cases hstep
  | acceptFails =>
      simp only [RunningServer.step] at hstep
      split at hstep
      · rename_i haccepting
        obtain rfl := Option.some.inj hstep
        apply h.acceptMoves
        rw [haccepting]
        exact AcceptPhase.noConfusion
      · cases hstep
  | receive client chunk =>
      simp only [RunningServer.step] at hstep
      split at hstep
      · rename_i buffer hreceiving
        obtain rfl := Option.some.inj hstep
        exact h.start fun hreturned => hleaves hreturned buffer hreceiving
      · cases hstep
  | answer client => exact h.answer hstep
  | disconnect client =>
      simp only [RunningServer.step] at hstep
      split at hstep
      · obtain rfl := Option.some.inj hstep
        exact h.disconnect
      · cases hstep
  | stopClears =>
      simp only [RunningServer.step] at hstep
      split at hstep
      · rename_i hnone
        split at hstep
        · obtain rfl := Option.some.inj hstep
          exact ⟨nofun, nofun, h.returned, h.invoked⟩
        · rename_i hrunning
          have hreturned := h.cleared (Bool.eq_false_of_not_eq_true hrunning) hnone
          obtain rfl := Option.some.inj hstep
          exact ⟨fun _ _ => rfl, h.joined, fun _ => h.returned hreturned, h.invoked⟩
      · cases hstep
  | stopCloses =>
      simp only [RunningServer.step] at hstep
      split at hstep
      · obtain rfl := Option.some.inj hstep
        exact ⟨nofun, nofun, h.returned, h.invoked⟩
      · cases hstep
  | stopJoins =>
      simp only [RunningServer.step] at hstep
      split at hstep
      · rename_i hended
        obtain rfl := Option.some.inj hstep
        exact ⟨nofun, fun _ => hended, h.returned, h.invoked⟩
      · cases hstep
  | stopReturns =>
      simp only [RunningServer.step] at hstep
      split at hstep
      · rename_i hjoined
        obtain rfl := Option.some.inj hstep
        exact ⟨fun _ _ => rfl, nofun, fun _ => ⟨h.joined hjoined, hleaves⟩,
          h.invoked⟩
      · cases hstep

/-- Whatever the threads do and whenever `Stop` is called, the handler is not
invoked after it has returned, if no client thread is left with a command then
and none receives one any more. -/
theorem invokedAfterStop_run (handler : Option (CommandHandler σ)) (daemon : σ)
    (run : List ServerEvent)
    (hleaves : AtEachEvent
      (StepMeets (RunningServer.step handler) LeavesNoCommand { daemon }) run)
    (s : RunningServer σ)
    (hrun : runFrom (RunningServer.step handler) { daemon } run = some s) :
    s.invokedAfterStop = [] := by
  have hstart : Invariant ({ daemon } : RunningServer σ) := by
    constructor
    case cleared => nofun
    case joined => nofun
    case returned => nofun
    case invoked => rfl
  have hinvariant := invariant_of_stepMeets Invariant hstart
    (fun _ _ _ hinv hmeets hstep => hinv.step hmeets hstep) hleaves hrun
  exact hinvariant.invoked

/-! ## A client thread that is left to itself -/

/-- The thread that answers its first frame, and what is left to answer. -/
theorem step_answer_of_some (handler : Option (CommandHandler σ)) {client : ℕ}
    {buffer rest : List UInt8} {frame : Frame}
    (hanswering : s.clients client = some (.answering buffer))
    (hnext : nextFrame buffer = some (frame, rest)) :
    RunningServer.step handler s (.answer client) =
      some (afterAnswer handler s client frame rest) := by
  simp only [RunningServer.step, hanswering, answerFront_of_some handler hnext]
  rfl

theorem step_answer_of_none (handler : Option (CommandHandler σ)) {client : ℕ}
    {buffer : List UInt8}
    (hanswering : s.clients client = some (.answering buffer))
    (hnext : nextFrame buffer = none) :
    RunningServer.step handler s (.answer client) = some { s with
      clients := s.clients.start client (.receiving buffer) } := by
  simp only [RunningServer.step, hanswering, answerFront_of_none handler hnext]

/-- Its steps come to what the inner loop of `HandleClient` does. -/
theorem answerBuffer_of_undisturbed {client : ℕ} {buffer : List UInt8}
    (hanswering : s.clients client = some (.answering buffer))
    {exchanges : List Exchange} {answered : ClientState σ}
    (hanswered : answerBuffer handler ⟨buffer, exchanges, s.daemon⟩ =
      .ok answered) :
    ∃ rounds s', runFrom (RunningServer.step handler) s
        (List.replicate rounds (.answer client)) = some s' ∧
      s'.clients client = some (.receiving answered.buffer) ∧
      s'.daemon = answered.daemon := by
  induction buffer using frameReader.parse_induction generalizing s exchanges with
  | incomplete buffer hnext =>
      rw [answerBuffer_eq, answerFront_of_none handler hnext] at hanswered
      obtain rfl := Except.ok.inj hanswered
      have hstep := step_answer_of_none handler hanswering hnext
      refine ⟨1, _, (runFrom_singleton s _).trans hstep, ?_, rfl⟩
      exact Threads.start_self
  | frame buffer frame rest hnext ih =>
      rw [answerBuffer_eq, answerFront_of_some handler hnext] at hanswered
      have hstep := step_answer_of_some handler hanswering hnext
      obtain ⟨rounds, s', hrun, hreceiving, hdaemon⟩ :=
        ih (s := afterAnswer handler s client frame rest)
          Threads.start_self hanswered
      refine ⟨rounds + 1, s', ?_, hreceiving, hdaemon⟩
      rw [List.replicate_succ, runFrom, List.foldlM_cons, hstep]
      exact hrun

/-- It gives a command of its buffer to the handler. -/
theorem invoked_of_holdsCommand (handleCommand : CommandHandler σ)
    (hreturned : s.bStopReturned = true) {client : ℕ} {buffer : List UInt8}
    (hanswering : s.clients client = some (.answering buffer))
    (hholds : HoldsCommand buffer) :
    ∃ rounds s', runFrom (RunningServer.step (some handleCommand)) s
        (List.replicate rounds (.answer client)) = some s' ∧
      s'.invokedAfterStop ≠ [] := by
  induction buffer using frameReader.parse_induction generalizing s with
  | incomplete buffer hnext =>
      obtain ⟨frame, hframe, -⟩ := hholds
      rw [referenceParse, frameReader.parse_of_none hnext] at hframe
      cases hframe
  | frame buffer frame rest hnext ih =>
      have hstep := step_answer_of_some (some handleCommand) hanswering hnext
      cases hcommand : frame.command with
      | some command =>
          refine ⟨1, _, (runFrom_singleton s _).trans hstep, ?_⟩
          show (if s.bStopReturned then _ else _) ≠ []
          rw [if_pos hreturned, hcommand]
          exact List.append_ne_nil_of_right_ne_nil _ (List.cons_ne_nil command [])
      | none =>
          have hrest : HoldsCommand rest := by
            obtain ⟨later, hlater, hdecodes⟩ := hholds
            rw [referenceParse, frameReader.parse_of_some hnext] at hlater
            rcases List.mem_cons.mp hlater with rfl | hlater
            · exact absurd hcommand hdecodes
            · exact ⟨later, hlater, hdecodes⟩
          obtain ⟨rounds, s', hrun, hinvoked⟩ :=
            ih (s := afterAnswer (some handleCommand) s client frame
              rest) hreturned Threads.start_self hrest
          refine ⟨rounds + 1, s', ?_, hinvoked⟩
          rw [List.replicate_succ, runFrom, List.foldlM_cons, hstep]
          exact hrun

theorem HoldsCommand.append {buffer : List UInt8} (h : HoldsCommand buffer)
    (more : List UInt8) : HoldsCommand (buffer ++ more) := by
  obtain ⟨frame, hframe, hcommand⟩ := h
  refine ⟨frame, ?_, hcommand⟩
  rw [referenceParse, frameReader.parse_append]
  exact List.mem_append_left _ hframe

def zeroByte : Chunk := ⟨[0], List.cons_ne_nil 0 [], by decide⟩

/-- From any client thread that is left with a command after `Stop` has returned
the server can go on to where the handler is invoked. -/
theorem exists_invoked (handleCommand : CommandHandler σ)
    (hreturned : s.bStopReturned = true) {client : ℕ} {phase : ClientPhase}
    (hphase : s.clients client = some phase) (hholds : HoldsCommand phase.buffer) :
    ∃ run s', runFrom (RunningServer.step (some handleCommand)) s run = some s' ∧
      s'.invokedAfterStop ≠ [] := by
  cases phase with
  | answering buffer =>
      obtain ⟨rounds, s', hrun, hinvoked⟩ :=
        invoked_of_holdsCommand handleCommand hreturned hphase hholds
      exact ⟨_, s', hrun, hinvoked⟩
  | receiving buffer =>
      have hreceive : RunningServer.step (some handleCommand) s
          (.receive client zeroByte) = some { s with
            clients := s.clients.start client
              (.answering (buffer ++ zeroByte.bytes)) } := by
        simp only [RunningServer.step, hphase]
      obtain ⟨rounds, s', hrun, hinvoked⟩ := invoked_of_holdsCommand
        handleCommand (s := { s with
          clients := s.clients.start client
            (.answering (buffer ++ zeroByte.bytes)) })
        hreturned Threads.start_self (hholds.append zeroByte.bytes)
      refine ⟨.receive client zeroByte :: List.replicate rounds (.answer client),
        s', ?_, hinvoked⟩
      rw [runFrom, List.foldlM_cons, hreceive]
      exact hrun

/-- A step that leaves a command leads to where the handler can be invoked. -/
theorem exists_invoked_of_not_leavesNoCommand {handleCommand : CommandHandler σ}
    {event : ServerEvent} (hleaves : ¬ LeavesNoCommand s event)
    (hstep : RunningServer.step (some handleCommand) s event = some s') :
    ∃ run s'', runFrom (RunningServer.step (some handleCommand)) s' run = some s'' ∧
      s''.invokedAfterStop ≠ [] := by
  cases event with
  | receive client chunk =>
      simp only [LeavesNoCommand, Classical.not_imp, not_forall, not_not] at hleaves
      obtain ⟨hreturned, buffer, hreceiving, hholds⟩ := hleaves
      simp only [RunningServer.step, hreceiving] at hstep
      obtain rfl := Option.some.inj hstep
      exact exists_invoked handleCommand hreturned Threads.start_self hholds
  | stopReturns =>
      simp only [LeavesNoCommand, Classical.not_imp, not_forall, not_not] at hleaves
      obtain ⟨client, phase, hphase, hholds⟩ := hleaves
      simp only [RunningServer.step] at hstep
      split at hstep
      · obtain rfl := Option.some.inj hstep
        exact exists_invoked handleCommand rfl hphase hholds
      · cases hstep
  | _ => exact absurd trivial hleaves

/-! ## Stopping with and without a client -/

def getStatusRequest : Chunk :=
  ⟨[Opcode.getStatus.toByte, 0, 0], List.cons_ne_nil _ _, by decide⟩

/-- A client connects, asks for the status after `Stop` has returned, and is
answered. -/
theorem invokedAfterStop_lost :
    ∃ s, runFrom (RunningServer.step (some answerStatus)) { daemon := () }
        [.checkRunning, .accept 0, .stopClears, .stopCloses, .checkRunning,
          .stopJoins, .stopReturns, .receive 0 getStatusRequest, .answer 0] =
        some s ∧
      s.invokedAfterStop ≠ [] := by
  refine ⟨_, rfl, ?_⟩
  decide

/-- The client has gone before `Stop` is called. -/
theorem invokedAfterStop_none :
    ∃ s, runFrom (RunningServer.step (some answerStatus)) { daemon := () }
        [.checkRunning, .accept 0, .receive 0 getStatusRequest, .answer 0,
          .answer 0, .disconnect 0, .stopClears, .stopCloses, .checkRunning,
          .stopJoins, .stopReturns] = some s ∧
      s.invokedAfterStop = [] := by
  obtain ⟨s, hs⟩ : ∃ s, runFrom (RunningServer.step (some answerStatus))
      { daemon := () }
      [.checkRunning, .accept 0, .receive 0 getStatusRequest, .answer 0,
        .answer 0, .disconnect 0, .stopClears, .stopCloses, .checkRunning,
        .stopJoins, .stopReturns] = some s := ⟨_, rfl⟩
  refine ⟨s, hs, invokedAfterStop_run _ () _ ?_ s hs⟩
  refine stepMeets_cons trivial ?_
  rintro _ ⟨⟩
  refine stepMeets_cons trivial ?_
  rintro _ ⟨⟩
  refine stepMeets_cons nofun ?_
  rintro _ ⟨⟩
  refine stepMeets_cons trivial ?_
  rintro _ ⟨⟩
  refine stepMeets_cons trivial ?_
  rintro _ ⟨⟩
  refine stepMeets_cons trivial ?_
  rintro _ ⟨⟩
  refine stepMeets_cons trivial ?_
  rintro _ ⟨⟩
  refine stepMeets_cons trivial ?_
  rintro _ ⟨⟩
  refine stepMeets_cons trivial ?_
  rintro _ ⟨⟩
  refine stepMeets_cons trivial ?_
  rintro _ ⟨⟩
  refine stepMeets_cons ?_ fun _ _ => atEachEvent_nil
  intro client phase hphase
  by_cases hclient : client = 0
  · subst hclient
    cases hphase
  · have hbefore := Threads.of_finish hphase
    simp only [Threads.start_of_ne hclient] at hbefore
    cases hbefore

end

end RunningServer

end RamkolFX
