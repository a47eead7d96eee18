import RamkolFX.Gui.OwnAnswers

/-!
# Calls take place in one order

The server's answers are the calls, handled one after the other by a daemon that
nobody else talks to: each call at most once, whatever was reset, cut off or
left behind on the way, and a call that was begun after another one had returned
comes after it.  This is of a server whose threads do not overlap in the handler.
-/

namespace RamkolFX

open Support

/-! ## One call after the other -/

/-- The command that the request of a call decodes to. -/
def ClientCall.command (call : ClientCall) : Option Command :=
  (nextFrame call.request).bind fun next => next.1.command

section

variable {σ : Type} (handler : Option (CommandHandler σ))

/-- The responses to calls that are handled in this order, and the daemon behind
them. -/
def serveInOrder : List ClientCall → σ → List (List UInt8) × σ
  | [], daemon => ([], daemon)
  | call :: calls, daemon =>
      let (exchange, daemon) := respond handler call.command daemon
      let (responses, daemon) := serveInOrder calls daemon
      (exchange.response :: responses, daemon)

theorem serveInOrder_append (calls more : List ClientCall) (daemon : σ) :
    serveInOrder handler (calls ++ more) daemon =
      let (responses, daemon) := serveInOrder handler calls daemon
      let (moreResponses, daemon) := serveInOrder handler more daemon
      (responses ++ moreResponses, daemon) := by
  induction calls generalizing daemon with
  | nil => rfl
  | cons call calls ih => simp [serveInOrder, ih]

end

/-- The calls that a run makes, in the order of their ids. -/
def callsMade (run : List TrafficEvent) : List ClientCall :=
  run.filterMap fun event =>
    match event with
    | .call _ call => some call
    | _ => none

theorem nextFrame_request {call : ClientCall} {frame : Frame}
    (h : call.request = frame.bytes) (rest : List UInt8) :
    nextFrame (call.request ++ rest) = some (frame, rest) := by
  rw [h]
  exact nextFrame_bytes frame rest

/-- Part of a request in which a frame is found is the whole request. -/
theorem eq_request_of_next {call : ClientCall} {bytes rest : List UInt8}
    {frame : Frame} (hfront : bytes <+: call.request)
    (hnext : nextFrame bytes = some (frame, rest)) :
    bytes = call.request ∧ rest = [] ∧ frame.command = call.command := by
  obtain ⟨request, hrequest⟩ := call.exists_frame_request
  obtain ⟨behind, hbehind⟩ := hfront
  have hlong : nextFrame (bytes ++ behind) = some (frame, rest ++ behind) :=
    frameReader.extend behind hnext
  have hwhole := nextFrame_request hrequest []
  rw [List.append_nil] at hwhole
  rw [hbehind, hwhole] at hlong
  obtain ⟨rfl, hnothing⟩ := Prod.mk.inj (Option.some.inj hlong)
  obtain ⟨hrest, rfl⟩ := List.append_eq_nil_iff.mp hnothing.symm
  refine ⟨by rw [← hbehind, List.append_nil], hrest, ?_⟩
  rw [ClientCall.command, hwhole]
  rfl

theorem request_ne_nil (call : ClientCall) : call.request ≠ [] := by
  obtain ⟨request, hrequest⟩ := call.exists_frame_request
  rw [hrequest]
  exact List.cons_ne_nil _ _

/-- Whose request it is can be read off its bytes. -/
theorem id_eq_of_traced {call call' : ClientCall} {id id' : ℕ}
    (h : traced call.request id = traced call'.request id') : id = id' := by
  obtain ⟨byte, bytes, hrequest⟩ := List.exists_cons_of_ne_nil (request_ne_nil call)
  obtain ⟨byte', bytes', hrequest'⟩ :=
    List.exists_cons_of_ne_nil (request_ne_nil call')
  rw [hrequest, hrequest'] at h
  exact congrArg Prod.snd (List.cons.inj h).1

/-! ## What the server has not answered yet -/

/-- The bytes that the thread of a connection will answer, if it lives. -/
def Connection.unserved (connection : Connection) : List TracedByte :=
  match connection.thread with
  | none => []
  | some phase => phase.buffer ++ connection.toServer

namespace Traffic

/-- A call in the order of answers, by its id. -/
abbrev OrderedCall := ℕ × ClientCall

/-- The bytes are part of the request of a call that was made on this connection
and has not been answered. -/
def Awaits (made : List ClientCall) (order : List OrderedCall) (home : ℕ → ℕ)
    (number : ℕ) (bytes : List TracedByte) : Prop :=
  bytes = [] ∨ ∃ id call, made[id]? = some call ∧ home id = number ∧
    id ∉ order.map Prod.fst ∧ bytes <+: traced call.request id

variable {σ : Type}

/-- The answers are the ordered calls, handled one after the other, and what a
call has returned is decoded from the response to it. -/
structure Linearized (handler : Option (CommandHandler σ)) (daemon : σ)
    (made : List ClientCall) (order : List OrderedCall) (s : Traffic σ) :
    Prop where
  ordered : ∀ entry ∈ order, made[entry.1]? = some entry.2
  once : (order.map Prod.fst).Nodup
  requests : s.answers.map Answer.request =
    order.map fun entry => traced entry.2.request entry.1
  served : serveInOrder handler (order.map Prod.snd) daemon =
    (s.answers.map Answer.response, s.daemon)
  returned : ∀ value ∈ s.returned, ∃ index : ℕ,
    order[index]? = some (value.id, value.call) ∧
    ∃ answer response, s.answers[index]? = some answer ∧
      ControlClient.receiveResponse answer.response = some (response, []) ∧
      value.call.decodeValue response.payload = .ok (some value.value)

/-- The books behind a linearization: which connection each call was made on,
and that what is unserved there awaits its answer. -/
structure Recorded (handler : Option (CommandHandler σ)) (daemon : σ)
    (made : List ClientCall) (order : List OrderedCall) (home : ℕ → ℕ)
    (s : Traffic σ) : Prop where
  calls : s.calls = made.length
  ordered : ∀ entry ∈ order, made[entry.1]? = some entry.2
  once : (order.map Prod.fst).Nodup
  requests : s.answers.map Answer.request =
    order.map fun entry => traced entry.2.request entry.1
  served : serveInOrder handler (order.map Prod.snd) daemon =
    (s.answers.map Answer.response, s.daemon)
  returned : ∀ value ∈ s.returned, made[value.id]? = some value.call
  inCall : ∀ client socket inCall,
    s.clients client = ⟨some socket, some inCall⟩ →
    made[inCall.id]? = some inCall.call ∧ home inCall.id = socket ∧
      (inCall.unsent ≠ [] → inCall.id ∉ order.map Prod.fst)
  awaits : ∀ number connection, s.connections number = some connection →
    Awaits made order home number connection.unserved

variable {handler : Option (CommandHandler σ)} {daemon : σ}
  {made : List ClientCall} {order : List OrderedCall} {home : ℕ → ℕ}
  {s s' : Traffic σ}

/-! ## Steps of a client -/

/-- A client moves on, in a call that is on record. -/
theorem Recorded.of_client (h : Recorded handler daemon made order home s)
    {client : ℕ} {state : GuiClient} {returned : List ReturnedCall}
    (hcall : ∀ socket inCall, state = ⟨some socket, some inCall⟩ →
      made[inCall.id]? = some inCall.call ∧ home inCall.id = socket ∧
        (inCall.unsent ≠ [] → inCall.id ∉ order.map Prod.fst))
    (hreturned : ∀ value ∈ returned, made[value.id]? = some value.call) :
    Recorded handler daemon made order home { s with
      clients := Function.update s.clients client state
      returned } :=
  { h with
    returned := hreturned
    inCall := by
      intro other socket inCall hother
      by_cases heq : other = client
      · subst heq
        simp only [Function.update_self] at hother
        exact hcall socket inCall hother
      · simp only [Function.update_of_ne heq] at hother
        exact h.inCall other socket inCall hother }

/-- A client that is in no call moves on. -/
theorem Recorded.leaves (h : Recorded handler daemon made order home s)
    (client : ℕ) (socket : Option ℕ) :
    Recorded handler daemon made order home (s.setClient client ⟨socket, none⟩) :=
  h.of_client nofun h.returned

/-- A connection moves on, and what is unserved on it awaits its answer. -/
theorem Recorded.of_connection (h : Recorded handler daemon made order home s)
    {number : ℕ} {state : Connection}
    (hawaits : Awaits made order home number state.unserved) :
    Recorded handler daemon made order home (s.setConnection number state) :=
  { h with
    awaits := by
      intro other connection hother
      by_cases heq : other = number
      · subst heq
        simp only [Traffic.setConnection, Function.update_self] at hother
        obtain rfl := Option.some.inj hother
        exact hawaits
      · simp only [Traffic.setConnection, Function.update_of_ne heq] at hother
        exact h.awaits other connection hother }

/-- The thread moves on and has the same bytes to answer, or none. -/
theorem Recorded.of_unserved (h : Recorded handler daemon made order home s)
    {number : ℕ} {connection state : Connection}
    (hconnection : s.connections number = some connection)
    (hsame : state.unserved = connection.unserved ∨ state.unserved = []) :
    Recorded handler daemon made order home (s.setConnection number state) := by
  apply h.of_connection
  rcases hsame with hsame | hnone
  · rw [hsame]
    exact h.awaits number connection hconnection
  · exact Or.inl hnone

theorem Recorded.id_lt (h : Recorded handler daemon made order home s) {id : ℕ}
    (hid : id ∈ order.map Prod.fst) : id < made.length := by
  obtain ⟨entry, hentry, rfl⟩ := List.mem_map.mp hid
  exact (List.getElem?_eq_some_iff.mp (h.ordered entry hentry)).1

/-- A call is entered in the books. -/
theorem Recorded.beginCall (h : Recorded handler daemon made order home s)
    (call : ClientCall) (socket : ℕ) :
    Recorded handler daemon (made ++ [call]) order
      (Function.update home made.length socket) { s with calls := s.calls + 1 } := by
  have hkeep : ∀ {id : ℕ} {call' : ClientCall}, made[id]? = some call' →
      (made ++ [call])[id]? = some call' ∧
        Function.update home made.length socket id = home id := by
    intro id call' hid
    have hlt := (List.getElem?_eq_some_iff.mp hid).1
    exact ⟨(List.getElem?_append_left hlt).trans hid,
      Function.update_of_ne hlt.ne _ _⟩
  refine { h with
    calls := ?_, ordered := ?_, returned := ?_, inCall := ?_, awaits := ?_ }
  · rw [h.calls, List.length_append, List.length_singleton]
  · exact fun entry hentry => (hkeep (h.ordered entry hentry)).1
  · exact fun value hvalue => (hkeep (h.returned value hvalue)).1
  · intro client socket' inCall hclient
    obtain ⟨hmade, hhome, hfresh⟩ := h.inCall client socket' inCall hclient
    exact ⟨(hkeep hmade).1, (hkeep hmade).2.trans hhome, hfresh⟩
  · intro number connection hconnection
    rcases h.awaits number connection hconnection with
      hnone | ⟨id, call', hmade, hhome, hid, hbytes⟩
    · exact Or.inl hnone
    · exact Or.inr ⟨id, call', (hkeep hmade).1, (hkeep hmade).2.trans hhome, hid,
        hbytes⟩

/-- Some bytes of a request are sent. -/
theorem Recorded.sendBytes (h : Recorded handler daemon made order home s)
    (hinvariant : Invariant s) {client socket id count : ℕ} {call : ClientCall}
    {unsent : List UInt8} {connection : Connection}
    (hclient : s.clients client =
      ⟨some socket, some ⟨id, call, .sending unsent⟩⟩)
    (hconnection : s.connections socket = some connection) :
    Recorded handler daemon made order home
      ((s.setConnection socket { connection with
          toServer := connection.toServer ++ traced (unsent.take count) id
        }).setClient client
          ⟨some socket, some ⟨id, call, .sending (unsent.drop count)⟩⟩) := by
  obtain ⟨hmade, hhome, hfresh⟩ := h.inCall client socket _ hclient
  have hsent : Recorded handler daemon made order home
      (s.setConnection socket { connection with
        toServer := connection.toServer ++ traced (unsent.take count) id }) := by
    by_cases hnothing : unsent = []
    · apply h.of_unserved hconnection (Or.inl _)
      rw [hnothing, List.take_nil, traced_nil, List.append_nil]
    · apply h.of_connection
      rcases hinvariant.fits hclient hconnection with
        hunanswered | ⟨index, answer, hanswered⟩
      · cases hthread : connection.thread with
        | none =>
            exact Or.inl (by simp [Connection.unserved])
        | some phase =>
            refine Or.inr ⟨id, call, hmade, hhome, hfresh hnothing, ?_⟩
            have hall := hunanswered.request phase hthread
            refine ⟨traced (unsent.drop count) id, ?_⟩
            simp only [Connection.unserved]
            rw [← hall, ← List.append_assoc phase.buffer, List.append_assoc,
              ← traced_append, List.take_append_drop]
            rfl
      · exact absurd hanswered.unsent hnothing
  apply hsent.of_client _ h.returned
  rintro _ _ ⟨⟩
  refine ⟨hmade, hhome, fun hrest => hfresh ?_⟩
  rintro (hnothing : unsent = [])
  rw [hnothing] at hrest
  exact hrest (by simp [InCall.unsent])

/-! ## Steps of the server -/

/-- Bytes in which a frame is found are the whole request of the call that awaits
its answer. -/
theorem Awaits.eq_of_next {number : ℕ} {buffer toServer : List TracedByte}
    {frame : Frame} {rest : List UInt8}
    (h : Awaits made order home number (buffer ++ toServer))
    (hnext : nextFrame (bytesOf buffer) = some (frame, rest)) :
    ∃ id call, made[id]? = some call ∧ home id = number ∧
      id ∉ order.map Prod.fst ∧ buffer = traced call.request id ∧
      toServer = [] ∧ rest = [] ∧ frame.command = call.command := by
  rcases h with hnone | ⟨id, call, hmade, hhome, hid, behind, hbytes⟩
  · obtain ⟨rfl, -⟩ := List.append_eq_nil_iff.mp hnone
    cases hnext
  · have hall : bytesOf buffer ++ (bytesOf toServer ++ bytesOf behind) =
        call.request := by
      have hmap := congrArg bytesOf hbytes
      simpa only [bytesOf_append, bytesOf_traced, List.append_assoc] using hmap
    obtain ⟨hwhole, hrest, hcommand⟩ := eq_request_of_next ⟨_, hall⟩ hnext
    rw [hwhole, List.append_right_eq_self, List.append_eq_nil_iff] at hall
    obtain rfl := eq_nil_of_bytesOf hall.1
    obtain rfl := eq_nil_of_bytesOf hall.2
    rw [List.append_nil, List.append_nil] at hbytes
    exact ⟨id, call, hmade, hhome, hid, hbytes, rfl, hrest, hcommand⟩

/-- A thread answers the call whose request is in its buffer. -/
theorem Recorded.serverAnswer (h : Recorded handler daemon made order home s)
    (hinvariant : Invariant s) {number : ℕ} {toServer buffer : List TracedByte}
    {toClient : List TracedByte} {frame : Frame} {rest : List UInt8}
    (hconnection : s.connections number =
      some ⟨toServer, toClient, some (.answering buffer)⟩)
    (hnext : nextFrame (bytesOf buffer) = some (frame, rest)) :
    ∃ entry, Recorded handler daemon made (order ++ [entry]) home
      (s.answered number ⟨toServer, toClient, some (.answering buffer)⟩ buffer
        rest (respond handler frame.command s.daemon).1
        (respond handler frame.command s.daemon).2) := by
  have hline : Awaits made order home number (buffer ++ toServer) :=
    h.awaits number _ hconnection
  obtain ⟨id, call, hmade, hhome, hid, hbuffer, htoServer, rfl, hcommand⟩ :=
    hline.eq_of_next hnext
  have hsize : buffer.length - ([] : List UInt8).length = buffer.length := rfl
  have hother : ∀ {id' : ℕ}, id' ∉ order.map Prod.fst → home id' ≠ number →
      id' ∉ (order ++ [(id, call)]).map Prod.fst := by
    intro id' hold hne
    rw [List.map_append, List.mem_append]
    rintro (hmem | hmem)
    · exact hold hmem
    · obtain rfl : id' = id := by simpa using hmem
      exact hne hhome
  refine ⟨(id, call), { h with
    ordered := ?_, once := ?_, requests := ?_, served := ?_, inCall := ?_
    awaits := ?_ }⟩
  · intro entry hentry
    rcases List.mem_append.mp hentry with hold | hnew
    · exact h.ordered entry hold
    · obtain rfl := List.mem_singleton.mp hnew
      exact hmade
  · rw [List.map_append, List.nodup_append]
    refine ⟨h.once, List.nodup_singleton _, ?_⟩
    rintro _ hold _ hnew rfl
    obtain rfl := List.mem_singleton.mp hnew
    exact hid hold
  · simp only [Traffic.answered, List.map_append, h.requests, hsize,
      List.take_length, List.map_cons, List.map_nil]
    rw [hbuffer]
  · rw [List.map_append, serveInOrder_append, h.served]
    simp only [Traffic.answered, List.map_append, List.map_cons, List.map_nil,
      serveInOrder, hcommand]
  · intro client socket inCall hclient
    obtain ⟨hcall, hsocket, hfresh⟩ := h.inCall client socket inCall hclient
    refine ⟨hcall, hsocket, fun hunsent => ?_⟩
    -- the call on this connection has nothing left to send
    apply hother (hfresh hunsent)
    rw [hsocket]
    rintro rfl
    rcases hinvariant.fits hclient hconnection with
      hunanswered | ⟨index, answer, hanswered⟩
    · exact hunsent (hunanswered.eq_of_next hnext).2.2.1
    · exact hunsent hanswered.unsent
  · intro other connection hconnection'
    by_cases heq : other = number
    · subst heq
      simp only [Traffic.answered, Traffic.setConnection,
        Function.update_self] at hconnection'
      obtain rfl := Option.some.inj hconnection'
      refine Or.inl ?_
      simp only [Connection.unserved, ServerPhase.buffer, hsize, List.drop_length,
        htoServer, List.append_nil]
    · simp only [Traffic.answered, Traffic.setConnection,
        Function.update_of_ne heq] at hconnection'
      rcases h.awaits other connection hconnection' with
        hnone | ⟨id', call', hmade', hhome', hid', hbytes⟩
      · exact Or.inl hnone
      · exact Or.inr ⟨id', call', hmade', hhome',
          hother hid' (hhome'.trans_ne heq), hbytes⟩

/-! ## Runs -/

/-- A call returns a value, or its connection is given up. -/
theorem Recorded.finishCall (h : Recorded handler daemon made order home s)
    {client socket : ℕ} {inCall : InCall} {received : List TracedByte}
    {response : ControlClient.RawResponse}
    (hclient : s.clients client = ⟨some socket, some inCall⟩)
    (hfinish : s.finishCall client socket inCall received response = some s') :
    Recorded handler daemon made order home s' := by
  obtain ⟨hmade, -⟩ := h.inCall client socket inCall hclient
  rw [Traffic.finishCall] at hfinish
  split at hfinish
  · obtain rfl := Option.some.inj hfinish
    exact h.leaves client (some socket)
  · split at hfinish
    · rename_i value hvalue
      obtain rfl := Option.some.inj hfinish
      refine h.of_client ?_ ?_
      · intro _ _ hnoCall
        cases hnoCall
      · intro value hreturned
        rcases List.mem_append.mp hreturned with hold | hnew
        · exact h.returned value hold
        · obtain rfl := List.mem_singleton.mp hnew
          exact hmade
    · obtain rfl := Option.some.inj hfinish
      exact h.leaves client none
    · cases hfinish

/-- Every step keeps the books; an answer adds one call to the order. -/
theorem Recorded.step (h : Recorded handler daemon made order home s)
    (hinvariant : Invariant s) {event : TrafficEvent}
    (hstep : step handler s event = some s') :
    ∃ more home', Recorded handler daemon (made ++ callsMade [event])
      (order ++ more) home' s' := by
  have hkeeps : callsMade [event] = [] →
      Recorded handler daemon made order home s' →
      ∃ more home', Recorded handler daemon (made ++ callsMade [event])
        (order ++ more) home' s' := by
    intro hnone hafter
    refine ⟨[], home, ?_⟩
    rwa [hnone, List.append_nil, List.append_nil]
  cases event with
  | connect client connection =>
      simp only [Traffic.step] at hstep
      split at hstep
      · obtain rfl := Option.some.inj hstep
        exact hkeeps rfl ((h.of_connection (Or.inl rfl)).leaves client _)
      · cases hstep
  | disconnect client =>
      simp only [Traffic.step] at hstep
      split at hstep
      · obtain rfl := Option.some.inj hstep
        exact hkeeps rfl (h.leaves client none)
      · cases hstep
  | call client call =>
      simp only [Traffic.step] at hstep
      split at hstep
      · rename_i socket hclient
        obtain rfl := Option.some.inj hstep
        refine ⟨[], Function.update home made.length socket, ?_⟩
        rw [List.append_nil]
        apply (h.beginCall call socket).of_client _ (h.beginCall call socket).returned
        rintro _ _ ⟨⟩
        refine ⟨?_, ?_, fun _ hid => ?_⟩
        · rw [h.calls]
          exact List.getElem?_concat_length
        · rw [h.calls]
          exact Function.update_self ..
        · rw [h.calls] at hid
          exact absurd (h.id_lt hid) (Nat.lt_irrefl _)
      · obtain rfl := Option.some.inj hstep
        refine ⟨[], Function.update home made.length 0, ?_⟩
        rw [List.append_nil]
        exact h.beginCall call 0
      · cases hstep
  | sendBytes client count =>
      simp only [Traffic.step] at hstep
      split at hstep
      · rename_i socket id call unsent hclient
        obtain ⟨state, hstate, hsent⟩ := Option.bind_eq_some_iff.mp hstep
        obtain rfl := Option.some.inj hsent
        exact hkeeps rfl (h.sendBytes hinvariant hclient hstate)
      · cases hstep
  | sendReturns client =>
      simp only [Traffic.step] at hstep
      split at hstep
      · rename_i socket id call hclient
        obtain rfl := Option.some.inj hstep
        obtain ⟨hmade, hhome, -⟩ := h.inCall client socket _ hclient
        apply hkeeps rfl (h.of_client _ h.returned)
        rintro _ _ ⟨⟩
        exact ⟨hmade, hhome, fun hunsent => absurd rfl hunsent⟩
      · cases hstep
  | receive client count =>
      simp only [Traffic.step] at hstep
      split at hstep
      · rename_i socket id call received hclient
        obtain ⟨state, hstate, hreceived⟩ := Option.bind_eq_some_iff.mp hstep
        obtain ⟨hmade, hhome, -⟩ := h.inCall client socket _ hclient
        split at hreceived
        · split at hreceived
          · cases hreceived
          · rename_i wanted _ _
            obtain rfl := Option.some.inj hreceived
            have hmoved : Recorded handler daemon made order home
                (s.setConnection socket { state with
                  toClient := state.toClient.drop (min count wanted) }) :=
              h.of_unserved hstate (Or.inl rfl)
            apply hkeeps rfl
            apply hmoved.of_client _ h.returned
            rintro _ _ ⟨⟩
            exact ⟨hmade, hhome, fun hunsent => absurd rfl hunsent⟩
        · cases hreceived
      · cases hstep
  | fails client =>
      simp only [Traffic.step] at hstep
      split at hstep
      · obtain rfl := Option.some.inj hstep
        exact hkeeps rfl (h.leaves client none)
      · cases hstep
  | finish client =>
      simp only [Traffic.step] at hstep
      split at hstep
      · rename_i socket id call received hclient
        split at hstep
        · cases hstep
        · obtain rfl := Option.some.inj hstep
          exact hkeeps rfl (h.leaves client none)
        · exact hkeeps rfl (h.finishCall hclient hstep)
      · cases hstep
  | serverReceive connection count =>
      simp only [Traffic.step] at hstep
      split at hstep
      · rename_i toServer toClient buffer hconnection
        split at hstep
        · cases hstep
        · obtain rfl := Option.some.inj hstep
          apply hkeeps rfl (h.of_unserved hconnection (Or.inl _))
          simp [Connection.unserved, ServerPhase.buffer]
      · cases hstep
  | serverAnswer connection =>
      simp only [Traffic.step] at hstep
      split at hstep
      · rename_i toServer toClient buffer hconnection
        cases hnext : nextFrame (bytesOf buffer) with
        | none =>
            rw [answerFront_of_none handler hnext] at hstep
            obtain rfl := Option.some.inj hstep
            exact hkeeps rfl (h.of_unserved hconnection (Or.inl rfl))
        | some found =>
            obtain ⟨frame, rest⟩ := found
            rw [answerFront_of_some handler hnext] at hstep
            obtain rfl := Option.some.inj hstep
            obtain ⟨entry, hafter⟩ := h.serverAnswer hinvariant hconnection hnext
            refine ⟨[entry], home, ?_⟩
            rw [show callsMade [.serverAnswer connection] = [] from rfl,
              List.append_nil]
            exact hafter
      · cases hstep
  | serverSend connection count =>
      simp only [Traffic.step] at hstep
      split at hstep
      · rename_i toServer toClient buffer pending hconnection
        obtain rfl := Option.some.inj hstep
        exact hkeeps rfl (h.of_unserved hconnection (Or.inl rfl))
      · cases hstep
  | serverSendReturns connection =>
      simp only [Traffic.step] at hstep
      split at hstep
      · rename_i toServer toClient buffer pending hconnection
        obtain rfl := Option.some.inj hstep
        exact hkeeps rfl (h.of_unserved hconnection (Or.inl rfl))
      · cases hstep
  | serverCloses connection =>
      simp only [Traffic.step] at hstep
      split at hstep
      · rename_i toServer toClient buffer hconnection
        obtain rfl := Option.some.inj hstep
        exact hkeeps rfl (h.of_unserved hconnection (Or.inr rfl))
      · cases hstep

theorem callsMade_append (run more : List TrafficEvent) :
    callsMade (run ++ more) = callsMade run ++ callsMade more :=
  List.filterMap_append

/-- A run keeps the books and only adds to the order. -/
theorem recorded_runFrom (hframes : AnswersFrames handler)
    (h : Recorded handler daemon made order home s) (hinvariant : Invariant s)
    {run : List TrafficEvent} (hrun : runFrom (step handler) s run = some s') :
    Invariant s' ∧ ∃ more home',
      Recorded handler daemon (made ++ callsMade run) (order ++ more) home' s' := by
  induction run using List.reverseRecOn generalizing s' with
  | nil =>
      obtain rfl := Option.some.inj hrun
      refine ⟨hinvariant, [], home, ?_⟩
      rwa [callsMade, List.filterMap_nil, List.append_nil, List.append_nil]
  | append_singleton run event ih =>
      rw [runFrom_concat] at hrun
      obtain ⟨between, hbefore, hstep⟩ := Option.bind_eq_some_iff.mp hrun
      obtain ⟨hbetween, more, home', hrecorded⟩ := ih hbefore
      obtain ⟨last, home'', hafter⟩ := hrecorded.step hbetween hstep
      refine ⟨hbetween.step hframes hstep, more ++ last, home'', ?_⟩
      rwa [callsMade_append, ← List.append_assoc, ← List.append_assoc]

/-- The books hold a linearization. -/
theorem Recorded.linearized (h : Recorded handler daemon made order home s)
    (hinvariant : Invariant s) : Linearized handler daemon made order s where
  ordered := h.ordered
  once := h.once
  requests := h.requests
  served := h.served
  returned := by
    intro value hvalue
    obtain ⟨index, answer, hanswer, hrequest, -, response, hreceive, -, hdecode⟩ :=
      hinvariant.returned value hvalue
    refine ⟨index, ?_, answer, response, hanswer, hreceive, hdecode⟩
    have hplace := congrArg (fun requests => requests[index]?) h.requests
    simp only [List.getElem?_map, hanswer, Option.map_some, hrequest] at hplace
    obtain ⟨⟨id, call⟩, hentry, htraced⟩ := Option.map_eq_some_iff.mp hplace.symm
    have hid : id = value.id := id_eq_of_traced htraced
    have hmade := h.ordered _ (List.mem_of_getElem? hentry)
    rw [hid, h.returned value hvalue] at hmade
    rw [hentry, hid, Option.some.inj hmade]

theorem recorded_start (handler : Option (CommandHandler σ)) (daemon : σ) :
    Recorded handler daemon [] [] (fun _ => 0) { daemon } where
  calls := rfl
  ordered := nofun
  once := List.nodup_nil
  requests := rfl
  served := rfl
  returned := nofun
  inCall := nofun
  awaits := nofun

theorem invariant_start (daemon : σ) : Invariant ({ daemon } : Traffic σ) where
  owned := nofun
  apart := nofun
  returned := nofun

/-- Calls that have returned come, in the order of all calls, before the calls
that are begun later. -/
theorem Linearized.before {between : Traffic σ} {past : List ClientCall}
    {earlier : List OrderedCall} (hearlier : Linearized handler daemon past earlier between)
    {more : List OrderedCall} (h : Linearized handler daemon made (earlier ++ more) s)
    {first second : ReturnedCall} (hfirst : first ∈ between.returned)
    (hsecond : second ∈ s.returned) (hbegun : past.length ≤ second.id) :
    ∃ i j : ℕ, i < j ∧ (earlier ++ more)[i]? = some (first.id, first.call) ∧
      (earlier ++ more)[j]? = some (second.id, second.call) := by
  obtain ⟨i, hi, -⟩ := hearlier.returned first hfirst
  obtain ⟨j, hj, -⟩ := h.returned second hsecond
  have hlt := (List.getElem?_eq_some_iff.mp hi).1
  refine ⟨i, j, ?_, (List.getElem?_append_left hlt).trans hi, hj⟩
  by_contra hle
  -- an earlier place belongs to a call that was made before
  rw [List.getElem?_append_left ((Nat.not_lt.mp hle).trans_lt hlt)] at hj
  have hmade := hearlier.ordered _ (List.mem_of_getElem? hj)
  exact absurd (List.getElem?_eq_some_iff.mp hmade).1 (Nat.not_lt.mpr hbegun)

/-- The handler's calls not overlapping, and they alone changing the daemon, at any
moment of any run there is an order of calls that the daemon has worked through, one
after the other and each at most once, and from which every returned value follows;
later calls are added behind, so a call begun after another one has returned comes
after it. -/
theorem linearized_run {handler : Option (CommandHandler σ)}
    (hframes : AnswersFrames handler) (daemon : σ) (past rest : List TrafficEvent)
    (between s : Traffic σ)
    (hpast : runFrom (step handler) { daemon } past = some between)
    (hrest : runFrom (step handler) between rest = some s) :
    ∃ earlier more,
      Linearized handler daemon (callsMade past) earlier between ∧
      Linearized handler daemon (callsMade (past ++ rest)) (earlier ++ more) s ∧
      ∀ first ∈ between.returned, ∀ second ∈ s.returned,
        (callsMade past).length ≤ second.id →
        ∃ i j : ℕ, i < j ∧ (earlier ++ more)[i]? = some (first.id, first.call) ∧
          (earlier ++ more)[j]? = some (second.id, second.call) := by
  obtain ⟨hbetween, earlier, home, hearlier⟩ :=
    recorded_runFrom hframes (recorded_start handler daemon) (invariant_start daemon)
      hpast
  rw [List.nil_append, List.nil_append] at hearlier
  obtain ⟨hafter, more, home', hmore⟩ :=
    recorded_runFrom hframes hearlier hbetween hrest
  rw [← callsMade_append] at hmore
  refine ⟨earlier, more, hearlier.linearized hbetween, hmore.linearized hafter, ?_⟩
  intro first hfirst second hsecond hbegun
  exact (hearlier.linearized hbetween).before (hmore.linearized hafter) hfirst
    hsecond hbegun

/-- A handler that counts the commands it is given. -/
def countCommands : CommandHandler ℕ :=
  fun _ count => (encodeStatusResponse {}, count + 1)

theorem answersFrames_countCommands : AnswersFrames (some countCommands) := by
  rintro _ ⟨⟩ command daemon
  exact ClientCall.exists_frame_of_message .statusResponse _
    (encodeStatusResponse_eq {}) (by decide)

/-- A client gives up on a call that the server handles all the same, and calls
again on another connection. -/
theorem linearized_retry :
    ∃ between s : Traffic ℕ,
      runFrom (step (some countCommands)) { daemon := 0 }
        [.connect 0 0, .call 0 .requestStatus, .sendBytes 0 3, .fails 0,
          .connect 0 1, .call 0 .requestStatus, .sendBytes 0 3, .sendReturns 0,
          .serverReceive 1 3, .serverAnswer 1, .serverSend 1 100, .receive 0 3,
          .receive 0 100, .finish 0] = some between ∧
      runFrom (step (some countCommands)) between
        [.serverReceive 0 3, .serverAnswer 0] = some s ∧
      between.daemon = 1 ∧ s.daemon = 2 ∧
      ∃ earlier more,
        Linearized (some countCommands) 0 [.requestStatus, .requestStatus] earlier
          between ∧
        Linearized (some countCommands) 0 [.requestStatus, .requestStatus]
          (earlier ++ more) s := by
  refine ⟨_, _, rfl, rfl, rfl, rfl, ?_⟩
  obtain ⟨earlier, more, hearlier, hmore, -⟩ :=
    linearized_run answersFrames_countCommands 0
      [.connect 0 0, .call 0 .requestStatus, .sendBytes 0 3, .fails 0,
        .connect 0 1, .call 0 .requestStatus, .sendBytes 0 3, .sendReturns 0,
        .serverReceive 1 3, .serverAnswer 1, .serverSend 1 100, .receive 0 3,
        .receive 0 100, .finish 0] [.serverReceive 0 3, .serverAnswer 0] _ _ rfl rfl
  exact ⟨earlier, more, hearlier, hmore⟩

end Traffic

end RamkolFX
