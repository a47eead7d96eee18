import RamkolFX.Control.ControlServer
import RamkolFX.Gui.ClientCalls
import RamkolFX.Support.Runs
import RamkolFX.Support.Updates

/-!
# Clients and the server

Any number of clients, each with at most one connection at a time, and one
server thread for every connection there ever was.  Responses carry no request
id, so the bytes here carry who wrote them.  A call of the handler is one step: the
threads take no lock over it, and that two of them do not overlap is assumed, as well
as that nothing else changes the daemon.
-/

namespace RamkolFX

open Support

/-! ## Streams -/

/-- A byte and where it is from: the call that sent it, or the answer it is
part of. -/
abbrev TracedByte := UInt8 × ℕ

def traced (bytes : List UInt8) (origin : ℕ) : List TracedByte :=
  bytes.map fun byte => (byte, origin)

def bytesOf (stream : List TracedByte) : List UInt8 := stream.map Prod.fst

@[simp] theorem traced_nil (origin : ℕ) : traced [] origin = [] := rfl

@[simp] theorem traced_append (front back : List UInt8) (origin : ℕ) :
    traced (front ++ back) origin = traced front origin ++ traced back origin :=
  List.map_append

@[simp] theorem bytesOf_traced (bytes : List UInt8) (origin : ℕ) :
    bytesOf (traced bytes origin) = bytes := by
  rw [bytesOf, traced, List.map_map]
  exact List.map_id bytes

@[simp] theorem bytesOf_append (front back : List TracedByte) :
    bytesOf (front ++ back) = bytesOf front ++ bytesOf back :=
  List.map_append

theorem eq_nil_of_bytesOf {stream : List TracedByte} (h : bytesOf stream = []) :
    stream = [] :=
  List.map_eq_nil_iff.mp h

/-! ## The parties -/

/-- Where a server thread is: in `recv`, at the front of its buffer, or in
`send`.  What it has answered is out of the buffer when it sends. -/
inductive ServerPhase
  | receiving (buffer : List TracedByte)
  | answering (buffer : List TracedByte)
  | sending (buffer pending : List TracedByte)

def ServerPhase.buffer : ServerPhase → List TracedByte
  | receiving buffer => buffer
  | answering buffer => buffer
  | sending buffer _ => buffer

def ServerPhase.pending : ServerPhase → List TracedByte
  | receiving _ => []
  | answering _ => []
  | sending _ pending => pending

/-- A connection: what either side has sent and the other has not received yet,
and its server thread, until that ends. -/
structure Connection where
  toServer : List TracedByte := []
  toClient : List TracedByte := []
  thread : Option ServerPhase := some (.receiving [])

/-- Where a call is: in `send`, or receiving. -/
inductive CallPhase
  | sending (unsent : List UInt8)
  | receiving (received : List TracedByte)

structure InCall where
  id : ℕ
  call : ClientCall
  phase : CallPhase

def InCall.unsent (inCall : InCall) : List UInt8 :=
  match inCall.phase with
  | .sending unsent => unsent
  | .receiving _ => []

def InCall.received (inCall : InCall) : List TracedByte :=
  match inCall.phase with
  | .sending _ => []
  | .receiving received => received

/-- A client: the connection behind its socket, and the call it is in. -/
structure GuiClient where
  socket : Option ℕ := none
  inCall : Option InCall := none

/-- An answer of the server: the bytes it took for a request, and its
response. -/
structure Answer where
  request : List TracedByte
  response : List UInt8

/-- A call that has returned a value, and the bytes it received. -/
structure ReturnedCall where
  id : ℕ
  call : ClientCall
  received : List TracedByte
  value : ClientValue

/-- The clients, all connections, the daemon behind the server, and the records:
the number of calls, what was answered, and which calls have returned a value. -/
structure Traffic (σ : Type) where
  daemon : σ
  clients : ℕ → GuiClient := fun _ => {}
  connections : ℕ → Option Connection := fun _ => none
  calls : ℕ := 0
  answers : List Answer := []
  returned : List ReturnedCall := []

/-- One step of a client, or of the server thread of a connection. -/
inductive TrafficEvent
  | connect (client connection : ℕ)
  | disconnect (client : ℕ)
  | call (client : ℕ) (call : ClientCall)
  | sendBytes (client count : ℕ)
  | sendReturns (client : ℕ)
  | receive (client count : ℕ)
  | fails (client : ℕ)
  | finish (client : ℕ)
  | serverReceive (connection count : ℕ)
  | serverAnswer (connection : ℕ)
  | serverSend (connection count : ℕ)
  | serverSendReturns (connection : ℕ)
  | serverCloses (connection : ℕ)

namespace Traffic

section

variable {σ : Type}

def setClient (s : Traffic σ) (client : ℕ) (state : GuiClient) : Traffic σ :=
  { s with clients := Function.update s.clients client state }

def setConnection (s : Traffic σ) (connection : ℕ) (state : Connection) :
    Traffic σ :=
  { s with connections := Function.update s.connections connection (some state) }

variable (handler : Option (CommandHandler σ))

/-- The response is whole: the call returns what it decodes, and disconnects
where it cannot. -/
def finishCall (s : Traffic σ) (client socket : ℕ) (inCall : InCall)
    (received : List TracedByte) (response : ControlClient.RawResponse) :
    Option (Traffic σ) :=
  if response.messageOpcode ≠ inCall.call.expects.toByte then
    some (s.setClient client ⟨some socket, none⟩)
  else
    match inCall.call.decodeValue response.payload with
    | .ok (some value) =>
        some { s.setClient client ⟨some socket, none⟩ with
          returned := s.returned ++ [⟨inCall.id, inCall.call, received, value⟩] }
    | .ok none => some (s.setClient client {})
    | .error _ => none

/-- The answer to the frame at the front of a buffer, and what is behind it. -/
def answered (s : Traffic σ) (connection : ℕ) (state : Connection)
    (buffer : List TracedByte) (rest : List UInt8) (exchange : Exchange)
    (daemon : σ) : Traffic σ :=
  let size := buffer.length - rest.length
  { s.setConnection connection { state with
      thread := some (.sending (buffer.drop size)
        (traced exchange.response s.answers.length)) } with
    daemon
    answers := s.answers ++ [⟨buffer.take size, exchange.response⟩] }

/-- A call without a connection returns at once.  Every `send` and `recv` can
fail, and one that does not moves any number of bytes it may. -/
def step (s : Traffic σ) : TrafficEvent → Option (Traffic σ)
  | .connect client connection =>
      match (s.clients client).inCall, s.connections connection with
      | none, none =>
          some ((s.setConnection connection {}).setClient client
            ⟨some connection, none⟩)
      | _, _ => none
  | .disconnect client =>
      match (s.clients client).inCall with
      | none => some (s.setClient client {})
      | some _ => none
  | .call client call =>
      match s.clients client with
      | ⟨some socket, none⟩ =>
          some { s.setClient client
              ⟨some socket, some ⟨s.calls, call, .sending call.request⟩⟩ with
            calls := s.calls + 1 }
      | ⟨none, none⟩ => some { s with calls := s.calls + 1 }
      | ⟨_, some _⟩ => none
  | .sendBytes client count =>
      match s.clients client with
      | ⟨some socket, some ⟨id, call, .sending unsent⟩⟩ => do
          let state ← s.connections socket
          return (s.setConnection socket { state with
              toServer := state.toServer ++ traced (unsent.take count) id
            }).setClient client
              ⟨some socket, some ⟨id, call, .sending (unsent.drop count)⟩⟩
      | _ => none
  | .sendReturns client =>
      match s.clients client with
      | ⟨some socket, some ⟨id, call, .sending []⟩⟩ =>
          some (s.setClient client
            ⟨some socket, some ⟨id, call, .receiving []⟩⟩)
      | _ => none
  | .receive client count =>
      match s.clients client with
      | ⟨some socket, some ⟨id, call, .receiving received⟩⟩ => do
          let state ← s.connections socket
          match ControlClient.receiving (bytesOf received) with
          | .needs wanted =>
              let chunk := state.toClient.take (min count wanted)
              if chunk = [] then none
              else
                return (s.setConnection socket { state with
                    toClient := state.toClient.drop (min count wanted)
                  }).setClient client
                    ⟨some socket, some ⟨id, call, .receiving (received ++ chunk)⟩⟩
          | _ => none
      | _ => none
  | .fails client =>
      match (s.clients client).inCall with
      | some _ => some (s.setClient client {})
      | none => none
  | .finish client =>
      match s.clients client with
      | ⟨some socket, some ⟨id, call, .receiving received⟩⟩ =>
          match ControlClient.receiving (bytesOf received) with
          | .needs _ => none
          | .fails => some (s.setClient client {})
          | .complete response =>
              s.finishCall client socket ⟨id, call, .receiving received⟩ received
                response
      | _ => none
  | .serverReceive connection count =>
      match s.connections connection with
      | some ⟨toServer, toClient, some (.receiving buffer)⟩ =>
          let chunk := toServer.take (min count 512)
          if chunk = [] then none
          else some (s.setConnection connection
            ⟨toServer.drop (min count 512), toClient,
              some (.answering (buffer ++ chunk))⟩)
      | _ => none
  | .serverAnswer connection =>
      match s.connections connection with
      | some ⟨toServer, toClient, some (.answering buffer)⟩ =>
          match answerFront handler (bytesOf buffer) s.daemon with
          | .ok none =>
              some (s.setConnection connection
                ⟨toServer, toClient, some (.receiving buffer)⟩)
          | .ok (some (rest, exchange, daemon)) =>
              some (s.answered connection
                ⟨toServer, toClient, some (.answering buffer)⟩ buffer rest
                exchange daemon)
          | .error _ => none
      | _ => none
  | .serverSend connection count =>
      match s.connections connection with
      | some ⟨toServer, toClient, some (.sending buffer pending)⟩ =>
          some (s.setConnection connection
            ⟨toServer, toClient ++ pending.take count,
              some (.sending buffer (pending.drop count))⟩)
      | _ => none
  | .serverSendReturns connection =>
      match s.connections connection with
      | some ⟨toServer, toClient, some (.sending buffer _)⟩ =>
          some (s.setConnection connection
            ⟨toServer, toClient, some (.answering buffer)⟩)
      | _ => none
  | .serverCloses connection =>
      match s.connections connection with
      | some ⟨toServer, toClient, some (.receiving _)⟩ =>
          some (s.setConnection connection ⟨toServer, toClient, none⟩)
      | _ => none

/-- The value was decoded from the server's answer to the call's own request:
the request is what the call sent, byte for byte, and what the call received is
the response to it, byte for byte. -/
def FromOwnAnswer (answers : List Answer) (returned : ReturnedCall) : Prop :=
  ∃ index answer, answers[index]? = some answer ∧
    answer.request = traced returned.call.request returned.id ∧
    returned.received = traced answer.response index ∧
    ∃ response,
      ControlClient.receiveResponse answer.response = some (response, []) ∧
      response.messageOpcode = returned.call.expects.toByte ∧
      returned.call.decodeValue response.payload = .ok (some returned.value)

/-- The responses of the handler are frames. -/
def AnswersFrames (handler : Option (CommandHandler σ)) : Prop :=
  ∀ handleCommand, handler = some handleCommand → ∀ command daemon,
    ∃ frame : Frame, (handleCommand command daemon).1 = frame.bytes

end

end Traffic

end RamkolFX
