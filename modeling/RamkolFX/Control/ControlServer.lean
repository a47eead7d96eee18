import RamkolFX.Control.Frames
import RamkolFX.Protocol.Responses

/-!
# Control server: one client connection

`handleClient` appends every received chunk to a buffer and answers the
complete frames at its front.  Whatever the chunks, it dispatches and answers
exactly the frames of the reference parse of the whole stream.
-/

namespace RamkolFX

open Support

/-- What one `recv` returns: between 1 and 512 bytes. -/
structure Chunk where
  bytes : List UInt8
  nonempty : bytes ≠ []
  fits : bytes.length ≤ 512

/-- A command handler: its response, and what the call does to the daemon. -/
abbrev CommandHandler (σ : Type) := Command → σ → List UInt8 × σ

/-- A handler that answers every command with a status. -/
def answerStatus : CommandHandler Unit :=
  fun _ daemon => (encodeStatusResponse {}, daemon)

/-- One round of the server: the command handed to the handler, if any, and
the response sent. -/
structure Exchange where
  dispatched : Option Command
  response : List UInt8

/-- A connection: the received bytes not yet consumed, what was exchanged so
far, and the daemon behind the handler. -/
structure ClientState (σ : Type) where
  buffer : List UInt8 := []
  exchanges : List Exchange := []
  daemon : σ

section

variable {σ : Type} (handler : Option (CommandHandler σ))

/-- The response to a decoded message. -/
def respond (decodedCommand : Option Command) (daemon : σ) : Exchange × σ :=
  match decodedCommand, handler with
  | none, _ =>
      (⟨none, encodeErrorResponse (ascii "malformed or unknown command")⟩,
        daemon)
  | some command, some handler =>
      let (response, daemon) := handler command daemon
      (⟨some command, response⟩, daemon)
  | some _, none =>
      (⟨none, encodeErrorResponse (ascii "no command handler registered")⟩,
        daemon)

/-- The inner loop of `HandleClient`: answer complete frames at the front of
the buffer, and break on an incomplete header or payload. -/
def answerBuffer (client : ClientState σ) : Checked (ClientState σ) :=
  match tryReadHeader client.buffer with
  | none => return client
  | some header =>
      let total := headerSize + header.payloadLength.toNat
      if client.buffer.length < total then return client
      else do
        let payload :=
          (client.buffer.drop headerSize).take header.payloadLength.toNat
        let decodedCommand ← decodeCommand header.messageOpcode payload
        let (exchange, daemon) := respond handler decodedCommand client.daemon
        answerBuffer
          { buffer := client.buffer.drop total,
            exchanges := client.exchanges ++ [exchange], daemon }
termination_by client.buffer.length
decreasing_by
  have hheader : headerSize = 3 := rfl
  rw [List.length_drop]
  omega

/-- One round of the inner loop: the buffer behind the frame at its front, what
was exchanged and the daemon, or nothing where the loop breaks. -/
def answerFront (buffer : List UInt8) (daemon : σ) :
    Checked (Option (List UInt8 × Exchange × σ)) :=
  match tryReadHeader buffer with
  | none => return none
  | some header =>
      let total := headerSize + header.payloadLength.toNat
      if buffer.length < total then return none
      else do
        let payload := (buffer.drop headerSize).take header.payloadLength.toNat
        let decodedCommand ← decodeCommand header.messageOpcode payload
        return some (buffer.drop total, respond handler decodedCommand daemon)

/-- `HandleClient`, until `recv` returns no more chunks. -/
def handleClient : List Chunk → ClientState σ → Checked (ClientState σ)
  | [], client => return client
  | chunk :: chunks, client => do
      let client ← answerBuffer handler
        { client with buffer := client.buffer ++ chunk.bytes }
      handleClient chunks client

/-! ## The reference behaviour -/

/-- Answer frames one after the other. -/
def answerFrames : List Frame → σ → List Exchange × σ
  | [], daemon => ([], daemon)
  | frame :: frames, daemon =>
      let (exchange, daemon) := respond handler frame.command daemon
      let (exchanges, daemon) := answerFrames frames daemon
      (exchange :: exchanges, daemon)

theorem length_answerFrames (frames : List Frame) (daemon : σ) :
    (answerFrames handler frames daemon).1.length = frames.length := by
  induction frames generalizing daemon with
  | nil => rfl
  | cons frame frames ih => simp [answerFrames, ih]

theorem answerFrames_append (front back : List Frame) (daemon : σ) :
    answerFrames handler (front ++ back) daemon =
      let (exchanges, daemon) := answerFrames handler front daemon
      let (more, daemon) := answerFrames handler back daemon
      (exchanges ++ more, daemon) := by
  induction front generalizing daemon with
  | nil => rfl
  | cons frame front ih => simp [answerFrames, ih]

/-- The connection after it received a stream, as the reference parse has
it. -/
def referenceClient (client : ClientState σ) (stream : List UInt8) :
    ClientState σ :=
  let (frames, rest) := referenceParse (client.buffer ++ stream)
  let (exchanges, daemon) := answerFrames handler frames client.daemon
  ⟨rest, client.exchanges ++ exchanges, daemon⟩

/-! ## One chunk -/

theorem tryReadHeader_none_or_short
    {buffer : List UInt8} (h : nextFrame buffer = none) :
    tryReadHeader buffer = none ∨
      ∃ header, tryReadHeader buffer = some header ∧
        buffer.length < headerSize + header.payloadLength.toNat := by
  match buffer with
  | [] | [_] | [_, _] => exact Or.inl rfl
  | op :: hi :: lo :: body =>
      refine Or.inr ⟨_, rfl, ?_⟩
      by_contra hlen
      apply absurd h
      simp only [List.length_cons, headerSize] at hlen
      simp only [nextFrame]
      rw [if_pos (by omega)]
      simp

/-- Without a complete frame the loop breaks. -/
theorem answerFront_of_none {buffer : List UInt8} (h : nextFrame buffer = none)
    (daemon : σ) : answerFront handler buffer daemon = .ok none := by
  rw [answerFront]
  rcases tryReadHeader_none_or_short h with hheader | ⟨header, hheader, hshort⟩
  · simp [hheader]
  · simp [hheader, hshort]

/-- A complete frame is answered and erased from the buffer. -/
theorem answerFront_of_some {buffer : List UInt8} {frame : Frame}
    {rest : List UInt8} (h : nextFrame buffer = some (frame, rest)) (daemon : σ) :
    answerFront handler buffer daemon =
      .ok (some (rest, respond handler frame.command daemon)) := by
  have hbuffer := nextFrame_eq_some h
  have hlen : (UInt16.ofNat frame.payload.length).toNat =
      frame.payload.length := by
    rw [UInt16.toNat_ofNat']
    exact Nat.mod_eq_of_lt frame.fits
  have hheader : tryReadHeader buffer =
      some ⟨frame.messageOpcode, UInt16.ofNat frame.payload.length⟩ := by
    simp only [hbuffer, Frame.bytes, bytesOfUInt16, List.cons_append,
      List.nil_append, tryReadHeader, uint16OfBytes_bytes]
  have hsize : frame.bytes.length = headerSize + frame.payload.length := by
    simp [Frame.bytes, headerSize]
    omega
  have hfull : ¬ buffer.length < headerSize + frame.payload.length := by
    rw [hbuffer, List.length_append, hsize]
    omega
  have hpayload : (buffer.drop headerSize).take frame.payload.length =
      frame.payload := by
    simp [hbuffer, Frame.bytes, bytesOfUInt16, headerSize]
  have hrest : buffer.drop (headerSize + frame.payload.length) = rest := by
    rw [hbuffer, ← hsize, List.drop_left]
  rw [answerFront]
  simp only [hheader, hlen, hfull, if_false, hpayload, frame.decodeCommand_eq,
    ok_bind, hrest]
  rfl

/-- The loop is its first round, followed by the loop. -/
theorem answerBuffer_eq (client : ClientState σ) :
    answerBuffer handler client =
      answerFront handler client.buffer client.daemon >>= fun
        | none => .ok client
        | some (buffer, exchange, daemon) =>
            answerBuffer handler
              { buffer, exchanges := client.exchanges ++ [exchange], daemon } := by
  rw [answerBuffer, answerFront]
  cases tryReadHeader client.buffer with
  | none => rfl
  | some header =>
      by_cases hshort :
          client.buffer.length < headerSize + header.payloadLength.toNat
      · simp only [hshort, if_true]
        rfl
      · simp only [hshort, if_false, bind_assoc, pure_bind]

/-- The loop answers exactly the frames the buffer holds and keeps the
incomplete rest. -/
theorem answerBuffer_spec (client : ClientState σ) :
    answerBuffer handler client = .ok (referenceClient handler client []) := by
  obtain ⟨buffer, exchanges, daemon⟩ := client
  induction buffer using frameReader.parse_induction
    generalizing exchanges daemon with
  | incomplete buffer h =>
      rw [answerBuffer_eq, answerFront_of_none handler h daemon, ok_bind]
      simp [referenceClient, referenceParse, frameReader.parse_of_none h,
        answerFrames]
  | frame buffer frame rest h ih =>
      rw [answerBuffer_eq, answerFront_of_some handler h daemon, ok_bind]
      show answerBuffer handler ⟨rest,
        exchanges ++ [(respond handler frame.command daemon).1],
        (respond handler frame.command daemon).2⟩ = _
      rw [ih]
      simp [referenceClient, referenceParse, frameReader.parse_of_some h,
        answerFrames]

/-! ## A whole connection -/

/-- Bytes received later continue where the reference client stands. -/
theorem referenceClient_append
    (client : ClientState σ) (front back : List UInt8) :
    referenceClient handler (referenceClient handler client front) back =
      referenceClient handler client (front ++ back) := by
  have hparse := frameReader.parse_append (client.buffer ++ front) back
  rw [List.append_assoc] at hparse
  simp [referenceClient, referenceParse, hparse, answerFrames_append]

/-- From any point of a connection, the chunks still to come are handled as
one stream behind the buffer. -/
theorem handleClient_spec
    (chunks : List Chunk) (client : ClientState σ)
    (h : nextFrame client.buffer = none) :
    handleClient handler chunks client =
      .ok (referenceClient handler client (chunks.flatMap Chunk.bytes)) := by
  induction chunks generalizing client with
  | nil =>
      have hparse := frameReader.parse_of_none h
      simp [handleClient, referenceClient, referenceParse, hparse, answerFrames]
  | cons chunk chunks ih =>
      let received : ClientState σ :=
        { client with buffer := client.buffer ++ chunk.bytes }
      have hchunk : referenceClient handler received [] =
          referenceClient handler client chunk.bytes := by
        simp [received, referenceClient]
      have hrest : nextFrame
          (referenceClient handler client chunk.bytes).buffer = none :=
        frameReader.next_rest (client.buffer ++ chunk.bytes)
      rw [handleClient, answerBuffer_spec, ok_bind, hchunk, ih _ hrest,
        referenceClient_append, List.flatMap_cons]

/-- The daemon behind a handler that was given the commands of some frames. -/
def daemonAfter (handle : CommandHandler σ) (frames : List Frame) (daemon : σ) : σ :=
  (frames.filterMap Frame.command).foldl
    (fun daemon command => (handle command daemon).2) daemon

/-- A connection that answers its stream as the reference parse says. -/
structure AnswersReferenceParse
    (stream : List UInt8) (daemon : σ) (client : ClientState σ) : Prop where
  /-- The stream is the parsed frames and the bytes kept in the buffer. -/
  stream_eq :
    (referenceParse stream).1.flatMap Frame.bytes ++ client.buffer = stream
  /-- The buffer is a proper prefix of a frame: nothing complete is pending
  and nothing incomplete was dispatched. -/
  incomplete : IsIncompleteFrame client.buffer
  /-- The frames were answered in order, and nothing else was. -/
  answered : (client.exchanges, client.daemon) =
    answerFrames handler (referenceParse stream).1 daemon
  one_response : client.exchanges.length = (referenceParse stream).1.length
  /-- A frame that does not decode is answered with one error response. -/
  undecodable : ∀ (i : ℕ) (frame : Frame), (referenceParse stream).1[i]? = some frame →
    decodeCommand frame.messageOpcode frame.payload = .ok none →
    ∃ exchange : Exchange, client.exchanges[i]? = some exchange ∧
      exchange.dispatched = none ∧
      WellFramed .errorResponse exchange.response
        (ascii "malformed or unknown command")
  /-- The command of a frame that decodes is given to the handler, after those of
  the frames before it, and answered with the handler's response. -/
  decodable : ∀ handle, handler = some handle →
    ∀ (i : ℕ) (frame : Frame) (command : Command),
      (referenceParse stream).1[i]? = some frame →
      decodeCommand frame.messageOpcode frame.payload = .ok (some command) →
      client.exchanges[i]? = some
        { dispatched := some command
          response := (handle command
            (daemonAfter handle ((referenceParse stream).1.take i) daemon)).1 }
  /-- The handler is given nothing else. -/
  handled : ∀ handle, handler = some handle →
    client.daemon = daemonAfter handle (referenceParse stream).1 daemon

/-- The response sent for a frame that does not decode is a well-formed error
response that carries the message. -/
theorem wellFramed_malformed :
    WellFramed .errorResponse
      (encodeErrorResponse (ascii "malformed or unknown command"))
      (ascii "malformed or unknown command") :=
  ⟨by decide, by decide, by decide, by decide⟩

/-- Frame `i` is answered by exchange `i`, in the daemon that the frames before it
have left. -/
theorem getElem?_answerFrames
    (frames : List Frame) (daemon : σ) (i : ℕ) {frame : Frame}
    (h : frames[i]? = some frame) :
    (answerFrames handler frames daemon).1[i]? = some (respond handler frame.command
      (answerFrames handler (frames.take i) daemon).2).1 := by
  induction frames generalizing daemon i with
  | nil => simp at h
  | cons first frames ih =>
      cases i with
      | zero =>
          obtain rfl : first = frame := by simpa using h
          rfl
      | succ i =>
          have htail : frames[i]? = some frame := by simpa using h
          exact ih (respond handler first.command daemon).2 i htail

/-- Answering frames hands their commands to the handler, one after the other. -/
theorem answerFrames_snd (handle : CommandHandler σ) (frames : List Frame)
    (daemon : σ) :
    (answerFrames (some handle) frames daemon).2 =
      daemonAfter handle frames daemon := by
  induction frames generalizing daemon with
  | nil => rfl
  | cons frame frames ih =>
      have hrest : (answerFrames (some handle) (frame :: frames) daemon).2 =
          daemonAfter handle frames
            (respond (some handle) frame.command daemon).2 :=
        ih (respond (some handle) frame.command daemon).2
      rw [hrest, daemonAfter, daemonAfter, List.filterMap_cons]
      cases frame.command with
      | none => rfl
      | some command => rfl

/-- However the stream of a client is cut into chunks, the server dispatches
and answers exactly the frames of the reference parse, and the buffer holds
the incomplete rest. -/
theorem handleClient_answers_referenceParse
    (chunks : List Chunk) (daemon : σ) :
    ∃ client, handleClient handler chunks { daemon } = .ok client ∧
      AnswersReferenceParse handler (chunks.flatMap Chunk.bytes) daemon
        client := by
  refine ⟨_, handleClient_spec handler chunks { daemon } rfl, ?_⟩
  obtain ⟨hstream, hincomplete⟩ :=
    referenceParse_spec (chunks.flatMap Chunk.bytes)
  constructor
  · exact hstream
  · exact hincomplete
  · simp [referenceClient]
  · simp [referenceClient, length_answerFrames]
  · intro i frame hframe hdecode
    have hcommand : frame.command = none :=
      Except.ok.inj (frame.decodeCommand_eq.symm.trans hdecode)
    have hexchange := getElem?_answerFrames handler _ daemon i hframe
    rw [hcommand] at hexchange
    exact ⟨_, hexchange, rfl, wellFramed_malformed⟩
  · rintro handle rfl i frame command hframe hdecode
    have hcommand : frame.command = some command :=
      Except.ok.inj (frame.decodeCommand_eq.symm.trans hdecode)
    have hexchange := getElem?_answerFrames (some handle) _ daemon i hframe
    rw [hcommand, answerFrames_snd] at hexchange
    exact hexchange
  · rintro handle rfl
    exact answerFrames_snd handle _ daemon

end

end RamkolFX
