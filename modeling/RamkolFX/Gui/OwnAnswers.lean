import RamkolFX.Gui.Traffic
import RamkolFX.Support.Interleaving

/-!
# Every value is from the call's own answer

A client has at most one request under way on its connection, and every
failure closes it.  So what is in flight on a connection in use is the request
of one call, or the answer to it, and nothing else.
-/

namespace RamkolFX

open Support

/-! ## What is in flight on a connection -/

def Connection.pending (connection : Connection) : List TracedByte :=
  (connection.thread.map ServerPhase.pending).getD []

/-- Nothing is under way. -/
structure Quiet (connection : Connection) : Prop where
  toServer : connection.toServer = []
  toClient : connection.toClient = []
  pending : connection.pending = []
  buffer : ∀ phase, connection.thread = some phase → phase.buffer = []

/-- The request of a call is on its way to the server. -/
structure Unanswered (inCall : InCall) (connection : Connection) : Prop where
  received : inCall.received = []
  toClient : connection.toClient = []
  pending : connection.pending = []
  request : ∀ phase, connection.thread = some phase →
    phase.buffer ++ connection.toServer ++ traced inCall.unsent inCall.id =
      traced inCall.call.request inCall.id

/-- The answer to a call is on its way to the client, as far as it was sent. -/
structure Answered (answers : List Answer) (inCall : InCall)
    (connection : Connection) (index : ℕ) (answer : Answer) : Prop where
  unsent : inCall.unsent = []
  toServer : connection.toServer = []
  buffer : ∀ phase, connection.thread = some phase → phase.buffer = []
  answers : answers[index]? = some answer
  request : answer.request = traced inCall.call.request inCall.id
  frame : ∃ frame : Frame, answer.response = frame.bytes
  arriving : inCall.received ++ connection.toClient ++ connection.pending <+:
    traced answer.response index

/-- The state of a client and of its connection fit. -/
def Fits (answers : List Answer) (client : GuiClient) (connection : Connection) :
    Prop :=
  match client.inCall with
  | none => Quiet connection
  | some inCall =>
      Unanswered inCall connection ∨
        ∃ index answer, Answered answers inCall connection index answer

/-- An answer keeps its index. -/
theorem answers_mono {answers more : List Answer} (h : answers <+: more)
    {index : ℕ} {answer : Answer} (hanswer : answers[index]? = some answer) :
    more[index]? = some answer := by
  obtain ⟨hindex, rfl⟩ := List.getElem?_eq_some_iff.mp hanswer
  exact List.getElem?_eq_some_iff.mpr
    ⟨hindex.trans_le h.length_le, (h.getElem hindex).symm⟩

theorem Answered.mono {answers more : List Answer} {inCall : InCall}
    {connection : Connection} {index : ℕ} {answer : Answer}
    (h : Answered answers inCall connection index answer)
    (hmore : answers <+: more) :
    Answered more inCall connection index answer :=
  { h with answers := answers_mono hmore h.answers }

theorem Fits.mono {answers more : List Answer} {client : GuiClient}
    {connection : Connection} (h : Fits answers client connection)
    (hmore : answers <+: more) : Fits more client connection := by
  rw [Fits] at h ⊢
  cases hcall : client.inCall with
  | none =>
      rw [hcall] at h
      exact h
  | some inCall =>
      rw [hcall] at h
      rcases h with hunanswered | ⟨index, answer, hanswered⟩
      · exact Or.inl hunanswered
      · exact Or.inr ⟨index, answer, hanswered.mono hmore⟩

theorem quiet_new : Quiet {} where
  toServer := rfl
  toClient := rfl
  pending := rfl
  buffer := by
    intro phase hphase
    obtain rfl := Option.some.inj hphase
    rfl

/-! ## Steps of the client -/

section

variable {answers : List Answer} {connection : Connection} {id : ℕ}
  {call : ClientCall}

/-- A call begins on a connection where nothing is under way. -/
theorem Quiet.beginCall (h : Quiet connection) :
    Unanswered ⟨id, call, .sending call.request⟩ connection where
  received := rfl
  toClient := h.toClient
  pending := h.pending
  request := by
    intro phase hphase
    rw [h.buffer phase hphase, h.toServer]
    rfl

/-- Some bytes of the request are sent. -/
theorem Unanswered.sendBytes {unsent : List UInt8}
    (h : Unanswered ⟨id, call, .sending unsent⟩ connection) (count : ℕ) :
    Unanswered ⟨id, call, .sending (unsent.drop count)⟩
      { connection with
        toServer := connection.toServer ++ traced (unsent.take count) id } where
  received := rfl
  toClient := h.toClient
  pending := h.pending
  request := by
    intro phase hphase
    rw [← h.request phase hphase]
    simp only [InCall.unsent, List.append_assoc]
    rw [← traced_append, List.take_append_drop]

theorem Answered.sendBytes {unsent : List UInt8} {index : ℕ} {answer : Answer}
    (h : Answered answers ⟨id, call, .sending unsent⟩ connection index answer)
    (count : ℕ) :
    Answered answers ⟨id, call, .sending (unsent.drop count)⟩
      { connection with
        toServer := connection.toServer ++ traced (unsent.take count) id }
      index answer := by
  have hunsent : unsent = [] := h.unsent
  subst hunsent
  rw [List.drop_nil, List.take_nil, traced_nil, List.append_nil]
  exact h

/-- The request is sent. -/
theorem Fits.sendReturns {socket : Option ℕ}
    (h : Fits answers ⟨socket, some ⟨id, call, .sending []⟩⟩ connection) :
    Fits answers ⟨socket, some ⟨id, call, .receiving []⟩⟩ connection := by
  rcases h with hunanswered | ⟨index, answer, hanswered⟩
  · exact Or.inl ⟨rfl, hunanswered.toClient, hunanswered.pending,
      hunanswered.request⟩
  · exact Or.inr ⟨index, answer, rfl, hanswered.toServer, hanswered.buffer,
      hanswered.answers, hanswered.request, hanswered.frame, hanswered.arriving⟩

/-- Some bytes arrive. -/
theorem Answered.receive {received : List TracedByte} {index : ℕ}
    {answer : Answer}
    (h : Answered answers ⟨id, call, .receiving received⟩ connection index answer)
    (count : ℕ) :
    Answered answers
      ⟨id, call, .receiving (received ++ connection.toClient.take count)⟩
      { connection with toClient := connection.toClient.drop count }
      index answer := by
  refine ⟨rfl, h.toServer, h.buffer, h.answers, h.request, h.frame, ?_⟩
  have harriving := h.arriving
  simp only [InCall.received] at harriving ⊢
  rw [List.append_assoc received, List.take_append_drop]
  exact harriving

/-- A whole response that has arrived is the answer, and nothing is under way
behind it. -/
theorem Answered.complete {received : List TracedByte} {index : ℕ}
    {answer : Answer} {response : ControlClient.RawResponse}
    (h : Answered answers ⟨id, call, .receiving received⟩ connection index answer)
    (hcomplete : ControlClient.receiving (bytesOf received) =
      .complete response) :
    Quiet connection ∧ received = traced answer.response index ∧
      ControlClient.receiveResponse answer.response = some (response, []) := by
  obtain ⟨frame, hframe⟩ := h.frame
  have hreceived : received <+: traced answer.response index := by
    have harriving := h.arriving
    rw [List.append_assoc] at harriving
    exact (List.prefix_append received _).trans harriving
  have hbytes : bytesOf received <+: frame.bytes := by
    have hmap := hreceived.map Prod.fst
    rw [← hframe, ← bytesOf_traced answer.response index]
    exact hmap
  obtain ⟨hwhole, hreceive⟩ :=
    ControlClient.eq_of_receiving_complete hbytes hcomplete
  have hlength : (traced answer.response index).length ≤ received.length := by
    have hsame := congrArg List.length hwhole
    rw [bytesOf, List.length_map] at hsame
    rw [traced, List.length_map, hframe, hsame]
  have heq : received = traced answer.response index :=
    hreceived.eq_of_length_le hlength
  -- what has arrived is all of the answer, so nothing of it is left
  have hrest : connection.toClient ++ connection.pending = [] := by
    have harriving := h.arriving
    rw [List.append_assoc] at harriving
    have hle := harriving.length_le
    rw [List.length_append] at hle
    change received.length + _ ≤ _ at hle
    rw [heq] at hle
    exact List.eq_nil_of_length_eq_zero (by omega)
  obtain ⟨htoClient, hpending⟩ := List.append_eq_nil_iff.mp hrest
  refine ⟨⟨h.toServer, htoClient, hpending, h.buffer⟩, heq, ?_⟩
  rw [hframe]
  exact hreceive

end

/-! ## Steps of the server -/

section

variable {answers : List Answer} {client : GuiClient}
  {toServer toClient : List TracedByte}

/-- The thread moves on with the same buffer, and drops what it has not sent if
anything. -/
theorem Fits.of_phase {phase phase' : ServerPhase}
    (h : Fits answers client ⟨toServer, toClient, some phase⟩)
    (hbuffer : phase'.buffer = phase.buffer)
    (hpending : phase'.pending <+: phase.pending) :
    Fits answers client ⟨toServer, toClient, some phase'⟩ := by
  have hempty : phase.pending = [] → phase'.pending = [] := by
    intro hnil
    rw [hnil] at hpending
    exact List.prefix_nil.mp hpending
  rw [Fits] at h ⊢
  cases hcall : client.inCall with
  | none =>
      rw [hcall] at h
      refine ⟨h.toServer, h.toClient, hempty h.pending, ?_⟩
      rintro _ ⟨⟩
      exact hbuffer.trans (h.buffer phase rfl)
  | some inCall =>
      rw [hcall] at h
      rcases h with hunanswered | ⟨index, answer, hanswered⟩
      · refine Or.inl ⟨hunanswered.received, hunanswered.toClient,
          hempty hunanswered.pending, ?_⟩
        rintro _ ⟨⟩
        rw [hbuffer]
        exact hunanswered.request phase rfl
      · refine Or.inr ⟨index, answer, hanswered.unsent, hanswered.toServer, ?_,
          hanswered.answers, hanswered.request, hanswered.frame, ?_⟩
        · rintro _ ⟨⟩
          exact hbuffer.trans (hanswered.buffer phase rfl)
        · have hshorter : inCall.received ++ toClient ++ phase'.pending <+:
              inCall.received ++ toClient ++ phase.pending :=
            List.prefix_append_right_inj _ |>.mpr hpending
          exact hshorter.trans hanswered.arriving

/-- The thread ends. -/
theorem Fits.serverCloses {buffer : List TracedByte}
    (h : Fits answers client ⟨toServer, toClient, some (.receiving buffer)⟩) :
    Fits answers client ⟨toServer, toClient, none⟩ := by
  rw [Fits] at h ⊢
  cases hcall : client.inCall with
  | none =>
      rw [hcall] at h
      exact ⟨h.toServer, h.toClient, rfl, nofun⟩
  | some inCall =>
      rw [hcall] at h
      rcases h with hunanswered | ⟨index, answer, hanswered⟩
      · exact Or.inl ⟨hunanswered.received, hunanswered.toClient, rfl, nofun⟩
      · exact Or.inr ⟨index, answer, hanswered.unsent, hanswered.toServer, nofun,
          hanswered.answers, hanswered.request, hanswered.frame,
          hanswered.arriving⟩

/-- The thread receives some bytes of a request. -/
theorem Fits.serverReceive {buffer : List TracedByte} {count : ℕ}
    (h : Fits answers client ⟨toServer, toClient, some (.receiving buffer)⟩)
    (hchunk : toServer.take count ≠ []) :
    Fits answers client ⟨toServer.drop count, toClient,
      some (.answering (buffer ++ toServer.take count))⟩ := by
  have hsome : toServer ≠ [] := by
    rintro rfl
    exact hchunk List.take_nil
  rw [Fits] at h ⊢
  cases hcall : client.inCall with
  | none =>
      rw [hcall] at h
      exact absurd h.toServer hsome
  | some inCall =>
      rw [hcall] at h
      rcases h with hunanswered | ⟨index, answer, hanswered⟩
      · refine Or.inl ⟨hunanswered.received, hunanswered.toClient, rfl, ?_⟩
        rintro _ ⟨⟩
        rw [← hunanswered.request _ rfl]
        simp only [ServerPhase.buffer]
        rw [List.append_assoc buffer, List.take_append_drop]
      · exact absurd hanswered.toServer hsome

/-- The thread sends some bytes of a response. -/
theorem Fits.serverSend {buffer pending : List TracedByte} {count : ℕ}
    (h : Fits answers client ⟨toServer, toClient, some (.sending buffer pending)⟩) :
    Fits answers client ⟨toServer, toClient ++ pending.take count,
      some (.sending buffer (pending.drop count))⟩ := by
  rw [Fits] at h ⊢
  cases hcall : client.inCall with
  | none =>
      rw [hcall] at h
      obtain rfl : pending = [] := h.pending
      rw [List.take_nil, List.drop_nil, List.append_nil]
      exact h
  | some inCall =>
      rw [hcall] at h
      rcases h with hunanswered | ⟨index, answer, hanswered⟩
      · obtain rfl : pending = [] := hunanswered.pending
        rw [List.take_nil, List.drop_nil, List.append_nil]
        exact Or.inl hunanswered
      · refine Or.inr ⟨index, answer, hanswered.unsent, hanswered.toServer, ?_,
          hanswered.answers, hanswered.request, hanswered.frame, ?_⟩
        · rintro _ ⟨⟩
          have hbuffer : buffer = [] := hanswered.buffer (.sending buffer pending) rfl
          exact hbuffer
        · have harriving : inCall.received ++ toClient ++ pending <+:
            traced answer.response index := hanswered.arriving
          show inCall.received ++ (toClient ++ pending.take count) ++
            pending.drop count <+: _
          rw [← List.append_assoc, List.append_assoc _ (pending.take count),
            List.take_append_drop]
          exact harriving

/-- The frame at the front of the buffer is the request of the call, and all
there is. -/
theorem Unanswered.eq_of_next {inCall : InCall} {buffer : List TracedByte}
    {frame : Frame} {rest : List UInt8}
    (h : Unanswered inCall ⟨toServer, toClient, some (.answering buffer)⟩)
    (hnext : nextFrame (bytesOf buffer) = some (frame, rest)) :
    rest = [] ∧ toServer = [] ∧ inCall.unsent = [] ∧
      buffer = traced inCall.call.request inCall.id := by
  obtain ⟨request, hrequest⟩ := inCall.call.exists_frame_request
  have hall := h.request _ rfl
  simp only [ServerPhase.buffer] at hall
  let behind : List UInt8 := bytesOf toServer ++ inCall.unsent
  have hbytes : bytesOf buffer ++ behind = request.bytes := by
    have hmap := congrArg bytesOf hall
    simp only [bytesOf_append, bytesOf_traced, hrequest, List.append_assoc] at hmap
    exact hmap
  have hlong : nextFrame (bytesOf buffer ++ behind) =
      some (frame, rest ++ behind) := frameReader.extend behind hnext
  have hwhole := nextFrame_bytes request []
  rw [hbytes] at hlong
  rw [List.append_nil, hlong] at hwhole
  have hnothing := (Prod.mk.inj (Option.some.inj hwhole)).2
  obtain ⟨hrest, hbehind⟩ := List.append_eq_nil_iff.mp hnothing
  obtain ⟨htoServer, hunsent⟩ := List.append_eq_nil_iff.mp hbehind
  have hempty := eq_nil_of_bytesOf htoServer
  refine ⟨hrest, hempty, hunsent, ?_⟩
  rw [hempty, hunsent, traced_nil, List.append_nil, List.append_nil] at hall
  exact hall

/-- The thread answers the request of the call. -/
theorem Fits.serverAnswer {buffer : List TracedByte} {frame : Frame}
    {rest response : List UInt8}
    (h : Fits answers client ⟨toServer, toClient, some (.answering buffer)⟩)
    (hnext : nextFrame (bytesOf buffer) = some (frame, rest))
    (hframe : ∃ frame : Frame, response = frame.bytes) :
    let size := buffer.length - rest.length
    Fits (answers ++ [⟨buffer.take size, response⟩]) client
      ⟨toServer, toClient, some (.sending (buffer.drop size)
        (traced response answers.length))⟩ := by
  intro size
  have hbuffer : buffer ≠ [] := by
    rintro rfl
    cases hnext
  rw [Fits] at h ⊢
  cases hcall : client.inCall with
  | none =>
      rw [hcall] at h
      exact absurd (h.buffer _ rfl) hbuffer
  | some inCall =>
      rw [hcall] at h
      rcases h with hunanswered | ⟨index, answer, hanswered⟩
      · obtain ⟨rfl, htoServer, hunsent, hrequest⟩ := hunanswered.eq_of_next hnext
        have hsize : size = buffer.length := rfl
        refine Or.inr ⟨answers.length, ⟨buffer.take size, response⟩, hunsent,
          htoServer, ?_, List.getElem?_concat_length, ?_, hframe, ?_⟩
        · rintro _ ⟨⟩
          exact List.drop_eq_nil_of_le hsize.ge
        · rw [hsize, List.take_length]
          exact hrequest
        · rw [hunanswered.received, List.nil_append]
          show toClient ++ _ <+: _
          rw [show toClient = [] from hunanswered.toClient, List.nil_append]
          exact List.prefix_rfl
      · exact absurd (hanswered.buffer _ rfl) hbuffer

end

/-! ## Runs -/

namespace Traffic

variable {σ : Type}

/-- Every client with a socket has a connection of its own that fits, and the
values returned so far are from their calls' own answers. -/
structure Invariant (s : Traffic σ) : Prop where
  owned : ∀ client socket, (s.clients client).socket = some socket →
    ∃ connection, s.connections socket = some connection ∧
      Fits s.answers (s.clients client) connection
  apart : ∀ client other socket, (s.clients client).socket = some socket →
    (s.clients other).socket = some socket → client = other
  returned : ∀ returned ∈ s.returned, FromOwnAnswer s.answers returned

theorem FromOwnAnswer.mono {answers more : List Answer} {returned : ReturnedCall}
    (h : FromOwnAnswer answers returned) (hmore : answers <+: more) :
    FromOwnAnswer more returned := by
  obtain ⟨index, answer, hanswer, hrest⟩ := h
  exact ⟨index, answer, answers_mono hmore hanswer, hrest⟩

variable {s s' : Traffic σ} {client socket : ℕ}

/-- A client moves on, alone or with its connection. -/
theorem Invariant.of_client (h : Invariant s) (calls : ℕ) {state : GuiClient}
    {connections : ℕ → Option Connection} {returned : List ReturnedCall}
    (hothers : ∀ other socket, other ≠ client →
      (s.clients other).socket = some socket →
        connections socket = s.connections socket ∧ state.socket ≠ some socket)
    (hstate : ∀ socket, state.socket = some socket →
      ∃ connection, connections socket = some connection ∧
        Fits s.answers state connection)
    (hreturned : ∀ call ∈ returned, FromOwnAnswer s.answers call) :
    Invariant { s with
      clients := Function.update s.clients client state
      connections
      calls
      returned } where
  owned := by
    intro other socket hsocket
    by_cases hother : other = client
    · subst hother
      simp only [Function.update_self] at hsocket ⊢
      exact hstate socket hsocket
    · simp only [Function.update_of_ne hother] at hsocket ⊢
      rw [(hothers other socket hother hsocket).1]
      exact h.owned other socket hsocket
  apart := by
    intro first second socket hfirst hsecond
    by_cases h1 : first = client
    · by_cases h2 : second = client
      · exact h1.trans h2.symm
      · subst h1
        simp only [Function.update_self] at hfirst
        simp only [Function.update_of_ne h2] at hsecond
        exact absurd hfirst (hothers second socket h2 hsecond).2
    · simp only [Function.update_of_ne h1] at hfirst
      by_cases h2 : second = client
      · subst h2
        simp only [Function.update_self] at hsecond
        exact absurd hsecond (hothers first socket h1 hfirst).2
      · simp only [Function.update_of_ne h2] at hsecond
        exact h.apart first second socket hfirst hsecond
  returned := hreturned

/-- A client gives up its connection. -/
theorem Invariant.disconnect (h : Invariant s) :
    Invariant (s.setClient client {}) := by
  apply h.of_client s.calls
  · intro other socket _ _
    exact ⟨rfl, nofun⟩
  · nofun
  · exact h.returned

/-- A client gets a connection that nobody ever had. -/
theorem Invariant.connect (h : Invariant s) (hnew : s.connections socket = none) :
    Invariant ((s.setConnection socket {}).setClient client
      ⟨some socket, none⟩) := by
  apply h.of_client s.calls
  · intro other taken _ htaken
    obtain ⟨connection, hconnection, -⟩ := h.owned other taken htaken
    have hne : taken ≠ socket := by
      rintro rfl
      cases hnew.symm.trans hconnection
    exact ⟨Function.update_of_ne hne .., fun heq => hne (Option.some.inj heq).symm⟩
  · rintro _ ⟨⟩
    exact ⟨{}, Function.update_self .., quiet_new⟩
  · exact h.returned

/-- The connection of a client is no other's. -/
theorem Invariant.ne_of_other (h : Invariant s)
    (hsocket : (s.clients client).socket = some socket) {other taken : ℕ}
    (hother : other ≠ client)
    (htaken : (s.clients other).socket = some taken) : taken ≠ socket := by
  rintro rfl
  exact hother (h.apart other client taken htaken hsocket)

theorem Invariant.fits (h : Invariant s) {inCall : Option InCall}
    (hclient : s.clients client = ⟨some socket, inCall⟩) {connection : Connection}
    (hconnection : s.connections socket = some connection) :
    Fits s.answers ⟨some socket, inCall⟩ connection := by
  have hsocket : (s.clients client).socket = some socket := by rw [hclient]
  obtain ⟨owned, howned, hfits⟩ := h.owned client socket hsocket
  obtain rfl := Option.some.inj (hconnection.symm.trans howned)
  rw [hclient] at hfits
  exact hfits

/-- A client moves on in a call, and its connection with it. -/
theorem Invariant.moves (h : Invariant s) (calls : ℕ)
    {inCall inCall' : Option InCall}
    (hclient : s.clients client = ⟨some socket, inCall⟩) {state : Connection}
    (hfits : Fits s.answers ⟨some socket, inCall'⟩ state) :
    Invariant { s with
      clients := Function.update s.clients client ⟨some socket, inCall'⟩
      connections := Function.update s.connections socket (some state)
      calls } := by
  have hsocket : (s.clients client).socket = some socket := by rw [hclient]
  apply h.of_client calls
  · intro other taken hother htaken
    have hne := h.ne_of_other hsocket hother htaken
    exact ⟨Function.update_of_ne hne .., fun heq => hne (Option.some.inj heq).symm⟩
  · rintro _ ⟨⟩
    exact ⟨state, Function.update_self .., hfits⟩
  · exact h.returned

/-- A client moves on in a call without its connection. -/
theorem Invariant.movesAlone (h : Invariant s) (calls : ℕ)
    {inCall inCall' : Option InCall} {returned : List ReturnedCall}
    (hclient : s.clients client = ⟨some socket, inCall⟩)
    (hfits : ∀ connection, Fits s.answers ⟨some socket, inCall⟩ connection →
      Fits s.answers ⟨some socket, inCall'⟩ connection)
    (hreturned : ∀ call ∈ returned, FromOwnAnswer s.answers call) :
    Invariant { s with
      clients := Function.update s.clients client ⟨some socket, inCall'⟩
      calls
      returned } := by
  have hsocket : (s.clients client).socket = some socket := by rw [hclient]
  apply h.of_client calls
  · intro other taken hother htaken
    have hne := h.ne_of_other hsocket hother htaken
    exact ⟨rfl, fun heq => hne (Option.some.inj heq).symm⟩
  · rintro _ ⟨⟩
    obtain ⟨connection, hconnection, hold⟩ := h.owned client socket hsocket
    rw [hclient] at hold
    exact ⟨connection, hconnection, hfits connection hold⟩
  · exact hreturned

/-- A server thread moves on, with answers added to the record. -/
theorem Invariant.of_server (h : Invariant s) {number : ℕ}
    {connection connection' : Connection} {daemon : σ} {answers : List Answer}
    (hconnection : s.connections number = some connection)
    (hmore : s.answers <+: answers)
    (hfits : ∀ state, Fits s.answers state connection →
      Fits answers state connection') :
    Invariant { s with
      daemon
      connections := Function.update s.connections number (some connection')
      answers } where
  owned := by
    intro client socket hsocket
    obtain ⟨state, hstate, hold⟩ := h.owned client socket hsocket
    by_cases hnumber : socket = number
    · subst hnumber
      obtain rfl := Option.some.inj (hconnection.symm.trans hstate)
      exact ⟨connection', Function.update_self .., hfits _ hold⟩
    · exact ⟨state, (Function.update_of_ne hnumber ..).trans hstate,
        hold.mono hmore⟩
  apart := h.apart
  returned := fun returned hreturned => (h.returned returned hreturned).mono hmore

/-- A call takes its response and ends. -/
theorem Invariant.finishCall (h : Invariant s) {id : ℕ} {call : ClientCall}
    {received : List TracedByte} {response : ControlClient.RawResponse}
    (hclient : s.clients client =
      ⟨some socket, some ⟨id, call, .receiving received⟩⟩)
    (hcomplete : ControlClient.receiving (bytesOf received) =
      .complete response)
    (hfinish : s.finishCall client socket ⟨id, call, .receiving received⟩ received
      response = some s') : Invariant s' := by
  have hanswered : ∀ connection,
      Fits s.answers ⟨some socket, some ⟨id, call, .receiving received⟩⟩
        connection → ∃ index answer,
        Answered s.answers ⟨id, call, .receiving received⟩ connection index
          answer := by
    intro connection hfits
    rcases hfits with hunanswered | hanswered
    · obtain rfl : received = [] := hunanswered.received
      cases hcomplete
    · exact hanswered
  have hquiet : ∀ connection,
      Fits s.answers ⟨some socket, some ⟨id, call, .receiving received⟩⟩
        connection → Fits s.answers ⟨some socket, none⟩ connection := by
    intro connection hfits
    obtain ⟨index, answer, hanswer⟩ := hanswered connection hfits
    exact (hanswer.complete hcomplete).1
  rw [Traffic.finishCall] at hfinish
  split at hfinish
  · obtain rfl := Option.some.inj hfinish
    exact h.movesAlone s.calls hclient hquiet h.returned
  · rename_i hopcode
    split at hfinish
    · rename_i value hvalue
      obtain rfl := Option.some.inj hfinish
      apply h.movesAlone s.calls hclient hquiet
      intro returned hreturned
      rcases List.mem_append.mp hreturned with hold | hnew
      · exact h.returned returned hold
      · obtain rfl := List.mem_singleton.mp hnew
        have hsocket : (s.clients client).socket = some socket := by rw [hclient]
        obtain ⟨connection, -, hfits⟩ := h.owned client socket hsocket
        rw [hclient] at hfits
        obtain ⟨index, answer, hanswer⟩ := hanswered connection hfits
        obtain ⟨-, hreceived, hreceive⟩ := hanswer.complete hcomplete
        exact ⟨index, answer, hanswer.answers, hanswer.request, hreceived, response,
          hreceive, not_not.mp hopcode, hvalue⟩
    · obtain rfl := Option.some.inj hfinish
      exact h.disconnect
    · cases hfinish

/-- The server's own errors are frames too. -/
theorem exists_frame_respond {handler : Option (CommandHandler σ)}
    (hframes : AnswersFrames handler) (decodedCommand : Option Command)
    (daemon : σ) :
    ∃ frame : Frame, (respond handler decodedCommand daemon).1.response =
      frame.bytes := by
  cases decodedCommand with
  | none =>
      exact ClientCall.exists_frame_of_message .errorResponse
        (ascii "malformed or unknown command") rfl (by decide)
  | some command =>
      cases handler with
      | none =>
          exact ClientCall.exists_frame_of_message .errorResponse
            (ascii "no command handler registered") rfl (by decide)
      | some handleCommand => exact hframes handleCommand rfl command daemon

/-- A client receives some bytes of a response. -/
theorem Invariant.receive (h : Invariant s) {handler : Option (CommandHandler σ)}
    {client count : ℕ}
    (hstep : step handler s (.receive client count) = some s') : Invariant s' := by
  simp only [Traffic.step] at hstep
  split at hstep
  · rename_i socket id call received hclient
    obtain ⟨state, hstate, hreceived⟩ := Option.bind_eq_some_iff.mp hstep
    split at hreceived
    · split at hreceived
      · cases hreceived
      · rename_i wanted hwanted hchunk
        obtain rfl := Option.some.inj hreceived
        apply h.moves s.calls hclient
        rcases h.fits hclient hstate with hunanswered | ⟨index, answer, hanswered⟩
        · rw [hunanswered.toClient, List.take_nil] at hchunk
          exact absurd rfl hchunk
        · exact Or.inr ⟨index, answer, hanswered.receive _⟩
    · cases hreceived
  · cases hstep

/-- A server thread does one round of its inner loop. -/
theorem Invariant.serverAnswer (h : Invariant s)
    {handler : Option (CommandHandler σ)} (hframes : AnswersFrames handler)
    {connection : ℕ}
    (hstep : step handler s (.serverAnswer connection) = some s') :
    Invariant s' := by
  simp only [Traffic.step] at hstep
  split at hstep
  · rename_i toServer toClient buffer hconnection
    cases hnext : nextFrame (bytesOf buffer) with
    | none =>
        rw [answerFront_of_none handler hnext] at hstep
        obtain rfl := Option.some.inj hstep
        exact h.of_server hconnection List.prefix_rfl
          fun _ hfits => hfits.of_phase rfl List.prefix_rfl
    | some found =>
        obtain ⟨frame, rest⟩ := found
        rw [answerFront_of_some handler hnext] at hstep
        obtain rfl := Option.some.inj hstep
        have hframe := exists_frame_respond hframes frame.command s.daemon
        exact h.of_server hconnection (List.prefix_append _ _)
          fun _ hfits => hfits.serverAnswer hnext hframe
  · cases hstep

/-- Every step of a client or a server thread keeps the invariant. -/
theorem Invariant.step (h : Invariant s) {handler : Option (CommandHandler σ)}
    (hframes : AnswersFrames handler) {event : TrafficEvent}
    (hstep : step handler s event = some s') : Invariant s' := by
  cases event with
  | connect client connection =>
      simp only [Traffic.step] at hstep
      split at hstep
      · rename_i hnew
        obtain rfl := Option.some.inj hstep
        exact h.connect hnew
      · cases hstep
  | disconnect client =>
      simp only [Traffic.step] at hstep
      split at hstep
      · obtain rfl := Option.some.inj hstep
        exact h.disconnect
      · cases hstep
  | call client call =>
      simp only [Traffic.step] at hstep
      split at hstep
      · rename_i socket hclient
        obtain rfl := Option.some.inj hstep
        apply h.movesAlone (s.calls + 1) hclient _ h.returned
        intro connection hquiet
        exact Or.inl hquiet.beginCall
      · obtain rfl := Option.some.inj hstep
        exact ⟨h.owned, h.apart, h.returned⟩
      · cases hstep
  | sendBytes client count =>
      simp only [Traffic.step] at hstep
      split at hstep
      · rename_i socket id call unsent hclient
        obtain ⟨state, hstate, hsent⟩ := Option.bind_eq_some_iff.mp hstep
        obtain rfl := Option.some.inj hsent
        have hfits := h.fits hclient hstate
        apply h.moves s.calls hclient
        rcases hfits with hunanswered | ⟨index, answer, hanswered⟩
        · exact Or.inl (hunanswered.sendBytes count)
        · exact Or.inr ⟨index, answer, hanswered.sendBytes count⟩
      · cases hstep
  | sendReturns client =>
      simp only [Traffic.step] at hstep
      split at hstep
      · rename_i socket id call hclient
        obtain rfl := Option.some.inj hstep
        exact h.movesAlone s.calls hclient (fun _ hfits => hfits.sendReturns)
          h.returned
      · cases hstep
  | receive client count => exact h.receive hstep
  | fails client =>
      simp only [Traffic.step] at hstep
      split at hstep
      · obtain rfl := Option.some.inj hstep
        exact h.disconnect
      · cases hstep
  | finish client =>
      simp only [Traffic.step] at hstep
      split at hstep
      · rename_i socket id call received hclient
        split at hstep
        · cases hstep
        · obtain rfl := Option.some.inj hstep
          exact h.disconnect
        · rename_i response hcomplete
          exact h.finishCall hclient hcomplete hstep
      · cases hstep
  | serverReceive connection count =>
      simp only [Traffic.step] at hstep
      split at hstep
      · rename_i toServer toClient buffer hconnection
        split at hstep
        · cases hstep
        · rename_i hchunk
          obtain rfl := Option.some.inj hstep
          exact h.of_server hconnection List.prefix_rfl
            fun _ hfits => hfits.serverReceive hchunk
      · cases hstep
  | serverAnswer connection => exact h.serverAnswer hframes hstep
  | serverSend connection count =>
      simp only [Traffic.step] at hstep
      split at hstep
      · rename_i toServer toClient buffer pending hconnection
        obtain rfl := Option.some.inj hstep
        exact h.of_server hconnection List.prefix_rfl
          fun _ hfits => hfits.serverSend
      · cases hstep
  | serverSendReturns connection =>
      simp only [Traffic.step] at hstep
      split at hstep
      · rename_i toServer toClient buffer pending hconnection
        obtain rfl := Option.some.inj hstep
        exact h.of_server hconnection List.prefix_rfl
          fun _ hfits => hfits.of_phase rfl List.nil_prefix
      · cases hstep
  | serverCloses connection =>
      simp only [Traffic.step] at hstep
      split at hstep
      · rename_i toServer toClient buffer hconnection
        obtain rfl := Option.some.inj hstep
        exact h.of_server hconnection List.prefix_rfl
          fun _ hfits => hfits.serverCloses
      · cases hstep

/-- Whatever the clients, the server threads and the connections do, and in
whatever order, a value that a call returns was decoded from the server's answer
to that call's request. -/
theorem fromOwnAnswer_run {handler : Option (CommandHandler σ)}
    (hframes : AnswersFrames handler) (daemon : σ) (run : List TrafficEvent)
    (s : Traffic σ) (hrun : runFrom (Traffic.step handler) { daemon } run = some s) :
    ∀ returned ∈ s.returned, FromOwnAnswer s.answers returned := by
  have hstart : Invariant ({ daemon } : Traffic σ) := by
    constructor
    case owned => nofun
    case apart => nofun
    case returned => nofun
  have hinvariant := invariant_of_runFrom Invariant hstart
    (fun _ _ _ hinv hstep => hinv.step hframes hstep) hrun
  exact hinvariant.returned

/-! ## One call -/

theorem answersFrames_answerStatus : AnswersFrames (some answerStatus) := by
  rintro _ ⟨⟩ command daemon
  exact ClientCall.exists_frame_of_message .statusResponse _
    (encodeStatusResponse_eq {}) (by decide)

/-- One client asks for the status, over short reads. -/
theorem fromOwnAnswer_requestStatus :
    ∃ s, runFrom (Traffic.step (some answerStatus)) { daemon := () }
        [.connect 0 0, .call 0 .requestStatus, .sendBytes 0 2, .sendBytes 0 1,
          .sendReturns 0, .serverReceive 0 3, .serverAnswer 0, .serverSend 0 100,
          .receive 0 2, .receive 0 1, .receive 0 100, .finish 0] = some s ∧
      s.returned.length = 1 ∧
      ∀ returned ∈ s.returned, FromOwnAnswer s.answers returned := by
  obtain ⟨s, hs, hreturned⟩ : ∃ s, runFrom (Traffic.step (some answerStatus))
      { daemon := () }
      [.connect 0 0, .call 0 .requestStatus, .sendBytes 0 2, .sendBytes 0 1,
        .sendReturns 0, .serverReceive 0 3, .serverAnswer 0, .serverSend 0 100,
        .receive 0 2, .receive 0 1, .receive 0 100, .finish 0] = some s ∧
      s.returned.length = 1 := by
    refine ⟨_, rfl, ?_⟩
    rfl
  exact ⟨s, hs, hreturned,
    fromOwnAnswer_run answersFrames_answerStatus () _ s hs⟩

end Traffic

end RamkolFX
