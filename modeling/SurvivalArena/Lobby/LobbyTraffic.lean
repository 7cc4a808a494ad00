import SurvivalArena.Lobby.ServerEncoding
import SurvivalArena.Protocol.ConnectionReads
import SurvivalArena.Protocol.MessageRoundTrip

/-!
# The traffic of a lobby

What the lobby sends to a client or a worker over a whole run, as the other side reads it from
its connection.
-/

namespace SurvivalArena

open Machine Wire

/-! ## Messages over a connection -/

section Messages

variable {μ : Type} {canonical : μ → μ} {wire : μ → EncodedMessage}
  {encode : μ → Except Exception EncodedMessage}
  {decode : MessageType → Bytes → Except DecodeError μ}

/-- Some messages can be framed and the other side reads them: whatever chunks of their stream have
come and whatever was done with the connection, it has delivered the first of them, and all of them
when the stream was read to its end. -/
def Arrives (canonical : μ → μ) (encode : μ → Except Exception EncodedMessage)
    (decode : MessageType → Bytes → Except DecodeError μ) (messages : List μ) : Prop :=
  ∃ frames, messages.mapM (fun message => encode message >>= encodeTcpFrame) = .ok frames ∧
    ∀ onClose events,
      let connection := run FramedConnection.step (.create onClose) events
      let read := connection.delivered.mapM fun frame => decode frame.type frame.payload
      (connection.arrived <+: frames.flatten →
        ∃ count, read = .ok ((messages.take count).map canonical)) ∧
      (connection.arrived = frames.flatten → connection.closed = false → connection.Starved →
        read = .ok (messages.map canonical))

theorem MessageCodec.framed (h : MessageCodec canonical wire encode decode) {messages : List μ}
    (hencodable : ∀ message ∈ messages, ∃ frame, (encode message >>= encodeTcpFrame) = .ok frame) :
    ∃ (encoded : List EncodedMessage) (frames : List Bytes),
      messages.mapM (fun message => encode message >>= encodeTcpFrame) = .ok frames ∧
      encoded.mapM encodeTcpFrame = .ok frames ∧
      ∀ count, ((encoded.map EncodedMessage.frame).take count).mapM
        (fun frame => decode frame.type frame.payload) =
          .ok ((messages.take count).map canonical) := by
  induction messages with
  | nil => exact ⟨[], [], rfl, rfl, fun count => by cases count <;> rfl⟩
  | cons message messages ih =>
    obtain ⟨⟨frame, hframe⟩, hothers⟩ := List.forall_mem_cons.mp hencodable
    obtain ⟨encoded, frames, hframes, hencoded, hdecoded⟩ := ih hothers
    obtain ⟨first, hfirst, hwritten⟩ := except_bind_eq_ok.mp hframe
    refine ⟨first :: encoded, frame :: frames, ?_, ?_, ?_⟩
    · rw [List.mapM_cons, hframe, hframes]
      rfl
    · rw [List.mapM_cons, hwritten, hencoded]
      rfl
    · intro count
      cases count with
      | zero => rfl
      | succ count =>
        rw [List.map_cons, List.take_succ_cons, List.mapM_cons, List.take_succ_cons, hdecoded]
        show (decode first.type first.payload >>= _) = _
        rw [h.decodes message first hfirst]
        rfl

theorem unframed_nil : Unframed [] := by
  intro header h
  cases h

theorem MessageCodec.arrives (h : MessageCodec canonical wire encode decode) {messages : List μ}
    (hencodable : ∀ message ∈ messages, ∃ frame, (encode message >>= encodeTcpFrame) = .ok frame) :
    Arrives canonical encode decode messages := by
  obtain ⟨encoded, frames, hframes, hencoded, hdecoded⟩ := h.framed hencodable
  refine ⟨frames, hframes, fun onClose events => ?_⟩
  have hsplits := (FramedConnection.reads_run onClose events).splitsBack
  constructor
  · intro harrived
    have hprefix := hsplits.only encoded frames [] hencoded unframed_nil (by simpa using harrived)
    rw [List.prefix_iff_eq_take.mp hprefix]
    exact ⟨_, hdecoded _⟩
  · intro harrived hopen hstarved
    rw [hsplits.all encoded frames [] hencoded unframed_nil (by simpa using harrived) hopen hstarved]
    have hall := hdecoded (encoded.length + messages.length)
    rwa [List.take_of_length_le (by simp), List.take_of_length_le (by simp)] at hall

end Messages

/-! ## The lobby -/

namespace LobbyServer

/-- What a call sends, nothing where it throws. -/
def output (server : LobbyServer) (event : ServerEvent) : ServerOutput :=
  (server.call event).2.toOption.getD {}

def sentToClient (recipient : ConnectionId) (server : LobbyServer) (event : ServerEvent) :
    List ServerMessage :=
  ((server.output event).outbound.filter fun sent => sent.recipient = recipient).map
    OutboundMessage.message

def sentToWorker (recipient : WorkerConnectionId) (server : LobbyServer) (event : ServerEvent) :
    List LobbyToWorkerMessage :=
  ((server.output event).control.filter fun sent => sent.recipient = recipient).map
    WorkerControlOutbound.message

/-- What the calls of a run send can be encoded. -/
theorem Limited.yields_encodable {α : Type} {Encodable : α → Prop}
    {yield : LobbyServer → ServerEvent → List α}
    (hyield : ∀ server event, server.Limited → ∀ message ∈ yield server event, Encodable message)
    {server : LobbyServer} (h : server.Limited) (events : List ServerEvent) :
    ∀ message ∈ yields step yield server events, Encodable message := by
  induction events generalizing server with
  | nil => exact fun _ hmessage => by cases hmessage
  | cons event events ih =>
    intro message hmessage
    rcases List.mem_append.mp hmessage with hnow | hlater
    · exact hyield server event h message hnow
    · obtain ⟨after, output, hcall, hafter, -⟩ := call_limited h event
      rw [step_of_call hcall] at hlater
      exact ih hafter message hlater

/-- Over every run of the lobby, all that it sends to a client or to a worker can be framed, and
the other side reads it from the stream, in order and in canonical form, however it is cut. -/
theorem traffic_arrives (tickets : MatchTicketRegistry) (config : LobbyServiceConfig)
    (events : List ServerEvent) (client : ConnectionId) (worker : WorkerConnectionId) :
    Arrives ServerMessage.canonical encodeServerMessage decodeServerMessage
        (yields step (sentToClient client) (create tickets config) events) ∧
      Arrives LobbyToWorkerMessage.canonical encodeLobbyToWorkerMessage decodeLobbyToWorkerMessage
        (yields step (sentToWorker worker) (create tickets config) events) := by
  have hlimited : (create tickets config).Limited := run_limited tickets config []
  constructor
  · refine serverMessage_codec.arrives (hlimited.yields_encodable ?_ events)
    intro server event h message hmessage
    obtain ⟨after, output, hcall, -, hsent, -⟩ := call_limited h event
    obtain ⟨sent, hmem, rfl⟩ := List.mem_map.mp hmessage
    rw [LobbyServer.output, hcall] at hmem
    exact hsent sent (List.mem_of_mem_filter hmem)
  · refine lobbyToWorkerMessage_codec.arrives (hlimited.yields_encodable ?_ events)
    intro server event h message hmessage
    obtain ⟨after, output, hcall, -, -, hsent⟩ := call_limited h event
    obtain ⟨sent, hmem, rfl⟩ := List.mem_map.mp hmessage
    rw [LobbyServer.output, hcall] at hmem
    exact hsent sent (List.mem_of_mem_filter hmem)

end LobbyServer

end SurvivalArena
