import SurvivalArena.Protocol.ControlCodecExactness

/-!
# Round trips of messages

All families of messages that travel over TCP.  The decoders put lists in order, so an answer
with its lists in another order is accepted, and encoded in order.
-/

namespace SurvivalArena

open Wire

variable {μ : Type}

/-- What holds of the codec of one family of messages. -/
structure MessageCodec (canonical : μ → μ) (wire : μ → EncodedMessage)
    (encode : μ → Except Exception EncodedMessage)
    (decode : MessageType → Bytes → Except DecodeError μ) : Prop where
  decodes : ∀ message encoded, encode message = .ok encoded →
    decode encoded.type encoded.payload = .ok (canonical message)
  /-- What is accepted is written of the same message in some form.  It is encoded as it is
  written in its canonical form, and so as it came when it came in that form. -/
  reencodes : ∀ type payload message, decode type payload = .ok message →
    ∃ raw, message = canonical raw ∧ ⟨type, payload⟩ = wire raw ∧
      encode message = .ok (wire message) ∧
      (canonical raw = raw → encode message = .ok ⟨type, payload⟩)
  /-- Neither less nor more than a message is accepted. -/
  whole : ∀ type payload more first second, decode type payload = .ok first →
    decode type (payload ++ more) = .ok second → more = []

/-- What is accepted is the encoding of its result. -/
def Reencodes (encode : μ → Except Exception EncodedMessage)
    (decode : MessageType → Bytes → Except DecodeError μ) : Prop :=
  ∀ type payload message, decode type payload = .ok message →
    encode message = .ok ⟨type, payload⟩

section Families

variable {Valid : μ → Prop} {canonical : μ → μ} {wire : μ → EncodedMessage}
  {encode : μ → Except Exception EncodedMessage} {read : MessageType → Reader DecodeError μ}

/-- The codec of a family whose readers accept what is written of its messages. -/
theorem canonicalCodec_of_reads
    (hencode : ∀ message encoded,
      encode message = .ok encoded ↔ Valid message ∧ encoded = wire (canonical message))
    (hread : ∀ type, ReadsAs (fun raw => Valid raw ∧ (wire raw).type = type) canonical
      (read type) (fun raw => (wire raw).payload))
    (hvalid : ∀ message, Valid message → Valid (canonical message))
    (hcanonical : ∀ message, canonical (canonical message) = canonical message) :
    CanonicalCodec Valid canonical wire encode
      (fun encoded => complete DecodeError.trailingBytes (read encoded.type) encoded.payload) where
  canonical_valid := hvalid
  canonical_canonical := hcanonical
  encode_eq_ok := hencode
  decode_eq_ok encoded message := by
    rw [(hread encoded.type).complete_eq_ok]
    constructor
    · rintro ⟨raw, ⟨hraw, htype⟩, hmessage, hpayload⟩
      refine ⟨raw, hraw, ?_, hmessage⟩
      cases encoded
      cases htype
      cases hpayload
      rfl
    · rintro ⟨raw, hraw, rfl, hmessage⟩
      exact ⟨raw, ⟨hraw, rfl⟩, hmessage, rfl⟩

theorem messageCodec_of_reads
    (hencode : ∀ message encoded,
      encode message = .ok encoded ↔ Valid message ∧ encoded = wire (canonical message))
    (hread : ∀ type, ReadsAs (fun raw => Valid raw ∧ (wire raw).type = type) canonical
      (read type) (fun raw => (wire raw).payload))
    (hvalid : ∀ message, Valid message → Valid (canonical message))
    (hcanonical : ∀ message, canonical (canonical message) = canonical message) :
    MessageCodec canonical wire encode
      (fun type payload => complete DecodeError.trailingBytes (read type) payload) where
  decodes _ _ h := (canonicalCodec_of_reads hencode hread hvalid hcanonical).decodes h
  reencodes type payload message h := by
    have hcodec := canonicalCodec_of_reads hencode hread hvalid hcanonical
    have hform : ∃ raw, message = canonical raw ∧ ⟨type, payload⟩ = wire raw ∧
        encode message = .ok (wire message) := hcodec.reencodes h
    obtain ⟨raw, hmessage, hwritten, hencoded⟩ := hform
    refine ⟨raw, hmessage, hwritten, hencoded, fun horder => ?_⟩
    rw [hencoded, hwritten, hmessage, horder]
  whole type payload more first second hfirst hsecond := by
    obtain ⟨raw, hraw, -, rfl⟩ := (hread type).complete_eq_ok.mp hfirst
    obtain ⟨other, hother, -, hmore⟩ := (hread type).complete_eq_ok.mp hsecond
    exact (hread type).prefix_free hraw hother hmore.symm

/-- Messages that are written in one form are encoded in one way. -/
theorem MessageCodec.reencodes_exactly
    {decode : MessageType → Bytes → Except DecodeError μ}
    (h : MessageCodec canonical wire encode decode)
    (hwire : ∀ message, wire (canonical message) = wire message) : Reencodes encode decode := by
  intro type payload message hdecode
  obtain ⟨raw, rfl, hwritten, hencode, -⟩ := h.reencodes type payload message hdecode
  rw [hencode, hwire, hwritten]

end Families

theorem clientMessage_codec :
    MessageCodec id ClientMessage.wire encodeClientMessage decodeClientMessage :=
  messageCodec_of_reads (fun _ _ => encodeClientMessage_eq_ok) readClientMessage_readsAs
    (fun _ h => h) fun _ => rfl

theorem serverMessage_codec :
    MessageCodec ServerMessage.canonical ServerMessage.wire encodeServerMessage
      decodeServerMessage :=
  messageCodec_of_reads (fun _ _ => encodeServerMessage_eq_ok) readServerMessage_readsAs
    (fun _ => ServerMessage.canonical_valid) ServerMessage.canonical_canonical

theorem workerToLobbyMessage_codec :
    MessageCodec WorkerToLobbyMessage.canonical WorkerToLobbyMessage.wire
      encodeWorkerToLobbyMessage decodeWorkerToLobbyMessage :=
  messageCodec_of_reads (fun _ _ => encodeWorkerToLobbyMessage_eq_ok)
    readWorkerToLobbyMessage_readsAs (fun message => message.canonical_spec.2.2)
    fun message => message.canonical_spec.1

theorem lobbyToWorkerMessage_codec :
    MessageCodec LobbyToWorkerMessage.canonical LobbyToWorkerMessage.wire
      encodeLobbyToWorkerMessage decodeLobbyToWorkerMessage :=
  messageCodec_of_reads (fun _ _ => encodeLobbyToWorkerMessage_eq_ok)
    readLobbyToWorkerMessage_readsAs (fun _ => LobbyToWorkerMessage.canonical_valid)
    LobbyToWorkerMessage.canonical_canonical

theorem gameClientMessage_codec :
    MessageCodec id encodeGameClientMessage (fun value => .ok (encodeGameClientMessage value))
      decodeGameClientMessage :=
  messageCodec_of_reads
    (fun _ _ => ⟨fun h => ⟨trivial, (Except.ok.inj h).symm⟩, fun h => congrArg _ h.2.symm⟩)
    readGameClientMessage_readsAs (fun _ h => h) fun _ => rfl

theorem gameServerMessage_codec :
    MessageCodec GameServerMessage.canonical GameServerMessage.wire encodeGameServerMessage
      decodeGameServerMessage :=
  messageCodec_of_reads (fun _ _ => encodeGameServerMessage_eq_ok)
    readGameServerMessage_readsAs (fun message => message.canonical_spec.2.2)
    fun message => message.canonical_spec.1

/-- An answer with two rooms, the second one first. -/
def swappedRooms : Bytes :=
  writeU32 1 ++ writeVector writeSummary [{ room := ⟨2⟩ }, { room := ⟨1⟩ }]

end SurvivalArena
