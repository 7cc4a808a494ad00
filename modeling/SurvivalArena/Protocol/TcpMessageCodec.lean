import SurvivalArena.Framework.KeyedList
import SurvivalArena.Protocol.GameUdpCodec

/-!
# Message codec

The encoders of what the lobby sends to its clients and workers, and the frame
around a payload.
-/

namespace SurvivalArena

open KeyedList Wire

def tcpFrameHeaderBytes : Nat := 12
def maxTcpFrameBytes : Nat := 65536
def maxTcpPayloadBytes : Nat := maxTcpFrameBytes - tcpFrameHeaderBytes

inductive MessageType where
  | clientHello
  | serverWelcome
  | listRoomsRequest
  | roomListResponse
  | createRoomRequest
  | joinRoomRequest
  | leaveRoomRequest
  | setReadyRequest
  | startMatchRequest
  | roomSnapshot
  | matchTicket
  | errorResponse
  | workerRegister
  | workerRegistered
  | reserveMatch
  | reserveMatchReady
  | reserveMatchRejected
  | cancelMatchReservation
  | matchReservationCancelled
  | matchFinished
  | gameClientHello
  | gameServerWelcome
  | gameServerError
  | gameMatchResult
deriving DecidableEq

def MessageType.value : MessageType → UInt16
  | .clientHello => 1
  | .serverWelcome => 2
  | .listRoomsRequest => 3
  | .roomListResponse => 4
  | .createRoomRequest => 5
  | .joinRoomRequest => 6
  | .leaveRoomRequest => 7
  | .setReadyRequest => 8
  | .startMatchRequest => 9
  | .roomSnapshot => 10
  | .matchTicket => 11
  | .errorResponse => 12
  | .workerRegister => 13
  | .workerRegistered => 14
  | .reserveMatch => 15
  | .reserveMatchReady => 16
  | .reserveMatchRejected => 17
  | .cancelMatchReservation => 18
  | .matchReservationCancelled => 19
  | .matchFinished => 20
  | .gameClientHello => 21
  | .gameServerWelcome => 22
  | .gameServerError => 23
  | .gameMatchResult => 24

def RoomState.value : RoomState → UInt8
  | .waiting => 1
  | .starting => 2
  | .inMatch => 3

def LobbyError.value : LobbyError → UInt16
  | .malformedPayload => 1
  | .unsupportedVersion => 2
  | .unknownMessageType => 3
  | .frameTooLarge => 4
  | .requestOutOfOrder => 5
  | .notWelcomed => 6
  | .alreadyWelcomed => 7
  | .alreadyInRoom => 8
  | .notInRoom => 9
  | .roomNotFound => 10
  | .roomNotJoinable => 11
  | .roomFull => 12
  | .roomLimitReached => 13
  | .notHost => 14
  | .minimumPlayersRequired => 15
  | .notAllReady => 16
  | .workerUnavailable => 17
  | .idSpaceExhausted => 18
  | .internalError => 19
  | .matchUnavailable => 20

structure EncodedMessage where
  type : MessageType
  payload : Bytes
deriving DecidableEq

/-! ## Encoders -/

def writeString8 (value : Bytes) : Except Exception Bytes := do
  throwIf (decide (255 < value.length))
    (.lengthError "byte codec string exceeds uint8 length")
  pure (writeU8 (UInt8.ofNat value.length) ++ value)

def isValidRoomState (state : RoomState) : Bool :=
  state == .waiting || state == .starting || state == .inMatch

def isValidLobbyError (error : LobbyError) : Bool :=
  LobbyError.malformedPayload.value ≤ error.value &&
    error.value ≤ LobbyError.matchUnavailable.value

def isValidHost (host : Bytes) : Bool :=
  !(host.isEmpty || decide (255 < host.length)) &&
    host.all fun character => decide (0x21 ≤ character) && decide (character ≤ 0x7E)

def isValidTicket (ticket : MatchTicket) : Bool :=
  isValidHost ticket.host && ticket.tcpPort != 0 && ticket.udpPort != 0 &&
    decide (0 < ticket.expiresInSeconds) &&
    decide (ticket.expiresInSeconds.toNat ≤ matchTicketLifetimeSeconds)

def isValidSummary (room : RoomSummary) : Bool :=
  !(room.capacity.toNat != roomCapacity || decide (room.capacity < room.players))

def writeSummary (room : RoomSummary) : Bytes :=
  writeU32 room.room.value ++ writeU8 room.players ++ writeU8 room.capacity

def writeMember (member : RoomMemberView) : Bytes :=
  writeU32 member.player.value ++ writeBool member.ready

/-- A message to a client begins with the id of the request that it answers. -/
def encodeServerMessage : ServerMessage → Except Exception EncodedMessage
  | .welcome requestId player =>
    pure {
      type := .serverWelcome
      payload := writeU32 requestId ++ writeU32 player.value }
  | .roomList requestId rooms => do
    throwIf (decide (maximumRooms < rooms.length))
      (.invalidArgument "room list exceeds protocol limit")
    throwIf (rooms.any (!isValidSummary ·)) (.invalidArgument "room summary is invalid")
    let rooms := sortByKey RoomSummary.room rooms
    pure {
      type := .roomListResponse
      payload := writeU32 requestId ++ writeVector writeSummary rooms }
  | .roomSnapshot snapshot => do
    throwIf (!isValidRoomState snapshot.state ||
        decide (roomCapacity < snapshot.members.length))
      (.invalidArgument "room snapshot is invalid")
    let members := sortByKey RoomMemberView.player snapshot.members
    pure {
      type := .roomSnapshot
      payload := writeU32 snapshot.requestId ++ writeU32 snapshot.room.value ++
        writeU8 snapshot.state.value ++ writeU32 snapshot.host.value ++
        writeU8 (UInt8.ofNat members.length) ++ members.flatMap writeMember }
  | .matchTicket ticket => do
    throwIf (!isValidTicket ticket)
      (.invalidArgument "match ticket endpoint is invalid")
    let host ← writeString8 ticket.host
    pure {
      type := .matchTicket
      payload := writeU32 ticket.requestId ++ writeU64 ticket.matchId.value ++
        ticket.ticket.bytes ++ host ++ writeU16 ticket.tcpPort ++
        writeU16 ticket.udpPort ++ writeU16 ticket.expiresInSeconds }
  | .error requestId error => do
    throwIf (!isValidLobbyError error)
      (.invalidArgument "lobby error value is invalid")
    pure {
      type := .errorResponse
      payload := writeU32 requestId ++ writeU16 error.value }

/-- The participants in the order of the wire, where there are enough of them and no
two are the same player. -/
def canonicalizeParticipants (participants : List ReservedParticipant) :
    Option (List ReservedParticipant) :=
  if participants.length < 2 || decide (roomCapacity < participants.length) then none
  else
    let sorted := sortByKey ReservedParticipant.player participants
    if hasAdjacentDuplicate ReservedParticipant.player sorted then none
    else some sorted

def maximumTicketLifetimeMilliseconds : Nat := matchTicketLifetimeSeconds * 1000

/-- The reservation with its participants in order, where it is valid. -/
def validReservation (value : ReserveMatch) : Option ReserveMatch :=
  if value.reservation.value = 0 ∨ ¬0 < value.ticketLifetimeMilliseconds ∨
      maximumTicketLifetimeMilliseconds < value.ticketLifetimeMilliseconds.toNat then none
  else
    (canonicalizeParticipants value.participants).map fun participants =>
      { value with participants }

def writeReservationIdentity (reservation : ReservationId) (matchId : MatchId) : Bytes :=
  writeU64 reservation.value ++ writeU64 matchId.value

def writeParticipant (participant : ReservedParticipant) : Bytes :=
  writeU32 participant.player.value ++ participant.ticket.bytes

def encodeLobbyToWorkerMessage : LobbyToWorkerMessage → Except Exception EncodedMessage
  | .registered worker => do
    throwIf (worker.value == 0)
      (.invalidArgument "registered worker identity is invalid")
    pure { type := .workerRegistered, payload := writeU32 worker.value }
  | .reserve value =>
    match validReservation value with
    | none => throw (.invalidArgument "match reservation is invalid")
    | some value => pure {
        type := .reserveMatch
        payload := writeReservationIdentity value.reservation value.matchId ++
          writeU32 value.seed ++ writeU32 value.ticketLifetimeMilliseconds ++
          writeU8 (UInt8.ofNat value.participants.length) ++
          value.participants.flatMap writeParticipant }
  | .cancel reservation matchId => do
    throwIf (reservation.value == 0)
      (.invalidArgument "match reservation cancellation is invalid")
    pure {
      type := .cancelMatchReservation
      payload := writeReservationIdentity reservation matchId }

def tcpMagic : Bytes := [0x44, 0x58, 0x41, 0x31]

/-- Every type of message is known here. -/
def encodeTcpFrame (message : EncodedMessage) : Except Exception Bytes := do
  throwIf (decide (maxTcpPayloadBytes < message.payload.length) ||
      decide (4294967295 < message.payload.length))
    (.lengthError "TCP frame payload exceeds 64 KiB frame limit")
  pure (tcpMagic ++ writeU16 protocolVersion ++ writeU16 message.type.value ++
    writeU32 (UInt32.ofNat message.payload.length) ++ message.payload)

/-! ## What can be encoded -/

/-- The message and its frame can be encoded. -/
def ServerMessage.Encodable (message : ServerMessage) : Prop :=
  ∃ frame, (encodeServerMessage message >>= encodeTcpFrame) = .ok frame

def LobbyToWorkerMessage.Encodable (message : LobbyToWorkerMessage) : Prop :=
  ∃ frame, (encodeLobbyToWorkerMessage message >>= encodeTcpFrame) = .ok frame

theorem encodeTcpFrame_exists {message : EncodedMessage}
    (h : message.payload.length ≤ maxTcpPayloadBytes) :
    ∃ frame, encodeTcpFrame message = .ok frame := by
  have hsmall : ¬4294967295 < message.payload.length := by
    have hmax : maxTcpPayloadBytes ≤ 4294967295 := by decide
    omega
  refine ⟨_, throwIf_bind_eq_ok.mpr ⟨?_, rfl⟩⟩
  simp [not_lt.mpr h, hsmall]

theorem framed {message : EncodedMessage} {encoded : Except Exception EncodedMessage}
    (h : encoded = .ok message) (hlength : message.payload.length ≤ maxTcpPayloadBytes) :
    ∃ frame, (encoded >>= encodeTcpFrame) = .ok frame := by
  obtain ⟨frame, hframe⟩ := encodeTcpFrame_exists hlength
  exact ⟨frame, except_bind_eq_ok.mpr ⟨message, h, hframe⟩⟩

/-- Records of at most `size` bytes each. -/
theorem length_flatMap_le {α : Type} {write : α → Bytes} {size : Nat}
    (h : ∀ a, (write a).length ≤ size) (values : List α) :
    (values.flatMap write).length ≤ size * values.length := by
  have hvector := writeVector_length_le h values
  rw [writeVector, List.length_append, writeU16_length] at hvector
  omega

theorem encodable_welcome (requestId : UInt32) (player : PlayerId) :
    (ServerMessage.welcome requestId player).Encodable :=
  framed rfl (by simp [maxTcpPayloadBytes, maxTcpFrameBytes, tcpFrameHeaderBytes])

theorem isValidLobbyError_eq (error : LobbyError) : isValidLobbyError error = true := by
  cases error <;> decide

theorem encodable_error (requestId : UInt32) (error : LobbyError) :
    (ServerMessage.error requestId error).Encodable := by
  refine framed (throwIf_bind_eq_ok.mpr ⟨?_, rfl⟩) ?_
  · rw [isValidLobbyError_eq]
    rfl
  · simp [maxTcpPayloadBytes, maxTcpFrameBytes, tcpFrameHeaderBytes]

theorem encodable_roomList (requestId : UInt32) {rooms : List RoomSummary}
    (hlength : rooms.length ≤ maximumRooms)
    (hvalid : ∀ room ∈ rooms, isValidSummary room = true) :
    (ServerMessage.roomList requestId rooms).Encodable := by
  refine framed (throwIf_bind_eq_ok.mpr ⟨?_, throwIf_bind_eq_ok.mpr ⟨?_, rfl⟩⟩) ?_
  · simp [hlength]
  · simpa using hvalid
  · have hwrite : ∀ room, (writeSummary room).length ≤ 6 := by
      simp [writeSummary]
    have hvector := writeVector_length_le hwrite (sortByKey RoomSummary.room rooms)
    rw [(sortByKey_perm rooms).length_eq] at hvector
    rw [List.length_append, writeU32_length]
    rw [maximumRooms] at hlength
    simp only [maxTcpPayloadBytes, maxTcpFrameBytes, tcpFrameHeaderBytes]
    omega

theorem isValidRoomState_eq (state : RoomState) : isValidRoomState state = true := by
  cases state <;> rfl

theorem encodable_roomSnapshot {snapshot : RoomSnapshot}
    (hmembers : snapshot.members.length ≤ roomCapacity) :
    (ServerMessage.roomSnapshot snapshot).Encodable := by
  refine framed (throwIf_bind_eq_ok.mpr ⟨?_, rfl⟩) ?_
  · simp [isValidRoomState_eq, hmembers]
  · have hwrite : ∀ member, (writeMember member).length ≤ 5 := by
      simp [writeMember]
    have hrecords :=
      length_flatMap_le hwrite (sortByKey RoomMemberView.player snapshot.members)
    rw [(sortByKey_perm snapshot.members).length_eq] at hrecords
    rw [roomCapacity] at hmembers
    simp only [List.length_append, writeU32_length, writeU8_length, maxTcpPayloadBytes,
      maxTcpFrameBytes, tcpFrameHeaderBytes]
    omega

theorem isValidTicket_host {ticket : MatchTicket} (h : isValidTicket ticket = true) :
    ticket.host.length ≤ 255 := by
  simp only [isValidTicket, isValidHost, Bool.and_eq_true, Bool.not_eq_true',
    Bool.or_eq_false_iff, decide_eq_false_iff_not, not_lt] at h
  exact h.1.1.1.1.1.2

theorem encodable_matchTicket {ticket : MatchTicket} (h : isValidTicket ticket = true) :
    (ServerMessage.matchTicket ticket).Encodable := by
  have hhost := isValidTicket_host h
  have hstring : writeString8 ticket.host =
      .ok (writeU8 (UInt8.ofNat ticket.host.length) ++ ticket.host) :=
    throwIf_bind_eq_ok.mpr ⟨by simp [hhost], rfl⟩
  refine framed (throwIf_bind_eq_ok.mpr ⟨by simp [h],
    except_bind_eq_ok.mpr ⟨_, hstring, rfl⟩⟩) ?_
  simp only [List.length_append, writeU64_length, writeU32_length, writeU16_length,
    writeU8_length, ticket.ticket.size, matchTicketBytes, maxTcpPayloadBytes,
    maxTcpFrameBytes, tcpFrameHeaderBytes]
  omega

theorem encodable_registered {worker : WorkerId} (h : worker.value ≠ 0) :
    (LobbyToWorkerMessage.registered worker).Encodable := by
  refine framed (throwIf_bind_eq_ok.mpr ⟨?_, rfl⟩) ?_
  · simpa using h
  · simp [maxTcpPayloadBytes, maxTcpFrameBytes, tcpFrameHeaderBytes]

theorem encodable_cancel {reservation : ReservationId} (h : reservation.value ≠ 0)
    (matchId : MatchId) : (LobbyToWorkerMessage.cancel reservation matchId).Encodable := by
  refine framed (throwIf_bind_eq_ok.mpr ⟨?_, rfl⟩) ?_
  · simpa using h
  · simp [writeReservationIdentity, maxTcpPayloadBytes, maxTcpFrameBytes,
      tcpFrameHeaderBytes]

theorem encodable_reserve {value : ReserveMatch} (hreservation : value.reservation.value ≠ 0)
    (hlifetime : 0 < value.ticketLifetimeMilliseconds ∧
      value.ticketLifetimeMilliseconds.toNat ≤ maximumTicketLifetimeMilliseconds)
    (hlength : 2 ≤ value.participants.length ∧ value.participants.length ≤ roomCapacity)
    (hplayers : (value.participants.map ReservedParticipant.player).Nodup) :
    (LobbyToWorkerMessage.reserve value).Encodable := by
  have hlong : (sortByKey ReservedParticipant.player value.participants).length =
      value.participants.length := (sortByKey_perm _).length_eq
  have hvalid : validReservation value = some { value with
      participants := sortByKey ReservedParticipant.player value.participants } := by
    have hunique := hasAdjacentDuplicate_sortByKey.mpr hplayers
    simp [validReservation, canonicalizeParticipants, hreservation, hlifetime.1,
      not_lt.mpr hlifetime.2, not_lt.mpr hlength.1, not_lt.mpr hlength.2, hunique]
  have hencoded : encodeLobbyToWorkerMessage (.reserve value) = .ok {
      type := .reserveMatch
      payload := writeReservationIdentity value.reservation value.matchId ++
        writeU32 value.seed ++ writeU32 value.ticketLifetimeMilliseconds ++
        writeU8 (UInt8.ofNat
          (sortByKey ReservedParticipant.player value.participants).length) ++
        (sortByKey ReservedParticipant.player value.participants).flatMap
          writeParticipant } := by
    rw [encodeLobbyToWorkerMessage, hvalid]
    rfl
  refine framed hencoded ?_
  have hwrite : ∀ participant, (writeParticipant participant).length ≤ 20 := by
    intro participant
    simp [writeParticipant, participant.ticket.size, matchTicketBytes]
  have hrecords :=
    length_flatMap_le hwrite (sortByKey ReservedParticipant.player value.participants)
  rw [hlong] at hrecords
  have hmany := hlength.2
  rw [roomCapacity] at hmany
  simp only [List.length_append, writeReservationIdentity, writeU64_length,
    writeU32_length, writeU8_length, maxTcpPayloadBytes, maxTcpFrameBytes,
    tcpFrameHeaderBytes]
  omega

end SurvivalArena
