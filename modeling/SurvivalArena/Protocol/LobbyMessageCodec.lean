import SurvivalArena.Protocol.FieldCodec
import SurvivalArena.Protocol.TcpMessageCodec

/-!
# Lobby message codec

Requests of the clients, and both sides' decoders.  Every message begins with the id of its
request, which only the lobby may leave zero.
-/

namespace SurvivalArena

open KeyedList Wire

def encodeClientMessage (message : ClientMessage) : Except Exception EncodedMessage := do
  throwIf (message.requestId == 0)
    (.invalidArgument "client request ID zero is reserved for server push")
  pure (match message with
    | .hello requestId => { type := .clientHello, payload := writeU32 requestId }
    | .listRooms requestId => { type := .listRoomsRequest, payload := writeU32 requestId }
    | .createRoom requestId => { type := .createRoomRequest, payload := writeU32 requestId }
    | .joinRoom requestId room => {
        type := .joinRoomRequest
        payload := writeU32 requestId ++ writeU32 room.value }
    | .leaveRoom requestId => { type := .leaveRoomRequest, payload := writeU32 requestId }
    | .setReady requestId ready => {
        type := .setReadyRequest
        payload := writeU32 requestId ++ writeBool ready }
    | .startMatch requestId => { type := .startMatchRequest, payload := writeU32 requestId })

def RoomState.all : List RoomState := [.waiting, .starting, .inMatch]

def LobbyError.all : List LobbyError :=
  [.malformedPayload, .unsupportedVersion, .unknownMessageType, .frameTooLarge,
    .requestOutOfOrder, .notWelcomed, .alreadyWelcomed, .alreadyInRoom, .notInRoom,
    .roomNotFound, .roomNotJoinable, .roomFull, .roomLimitReached, .notHost,
    .minimumPlayersRequired, .notAllReady, .workerUnavailable, .idSpaceExhausted,
    .internalError, .matchUnavailable]

section Readers

variable {ε : Type} [ReadErrors ε]

def readRequestOnly (message : UInt32 → ClientMessage) : Reader ε ClientMessage := do
  let requestId ← readU32
  require (requestId != 0) ReadErrors.invalidValue
  pure (message requestId)

def readJoinRoom : Reader ε ClientMessage := do
  let requestId ← readU32
  let room ← readU32
  require (requestId != 0) ReadErrors.invalidValue
  pure (.joinRoom requestId ⟨room⟩)

def readSetReady : Reader ε ClientMessage := do
  let requestId ← readU32
  let ready ← readU8
  require (requestId != 0) ReadErrors.invalidValue
  let ready ← boolOfU8 ready
  pure (.setReady requestId ready)

def readClientMessage : MessageType → Reader ε ClientMessage
  | .clientHello => readRequestOnly .hello
  | .listRoomsRequest => readRequestOnly .listRooms
  | .createRoomRequest => readRequestOnly .createRoom
  | .joinRoomRequest => readJoinRoom
  | .leaveRoomRequest => readRequestOnly .leaveRoom
  | .setReadyRequest => readSetReady
  | .startMatchRequest => readRequestOnly .startMatch
  | _ => stop ReadErrors.invalidValue

def readWelcome : Reader ε ServerMessage := do
  let requestId ← readU32
  let player ← readU32
  pure (.welcome requestId ⟨player⟩)

def readSummary : Reader ε RoomSummary := do
  let room ← readU32
  let players ← readU8
  let capacity ← readU8
  let summary : RoomSummary := { room := ⟨room⟩, players, capacity }
  require (isValidSummary summary) ReadErrors.invalidValue
  pure summary

def readRoomList : Reader ε ServerMessage := do
  let requestId ← readU32
  let rooms ← readBoundedVector maximumRooms readSummary
  pure (.roomList requestId (sortByKey RoomSummary.room rooms))

def readMember : Reader ε RoomMemberView := do
  let player ← readU32
  let ready ← readBool
  pure { player := ⟨player⟩, ready }

def readRoomSnapshot : Reader ε ServerMessage := do
  let requestId ← readU32
  let room ← readU32
  let stateValue ← readU8
  let host ← readU32
  let count ← readU8
  let state ← known (fromValue RoomState.all RoomState.value stateValue)
  require (count.toNat ≤ roomCapacity) ReadErrors.countLimit
  let members ← readMany readMember count.toNat
  pure (.roomSnapshot {
    requestId
    room := ⟨room⟩
    state
    host := ⟨host⟩
    members := sortByKey RoomMemberView.player members })

def readMatchTicket : Reader ε ServerMessage := do
  let requestId ← readU32
  let matchId ← readU64
  let ticketBytes ← readOpaque
  let host ← readString8 255
  let tcpPort ← readU16
  let udpPort ← readU16
  let expires ← readU16
  let ticket : MatchTicket := {
    requestId
    matchId := ⟨matchId⟩
    ticket := ticketBytes
    host, tcpPort, udpPort
    expiresInSeconds := expires }
  require (isValidTicket ticket) ReadErrors.invalidValue
  pure (.matchTicket ticket)

def readErrorResponse : Reader ε ServerMessage := do
  let requestId ← readU32
  let errorValue ← readU16
  let error ← known (fromValue LobbyError.all LobbyError.value errorValue)
  pure (.error requestId error)

def readServerMessage : MessageType → Reader ε ServerMessage
  | .serverWelcome => readWelcome
  | .roomListResponse => readRoomList
  | .roomSnapshot => readRoomSnapshot
  | .matchTicket => readMatchTicket
  | .errorResponse => readErrorResponse
  | _ => stop ReadErrors.invalidValue

end Readers

def decodeClientMessage (type : MessageType) (payload : Bytes) :
    Except DecodeError ClientMessage :=
  complete .trailingBytes (readClientMessage type) payload

def decodeServerMessage (type : MessageType) (payload : Bytes) :
    Except DecodeError ServerMessage :=
  complete .trailingBytes (readServerMessage type) payload

end SurvivalArena
