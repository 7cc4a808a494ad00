import SurvivalArena.Protocol.FieldCodec
import SurvivalArena.Protocol.GameTcpMessages
import SurvivalArena.Protocol.TcpMessageCodec

/-!
# The workers' and the game's codecs

What a worker sends to the lobby, and both sides' decoders.
-/

namespace SurvivalArena

open KeyedList Wire

def WorkerReservationReject.value : WorkerReservationReject → UInt8
  | .busy => 1
  | .invalidReservation => 2
  | .simulationInitializationFailed => 3
  | .internalError => 4

def WorkerReservationReject.all : List WorkerReservationReject :=
  [.busy, .invalidReservation, .simulationInitializationFailed, .internalError]

def MatchCompletionReason.value : MatchCompletionReason → UInt8
  | .lastSurvivor => 1
  | .timeLimit => 2
  | .noAuthenticatedPlayers => 3
  | .noConnectedPlayers => 4

def MatchCompletionReason.all : List MatchCompletionReason :=
  [.lastSurvivor, .timeLimit, .noAuthenticatedPlayers, .noConnectedPlayers]

def isValidRegister (value : WorkerRegister) : Bool :=
  value.worker.value != 0 && isValidHost value.advertisedHost && value.gameTcpPort != 0 &&
    value.gameUdpPort != 0 && value.capacity == 1

def completionNeedsWinner (reason : MatchCompletionReason) : Bool :=
  reason == .lastSurvivor || reason == .timeLimit

def isValidCompletion (value : MatchFinished) : Bool :=
  value.hasWinner == completionNeedsWinner value.reason

/-- The winner is written where there is one. -/
def writeCompletion (value : MatchFinished) : Bytes :=
  writeU64 value.matchId.value ++ writeBool value.hasWinner ++
    (if value.hasWinner then writeU32 value.winner.value else []) ++
    writeU8 value.reason.value ++ writeU32 value.finishedTick

def encodeWorkerToLobbyMessage : WorkerToLobbyMessage → Except Exception EncodedMessage
  | .register value => do
    throwIf (!isValidRegister value)
      (.invalidArgument "worker registration is invalid")
    let host ← writeString8 value.advertisedHost
    pure {
      type := .workerRegister
      payload := writeU32 value.worker.value ++ host ++ writeU16 value.gameTcpPort ++
        writeU16 value.gameUdpPort ++ writeU8 value.capacity }
  | .ready reservation matchId => do
    throwIf (reservation.value == 0)
      (.invalidArgument "reservation ready identity is invalid")
    pure {
      type := .reserveMatchReady
      payload := writeReservationIdentity reservation matchId }
  | .rejected reservation matchId reason => do
    throwIf (reservation.value == 0)
      (.invalidArgument "reservation rejection is invalid")
    pure {
      type := .reserveMatchRejected
      payload := writeReservationIdentity reservation matchId ++ writeU8 reason.value }
  | .cancelled reservation matchId => do
    throwIf (reservation.value == 0)
      (.invalidArgument "reservation cancellation is invalid")
    pure {
      type := .matchReservationCancelled
      payload := writeReservationIdentity reservation matchId }
  | .finished value => do
    throwIf (!isValidCompletion value) (.invalidArgument "match completion is invalid")
    pure { type := .matchFinished, payload := writeCompletion value }

section Readers

variable {ε : Type} [ReadErrors ε]

def readRegistration : Reader ε WorkerToLobbyMessage := do
  let worker ← readU32
  let host ← readString8 255
  let tcpPort ← readU16
  let udpPort ← readU16
  let capacity ← readU8
  let message : WorkerRegister := {
    worker := ⟨worker⟩
    advertisedHost := host
    gameTcpPort := tcpPort
    gameUdpPort := udpPort
    capacity }
  require (isValidRegister message) ReadErrors.invalidValue
  pure (.register message)

/-- The identity of a reservation, which is not zero. -/
def readReservationIdentity {α : Type} (message : ReservationId → MatchId → α) :
    Reader ε α := do
  let reservation ← readU64
  let matchId ← readU64
  require (reservation != 0) ReadErrors.invalidValue
  pure (message ⟨reservation⟩ ⟨matchId⟩)

def readReservationReject : Reader ε WorkerToLobbyMessage := do
  let reservation ← readU64
  let matchId ← readU64
  let reasonValue ← readU8
  require (reservation != 0) ReadErrors.invalidValue
  let reason ← known (fromValue WorkerReservationReject.all WorkerReservationReject.value
    reasonValue)
  pure (.rejected ⟨reservation⟩ ⟨matchId⟩ reason)

def readWinner (hasWinner : Bool) : Reader ε UInt32 :=
  if hasWinner then readU32 else pure 0

/-- The end of a match, as it is sent to the lobby and to the clients. -/
def readCompletion {α : Type} (message : MatchFinished → α) : Reader ε α := do
  let matchId ← readU64
  let hasWinner ← readBool
  let winner ← readWinner hasWinner
  let reasonValue ← readU8
  let finishedTick ← readU32
  let reason ← known (fromValue MatchCompletionReason.all MatchCompletionReason.value
    reasonValue)
  let finished : MatchFinished := {
    matchId := ⟨matchId⟩
    winner := ⟨winner⟩
    hasWinner, reason, finishedTick }
  require (isValidCompletion finished) ReadErrors.invalidValue
  pure (message finished)

def readWorkerToLobbyMessage : MessageType → Reader ε WorkerToLobbyMessage
  | .workerRegister => readRegistration
  | .reserveMatchReady => readReservationIdentity .ready
  | .reserveMatchRejected => readReservationReject
  | .matchReservationCancelled => readReservationIdentity .cancelled
  | .matchFinished => readCompletion .finished
  | _ => stop ReadErrors.invalidValue

def readWorkerRegistered : Reader ε LobbyToWorkerMessage := do
  let worker ← readU32
  require (worker != 0) ReadErrors.invalidValue
  pure (.registered ⟨worker⟩)

def readParticipant : Reader ε ReservedParticipant := do
  let player ← readU32
  let ticket ← readOpaque
  pure { player := ⟨player⟩, ticket }

/-- The reservation that was read, its participants in order. -/
def readReservation : Reader ε LobbyToWorkerMessage := do
  let reservation ← readU64
  let matchId ← readU64
  let seed ← readU32
  let lifetime ← readU32
  let count ← readU8
  require (count.toNat ≤ roomCapacity) ReadErrors.countLimit
  require (2 ≤ count) ReadErrors.invalidValue
  let participants ← readMany readParticipant count.toNat
  let message ← known (validReservation {
    reservation := ⟨reservation⟩
    matchId := ⟨matchId⟩
    seed
    ticketLifetimeMilliseconds := lifetime
    participants })
  pure (.reserve message)

def readLobbyToWorkerMessage : MessageType → Reader ε LobbyToWorkerMessage
  | .workerRegistered => readWorkerRegistered
  | .reserveMatch => readReservation
  | .cancelMatchReservation => readReservationIdentity .cancel
  | _ => stop ReadErrors.invalidValue

end Readers

def decodeWorkerToLobbyMessage (type : MessageType) (payload : Bytes) :
    Except DecodeError WorkerToLobbyMessage :=
  complete .trailingBytes (readWorkerToLobbyMessage type) payload

def decodeLobbyToWorkerMessage (type : MessageType) (payload : Bytes) :
    Except DecodeError LobbyToWorkerMessage :=
  complete .trailingBytes (readLobbyToWorkerMessage type) payload

/-! ## The greeting of a client, and what the game server answers -/

def GameServerErrorCode.value : GameServerErrorCode → UInt8
  | .authenticationFailed => 1
  | .serverNotReady => 2
  | .protocolViolation => 3
  | .internalError => 4

def GameServerErrorCode.all : List GameServerErrorCode :=
  [.authenticationFailed, .serverNotReady, .protocolViolation, .internalError]

def ReplicationMode.value : ReplicationMode → UInt8
  | .fullState => 1
  | .interestFullPrecision => 2
  | .interestQuantized => 3
  | .interestDelta => 4

def ReplicationMode.all : List ReplicationMode :=
  [.fullState, .interestFullPrecision, .interestQuantized, .interestDelta]

def isValidWelcome (value : GameServerWelcome) : Bool :=
  value.tickRate == gameTickRate && value.snapshotRate == snapshotRate && value.mapId != 0

/-- A result has the fields of the completion that a worker reports. -/
def GameMatchResult.completion (value : GameMatchResult) : MatchFinished where
  matchId := value.matchId
  winner := value.winner
  hasWinner := value.hasWinner
  reason := value.reason
  finishedTick := value.finishedTick

def resultOf (finished : MatchFinished) : GameServerMessage :=
  .result {
    matchId := finished.matchId
    winner := finished.winner
    hasWinner := finished.hasWinner
    reason := finished.reason
    finishedTick := finished.finishedTick }

def isValidResult (value : GameMatchResult) : Bool :=
  isValidCompletion value.completion

def encodeGameClientMessage (value : GameClientHello) : EncodedMessage where
  type := .gameClientHello
  payload := writeU64 value.matchId.value ++ writeU32 value.player.value ++ value.ticket.bytes

def encodeGameServerMessage : GameServerMessage → Except Exception EncodedMessage
  | .welcome value => do
    throwIf (!isValidWelcome value) (.invalidArgument "game welcome is invalid")
    pure {
      type := .gameServerWelcome
      payload := writeU64 value.matchId.value ++ writeU32 value.player.value ++
        writeU32 value.actor.value ++ writeU16 value.tickRate ++ writeU16 value.snapshotRate ++
        writeU32 value.mapId ++ writeU32 value.navMeshCrc32 ++
        writeU8 value.replicationMode.value ++ value.udpToken.bytes }
  | .error code => pure { type := .gameServerError, payload := writeU8 code.value }
  | .result value => do
    throwIf (!isValidResult value) (.invalidArgument "game match result is invalid")
    pure { type := .gameMatchResult, payload := writeCompletion value.completion }

section Readers

variable {ε : Type} [ReadErrors ε]

def readHello : Reader ε GameClientHello := do
  let matchId ← readU64
  let player ← readU32
  let ticket ← readOpaque
  pure { matchId := ⟨matchId⟩, player := ⟨player⟩, ticket }

def readGameClientMessage (type : MessageType) : Reader ε GameClientHello :=
  if type = .gameClientHello then readHello else stop ReadErrors.invalidValue

def readGameWelcome : Reader ε GameServerMessage := do
  let matchId ← readU64
  let player ← readU32
  let actor ← readU32
  let tickRate ← readU16
  let snapshotRate ← readU16
  let mapId ← readU32
  let navMeshCrc32 ← readU32
  let modeValue ← readU8
  let udpToken ← readOpaque
  let replicationMode ← known (fromValue ReplicationMode.all ReplicationMode.value modeValue)
  let message : GameServerWelcome := {
    matchId := ⟨matchId⟩
    player := ⟨player⟩
    actor := ⟨actor⟩
    tickRate, snapshotRate, mapId, navMeshCrc32, replicationMode, udpToken }
  require (isValidWelcome message) ReadErrors.invalidValue
  pure (.welcome message)

def readErrorMessage : Reader ε GameServerMessage := do
  let errorValue ← readU8
  let error ← known (fromValue GameServerErrorCode.all GameServerErrorCode.value errorValue)
  pure (.error error)

def readGameServerMessage : MessageType → Reader ε GameServerMessage
  | .gameServerWelcome => readGameWelcome
  | .gameServerError => readErrorMessage
  | .gameMatchResult => readCompletion resultOf
  | _ => stop ReadErrors.invalidValue

end Readers

def decodeGameClientMessage (type : MessageType) (payload : Bytes) :
    Except DecodeError GameClientHello :=
  complete .trailingBytes (readGameClientMessage type) payload

def decodeGameServerMessage (type : MessageType) (payload : Bytes) :
    Except DecodeError GameServerMessage :=
  complete .trailingBytes (readGameServerMessage type) payload

end SurvivalArena
