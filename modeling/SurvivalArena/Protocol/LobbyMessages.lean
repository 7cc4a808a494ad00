import SurvivalArena.Framework.Wire
import SurvivalArena.Protocol.LobbyTypes

/-!
# Messages of the lobby

What the lobby and its clients, and the lobby and its workers, tell each other.  Host names are
byte strings, tickets are opaque values of 16 bytes.
-/

namespace SurvivalArena

open Wire

/-- A value of 16 bytes, distinguished by a tag. -/
structure Opaque128 (tag : Type) where
  bytes : Bytes
  size : bytes.length = matchTicketBytes
deriving DecidableEq

theorem Opaque128.bytes_injective {tag : Type} :
    Function.Injective (Opaque128.bytes : Opaque128 tag → Bytes) := by
  intro first second h
  cases first
  cases second
  cases h
  rfl

instance {tag : Type} : LinearOrder (Opaque128 tag) :=
  LinearOrder.lift' Opaque128.bytes Opaque128.bytes_injective

instance {tag : Type} :
    Std.TransCmp (compare : Opaque128 tag → Opaque128 tag → Ordering) :=
  inferInstance

instance {tag : Type} : LawfulBEq (Opaque128 tag) := inferInstance

/-- The value that repeats a byte. -/
def Opaque128.repeating {tag : Type} (byte : UInt8) : Opaque128 tag :=
  ⟨List.replicate matchTicketBytes byte, List.length_replicate⟩

inductive MatchTicketTag
inductive UdpSessionTokenTag

abbrev MatchTicketValue := Opaque128 MatchTicketTag
abbrev UdpSessionToken := Opaque128 UdpSessionTokenTag

structure GameEndpoint where
  host : Bytes := []
  tcpPort : UInt16 := 0
  udpPort : UInt16 := 0
deriving DecidableEq

inductive ClientMessage where
  | hello (requestId : UInt32)
  | listRooms (requestId : UInt32)
  | createRoom (requestId : UInt32)
  | joinRoom (requestId : UInt32) (room : RoomId)
  | leaveRoom (requestId : UInt32)
  | setReady (requestId : UInt32) (ready : Bool)
  | startMatch (requestId : UInt32)
deriving DecidableEq

def ClientMessage.requestId : ClientMessage → UInt32
  | .hello requestId => requestId
  | .listRooms requestId => requestId
  | .createRoom requestId => requestId
  | .joinRoom requestId _ => requestId
  | .leaveRoom requestId => requestId
  | .setReady requestId _ => requestId
  | .startMatch requestId => requestId

structure RoomSummary where
  room : RoomId
  players : UInt8 := 0
  capacity : UInt8 := UInt8.ofNat roomCapacity
deriving DecidableEq

structure RoomMemberView where
  player : PlayerId
  ready : Bool := false
deriving DecidableEq

structure RoomSnapshot where
  requestId : UInt32 := 0
  room : RoomId
  state : RoomState := .waiting
  host : PlayerId
  members : List RoomMemberView
deriving DecidableEq

structure MatchTicket where
  requestId : UInt32 := 0
  matchId : MatchId
  ticket : MatchTicketValue
  host : Bytes
  tcpPort : UInt16 := 0
  udpPort : UInt16 := 0
  expiresInSeconds : UInt16 := UInt16.ofNat matchTicketLifetimeSeconds
deriving DecidableEq

inductive ServerMessage where
  | welcome (requestId : UInt32) (player : PlayerId)
  | roomList (requestId : UInt32) (rooms : List RoomSummary)
  | roomSnapshot (snapshot : RoomSnapshot)
  | matchTicket (ticket : MatchTicket)
  | error (requestId : UInt32) (error : LobbyError)
deriving DecidableEq

def ServerMessage.requestId : ServerMessage → UInt32
  | .welcome requestId _ => requestId
  | .roomList requestId _ => requestId
  | .roomSnapshot snapshot => snapshot.requestId
  | .matchTicket ticket => ticket.requestId
  | .error requestId _ => requestId

/-! ## Messages between the lobby and its workers -/

structure ReservedParticipant where
  player : PlayerId
  ticket : MatchTicketValue
deriving DecidableEq

structure WorkerRegister where
  worker : WorkerId
  advertisedHost : Bytes
  gameTcpPort : UInt16 := 0
  gameUdpPort : UInt16 := 0
  capacity : UInt8 := 1
deriving DecidableEq

structure ReserveMatch where
  reservation : ReservationId
  matchId : MatchId
  seed : UInt32 := 0
  ticketLifetimeMilliseconds : UInt32 := 60000
  participants : List ReservedParticipant
deriving DecidableEq

inductive WorkerReservationReject where
  | busy
  | invalidReservation
  | simulationInitializationFailed
  | internalError
deriving DecidableEq

inductive MatchCompletionReason where
  | lastSurvivor
  | timeLimit
  | noAuthenticatedPlayers
  | noConnectedPlayers
deriving DecidableEq

structure MatchFinished where
  matchId : MatchId
  winner : EntityId
  hasWinner : Bool := false
  reason : MatchCompletionReason := .lastSurvivor
  finishedTick : UInt32 := 0
deriving DecidableEq

inductive WorkerToLobbyMessage where
  | register (registration : WorkerRegister)
  | ready (reservation : ReservationId) (matchId : MatchId)
  | rejected (reservation : ReservationId) (matchId : MatchId)
      (reason : WorkerReservationReject)
  | cancelled (reservation : ReservationId) (matchId : MatchId)
  | finished (finished : MatchFinished)
deriving DecidableEq

inductive LobbyToWorkerMessage where
  | registered (worker : WorkerId)
  | reserve (reserve : ReserveMatch)
  | cancel (reservation : ReservationId) (matchId : MatchId)
deriving DecidableEq

end SurvivalArena
