import SurvivalArena.Framework.UIntOrder

/-!
# Identifiers, constants and enumerations of the lobby

Each identifier wraps a fixed-width number and is compared by it.
-/

namespace SurvivalArena

inductive PlayerTag
inductive RoomTag
inductive MatchTag
inductive EntityTag
inductive WorkerTag
inductive ReservationTag

abbrev PlayerId := Tagged PlayerTag UInt32
abbrev RoomId := Tagged RoomTag UInt32
abbrev MatchId := Tagged MatchTag UInt64
abbrev EntityId := Tagged EntityTag UInt32
abbrev WorkerId := Tagged WorkerTag UInt32
abbrev ReservationId := Tagged ReservationTag UInt64

/-! ## Constants and enumerations -/

def roomCapacity : Nat := 24
def gameTickRate : UInt16 := 30
def snapshotRate : UInt16 := 15

def maximumRooms : Nat := 1024

def matchTicketBytes : Nat := 16

def matchTicketLifetimeSeconds : Nat := 60

inductive RoomState where
  | waiting
  | starting
  | inMatch
deriving DecidableEq

inductive LobbyError where
  | malformedPayload
  | unsupportedVersion
  | unknownMessageType
  | frameTooLarge
  | requestOutOfOrder
  | notWelcomed
  | alreadyWelcomed
  | alreadyInRoom
  | notInRoom
  | roomNotFound
  | roomNotJoinable
  | roomFull
  | roomLimitReached
  | notHost
  | minimumPlayersRequired
  | notAllReady
  | workerUnavailable
  | idSpaceExhausted
  | internalError
  | matchUnavailable
deriving DecidableEq

end SurvivalArena
