import SurvivalArena.Protocol.LobbyMessages
import SurvivalArena.Replication.SnapshotReplicator

/-!
# Messages between a client and the game server

What travels over TCP, and the datagrams that a client sends.
-/

namespace SurvivalArena

inductive GameServerErrorCode where
  | authenticationFailed
  | serverNotReady
  | protocolViolation
  | internalError
deriving DecidableEq

structure GameClientHello where
  matchId : MatchId
  player : PlayerId
  ticket : MatchTicketValue
deriving DecidableEq

structure GameServerWelcome where
  matchId : MatchId
  player : PlayerId
  actor : EntityId
  tickRate : UInt16 := 30
  snapshotRate : UInt16 := 15
  mapId : UInt32 := 1
  navMeshCrc32 : UInt32 := 0
  replicationMode : ReplicationMode := .fullState
  udpToken : UdpSessionToken
deriving DecidableEq

structure GameMatchResult where
  matchId : MatchId
  winner : EntityId
  hasWinner : Bool := false
  reason : MatchCompletionReason := .lastSurvivor
  finishedTick : UInt32 := 0
deriving DecidableEq

inductive GameServerMessage where
  | welcome (welcome : GameServerWelcome)
  | error (error : GameServerErrorCode)
  | result (result : GameMatchResult)
deriving DecidableEq

structure UdpBind where
  matchId : MatchId
  player : PlayerId
  token : UdpSessionToken
deriving DecidableEq

structure ClientInput where
  matchId : MatchId
  player : PlayerId
  token : UdpSessionToken
  inputSequence : UInt32 := 0
  acknowledgedSnapshotId : UInt32 := 0
  requestKeyframe : Bool := false
  moveDestination : NetworkVec2 := {}
  hasMoveDestination : Bool := false
  attackTarget : EntityId := ⟨0⟩
  hasAttackTarget : Bool := false
deriving DecidableEq

inductive ClientDatagram where
  | bind (value : UdpBind)
  | input (value : ClientInput)
deriving DecidableEq

end SurvivalArena
