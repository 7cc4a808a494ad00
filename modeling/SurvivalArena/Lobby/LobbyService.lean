import SurvivalArena.Lobby.MatchTicketRegistry
import SurvivalArena.Lobby.Room

/-!
# The lobby service

The lobby answers its clients' requests, keeps the rooms, asks for a worker when
a room starts and reacts to what happens to the worker.  A call returns the
messages to send, the events to log and the actions for the worker side.
-/

namespace SurvivalArena

open Wire

inductive ConnectionTag

abbrev ConnectionId := Tagged ConnectionTag UInt64

structure ReserveMatchAction where
  reservation : ReservationId
  room : RoomId
  matchId : MatchId
  requester : PlayerId
  requestId : UInt32 := 0
  seed : UInt32 := 0
  issuedAt : TimePoint
  participants : List ReservedParticipant
deriving DecidableEq

inductive LobbyRuntimeAction where
  | reserve (action : ReserveMatchAction)
  | cancel (reservation : ReservationId) (matchId : MatchId)
deriving DecidableEq

inductive WorkerEvent where
  | reservationReady (reservation : ReservationId) (matchId : MatchId)
      (worker : WorkerId) (endpoint : GameEndpoint)
  | reservationFailed (reservation : ReservationId) (matchId : MatchId)
  | matchFinished (worker : WorkerId) (matchId : MatchId)
  | matchUnavailable (worker : WorkerId) (matchId : MatchId)
deriving DecidableEq

structure OutboundMessage where
  recipient : ConnectionId
  message : ServerMessage
deriving DecidableEq

inductive LobbyAuditEventType where
  | playerAssigned
  | roomCreated
  | roomDeleted
  | hostTransferred
  | matchStarted
  | startFailed
deriving DecidableEq

structure LobbyAuditEvent where
  type : LobbyAuditEventType := .playerAssigned
  connection : Option ConnectionId := none
  player : Option PlayerId := none
  room : Option RoomId := none
  matchId : Option MatchId := none
  error : Option LobbyError := none
  endpoint : Option GameEndpoint := none
deriving DecidableEq

structure LobbyServiceResult where
  outbound : List OutboundMessage := []
  audit : List LobbyAuditEvent := []
  actions : List LobbyRuntimeAction := []
deriving DecidableEq

structure LobbyServiceConfig where
  nextConnection : UInt64 := 1
  nextPlayer : UInt32 := 1
  nextRoom : UInt32 := 1
  nextMatch : UInt64 := 1
  nextReservation : UInt64 := 1
  nextJoinOrdinal : UInt64 := 1
  matchSeedBase : UInt32 := 20260824
  maximumRooms : UInt32 := UInt32.ofNat SurvivalArena.maximumRooms

structure ConnectionState where
  player : Option PlayerId := none
  lastRequestId : UInt32 := 0
deriving DecidableEq

structure PendingReservation where
  action : ReserveMatchAction
deriving DecidableEq

structure ActiveMatch where
  room : RoomId
  worker : WorkerId
  tickets : List MatchTicketValue
deriving DecidableEq

structure LobbyService where
  tickets : MatchTicketRegistry
  nextConnection : Option UInt64
  nextPlayer : Option UInt32
  nextRoom : Option UInt32
  nextMatch : Option UInt64
  nextReservation : Option UInt64
  nextJoinOrdinal : Option UInt64
  matchSeedBase : UInt32
  maximumRooms : Nat
  connections : Std.ExtTreeMap ConnectionId ConnectionState := ∅
  playerToConnection : Std.ExtTreeMap PlayerId ConnectionId := ∅
  playerToRoom : Std.ExtTreeMap PlayerId RoomId := ∅
  rooms : Std.ExtTreeMap RoomId Room := ∅
  pendingReservations : Std.ExtTreeMap ReservationId PendingReservation := ∅
  roomToReservation : Std.ExtTreeMap RoomId ReservationId := ∅
  activeMatches : Std.ExtTreeMap MatchId ActiveMatch := ∅

/-- A call's effect on the service next to its outcome. -/
abbrev LobbyCall := LobbyService × Except Exception LobbyServiceResult

def isVisibleAscii (host : Bytes) : Bool :=
  host.all fun character => decide (0x21 ≤ character) && decide (character ≤ 0x7E)

def GameEndpoint.isValid (endpoint : GameEndpoint) : Bool :=
  !endpoint.host.isEmpty && decide (endpoint.host.length ≤ 255) &&
    endpoint.tcpPort != 0 && endpoint.udpPort != 0 &&
    isVisibleAscii endpoint.host

def ReserveMatchAction.tickets (action : ReserveMatchAction) :
    List MatchTicketValue :=
  action.participants.map ReservedParticipant.ticket

namespace LobbyService

def create (tickets : MatchTicketRegistry) (config : LobbyServiceConfig) :
    LobbyService where
  tickets
  nextConnection := Counter.initial config.nextConnection
  nextPlayer := Counter.initial config.nextPlayer
  nextRoom := Counter.initial config.nextRoom
  nextMatch := Counter.initial config.nextMatch
  nextReservation := Counter.initial config.nextReservation
  nextJoinOrdinal := Counter.initial config.nextJoinOrdinal
  matchSeedBase := config.matchSeedBase
  maximumRooms := min config.maximumRooms.toNat SurvivalArena.maximumRooms

/-! ## Messages -/

def errorResult (connection : ConnectionId) (requestId : UInt32)
    (error : LobbyError) : LobbyServiceResult where
  outbound := [⟨connection, .error requestId error⟩]

/-- Answer a request with an error. -/
def reject (service : LobbyService) (connection : ConnectionId)
    (requestId : UInt32) (error : LobbyError) : LobbyCall :=
  (service, .ok (errorResult connection requestId error))

def roomSummary (roomId : RoomId) (room : Room) :
    Except Exception (Option RoomSummary) := do
  let snapshot ← room.snapshot 0
  if snapshot.state ≠ .waiting then pure none
  else
    pure (some {
      room := roomId
      players := UInt8.ofNat snapshot.members.length
      capacity := UInt8.ofNat roomCapacity })

/-- The rooms that can be joined. -/
def roomList (service : LobbyService) (requestId : UInt32) :
    Except Exception ServerMessage := do
  let summaries ← service.rooms.toList.mapM fun entry =>
    roomSummary entry.1 entry.2
  pure (.roomList requestId (summaries.filterMap id))

/-- The room's snapshot for every connected member, under the request's id for
the requester. -/
def broadcastSnapshot (service : LobbyService) (room : Room)
    (requester : Option ConnectionId) (requestId : UInt32) :
    Except Exception (List OutboundMessage) :=
  (room.players.filterMap (service.playerToConnection[·]?)).mapM
    fun connection => do
      let outboundRequestId := if some connection = requester then requestId else 0
      let snapshot ← room.snapshot outboundRequestId
      pure ⟨connection, .roomSnapshot snapshot⟩

/-! ## Leaving a room -/

/-- The service without a player in a room; an empty room goes too. -/
def removeMember (service : LobbyService) (player : PlayerId)
    (roomId : RoomId) (room : Room) : LobbyService :=
  { service with
    playerToRoom := service.playerToRoom.erase player
    rooms :=
      if room.empty then service.rooms.erase roomId
      else service.rooms.insert roomId room }

def hostTransfer (service : LobbyService) (roomId : RoomId)
    (oldHost newHost : PlayerId) : List LobbyAuditEvent :=
  if newHost = oldHost then []
  else [{ type := .hostTransferred
          connection := service.playerToConnection[newHost]?
          player := some newHost
          room := some roomId }]

/-- The messages and events after a member left a room. -/
def leaveResult (service : LobbyService) (player oldHost : PlayerId)
    (roomId : RoomId) (room : Room) (requester : Option ConnectionId) :
    Except Exception LobbyServiceResult :=
  if room.empty then
    .ok { audit := [{ type := .roomDeleted, connection := requester
                      player := some player, room := some roomId }] }
  else do
    let newHost ← room.getHost
    let outbound ← service.broadcastSnapshot room none 0
    pure { outbound, audit := service.hostTransfer roomId oldHost newHost }

def leaveWaitingRoom (service : LobbyService) (player : PlayerId)
    (requester : Option ConnectionId) (requestId : UInt32) : LobbyCall :=
  match service.playerToRoom[player]? with
  | none => (service, .ok {})
  | some roomId =>
    match service.rooms[roomId]? with
    | none =>
      ({ service with playerToRoom := service.playerToRoom.erase player }, .ok {})
    | some room =>
      attempt service room.getHost fun oldHost =>
        match room.leave player with
        | .error error =>
          (service, .ok (requester.elim {} fun connection =>
            errorResult connection requestId error))
        | .ok remaining =>
          let service := service.removeMember player roomId remaining
          attempt service
            (service.leaveResult player oldHost roomId remaining requester)
            fun result =>
              match requester with
              | none => (service, .ok result)
              | some connection =>
                attempt service (service.roomList requestId) fun rooms =>
                  (service, .ok { result with
                    outbound := result.outbound ++ [⟨connection, rooms⟩] })

/-! ## Requests -/

def handleHello (service : LobbyService) (connection : ConnectionId)
    (state : ConnectionState) (requestId : UInt32) : LobbyCall :=
  if state.player.isSome then
    service.reject connection requestId .alreadyWelcomed
  else
    match service.nextPlayer with
    | none => service.reject connection requestId .idSpaceExhausted
    | some value =>
      let player : PlayerId := ⟨value⟩
      ({ service with
         nextPlayer := Counter.advance value
         connections := service.connections.insert connection
           { state with player := some player }
         playerToConnection :=
           service.playerToConnection.insertIfNew player connection },
       .ok {
         outbound := [⟨connection, .welcome requestId player⟩]
         audit := [{ type := .playerAssigned, connection := some connection
                     player := some player }] })

def handleListRooms (service : LobbyService) (connection : ConnectionId)
    (requestId : UInt32) : LobbyCall :=
  attempt service (service.roomList requestId) fun rooms =>
    (service, .ok { outbound := [⟨connection, rooms⟩] })

def handleCreateRoom (service : LobbyService) (connection : ConnectionId)
    (player : PlayerId) (requestId : UInt32) : LobbyCall :=
  if service.playerToRoom.contains player then
    service.reject connection requestId .alreadyInRoom
  else if service.maximumRooms ≤ service.rooms.size then
    service.reject connection requestId .roomLimitReached
  else
    match service.nextRoom, service.nextJoinOrdinal with
    | some value, some joinOrdinal =>
      let roomId : RoomId := ⟨value⟩
      let service := { service with
        nextRoom := Counter.advance value
        nextJoinOrdinal := Counter.advance joinOrdinal }
      if service.rooms.contains roomId then
        service.reject connection requestId .internalError
      else
        let room := Room.create roomId player joinOrdinal
        let service := { service with
          rooms := service.rooms.insert roomId room
          playerToRoom := service.playerToRoom.insert player roomId }
        attempt service
          (service.broadcastSnapshot room (some connection) requestId)
          fun outbound =>
            (service, .ok {
              outbound
              audit := [{ type := .roomCreated, connection := some connection
                          player := some player, room := some roomId }] })
    | _, _ => service.reject connection requestId .idSpaceExhausted

def handleJoinRoom (service : LobbyService) (connection : ConnectionId)
    (player : PlayerId) (requestId : UInt32) (roomId : RoomId) : LobbyCall :=
  if service.playerToRoom.contains player then
    service.reject connection requestId .alreadyInRoom
  else
    match service.rooms[roomId]? with
    | none => service.reject connection requestId .roomNotFound
    | some room =>
      attempt service (room.snapshot 0) fun before =>
        if before.state ≠ .waiting then
          service.reject connection requestId .roomNotJoinable
        else if roomCapacity ≤ before.members.length then
          service.reject connection requestId .roomFull
        else
          match service.nextJoinOrdinal with
          | none => service.reject connection requestId .idSpaceExhausted
          | some ordinal =>
            let service := { service with
              nextJoinOrdinal := Counter.advance ordinal }
            match room.join player ordinal with
            | .error error => service.reject connection requestId error
            | .ok joined =>
              let service := { service with
                rooms := service.rooms.insert roomId joined
                playerToRoom := service.playerToRoom.insert player roomId }
              attempt service
                (service.broadcastSnapshot joined (some connection) requestId)
                fun outbound => (service, .ok { outbound })

def handleLeaveRoom (service : LobbyService) (connection : ConnectionId)
    (player : PlayerId) (requestId : UInt32) : LobbyCall :=
  if service.playerToRoom.contains player then
    service.leaveWaitingRoom player (some connection) requestId
  else service.reject connection requestId .notInRoom

def handleSetReady (service : LobbyService) (connection : ConnectionId)
    (player : PlayerId) (requestId : UInt32) (ready : Bool) : LobbyCall :=
  match service.playerToRoom[player]? with
  | none => service.reject connection requestId .notInRoom
  | some roomId =>
    match service.rooms[roomId]? with
    | none => service.reject connection requestId .internalError
    | some room =>
      match room.setReady player ready with
      | .error error => service.reject connection requestId error
      | .ok changed =>
        let service := { service with
          rooms := service.rooms.insert roomId changed }
        attempt service
          (service.broadcastSnapshot changed (some connection) requestId)
          fun outbound => (service, .ok { outbound })

/-! ## Starting a match -/

/-- Issue a ticket for each player; a failure yields the tickets issued before
it. -/
def issueTickets (matchId : MatchId) (now : TimePoint) :
    List PlayerId → List MatchTicketValue → MatchTicketRegistry →
      MatchTicketRegistry × Except (List MatchTicketValue) (List MatchTicketValue)
  | [], issued, registry => (registry, .ok issued)
  | player :: players, issued, registry =>
    let (registry, ticket) := registry.issue matchId player now
    match ticket with
    | none => (registry, .error issued)
    | some ticket =>
      issueTickets matchId now players (issued ++ [ticket]) registry

def matchSeed (service : LobbyService) (matchId : MatchId) : UInt32 :=
  service.matchSeedBase ^^^ matchId.value.toUInt32 ^^^
    (matchId.value >>> 32).toUInt32

/-- The reservation to ask for when a room starts. -/
def startAction (service : LobbyService) (player : PlayerId)
    (requestId : UInt32) (now : TimePoint) (roomId : RoomId) (room : Room)
    (matchId : MatchId) (reservation : ReservationId)
    (temporaryTickets : List MatchTicketValue) : ReserveMatchAction where
  reservation
  room := roomId
  matchId
  requester := player
  requestId
  seed := service.matchSeed matchId
  issuedAt := now
  participants := (room.players.zip temporaryTickets).map fun entry =>
    { player := entry.1, ticket := entry.2 }

/-- Undo a start: the tickets are revoked and the room waits again. -/
def rollbackStart (service : LobbyService) (connection : ConnectionId)
    (player : PlayerId) (requestId : UInt32) (roomId : RoomId)
    (matchId : MatchId) (room : Room) (issued : List MatchTicketValue)
    (error : LobbyError) : LobbyCall :=
  let service := { service with tickets := service.tickets.revoke issued }
  attempt service room.returnToWaiting fun waiting =>
    let service := { service with rooms := service.rooms.insert roomId waiting }
    attempt service (service.broadcastSnapshot waiting none 0) fun outbound =>
      (service, .ok {
        outbound := outbound ++ [⟨connection, .error requestId error⟩]
        audit := [{ type := .startFailed, connection := some connection
                    player := some player, room := some roomId
                    matchId := some matchId, error := some error }] })

/-- Record the reservation of a starting room and ask for a worker. -/
def reserveMatch (service : LobbyService) (connection : ConnectionId)
    (room : Room) (action : ReserveMatchAction) : LobbyCall :=
  if service.pendingReservations.contains action.reservation ||
      service.roomToReservation.contains action.room then
    { service with
      pendingReservations :=
        service.pendingReservations.erase action.reservation
      roomToReservation := service.roomToReservation.erase action.room
    }.rollbackStart connection action.requester action.requestId action.room
      action.matchId room action.tickets .internalError
  else
    let service := { service with
      pendingReservations :=
        service.pendingReservations.insert action.reservation { action }
      roomToReservation :=
        service.roomToReservation.insert action.room action.reservation }
    attempt service
      (service.broadcastSnapshot room (some connection) action.requestId)
      fun outbound =>
        (service, .ok { outbound, actions := [.reserve action] })

def handleStartMatch (service : LobbyService) (connection : ConnectionId)
    (player : PlayerId) (requestId : UInt32) (now : TimePoint) : LobbyCall :=
  match service.playerToRoom[player]? with
  | none => service.reject connection requestId .notInRoom
  | some roomId =>
    match service.rooms[roomId]? with
    | none => service.reject connection requestId .internalError
    | some room =>
      match room.validateStart player with
      | some error => service.reject connection requestId error
      | none =>
        match service.nextMatch, service.nextReservation with
        | some matchValue, some reservationValue =>
          let matchId : MatchId := ⟨matchValue⟩
          let service := { service with
            nextMatch := Counter.advance matchValue
            nextReservation := Counter.advance reservationValue }
          attempt service room.beginStarting fun starting =>
            let (tickets, issued) :=
              issueTickets matchId now room.players [] service.tickets
            let service := { service with
              tickets, rooms := service.rooms.insert roomId starting }
            match issued with
            | .error temporaryTickets =>
              service.rollbackStart connection player requestId roomId matchId
                starting temporaryTickets .internalError
            | .ok temporaryTickets =>
              service.reserveMatch connection starting
                (service.startAction player requestId now roomId room matchId
                  ⟨reservationValue⟩ temporaryTickets)
        | _, _ => service.reject connection requestId .idSpaceExhausted

/-! ## The end of a reservation or a match -/

/-- Drop a reservation and its tickets. -/
def forgetReservation (service : LobbyService) (reservation : ReservationId)
    (roomId : RoomId) (action : ReserveMatchAction) : LobbyService :=
  { service with
    pendingReservations := service.pendingReservations.erase reservation
    roomToReservation := service.roomToReservation.erase roomId
    tickets := service.tickets.revoke action.tickets }

/-- The room if it is there and starting. -/
def startingRoom (service : LobbyService) (roomId : RoomId) :
    Except Exception (Option Room) :=
  match service.rooms[roomId]? with
  | none => .ok none
  | some room => do
    let snapshot ← room.snapshot 0
    pure (if snapshot.state = .starting then some room else none)

/-- Tell the requester, where still connected, that the start failed. -/
def startFailed (action : ReserveMatchAction)
    (requesterConnection : Option ConnectionId) (error : LobbyError)
    (result : LobbyServiceResult) : LobbyServiceResult :=
  { result with
    outbound := result.outbound ++ requesterConnection.toList.map
      fun connection => ⟨connection, .error action.requestId error⟩
    audit := result.audit ++
      [{ type := .startFailed, connection := requesterConnection
         player := some action.requester, room := some action.room
         matchId := some action.matchId, error := some error }] }

def failPendingReservation (service : LobbyService)
    (reservation : ReservationId) (error : LobbyError) : LobbyCall :=
  match service.pendingReservations[reservation]? with
  | none => (service, .ok {})
  | some ⟨action⟩ =>
    let service := service.forgetReservation reservation action.room action
    let requesterConnection := service.playerToConnection[action.requester]?
    attempt service (service.startingRoom action.room) fun starting =>
      match starting with
      | none => (service, .ok (startFailed action requesterConnection error {}))
      | some room =>
        attempt service room.returnToWaiting fun waiting =>
          let service := { service with
            rooms := service.rooms.insert action.room waiting }
          attempt service (service.broadcastSnapshot waiting none 0)
            fun outbound =>
              (service,
               .ok (startFailed action requesterConnection error { outbound }))

/-- A member of a starting room disconnects: the reservation is cancelled. -/
def disconnectStartingPlayer (service : LobbyService) (player : PlayerId)
    (roomId : RoomId) : LobbyCall :=
  match service.roomToReservation[roomId]? with
  | none => (service, .ok {})
  | some reservation =>
    match service.pendingReservations[reservation]? with
    | none =>
      ({ service with
         roomToReservation := service.roomToReservation.erase roomId }, .ok {})
    | some ⟨action⟩ =>
      let service := service.forgetReservation reservation roomId action
      match service.rooms[roomId]? with
      | none => (service, .ok {})
      | some room =>
        attempt service room.returnToWaiting fun waiting =>
          let service := { service with
            rooms := service.rooms.insert roomId waiting }
          let (service, left) := service.leaveWaitingRoom player none 0
          attempt service left fun result =>
            let requesterConnection :=
              if action.requester = player then none
              else service.playerToConnection[action.requester]?
            (service, .ok (startFailed action requesterConnection
              .workerUnavailable { result with
                actions := result.actions ++
                  [.cancel action.reservation action.matchId] }))

def finishActiveMatch (service : LobbyService) (worker : WorkerId)
    (matchId : MatchId) (unavailable : Bool) : LobbyCall :=
  match service.activeMatches[matchId]? with
  | none => (service, .ok {})
  | some record =>
    if record.worker ≠ worker then (service, .ok {})
    else
      let service := { service with
        activeMatches := service.activeMatches.erase matchId
        tickets := service.tickets.revoke record.tickets }
      match service.rooms[record.room]? with
      | none => (service, .ok {})
      | some room =>
        let recipients :=
          room.players.filterMap (service.playerToConnection[·]?)
        let service := { service with
          playerToRoom := room.players.foldl (·.erase ·) service.playerToRoom
          rooms := service.rooms.erase record.room }
        let messages := recipients.mapM fun recipient => do
          let rooms ← service.roomList 0
          pure ((if unavailable then
              [OutboundMessage.mk recipient (.error 0 .matchUnavailable)]
            else []) ++ [⟨recipient, rooms⟩])
        attempt service messages fun outbound =>
          (service, .ok {
            outbound := outbound.flatten
            audit := [{ type := .roomDeleted, room := some record.room }] })

/-! ## Worker events -/

/-- The whole seconds left of the tickets' lifetime. -/
def remainingSeconds (action : ReserveMatchAction) (now : TimePoint) : Int :=
  (action.issuedAt + matchTicketLifetime - now).tdiv nanosecondsPerSecond

/-- The tickets of the connected participants. -/
def ticketMessages (service : LobbyService) (action : ReserveMatchAction)
    (requesterConnection : Option ConnectionId) (endpoint : GameEndpoint)
    (expiresInSeconds : UInt16) : List OutboundMessage :=
  action.participants.filterMap fun participant =>
    service.playerToConnection[participant.player]?.map fun connection =>
      ⟨connection, .matchTicket {
        requestId :=
          if some connection = requesterConnection then action.requestId else 0
        matchId := action.matchId
        ticket := participant.ticket
        host := endpoint.host
        tcpPort := endpoint.tcpPort
        udpPort := endpoint.udpPort
        expiresInSeconds }⟩

/-- Move a starting room into its match. -/
def beginMatch (service : LobbyService) (action : ReserveMatchAction)
    (room : Room) (worker : WorkerId) (endpoint : GameEndpoint)
    (remaining : Int) : LobbyCall :=
  attempt service room.markInMatch fun inMatch =>
    let service := { service with
      rooms := service.rooms.insert action.room inMatch
      activeMatches := service.activeMatches.insertIfNew action.matchId
        { room := action.room, worker, tickets := action.tickets } }
    let requesterConnection := service.playerToConnection[action.requester]?
    attempt service
      (service.broadcastSnapshot inMatch requesterConnection action.requestId)
      fun snapshots =>
        let expiresInSeconds := UInt16.ofNat
          (min remaining matchTicketLifetimeSeconds).toNat
        (service, .ok {
          outbound := snapshots ++ service.ticketMessages action
            requesterConnection endpoint expiresInSeconds
          audit := [{ type := .matchStarted, connection := requesterConnection
                      player := some action.requester, room := some action.room
                      matchId := some action.matchId
                      endpoint := some endpoint }] })

def handleReservationReady (service : LobbyService)
    (reservation : ReservationId) (matchId : MatchId) (worker : WorkerId)
    (endpoint : GameEndpoint) (now : TimePoint) : LobbyCall :=
  match service.pendingReservations[reservation]? with
  | none => (service, .ok {})
  | some ⟨action⟩ =>
    if action.matchId ≠ matchId then (service, .ok {})
    else
      let remaining := remainingSeconds action now
      if worker.value = 0 ∨ endpoint.isValid = false ∨ remaining < 1 then
        service.failPendingReservation reservation .workerUnavailable
      else
        let service := { service with
          pendingReservations := service.pendingReservations.erase reservation
          roomToReservation := service.roomToReservation.erase action.room }
        attempt service (service.startingRoom action.room) fun starting =>
          match starting with
          | none =>
            ({ service with
               tickets := service.tickets.revoke action.tickets }, .ok {})
          | some room => service.beginMatch action room worker endpoint remaining

def handleReservationFailed (service : LobbyService)
    (reservation : ReservationId) (matchId : MatchId) : LobbyCall :=
  match service.pendingReservations[reservation]? with
  | none => (service, .ok {})
  | some pending =>
    if pending.action.matchId ≠ matchId then (service, .ok {})
    else service.failPendingReservation reservation .workerUnavailable

def handleWorkerEvent (service : LobbyService) (event : WorkerEvent)
    (now : TimePoint) : LobbyCall :=
  match event with
  | .reservationFailed reservation matchId =>
    service.handleReservationFailed reservation matchId
  | .reservationReady reservation matchId worker endpoint =>
    service.handleReservationReady reservation matchId worker endpoint now
  | .matchFinished worker matchId =>
    service.finishActiveMatch worker matchId false
  | .matchUnavailable worker matchId =>
    service.finishActiveMatch worker matchId true

/-! ## Clients -/

def openConnection (service : LobbyService) :
    LobbyService × Option ConnectionId :=
  match service.nextConnection with
  | none => (service, none)
  | some value =>
    ({ service with
       nextConnection := Counter.advance value
       connections := service.connections.insertIfNew ⟨value⟩ {} },
     some ⟨value⟩)

/-- A request of a client that has said hello. -/
def handleRequest (service : LobbyService) (connection : ConnectionId)
    (player : PlayerId) (message : ClientMessage) (now : TimePoint) :
    LobbyCall :=
  match message with
  | .hello requestId => service.reject connection requestId .alreadyWelcomed
  | .listRooms requestId => service.handleListRooms connection requestId
  | .createRoom requestId => service.handleCreateRoom connection player requestId
  | .joinRoom requestId room =>
    service.handleJoinRoom connection player requestId room
  | .leaveRoom requestId => service.handleLeaveRoom connection player requestId
  | .setReady requestId ready =>
    service.handleSetReady connection player requestId ready
  | .startMatch requestId =>
    service.handleStartMatch connection player requestId now

def handle (service : LobbyService) (connection : ConnectionId)
    (message : ClientMessage) (now : TimePoint) : LobbyCall :=
  match service.connections[connection]? with
  | none => (service, .ok {})
  | some state =>
    let requestId := message.requestId
    if requestId = 0 ∨ requestId ≤ state.lastRequestId then
      service.reject connection requestId .requestOutOfOrder
    else
      let state := { state with lastRequestId := requestId }
      let service := { service with
        connections := service.connections.insert connection state }
      match message, state.player with
      | .hello _, _ => service.handleHello connection state requestId
      | _, none => service.reject connection requestId .notWelcomed
      | message, some player =>
        service.handleRequest connection player message now

/-- What the disconnect of a player does to the room of the player. -/
def disconnectPlayer (service : LobbyService) (player : PlayerId) : LobbyCall :=
  match service.playerToRoom[player]? with
  | none => (service, .ok {})
  | some roomId =>
    match service.rooms[roomId]? with
    | none => (service, .ok {})
    | some room =>
      attempt service (room.snapshot 0) fun snapshot =>
        match snapshot.state with
        | .starting => service.disconnectStartingPlayer player roomId
        | .waiting => service.leaveWaitingRoom player none 0
        | .inMatch => (service, .ok {})

def disconnect (service : LobbyService) (connection : ConnectionId) :
    LobbyCall :=
  match service.connections[connection]? with
  | none => (service, .ok {})
  | some state =>
    match state.player with
    | none =>
      ({ service with
         connections := service.connections.erase connection }, .ok {})
    | some player =>
      let (service, left) := service.disconnectPlayer player
      attempt service left fun result =>
        ({ service with
           playerToConnection := service.playerToConnection.erase player
           connections := service.connections.erase connection }, .ok result)

end LobbyService

/-- The calls the lobby's owner makes, in any order. -/
inductive LobbyEvent where
  | openConnection
  | handle (connection : ConnectionId) (message : ClientMessage)
      (now : TimePoint)
  | disconnect (connection : ConnectionId)
  | workerEvent (event : WorkerEvent) (now : TimePoint)

def LobbyService.call (service : LobbyService) : LobbyEvent → LobbyCall
  | .openConnection => (service.openConnection.1, .ok {})
  | .handle connection message now => service.handle connection message now
  | .disconnect connection => service.disconnect connection
  | .workerEvent event now => service.handleWorkerEvent event now

def LobbyService.step (service : LobbyService) (event : LobbyEvent) :
    LobbyService :=
  (service.call event).1

end SurvivalArena
