import SurvivalArena.Framework.Inverse
import SurvivalArena.Lobby.LobbyService

/-!
# What a call can change

A call makes at most a few of the changes below, each under the conditions that
the handlers check.  The actions are those it hands to the worker side.  Tickets are
issued only where a start was asked for, with the time of the request, and only what
a worker did ends a match or a reservation that its room still waits for.
-/

namespace SurvivalArena

namespace LobbyService

/-- A starting room waits again and its reservation is forgotten. -/
def releaseRoom (service : LobbyService) (reservation : ReservationId)
    (action : ReserveMatchAction) (room : Room) : LobbyService :=
  let service := service.forgetReservation reservation action.room action
  { service with
    rooms := service.rooms.insert action.room { room with state := .waiting } }

/-- A starting room enters its match on a worker. -/
def enterMatch (service : LobbyService) (reservation : ReservationId)
    (action : ReserveMatchAction) (room : Room) (worker : WorkerId) :
    LobbyService :=
  { service with
    pendingReservations := service.pendingReservations.erase reservation
    roomToReservation := service.roomToReservation.erase action.room
    rooms := service.rooms.insert action.room { room with state := .inMatch }
    activeMatches := service.activeMatches.insertIfNew action.matchId
      { room := action.room, worker, tickets := action.tickets } }

/-- A match and its room are gone. -/
def closeMatch (service : LobbyService) (matchId : MatchId)
    (record : ActiveMatch) (room : Room) : LobbyService :=
  { service with
    activeMatches := service.activeMatches.erase matchId
    tickets := service.tickets.revoke record.tickets
    playerToRoom := room.players.foldl (·.erase ·) service.playerToRoom
    rooms := service.rooms.erase record.room }

end LobbyService

/-- The time of the request where it asks for a start. -/
def ClientMessage.startTime (message : ClientMessage) (now : TimePoint) :
    Option TimePoint :=
  match message with
  | .startMatch _ => some now
  | _ => none

def LobbyEvent.startTime : LobbyEvent → Option TimePoint
  | .handle _ message now => message.startTime now
  | _ => none

/-- The call is made for a client. -/
def LobbyEvent.isClient : LobbyEvent → Bool
  | .workerEvent _ _ => false
  | _ => true

def LobbyEvent.isDisconnect : LobbyEvent → Bool
  | .disconnect _ => true
  | _ => false

inductive LobbyChange (event : LobbyEvent) (before : LobbyService) :
    LobbyService → List LobbyRuntimeAction → Prop
  | opened (value : UInt64) (next : before.nextConnection = some value) :
    LobbyChange event before { before with
      nextConnection := Counter.advance value
      connections := before.connections.insertIfNew ⟨value⟩ {} } []
  | received (connection : ConnectionId) (state : ConnectionState)
      (requestId : UInt32)
      (found : before.connections[connection]? = some state)
      (ordered : state.lastRequestId < requestId) :
    LobbyChange event before { before with
      connections := before.connections.insert connection
        { state with lastRequestId := requestId } } []
  | welcomed (connection : ConnectionId) (state : ConnectionState)
      (value : UInt32) (found : before.connections[connection]? = some state)
      (unnamed : state.player = none) (next : before.nextPlayer = some value) :
    LobbyChange event before { before with
      nextPlayer := Counter.advance value
      connections := before.connections.insert connection
        { state with player := some ⟨value⟩ }
      playerToConnection :=
        before.playerToConnection.insertIfNew ⟨value⟩ connection } []
  | created (player : PlayerId) (value : UInt32) (joinOrdinal : UInt64)
      (absent : before.playerToRoom[player]? = none)
      (nextRoom : before.nextRoom = some value)
      (nextOrdinal : before.nextJoinOrdinal = some joinOrdinal)
      (roomy : before.rooms.size < before.maximumRooms) :
    LobbyChange event before { before with
      nextRoom := Counter.advance value
      nextJoinOrdinal := Counter.advance joinOrdinal
      rooms := before.rooms.insert ⟨value⟩
        (Room.create ⟨value⟩ player joinOrdinal)
      playerToRoom := before.playerToRoom.insert player ⟨value⟩ } []
  | joined (player : PlayerId) (roomId : RoomId) (room joined : Room)
      (ordinal : UInt64) (absent : before.playerToRoom[player]? = none)
      (found : before.rooms[roomId]? = some room)
      (next : before.nextJoinOrdinal = some ordinal)
      (joins : room.join player ordinal = .ok joined) :
    LobbyChange event before { before with
      nextJoinOrdinal := Counter.advance ordinal
      rooms := before.rooms.insert roomId joined
      playerToRoom := before.playerToRoom.insert player roomId } []
  | left (player : PlayerId) (roomId : RoomId) (room : Room)
      (member : before.playerToRoom[player]? = some roomId)
      (found : before.rooms[roomId]? = some room)
      (waiting : room.state = .waiting) :
    LobbyChange event before
      (before.removeMember player roomId (room.without player)) []
  | readied (player : PlayerId) (ready : Bool) (roomId : RoomId)
      (room changed : Room) (found : before.rooms[roomId]? = some room)
      (sets : room.setReady player ready = .ok changed) :
    LobbyChange event before
      { before with rooms := before.rooms.insert roomId changed } []
  | rolledBack (matchValue reservationValue : UInt64) (now : TimePoint)
      (starts : event.startTime = some now) (room : Room) (tickets : MatchTicketRegistry)
      (issued : List MatchTicketValue)
      (nextMatch : before.nextMatch = some matchValue)
      (nextReservation : before.nextReservation = some reservationValue)
      (issues : LobbyService.issueTickets ⟨matchValue⟩ now room.players []
        before.tickets = (tickets, .error issued)) :
    LobbyChange event before { before with
      nextMatch := Counter.advance matchValue
      nextReservation := Counter.advance reservationValue
      tickets := tickets.revoke issued } []
  | reserved (action : ReserveMatchAction) (room : Room)
      (tickets : MatchTicketRegistry)
      (starts : event.startTime = some action.issuedAt)
      (found : before.rooms[action.room]? = some room)
      (valid : room.validateStart action.requester = none)
      (nextMatch : before.nextMatch = some action.matchId.value)
      (nextReservation :
        before.nextReservation = some action.reservation.value)
      (participants :
        action.participants.map ReservedParticipant.player = room.players)
      (issues : LobbyService.issueTickets action.matchId action.issuedAt
        room.players [] before.tickets = (tickets, .ok action.tickets)) :
    LobbyChange event before { before with
      nextMatch := Counter.advance action.matchId.value
      nextReservation := Counter.advance action.reservation.value
      tickets
      rooms := before.rooms.insert action.room { room with state := .starting }
      pendingReservations :=
        before.pendingReservations.insert action.reservation { action }
      roomToReservation :=
        before.roomToReservation.insert action.room action.reservation }
      [.reserve action]
  | failed (reservation : ReservationId) (action : ReserveMatchAction)
      (room : Room) (told : event.isClient = false)
      (pending : before.pendingReservations[reservation]? = some { action })
      (found : before.rooms[action.room]? = some room) :
    LobbyChange event before (before.releaseRoom reservation action room) []
  | cancelled (reservation : ReservationId) (action : ReserveMatchAction)
      (room : Room)
      (pending : before.pendingReservations[reservation]? = some { action })
      (found : before.rooms[action.room]? = some room)
      (leaves : event.isDisconnect = true) :
    LobbyChange event before (before.releaseRoom reservation action room)
      [.cancel action.reservation action.matchId]
  | begun (reservation : ReservationId) (action : ReserveMatchAction)
      (room : Room) (worker : WorkerId) (told : event.isClient = false)
      (pending : before.pendingReservations[reservation]? = some { action })
      (found : before.rooms[action.room]? = some room) :
    LobbyChange event before (before.enterMatch reservation action room worker) []
  | finished (matchId : MatchId) (record : ActiveMatch) (room : Room)
      (told : event.isClient = false)
      (active : before.activeMatches[matchId]? = some record)
      (found : before.rooms[record.room]? = some room) :
    LobbyChange event before (before.closeMatch matchId record room) []
  | forgotten (connection : ConnectionId) (state : ConnectionState)
      (found : before.connections[connection]? = some state)
      (unnamed : state.player = none) :
    LobbyChange event before { before with
      connections := before.connections.erase connection } []
  | closed (connection : ConnectionId) (state : ConnectionState)
      (player : PlayerId) (found : before.connections[connection]? = some state)
      (named : state.player = some player) :
    LobbyChange event before { before with
      playerToConnection := before.playerToConnection.erase player
      connections := before.connections.erase connection } []

theorem LobbyChange.length_actions {event : LobbyEvent} {before after : LobbyService}
    {actions : List LobbyRuntimeAction}
    (h : LobbyChange event before after actions) : actions.length ≤ 1 := by
  cases h <;> simp

/-- A sequence of changes and the actions they ask for. -/
inductive LobbyChanges (event : LobbyEvent) : LobbyService → LobbyService →
    List LobbyRuntimeAction → Prop
  | none (service : LobbyService) : LobbyChanges event service service []
  | next {before middle after : LobbyService}
      {first rest : List LobbyRuntimeAction}
      (change : LobbyChange event before middle first)
      (changes : LobbyChanges event middle after rest) :
    LobbyChanges event before after (first ++ rest)

theorem LobbyChange.changes {event : LobbyEvent} {before after : LobbyService}
    {actions : List LobbyRuntimeAction}
    (h : LobbyChange event before after actions) :
    LobbyChanges event before after actions := by
  rw [← List.append_nil actions]
  exact .next h (.none after)

theorem LobbyChanges.trans {event : LobbyEvent} {before middle after : LobbyService}
    {first rest : List LobbyRuntimeAction}
    (h : LobbyChanges event before middle first)
    (hrest : LobbyChanges event middle after rest) :
    LobbyChanges event before after (first ++ rest) := by
  induction h with
  | none service => exact hrest
  | next change _ ih =>
    rw [List.append_assoc]
    exact .next change (ih hrest)

end SurvivalArena
