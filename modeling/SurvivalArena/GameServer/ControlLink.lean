import SurvivalArena.Framework.Machine
import SurvivalArena.Lobby.LobbyServer

/-!
# The control connection of a game server

A lobby server and a game server joined by a channel in each direction.  Messages
arrive in the order they were sent; each side closes the connection when a message is
not legal in its state.
-/

namespace SurvivalArena

/-! ## The game server's side -/

/-- What the game server knows of its control connection; `held` is the reservation and
the match it has set up. -/
structure GameControl where
  worker : WorkerId
  registered : Bool := false
  held : Option (ReservationId × MatchId) := none
  closed : Bool := false

namespace GameControl

/-- Close the connection; what happens to the match afterwards is not followed. -/
def close (control : GameControl) : GameControl × List WorkerToLobbyMessage :=
  ({ control with closed := true }, [])

/-- Set up the match, if that works. -/
def handleReservation (control : GameControl) (initializes : Bool)
    (reservation : ReserveMatch) : GameControl × List WorkerToLobbyMessage :=
  if control.held.isSome then
    (control, [.rejected reservation.reservation reservation.matchId .busy])
  else if initializes then
    ({ control with held := some (reservation.reservation, reservation.matchId) },
     [.ready reservation.reservation reservation.matchId])
  else
    ({ control with held := none },
     [.rejected reservation.reservation reservation.matchId
       .simulationInitializationFailed])

def handleControlFrame (control : GameControl) (initializes : Bool)
    (message : LobbyToWorkerMessage) : GameControl × List WorkerToLobbyMessage :=
  match message with
  | .registered worker =>
    if control.registered ∨ worker ≠ control.worker then control.close
    else ({ control with registered := true }, [])
  | .reserve reservation =>
    if control.registered = false then control.close
    else control.handleReservation initializes reservation
  | .cancel reservation matchId =>
    if control.registered = false then control.close
    else if control.held ≠ some (reservation, matchId) then control.close
    else ({ control with held := none }, [.cancelled reservation matchId])

/-- The match is over: its end is told and the match is discarded. -/
def finishMatch (control : GameControl) (completion : MatchFinished) :
    GameControl × List WorkerToLobbyMessage :=
  match control.held with
  | none => (control, [])
  | some (_, matchId) =>
    ({ control with held := none }, [.finished { completion with matchId }])

end GameControl

/-! ## Both sides -/

structure ControlLink where
  lobby : LobbyServer
  connection : WorkerConnectionId
  sessionRegistered : Bool := false
  control : GameControl
  toWorker : List LobbyToWorkerMessage := []
  toLobby : List WorkerToLobbyMessage := []
  lobbyClosed : Bool := false

/-- What happens at either end, or one message that arrives. -/
inductive LinkEvent where
  | client (event : ClientEvent) (now : TimePoint)
  | lobbyReceives (now : TimePoint)
  | workerReceives (initializes : Bool)
  | matchFinishes (completion : MatchFinished)

namespace ControlLink

/-- The game server has connected and asks to be registered. -/
def attach (lobby : LobbyServer) (connection : WorkerConnectionId)
    (registration : WorkerRegister) : ControlLink where
  lobby
  connection
  control := { worker := registration.worker }
  toLobby := [.register registration]

def closed (link : ControlLink) : Bool :=
  link.lobbyClosed || link.control.closed

/-- Send what the lobby server has for this connection, and close it if asked to. -/
def route (link : ControlLink) :
    LobbyServer × Except Exception ServerOutput → ControlLink
  | (lobby, .error _) => { link with lobby }
  | (lobby, .ok output) => { link with
      lobby
      toWorker := link.toWorker ++
        (output.control.filter (·.recipient = link.connection)).map
          WorkerControlOutbound.message
      lobbyClosed := output.closeConnections.contains link.connection }

/-- The lobby's end of the connection receives a message. -/
def handleFrame (link : ControlLink) (message : WorkerToLobbyMessage)
    (now : TimePoint) : ControlLink :=
  if link.sessionRegistered then
    link.route (link.lobby.handleControl (.receive link.connection message) now)
  else
    match message with
    | .register registration =>
      { link with
        sessionRegistered :=
          (link.lobby.registry.register link.connection registration).2.accepted
      }.route (link.lobby.handleControl (.register link.connection registration) now)
    | _ => { link with lobbyClosed := true }

/-- What the game server did and sends. -/
def answer (link : ControlLink) :
    GameControl × List WorkerToLobbyMessage → ControlLink
  | (control, messages) => { link with control, toLobby := link.toLobby ++ messages }

def act (link : ControlLink) : LinkEvent → ControlLink
  | .client event now => link.route (link.lobby.handleClient event now)
  | .lobbyReceives now =>
    match link.toLobby with
    | [] => link
    | message :: toLobby => { link with toLobby }.handleFrame message now
  | .workerReceives initializes =>
    match link.toWorker with
    | [] => link
    | message :: toWorker =>
      { link with toWorker }.answer (link.control.handleControlFrame initializes message)
  | .matchFinishes completion => link.answer (link.control.finishMatch completion)

/-- Nothing happens any more on a closed connection. -/
def step (link : ControlLink) (event : LinkEvent) : ControlLink :=
  if link.closed then link else link.act event

end ControlLink

/-! ## Crossings -/

def WorkerToLobbyMessage.declines : WorkerToLobbyMessage → Bool
  | .rejected _ _ _ => true
  | .finished _ => true
  | _ => false

def LobbyToWorkerMessage.cancels : LobbyToWorkerMessage → Bool
  | .cancel _ _ => true
  | _ => false

/-- The reservation of the starting room that a connection's player is in. -/
def LobbyService.abandons (service : LobbyService) (connection : ConnectionId) :
    Option ReservationId := do
  let state ← service.connections[connection]?
  let player ← state.player
  let roomId ← service.playerToRoom[player]?
  service.roomToReservation[roomId]?

/-- No cancellation sets out while a rejection or the end of a match is on its way, and
neither of these while a cancellation is. -/
def ControlLink.Uncrossed (link : ControlLink) : LinkEvent → Prop
  | .client (.disconnect connection) _ =>
    link.lobby.service.abandons connection = none ∨
      ∀ message ∈ link.toLobby, message.declines = false
  | .workerReceives initializes =>
    initializes = true ∨ (∀ reservation, link.toWorker.head? ≠ some (.reserve reservation)) ∨
      ∀ message ∈ link.toWorker, message.cancels = false
  | .matchFinishes _ =>
    link.control.held = none ∨ ∀ message ∈ link.toWorker, message.cancels = false
  | _ => True

end SurvivalArena
