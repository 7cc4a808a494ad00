import SurvivalArena.Lobby.WorkerRegistry

/-!
# The lobby server

The lobby service and the worker registry in one process.  What one side asks of the
other or tells it is handed over before the server turns to its next event.
-/

namespace SurvivalArena

structure LobbyServer where
  service : LobbyService
  registry : WorkerRegistry := {}

/-- What the server sends and closes; `unrouted` are actions that an answer to a
worker event asks for. -/
structure ServerOutput where
  outbound : List OutboundMessage := []
  control : List WorkerControlOutbound := []
  closeConnections : List WorkerConnectionId := []
  unrouted : List LobbyRuntimeAction := []

def ServerOutput.append (first second : ServerOutput) : ServerOutput where
  outbound := first.outbound ++ second.outbound
  control := first.control ++ second.control
  closeConnections := first.closeConnections ++ second.closeConnections
  unrouted := first.unrouted ++ second.unrouted

/-- The lobby's answers to the events of one call of the registry. -/
def LobbyService.handleEvents (now : TimePoint) (service : LobbyService) :
    List WorkerEvent → LobbyService × Except Exception ServerOutput
  | [] => (service, .ok {})
  | event :: events =>
    let (service, handled) := service.handleWorkerEvent event now
    attempt service handled fun result =>
      let (service, rest) := service.handleEvents now events
      attempt service rest fun output =>
        (service, .ok ({ outbound := result.outbound
                         unrouted := result.actions : ServerOutput }.append output))

namespace LobbyServer

/-- Route what a call of the registry returned. -/
def routeControl (server : LobbyServer) (now : TimePoint)
    (result : WorkerRegistryResult) : LobbyServer × Except Exception ServerOutput :=
  let (service, handled) := server.service.handleEvents now result.events
  let server := { server with service }
  attempt server handled fun output =>
    (server, .ok ({ control := result.outbound
                    closeConnections := result.closeConnections : ServerOutput }.append
      output))

/-- Have the registry execute what the lobby asks for. -/
def executeActions (now : TimePoint) (server : LobbyServer) :
    List LobbyRuntimeAction → LobbyServer × Except Exception ServerOutput
  | [] => (server, .ok {})
  | action :: actions =>
    let (registry, result) := server.registry.execute action now
    let (server, routed) := { server with registry }.routeControl now result
    attempt server routed fun first =>
      let (server, rest) := server.executeActions now actions
      attempt server rest fun output => (server, .ok (first.append output))

end LobbyServer

/-- What clients do. -/
inductive ClientEvent where
  | openConnection
  | handle (connection : ConnectionId) (message : ClientMessage) (now : TimePoint)
  | disconnect (connection : ConnectionId)

def ClientEvent.lobbyEvent : ClientEvent → LobbyEvent
  | .openConnection => .openConnection
  | .handle connection message now => .handle connection message now
  | .disconnect connection => .disconnect connection

/-- What happens on the workers' connections and timers. -/
inductive ControlEvent where
  | register (connection : WorkerConnectionId) (registration : WorkerRegister)
  | receive (connection : WorkerConnectionId) (message : WorkerToLobbyMessage)
  | disconnect (connection : WorkerConnectionId)
  | timeout (reservation : ReservationId)

def ControlEvent.registryCall : ControlEvent → RegistryCall
  | .register connection registration => .register connection registration
  | .receive connection message => .receive connection message
  | .disconnect connection => .disconnect connection
  | .timeout reservation => .timeout reservation

/-- An event, and the time at which what it entails is handed over. -/
inductive ServerEvent where
  | client (event : ClientEvent) (now : TimePoint)
  | control (event : ControlEvent) (now : TimePoint)

namespace LobbyServer

def handleClient (server : LobbyServer) (event : ClientEvent) (now : TimePoint) :
    LobbyServer × Except Exception ServerOutput :=
  let (service, handled) := server.service.call event.lobbyEvent
  let server := { server with service }
  attempt server handled fun result =>
    let (server, executed) := server.executeActions now result.actions
    attempt server executed fun output =>
      (server, .ok ({ outbound := result.outbound : ServerOutput }.append output))

def handleControl (server : LobbyServer) (event : ControlEvent) (now : TimePoint) :
    LobbyServer × Except Exception ServerOutput :=
  let (registry, result) := server.registry.call event.registryCall
  { server with registry }.routeControl now result

def call (server : LobbyServer) : ServerEvent → LobbyServer × Except Exception ServerOutput
  | .client event now => server.handleClient event now
  | .control event now => server.handleControl event now

def step (server : LobbyServer) (event : ServerEvent) : LobbyServer :=
  (server.call event).1

def create (tickets : MatchTicketRegistry) (config : LobbyServiceConfig) : LobbyServer where
  service := .create tickets config

end LobbyServer

end SurvivalArena
