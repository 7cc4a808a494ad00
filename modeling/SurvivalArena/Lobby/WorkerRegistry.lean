import SurvivalArena.Lobby.LobbyService

/-!
# The worker registry

The registry knows the workers by id, connection and endpoint, gives each
reservation to an idle worker and turns the workers' messages, timeouts and
disconnects into events for the lobby.
-/

namespace SurvivalArena

open Wire

inductive WorkerConnectionTag

abbrev WorkerConnectionId := Tagged WorkerConnectionTag UInt64

inductive WorkerState where
  | idle
  | reserved
  | cancelling
  | active
deriving DecidableEq

structure WorkerControlOutbound where
  recipient : WorkerConnectionId
  message : LobbyToWorkerMessage
deriving DecidableEq

inductive ReservationTimerKind where
  | start
  | cancel
deriving DecidableEq

structure ReservationTimerDirective where
  kind : ReservationTimerKind := .start
  reservation : ReservationId
  milliseconds : Nat := 2000
deriving DecidableEq

structure WorkerRegistryResult where
  accepted : Bool := false
  outbound : List WorkerControlOutbound := []
  events : List WorkerEvent := []
  timers : List ReservationTimerDirective := []
  closeConnections : List WorkerConnectionId := []
deriving DecidableEq

structure EndpointKey where
  host : Bytes
  tcpPort : UInt16 := 0
  udpPort : UInt16 := 0
deriving DecidableEq

/-- The components in the order of their comparison. -/
def EndpointKey.components (key : EndpointKey) : Bytes ×ₗ UInt16 ×ₗ UInt16 :=
  toLex (key.host, toLex (key.tcpPort, key.udpPort))

theorem EndpointKey.components_injective :
    Function.Injective EndpointKey.components := by
  intro first second h
  cases first
  cases second
  cases h
  rfl

instance : LinearOrder EndpointKey :=
  LinearOrder.lift' EndpointKey.components EndpointKey.components_injective

instance : Std.TransCmp (compare : EndpointKey → EndpointKey → Ordering) := inferInstance

def WorkerRegister.endpoint (registration : WorkerRegister) : EndpointKey where
  host := registration.advertisedHost
  tcpPort := registration.gameTcpPort
  udpPort := registration.gameUdpPort

structure WorkerRecord where
  connection : WorkerConnectionId
  registration : WorkerRegister
  state : WorkerState := .idle
  reservation : Option ReservationId := none
  matchId : Option MatchId := none
deriving DecidableEq

structure WorkerRegistry where
  workers : Std.ExtTreeMap WorkerId WorkerRecord := ∅
  connections : Std.ExtTreeMap WorkerConnectionId WorkerId := ∅
  reservations : Std.ExtTreeMap ReservationId WorkerId := ∅
  endpoints : Std.ExtTreeMap EndpointKey WorkerId := ∅

def isVisibleAsciiHost (host : Bytes) : Bool :=
  !host.isEmpty && decide (host.length ≤ 255) && isVisibleAscii host

def isValidRegistration (connection : WorkerConnectionId)
    (registration : WorkerRegister) : Bool :=
  connection.value != 0 && registration.worker.value != 0 &&
    isVisibleAsciiHost registration.advertisedHost &&
    registration.gameTcpPort != 0 && registration.gameUdpPort != 0 &&
    registration.capacity == 1

/-- The milliseconds left of the tickets' lifetime, at most all of it. -/
def remainingMilliseconds (action : ReserveMatchAction) (now : TimePoint) : Int :=
  (min (action.issuedAt + matchTicketLifetime - now) matchTicketLifetime).tdiv
    nanosecondsPerMillisecond

namespace WorkerRegistry

def setWorker (registry : WorkerRegistry) (worker : WorkerId)
    (record : WorkerRecord) : WorkerRegistry :=
  { registry with workers := registry.workers.insert worker record }

/-- The worker is idle again. -/
def clearReservation (registry : WorkerRegistry) (worker : WorkerId)
    (record : WorkerRecord) : WorkerRegistry :=
  { registry with
    reservations := record.reservation.elim registry.reservations
      (registry.reservations.erase ·)
    workers := registry.workers.insert worker
      { record with state := .idle, reservation := none, matchId := none } }

/-- The event for the reservation or the match that a lost worker held. -/
def lostEvents (record : WorkerRecord) : List WorkerEvent :=
  match record.state, record.reservation, record.matchId with
  | .reserved, some reservation, some matchId =>
    [.reservationFailed reservation matchId]
  | .active, _, some matchId =>
    [.matchUnavailable record.registration.worker matchId]
  | _, _, _ => []

/-- The registry without a worker. -/
def removeWorker (registry : WorkerRegistry) (connection : WorkerConnectionId)
    (worker : WorkerId) (record : WorkerRecord) : WorkerRegistry where
  workers := registry.workers.erase worker
  connections := registry.connections.erase connection
  reservations := record.reservation.elim registry.reservations
    (registry.reservations.erase ·)
  endpoints := registry.endpoints.erase record.registration.endpoint

def disconnect (registry : WorkerRegistry) (connection : WorkerConnectionId) :
    WorkerRegistry × WorkerRegistryResult :=
  match registry.connections[connection]? with
  | none => (registry, {})
  | some worker =>
    match registry.workers[worker]? with
    | none =>
      ({ registry with
         connections := registry.connections.erase connection }, {})
    | some record =>
      (registry.removeWorker connection worker record,
       { accepted := true, events := lostEvents record })

def closeForProtocolViolation (registry : WorkerRegistry)
    (connection : WorkerConnectionId) : WorkerRegistry × WorkerRegistryResult :=
  let (registry, result) := registry.disconnect connection
  (registry, { result with
    accepted := false
    closeConnections := result.closeConnections ++ [connection] })

def register (registry : WorkerRegistry) (connection : WorkerConnectionId)
    (registration : WorkerRegister) : WorkerRegistry × WorkerRegistryResult :=
  if isValidRegistration connection registration = false then
    (registry, { closeConnections :=
      if connection.value ≠ 0 then [connection] else [] })
  else if registry.connections.contains connection then
    registry.closeForProtocolViolation connection
  else if registry.workers.contains registration.worker ||
      registry.endpoints.contains registration.endpoint then
    (registry, { closeConnections := [connection] })
  else
    ({ registry with
       workers := registry.workers.insert registration.worker
         { connection, registration }
       connections := registry.connections.insert connection registration.worker
       endpoints := registry.endpoints.insert registration.endpoint
         registration.worker },
     { accepted := true
       outbound := [⟨connection, .registered registration.worker⟩] })

/-- The first idle worker by id. -/
def idleWorker (registry : WorkerRegistry) : Option (WorkerId × WorkerRecord) :=
  registry.workers.toList.find? fun entry => entry.2.state = .idle

def executeReserve (registry : WorkerRegistry) (action : ReserveMatchAction)
    (now : TimePoint) : WorkerRegistry × WorkerRegistryResult :=
  let fail : WorkerRegistry × WorkerRegistryResult :=
    (registry,
     { events := [.reservationFailed action.reservation action.matchId] })
  if action.reservation.value = 0 ∨
      registry.reservations.contains action.reservation ∨
      action.participants.length < 2 ∨
      roomCapacity < action.participants.length then fail
  else
    match registry.idleWorker with
    | none => fail
    | some (worker, record) =>
      if action.issuedAt + matchTicketLifetime - now ≤ 0 then fail
      else if remainingMilliseconds action now ≤ 0 then fail
      else
        ({ registry with
           workers := registry.workers.insert worker { record with
             state := .reserved
             reservation := some action.reservation
             matchId := some action.matchId }
           reservations :=
             registry.reservations.insert action.reservation worker },
         { accepted := true
           outbound := [⟨record.connection, .reserve {
             reservation := action.reservation
             matchId := action.matchId
             seed := action.seed
             ticketLifetimeMilliseconds :=
               UInt32.ofNat (remainingMilliseconds action now).toNat
             participants := action.participants }⟩]
           timers := [{ kind := .start, reservation := action.reservation }] })

def executeCancel (registry : WorkerRegistry) (reservation : ReservationId)
    (matchId : MatchId) : WorkerRegistry × WorkerRegistryResult :=
  match registry.reservations[reservation]? with
  | none => (registry, {})
  | some worker =>
    match registry.workers[worker]? with
    | none =>
      ({ registry with
         reservations := registry.reservations.erase reservation }, {})
    | some record =>
      if record.state ≠ .reserved ∨ record.reservation ≠ some reservation ∨
          record.matchId ≠ some matchId then (registry, {})
      else
        (registry.setWorker worker { record with state := .cancelling },
         { accepted := true
           outbound := [⟨record.connection, .cancel reservation matchId⟩]
           timers := [{ kind := .cancel, reservation }] })

def execute (registry : WorkerRegistry) (action : LobbyRuntimeAction)
    (now : TimePoint) : WorkerRegistry × WorkerRegistryResult :=
  match action with
  | .reserve action => registry.executeReserve action now
  | .cancel reservation matchId => registry.executeCancel reservation matchId

/-! ## Messages of workers -/

def receiveReady (registry : WorkerRegistry) (connection : WorkerConnectionId)
    (worker : WorkerId) (record : WorkerRecord) (reservation : ReservationId)
    (matchId : MatchId) : WorkerRegistry × WorkerRegistryResult :=
  let isOurs := record.reservation = some reservation ∧
    record.matchId = some matchId
  match record.state with
  | .reserved =>
    if ¬isOurs then registry.closeForProtocolViolation connection
    else
      ({ registry with
         reservations := registry.reservations.erase reservation
         workers := registry.workers.insert worker
           { record with state := .active } },
       { accepted := true
         events := [.reservationReady reservation matchId
           record.registration.worker {
             host := record.registration.advertisedHost
             tcpPort := record.registration.gameTcpPort
             udpPort := record.registration.gameUdpPort }] })
  | .idle => (registry, { accepted := true })
  | _ =>
    if isOurs then (registry, { accepted := true })
    else registry.closeForProtocolViolation connection

def receiveRejected (registry : WorkerRegistry) (connection : WorkerConnectionId)
    (worker : WorkerId) (record : WorkerRecord) (reservation : ReservationId)
    (matchId : MatchId) : WorkerRegistry × WorkerRegistryResult :=
  let isOurs := record.reservation = some reservation ∧
    record.matchId = some matchId
  match record.state with
  | .reserved =>
    if ¬isOurs then registry.closeForProtocolViolation connection
    else
      (registry.clearReservation worker record,
       { accepted := true
         events := [.reservationFailed reservation matchId] })
  | .idle => (registry, { accepted := true })
  | _ =>
    if isOurs then (registry, { accepted := true })
    else registry.closeForProtocolViolation connection

def receiveCancelled (registry : WorkerRegistry)
    (connection : WorkerConnectionId) (worker : WorkerId) (record : WorkerRecord)
    (reservation : ReservationId) (matchId : MatchId) :
    WorkerRegistry × WorkerRegistryResult :=
  match record.state with
  | .cancelling =>
    if record.reservation = some reservation ∧ record.matchId = some matchId then
      (registry.clearReservation worker record, { accepted := true })
    else registry.closeForProtocolViolation connection
  | .reserved => registry.closeForProtocolViolation connection
  | _ => (registry, { accepted := true })

def receiveFinished (registry : WorkerRegistry) (connection : WorkerConnectionId)
    (worker : WorkerId) (record : WorkerRecord) (matchId : MatchId) :
    WorkerRegistry × WorkerRegistryResult :=
  match record.state with
  | .active =>
    if record.matchId = some matchId then
      (registry.clearReservation worker record,
       { accepted := true
         events := [.matchFinished record.registration.worker matchId] })
    else registry.closeForProtocolViolation connection
  | .idle => (registry, { accepted := true })
  | _ => registry.closeForProtocolViolation connection

/-- A message of a registered worker. -/
def receiveFrom (registry : WorkerRegistry) (connection : WorkerConnectionId)
    (worker : WorkerId) (record : WorkerRecord) (message : WorkerToLobbyMessage) :
    WorkerRegistry × WorkerRegistryResult :=
  match message with
  | .register _ => registry.closeForProtocolViolation connection
  | .ready reservation matchId =>
    registry.receiveReady connection worker record reservation matchId
  | .rejected reservation matchId _ =>
    registry.receiveRejected connection worker record reservation matchId
  | .cancelled reservation matchId =>
    registry.receiveCancelled connection worker record reservation matchId
  | .finished finished =>
    registry.receiveFinished connection worker record finished.matchId

def receive (registry : WorkerRegistry) (connection : WorkerConnectionId)
    (message : WorkerToLobbyMessage) : WorkerRegistry × WorkerRegistryResult :=
  match registry.connections[connection]? with
  | none =>
    (registry, { closeConnections :=
      if connection.value ≠ 0 then [connection] else [] })
  | some worker =>
    match registry.workers[worker]? with
    | none =>
      ({ registry with connections := registry.connections.erase connection },
       { closeConnections := [connection] })
    | some record => registry.receiveFrom connection worker record message

def timeout (registry : WorkerRegistry) (reservation : ReservationId) :
    WorkerRegistry × WorkerRegistryResult :=
  match registry.reservations[reservation]? with
  | none => (registry, {})
  | some worker =>
    match registry.workers[worker]? with
    | none =>
      ({ registry with
         reservations := registry.reservations.erase reservation }, {})
    | some record =>
      let (registry, result) := registry.disconnect record.connection
      (registry, { result with
        closeConnections := result.closeConnections ++ [record.connection] })

end WorkerRegistry

/-- The calls the registry's owner makes. -/
inductive RegistryCall where
  | register (connection : WorkerConnectionId) (registration : WorkerRegister)
  | execute (action : LobbyRuntimeAction) (now : TimePoint)
  | receive (connection : WorkerConnectionId) (message : WorkerToLobbyMessage)
  | disconnect (connection : WorkerConnectionId)
  | timeout (reservation : ReservationId)

def WorkerRegistry.call (registry : WorkerRegistry) :
    RegistryCall → WorkerRegistry × WorkerRegistryResult
  | .register connection registration => registry.register connection registration
  | .execute action now => registry.execute action now
  | .receive connection message => registry.receive connection message
  | .disconnect connection => registry.disconnect connection
  | .timeout reservation => registry.timeout reservation

end SurvivalArena
