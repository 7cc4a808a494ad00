import SurvivalArena.Framework.Machine
import SurvivalArena.Lobby.WorkerRegistry

/-!
# The worker control server

The server owns the registry, the sessions of the workers and a timer for each pending
reservation.  A timer that is cancelled leaves its completion behind, which is
recognised by the timer it belongs to.
-/

namespace SurvivalArena

/-- A scheduled timer, known by the number it was scheduled under. -/
structure TimerEntry where
  timer : Nat
  owner : WorkerConnectionId
  kind : ReservationTimerKind := .start

/-- The timers that are waited for, and what is known of the others. -/
structure ReservationTimers where
  entries : Std.ExtTreeMap ReservationId TimerEntry := ∅
  scheduled : Nat := 0
  cancelled : List Nat := []

/-- The reservation that an event is about. -/
def eventReservation : WorkerEvent → Option ReservationId
  | .reservationReady reservation _ _ _ => some reservation
  | .reservationFailed reservation _ => some reservation
  | _ => none

/-- The message asks a worker about the reservation. -/
def LobbyToWorkerMessage.concerns (reservation : ReservationId) :
    LobbyToWorkerMessage → Bool
  | .reserve value => value.reservation == reservation
  | .cancel other _ => other == reservation
  | .registered _ => false

def timerRecipient (result : WorkerRegistryResult) (reservation : ReservationId) :
    Option WorkerConnectionId :=
  (result.outbound.find? fun outbound => outbound.message.concerns reservation).map
    WorkerControlOutbound.recipient

namespace ReservationTimers

def cancelTimer (timers : ReservationTimers) (reservation : ReservationId) :
    ReservationTimers :=
  match timers.entries[reservation]? with
  | none => timers
  | some entry => { timers with
      entries := timers.entries.erase reservation
      cancelled := entry.timer :: timers.cancelled }

def cancelTimersFor (timers : ReservationTimers) (owner : WorkerConnectionId) :
    ReservationTimers where
  entries := timers.entries.filter fun _ entry => entry.owner != owner
  scheduled := timers.scheduled
  cancelled := ((timers.entries.toList.filter fun (_, entry) => entry.owner == owner).map
    fun (_, entry) => entry.timer) ++ timers.cancelled

def scheduleTimer (timers : ReservationTimers) (directive : ReservationTimerDirective)
    (owner : WorkerConnectionId) : ReservationTimers :=
  let timers := timers.cancelTimer directive.reservation
  { timers with
    entries := timers.entries.insert directive.reservation
      { timer := timers.scheduled, owner, kind := directive.kind }
    scheduled := timers.scheduled + 1 }

/-- Cancel the timers of the reservations that were decided. -/
def settle (timers : ReservationTimers) (events : List WorkerEvent) : ReservationTimers :=
  (events.filterMap eventReservation).foldl cancelTimer timers

/-- Schedule the timers that a result asks for. -/
def schedule (timers : ReservationTimers) (result : WorkerRegistryResult) :
    ReservationTimers :=
  result.timers.foldl (fun timers directive =>
    (timerRecipient result directive.reservation).elim timers
      (timers.scheduleTimer directive)) timers

end ReservationTimers

/-- A session is registered or not. -/
structure WorkerControlServer where
  registry : WorkerRegistry := {}
  sessions : Std.ExtTreeMap WorkerConnectionId Bool := ∅
  timers : ReservationTimers := {}
  nextConnection : Option UInt64 := some 1

/-- What happens to the server; a frame that cannot be decoded has no message, and a
timer completes with an error where it was cancelled. -/
inductive ControlServerEvent where
  | accept
  | frame (connection : WorkerConnectionId) (message : Option WorkerToLobbyMessage)
  | execute (action : LobbyRuntimeAction) (now : TimePoint)
  | timerCompleted (reservation : ReservationId) (timer : Nat) (aborted : Bool)
  | sessionClosed (connection : WorkerConnectionId)

namespace WorkerControlServer

/-- What becomes of the timers.  The messages, the events for the lobby and the
connections to close are those of the result; a session that closes is an event of its
own, and so is what the lobby does about an event. -/
def route (server : WorkerControlServer) :
    WorkerRegistry × WorkerRegistryResult → WorkerControlServer
  | (registry, result) => { server with
      registry
      timers := (server.timers.settle result.events).schedule result }

def accept (server : WorkerControlServer) : WorkerControlServer :=
  match server.nextConnection with
  | none => server
  | some value => { server with
      nextConnection := Counter.advance value
      sessions := server.sessions.insertIfNew ⟨value⟩ false }

/-- A message of a session that is not registered. -/
def handleRegistration (server : WorkerControlServer) (connection : WorkerConnectionId)
    (message : WorkerToLobbyMessage) : WorkerControlServer :=
  match message with
  | .register registration =>
    let (registry, result) := server.registry.register connection registration
    { server with
      sessions :=
        if result.accepted then server.sessions.insert connection true
        else server.sessions }.route (registry, result)
  | _ => server

/-- A message of a registered session. -/
def handleMessage (server : WorkerControlServer) (connection : WorkerConnectionId)
    (message : WorkerToLobbyMessage) : WorkerControlServer :=
  let (registry, result) := server.registry.receive connection message
  let timers :=
    match message with
    | .cancelled reservation _ =>
      if result.accepted then server.timers.cancelTimer reservation else server.timers
    | _ => server.timers
  { server with timers }.route (registry, result)

def handleFrame (server : WorkerControlServer) (connection : WorkerConnectionId)
    (message : Option WorkerToLobbyMessage) : WorkerControlServer :=
  match server.sessions[connection]?, message with
  | some false, some message => server.handleRegistration connection message
  | some true, some message => server.handleMessage connection message
  | _, _ => server

/-- Only the completion of the timer that is waited for counts, and only a timer that
was cancelled completes with an error. -/
def timerCompleted (server : WorkerControlServer) (reservation : ReservationId)
    (timer : Nat) (aborted : Bool) : WorkerControlServer :=
  if aborted = true ∧ timer ∉ server.timers.cancelled then server
  else
    match server.timers.entries[reservation]? with
    | none => server
    | some entry =>
      if entry.timer ≠ timer then server
      else
        let server := { server with timers := { server.timers with
          entries := server.timers.entries.erase reservation } }
        if aborted then server
        else server.route (server.registry.timeout reservation)

def sessionClosed (server : WorkerControlServer) (connection : WorkerConnectionId) :
    WorkerControlServer :=
  match server.sessions[connection]? with
  | none => server
  | some registered =>
    let server := { server with
      sessions := server.sessions.erase connection
      timers := server.timers.cancelTimersFor connection }
    if registered then server.route (server.registry.disconnect connection) else server

def step (server : WorkerControlServer) : ControlServerEvent → WorkerControlServer
  | .accept => server.accept
  | .frame connection message => server.handleFrame connection message
  | .execute action now => server.route (server.registry.execute action now)
  | .timerCompleted reservation timer aborted =>
    server.timerCompleted reservation timer aborted
  | .sessionClosed connection => server.sessionClosed connection

end WorkerControlServer

end SurvivalArena
