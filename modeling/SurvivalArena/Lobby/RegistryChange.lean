import SurvivalArena.Framework.Inverse
import SurvivalArena.Lobby.WorkerRegistry

/-!
# What a call of the registry can change

In a consistent registry a call moves at most one worker.  Each change names the
call, the conditions that the registry checked and the result.
-/

namespace SurvivalArena

open OrderedMap

/-- The reservation that the registry's reservation map has to name. -/
def WorkerRecord.tracked (record : WorkerRecord) : Option ReservationId :=
  match record.state with
  | .reserved => record.reservation
  | .cancelling => record.reservation
  | _ => none

/-- What a record says of the worker it is stored under. -/
structure WorkerRecord.WellFormed (record : WorkerRecord) (worker : WorkerId) :
    Prop where
  key : record.registration.worker = worker
  valid : isValidRegistration record.connection record.registration = true
  reservation : record.reservation.isSome = decide (record.state ≠ .idle)
  matchId : record.matchId.isSome = decide (record.state ≠ .idle)

namespace WorkerRegistry

def connectionOf (registry : WorkerRegistry) :
    WorkerId → Option WorkerConnectionId :=
  project (entry registry.workers) fun record => some record.connection

def endpointOf (registry : WorkerRegistry) : WorkerId → Option EndpointKey :=
  project (entry registry.workers) fun record => some record.registration.endpoint

/-- The reservation that a worker is reserved or cancelling for. -/
def trackedBy (registry : WorkerRegistry) : WorkerId → Option ReservationId :=
  project (entry registry.workers) WorkerRecord.tracked

/-- A worker holds the reservation in a state. -/
def Holds (registry : WorkerRegistry) (reservation : ReservationId)
    (state : WorkerState) : Prop :=
  ∃ (worker : WorkerId) (record : WorkerRecord),
    registry.workers[worker]? = some record ∧
      record.reservation = some reservation ∧ record.state = state

/-- No worker holds the reservation. -/
def Free (registry : WorkerRegistry) (reservation : ReservationId) : Prop :=
  ∀ (worker : WorkerId) (record : WorkerRecord),
    registry.workers[worker]? = some record →
      record.reservation ≠ some reservation

/-- The four maps agree. -/
structure Consistent (registry : WorkerRegistry) : Prop where
  connections : Inverse registry.connectionOf (entry registry.connections)
  endpoints : Inverse registry.endpointOf (entry registry.endpoints)
  reservations : Inverse registry.trackedBy (entry registry.reservations)
  records : ∀ (worker : WorkerId) (record : WorkerRecord),
    registry.workers[worker]? = some record → record.WellFormed worker
  holders : ∀ (first second : WorkerId) (a b : WorkerRecord)
    (reservation : ReservationId), registry.workers[first]? = some a →
      registry.workers[second]? = some b → a.reservation = some reservation →
      b.reservation = some reservation → first = second

end WorkerRegistry

/-- The reservation that a call asks for. -/
def RegistryCall.requested : RegistryCall → Option ReservationId
  | .execute (.reserve action) _ => some action.reservation
  | _ => none

/-- The call is a cancellation. -/
def RegistryCall.cancels : RegistryCall → Bool
  | .execute (.cancel _ _) _ => true
  | _ => false

/-- The message that asks a worker for a match. -/
def reserveMessage (action : ReserveMatchAction) (now : TimePoint) : ReserveMatch where
  reservation := action.reservation
  matchId := action.matchId
  seed := action.seed
  ticketLifetimeMilliseconds := UInt32.ofNat (remainingMilliseconds action now).toNat
  participants := action.participants

/-- A worker is reserved for just what the call cancels. -/
def RegistryCall.Cancellable (registry : WorkerRegistry) (call : RegistryCall) : Prop :=
  ∃ (reservation : ReservationId) (matchId : MatchId) (now : TimePoint)
    (worker : WorkerId) (record : WorkerRecord),
    call = .execute (.cancel reservation matchId) now ∧
      registry.workers[worker]? = some record ∧ record.state = .reserved ∧
      record.reservation = some reservation ∧ record.matchId = some matchId

inductive RegistryChange (before : WorkerRegistry) :
    RegistryCall → WorkerRegistry → WorkerRegistryResult → Prop
  | unchanged (call : RegistryCall) (accepted : Bool)
      (closed : List WorkerConnectionId) (unasked : call.requested = none)
      (uncancelled : call.cancels = true → accepted = false)
      (uncancellable : ¬call.Cancellable before) :
    RegistryChange before call before
      { accepted, closeConnections := closed }
  | refused (action : ReserveMatchAction) (now : TimePoint) :
    RegistryChange before (.execute (.reserve action) now) before
      { events := [.reservationFailed action.reservation action.matchId] }
  | registered (connection : WorkerConnectionId) (registration : WorkerRegister)
      (valid : isValidRegistration connection registration = true)
      (newConnection : before.connections[connection]? = none)
      (newWorker : before.workers[registration.worker]? = none)
      (newEndpoint : before.endpoints[registration.endpoint]? = none) :
    RegistryChange before (.register connection registration) { before with
      workers := before.workers.insert registration.worker
        { connection, registration }
      connections := before.connections.insert connection registration.worker
      endpoints := before.endpoints.insert registration.endpoint
        registration.worker }
      { accepted := true
        outbound := [⟨connection, .registered registration.worker⟩] }
  | reserved (action : ReserveMatchAction) (now : TimePoint) (worker : WorkerId)
      (record : WorkerRecord) (nonzero : action.reservation.value ≠ 0)
      (participants : 2 ≤ action.participants.length ∧
        action.participants.length ≤ roomCapacity)
      (found : before.workers[worker]? = some record)
      (idle : record.state = .idle)
      (untracked : before.reservations[action.reservation]? = none)
      (timely : 0 < remainingMilliseconds action now) :
    RegistryChange before (.execute (.reserve action) now) { before with
      workers := before.workers.insert worker { record with
        state := .reserved
        reservation := some action.reservation
        matchId := some action.matchId }
      reservations := before.reservations.insert action.reservation worker }
      { accepted := true
        outbound := [⟨record.connection, .reserve (reserveMessage action now)⟩]
        timers := [{ kind := .start, reservation := action.reservation }] }
  | cancelling (reservation : ReservationId) (matchId : MatchId)
      (now : TimePoint) (worker : WorkerId) (record : WorkerRecord)
      (found : before.workers[worker]? = some record)
      (reserved : record.state = .reserved)
      (held : record.reservation = some reservation)
      (matched : record.matchId = some matchId) :
    RegistryChange before (.execute (.cancel reservation matchId) now)
      (before.setWorker worker { record with state := .cancelling })
      { accepted := true
        outbound := [⟨record.connection, .cancel reservation matchId⟩]
        timers := [{ kind := .cancel, reservation }] }
  | readied (reservation : ReservationId) (matchId : MatchId)
      (worker : WorkerId) (record : WorkerRecord)
      (found : before.workers[worker]? = some record)
      (reserved : record.state = .reserved)
      (held : record.reservation = some reservation)
      (matched : record.matchId = some matchId) :
    RegistryChange before (.receive record.connection (.ready reservation matchId))
      { before with
        reservations := before.reservations.erase reservation
        workers := before.workers.insert worker { record with state := .active } }
      { accepted := true
        events := [.reservationReady reservation matchId worker {
          host := record.registration.advertisedHost
          tcpPort := record.registration.gameTcpPort
          udpPort := record.registration.gameUdpPort }] }
  | rejected (reservation : ReservationId) (matchId : MatchId)
      (reason : WorkerReservationReject) (worker : WorkerId)
      (record : WorkerRecord)
      (found : before.workers[worker]? = some record)
      (reserved : record.state = .reserved)
      (held : record.reservation = some reservation)
      (matched : record.matchId = some matchId) :
    RegistryChange before
      (.receive record.connection (.rejected reservation matchId reason))
      (before.clearReservation worker record)
      { accepted := true, events := [.reservationFailed reservation matchId] }
  | cancelled (reservation : ReservationId) (matchId : MatchId)
      (worker : WorkerId) (record : WorkerRecord)
      (found : before.workers[worker]? = some record)
      (cancelling : record.state = .cancelling)
      (held : record.reservation = some reservation)
      (matched : record.matchId = some matchId) :
    RegistryChange before
      (.receive record.connection (.cancelled reservation matchId))
      (before.clearReservation worker record) { accepted := true }
  | finished (finish : MatchFinished) (reservation : ReservationId)
      (worker : WorkerId) (record : WorkerRecord)
      (found : before.workers[worker]? = some record)
      (active : record.state = .active)
      (held : record.reservation = some reservation)
      (matched : record.matchId = some finish.matchId) :
    RegistryChange before (.receive record.connection (.finished finish))
      (before.clearReservation worker record)
      { accepted := true, events := [.matchFinished worker finish.matchId] }
  | lost (call : RegistryCall) (accepted : Bool)
      (closed : List WorkerConnectionId) (worker : WorkerId)
      (record : WorkerRecord)
      (found : before.workers[worker]? = some record)
      (unasked : call.requested = none) (uncancelled : call.cancels = false) :
    RegistryChange before call
      (before.removeWorker record.connection worker record)
      { accepted, events := WorkerRegistry.lostEvents record
        closeConnections := closed }

end SurvivalArena
