import SurvivalArena.Framework.Machine
import SurvivalArena.Lobby.RegistryCalls

/-!
# Runs of the registry

While no reservation is asked for twice, the registry's maps agree and every
reservation goes through the phases of its life, with the events that belong to
them.
-/

namespace SurvivalArena

/-! ## The life of a reservation

What may happen to one reservation, whoever keeps it: it is accepted or refused
once, and an accepted one is resolved at most once.
-/

/-- What a reservation's history records. -/
inductive ReservationStep where
  | accepted
  | cancelled
  | ready
  | failed
  | finished
  | unavailable
deriving DecidableEq

/-- The steps that tell the lobby what became of a reservation. -/
def ReservationStep.isEvent : ReservationStep → Bool
  | .accepted => false
  | .cancelled => false
  | _ => true

inductive ReservationPhase where
  | fresh
  | reserved
  | cancelling
  | active
  | ended
deriving DecidableEq

namespace ReservationPhase

/-- The moves of one reservation and what each adds to its history. -/
inductive Moves :
    ReservationPhase → List ReservationStep → ReservationPhase → Prop
  | stays (phase : ReservationPhase) : Moves phase [] phase
  | refused : Moves .fresh [.failed] .ended
  | accepted : Moves .fresh [.accepted] .reserved
  | cancelled : Moves .reserved [.cancelled] .cancelling
  | ready : Moves .reserved [.ready] .active
  | failed : Moves .reserved [.failed] .ended
  | released : Moves .cancelling [] .ended
  | finished : Moves .active [.finished] .ended
  | unavailable : Moves .active [.unavailable] .ended

/-- The histories with which a reservation reaches a phase. -/
inductive Account : ReservationPhase → List ReservationStep → Prop
  | fresh : Account .fresh []
  | refused : Account .ended [.failed]
  | reserved : Account .reserved [.accepted]
  | cancelling : Account .cancelling [.accepted, .cancelled]
  | released : Account .ended [.accepted, .cancelled]
  | active : Account .active [.accepted, .ready]
  | failed : Account .ended [.accepted, .failed]
  | finished : Account .ended [.accepted, .ready, .finished]
  | unavailable : Account .ended [.accepted, .ready, .unavailable]

theorem Account.moves {phase next : ReservationPhase}
    {history steps : List ReservationStep} (h : Account phase history)
    (hmoves : Moves phase steps next) : Account next (history ++ steps) := by
  cases hmoves with
  | stays =>
    rw [List.append_nil]
    exact h
  | refused => cases h; exact .refused
  | accepted => cases h; exact .reserved
  | cancelled => cases h; exact .cancelling
  | ready => cases h; exact .active
  | failed => cases h; exact .failed
  | released => cases h; exact .released
  | finished => cases h; exact .finished
  | unavailable => cases h; exact .unavailable

/-- The part of a history that the lobby hears of. -/
def events (history : List ReservationStep) : List ReservationStep :=
  history.filter ReservationStep.isEvent

/-- The events of an accepted reservation: none of them after a cancel, else the
beginning of a ready and one of its two ends, or a single failure. -/
def Disciplined (history : List ReservationStep) : Prop :=
  (.cancelled ∈ history → events history = []) ∧
    (events history <+: [.ready, .finished] ∨
      events history <+: [.ready, .unavailable] ∨ events history = [.failed])

instance (history : List ReservationStep) : Decidable (Disciplined history) :=
  inferInstanceAs (Decidable (_ ∧ _))

theorem Account.disciplined {phase : ReservationPhase}
    {history : List ReservationStep} (h : Account phase history) :
    Disciplined history := by
  cases h <;> decide

/-- Without a cancel, an accepted reservation is still held or has been told of. -/
theorem Account.not_lost {phase : ReservationPhase}
    {history : List ReservationStep} (h : Account phase history)
    (haccepted : .accepted ∈ history) (hcancelled : .cancelled ∉ history) :
    (phase = .reserved ∧ events history = []) ∨
      (phase = .active ∧ events history = [.ready]) ∨
      (phase = .ended ∧ events history ∈
        [[.failed], [.ready, .finished], [.ready, .unavailable]]) := by
  revert haccepted hcancelled
  cases h <;> decide

end ReservationPhase

/-! ## The registry -/

open OrderedMap ReservationPhase

namespace WorkerRegistry

/-! ## Consistency -/

section Consistency

variable {before : WorkerRegistry} {worker : WorkerId} {record : WorkerRecord}

theorem entry_found (hfound : before.workers[worker]? = some record) :
    entry before.workers worker = some record :=
  hfound

/-- A worker that keeps its connection leaves the connections as they are. -/
theorem connectionOf_insert {after : WorkerRegistry} {new : WorkerRecord}
    (hfound : before.workers[worker]? = some record)
    (hworkers : after.workers = before.workers.insert worker new)
    (hsame : new.connection = record.connection) :
    after.connectionOf = before.connectionOf := by
  rw [connectionOf, hworkers, entry_insert, connectionOf]
  apply project_update_self
  rw [entry_found hfound, Option.bind_some, Option.bind_some, hsame]

theorem endpointOf_insert {after : WorkerRegistry} {new : WorkerRecord}
    (hfound : before.workers[worker]? = some record)
    (hworkers : after.workers = before.workers.insert worker new)
    (hsame : new.registration = record.registration) :
    after.endpointOf = before.endpointOf := by
  rw [endpointOf, hworkers, entry_insert, endpointOf]
  apply project_update_self
  rw [entry_found hfound, Option.bind_some, Option.bind_some, hsame]

theorem trackedBy_insert {after : WorkerRegistry} {new : WorkerRecord}
    (hworkers : after.workers = before.workers.insert worker new) :
    after.trackedBy = Function.update before.trackedBy worker new.tracked := by
  rw [trackedBy, hworkers, entry_insert, project_update]
  rfl

theorem trackedBy_found (hfound : before.workers[worker]? = some record) :
    before.trackedBy worker = record.tracked := by
  rw [trackedBy, project, entry_found hfound, Option.bind_some]

theorem tracked_eq_none_of_idle (h : record.state = .idle) : record.tracked = none := by
  rw [WorkerRecord.tracked, h]

/-- A reservation that only an active worker holds is not tracked. -/
theorem Consistent.untracked_of_active (h : before.Consistent)
    (hfound : before.workers[worker]? = some record) {reservation : ReservationId}
    (hheld : record.reservation = some reservation) (htracked : record.tracked = none) :
    before.reservations[reservation]? = none := by
  cases hother : before.reservations[reservation]? with
  | none => rfl
  | some other =>
    obtain ⟨otherRecord, hotherFound, hotherTracked⟩ := h.tracked.mp hother
    have hotherHeld := (reservation_of_tracked hotherTracked).1
    obtain rfl := h.holders other worker otherRecord record reservation hotherFound
      hfound hotherHeld hheld
    obtain rfl := Option.some.inj (hfound.symm.trans hotherFound)
    rw [htracked] at hotherTracked
    cases hotherTracked

/-- A worker that lets go of its reservation. -/
theorem Consistent.untrack (h : before.Consistent)
    (hfound : before.workers[worker]? = some record) :
    Inverse (Function.update before.trackedBy worker none)
      (entry (record.reservation.elim before.reservations
        (before.reservations.erase ·))) := by
  cases htracked : record.tracked with
  | none =>
    rw [← htracked, ← trackedBy_found hfound, Function.update_eq_self]
    cases hheld : record.reservation with
    | none => exact h.reservations
    | some reservation =>
      rw [Option.elim_some, entry_erase]
      exact h.reservations.update_none (h.untracked_of_active hfound hheld htracked)
  | some reservation =>
    rw [(reservation_of_tracked htracked).1, Option.elim_some, entry_erase]
    exact h.reservations.erase ((trackedBy_found hfound).trans htracked)

/-- The holders of reservations after one record changed. -/
theorem Consistent.holders_insert (h : before.Consistent) {new : WorkerRecord}
    (hnew : ∀ reservation, new.reservation = some reservation →
      ∀ (other : WorkerId) (otherRecord : WorkerRecord), other ≠ worker →
        before.workers[other]? = some otherRecord →
        otherRecord.reservation ≠ some reservation) :
    ∀ (first second : WorkerId) (a b : WorkerRecord) (reservation : ReservationId),
      (before.workers.insert worker new)[first]? = some a →
      (before.workers.insert worker new)[second]? = some b →
      a.reservation = some reservation → b.reservation = some reservation →
      first = second := by
  intro first second a b reservation hfirst hsecond ha hb
  rw [getElem?_insert] at hfirst hsecond
  split at hfirst
  · split at hsecond
    · rename_i hone htwo
      exact hone.trans htwo.symm
    · rename_i hne
      obtain rfl := Option.some.inj hfirst
      exact absurd hb (hnew reservation ha second b hne hsecond)
  · rename_i hne
    split at hsecond
    · obtain rfl := Option.some.inj hsecond
      exact absurd ha (hnew reservation hb first a hne hfirst)
    · exact h.holders first second a b reservation hfirst hsecond ha hb

/-- A worker that changes only its state and what it is reserved for. -/
theorem Consistent.restated (h : before.Consistent)
    (hfound : before.workers[worker]? = some record) {new : WorkerRecord}
    {after : WorkerRegistry}
    (hworkers : after.workers = before.workers.insert worker new)
    (hconnections : after.connections = before.connections)
    (hendpoints : after.endpoints = before.endpoints)
    (hconnection : new.connection = record.connection)
    (hregistration : new.registration = record.registration)
    (hreservation : new.reservation.isSome = decide (new.state ≠ .idle))
    (hmatch : new.matchId.isSome = decide (new.state ≠ .idle))
    (hnew : ∀ reservation, new.reservation = some reservation →
      ∀ (other : WorkerId) (otherRecord : WorkerRecord), other ≠ worker →
        before.workers[other]? = some otherRecord →
        otherRecord.reservation ≠ some reservation)
    (hreservations : Inverse (Function.update before.trackedBy worker new.tracked)
      (entry after.reservations)) : after.Consistent where
  connections := by
    rw [connectionOf_insert hfound hworkers hconnection, hconnections]
    exact h.connections
  endpoints := by
    rw [endpointOf_insert hfound hworkers hregistration, hendpoints]
    exact h.endpoints
  reservations := by
    rw [trackedBy_insert hworkers]
    exact hreservations
  records := by
    intro other otherRecord hother
    rw [hworkers, getElem?_insert] at hother
    split at hother
    · rename_i heq
      obtain rfl := Option.some.inj hother
      have hold := h.records worker record hfound
      rw [heq]
      exact {
        key := by rw [hregistration]; exact hold.key
        valid := by rw [hconnection, hregistration]; exact hold.valid
        reservation := hreservation
        matchId := hmatch }
    · exact h.records other otherRecord hother
  holders := by
    rw [hworkers]
    exact h.holders_insert hnew

/-- What only this worker holds, no other does. -/
theorem Consistent.others (h : before.Consistent)
    (hfound : before.workers[worker]? = some record) {held : Option ReservationId}
    (hheld : record.reservation = held) :
    ∀ reservation, held = some reservation →
      ∀ (other : WorkerId) (otherRecord : WorkerRecord), other ≠ worker →
        before.workers[other]? = some otherRecord →
        otherRecord.reservation ≠ some reservation := by
  rintro reservation rfl other otherRecord hne hother hotherHeld
  exact hne (h.holders other worker otherRecord record reservation hother hfound
    hotherHeld hheld)

theorem Consistent.clearReservation (h : before.Consistent)
    (hfound : before.workers[worker]? = some record) :
    (before.clearReservation worker record).Consistent :=
  h.restated hfound rfl rfl rfl rfl rfl rfl rfl (by simp) (h.untrack hfound)

theorem Consistent.removeWorker (h : before.Consistent)
    (hfound : before.workers[worker]? = some record) :
    (before.removeWorker record.connection worker record).Consistent where
  connections := by
    have hpair : before.connectionOf worker = some record.connection := by
      rw [connectionOf, project, entry_found hfound, Option.bind_some]
    rw [connectionOf, WorkerRegistry.removeWorker, entry_erase, entry_erase,
      project_update]
    exact h.connections.erase hpair
  endpoints := by
    have hpair : before.endpointOf worker = some record.registration.endpoint := by
      rw [endpointOf, project, entry_found hfound, Option.bind_some]
    rw [endpointOf, WorkerRegistry.removeWorker, entry_erase, entry_erase,
      project_update]
    convert h.endpoints.erase hpair <;> rfl
  reservations := by
    rw [trackedBy, WorkerRegistry.removeWorker, entry_erase, project_update]
    exact h.untrack hfound
  records := by
    intro other otherRecord hother
    change (before.workers.erase worker)[other]? = _ at hother
    rw [getElem?_erase] at hother
    split at hother
    · cases hother
    · exact h.records other otherRecord hother
  holders := by
    intro first second a b reservation hfirst hsecond
    change (before.workers.erase worker)[first]? = _ at hfirst
    change (before.workers.erase worker)[second]? = _ at hsecond
    rw [getElem?_erase] at hfirst hsecond
    split at hfirst
    · cases hfirst
    · split at hsecond
      · cases hsecond
      · exact h.holders first second a b reservation hfirst hsecond

theorem consistent_empty : ({} : WorkerRegistry).Consistent where
  connections := by simp [Inverse, connectionOf, project, entry]
  endpoints := by simp [Inverse, endpointOf, project, entry]
  reservations := by simp [Inverse, trackedBy, project, entry]
  records := by simp
  holders := by simp

/-- A new worker is idle. -/
theorem Consistent.registered (h : before.Consistent) {connection : WorkerConnectionId}
    {registration : WorkerRegister}
    (hvalid : isValidRegistration connection registration = true)
    (hconnection : before.connections[connection]? = none)
    (hworker : before.workers[registration.worker]? = none)
    (hendpoint : before.endpoints[registration.endpoint]? = none) :
    ({ before with
      workers := before.workers.insert registration.worker
        { connection, registration }
      connections := before.connections.insert connection registration.worker
      endpoints := before.endpoints.insert registration.endpoint
        registration.worker } : WorkerRegistry).Consistent where
  connections := by
    rw [connectionOf, entry_insert, entry_insert, project_update]
    apply h.connections.insert _ hconnection
    rw [connectionOf, project, entry, hworker, Option.bind_none]
  endpoints := by
    rw [endpointOf, entry_insert, entry_insert, project_update]
    have hnone : before.endpointOf registration.worker = none := by
      rw [endpointOf, project, entry, hworker, Option.bind_none]
    convert h.endpoints.insert hnone hendpoint <;> rfl
  reservations := by
    rw [trackedBy, entry_insert, project_update_self]
    · exact h.reservations
    · rw [entry, hworker, Option.bind_none, Option.bind_some]
      exact tracked_eq_none_of_idle rfl
  records := by
    intro other record hother
    rw [getElem?_insert] at hother
    split at hother
    · rename_i heq
      obtain rfl := Option.some.inj hother
      exact { key := heq.symm, valid := hvalid, reservation := rfl, matchId := rfl }
    · exact h.records other record hother
  holders := h.holders_insert (by simp)

end Consistency

end WorkerRegistry

open WorkerRegistry

/-- A change keeps the maps in agreement; a reservation that is asked for must not
be held already. -/
theorem RegistryChange.consistent {before after : WorkerRegistry} {call : RegistryCall}
    {result : WorkerRegistryResult} (hchange : RegistryChange before call after result)
    (h : before.Consistent)
    (hfree : ∀ reservation, call.requested = some reservation →
      before.Free reservation) : after.Consistent := by
  cases hchange with
  | unchanged => exact h
  | refused => exact h
  | registered connection registration hvalid hconnection hworker hendpoint =>
    exact h.registered hvalid hconnection hworker hendpoint
  | reserved action now worker record hnonzero hparticipants hfound hidle huntracked =>
    have hnone : before.trackedBy worker = none := by
      rw [trackedBy_found hfound, tracked_eq_none_of_idle hidle]
    refine h.restated hfound rfl rfl rfl rfl rfl rfl rfl ?_ ?_
    · intro reservation hheld other otherRecord _ hother
      obtain rfl := Option.some.inj hheld
      exact hfree _ rfl other otherRecord hother
    · rw [entry_insert]
      exact h.reservations.insert hnone huntracked
  | cancelling reservation matchId now worker record hfound hreserved hheld hmatched =>
    refine h.restated hfound rfl rfl rfl rfl rfl ?_ ?_ (h.others hfound rfl) ?_
    · rw [hheld]
      rfl
    · rw [hmatched]
      rfl
    · have htracked : before.trackedBy worker = record.reservation := by
        rw [trackedBy_found hfound, tracked_reserved hreserved hheld, hheld]
      change Inverse (Function.update before.trackedBy worker record.reservation) _
      rw [← htracked, Function.update_eq_self]
      exact h.reservations
  | readied reservation matchId worker record hfound hreserved hheld hmatched =>
    refine h.restated hfound rfl rfl rfl rfl rfl ?_ ?_ (h.others hfound rfl) ?_
    · rw [hheld]
      rfl
    · rw [hmatched]
      rfl
    · have huntrack := h.untrack hfound
      rw [hheld, Option.elim_some] at huntrack
      exact huntrack
  | rejected reservation matchId reason worker record hfound =>
    exact h.clearReservation hfound
  | cancelled reservation matchId worker record hfound => exact h.clearReservation hfound
  | finished finish reservation worker record hfound => exact h.clearReservation hfound
  | lost call accepted closed worker record hfound => exact h.removeWorker hfound

end SurvivalArena
