import SurvivalArena.Lobby.RequestLaw
import SurvivalArena.Lobby.WorkerAgreement

/-!
# Runs of the lobby server

Whatever clients and workers do, no call fails and the lobby's reservations and
matches are those of its workers; a worker is forgotten just when it got ready too
late for its match to begin.
-/

namespace SurvivalArena

open Assignment Counter OrderedMap WorkerRegistry
open LobbyService (remainingSeconds)

namespace LobbyServer

/-! ## What the lobby asks for -/

section Asked

variable {service first : LobbyService} {registry after : WorkerRegistry}

theorem matchWorker_congr {before later : LobbyService}
    (h : later.activeMatches = before.activeMatches) :
    later.matchWorker = before.matchWorker := by
  rw [LobbyService.matchWorker, LobbyService.matchWorker, h]

theorem reservedMatch_congr {before later : LobbyService}
    (h : later.pendingReservations = before.pendingReservations) :
    later.reservedMatch = before.reservedMatch := by
  rw [LobbyService.reservedMatch, LobbyService.reservedMatch, h]

/-- A client call that asks for nothing. -/
theorem agree_silent (h : Agree service registry) (hfirst : first.Invariant)
    (hsilent : LobbyService.Silent service first) : Agree first registry where
  lobby := hfirst
  workers := h.workers
  linked := by
    rw [reservedMatch_congr hsilent.pending, matchWorker_congr hsilent.active]
    exact h.linked
  used := h.used.mono hsilent.usedReservations hsilent.usedMatches

/-- A reservation that was not handed out is not pending. -/
theorem reservedMatch_fresh (h : service.Invariant) {reservation : ReservationId}
    (hfresh : ¬Used service.nextReservation reservation.value) :
    service.reservedMatch reservation = none := by
  rw [Option.eq_none_iff_forall_ne_some]
  intro matchId hreserved
  obtain ⟨action, hpending, -⟩ := LobbyService.reservedMatch_eq_some.mp hreserved
  exact hfresh (h.matchmaking.usedReservations reservation _ hpending)

/-- A match that was not handed out is no worker's task. -/
theorem task_fresh (h : Agree service registry) {matchId : MatchId}
    (hfresh : ¬Used service.nextMatch matchId.value) {worker : WorkerId}
    {assignment : Assignment ReservationId MatchId}
    (hassigned : registry.assignments worker = some assignment) :
    assignment.task ≠ some matchId := by
  intro htask
  obtain ⟨record, hfound, rfl⟩ := assignments_eq_some.mp hassigned
  exact hfresh (h.used.matches_ worker record matchId hfound
    (WorkerRecord.matchId_of_task htask))

theorem settles_reserved (h : Agree service registry) (hfirst : first.Invariant)
    {action : ReserveMatchAction}
    (hasks : LobbyService.Asks service first (.reserve action)) {now : TimePoint}
    {result : WorkerRegistryResult} (hworkers : after.Consistent)
    (hchange : RegistryChange registry (.execute (.reserve action) now) after result) :
    ∃ active, Settles first after now result.events active ∧
      Remembers service registry after active := by
  cases hasks with
  | reserve _ hused husedMatches hfresh hfreshMatch hspent hspentMatch hmembers hpending
      hactive =>
    have hreserved := LobbyService.reservedMatch_insert hpending
    have hmatches := matchWorker_congr hactive
    have hmono := h.used.mono hused husedMatches
    have hnone := reservedMatch_fresh h.lobby hfresh
    cases hchange with
    | unchanged call accepted closed hasked => cases hasked
    | lost call accepted closed worker record hfound hasked => cases hasked
    | refused =>
      have hfound : first.reservedMatch action.reservation = some action.matchId := by
        rw [hreserved, Function.update_self]
      have hhears := LobbyService.hears_failed hfirst hfound now
      rw [hreserved, Function.update_idem, ← hnone, Function.update_eq_self, hmatches]
        at hhears
      exact ⟨_, settles_of_hears hhears h.workers h.linked hmono,
        fun _ _ _ hforgotten => hforgotten⟩
    | reserved _ _ worker record hnonzero hparticipants hfound hidle =>
      have hassigned := assignments_found hfound
      rw [WorkerRecord.assignment_of_idle hidle] at hassigned
      have hassignment : ({ record with
          state := .reserved
          reservation := some action.reservation
          matchId := some action.matchId } : WorkerRecord).assignment =
          .reserved action.reservation action.matchId :=
        WorkerRecord.assignment_eq_reserved.mpr ⟨rfl, rfl, rfl⟩
      refine ⟨first.matchWorker,
        settles_of_hears (LobbyService.hears_nil hfirst now) hworkers ?_ ?_, ?_⟩
      · rw [assignments_insert rfl, hassignment, hreserved, hmatches]
        refine h.linked.reassign hassigned ?_ ?_ ?_
        · intro request task
          rw [Function.update_apply]
          split
          · rename_i heq
            subst heq
            rw [hnone]
            simp
          · rename_i hne
            simp [Ne.symm hne]
        · exact fun task other hother => Or.inl ⟨hother, nofun⟩
        · intro assignment task heq htask
          obtain rfl := Option.some.inj heq
          obtain rfl := Option.some.inj htask
          exact Or.inr fun other otherAssignment hother =>
            task_fresh h hfreshMatch hother
      · refine hmono.insert rfl ?_ ?_
        · rintro reservation heq
          obtain rfl := Option.some.inj heq
          exact hspent
        · rintro matchId heq
          obtain rfl := Option.some.inj heq
          exact hspentMatch
      · intro other reservation matchId hforgotten
        rw [assignments_insert rfl, hassignment, hmatches] at hforgotten
        rcases forgotten_reassign (fun _ _ _ hother => hother) hforgotten with hbefore |
          ⟨-, heq⟩
        · exact hbefore
        · cases heq

theorem settles_cancelled (h : Agree service registry) (hfirst : first.Invariant)
    {reservation : ReservationId} {matchId : MatchId}
    (hasks : LobbyService.Asks service first (.cancel reservation matchId))
    {now : TimePoint} {result : WorkerRegistryResult} (hworkers : after.Consistent)
    (hchange : RegistryChange registry (.execute (.cancel reservation matchId) now) after
      result) :
    ∃ active, Settles first after now result.events active ∧
      Remembers service registry after active := by
  cases hasks with
  | cancel _ action hused husedMatches hfound hpending hactive =>
    have hreserved := LobbyService.reservedMatch_eq_some.mpr ⟨action, hfound, rfl⟩
    obtain ⟨holder, hholder⟩ := (h.linked.pending reservation action.matchId).mp hreserved
    obtain ⟨record, hworker, hassignment⟩ := assignments_eq_some.mp hholder
    obtain ⟨hstate, hheld, hmatched⟩ := WorkerRecord.assignment_eq_reserved.mp hassignment
    cases hchange with
    | unchanged call accepted closed hasked huncancelled huncancellable =>
      exact absurd ⟨reservation, action.matchId, now, holder, record, rfl, hworker, hstate,
        hheld, hmatched⟩ huncancellable
    | lost call accepted closed worker record hfound hasked hcancels => cases hcancels
    | cancelling _ _ _ worker other hother hotherState hotherHeld hotherMatched =>
      have hassigned := assignments_found hother
      rw [WorkerRecord.assignment_eq_reserved.mpr
        ⟨hotherState, hotherHeld, hotherMatched⟩] at hassigned
      have hcancelling : ({ other with state := .cancelling } : WorkerRecord).assignment =
          .cancelling reservation action.matchId :=
        WorkerRecord.assignment_eq_cancelling.mpr ⟨rfl, hotherHeld, hotherMatched⟩
      have hmatches := matchWorker_congr hactive
      have hassignments :
          (registry.setWorker worker { other with state := .cancelling }).assignments = _ :=
        assignments_insert rfl
      refine ⟨first.matchWorker,
        settles_of_hears (LobbyService.hears_nil hfirst now) hworkers ?_ ?_, ?_⟩
      · rw [hassignments, hcancelling, LobbyService.reservedMatch_erase hpending, hmatches]
        refine h.linked.reassign hassigned ?_ ?_ ?_
        · intro request task
          rw [Function.update_apply]
          split
          · rename_i heq
            subst heq
            rw [hreserved]
            simp
          · rename_i hne
            simp [Ne.symm hne]
        · exact fun task other hother => Or.inl ⟨hother, nofun⟩
        · intro assignment task heq htask
          obtain rfl := Option.some.inj heq
          exact Or.inl htask
      · exact (h.used.mono hused husedMatches).kept hother rfl rfl rfl
      · intro known request task hforgotten
        rw [hassignments, hcancelling, hmatches] at hforgotten
        rcases forgotten_reassign (fun _ _ _ hother => hother) hforgotten with hbefore |
          ⟨-, heq⟩
        · exact hbefore
        · cases heq

/-- What the lobby asks for is done or refused, and the lobby hears of it. -/
theorem asked_settles (h : Agree service registry) (hfirst : first.Invariant)
    {action : LobbyRuntimeAction} (hasks : LobbyService.Asks service first action)
    {now : TimePoint} {result : WorkerRegistryResult}
    (hchange : RegistryChange registry (.execute action now) after result) :
    ∃ active, Settles first after now result.events active ∧
      Remembers service registry after active := by
  have hworkers : after.Consistent := by
    apply hchange.consistent h.workers
    intro reservation hrequested worker record hfound hheld
    cases hasks with
    | reserve action hused husedMatches hfresh =>
      obtain rfl := Option.some.inj hrequested
      exact hfresh (h.used.reservations worker record _ hfound hheld)
    | cancel => cases hrequested
  cases action with
  | reserve action => exact settles_reserved h hfirst hasks hworkers hchange
  | cancel reservation matchId => exact settles_cancelled h hfirst hasks hworkers hchange

end Asked

/-! ## Calls -/

/-- A worker got ready when less than a second of the tickets' lifetime was left. -/
def BeginsLate (server : LobbyServer) (event : ServerEvent) (worker : WorkerId)
    (reservation : ReservationId) (matchId : MatchId) : Prop :=
  ∃ (record : WorkerRecord) (action : ReserveMatchAction) (now : TimePoint),
    event = .control (.receive record.connection (.ready reservation matchId)) now ∧
      server.registry.workers[worker]? = some record ∧
      server.service.pendingReservations[reservation]? = some { action } ∧
      action.matchId = matchId ∧ remainingSeconds action now < 1

/-- The lobby does not know the match that a worker is active for. -/
def Forgets (server : LobbyServer) (worker : WorkerId) (reservation : ReservationId)
    (matchId : MatchId) : Prop :=
  Forgotten server.service.matchWorker server.registry.assignments worker reservation
    matchId

/-- The call succeeds, no action is left over, and both sides agree; only a late
worker is forgotten. -/
def Agrees (server : LobbyServer) (event : ServerEvent) : Prop :=
  ∃ after output, server.call event = (after, .ok output) ∧ output.unrouted = [] ∧
    Agree after.service after.registry ∧
    ∀ worker reservation matchId, after.Forgets worker reservation matchId →
      server.Forgets worker reservation matchId ∨
        server.BeginsLate event worker reservation matchId

/-- What the server sends when the lobby has handled the events. -/
theorem routeControl_eq (server : LobbyServer) {now : TimePoint}
    {result : WorkerRegistryResult} {service : LobbyService}
    {outbound : List OutboundMessage}
    (h : server.service.handleEvents now result.events = (service, .ok { outbound })) :
    server.routeControl now result = ({ server with service }, .ok (({
      control := result.outbound
      closeConnections := result.closeConnections } : ServerOutput).append
        { outbound })) := by
  rw [routeControl, h]
  rfl

theorem routeControl_settles (server : LobbyServer) {now : TimePoint}
    {result : WorkerRegistryResult} {active : MatchId → Option WorkerId}
    (h : Settles server.service server.registry now result.events active) :
    ∃ service output, server.routeControl now result =
        ({ server with service }, .ok output) ∧ output.unrouted = [] ∧
      Agree service server.registry ∧ service.matchWorker = active := by
  obtain ⟨service, outbound, hhandled, hagree, hactive⟩ := h
  exact ⟨service, _, server.routeControl_eq hhandled, rfl, hagree, hactive⟩

theorem handleControl_agrees {server : LobbyServer}
    (h : Agree server.service server.registry) (event : ControlEvent) (now : TimePoint) :
    server.Agrees (.control event now) := by
  have hasked : event.registryCall.requested = none := by cases event <;> rfl
  have hcancels : event.registryCall.cancels = false := by cases event <;> rfl
  have hchange := call_changes h.workers event.registryCall
  have hworkers := hchange.consistent h.workers (by rw [hasked]; exact nofun)
  obtain ⟨active, hsettles, hforgets⟩ :=
    control_settles h hchange hworkers hasked hcancels now
  obtain ⟨service, output, hrouted, hunrouted, hagree, rfl⟩ :=
    routeControl_settles { server with
      registry := (server.registry.call event.registryCall).1 } hsettles
  refine ⟨_, output, hrouted, hunrouted, hagree, ?_⟩
  intro worker reservation matchId hforgotten
  rcases hforgets worker reservation matchId hforgotten with hbefore |
    ⟨record, action, hcall, hfound, hpending, hmatch, htime⟩
  · exact Or.inl hbefore
  · refine Or.inr ⟨record, action, now, ?_, hfound, hpending, hmatch, htime⟩
    cases event with
    | receive connection message =>
      obtain ⟨rfl, rfl⟩ := RegistryCall.receive.inj hcall
      rfl
    | _ => cases hcall

theorem handleClient_agrees {server : LobbyServer}
    (h : Agree server.service server.registry) (event : ClientEvent) (now : TimePoint) :
    server.Agrees (.client event now) := by
  obtain ⟨first, result, hcall, hchanges, hlength⟩ :=
    LobbyService.call_performs h.lobby event.lobbyEvent
  have hclient : event.lobbyEvent.isClient = true := by cases event <;> rfl
  have hfirst := hchanges.invariant h.lobby
  rcases LobbyService.asks_changes h.lobby hchanges hclient hlength with
    ⟨hnone, hsilent⟩ | ⟨action, hone, hasks⟩
  · refine ⟨{ server with service := first },
      ({ outbound := result.outbound } : ServerOutput).append {}, ?_, rfl,
      agree_silent h hfirst hsilent, ?_⟩
    · rw [call, handleClient, hcall]
      simp only [attempt_ok, hnone, executeActions]
    · intro worker reservation matchId hforgotten
      rw [Forgets, matchWorker_congr hsilent.active] at hforgotten
      exact Or.inl hforgotten
  · have hchange : RegistryChange server.registry (.execute action now)
        (server.registry.execute action now).1 (server.registry.execute action now).2 :=
      call_changes h.workers (.execute action now)
    obtain ⟨active, hsettles, hremembers⟩ := asked_settles h hfirst hasks hchange
    obtain ⟨service, output, hrouted, hunrouted, hagree, rfl⟩ :=
      routeControl_settles {
        service := first
        registry := (server.registry.execute action now).1 } hsettles
    refine ⟨{
        service
        registry := (server.registry.execute action now).1 },
      ({ outbound := result.outbound } : ServerOutput).append
      (output.append {}), ?_, ?_, hagree, fun worker reservation matchId hforgotten =>
      Or.inl (hremembers worker reservation matchId hforgotten)⟩
    · rw [call, handleClient, hcall]
      simp only [attempt_ok, hone, executeActions]
      rw [hrouted]
      simp only [attempt_ok]
    · simp [ServerOutput.append, hunrouted]

theorem call_agrees {server : LobbyServer} (h : Agree server.service server.registry)
    (event : ServerEvent) : server.Agrees event := by
  cases event with
  | client event now => exact handleClient_agrees h event now
  | control event now => exact handleControl_agrees h event now

/-! ## Decisions -/

section Decisions

/-- What decides the reservation that a worker is reserved for. -/
inductive Decides (record : WorkerRecord) (reservation : ReservationId)
    (matchId : MatchId) : ControlEvent → Prop
  | lost : Decides record reservation matchId (.disconnect record.connection)
  | expired : Decides record reservation matchId (.timeout reservation)
  | ready :
    Decides record reservation matchId
      (.receive record.connection (.ready reservation matchId))
  | rejected (reason : WorkerReservationReject) :
    Decides record reservation matchId
      (.receive record.connection (.rejected reservation matchId reason))

/-- What ends the match of an active worker. -/
inductive Ends (record : WorkerRecord) : MatchId → ControlEvent → Prop
  | lost (matchId : MatchId) : Ends record matchId (.disconnect record.connection)
  | finished (finish : MatchFinished) :
    Ends record finish.matchId (.receive record.connection (.finished finish))

variable {registry : WorkerRegistry} {worker : WorkerId} {record : WorkerRecord}

theorem receive_found (h : registry.Consistent)
    (hfound : registry.workers[worker]? = some record) (message : WorkerToLobbyMessage) :
    registry.receive record.connection message =
      registry.receiveFrom record.connection worker record message := by
  rw [receive, h.connection hfound]
  simp only [hfound]

theorem decides_events (h : registry.Consistent)
    (hfound : registry.workers[worker]? = some record) {reservation : ReservationId}
    {matchId : MatchId} (hassignment : record.assignment = .reserved reservation matchId)
    {event : ControlEvent} (hdecides : Decides record reservation matchId event) :
    (registry.call event.registryCall).2.events =
        [.reservationFailed reservation matchId] ∨
      (registry.call event.registryCall).2.events =
        [.reservationReady reservation matchId worker
          record.registration.gameEndpoint] := by
  obtain ⟨hstate, hheld, hmatched⟩ := WorkerRecord.assignment_eq_reserved.mp hassignment
  have hrecord := h.records worker record hfound
  have hlost : lostEvents record = [.reservationFailed reservation matchId] := by
    rw [lostEvents, hstate, hheld, hmatched]
  cases hdecides with
  | lost =>
    change (registry.disconnect record.connection).2.events = _ ∨ _
    rw [disconnect_found h hfound]
    exact Or.inl hlost
  | expired =>
    have htracked : registry.reservations[reservation]? = some worker :=
      h.tracked.mpr ⟨record, hfound, tracked_reserved hstate hheld⟩
    refine Or.inl ?_
    change (registry.timeout reservation).2.events = _
    rw [timeout, htracked]
    simp only [hfound, disconnect_found h hfound, hlost]
  | ready =>
    refine Or.inr ?_
    change (registry.receive _ _).2.events = _
    rw [receive_found h hfound]
    simp only [receiveFrom, receiveReady, hstate, hheld, hmatched, hrecord.key, and_self,
      not_true_eq_false, if_false]
    rfl
  | rejected reason =>
    refine Or.inl ?_
    change (registry.receive _ _).2.events = _
    rw [receive_found h hfound]
    simp only [receiveFrom, receiveRejected, hstate, hheld, hmatched, and_self,
      not_true_eq_false, if_false]

theorem ends_events (h : registry.Consistent)
    (hfound : registry.workers[worker]? = some record) {reservation : ReservationId}
    {matchId : MatchId} (hassignment : record.assignment = .active reservation matchId)
    {event : ControlEvent} (hends : Ends record matchId event) :
    ∃ unavailable, (registry.call event.registryCall).2.events =
      [LobbyService.endEvent unavailable worker matchId] := by
  have hrecord := h.records worker record hfound
  obtain ⟨hstate, hheld, hmatched⟩ := WorkerRecord.assignment_eq_active.mp hassignment
  cases hends with
  | lost =>
    refine ⟨true, ?_⟩
    change (registry.disconnect record.connection).2.events = _
    rw [disconnect_found h hfound]
    simp only [lostEvents, hstate, hmatched, hrecord.key]
    rfl
  | finished finish =>
    refine ⟨false, ?_⟩
    change (registry.receive _ _).2.events = _
    rw [receive_found h hfound]
    simp only [receiveFrom, receiveFinished, hstate, hmatched, if_true, hrecord.key]
    rfl

theorem handleEvents_one (service : LobbyService) (now : TimePoint) (event : WorkerEvent) :
    (service.handleEvents now [event]).1 = (service.handleWorkerEvent event now).1 := by
  rw [LobbyService.handleEvents]
  cases hhandled : service.handleWorkerEvent event now with
  | mk after outcome => cases outcome <;> rfl

theorem routeControl_service (server : LobbyServer) (now : TimePoint)
    (result : WorkerRegistryResult) : (server.routeControl now result).1.service =
      (server.service.handleEvents now result.events).1 := by
  rw [routeControl]
  cases hhandled : server.service.handleEvents now result.events with
  | mk after outcome => cases outcome <;> rfl

theorem step_service {server : LobbyServer} {event : ControlEvent} {told : WorkerEvent}
    (h : (server.registry.call event.registryCall).2.events = [told]) (now : TimePoint) :
    (server.step (.control event now)).service =
      (server.service.handleWorkerEvent told now).1 := by
  rw [← handleEvents_one, ← h]
  exact routeControl_service { server with
    registry := (server.registry.call event.registryCall).1 } now _

end Decisions

end LobbyServer

namespace LobbyService

variable {service : LobbyService}

theorem handleFailed_waits (h : service.Invariant) {reservation : ReservationId}
    {action : ReserveMatchAction}
    (hpending : service.pendingReservations[reservation]? = some { action })
    (now : TimePoint) :
    roomState (service.handleWorkerEvent (.reservationFailed reservation action.matchId)
      now).1.rooms action.room = some .waiting := by
  obtain ⟨room, hfound, result, hfails, -⟩ :=
    failPendingReservation_releases h hpending .workerUnavailable
  simp only [handleWorkerEvent, handleReservationFailed, hpending, ne_eq,
    not_true_eq_false, if_false, hfails]
  rw [releaseRoom, roomState_insert, Function.update_self]

theorem handleReady_decides (h : service.Invariant) {reservation : ReservationId}
    {action : ReserveMatchAction}
    (hpending : service.pendingReservations[reservation]? = some { action })
    (worker : WorkerId) (endpoint : GameEndpoint) (now : TimePoint) :
    roomState (service.handleWorkerEvent (.reservationReady reservation action.matchId
      worker endpoint) now).1.rooms action.room ≠ some .starting := by
  by_cases hbegin : CanBegin action worker endpoint now
  · obtain ⟨room, hfound, result, hbegins, -⟩ :=
      handleReservationReady_begins h hpending hbegin
    rw [handleWorkerEvent, hbegins, enterMatch, roomState_insert, Function.update_self]
    intro hstate
    cases hstate
  · obtain ⟨room, hfound, result, hfails, -⟩ :=
      failPendingReservation_releases h hpending .workerUnavailable
    simp only [handleWorkerEvent, handleReservationReady, hpending, ne_eq,
      not_true_eq_false, if_false, if_pos (not_not.mp hbegin), hfails]
    rw [releaseRoom, roomState_insert, Function.update_self]
    intro hstate
    cases hstate

theorem handleEnd_removes (h : service.Invariant) {matchId : MatchId}
    {record : ActiveMatch} (hactive : service.activeMatches[matchId]? = some record)
    (unavailable : Bool) (now : TimePoint) :
    roomState (service.handleWorkerEvent (endEvent unavailable record.worker matchId)
      now).1.rooms record.room = none := by
  obtain ⟨room, hfound, result, hcloses, -⟩ :=
    finishActiveMatch_closes h hactive unavailable
  rw [handleWorkerEvent_end, hcloses, closeMatch, roomState_erase, Function.update_self]

end LobbyService

namespace LobbyServer

/-! ## Runs -/

/-- The worker is in the state for the reservation and the match. -/
def Assigned (server : LobbyServer) (state : WorkerState) (reservation : ReservationId)
    (matchId : MatchId) (worker : WorkerId) : Prop :=
  ∃ record, server.registry.workers[worker]? = some record ∧ record.state = state ∧
    record.reservation = some reservation ∧ record.matchId = some matchId

/-- The lobby has the match on the worker. -/
def Knows (server : LobbyServer) (matchId : MatchId) (worker : WorkerId) : Prop :=
  ∃ record, server.service.activeMatches[matchId]? = some record ∧
    record.worker = worker

/-- The reservations and matches of the lobby are those of its workers. -/
structure Dispatched (server : LobbyServer) : Prop where
  pending : ∀ (reservation : ReservationId) (action : ReserveMatchAction),
    server.service.pendingReservations[reservation]? = some { action } →
    ∃! worker, server.Assigned .reserved reservation action.matchId worker
  reserved : ∀ (worker : WorkerId) (reservation : ReservationId) (matchId : MatchId),
    server.Assigned .reserved reservation matchId worker →
    ∃ action, server.service.pendingReservations[reservation]? = some { action } ∧
      action.matchId = matchId
  active : ∀ (matchId : MatchId) (record : ActiveMatch),
    server.service.activeMatches[matchId]? = some record →
    ∀ worker, (∃ reservation, server.Assigned .active reservation matchId worker) ↔
      worker = record.worker
  /-- A starting room waits for a worker whose answer, timeout or disconnect decides. -/
  starting : ∀ (roomId : RoomId) (room : Room),
    server.service.rooms[roomId]? = some room → room.state = .starting →
    ∃ (worker : WorkerId) (record : WorkerRecord) (reservation : ReservationId)
      (matchId : MatchId), server.service.ReservedBy roomId reservation ∧
      server.registry.workers[worker]? = some record ∧
      record.assignment = .reserved reservation matchId ∧
      ∀ event now, Decides record reservation matchId event →
        LobbyService.roomState (server.step (.control event now)).service.rooms roomId ≠
          some .starting
  /-- A room in a match has a worker whose finish or disconnect ends it. -/
  inMatch : ∀ (roomId : RoomId) (room : Room),
    server.service.rooms[roomId]? = some room → room.state = .inMatch →
    ∃ (worker : WorkerId) (record : WorkerRecord) (reservation : ReservationId)
      (matchId : MatchId), server.Knows matchId worker ∧
      server.registry.workers[worker]? = some record ∧
      record.assignment = .active reservation matchId ∧
      ∀ event now, Ends record matchId event →
        LobbyService.roomState (server.step (.control event now)).service.rooms roomId =
          none

section Agree

variable {server : LobbyServer}

theorem assigned_reserved {worker : WorkerId} {reservation : ReservationId}
    {matchId : MatchId} : server.Assigned .reserved reservation matchId worker ↔
      server.registry.assignments worker = some (.reserved reservation matchId) := by
  rw [assignments_eq_some]
  simp only [WorkerRecord.assignment_eq_reserved]
  rfl

theorem assigned_active {worker : WorkerId} {reservation : ReservationId}
    {matchId : MatchId} : server.Assigned .active reservation matchId worker ↔
      server.registry.assignments worker = some (.active reservation matchId) := by
  rw [assignments_eq_some]
  simp only [WorkerRecord.assignment_eq_active]
  rfl

variable (h : Agree server.service server.registry)
include h

theorem Agree.starting {roomId : RoomId} {room : Room}
    (hfound : server.service.rooms[roomId]? = some room) (hstate : room.state = .starting) :
    ∃ (worker : WorkerId) (record : WorkerRecord) (reservation : ReservationId)
      (matchId : MatchId), server.service.ReservedBy roomId reservation ∧
      server.registry.workers[worker]? = some record ∧
      record.assignment = .reserved reservation matchId ∧
      ∀ event now, Decides record reservation matchId event →
        LobbyService.roomState (server.step (.control event now)).service.rooms roomId ≠
          some .starting := by
  obtain ⟨reservation, hreserved⟩ :=
    (h.lobby.consistent.starting roomId).mp ⟨room, hfound, hstate⟩
  obtain ⟨⟨action⟩, hpending, rfl⟩ := hreserved.2.1
  have hmatch := LobbyService.reservedMatch_eq_some.mpr ⟨action, hpending, rfl⟩
  obtain ⟨worker, hassigned⟩ := (h.linked.pending reservation _).mp hmatch
  obtain ⟨record, hworker, hassignment⟩ := assignments_eq_some.mp hassigned
  refine ⟨worker, record, reservation, action.matchId, hreserved, hworker, hassignment,
    fun event now hdecides => ?_⟩
  rcases decides_events h.workers hworker hassignment hdecides with hfailed | hready
  · rw [step_service hfailed, LobbyService.handleFailed_waits h.lobby hpending]
    decide
  · rw [step_service hready]
    exact LobbyService.handleReady_decides h.lobby hpending _ _ _

theorem Agree.inMatch {roomId : RoomId} {room : Room}
    (hfound : server.service.rooms[roomId]? = some room) (hstate : room.state = .inMatch) :
    ∃ (worker : WorkerId) (record : WorkerRecord) (reservation : ReservationId)
      (matchId : MatchId), server.Knows matchId worker ∧
      server.registry.workers[worker]? = some record ∧
      record.assignment = .active reservation matchId ∧
      ∀ event now, Ends record matchId event →
        LobbyService.roomState (server.step (.control event now)).service.rooms roomId =
          none := by
  obtain ⟨matchId, ⟨found, hactive, rfl⟩, -⟩ :=
    (h.lobby.consistent.inMatch roomId).mp ⟨room, hfound, hstate⟩
  have hknown := LobbyService.matchWorker_eq_some.mpr ⟨found, hactive, rfl⟩
  obtain ⟨reservation, hassigned⟩ := h.linked.active matchId found.worker hknown
  obtain ⟨record, hworker, hassignment⟩ := assignments_eq_some.mp hassigned
  refine ⟨found.worker, record, reservation, matchId, ⟨found, hactive, rfl⟩, hworker,
    hassignment, fun event now hends => ?_⟩
  obtain ⟨unavailable, hended⟩ := ends_events h.workers hworker hassignment hends
  rw [step_service hended]
  exact LobbyService.handleEnd_removes h.lobby hactive unavailable now

theorem Agree.dispatched : server.Dispatched where
  pending := by
    intro reservation action hpending
    have hmatch := LobbyService.reservedMatch_eq_some.mpr ⟨action, hpending, rfl⟩
    obtain ⟨worker, hassigned⟩ := (h.linked.pending reservation _).mp hmatch
    refine ⟨worker, assigned_reserved.mpr hassigned, fun other hother => ?_⟩
    exact h.linked.reserved_unique (assigned_reserved.mp hother) hassigned
  reserved := by
    intro worker reservation matchId hassigned
    have hmatch := (h.linked.pending reservation matchId).mpr
      ⟨worker, assigned_reserved.mp hassigned⟩
    exact LobbyService.reservedMatch_eq_some.mp hmatch
  active := by
    intro matchId record hactive worker
    have hknown := LobbyService.matchWorker_eq_some.mpr ⟨record, hactive, rfl⟩
    obtain ⟨reservation, hassigned⟩ := h.linked.active matchId record.worker hknown
    constructor
    · rintro ⟨held, hother⟩
      exact h.linked.distinct worker record.worker _ _ matchId
        (assigned_active.mp hother) hassigned rfl rfl
    · rintro rfl
      exact ⟨reservation, assigned_active.mpr hassigned⟩
  starting := fun _ _ => h.starting
  inMatch := fun _ _ => h.inMatch

end Agree

theorem agree_create (tickets : MatchTicketRegistry) (config : LobbyServiceConfig) :
    Agree (create tickets config).service (create tickets config).registry where
  lobby := LobbyService.invariant_create tickets config
  workers := consistent_empty
  linked := by
    have hidle : ∀ worker, (create tickets config).registry.assignments worker = none := by
      simp [assignments, project, entry, create]
    have hpending : ∀ reservation,
        (create tickets config).service.reservedMatch reservation = none := by
      simp [LobbyService.reservedMatch, project, entry, create, LobbyService.create]
    have hactive : ∀ matchId,
        (create tickets config).service.matchWorker matchId = none := by
      simp [LobbyService.matchWorker, project, entry, create, LobbyService.create]
    exact {
      pending := by simp [hidle, hpending]
      active := by simp [hactive]
      distinct := by simp [hidle] }
  used := { reservations := by simp [create], matches_ := by simp [create] }

theorem step_of_call {server after : LobbyServer} {event : ServerEvent}
    {output : ServerOutput} (h : server.call event = (after, .ok output)) :
    server.step event = after := by
  rw [step, h]

/-- In every run the lobby and its workers agree, and an active worker that the lobby
does not know got ready too late. -/
theorem run_agree (tickets : MatchTicketRegistry) (config : LobbyServiceConfig)
    (events : List ServerEvent) :
    Agree (Machine.run step (create tickets config) events).service
        (Machine.run step (create tickets config) events).registry ∧
      ∀ worker reservation matchId,
        (Machine.run step (create tickets config) events).Forgets worker reservation
          matchId →
        ∃ past event later, events = past ++ event :: later ∧
          (Machine.run step (create tickets config) past).BeginsLate event worker
            reservation matchId := by
  induction events using List.reverseRecOn with
  | nil =>
    refine ⟨agree_create tickets config, ?_⟩
    rintro worker reservation matchId ⟨hassigned, -⟩
    simp [assignments, project, entry, create] at hassigned
  | append_singleton past event ih =>
    obtain ⟨hagree, hforgotten⟩ := ih
    obtain ⟨after, output, hcall, -, hnext, hlate⟩ := call_agrees hagree event
    rw [Machine.run_append, Machine.run_cons, Machine.run_nil, step_of_call hcall]
    refine ⟨hnext, fun worker reservation matchId hforgets => ?_⟩
    rcases hlate worker reservation matchId hforgets with hbefore | hnow
    · obtain ⟨earlier, late, later, rfl, hbegins⟩ := hforgotten _ _ _ hbefore
      exact ⟨earlier, late, later ++ [event], by simp, hbegins⟩
    · exact ⟨past, event, [], rfl, hnow⟩

/-- In every run no call fails, the lobby's reservations and matches are those of its
workers, and a worker is active for a match that the lobby does not know only if it got
ready when less than a second of the tickets' lifetime was left. -/
theorem run_dispatched (tickets : MatchTicketRegistry) (config : LobbyServiceConfig)
    (events : List ServerEvent) :
    (Machine.run step (create tickets config) events).Dispatched ∧
      (∀ event, ∃ output,
        ((Machine.run step (create tickets config) events).call event).2 = .ok output ∧
          output.unrouted = []) ∧
      ∀ worker reservation matchId,
        (Machine.run step (create tickets config) events).Assigned .active reservation
          matchId worker →
        (Machine.run step (create tickets config) events).Knows matchId worker ∨
          ∃ past event later, events = past ++ event :: later ∧
            (Machine.run step (create tickets config) past).BeginsLate event worker
              reservation matchId := by
  obtain ⟨hagree, hforgotten⟩ := run_agree tickets config events
  refine ⟨hagree.dispatched, fun event => ?_, fun worker reservation matchId hactive => ?_⟩
  · obtain ⟨after, output, hcall, hunrouted, -⟩ := call_agrees hagree event
    exact ⟨output, by rw [hcall], hunrouted⟩
  · by_cases hknown : (Machine.run step (create tickets config) events).Knows matchId worker
    · exact Or.inl hknown
    · refine Or.inr (hforgotten worker reservation matchId ⟨?_, fun hmatch =>
        hknown (LobbyService.matchWorker_eq_some.mp hmatch)⟩)
      exact assigned_active.mp hactive

/-- A worker registers, a room starts at zero, and the worker gets ready half a second
before the tickets expire. -/
def lateRun : List ServerEvent :=
  [.control (.register ⟨1⟩ {
      worker := ⟨1⟩
      advertisedHost := [0x68]
      gameTcpPort := 1
      gameUdpPort := 2 }) 0,
    .client .openConnection 0, .client .openConnection 0,
    .client (.handle ⟨1⟩ (.hello 1) 0) 0, .client (.handle ⟨2⟩ (.hello 1) 0) 0,
    .client (.handle ⟨1⟩ (.createRoom 2) 0) 0,
    .client (.handle ⟨2⟩ (.joinRoom 2 ⟨1⟩) 0) 0,
    .client (.handle ⟨1⟩ (.setReady 3 true) 0) 0,
    .client (.handle ⟨2⟩ (.setReady 3 true) 0) 0,
    .client (.handle ⟨1⟩ (.startMatch 4) 0) 0,
    .control (.receive ⟨1⟩ (.ready ⟨1⟩ ⟨1⟩)) (matchTicketLifetime - 500000000)]

/-- After a late ready the worker is active for a match that the lobby does not know. -/
theorem late_forgotten :
    (Machine.run step (create LobbyService.twoTickets {}) lateRun).Assigned .active ⟨1⟩ ⟨1⟩
        ⟨1⟩ ∧
      ¬(Machine.run step (create LobbyService.twoTickets {}) lateRun).Knows ⟨1⟩ ⟨1⟩ := by
  have hactive : ((Machine.run step (create LobbyService.twoTickets {}) lateRun
      ).registry.workers[(⟨1⟩ : WorkerId)]?.map fun record =>
        (record.state, record.reservation, record.matchId)) =
      some (.active, some ⟨1⟩, some ⟨1⟩) := by
    decide +kernel
  have hnone : (Machine.run step (create LobbyService.twoTickets {}) lateRun
      ).service.activeMatches[(⟨1⟩ : MatchId)]?.isNone = true := by
    decide +kernel
  obtain ⟨record, hfound, hrecord⟩ := Option.map_eq_some_iff.mp hactive
  simp only [Prod.mk.injEq] at hrecord
  refine ⟨⟨record, hfound, hrecord⟩, ?_⟩
  rintro ⟨found, hknown, -⟩
  rw [hknown] at hnone
  cases hnone

end LobbyServer

end SurvivalArena
