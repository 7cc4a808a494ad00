import SurvivalArena.Framework.Assignments
import SurvivalArena.Lobby.LobbyConsistency
import SurvivalArena.Lobby.LobbyServer
import SurvivalArena.Lobby.RegistryRun

/-!
# The lobby and its workers agree

A pending reservation has the worker that is reserved for it and an active match the
worker it runs on, after every event of the server.
-/

namespace SurvivalArena

open Assignment Counter OrderedMap

/-- The match that each pending reservation is for. -/
def LobbyService.reservedMatch (service : LobbyService) : ReservationId → Option MatchId :=
  project (entry service.pendingReservations) fun pending => some pending.action.matchId

/-- The worker of each active match. -/
def LobbyService.matchWorker (service : LobbyService) : MatchId → Option WorkerId :=
  project (entry service.activeMatches) fun record => some record.worker

/-- What a record says the worker does. -/
def WorkerRecord.assignment (record : WorkerRecord) : Assignment ReservationId MatchId :=
  match record.state, record.reservation, record.matchId with
  | .reserved, some reservation, some matchId => .reserved reservation matchId
  | .cancelling, some reservation, some matchId => .cancelling reservation matchId
  | .active, some reservation, some matchId => .active reservation matchId
  | _, _, _ => .idle

def WorkerRegistry.assignments (registry : WorkerRegistry) :
    WorkerId → Option (Assignment ReservationId MatchId) :=
  project (entry registry.workers) fun record => some record.assignment

namespace LobbyServer

/-- The ids that a worker's record names were handed out by the lobby. -/
structure UsedIds (service : LobbyService) (registry : WorkerRegistry) : Prop where
  reservations : ∀ (worker : WorkerId) (record : WorkerRecord)
    (reservation : ReservationId), registry.workers[worker]? = some record →
    record.reservation = some reservation →
    Used service.nextReservation reservation.value
  matches_ : ∀ (worker : WorkerId) (record : WorkerRecord) (matchId : MatchId),
    registry.workers[worker]? = some record → record.matchId = some matchId →
    Used service.nextMatch matchId.value

/-- Both sides are consistent and agree with each other. -/
structure Agree (service : LobbyService) (registry : WorkerRegistry) : Prop where
  lobby : service.Invariant
  workers : registry.Consistent
  linked : Linked service.reservedMatch service.matchWorker registry.assignments
  used : UsedIds service registry

end LobbyServer

namespace LobbyService

/-! ## The lobby's side -/

theorem reservedMatch_eq_some {service : LobbyService} {reservation : ReservationId}
    {matchId : MatchId} :
    service.reservedMatch reservation = some matchId ↔
      ∃ action : ReserveMatchAction,
        service.pendingReservations[reservation]? = some { action } ∧
        action.matchId = matchId := by
  rw [reservedMatch, project, Option.bind_eq_some_iff]
  constructor
  · rintro ⟨⟨action⟩, hfound, hmatch⟩
    exact ⟨action, hfound, Option.some.inj hmatch⟩
  · rintro ⟨action, hfound, hmatch⟩
    exact ⟨{ action }, hfound, congrArg some hmatch⟩

theorem matchWorker_eq_some {service : LobbyService} {matchId : MatchId}
    {worker : WorkerId} :
    service.matchWorker matchId = some worker ↔
      ∃ record, service.activeMatches[matchId]? = some record ∧
        record.worker = worker := by
  rw [matchWorker, project, Option.bind_eq_some_iff]
  simp only [entry, Option.some.injEq]

theorem reservedMatch_erase {before after : LobbyService} {reservation : ReservationId}
    (h : after.pendingReservations = before.pendingReservations.erase reservation) :
    after.reservedMatch = Function.update before.reservedMatch reservation none := by
  rw [reservedMatch, h, entry_erase, project_update]
  rfl

theorem reservedMatch_insert {before after : LobbyService} {reservation : ReservationId}
    {action : ReserveMatchAction}
    (h : after.pendingReservations =
      before.pendingReservations.insert reservation { action }) :
    after.reservedMatch =
      Function.update before.reservedMatch reservation (some action.matchId) := by
  rw [reservedMatch, h, entry_insert, project_update]
  rfl

/-- Neither reservations nor matches change, and ids only get used up. -/
structure Silent (before after : LobbyService) : Prop where
  pending : after.pendingReservations = before.pendingReservations
  active : after.activeMatches = before.activeMatches
  usedReservations : ∀ id, Used before.nextReservation id → Used after.nextReservation id
  usedMatches : ∀ id, Used before.nextMatch id → Used after.nextMatch id

theorem Silent.refl (service : LobbyService) : Silent service service :=
  ⟨rfl, rfl, fun _ h => h, fun _ h => h⟩

theorem Silent.trans {before middle after : LobbyService} (h : Silent before middle)
    (hnext : Silent middle after) : Silent before after :=
  ⟨hnext.pending.trans h.pending, hnext.active.trans h.active,
    fun id hid => hnext.usedReservations id (h.usedReservations id hid),
    fun id hid => hnext.usedMatches id (h.usedMatches id hid)⟩

theorem silent_change {event : LobbyEvent} {before after : LobbyService}
    (hchange : LobbyChange event before after []) (hclient : event.isClient = true) :
    Silent before after := by
  cases hchange with
  | rolledBack matchValue reservationValue now hstarts room tickets issued hmatch
      hreservation =>
    exact ⟨rfl, rfl, fun id h => h.advance hreservation, fun id h => h.advance hmatch⟩
  | failed reservation action room htold =>
    rw [hclient] at htold
    cases htold
  | begun reservation action room worker htold =>
    rw [hclient] at htold
    cases htold
  | finished matchId record room htold =>
    rw [hclient] at htold
    cases htold
  | _ => exact ⟨rfl, rfl, fun _ h => h, fun _ h => h⟩

/-- What a client can make the lobby ask for. -/
inductive Asks (before after : LobbyService) : LobbyRuntimeAction → Prop
  | reserve (action : ReserveMatchAction) (used : ∀ id, Used before.nextReservation id →
        Used after.nextReservation id)
      (usedMatches : ∀ id, Used before.nextMatch id → Used after.nextMatch id)
      (fresh : ¬Used before.nextReservation action.reservation.value)
      (freshMatch : ¬Used before.nextMatch action.matchId.value)
      (spent : Used after.nextReservation action.reservation.value)
      (spentMatch : Used after.nextMatch action.matchId.value)
      (members : (action.participants.map ReservedParticipant.player).Nodup)
      (pending : after.pendingReservations =
        before.pendingReservations.insert action.reservation { action })
      (active : after.activeMatches = before.activeMatches) :
    Asks before after (.reserve action)
  | cancel (reservation : ReservationId) (action : ReserveMatchAction)
      (used : ∀ id, Used before.nextReservation id → Used after.nextReservation id)
      (usedMatches : ∀ id, Used before.nextMatch id → Used after.nextMatch id)
      (found : before.pendingReservations[reservation]? = some { action })
      (pending : after.pendingReservations =
        before.pendingReservations.erase reservation)
      (active : after.activeMatches = before.activeMatches) :
    Asks before after (.cancel reservation action.matchId)

theorem asks_change {event : LobbyEvent} {before after : LobbyService}
    {action : LobbyRuntimeAction} (h : before.Invariant)
    (hchange : LobbyChange event before after [action]) : Asks before after action := by
  cases hchange with
  | reserved action room tickets hstarts hfound hvalid hmatch hreservation hparticipants =>
    refine .reserve action (fun id hid => hid.advance hreservation)
      (fun id hid => hid.advance hmatch) (not_used hreservation) (not_used hmatch)
      (used_advance _) (used_advance _) ?_ rfl rfl
    rw [hparticipants]
    exact room.players_nodup
  | cancelled reservation action room hpending hfound =>
    rw [h.matchmaking.named reservation { action } hpending]
    exact .cancel reservation action (fun _ hid => hid) (fun _ hid => hid) hpending rfl rfl

theorem Asks.silent {before first second after : LobbyService}
    {action : LobbyRuntimeAction} (hbefore : Silent before first)
    (h : Asks first second action) (hafter : Silent second after) :
    Asks before after action := by
  cases h with
  | reserve action hused husedMatches hfresh hfreshMatch hspent hspentMatch hmembers
      hpending hactive =>
    refine .reserve action
      (fun id hid => hafter.usedReservations id (hused id (hbefore.usedReservations id hid)))
      (fun id hid => hafter.usedMatches id (husedMatches id (hbefore.usedMatches id hid)))
      (fun hid => hfresh (hbefore.usedReservations _ hid))
      (fun hid => hfreshMatch (hbefore.usedMatches _ hid))
      (hafter.usedReservations _ hspent) (hafter.usedMatches _ hspentMatch) hmembers ?_ ?_
    · rw [hafter.pending, hpending, hbefore.pending]
    · rw [hafter.active, hactive, hbefore.active]
  | cancel reservation action hused husedMatches hfound hpending hactive =>
    refine .cancel reservation action
      (fun id hid => hafter.usedReservations id (hused id (hbefore.usedReservations id hid)))
      (fun id hid => hafter.usedMatches id (husedMatches id (hbefore.usedMatches id hid)))
      ?_ ?_ ?_
    · rw [← hbefore.pending, hfound]
    · rw [hafter.pending, hpending, hbefore.pending]
    · rw [hafter.active, hactive, hbefore.active]

/-- A client call changes nothing of the reservations and matches, or just what it
asks the workers for. -/
theorem asks_changes {event : LobbyEvent} {before after : LobbyService}
    {actions : List LobbyRuntimeAction} (h : before.Invariant)
    (hchanges : LobbyChanges event before after actions)
    (hclient : event.isClient = true) (hlength : actions.length ≤ 1) :
    actions = [] ∧ Silent before after ∨
      ∃ action, actions = [action] ∧ Asks before after action := by
  induction hchanges with
  | none service => exact Or.inl ⟨rfl, .refl service⟩
  | @next before middle after first rest change _ ih =>
    rw [List.length_append] at hlength
    have hrest := ih (change.invariant h) (by omega)
    match first with
    | [] =>
      have hsilent := silent_change change hclient
      rcases hrest with ⟨hnone, hlater⟩ | ⟨action, hone, hasks⟩
      · exact Or.inl ⟨by rw [hnone]; rfl, hsilent.trans hlater⟩
      · exact Or.inr ⟨action, by rw [hone]; rfl, hasks.silent hsilent (.refl _)⟩
    | [action] =>
      have hasks := asks_change h change
      rcases hrest with ⟨hnone, hlater⟩ | ⟨other, hone, -⟩
      · exact Or.inr ⟨action, by rw [hnone]; rfl, hasks.silent (.refl _) hlater⟩
      · rw [hone, List.length_singleton, List.length_singleton] at hlength
        omega
    | _ :: _ :: _ =>
      simp only [List.length_cons] at hlength
      omega

/-! ## What the lobby hears -/

/-- The lobby's tables after it heard of an event; no id is handed out. -/
structure Heard (before after : LobbyService)
    (pending : ReservationId → Option MatchId) (active : MatchId → Option WorkerId) :
    Prop where
  invariant : after.Invariant
  pending : after.reservedMatch = pending
  active : after.matchWorker = active
  nextReservation : after.nextReservation = before.nextReservation
  nextMatch : after.nextMatch = before.nextMatch

theorem Heard.refl {service : LobbyService} (h : service.Invariant) :
    Heard service service service.reservedMatch service.matchWorker :=
  ⟨h, rfl, rfl, rfl, rfl⟩

/-- The events are answered, nothing is asked for, and the tables are as given. -/
def Hears (service : LobbyService) (now : TimePoint) (events : List WorkerEvent)
    (pending : ReservationId → Option MatchId) (active : MatchId → Option WorkerId) :
    Prop :=
  ∃ after outbound, service.handleEvents now events = (after, .ok { outbound }) ∧
    Heard service after pending active

theorem hears_nil {service : LobbyService} (h : service.Invariant) (now : TimePoint) :
    service.Hears now [] service.reservedMatch service.matchWorker :=
  ⟨service, [], rfl, .refl h⟩

theorem hears_one {service after : LobbyService} {event : WorkerEvent} {now : TimePoint}
    {result : LobbyServiceResult}
    (hhandled : service.handleWorkerEvent event now = (after, .ok result))
    (hactions : result.actions = []) {pending : ReservationId → Option MatchId}
    {active : MatchId → Option WorkerId} (h : Heard service after pending active) :
    service.Hears now [event] pending active := by
  refine ⟨after, result.outbound, ?_, h⟩
  simp [handleEvents, hhandled, hactions, ServerOutput.append]

theorem heard_released {service : LobbyService} (h : service.Invariant)
    {reservation : ReservationId} {action : ReserveMatchAction} {room : Room}
    (hpending : service.pendingReservations[reservation]? = some { action })
    (hfound : service.rooms[action.room]? = some room) :
    Heard service (service.releaseRoom reservation action room)
      (Function.update service.reservedMatch reservation none) service.matchWorker where
  invariant := by
    have hchange : LobbyChange (.workerEvent (.reservationFailed reservation
        action.matchId) 0) service _ [] := .failed reservation action room rfl hpending hfound
    exact hchange.invariant h
  pending := reservedMatch_erase rfl
  active := rfl
  nextReservation := rfl
  nextMatch := rfl

theorem hears_failed {service : LobbyService} (h : service.Invariant)
    {reservation : ReservationId} {matchId : MatchId}
    (hreserved : service.reservedMatch reservation = some matchId) (now : TimePoint) :
    service.Hears now [.reservationFailed reservation matchId]
      (Function.update service.reservedMatch reservation none) service.matchWorker := by
  obtain ⟨action, hpending, rfl⟩ := reservedMatch_eq_some.mp hreserved
  obtain ⟨room, hfound, result, hfails, hactions⟩ :=
    failPendingReservation_releases h hpending .workerUnavailable
  apply hears_one _ hactions (heard_released h hpending hfound)
  simp only [handleWorkerEvent, handleReservationFailed, hpending, ne_eq,
    not_true_eq_false, if_false, hfails]

/-- A worker that got ready in time has its match, a late one is not used. -/
theorem hears_ready {service : LobbyService} (h : service.Invariant)
    {reservation : ReservationId} {action : ReserveMatchAction}
    (hpending : service.pendingReservations[reservation]? = some { action })
    (worker : WorkerId) (endpoint : GameEndpoint) (now : TimePoint) :
    (CanBegin action worker endpoint now ∧
      service.Hears now [.reservationReady reservation action.matchId worker endpoint]
        (Function.update service.reservedMatch reservation none)
        (Function.update service.matchWorker action.matchId (some worker))) ∨
    (¬CanBegin action worker endpoint now ∧
      service.Hears now [.reservationReady reservation action.matchId worker endpoint]
        (Function.update service.reservedMatch reservation none)
        service.matchWorker) := by
  by_cases hbegin : CanBegin action worker endpoint now
  · obtain ⟨room, hfound, result, hbegins, hactions⟩ :=
      handleReservationReady_begins h hpending hbegin
    have hchange : LobbyChange (.workerEvent (.reservationReady reservation
        action.matchId worker endpoint) now) service _ [] :=
      .begun reservation action room worker rfl hpending hfound
    have hhandled : service.handleWorkerEvent (.reservationReady reservation
        action.matchId worker endpoint) now =
        (service.enterMatch reservation action room worker, .ok result) := hbegins
    refine Or.inl ⟨hbegin, hears_one hhandled hactions {
      invariant := hchange.invariant h
      pending := reservedMatch_erase rfl
      active := ?_
      nextReservation := rfl
      nextMatch := rfl }⟩
    rw [matchWorker, enterMatch,
      entry_insertIfNew _ (h.matchmaking.inactive reservation _ hpending), project_update]
    rfl
  · obtain ⟨room, hfound, result, hfails, hactions⟩ :=
      failPendingReservation_releases h hpending .workerUnavailable
    refine Or.inr ⟨hbegin, hears_one ?_ hactions (heard_released h hpending hfound)⟩
    simp only [handleWorkerEvent, handleReservationReady, hpending, ne_eq,
      not_true_eq_false, if_false, if_pos (not_not.mp hbegin), hfails]

/-- The end of a match, whatever ended it. -/
def endEvent (unavailable : Bool) (worker : WorkerId) (matchId : MatchId) : WorkerEvent :=
  if unavailable then .matchUnavailable worker matchId else .matchFinished worker matchId

theorem handleWorkerEvent_end (service : LobbyService) (unavailable : Bool)
    (worker : WorkerId) (matchId : MatchId) (now : TimePoint) :
    service.handleWorkerEvent (endEvent unavailable worker matchId) now =
      service.finishActiveMatch worker matchId unavailable := by
  cases unavailable <;> rfl

theorem hears_end {service : LobbyService} (h : service.Invariant) (unavailable : Bool)
    (worker : WorkerId) (matchId : MatchId) (now : TimePoint) :
    service.Hears now [endEvent unavailable worker matchId] service.reservedMatch
      (if service.matchWorker matchId = some worker then
        Function.update service.matchWorker matchId none
      else service.matchWorker) := by
  split
  · rename_i hworker
    obtain ⟨record, hactive, rfl⟩ := matchWorker_eq_some.mp hworker
    obtain ⟨room, hfound, result, hcloses, hactions⟩ :=
      finishActiveMatch_closes h hactive unavailable
    have hchange : LobbyChange (.workerEvent (.matchFinished record.worker matchId) 0)
      service _ [] := .finished matchId record room rfl hactive hfound
    refine hears_one ((handleWorkerEvent_end ..).trans hcloses) hactions {
      invariant := hchange.invariant h
      pending := rfl
      active := ?_
      nextReservation := rfl
      nextMatch := rfl }
    rw [matchWorker, closeMatch, entry_erase, project_update]
    rfl
  · rename_i hworker
    have hunchanged : service.finishActiveMatch worker matchId unavailable =
        (service, .ok {}) := by
      unfold finishActiveMatch
      cases hactive : service.activeMatches[matchId]? with
      | none => rfl
      | some record =>
        have hne : record.worker ≠ worker := fun heq =>
          hworker (matchWorker_eq_some.mpr ⟨record, hactive, heq⟩)
        simp only [ne_eq, hne, not_false_eq_true, if_true]
    exact hears_one ((handleWorkerEvent_end ..).trans hunchanged) rfl (.refl h)

end LobbyService

end SurvivalArena
