import SurvivalArena.Lobby.Dispatch

/-!
# Every event keeps the lobby and its workers in agreement

What the registry tells of a worker is just what the lobby has to change, and what
the lobby asks for is just what the registry does.
-/

namespace SurvivalArena

open Assignment Counter OrderedMap

/-! ## The registry's side -/

namespace WorkerRecord

variable {record : WorkerRecord} {reservation : ReservationId} {matchId : MatchId}

theorem assignment_eq_reserved :
    record.assignment = .reserved reservation matchId ↔
      record.state = .reserved ∧ record.reservation = some reservation ∧
        record.matchId = some matchId := by
  unfold assignment
  split <;> simp_all

theorem assignment_eq_cancelling :
    record.assignment = .cancelling reservation matchId ↔
      record.state = .cancelling ∧ record.reservation = some reservation ∧
        record.matchId = some matchId := by
  unfold assignment
  split <;> simp_all

theorem assignment_eq_active :
    record.assignment = .active reservation matchId ↔
      record.state = .active ∧ record.reservation = some reservation ∧
        record.matchId = some matchId := by
  unfold assignment
  split <;> simp_all

theorem assignment_of_idle (h : record.state = .idle) : record.assignment = .idle := by
  unfold assignment
  rw [h]

/-- The task of an assignment is the match that the record names. -/
theorem matchId_of_task (h : record.assignment.task = some matchId) :
    record.matchId = some matchId := by
  unfold assignment at h
  split at h
  all_goals simp_all [task]

end WorkerRecord

namespace WorkerRegistry

variable {registry after : WorkerRegistry} {worker : WorkerId} {record : WorkerRecord}

theorem assignments_found (hfound : registry.workers[worker]? = some record) :
    registry.assignments worker = some record.assignment := by
  rw [assignments, project, entry_found hfound, Option.bind_some]

theorem assignments_eq_some {assignment : Assignment ReservationId MatchId} :
    registry.assignments worker = some assignment ↔
      ∃ record, registry.workers[worker]? = some record ∧
        record.assignment = assignment := by
  rw [assignments, project, Option.bind_eq_some_iff]
  simp only [entry, Option.some.injEq]

theorem assignments_insert {new : WorkerRecord}
    (hworkers : after.workers = registry.workers.insert worker new) :
    after.assignments =
      Function.update registry.assignments worker (some new.assignment) := by
  rw [assignments, hworkers, entry_insert, project_update]
  rfl

theorem assignments_erase (hworkers : after.workers = registry.workers.erase worker) :
    after.assignments = Function.update registry.assignments worker none := by
  rw [assignments, hworkers, entry_erase, project_update]
  rfl

end WorkerRegistry

/-- Where a registered worker hosts its matches. -/
def WorkerRegister.gameEndpoint (registration : WorkerRegister) : GameEndpoint where
  host := registration.advertisedHost
  tcpPort := registration.gameTcpPort
  udpPort := registration.gameUdpPort

namespace LobbyServer

open WorkerRegistry
open LobbyService (remainingSeconds CanBegin)

section UsedIds

variable {service : LobbyService} {registry after : WorkerRegistry} {worker : WorkerId}
  {record : WorkerRecord}

theorem UsedIds.mono {later : LobbyService} (h : UsedIds service registry)
    (hreservations : ∀ id, Used service.nextReservation id → Used later.nextReservation id)
    (hmatches : ∀ id, Used service.nextMatch id → Used later.nextMatch id) :
    UsedIds later registry where
  reservations := fun worker record reservation hfound hheld =>
    hreservations _ (h.reservations worker record reservation hfound hheld)
  matches_ := fun worker record matchId hfound hmatch =>
    hmatches _ (h.matches_ worker record matchId hfound hmatch)

theorem UsedIds.insert (h : UsedIds service registry) {new : WorkerRecord}
    (hworkers : after.workers = registry.workers.insert worker new)
    (hreservation : ∀ reservation, new.reservation = some reservation →
      Used service.nextReservation reservation.value)
    (hmatch : ∀ matchId, new.matchId = some matchId →
      Used service.nextMatch matchId.value) : UsedIds service after where
  reservations := by
    intro other otherRecord reservation hother
    rw [hworkers, getElem?_insert] at hother
    split at hother
    · obtain rfl := Option.some.inj hother
      exact hreservation reservation
    · exact h.reservations other otherRecord reservation hother
  matches_ := by
    intro other otherRecord matchId hother
    rw [hworkers, getElem?_insert] at hother
    split at hother
    · obtain rfl := Option.some.inj hother
      exact hmatch matchId
    · exact h.matches_ other otherRecord matchId hother

/-- A worker keeps the ids that it was given. -/
theorem UsedIds.kept (h : UsedIds service registry)
    (hfound : registry.workers[worker]? = some record) {new : WorkerRecord}
    (hworkers : after.workers = registry.workers.insert worker new)
    (hreservation : new.reservation = record.reservation)
    (hmatch : new.matchId = record.matchId) : UsedIds service after :=
  h.insert hworkers
    (fun reservation hheld => h.reservations worker record reservation hfound
      (hreservation ▸ hheld))
    (fun matchId hmatched => h.matches_ worker record matchId hfound
      (hmatch ▸ hmatched))

theorem UsedIds.erase (h : UsedIds service registry)
    (hworkers : after.workers = registry.workers.erase worker) :
    UsedIds service after where
  reservations := by
    intro other otherRecord reservation hother
    rw [hworkers, getElem?_erase] at hother
    split at hother
    · cases hother
    · exact h.reservations other otherRecord reservation hother
  matches_ := by
    intro other otherRecord matchId hother
    rw [hworkers, getElem?_erase] at hother
    split at hother
    · cases hother
    · exact h.matches_ other otherRecord matchId hother

end UsedIds

/-! ## What the registry tells -/

/-- What a worker's release is told as, with its match finished or not available. -/
def releaseEvents (unavailable : Bool) (worker : WorkerId) :
    Assignment ReservationId MatchId → List WorkerEvent
  | .reserved reservation matchId => [.reservationFailed reservation matchId]
  | .active _ matchId => [LobbyService.endEvent unavailable worker matchId]
  | _ => []

theorem lostEvents_eq {worker : WorkerId} {record : WorkerRecord}
    (h : record.WellFormed worker) :
    lostEvents record = releaseEvents true worker record.assignment := by
  have hreservation := h.reservation
  unfold lostEvents WorkerRecord.assignment
  rw [h.key]
  cases hstate : record.state with
  | idle => rfl
  | cancelling => cases record.reservation <;> cases record.matchId <;> rfl
  | reserved => cases record.reservation <;> cases record.matchId <;> rfl
  | active =>
    rw [hstate] at hreservation
    obtain ⟨reservation, hheld⟩ := Option.isSome_iff_exists.mp hreservation
    rw [hheld]
    cases record.matchId <;> rfl

/-- The lobby hears of a release and closes what the worker was assigned to. -/
theorem hears_release {service : LobbyService} {registry : WorkerRegistry}
    (h : Agree service registry) {worker : WorkerId}
    {assignment : Assignment ReservationId MatchId}
    (hassigned : registry.assignments worker = some assignment) (unavailable : Bool)
    (now : TimePoint) :
    service.Hears now (releaseEvents unavailable worker assignment)
      (assignment.released service.reservedMatch)
      (assignment.closed service.matchWorker worker) := by
  cases assignment with
  | idle => exact LobbyService.hears_nil h.lobby now
  | cancelling reservation matchId => exact LobbyService.hears_nil h.lobby now
  | reserved reservation matchId =>
    have hreserved := (h.linked.pending reservation matchId).mpr ⟨worker, hassigned⟩
    exact LobbyService.hears_failed h.lobby hreserved now
  | active reservation matchId => exact LobbyService.hears_end h.lobby unavailable _ _ now

/-! ## Routing -/

/-- The lobby handles the events, asks for nothing and agrees with the registry; then
it knows just the given matches to be under way. -/
def Settles (service : LobbyService) (registry : WorkerRegistry) (now : TimePoint)
    (events : List WorkerEvent) (active : MatchId → Option WorkerId) : Prop :=
  ∃ after outbound, service.handleEvents now events = (after, .ok { outbound }) ∧
    Agree after registry ∧ after.matchWorker = active

theorem settles_of_hears {service : LobbyService} {registry : WorkerRegistry}
    {now : TimePoint} {events : List WorkerEvent}
    {pending : ReservationId → Option MatchId} {active : MatchId → Option WorkerId}
    (hhears : service.Hears now events pending active) (hworkers : registry.Consistent)
    (hlinked : Linked pending active registry.assignments)
    (hused : UsedIds service registry) :
    Settles service registry now events active := by
  obtain ⟨after, outbound, hhandled, hheard⟩ := hhears
  refine ⟨after, outbound, hhandled, ?_, hheard.active⟩
  refine ⟨hheard.invariant, hworkers, ?_, hused.mono ?_ ?_⟩
  · rw [hheard.pending, hheard.active]
    exact hlinked
  · intro id hid
    rw [hheard.nextReservation]
    exact hid
  · intro id hid
    rw [hheard.nextMatch]
    exact hid

/-- No worker is forgotten that was not before. -/
def Remembers (service : LobbyService) (registry after : WorkerRegistry)
    (active : MatchId → Option WorkerId) : Prop :=
  ∀ worker reservation matchId,
    Forgotten active after.assignments worker reservation matchId →
    Forgotten service.matchWorker registry.assignments worker reservation matchId

section Control

variable {service : LobbyService} {registry : WorkerRegistry} {worker : WorkerId}
  {record : WorkerRecord}

theorem settles_unchanged (h : Agree service registry) (now : TimePoint) :
    Settles service registry now [] service.matchWorker :=
  settles_of_hears (LobbyService.hears_nil h.lobby now) h.workers h.linked h.used

/-- A worker that is told to have let go of its assignment. -/
theorem settles_release (h : Agree service registry)
    (hfound : registry.workers[worker]? = some record) (unavailable : Bool)
    (now : TimePoint) {after : WorkerRegistry} (hworkers : after.Consistent)
    {new : Option (Assignment ReservationId MatchId)}
    (hnew : new.bind Assignment.task = none)
    (hassignments : after.assignments = Function.update registry.assignments worker new)
    (hused : UsedIds service after) :
    ∃ active, Settles service after now
      (releaseEvents unavailable worker record.assignment) active ∧
      Remembers service registry after active := by
  have hassigned := assignments_found hfound
  refine ⟨_, settles_of_hears (hears_release h hassigned unavailable now) hworkers ?_
    hused, ?_⟩
  · rw [hassignments]
    exact h.linked.release hassigned hnew
  · intro other reservation matchId hforgotten
    rw [hassignments] at hforgotten
    exact forgotten_release hnew hforgotten

theorem settles_cleared (h : Agree service registry)
    (hfound : registry.workers[worker]? = some record) (unavailable : Bool)
    (now : TimePoint) :
    ∃ active, Settles service (registry.clearReservation worker record) now
      (releaseEvents unavailable worker record.assignment) active ∧
      Remembers service registry (registry.clearReservation worker record) active := by
  refine settles_release h hfound unavailable now (h.workers.clearReservation hfound)
    rfl (assignments_insert rfl) (h.used.insert rfl ?_ ?_)
  · exact nofun
  · exact nofun

theorem settles_removed (h : Agree service registry)
    (hfound : registry.workers[worker]? = some record) (now : TimePoint) :
    ∃ active, Settles service
      (registry.removeWorker record.connection worker record) now
      (lostEvents record) active ∧
      Remembers service registry
        (registry.removeWorker record.connection worker record) active := by
  rw [lostEvents_eq (h.workers.records worker record hfound)]
  exact settles_release h hfound true now (h.workers.removeWorker hfound) rfl
    (assignments_erase rfl) (h.used.erase rfl)

/-- A new worker has nothing to do. -/
theorem settles_registered (h : Agree service registry) {registration : WorkerRegister}
    (hworker : registry.workers[registration.worker]? = none) (now : TimePoint)
    {after : WorkerRegistry} (hworkers : after.Consistent) (hnew : after.workers =
      registry.workers.insert registration.worker record)
    (hidle : record.state = .idle) (hreservation : record.reservation = none)
    (hmatch : record.matchId = none) :
    Settles service after now [] service.matchWorker ∧
      Remembers service registry after service.matchWorker := by
  have hassignments := assignments_insert hnew
  rw [WorkerRecord.assignment_of_idle hidle] at hassignments
  have hnone : registry.assignments registration.worker = none := by
    rw [assignments, project, entry, hworker, Option.bind_none]
  constructor
  · refine settles_of_hears (LobbyService.hears_nil h.lobby now) hworkers ?_ ?_
    · rw [hassignments]
      refine h.linked.reassign hnone ?_ ?_ ?_
      · simp
      · intro task other hactive
        refine Or.inl ⟨hactive, fun held hassigned => ?_⟩
        cases hassigned
      · rintro assignment task heq htask
        obtain rfl := Option.some.inj heq
        cases htask
    · refine h.used.insert hnew ?_ ?_
      · rw [hreservation]
        intro held hheld
        cases hheld
      · rw [hmatch]
        intro held hheld
        cases hheld
  · intro other reservation matchId hforgotten
    rw [hassignments] at hforgotten
    rcases forgotten_reassign (fun _ _ _ hactive => hactive) hforgotten with hbefore |
      ⟨-, heq⟩
    · exact hbefore
    · cases heq

/-- A worker got ready when less than a second of the tickets' lifetime was left. -/
def LateReady (service : LobbyService) (registry : WorkerRegistry) (call : RegistryCall)
    (now : TimePoint) (worker : WorkerId) (reservation : ReservationId)
    (matchId : MatchId) : Prop :=
  ∃ (record : WorkerRecord) (action : ReserveMatchAction),
    call = .receive record.connection (.ready reservation matchId) ∧
      registry.workers[worker]? = some record ∧
      service.pendingReservations[reservation]? = some { action } ∧
      action.matchId = matchId ∧ remainingSeconds action now < 1

/-- A registered worker can begin a match while there is time. -/
theorem canBegin_of_wellFormed (hrecord : record.WellFormed worker)
    {action : ReserveMatchAction} {now : TimePoint}
    (htime : ¬remainingSeconds action now < 1) :
    CanBegin action worker record.registration.gameEndpoint now := by
  have hvalid := hrecord.valid
  simp only [isValidRegistration, isVisibleAsciiHost, Bool.and_eq_true, bne_iff_ne,
    ne_eq, hrecord.key] at hvalid
  obtain ⟨⟨⟨⟨⟨-, hworker⟩, ⟨hhost, hlength⟩, hascii⟩, htcp⟩, hudp⟩, -⟩ := hvalid
  simp [CanBegin, GameEndpoint.isValid, WorkerRegister.gameEndpoint, hworker, hhost,
    of_decide_eq_true hlength, hascii,
    htcp, hudp, htime]

theorem settles_readied (h : Agree service registry)
    (hfound : registry.workers[worker]? = some record) {reservation : ReservationId}
    {matchId : MatchId} (hassignment : record.assignment = .reserved reservation matchId)
    (now : TimePoint) {after : WorkerRegistry} (hworkers : after.Consistent)
    (hnew : after.workers = registry.workers.insert worker { record with state := .active }) :
    ∃ active, Settles service after now [.reservationReady reservation matchId worker
        record.registration.gameEndpoint] active ∧
      ∀ (other : WorkerId) (otherReservation : ReservationId) (otherMatch : MatchId),
        Forgotten active after.assignments other otherReservation otherMatch →
        Forgotten service.matchWorker registry.assignments other otherReservation
          otherMatch ∨
        LateReady service registry (.receive record.connection (.ready reservation matchId))
            now other otherReservation otherMatch := by
  obtain ⟨-, hheld, hmatched⟩ := WorkerRecord.assignment_eq_reserved.mp hassignment
  have hassigned := assignments_found hfound
  rw [hassignment] at hassigned
  have hactive : ({ record with state := .active } : WorkerRecord).assignment =
      .active reservation matchId :=
    WorkerRecord.assignment_eq_active.mpr ⟨rfl, hheld, hmatched⟩
  have hassignments := assignments_insert hnew
  rw [hactive] at hassignments
  have hreserved := (h.linked.pending reservation matchId).mpr ⟨worker, hassigned⟩
  obtain ⟨action, hpending, rfl⟩ := LobbyService.reservedMatch_eq_some.mp hreserved
  have hused := h.used.kept hfound hnew rfl rfl
  -- The worker takes on the match; the lobby may know of it or not.
  have hlinked : ∀ active : MatchId → Option WorkerId,
      (∀ task other, active task = some other → service.matchWorker task = some other ∨
        other = worker ∧ task = action.matchId) →
      Linked (Function.update service.reservedMatch reservation none) active
        after.assignments := by
    intro active hactive
    rw [hassignments]
    refine h.linked.reassign hassigned ?_ ?_ ?_
    · intro request task
      rw [Function.update_apply]
      split
      · rename_i heq
        subst heq
        rw [hreserved]
        simp
      · rename_i hne
        simp [Ne.symm hne]
    · intro task other hother
      rcases hactive task other hother with hbefore | ⟨rfl, rfl⟩
      · exact Or.inl ⟨hbefore, nofun⟩
      · exact Or.inr ⟨rfl, reservation, rfl⟩
    · intro assignment task heq htask
      obtain rfl := Option.some.inj heq
      exact Or.inl htask
  by_cases htime : remainingSeconds action now < 1
  · have hlate : ¬CanBegin action worker {
        host := record.registration.advertisedHost
        tcpPort := record.registration.gameTcpPort
        udpPort := record.registration.gameUdpPort } now := by
      rw [CanBegin, not_not]
      exact Or.inr (Or.inr htime)
    rcases LobbyService.hears_ready h.lobby hpending worker _ now with ⟨hbegin, -⟩ |
      ⟨-, hhears⟩
    · exact absurd hbegin hlate
    refine ⟨_, settles_of_hears hhears hworkers
      (hlinked _ fun _ _ hactive => Or.inl hactive) hused, ?_⟩
    intro other otherReservation otherMatch hforgotten
    rw [hassignments] at hforgotten
    rcases forgotten_reassign (fun _ _ _ hactive => hactive) hforgotten with hbefore |
      ⟨rfl, heq⟩
    · exact Or.inl hbefore
    · cases heq
      exact Or.inr ⟨record, action, rfl, hfound, hpending, rfl, htime⟩
  · have hbegins := canBegin_of_wellFormed (h.workers.records worker record hfound) htime
    rcases LobbyService.hears_ready h.lobby hpending worker _ now with ⟨-, hhears⟩ |
      ⟨hlate, -⟩
    · refine ⟨_, settles_of_hears hhears hworkers (hlinked _ ?_) hused, ?_⟩
      · intro task other hactive
        rw [Function.update_apply] at hactive
        split at hactive
        · rename_i heq
          exact Or.inr ⟨(Option.some.inj hactive).symm, heq⟩
        · exact Or.inl hactive
      · intro other otherReservation otherMatch hforgotten
        rw [hassignments] at hforgotten
        have hkept : ∀ task known, known ≠ worker →
            service.matchWorker task = some known →
            Function.update service.matchWorker action.matchId (some worker) task =
              some known := by
          intro task known hne hactive
          rw [Function.update_of_ne, hactive]
          rintro rfl
          obtain ⟨request, hother⟩ := h.linked.active _ known hactive
          exact hne (h.linked.distinct known worker _ _ action.matchId hother hassigned
            rfl rfl)
        rcases forgotten_reassign hkept hforgotten with hbefore | ⟨rfl, heq⟩
        · exact Or.inl hbefore
        · cases heq
          exact absurd (Function.update_self ..) hforgotten.2
    · exact absurd hbegins hlate

/-- Whatever a worker's connection or timer does, the lobby hears of it. -/
theorem control_settles (h : Agree service registry) {call : RegistryCall}
    {after : WorkerRegistry} {result : WorkerRegistryResult}
    (hchange : RegistryChange registry call after result)
    (hworkers : after.Consistent) (hasked : call.requested = none)
    (hcancels : call.cancels = false) (now : TimePoint) :
    ∃ active, Settles service after now result.events active ∧
      ∀ (worker : WorkerId) (reservation : ReservationId) (matchId : MatchId),
        Forgotten active after.assignments worker reservation matchId →
        Forgotten service.matchWorker registry.assignments worker reservation matchId ∨
          LateReady service registry call now worker reservation matchId := by
  have remembered : ∀ {events : List WorkerEvent},
      (∃ active, Settles service after now events active ∧
        Remembers service registry after active) →
      ∃ active, Settles service after now events active ∧
        ∀ (worker : WorkerId) (reservation : ReservationId) (matchId : MatchId),
          Forgotten active after.assignments worker reservation matchId →
          Forgotten service.matchWorker registry.assignments worker reservation matchId ∨
            LateReady service registry call now worker reservation matchId := by
    rintro events ⟨active, hsettles, hremembers⟩
    exact ⟨active, hsettles, fun worker reservation matchId hforgotten =>
      Or.inl (hremembers worker reservation matchId hforgotten)⟩
  cases hchange with
  | unchanged call accepted closed =>
    exact remembered ⟨_, settles_unchanged h now, fun _ _ _ hforgotten => hforgotten⟩
  | refused action => cases hasked
  | reserved action => cases hasked
  | cancelling reservation matchId => cases hcancels
  | registered connection registration hvalid hconnection hworker hendpoint =>
    exact remembered ⟨_, settles_registered h hworker now hworkers rfl rfl rfl rfl⟩
  | readied reservation matchId worker record hfound hreserved hheld hmatched =>
    have hassignment := WorkerRecord.assignment_eq_reserved.mpr ⟨hreserved, hheld, hmatched⟩
    exact settles_readied h hfound hassignment now hworkers rfl
  | rejected reservation matchId reason worker record hfound hreserved hheld hmatched =>
    have hassignment := WorkerRecord.assignment_eq_reserved.mpr ⟨hreserved, hheld, hmatched⟩
    have hcleared := settles_cleared h hfound true now
    rw [hassignment] at hcleared
    exact remembered hcleared
  | cancelled reservation matchId worker record hfound hcancelling hheld hmatched =>
    have hassignment :=
      WorkerRecord.assignment_eq_cancelling.mpr ⟨hcancelling, hheld, hmatched⟩
    have hcleared := settles_cleared h hfound true now
    rw [hassignment] at hcleared
    exact remembered hcleared
  | finished finish reservation worker record hfound hactive hheld hmatched =>
    have hassignment := WorkerRecord.assignment_eq_active.mpr ⟨hactive, hheld, hmatched⟩
    have hcleared := settles_cleared h hfound false now
    rw [hassignment] at hcleared
    exact remembered hcleared
  | lost call accepted closed worker record hfound =>
    exact remembered (settles_removed h hfound now)

end Control

end LobbyServer

end SurvivalArena
