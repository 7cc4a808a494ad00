import SurvivalArena.Lobby.RegistryChange

/-!
# Calls of the registry are changes

In a consistent registry the lookups that the source guards succeed, and every
call makes one of the changes.
-/

namespace SurvivalArena

open OrderedMap

namespace WorkerRegistry

variable {registry : WorkerRegistry}

theorem Consistent.connected (h : registry.Consistent) {worker : WorkerId}
    {connection : WorkerConnectionId} :
    registry.connections[connection]? = some worker ↔
      ∃ record, registry.workers[worker]? = some record ∧
        record.connection = connection := by
  refine (h.connections worker connection).symm.trans ?_
  rw [connectionOf, project, Option.bind_eq_some_iff]
  simp only [entry, Option.some.injEq]

theorem Consistent.tracked (h : registry.Consistent) {worker : WorkerId}
    {reservation : ReservationId} :
    registry.reservations[reservation]? = some worker ↔
      ∃ record, registry.workers[worker]? = some record ∧
        record.tracked = some reservation := by
  refine (h.reservations worker reservation).symm.trans ?_
  rw [trackedBy, project, Option.bind_eq_some_iff]
  rfl

/-- The connection of a stored worker maps to it. -/
theorem Consistent.connection (h : registry.Consistent) {worker : WorkerId}
    {record : WorkerRecord} (hfound : registry.workers[worker]? = some record) :
    registry.connections[record.connection]? = some worker :=
  h.connected.mpr ⟨record, hfound, rfl⟩

theorem tracked_reserved {record : WorkerRecord} {reservation : ReservationId}
    (hstate : record.state = .reserved) (hheld : record.reservation = some reservation) :
    record.tracked = some reservation := by
  rw [WorkerRecord.tracked, hstate]
  exact hheld

/-- A tracked reservation is the worker's own. -/
theorem reservation_of_tracked {record : WorkerRecord} {reservation : ReservationId}
    (h : record.tracked = some reservation) :
    record.reservation = some reservation ∧
      (record.state = .reserved ∨ record.state = .cancelling) := by
  unfold WorkerRecord.tracked at h
  split at h
  · exact ⟨h, Or.inl ‹_›⟩
  · exact ⟨h, Or.inr ‹_›⟩
  · cases h

/-! ## Lost workers -/

theorem disconnect_found (h : registry.Consistent) {worker : WorkerId}
    {record : WorkerRecord} (hfound : registry.workers[worker]? = some record) :
    registry.disconnect record.connection =
      (registry.removeWorker record.connection worker record,
        { accepted := true, events := lostEvents record }) := by
  rw [disconnect, h.connection hfound]
  simp only [hfound]

/-- A call is performed as one of the changes. -/
def Changes (registry : WorkerRegistry) (call : RegistryCall)
    (outcome : WorkerRegistry × WorkerRegistryResult) : Prop :=
  RegistryChange registry call outcome.1 outcome.2

theorem not_cancellable {call : RegistryCall} (h : call.cancels = false) :
    ¬call.Cancellable registry := by
  rintro ⟨reservation, matchId, now, worker, record, rfl, -⟩
  cases h

theorem changes_unchanged {call : RegistryCall} (hasked : call.requested = none)
    (hcancels : call.cancels = false) (accepted : Bool)
    (closed : List WorkerConnectionId) :
    registry.Changes call (registry, { accepted, closeConnections := closed }) :=
  .unchanged call accepted closed hasked (by rw [hcancels]; exact nofun)
    (not_cancellable hcancels)

theorem changes_violation (h : registry.Consistent) {call : RegistryCall}
    (hasked : call.requested = none) (hcancels : call.cancels = false)
    {worker : WorkerId} {record : WorkerRecord}
    (hfound : registry.workers[worker]? = some record) :
    registry.Changes call (registry.closeForProtocolViolation record.connection) := by
  rw [closeForProtocolViolation, disconnect_found h hfound]
  exact .lost call false [record.connection] worker record hfound hasked hcancels

theorem disconnect_changes (h : registry.Consistent)
    (connection : WorkerConnectionId) :
    registry.Changes (.disconnect connection) (registry.disconnect connection) := by
  cases hconnection : registry.connections[connection]? with
  | none =>
    rw [disconnect, hconnection]
    exact changes_unchanged rfl rfl false []
  | some worker =>
    obtain ⟨record, hfound, rfl⟩ := h.connected.mp hconnection
    rw [disconnect_found h hfound]
    exact .lost _ true [] worker record hfound rfl rfl

theorem timeout_changes (h : registry.Consistent) (reservation : ReservationId) :
    registry.Changes (.timeout reservation) (registry.timeout reservation) := by
  unfold timeout
  cases hreservation : registry.reservations[reservation]? with
  | none => exact changes_unchanged rfl rfl false []
  | some worker =>
    obtain ⟨record, hfound, -⟩ := h.tracked.mp hreservation
    simp only [hfound, disconnect_found h hfound]
    exact .lost _ true [record.connection] worker record hfound rfl rfl

/-! ## Registration and actions -/

theorem register_changes (h : registry.Consistent) (connection : WorkerConnectionId)
    (registration : WorkerRegister) :
    registry.Changes (.register connection registration)
      (registry.register connection registration) := by
  unfold register
  split
  · exact changes_unchanged rfl rfl false _
  · rename_i hvalid
    split
    · rename_i hconnection
      cases hfound : registry.connections[connection]? with
      | none =>
        rw [Std.ExtTreeMap.contains_eq_isSome_getElem?, hfound] at hconnection
        cases hconnection
      | some worker =>
        obtain ⟨record, hworker, rfl⟩ := h.connected.mp hfound
        exact changes_violation h rfl rfl hworker
    · rename_i hconnection
      split
      · exact changes_unchanged rfl rfl false _
      · rename_i hnew
        simp only [Bool.or_eq_true, not_or, Std.ExtTreeMap.contains_eq_isSome_getElem?,
          Bool.not_eq_true, Option.isSome_eq_false_iff, Option.isNone_iff_eq_none]
          at hconnection hnew
        exact .registered connection registration (by simpa using hvalid) hconnection
          hnew.1 hnew.2

theorem idleWorker_idle {worker : WorkerId} {record : WorkerRecord}
    (h : registry.idleWorker = some (worker, record)) :
    registry.workers[worker]? = some record ∧ record.state = .idle := by
  have hmem := List.mem_of_find?_eq_some h
  have hstate := List.find?_some h
  exact ⟨Std.ExtTreeMap.mem_toList_iff_getElem?_eq_some.mp hmem,
    of_decide_eq_true hstate⟩

theorem executeReserve_changes (action : ReserveMatchAction) (now : TimePoint) :
    registry.Changes (.execute (.reserve action) now)
      (registry.executeReserve action now) := by
  unfold executeReserve
  dsimp only
  split
  · exact .refused action now
  · rename_i hasked
    simp only [not_or, not_lt, Bool.not_eq_true, Std.ExtTreeMap.contains_eq_isSome_getElem?,
      Option.isSome_eq_false_iff, Option.isNone_iff_eq_none] at hasked
    obtain ⟨hnonzero, huntracked, hmany, hfew⟩ := hasked
    cases hidle : registry.idleWorker with
    | none => exact .refused action now
    | some found =>
      obtain ⟨worker, record⟩ := found
      obtain ⟨hfound, hstate⟩ := idleWorker_idle hidle
      dsimp only
      split
      · exact .refused action now
      · split
        · exact .refused action now
        · rename_i htimely
          exact .reserved action now worker record hnonzero ⟨hmany, hfew⟩ hfound hstate
            huntracked (not_le.mp htimely)

theorem executeCancel_changes (h : registry.Consistent) (reservation : ReservationId)
    (matchId : MatchId) (now : TimePoint) :
    registry.Changes (.execute (.cancel reservation matchId) now)
      (registry.executeCancel reservation matchId) := by
  unfold executeCancel
  cases htracked : registry.reservations[reservation]? with
  | none =>
    refine .unchanged _ false [] rfl (fun _ => rfl) ?_
    rintro ⟨other, _, _, worker, record, heq, hfound, hstate, hheld, -⟩
    cases heq
    have hworker := h.tracked.mpr ⟨record, hfound, tracked_reserved hstate hheld⟩
    rw [htracked] at hworker
    cases hworker
  | some worker =>
    obtain ⟨record, hfound, -⟩ := h.tracked.mp htracked
    simp only [hfound]
    split
    · rename_i hother
      refine .unchanged _ false [] rfl (fun _ => rfl) ?_
      rintro ⟨other, _, _, otherWorker, otherRecord, heq, hotherFound, hstate, hheld,
        hmatch⟩
      cases heq
      have hworker := h.tracked.mpr
        ⟨otherRecord, hotherFound, tracked_reserved hstate hheld⟩
      obtain rfl := Option.some.inj (htracked.symm.trans hworker)
      obtain rfl := Option.some.inj (hfound.symm.trans hotherFound)
      exact hother.elim (absurd hstate) (Or.rec (absurd hheld) (absurd hmatch))
    · rename_i hours
      simp only [not_or, not_not] at hours
      exact .cancelling reservation matchId now worker record hfound hours.1 hours.2.1
        hours.2.2

/-! ## Messages of workers -/

section Messages

variable {worker : WorkerId} {record : WorkerRecord}

theorem receiveReady_changes (h : registry.Consistent)
    (hfound : registry.workers[worker]? = some record) (reservation : ReservationId)
    (matchId : MatchId) :
    registry.Changes (.receive record.connection (.ready reservation matchId))
      (registry.receiveReady record.connection worker record reservation matchId) := by
  unfold receiveReady
  dsimp only
  split
  · rename_i hstate
    split
    · exact changes_violation h rfl rfl hfound
    · rename_i hours
      obtain ⟨hheld, hmatch⟩ := not_not.mp hours
      rw [(h.records worker record hfound).key]
      exact .readied reservation matchId worker record hfound hstate hheld hmatch
  · exact changes_unchanged rfl rfl true []
  · split
    · exact changes_unchanged rfl rfl true []
    · exact changes_violation h rfl rfl hfound

theorem receiveRejected_changes (h : registry.Consistent)
    (hfound : registry.workers[worker]? = some record) (reservation : ReservationId)
    (matchId : MatchId) (reason : WorkerReservationReject) :
    registry.Changes (.receive record.connection (.rejected reservation matchId reason))
      (registry.receiveRejected record.connection worker record reservation
        matchId) := by
  unfold receiveRejected
  dsimp only
  split
  · rename_i hstate
    split
    · exact changes_violation h rfl rfl hfound
    · rename_i hours
      obtain ⟨hheld, hmatch⟩ := not_not.mp hours
      exact .rejected reservation matchId reason worker record hfound hstate hheld hmatch
  · exact changes_unchanged rfl rfl true []
  · split
    · exact changes_unchanged rfl rfl true []
    · exact changes_violation h rfl rfl hfound

theorem receiveCancelled_changes (h : registry.Consistent)
    (hfound : registry.workers[worker]? = some record) (reservation : ReservationId)
    (matchId : MatchId) :
    registry.Changes (.receive record.connection (.cancelled reservation matchId))
      (registry.receiveCancelled record.connection worker record reservation
        matchId) := by
  unfold receiveCancelled
  split
  · rename_i hstate
    split
    · rename_i hours
      exact .cancelled reservation matchId worker record hfound hstate hours.1 hours.2
    · exact changes_violation h rfl rfl hfound
  · exact changes_violation h rfl rfl hfound
  · exact changes_unchanged rfl rfl true []

theorem receiveFinished_changes (h : registry.Consistent)
    (hfound : registry.workers[worker]? = some record) (finish : MatchFinished) :
    registry.Changes (.receive record.connection (.finished finish))
      (registry.receiveFinished record.connection worker record finish.matchId) := by
  have hrecord := h.records worker record hfound
  unfold receiveFinished
  split
  · rename_i hstate
    split
    · rename_i hmatch
      have hsome : record.reservation.isSome = true := by
        rw [hrecord.reservation, hstate]
        rfl
      obtain ⟨reservation, hheld⟩ := Option.isSome_iff_exists.mp hsome
      rw [hrecord.key]
      exact .finished finish reservation worker record hfound hstate hheld hmatch
    · exact changes_violation h rfl rfl hfound
  · exact changes_unchanged rfl rfl true []
  · exact changes_violation h rfl rfl hfound

theorem receive_changes (h : registry.Consistent) (connection : WorkerConnectionId)
    (message : WorkerToLobbyMessage) :
    registry.Changes (.receive connection message)
      (registry.receive connection message) := by
  unfold receive
  cases hconnection : registry.connections[connection]? with
  | none => exact changes_unchanged rfl rfl false _
  | some worker =>
    obtain ⟨record, hfound, rfl⟩ := h.connected.mp hconnection
    simp only [hfound]
    cases message with
    | register registration => exact changes_violation h rfl rfl hfound
    | ready reservation matchId => exact receiveReady_changes h hfound _ _
    | rejected reservation matchId reason => exact receiveRejected_changes h hfound _ _ _
    | cancelled reservation matchId => exact receiveCancelled_changes h hfound _ _
    | finished finish => exact receiveFinished_changes h hfound finish

end Messages

/-- Every call makes one change. -/
theorem call_changes (h : registry.Consistent) (call : RegistryCall) :
    RegistryChange registry call (registry.call call).1 (registry.call call).2 := by
  cases call with
  | register connection registration => exact register_changes h _ _
  | execute action now =>
    cases action with
    | reserve action => exact executeReserve_changes action now
    | cancel reservation matchId => exact executeCancel_changes h _ _ now
  | receive connection message => exact receive_changes h _ _
  | disconnect connection => exact disconnect_changes h _
  | timeout reservation => exact timeout_changes h _

end WorkerRegistry

end SurvivalArena
