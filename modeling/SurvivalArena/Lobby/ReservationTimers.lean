import SurvivalArena.Lobby.RegistryRun
import SurvivalArena.Lobby.WorkerControlServer

/-!
# Every pending reservation has a timer

The server's timers follow the registry: a reservation that a worker is reserved or
cancelling for has an armed timer that belongs to the worker's connection, as long as no
worker confirms the cancellation of a reservation that is another's.
-/

namespace SurvivalArena

open OrderedMap

/-! ## Timers -/

namespace ReservationTimers

/-- Every timer that is waited for is armed, and none is waited for twice. -/
structure Armed (timers : ReservationTimers) : Prop where
  scheduled : ∀ (reservation : ReservationId) (entry : TimerEntry),
    timers.entries[reservation]? = some entry → entry.timer < timers.scheduled
  live : ∀ (reservation : ReservationId) (entry : TimerEntry),
    timers.entries[reservation]? = some entry → entry.timer ∉ timers.cancelled
  issued : ∀ timer ∈ timers.cancelled, timer < timers.scheduled
  distinct : ∀ (first second : ReservationId) (a b : TimerEntry),
    timers.entries[first]? = some a → timers.entries[second]? = some b →
      a.timer = b.timer → first = second

theorem armed_empty : ({} : ReservationTimers).Armed where
  scheduled := by simp
  live := by simp
  issued := nofun
  distinct := by simp

theorem cancelTimer_entries (timers : ReservationTimers) (reservation other : ReservationId) :
    (timers.cancelTimer reservation).entries[other]? =
      if other = reservation then none else timers.entries[other]? := by
  unfold cancelTimer
  cases hfound : timers.entries[reservation]? with
  | none =>
    by_cases hother : other = reservation
    · rw [if_pos hother, hother]
      exact hfound
    · rw [if_neg hother]
  | some entry => exact getElem?_erase timers.entries reservation other

/-- Fewer entries, and the timers of those that are gone among the cancelled ones. -/
theorem Armed.fewer {timers : ReservationTimers} (h : timers.Armed)
    {entries : Std.ExtTreeMap ReservationId TimerEntry} {cancelled : List Nat}
    (hentries : ∀ (reservation : ReservationId) (entry : TimerEntry),
      entries[reservation]? = some entry → timers.entries[reservation]? = some entry)
    (hcancelled : ∀ timer ∈ cancelled, timer ∈ timers.cancelled ∨
      ∃ (reservation : ReservationId) (entry : TimerEntry),
        timers.entries[reservation]? = some entry ∧ entries[reservation]? = none ∧
          entry.timer = timer) :
    ({ timers with entries, cancelled } : ReservationTimers).Armed where
  scheduled := fun reservation entry hentry =>
    h.scheduled reservation entry (hentries reservation entry hentry)
  live := by
    intro reservation entry hentry hmem
    have hbefore := hentries reservation entry hentry
    rcases hcancelled entry.timer hmem with hold | ⟨other, gone, hother, hnone, hsame⟩
    · exact h.live reservation entry hbefore hold
    · obtain rfl := h.distinct other reservation gone entry hother hbefore hsame
      dsimp only at hentry
      rw [hnone] at hentry
      cases hentry
  issued := by
    intro timer hmem
    rcases hcancelled timer hmem with hold | ⟨other, gone, hother, -, rfl⟩
    · exact h.issued timer hold
    · exact h.scheduled other gone hother
  distinct := fun first second a b ha hb =>
    h.distinct first second a b (hentries first a ha) (hentries second b hb)

theorem Armed.erase {timers : ReservationTimers} (h : timers.Armed)
    (reservation : ReservationId) :
    ({ timers with entries := timers.entries.erase reservation } : ReservationTimers).Armed := by
  refine h.fewer (fun other entry hentry => ?_) fun timer hmem => Or.inl hmem
  rw [getElem?_erase] at hentry
  split at hentry
  · cases hentry
  · exact hentry

theorem Armed.cancelTimer {timers : ReservationTimers} (h : timers.Armed)
    (reservation : ReservationId) : (timers.cancelTimer reservation).Armed := by
  unfold ReservationTimers.cancelTimer
  cases hfound : timers.entries[reservation]? with
  | none => exact h
  | some entry =>
    refine h.fewer (fun other found hentry => ?_) fun timer hmem => ?_
    · rw [getElem?_erase] at hentry
      split at hentry
      · cases hentry
      · exact hentry
    · rcases List.mem_cons.mp hmem with rfl | hold
      · refine Or.inr ⟨reservation, entry, hfound, ?_, rfl⟩
        rw [getElem?_erase, if_pos rfl]
      · exact Or.inl hold

theorem cancelTimersFor_entries (timers : ReservationTimers) (owner : WorkerConnectionId)
    (reservation : ReservationId) :
    (timers.cancelTimersFor owner).entries[reservation]? =
      timers.entries[reservation]?.filter fun entry => entry.owner != owner :=
  Std.ExtTreeMap.getElem?_filter'

theorem Armed.cancelTimersFor {timers : ReservationTimers} (h : timers.Armed)
    (owner : WorkerConnectionId) : (timers.cancelTimersFor owner).Armed := by
  refine h.fewer (fun reservation entry hentry => ?_) fun timer hmem => ?_
  · rw [Std.ExtTreeMap.getElem?_filter', Option.filter_eq_some_iff] at hentry
    exact hentry.1
  · rcases List.mem_append.mp hmem with hgone | hold
    · obtain ⟨⟨reservation, entry⟩, hfiltered, rfl⟩ := List.mem_map.mp hgone
      obtain ⟨hentry, howner⟩ := List.mem_filter.mp hfiltered
      rw [Std.ExtTreeMap.mem_toList_iff_getElem?_eq_some] at hentry
      refine Or.inr ⟨reservation, entry, hentry, ?_, rfl⟩
      rw [Std.ExtTreeMap.getElem?_filter', hentry, Option.filter_some, if_neg]
      simpa using howner
    · exact Or.inl hold

theorem scheduleTimer_entries (timers : ReservationTimers)
    (directive : ReservationTimerDirective) (owner : WorkerConnectionId)
    (other : ReservationId) :
    (timers.scheduleTimer directive owner).entries[other]? =
      if other = directive.reservation then
        some {
          timer := (timers.cancelTimer directive.reservation).scheduled
          owner
          kind := directive.kind }
      else timers.entries[other]? := by
  rw [scheduleTimer, getElem?_insert, cancelTimer_entries]
  split <;> rfl

theorem Armed.scheduleTimer {timers : ReservationTimers} (h : timers.Armed)
    (directive : ReservationTimerDirective) (owner : WorkerConnectionId) :
    (timers.scheduleTimer directive owner).Armed := by
  have hcancel := h.cancelTimer directive.reservation
  unfold ReservationTimers.scheduleTimer
  generalize timers.cancelTimer directive.reservation = cancelled at hcancel
  exact {
    scheduled := by
      intro reservation entry hentry
      rw [getElem?_insert] at hentry
      split at hentry
      · obtain rfl := Option.some.inj hentry
        exact Nat.lt_succ_self _
      · exact Nat.lt_succ_of_lt (hcancel.scheduled reservation entry hentry)
    live := by
      intro reservation entry hentry hmem
      rw [getElem?_insert] at hentry
      split at hentry
      · obtain rfl := Option.some.inj hentry
        exact lt_irrefl _ (hcancel.issued _ hmem)
      · exact hcancel.live reservation entry hentry hmem
    issued := fun timer hmem => Nat.lt_succ_of_lt (hcancel.issued timer hmem)
    distinct := by
      intro first second a b ha hb hsame
      rw [getElem?_insert] at ha hb
      split at ha <;> split at hb
      · exact ‹first = _›.trans ‹second = _›.symm
      · obtain rfl := Option.some.inj ha
        exact absurd hsame (hcancel.scheduled second b hb).ne'
      · obtain rfl := Option.some.inj hb
        exact absurd hsame (hcancel.scheduled first a ha).ne
      · exact hcancel.distinct first second a b ha hb hsame }

theorem Armed.settle {timers : ReservationTimers} (h : timers.Armed)
    (events : List WorkerEvent) : (timers.settle events).Armed := by
  unfold ReservationTimers.settle
  generalize events.filterMap eventReservation = reservations
  induction reservations generalizing timers with
  | nil => exact h
  | cons reservation reservations ih => exact ih (h.cancelTimer reservation)

theorem Armed.schedule {timers : ReservationTimers} (h : timers.Armed)
    (result : WorkerRegistryResult) : (timers.schedule result).Armed := by
  unfold ReservationTimers.schedule
  generalize result.timers = directives
  induction directives generalizing timers with
  | nil => exact h
  | cons directive directives ih =>
    refine ih ?_
    dsimp only
    cases timerRecipient result directive.reservation with
    | none => exact h
    | some owner => exact h.scheduleTimer directive owner

theorem schedule_one {timers : ReservationTimers} {result : WorkerRegistryResult}
    {directive : ReservationTimerDirective} {owner : WorkerConnectionId}
    (htimers : result.timers = [directive])
    (howner : timerRecipient result directive.reservation = some owner) :
    timers.schedule result = timers.scheduleTimer directive owner := by
  rw [schedule, htimers, List.foldl_cons, List.foldl_nil, howner, Option.elim_some]

/-- Events about other reservations leave a timer alone. -/
theorem settle_other {timers : ReservationTimers} {events : List WorkerEvent}
    {reservation : ReservationId}
    (h : ∀ event ∈ events, eventReservation event ≠ some reservation) :
    (timers.settle events).entries[reservation]? = timers.entries[reservation]? := by
  have hdecided : reservation ∉ events.filterMap eventReservation := by
    intro hmem
    obtain ⟨event, hevent, hsame⟩ := List.mem_filterMap.mp hmem
    exact h event hevent hsame
  unfold settle
  generalize events.filterMap eventReservation = reservations at hdecided
  induction reservations generalizing timers with
  | nil => rfl
  | cons decided reservations ih =>
    obtain ⟨hne, hrest⟩ := not_or.mp (mt List.mem_cons.mpr hdecided)
    exact (ih hrest).trans ((cancelTimer_entries timers decided reservation).trans
      (if_neg hne))

end ReservationTimers

/-! ## Pending reservations -/

namespace WorkerRegistry

/-- A worker behind the connection is reserved or cancelling for the reservation. -/
def Tracks (registry : WorkerRegistry) (reservation : ReservationId)
    (connection : WorkerConnectionId) : Prop :=
  ∃ (worker : WorkerId) (record : WorkerRecord),
    registry.workers[worker]? = some record ∧ record.tracked = some reservation ∧
      record.connection = connection

/-- Every reservation that is pending has a timer of the worker's connection. -/
def Timed (registry : WorkerRegistry) (timers : ReservationTimers) : Prop :=
  ∀ (reservation : ReservationId) (connection : WorkerConnectionId),
    registry.Tracks reservation connection →
      ∃ entry : TimerEntry, timers.entries[reservation]? = some entry ∧
        entry.owner = connection

variable {registry : WorkerRegistry}

theorem Free.not_tracks {reservation : ReservationId} (h : registry.Free reservation)
    (connection : WorkerConnectionId) : ¬registry.Tracks reservation connection := by
  rintro ⟨worker, record, hfound, htracked, -⟩
  exact h worker record hfound (reservation_of_tracked htracked).1

theorem Consistent.not_tracks (h : registry.Consistent) {reservation : ReservationId}
    (hnone : registry.reservations[reservation]? = none) (connection : WorkerConnectionId) :
    ¬registry.Tracks reservation connection := by
  rintro ⟨worker, record, hfound, htracked, -⟩
  rw [h.tracked.mpr ⟨record, hfound, htracked⟩] at hnone
  cases hnone

/-- A worker that moves leaves the pending reservations of the others. -/
theorem tracks_insert {workers : Std.ExtTreeMap WorkerId WorkerRecord}
    (hworkers : registry.workers = workers.insert worker record) {reservation : ReservationId}
    {connection : WorkerConnectionId} (h : registry.Tracks reservation connection) :
    record.tracked = some reservation ∧ record.connection = connection ∨
      ∃ (other : WorkerId) (found : WorkerRecord), other ≠ worker ∧
        workers[other]? = some found ∧ found.tracked = some reservation ∧
          found.connection = connection := by
  obtain ⟨other, found, hfound, htracked, hconnection⟩ := h
  rw [hworkers, getElem?_insert] at hfound
  split at hfound
  · obtain rfl := Option.some.inj hfound
    exact Or.inl ⟨htracked, hconnection⟩
  · exact Or.inr ⟨other, found, ‹_›, hfound, htracked, hconnection⟩

theorem tracked_of_not_pending {record : WorkerRecord} (h : record.state = .idle ∨
    record.state = .active) : record.tracked = none := by
  unfold WorkerRecord.tracked
  rcases h with h | h <;> rw [h]

/-- The reservation of another worker is another one. -/
theorem Consistent.tracked_ne (h : registry.Consistent) {worker other : WorkerId}
    {record found : WorkerRecord} {reservation tracked : ReservationId}
    (hrecord : registry.workers[worker]? = some record)
    (hheld : record.reservation = some reservation)
    (hfound : registry.workers[other]? = some found)
    (htracked : found.tracked = some tracked) (hne : other ≠ worker) :
    tracked ≠ reservation := by
  rintro rfl
  exact hne (h.holders other worker found record tracked hfound hrecord
    (reservation_of_tracked htracked).1 hheld)

end WorkerRegistry

open WorkerRegistry

/-- Timers that stand for what was pending before and after a call do so after the
call's result is routed. -/
theorem RegistryChange.timed {before after : WorkerRegistry} {call : RegistryCall}
    {result : WorkerRegistryResult} (hchange : RegistryChange before call after result)
    (h : before.Consistent)
    (hfree : ∀ reservation, call.requested = some reservation → before.Free reservation)
    {timers : ReservationTimers}
    (htimed : ∀ (reservation : ReservationId) (connection : WorkerConnectionId),
      before.Tracks reservation connection → after.Tracks reservation connection →
        ∃ entry : TimerEntry, timers.entries[reservation]? = some entry ∧
          entry.owner = connection) :
    after.Timed ((timers.settle result.events).schedule result) := by
  intro tracked connection htracks
  -- A worker that becomes idle or active, with an event at most about its reservation.
  have hdone : ∀ {worker : WorkerId} {record next : WorkerRecord}
      {reservation : ReservationId} {events : List WorkerEvent},
      before.workers[worker]? = some record → record.reservation = some reservation →
      after.workers = before.workers.insert worker next → next.tracked = none →
      (∀ event ∈ events, ∀ other, eventReservation event = some other →
        other = reservation) →
      ∃ entry : TimerEntry, (timers.settle events).entries[tracked]? = some entry ∧
        entry.owner = connection := by
    intro worker record next reservation events hfound hheld hworkers hidle hevents
    rcases tracks_insert hworkers htracks with ⟨hnow, -⟩ | ⟨other, found, hne, hother, hrest⟩
    · rw [hidle] at hnow
      cases hnow
    · have hdiffers := h.tracked_ne hfound hheld hother hrest.1 hne
      rw [ReservationTimers.settle_other fun event hevent hsame =>
        hdiffers (hevents event hevent tracked hsame)]
      exact htimed tracked connection ⟨other, found, hother, hrest⟩ htracks
  -- A worker that becomes pending for a reservation, with a timer for it.
  have hstarted : ∀ {worker : WorkerId} {next : WorkerRecord}
      {directive : ReservationTimerDirective} {outbound : WorkerControlOutbound},
      after.workers = before.workers.insert worker next →
      next.tracked = some directive.reservation →
      timerRecipient { accepted := true, outbound := [outbound], timers := [directive] }
        directive.reservation = some next.connection →
      (∀ other found, other ≠ worker → before.workers[other]? = some found →
        found.tracked = some tracked → tracked ≠ directive.reservation) →
      ∃ entry : TimerEntry, (timers.schedule
          { accepted := true, outbound := [outbound], timers := [directive] }).entries[
            tracked]? = some entry ∧ entry.owner = connection := by
    intro worker next directive outbound hworkers hnow howner hothers
    rw [ReservationTimers.schedule_one rfl howner, ReservationTimers.scheduleTimer_entries]
    rcases tracks_insert hworkers htracks with ⟨hsame, rfl⟩ | ⟨other, found, hne, hother, hrest⟩
    · rw [if_pos (Option.some.inj (hsame.symm.trans hnow))]
      exact ⟨_, rfl, rfl⟩
    · rw [if_neg (hothers other found hne hother hrest.1)]
      exact htimed tracked connection ⟨other, found, hother, hrest⟩ htracks
  cases hchange with
  | unchanged => exact htimed tracked connection htracks htracks
  | refused action now =>
    have hne : tracked ≠ action.reservation := by
      rintro rfl
      exact (hfree action.reservation rfl).not_tracks connection htracks
    obtain ⟨entry, hentry, howner⟩ := htimed tracked connection htracks htracks
    refine ⟨entry, ?_, howner⟩
    exact (ReservationTimers.cancelTimer_entries timers action.reservation tracked).trans
      ((if_neg hne).trans hentry)
  | registered newConnection registration hvalid hconnection hworker hendpoint =>
    rcases tracks_insert rfl htracks with ⟨hnow, -⟩ | ⟨other, found, -, hother, hrest⟩
    · cases hnow
    · exact htimed tracked connection ⟨other, found, hother, hrest⟩ htracks
  | reserved action now worker record hnonzero hparticipants hfound hidle =>
    have hfresh := hfree action.reservation rfl
    refine hstarted rfl rfl ?_ ?_
    · simp [timerRecipient, LobbyToWorkerMessage.concerns, reserveMessage]
    · rintro other found - hother htracked rfl
      exact hfresh.not_tracks found.connection ⟨other, found, hother, htracked, rfl⟩
  | cancelling reservation matchId now worker record hfound hreserved hheld hmatched =>
    refine hstarted rfl hheld ?_ ?_
    · simp [timerRecipient, LobbyToWorkerMessage.concerns]
    · intro other found hne hother htracked
      exact h.tracked_ne hfound hheld hother htracked hne
  | readied reservation matchId worker record hfound hreserved hheld hmatched =>
    refine hdone hfound hheld rfl (tracked_of_not_pending (Or.inr rfl)) ?_
    intro event hevent other hsame
    obtain rfl := List.mem_singleton.mp hevent
    exact (Option.some.inj hsame).symm
  | rejected reservation matchId reason worker record hfound hreserved hheld hmatched =>
    refine hdone hfound hheld rfl (tracked_of_not_pending (Or.inl rfl)) ?_
    intro event hevent other hsame
    obtain rfl := List.mem_singleton.mp hevent
    exact (Option.some.inj hsame).symm
  | cancelled reservation matchId worker record hfound hcancelling hheld hmatched =>
    exact hdone hfound hheld rfl (tracked_of_not_pending (Or.inl rfl)) nofun
  | finished finish reservation worker record hfound hactive hheld hmatched =>
    refine hdone hfound hheld rfl (tracked_of_not_pending (Or.inl rfl)) ?_
    intro event hevent other hsame
    obtain rfl := List.mem_singleton.mp hevent
    cases hsame
  | lost call accepted closed worker record hfound hasked hcancels =>
    obtain ⟨other, found, hother, htracked, hconnection⟩ := htracks
    have hbefore := hother
    rw [removeWorker, getElem?_erase] at hother
    split at hother
    · cases hother
    · rename_i hne
      have hdiffers : ∀ event ∈ lostEvents record, eventReservation event ≠ some tracked := by
        intro event hevent hsame
        unfold lostEvents at hevent
        split at hevent
        · rename_i reservation matchId hstate hheld hmatched
          obtain rfl := List.mem_singleton.mp hevent
          exact h.tracked_ne hfound hheld hother htracked hne (Option.some.inj hsame).symm
        · obtain rfl := List.mem_singleton.mp hevent
          cases hsame
        · cases hevent
      obtain ⟨entry, hentry, howner⟩ := htimed tracked connection
        ⟨other, found, hother, htracked, hconnection⟩
        ⟨other, found, hbefore, htracked, hconnection⟩
      exact ⟨entry, (ReservationTimers.settle_other hdiffers).trans hentry, howner⟩

/-- A call keeps a worker's connection, or registers the worker. -/
theorem RegistryChange.connected {before after : WorkerRegistry} {call : RegistryCall}
    {result : WorkerRegistryResult} (hchange : RegistryChange before call after result)
    {worker : WorkerId} {record : WorkerRecord} (hafter : after.workers[worker]? = some record) :
    (∃ old, before.workers[worker]? = some old ∧ old.connection = record.connection) ∨
      ∃ registration, call = .register record.connection registration ∧
        result.accepted = true := by
  have hmoved : ∀ {other : WorkerId} {found next : WorkerRecord},
      before.workers[other]? = some found →
      after.workers = before.workers.insert other next → next.connection = found.connection →
      ∃ old, before.workers[worker]? = some old ∧ old.connection = record.connection := by
    intro other found next hfound hworkers hconnection
    rw [hworkers, getElem?_insert] at hafter
    split at hafter
    · rename_i hsame
      obtain rfl := Option.some.inj hafter
      exact ⟨found, by rw [hsame, hfound], hconnection.symm⟩
    · exact ⟨record, hafter, rfl⟩
  cases hchange with
  | unchanged => exact Or.inl ⟨record, hafter, rfl⟩
  | refused => exact Or.inl ⟨record, hafter, rfl⟩
  | registered connection registration =>
    rw [getElem?_insert] at hafter
    split at hafter
    · obtain rfl := Option.some.inj hafter
      exact Or.inr ⟨registration, rfl, rfl⟩
    · exact Or.inl ⟨record, hafter, rfl⟩
  | reserved _ _ _ _ _ _ hfound => exact Or.inl (hmoved hfound rfl rfl)
  | cancelling _ _ _ _ _ hfound => exact Or.inl (hmoved hfound rfl rfl)
  | readied _ _ _ _ hfound => exact Or.inl (hmoved hfound rfl rfl)
  | rejected _ _ _ _ _ hfound => exact Or.inl (hmoved hfound rfl rfl)
  | cancelled _ _ _ _ hfound => exact Or.inl (hmoved hfound rfl rfl)
  | finished _ _ _ _ hfound => exact Or.inl (hmoved hfound rfl rfl)
  | lost =>
    rw [removeWorker, getElem?_erase] at hafter
    split at hafter
    · cases hafter
    · exact Or.inl ⟨record, hafter, rfl⟩

namespace WorkerRegistry

variable {registry : WorkerRegistry}

/-- No worker is left on a connection that was closed. -/
theorem Consistent.disconnect_gone (h : registry.Consistent) (connection : WorkerConnectionId)
    {worker : WorkerId} {record : WorkerRecord}
    (hafter : (registry.disconnect connection).1.workers[worker]? = some record) :
    record.connection ≠ connection := by
  rintro rfl
  cases hconnected : registry.connections[record.connection]? with
  | none =>
    rw [disconnect, hconnected] at hafter
    rw [h.connection hafter] at hconnected
    cases hconnected
  | some holder =>
    obtain ⟨held, hheld, hsame⟩ := h.connected.mp hconnected
    rw [← hsame, disconnect_found h hheld, WorkerRegistry.removeWorker,
        getElem?_erase] at hafter
    split at hafter
    · cases hafter
    · rename_i hne
      have hconnection := h.connection hafter
      rw [hconnected] at hconnection
      exact hne (Option.some.inj hconnection).symm

/-- A reservation that timed out is not pending any more. -/
theorem Consistent.timeout_gone (h : registry.Consistent) (reservation : ReservationId)
    (connection : WorkerConnectionId) :
    ¬(registry.timeout reservation).1.Tracks reservation connection := by
  cases hfound : registry.reservations[reservation]? with
  | none =>
    rw [timeout, hfound]
    exact h.not_tracks hfound connection
  | some worker =>
    obtain ⟨record, hrecord, htracked⟩ := h.tracked.mp hfound
    have htimeout : (registry.timeout reservation).1 =
        registry.removeWorker record.connection worker record := by
      simp only [timeout, hfound, hrecord, disconnect_found h hrecord]
    rw [htimeout]
    rintro ⟨other, found, hother, hsame, -⟩
    rw [WorkerRegistry.removeWorker, getElem?_erase] at hother
    split at hother
    · cases hother
    · rename_i hne
      exact h.tracked_ne hrecord (reservation_of_tracked htracked).1 hother hsame hne rfl

/-- A worker that confirmed a cancellation leaves the reservation not pending. -/
theorem Consistent.cancelled_gone (h : registry.Consistent) {connection : WorkerConnectionId}
    {reservation : ReservationId} {matchId : MatchId}
    (hspares : ∀ (worker : WorkerId) (record : WorkerRecord),
      registry.workers[worker]? = some record → record.connection = connection →
      record.state = .idle ∨ record.state = .active →
      registry.reservations[reservation]? = none)
    (haccepted :
      (registry.receive connection (.cancelled reservation matchId)).2.accepted = true)
    (other : WorkerConnectionId) :
    ¬(registry.receive connection (.cancelled reservation matchId)).1.Tracks reservation
      other := by
  cases hconnected : registry.connections[connection]? with
  | none =>
    rw [receive, hconnected] at haccepted
    cases haccepted
  | some worker =>
    obtain ⟨record, hfound, hconnection⟩ := h.connected.mp hconnected
    have hreceive : registry.receive connection (.cancelled reservation matchId) =
        registry.receiveCancelled connection worker record reservation matchId := by
      simp only [receive, hconnected, hfound, receiveFrom]
    rw [hreceive] at haccepted ⊢
    cases hstate : record.state with
    | idle =>
      rw [receiveCancelled, hstate]
      exact h.not_tracks (hspares worker record hfound hconnection (Or.inl hstate)) other
    | active =>
      rw [receiveCancelled, hstate]
      exact h.not_tracks (hspares worker record hfound hconnection (Or.inr hstate)) other
    | reserved =>
      rw [receiveCancelled, hstate] at haccepted
      cases haccepted
    | cancelling =>
      simp only [receiveCancelled, hstate] at haccepted ⊢
      split at haccepted
      · rename_i hours
        rw [if_pos hours]
        intro htracks
        rcases tracks_insert rfl htracks with ⟨hnow, -⟩ | ⟨holder, found, hne, hholder, hrest⟩
        · cases hnow
        · exact h.tracked_ne hfound hours.1 hholder hrest.1 hne rfl
      · cases haccepted

end WorkerRegistry

namespace WorkerControlServer

variable {server : WorkerControlServer}

/-- The timers and the sessions follow the registry. -/
structure Guarded (server : WorkerControlServer) : Prop where
  registry : server.registry.Consistent
  armed : server.timers.Armed
  sessions : ∀ (worker : WorkerId) (record : WorkerRecord),
    server.registry.workers[worker]? = some record →
      server.sessions[record.connection]? = some true
  timed : server.registry.Timed server.timers

/-- A reservation is asked for under an identifier that no worker holds, and a worker
without a pending reservation confirms no cancellation of another's. -/
def Spares (server : WorkerControlServer) : ControlServerEvent → Prop
  | .frame connection (some (.cancelled reservation _)) =>
    ∀ (worker : WorkerId) (record : WorkerRecord),
      server.registry.workers[worker]? = some record → record.connection = connection →
      record.state = .idle ∨ record.state = .active →
      server.registry.reservations[reservation]? = none
  | .execute (.reserve action) _ => server.registry.Free action.reservation
  | _ => True

theorem guarded_route (server : WorkerControlServer) {before after : WorkerRegistry}
    {call : RegistryCall}
    {result : WorkerRegistryResult} (hchange : RegistryChange before call after result)
    (h : before.Consistent)
    (hfree : ∀ reservation, call.requested = some reservation → before.Free reservation)
    (harmed : server.timers.Armed)
    (htimed : ∀ (reservation : ReservationId) (connection : WorkerConnectionId),
      before.Tracks reservation connection → after.Tracks reservation connection →
        ∃ entry : TimerEntry, server.timers.entries[reservation]? = some entry ∧
          entry.owner = connection)
    (hsessions : ∀ (worker : WorkerId) (record : WorkerRecord),
      after.workers[worker]? = some record →
        server.sessions[record.connection]? = some true) :
    (server.route (after, result)).Guarded where
  registry := hchange.consistent h hfree
  armed := (harmed.settle result.events).schedule result
  sessions := hsessions
  timed := hchange.timed h hfree htimed

theorem Guarded.handleMessage (h : server.Guarded) (connection : WorkerConnectionId)
    (message : WorkerToLobbyMessage)
    (hspares : server.Spares (.frame connection (some message))) :
    (server.handleMessage connection message).Guarded := by
  have hchange := receive_changes h.registry connection message
  have hsessions : ∀ (worker : WorkerId) (record : WorkerRecord),
      (server.registry.receive connection message).1.workers[worker]? = some record →
        server.sessions[record.connection]? = some true := by
    intro worker record hafter
    rcases hchange.connected hafter with ⟨old, hold, hsame⟩ | ⟨registration, hcall, -⟩
    · rw [← hsame]
      exact h.sessions worker old hold
    · cases hcall
  have hplain : ({ server with timers := server.timers }.route
      (server.registry.receive connection message)).Guarded :=
    guarded_route server hchange h.registry nofun h.armed
      (fun reservation other hbefore _ => h.timed reservation other hbefore) hsessions
  cases message with
  | cancelled reservation matchId =>
    unfold WorkerControlServer.handleMessage
    dsimp only
    split
    · rename_i haccepted
      have hgone := h.registry.cancelled_gone hspares haccepted
      refine guarded_route
        { server with timers := server.timers.cancelTimer reservation } hchange h.registry
        nofun (h.armed.cancelTimer reservation) ?_ hsessions
      intro tracked other hbefore hafter
      obtain ⟨entry, hentry, howner⟩ := h.timed tracked other hbefore
      refine ⟨entry, (ReservationTimers.cancelTimer_entries _ _ _).trans
        ((if_neg ?_).trans hentry), howner⟩
      rintro rfl
      exact hgone other hafter
    · exact hplain
  | register registration => exact hplain
  | ready reservation matchId => exact hplain
  | rejected reservation matchId reason => exact hplain
  | finished completion => exact hplain

theorem Guarded.handleRegistration (h : server.Guarded) (connection : WorkerConnectionId)
    (message : WorkerToLobbyMessage) :
    (server.handleRegistration connection message).Guarded := by
  cases message with
  | register registration =>
    have hchange := register_changes h.registry connection registration
    refine guarded_route { server with
        sessions :=
          if (server.registry.register connection registration).2.accepted then
            server.sessions.insert connection true
          else server.sessions } hchange h.registry nofun h.armed
      (fun reservation other hbefore _ => h.timed reservation other hbefore) ?_
    intro worker record hafter
    dsimp only
    rcases hchange.connected hafter with ⟨old, hold, hsame⟩ | ⟨other, hcall, haccepted⟩
    · have hsession := h.sessions worker old hold
      rw [hsame] at hsession
      split
      · rw [getElem?_insert]
        split
        · rfl
        · exact hsession
      · exact hsession
    · cases hcall
      rw [if_pos haccepted, getElem?_insert, if_pos rfl]
  | ready => exact h
  | rejected => exact h
  | cancelled => exact h
  | finished => exact h

theorem Guarded.accept (h : server.Guarded) : server.accept.Guarded := by
  unfold WorkerControlServer.accept
  split
  · exact h
  · refine ⟨h.registry, h.armed, fun worker record hfound => ?_, h.timed⟩
    have hsession := h.sessions worker record hfound
    rw [Std.ExtTreeMap.getElem?_insertIfNew, if_neg]
    · exact hsession
    · rintro ⟨hsame, hnew⟩
      rw [Std.compare_eq_iff_eq] at hsame
      rw [hsame] at hnew
      rw [Std.ExtTreeMap.getElem?_eq_none hnew] at hsession
      cases hsession

theorem Guarded.execute (h : server.Guarded) (action : LobbyRuntimeAction) (now : TimePoint)
    (hspares : server.Spares (.execute action now)) :
    (server.route (server.registry.execute action now)).Guarded := by
  have hchange : RegistryChange server.registry (.execute action now) _ _ :=
    call_changes h.registry (.execute action now)
  refine guarded_route server hchange h.registry ?_ h.armed
    (fun reservation other hbefore _ => h.timed reservation other hbefore) ?_
  · intro reservation hasked
    cases action with
    | reserve action =>
      obtain rfl := Option.some.inj hasked
      exact hspares
    | cancel other matchId => cases hasked
  · intro worker record hafter
    rcases hchange.connected hafter with ⟨old, hold, hsame⟩ | ⟨registration, hcall, -⟩
    · rw [← hsame]
      exact h.sessions worker old hold
    · cases hcall

/-- A timer that is waited for was not cancelled, so its completion times its reservation
out. -/
theorem Guarded.completes (h : server.Guarded) {reservation : ReservationId}
    {entry : TimerEntry} (hentry : server.timers.entries[reservation]? = some entry)
    (aborted : Bool) (hdelivered : ¬(aborted = true ∧ entry.timer ∉ server.timers.cancelled)) :
    server.timerCompleted reservation entry.timer aborted =
      ({ server with timers := { server.timers with
          entries := server.timers.entries.erase reservation } } : WorkerControlServer).route
        (server.registry.timeout reservation) := by
  have hlive := h.armed.live reservation entry hentry
  have hexpired : aborted = false := by
    cases aborted with
    | false => rfl
    | true => exact absurd ⟨rfl, hlive⟩ hdelivered
  rw [WorkerControlServer.timerCompleted, if_neg hdelivered, hentry, hexpired]
  simp only [ne_eq, not_true_eq_false, if_false, Bool.false_eq_true]

theorem Guarded.timerCompleted (h : server.Guarded) (reservation : ReservationId)
    (timer : Nat) (aborted : Bool) :
    (server.timerCompleted reservation timer aborted).Guarded := by
  by_cases hdelivered : aborted = true ∧ timer ∉ server.timers.cancelled
  · rw [WorkerControlServer.timerCompleted, if_pos hdelivered]
    exact h
  · cases hentry : server.timers.entries[reservation]? with
    | none =>
      rw [WorkerControlServer.timerCompleted, if_neg hdelivered, hentry]
      exact h
    | some entry =>
      by_cases hsame : entry.timer = timer
      · subst hsame
        rw [h.completes hentry aborted hdelivered]
        have hchange := timeout_changes h.registry reservation
        refine guarded_route _ hchange h.registry nofun (h.armed.erase reservation) ?_ ?_
        · intro tracked other hbefore hafter
          obtain ⟨found, hfound, howner⟩ := h.timed tracked other hbefore
          refine ⟨found, ?_, howner⟩
          rw [getElem?_erase, if_neg]
          · exact hfound
          · rintro rfl
            exact h.registry.timeout_gone tracked other hafter
        · intro worker record hafter
          rcases hchange.connected hafter with ⟨old, hold, hkept⟩ | ⟨registration, hcall, -⟩
          · rw [← hkept]
            exact h.sessions worker old hold
          · cases hcall
      · rw [WorkerControlServer.timerCompleted, if_neg hdelivered, hentry]
        dsimp only
        rw [if_pos hsame]
        exact h

theorem Guarded.sessionClosed (h : server.Guarded) (connection : WorkerConnectionId) :
    (server.sessionClosed connection).Guarded := by
  -- The timers of other connections stay.
  have hothers : ∀ (tracked : ReservationId) (other : WorkerConnectionId),
      server.registry.Tracks tracked other → other ≠ connection →
        ∃ entry : TimerEntry,
          (server.timers.cancelTimersFor connection).entries[tracked]? = some entry ∧
            entry.owner = other := by
    intro tracked other hbefore hne
    obtain ⟨entry, hentry, howner⟩ := h.timed tracked other hbefore
    refine ⟨entry, ?_, howner⟩
    rw [ReservationTimers.cancelTimersFor_entries, hentry, Option.filter_some, if_pos]
    rw [howner, bne_iff_ne]
    exact hne
  unfold WorkerControlServer.sessionClosed
  cases hsession : server.sessions[connection]? with
  | none => exact h
  | some registered =>
    cases registered with
    | true =>
      have hchange := disconnect_changes h.registry connection
      refine guarded_route _ hchange h.registry nofun (h.armed.cancelTimersFor connection) ?_ ?_
      · rintro tracked other hbefore ⟨worker, record, hafter, -, rfl⟩
        exact hothers tracked record.connection hbefore
          (h.registry.disconnect_gone connection hafter)
      · intro worker record hafter
        have hne := h.registry.disconnect_gone connection hafter
        rcases hchange.connected hafter with ⟨old, hold, hkept⟩ | ⟨registration, hcall, -⟩
        · rw [getElem?_erase, if_neg hne, ← hkept]
          exact h.sessions worker old hold
        · cases hcall
    | false =>
      have hne : ∀ (worker : WorkerId) (record : WorkerRecord),
          server.registry.workers[worker]? = some record → record.connection ≠ connection := by
        rintro worker record hfound rfl
        rw [h.sessions worker record hfound] at hsession
        cases hsession
      change ({ server with
        sessions := server.sessions.erase connection
        timers := server.timers.cancelTimersFor connection } : WorkerControlServer).Guarded
      exact {
        registry := h.registry
        armed := h.armed.cancelTimersFor connection
        sessions := by
          intro worker record hfound
          dsimp only
          rw [getElem?_erase, if_neg (hne worker record hfound)]
          exact h.sessions worker record hfound
        timed := by
          rintro tracked other htracks
          refine hothers tracked other htracks ?_
          obtain ⟨worker, record, hfound, -, rfl⟩ := htracks
          exact hne worker record hfound }

theorem Guarded.step (server : WorkerControlServer) (event : ControlServerEvent)
    (hspares : server.Spares event) (h : server.Guarded) : (server.step event).Guarded := by
  cases event with
  | accept => exact h.accept
  | frame connection message =>
    unfold WorkerControlServer.step handleFrame
    dsimp only
    split
    · exact h.handleRegistration connection _
    · exact h.handleMessage connection _ hspares
    · exact h
  | execute action now => exact h.execute action now hspares
  | timerCompleted reservation timer aborted => exact h.timerCompleted reservation timer aborted
  | sessionClosed connection => exact h.sessionClosed connection

theorem guarded_new : ({} : WorkerControlServer).Guarded where
  registry := consistent_empty
  armed := ReservationTimers.armed_empty
  sessions := by simp
  timed := by
    rintro reservation connection ⟨worker, record, hfound, -⟩
    simp at hfound

/-- The timer that is armed for a reservation. -/
def ArmedTimer (server : WorkerControlServer) (reservation : ReservationId)
    (entry : TimerEntry) : Prop :=
  server.timers.entries[reservation]? = some entry ∧ entry.timer ∉ server.timers.cancelled

/-- Every reservation that a worker is reserved or cancelling for has one armed timer,
which belongs to the worker's connection and ends the reservation when it expires. -/
theorem run_guarded (events : List ControlServerEvent)
    (hspares : Machine.Meets step Spares {} events) (worker : WorkerId)
    (record : WorkerRecord) (reservation : ReservationId)
    (hfound : (Machine.run step {} events).registry.workers[worker]? = some record)
    (hpending : record.state = .reserved ∨ record.state = .cancelling)
    (hheld : record.reservation = some reservation) :
    (∃! entry, (Machine.run step {} events).ArmedTimer reservation entry) ∧
      ∀ entry, (Machine.run step {} events).ArmedTimer reservation entry →
        entry.owner = record.connection ∧
          ∀ connection, ¬((Machine.run step {} events).step
            (.timerCompleted reservation entry.timer false)).registry.Tracks reservation
              connection := by
  have hguarded : (Machine.run step {} events).Guarded :=
    Machine.run_invariant_of_meets Guarded.step guarded_new hspares
  generalize Machine.run step {} events = server at hguarded hfound
  have htracked : record.tracked = some reservation := by
    rcases hpending with hstate | hstate <;> rw [WorkerRecord.tracked, hstate] <;> exact hheld
  obtain ⟨entry, hentry, howner⟩ := hguarded.timed reservation record.connection
    ⟨worker, record, hfound, htracked, rfl⟩
  refine ⟨⟨entry, ⟨hentry, hguarded.armed.live reservation entry hentry⟩, ?_⟩, ?_⟩
  · rintro other ⟨hother, -⟩
    exact Option.some.inj (hother.symm.trans hentry)
  · rintro other ⟨hother, -⟩
    obtain rfl := Option.some.inj (hother.symm.trans hentry)
    refine ⟨howner, fun connection => ?_⟩
    rw [WorkerControlServer.step, hguarded.completes hentry false (by simp)]
    exact hguarded.registry.timeout_gone reservation connection

/-- Two workers register and the first is reserved. -/
def reservedRun : List ControlServerEvent :=
  [.accept, .accept,
    .frame ⟨1⟩ (some (.register {
      worker := ⟨1⟩, advertisedHost := [0x68], gameTcpPort := 1, gameUdpPort := 2 })),
    .frame ⟨2⟩ (some (.register {
      worker := ⟨2⟩, advertisedHost := [0x68], gameTcpPort := 3, gameUdpPort := 4 })),
    .execute (.reserve {
      reservation := ⟨1⟩
      room := ⟨1⟩
      matchId := ⟨1⟩
      requester := ⟨1⟩
      issuedAt := 0
      participants := [⟨⟨1⟩, ⟨.replicate 16 1, rfl⟩⟩, ⟨⟨2⟩, ⟨.replicate 16 2, rfl⟩⟩] }) 0]

theorem reservedRun_pending (later : List ControlServerEvent)
    (h : (Machine.run step {} (reservedRun ++ later)).registry.workers[
      (⟨1⟩ : WorkerId)]?.map (fun record => (record.state, record.reservation)) =
        some (.reserved, some ⟨1⟩)) :
    ∃ record, (Machine.run step {} (reservedRun ++ later)).registry.workers[
        (⟨1⟩ : WorkerId)]? = some record ∧
      record.state = .reserved ∧ record.reservation = some ⟨1⟩ := by
  obtain ⟨record, hfound, hrecord⟩ := Option.map_eq_some_iff.mp h
  exact ⟨record, hfound, Prod.mk.inj hrecord⟩

theorem run_guarded_reserved :
    ∃ record, (Machine.run step {} reservedRun).registry.workers[(⟨1⟩ : WorkerId)]? =
        some record ∧
      ∃! entry, (Machine.run step {} reservedRun).ArmedTimer ⟨1⟩ entry := by
  obtain ⟨record, hfound, hstate, hheld⟩ := reservedRun_pending [] (by decide +kernel)
  rw [List.append_nil] at hfound
  refine ⟨record, hfound, (run_guarded reservedRun ?_ ⟨1⟩ record ⟨1⟩ hfound (Or.inl hstate)
    hheld).1⟩
  refine ⟨trivial, trivial, trivial, trivial, ?_, trivial⟩
  intro worker found hworker
  have hidle : ∀ entry ∈ (Machine.run step {} (reservedRun.take 4)).registry.workers.toList,
      entry.2.reservation ≠ some ⟨1⟩ := by
    decide +kernel
  exact hidle (worker, found) (Std.ExtTreeMap.mem_toList_iff_getElem?_eq_some.mpr hworker)

/-- A worker without a match confirms the cancellation of another's reservation. -/
theorem cancelled_disarms :
    ¬∀ (events : List ControlServerEvent) (worker : WorkerId) (record : WorkerRecord)
        (reservation : ReservationId),
      (Machine.run step {} events).registry.workers[worker]? = some record →
        record.state = .reserved ∨ record.state = .cancelling →
          record.reservation = some reservation →
            ∃! entry, (Machine.run step {} events).ArmedTimer reservation entry := by
  intro h
  obtain ⟨record, hfound, hstate, hheld⟩ :=
    reservedRun_pending [.frame ⟨2⟩ (some (.cancelled ⟨1⟩ ⟨1⟩))] (by decide +kernel)
  obtain ⟨entry, ⟨hentry, -⟩, -⟩ := h _ ⟨1⟩ record ⟨1⟩ hfound (Or.inl hstate) hheld
  have hnone : (Machine.run step {} (reservedRun ++
      [.frame ⟨2⟩ (some (.cancelled ⟨1⟩ ⟨1⟩))])).timers.entries[
        (⟨1⟩ : ReservationId)]?.isNone = true := by
    decide +kernel
  rw [hentry] at hnone
  cases hnone

end WorkerControlServer

end SurvivalArena
