import SurvivalArena.Lobby.DispatchRun
import SurvivalArena.Lobby.LobbyEncoding

/-!
# Everything the lobby server sends can be encoded

In every run each call succeeds, and each message to a client or a worker is one that
its encoder accepts.
-/

namespace SurvivalArena

open OrderedMap

/-! ## Messages to the workers -/

namespace WorkerRegistry

/-- No worker holds a reservation with the id zero. -/
def Nonzero (registry : WorkerRegistry) : Prop :=
  ∀ (worker : WorkerId) (record : WorkerRecord) (reservation : ReservationId),
    registry.workers[worker]? = some record → record.reservation = some reservation →
    reservation.value ≠ 0

variable {registry after : WorkerRegistry}

theorem Nonzero.insert (h : registry.Nonzero) {worker : WorkerId} {new : WorkerRecord}
    (hworkers : after.workers = registry.workers.insert worker new)
    (hnew : ∀ reservation, new.reservation = some reservation →
      reservation.value ≠ 0) : after.Nonzero := by
  intro other record reservation hother
  rw [hworkers, getElem?_insert] at hother
  split at hother
  · obtain rfl := Option.some.inj hother
    exact hnew reservation
  · exact h other record reservation hother

theorem Nonzero.erase (h : registry.Nonzero) {worker : WorkerId}
    (hworkers : after.workers = registry.workers.erase worker) : after.Nonzero := by
  intro other record reservation hother
  rw [hworkers, getElem?_erase] at hother
  split at hother
  · cases hother
  · exact h other record reservation hother

/-- All the messages can be encoded. -/
def Sendable (outbound : List WorkerControlOutbound) : Prop :=
  ∀ sent ∈ outbound, sent.message.Encodable

theorem sendable_singleton {connection : WorkerConnectionId}
    {message : LobbyToWorkerMessage} (h : message.Encodable) :
    Sendable [⟨connection, message⟩] := by
  simpa [Sendable] using h

theorem sendable_nil : Sendable [] := by
  simp [Sendable]

theorem remainingMilliseconds_le (action : ReserveMatchAction) (now : TimePoint) :
    remainingMilliseconds action now ≤ 60000 := by
  have hmin := min_le_right (action.issuedAt + matchTicketLifetime - now)
    matchTicketLifetime
  exact (Int.tdiv_le_tdiv (by decide) hmin).trans (by decide)

/-- A reservation that the registry accepts can be encoded. -/
theorem reserveMessage_encodable {action : ReserveMatchAction} {now : TimePoint}
    (hnonzero : action.reservation.value ≠ 0)
    (hparticipants : 2 ≤ action.participants.length ∧
      action.participants.length ≤ roomCapacity)
    (htimely : 0 < remainingMilliseconds action now)
    (hplayers : (action.participants.map ReservedParticipant.player).Nodup) :
    (LobbyToWorkerMessage.reserve (reserveMessage action now)).Encodable := by
  have hmost := remainingMilliseconds_le action now
  have hlifetime : (UInt32.ofNat (remainingMilliseconds action now).toNat).toNat =
      (remainingMilliseconds action now).toNat := by
    apply UInt32.toNat_ofNat_of_lt'
    change _ < 4294967296
    omega
  refine encodable_reserve hnonzero ⟨?_, ?_⟩ hparticipants hplayers
  · rw [UInt32.lt_iff_toNat_lt]
    change 0 < (UInt32.ofNat (remainingMilliseconds action now).toNat).toNat
    rw [hlifetime]
    omega
  · change (UInt32.ofNat (remainingMilliseconds action now).toNat).toNat ≤ 60000
    rw [hlifetime]
    omega

end WorkerRegistry

open WorkerRegistry

theorem RegistryChange.nonzero {before after : WorkerRegistry} {call : RegistryCall}
    {result : WorkerRegistryResult} (hchange : RegistryChange before call after result)
    (h : before.Nonzero) : after.Nonzero := by
  cases hchange with
  | unchanged => exact h
  | refused => exact h
  | registered => exact h.insert rfl nofun
  | reserved action now worker record hnonzero =>
    refine h.insert rfl ?_
    rintro reservation heq
    obtain rfl := Option.some.inj heq
    exact hnonzero
  | cancelling reservation matchId now worker record hfound =>
    exact h.insert rfl fun held hheld => h worker record held hfound hheld
  | readied reservation matchId worker record hfound =>
    exact h.insert rfl fun held hheld => h worker record held hfound hheld
  | rejected => exact h.insert rfl nofun
  | cancelled => exact h.insert rfl nofun
  | finished => exact h.insert rfl nofun
  | lost => exact h.erase rfl

/-- What a change sends can be encoded, if no two participants asked for are the same
player. -/
theorem RegistryChange.sendable {before after : WorkerRegistry} {call : RegistryCall}
    {result : WorkerRegistryResult} (hchange : RegistryChange before call after result)
    (h : before.Nonzero) (hplayers : ∀ action now, call = .execute (.reserve action) now →
      (action.participants.map ReservedParticipant.player).Nodup) :
    Sendable result.outbound := by
  cases hchange with
  | registered connection registration hvalid =>
    simp only [isValidRegistration, Bool.and_eq_true, bne_iff_ne] at hvalid
    exact sendable_singleton (encodable_registered hvalid.1.1.1.1.2)
  | reserved action now worker record hnonzero hparticipants hfound hidle huntracked
      htimely =>
    exact sendable_singleton (reserveMessage_encodable hnonzero hparticipants htimely
      (hplayers action now rfl))
  | cancelling reservation matchId now worker record hfound hreserved hheld =>
    exact sendable_singleton
      (encodable_cancel (h worker record reservation hfound hheld) matchId)
  | _ => exact sendable_nil

/-! ## Messages of the server -/

namespace LobbyServer

/-- Where the call succeeds, rooms and reservations stay within the limits, and what
it sends can be encoded. -/
def Carries (outcome : LobbyServer × Except Exception ServerOutput) : Prop :=
  ∀ after output, outcome = (after, .ok output) →
    after.service.Bounded ∧ after.registry.Nonzero ∧
      LobbyService.Sendable output.outbound ∧ Sendable output.control

theorem handleEvents_carries {service : LobbyService} (h : service.Invariant)
    (hbounded : service.Bounded) (now : TimePoint) (events : List WorkerEvent)
    {after : LobbyService} {output : ServerOutput}
    (hhandled : service.handleEvents now events = (after, .ok output)) :
    after.Bounded ∧ LobbyService.Sendable output.outbound ∧ output.control = [] := by
  induction events generalizing service output with
  | nil =>
    cases hhandled
    exact ⟨hbounded, LobbyService.sendable_nil, rfl⟩
  | cons event events ih =>
    obtain ⟨middle, result, hcall, hchanges, -⟩ :=
      LobbyService.call_performs h (.workerEvent event now)
    have hsent := LobbyService.call_emits (hbounded.roomy h) (.workerEvent event now)
      middle result hcall
    change service.handleWorkerEvent event now = _ at hcall
    rw [LobbyService.handleEvents, hcall] at hhandled
    simp only [attempt_ok] at hhandled
    cases hrest : middle.handleEvents now events with
    | mk last outcome =>
      rw [hrest] at hhandled
      cases outcome with
      | error e => cases hhandled
      | ok rest =>
        cases hhandled
        obtain ⟨hlast, houtbound, hcontrol⟩ :=
          ih (hchanges.invariant h) (hchanges.bounded hbounded) hrest
        exact ⟨hlast, hsent.append houtbound, hcontrol⟩

theorem routeControl_carries (server : LobbyServer) (h : server.service.Invariant)
    (hbounded : server.service.Bounded) (hnonzero : server.registry.Nonzero)
    {now : TimePoint} {result : WorkerRegistryResult} (hsent : Sendable result.outbound) :
    Carries (server.routeControl now result) := by
  intro after output hrouted
  rw [routeControl] at hrouted
  cases hhandled : server.service.handleEvents now result.events with
  | mk service outcome =>
    rw [hhandled] at hrouted
    cases outcome with
    | error e => cases hrouted
    | ok handled =>
      cases hrouted
      obtain ⟨hafter, houtbound, hcontrol⟩ :=
        handleEvents_carries h hbounded now result.events hhandled
      refine ⟨hafter, hnonzero, houtbound, ?_⟩
      simp only [ServerOutput.append, hcontrol, List.append_nil]
      exact hsent

/-- Both sides agree and stay within the limits of the encoders. -/
structure Limited (server : LobbyServer) : Prop where
  agree : Agree server.service server.registry
  bounded : server.service.Bounded
  nonzero : server.registry.Nonzero

theorem handleControl_carries {server : LobbyServer} (h : server.Limited)
    (event : ControlEvent) (now : TimePoint) :
    Carries (server.handleControl event now) := by
  have hchange := call_changes h.agree.workers event.registryCall
  refine routeControl_carries { server with
      registry := (server.registry.call event.registryCall).1 } h.agree.lobby h.bounded
    (hchange.nonzero h.nonzero) (hchange.sendable h.nonzero ?_)
  intro action time hcall
  cases event <;> cases hcall

theorem handleClient_carries {server : LobbyServer} (h : server.Limited)
    (event : ClientEvent) (now : TimePoint) :
    Carries (server.handleClient event now) := by
  obtain ⟨first, result, hcall, hchanges, hlength⟩ :=
    LobbyService.call_performs h.agree.lobby event.lobbyEvent
  have hclient : event.lobbyEvent.isClient = true := by cases event <;> rfl
  have hfirst := hchanges.invariant h.agree.lobby
  have hbounded := hchanges.bounded h.bounded
  have hsent := LobbyService.call_emits (h.bounded.roomy h.agree.lobby) event.lobbyEvent
    first result hcall
  intro after output hhandled
  rw [handleClient, hcall] at hhandled
  simp only [attempt_ok] at hhandled
  rcases LobbyService.asks_changes h.agree.lobby hchanges hclient hlength with
    ⟨hnone, -⟩ | ⟨action, hone, hasks⟩
  · rw [hnone] at hhandled
    cases hhandled
    exact ⟨hbounded, h.nonzero, hsent.append LobbyService.sendable_nil, sendable_nil⟩
  · have hchange : RegistryChange server.registry (.execute action now)
        (server.registry.execute action now).1 (server.registry.execute action now).2 :=
      call_changes h.agree.workers (.execute action now)
    have hasked : Sendable (server.registry.execute action now).2.outbound := by
      apply hchange.sendable h.nonzero
      intro asked time heq
      cases heq
      cases hasks with
      | reserve _ hused husedMatches hfresh hfreshMatch hspent hspentMatch hmembers =>
        exact hmembers
    have hcarries : Carries (LobbyServer.routeControl {
        service := first
        registry := (server.registry.execute action now).1 } now
        (server.registry.execute action now).2) :=
      routeControl_carries _ hfirst hbounded (hchange.nonzero h.nonzero) hasked
    rw [hone] at hhandled
    simp only [executeActions] at hhandled
    cases hrouted : LobbyServer.routeControl {
        service := first
        registry := (server.registry.execute action now).1 } now
        (server.registry.execute action now).2 with
    | mk routed outcome =>
      rw [hrouted] at hhandled hcarries
      cases outcome with
      | error e => cases hhandled
      | ok answered =>
        cases hhandled
        obtain ⟨hafter, hnonzero, houtbound, hcontrol⟩ := hcarries routed answered rfl
        refine ⟨hafter, hnonzero, hsent.append (houtbound.append LobbyService.sendable_nil),
          ?_⟩
        simp only [ServerOutput.append, List.append_nil, List.nil_append]
        exact hcontrol

theorem call_limited {server : LobbyServer} (h : server.Limited) (event : ServerEvent) :
    ∃ after output, server.call event = (after, .ok output) ∧ after.Limited ∧
      LobbyService.Sendable output.outbound ∧ Sendable output.control := by
  obtain ⟨after, output, hcall, -, hagree, -⟩ := call_agrees h.agree event
  have hcarries : Carries (server.call event) := by
    cases event with
    | client event now => exact handleClient_carries h event now
    | control event now => exact handleControl_carries h event now
  obtain ⟨hbounded, hnonzero, hsendable⟩ := hcarries after output hcall
  exact ⟨after, output, hcall, ⟨hagree, hbounded, hnonzero⟩, hsendable⟩

theorem run_limited (tickets : MatchTicketRegistry) (config : LobbyServiceConfig)
    (events : List ServerEvent) :
    (Machine.run step (create tickets config) events).Limited := by
  apply Machine.run_invariant (P := fun _ => True)
  · intro server event _ h
    obtain ⟨after, output, hcall, hafter, -⟩ := call_limited h event
    rw [step_of_call hcall]
    exact hafter
  · exact {
      agree := agree_create tickets config
      bounded := LobbyService.bounded_create tickets config
      nonzero := by simp [Nonzero, create] }
  · exact fun _ _ => trivial

/-- In every run each call succeeds, and whatever it sends to clients and workers can be
encoded. -/
theorem run_encodable (tickets : MatchTicketRegistry) (config : LobbyServiceConfig)
    (events : List ServerEvent) (event : ServerEvent) :
    ∃ after output,
      (Machine.run step (create tickets config) events).call event = (after, .ok output) ∧
      (∀ sent ∈ output.outbound, sent.message.Encodable) ∧
      ∀ sent ∈ output.control, sent.message.Encodable := by
  obtain ⟨after, output, hcall, -, hsent⟩ :=
    call_limited (run_limited tickets config events) event
  exact ⟨after, output, hcall, hsent⟩

end LobbyServer

end SurvivalArena
