import SurvivalArena.GameServer.ControlLink
import SurvivalArena.Lobby.DispatchRun

/-!
# Messages on the control connection are legal

As long as no cancellation crosses a rejection or the end of a match, both sides stay
in step: the messages under way are those that lead from the one's state to the
other's.
-/

namespace SurvivalArena

open Assignment OrderedMap WorkerRegistry

/-! ## Outcomes of the lobby server -/

namespace LobbyServer

theorem handleControl_outcome {server : LobbyServer}
    (h : Agree server.service server.registry) (event : ControlEvent) (now : TimePoint) :
    ∃ service output, server.handleControl event now = ({
        service, registry := (server.registry.call event.registryCall).1 }, .ok output) ∧
      Agree service (server.registry.call event.registryCall).1 ∧
      output.control = (server.registry.call event.registryCall).2.outbound ∧
      output.closeConnections =
        (server.registry.call event.registryCall).2.closeConnections := by
  have hasked : event.registryCall.requested = none := by cases event <;> rfl
  have hcancels : event.registryCall.cancels = false := by cases event <;> rfl
  have hchange := call_changes h.workers event.registryCall
  have hworkers := hchange.consistent h.workers (by rw [hasked]; exact nofun)
  obtain ⟨active, ⟨service, outbound, hhandled, hagree, -⟩, -⟩ :=
    control_settles h hchange hworkers hasked hcancels now
  refine ⟨service, _, routeControl_eq { server with
    registry := (server.registry.call event.registryCall).1 } hhandled, hagree, ?_, ?_⟩
  · exact List.append_nil _
  · exact List.append_nil _

/-- A client call leaves the registry alone or has it execute what it asks for. -/
theorem handleClient_outcome {server : LobbyServer}
    (h : Agree server.service server.registry) (event : ClientEvent) (now : TimePoint) :
    ∃ after output, server.handleClient event now = (after, .ok output) ∧
      Agree after.service after.registry ∧
      (after.registry = server.registry ∧ output.control = [] ∧
          output.closeConnections = [] ∨
        ∃ first result action, server.service.call event.lobbyEvent = (first, .ok result) ∧
          result.actions = [action] ∧ server.service.Asks first action ∧
          after.registry = (server.registry.execute action now).1 ∧
          output.control = (server.registry.execute action now).2.outbound ∧
          output.closeConnections =
            (server.registry.execute action now).2.closeConnections) := by
  obtain ⟨first, result, hcall, hchanges, hlength⟩ :=
    LobbyService.call_performs h.lobby event.lobbyEvent
  have hclient : event.lobbyEvent.isClient = true := by cases event <;> rfl
  have hfirst := hchanges.invariant h.lobby
  rcases LobbyService.asks_changes h.lobby hchanges hclient hlength with
    ⟨hnone, hsilent⟩ | ⟨action, hone, hasks⟩
  · refine ⟨{ server with service := first },
      ({ outbound := result.outbound } : ServerOutput).append {}, ?_,
      agree_silent h hfirst hsilent, Or.inl ⟨rfl, rfl, rfl⟩⟩
    rw [handleClient, hcall]
    simp only [attempt_ok, hnone, executeActions]
  · have hchange : RegistryChange server.registry (.execute action now)
        (server.registry.execute action now).1 (server.registry.execute action now).2 :=
      call_changes h.workers (.execute action now)
    obtain ⟨active, ⟨service, outbound, hhandled, hagree, -⟩, -⟩ :=
      asked_settles h hfirst hasks hchange
    refine ⟨{ service, registry := (server.registry.execute action now).1 },
      ({ outbound := result.outbound } : ServerOutput).append
        ((({
          control := (server.registry.execute action now).2.outbound
          closeConnections :=
            (server.registry.execute action now).2.closeConnections } :
          ServerOutput).append { outbound }).append {}), ?_, hagree,
      Or.inr ⟨first, result, action, hcall, hone, hasks, rfl, ?_, ?_⟩⟩
    · rw [handleClient, hcall]
      simp only [attempt_ok, hone, executeActions]
      rw [routeControl_eq { service := first, registry := _ } hhandled]
      rfl
    · simp [ServerOutput.append]
    · simp [ServerOutput.append]

end LobbyServer

/-! ## Cancellations -/

theorem LobbyChanges.isDisconnect {event : LobbyEvent} {before after : LobbyService}
    {actions : List LobbyRuntimeAction} (h : LobbyChanges event before after actions)
    {reservation : ReservationId} {matchId : MatchId}
    (hcancels : .cancel reservation matchId ∈ actions) : event.isDisconnect = true := by
  induction h with
  | none => cases hcancels
  | next change _ ih =>
    rcases List.mem_append.mp hcancels with hfirst | hrest
    · cases change with
      | cancelled _ _ _ _ _ hleaves => exact hleaves
      | reserved => simp at hfirst
      | _ => cases hfirst
    · exact ih hrest

/-- A client that is in no starting room takes no reservation with it. -/
theorem LobbyService.disconnect_silent {service : LobbyService} (h : service.Invariant)
    {connection : ConnectionId} (habandons : service.abandons connection = none)
    {after : LobbyService} {result : LobbyServiceResult}
    (hcall : service.disconnect connection = (after, .ok result)) :
    result.actions = [] := by
  unfold LobbyService.disconnect at hcall
  cases hfound : service.connections[connection]? with
  | none =>
    rw [hfound] at hcall
    cases hcall
    rfl
  | some state =>
    cases hplayer : state.player with
    | none =>
      simp only [hfound, hplayer] at hcall
      cases hcall
      rfl
    | some player =>
      have hsilent : ∃ middle left, service.disconnectPlayer player = (middle, .ok left) ∧
          left.actions = [] := by
        unfold disconnectPlayer
        cases hroomOf : service.playerToRoom[player]? with
        | none => exact ⟨_, _, rfl, rfl⟩
        | some roomId =>
          obtain ⟨room, hroom, -⟩ := h.roomOf hroomOf
          obtain ⟨snapshot, hsnapshot, -⟩ := (h.rooms.valid roomId room hroom).snapshot 0
          simp only [hroom, hsnapshot, attempt_ok]
          split
          · have hnone : service.roomToReservation[roomId]? = none := by
              simp only [abandons, hfound, hplayer, hroomOf, Option.bind_eq_bind,
                Option.bind_some] at habandons
              exact habandons
            rw [disconnectStartingPlayer, hnone]
            exact ⟨_, _, rfl, rfl⟩
          · have hleft : ∃ middle left,
                service.leaveWaitingRoom player none 0 = (middle, .ok left) ∧
                left.actions = [] ∧ LobbyChanges .openConnection service middle [] ∧
                middle.connections = service.connections :=
              leaveWaitingRoom_silent h player none 0
            obtain ⟨middle, left, hleft, hactions, -⟩ := hleft
            exact ⟨middle, left, hleft, hactions⟩
          · exact ⟨_, _, rfl, rfl⟩
      obtain ⟨middle, left, hleft, hactions⟩ := hsilent
      simp only [hfound, hplayer, hleft, attempt_ok] at hcall
      cases hcall
      exact hactions

/-! ## Messages that the registry expects -/

namespace WorkerRegistry

section Expected

variable (registry : WorkerRegistry) (connection : WorkerConnectionId)
  (worker : WorkerId) {record : WorkerRecord} {reservation : ReservationId}
  {matchId : MatchId}

theorem receiveReady_reserved
    (h : record.assignment = .reserved reservation matchId) :
    registry.receiveFrom connection worker record (.ready reservation matchId) =
      ({ registry with
         reservations := registry.reservations.erase reservation
         workers := registry.workers.insert worker { record with state := .active } },
       { accepted := true
         events := [.reservationReady reservation matchId record.registration.worker
           record.registration.gameEndpoint] }) := by
  obtain ⟨hstate, hheld, hmatched⟩ := WorkerRecord.assignment_eq_reserved.mp h
  simp only [receiveFrom, receiveReady, hstate, hheld, hmatched, and_self,
    not_true_eq_false, if_false]
  rfl

theorem receiveReady_cancelling
    (h : record.assignment = .cancelling reservation matchId) :
    registry.receiveFrom connection worker record (.ready reservation matchId) =
      (registry, { accepted := true }) := by
  obtain ⟨hstate, hheld, hmatched⟩ := WorkerRecord.assignment_eq_cancelling.mp h
  simp only [receiveFrom, receiveReady, hstate, hheld, hmatched, and_self, if_true]

theorem receiveRejected_reserved
    (h : record.assignment = .reserved reservation matchId)
    (reason : WorkerReservationReject) :
    registry.receiveFrom connection worker record (.rejected reservation matchId reason) =
      (registry.clearReservation worker record,
       { accepted := true, events := [.reservationFailed reservation matchId] }) := by
  obtain ⟨hstate, hheld, hmatched⟩ := WorkerRecord.assignment_eq_reserved.mp h
  simp only [receiveFrom, receiveRejected, hstate, hheld, hmatched, and_self,
    not_true_eq_false, if_false]

theorem receiveCancelled_cancelling
    (h : record.assignment = .cancelling reservation matchId) :
    registry.receiveFrom connection worker record (.cancelled reservation matchId) =
      (registry.clearReservation worker record, { accepted := true }) := by
  obtain ⟨hstate, hheld, hmatched⟩ := WorkerRecord.assignment_eq_cancelling.mp h
  simp only [receiveFrom, receiveCancelled, hstate, hheld, hmatched, and_self, if_true]

theorem receiveFinished_active {completion : MatchFinished}
    (h : record.assignment = .active reservation completion.matchId) :
    registry.receiveFrom connection worker record (.finished completion) =
      (registry.clearReservation worker record,
       { accepted := true
         events := [.matchFinished record.registration.worker completion.matchId] }) := by
  obtain ⟨hstate, -, hmatched⟩ := WorkerRecord.assignment_eq_active.mp h
  simp only [receiveFrom, receiveFinished, hstate, hmatched, if_true]

end Expected

end WorkerRegistry

/-! ## Both sides in step -/

/-- What is under way to the worker, what it holds and what is under way to the lobby,
for what the lobby has the worker assigned to. -/
inductive InStep : Assignment ReservationId MatchId → List LobbyToWorkerMessage →
    Option (ReservationId × MatchId) → List WorkerToLobbyMessage → Prop
  | idle : InStep .idle [] none []
  | asked (value : ReserveMatch) :
    InStep (.reserved value.reservation value.matchId) [.reserve value] none []
  | ready (reservation : ReservationId) (matchId : MatchId) :
    InStep (.reserved reservation matchId) [] (some (reservation, matchId))
      [.ready reservation matchId]
  | rejected (reservation : ReservationId) (matchId : MatchId)
      (reason : WorkerReservationReject) :
    InStep (.reserved reservation matchId) [] none [.rejected reservation matchId reason]
  | ended (reservation : ReservationId) (completion : MatchFinished) :
    InStep (.reserved reservation completion.matchId) [] none
      [.ready reservation completion.matchId, .finished completion]
  | withdrawn (value : ReserveMatch) :
    InStep (.cancelling value.reservation value.matchId)
      [.reserve value, .cancel value.reservation value.matchId] none []
  | cancelling (reservation : ReservationId) (matchId : MatchId) :
    InStep (.cancelling reservation matchId) [.cancel reservation matchId]
      (some (reservation, matchId)) []
  | cancellingReady (reservation : ReservationId) (matchId : MatchId) :
    InStep (.cancelling reservation matchId) [.cancel reservation matchId]
      (some (reservation, matchId)) [.ready reservation matchId]
  | cancelled (reservation : ReservationId) (matchId : MatchId) :
    InStep (.cancelling reservation matchId) [] none [.cancelled reservation matchId]
  | cancelledReady (reservation : ReservationId) (matchId : MatchId) :
    InStep (.cancelling reservation matchId) [] none
      [.ready reservation matchId, .cancelled reservation matchId]
  | active (reservation : ReservationId) (matchId : MatchId) :
    InStep (.active reservation matchId) [] (some (reservation, matchId)) []
  | finished (reservation : ReservationId) (completion : MatchFinished) :
    InStep (.active reservation completion.matchId) [] none [.finished completion]

namespace ControlLink

/-- The game server has asked to be registered and no more. -/
structure Arriving (link : ControlLink) : Prop where
  session : link.sessionRegistered = false
  workers : ∀ worker : WorkerId, link.lobby.registry.workers[worker]? = none
  connections : ∀ connection : WorkerConnectionId,
    link.lobby.registry.connections[connection]? = none
  endpoints : ∀ endpoint : EndpointKey, link.lobby.registry.endpoints[endpoint]? = none
  asks : ∃ registration, isValidRegistration link.connection registration = true ∧
    registration.worker = link.control.worker ∧ link.toLobby = [.register registration]
  waits : link.toWorker = []
  holds : link.control.held = none
  unregistered : link.control.registered = false

/-- What the game server has still to hear about its registration. -/
def greeting (link : ControlLink) : List LobbyToWorkerMessage :=
  if link.control.registered then [] else [.registered link.control.worker]

/-- The game server is the only worker, and both sides are in step. -/
structure Registered (link : ControlLink) (record : WorkerRecord) : Prop where
  session : link.sessionRegistered = true
  found : link.lobby.registry.workers[link.control.worker]? = some record
  only : ∀ (worker : WorkerId) (other : WorkerRecord),
    link.lobby.registry.workers[worker]? = some other → worker = link.control.worker
  connection : record.connection = link.connection
  inStep : ∃ rest, link.toWorker = link.greeting ++ rest ∧
    InStep record.assignment rest link.control.held link.toLobby

/-- The connection is open and every message under way is legal. -/
structure Legal (link : ControlLink) : Prop where
  agree : LobbyServer.Agree link.lobby.service link.lobby.registry
  lobbyOpen : link.lobbyClosed = false
  workerOpen : link.control.closed = false
  phase : link.Arriving ∨ ∃ record, link.Registered record

/-! ### What the worker does -/

theorem Legal.step_eq {link : ControlLink} (h : link.Legal) (event : LinkEvent) :
    link.step event = link.act event := by
  rw [step, if_neg]
  simp [closed, h.lobbyOpen, h.workerOpen]

/-- The worker changed what it holds and answered. -/
theorem Registered.answered {link : ControlLink} {record : WorkerRecord} (h : link.Legal)
    (hregistered : link.Registered record) {toWorker : List LobbyToWorkerMessage}
    {held : Option (ReservationId × MatchId)} {toLobby : List WorkerToLobbyMessage}
    (hrest : ∃ rest, toWorker = link.greeting ++ rest ∧
      InStep record.assignment rest held toLobby) :
    ({ link with toWorker, toLobby, control := { link.control with held } } :
      ControlLink).Legal where
  agree := h.agree
  lobbyOpen := h.lobbyOpen
  workerOpen := h.workerOpen
  phase := Or.inr ⟨record, {
    session := hregistered.session
    found := hregistered.found
    only := hregistered.only
    connection := hregistered.connection
    inStep := hrest }⟩

theorem matchFinishes_legal {link : ControlLink} (h : link.Legal)
    {completion : MatchFinished} (huncrossed : link.Uncrossed (.matchFinishes completion)) :
    (link.step (.matchFinishes completion)).Legal := by
  rw [h.step_eq, act]
  have hunchanged : link.control.held = none →
      (link.answer (link.control.finishMatch completion)).Legal := by
    intro hnone
    rw [GameControl.finishMatch, hnone, answer, List.append_nil]
    exact h
  rcases h.phase with harriving | ⟨record, hregistered⟩
  · exact hunchanged harriving.holds
  · obtain ⟨rest, hwaiting, hstep⟩ := hregistered.inStep
    cases hheld : link.control.held with
    | none => exact hunchanged hheld
    | some pair =>
      have hquiet := huncrossed.resolve_left (by rw [hheld]; exact nofun)
      obtain ⟨reservation, matchId⟩ := pair
      have hfinished : link.control.finishMatch completion =
          ({ link.control with held := none }, [.finished { completion with matchId }]) := by
        simp only [GameControl.finishMatch, hheld]
      rw [hheld] at hstep
      rw [hfinished, answer]
      refine Registered.answered h hregistered ⟨rest, hwaiting, ?_⟩
      revert hstep
      generalize hassigned : record.assignment = assigned
      generalize htold : link.toLobby = told
      intro hstep
      cases hstep with
      | ready => exact .ended reservation { completion with matchId }
      | active => exact .finished reservation { completion with matchId }
      | cancelling =>
        have hcancel := hquiet (.cancel reservation matchId) (by simp [hwaiting])
        cases hcancel
      | cancellingReady =>
        have hcancel := hquiet (.cancel reservation matchId) (by simp [hwaiting])
        cases hcancel

theorem workerReceives_legal {link : ControlLink} (h : link.Legal) {initializes : Bool}
    (huncrossed : link.Uncrossed (.workerReceives initializes)) :
    (link.step (.workerReceives initializes)).Legal := by
  rw [h.step_eq, act]
  rcases h.phase with harriving | ⟨record, hregistered⟩
  · simp only [harriving.waits]
    exact h
  · obtain ⟨rest, hwaiting, hstep⟩ := hregistered.inStep
    cases hgreeted : link.control.registered with
    | false =>
      -- The worker hears of its registration first.
      have hgreeting : link.greeting = [.registered link.control.worker] := by
        rw [greeting, hgreeted]
        rfl
      rw [hgreeting] at hwaiting
      simp only [hwaiting, List.singleton_append, GameControl.handleControlFrame, hgreeted,
        Bool.false_eq_true, ne_eq, not_true_eq_false, or_self, if_false, answer,
        List.append_nil]
      exact {
        agree := h.agree
        lobbyOpen := h.lobbyOpen
        workerOpen := h.workerOpen
        phase := Or.inr ⟨record, {
          session := hregistered.session
          found := hregistered.found
          only := hregistered.only
          connection := hregistered.connection
          inStep := ⟨rest, rfl, hstep⟩ }⟩ }
    | true =>
      have hgreeting : link.greeting = [] := by
        rw [greeting, hgreeted]
        rfl
      rw [hgreeting, List.nil_append] at hwaiting
      subst hwaiting
      have hanswered : ∀ {toWorker : List LobbyToWorkerMessage}
          {held : Option (ReservationId × MatchId)} {toLobby : List WorkerToLobbyMessage},
          InStep record.assignment toWorker held toLobby →
          ({ link with toWorker, toLobby, control := { link.control with held } } :
            ControlLink).Legal := fun hnext =>
        Registered.answered h hregistered ⟨_, by rw [hgreeting]; rfl, hnext⟩
      revert hstep huncrossed hanswered
      generalize hassigned : record.assignment = assigned
      generalize htold : link.toLobby = told
      generalize hheld : link.control.held = held
      rw [Uncrossed]
      generalize hsent : link.toWorker = sent
      intro huncrossed hstep hanswered
      have hasked : ∀ value : ReserveMatch, held = none →
          link.control.handleControlFrame initializes (.reserve value) =
            if initializes then ({ link.control with
                held := some (value.reservation, value.matchId) },
              [.ready value.reservation value.matchId])
            else ({ link.control with held := none },
              [.rejected value.reservation value.matchId
                .simulationInitializationFailed]) := by
        intro value hnone
        simp [GameControl.handleControlFrame, GameControl.handleReservation, hgreeted,
          hheld, hnone]
      have hcancel : ∀ (reservation : ReservationId) (matchId : MatchId),
          held = some (reservation, matchId) →
          link.control.handleControlFrame initializes (.cancel reservation matchId) =
            ({ link.control with held := none }, [.cancelled reservation matchId]) := by
        intro reservation matchId hours
        simp [GameControl.handleControlFrame, hgreeted, hheld, hours]
      cases hstep with
      | asked value =>
        dsimp only
        rw [hasked value rfl]
        cases initializes with
        | true => exact hanswered (.ready value.reservation value.matchId)
        | false => exact hanswered (.rejected value.reservation value.matchId _)
      | withdrawn value =>
        dsimp only
        rw [hasked value rfl]
        cases initializes with
        | true => exact hanswered (.cancellingReady value.reservation value.matchId)
        | false =>
          rcases huncrossed with hnever | hother | hquiet
          · cases hnever
          · exact absurd rfl (hother value)
          · have hcancels := hquiet (.cancel value.reservation value.matchId) (by simp)
            cases hcancels
      | cancelling reservation matchId =>
        dsimp only
        rw [hcancel reservation matchId rfl]
        exact hanswered (.cancelled reservation matchId)
      | cancellingReady reservation matchId =>
        dsimp only
        rw [hcancel reservation matchId rfl]
        exact hanswered (.cancelledReady reservation matchId)
      | _ => exact h

/-! ### What the lobby does -/

theorem handleFrame_registered (link : ControlLink) (h : link.sessionRegistered = true)
    (message : WorkerToLobbyMessage) (now : TimePoint) :
    link.handleFrame message now =
      link.route (link.lobby.handleControl (.receive link.connection message) now) := by
  unfold handleFrame
  rw [if_pos h]

theorem route_quiet (link : ControlLink) (lobby : LobbyServer) {output : ServerOutput}
    (hquiet : output.control = []) (hopen : output.closeConnections = []) :
    link.route (lobby, .ok output) = { link with lobby, lobbyClosed := false } := by
  rw [route, hquiet, hopen]
  simp

theorem route_one (link : ControlLink) (lobby : LobbyServer) {output : ServerOutput}
    {message : LobbyToWorkerMessage}
    (hsent : output.control = [⟨link.connection, message⟩])
    (hopen : output.closeConnections = []) :
    link.route (lobby, .ok output) = { link with
      lobby, toWorker := link.toWorker ++ [message], lobbyClosed := false } := by
  rw [route, hsent, hopen]
  simp

/-- A worker that is the only one stays it. -/
theorem only_insert (workers : Std.ExtTreeMap WorkerId WorkerRecord) (worker : WorkerId)
    (next : WorkerRecord) (honly : ∀ (other : WorkerId) (record : WorkerRecord),
      workers[other]? = some record → other = worker) :
    (workers.insert worker next)[worker]? = some next ∧
      ∀ (other : WorkerId) (record : WorkerRecord),
        (workers.insert worker next)[other]? = some record → other = worker := by
  refine ⟨by rw [getElem?_insert, if_pos rfl], fun other record hother => ?_⟩
  rw [getElem?_insert] at hother
  split at hother
  · rename_i heq
    exact heq
  · exact honly other record hother

section Received

variable {link : ControlLink} {record : WorkerRecord}

/-- The lobby heard of its worker; the worker's record is now `next`. -/
theorem Registered.heard {next : WorkerRecord} (h : link.Legal)
    (hregistered : link.Registered record) {message : WorkerToLobbyMessage}
    {toLobby : List WorkerToLobbyMessage} {after : WorkerRegistry}
    {result : WorkerRegistryResult} (now : TimePoint)
    (hreceived : link.lobby.registry.receiveFrom record.connection link.control.worker
      record message = (after, result))
    (hquiet : result.outbound = []) (hopen : result.closeConnections = [])
    (hfound : after.workers[link.control.worker]? = some next ∧
      ∀ (other : WorkerId) (record : WorkerRecord),
        after.workers[other]? = some record → other = link.control.worker)
    (hconnection : next.connection = record.connection)
    (hstep : ∃ rest, link.toWorker = link.greeting ++ rest ∧
      InStep next.assignment rest link.control.held toLobby) :
    ({ link with toLobby }.handleFrame message now).Legal := by
  obtain ⟨service, output, hhandled, hagree, hcontrol, hclosed⟩ :=
    LobbyServer.handleControl_outcome h.agree (.receive link.connection message) now
  have hcall : link.lobby.registry.call
      (ControlEvent.receive link.connection message).registryCall = (after, result) := by
    have hours := LobbyServer.receive_found h.agree.workers hregistered.found message
    rw [hreceived, hregistered.connection] at hours
    exact hours
  rw [hcall] at hhandled hagree hcontrol hclosed
  rw [hquiet] at hcontrol
  rw [hopen] at hclosed
  rw [handleFrame_registered { link with toLobby } hregistered.session]
  dsimp only
  rw [hhandled, route_quiet _ _ hcontrol hclosed]
  exact {
    agree := hagree
    lobbyOpen := rfl
    workerOpen := h.workerOpen
    phase := Or.inr ⟨next, {
      session := hregistered.session
      found := hfound.1
      only := hfound.2
      connection := hconnection.trans hregistered.connection
      inStep := hstep }⟩ }

/-- What a worker is reserved for or lets go of is idle again. -/
theorem Registered.cleared (h : link.Legal) (hregistered : link.Registered record)
    {message : WorkerToLobbyMessage} {toLobby : List WorkerToLobbyMessage}
    {result : WorkerRegistryResult} (now : TimePoint)
    (hreceived : link.lobby.registry.receiveFrom record.connection link.control.worker
      record message =
        (link.lobby.registry.clearReservation link.control.worker record, result))
    (hquiet : result.outbound = []) (hopen : result.closeConnections = [])
    (hstep : ∃ rest, link.toWorker = link.greeting ++ rest ∧
      InStep .idle rest link.control.held toLobby) :
    ({ link with toLobby }.handleFrame message now).Legal :=
  Registered.heard h hregistered now hreceived hquiet hopen
    (only_insert _ _ _ hregistered.only) rfl hstep

/-- The worker of a reservation got ready. -/
theorem Registered.readied (h : link.Legal) (hregistered : link.Registered record)
    {reservation : ReservationId} {matchId : MatchId}
    (hassignment : record.assignment = .reserved reservation matchId)
    {toLobby : List WorkerToLobbyMessage} (now : TimePoint)
    (hstep : ∃ rest, link.toWorker = link.greeting ++ rest ∧
      InStep (.active reservation matchId) rest link.control.held toLobby) :
    ({ link with toLobby }.handleFrame (.ready reservation matchId) now).Legal := by
  obtain ⟨-, hheld, hmatched⟩ := WorkerRecord.assignment_eq_reserved.mp hassignment
  have hactive : ({ record with state := .active } : WorkerRecord).assignment =
      .active reservation matchId :=
    WorkerRecord.assignment_eq_active.mpr ⟨rfl, hheld, hmatched⟩
  rw [← hactive] at hstep
  exact Registered.heard h hregistered now (receiveReady_reserved _ _ _ hassignment) rfl rfl
    (only_insert _ _ _ hregistered.only) rfl hstep

/-- A worker gets ready whose reservation is being cancelled. -/
theorem Registered.ignored (h : link.Legal) (hregistered : link.Registered record)
    {reservation : ReservationId} {matchId : MatchId}
    (hassignment : record.assignment = .cancelling reservation matchId)
    {toLobby : List WorkerToLobbyMessage} (now : TimePoint)
    (hstep : ∃ rest, link.toWorker = link.greeting ++ rest ∧
      InStep record.assignment rest link.control.held toLobby) :
    ({ link with toLobby }.handleFrame (.ready reservation matchId) now).Legal :=
  Registered.heard h hregistered now (receiveReady_cancelling _ _ _ hassignment) rfl rfl
    ⟨hregistered.found, hregistered.only⟩ rfl hstep

theorem Registered.receives (h : link.Legal) (hregistered : link.Registered record)
    (now : TimePoint) {message : WorkerToLobbyMessage}
    {toLobby : List WorkerToLobbyMessage} (htold : link.toLobby = message :: toLobby) :
    ({ link with toLobby }.handleFrame message now).Legal := by
  obtain ⟨rest, hwaiting, hstep⟩ := hregistered.inStep
  rw [htold] at hstep
  generalize hassignment : record.assignment = assignment at hstep
  generalize hheld : link.control.held = held at hstep
  cases hstep with
  | ready reservation matchId =>
    exact Registered.readied h hregistered hassignment now
      ⟨_, hwaiting, hheld ▸ .active reservation matchId⟩
  | ended reservation completion =>
    exact Registered.readied h hregistered hassignment now
      ⟨_, hwaiting, hheld ▸ .finished reservation completion⟩
  | rejected reservation matchId reason =>
    exact Registered.cleared h hregistered now
      (receiveRejected_reserved _ _ _ hassignment reason) rfl rfl
      ⟨_, hwaiting, hheld ▸ .idle⟩
  | cancellingReady reservation matchId =>
    exact Registered.ignored h hregistered hassignment now
      ⟨_, hwaiting, hassignment ▸ hheld ▸ .cancelling reservation matchId⟩
  | cancelledReady reservation matchId =>
    exact Registered.ignored h hregistered hassignment now
      ⟨_, hwaiting, hassignment ▸ hheld ▸ .cancelled reservation matchId⟩
  | cancelled reservation matchId =>
    exact Registered.cleared h hregistered now
      (receiveCancelled_cancelling _ _ _ hassignment) rfl rfl ⟨_, hwaiting, hheld ▸ .idle⟩
  | finished reservation completion =>
    exact Registered.cleared h hregistered now
      (receiveFinished_active _ _ _ hassignment) rfl rfl ⟨_, hwaiting, hheld ▸ .idle⟩

/-- The game server is registered and idle. -/
theorem Arriving.receives (h : link.Legal) (harriving : link.Arriving) (now : TimePoint)
    {message : WorkerToLobbyMessage} {toLobby : List WorkerToLobbyMessage}
    (htold : link.toLobby = message :: toLobby) :
    ({ link with toLobby }.handleFrame message now).Legal := by
  obtain ⟨registration, hvalid, hworker, hasks⟩ := harriving.asks
  obtain ⟨rfl, rfl⟩ := List.cons.inj (htold.symm.trans hasks)
  have hregisters : link.lobby.registry.register link.connection registration =
      ({ link.lobby.registry with
        workers := link.lobby.registry.workers.insert registration.worker
          { connection := link.connection, registration }
        connections := link.lobby.registry.connections.insert link.connection
          registration.worker
        endpoints := link.lobby.registry.endpoints.insert registration.endpoint
          registration.worker },
      { accepted := true
        outbound := [⟨link.connection, .registered registration.worker⟩] }) := by
    simp [register, hvalid, Std.ExtTreeMap.contains_eq_isSome_getElem?,
      harriving.connections, harriving.workers, harriving.endpoints]
  obtain ⟨service, output, hhandled, hagree, hcontrol, hclosed⟩ :=
    LobbyServer.handleControl_outcome h.agree (.register link.connection registration) now
  have hcall : link.lobby.registry.call
      (ControlEvent.register link.connection registration).registryCall = _ := hregisters
  rw [hcall] at hhandled hagree hcontrol hclosed
  rw [handleFrame, if_neg (by simp [harriving.session])]
  dsimp only
  rw [hhandled, route_one { link with
    sessionRegistered := (link.lobby.registry.register link.connection
      registration).2.accepted
    toLobby := [] } _ hcontrol hclosed, hregisters]
  have hfound := only_insert link.lobby.registry.workers registration.worker
    { connection := link.connection, registration } fun other record hother => by
      rw [harriving.workers other] at hother
      cases hother
  exact {
    agree := hagree
    lobbyOpen := rfl
    workerOpen := h.workerOpen
    phase := Or.inr ⟨_, {
      session := rfl
      found := by
        rw [← hworker]
        exact hfound.1
      only := fun other record hother => (hfound.2 other record hother).trans hworker
      connection := rfl
      inStep := ⟨[], by simp [greeting, harriving.unregistered, harriving.waits, hworker],
        by rw [WorkerRecord.assignment_of_idle rfl, harriving.holds]; exact .idle⟩ }⟩ }

theorem lobbyReceives_legal (h : link.Legal) (now : TimePoint) :
    (link.step (.lobbyReceives now)).Legal := by
  rw [h.step_eq, act]
  cases htold : link.toLobby with
  | nil => exact h
  | cons message toLobby =>
    rcases h.phase with harriving | ⟨record, hregistered⟩
    · exact Arriving.receives h harriving now htold
    · exact Registered.receives h hregistered now htold

end Received

/-! ### What clients do -/

theorem execute_closes (registry : WorkerRegistry) (action : LobbyRuntimeAction)
    (now : TimePoint) : (registry.execute action now).2.closeConnections = [] := by
  cases action with
  | reserve action =>
    unfold execute executeReserve
    dsimp only
    split
    · rfl
    · split
      · rfl
      · split
        · rfl
        · split <;> rfl
  | cancel reservation matchId =>
    unfold execute executeCancel
    dsimp only
    split
    · rfl
    · split
      · rfl
      · split <;> rfl

section Asked

variable {link : ControlLink} {after : LobbyServer} {output : ServerOutput}

/-- The registry has nothing to do with what a client did. -/
theorem Legal.kept (h : link.Legal)
    (hagree : LobbyServer.Agree after.service after.registry)
    (hregistry : after.registry = link.lobby.registry) (hquiet : output.control = [])
    (hopen : output.closeConnections = []) : (link.route (after, .ok output)).Legal := by
  rw [route_quiet _ _ hquiet hopen]
  refine { agree := hagree, lobbyOpen := rfl, workerOpen := h.workerOpen, phase := ?_ }
  rcases h.phase with harriving | ⟨record, hregistered⟩
  · refine Or.inl { harriving with workers := ?_, connections := ?_, endpoints := ?_ }
    · intro worker
      rw [hregistry]
      exact harriving.workers worker
    · intro connection
      rw [hregistry]
      exact harriving.connections connection
    · intro endpoint
      rw [hregistry]
      exact harriving.endpoints endpoint
  · refine Or.inr ⟨record, { hregistered with found := ?_, only := ?_ }⟩
    · rw [hregistry]
      exact hregistered.found
    · intro worker other
      rw [hregistry]
      exact hregistered.only worker other

/-- The registry sent the worker a message and changed its record. -/
theorem Registered.sent {record next : WorkerRecord} (h : link.Legal)
    (hregistered : link.Registered record)
    (hagree : LobbyServer.Agree after.service after.registry)
    (hworkers : after.registry.workers =
      link.lobby.registry.workers.insert link.control.worker next)
    {message : LobbyToWorkerMessage}
    (hsent : output.control = [⟨record.connection, message⟩])
    (hopen : output.closeConnections = []) (hconnection : next.connection = record.connection)
    (hstep : ∀ rest, InStep record.assignment rest link.control.held link.toLobby →
      InStep next.assignment (rest ++ [message]) link.control.held link.toLobby) :
    (link.route (after, .ok output)).Legal := by
  rw [hregistered.connection] at hsent
  rw [route_one _ _ hsent hopen]
  obtain ⟨rest, hwaiting, hbefore⟩ := hregistered.inStep
  have hfound := only_insert link.lobby.registry.workers link.control.worker next
    hregistered.only
  rw [← hworkers] at hfound
  exact {
    agree := hagree
    lobbyOpen := rfl
    workerOpen := h.workerOpen
    phase := Or.inr ⟨next, {
      session := hregistered.session
      found := hfound.1
      only := hfound.2
      connection := hconnection.trans hregistered.connection
      inStep := ⟨rest ++ [message], by rw [hwaiting, List.append_assoc]; rfl,
        hstep rest hbefore⟩ }⟩ }

/-- A worker that the registry found is the one that is registered. -/
theorem Legal.registered (h : link.Legal) {worker : WorkerId} {record : WorkerRecord}
    (hfound : link.lobby.registry.workers[worker]? = some record) :
    worker = link.control.worker ∧ link.Registered record := by
  rcases h.phase with harriving | ⟨other, hregistered⟩
  · rw [harriving.workers worker] at hfound
    cases hfound
  · obtain rfl := hregistered.only worker record hfound
    obtain rfl := Option.some.inj (hregistered.found.symm.trans hfound)
    exact ⟨rfl, hregistered⟩

theorem Legal.reserved (h : link.Legal)
    (hagree : LobbyServer.Agree after.service after.registry)
    {action : ReserveMatchAction} {now : TimePoint} {result : WorkerRegistryResult}
    (hchange : RegistryChange link.lobby.registry (.execute (.reserve action) now)
      after.registry result) (hcontrol : output.control = result.outbound)
    (hopen : output.closeConnections = []) : (link.route (after, .ok output)).Legal := by
  generalize hregistry : after.registry = registry at hchange
  cases hchange with
  | unchanged call accepted closed hasked => cases hasked
  | lost call accepted closed worker record hfound hasked => cases hasked
  | refused => exact h.kept hagree hregistry hcontrol hopen
  | reserved _ _ worker record hnonzero hparticipants hfound hidle =>
    obtain ⟨rfl, hregistered⟩ := h.registered hfound
    have hworkers : after.registry.workers =
        link.lobby.registry.workers.insert link.control.worker ({ record with
          state := .reserved
          reservation := some action.reservation
          matchId := some action.matchId } : WorkerRecord) := by
      rw [hregistry]
    have hassigned : ({ record with
        state := .reserved
        reservation := some action.reservation
        matchId := some action.matchId } : WorkerRecord).assignment =
        .reserved action.reservation action.matchId :=
      WorkerRecord.assignment_eq_reserved.mpr ⟨rfl, rfl, rfl⟩
    refine Registered.sent h hregistered hagree hworkers hcontrol hopen rfl ?_
    intro rest hstep
    rw [WorkerRecord.assignment_of_idle hidle] at hstep
    rw [hassigned]
    generalize link.control.held = held at hstep ⊢
    generalize link.toLobby = told at hstep ⊢
    cases hstep with
    | idle => exact .asked (reserveMessage action now)

theorem Legal.cancelled (h : link.Legal)
    (hagree : LobbyServer.Agree after.service after.registry)
    (hquiet : ∀ message ∈ link.toLobby, message.declines = false)
    {reservation : ReservationId} {matchId : MatchId} {now : TimePoint}
    {result : WorkerRegistryResult}
    (hchange : RegistryChange link.lobby.registry
      (.execute (.cancel reservation matchId) now) after.registry result)
    (hcontrol : output.control = result.outbound)
    (hopen : output.closeConnections = []) : (link.route (after, .ok output)).Legal := by
  generalize hregistry : after.registry = registry at hchange
  cases hchange with
  | unchanged => exact h.kept hagree hregistry hcontrol hopen
  | lost call accepted closed worker record hfound hasked hcancels => cases hcancels
  | cancelling _ _ _ worker record hfound hreserved hheld hmatched =>
    obtain ⟨rfl, hregistered⟩ := h.registered hfound
    have hassigned := WorkerRecord.assignment_eq_reserved.mpr ⟨hreserved, hheld, hmatched⟩
    have hcancelling : ({ record with state := .cancelling } : WorkerRecord).assignment =
        .cancelling reservation matchId :=
      WorkerRecord.assignment_eq_cancelling.mpr ⟨rfl, hheld, hmatched⟩
    have hworkers : after.registry.workers =
        link.lobby.registry.workers.insert link.control.worker
          ({ record with state := .cancelling } : WorkerRecord) := by
      rw [hregistry]
      rfl
    refine Registered.sent h hregistered hagree hworkers hcontrol hopen rfl ?_
    intro rest hstep
    rw [hassigned] at hstep
    rw [hcancelling]
    generalize link.control.held = held at hstep ⊢
    generalize link.toLobby = told at hstep hquiet ⊢
    cases hstep with
    | asked value => exact .withdrawn value
    | ready => exact .cancellingReady reservation matchId
    | rejected _ _ reason =>
      have hdeclines := hquiet _ List.mem_cons_self
      cases hdeclines
    | ended _ completion =>
      have hdeclines := hquiet (.finished completion) (by simp)
      cases hdeclines

end Asked

theorem client_legal {link : ControlLink} (h : link.Legal) {event : ClientEvent}
    {now : TimePoint} (huncrossed : link.Uncrossed (.client event now)) :
    (link.step (.client event now)).Legal := by
  rw [h.step_eq, act]
  obtain ⟨after, output, hhandled, hagree, hunchanged | hasked⟩ :=
    LobbyServer.handleClient_outcome h.agree event now
  · obtain ⟨hregistry, hquiet, hopen⟩ := hunchanged
    rw [hhandled]
    exact h.kept hagree hregistry hquiet hopen
  · obtain ⟨first, result, action, hcall, hone, hasks, hregistry, hcontrol, hclosed⟩ := hasked
    rw [execute_closes] at hclosed
    rw [hhandled]
    have hchange : RegistryChange link.lobby.registry (.execute action now) after.registry
        (link.lobby.registry.execute action now).2 := by
      rw [hregistry]
      exact call_changes h.agree.workers (.execute action now)
    cases action with
    | reserve action => exact h.reserved hagree hchange hcontrol hclosed
    | cancel reservation matchId =>
      obtain ⟨middle, performed, hperformed, hchanges, -⟩ :=
        LobbyService.call_performs h.agree.lobby event.lobbyEvent
      rw [hcall] at hperformed
      cases hperformed
      have hleaves := hchanges.isDisconnect
        (by rw [hone]; exact List.mem_cons_self)
      cases event with
      | openConnection => cases hleaves
      | handle connection message time => cases hleaves
      | disconnect connection =>
        rcases huncrossed with hnone | hquiet
        · rw [LobbyService.disconnect_silent h.agree.lobby hnone hcall] at hone
          cases hone
        · exact h.cancelled hagree hquiet hchange hcontrol hclosed

/-! ## Runs -/

theorem legal_attach (tickets : MatchTicketRegistry) (config : LobbyServiceConfig)
    {connection : WorkerConnectionId} {registration : WorkerRegister}
    (hvalid : isValidRegistration connection registration = true) :
    (attach (.create tickets config) connection registration).Legal where
  agree := LobbyServer.agree_create tickets config
  lobbyOpen := rfl
  workerOpen := rfl
  phase := Or.inl {
    session := rfl
    workers := by simp [attach, LobbyServer.create]
    connections := by simp [attach, LobbyServer.create]
    endpoints := by simp [attach, LobbyServer.create]
    asks := ⟨registration, hvalid, rfl, rfl⟩
    waits := rfl
    holds := rfl
    unregistered := rfl }

theorem step_legal (link : ControlLink) (event : LinkEvent)
    (huncrossed : link.Uncrossed event) (h : link.Legal) : (link.step event).Legal := by
  cases event with
  | client event now => exact client_legal h huncrossed
  | lobbyReceives now => exact lobbyReceives_legal h now
  | workerReceives initializes => exact workerReceives_legal h huncrossed
  | matchFinishes completion => exact matchFinishes_legal h huncrossed

/-- A reservation reaches a worker that holds no match. -/
theorem Legal.reserve_free {link : ControlLink} (h : link.Legal) {value : ReserveMatch}
    {later : List LobbyToWorkerMessage} (hnext : link.toWorker = .reserve value :: later) :
    link.control.held = none := by
  rcases h.phase with harriving | ⟨record, hregistered⟩
  · exact harriving.holds
  · obtain ⟨rest, hwaiting, hstep⟩ := hregistered.inStep
    rw [hnext, greeting] at hwaiting
    split at hwaiting
    · rw [List.nil_append] at hwaiting
      subst hwaiting
      generalize record.assignment = assignment at hstep
      generalize link.control.held = held at hstep ⊢
      generalize link.toLobby = told at hstep
      cases hstep <;> rfl
    · cases hwaiting

/-- While no cancellation crosses a rejection or the end of a match, neither side closes
the connection, and a reservation reaches only a worker without a match. -/
theorem run_legal (tickets : MatchTicketRegistry) (config : LobbyServiceConfig)
    (connection : WorkerConnectionId) (registration : WorkerRegister)
    (hvalid : isValidRegistration connection registration = true)
    (events : List LinkEvent)
    (hmeets : Machine.Meets step Uncrossed
      (attach (.create tickets config) connection registration) events) :
    (Machine.run step (attach (.create tickets config) connection registration)
        events).closed = false ∧
      ∀ value later, (Machine.run step
          (attach (.create tickets config) connection registration) events).toWorker =
        .reserve value :: later →
        (Machine.run step (attach (.create tickets config) connection registration)
          events).control.held = none := by
  have hlegal : (Machine.run step
      (attach (.create tickets config) connection registration) events).Legal :=
    Machine.run_invariant_of_meets step_legal (legal_attach tickets config hvalid) hmeets
  refine ⟨?_, fun value later hnext => hlegal.reserve_free hnext⟩
  rw [closed, hlegal.lobbyOpen, hlegal.workerOpen]
  rfl

def someRegistration : WorkerRegister where
  worker := ⟨1⟩
  advertisedHost := [0x68]
  gameTcpPort := 1
  gameUdpPort := 2

/-- A worker registers and two players start a match. -/
def startedRun : List LinkEvent :=
  [.lobbyReceives 0, .workerReceives true,
    .client .openConnection 0, .client .openConnection 0,
    .client (.handle ⟨1⟩ (.hello 1) 0) 0, .client (.handle ⟨2⟩ (.hello 1) 0) 0,
    .client (.handle ⟨1⟩ (.createRoom 2) 0) 0,
    .client (.handle ⟨2⟩ (.joinRoom 2 ⟨1⟩) 0) 0,
    .client (.handle ⟨1⟩ (.setReady 3 true) 0) 0,
    .client (.handle ⟨2⟩ (.setReady 3 true) 0) 0,
    .client (.handle ⟨1⟩ (.startMatch 4) 0) 0]

/-- The worker gets ready for the match and reports its end. -/
def playedRun : List LinkEvent :=
  startedRun ++ [.workerReceives true, .lobbyReceives 0,
    .matchFinishes { matchId := ⟨1⟩, winner := ⟨1⟩, hasWinner := true }, .lobbyReceives 0]

theorem run_legal_played :
    isValidRegistration ⟨1⟩ someRegistration = true ∧
      (Machine.run step (attach (.create LobbyService.twoTickets {}) ⟨1⟩ someRegistration)
        playedRun).closed = false := by
  have hvalid : isValidRegistration ⟨1⟩ someRegistration = true := by decide +kernel
  refine ⟨hvalid, (run_legal LobbyService.twoTickets {} ⟨1⟩ someRegistration hvalid
    playedRun ?_).1⟩
  refine ⟨trivial, Or.inl rfl, trivial, trivial, trivial, trivial, trivial, trivial,
    trivial, trivial, trivial, Or.inl rfl, trivial, Or.inr ?_, trivial, trivial⟩
  decide +kernel

/-- A cancellation that crosses a rejection closes the connection. -/
theorem cancel_crosses_rejection :
    isValidRegistration ⟨1⟩ someRegistration = true ∧
      (Machine.run step (attach (.create LobbyService.twoTickets {}) ⟨1⟩ someRegistration)
        (startedRun ++ [.workerReceives false, .client (.disconnect ⟨1⟩) 0,
          .workerReceives true])).closed = true := by
  constructor <;> decide +kernel

end ControlLink

end SurvivalArena
