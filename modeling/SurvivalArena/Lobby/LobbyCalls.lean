import SurvivalArena.Lobby.LobbyRun

/-!
# Calls succeed

From a state that satisfies the invariant no call throws, and every call performs
a sequence of changes.
-/

namespace SurvivalArena

open Counter OrderedMap

/-- The call succeeds with a sequence of changes and asks for one thing at most. -/
def LobbyService.Performs (event : LobbyEvent) (before : LobbyService)
    (call : LobbyCall) : Prop :=
  ∃ after result, call = (after, .ok result) ∧
    LobbyChanges event before after result.actions ∧ result.actions.length ≤ 1

/-- The call succeeds and leaves the connections alone. -/
def LobbyService.PerformsAway (event : LobbyEvent) (before : LobbyService)
    (call : LobbyCall) : Prop :=
  ∃ after result, call = (after, .ok result) ∧
    LobbyChanges event before after result.actions ∧ result.actions.length ≤ 1 ∧
    after.connections = before.connections

namespace LobbyService

variable {event : LobbyEvent}

theorem PerformsAway.performs {before : LobbyService} {call : LobbyCall}
    (h : before.PerformsAway event call) : before.Performs event call := by
  obtain ⟨after, result, hcall, hchanges, hlength, -⟩ := h
  exact ⟨after, result, hcall, hchanges, hlength⟩

theorem performs_unchanged (service : LobbyService) (result : LobbyServiceResult)
    (hactions : result.actions = []) :
    service.Performs event (service, .ok result) := by
  refine ⟨service, result, rfl, ?_⟩
  rw [hactions]
  exact ⟨.none service, Nat.zero_le 1⟩

theorem performsAway_unchanged (service : LobbyService) :
    service.PerformsAway event (service, .ok {}) :=
  ⟨service, {}, rfl, .none service, Nat.zero_le 1, rfl⟩

theorem performs_reject (service : LobbyService) (connection : ConnectionId)
    (requestId : UInt32) (error : LobbyError) :
    service.Performs event (service.reject connection requestId error) :=
  service.performs_unchanged _ rfl

/-- A change whose messages can be built is performed. -/
theorem performs_change {before after : LobbyService}
    {actions : List LobbyRuntimeAction}
    (hchange : LobbyChange event before after actions) {α : Type}
    {step : Except Exception α} {result : α → LobbyServiceResult}
    (hstep : ∃ a, step = .ok a) (hactions : ∀ a, (result a).actions = actions) :
    before.Performs event (attempt after step fun a => (after, .ok (result a))) := by
  obtain ⟨a, rfl⟩ := hstep
  refine ⟨after, result a, rfl, ?_⟩
  rw [hactions]
  exact ⟨hchange.changes, hchange.length_actions⟩

/-- A change that asks for nothing is performed. -/
theorem performs_silent {before after : LobbyService}
    (hchange : LobbyChange event before after []) {call : LobbyCall}
    (h : ∃ result, call = (after, .ok result) ∧ result.actions = []) :
    before.Performs event call := by
  obtain ⟨result, rfl, hactions⟩ := h
  refine ⟨after, result, rfl, ?_⟩
  rw [hactions]
  exact ⟨hchange.changes, Nat.zero_le 1⟩

/-! ## Messages -/

/-- The connections of the members who are connected. -/
def connected (service : LobbyService) (room : Room) : List ConnectionId :=
  room.players.filterMap (service.playerToConnection[·]?)

theorem broadcastSnapshot_eq (service : LobbyService) {room : Room}
    {roomId : RoomId} (h : room.Valid roomId) (requester : Option ConnectionId)
    (requestId : UInt32) :
    service.broadcastSnapshot room requester requestId =
      .ok ((service.connected room).map fun connection =>
        ⟨connection, .roomSnapshot
          (room.view (if some connection = requester then requestId else 0))⟩) := by
  apply except_mapM_ok
  intro connection _
  simp only [h.snapshot_eq]
  rfl

theorem broadcastSnapshot_exists (service : LobbyService) {room : Room}
    {roomId : RoomId} (h : room.Valid roomId) (requester : Option ConnectionId)
    (requestId : UInt32) :
    ∃ outbound, service.broadcastSnapshot room requester requestId =
      .ok outbound :=
  ⟨_, service.broadcastSnapshot_eq h requester requestId⟩

/-- The summary of a room that can be joined. -/
def summary (entry : RoomId × Room) : Option RoomSummary :=
  if entry.2.state ≠ .waiting then none
  else some {
    room := entry.1
    players := UInt8.ofNat entry.2.members.size
    capacity := UInt8.ofNat roomCapacity }

theorem roomList_eq {service : LobbyService} (h : service.Invariant)
    (requestId : UInt32) :
    service.roomList requestId =
      .ok (.roomList requestId (service.rooms.toList.filterMap summary)) := by
  have hsummaries : service.rooms.toList.mapM
      (fun entry => roomSummary entry.1 entry.2) =
        .ok (service.rooms.toList.map summary) := by
    apply except_mapM_ok
    intro ⟨roomId, room⟩ hentry
    have hfound := Std.ExtTreeMap.mem_toList_iff_getElem?_eq_some.mp hentry
    have hsize : (room.view 0).members.length = room.members.size := by
      simp [Room.view]
    simp only [roomSummary, (h.rooms.valid roomId room hfound).snapshot_eq, summary,
      bind, Except.bind, hsize]
    change (if room.state ≠ .waiting then _ else _) = _
    split
    · rfl
    · rfl
  rw [roomList, hsummaries]
  simp only [bind, Except.bind, List.filterMap_map, Function.id_comp]
  rfl

theorem roomList_exists {service : LobbyService} (h : service.Invariant)
    (requestId : UInt32) : ∃ message, service.roomList requestId = .ok message :=
  ⟨_, roomList_eq h requestId⟩

theorem startingRoom_eq {service : LobbyService} (h : service.Invariant)
    {roomId : RoomId} {room : Room} (hfound : service.rooms[roomId]? = some room) :
    service.startingRoom roomId =
      .ok (if room.state = .starting then some room else none) := by
  obtain ⟨snapshot, hsnapshot, hstate, -⟩ :=
    (h.rooms.valid roomId room hfound).snapshot 0
  rw [startingRoom, hfound]
  apply except_bind_eq_ok.mpr
  exact ⟨snapshot, hsnapshot, by rw [hstate]; rfl⟩

theorem Invariant.roomOf {service : LobbyService} (h : service.Invariant)
    {player : PlayerId} {roomId : RoomId}
    (hplayer : service.playerToRoom[player]? = some roomId) :
    ∃ room, service.rooms[roomId]? = some room ∧ player ∈ room.members :=
  (h.rooms.membership player roomId).mp hplayer

/-! ## Leaving a room -/

theorem leaveResult_exists (service : LobbyService) (player oldHost : PlayerId)
    (roomId : RoomId) (room : Room) (hroom : room.empty = false → room.Valid roomId)
    (requester : Option ConnectionId) :
    ∃ result, service.leaveResult player oldHost roomId room requester =
      .ok result ∧ result.actions = [] := by
  unfold leaveResult
  split
  · exact ⟨_, rfl, rfl⟩
  · rename_i hmore
    have hvalid := hroom (Bool.eq_false_iff.mpr hmore)
    obtain ⟨outbound, houtbound⟩ :=
      service.broadcastSnapshot_exists hvalid none 0
    refine ⟨{ outbound
              audit := service.hostTransfer roomId oldHost room.host }, ?_, rfl⟩
    apply except_bind_eq_ok.mpr
    refine ⟨room.host, hvalid.getHost, ?_⟩
    exact except_bind_eq_ok.mpr ⟨outbound, houtbound, rfl⟩

/-- Leaving a waiting room asks the worker side for nothing. -/
theorem leaveWaitingRoom_silent {service : LobbyService} (h : service.Invariant)
    (player : PlayerId) (requester : Option ConnectionId) (requestId : UInt32) :
    ∃ after result, service.leaveWaitingRoom player requester requestId =
        (after, .ok result) ∧
      result.actions = [] ∧ LobbyChanges event service after [] ∧
      after.connections = service.connections := by
  unfold leaveWaitingRoom
  cases hplayer : service.playerToRoom[player]? with
  | none => exact ⟨service, {}, rfl, rfl, .none service, rfl⟩
  | some roomId =>
    obtain ⟨room, hfound, hmember⟩ := h.roomOf hplayer
    have hvalid := h.rooms.valid roomId room hfound
    simp only [hfound, hvalid.getHost, attempt_ok]
    cases hleave : room.leave player with
    | error error =>
      exact ⟨service, _, rfl, by cases requester <;> rfl, .none service, rfl⟩
    | ok remaining =>
      obtain ⟨hwaiting, -, rfl⟩ := Room.leave_eq_ok.mp hleave
      have hchange : LobbyChange event service _ [] :=
        .left player roomId room hplayer hfound hwaiting
      have hafter := hchange.invariant h
      obtain ⟨result, hresult, hactions⟩ := leaveResult_exists
        (service.removeMember player roomId (room.without player)) player
        room.host roomId (room.without player) hvalid.without requester
      simp only [hresult, attempt_ok]
      cases requester with
      | none => exact ⟨_, result, rfl, hactions, hchange.changes, rfl⟩
      | some connection =>
        obtain ⟨rooms, hrooms⟩ := roomList_exists hafter requestId
        simp only [hrooms, attempt_ok]
        exact ⟨_, _, rfl, hactions, hchange.changes, rfl⟩

theorem leaveWaitingRoom_performs {service : LobbyService} (h : service.Invariant)
    (player : PlayerId) (requester : Option ConnectionId) (requestId : UInt32) :
    service.PerformsAway event
      (service.leaveWaitingRoom player requester requestId) := by
  obtain ⟨after, result, hcall, hactions, hchanges, hconnections⟩ :=
    leaveWaitingRoom_silent h player requester requestId
  refine ⟨after, result, hcall, ?_⟩
  rw [hactions]
  exact ⟨hchanges, Nat.zero_le 1, hconnections⟩

/-! ## Requests -/

theorem handleHello_performs {service : LobbyService} {connection : ConnectionId}
    {state : ConnectionState}
    (hfound : service.connections[connection]? = some state)
    (requestId : UInt32) :
    service.Performs event (service.handleHello connection state requestId) := by
  unfold handleHello
  split
  · exact performs_reject _ _ _ _
  · rename_i hunnamed
    cases hnext : service.nextPlayer with
    | none => exact performs_reject _ _ _ _
    | some value =>
      have hchange : LobbyChange event service _ [] := .welcomed connection state value
        hfound (by simpa using hunnamed) hnext
      exact ⟨_, _, rfl, hchange.changes, Nat.zero_le 1⟩

theorem handleListRooms_performs {service : LobbyService}
    (h : service.Invariant) (connection : ConnectionId) (requestId : UInt32) :
    service.Performs event (service.handleListRooms connection requestId) := by
  obtain ⟨rooms, hrooms⟩ := roomList_exists h requestId
  simp only [handleListRooms, hrooms, attempt_ok]
  exact service.performs_unchanged _ rfl

theorem handleCreateRoom_performs {service : LobbyService}
    (h : service.Invariant) (connection : ConnectionId) (player : PlayerId)
    (requestId : UInt32) :
    service.Performs event
      (service.handleCreateRoom connection player requestId) := by
  unfold handleCreateRoom
  split
  · exact performs_reject _ _ _ _
  · rename_i hplayer
    split
    · exact performs_reject _ _ _ _
    · rename_i hroomy
      cases hroom : service.nextRoom with
      | none => exact performs_reject _ _ _ _
      | some value =>
        cases hordinal : service.nextJoinOrdinal with
        | none => exact performs_reject _ _ _ _
        | some joinOrdinal =>
          have hfresh : service.rooms.contains ⟨value⟩ = false := by
            rw [Std.ExtTreeMap.contains_eq_isSome_getElem?,
              h.rooms.fresh hroom]
            rfl
          have habsent : service.playerToRoom[player]? = none := by
            simpa using hplayer
          simp only [hfresh, Bool.false_eq_true, if_false]
          apply performs_change
            (.created player value joinOrdinal habsent hroom hordinal
              (not_le.mp hroomy))
          · exact broadcastSnapshot_exists _
              (Room.valid_create ⟨value⟩ player joinOrdinal) _ _
          · exact fun _ => rfl

theorem handleJoinRoom_performs {service : LobbyService} (h : service.Invariant)
    (connection : ConnectionId) (player : PlayerId) (requestId : UInt32)
    (roomId : RoomId) :
    service.Performs event
      (service.handleJoinRoom connection player requestId roomId) := by
  unfold handleJoinRoom
  split
  · exact performs_reject _ _ _ _
  · rename_i hplayer
    have habsent : service.playerToRoom[player]? = none := by
      simpa using hplayer
    cases hfound : service.rooms[roomId]? with
    | none => exact performs_reject _ _ _ _
    | some room =>
      have hvalid := h.rooms.valid roomId room hfound
      obtain ⟨before, hbefore, hstate, hsize⟩ := hvalid.snapshot 0
      simp only [hbefore, attempt_ok, hstate, hsize]
      split
      · exact performs_reject _ _ _ _
      · rename_i hwaiting
        split
        · exact performs_reject _ _ _ _
        · rename_i hroomy
          cases hnext : service.nextJoinOrdinal with
          | none => exact performs_reject _ _ _ _
          | some ordinal =>
            have hjoins : room.join player ordinal = .ok { room with
                members := room.members.insert player
                  { player, joinOrdinal := ordinal } } :=
              Room.join_eq_ok.mpr ⟨not_not.mp hwaiting,
                h.rooms.absent habsent hfound, not_le.mp hroomy, rfl⟩
            have hjoined := hvalid.join hjoins fun other member hmember =>
              h.rooms.usedOrdinals roomId room other member hfound hmember
                ordinal hnext
            simp only [hjoins]
            apply performs_change
              (.joined player roomId room _ ordinal habsent hfound hnext hjoins)
            · exact broadcastSnapshot_exists _ hjoined _ _
            · exact fun _ => rfl

theorem handleLeaveRoom_performs {service : LobbyService}
    (h : service.Invariant) (connection : ConnectionId) (player : PlayerId)
    (requestId : UInt32) :
    service.Performs event (service.handleLeaveRoom connection player requestId) := by
  unfold handleLeaveRoom
  split
  · exact (leaveWaitingRoom_performs h player _ _).performs
  · exact performs_reject _ _ _ _

theorem handleSetReady_performs {service : LobbyService} (h : service.Invariant)
    (connection : ConnectionId) (player : PlayerId) (requestId : UInt32)
    (ready : Bool) :
    service.Performs event
      (service.handleSetReady connection player requestId ready) := by
  unfold handleSetReady
  cases hplayer : service.playerToRoom[player]? with
  | none => exact performs_reject _ _ _ _
  | some roomId =>
    obtain ⟨room, hfound, -⟩ := h.roomOf hplayer
    simp only [hfound]
    cases hsets : room.setReady player ready with
    | error error => exact performs_reject _ _ _ _
    | ok changed =>
      have hvalid := (h.rooms.valid roomId room hfound).setReady hsets
      apply performs_change
        (.readied player ready roomId room changed hfound hsets)
      · exact broadcastSnapshot_exists _ hvalid _ _
      · exact fun _ => rfl

/-! ## Starting a match -/

/-- Every player gets a ticket unless one fails. -/
theorem issueTickets_length {matchId : MatchId} {now : TimePoint}
    {players : List PlayerId} {issued tickets : List MatchTicketValue}
    {registry after : MatchTicketRegistry}
    (h : issueTickets matchId now players issued registry = (after, .ok tickets)) :
    tickets.length = issued.length + players.length := by
  induction players generalizing issued registry with
  | nil =>
    obtain ⟨-, htickets⟩ := Prod.mk.inj h
    obtain rfl := Except.ok.inj htickets
    simp
  | cons player players ih =>
    rw [issueTickets] at h
    generalize registry.issue matchId player now = issue at h
    obtain ⟨next, _ | ticket⟩ := issue
    · cases (Prod.mk.inj h).2
    · have hlength := ih h
      simp only [List.length_append, List.length_cons, List.length_nil]
        at hlength ⊢
      omega

theorem beginStarting_eq {room : Room} {player : PlayerId}
    (h : room.validateStart player = none) :
    room.beginStarting = .ok { room with state := .starting } := by
  obtain ⟨-, hhost, -⟩ := Room.validateStart_eq_none h
  rw [Room.beginStarting, ← hhost, h]
  rfl

/-- A start that is undone leaves the room as it was. -/
theorem rollbackStart_eq {before service : LobbyService} {roomId : RoomId}
    {room : Room} (hfound : before.rooms[roomId]? = some room)
    (hwaiting : room.state = .waiting)
    (hrooms : service.rooms =
      before.rooms.insert roomId { room with state := .starting })
    (connection : ConnectionId) (player : PlayerId) (requestId : UInt32)
    (matchId : MatchId) (issued : List MatchTicketValue) (error : LobbyError) :
    let after := { service with
      tickets := service.tickets.revoke issued, rooms := before.rooms }
    service.rollbackStart connection player requestId roomId matchId
        { room with state := .starting } issued error =
      attempt after (after.broadcastSnapshot room none 0) fun outbound =>
        (after, .ok {
          outbound := outbound ++ [⟨connection, .error requestId error⟩]
          audit := [{ type := .startFailed, connection := some connection
                      player := some player, room := some roomId
                      matchId := some matchId, error := some error }] }) := by
  have hsame : ({ room with state := .waiting } : Room) = room := by
    rw [← hwaiting]
  have hrestored : service.rooms.insert roomId room = before.rooms := by
    rw [hrooms]
    exact insert_insert_self _ hfound _
  simp only [rollbackStart, Room.returnToWaiting, ne_eq, not_true_eq_false,
    if_false, attempt_ok, hsame, hrestored]

theorem startAction_players {service : LobbyService} {player : PlayerId}
    {requestId : UInt32} {now : TimePoint} {roomId : RoomId} {room : Room}
    {matchId : MatchId} {reservation : ReservationId}
    {tickets : List MatchTicketValue}
    (h : tickets.length = room.players.length) :
    (service.startAction player requestId now roomId room matchId reservation
      tickets).participants.map ReservedParticipant.player = room.players := by
  simp only [startAction, List.map_map]
  exact List.map_fst_zip h.ge

theorem startAction_tickets {service : LobbyService} {player : PlayerId}
    {requestId : UInt32} {now : TimePoint} {roomId : RoomId} {room : Room}
    {matchId : MatchId} {reservation : ReservationId}
    {tickets : List MatchTicketValue}
    (h : tickets.length = room.players.length) :
    (service.startAction player requestId now roomId room matchId reservation
      tickets).tickets = tickets := by
  simp only [startAction, ReserveMatchAction.tickets, List.map_map]
  exact List.map_snd_zip h.le

/-- A room that passed validation starts once all tickets are issued. -/
theorem reserveMatch_eq {service : LobbyService} (h : service.Invariant)
    {player : PlayerId} {roomId : RoomId} {room : Room}
    (hfound : service.rooms[roomId]? = some room)
    (hstart : room.validateStart player = none) {matchValue reservationValue : UInt64}
    (hmatch : service.nextMatch = some matchValue)
    (hreservation : service.nextReservation = some reservationValue)
    {now : TimePoint} {tickets : MatchTicketRegistry}
    {issued : List MatchTicketValue} (hevent : event.startTime = some now)
    (hissues : issueTickets ⟨matchValue⟩ now room.players [] service.tickets =
      (tickets, .ok issued)) (connection : ConnectionId) (requestId : UInt32) :
    let action := service.startAction player requestId now roomId room ⟨matchValue⟩
      ⟨reservationValue⟩ issued
    ∃ after, LobbyChange event service after [.reserve action] ∧
      after.playerToConnection = service.playerToConnection ∧
      reserveMatch { service with
          nextMatch := advance matchValue
          nextReservation := advance reservationValue
          tickets
          rooms := service.rooms.insert roomId { room with state := .starting } }
        connection { room with state := .starting } action =
      attempt after (after.broadcastSnapshot { room with state := .starting }
        (some connection) requestId) fun outbound =>
          (after, .ok { outbound, actions := [.reserve action] }) := by
  have hwaiting := (Room.validateStart_eq_none hstart).1
  have hlength : issued.length = room.players.length := by
    have hlength := issueTickets_length hissues
    simpa using hlength
  have hroom : service.roomToReservation[roomId]? = none := by
    apply h.matchmaking.roomNotReserved
    rw [roomState_eq hfound, hwaiting]
    decide
  have hnew : service.pendingReservations[(⟨reservationValue⟩ :
      ReservationId)]? = none := h.matchmaking.notReserved hreservation
  have hcontains : (service.pendingReservations.contains ⟨reservationValue⟩ ||
      service.roomToReservation.contains roomId) = false := by
    rw [Std.ExtTreeMap.contains_eq_isSome_getElem?,
      Std.ExtTreeMap.contains_eq_isSome_getElem?, hnew, hroom]
    rfl
  have hchange := LobbyChange.reserved (service.startAction player requestId now
      roomId room ⟨matchValue⟩ ⟨reservationValue⟩ issued) room tickets hevent hfound
    hstart hmatch hreservation (startAction_players hlength)
    (by rw [startAction_tickets hlength]; exact hissues)
  refine ⟨_, hchange, rfl, ?_⟩
  change (if (service.pendingReservations.contains ⟨reservationValue⟩ ||
    service.roomToReservation.contains roomId) = true then _ else _) = _
  rw [if_neg (Bool.eq_false_iff.mp hcontains)]
  rfl

theorem handleStartMatch_performs {service : LobbyService}
    (h : service.Invariant) (connection : ConnectionId) (player : PlayerId)
    (requestId : UInt32) {now : TimePoint} (hevent : event.startTime = some now) :
    service.Performs event
      (service.handleStartMatch connection player requestId now) := by
  unfold handleStartMatch
  cases hplayer : service.playerToRoom[player]? with
  | none => exact performs_reject _ _ _ _
  | some roomId =>
    obtain ⟨room, hfound, -⟩ := h.roomOf hplayer
    have hvalid := h.rooms.valid roomId room hfound
    simp only [hfound]
    cases hstart : room.validateStart player with
    | some error => exact performs_reject _ _ _ _
    | none =>
      have hwaiting := (Room.validateStart_eq_none hstart).1
      cases hmatch : service.nextMatch with
      | none => exact performs_reject _ _ _ _
      | some matchValue =>
        cases hreservation : service.nextReservation with
        | none => exact performs_reject _ _ _ _
        | some reservationValue =>
          simp only [beginStarting_eq hstart, attempt_ok]
          generalize hissues : issueTickets ⟨matchValue⟩ now room.players []
            service.tickets = issues
          obtain ⟨tickets, issued | issued⟩ := issues
          · have hchange := LobbyChange.rolledBack matchValue reservationValue now
              hevent room tickets issued hmatch hreservation hissues
            dsimp only
            rw [rollbackStart_eq hfound hwaiting rfl]
            exact performs_change hchange (broadcastSnapshot_exists _ hvalid _ _)
              fun _ => rfl
          · obtain ⟨after, hchange, -, heq⟩ := reserveMatch_eq h hfound hstart hmatch
              hreservation hevent hissues connection requestId
            refine (congrArg (service.Performs event) heq).mpr ?_
            exact performs_change hchange
              (broadcastSnapshot_exists _ (hvalid.withState .starting) _ _)
              fun _ => rfl

/-! ## The end of a reservation or a match -/

/-- A pending reservation names a room that is starting. -/
theorem Invariant.pendingRoom {service : LobbyService} (h : service.Invariant)
    {reservation : ReservationId} {action : ReserveMatchAction}
    (hpending : service.pendingReservations[reservation]? = some { action }) :
    ∃ room, service.rooms[action.room]? = some room ∧
      room.state = .starting := by
  have hroom := h.matchmaking.reservationOf hpending
  have hstate : roomState service.rooms action.room = some .starting := by
    rw [h.matchmaking.starting, hroom]
    rfl
  obtain ⟨room, hfound, -⟩ := Option.map_eq_some_iff.mp hstate
  exact ⟨room, hfound, h.starting hpending hfound⟩

/-- A reservation that is given up releases its room. -/
theorem failPendingReservation_releases {service : LobbyService}
    (h : service.Invariant) {reservation : ReservationId} {action : ReserveMatchAction}
    (hpending : service.pendingReservations[reservation]? = some { action })
    (error : LobbyError) :
    ∃ room, service.rooms[action.room]? = some room ∧
      ∃ result, service.failPendingReservation reservation error =
        (service.releaseRoom reservation action room, .ok result) ∧
        result.actions = [] := by
  obtain ⟨room, hfound, hstarting⟩ := h.pendingRoom hpending
  have hvalid := h.rooms.valid action.room room hfound
  have hroom : (service.forgetReservation reservation action.room
      action).startingRoom action.room = .ok (some room) := by
    have heq := startingRoom_eq h hfound
    rw [if_pos hstarting] at heq
    exact heq
  refine ⟨room, hfound, ?_⟩
  simp only [failPendingReservation, hpending, hroom, attempt_ok, Room.returnToWaiting,
    hstarting, ne_eq, not_true_eq_false, if_false]
  rw [broadcastSnapshot_eq _ (hvalid.withState .waiting), attempt_ok]
  exact ⟨_, rfl, rfl⟩

theorem failPendingReservation_performs {service : LobbyService}
    (h : service.Invariant) (htold : event.isClient = false)
    (reservation : ReservationId) (error : LobbyError) :
    service.Performs event (service.failPendingReservation reservation error) := by
  cases hpending : service.pendingReservations[reservation]? with
  | none =>
    rw [failPendingReservation, hpending]
    exact service.performs_unchanged _ rfl
  | some pending =>
    obtain ⟨room, hfound, hreleases⟩ :=
      failPendingReservation_releases h hpending error
    exact performs_silent (.failed reservation _ room htold hpending hfound) hreleases

theorem disconnectStartingPlayer_performs {service : LobbyService}
    (h : service.Invariant) (hleaves : event.isDisconnect = true) (player : PlayerId)
    (roomId : RoomId) :
    service.PerformsAway event (service.disconnectStartingPlayer player roomId) := by
  unfold disconnectStartingPlayer
  cases hreserved : service.roomToReservation[roomId]? with
  | none => exact service.performsAway_unchanged
  | some reservation =>
    have hroom := (h.matchmaking.reservations roomId reservation).mp hreserved
    obtain ⟨⟨action⟩, hpending, rfl⟩ := Option.map_eq_some_iff.mp hroom
    obtain ⟨room, hfound, hstarting⟩ := h.pendingRoom hpending
    have hnamed : action.reservation = reservation :=
      h.matchmaking.named reservation { action } hpending
    have hchange : LobbyChange event service _ _ :=
      .cancelled reservation action room hpending hfound hleaves
    have hafter := hchange.invariant h
    obtain ⟨after, result, hleft, hactions, hchanges, hconnections⟩ :=
      leaveWaitingRoom_silent hafter player none 0
    have hrooms : (service.forgetReservation reservation action.room
        action).rooms[action.room]? = some room := hfound
    simp only [hpending, hrooms, Room.returnToWaiting, hstarting, ne_eq,
      not_true_eq_false, if_false, attempt_ok]
    rw [releaseRoom] at hleft
    simp only [hleft, attempt_ok]
    have hall := LobbyChanges.next hchange hchanges
    refine ⟨after, _, rfl, ?_, ?_, hconnections⟩
    · simpa only [startFailed, hactions, List.nil_append, List.append_nil] using hall
    · simp [startFailed, hactions]

/-- A match that its worker ends is closed. -/
theorem finishActiveMatch_closes {service : LobbyService} (h : service.Invariant)
    {matchId : MatchId} {record : ActiveMatch}
    (hactive : service.activeMatches[matchId]? = some record) (unavailable : Bool) :
    ∃ room, service.rooms[record.room]? = some room ∧
      ∃ result, service.finishActiveMatch record.worker matchId unavailable =
        (service.closeMatch matchId record room, .ok result) ∧
        result.actions = [] := by
  have hstate := (h.matchmaking.inMatch record.room).mpr
    ⟨matchId, record, hactive, rfl⟩
  obtain ⟨room, hfound, -⟩ := Option.map_eq_some_iff.mp hstate
  have hchange : LobbyChange (.workerEvent (.matchFinished record.worker matchId) 0)
      service (service.closeMatch matchId record room) [] :=
    .finished matchId record room rfl hactive hfound
  refine ⟨room, hfound, ?_⟩
  simp only [finishActiveMatch, hactive, ne_eq, not_true_eq_false, if_false, hfound]
  obtain ⟨messages, hmessages⟩ : ∃ messages,
      (room.players.filterMap (service.playerToConnection[·]?)).mapM
        (fun recipient => do
          let rooms ← (service.closeMatch matchId record room).roomList 0
          pure ((if unavailable then
              [OutboundMessage.mk recipient (.error 0 .matchUnavailable)]
            else []) ++ [⟨recipient, rooms⟩])) =
        (.ok messages : Except Exception (List (List OutboundMessage))) := by
    apply except_mapM_exists
    intro recipient _
    obtain ⟨rooms, hrooms⟩ := roomList_exists (hchange.invariant h) 0
    exact ⟨_, except_bind_eq_ok.mpr ⟨rooms, hrooms, rfl⟩⟩
  rw [closeMatch] at hmessages
  rw [hmessages, attempt_ok]
  exact ⟨_, rfl, rfl⟩

theorem finishActiveMatch_performs {service : LobbyService}
    (h : service.Invariant) (htold : event.isClient = false) (worker : WorkerId)
    (matchId : MatchId) (unavailable : Bool) :
    service.Performs event (service.finishActiveMatch worker matchId unavailable) := by
  cases hactive : service.activeMatches[matchId]? with
  | none =>
    rw [finishActiveMatch, hactive]
    exact service.performs_unchanged _ rfl
  | some record =>
    by_cases hworker : record.worker = worker
    · subst hworker
      obtain ⟨room, hfound, hcloses⟩ := finishActiveMatch_closes h hactive unavailable
      exact performs_silent (.finished matchId record room htold hactive hfound) hcloses
    · simp only [finishActiveMatch, hactive, ne_eq, hworker, not_false_eq_true, if_true]
      exact service.performs_unchanged _ rfl

/-! ## Worker events -/

/-- The worker, its endpoint and the time left allow a match. -/
def CanBegin (action : ReserveMatchAction) (worker : WorkerId) (endpoint : GameEndpoint)
    (now : TimePoint) : Prop :=
  ¬(worker.value = 0 ∨ endpoint.isValid = false ∨ remainingSeconds action now < 1)

/-- A reservation whose worker got ready in time becomes a match. -/
theorem handleReservationReady_begins {service : LobbyService} (h : service.Invariant)
    {reservation : ReservationId} {action : ReserveMatchAction}
    (hpending : service.pendingReservations[reservation]? = some { action })
    {worker : WorkerId} {endpoint : GameEndpoint} {now : TimePoint}
    (hbegin : CanBegin action worker endpoint now) :
    ∃ room, service.rooms[action.room]? = some room ∧
      ∃ result, service.handleReservationReady reservation action.matchId worker endpoint
          now = (service.enterMatch reservation action room worker, .ok result) ∧
        result.actions = [] := by
  obtain ⟨room, hfound, hstarting⟩ := h.pendingRoom hpending
  have hvalid := h.rooms.valid action.room room hfound
  have hroom : startingRoom { service with
      pendingReservations := service.pendingReservations.erase reservation
      roomToReservation := service.roomToReservation.erase action.room }
      action.room = .ok (some room) := by
    have heq := startingRoom_eq h hfound
    rw [if_pos hstarting] at heq
    exact heq
  refine ⟨room, hfound, ?_⟩
  rw [CanBegin] at hbegin
  simp only [handleReservationReady, hpending, ne_eq, not_true_eq_false, if_false,
    if_neg hbegin, hroom, attempt_ok, beginMatch, Room.markInMatch, hstarting]
  rw [broadcastSnapshot_eq _ (hvalid.withState .inMatch), attempt_ok]
  exact ⟨_, rfl, rfl⟩

theorem handleReservationReady_performs {service : LobbyService}
    (h : service.Invariant) (htold : event.isClient = false)
    (reservation : ReservationId) (matchId : MatchId) (worker : WorkerId)
    (endpoint : GameEndpoint) (now : TimePoint) :
    service.Performs event (service.handleReservationReady reservation matchId worker
      endpoint now) := by
  cases hpending : service.pendingReservations[reservation]? with
  | none =>
    rw [handleReservationReady, hpending]
    exact service.performs_unchanged _ rfl
  | some pending =>
    obtain ⟨action⟩ := pending
    by_cases hmatch : action.matchId = matchId
    · subst hmatch
      by_cases hbegin : CanBegin action worker endpoint now
      · obtain ⟨room, hfound, hbegins⟩ :=
          handleReservationReady_begins h hpending hbegin
        exact performs_silent (.begun reservation action room worker htold hpending hfound)
          hbegins
      · simp only [handleReservationReady, hpending, ne_eq, not_true_eq_false, if_false,
          if_pos (not_not.mp hbegin)]
        exact failPendingReservation_performs h htold reservation _
    · simp only [handleReservationReady, hpending, ne_eq, hmatch, not_false_eq_true,
        if_true]
      exact service.performs_unchanged _ rfl

theorem handleReservationFailed_performs {service : LobbyService}
    (h : service.Invariant) (htold : event.isClient = false)
    (reservation : ReservationId) (matchId : MatchId) :
    service.Performs event
      (service.handleReservationFailed reservation matchId) := by
  unfold handleReservationFailed
  cases hpending : service.pendingReservations[reservation]? with
  | none => exact service.performs_unchanged _ rfl
  | some pending =>
    dsimp only
    split
    · exact service.performs_unchanged _ rfl
    · exact failPendingReservation_performs h htold reservation _

theorem handleWorkerEvent_performs {service : LobbyService}
    (h : service.Invariant) (htold : event.isClient = false) (told : WorkerEvent)
    (now : TimePoint) :
    service.Performs event (service.handleWorkerEvent told now) := by
  cases told with
  | reservationReady reservation matchId worker endpoint =>
    exact handleReservationReady_performs h htold _ _ _ _ _
  | reservationFailed reservation matchId =>
    exact handleReservationFailed_performs h htold _ _
  | matchFinished worker matchId => exact finishActiveMatch_performs h htold _ _ _
  | matchUnavailable worker matchId => exact finishActiveMatch_performs h htold _ _ _

/-! ## Clients -/

theorem handleRequest_performs {service : LobbyService} (h : service.Invariant)
    (connection : ConnectionId) (player : PlayerId) (message : ClientMessage)
    (now : TimePoint) :
    service.Performs (.handle connection message now)
      (service.handleRequest connection player message now) := by
  cases message with
  | hello requestId => exact performs_reject _ _ _ _
  | listRooms requestId => exact handleListRooms_performs h _ _
  | createRoom requestId => exact handleCreateRoom_performs h _ _ _
  | joinRoom requestId room => exact handleJoinRoom_performs h _ _ _ _
  | leaveRoom requestId => exact handleLeaveRoom_performs h _ _ _
  | setReady requestId ready => exact handleSetReady_performs h _ _ _ _
  | startMatch requestId => exact handleStartMatch_performs h _ _ _ rfl

/-- What follows a change is performed from before it. -/
theorem Performs.after {before middle : LobbyService} {call : LobbyCall}
    (h : middle.Performs event call) (hchange : LobbyChange event before middle []) :
    before.Performs event call := by
  obtain ⟨after, result, hcall, hchanges, hlength⟩ := h
  exact ⟨after, result, hcall, .next hchange hchanges, hlength⟩

/-- The service once it has noted a request's id. -/
def received (service : LobbyService) (connection : ConnectionId)
    (state : ConnectionState) (requestId : UInt32) : LobbyService :=
  { service with
    connections := service.connections.insert connection
      { state with lastRequestId := requestId } }

/-- What becomes of a request with an id in order. -/
theorem handle_accepted {service : LobbyService} {connection : ConnectionId}
    {state : ConnectionState} (hfound : service.connections[connection]? = some state)
    {message : ClientMessage}
    (hordered : ¬(message.requestId = 0 ∨ message.requestId ≤ state.lastRequestId))
    (now : TimePoint) :
    let noted := service.received connection state message.requestId
    service.handle connection message now =
        noted.handleHello connection
          { state with lastRequestId := message.requestId } message.requestId ∨
      service.handle connection message now =
        noted.reject connection message.requestId .notWelcomed ∨
      ∃ player, state.player = some player ∧
        service.handle connection message now =
          noted.handleRequest connection player message now := by
  simp only [handle, hfound, if_neg hordered]
  split
  · exact Or.inl rfl
  · exact Or.inr (Or.inl rfl)
  · rename_i hplayer
    exact Or.inr (Or.inr ⟨_, hplayer, rfl⟩)

theorem received_change {service : LobbyService} {connection : ConnectionId}
    {state : ConnectionState} (hfound : service.connections[connection]? = some state)
    {requestId : UInt32}
    (hordered : ¬(requestId = 0 ∨ requestId ≤ state.lastRequestId)) :
    LobbyChange event service (service.received connection state requestId) [] :=
  .received connection state requestId hfound
    (not_le.mp fun hle => hordered (Or.inr hle))

theorem handle_performs {service : LobbyService} (h : service.Invariant)
    (connection : ConnectionId) (message : ClientMessage) (now : TimePoint) :
    service.Performs (.handle connection message now)
      (service.handle connection message now) := by
  cases hfound : service.connections[connection]? with
  | none =>
    rw [handle, hfound]
    exact service.performs_unchanged _ rfl
  | some state =>
    by_cases hordered : message.requestId = 0 ∨ message.requestId ≤ state.lastRequestId
    · rw [handle, hfound]
      dsimp only
      rw [if_pos hordered]
      exact performs_reject _ _ _ _
    · have hchange : LobbyChange (.handle connection message now) service _ [] :=
        received_change hfound hordered
      have hself : (service.received connection state
          message.requestId).connections[connection]? =
          some { state with lastRequestId := message.requestId } := by
        rw [received, getElem?_insert, if_pos rfl]
      rcases handle_accepted hfound hordered now with heq | heq | ⟨player, -, heq⟩
      · rw [heq]
        exact (handleHello_performs hself _).after hchange
      · rw [heq]
        exact (performs_reject _ _ _ _).after hchange
      · rw [heq]
        exact (handleRequest_performs (hchange.invariant h) _ _ _ _).after hchange

theorem disconnectPlayer_performs {service : LobbyService}
    (h : service.Invariant) (hleaves : event.isDisconnect = true) (player : PlayerId) :
    service.PerformsAway event (service.disconnectPlayer player) := by
  unfold disconnectPlayer
  cases hplayer : service.playerToRoom[player]? with
  | none => exact service.performsAway_unchanged
  | some roomId =>
    obtain ⟨room, hfound, -⟩ := h.roomOf hplayer
    obtain ⟨snapshot, hsnapshot, -⟩ :=
      (h.rooms.valid roomId room hfound).snapshot 0
    simp only [hfound, hsnapshot, attempt_ok]
    split
    · exact disconnectStartingPlayer_performs h hleaves player roomId
    · exact leaveWaitingRoom_performs h player none 0
    · exact service.performsAway_unchanged

theorem disconnect_performs {service : LobbyService} (h : service.Invariant)
    (hleaves : event.isDisconnect = true) (connection : ConnectionId) :
    service.Performs event (service.disconnect connection) := by
  unfold disconnect
  cases hfound : service.connections[connection]? with
  | none => exact service.performs_unchanged _ rfl
  | some state =>
    dsimp only
    cases hplayer : state.player with
    | none =>
      have hchange : LobbyChange event service _ [] :=
        .forgotten connection state hfound hplayer
      exact ⟨_, _, rfl, hchange.changes, Nat.zero_le 1⟩
    | some player =>
      obtain ⟨middle, result, hcall, hchanges, hlength, hconnections⟩ :=
        disconnectPlayer_performs h hleaves player
      rw [← hconnections] at hfound
      have hclosed : LobbyChange event middle _ [] :=
        .closed connection state player hfound hplayer
      simp only [hcall, attempt_ok]
      refine ⟨_, result, rfl, ?_, hlength⟩
      rw [← List.append_nil result.actions]
      exact hchanges.trans hclosed.changes

/-- Every call succeeds with a sequence of changes. -/
theorem call_performs {service : LobbyService} (h : service.Invariant)
    (event : LobbyEvent) :
    service.Performs event (service.call event) := by
  cases event with
  | openConnection =>
    show service.Performs .openConnection (service.openConnection.1, .ok {})
    unfold openConnection
    cases hnext : service.nextConnection with
    | none => exact service.performs_unchanged _ rfl
    | some value =>
      have hchange : LobbyChange .openConnection service _ [] := .opened value hnext
      exact ⟨_, _, rfl, hchange.changes, Nat.zero_le 1⟩
  | handle connection message now => exact handle_performs h _ _ _
  | disconnect connection => exact disconnect_performs h rfl _
  | workerEvent event now => exact handleWorkerEvent_performs h rfl _ _

theorem step_invariant (service : LobbyService) (event : LobbyEvent)
    (h : service.Invariant) : (service.step event).Invariant := by
  obtain ⟨after, result, hcall, hchanges, -⟩ := call_performs h event
  rw [step, hcall]
  exact hchanges.invariant h

end LobbyService

end SurvivalArena
