import SurvivalArena.Lobby.LobbyConsistency
import SurvivalArena.Lobby.TicketIssue

/-!
# Requests and their answers

A request of a known connection gets exactly one message with its id, the ids a
connection's requests are accepted with increase, and a request that is answered
with an error changes nothing but tickets that had expired.
-/

namespace SurvivalArena

open Counter OrderedMap

namespace LobbyService

/-! ## The answer among the messages -/

/-- One message answers the request, the others carry no request id. -/
def Answers (connection : ConnectionId) (requestId : UInt32) (answer : ServerMessage)
    (outbound : List OutboundMessage) : Prop :=
  ∃ first second, outbound = first ++ ⟨connection, answer⟩ :: second ∧
    answer.requestId = requestId ∧
    ∀ other ∈ first ++ second, other.message.requestId = 0

theorem answers_singleton {connection : ConnectionId} {requestId : UInt32}
    {answer : ServerMessage} (h : answer.requestId = requestId) :
    Answers connection requestId answer [⟨connection, answer⟩] :=
  ⟨[], [], rfl, h, by simp⟩

/-- The answer after messages without a request id. -/
theorem answers_last {connection : ConnectionId} {requestId : UInt32}
    {answer : ServerMessage} {outbound : List OutboundMessage}
    (h : answer.requestId = requestId)
    (hzero : ∀ other ∈ outbound, other.message.requestId = 0) :
    Answers connection requestId answer (outbound ++ [⟨connection, answer⟩]) :=
  ⟨outbound, [], rfl, h, by simpa using hzero⟩

/-- An id of its own is carried by the answer only. -/
theorem Answers.count {connection : ConnectionId} {requestId : UInt32}
    {answer : ServerMessage} {outbound : List OutboundMessage}
    (h : Answers connection requestId answer outbound) (hid : requestId ≠ 0) :
    outbound.countP (fun message => message.recipient = connection ∧
        message.message.requestId = requestId) = 1 ∧
      ∀ message ∈ outbound, ¬(message.recipient = connection ∧
        message.message.requestId = requestId) → message.message.requestId = 0 := by
  obtain ⟨first, second, rfl, hanswer, hzero⟩ := h
  have hnone : ∀ other ∈ first ++ second, ¬(decide (other.recipient = connection ∧
      other.message.requestId = requestId) = true) := by
    intro other hother hmatch
    rw [decide_eq_true_eq] at hmatch
    exact hid (hmatch.2 ▸ hzero other hother)
  constructor
  · have hzeroCount := List.countP_eq_zero.mpr hnone
    rw [List.countP_append] at hzeroCount
    rw [List.countP_append, List.countP_cons, if_pos (by simp [hanswer])]
    omega
  · intro message hmessage hother
    rw [List.mem_append, List.mem_cons] at hmessage
    rcases hmessage with hmessage | rfl | hmessage
    · exact hzero message (List.mem_append_left _ hmessage)
    · exact absurd ⟨rfl, hanswer⟩ hother
    · exact hzero message (List.mem_append_right _ hmessage)

/-- The message with the request's id is the answer. -/
theorem Answers.eq_of_mem {connection : ConnectionId} {requestId : UInt32}
    {answer other : ServerMessage} {outbound : List OutboundMessage}
    (h : Answers connection requestId answer outbound) (hid : requestId ≠ 0)
    {recipient : ConnectionId} (hmem : ⟨recipient, other⟩ ∈ outbound)
    (hother : other.requestId = requestId) : answer = other := by
  obtain ⟨first, second, rfl, hanswer, hzero⟩ := h
  rw [List.mem_append, List.mem_cons] at hmem
  rcases hmem with hmem | heq | hmem
  · have hnone := hzero _ (List.mem_append_left second hmem)
    exact absurd (hother.symm.trans hnone) hid
  · exact (OutboundMessage.mk.inj heq).2.symm
  · have hnone := hzero _ (List.mem_append_right first hmem)
    exact absurd (hother.symm.trans hnone) hid

theorem connected_nodup {service : LobbyService} (h : service.Invariant)
    (room : Room) : (service.connected room).Nodup := by
  apply room.players_nodup.filterMap
  intro first second connection hfirst hsecond
  exact h.clients.inverse.injective hfirst hsecond

/-- The requester is answered in the broadcast to a room with the requester. -/
theorem broadcast_answers {service : LobbyService} (h : service.Invariant)
    {room : Room} {player : PlayerId} {connection : ConnectionId}
    (hmember : player ∈ room.members)
    (hconnected : service.playerToConnection[player]? = some connection)
    (requestId : UInt32) :
    Answers connection requestId (.roomSnapshot (room.view requestId))
      ((service.connected room).map fun recipient =>
        ⟨recipient, .roomSnapshot (room.view
          (if some recipient = some connection then requestId else 0))⟩) := by
  have hnodup := connected_nodup h room
  have hmem : connection ∈ service.connected room :=
    List.mem_filterMap.mpr ⟨player, Room.mem_players.mpr hmember, hconnected⟩
  obtain ⟨first, second, hsplit⟩ := List.append_of_mem hmem
  rw [hsplit] at hnodup ⊢
  have hother : ∀ other ∈ first ++ second, other ≠ connection := by
    rw [List.nodup_middle, List.nodup_cons] at hnodup
    intro other hmem heq
    exact hnodup.1 (heq ▸ hmem)
  refine ⟨_, _, by rw [List.map_append, List.map_cons, if_pos rfl], rfl, ?_⟩
  rw [← List.map_append]
  intro message hmessage
  obtain ⟨recipient, hrecipient, rfl⟩ := List.mem_map.mp hmessage
  have hne := hother recipient hrecipient
  simp [ServerMessage.requestId, Room.view, hne]

/-- A broadcast that answers nobody carries no request id. -/
theorem broadcast_zero (service : LobbyService) (room : Room) :
    ∀ other ∈ (service.connected room).map fun recipient =>
        (⟨recipient, .roomSnapshot (room.view
          (if some recipient = none then (0 : UInt32) else 0))⟩ : OutboundMessage),
      other.message.requestId = 0 := by
  intro other hother
  obtain ⟨recipient, -, rfl⟩ := List.mem_map.mp hother
  rfl

/-! ## What an error leaves -/

/-- Everything but the counters, the last request ids and the ticket source is as
before; expired tickets may be gone. -/
structure Unchanged (purge : Option TimePoint) (before after : LobbyService) :
    Prop where
  rooms : after.rooms = before.rooms
  playerToRoom : after.playerToRoom = before.playerToRoom
  playerToConnection : after.playerToConnection = before.playerToConnection
  players : playerOf after.connections = playerOf before.connections
  pendingReservations : after.pendingReservations = before.pendingReservations
  roomToReservation : after.roomToReservation = before.roomToReservation
  activeMatches : after.activeMatches = before.activeMatches
  tickets : after.tickets.tickets = before.tickets.tickets ∨
    ∃ now ∈ purge, after.tickets.tickets = (before.tickets.purgeExpired now).tickets

theorem Unchanged.refl (purge : Option TimePoint) (service : LobbyService) :
    Unchanged purge service service :=
  ⟨rfl, rfl, rfl, rfl, rfl, rfl, rfl, Or.inl rfl⟩

/-- A start that fails inside the lobby has purged the expired tickets. -/
def purgeFor (purge : Option TimePoint) (error : LobbyError) : Option TimePoint :=
  if error = .internalError then purge else none

/-- The call answers the request, and with an error only if it changed nothing. -/
def Responds (purge : Option TimePoint) (before : LobbyService)
    (connection : ConnectionId) (requestId : UInt32) (call : LobbyCall) : Prop :=
  ∃ after result answer, call = (after, .ok result) ∧
    Answers connection requestId answer result.outbound ∧
    ∀ error, answer = .error requestId error →
      Unchanged (purgeFor purge error) before after ∧ result.actions = []

theorem responds_reject (purge : Option TimePoint) (service : LobbyService)
    (connection : ConnectionId) (requestId : UInt32) (error : LobbyError) :
    service.Responds purge connection requestId
      (service.reject connection requestId error) :=
  ⟨service, _, .error requestId error, rfl, answers_singleton rfl,
    fun _ _ => ⟨.refl _ service, rfl⟩⟩

/-- A broadcast to a room with the requester answers the request. -/
theorem responds_broadcast {before after : LobbyService} (h : after.Invariant)
    (purge : Option TimePoint) {room : Room} {roomId : RoomId}
    (hvalid : room.Valid roomId) {player : PlayerId} {connection : ConnectionId}
    (hmember : player ∈ room.members)
    (hconnected : after.playerToConnection[player]? = some connection)
    (requestId : UInt32) {result : List OutboundMessage → LobbyServiceResult}
    (hresult : ∀ outbound, (result outbound).outbound = outbound) :
    before.Responds purge connection requestId
      (attempt after (after.broadcastSnapshot room (some connection) requestId)
        fun outbound => (after, .ok (result outbound))) := by
  rw [after.broadcastSnapshot_eq hvalid, attempt_ok]
  refine ⟨after, _, .roomSnapshot (room.view requestId), rfl, ?_, ?_⟩
  · rw [hresult]
    exact broadcast_answers h hmember hconnected requestId
  · intro error heq
    cases heq

/-! ## Requests -/

section Requests

variable {service : LobbyService} {connection : ConnectionId} {requestId : UInt32}

theorem handleHello_responds (purge : Option TimePoint) (state : ConnectionState) :
    service.Responds purge connection requestId
      (service.handleHello connection state requestId) := by
  unfold handleHello
  split
  · exact responds_reject _ _ _ _ _
  · cases service.nextPlayer with
    | none => exact responds_reject _ _ _ _ _
    | some value =>
      refine ⟨_, _, .welcome requestId ⟨value⟩, rfl, answers_singleton rfl, ?_⟩
      intro error heq
      cases heq

theorem handleListRooms_responds (h : service.Invariant) :
    service.Responds none connection requestId
      (service.handleListRooms connection requestId) := by
  rw [handleListRooms, roomList_eq h, attempt_ok]
  refine ⟨_, _, _, rfl, answers_singleton rfl, ?_⟩
  intro error heq
  cases heq

variable {player : PlayerId}

theorem handleCreateRoom_responds (h : service.Invariant)
    (hconnected : service.playerToConnection[player]? = some connection) :
    service.Responds none connection requestId
      (service.handleCreateRoom connection player requestId) := by
  unfold handleCreateRoom
  split
  · exact responds_reject _ _ _ _ _
  · rename_i hplayer
    split
    · exact responds_reject _ _ _ _ _
    · rename_i hroomy
      cases hroom : service.nextRoom with
      | none => exact responds_reject _ _ _ _ _
      | some value =>
        cases hordinal : service.nextJoinOrdinal with
        | none => exact responds_reject _ _ _ _ _
        | some joinOrdinal =>
          have hfresh : service.rooms.contains ⟨value⟩ = false := by
            rw [Std.ExtTreeMap.contains_eq_isSome_getElem?,
              h.rooms.fresh hroom]
            rfl
          have habsent : service.playerToRoom[player]? = none := by
            simpa using hplayer
          have hchange : LobbyChange .openConnection service _ [] :=
            .created player value joinOrdinal habsent hroom hordinal (not_le.mp hroomy)
          simp only [hfresh, Bool.false_eq_true, if_false]
          exact responds_broadcast (hchange.invariant h) none
            (Room.valid_create ⟨value⟩ player joinOrdinal) (Room.mem_create.mpr rfl)
            hconnected requestId fun _ => rfl

theorem handleJoinRoom_responds (h : service.Invariant)
    (hconnected : service.playerToConnection[player]? = some connection)
    (roomId : RoomId) :
    service.Responds none connection requestId
      (service.handleJoinRoom connection player requestId roomId) := by
  unfold handleJoinRoom
  split
  · exact responds_reject _ _ _ _ _
  · rename_i hplayer
    have habsent : service.playerToRoom[player]? = none := by
      simpa using hplayer
    cases hfound : service.rooms[roomId]? with
    | none => exact responds_reject _ _ _ _ _
    | some room =>
      have hvalid := h.rooms.valid roomId room hfound
      obtain ⟨before, hbefore, hstate, hsize⟩ := hvalid.snapshot 0
      simp only [hbefore, attempt_ok, hstate, hsize]
      split
      · exact responds_reject _ _ _ _ _
      · rename_i hwaiting
        split
        · exact responds_reject _ _ _ _ _
        · rename_i hroomy
          cases hnext : service.nextJoinOrdinal with
          | none => exact responds_reject _ _ _ _ _
          | some ordinal =>
            have hjoins : room.join player ordinal = .ok { room with
                members := room.members.insert player
                  { player, joinOrdinal := ordinal } } :=
              Room.join_eq_ok.mpr ⟨not_not.mp hwaiting,
                h.rooms.absent habsent hfound, not_le.mp hroomy, rfl⟩
            have hjoined := hvalid.join hjoins fun other member hmember =>
              h.rooms.usedOrdinals roomId room other member hfound hmember
                ordinal hnext
            have hchange : LobbyChange .openConnection service _ [] :=
              .joined player roomId room _ ordinal habsent hfound hnext hjoins
            simp only [hjoins]
            exact responds_broadcast (hchange.invariant h) none hjoined
              (Room.mem_joined.mpr (Or.inl rfl)) hconnected requestId fun _ => rfl

theorem leaveResult_zero (after : LobbyService) (player oldHost : PlayerId)
    (roomId : RoomId) (room : Room) (hroom : room.empty = false → room.Valid roomId)
    (requester : Option ConnectionId) :
    ∃ result, after.leaveResult player oldHost roomId room requester = .ok result ∧
      ∀ other ∈ result.outbound, other.message.requestId = 0 := by
  unfold leaveResult
  split
  · exact ⟨_, rfl, by simp⟩
  · rename_i hmore
    have hvalid := hroom (Bool.eq_false_iff.mpr hmore)
    refine ⟨{ outbound := _
              audit := after.hostTransfer roomId oldHost room.host }, ?_,
      after.broadcast_zero room⟩
    apply except_bind_eq_ok.mpr
    refine ⟨room.host, hvalid.getHost, ?_⟩
    exact except_bind_eq_ok.mpr ⟨_, after.broadcastSnapshot_eq hvalid none 0, rfl⟩

theorem handleLeaveRoom_responds (h : service.Invariant) :
    service.Responds none connection requestId
      (service.handleLeaveRoom connection player requestId) := by
  unfold handleLeaveRoom
  split
  · rename_i hplayer
    unfold leaveWaitingRoom
    cases hroom : service.playerToRoom[player]? with
    | none =>
      rw [Std.ExtTreeMap.contains_eq_isSome_getElem?, hroom] at hplayer
      cases hplayer
    | some roomId =>
      obtain ⟨room, hfound, -⟩ := h.roomOf hroom
      have hvalid := h.rooms.valid roomId room hfound
      simp only [hfound, hvalid.getHost, attempt_ok]
      cases hleave : room.leave player with
      | error error => exact responds_reject _ _ _ _ _
      | ok remaining =>
        obtain ⟨hwaiting, -, rfl⟩ := Room.leave_eq_ok.mp hleave
        have hchange : LobbyChange .openConnection service _ [] :=
          .left player roomId room hroom hfound hwaiting
        obtain ⟨result, hresult, hzero⟩ := leaveResult_zero
          (service.removeMember player roomId (room.without player)) player room.host
          roomId (room.without player) hvalid.without (some connection)
        simp only [hresult, attempt_ok, roomList_eq (hchange.invariant h)]
        refine ⟨_, _, _, rfl, answers_last rfl hzero, ?_⟩
        intro error heq
        cases heq
  · exact responds_reject _ _ _ _ _

theorem handleSetReady_responds (h : service.Invariant)
    (hconnected : service.playerToConnection[player]? = some connection)
    (ready : Bool) :
    service.Responds none connection requestId
      (service.handleSetReady connection player requestId ready) := by
  unfold handleSetReady
  cases hplayer : service.playerToRoom[player]? with
  | none => exact responds_reject _ _ _ _ _
  | some roomId =>
    obtain ⟨room, hfound, -⟩ := h.roomOf hplayer
    simp only [hfound]
    cases hsets : room.setReady player ready with
    | error error => exact responds_reject _ _ _ _ _
    | ok changed =>
      have hvalid := (h.rooms.valid roomId room hfound).setReady hsets
      have hchange : LobbyChange .openConnection service _ [] :=
        .readied player ready roomId room changed hfound hsets
      obtain ⟨-, member, -, rfl⟩ := Room.setReady_eq_ok.mp hsets
      exact responds_broadcast (hchange.invariant h) none hvalid
        (Room.mem_joined.mpr (Or.inl rfl)) hconnected requestId fun _ => rfl

theorem handleStartMatch_responds (h : service.Invariant)
    (hconnected : service.playerToConnection[player]? = some connection)
    (now : TimePoint) :
    service.Responds (some now) connection requestId
      (service.handleStartMatch connection player requestId now) := by
  unfold handleStartMatch
  cases hplayer : service.playerToRoom[player]? with
  | none => exact responds_reject _ _ _ _ _
  | some roomId =>
    obtain ⟨room, hfound, hmember⟩ := h.roomOf hplayer
    have hvalid := h.rooms.valid roomId room hfound
    simp only [hfound]
    cases hstart : room.validateStart player with
    | some error => exact responds_reject _ _ _ _ _
    | none =>
      have hwaiting := (Room.validateStart_eq_none hstart).1
      cases hmatch : service.nextMatch with
      | none => exact responds_reject _ _ _ _ _
      | some matchValue =>
        cases hreservation : service.nextReservation with
        | none => exact responds_reject _ _ _ _ _
        | some reservationValue =>
          simp only [beginStarting_eq hstart, attempt_ok]
          generalize hissues : issueTickets ⟨matchValue⟩ now room.players []
            service.tickets = issues
          obtain ⟨tickets, issued | issued⟩ := issues
          · dsimp only
            rw [rollbackStart_eq hfound hwaiting rfl,
              broadcastSnapshot_eq _ hvalid, attempt_ok]
            refine ⟨_, _, _, rfl, answers_last rfl (broadcast_zero _ room), ?_⟩
            intro error heq
            obtain rfl : LobbyError.internalError = error := (ServerMessage.error.inj heq).2
            have hplayers : room.players ≠ [] :=
              List.ne_nil_of_mem (Room.mem_players.mpr hmember)
            exact ⟨⟨rfl, rfl, rfl, rfl, rfl, rfl, rfl,
              Or.inr ⟨now, rfl, issueTickets_revoke hplayers hissues⟩⟩, rfl⟩
          · have hevent : (LobbyEvent.handle connection (.startMatch requestId)
                now).startTime = some now := rfl
            obtain ⟨after, hchange, hsame, heq⟩ := reserveMatch_eq h hfound hstart
              hmatch hreservation hevent hissues connection requestId
            refine (congrArg (service.Responds (some now) connection requestId)
              heq).mpr ?_
            rw [← hsame] at hconnected
            exact responds_broadcast (hchange.invariant h) (some now)
              (hvalid.withState .starting) hmember hconnected requestId fun _ => rfl

theorem handleRequest_responds (h : service.Invariant)
    (hconnected : service.playerToConnection[player]? = some connection)
    (message : ClientMessage) (now : TimePoint) :
    service.Responds (message.startTime now) connection message.requestId
      (service.handleRequest connection player message now) := by
  cases message with
  | hello requestId => exact responds_reject _ _ _ _ _
  | listRooms requestId => exact handleListRooms_responds h
  | createRoom requestId => exact handleCreateRoom_responds h hconnected
  | joinRoom requestId room => exact handleJoinRoom_responds h hconnected room
  | leaveRoom requestId => exact handleLeaveRoom_responds h
  | setReady requestId ready => exact handleSetReady_responds h hconnected ready
  | startMatch requestId => exact handleStartMatch_responds h hconnected now

end Requests

/-! ## The answer to every request -/

theorem Unchanged.received {service : LobbyService} {connection : ConnectionId}
    {state : ConnectionState} (hfound : service.connections[connection]? = some state)
    {requestId : UInt32} {purge : Option TimePoint} {after : LobbyService}
    (h : Unchanged purge (service.received connection state requestId) after) :
    Unchanged purge service after := by
  have hplayer : state.player = playerOf service.connections connection := by
    rw [playerOf, hfound]
    rfl
  have hplayers : playerOf (service.received connection state requestId).connections =
      playerOf service.connections := by
    rw [LobbyService.received, playerOf_insert, hplayer, Function.update_eq_self]
  exact { h with players := h.players.trans hplayers }

/-- The messages and the effect of a request on a known connection. -/
theorem handle_responds {service : LobbyService} (h : service.Invariant)
    {connection : ConnectionId} {state : ConnectionState}
    (hfound : service.connections[connection]? = some state)
    (message : ClientMessage) (now : TimePoint) :
    ∃ after result, service.handle connection message now = (after, .ok result) ∧
      result.outbound.countP (fun outbound => outbound.recipient = connection ∧
        outbound.message.requestId = message.requestId) = 1 ∧
      (∀ outbound ∈ result.outbound, ¬(outbound.recipient = connection ∧
        outbound.message.requestId = message.requestId) →
        outbound.message.requestId = 0) ∧
      ∀ error, ⟨connection, .error message.requestId error⟩ ∈ result.outbound →
        Unchanged (purgeFor (message.startTime now) error) service after ∧
          result.actions = [] := by
  by_cases hordered : message.requestId = 0 ∨ message.requestId ≤ state.lastRequestId
  · refine ⟨service, errorResult connection message.requestId .requestOutOfOrder,
      by simp only [handle, hfound, if_pos hordered]; rfl, ?_, ?_, ?_⟩
    · simp [errorResult, ServerMessage.requestId]
    · intro outbound houtbound hother
      obtain rfl := List.mem_singleton.mp houtbound
      exact absurd ⟨rfl, rfl⟩ hother
    · exact fun error _ => ⟨.refl _ service, rfl⟩
  · have hchange : LobbyChange .openConnection service _ [] := received_change hfound hordered
    have hafter := hchange.invariant h
    have hresponds : (service.received connection state message.requestId).Responds
        (message.startTime now) connection message.requestId
        (service.handle connection message now) := by
      rcases handle_accepted hfound hordered now with heq | heq | ⟨player, hplayer, heq⟩
      · rw [heq]
        exact handleHello_responds _ _
      · rw [heq]
        exact responds_reject _ _ _ _ _
      · rw [heq]
        have hconnected := (h.clients.inverse player connection).mpr (by
          rw [playerOf, hfound]
          exact hplayer)
        exact handleRequest_responds hafter hconnected message now
    obtain ⟨after, result, answer, hcall, hanswers, herror⟩ := hresponds
    have hid : message.requestId ≠ 0 := fun heq => hordered (Or.inl heq)
    obtain ⟨hcount, hzero⟩ := hanswers.count hid
    refine ⟨after, result, hcall, hcount, hzero, ?_⟩
    intro error hmem
    obtain ⟨hunchanged, hactions⟩ := herror error (hanswers.eq_of_mem hid hmem rfl)
    exact ⟨hunchanged.received hfound, hactions⟩

/-! ## The order of requests -/

/-- The request's id is in order for its connection. -/
def Accepts (service : LobbyService) (connection : ConnectionId)
    (message : ClientMessage) : Prop :=
  ∃ state, service.connections[connection]? = some state ∧
    ¬(message.requestId = 0 ∨ message.requestId ≤ state.lastRequestId)

/-- The connection was opened, and answered a request with the id where it is
still known. -/
structure AnsweredUpTo (connection : ConnectionId) (requestId : UInt32)
    (service : LobbyService) : Prop where
  used : Used service.nextConnection connection.value
  last : ∀ state, service.connections[connection]? = some state →
    requestId ≤ state.lastRequestId

theorem AnsweredUpTo.change {connection : ConnectionId} {requestId : UInt32}
    {event : LobbyEvent} {before after : LobbyService}
    {actions : List LobbyRuntimeAction} (h : AnsweredUpTo connection requestId before)
    (hchange : LobbyChange event before after actions) :
    AnsweredUpTo connection requestId after := by
  have herased : ∀ (other : ConnectionId) (state : ConnectionState),
      (before.connections.erase other)[connection]? = some state →
      requestId ≤ state.lastRequestId := by
    intro other state hfound
    rw [getElem?_erase] at hfound
    split at hfound
    · cases hfound
    · exact h.last state hfound
  cases hchange with
  | opened value hnext =>
    refine ⟨h.used.advance hnext, ?_⟩
    intro state hfound
    have hne : (⟨value⟩ : ConnectionId) ≠ connection := by
      rintro rfl
      exact not_used hnext h.used
    apply h.last state
    rw [← hfound, Std.ExtTreeMap.getElem?_insertIfNew]
    simp [hne]
  | received other otherState received hfound hordered =>
    refine ⟨h.used, ?_⟩
    intro state hstate
    rw [getElem?_insert] at hstate
    split at hstate
    · rename_i heq
      obtain rfl := Option.some.inj hstate
      exact (h.last otherState (heq ▸ hfound)).trans (le_of_lt hordered)
    · exact h.last state hstate
  | welcomed other otherState value hfound =>
    refine ⟨h.used, ?_⟩
    intro state hstate
    rw [getElem?_insert] at hstate
    split at hstate
    · rename_i heq
      obtain rfl := Option.some.inj hstate
      exact h.last otherState (heq ▸ hfound)
    · exact h.last state hstate
  | forgotten other otherState hfound => exact ⟨h.used, herased other⟩
  | closed other otherState player hfound => exact ⟨h.used, herased other⟩
  | _ => exact ⟨h.used, h.last⟩

theorem AnsweredUpTo.changes {connection : ConnectionId} {requestId : UInt32}
    {event : LobbyEvent} {before after : LobbyService}
    {actions : List LobbyRuntimeAction} (h : AnsweredUpTo connection requestId before)
    (hchanges : LobbyChanges event before after actions) :
    AnsweredUpTo connection requestId after := by
  induction hchanges with
  | none service => exact h
  | next change _ ih => exact ih (h.change change)

theorem AnsweredUpTo.run {connection : ConnectionId} {requestId : UInt32}
    {service : LobbyService} (hinvariant : service.Invariant)
    (h : AnsweredUpTo connection requestId service) (events : List LobbyEvent) :
    AnsweredUpTo connection requestId (Machine.run step service events) := by
  have hboth : (Machine.run step service events).Invariant ∧
      AnsweredUpTo connection requestId (Machine.run step service events) := by
    apply Machine.run_invariant (I := fun service : LobbyService =>
      service.Invariant ∧ AnsweredUpTo connection requestId service)
      (P := fun _ => True)
    · rintro state event - ⟨hstate, hanswered⟩
      obtain ⟨after, result, hcall, hchanges, -⟩ := call_performs hstate event
      rw [step, hcall]
      exact ⟨hchanges.invariant hstate, hanswered.changes hchanges⟩
    · exact ⟨hinvariant, h⟩
    · exact fun _ _ => trivial
  exact hboth.2

/-- An accepted request is noted. -/
theorem Accepts.answered {service : LobbyService} (h : service.Invariant)
    {connection : ConnectionId} {message : ClientMessage}
    (haccepts : service.Accepts connection message) (now : TimePoint) :
    AnsweredUpTo connection message.requestId
      (service.handle connection message now).1 := by
  obtain ⟨state, hfound, hordered⟩ := haccepts
  have hchange : LobbyChange .openConnection service _ [] := received_change hfound hordered
  have hafter := hchange.invariant h
  have hself : (service.received connection state
      message.requestId).connections[connection]? =
      some { state with lastRequestId := message.requestId } := by
    rw [received, getElem?_insert, if_pos rfl]
  have hnoted : AnsweredUpTo connection message.requestId
      (service.received connection state message.requestId) := by
    refine ⟨h.clients.usedConnections connection state hfound, ?_⟩
    intro other hother
    rw [hself] at hother
    obtain rfl := Option.some.inj hother
    exact le_refl _
  have hperforms : (service.received connection state message.requestId).Performs
      (.handle connection message now) (service.handle connection message now) := by
    rcases handle_accepted hfound hordered now with heq | heq | ⟨player, -, heq⟩
    · rw [heq]
      exact handleHello_performs hself _
    · rw [heq]
      exact performs_reject _ _ _ _
    · rw [heq]
      exact handleRequest_performs hafter _ _ _ _
  obtain ⟨after, result, hcall, hchanges, -⟩ := hperforms
  rw [hcall]
  exact hnoted.changes hchanges

/-- A later accepted request of the connection has a larger id. -/
theorem Accepts.lt {service : LobbyService} (h : service.Invariant)
    {connection : ConnectionId} {earlier later : ClientMessage}
    (hearlier : service.Accepts connection earlier) (now : TimePoint)
    (events : List LobbyEvent)
    (hlater : (Machine.run step service
      (.handle connection earlier now :: events)).Accepts connection later) :
    earlier.requestId < later.requestId := by
  have hnext : ((service.handle connection earlier now).1).Invariant :=
    service.step_invariant (.handle connection earlier now) h
  have hanswered := (hearlier.answered h now).run hnext events
  obtain ⟨state, hfound, hordered⟩ := hlater
  have hlast := hanswered.last state hfound
  exact hlast.trans_lt (not_le.mp fun hle => hordered (Or.inr hle))

/-- In every reachable state a request of a known connection is answered by one
message, accepted ids increase, and an error leaves everything but expired tickets
in place. -/
theorem run_answers (tickets : MatchTicketRegistry) (config : LobbyServiceConfig)
    (events : List LobbyEvent) (connection : ConnectionId) (state : ConnectionState)
    (hfound : (Machine.run step (create tickets config) events).connections[
      connection]? = some state) (message : ClientMessage) (now : TimePoint) :
    let service := Machine.run step (create tickets config) events
    ∃ after result, service.handle connection message now = (after, .ok result) ∧
      result.outbound.countP (fun outbound => outbound.recipient = connection ∧
        outbound.message.requestId = message.requestId) = 1 ∧
      (∀ outbound ∈ result.outbound, ¬(outbound.recipient = connection ∧
        outbound.message.requestId = message.requestId) →
        outbound.message.requestId = 0) ∧
      (∀ error, ⟨connection, .error message.requestId error⟩ ∈ result.outbound →
        Unchanged (purgeFor (message.startTime now) error) service after ∧
          result.actions = []) ∧
      ∀ rest later, service.Accepts connection message →
        (Machine.run step service (.handle connection message now :: rest)).Accepts
          connection later → message.requestId < later.requestId := by
  have h := run_invariant tickets config events
  obtain ⟨after, result, hcall, hcount, hzero, herror⟩ :=
    handle_responds h hfound message now
  exact ⟨after, result, hcall, hcount, hzero, herror, fun rest later haccepts hlater =>
    haccepts.lt h now rest hlater⟩

theorem run_answers_hello :
    (Machine.run step (create { source := { draws := fun _ => none } } {})
      [.openConnection]).connections[(⟨1⟩ : ConnectionId)]? = some {} ∧
    ∃ after result,
      (Machine.run step (create { source := { draws := fun _ => none } } {})
        [.openConnection]).handle ⟨1⟩ (.hello 1) 0 = (after, .ok result) ∧
      result.outbound.countP (fun outbound => outbound.recipient = ⟨1⟩ ∧
        outbound.message.requestId = 1) = 1 := by
  have hfound : (Machine.run step (create { source := { draws := fun _ => none } } {})
      [.openConnection]).connections[(⟨1⟩ : ConnectionId)]? = some {} := by
    decide +kernel
  obtain ⟨after, result, hcall, hcount, -⟩ :=
    run_answers { source := { draws := fun _ => none } } {} [.openConnection] ⟨1⟩ {}
      hfound (.hello 1) 0
  exact ⟨hfound, after, result, hcall, hcount⟩

/-! ## A start that fails -/

/-- Sixteen equal bytes. -/
def repeatedTicket (byte : UInt8) : MatchTicketValue :=
  ⟨List.replicate matchTicketBytes byte, List.length_replicate⟩

/-- A source whose draws fail after two tickets. -/
def twoTickets : MatchTicketRegistry where
  source := { draws := fun index =>
    if index < 2 then some (repeatedTicket (UInt8.ofNat index)) else none }

/-- Two new players get ready in a room of their own. -/
def readyPair (host guest : ConnectionId) (room : RoomId) (now : TimePoint) :
    List LobbyEvent :=
  [.openConnection, .openConnection, .handle host (.hello 1) now,
    .handle guest (.hello 1) now, .handle host (.createRoom 2) now,
    .handle guest (.joinRoom 2 room) now, .handle host (.setReady 3 true) now,
    .handle guest (.setReady 3 true) now]

/-- One room started, a second one got ready when its tickets had expired. -/
def oneStarted : LobbyService :=
  Machine.run step (create twoTickets {})
    (readyPair ⟨1⟩ ⟨2⟩ ⟨1⟩ 0 ++ [.handle ⟨1⟩ (.startMatch 4) 0] ++
      readyPair ⟨3⟩ ⟨4⟩ ⟨2⟩ matchTicketLifetime)

/-- A start that is answered with an error removes the tickets of another room. -/
theorem startMatch_error_purges :
    (∃ result,
      (oneStarted.handle ⟨3⟩ (.startMatch 4) matchTicketLifetime).2 = .ok result ∧
        ⟨⟨3⟩, .error 4 .internalError⟩ ∈ result.outbound) ∧
    oneStarted.tickets.tickets.toList.length = 2 ∧
    (oneStarted.handle ⟨3⟩ (.startMatch 4) matchTicketLifetime).1.tickets.tickets.toList
      = [] := by
  have hok : (oneStarted.handle ⟨3⟩ (.startMatch 4)
      matchTicketLifetime).2.toOption.isSome = true := by
    decide +kernel
  have herror : ⟨⟨3⟩, .error 4 .internalError⟩ ∈
      ((oneStarted.handle ⟨3⟩ (.startMatch 4)
        matchTicketLifetime).2.toOption.get hok).outbound := by
    decide +kernel +revert
  exact ⟨⟨_, except_eq_ok_get hok, herror⟩, by decide +kernel, by decide +kernel⟩

end LobbyService

end SurvivalArena
