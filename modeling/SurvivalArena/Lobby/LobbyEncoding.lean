import SurvivalArena.Lobby.LobbyCalls
import SurvivalArena.Protocol.TcpMessageCodec

/-!
# Every message of the lobby can be encoded

As long as rooms and members stay within the limits of the protocol, a call sends
only messages that the encoder accepts.
-/

namespace SurvivalArena

open OrderedMap

namespace LobbyService

/-- The limits of the protocol that the lobby has to keep. -/
structure Roomy (service : LobbyService) : Prop where
  rooms : service.rooms.size ≤ SurvivalArena.maximumRooms
  members : ∀ (roomId : RoomId) (room : Room), service.rooms[roomId]? = some room →
    room.members.size ≤ roomCapacity

/-- All the messages can be encoded. -/
def Sendable (outbound : List OutboundMessage) : Prop :=
  ∀ sent ∈ outbound, sent.message.Encodable

theorem sendable_nil : Sendable [] := by
  simp [Sendable]

theorem sendable_singleton {connection : ConnectionId} {message : ServerMessage}
    (h : message.Encodable) : Sendable [⟨connection, message⟩] := by
  simpa [Sendable] using h

theorem Sendable.append {first second : List OutboundMessage} (hfirst : Sendable first)
    (hsecond : Sendable second) : Sendable (first ++ second) := by
  intro sent hsent
  exact (List.mem_append.mp hsent).elim (hfirst sent) (hsecond sent)

/-- Whatever a call that succeeds sends can be encoded. -/
def Emits (call : LobbyCall) : Prop :=
  ∀ after result, call = (after, .ok result) → Sendable result.outbound

theorem emits_ok {service : LobbyService} {result : LobbyServiceResult}
    (h : Sendable result.outbound) : Emits (service, .ok result) := by
  rintro after other heq
  cases heq
  exact h

theorem emits_attempt {α : Type} {service : LobbyService} {step : Except Exception α}
    {next : α → LobbyCall} (h : ∀ a, step = .ok a → Emits (next a)) :
    Emits (attempt service step next) := by
  refine attempt_induct ?_ h
  rintro e - after result heq
  cases heq

theorem emits_reject (service : LobbyService) (connection : ConnectionId)
    (requestId : UInt32) (error : LobbyError) :
    Emits (service.reject connection requestId error) :=
  emits_ok (sendable_singleton (encodable_error requestId error))

/-! ## Snapshots and lists -/

theorem encodable_snapshot {room : Room} (hroom : room.members.size ≤ roomCapacity)
    {requestId : UInt32} {snapshot : RoomSnapshot}
    (h : room.snapshot requestId = .ok snapshot) :
    (ServerMessage.roomSnapshot snapshot).Encodable := by
  unfold Room.snapshot at h
  split at h
  · cases h
  · cases h
    apply encodable_roomSnapshot
    rw [List.length_map, Std.ExtTreeMap.length_toList]
    exact hroom

theorem broadcastSnapshot_sendable {service : LobbyService} {room : Room}
    (hroom : room.members.size ≤ roomCapacity) {requester : Option ConnectionId}
    {requestId : UInt32} {outbound : List OutboundMessage}
    (h : service.broadcastSnapshot room requester requestId = .ok outbound) :
    Sendable outbound := by
  intro sent hsent
  obtain ⟨connection, -, hmessage⟩ := except_mapM_mem h hsent
  obtain ⟨snapshot, hsnapshot, hmessage⟩ := except_bind_eq_ok.mp hmessage
  cases hmessage
  exact encodable_snapshot hroom hsnapshot

theorem roomSummary_valid {roomId : RoomId} {room : Room}
    (hroom : room.members.size ≤ roomCapacity) {summary : RoomSummary}
    (h : roomSummary roomId room = .ok (some summary)) :
    isValidSummary summary = true := by
  obtain ⟨snapshot, hsnapshot, h⟩ := except_bind_eq_ok.mp h
  split at h
  · cases h
  · cases h
    unfold Room.snapshot at hsnapshot
    split at hsnapshot
    · cases hsnapshot
    · cases hsnapshot
      rw [roomCapacity] at hroom
      have hsmall : (UInt8.ofNat room.members.size).toNat = room.members.size :=
        UInt8.toNat_ofNat_of_lt' (hroom.trans_lt (by decide))
      simp [isValidSummary, roomCapacity, UInt8.lt_iff_toNat_lt, hsmall, hroom]

theorem Roomy.roomList_encodable {service : LobbyService} (h : service.Roomy)
    {requestId : UInt32} {message : ServerMessage}
    (hlist : service.roomList requestId = .ok message) : message.Encodable := by
  obtain ⟨summaries, hsummaries, hlist⟩ := except_bind_eq_ok.mp hlist
  cases hlist
  apply encodable_roomList
  · have hlength := except_mapM_length hsummaries
    rw [Std.ExtTreeMap.length_toList] at hlength
    have hfewer := List.length_filterMap_le id summaries
    have hrooms := h.rooms
    omega
  · intro summary hsummary
    obtain ⟨listed, hlisted, rfl⟩ := List.mem_filterMap.mp hsummary
    obtain ⟨⟨roomId, room⟩, hentry, hvalue⟩ := except_mapM_mem hsummaries hlisted
    have hfound := Std.ExtTreeMap.mem_toList_iff_getElem?_eq_some.mp hentry
    exact roomSummary_valid (h.members roomId room hfound) hvalue

/-! ## Rooms that change -/

theorem Roomy.erase {service after : LobbyService} (h : service.Roomy) {roomId : RoomId}
    (hrooms : after.rooms = service.rooms.erase roomId) : after.Roomy where
  rooms := by
    rw [hrooms]
    exact Std.ExtTreeMap.size_erase_le.trans h.rooms
  members := by
    intro other room hother
    rw [hrooms, getElem?_erase] at hother
    split at hother
    · cases hother
    · exact h.members other room hother

/-- A room is replaced by another within the limits. -/
theorem Roomy.replace {service after : LobbyService} (h : service.Roomy)
    {roomId : RoomId} {room changed : Room} (hfound : service.rooms[roomId]? = some room)
    (hchanged : changed.members.size ≤ roomCapacity)
    (hrooms : after.rooms = service.rooms.insert roomId changed) : after.Roomy where
  rooms := by
    rw [hrooms, size_insert_of_some _ hfound]
    exact h.rooms
  members := by
    intro other otherRoom hother
    rw [hrooms, getElem?_insert] at hother
    split at hother
    · obtain rfl := Option.some.inj hother
      exact hchanged
    · exact h.members other otherRoom hother

theorem size_without_le (room : Room) (player : PlayerId) :
    (room.without player).members.size ≤ room.members.size := by
  rw [Room.without_members]
  exact Std.ExtTreeMap.size_erase_le

theorem size_setReady {room changed : Room} {player : PlayerId} {ready : Bool}
    (h : room.setReady player ready = .ok changed) :
    changed.members.size = room.members.size := by
  obtain ⟨-, member, hmember, rfl⟩ := Room.setReady_eq_ok.mp h
  exact size_insert_of_some _ hmember _

theorem size_join {room joined : Room} {player : PlayerId} {joinOrdinal : UInt64}
    (h : room.join player joinOrdinal = .ok joined) :
    joined.members.size ≤ roomCapacity := by
  obtain ⟨-, -, hsize, rfl⟩ := Room.join_eq_ok.mp h
  exact Std.ExtTreeMap.size_insert_le.trans hsize

theorem members_returnToWaiting {room waiting : Room}
    (h : room.returnToWaiting = .ok waiting) : waiting.members = room.members := by
  unfold Room.returnToWaiting at h
  split at h
  · cases h
  · cases h
    rfl

theorem members_beginStarting {room starting : Room}
    (h : room.beginStarting = .ok starting) : starting.members = room.members := by
  unfold Room.beginStarting at h
  split at h
  · cases h
  · cases h
    rfl

theorem members_markInMatch {room inMatch : Room}
    (h : room.markInMatch = .ok inMatch) : inMatch.members = room.members := by
  unfold Room.markInMatch at h
  split at h
  · cases h
  · cases h
    rfl

/-! ## Leaving a room -/

theorem leaveResult_sendable {service : LobbyService} {player oldHost : PlayerId}
    {roomId : RoomId} {room : Room} (hroom : room.members.size ≤ roomCapacity)
    {requester : Option ConnectionId} {result : LobbyServiceResult}
    (h : service.leaveResult player oldHost roomId room requester = .ok result) :
    Sendable result.outbound := by
  unfold leaveResult at h
  split at h
  · cases h
    exact sendable_nil
  · obtain ⟨newHost, -, h⟩ := except_bind_eq_ok.mp h
    obtain ⟨outbound, houtbound, h⟩ := except_bind_eq_ok.mp h
    cases h
    exact broadcastSnapshot_sendable hroom houtbound

theorem Roomy.removeMember {service : LobbyService} (h : service.Roomy)
    {player : PlayerId} {roomId : RoomId} {room : Room}
    (hfound : service.rooms[roomId]? = some room) :
    (service.removeMember player roomId (room.without player)).Roomy := by
  by_cases hempty : (room.without player).empty = true
  · exact h.erase (by rw [LobbyService.removeMember, if_pos hempty])
  · exact h.replace hfound
      ((size_without_le room player).trans (h.members roomId room hfound))
      (by rw [LobbyService.removeMember, if_neg hempty])

theorem leaveWaitingRoom_emits {service : LobbyService} (h : service.Roomy)
    (player : PlayerId) (requester : Option ConnectionId) (requestId : UInt32) :
    Emits (service.leaveWaitingRoom player requester requestId) := by
  unfold leaveWaitingRoom
  split
  · exact emits_ok sendable_nil
  · rename_i roomId hplayer
    split
    · exact emits_ok sendable_nil
    · rename_i room hfound
      refine emits_attempt fun oldHost _ => ?_
      cases hleave : room.leave player with
      | error error =>
        refine emits_ok ?_
        cases requester with
        | none => exact sendable_nil
        | some connection => exact sendable_singleton (encodable_error requestId error)
      | ok remaining =>
        obtain ⟨-, -, rfl⟩ := Room.leave_eq_ok.mp hleave
        have hsize := (size_without_le room player).trans (h.members roomId room hfound)
        refine emits_attempt fun result hresult => ?_
        have hsent := leaveResult_sendable hsize hresult
        cases requester with
        | none => exact emits_ok hsent
        | some connection =>
          refine emits_attempt fun rooms hrooms => emits_ok (hsent.append ?_)
          exact sendable_singleton ((h.removeMember hfound).roomList_encodable hrooms)

/-! ## Requests -/

theorem handleHello_emits (service : LobbyService) (connection : ConnectionId)
    (state : ConnectionState) (requestId : UInt32) :
    Emits (service.handleHello connection state requestId) := by
  unfold handleHello
  split
  · exact emits_reject _ _ _ _
  · split
    · exact emits_reject _ _ _ _
    · exact emits_ok (sendable_singleton (encodable_welcome _ _))

theorem handleListRooms_emits {service : LobbyService} (h : service.Roomy)
    (connection : ConnectionId) (requestId : UInt32) :
    Emits (service.handleListRooms connection requestId) :=
  emits_attempt fun _ hrooms =>
    emits_ok (sendable_singleton (h.roomList_encodable hrooms))

theorem handleCreateRoom_emits (service : LobbyService) (connection : ConnectionId)
    (player : PlayerId) (requestId : UInt32) :
    Emits (service.handleCreateRoom connection player requestId) := by
  unfold handleCreateRoom
  split
  · exact emits_reject _ _ _ _
  · split
    · exact emits_reject _ _ _ _
    · split
      · dsimp only
        split
        · exact emits_reject _ _ _ _
        · refine emits_attempt fun outbound houtbound => emits_ok ?_
          exact broadcastSnapshot_sendable (Room.valid_create _ _ _).capacity houtbound
      · exact emits_reject _ _ _ _

theorem handleJoinRoom_emits (service : LobbyService) (connection : ConnectionId)
    (player : PlayerId) (requestId : UInt32) (roomId : RoomId) :
    Emits (service.handleJoinRoom connection player requestId roomId) := by
  unfold handleJoinRoom
  split
  · exact emits_reject _ _ _ _
  · split
    · exact emits_reject _ _ _ _
    · refine emits_attempt fun before _ => ?_
      split
      · exact emits_reject _ _ _ _
      · split
        · exact emits_reject _ _ _ _
        · split
          · exact emits_reject _ _ _ _
          · dsimp only
            split
            · exact emits_reject _ _ _ _
            · rename_i joined hjoin
              refine emits_attempt fun outbound houtbound => emits_ok ?_
              exact broadcastSnapshot_sendable (size_join hjoin) houtbound

theorem handleLeaveRoom_emits {service : LobbyService} (h : service.Roomy)
    (connection : ConnectionId) (player : PlayerId) (requestId : UInt32) :
    Emits (service.handleLeaveRoom connection player requestId) := by
  unfold handleLeaveRoom
  split
  · exact leaveWaitingRoom_emits h _ _ _
  · exact emits_reject _ _ _ _

theorem handleSetReady_emits {service : LobbyService} (h : service.Roomy)
    (connection : ConnectionId) (player : PlayerId) (requestId : UInt32) (ready : Bool) :
    Emits (service.handleSetReady connection player requestId ready) := by
  unfold handleSetReady
  split
  · exact emits_reject _ _ _ _
  · rename_i roomId hplayer
    split
    · exact emits_reject _ _ _ _
    · rename_i room hfound
      split
      · exact emits_reject _ _ _ _
      · rename_i changed hchanged
        refine emits_attempt fun outbound houtbound => emits_ok ?_
        refine broadcastSnapshot_sendable ?_ houtbound
        rw [size_setReady hchanged]
        exact h.members roomId room hfound

theorem rollbackStart_emits (service : LobbyService) (connection : ConnectionId)
    (player : PlayerId) (requestId : UInt32) (roomId : RoomId) (matchId : MatchId)
    {room : Room} (hroom : room.members.size ≤ roomCapacity)
    (issued : List MatchTicketValue) (error : LobbyError) :
    Emits (service.rollbackStart connection player requestId roomId matchId room issued
      error) := by
  refine emits_attempt fun waiting hwaiting => ?_
  refine emits_attempt fun outbound houtbound => emits_ok ?_
  rw [← members_returnToWaiting hwaiting] at hroom
  exact (broadcastSnapshot_sendable hroom houtbound).append
    (sendable_singleton (encodable_error requestId error))

theorem reserveMatch_emits (service : LobbyService) (connection : ConnectionId)
    {room : Room} (hroom : room.members.size ≤ roomCapacity)
    (action : ReserveMatchAction) :
    Emits (service.reserveMatch connection room action) := by
  unfold reserveMatch
  split
  · exact rollbackStart_emits _ _ _ _ _ _ hroom _ _
  · exact emits_attempt fun outbound houtbound =>
      emits_ok (broadcastSnapshot_sendable hroom houtbound)

theorem handleStartMatch_emits {service : LobbyService} (h : service.Roomy)
    (connection : ConnectionId) (player : PlayerId) (requestId : UInt32)
    (now : TimePoint) :
    Emits (service.handleStartMatch connection player requestId now) := by
  unfold handleStartMatch
  split
  · exact emits_reject _ _ _ _
  · rename_i roomId hplayer
    split
    · exact emits_reject _ _ _ _
    · rename_i room hfound
      split
      · exact emits_reject _ _ _ _
      · split
        · refine emits_attempt fun starting hstarting => ?_
          have hroom := h.members roomId room hfound
          rw [← members_beginStarting hstarting] at hroom
          dsimp only
          split
          · exact rollbackStart_emits _ _ _ _ _ _ hroom _ _
          · exact reserveMatch_emits _ _ hroom _
        · exact emits_reject _ _ _ _

/-! ## The end of a reservation or a match -/

theorem startingRoom_found {service : LobbyService} {roomId : RoomId} {room : Room}
    (h : service.startingRoom roomId = .ok (some room)) :
    service.rooms[roomId]? = some room := by
  unfold startingRoom at h
  split at h
  · cases h
  · rename_i found hfound
    obtain ⟨snapshot, -, h⟩ := except_bind_eq_ok.mp h
    split at h
    · cases h
      exact hfound
    · cases h

theorem startFailed_sendable {action : ReserveMatchAction}
    {connection : Option ConnectionId} {error : LobbyError} {result : LobbyServiceResult}
    (h : Sendable result.outbound) :
    Sendable (startFailed action connection error result).outbound := by
  refine h.append ?_
  cases connection with
  | none => exact sendable_nil
  | some connection => exact sendable_singleton (encodable_error _ _)

theorem failPendingReservation_emits {service : LobbyService} (h : service.Roomy)
    (reservation : ReservationId) (error : LobbyError) :
    Emits (service.failPendingReservation reservation error) := by
  unfold failPendingReservation
  split
  · exact emits_ok sendable_nil
  · refine emits_attempt fun starting hstarting => ?_
    split
    · exact emits_ok (startFailed_sendable sendable_nil)
    · rename_i room
      refine emits_attempt fun waiting hwaiting => ?_
      refine emits_attempt fun outbound houtbound => emits_ok (startFailed_sendable ?_)
      refine broadcastSnapshot_sendable ?_ houtbound
      rw [members_returnToWaiting hwaiting]
      exact h.members _ room (startingRoom_found hstarting)

theorem disconnectStartingPlayer_emits {service : LobbyService} (h : service.Roomy)
    (player : PlayerId) (roomId : RoomId) :
    Emits (service.disconnectStartingPlayer player roomId) := by
  unfold disconnectStartingPlayer
  split
  · exact emits_ok sendable_nil
  · split
    · exact emits_ok sendable_nil
    · dsimp only
      split
      · exact emits_ok sendable_nil
      · rename_i room hfound
        refine emits_attempt fun waiting hwaiting => ?_
        refine emits_attempt fun result hresult => emits_ok (startFailed_sendable ?_)
        have hsize := h.members roomId room hfound
        rw [← members_returnToWaiting hwaiting] at hsize
        exact leaveWaitingRoom_emits (h.replace hfound hsize rfl) _ _ _ _ result
          (Prod.ext rfl hresult)

theorem finishActiveMatch_emits {service : LobbyService} (h : service.Roomy)
    (worker : WorkerId) (matchId : MatchId) (unavailable : Bool) :
    Emits (service.finishActiveMatch worker matchId unavailable) := by
  unfold finishActiveMatch
  split
  · exact emits_ok sendable_nil
  · rename_i record hactive
    split
    · exact emits_ok sendable_nil
    · dsimp only
      split
      · exact emits_ok sendable_nil
      · rename_i room hfound
        refine emits_attempt fun outbound houtbound => emits_ok ?_
        intro sent hsent
        obtain ⟨messages, hmessages, hsent⟩ := List.mem_flatten.mp hsent
        obtain ⟨recipient, -, hvalue⟩ := except_mapM_mem houtbound hmessages
        obtain ⟨rooms, hrooms, hvalue⟩ := except_bind_eq_ok.mp hvalue
        cases hvalue
        have hlist := (h.erase rfl).roomList_encodable hrooms
        refine Sendable.append ?_ (sendable_singleton hlist) sent hsent
        split
        · exact sendable_singleton (encodable_error _ _)
        · exact sendable_nil

/-! ## Worker events -/

theorem ticketMessages_sendable {service : LobbyService} {action : ReserveMatchAction}
    {connection : Option ConnectionId} {endpoint : GameEndpoint}
    (hendpoint : endpoint.isValid = true) {remaining : Int} (hremaining : 1 ≤ remaining) :
    Sendable (service.ticketMessages action connection endpoint
      (UInt16.ofNat (min remaining matchTicketLifetimeSeconds).toNat)) := by
  intro sent hsent
  obtain ⟨participant, -, hsent⟩ := List.mem_filterMap.mp hsent
  obtain ⟨recipient, -, rfl⟩ := Option.map_eq_some_iff.mp hsent
  apply encodable_matchTicket
  have hlifetime : (UInt16.ofNat (min remaining matchTicketLifetimeSeconds).toNat).toNat =
      (min remaining matchTicketLifetimeSeconds).toNat := by
    apply UInt16.toNat_ofNat_of_lt'
    rw [matchTicketLifetimeSeconds]
    change _ < 65536
    omega
  have hpositive : 0 < UInt16.ofNat (min remaining matchTicketLifetimeSeconds).toNat := by
    rw [UInt16.lt_iff_toNat_lt, hlifetime, matchTicketLifetimeSeconds]
    change 0 < _
    omega
  simp only [GameEndpoint.isValid, isVisibleAscii, Bool.and_eq_true] at hendpoint
  obtain ⟨⟨⟨⟨hhost, hlength⟩, htcp⟩, hudp⟩, hascii⟩ := hendpoint
  simp only [isValidTicket, isValidHost, hhost, hascii, htcp, hudp, hpositive, hlifetime,
    Bool.and_eq_true, decide_true, true_and, and_true, Bool.not_or, decide_eq_true_eq,
    Bool.not_eq_true', decide_eq_false_iff_not, not_lt]
  refine ⟨by simpa using hlength, ?_⟩
  rw [matchTicketLifetimeSeconds]
  omega

theorem handleReservationReady_emits {service : LobbyService} (h : service.Roomy)
    (reservation : ReservationId) (matchId : MatchId) (worker : WorkerId)
    (endpoint : GameEndpoint) (now : TimePoint) :
    Emits (service.handleReservationReady reservation matchId worker endpoint now) := by
  unfold handleReservationReady
  split
  · exact emits_ok sendable_nil
  · rename_i action hpending
    split
    · exact emits_ok sendable_nil
    · dsimp only
      split
      · exact failPendingReservation_emits h _ _
      · rename_i hbegin
        refine emits_attempt fun starting hstarting => ?_
        split
        · exact emits_ok sendable_nil
        · rename_i room
          simp only [not_or, Bool.not_eq_false, not_lt] at hbegin
          refine emits_attempt fun inMatch hinMatch => ?_
          refine emits_attempt fun snapshots hsnapshots => emits_ok (Sendable.append ?_ ?_)
          · refine broadcastSnapshot_sendable ?_ hsnapshots
            rw [members_markInMatch hinMatch]
            exact h.members _ room (startingRoom_found hstarting)
          · exact ticketMessages_sendable hbegin.2.1 hbegin.2.2

theorem handleWorkerEvent_emits {service : LobbyService} (h : service.Roomy)
    (event : WorkerEvent) (now : TimePoint) :
    Emits (service.handleWorkerEvent event now) := by
  cases event with
  | reservationFailed reservation matchId =>
    unfold handleWorkerEvent handleReservationFailed
    dsimp only
    split
    · exact emits_ok sendable_nil
    · split
      · exact emits_ok sendable_nil
      · exact failPendingReservation_emits h _ _
  | reservationReady reservation matchId worker endpoint =>
    exact handleReservationReady_emits h _ _ _ _ _
  | matchFinished worker matchId => exact finishActiveMatch_emits h _ _ _
  | matchUnavailable worker matchId => exact finishActiveMatch_emits h _ _ _

/-! ## Calls -/

theorem handleRequest_emits {service : LobbyService} (h : service.Roomy)
    (connection : ConnectionId) (player : PlayerId) (message : ClientMessage)
    (now : TimePoint) : Emits (service.handleRequest connection player message now) := by
  cases message with
  | hello requestId => exact emits_reject _ _ _ _
  | listRooms requestId => exact handleListRooms_emits h _ _
  | createRoom requestId => exact handleCreateRoom_emits _ _ _ _
  | joinRoom requestId room => exact handleJoinRoom_emits _ _ _ _ _
  | leaveRoom requestId => exact handleLeaveRoom_emits h _ _ _
  | setReady requestId ready => exact handleSetReady_emits h _ _ _ _
  | startMatch requestId => exact handleStartMatch_emits h _ _ _ _

theorem handle_emits {service : LobbyService} (h : service.Roomy)
    (connection : ConnectionId) (message : ClientMessage) (now : TimePoint) :
    Emits (service.handle connection message now) := by
  unfold handle
  split
  · exact emits_ok sendable_nil
  · dsimp only
    split
    · exact emits_reject _ _ _ _
    · split
      · exact handleHello_emits _ _ _ _
      · exact emits_reject _ _ _ _
      · refine handleRequest_emits ?_ _ _ _ _
        exact ⟨h.rooms, h.members⟩

theorem disconnect_emits {service : LobbyService} (h : service.Roomy)
    (connection : ConnectionId) : Emits (service.disconnect connection) := by
  have hplayer : ∀ player, Emits (service.disconnectPlayer player) := by
    intro player
    unfold disconnectPlayer
    split
    · exact emits_ok sendable_nil
    · split
      · exact emits_ok sendable_nil
      · refine emits_attempt fun snapshot _ => ?_
        split
        · exact disconnectStartingPlayer_emits h _ _
        · exact leaveWaitingRoom_emits h _ _ _
        · exact emits_ok sendable_nil
  unfold LobbyService.disconnect
  split
  · exact emits_ok sendable_nil
  · split
    · exact emits_ok sendable_nil
    · rename_i player _
      refine emits_attempt fun result hresult => emits_ok ?_
      exact hplayer player _ result (Prod.ext rfl hresult)

/-- Whatever a call sends can be encoded. -/
theorem call_emits {service : LobbyService} (h : service.Roomy) (event : LobbyEvent) :
    Emits (service.call event) := by
  cases event with
  | openConnection => exact emits_ok sendable_nil
  | handle connection message now => exact handle_emits h _ _ _
  | disconnect connection => exact disconnect_emits h _
  | workerEvent event now => exact handleWorkerEvent_emits h _ _

/-! ## The number of rooms -/

/-- The lobby holds no more rooms than it was told to, nor than a list can name. -/
structure Bounded (service : LobbyService) : Prop where
  rooms : service.rooms.size ≤ service.maximumRooms
  limit : service.maximumRooms ≤ SurvivalArena.maximumRooms

theorem Bounded.roomy {service : LobbyService} (h : service.Bounded)
    (hinvariant : service.Invariant) : service.Roomy where
  rooms := h.rooms.trans h.limit
  members := fun roomId room hfound => (hinvariant.rooms.valid roomId room hfound).capacity

theorem bounded_create (tickets : MatchTicketRegistry) (config : LobbyServiceConfig) :
    (create tickets config).Bounded where
  rooms := by simp [create]
  limit := Nat.min_le_right _ _

end LobbyService

open LobbyService

theorem LobbyChange.bounded {event : LobbyEvent} {before after : LobbyService}
    {actions : List LobbyRuntimeAction} (hchange : LobbyChange event before after actions)
    (h : before.Bounded) : after.Bounded := by
  have hreplaced : ∀ {roomId : RoomId} {room : Room} (changed : Room),
      before.rooms[roomId]? = some room →
      (before.rooms.insert roomId changed).size ≤ before.maximumRooms := by
    intro roomId room changed hfound
    rw [size_insert_of_some _ hfound]
    exact h.rooms
  cases hchange with
  | opened => exact ⟨h.rooms, h.limit⟩
  | received => exact ⟨h.rooms, h.limit⟩
  | welcomed => exact ⟨h.rooms, h.limit⟩
  | forgotten => exact ⟨h.rooms, h.limit⟩
  | closed => exact ⟨h.rooms, h.limit⟩
  | created player value joinOrdinal habsent hnext hordinal hroomy =>
    exact ⟨Std.ExtTreeMap.size_insert_le.trans hroomy, h.limit⟩
  | joined player roomId room joined ordinal habsent hfound =>
    exact ⟨hreplaced joined hfound, h.limit⟩
  | left player roomId room hmember hfound =>
    refine ⟨?_, h.limit⟩
    rw [LobbyService.removeMember]
    dsimp only
    split
    · exact Std.ExtTreeMap.size_erase_le.trans h.rooms
    · exact hreplaced _ hfound
  | readied player ready roomId room changed hfound =>
    exact ⟨hreplaced changed hfound, h.limit⟩
  | rolledBack => exact ⟨h.rooms, h.limit⟩
  | reserved action room tickets hstarts hfound => exact ⟨hreplaced _ hfound, h.limit⟩
  | failed reservation action room htold hpending hfound =>
    exact ⟨hreplaced _ hfound, h.limit⟩
  | cancelled reservation action room hpending hfound =>
    exact ⟨hreplaced _ hfound, h.limit⟩
  | begun reservation action room worker htold hpending hfound =>
    exact ⟨hreplaced _ hfound, h.limit⟩
  | finished matchId record room htold hactive hfound =>
    exact ⟨Std.ExtTreeMap.size_erase_le.trans h.rooms, h.limit⟩

theorem LobbyChanges.bounded {event : LobbyEvent} {before after : LobbyService}
    {actions : List LobbyRuntimeAction} (h : LobbyChanges event before after actions)
    (hbefore : before.Bounded) : after.Bounded := by
  induction h with
  | none service => exact hbefore
  | next change _ ih => exact ih (change.bounded hbefore)

end SurvivalArena
