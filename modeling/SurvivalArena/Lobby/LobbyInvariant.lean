import SurvivalArena.Lobby.LobbyChange

/-!
# The invariant of the lobby

Connections and players, players and rooms, rooms and their reservations or
matches: each part of the invariant is about some of the maps, and a change keeps
the parts whose maps it leaves alone.
-/

namespace SurvivalArena

open Counter OrderedMap

namespace LobbyService

/-! ## Clients -/

/-- The player of a connection. -/
def playerOf (connections : Std.ExtTreeMap ConnectionId ConnectionState)
    (connection : ConnectionId) : Option PlayerId :=
  connections[connection]?.bind ConnectionState.player

structure Clients (connections : Std.ExtTreeMap ConnectionId ConnectionState)
    (playerToConnection : Std.ExtTreeMap PlayerId ConnectionId)
    (nextConnection : Option UInt64) (nextPlayer : Option UInt32) : Prop where
  inverse : Inverse (entry playerToConnection) (playerOf connections)
  usedConnections : ∀ (connection : ConnectionId) (state : ConnectionState),
    connections[connection]? = some state → Used nextConnection connection.value
  usedPlayers : ∀ (player : PlayerId) (connection : ConnectionId),
    playerToConnection[player]? = some connection → Used nextPlayer player.value

theorem playerOf_insert
    (connections : Std.ExtTreeMap ConnectionId ConnectionState)
    (connection : ConnectionId) (state : ConnectionState) :
    playerOf (connections.insert connection state) =
      Function.update (playerOf connections) connection state.player := by
  funext other
  rw [playerOf, getElem?_insert, Function.update_apply]
  split <;> rfl

theorem playerOf_erase
    (connections : Std.ExtTreeMap ConnectionId ConnectionState)
    (connection : ConnectionId) :
    playerOf (connections.erase connection) =
      Function.update (playerOf connections) connection none := by
  funext other
  rw [playerOf, getElem?_erase, Function.update_apply]
  split <;> rfl

section
variable {connections : Std.ExtTreeMap ConnectionId ConnectionState}
  {playerToConnection : Std.ExtTreeMap PlayerId ConnectionId}
  {nextConnection : Option UInt64} {nextPlayer : Option UInt32}

/-- A new connection has no player. -/
theorem Clients.opened
    (h : Clients connections playerToConnection nextConnection nextPlayer)
    {value : UInt64} (hnext : nextConnection = some value) :
    Clients (connections.insertIfNew ⟨value⟩ {}) playerToConnection
      (advance value) nextPlayer := by
  have hnew : connections[(⟨value⟩ : ConnectionId)]? = none := by
    cases hfound : connections[(⟨value⟩ : ConnectionId)]? with
    | none => rfl
    | some state => exact absurd (h.usedConnections _ _ hfound) (not_used hnext)
  have hplayer : playerOf (connections.insertIfNew ⟨value⟩ {}) =
      playerOf connections := by
    funext other
    rw [playerOf, getElem?_insertIfNew _ hnew, playerOf]
    split
    · rename_i heq
      rw [heq, hnew]
      rfl
    · rfl
  exact {
    inverse := by
      rw [hplayer]
      exact h.inverse
    usedConnections := by
      intro connection state hfound
      rw [getElem?_insertIfNew _ hnew] at hfound
      split at hfound
      · rename_i heq
        rw [heq]
        exact used_advance value
      · exact (h.usedConnections connection state hfound).advance hnext
    usedPlayers := h.usedPlayers }

/-- A request changes nothing but the request id of its connection. -/
theorem Clients.received
    (h : Clients connections playerToConnection nextConnection nextPlayer)
    {connection : ConnectionId} {state : ConnectionState}
    (hfound : connections[connection]? = some state) (requestId : UInt32) :
    Clients (connections.insert connection
      { state with lastRequestId := requestId }) playerToConnection
      nextConnection nextPlayer where
  inverse := by
    have hplayer : state.player = playerOf connections connection := by
      rw [playerOf, hfound]
      rfl
    rw [playerOf_insert, hplayer, Function.update_eq_self]
    exact h.inverse
  usedConnections := by
    intro other otherState hother
    rw [getElem?_insert] at hother
    split at hother
    · rename_i heq
      rw [heq]
      exact h.usedConnections connection state hfound
    · exact h.usedConnections other otherState hother
  usedPlayers := h.usedPlayers

/-- A new player gets a connection that had none. -/
theorem Clients.welcomed
    (h : Clients connections playerToConnection nextConnection nextPlayer)
    {connection : ConnectionId} {state : ConnectionState}
    (hfound : connections[connection]? = some state)
    (hunnamed : state.player = none) {value : UInt32}
    (hnext : nextPlayer = some value) :
    Clients
      (connections.insert connection { state with player := some ⟨value⟩ })
      (playerToConnection.insertIfNew ⟨value⟩ connection) nextConnection
      (advance value) := by
  have hnew : playerToConnection[(⟨value⟩ : PlayerId)]? = none := by
    cases hplayer : playerToConnection[(⟨value⟩ : PlayerId)]? with
    | none => rfl
    | some other => exact absurd (h.usedPlayers _ _ hplayer) (not_used hnext)
  have hnone : playerOf connections connection = none := by
    rw [playerOf, hfound]
    exact hunnamed
  exact {
    inverse := by
      rw [playerOf_insert, entry_insertIfNew _ hnew]
      exact h.inverse.insert hnew hnone
    usedConnections := by
      intro other otherState hother
      rw [getElem?_insert] at hother
      split at hother
      · rename_i heq
        rw [heq]
        exact h.usedConnections connection state hfound
      · exact h.usedConnections other otherState hother
    usedPlayers := by
      intro player other hplayer
      rw [getElem?_insertIfNew _ hnew] at hplayer
      split at hplayer
      · rename_i heq
        rw [heq]
        exact used_advance value
      · exact (h.usedPlayers player other hplayer).advance hnext }

theorem Clients.forgotten
    (h : Clients connections playerToConnection nextConnection nextPlayer)
    {connection : ConnectionId} {state : ConnectionState}
    (hfound : connections[connection]? = some state)
    (hunnamed : state.player = none) :
    Clients (connections.erase connection) playerToConnection nextConnection
      nextPlayer where
  inverse := by
    have hnone : playerOf connections connection = none := by
      rw [playerOf, hfound]
      exact hunnamed
    rw [playerOf_erase]
    exact h.inverse.update_none hnone
  usedConnections := by
    intro other otherState hother
    rw [getElem?_erase] at hother
    split at hother
    · cases hother
    · exact h.usedConnections other otherState hother
  usedPlayers := h.usedPlayers

/-- A player and its connection leave together. -/
theorem Clients.closed
    (h : Clients connections playerToConnection nextConnection nextPlayer)
    {connection : ConnectionId} {state : ConnectionState} {player : PlayerId}
    (hfound : connections[connection]? = some state)
    (hnamed : state.player = some player) :
    Clients (connections.erase connection) (playerToConnection.erase player)
      nextConnection nextPlayer where
  inverse := by
    have hplayer : playerOf connections connection = some player := by
      rw [playerOf, hfound]
      exact hnamed
    rw [playerOf_erase, entry_erase]
    exact h.inverse.erase ((h.inverse player connection).mpr hplayer)
  usedConnections := by
    intro other otherState hother
    rw [getElem?_erase] at hother
    split at hother
    · cases hother
    · exact h.usedConnections other otherState hother
  usedPlayers := by
    intro other otherConnection hother
    rw [getElem?_erase] at hother
    split at hother
    · cases hother
    · exact h.usedPlayers other otherConnection hother

end

/-! ## Rooms and their members -/

structure Rooms (playerToRoom : Std.ExtTreeMap PlayerId RoomId)
    (rooms : Std.ExtTreeMap RoomId Room) (nextRoom : Option UInt32)
    (nextJoinOrdinal : Option UInt64) : Prop where
  membership : ∀ (player : PlayerId) (roomId : RoomId),
    playerToRoom[player]? = some roomId ↔
      ∃ room, rooms[roomId]? = some room ∧ player ∈ room.members
  valid : ∀ (roomId : RoomId) (room : Room), rooms[roomId]? = some room →
    room.Valid roomId
  usedRooms : ∀ (roomId : RoomId) (room : Room), rooms[roomId]? = some room →
    Used nextRoom roomId.value
  usedOrdinals : ∀ (roomId : RoomId) (room : Room) (player : PlayerId)
    (member : RoomMember), rooms[roomId]? = some room →
    room.members[player]? = some member → Used nextJoinOrdinal member.joinOrdinal

section
variable {playerToRoom : Std.ExtTreeMap PlayerId RoomId}
  {rooms : Std.ExtTreeMap RoomId Room} {nextRoom : Option UInt32}
  {nextJoinOrdinal : Option UInt64}

theorem Rooms.fresh (h : Rooms playerToRoom rooms nextRoom nextJoinOrdinal)
    {value : UInt32} (hnext : nextRoom = some value) :
    rooms[(⟨value⟩ : RoomId)]? = none := by
  cases hfound : rooms[(⟨value⟩ : RoomId)]? with
  | none => rfl
  | some room => exact absurd (h.usedRooms _ _ hfound) (not_used hnext)

/-- A player without a room is in no room. -/
theorem Rooms.absent (h : Rooms playerToRoom rooms nextRoom nextJoinOrdinal)
    {player : PlayerId} (habsent : playerToRoom[player]? = none)
    {roomId : RoomId} {room : Room} (hfound : rooms[roomId]? = some room) :
    player ∉ room.members := by
  intro hmember
  rw [(h.membership player roomId).mpr ⟨room, hfound, hmember⟩] at habsent
  cases habsent

/-- A player enters a room that is new or has been joined. -/
theorem Rooms.entered (h : Rooms playerToRoom rooms nextRoom nextJoinOrdinal)
    {player : PlayerId} (habsent : playerToRoom[player]? = none)
    {roomId : RoomId} {entered : Room} (hvalid : entered.Valid roomId)
    (hmembers : ∀ other, other ∈ entered.members ↔ other = player ∨
      ∃ room, rooms[roomId]? = some room ∧ other ∈ room.members)
    {nextRoom' : Option UInt32} {nextJoinOrdinal' : Option UInt64}
    (hrooms : ∀ (other : RoomId) (room : Room), rooms[other]? = some room →
      Used nextRoom' other.value) (hroom : Used nextRoom' roomId.value)
    (hordinals : ∀ (other : RoomId) (room : Room) (player : PlayerId)
      (member : RoomMember), rooms[other]? = some room →
      room.members[player]? = some member →
      Used nextJoinOrdinal' member.joinOrdinal)
    (hordinal : ∀ (player : PlayerId) (member : RoomMember),
      entered.members[player]? = some member →
      Used nextJoinOrdinal' member.joinOrdinal) :
    Rooms (playerToRoom.insert player roomId) (rooms.insert roomId entered)
      nextRoom' nextJoinOrdinal' where
  membership := by
    intro other otherId
    rw [getElem?_insert, getElem?_insert]
    by_cases hplayer : other = player
    · subst hplayer
      by_cases hid : otherId = roomId
      · subst hid
        simp [hmembers]
      · simp only [if_true, if_neg hid, Option.some.injEq, Ne.symm hid,
          false_iff]
        intro hmember
        rw [← h.membership, habsent] at hmember
        cases hmember
    · by_cases hid : otherId = roomId
      · subst hid
        simp [hplayer, hmembers, h.membership]
      · simp only [if_neg hplayer, if_neg hid]
        exact h.membership other otherId
  valid := by
    intro otherId room hfound
    rw [getElem?_insert] at hfound
    split at hfound
    · rename_i heq
      obtain rfl := Option.some.inj hfound
      rw [heq]
      exact hvalid
    · exact h.valid otherId room hfound
  usedRooms := by
    intro otherId room hfound
    rw [getElem?_insert] at hfound
    split at hfound
    · rename_i heq
      rw [heq]
      exact hroom
    · exact hrooms otherId room hfound
  usedOrdinals := by
    intro otherId room other member hfound hmember
    rw [getElem?_insert] at hfound
    split at hfound
    · obtain rfl := Option.some.inj hfound
      exact hordinal other member hmember
    · exact hordinals otherId room other member hfound hmember

/-- A room changes, but neither its members nor their order. -/
theorem Rooms.changed (h : Rooms playerToRoom rooms nextRoom nextJoinOrdinal)
    {roomId : RoomId} {room changed : Room}
    (hfound : rooms[roomId]? = some room) (hvalid : changed.Valid roomId)
    (hmembers : ∀ (player : PlayerId),
      (changed.members[player]?).map RoomMember.joinOrdinal =
        (room.members[player]?).map RoomMember.joinOrdinal) :
    Rooms playerToRoom (rooms.insert roomId changed) nextRoom
      nextJoinOrdinal := by
  have hmem : ∀ player, player ∈ changed.members ↔ player ∈ room.members := by
    intro player
    rw [Std.ExtTreeMap.mem_iff_isSome_getElem?,
      Std.ExtTreeMap.mem_iff_isSome_getElem?, ← Option.isSome_map, hmembers,
      Option.isSome_map]
  exact {
    membership := by
      intro player otherId
      rw [getElem?_insert, h.membership]
      by_cases hid : otherId = roomId
      · subst hid
        simp [hfound, hmem]
      · simp only [if_neg hid]
    valid := by
      intro otherId other hother
      rw [getElem?_insert] at hother
      split at hother
      · rename_i heq
        obtain rfl := Option.some.inj hother
        rw [heq]
        exact hvalid
      · exact h.valid otherId other hother
    usedRooms := by
      intro otherId other hother
      rw [getElem?_insert] at hother
      split at hother
      · rename_i heq
        rw [heq]
        exact h.usedRooms roomId room hfound
      · exact h.usedRooms otherId other hother
    usedOrdinals := by
      intro otherId other player member hother hmember
      rw [getElem?_insert] at hother
      split at hother
      · obtain rfl := Option.some.inj hother
        have hordinal := hmembers player
        rw [hmember, Option.map_some, eq_comm, Option.map_eq_some_iff]
          at hordinal
        obtain ⟨before, hbefore, hordinal⟩ := hordinal
        rw [← hordinal]
        exact h.usedOrdinals roomId room player before hfound hbefore
      · exact h.usedOrdinals otherId other player member hother hmember }

/-- A member leaves; a room without members goes too. -/
theorem Rooms.left (h : Rooms playerToRoom rooms nextRoom nextJoinOrdinal)
    {player : PlayerId} {roomId : RoomId} {room : Room}
    (hplayer : playerToRoom[player]? = some roomId)
    (hfound : rooms[roomId]? = some room) :
    Rooms (playerToRoom.erase player)
      (if (room.without player).empty then rooms.erase roomId
        else rooms.insert roomId (room.without player))
      nextRoom nextJoinOrdinal := by
  have hold : ∀ (otherId : RoomId) (other : Room),
      (if (room.without player).empty then rooms.erase roomId
        else rooms.insert roomId (room.without player))[otherId]? = some other →
      ∃ before, rooms[otherId]? = some before ∧ other.Valid otherId ∧
        ∀ (p : PlayerId) (member : RoomMember),
          other.members[p]? = some member → before.members[p]? = some member := by
    intro otherId other hother
    split at hother
    · rw [getElem?_erase] at hother
      split at hother
      · cases hother
      · exact ⟨other, hother, h.valid otherId other hother, fun _ _ hp => hp⟩
    · rename_i hmore
      rw [getElem?_insert] at hother
      split at hother
      · rename_i heq
        obtain rfl := Option.some.inj hother
        refine ⟨room, heq ▸ hfound, heq ▸ (h.valid roomId room hfound).without
          (Bool.not_eq_true _ ▸ hmore), ?_⟩
        intro p member hp
        rw [Room.without_members, getElem?_erase] at hp
        split at hp
        · cases hp
        · exact hp
      · exact ⟨other, hother, h.valid otherId other hother, fun _ _ hp => hp⟩
  exact {
    membership := by
      intro other otherId
      have hroom : (∃ left, (if (room.without player).empty
            then rooms.erase roomId
            else rooms.insert roomId (room.without player))[otherId]? =
              some left ∧ other ∈ left.members) ↔
          other ≠ player ∧
            ∃ before, rooms[otherId]? = some before ∧ other ∈ before.members := by
        by_cases hid : otherId = roomId
        · subst hid
          have hmem : other ∈ (room.without player).members ↔
              other ≠ player ∧ other ∈ room.members := Room.mem_without
          by_cases hempty : (room.without player).empty
          · have hnone : other ∉ (room.without player).members := by
              rw [Room.empty, Std.ExtTreeMap.isEmpty_iff] at hempty
              rw [hempty]
              exact Std.ExtTreeMap.not_mem_empty
            simp only [if_pos hempty, getElem?_erase, if_true, reduceCtorEq,
              false_and, exists_false, false_iff, hfound, Option.some.injEq,
              exists_eq_left', ← hmem]
            exact hnone
          · simp only [if_neg hempty, getElem?_insert, if_true, hfound,
              Option.some.injEq, exists_eq_left', hmem]
        · have hother : (if (room.without player).empty then rooms.erase roomId
              else rooms.insert roomId (room.without player))[otherId]? =
              rooms[otherId]? := by
            split
            · rw [getElem?_erase, if_neg hid]
            · rw [getElem?_insert, if_neg hid]
          rw [hother, iff_and_self]
          intro hin heq
          rw [← h.membership, heq, hplayer] at hin
          exact hid (Option.some.inj hin).symm
      rw [hroom, ← h.membership, getElem?_erase]
      by_cases heq : other = player
      · simp [heq]
      · simp [heq]
    valid := fun otherId other hother =>
      (hold otherId other hother).elim fun _ hbefore => hbefore.2.1
    usedRooms := by
      intro otherId other hother
      obtain ⟨before, hbefore, -⟩ := hold otherId other hother
      exact h.usedRooms otherId before hbefore
    usedOrdinals := by
      intro otherId other p member hother hmember
      obtain ⟨before, hbefore, -, hmembers⟩ := hold otherId other hother
      exact h.usedOrdinals otherId before p member hbefore
        (hmembers p member hmember) }

/-- A room goes with all its members. -/
theorem Rooms.removed (h : Rooms playerToRoom rooms nextRoom nextJoinOrdinal)
    {roomId : RoomId} {room : Room} (hfound : rooms[roomId]? = some room) :
    Rooms (room.players.foldl (·.erase ·) playerToRoom) (rooms.erase roomId)
      nextRoom nextJoinOrdinal := by
  have hold : ∀ (otherId : RoomId) (other : Room),
      (rooms.erase roomId)[otherId]? = some other →
      otherId ≠ roomId ∧ rooms[otherId]? = some other := by
    intro otherId other hother
    rw [getElem?_erase] at hother
    split at hother
    · cases hother
    · exact ⟨by assumption, hother⟩
  exact {
    membership := by
      intro player otherId
      rw [getElem?_foldl_erase, getElem?_erase]
      by_cases hmember : player ∈ room.players
      · have hplayer := (h.membership player roomId).mpr
          ⟨room, hfound, Room.mem_players.mp hmember⟩
        simp only [if_pos hmember, reduceCtorEq, false_iff]
        intro hin
        by_cases hid : otherId = roomId
        · simp [hid] at hin
        · rw [if_neg hid, ← h.membership, hplayer] at hin
          exact hid (Option.some.inj hin).symm
      · by_cases hid : otherId = roomId
        · subst hid
          rw [if_neg hmember, h.membership]
          simp [hfound, Room.mem_players.not.mp hmember]
        · rw [if_neg hmember, if_neg hid]
          exact h.membership player otherId
    valid := fun otherId other hother =>
      h.valid otherId other (hold otherId other hother).2
    usedRooms := fun otherId other hother =>
      h.usedRooms otherId other (hold otherId other hother).2
    usedOrdinals := fun otherId other player member hother =>
      h.usedOrdinals otherId other player member (hold otherId other hother).2 }

end

/-! ## Reservations and matches -/

/-- The room named by a pending reservation. -/
def reservedRoom
    (pendingReservations : Std.ExtTreeMap ReservationId PendingReservation)
    (reservation : ReservationId) : Option RoomId :=
  pendingReservations[reservation]?.map (·.action.room)

def roomState (rooms : Std.ExtTreeMap RoomId Room) (roomId : RoomId) :
    Option RoomState :=
  rooms[roomId]?.map Room.state

theorem roomState_insert (rooms : Std.ExtTreeMap RoomId Room) (roomId : RoomId)
    (room : Room) : roomState (rooms.insert roomId room) =
      Function.update (roomState rooms) roomId (some room.state) := by
  funext other
  rw [roomState, getElem?_insert, Function.update_apply]
  split <;> rfl

theorem roomState_erase (rooms : Std.ExtTreeMap RoomId Room) (roomId : RoomId) :
    roomState (rooms.erase roomId) =
      Function.update (roomState rooms) roomId none := by
  funext other
  rw [roomState, getElem?_erase, Function.update_apply]
  split <;> rfl

theorem reservedRoom_insert
    (pendingReservations : Std.ExtTreeMap ReservationId PendingReservation)
    (reservation : ReservationId) (action : ReserveMatchAction) :
    reservedRoom (pendingReservations.insert reservation { action }) =
      Function.update (reservedRoom pendingReservations) reservation
        (some action.room) := by
  funext other
  rw [reservedRoom, getElem?_insert, Function.update_apply]
  split <;> rfl

theorem reservedRoom_erase
    (pendingReservations : Std.ExtTreeMap ReservationId PendingReservation)
    (reservation : ReservationId) :
    reservedRoom (pendingReservations.erase reservation) =
      Function.update (reservedRoom pendingReservations) reservation none := by
  funext other
  rw [reservedRoom, getElem?_erase, Function.update_apply]
  split <;> rfl

structure Matchmaking (states : RoomId → Option RoomState)
    (pendingReservations : Std.ExtTreeMap ReservationId PendingReservation)
    (roomToReservation : Std.ExtTreeMap RoomId ReservationId)
    (activeMatches : Std.ExtTreeMap MatchId ActiveMatch)
    (nextMatch nextReservation : Option UInt64) : Prop where
  reservations : Inverse (entry roomToReservation)
    (reservedRoom pendingReservations)
  named : ∀ (reservation : ReservationId) (pending : PendingReservation),
    pendingReservations[reservation]? = some pending →
    pending.action.reservation = reservation
  starting : ∀ roomId : RoomId,
    states roomId = some .starting ↔ (roomToReservation[roomId]?).isSome
  inMatch : ∀ roomId : RoomId, states roomId = some .inMatch ↔
    ∃ (matchId : MatchId) (record : ActiveMatch),
      activeMatches[matchId]? = some record ∧ record.room = roomId
  oneMatch : ∀ (first second : MatchId) (firstRecord secondRecord : ActiveMatch),
    activeMatches[first]? = some firstRecord →
    activeMatches[second]? = some secondRecord →
    firstRecord.room = secondRecord.room → first = second
  distinct : ∀ (first second : ReservationId)
    (firstPending secondPending : PendingReservation),
    pendingReservations[first]? = some firstPending →
    pendingReservations[second]? = some secondPending →
    firstPending.action.matchId = secondPending.action.matchId → first = second
  inactive : ∀ (reservation : ReservationId) (pending : PendingReservation),
    pendingReservations[reservation]? = some pending →
    activeMatches[pending.action.matchId]? = none
  usedReservations : ∀ (reservation : ReservationId)
    (pending : PendingReservation),
    pendingReservations[reservation]? = some pending →
    Used nextReservation reservation.value
  usedPending : ∀ (reservation : ReservationId) (pending : PendingReservation),
    pendingReservations[reservation]? = some pending →
    Used nextMatch pending.action.matchId.value
  usedMatches : ∀ (matchId : MatchId) (record : ActiveMatch),
    activeMatches[matchId]? = some record → Used nextMatch matchId.value

section
variable {states : RoomId → Option RoomState}
  {pendingReservations : Std.ExtTreeMap ReservationId PendingReservation}
  {roomToReservation : Std.ExtTreeMap RoomId ReservationId}
  {activeMatches : Std.ExtTreeMap MatchId ActiveMatch}
  {nextMatch nextReservation : Option UInt64}

/-- The states of rooms that neither start nor play do not matter. -/
theorem Matchmaking.restated
    (h : Matchmaking states pendingReservations roomToReservation activeMatches
      nextMatch nextReservation) {roomId : RoomId} {state : Option RoomState}
    (hbefore : states roomId = none ∨ states roomId = some .waiting)
    (hafter : state = none ∨ state = some .waiting) :
    Matchmaking (Function.update states roomId state) pendingReservations
      roomToReservation activeMatches nextMatch nextReservation := by
  have hsame : ∀ (other : RoomId) (target : RoomState),
      target = .starting ∨ target = .inMatch →
      (Function.update states roomId state other = some target ↔
        states other = some target) := by
    intro other target htarget
    rw [Function.update_apply]
    split
    · rename_i heq
      rw [heq]
      have hnot : ∀ current : Option RoomState,
          current = none ∨ current = some .waiting → current ≠ some target := by
        rintro current (rfl | rfl)
        · simp
        · rcases htarget with rfl | rfl <;> simp
      simp [hnot _ hbefore, hnot _ hafter]
    · rfl
  exact { h with
    starting := by
      intro other
      rw [hsame other .starting (Or.inl rfl)]
      exact h.starting other
    inMatch := by
      intro other
      rw [hsame other .inMatch (Or.inr rfl)]
      exact h.inMatch other }

/-- Ids that are taken and not used are no harm. -/
theorem Matchmaking.numbered
    (h : Matchmaking states pendingReservations roomToReservation activeMatches
      nextMatch nextReservation) {matchValue reservationValue : UInt64}
    (hmatch : nextMatch = some matchValue)
    (hreservation : nextReservation = some reservationValue) :
    Matchmaking states pendingReservations roomToReservation activeMatches
      (advance matchValue) (advance reservationValue) :=
  { h with
    usedReservations := fun reservation pending hpending =>
      (h.usedReservations reservation pending hpending).advance hreservation
    usedPending := fun reservation pending hpending =>
      (h.usedPending reservation pending hpending).advance hmatch
    usedMatches := fun matchId record hrecord =>
      (h.usedMatches matchId record hrecord).advance hmatch }

theorem Matchmaking.notReserved
    (h : Matchmaking states pendingReservations roomToReservation activeMatches
      nextMatch nextReservation) {reservation : ReservationId}
    (hnext : nextReservation = some reservation.value) :
    pendingReservations[reservation]? = none := by
  cases hpending : pendingReservations[reservation]? with
  | none => rfl
  | some pending =>
    exact absurd (h.usedReservations _ _ hpending) (not_used hnext)

theorem Matchmaking.roomNotReserved
    (h : Matchmaking states pendingReservations roomToReservation activeMatches
      nextMatch nextReservation) {roomId : RoomId}
    (hstate : states roomId ≠ some .starting) :
    roomToReservation[roomId]? = none := by
  rw [ne_eq, h.starting] at hstate
  simpa using hstate

/-- A waiting room starts under a new reservation. -/
theorem Matchmaking.reserved
    (h : Matchmaking states pendingReservations roomToReservation activeMatches
      nextMatch nextReservation) {action : ReserveMatchAction}
    (hstate : states action.room = some .waiting)
    (hmatch : nextMatch = some action.matchId.value)
    (hreservation : nextReservation = some action.reservation.value) :
    Matchmaking (Function.update states action.room (some .starting))
      (pendingReservations.insert action.reservation { action })
      (roomToReservation.insert action.room action.reservation) activeMatches
      (advance action.matchId.value) (advance action.reservation.value) := by
  have hnew := h.notReserved hreservation
  have hroom : roomToReservation[action.room]? = none :=
    h.roomNotReserved (by rw [hstate]; decide)
  have hpending : ∀ (reservation : ReservationId) (pending : PendingReservation),
      (pendingReservations.insert action.reservation { action })[reservation]? =
        some pending →
      reservation = action.reservation ∧ pending = { action } ∨
        reservation ≠ action.reservation ∧
          pendingReservations[reservation]? = some pending := by
    intro reservation pending hfound
    rw [getElem?_insert] at hfound
    split at hfound
    · exact Or.inl ⟨by assumption, (Option.some.inj hfound).symm⟩
    · exact Or.inr ⟨by assumption, hfound⟩
  have hfresh : ∀ (reservation : ReservationId) (pending : PendingReservation),
      pendingReservations[reservation]? = some pending →
      pending.action.matchId ≠ action.matchId := by
    intro reservation pending hfound heq
    have hused := h.usedPending reservation pending hfound
    rw [heq] at hused
    exact not_used hmatch hused
  exact {
    reservations := by
      rw [entry_insert, reservedRoom_insert]
      apply h.reservations.insert hroom
      rw [reservedRoom, hnew]
      rfl
    named := by
      intro reservation pending hfound
      rcases hpending reservation pending hfound with ⟨rfl, rfl⟩ | ⟨-, hold⟩
      · rfl
      · exact h.named reservation pending hold
    starting := by
      intro roomId
      rw [Function.update_apply, getElem?_insert]
      by_cases heq : roomId = action.room
      · simp [heq]
      · simp only [if_neg heq]
        exact h.starting roomId
    inMatch := by
      intro roomId
      rw [← h.inMatch, Function.update_apply]
      by_cases heq : roomId = action.room
      · simp [heq, hstate]
      · simp only [if_neg heq]
    oneMatch := h.oneMatch
    distinct := by
      intro first second firstPending secondPending hfirst hsecond heq
      rcases hpending first firstPending hfirst with ⟨rfl, rfl⟩ | ⟨-, hone⟩
      · rcases hpending second secondPending hsecond with ⟨rfl, rfl⟩ | ⟨-, htwo⟩
        · rfl
        · exact absurd heq.symm (hfresh second secondPending htwo)
      · rcases hpending second secondPending hsecond with ⟨rfl, rfl⟩ | ⟨-, htwo⟩
        · exact absurd heq (hfresh first firstPending hone)
        · exact h.distinct first second firstPending secondPending hone htwo heq
    inactive := by
      intro reservation pending hfound
      rcases hpending reservation pending hfound with ⟨rfl, rfl⟩ | ⟨-, hold⟩
      · cases hactive : activeMatches[action.matchId]? with
        | none => rfl
        | some record =>
          exact absurd (h.usedMatches _ record hactive) (not_used hmatch)
      · exact h.inactive reservation pending hold
    usedReservations := by
      intro reservation pending hfound
      rcases hpending reservation pending hfound with ⟨rfl, rfl⟩ | ⟨-, hold⟩
      · exact used_advance _
      · exact (h.usedReservations reservation pending hold).advance hreservation
    usedPending := by
      intro reservation pending hfound
      rcases hpending reservation pending hfound with ⟨rfl, rfl⟩ | ⟨-, hold⟩
      · exact used_advance _
      · exact (h.usedPending reservation pending hold).advance hmatch
    usedMatches := fun matchId record hrecord =>
      (h.usedMatches matchId record hrecord).advance hmatch }

/-- The reservation of a room, by the pending one that names the room. -/
theorem Matchmaking.reservationOf
    (h : Matchmaking states pendingReservations roomToReservation activeMatches
      nextMatch nextReservation) {reservation : ReservationId}
    {pending : PendingReservation}
    (hpending : pendingReservations[reservation]? = some pending) :
    roomToReservation[pending.action.room]? = some reservation := by
  apply (h.reservations pending.action.room reservation).mpr
  rw [reservedRoom, hpending]
  rfl

/-- A starting room leaves its reservation, for its match if it has one. -/
theorem Matchmaking.released
    (h : Matchmaking states pendingReservations roomToReservation activeMatches
      nextMatch nextReservation) {reservation : ReservationId}
    {action : ReserveMatchAction}
    (hpending : pendingReservations[reservation]? = some { action }) :
    Matchmaking (Function.update states action.room (some .waiting))
      (pendingReservations.erase reservation)
      (roomToReservation.erase action.room) activeMatches nextMatch
      nextReservation := by
  have hroom := h.reservationOf hpending
  have hstate : states action.room = some .starting := by
    rw [h.starting, hroom]
    rfl
  have hold : ∀ (other : ReservationId) (pending : PendingReservation),
      (pendingReservations.erase reservation)[other]? = some pending →
      pendingReservations[other]? = some pending := by
    intro other pending hfound
    rw [getElem?_erase] at hfound
    split at hfound
    · cases hfound
    · exact hfound
  exact {
    reservations := by
      rw [entry_erase, reservedRoom_erase]
      exact h.reservations.erase hroom
    named := fun other pending hfound => h.named other pending (hold _ _ hfound)
    starting := by
      intro roomId
      rw [Function.update_apply, getElem?_erase]
      by_cases heq : roomId = action.room
      · simp [heq]
      · simp only [if_neg heq]
        exact h.starting roomId
    inMatch := by
      intro roomId
      rw [← h.inMatch, Function.update_apply]
      by_cases heq : roomId = action.room
      · simp [heq, hstate]
      · simp only [if_neg heq]
    oneMatch := h.oneMatch
    distinct := fun first second firstPending secondPending hfirst hsecond =>
      h.distinct first second firstPending secondPending (hold _ _ hfirst)
        (hold _ _ hsecond)
    inactive := fun other pending hfound =>
      h.inactive other pending (hold _ _ hfound)
    usedReservations := fun other pending hfound =>
      h.usedReservations other pending (hold _ _ hfound)
    usedPending := fun other pending hfound =>
      h.usedPending other pending (hold _ _ hfound)
    usedMatches := h.usedMatches }

/-- A waiting room without a reservation gets a match with a new id. -/
theorem Matchmaking.activated
    (h : Matchmaking states pendingReservations roomToReservation activeMatches
      nextMatch nextReservation) {roomId : RoomId} {matchId : MatchId}
    {record : ActiveMatch} (hrecord : record.room = roomId)
    (hstate : states roomId = some .waiting)
    (hnew : activeMatches[matchId]? = none) (hused : Used nextMatch matchId.value)
    (hpending : ∀ (reservation : ReservationId) (pending : PendingReservation),
      pendingReservations[reservation]? = some pending →
      pending.action.matchId ≠ matchId) :
    Matchmaking (Function.update states roomId (some .inMatch))
      pendingReservations roomToReservation
      (activeMatches.insertIfNew matchId record) nextMatch nextReservation := by
  have hactive : ∀ (other : MatchId) (found : ActiveMatch),
      (activeMatches.insertIfNew matchId record)[other]? = some found →
      other = matchId ∧ found = record ∨
        other ≠ matchId ∧ activeMatches[other]? = some found ∧
          found.room ≠ roomId := by
    intro other found hfound
    rw [getElem?_insertIfNew _ hnew] at hfound
    split at hfound
    · exact Or.inl ⟨by assumption, (Option.some.inj hfound).symm⟩
    · refine Or.inr ⟨by assumption, hfound, ?_⟩
      intro heq
      have hin := (h.inMatch roomId).mpr ⟨other, found, hfound, heq⟩
      rw [hstate] at hin
      cases hin
  exact { h with
    starting := by
      intro other
      rw [← h.starting, Function.update_apply]
      by_cases heq : other = roomId
      · simp [heq, hstate]
      · simp only [if_neg heq]
    inMatch := by
      intro other
      rw [Function.update_apply]
      by_cases heq : other = roomId
      · simp only [if_pos heq, true_iff]
        exact ⟨matchId, record, by rw [getElem?_insertIfNew _ hnew, if_pos rfl],
          hrecord.trans heq.symm⟩
      · rw [if_neg heq, h.inMatch]
        constructor
        · rintro ⟨m, found, hfound, hroom⟩
          have hne : m ≠ matchId := by
            rintro rfl
            rw [hnew] at hfound
            cases hfound
          exact ⟨m, found, by rw [getElem?_insertIfNew _ hnew, if_neg hne]
                              exact hfound, hroom⟩
        · rintro ⟨m, found, hfound, hroom⟩
          rcases hactive m found hfound with ⟨-, rfl⟩ | ⟨-, hold, -⟩
          · exact absurd (hroom.symm.trans hrecord) heq
          · exact ⟨m, found, hold, hroom⟩
    oneMatch := by
      intro first second firstRecord secondRecord hfirst hsecond heq
      rcases hactive first firstRecord hfirst with ⟨rfl, rfl⟩ | ⟨-, hone, hneOne⟩
      · rcases hactive second secondRecord hsecond with ⟨rfl, -⟩ | ⟨-, -, hne⟩
        · rfl
        · exact absurd (heq.symm.trans hrecord) hne
      · rcases hactive second secondRecord hsecond with ⟨rfl, rfl⟩ | ⟨-, htwo, -⟩
        · exact absurd (heq.trans hrecord) hneOne
        · exact h.oneMatch first second firstRecord secondRecord hone htwo heq
    inactive := by
      intro reservation pending hfound
      rw [getElem?_insertIfNew _ hnew,
        if_neg (hpending reservation pending hfound)]
      exact h.inactive reservation pending hfound
    usedMatches := by
      intro other found hfound
      rcases hactive other found hfound with ⟨rfl, -⟩ | ⟨-, hold, -⟩
      · exact hused
      · exact h.usedMatches other found hold }

/-- A match is over and its room gone. -/
theorem Matchmaking.finished
    (h : Matchmaking states pendingReservations roomToReservation activeMatches
      nextMatch nextReservation) {matchId : MatchId} {record : ActiveMatch}
    (hactive : activeMatches[matchId]? = some record) :
    Matchmaking (Function.update states record.room none) pendingReservations
      roomToReservation (activeMatches.erase matchId) nextMatch
      nextReservation := by
  have hstate : states record.room = some .inMatch :=
    (h.inMatch record.room).mpr ⟨matchId, record, hactive, rfl⟩
  have hold : ∀ (other : MatchId) (found : ActiveMatch),
      (activeMatches.erase matchId)[other]? = some found →
      other ≠ matchId ∧ activeMatches[other]? = some found := by
    intro other found hfound
    rw [getElem?_erase] at hfound
    split at hfound
    · cases hfound
    · exact ⟨by assumption, hfound⟩
  exact { h with
    starting := by
      intro roomId
      rw [← h.starting, Function.update_apply]
      by_cases heq : roomId = record.room
      · simp [heq, hstate]
      · simp only [if_neg heq]
    inMatch := by
      intro roomId
      rw [Function.update_apply]
      by_cases heq : roomId = record.room
      · simp only [if_pos heq, reduceCtorEq, false_iff]
        rintro ⟨other, found, hfound, hroom⟩
        obtain ⟨hne, hother⟩ := hold other found hfound
        exact hne (h.oneMatch other matchId found record hother hactive
          (hroom.trans heq))
      · rw [if_neg heq, h.inMatch]
        constructor
        · rintro ⟨other, found, hfound, hroom⟩
          have hne : other ≠ matchId := by
            rintro rfl
            rw [hactive] at hfound
            obtain rfl := Option.some.inj hfound
            exact heq hroom.symm
          exact ⟨other, found, by rw [getElem?_erase, if_neg hne]
                                  exact hfound, hroom⟩
        · rintro ⟨other, found, hfound, hroom⟩
          exact ⟨other, found, (hold other found hfound).2, hroom⟩
    oneMatch := fun first second firstRecord secondRecord hfirst hsecond =>
      h.oneMatch first second firstRecord secondRecord (hold _ _ hfirst).2
        (hold _ _ hsecond).2
    inactive := by
      intro reservation pending hfound
      rw [getElem?_erase]
      split
      · rfl
      · exact h.inactive reservation pending hfound
    usedMatches := fun other found hfound =>
      h.usedMatches other found (hold other found hfound).2 }

end

end LobbyService

end SurvivalArena
