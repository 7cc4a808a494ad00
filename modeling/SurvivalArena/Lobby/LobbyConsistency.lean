import SurvivalArena.Framework.Machine
import SurvivalArena.Lobby.LobbyCalls

/-!
# Consistency of the lobby

The maps of the lobby agree in every state that its owner's calls can reach, and
no call throws there.
-/

namespace SurvivalArena

open OrderedMap

namespace LobbyService

/-- The reservation that a room maps to is pending and names the room, and no
other pending one does. -/
def ReservedBy (service : LobbyService) (roomId : RoomId)
    (reservation : ReservationId) : Prop :=
  service.roomToReservation[roomId]? = some reservation ∧
    (∃ pending, service.pendingReservations[reservation]? = some pending ∧
      pending.action.room = roomId) ∧
    ∀ (other : ReservationId) (pending : PendingReservation),
      service.pendingReservations[other]? = some pending →
      pending.action.room = roomId → other = reservation

structure Consistent (service : LobbyService) : Prop where
  /-- Players and connections are mutually inverse. -/
  clients : ∀ (player : PlayerId) (connection : ConnectionId),
    service.playerToConnection[player]? = some connection ↔
      ∃ state, service.connections[connection]? = some state ∧
        state.player = some player
  /-- A player is mapped to the room that lists it. -/
  membership : ∀ (player : PlayerId) (roomId : RoomId),
    service.playerToRoom[player]? = some roomId ↔
      ∃ room, service.rooms[roomId]? = some room ∧ player ∈ room.members
  oneRoom : ∀ (player : PlayerId) (first second : RoomId)
    (firstRoom secondRoom : Room), service.rooms[first]? = some firstRoom →
    service.rooms[second]? = some secondRoom → player ∈ firstRoom.members →
    player ∈ secondRoom.members → first = second
  occupied : ∀ (roomId : RoomId) (room : Room),
    service.rooms[roomId]? = some room →
    room.members.isEmpty = false ∧ room.members.size ≤ roomCapacity
  /-- Everyone else joined after the host. -/
  host : ∀ (roomId : RoomId) (room : Room),
    service.rooms[roomId]? = some room →
    ∃ hostMember, room.members[room.host]? = some hostMember ∧
      ∀ (player : PlayerId) (member : RoomMember),
        room.members[player]? = some member → player ≠ room.host →
        hostMember.joinOrdinal < member.joinOrdinal
  starting : ∀ roomId : RoomId,
    (∃ room, service.rooms[roomId]? = some room ∧ room.state = .starting) ↔
      ∃ reservation, service.ReservedBy roomId reservation
  inMatch : ∀ roomId : RoomId,
    (∃ room, service.rooms[roomId]? = some room ∧ room.state = .inMatch) ↔
      ∃! matchId : MatchId, ∃ record,
        service.activeMatches[matchId]? = some record ∧ record.room = roomId

theorem Invariant.reservedBy {service : LobbyService} (h : service.Invariant)
    {roomId : RoomId} {reservation : ReservationId}
    (hreserved : service.roomToReservation[roomId]? = some reservation) :
    service.ReservedBy roomId reservation := by
  have hroom := (h.matchmaking.reservations roomId reservation).mp hreserved
  refine ⟨hreserved, Option.map_eq_some_iff.mp hroom, ?_⟩
  intro other pending hpending hnames
  have hother := h.matchmaking.reservationOf hpending
  rw [hnames, hreserved] at hother
  exact (Option.some.inj hother).symm

theorem Invariant.consistent {service : LobbyService} (h : service.Invariant) :
    service.Consistent where
  clients := by
    intro player connection
    rw [← Option.bind_eq_some_iff]
    exact h.clients.inverse player connection
  membership := h.rooms.membership
  oneRoom := by
    intro player first second firstRoom secondRoom hfirst hsecond hone htwo
    have hfound := (h.rooms.membership player first).mpr ⟨firstRoom, hfirst, hone⟩
    rw [(h.rooms.membership player second).mpr ⟨secondRoom, hsecond, htwo⟩]
      at hfound
    exact (Option.some.inj hfound).symm
  occupied := by
    intro roomId room hfound
    have hvalid := h.rooms.valid roomId room hfound
    exact ⟨hvalid.empty, hvalid.capacity⟩
  host := by
    intro roomId room hfound
    have hvalid := h.rooms.valid roomId room hfound
    obtain ⟨hostMember, hhost, hfirst⟩ := hvalid.host
    refine ⟨hostMember, hhost, ?_⟩
    intro player member hmember hne
    apply lt_of_le_of_ne (hfirst player member hmember)
    intro heq
    exact hne (hvalid.ordinals player room.host member hostMember hmember hhost
      heq.symm)
  starting := by
    intro roomId
    rw [← Option.map_eq_some_iff]
    have hstate := h.matchmaking.starting roomId
    rw [roomState, Option.isSome_iff_exists] at hstate
    rw [hstate]
    constructor
    · rintro ⟨reservation, hreserved⟩
      exact ⟨reservation, h.reservedBy hreserved⟩
    · rintro ⟨reservation, hreserved, -⟩
      exact ⟨reservation, hreserved⟩
  inMatch := by
    intro roomId
    rw [← Option.map_eq_some_iff]
    have hstate := h.matchmaking.inMatch roomId
    rw [roomState] at hstate
    rw [hstate]
    constructor
    · rintro ⟨matchId, record, hactive, hroom⟩
      refine ⟨matchId, ⟨record, hactive, hroom⟩, ?_⟩
      rintro other ⟨otherRecord, hother, hotherRoom⟩
      exact h.matchmaking.oneMatch other matchId otherRecord record hother hactive
        (hotherRoom.trans hroom.symm)
    · rintro ⟨matchId, ⟨record, hactive, hroom⟩, -⟩
      exact ⟨matchId, record, hactive, hroom⟩

theorem run_invariant (tickets : MatchTicketRegistry) (config : LobbyServiceConfig)
    (events : List LobbyEvent) :
    (Machine.run step (create tickets config) events).Invariant := by
  apply Machine.run_invariant (P := fun _ => True)
  · intro service event _ h
    exact service.step_invariant event h
  · exact invariant_create tickets config
  · exact fun _ _ => trivial

/-- In every reachable state the maps agree, and no call throws. -/
theorem run_consistent (tickets : MatchTicketRegistry)
    (config : LobbyServiceConfig) (events : List LobbyEvent) :
    (Machine.run step (create tickets config) events).Consistent ∧
      ∀ event, ∃ result,
        ((Machine.run step (create tickets config) events).call event).2 =
          .ok result := by
  have hinvariant := run_invariant tickets config events
  refine ⟨hinvariant.consistent, ?_⟩
  intro event
  obtain ⟨after, result, hcall, -⟩ := call_performs hinvariant event
  exact ⟨result, by rw [hcall]⟩

end LobbyService

end SurvivalArena
