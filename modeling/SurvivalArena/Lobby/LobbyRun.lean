import SurvivalArena.Lobby.LobbyInvariant

/-!
# Changes keep the invariant
-/

namespace SurvivalArena

open Counter OrderedMap

namespace LobbyService

structure Invariant (service : LobbyService) : Prop where
  clients : Clients service.connections service.playerToConnection
    service.nextConnection service.nextPlayer
  rooms : Rooms service.playerToRoom service.rooms service.nextRoom
    service.nextJoinOrdinal
  matchmaking : Matchmaking (roomState service.rooms)
    service.pendingReservations service.roomToReservation service.activeMatches
    service.nextMatch service.nextReservation

theorem invariant_create (tickets : MatchTicketRegistry)
    (config : LobbyServiceConfig) : (create tickets config).Invariant where
  clients := {
    inverse := by
      intro player connection
      simp [entry, playerOf, create]
    usedConnections := by simp [create]
    usedPlayers := by simp [create] }
  rooms := {
    membership := by simp [create]
    valid := by simp [create]
    usedRooms := by simp [create]
    usedOrdinals := by simp [create] }
  matchmaking := {
    reservations := by
      intro roomId reservation
      simp [entry, reservedRoom, create]
    named := by simp [create]
    starting := by simp [create, roomState]
    inMatch := by simp [create, roomState]
    oneMatch := by simp [create]
    distinct := by simp [create]
    inactive := by simp [create]
    usedReservations := by simp [create]
    usedPending := by simp [create]
    usedMatches := by simp [create] }

theorem roomState_eq {rooms : Std.ExtTreeMap RoomId Room} {roomId : RoomId}
    {room : Room} (hfound : rooms[roomId]? = some room) :
    roomState rooms roomId = some room.state := by
  rw [roomState, hfound]
  rfl

/-- A pending reservation names a starting room. -/
theorem Invariant.starting {service : LobbyService} (h : service.Invariant)
    {reservation : ReservationId} {action : ReserveMatchAction}
    (hpending : service.pendingReservations[reservation]? = some { action })
    {room : Room} (hfound : service.rooms[action.room]? = some room) :
    room.state = .starting := by
  have hroom := h.matchmaking.reservationOf hpending
  have hstate : roomState service.rooms action.room = some .starting := by
    rw [h.matchmaking.starting, hroom]
    rfl
  rw [roomState_eq hfound] at hstate
  exact Option.some.inj hstate

/-- A room that changes its state only keeps its members. -/
theorem Invariant.rooms_withState {service : LobbyService} (h : service.Invariant)
    {roomId : RoomId} {room : Room} (hfound : service.rooms[roomId]? = some room)
    (state : RoomState) :
    Rooms service.playerToRoom
      (service.rooms.insert roomId { room with state }) service.nextRoom
      service.nextJoinOrdinal :=
  h.rooms.changed hfound ((h.rooms.valid roomId room hfound).withState state)
    fun _ => rfl

end LobbyService

open LobbyService

theorem LobbyChange.invariant {event : LobbyEvent}
    {before after : LobbyService} {actions : List LobbyRuntimeAction}
    (hchange : LobbyChange event before after actions)
    (h : before.Invariant) : after.Invariant := by
  cases hchange with
  | opened value hnext =>
    exact { h with clients := h.clients.opened hnext }
  | received connection state requestId hfound =>
    exact { h with clients := h.clients.received hfound requestId }
  | welcomed connection state value hfound hunnamed hnext =>
    exact { h with clients := h.clients.welcomed hfound hunnamed hnext }
  | created player value joinOrdinal habsent hroom hordinal =>
    have hfresh := h.rooms.fresh hroom
    exact { h with
      rooms := by
        apply h.rooms.entered habsent (Room.valid_create ⟨value⟩ player joinOrdinal)
        · intro other
          simp [hfresh]
        · intro otherId room hfound
          exact (h.rooms.usedRooms otherId room hfound).advance hroom
        · exact used_advance value
        · intro otherId room other member hfound hmember
          exact (h.rooms.usedOrdinals otherId room other member hfound
            hmember).advance hordinal
        · intro other member hmember
          rw [(Room.create_member hmember).2]
          exact used_advance joinOrdinal
      matchmaking := by
        show Matchmaking (roomState (before.rooms.insert _ _)) _ _ _ _ _
        rw [roomState_insert]
        exact h.matchmaking.restated (Or.inl (by simp [roomState, hfresh]))
          (Or.inr rfl) }
  | joined player roomId room joined ordinal habsent hfound hnext hjoins =>
    have hvalid := h.rooms.valid roomId room hfound
    obtain ⟨hwaiting, hnotin, -, rfl⟩ := Room.join_eq_ok.mp hjoins
    have hstate : roomState before.rooms roomId = some .waiting := by
      rw [roomState_eq hfound, hwaiting]
    have hbelow : ∀ (other : PlayerId) (member : RoomMember),
        room.members[other]? = some member → member.joinOrdinal < ordinal :=
      fun other member hmember =>
        h.rooms.usedOrdinals roomId room other member hfound hmember ordinal hnext
    exact { h with
      rooms := by
        apply h.rooms.entered habsent (hvalid.join hjoins hbelow)
        · intro other
          simp only [hfound, Option.some.injEq, exists_eq_left', Room.mem_joined]
        · exact h.rooms.usedRooms
        · exact h.rooms.usedRooms roomId room hfound
        · intro otherId room other member hfound hmember
          exact (h.rooms.usedOrdinals otherId room other member hfound
            hmember).advance hnext
        · intro other member hmember
          rw [getElem?_insert] at hmember
          split at hmember
          · obtain rfl := Option.some.inj hmember
            exact used_advance ordinal
          · exact (h.rooms.usedOrdinals roomId room other member hfound
              hmember).advance hnext
      matchmaking := by
        show Matchmaking (roomState (before.rooms.insert _ _)) _ _ _ _ _
        rw [roomState_insert]
        exact h.matchmaking.restated (Or.inr hstate)
          (Or.inr (congrArg some hwaiting)) }
  | left player roomId room hmember hfound hwaiting =>
    have hstate : roomState before.rooms roomId = some .waiting := by
      rw [roomState_eq hfound, hwaiting]
    exact { h with
      rooms := h.rooms.left hmember hfound
      matchmaking := by
        show Matchmaking (roomState (if _ then _ else _)) _ _ _ _ _
        split
        · rw [roomState_erase]
          exact h.matchmaking.restated (Or.inr hstate) (Or.inl rfl)
        · rw [roomState_insert]
          exact h.matchmaking.restated (Or.inr hstate)
            (Or.inr (congrArg some hwaiting)) }
  | readied player ready roomId room changed hfound hsets =>
    have hvalid := h.rooms.valid roomId room hfound
    have hchanged := hvalid.setReady hsets
    obtain ⟨hwaiting, member, hmember, rfl⟩ := Room.setReady_eq_ok.mp hsets
    have hstate : roomState before.rooms roomId = some .waiting := by
      rw [roomState_eq hfound, hwaiting]
    exact { h with
      rooms := by
        apply h.rooms.changed hfound hchanged
        intro other
        rw [getElem?_insert]
        split
        · rename_i heq
          rw [heq, hmember]
          rfl
        · rfl
      matchmaking := by
        show Matchmaking (roomState (before.rooms.insert _ _)) _ _ _ _ _
        rw [roomState_insert]
        exact h.matchmaking.restated (Or.inr hstate)
          (Or.inr (congrArg some hwaiting)) }
  | rolledBack matchValue reservationValue now hstarts room tickets issued hmatch
      hreservation =>
    exact { h with matchmaking := h.matchmaking.numbered hmatch hreservation }
  | reserved action room tickets hstarts hfound hvalid hmatch hreservation =>
    have hwaiting := (Room.validateStart_eq_none hvalid).1
    exact { h with
      rooms := h.rooms_withState hfound .starting
      matchmaking := by
        show Matchmaking (roomState (before.rooms.insert _ _)) _ _ _ _ _
        rw [roomState_insert]
        apply h.matchmaking.reserved _ hmatch hreservation
        rw [roomState_eq hfound, hwaiting] }
  | failed reservation action room htold hpending hfound =>
    exact { h with
      rooms := h.rooms_withState hfound .waiting
      matchmaking := by
        show Matchmaking (roomState (before.rooms.insert _ _)) _ _ _ _ _
        rw [roomState_insert]
        exact h.matchmaking.released hpending }
  | cancelled reservation action room hpending hfound =>
    exact { h with
      rooms := h.rooms_withState hfound .waiting
      matchmaking := by
        show Matchmaking (roomState (before.rooms.insert _ _)) _ _ _ _ _
        rw [roomState_insert]
        exact h.matchmaking.released hpending }
  | begun reservation action room worker htold hpending hfound =>
    have hreleased := h.matchmaking.released hpending
    have hdistinct : ∀ (other : ReservationId) (pending : PendingReservation),
        (before.pendingReservations.erase reservation)[other]? = some pending →
        pending.action.matchId ≠ action.matchId := by
      intro other pending hother heq
      rw [getElem?_erase] at hother
      split at hother
      · cases hother
      · rename_i hne
        exact hne (h.matchmaking.distinct other reservation pending { action }
          hother hpending heq)
    have hactivated := hreleased.activated
      (rfl : (ActiveMatch.mk action.room worker action.tickets).room = action.room)
      (by simp) (h.matchmaking.inactive reservation { action } hpending)
      (h.matchmaking.usedPending reservation { action } hpending) hdistinct
    exact { h with
      rooms := h.rooms_withState hfound .inMatch
      matchmaking := by
        show Matchmaking (roomState (before.rooms.insert _ _)) _ _ _ _ _
        rw [roomState_insert]
        rw [Function.update_idem] at hactivated
        exact hactivated }
  | finished matchId record room htold hactive hfound =>
    exact { h with
      rooms := h.rooms.removed hfound
      matchmaking := by
        show Matchmaking (roomState (before.rooms.erase _)) _ _ _ _ _
        rw [roomState_erase]
        exact h.matchmaking.finished hactive }
  | forgotten connection state hfound hunnamed =>
    exact { h with clients := h.clients.forgotten hfound hunnamed }
  | closed connection state player hfound hnamed =>
    exact { h with clients := h.clients.closed hfound hnamed }

theorem LobbyChanges.invariant {event : LobbyEvent}
    {before after : LobbyService} {actions : List LobbyRuntimeAction}
    (hchanges : LobbyChanges event before after actions) (h : before.Invariant) :
    after.Invariant := by
  induction hchanges with
  | none service => exact h
  | next change _ ih => exact ih (change.invariant h)

end SurvivalArena
