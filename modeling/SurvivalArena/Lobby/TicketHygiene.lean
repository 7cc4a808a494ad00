import SurvivalArena.Framework.Ledger
import SurvivalArena.Lobby.RequestLaw

/-!
# Ticket hygiene

The stored tickets are held by the pending reservations and the active matches
they were issued for.  A reservation or a match that ends takes its tickets along,
and a held ticket goes only when it has expired and another start purges it.
-/

namespace SurvivalArena

open Counter OrderedMap MatchTicketRegistry

namespace LobbyService

/-- The match is reserved with the player's ticket, or it has the ticket and plays
in a room with the player. -/
def Holds (service : LobbyService) (matchId : MatchId) (player : PlayerId)
    (ticket : MatchTicketValue) : Prop :=
  (∃ (reservation : ReservationId) (action : ReserveMatchAction),
    service.pendingReservations[reservation]? = some { action } ∧
    action.matchId = matchId ∧ ⟨player, ticket⟩ ∈ action.participants) ∨
  ∃ record room, service.activeMatches[matchId]? = some record ∧
    ticket ∈ record.tickets ∧ service.rooms[record.room]? = some room ∧
    player ∈ room.members

/-- The ticket is among those of the match's reservation or of the match. -/
def Held (service : LobbyService) (matchId : MatchId) (ticket : MatchTicketValue) :
    Prop :=
  (∃ (reservation : ReservationId) (action : ReserveMatchAction),
    service.pendingReservations[reservation]? = some { action } ∧
    action.matchId = matchId ∧ ticket ∈ action.tickets) ∨
  ∃ record, service.activeMatches[matchId]? = some record ∧ ticket ∈ record.tickets

/-- The tickets as keys that matches hold. -/
def ledger (service : LobbyService) :
    Ledger MatchId MatchTicketValue TicketRecord where
  held := service.Held
  stored ticket := service.tickets.tickets[ticket]?
  drawn := service.tickets.source.Drew

/-- A start at the time purges the record. -/
def ExpiredAt (start : Option TimePoint) (record : TicketRecord) : Prop :=
  ∃ now, start = some now ∧ record.expiresAt ≤ now

structure TicketInvariant (service : LobbyService) : Prop where
  never : service.tickets.source.NeverRepeats
  sound : service.ledger.Sound TicketRecord.matchId
  issued : ∀ (ticket : MatchTicketValue) (record : TicketRecord),
    service.tickets.tickets[ticket]? = some record →
    service.Holds record.matchId record.player ticket
  participants : ∀ (reservation : ReservationId) (action : ReserveMatchAction)
    (room : Room), service.pendingReservations[reservation]? = some { action } →
    service.rooms[action.room]? = some room →
    ∀ participant ∈ action.participants, participant.player ∈ room.members

/-! ## Rooms that do not wait -/

/-- A room that does not wait is still there with its members. -/
def RoomKept (before after : LobbyService) (roomId : RoomId) : Prop :=
  ∀ room, before.rooms[roomId]? = some room → room.state ≠ .waiting →
    ∃ other, after.rooms[roomId]? = some other ∧ other.members = room.members

theorem roomKept_same {before after : LobbyService}
    (h : after.rooms = before.rooms) (roomId : RoomId) :
    RoomKept before after roomId := by
  intro room hfound _
  rw [h]
  exact ⟨room, hfound, rfl⟩

/-- Only a room that waits or is new is replaced. -/
theorem roomKept_insert {before after : LobbyService} {target : RoomId} {new : Room}
    (h : after.rooms = before.rooms.insert target new)
    (hwaiting : ∀ room, before.rooms[target]? = some room → room.state = .waiting)
    (roomId : RoomId) : RoomKept before after roomId := by
  intro room hfound hstate
  have hne : roomId ≠ target := by
    rintro rfl
    exact hstate (hwaiting room hfound)
  rw [h, getElem?_insert, if_neg hne]
  exact ⟨room, hfound, rfl⟩

/-- A room that only changes its state keeps its members. -/
theorem roomKept_withState {before after : LobbyService} {target : RoomId} {room : Room}
    {state : RoomState} (hfound : before.rooms[target]? = some room)
    (h : after.rooms = before.rooms.insert target { room with state })
    (roomId : RoomId) : RoomKept before after roomId := by
  intro other hother _
  rw [h, getElem?_insert]
  split
  · rename_i heq
    rw [heq, hfound] at hother
    obtain rfl := Option.some.inj hother
    exact ⟨_, rfl, rfl⟩
  · exact ⟨other, hother, rfl⟩

theorem roomKept_erase {before after : LobbyService} {target roomId : RoomId}
    (h : after.rooms = before.rooms.erase target) (hne : roomId ≠ target) :
    RoomKept before after roomId := by
  intro room hfound _
  rw [h, getElem?_erase, if_neg hne]
  exact ⟨room, hfound, rfl⟩

theorem Invariant.activeRoom {service : LobbyService} (h : service.Invariant)
    {matchId : MatchId} {record : ActiveMatch}
    (hactive : service.activeMatches[matchId]? = some record) {room : Room}
    (hfound : service.rooms[record.room]? = some room) : room.state = .inMatch := by
  have hstate := (h.matchmaking.inMatch record.room).mpr ⟨matchId, record, hactive, rfl⟩
  rw [roomState_eq hfound] at hstate
  exact Option.some.inj hstate

/-- A match that stays active with its room holds what it held. -/
theorem holds_active {before after : LobbyService} (h : before.Invariant)
    {matchId : MatchId} {record : ActiveMatch} {room : Room} {player : PlayerId}
    {ticket : MatchTicketValue}
    (hbefore : before.activeMatches[matchId]? = some record)
    (hafter : after.activeMatches[matchId]? = some record)
    (hmem : ticket ∈ record.tickets) (hfound : before.rooms[record.room]? = some room)
    (hmember : player ∈ room.members) (hkept : RoomKept before after record.room) :
    after.Holds matchId player ticket := by
  have hstate := h.activeRoom hbefore hfound
  obtain ⟨other, hother, hmembers⟩ := hkept room hfound (by rw [hstate]; decide)
  exact Or.inr ⟨record, other, hafter, hmem, hother, hmembers ▸ hmember⟩

/-- A reservation that stays pending with its room keeps its participants. -/
theorem TicketInvariant.participants_kept {before after : LobbyService}
    (hbefore : before.TicketInvariant) (h : before.Invariant)
    {reservation : ReservationId} {action : ReserveMatchAction}
    (hpending : before.pendingReservations[reservation]? = some { action })
    (hkept : RoomKept before after action.room) {room : Room}
    (hfound : after.rooms[action.room]? = some room) :
    ∀ participant ∈ action.participants, participant.player ∈ room.members := by
  obtain ⟨old, hold, hstarting⟩ := h.pendingRoom hpending
  obtain ⟨other, hother, hmembers⟩ := hkept old hold (by rw [hstarting]; decide)
  obtain rfl := Option.some.inj (hother.symm.trans hfound)
  rw [hmembers]
  exact hbefore.participants reservation action old hpending hold

/-! ## Who holds a ticket -/

theorem Invariant.held_pending {service : LobbyService} (h : service.Invariant)
    {reservation : ReservationId} {action : ReserveMatchAction}
    (hpending : service.pendingReservations[reservation]? = some { action })
    (ticket : MatchTicketValue) :
    service.Held action.matchId ticket ↔ ticket ∈ action.tickets := by
  constructor
  · rintro (⟨other, otherAction, hother, hmatch, hmem⟩ | ⟨record, hactive, -⟩)
    · obtain rfl := h.matchmaking.distinct other reservation _ _ hother hpending hmatch
      obtain rfl := PendingReservation.mk.inj
        (Option.some.inj (hother.symm.trans hpending))
      exact hmem
    · rw [h.matchmaking.inactive reservation _ hpending] at hactive
      cases hactive
  · exact fun hmem => Or.inl ⟨reservation, action, hpending, rfl, hmem⟩

theorem Invariant.held_active {service : LobbyService} (h : service.Invariant)
    {matchId : MatchId} {record : ActiveMatch}
    (hactive : service.activeMatches[matchId]? = some record)
    (ticket : MatchTicketValue) :
    service.Held matchId ticket ↔ ticket ∈ record.tickets := by
  constructor
  · rintro (⟨other, otherAction, hother, rfl, -⟩ | ⟨other, hother, hmem⟩)
    · rw [h.matchmaking.inactive other _ hother] at hactive
      cases hactive
    · obtain rfl := Option.some.inj (hother.symm.trans hactive)
      exact hmem
  · exact fun hmem => Or.inr ⟨record, hactive, hmem⟩

theorem held_congr {before after : LobbyService}
    (hpending : after.pendingReservations = before.pendingReservations)
    (hactive : after.activeMatches = before.activeMatches) :
    after.Held = before.Held := by
  funext matchId ticket
  rw [Held, Held, hpending, hactive]

/-! ## Changes that end or begin nothing -/

variable {start : Option TimePoint}

/-- What a change of the tickets must show. -/
def TicketsKept (start : Option TimePoint) (before after : LobbyService) : Prop :=
  after.TicketInvariant ∧ Ledger.Step (ExpiredAt start) before.ledger after.ledger

/-- Neither tickets, reservations nor matches change. -/
theorem TicketInvariant.quiet {before after : LobbyService}
    (ht : before.TicketInvariant) (h : before.Invariant)
    (htickets : after.tickets = before.tickets)
    (hpending : after.pendingReservations = before.pendingReservations)
    (hactive : after.activeMatches = before.activeMatches)
    (hkept : ∀ roomId, RoomKept before after roomId) :
    TicketsKept start before after := by
  have hledger : after.ledger = before.ledger := by
    rw [ledger, ledger, held_congr hpending hactive, htickets]
  refine ⟨⟨?_, ?_, ?_, ?_⟩, ?_⟩
  · rw [htickets]
    exact ht.never
  · rw [hledger]
    exact ht.sound
  · intro ticket record hstored
    rw [htickets] at hstored
    rcases ht.issued ticket record hstored with ⟨reservation, action, hfound, hmem⟩ |
      ⟨active, room, hfound, hmem, hroom, hmember⟩
    · exact Or.inl ⟨reservation, action, by rw [hpending, hfound], hmem⟩
    · exact holds_active h hfound (by rw [hactive, hfound]) hmem hroom hmember (hkept _)
  · intro reservation action room hfound hroom
    rw [hpending] at hfound
    exact ht.participants_kept h hfound (hkept _) hroom
  · rw [hledger]
    exact .refl _

/-- Expired tickets are purged; everything else is as before. -/
theorem TicketInvariant.purged {before after : LobbyService}
    (ht : before.TicketInvariant) {now : TimePoint}
    (hpending : after.pendingReservations = before.pendingReservations)
    (hactive : after.activeMatches = before.activeMatches)
    (hrooms : after.rooms = before.rooms)
    (hsource : before.tickets.source.Extends after.tickets.source)
    (htickets : after.tickets.tickets = (before.tickets.purgeExpired now).tickets) :
    TicketsKept (some now) before after := by
  have hstored : ∀ (ticket : MatchTicketValue) (record : TicketRecord),
      after.tickets.tickets[ticket]? = some record ↔
        before.tickets.tickets[ticket]? = some record ∧ now < record.expiresAt := by
    intro ticket record
    rw [htickets, getElem?_purgeExpired, Option.filter_eq_some_iff, decide_eq_true_eq]
  have hledger : after.ledger.Sound TicketRecord.matchId ∧
      Ledger.Step (ExpiredAt (some now)) before.ledger after.ledger := by
    apply Ledger.purged ht.sound (held_congr hpending hactive)
    · exact fun ticket => hsource.drew
    · exact fun ticket record hafter => ((hstored ticket record).mp hafter).1
    · intro ticket record hbefore
      by_cases hvalid : now < record.expiresAt
      · exact Or.inl ((hstored ticket record).mpr ⟨hbefore, hvalid⟩)
      · exact Or.inr ⟨now, rfl, not_lt.mp hvalid⟩
  refine ⟨⟨hsource.neverRepeats ht.never, hledger.1, ?_, ?_⟩, hledger.2⟩
  · intro ticket record hafter
    rw [Holds, hpending, hactive, hrooms]
    exact ht.issued ticket record ((hstored ticket record).mp hafter).1
  · intro reservation action room hfound hroom
    rw [hpending] at hfound
    rw [hrooms] at hroom
    exact ht.participants reservation action room hfound hroom

/-! ## A reservation begins -/

theorem action_zip (action : ReserveMatchAction) :
    (action.participants.map ReservedParticipant.player).zip action.tickets =
      action.participants.map fun participant =>
        (participant.player, participant.ticket) :=
  List.zip_map'

/-- The tickets of a started room, and what else their issue changes. -/
theorem startTickets_issued {action : ReserveMatchAction} {room : Room}
    {before after : MatchTicketRegistry}
    (hvalid : room.validateStart action.requester = none)
    (hissues : issueTickets action.matchId action.issuedAt room.players [] before =
      (after, .ok action.tickets)) :
    TicketsIssued (before.purgeExpired action.issuedAt) after action.matchId action.issuedAt
      room.players action.tickets := by
  have hplayers : room.players ≠ [] := by
    intro hnil
    have hsize := (Room.validateStart_eq_none hvalid).2.2
    have hlength := room.length_players
    rw [hnil, List.length_nil] at hlength
    omega
  rw [← issueTickets_purged _ _ hplayers] at hissues
  obtain ⟨new, hissued, ⟨hok, -⟩ | herror⟩ :=
    issueTickets_issued (before.purged_purgeExpired action.issuedAt) hissues
  · obtain rfl := Except.ok.inj hok
    exact hissued
  · cases herror

theorem held_reserved {before : LobbyService} (h : before.Invariant)
    {action : ReserveMatchAction}
    (hreservation : before.nextReservation = some action.reservation.value)
    {after : LobbyService}
    (hpending : after.pendingReservations =
      before.pendingReservations.insert action.reservation { action })
    (hactive : after.activeMatches = before.activeMatches) (matchId : MatchId)
    (ticket : MatchTicketValue) :
    after.Held matchId ticket ↔ before.Held matchId ticket ∨
      matchId = action.matchId ∧ ticket ∈ action.tickets := by
  have hnew := h.matchmaking.notReserved hreservation
  rw [Held, hpending, hactive, Held]
  constructor
  · rintro (⟨other, otherAction, hother, hmatch, hmem⟩ | hmatch)
    · rw [getElem?_insert] at hother
      split at hother
      · obtain rfl := PendingReservation.mk.inj (Option.some.inj hother)
        exact Or.inr ⟨hmatch.symm, hmem⟩
      · exact Or.inl (Or.inl ⟨other, otherAction, hother, hmatch, hmem⟩)
    · exact Or.inl (Or.inr hmatch)
  · rintro ((⟨other, otherAction, hother, hmatch, hmem⟩ | hmatch) | ⟨rfl, hmem⟩)
    · have hne : other ≠ action.reservation := by
        rintro rfl
        rw [hnew] at hother
        cases hother
      exact Or.inl ⟨other, otherAction, by rw [getElem?_insert, if_neg hne, hother],
        hmatch, hmem⟩
    · exact Or.inr hmatch
    · exact Or.inl ⟨action.reservation, action, by rw [getElem?_insert, if_pos rfl],
        rfl, hmem⟩

/-- A room starts: each of its players has a new ticket. -/
theorem TicketInvariant.reserved {before after : LobbyService}
    (ht : before.TicketInvariant) (h : before.Invariant) {action : ReserveMatchAction}
    {room : Room} (hfound : before.rooms[action.room]? = some room)
    (hvalid : room.validateStart action.requester = none)
    (hreservation : before.nextReservation = some action.reservation.value)
    (hparticipants :
      action.participants.map ReservedParticipant.player = room.players)
    (hissues : issueTickets action.matchId action.issuedAt room.players []
      before.tickets = (after.tickets, .ok action.tickets))
    (hpending : after.pendingReservations =
      before.pendingReservations.insert action.reservation { action })
    (hactive : after.activeMatches = before.activeMatches)
    (hrooms : after.rooms =
      before.rooms.insert action.room { room with state := .starting }) :
    TicketsKept (some action.issuedAt) before after := by
  have hissued := startTickets_issued hvalid hissues
  have hzip : ∀ ticket ∈ action.tickets, ∃ player,
      ⟨player, ticket⟩ ∈ action.participants ∧
      after.tickets.tickets[ticket]? =
        some (issuedRecord action.matchId action.issuedAt player) := by
    intro ticket hmem
    obtain ⟨participant, hparticipant, rfl⟩ := List.mem_map.mp hmem
    refine ⟨participant.player, hparticipant, hissued.stored _ _ ?_⟩
    rw [← hparticipants, action_zip]
    exact List.mem_map.mpr ⟨participant, hparticipant, rfl⟩
  have hold : ∀ (ticket : MatchTicketValue) (record : TicketRecord),
      ticket ∉ action.tickets → (after.tickets.tickets[ticket]? = some record ↔
        before.tickets.tickets[ticket]? = some record ∧
          action.issuedAt < record.expiresAt) := by
    intro ticket record hmem
    rw [hissued.kept ticket hmem, getElem?_purgeExpired, Option.filter_eq_some_iff,
      decide_eq_true_eq]
  have hkept := roomKept_withState hfound hrooms
  have hledger : after.ledger.Sound TicketRecord.matchId ∧
      Ledger.Step (ExpiredAt (some action.issuedAt)) before.ledger after.ledger := by
    apply Ledger.opened ht.sound action.matchId (· ∈ action.tickets)
    · exact fun ticket hmem => (hissued.draws ticket hmem).not_drew ht.never
    · exact held_reserved h hreservation hpending hactive
    · rintro ticket (hdrew | hmem)
      · exact hissued.source.drew hdrew
      · exact (hissued.draws ticket hmem).drew hissued.source
    · intro ticket hmem
      obtain ⟨player, -, hstored⟩ := hzip ticket hmem
      refine ⟨_, hstored, rfl, ?_⟩
      rintro ⟨now, hnow, hexpired⟩
      obtain rfl := Option.some.inj hnow
      exact absurd hexpired (not_le.mpr (Int.lt_add_of_pos_right _ (by decide)))
    · exact fun ticket record hmem hafter => ((hold ticket record hmem).mp hafter).1
    · intro ticket record hmem hbefore
      by_cases hlater : action.issuedAt < record.expiresAt
      · exact Or.inl ((hold ticket record hmem).mpr ⟨hbefore, hlater⟩)
      · exact Or.inr ⟨_, rfl, not_lt.mp hlater⟩
  refine ⟨⟨hissued.source.neverRepeats ht.never, hledger.1, ?_, ?_⟩, hledger.2⟩
  · intro ticket record hafter
    by_cases hmem : ticket ∈ action.tickets
    · obtain ⟨player, hparticipant, hstored⟩ := hzip ticket hmem
      obtain rfl := Option.some.inj (hstored.symm.trans hafter)
      refine Or.inl ⟨action.reservation, action, ?_, rfl, hparticipant⟩
      rw [hpending, getElem?_insert, if_pos rfl]
    · rcases ht.issued ticket record ((hold ticket record hmem).mp hafter).1 with
        ⟨reservation, other, hother, hmatch, hparticipant⟩ |
        ⟨active, otherRoom, hother, hticket, hroom, hmember⟩
      · have hne : reservation ≠ action.reservation := by
          rintro rfl
          rw [h.matchmaking.notReserved hreservation] at hother
          cases hother
        refine Or.inl ⟨reservation, other, ?_, hmatch, hparticipant⟩
        rw [hpending, getElem?_insert, if_neg hne, hother]
      · exact holds_active h hother (by rw [hactive, hother]) hticket hroom hmember
          (hkept _)
  · intro reservation other otherRoom hother hroom
    rw [hpending, getElem?_insert] at hother
    split at hother
    · obtain rfl := PendingReservation.mk.inj (Option.some.inj hother)
      rw [hrooms, getElem?_insert, if_pos rfl] at hroom
      obtain rfl := Option.some.inj hroom
      intro participant hparticipant
      have hplayer : participant.player ∈ room.players := by
        rw [← hparticipants]
        exact List.mem_map.mpr ⟨participant, hparticipant, rfl⟩
      exact Room.mem_players.mp hplayer
    · exact ht.participants_kept h hother (hkept _) hroom

/-! ## A reservation or a match ends -/

/-- The tickets that are still stored once a name's tickets are revoked. -/
theorem getElem?_revoked {before after : LobbyService} {tickets : List MatchTicketValue}
    (htickets : after.tickets = before.tickets.revoke tickets)
    {ticket : MatchTicketValue} (hmem : ticket ∉ tickets) :
    after.tickets.tickets[ticket]? = before.tickets.tickets[ticket]? := by
  rw [htickets, getElem?_revoke, if_neg hmem]

/-- A match or its reservation ends and its tickets are revoked. -/
theorem ledger_revoked {before after : LobbyService} (ht : before.TicketInvariant)
    (matchId : MatchId) {tickets : List MatchTicketValue}
    (htickets : after.tickets = before.tickets.revoke tickets)
    (hmatch : ∀ ticket, before.Held matchId ticket ↔ ticket ∈ tickets)
    (hheld : ∀ other ticket, after.Held other ticket ↔
      before.Held other ticket ∧ other ≠ matchId) :
    after.ledger.Sound TicketRecord.matchId ∧
      Ledger.Step (ExpiredAt start) before.ledger after.ledger := by
  apply Ledger.closed ht.sound matchId hheld
  · intro ticket hdrew
    change after.tickets.source.Drew ticket
    rw [htickets]
    exact hdrew
  · intro ticket hticket
    change after.tickets.tickets[ticket]? = none
    rw [htickets, getElem?_revoke, if_pos ((hmatch ticket).mp hticket)]
  · exact fun ticket hticket =>
      getElem?_revoked htickets fun hmem => hticket ((hmatch ticket).mpr hmem)

/-- A ticket that is still stored was stored and was not revoked. -/
theorem stored_revoked {before after : LobbyService} {tickets : List MatchTicketValue}
    (htickets : after.tickets = before.tickets.revoke tickets)
    {ticket : MatchTicketValue} {record : TicketRecord}
    (hafter : after.tickets.tickets[ticket]? = some record) :
    ticket ∉ tickets ∧ before.tickets.tickets[ticket]? = some record := by
  rw [htickets, getElem?_revoke] at hafter
  split at hafter
  · cases hafter
  · rename_i hmem
    exact ⟨hmem, hafter⟩

theorem TicketInvariant.released {before : LobbyService} (ht : before.TicketInvariant)
    (h : before.Invariant) {reservation : ReservationId} {action : ReserveMatchAction}
    {room : Room}
    (hpending : before.pendingReservations[reservation]? = some { action })
    (hfound : before.rooms[action.room]? = some room) :
    TicketsKept start before (before.releaseRoom reservation action room) := by
  have hkept : ∀ roomId,
      RoomKept before (before.releaseRoom reservation action room) roomId :=
    roomKept_withState hfound rfl
  have hother : ∀ (other : ReservationId) (otherAction : ReserveMatchAction),
      (before.releaseRoom reservation action room).pendingReservations[other]? =
        some { action := otherAction } ↔
      before.pendingReservations[other]? = some { action := otherAction } ∧
        otherAction.matchId ≠ action.matchId := by
    intro other otherAction
    change (before.pendingReservations.erase reservation)[other]? = _ ↔ _
    rw [getElem?_erase]
    split
    · rename_i heq
      rw [heq, hpending]
      simp only [reduceCtorEq, Option.some.injEq, PendingReservation.mk.injEq, ne_eq,
        false_iff, not_and, not_not]
      rintro rfl
      rfl
    · rename_i hne
      refine ⟨fun hother => ⟨hother, fun heq => hne ?_⟩, fun hother => hother.1⟩
      exact h.matchmaking.distinct other reservation _ _ hother hpending heq
  have hledger : ((before.releaseRoom reservation action room).ledger.Sound
        TicketRecord.matchId ∧
      Ledger.Step (ExpiredAt start) before.ledger
        (before.releaseRoom reservation action room).ledger) := by
    apply ledger_revoked ht action.matchId rfl (h.held_pending hpending)
    intro matchId ticket
    constructor
    · rintro (⟨other, otherAction, hfound, rfl, hmem⟩ | ⟨record, hactive, hmem⟩)
      · obtain ⟨hfound, hne⟩ := (hother other otherAction).mp hfound
        exact ⟨Or.inl ⟨other, otherAction, hfound, rfl, hmem⟩, hne⟩
      · refine ⟨Or.inr ⟨record, hactive, hmem⟩, ?_⟩
        rintro rfl
        exact absurd hactive (by
          rw [show (before.releaseRoom reservation action room).activeMatches =
            before.activeMatches from rfl, h.matchmaking.inactive reservation _ hpending]
          simp)
    · rintro ⟨⟨other, otherAction, hfound, rfl, hmem⟩ | hactive, hne⟩
      · exact Or.inl ⟨other, otherAction, (hother other otherAction).mpr ⟨hfound, hne⟩,
          rfl, hmem⟩
      · exact Or.inr hactive
  refine ⟨⟨ht.never, hledger.1, ?_, ?_⟩, hledger.2⟩
  · intro ticket record hafter
    obtain ⟨hmem, hbefore⟩ := stored_revoked rfl hafter
    rcases ht.issued ticket record hbefore with
      ⟨other, otherAction, hfound, hmatch, hparticipant⟩ |
      ⟨active, otherRoom, hactive, hticket, hroom, hmember⟩
    · refine Or.inl ⟨other, otherAction, (hother other otherAction).mpr ⟨hfound, ?_⟩,
        hmatch, hparticipant⟩
      intro heq
      apply hmem
      rw [← h.held_pending hpending, ← heq, h.held_pending hfound]
      exact List.mem_map.mpr ⟨_, hparticipant, rfl⟩
    · exact holds_active h hactive hactive hticket hroom hmember (hkept _)
  · intro other otherAction otherRoom hfound hroom
    exact ht.participants_kept h ((hother other otherAction).mp hfound).1 (hkept _) hroom

theorem TicketInvariant.finished {before : LobbyService} (ht : before.TicketInvariant)
    (h : before.Invariant) {matchId : MatchId} {record : ActiveMatch} {room : Room}
    (hactive : before.activeMatches[matchId]? = some record)
    (hfound : before.rooms[record.room]? = some room) :
    TicketsKept start before (before.closeMatch matchId record room) := by
  have hstate := h.activeRoom hactive hfound
  have hother : ∀ (other : MatchId) (otherRecord : ActiveMatch),
      (before.closeMatch matchId record room).activeMatches[other]? =
        some otherRecord ↔
      before.activeMatches[other]? = some otherRecord ∧ other ≠ matchId := by
    intro other otherRecord
    change (before.activeMatches.erase matchId)[other]? = _ ↔ _
    rw [getElem?_erase]
    split
    · rename_i heq
      simp [heq]
    · rename_i hne
      simp [hne]
  have hledger : ((before.closeMatch matchId record room).ledger.Sound
        TicketRecord.matchId ∧
      Ledger.Step (ExpiredAt start) before.ledger
        (before.closeMatch matchId record room).ledger) := by
    apply ledger_revoked ht matchId rfl (h.held_active hactive)
    intro other ticket
    constructor
    · rintro (⟨reservation, action, hpending, rfl, hmem⟩ | ⟨otherRecord, hfound, hmem⟩)
      · refine ⟨Or.inl ⟨reservation, action, hpending, rfl, hmem⟩, ?_⟩
        rintro rfl
        rw [h.matchmaking.inactive reservation _ hpending] at hactive
        cases hactive
      · obtain ⟨hfound, hne⟩ := (hother other otherRecord).mp hfound
        exact ⟨Or.inr ⟨otherRecord, hfound, hmem⟩, hne⟩
    · rintro ⟨hpending | ⟨otherRecord, hfound, hmem⟩, hne⟩
      · exact Or.inl hpending
      · exact Or.inr ⟨otherRecord, (hother other otherRecord).mpr ⟨hfound, hne⟩, hmem⟩
  refine ⟨⟨ht.never, hledger.1, ?_, ?_⟩, hledger.2⟩
  · intro ticket stored hafter
    obtain ⟨hmem, hbefore⟩ := stored_revoked rfl hafter
    rcases ht.issued ticket stored hbefore with hpending |
      ⟨active, otherRoom, hfound, hticket, hroom, hmember⟩
    · exact Or.inl hpending
    · have hne : stored.matchId ≠ matchId := by
        intro heq
        rw [heq, hactive] at hfound
        obtain rfl := Option.some.inj hfound
        exact hmem hticket
      have hrooms : active.room ≠ record.room := fun heq =>
        hne (h.matchmaking.oneMatch _ _ _ _ hfound hactive heq)
      exact holds_active h hfound ((hother _ _).mpr ⟨hfound, hne⟩) hticket hroom
        hmember (roomKept_erase rfl hrooms)
  · intro reservation action otherRoom hpending hroom
    obtain ⟨old, hold, hstarting⟩ := h.pendingRoom hpending
    have hrooms : action.room ≠ record.room := by
      intro heq
      rw [heq, hfound] at hold
      obtain rfl := Option.some.inj hold
      rw [hstate] at hstarting
      cases hstarting
    exact ht.participants_kept h hpending (roomKept_erase rfl hrooms) hroom

/-! ## A reservation becomes a match -/

theorem held_begun {before : LobbyService} (h : before.Invariant)
    {reservation : ReservationId} {action : ReserveMatchAction} {room : Room}
    {worker : WorkerId}
    (hpending : before.pendingReservations[reservation]? = some { action }) :
    (before.enterMatch reservation action room worker).Held = before.Held := by
  have hnone := h.matchmaking.inactive reservation _ hpending
  funext matchId ticket
  rw [eq_iff_iff]
  constructor
  · rintro (⟨other, otherAction, hother, hmatch, hmem⟩ | ⟨record, hactive, hmem⟩)
    · change (before.pendingReservations.erase reservation)[other]? = _ at hother
      rw [getElem?_erase] at hother
      split at hother
      · cases hother
      · exact Or.inl ⟨other, otherAction, hother, hmatch, hmem⟩
    · change (before.activeMatches.insertIfNew _ _)[matchId]? = _ at hactive
      rw [getElem?_insertIfNew _ hnone] at hactive
      split at hactive
      · rename_i heq
        obtain rfl := Option.some.inj hactive
        exact Or.inl ⟨reservation, action, hpending, heq.symm, hmem⟩
      · exact Or.inr ⟨record, hactive, hmem⟩
  · rintro (⟨other, otherAction, hother, hmatch, hmem⟩ | ⟨record, hactive, hmem⟩)
    · by_cases heq : other = reservation
      · rw [heq, hpending] at hother
        obtain rfl := PendingReservation.mk.inj (Option.some.inj hother)
        refine Or.inr
          ⟨{ room := action.room, worker, tickets := action.tickets }, ?_, hmem⟩
        change (before.activeMatches.insertIfNew _ _)[matchId]? = _
        rw [getElem?_insertIfNew _ hnone, if_pos hmatch.symm]
      · refine Or.inl ⟨other, otherAction, ?_, hmatch, hmem⟩
        change (before.pendingReservations.erase reservation)[other]? = _
        rw [getElem?_erase, if_neg heq, hother]
    · have hne : matchId ≠ action.matchId := by
        rintro rfl
        rw [hnone] at hactive
        cases hactive
      refine Or.inr ⟨record, ?_, hmem⟩
      change (before.activeMatches.insertIfNew _ _)[matchId]? = _
      rw [getElem?_insertIfNew _ hnone, if_neg hne, hactive]

theorem TicketInvariant.begun {before : LobbyService} (ht : before.TicketInvariant)
    (h : before.Invariant) {reservation : ReservationId} {action : ReserveMatchAction}
    {room : Room} (worker : WorkerId)
    (hpending : before.pendingReservations[reservation]? = some { action })
    (hfound : before.rooms[action.room]? = some room) :
    TicketsKept start before (before.enterMatch reservation action room worker) := by
  have hkept : ∀ roomId,
      RoomKept before (before.enterMatch reservation action room worker) roomId :=
    roomKept_withState hfound rfl
  have hnone := h.matchmaking.inactive reservation _ hpending
  have hledger : (before.enterMatch reservation action room worker).ledger =
      before.ledger := by
    rw [ledger, held_begun h hpending]
    rfl
  refine ⟨⟨ht.never, ?_, ?_, ?_⟩, ?_⟩
  · rw [hledger]
    exact ht.sound
  · intro ticket record hstored
    rcases ht.issued ticket record hstored with
      ⟨other, otherAction, hother, hmatch, hparticipant⟩ |
      ⟨active, otherRoom, hactive, hticket, hroom, hmember⟩
    · by_cases heq : other = reservation
      · rw [heq, hpending] at hother
        obtain rfl := PendingReservation.mk.inj (Option.some.inj hother)
        refine Or.inr ⟨{ room := action.room, worker, tickets := action.tickets },
          { room with state := .inMatch }, ?_, List.mem_map.mpr ⟨_, hparticipant, rfl⟩,
          ?_, ht.participants reservation action room hpending hfound _ hparticipant⟩
        · change (before.activeMatches.insertIfNew _ _)[record.matchId]? = _
          rw [getElem?_insertIfNew _ hnone, if_pos hmatch.symm]
        · change (before.rooms.insert _ _)[action.room]? = _
          rw [getElem?_insert, if_pos rfl]
      · refine Or.inl ⟨other, otherAction, ?_, hmatch, hparticipant⟩
        change (before.pendingReservations.erase reservation)[other]? = _
        rw [getElem?_erase, if_neg heq, hother]
    · have hne : record.matchId ≠ action.matchId := by
        intro heq
        rw [heq, hnone] at hactive
        cases hactive
      apply holds_active h hactive _ hticket hroom hmember (hkept _)
      change (before.activeMatches.insertIfNew _ _)[record.matchId]? = _
      rw [getElem?_insertIfNew _ hnone, if_neg hne, hactive]
  · intro other otherAction otherRoom hother hroom
    change (before.pendingReservations.erase reservation)[other]? = _ at hother
    rw [getElem?_erase] at hother
    split at hother
    · cases hother
    · exact ht.participants_kept h hother (hkept _) hroom
  · rw [hledger]
    exact .refl _

/-! ## Every change -/

theorem TicketInvariant.change {event : LobbyEvent} {before after : LobbyService}
    {actions : List LobbyRuntimeAction} (ht : before.TicketInvariant)
    (h : before.Invariant) (hchange : LobbyChange event before after actions) :
    TicketsKept event.startTime before after := by
  cases hchange with
  | created player value joinOrdinal habsent hroom =>
    refine ht.quiet h rfl rfl rfl ?_
    apply roomKept_insert rfl
    intro room hfound
    rw [h.rooms.fresh hroom] at hfound
    cases hfound
  | joined player roomId room joined ordinal habsent hfound hnext hjoins =>
    refine ht.quiet h rfl rfl rfl ?_
    apply roomKept_insert rfl
    intro other hother
    obtain rfl := Option.some.inj (hother.symm.trans hfound)
    exact (Room.join_eq_ok.mp hjoins).1
  | left player roomId room hmember hfound hwaiting =>
    refine ht.quiet h rfl rfl rfl ?_
    intro other
    by_cases hempty : (room.without player).empty = true
    · intro otherRoom hother hstate
      have hne : other ≠ roomId := by
        rintro rfl
        obtain rfl := Option.some.inj (hother.symm.trans hfound)
        exact hstate hwaiting
      exact roomKept_erase (if_pos hempty) hne otherRoom hother hstate
    · apply roomKept_insert (if_neg hempty)
      intro otherRoom hother
      obtain rfl := Option.some.inj (hother.symm.trans hfound)
      exact hwaiting
  | readied player ready roomId room changed hfound hsets =>
    refine ht.quiet h rfl rfl rfl ?_
    apply roomKept_insert rfl
    intro other hother
    obtain rfl := Option.some.inj (hother.symm.trans hfound)
    exact (Room.setReady_eq_ok.mp hsets).1
  | rolledBack matchValue reservationValue now hstarts room tickets issued hmatch
      hreservation hissues =>
    have hplayers : room.players ≠ [] := by
      intro hnil
      rw [hnil, issueTickets] at hissues
      cases (Prod.mk.inj hissues).2
    rw [hstarts]
    have hsource : before.tickets.source.Extends tickets.source := by
      rw [← issueTickets_purged _ _ hplayers] at hissues
      obtain ⟨new, hissued, -⟩ :=
        issueTickets_issued (before.tickets.purged_purgeExpired now) hissues
      exact hissued.source
    exact ht.purged rfl rfl rfl hsource (issueTickets_revoke hplayers hissues)
  | reserved action room tickets hstarts hfound hvalid hmatch hreservation
      hparticipants hissues =>
    rw [hstarts]
    exact ht.reserved h hfound hvalid hreservation hparticipants hissues rfl rfl rfl
  | failed reservation action room htold hpending hfound => exact ht.released h hpending hfound
  | cancelled reservation action room hpending hfound =>
    exact ht.released h hpending hfound
  | begun reservation action room worker htold hpending hfound =>
    exact ht.begun h worker hpending hfound
  | finished matchId record room htold hactive hfound => exact ht.finished h hactive hfound
  | _ => exact ht.quiet h rfl rfl rfl (roomKept_same rfl)

theorem TicketInvariant.changes {event : LobbyEvent} {before after : LobbyService}
    {actions : List LobbyRuntimeAction} (ht : before.TicketInvariant)
    (h : before.Invariant) (hchanges : LobbyChanges event before after actions) :
    TicketsKept event.startTime before after := by
  induction hchanges with
  | none service => exact ⟨ht, .refl _⟩
  | next change _ ih =>
    have hmiddle := ht.change h change
    have hafter := ih hmiddle.1 (change.invariant h)
    exact ⟨hafter.1, .trans ht.sound hmiddle.2 hafter.2⟩

theorem TicketInvariant.step {service : LobbyService} (ht : service.TicketInvariant)
    (h : service.Invariant) (event : LobbyEvent) :
    TicketsKept event.startTime service (service.step event) := by
  obtain ⟨after, result, hcall, hchanges, -⟩ := call_performs h event
  rw [LobbyService.step, hcall]
  exact ht.changes h hchanges

/-! ## Runs -/

theorem ticketInvariant_create {source : TicketSource} (hnever : source.NeverRepeats)
    (config : LobbyServiceConfig) :
    (create { source } config).TicketInvariant := by
  have hnone : ∀ matchId ticket, ¬(create { source } config).Held matchId ticket := by
    simp [Held, create]
  refine ⟨hnever, ⟨?_, ?_, ?_⟩, ?_, ?_⟩
  · simp [ledger, create]
  · exact fun matchId ticket hheld => absurd hheld (hnone matchId ticket)
  · exact fun first _ ticket hheld => absurd hheld (hnone first ticket)
  · simp [create]
  · simp [create]

theorem run_ticketInvariant {source : TicketSource} (hnever : source.NeverRepeats)
    (config : LobbyServiceConfig) (events : List LobbyEvent) :
    (Machine.run LobbyService.step (create { source } config) events).TicketInvariant := by
  have hboth : (Machine.run LobbyService.step (create { source } config) events).Invariant ∧
      (Machine.run LobbyService.step (create { source } config) events).TicketInvariant := by
    apply Machine.run_invariant (I := fun service : LobbyService =>
      service.Invariant ∧ service.TicketInvariant) (P := fun _ => True)
    · rintro state event - ⟨h, ht⟩
      exact ⟨state.step_invariant event h, (ht.step h event).1⟩
    · exact ⟨invariant_create _ _, ticketInvariant_create hnever config⟩
    · exact fun _ _ => trivial
  exact hboth.2

/-- In every reachable state a stored ticket is held for a player of its match; a
held ticket is stored unless a start purged it when it had expired; a reservation or
match that ends loses all of its tickets, and no others are lost before they expire. -/
theorem run_tickets {source : TicketSource} (hnever : source.NeverRepeats)
    (config : LobbyServiceConfig) (events : List LobbyEvent) :
    let run := Machine.run step (create { source } config)
    (∀ (ticket : MatchTicketValue) (record : TicketRecord),
      (run events).tickets.tickets[ticket]? = some record →
      (run events).Holds record.matchId record.player ticket) ∧
    (∀ (matchId : MatchId) (ticket : MatchTicketValue), (run events).Held matchId ticket →
      (∃ record, (run events).tickets.tickets[ticket]? = some record ∧
        record.matchId = matchId) ∨
      ∃ earlier event rest record, events = earlier ++ event :: rest ∧
        (run earlier).tickets.tickets[ticket]? = some record ∧
        record.matchId = matchId ∧ ExpiredAt event.startTime record) ∧
    ∀ event : LobbyEvent,
      (∀ (matchId : MatchId) (ticket : MatchTicketValue),
        (run events).Held matchId ticket → ¬((run events).step event).Held matchId ticket →
        ((run events).step event).tickets.tickets[ticket]? = none) ∧
      ∀ (ticket : MatchTicketValue) (record : TicketRecord),
        (run events).tickets.tickets[ticket]? = some record →
        ((run events).step event).Held record.matchId ticket →
        ((run events).step event).tickets.tickets[ticket]? = some record ∨
          ExpiredAt event.startTime record := by
  have ht := run_ticketInvariant hnever config
  have hstep : ∀ events event, TicketsKept (LobbyEvent.startTime event)
      (Machine.run step (create { source } config) events)
      (step (Machine.run step (create { source } config) events) event) :=
    fun events event => (ht events).step (run_invariant { source } config events) event
  refine ⟨(ht events).issued, ?_, fun event => ⟨?_, ?_⟩⟩
  · apply Ledger.run_lost ledger (fun event : LobbyEvent => ExpiredAt event.startTime)
      (fun events => (ht events).sound)
    · intro events event
      rw [Machine.run_append]
      exact (hstep events event).2
    · simp [ledger, Held, create]
  · intro matchId ticket hheld hended
    exact (hstep events event).2.ended (ht events).sound (hstep events event).1.sound
      hheld hended
  · exact fun ticket record => (hstep events event).2.kept record.matchId ticket record

theorem twoTickets_neverRepeats : twoTickets.source.NeverRepeats := by
  intro first second ticket hfirst hsecond
  change (if first < 2 then _ else _) = _ at hfirst
  change (if second < 2 then _ else _) = _ at hsecond
  split at hfirst
  · split at hsecond
    · rename_i hone htwo
      have hsame := Option.some.inj (hfirst.trans hsecond.symm)
      have hcases : ∀ index < 2, index = 0 ∨ index = 1 := by decide
      rcases hcases first hone with rfl | rfl <;> rcases hcases second htwo with rfl | rfl
      · rfl
      · exact absurd hsame (by decide)
      · exact absurd hsame (by decide)
      · rfl
    · cases hsecond
  · cases hfirst

theorem run_tickets_started :
    twoTickets.source.NeverRepeats ∧
    ∀ (ticket : MatchTicketValue) (record : TicketRecord),
      oneStarted.tickets.tickets[ticket]? = some record →
      oneStarted.Holds record.matchId record.player ticket :=
  ⟨twoTickets_neverRepeats, (run_tickets twoTickets_neverRepeats {} _).1⟩

/-- A pending reservation's tickets are gone once another room was to start. -/
theorem startMatch_purges_reserved :
    twoTickets.source.NeverRepeats ∧
    (oneStarted.step (.handle ⟨3⟩ (.startMatch 4) matchTicketLifetime)).Held ⟨1⟩
      (repeatedTicket 0) ∧
    (oneStarted.step (.handle ⟨3⟩ (.startMatch 4)
      matchTicketLifetime)).tickets.tickets[repeatedTicket 0]? = none := by
  refine ⟨twoTickets_neverRepeats, Or.inl ⟨⟨1⟩, {
    reservation := ⟨1⟩
    room := ⟨1⟩
    matchId := ⟨1⟩
    requester := ⟨1⟩
    requestId := 4
    seed := 20260825
    issuedAt := 0
    participants := [⟨⟨1⟩, repeatedTicket 0⟩, ⟨⟨2⟩, repeatedTicket 1⟩] }, ?_, rfl, ?_⟩, ?_⟩
  · decide +kernel
  · decide +kernel
  · decide +kernel

end LobbyService

end SurvivalArena
