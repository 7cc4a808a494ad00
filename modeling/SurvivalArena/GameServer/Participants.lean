import SurvivalArena.Exception
import SurvivalArena.Framework.KeyedList
import SurvivalArena.Lobby.MatchTicketRegistry

/-!
# The participants of a match

The tickets that let them in, and the slot of each with the actor it controls.
-/

namespace SurvivalArena

open KeyedList OrderedMap

inductive GameConnectionTag

abbrev GameConnectionId := Tagged GameConnectionTag UInt64

/-! ## Tickets -/

inductive GameTicketConsumeResult where
  | accepted
  | notFound
  | expired
  | mismatch
  | used
deriving DecidableEq

/-- The tickets that wait for their players, and those that were used. -/
structure GameTicketStore where
  tickets : Std.ExtTreeMap MatchTicketValue TicketRecord := ∅
  usedTickets : List MatchTicketValue := []

namespace GameTicketStore

def load (matchId : MatchId) (participants : List ReservedParticipant) (now : TimePoint)
    (lifetime : Int) : Except Exception GameTicketStore := do
  throwIf (decide (participants.length < 2) || decide (roomCapacity < participants.length) ||
      decide (lifetime ≤ 0))
    (.invalidArgument "game tickets require 2 to 24 participants and positive lifetime")
  throwIf (!decide (participants.map ReservedParticipant.player).Nodup ||
      !decide (participants.map ReservedParticipant.ticket).Nodup)
    (.invalidArgument "game ticket participants must have unique players and tickets")
  pure {
    tickets := participants.foldl (fun tickets participant =>
      tickets.insertIfNew participant.ticket
        { matchId, player := participant.player, expiresAt := now + lifetime }) ∅ }

def consume (store : GameTicketStore) (ticket : MatchTicketValue) (matchId : MatchId)
    (player : PlayerId) (now : TimePoint) : GameTicketStore × GameTicketConsumeResult :=
  if ticket ∈ store.usedTickets then (store, .used)
  else
    match store.tickets[ticket]? with
    | none => (store, .notFound)
    | some record =>
      if record.expiresAt ≤ now then
        ({ store with tickets := store.tickets.erase ticket }, .expired)
      else if record.matchId ≠ matchId ∨ record.player ≠ player then (store, .mismatch)
      else
        ({ tickets := store.tickets.erase ticket
           usedTickets := ticket :: store.usedTickets }, .accepted)

/-- The players whose tickets expire, ascending, and the store without these tickets. -/
def purgeExpired (store : GameTicketStore) (now : TimePoint) :
    GameTicketStore × List PlayerId :=
  ({ store with tickets := store.tickets.filter fun _ record => decide (now < record.expiresAt) },
   sortByKey id ((store.tickets.toList.filter fun entry =>
     !decide (now < entry.2.expiresAt)).map fun entry => entry.2.player))

/-- A ticket of the player waits. -/
def Awaits (store : GameTicketStore) (player : PlayerId) : Prop :=
  ∃ (ticket : MatchTicketValue) (record : TicketRecord),
    store.tickets[ticket]? = some record ∧ record.player = player

/-- The store of a reservation holds the tickets of its participants. -/
theorem load_eq {matchId : MatchId} {participants : List ReservedParticipant}
    {now : TimePoint} {lifetime : Int} {store : GameTicketStore}
    (h : load matchId participants now lifetime = .ok store) :
    (participants.map ReservedParticipant.player).Nodup ∧
      (participants.map ReservedParticipant.ticket).Nodup ∧ store.usedTickets = [] ∧
      ∀ (ticket : MatchTicketValue) (record : TicketRecord),
        store.tickets[ticket]? = some record ↔ ∃ participant ∈ participants,
          participant.ticket = ticket ∧
            record = { matchId, player := participant.player, expiresAt := now + lifetime } := by
  obtain ⟨-, h⟩ := throwIf_bind_eq_ok.mp h
  obtain ⟨hunique, h⟩ := throwIf_bind_eq_ok.mp h
  rw [Bool.or_eq_false_iff, Bool.not_eq_false', Bool.not_eq_false', decide_eq_true_eq,
    decide_eq_true_eq] at hunique
  obtain rfl := Except.ok.inj h
  refine ⟨hunique.1, hunique.2, rfl, fun ticket record => ?_⟩
  have hfold : ∀ (participants : List ReservedParticipant)
      (tickets : Std.ExtTreeMap MatchTicketValue TicketRecord),
      (participants.map ReservedParticipant.ticket).Nodup →
      (∀ participant ∈ participants, tickets[participant.ticket]? = none) →
      ((participants.foldl (fun tickets participant => tickets.insertIfNew participant.ticket
        { matchId, player := participant.player, expiresAt := now + lifetime })
          tickets)[ticket]? = some record ↔ tickets[ticket]? = some record ∨
        ∃ participant ∈ participants, participant.ticket = ticket ∧
          record = { matchId, player := participant.player, expiresAt := now + lifetime }) := by
    intro participants
    induction participants with
    | nil =>
      intro tickets _ _
      exact ⟨.inl, fun hor => hor.resolve_right fun ⟨_, hmem, _⟩ => nomatch hmem⟩
    | cons first participants ih =>
      intro tickets hnodup hfresh
      rw [List.map_cons, List.nodup_cons] at hnodup
      have hfirst := hfresh first List.mem_cons_self
      rw [List.foldl_cons, ih _ hnodup.2 fun participant hmem => ?_, getElem?_insertIfNew _ hfirst]
      · by_cases hticket : ticket = first.ticket
        · rw [if_pos hticket, hticket, hfirst]
          constructor
          · rintro (hrecord | ⟨participant, hmem, hsame⟩)
            · exact .inr ⟨first, List.mem_cons_self, rfl, (Option.some.inj hrecord).symm⟩
            · exact .inr ⟨participant, List.mem_cons_of_mem first hmem, hsame⟩
          · rintro (hrecord | ⟨participant, hmem, hsame, hrecord⟩)
            · cases hrecord
            · rcases List.mem_cons.mp hmem with rfl | hmem
              · exact .inl (congrArg some hrecord.symm)
              · exact .inr ⟨participant, hmem, hsame, hrecord⟩
        · rw [if_neg hticket]
          constructor
          · rintro (hrecord | ⟨participant, hmem, hsame⟩)
            · exact .inl hrecord
            · exact .inr ⟨participant, List.mem_cons_of_mem first hmem, hsame⟩
          · rintro (hrecord | ⟨participant, hmem, hsame, hrecord⟩)
            · exact .inl hrecord
            · rcases List.mem_cons.mp hmem with rfl | hmem
              · exact absurd hsame.symm hticket
              · exact .inr ⟨participant, hmem, hsame, hrecord⟩
      · rw [getElem?_insertIfNew _ hfirst, if_neg ?_]
        · exact hfresh participant (List.mem_cons_of_mem first hmem)
        · intro hsame
          exact hnodup.1 (hsame ▸ List.mem_map_of_mem hmem)
  refine (hfold participants ∅ hunique.2 fun _ _ => ?_).trans ?_
  · exact Std.ExtTreeMap.getElem?_empty
  · rw [Std.ExtTreeMap.getElem?_empty]
    exact ⟨fun hor => hor.resolve_left nofun, .inr⟩

end GameTicketStore

/-! ## Slots -/

inductive ParticipantSlotState where
  | pending
  | authenticated
  | unavailable
deriving DecidableEq

structure ParticipantSlot where
  player : PlayerId
  actor : EntityId
  state : ParticipantSlotState := .pending
  connection : Option GameConnectionId := none
  udpToken : Option UdpSessionToken := none
deriving DecidableEq

/-- The slots in the order of their players; the actors are numbered in that order. -/
structure ParticipantRoster where
  slots : List ParticipantSlot
  ascending : Ascending ParticipantSlot.player slots
  numbered : ∀ (index : Nat) (slot : ParticipantSlot), slots[index]? = some slot →
    slot.actor = ⟨UInt32.ofNat index⟩
  bounded : slots.length ≤ roomCapacity

def firstSlot (player : PlayerId × Nat) : ParticipantSlot where
  player := player.1
  actor := ⟨UInt32.ofNat player.2⟩

theorem ascending_firstSlots {players : List PlayerId} (h : Ascending id players) :
    Ascending ParticipantSlot.player (players.zipIdx.map firstSlot) := by
  refine ascending_map.mpr ?_
  have hkeys : (players.zipIdx.map fun player => (firstSlot player).player) = players :=
    List.zipIdx_map_fst 0 players
  exact List.pairwise_map.mp (hkeys.symm ▸ h : List.Pairwise (· < ·) _)

theorem numbered_firstSlots (players : List PlayerId) (index : Nat) (slot : ParticipantSlot)
    (h : (players.zipIdx.map firstSlot)[index]? = some slot) :
    slot.actor = ⟨UInt32.ofNat index⟩ := by
  rw [List.getElem?_map, List.getElem?_zipIdx] at h
  cases hplayer : players[index]? with
  | none =>
    rw [hplayer] at h
    cases h
  | some player =>
    rw [hplayer, Nat.zero_add] at h
    cases h
    rfl

namespace ParticipantRoster

def create (players : List PlayerId) : Except Exception ParticipantRoster :=
  if hcount : players.length < 2 ∨ roomCapacity < players.length then
    .error (.invalidArgument "participant roster requires 2 to 24 players")
  else
    if h : hasAdjacentDuplicate id (sortByKey id players) = true then
      .error (.invalidArgument "participant roster players must be unique")
    else
      .ok {
        slots := (sortByKey id players).zipIdx.map firstSlot
        ascending := ascending_firstSlots (ascending_of_pairwise_le (sortByKey_pairwise players)
          (Bool.eq_false_iff.mpr h))
        numbered := numbered_firstSlots _
        bounded := by
          rw [List.length_map, List.length_zipIdx, (sortByKey_perm players).length_eq]
          exact not_lt.mp (not_or.mp hcount).2 }

def find (roster : ParticipantRoster) (player : PlayerId) : Option ParticipantSlot :=
  lookup ParticipantSlot.player player roster.slots

/-- What becomes of a slot that keeps its player and its actor. -/
structure SlotChange where
  state : ParticipantSlotState
  connection : Option GameConnectionId := none
  udpToken : Option UdpSessionToken := none

def changeSlot (player : PlayerId) (change : SlotChange) (slot : ParticipantSlot) :
    ParticipantSlot :=
  if slot.player = player then
    { slot with
      state := change.state
      connection := change.connection
      udpToken := change.udpToken }
  else slot

theorem changeSlot_player (player : PlayerId) (change : SlotChange) (slot : ParticipantSlot) :
    (changeSlot player change slot).player = slot.player := by
  unfold changeSlot
  split
  · rfl
  · rfl

theorem changeSlot_actor (player : PlayerId) (change : SlotChange) (slot : ParticipantSlot) :
    (changeSlot player change slot).actor = slot.actor := by
  unfold changeSlot
  split
  · rfl
  · rfl

def change (roster : ParticipantRoster) (player : PlayerId) (change : SlotChange) :
    ParticipantRoster where
  slots := roster.slots.map (changeSlot player change)
  ascending := by
    refine ascending_map.mpr ?_
    have hsame : (fun slot => (changeSlot player change slot).player) =
        ParticipantSlot.player := funext (changeSlot_player player change)
    rw [hsame]
    exact roster.ascending
  numbered := by
    intro index slot hslot
    rw [List.getElem?_map] at hslot
    obtain ⟨before, hbefore, rfl⟩ := Option.map_eq_some_iff.mp hslot
    rw [changeSlot_actor]
    exact roster.numbered index before hbefore
  bounded := by
    rw [List.length_map]
    exact roster.bounded

def authenticate (roster : ParticipantRoster) (player : PlayerId)
    (connection : GameConnectionId) (token : UdpSessionToken) : ParticipantRoster × Bool :=
  match roster.find player with
  | none => (roster, false)
  | some slot =>
    if slot.state ≠ .pending ∨ connection.value = 0 then (roster, false)
    else if roster.slots.any fun slot => slot.connection = some connection then (roster, false)
    else
      (roster.change player {
        state := .authenticated
        connection := some connection
        udpToken := some token }, true)

def markUnavailable (roster : ParticipantRoster) (player : PlayerId) :
    ParticipantRoster × Bool :=
  match roster.find player with
  | none => (roster, false)
  | some slot =>
    if slot.state = .unavailable then (roster, false)
    else (roster.change player { state := .unavailable }, true)

def actorFor (roster : ParticipantRoster) (player : PlayerId) : Except Exception EntityId :=
  match roster.find player with
  | none => .error (.outOfRange "participant player is absent")
  | some slot => .ok slot.actor

def readyToStart (roster : ParticipantRoster) : Bool :=
  roster.slots.all fun slot => slot.state ≠ .pending

def authenticatedCount (roster : ParticipantRoster) : Nat :=
  roster.slots.countP fun slot => slot.state = .authenticated

def unavailablePlayers (roster : ParticipantRoster) : List PlayerId :=
  (roster.slots.filter fun slot => slot.state = .unavailable).map ParticipantSlot.player

def stateOf (roster : ParticipantRoster) (player : PlayerId) : Option ParticipantSlotState :=
  (roster.find player).map ParticipantSlot.state

/-! ### The slots after a change -/

variable {roster : ParticipantRoster} {player : PlayerId} {slot : ParticipantSlot}

theorem find_eq_some : roster.find player = some slot ↔
    slot ∈ roster.slots ∧ slot.player = player :=
  lookup_eq_some roster.ascending

theorem find_change (roster : ParticipantRoster) (player : PlayerId) (change : SlotChange)
    (other : PlayerId) :
    (roster.change player change).find other =
      (roster.find other).map (changeSlot player change) := by
  apply Option.ext
  intro slot
  rw [Option.map_eq_some_iff, find_eq_some]
  constructor
  · rintro ⟨hmem, rfl⟩
    obtain ⟨before, hbefore, rfl⟩ := List.mem_map.mp hmem
    exact ⟨before, find_eq_some.mpr ⟨hbefore, (changeSlot_player _ _ _).symm⟩, rfl⟩
  · rintro ⟨before, hbefore, rfl⟩
    obtain ⟨hmem, hplayer⟩ := find_eq_some.mp hbefore
    exact ⟨List.mem_map_of_mem hmem, (changeSlot_player _ _ _).trans hplayer⟩

theorem find_change_self {change : SlotChange} (h : roster.find player = some slot) :
    (roster.change player change).find player = some { slot with
      state := change.state
      connection := change.connection
      udpToken := change.udpToken } := by
  rw [find_change, h, Option.map_some, changeSlot, if_pos (find_eq_some.mp h).2]

theorem find_change_other {change : SlotChange} {other : PlayerId} (hne : other ≠ player) :
    (roster.change player change).find other = roster.find other := by
  rw [find_change]
  cases hfound : roster.find other with
  | none => rfl
  | some slot =>
    have hplayer : slot.player ≠ player := by
      rw [(find_eq_some.mp hfound).2]
      exact hne
    rw [Option.map_some, changeSlot, if_neg hplayer]

/-- A slot that is taken away. -/
def retired (slot : ParticipantSlot) : ParticipantSlot :=
  if slot.state = .unavailable then slot
  else { slot with state := .unavailable, connection := none, udpToken := none }

theorem retired_state (slot : ParticipantSlot) : (retired slot).state = .unavailable := by
  unfold retired
  split
  next h => exact h
  next => rfl

theorem retired_retired (slot : ParticipantSlot) : retired (retired slot) = retired slot :=
  if_pos (retired_state slot)

theorem retired_actor (slot : ParticipantSlot) : (retired slot).actor = slot.actor := by
  unfold retired
  split
  · rfl
  · rfl

theorem retired_connection {connection : GameConnectionId}
    (h : (retired slot).connection = some connection) : slot.connection = some connection := by
  unfold retired at h
  split at h
  · exact h
  · cases h

theorem find_markUnavailable (roster : ParticipantRoster) (player other : PlayerId) :
    (roster.markUnavailable player).1.find other =
      if other = player then (roster.find other).map retired else roster.find other := by
  unfold markUnavailable
  split
  next hnone =>
    split
    next hother => rw [hother, hnone, Option.map_none]
    next => rfl
  next slot hslot =>
    split
    next hstate =>
      split
      next hother => rw [hother, hslot, Option.map_some, retired, if_pos hstate]
      next => rfl
    next hstate =>
      split
      next hother =>
        rw [hother, find_change_self hslot, hslot, Option.map_some, retired, if_neg hstate]
      next hother => exact find_change_other hother

theorem find_markAllUnavailable (players : List PlayerId) (roster : ParticipantRoster)
    (other : PlayerId) :
    (players.foldl (fun roster player => (roster.markUnavailable player).1) roster).find other =
      if other ∈ players then (roster.find other).map retired else roster.find other := by
  induction players generalizing roster with
  | nil => rfl
  | cons player players ih =>
    rw [List.foldl_cons, ih, find_markUnavailable]
    by_cases hother : other = player
    · rw [if_pos hother, if_pos (List.mem_cons.mpr (.inl hother))]
      split
      · rw [Option.map_map]
        exact congrArg (fun update => (roster.find other).map update) (funext retired_retired)
      · rfl
    · rw [if_neg hother]
      by_cases hlater : other ∈ players
      · rw [if_pos hlater, if_pos (List.mem_cons_of_mem player hlater)]
      · rw [if_neg hlater, if_neg fun hmem => hlater ((List.mem_cons.mp hmem).resolve_left hother)]

/-- No two slots have the same actor. -/
theorem actor_injective {first second : ParticipantSlot} (hfirst : first ∈ roster.slots)
    (hsecond : second ∈ roster.slots) (h : first.actor = second.actor) : first = second := by
  obtain ⟨i, hi⟩ := List.mem_iff_getElem?.mp hfirst
  obtain ⟨j, hj⟩ := List.mem_iff_getElem?.mp hsecond
  have hbound : ∀ (index : Nat) (slot : ParticipantSlot), roster.slots[index]? = some slot →
      index < 2 ^ 32 := fun index slot hslot => by
    have hindex := (List.getElem?_eq_some_iff.mp hslot).1
    have hfew := roster.bounded
    unfold roomCapacity at hfew
    omega
  rw [roster.numbered i first hi, roster.numbered j second hj] at h
  have hnumber : (UInt32.ofNat i).toNat = (UInt32.ofNat j).toNat :=
    congrArg (fun actor : EntityId => actor.value.toNat) h
  rw [UInt32.toNat_ofNat_of_lt' (hbound i first hi),
    UInt32.toNat_ofNat_of_lt' (hbound j second hj)] at hnumber
  rw [hnumber, hj] at hi
  exact (Option.some.inj hi).symm

/-! ### The players -/

def players (roster : ParticipantRoster) : List PlayerId :=
  roster.slots.map ParticipantSlot.player

theorem players_change (roster : ParticipantRoster) (player : PlayerId) (change : SlotChange) :
    (roster.change player change).players = roster.players := by
  show (roster.slots.map (changeSlot player change)).map ParticipantSlot.player = _
  rw [List.map_map]
  exact List.map_congr_left fun slot _ => changeSlot_player player change slot

theorem players_markUnavailable (roster : ParticipantRoster) (player : PlayerId) :
    (roster.markUnavailable player).1.players = roster.players := by
  unfold markUnavailable
  split
  · rfl
  · split
    · rfl
    · exact players_change roster player _

theorem players_markAllUnavailable (players : List PlayerId) (roster : ParticipantRoster) :
    (players.foldl (fun roster player => (roster.markUnavailable player).1) roster).players =
      roster.players := by
  induction players generalizing roster with
  | nil => rfl
  | cons player players ih => exact (ih _).trans (players_markUnavailable roster player)

theorem players_authenticate (roster : ParticipantRoster) (player : PlayerId)
    (connection : GameConnectionId) (token : UdpSessionToken) :
    (roster.authenticate player connection token).1.players = roster.players := by
  unfold authenticate
  split
  · rfl
  · split
    · rfl
    · split
      · rfl
      · exact players_change roster player _

/-! ### The states -/

theorem stateOf_of_find (h : roster.find player = some slot) :
    roster.stateOf player = some slot.state := by
  unfold stateOf
  rw [h]
  rfl

theorem find_of_stateOf {state : ParticipantSlotState} (h : roster.stateOf player = some state) :
    ∃ slot, roster.find player = some slot ∧ slot.state = state :=
  Option.map_eq_some_iff.mp h

/-- The slots of a created roster are those of its players. -/
theorem create_eq {players : List PlayerId} {roster : ParticipantRoster}
    (h : create players = .ok roster) :
    roster.players.Perm players ∧ ∀ slot ∈ roster.slots, slot.state = .pending ∧
      slot.connection = none := by
  unfold create at h
  split at h
  · cases h
  · split at h
    · cases h
    · obtain rfl := Except.ok.inj h
      constructor
      · show (List.map firstSlot _).map ParticipantSlot.player |>.Perm players
        have hkeys : ((sortByKey id players).zipIdx.map firstSlot).map ParticipantSlot.player =
            sortByKey id players := by
          rw [List.map_map]
          exact List.zipIdx_map_fst 0 (sortByKey id players)
        rw [hkeys]
        exact sortByKey_perm players
      · intro slot hslot
        obtain ⟨entry, -, rfl⟩ := List.mem_map.mp hslot
        exact ⟨rfl, rfl⟩

end ParticipantRoster

end SurvivalArena
