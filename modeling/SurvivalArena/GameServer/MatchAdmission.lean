import SurvivalArena.Framework.Machine
import SurvivalArena.GameServer.MatchPhases

/-!
# Admission to a match

Roster, tickets, sessions, connections and recipients of a match agree after every run of its
calls.
-/

namespace SurvivalArena

open KeyedList Machine OrderedMap

/-! ## Tickets -/

namespace GameTicketStore

variable {store : GameTicketStore} {matchId : MatchId} {expiresAt : TimePoint}

/-- Every waiting ticket is for this match, and no two are for one player. -/
structure Sound (store : GameTicketStore) (matchId : MatchId) (expiresAt : TimePoint) :
    Prop where
  record : ∀ (ticket : MatchTicketValue) (record : TicketRecord),
    store.tickets[ticket]? = some record →
      record.matchId = matchId ∧ record.expiresAt = expiresAt
  distinct : ∀ (first second : MatchTicketValue) (one other : TicketRecord),
    store.tickets[first]? = some one → store.tickets[second]? = some other →
      one.player = other.player → first = second
  used : ∀ ticket ∈ store.usedTickets, store.tickets[ticket]? = none

theorem mem_purgeExpired {now : TimePoint} {player : PlayerId} :
    player ∈ (store.purgeExpired now).2 ↔
      ∃ (ticket : MatchTicketValue) (record : TicketRecord),
        store.tickets[ticket]? = some record ∧ record.expiresAt ≤ now ∧
          record.player = player := by
  unfold purgeExpired
  rw [(sortByKey_perm _).mem_iff, List.mem_map]
  constructor
  · rintro ⟨⟨ticket, record⟩, hmem, rfl⟩
    obtain ⟨hentry, hexpired⟩ := List.mem_filter.mp hmem
    rw [Bool.not_eq_true', decide_eq_false_iff_not, not_lt] at hexpired
    exact ⟨ticket, record, Std.ExtTreeMap.mem_toList_iff_getElem?_eq_some.mp hentry, hexpired,
      rfl⟩
  · rintro ⟨ticket, record, hrecord, hexpired, rfl⟩
    refine ⟨(ticket, record), List.mem_filter.mpr
      ⟨Std.ExtTreeMap.mem_toList_iff_getElem?_eq_some.mpr hrecord, ?_⟩, rfl⟩
    rw [Bool.not_eq_true', decide_eq_false_iff_not, not_lt]
    exact hexpired

theorem getElem?_purgeExpired {now : TimePoint} {ticket : MatchTicketValue}
    {record : TicketRecord} :
    (store.purgeExpired now).1.tickets[ticket]? = some record ↔
      store.tickets[ticket]? = some record ∧ now < record.expiresAt := by
  show (store.tickets.filter fun _ record => decide (now < record.expiresAt))[ticket]? =
    some record ↔ _
  rw [Std.ExtTreeMap.getElem?_filter', Option.filter_eq_some_iff, decide_eq_true_eq]

/-- The tickets of a store are among those of another. -/
theorem Sound.mono (h : store.Sound matchId expiresAt) {after : GameTicketStore}
    (htickets : ∀ (ticket : MatchTicketValue) (record : TicketRecord),
      after.tickets[ticket]? = some record → store.tickets[ticket]? = some record)
    (hused : ∀ ticket ∈ after.usedTickets, after.tickets[ticket]? = none) :
    after.Sound matchId expiresAt where
  record ticket record hrecord := h.record ticket record (htickets ticket record hrecord)
  distinct first second one other hfirst hsecond :=
    h.distinct first second one other (htickets first one hfirst) (htickets second other hsecond)
  used := hused

theorem Sound.purgeExpired (h : store.Sound matchId expiresAt) (now : TimePoint) :
    (store.purgeExpired now).1.Sound matchId expiresAt := by
  refine h.mono (fun ticket record hrecord => (getElem?_purgeExpired.mp hrecord).1) ?_
  intro ticket hused
  cases hrecord : (store.purgeExpired now).1.tickets[ticket]? with
  | none => rfl
  | some record =>
    have hbefore := (getElem?_purgeExpired.mp hrecord).1
    rw [h.used ticket hused] at hbefore
    cases hbefore

/-- A player whose ticket expires awaits nothing any more, and no other player changes. -/
theorem Sound.awaits_purgeExpired (h : store.Sound matchId expiresAt) {now : TimePoint}
    {player : PlayerId} :
    (store.purgeExpired now).1.Awaits player ↔
      store.Awaits player ∧ player ∉ (store.purgeExpired now).2 := by
  constructor
  · rintro ⟨ticket, record, hrecord, rfl⟩
    obtain ⟨hbefore, hlive⟩ := getElem?_purgeExpired.mp hrecord
    refine ⟨⟨ticket, record, hbefore, rfl⟩, fun hmem => ?_⟩
    obtain ⟨other, expired, hother, hexpired, hplayer⟩ := mem_purgeExpired.mp hmem
    obtain rfl := h.distinct other ticket expired record hother hbefore hplayer
    obtain rfl := Option.some.inj (hother.symm.trans hbefore)
    exact absurd hlive (not_lt.mpr hexpired)
  · rintro ⟨⟨ticket, record, hrecord, rfl⟩, hlive⟩
    refine ⟨ticket, record, getElem?_purgeExpired.mpr ⟨hrecord, ?_⟩, rfl⟩
    by_contra hexpired
    exact hlive (mem_purgeExpired.mpr ⟨ticket, record, hrecord, not_lt.mp hexpired, rfl⟩)

/-- What an accepted ticket was. -/
theorem consume_accepted {ticket : MatchTicketValue} {player : PlayerId} {now : TimePoint}
    {asked : MatchId} (h : (store.consume ticket asked player now).2 = .accepted) :
    ticket ∉ store.usedTickets ∧
      (∃ record, store.tickets[ticket]? = some record ∧ now < record.expiresAt ∧
        record.matchId = asked ∧ record.player = player) ∧
      (store.consume ticket asked player now).1 =
        { tickets := store.tickets.erase ticket
          usedTickets := ticket :: store.usedTickets } := by
  unfold consume at h ⊢
  split at h
  · cases h
  next hused =>
    rw [if_neg hused]
    split at h
    · cases h
    next record hrecord =>
      split at h
      · cases h
      next hlive =>
        split at h
        · cases h
        next hsame =>
          rw [not_or, not_not, not_not] at hsame
          refine ⟨hused, ⟨record, hrecord, not_le.mp hlive, hsame⟩, ?_⟩
          rw [if_neg hlive, if_neg (not_or.mpr ⟨not_not.mpr hsame.1, not_not.mpr hsame.2⟩)]

/-- What is refused stays as it was while no ticket has expired. -/
theorem consume_refused {ticket : MatchTicketValue} {player : PlayerId} {now : TimePoint}
    {asked : MatchId}
    (hlive : ∀ record, store.tickets[ticket]? = some record → now < record.expiresAt)
    (h : (store.consume ticket asked player now).2 ≠ .accepted) :
    (store.consume ticket asked player now).1 = store := by
  unfold consume at h ⊢
  split
  · rfl
  next hused =>
    rw [if_neg hused] at h
    split
    · rfl
    next record hrecord =>
      rw [hrecord] at h
      dsimp only at h
      rw [if_neg (not_le.mpr (hlive record hrecord))] at h ⊢
      split
      · rfl
      next hsame => exact absurd (by rw [if_neg hsame]) h

theorem Sound.consume (h : store.Sound matchId expiresAt) {ticket : MatchTicketValue} :
    GameTicketStore.Sound
      { tickets := store.tickets.erase ticket, usedTickets := ticket :: store.usedTickets }
      matchId expiresAt := by
  refine h.mono (fun other record hrecord => ?_) fun other hused => ?_
  · dsimp only at hrecord
    rw [getElem?_erase] at hrecord
    split at hrecord
    · cases hrecord
    · exact hrecord
  · dsimp only
    rw [getElem?_erase]
    split
    · rfl
    next hother => exact h.used other ((List.mem_cons.mp hused).resolve_left hother)

theorem Sound.awaits_consume (h : store.Sound matchId expiresAt) {ticket : MatchTicketValue}
    {record : TicketRecord} (hrecord : store.tickets[ticket]? = some record)
    {player : PlayerId} :
    GameTicketStore.Awaits
        { tickets := store.tickets.erase ticket, usedTickets := ticket :: store.usedTickets }
        player ↔
      store.Awaits player ∧ player ≠ record.player := by
  unfold Awaits
  dsimp only
  constructor
  · rintro ⟨other, waiting, hother, rfl⟩
    rw [getElem?_erase] at hother
    split at hother
    · cases hother
    next hne =>
      exact ⟨⟨other, waiting, hother, rfl⟩, fun hplayer =>
        hne (h.distinct other ticket waiting record hother hrecord hplayer)⟩
  · rintro ⟨⟨other, waiting, hother, rfl⟩, hne⟩
    refine ⟨other, waiting, ?_, rfl⟩
    rw [getElem?_erase, if_neg ?_]
    · exact hother
    · rintro rfl
      exact hne (congrArg TicketRecord.player (Option.some.inj (hother.symm.trans hrecord)))

end GameTicketStore

/-! ## Seats -/

namespace AuthoritativeMatch

def Connected (game : AuthoritativeMatch) (player : PlayerId) : Prop :=
  ∃ seat, game.seats player = some seat ∧ seat.connected = true

/-- Roster, tickets, sessions, connections and recipients agree. -/
structure Admitted (game : AuthoritativeMatch) : Prop where
  tickets : game.tickets.Sound game.matchId game.ticketExpiresAt
  pending : ∀ player, game.roster.stateOf player = some .pending ↔ game.tickets.Awaits player
  authenticated : ∀ player,
    game.roster.stateOf player = some .authenticated ↔ game.Connected player
  recipients : ∀ player, (game.replicator.controlled player).isSome = true ↔
    game.Connected player
  controls : ∀ player actor, game.replicator.controlled player = some actor →
    ∃ slot, game.roster.find player = some slot ∧ slot.actor = actor
  connections : ∀ (connection : GameConnectionId) (player : PlayerId),
    game.connections[connection]? = some player ↔
      ∃ seat, game.seats player = some seat ∧ seat.connected = true ∧
        seat.connection = connection
  slots : ∀ player slot connection, game.roster.find player = some slot →
    slot.connection = some connection → game.connections[connection]? = some player

theorem SameSeats.admitted {before after : AuthoritativeMatch} (hsame : SameSeats before after)
    (h : before.Admitted) : after.Admitted := by
  have hconnected : ∀ player, after.Connected player ↔ before.Connected player := fun player => by
    unfold Connected
    rw [hsame.seats]
  constructor
  · rw [hsame.tickets, hsame.matchId, hsame.expiry]
    exact h.tickets
  · intro player
    rw [hsame.roster, hsame.tickets]
    exact h.pending player
  · intro player
    rw [hsame.roster, hconnected]
    exact h.authenticated player
  · intro player
    rw [hsame.controlled, hconnected]
    exact h.recipients player
  · intro player actor hactor
    rw [hsame.roster]
    exact h.controls player actor (hsame.controlled ▸ hactor)
  · intro connection player
    rw [hsame.connections, hsame.seats]
    exact h.connections connection player
  · intro player slot connection hslot hconnection
    rw [hsame.roster] at hslot
    rw [hsame.connections]
    exact h.slots player slot connection hslot hconnection

variable {game : AuthoritativeMatch}

theorem not_connected_of_none {player : PlayerId} (h : game.sessions[player]? = none) :
    ¬ game.Connected player := by
  rintro ⟨seat, hseat, -⟩
  unfold seats at hseat
  rw [h] at hseat
  cases hseat

/-- A participant that awaits nobody any more loses its slot. -/
theorem Admitted.retire {tickets : GameTicketStore} (h : game.Admitted)
    (htickets : tickets.Sound game.matchId game.ticketExpiresAt) (gone : List PlayerId)
    (hawaits : ∀ player, tickets.Awaits player ↔ game.tickets.Awaits player ∧ player ∉ gone)
    (hgone : ∀ player ∈ gone, game.roster.stateOf player = some .pending)
    {roster : ParticipantRoster} (hroster : ∀ player, roster.find player =
      if player ∈ gone then (game.roster.find player).map ParticipantRoster.retired
      else game.roster.find player) : { game with tickets, roster }.Admitted := by
  have hstate : ∀ player, player ∈ gone → roster.stateOf player = some .unavailable := by
    intro player hplayer
    obtain ⟨slot, hslot, -⟩ := ParticipantRoster.find_of_stateOf (hgone player hplayer)
    unfold ParticipantRoster.stateOf
    rw [hroster, if_pos hplayer, hslot, Option.map_some, Option.map_some,
      ParticipantRoster.retired_state]
  have hother : ∀ player, player ∉ gone → roster.stateOf player = game.roster.stateOf player := by
    intro player hplayer
    unfold ParticipantRoster.stateOf
    rw [hroster, if_neg hplayer]
  have hslot : ∀ player slot, roster.find player = some slot → ∃ before,
      game.roster.find player = some before ∧ slot.actor = before.actor ∧
        ∀ connection, slot.connection = some connection →
          before.connection = some connection := by
    intro player slot hfind
    rw [hroster] at hfind
    split at hfind
    · obtain ⟨before, hbefore, rfl⟩ := Option.map_eq_some_iff.mp hfind
      exact ⟨before, hbefore, ParticipantRoster.retired_actor before, fun connection =>
        ParticipantRoster.retired_connection⟩
    · exact ⟨slot, hfind, rfl, fun _ => id⟩
  constructor
  · exact htickets
  · intro player
    by_cases hplayer : player ∈ gone
    · refine ⟨fun hpending => ?_, fun hwaits => absurd hplayer ((hawaits player).mp hwaits).2⟩
      exact nomatch (hstate player hplayer).symm.trans hpending
    · show roster.stateOf player = _ ↔ tickets.Awaits player
      rw [hother player hplayer, hawaits, h.pending]
      exact ⟨fun hwaits => ⟨hwaits, hplayer⟩, And.left⟩
  · intro player
    show roster.stateOf player = _ ↔ game.Connected player
    by_cases hplayer : player ∈ gone
    · refine ⟨fun hauthenticated => ?_, fun hconnected => ?_⟩
      · exact nomatch (hstate player hplayer).symm.trans hauthenticated
      · exact nomatch (hgone player hplayer).symm.trans ((h.authenticated player).mpr hconnected)
    · rw [hother player hplayer]
      exact h.authenticated player
  · exact h.recipients
  · intro player actor hactor
    obtain ⟨slot, hfind, rfl⟩ := h.controls player actor hactor
    show ∃ after, roster.find player = some after ∧ _
    rw [hroster]
    split
    · exact ⟨ParticipantRoster.retired slot, by rw [hfind, Option.map_some],
        ParticipantRoster.retired_actor slot⟩
    · exact ⟨slot, hfind, rfl⟩
  · exact h.connections
  · intro player slot connection hfind hconnection
    obtain ⟨before, hbefore, -, hkept⟩ := hslot player slot hfind
    exact h.slots player before connection hbefore (hkept connection hconnection)

/-- The expiry of tickets. -/
theorem Admitted.expire (h : game.Admitted) (now : TimePoint) :
    { game with
      tickets := (game.tickets.purgeExpired now).1
      roster := (game.tickets.purgeExpired now).2.foldl
        (fun roster player => (roster.markUnavailable player).1) game.roster }.Admitted := by
  refine h.retire (h.tickets.purgeExpired now) (game.tickets.purgeExpired now).2
    (fun player => h.tickets.awaits_purgeExpired) (fun player hplayer => ?_)
    (fun player => ParticipantRoster.find_markAllUnavailable _ _ _)
  obtain ⟨ticket, record, hrecord, -, hsame⟩ := GameTicketStore.mem_purgeExpired.mp hplayer
  exact (h.pending player).mpr ⟨ticket, record, hrecord, hsame⟩

/-- A ticket is used up without a session. -/
theorem Admitted.forfeit (h : game.Admitted) {ticket : MatchTicketValue} {record : TicketRecord}
    (hrecord : game.tickets.tickets[ticket]? = some record) :
    { game with
      tickets := {
        tickets := game.tickets.tickets.erase ticket
        usedTickets := ticket :: game.tickets.usedTickets }
      roster := (game.roster.markUnavailable record.player).1 }.Admitted := by
  refine h.retire h.tickets.consume [record.player] (fun player => ?_) (fun player hplayer => ?_)
    (fun player => ?_)
  · rw [h.tickets.awaits_consume hrecord, List.mem_singleton]
  · obtain rfl := List.mem_singleton.mp hplayer
    exact (h.pending _).mpr ⟨ticket, record, hrecord, rfl⟩
  · rw [ParticipantRoster.find_markUnavailable]
    simp only [List.mem_singleton]

/-- The participant whose ticket is consumed has a pending slot and no session. -/
theorem Admitted.awaited (h : game.Admitted) {ticket : MatchTicketValue}
    {record : TicketRecord} (hrecord : game.tickets.tickets[ticket]? = some record) :
    (∃ slot, game.roster.find record.player = some slot ∧ slot.state = .pending) ∧
      ¬ game.Connected record.player := by
  have hpending := (h.pending record.player).mpr ⟨ticket, record, hrecord, rfl⟩
  refine ⟨ParticipantRoster.find_of_stateOf hpending, fun hconnected => ?_⟩
  exact nomatch hpending.symm.trans ((h.authenticated record.player).mpr hconnected)

theorem Admitted.roster_authenticate (h : game.Admitted) {player : PlayerId}
    {slot : ParticipantSlot} (hslot : game.roster.find player = some slot)
    (hpending : slot.state = .pending) {connection : GameConnectionId}
    (hvalue : connection.value ≠ 0) (hfree : game.connections[connection]? = none)
    (token : UdpSessionToken) :
    game.roster.authenticate player connection token =
      (game.roster.change player {
        state := .authenticated
        connection := some connection
        udpToken := some token }, true) := by
  have hunused : (game.roster.slots.any fun slot => slot.connection = some connection) = false := by
    rw [List.any_eq_false]
    intro other hother hconnection
    rw [decide_eq_true_eq] at hconnection
    have hfound := ParticipantRoster.find_eq_some.mpr ⟨hother, rfl⟩
    rw [h.slots other.player other connection hfound hconnection] at hfree
    cases hfree
  unfold ParticipantRoster.authenticate
  rw [hslot]
  dsimp only
  rw [if_neg (not_or.mpr ⟨not_not.mpr hpending, hvalue⟩), hunused, if_neg Bool.false_ne_true]

theorem Admitted.registerRecipient (h : game.Admitted) {player : PlayerId}
    {slot : ParticipantSlot} (hslot : game.roster.find player = some slot)
    (hfree : ¬ game.Connected player) :
    game.replicator.registerRecipient player slot.actor =
      (game.replicator.setRecipient player { controlledActor := slot.actor }, .ok ()) := by
  have hcontains : game.replicator.recipients.contains player = false := by
    rw [Std.ExtTreeMap.contains_eq_isSome_getElem?, Bool.eq_false_iff]
    intro hsome
    refine hfree ((h.recipients player).mp ?_)
    unfold SnapshotReplicator.controlled
    rw [Option.isSome_map]
    exact hsome
  have hunused : (game.replicator.recipients.toList.any fun entry =>
      entry.2.controlledActor == slot.actor) = false := by
    rw [List.any_eq_false]
    rintro ⟨other, recipient⟩ hmem hactor
    rw [beq_iff_eq] at hactor
    have hrecipient := Std.ExtTreeMap.mem_toList_iff_getElem?_eq_some.mp hmem
    have hcontrolled : game.replicator.controlled other = some slot.actor := by
      unfold SnapshotReplicator.controlled
      rw [hrecipient, Option.map_some, hactor]
    obtain ⟨found, hfound, hsame⟩ := h.controls other slot.actor hcontrolled
    obtain ⟨hfoundmem, hother⟩ := ParticipantRoster.find_eq_some.mp hfound
    obtain ⟨hslotmem, hplayer⟩ := ParticipantRoster.find_eq_some.mp hslot
    obtain rfl := ParticipantRoster.actor_injective hfoundmem hslotmem hsame
    obtain rfl := hother.symm.trans hplayer
    refine hfree ((h.recipients _).mp ?_)
    rw [hcontrolled]
    rfl
  unfold SnapshotReplicator.registerRecipient
  rw [hcontains, hunused]
  rfl

/-- The participant has its session. -/
def seated (game : AuthoritativeMatch) (player : PlayerId) (connection : GameConnectionId)
    (token : UdpSessionToken) (actor : EntityId) (tickets : GameTicketStore) :
    AuthoritativeMatch :=
  { game with
    tickets
    roster := game.roster.change player {
      state := .authenticated
      connection := some connection
      udpToken := some token }
    sessions := game.sessions.insertIfNew player { connection, token }
    connections := game.connections.insertIfNew connection player
    replicator := game.replicator.setRecipient player { controlledActor := actor } }

theorem Admitted.seated (h : game.Admitted) {ticket : MatchTicketValue} {record : TicketRecord}
    (hrecord : game.tickets.tickets[ticket]? = some record) {slot : ParticipantSlot}
    (hslot : game.roster.find record.player = some slot) {connection : GameConnectionId}
    (hfree : game.connections[connection]? = none)
    (hnone : game.sessions[record.player]? = none) (token : UdpSessionToken) :
    (game.seated record.player connection token slot.actor {
      tickets := game.tickets.tickets.erase ticket
      usedTickets := ticket :: game.tickets.usedTickets }).Admitted := by
  have hseats : ∀ player, (game.seated record.player connection token slot.actor {
      tickets := game.tickets.tickets.erase ticket
      usedTickets := ticket :: game.tickets.usedTickets }).seats player =
      if player = record.player then some ⟨connection, token, true⟩ else game.seats player := by
    intro player
    show ((game.sessions.insertIfNew record.player _)[player]?).map _ = _
    rw [getElem?_insertIfNew _ hnone]
    split
    · rfl
    · rfl
  have hstate : ∀ player, (game.roster.change record.player {
      state := .authenticated
      connection := some connection
      udpToken := some token }).stateOf player =
      if player = record.player then some .authenticated else game.roster.stateOf player := by
    intro player
    unfold ParticipantRoster.stateOf
    split
    next hplayer => rw [hplayer, ParticipantRoster.find_change_self hslot, Option.map_some]
    next hplayer => rw [ParticipantRoster.find_change_other hplayer]
  have hconnected : ∀ player, (game.seated record.player connection token slot.actor {
      tickets := game.tickets.tickets.erase ticket
      usedTickets := ticket :: game.tickets.usedTickets }).Connected player ↔
      player = record.player ∨ game.Connected player := by
    intro player
    unfold Connected
    rw [hseats]
    split
    next hplayer => exact ⟨fun _ => .inl hplayer, fun _ => ⟨_, rfl, rfl⟩⟩
    next hplayer =>
      exact ⟨.inr, fun hor => hor.resolve_left hplayer⟩
  have hrecipients : ∀ player, (game.replicator.setRecipient record.player
      { controlledActor := slot.actor }).controlled player =
      if player = record.player then some slot.actor else game.replicator.controlled player := by
    intro player
    show ((game.replicator.recipients.insert record.player _)[player]?).map _ = _
    rw [getElem?_insert]
    split
    · rfl
    · rfl
  constructor
  · exact h.tickets.consume
  · intro player
    have hawaits : (game.seated record.player connection token slot.actor {
        tickets := game.tickets.tickets.erase ticket
        usedTickets := ticket :: game.tickets.usedTickets }).tickets.Awaits player ↔
        game.tickets.Awaits player ∧ player ≠ record.player :=
      h.tickets.awaits_consume hrecord
    rw [hawaits]
    show (game.roster.change _ _).stateOf player = _ ↔ _
    rw [hstate]
    split
    next hplayer => exact ⟨nofun, fun hwaits => absurd hplayer hwaits.2⟩
    next hplayer =>
      rw [h.pending]
      exact ⟨fun hwaits => ⟨hwaits, hplayer⟩, And.left⟩
  · intro player
    rw [hconnected]
    show (game.roster.change _ _).stateOf player = _ ↔ _
    rw [hstate]
    split
    next hplayer => exact ⟨fun _ => .inl hplayer, fun _ => rfl⟩
    next hplayer =>
      rw [h.authenticated]
      exact ⟨.inr, fun hor => hor.resolve_left hplayer⟩
  · intro player
    rw [hconnected]
    show (SnapshotReplicator.controlled (game.replicator.setRecipient _ _) player).isSome = _ ↔ _
    rw [hrecipients]
    split
    next hplayer => exact ⟨fun _ => .inl hplayer, fun _ => rfl⟩
    next hplayer =>
      rw [h.recipients]
      exact ⟨.inr, fun hor => hor.resolve_left hplayer⟩
  · intro player actor hactor
    change SnapshotReplicator.controlled (game.replicator.setRecipient _ _) player = _ at hactor
    rw [hrecipients] at hactor
    show ∃ found, (game.roster.change _ _).find player = some found ∧ found.actor = actor
    split at hactor
    next hplayer =>
      rw [hplayer, ParticipantRoster.find_change_self hslot]
      exact ⟨_, rfl, Option.some.inj hactor⟩
    next hplayer =>
      rw [ParticipantRoster.find_change_other hplayer]
      exact h.controls player actor hactor
  · intro other player
    rw [hseats]
    show (game.connections.insertIfNew connection record.player)[other]? = some player ↔ _
    rw [getElem?_insertIfNew _ hfree]
    by_cases hother : other = connection
    · rw [if_pos hother]
      constructor
      · intro hplayer
        obtain rfl := Option.some.inj hplayer
        rw [if_pos rfl]
        exact ⟨_, rfl, rfl, hother.symm⟩
      · rintro ⟨seat, hseat, hlive, hsame⟩
        split at hseat
        next hplayer => rw [hplayer]
        next =>
          have hused := (h.connections other player).mpr ⟨seat, hseat, hlive, hsame⟩
          rw [hother, hfree] at hused
          cases hused
    · rw [if_neg hother, h.connections]
      by_cases hplayer : player = record.player
      · rw [if_pos hplayer, hplayer]
        constructor
        · rintro ⟨seat, hseat, hlive, -⟩
          exact absurd ⟨seat, hseat, hlive⟩ (not_connected_of_none hnone)
        · rintro ⟨seat, hseat, -, hsame⟩
          obtain rfl := Option.some.inj hseat
          exact absurd hsame.symm hother
      · rw [if_neg hplayer]
  · intro player found other hfound hother
    show (game.connections.insertIfNew connection record.player)[other]? = some player
    change (game.roster.change _ _).find player = some found at hfound
    rw [getElem?_insertIfNew _ hfree]
    by_cases hplayer : player = record.player
    · rw [hplayer, ParticipantRoster.find_change_self hslot] at hfound
      obtain rfl := Option.some.inj hfound
      obtain rfl := Option.some.inj hother
      rw [if_pos rfl, hplayer]
    · rw [ParticipantRoster.find_change_other hplayer] at hfound
      have hused := h.slots player found other hfound hother
      rw [if_neg ?_]
      · exact hused
      · rintro rfl
        rw [hfree] at hused
        cases hused

/-! ### Disconnection -/

theorem Admitted.dropSession (h : game.Admitted) {connection : GameConnectionId}
    {player : PlayerId} {session : PlayerSession}
    (hconnection : game.connections[connection]? = some player)
    (hsession : game.sessions[player]? = some session) :
    (game.dropSession connection player session).Admitted := by
  obtain ⟨seat, hseat, hlive, hsame⟩ := (h.connections connection player).mp hconnection
  obtain rfl := Option.some.inj ((seats_of_session hsession).symm.trans hseat)
  have hauthenticated := (h.authenticated player).mpr ⟨_, hseat, hlive⟩
  obtain ⟨slot, hslot, hstate⟩ := ParticipantRoster.find_of_stateOf hauthenticated
  have hseats : ∀ other, (game.dropSession connection player session).seats other =
      if other = player then some { session.seat with connected := false }
      else game.seats other := by
    intro other
    show ((game.sessions.insert player _)[other]?).map _ = _
    rw [getElem?_insert]
    split
    · rfl
    · rfl
  have hfind : ∀ other, (game.dropSession connection player session).roster.find other =
      if other = player then (game.roster.find other).map ParticipantRoster.retired
      else game.roster.find other := fun other =>
    ParticipantRoster.find_markUnavailable game.roster player other
  have hgone : (game.dropSession connection player session).roster.stateOf player =
      some .unavailable := by
    unfold ParticipantRoster.stateOf
    rw [hfind, if_pos rfl, hslot, Option.map_some, Option.map_some,
      ParticipantRoster.retired_state]
  have hkept : ∀ other, other ≠ player →
      (game.dropSession connection player session).roster.stateOf other =
        game.roster.stateOf other := by
    intro other hne
    unfold ParticipantRoster.stateOf
    rw [hfind, if_neg hne]
  have hconnected : ∀ other, (game.dropSession connection player session).Connected other ↔
      other ≠ player ∧ game.Connected other := by
    intro other
    unfold Connected
    rw [hseats]
    by_cases hother : other = player
    · rw [if_pos hother]
      constructor
      · rintro ⟨seat, hseat, hlive⟩
        obtain rfl := Option.some.inj hseat
        cases hlive
      · exact fun hboth => absurd hother hboth.1
    · rw [if_neg hother]
      exact ⟨fun hboth => ⟨hother, hboth⟩, And.right⟩
  have hrecipients : ∀ other,
      (game.dropSession connection player session).replicator.controlled other =
        if other = player then none else game.replicator.controlled other := by
    intro other
    show ((game.replicator.recipients.erase player)[other]?).map _ = _
    rw [getElem?_erase]
    split
    · rfl
    · rfl
  constructor
  · exact h.tickets
  · intro other
    by_cases hother : other = player
    · rw [hother, hgone]
      refine ⟨nofun, fun hwaits => ?_⟩
      exact nomatch hauthenticated.symm.trans ((h.pending player).mpr hwaits)
    · rw [hkept other hother]
      exact h.pending other
  · intro other
    rw [hconnected]
    by_cases hother : other = player
    · rw [hother, hgone]
      exact ⟨nofun, fun hboth => absurd rfl hboth.1⟩
    · rw [hkept other hother, h.authenticated]
      exact ⟨fun hlive => ⟨hother, hlive⟩, And.right⟩
  · intro other
    rw [hconnected, hrecipients]
    split
    next hother => exact ⟨nofun, fun hboth => absurd hother hboth.1⟩
    next hother =>
      rw [h.recipients]
      exact ⟨fun hlive => ⟨hother, hlive⟩, And.right⟩
  · intro other actor hactor
    rw [hrecipients] at hactor
    split at hactor
    · cases hactor
    next hother =>
      rw [hfind, if_neg hother]
      exact h.controls other actor hactor
  · intro used other
    rw [hseats]
    show (game.connections.erase connection)[used]? = some other ↔ _
    rw [getElem?_erase]
    by_cases hused : used = connection
    · rw [if_pos hused]
      refine ⟨nofun, ?_⟩
      rintro ⟨seat, hseat', hlive', hsame'⟩
      split at hseat'
      next =>
        obtain rfl := Option.some.inj hseat'
        cases hlive'
      next hother =>
        have hagain := (h.connections used other).mpr ⟨seat, hseat', hlive', hsame'⟩
        rw [hused, hconnection] at hagain
        exact absurd (Option.some.inj hagain).symm hother
    · rw [if_neg hused, h.connections]
      by_cases hother : other = player
      · rw [if_pos hother, hother, hseat]
        constructor
        · rintro ⟨seat, hfound, -, hsame'⟩
          obtain rfl := Option.some.inj hfound
          exact absurd (hsame'.symm.trans hsame) hused
        · rintro ⟨seat, hfound, hlive', -⟩
          obtain rfl := Option.some.inj hfound
          cases hlive'
      · rw [if_neg hother]
  · intro other found used hfound hused
    show (game.connections.erase connection)[used]? = some other
    rw [hfind] at hfound
    rw [getElem?_erase]
    split at hfound
    next hother =>
      rw [hother, hslot, Option.map_some] at hfound
      obtain rfl := Option.some.inj hfound
      have hnone : (ParticipantRoster.retired slot).connection = none := by
        unfold ParticipantRoster.retired
        rw [hstate, if_neg (by decide)]
      rw [hnone] at hused
      cases hused
    next hother =>
      have hagain := h.slots other found used hfound hused
      rw [if_neg ?_]
      · exact hagain
      · rintro rfl
        rw [hconnection] at hagain
        exact hother (Option.some.inj hagain).symm

/-! ## The calls -/

/-- What holds of a match between its calls. -/
structure Lawful (game : AuthoritativeMatch) : Prop extends Admitted game, Phased game

/-- A call of a lawful match: it stays lawful, and its end is told once. -/
structure LawfulCall (game : AuthoritativeMatch) (result : AuthoritativeMatchResult)
    (call : MatchAnswer) : Prop where
  lawful : call.1.Lawful
  tells : Tells game result call

theorem LawfulCall.attempt {result : AuthoritativeMatchResult} {call : MatchAnswer}
    {next : AuthoritativeMatchResult → MatchAnswer} (hfirst : LawfulCall game result call)
    (hnext : ∀ final, call.2 = .ok final → LawfulCall call.1 final (next final)) :
    LawfulCall game result (SurvivalArena.attempt call.1 call.2 next) := by
  refine ⟨?_, hfirst.tells.attempt fun final hfinal => (hnext final hfinal).tells⟩
  cases hcall : call.2 with
  | error e => exact hfirst.lawful
  | ok final => exact (hnext final hcall).lawful

theorem Lawful.answers (h : game.Lawful) (result : AuthoritativeMatchResult) :
    LawfulCall game result (game, .ok result) :=
  ⟨h, (SamePhase.refl game).tells⟩

theorem LawfulCall.answer {result before : AuthoritativeMatchResult} {call : MatchAnswer}
    (h : LawfulCall game result call) (hsame : result.control = before.control) :
    LawfulCall game before call :=
  ⟨h.lawful, h.tells.answer hsame⟩

theorem LawfulCall.stampCall {result : AuthoritativeMatchResult} {call : MatchAnswer}
    (h : LawfulCall game result call) : LawfulCall game result (stampCall call) :=
  h.attempt fun _ _ => (h.lawful.answers _).answer rfl

/-- A change of seats before the rest of a call. -/
theorem SamePhase.lawful_after {middle : AuthoritativeMatch}
    {result : AuthoritativeMatchResult} {call : MatchAnswer} (hsame : SamePhase game middle)
    (h : LawfulCall middle result call) : LawfulCall game result call :=
  ⟨h.lawful, hsame.tells_after h.tells⟩

theorem Lawful.resolveStart (h : game.Lawful) (now : TimePoint)
    (result : AuthoritativeMatchResult) :
    LawfulCall game result (game.resolveStart now result) := by
  have hgoes := resolveStart_goes game now result
  exact ⟨⟨hgoes.toSameSeats.admitted h.toAdmitted, (resolveStart_phased h.toPhased now result).1⟩,
    hgoes.toTells⟩

/-! ### Expiry -/

theorem foldl_markUnavailable (players : List PlayerId) (game : AuthoritativeMatch) :
    players.foldl markUnavailable game = { game with
      roster := players.foldl (fun roster player => (roster.markUnavailable player).1)
        game.roster } := by
  induction players generalizing game with
  | nil => rfl
  | cons player players ih => exact ih (game.markUnavailable player)

/-- The match without the tickets that expire. -/
def expired (game : AuthoritativeMatch) (now : TimePoint) : AuthoritativeMatch :=
  { game with
    tickets := (game.tickets.purgeExpired now).1
    roster := (game.tickets.purgeExpired now).2.foldl
      (fun roster player => (roster.markUnavailable player).1) game.roster }

theorem expirePending_eq (game : AuthoritativeMatch) (now : TimePoint)
    (result : AuthoritativeMatchResult) :
    game.expirePending now result = (game.expired now).resolveStart now result := by
  unfold expirePending expired
  dsimp only
  rw [foldl_markUnavailable]

theorem expired_samePhase (game : AuthoritativeMatch) (now : TimePoint) :
    SamePhase game (game.expired now) :=
  ⟨rfl, rfl⟩

theorem Lawful.expired (h : game.Lawful) (now : TimePoint) : (game.expired now).Lawful :=
  ⟨h.toAdmitted.expire now, (expired_samePhase game now).phased h.toPhased rfl rfl⟩

theorem Lawful.expirePending (h : game.Lawful) (now : TimePoint)
    (result : AuthoritativeMatchResult) :
    LawfulCall game result (game.expirePending now result) := by
  rw [expirePending_eq]
  exact (expired_samePhase game now).lawful_after ((h.expired now).resolveStart now result)

theorem Lawful.expirePending_returns (h : game.Lawful) (now : TimePoint)
    (result : AuthoritativeMatchResult) :
    ∃ final, (game.expirePending now result).2 = .ok final := by
  rw [expirePending_eq]
  exact (resolveStart_phased (h.expired now).toPhased now result).2.1

/-- At the expiry of the tickets no slot is pending. -/
theorem Lawful.readyToStart (h : game.Lawful) {now : TimePoint}
    (hexpiry : game.ticketExpiresAt ≤ now) :
    (game.expired now).roster.readyToStart = true := by
  refine List.all_eq_true.mpr fun slot hslot => decide_eq_true fun hpending => ?_
  have hfind := ParticipantRoster.find_eq_some.mpr ⟨hslot, rfl⟩
  have hstate := ParticipantRoster.stateOf_of_find hfind
  rw [hpending] at hstate
  obtain ⟨ticket, record, hrecord, -⟩ := ((h.expired now).pending slot.player).mp hstate
  obtain ⟨hbefore, hlive⟩ := GameTicketStore.getElem?_purgeExpired.mp hrecord
  rw [(h.tickets.record ticket record hbefore).2] at hlive
  exact absurd hlive (not_lt.mpr hexpiry)

theorem Lawful.expirePending_settled (h : game.Lawful) {now : TimePoint}
    (hexpiry : game.ticketExpiresAt ≤ now) (result : AuthoritativeMatchResult) :
    (game.expirePending now result).1.Settled := by
  rw [expirePending_eq]
  exact (resolveStart_phased (h.expired now).toPhased now result).2.2 (h.readyToStart hexpiry)

/-! ### Authentication -/

/-- A ticket that is consumed while it waits ends as a session or takes the slot away. -/
theorem Lawful.openSession (h : game.Lawful) {connection : GameConnectionId}
    {hello : GameClientHello} {actor : EntityId} {drawn : Option UdpSessionToken}
    {now : TimePoint} {result : AuthoritativeMatchResult} {record : TicketRecord}
    (hrecord : game.tickets.tickets[hello.ticket]? = some record)
    (hplayer : record.player = hello.player)
    (hactor : game.roster.actorFor hello.player = .ok actor)
    (hvalue : connection.value ≠ 0) (hfree : game.connections[connection]? = none)
    (hnone : game.sessions[hello.player]? = none) :
    LawfulCall game result
      ({ game with tickets := {
          tickets := game.tickets.tickets.erase hello.ticket
          usedTickets := hello.ticket :: game.tickets.usedTickets } }.openSession connection
        hello actor drawn now result) := by
  obtain ⟨⟨slot, hslot, hpending⟩, hgone⟩ := h.toAdmitted.awaited hrecord
  rw [hplayer] at hslot hgone
  have hslotActor : slot.actor = actor := by
    unfold ParticipantRoster.actorFor at hactor
    rw [hslot] at hactor
    exact Except.ok.inj hactor
  subst hslotActor
  unfold AuthoritativeMatch.openSession
  split
  · have hforfeit := h.toAdmitted.forfeit hrecord
    rw [hplayer] at hforfeit
    have hsame : SamePhase game { game with
        tickets := {
          tickets := game.tickets.tickets.erase hello.ticket
          usedTickets := hello.ticket :: game.tickets.usedTickets }
        roster := (game.roster.markUnavailable hello.player).1 } := ⟨rfl, rfl⟩
    have hlawful : Lawful _ := ⟨hforfeit, hsame.phased h.toPhased rfl rfl⟩
    exact hsame.lawful_after ((hlawful.resolveStart now _).answer rfl)
  next token _ =>
    have hauthenticated := h.toAdmitted.roster_authenticate hslot hpending hvalue hfree token
    have hregistered := h.toAdmitted.registerRecipient hslot hgone
    dsimp only
    rw [hauthenticated]
    dsimp only
    rw [if_pos rfl]
    unfold welcomeSession
    dsimp only
    rw [hregistered]
    dsimp only [SurvivalArena.attempt]
    have hrecord' : game.tickets.tickets[hello.ticket]? = some record := hrecord
    have hseated := h.toAdmitted.seated hrecord' (hplayer ▸ hslot) hfree (hplayer ▸ hnone) token
    rw [hplayer] at hseated
    have hsame : SamePhase game (game.seated hello.player connection token slot.actor {
        tickets := game.tickets.tickets.erase hello.ticket
        usedTickets := hello.ticket :: game.tickets.usedTickets }) := ⟨rfl, rfl⟩
    have hlawful : Lawful _ := ⟨hseated, hsame.phased h.toPhased rfl rfl⟩
    exact hsame.lawful_after ((hlawful.resolveStart now _).answer rfl)

theorem Lawful.observe (h : game.Lawful) (now : TimePoint) :
    { game with lastObservedTime := now }.Lawful := by
  have hsame : Keeps game { game with lastObservedTime := now } :=
    ⟨⟨rfl, rfl, rfl, rfl, rfl, rfl, rfl⟩, rfl, rfl⟩
  exact ⟨hsame.toSameSeats.admitted h.toAdmitted, hsame.toSamePhase.phased h.toPhased rfl rfl⟩

/-- The tickets that are left have not expired. -/
theorem expirePending_live {now : TimePoint} {result : AuthoritativeMatchResult}
    {ticket : MatchTicketValue} {record : TicketRecord}
    (h : (game.expirePending now result).1.tickets.tickets[ticket]? = some record) :
    now < record.expiresAt := by
  rw [expirePending_eq, (resolveStart_goes (game.expired now) now result).tickets] at h
  exact (GameTicketStore.getElem?_purgeExpired.mp h).2

/-- What an authentication does after the expiry: it is refused, or opens a session with a
ticket that waits for it. -/
inductive Authenticates (game : AuthoritativeMatch) (connection : GameConnectionId)
    (hello : GameClientHello) (drawn : Option UdpSessionToken) (now : TimePoint)
    (result : AuthoritativeMatchResult) : MatchAnswer → Prop where
  | refused : Authenticates game connection hello drawn now result
      (stampCall (game, .ok (addError result connection .authenticationFailed)))
  | opened (record : TicketRecord) (actor : EntityId)
      (hlive : game.terminal = false ∧ game.started = false)
      (hunused : hello.ticket ∉ game.tickets.usedTickets)
      (hrecord : game.tickets.tickets[hello.ticket]? = some record)
      (htime : now < record.expiresAt) (hmatch : record.matchId = hello.matchId)
      (hplayer : record.player = hello.player)
      (hactor : game.roster.actorFor hello.player = .ok actor)
      (hvalue : connection.value ≠ 0) (hfree : game.connections[connection]? = none)
      (hnone : game.sessions[hello.player]? = none) :
      Authenticates game connection hello drawn now result
        (stampCall ({ game with tickets := {
          tickets := game.tickets.tickets.erase hello.ticket
          usedTickets := hello.ticket :: game.tickets.usedTickets } }.openSession connection
            hello actor drawn now result))

theorem authenticate_cases (h : game.Lawful) (connection : GameConnectionId)
    (hello : GameClientHello) (drawn : Option UdpSessionToken) (now : TimePoint) :
    ∃ result, ({ game with lastObservedTime := now }.expirePending now {}).2 = .ok result ∧
      Authenticates ({ game with lastObservedTime := now }.expirePending now {}).1 connection
        hello drawn now result (game.authenticate connection hello drawn now) := by
  obtain ⟨result, hresult⟩ := (h.observe now).expirePending_returns now {}
  refine ⟨result, hresult, ?_⟩
  have hlive : ∀ record, ({ game with lastObservedTime := now }.expirePending now
      {}).1.tickets.tickets[hello.ticket]? = some record → now < record.expiresAt :=
    fun record => expirePending_live
  unfold authenticate
  dsimp only
  rw [hresult]
  generalize ({ game with lastObservedTime := now }.expirePending now {}).1 = expired at hlive ⊢
  dsimp only [SurvivalArena.attempt]
  split
  · exact .refused
  next hguard =>
    simp only [Bool.or_eq_true, not_or, Bool.not_eq_true, beq_eq_false_iff_ne] at hguard
    obtain ⟨⟨⟨hphase, hvalue⟩, hconnection⟩, hsession⟩ := hguard
    rw [Std.ExtTreeMap.contains_eq_isSome_getElem?, Option.isSome_eq_false_iff,
      Option.isNone_iff_eq_none] at hconnection hsession
    split
    · exact .refused
    next actor hactor =>
      split
      next hconsumed =>
        rw [GameTicketStore.consume_refused hlive hconsumed]
        exact .refused
      next hconsumed =>
        obtain ⟨hunused, ⟨record, hrecord, htime, hmatch, hplayer⟩, hstore⟩ :=
          GameTicketStore.consume_accepted (not_not.mp hconsumed)
        rw [hstore]
        exact .opened record actor hphase hunused hrecord htime hmatch hplayer hactor hvalue
          hconnection hsession

theorem Authenticates.lawful {connection : GameConnectionId} {hello : GameClientHello}
    {drawn : Option UdpSessionToken} {now : TimePoint} {result : AuthoritativeMatchResult}
    {call : MatchAnswer} (hcall : Authenticates game connection hello drawn now result call)
    (h : game.Lawful) : LawfulCall game result call := by
  cases hcall with
  | refused =>
    exact (h.answers (addError result connection .authenticationFailed)).stampCall.answer rfl
  | opened record actor _ hunused hrecord htime hmatch hplayer hactor hvalue hfree hnone =>
    exact (h.openSession hrecord hplayer hactor hvalue hfree hnone).stampCall

theorem observe_samePhase (game : AuthoritativeMatch) (now : TimePoint) :
    SamePhase game { game with lastObservedTime := now } :=
  ⟨rfl, rfl⟩

theorem Lawful.observe_expirePending (h : game.Lawful) (now : TimePoint) :
    LawfulCall game {} ({ game with lastObservedTime := now }.expirePending now {}) :=
  (observe_samePhase game now).lawful_after ((h.observe now).expirePending now {})

theorem Lawful.authenticate (h : game.Lawful) (connection : GameConnectionId)
    (hello : GameClientHello) (drawn : Option UdpSessionToken) (now : TimePoint) :
    LawfulCall game {} (game.authenticate connection hello drawn now) := by
  obtain ⟨result, hresult, hcases⟩ := authenticate_cases h connection hello drawn now
  have hexpired := h.observe_expirePending now
  generalize { game with lastObservedTime := now }.expirePending now {} = expired
    at hresult hcases hexpired
  obtain ⟨middle, step⟩ := expired
  obtain rfl : step = .ok result := hresult
  have hrest := hcases.lawful hexpired.lawful
  exact ⟨hrest.lawful, hexpired.tells.trans hrest.tells⟩

/-! ### The other calls -/

/-- A part of a call that leaves the seats of a match that no longer waits. -/
theorem Lawful.goes (h : game.Lawful) {result : AuthoritativeMatchResult} {call : MatchAnswer}
    (hsettled : game.Settled) (hgoes : Goes game result call) : LawfulCall game result call :=
  ⟨⟨hgoes.toSameSeats.admitted h.toAdmitted,
    .of_settled (hgoes.exclusive h.exclusive) (hgoes.settled hsettled)⟩, hgoes.toTells⟩

theorem Lawful.receiveClientDatagram (h : game.Lawful) (peer : UdpPeer)
    (datagram : ClientDatagram) :
    LawfulCall game {} (game.receiveClientDatagram peer datagram) := by
  have hgoes : Goes game {} _ := receiveClientDatagram_goes peer datagram
  have hsame : SamePhase game (game.receiveClientDatagram peer datagram).1 :=
    ⟨receiveClientDatagram_frame (fun _ _ => rfl) (fun _ _ => rfl) game peer datagram,
      receiveClientDatagram_frame (fun _ _ => rfl) (fun _ _ => rfl) game peer datagram⟩
  refine ⟨⟨hgoes.toSameSeats.admitted h.toAdmitted, hsame.phased h.toPhased ?_ ?_⟩,
    hgoes.toTells⟩
  · exact receiveClientDatagram_frame (fun _ _ => rfl) (fun _ _ => rfl) game peer datagram
  · exact receiveClientDatagram_frame (fun _ _ => rfl) (fun _ _ => rfl) game peer datagram

theorem dropSession_samePhase (connection : GameConnectionId) (player : PlayerId)
    (session : PlayerSession) : SamePhase game (game.dropSession connection player session) :=
  ⟨rfl, rfl⟩

theorem Lawful.dropSession (h : game.Lawful) {connection : GameConnectionId}
    {player : PlayerId} {session : PlayerSession}
    (hconnection : game.connections[connection]? = some player)
    (hsession : game.sessions[player]? = some session) :
    (game.dropSession connection player session).Lawful :=
  ⟨h.toAdmitted.dropSession hconnection hsession,
    (dropSession_samePhase connection player session).phased h.toPhased rfl rfl⟩

/-- The session of a connection. -/
theorem Admitted.session (h : game.Admitted) {connection : GameConnectionId}
    {player : PlayerId} (hconnection : game.connections[connection]? = some player) :
    ∃ session, game.sessions[player]? = some session ∧ session.connected = true ∧
      session.connection = connection := by
  obtain ⟨seat, hseat, hlive, hsame⟩ := (h.connections connection player).mp hconnection
  obtain ⟨session, hsession, rfl⟩ := Option.map_eq_some_iff.mp hseat
  exact ⟨session, hsession, hlive, hsame⟩

theorem Lawful.disconnect (h : game.Lawful) (connection : GameConnectionId) :
    LawfulCall game {} (game.disconnect connection) := by
  unfold AuthoritativeMatch.disconnect
  split
  · exact (h.answers _).answer rfl
  next player hconnection =>
    obtain ⟨session, hsession, -⟩ := h.toAdmitted.session hconnection
    split
    · exact (h.answers _).answer rfl
    rw [hsession]
    dsimp only
    have hdropped := h.dropSession hconnection hsession
    have hsame : SamePhase game _ := dropSession_samePhase connection player session
    refine hsame.lawful_after ?_
    generalize game.dropSession connection player session = dropped at hdropped
    split
    · exact (hdropped.resolveStart _ _).stampCall
    next hstarted =>
      rw [Bool.not_eq_true', Bool.not_eq_false] at hstarted
      have hsettled : dropped.Settled := .inl hstarted
      split
      · exact (hdropped.goes hsettled (finishWithoutWinner_goes _)).stampCall
      · refine hdropped.goes hsettled ((Keeps.refl dropped).attempt_goes fun actor _ => ?_)
        have hpending : Keeps dropped { dropped with
            pendingDisconnects := (insert id actor.value dropped.pendingDisconnects).getD
              dropped.pendingDisconnects } := ⟨⟨rfl, rfl, rfl, rfl, rfl, rfl, rfl⟩, rfl, rfl⟩
        exact hpending.goes.answer rfl

theorem Lawful.advance (h : game.Lawful) (now : TimePoint) :
    LawfulCall game {} (game.advance now) := by
  unfold AuthoritativeMatch.advance
  refine (observe_samePhase game now).lawful_after ?_
  have hobserved := h.observe now
  generalize { game with lastObservedTime := now } = observed at hobserved
  dsimp only
  split
  · exact (hobserved.answers _).answer rfl
  · split
    next hstarted => exact hobserved.goes (.inl hstarted) (advanceStarted_goes now)
    next =>
      refine (hobserved.expirePending now {}).attempt fun result _ => ?_
      have hexpired := (hobserved.expirePending now {}).lawful
      generalize (observed.expirePending now {}).1 = expired at hexpired
      split
      · exact (hexpired.answers _).answer rfl
      next hstarted =>
        rw [Bool.or_eq_true, not_or, Bool.not_eq_true', Bool.not_eq_false] at hstarted
        exact hexpired.goes (.inl hstarted.2) (advanceStarted_goes now)

/-- Every call of a lawful match leaves it lawful, and what it answers tells the end of the
match when the match becomes terminal. -/
theorem Lawful.call (h : game.Lawful) (call : AuthoritativeCall) :
    LawfulCall game {} (game.call call) := by
  cases call with
  | authenticate connection hello drawn now => exact h.authenticate connection hello drawn now
  | receiveClientDatagram peer datagram => exact h.receiveClientDatagram peer datagram
  | disconnect connection => exact h.disconnect connection
  | advance now => exact h.advance now

end AuthoritativeMatch

end SurvivalArena
