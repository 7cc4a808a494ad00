import SurvivalArena.GameServer.AdmissionRun
import SurvivalArena.Simulation.MatchRun
import SurvivalArena.Simulation.SpawnedMatch

/-!
# The life cycle of a match

What holds after every run of calls of a created match.
-/

namespace SurvivalArena

open KeyedList Machine OrderedMap

namespace AuthoritativeMatch

/-! ## The created match -/

/-- When the tickets of a reservation that is accepted at a time expire. -/
def expiryOf (reservation : ReserveMatch) (now : TimePoint) : TimePoint :=
  now + reservation.ticketLifetimeMilliseconds.toNat * nanosecondsPerMillisecond

/-- A match that was just created for a reservation. -/
structure Fresh (reservation : ReserveMatch) (config : MatchConfig Float32) (now : TimePoint)
    (game : AuthoritativeMatch) : Prop where
  matchId : game.matchId = reservation.matchId
  expiry : game.ticketExpiresAt = expiryOf reservation now
  phase : game.started = false ∧ game.terminal = false
  empty : game.sessions = ∅ ∧ game.connections = ∅ ∧ game.replicator.recipients = ∅ ∧
    game.pendingDisconnects = []
  idle : game.scheduler.epoch = none
  roster : ParticipantRoster.create (reservation.participants.map ReservedParticipant.player) =
    .ok game.roster
  tickets : GameTicketStore.load reservation.matchId reservation.participants now
    (reservation.ticketLifetimeMilliseconds.toNat * nanosecondsPerMillisecond) =
      .ok game.tickets
  valid : validateMatchConfig (serverMatchConfig reservation config) = .ok ()
  simulation : game.simulation.Spawned (serverMatchConfig reservation config)

theorem create_fresh [Trigonometry Float32] {reservation : ReserveMatch}
    {arena : ArenaMapDefinition} {config : MatchConfig Float32} {now : TimePoint}
    {replication : ReplicationConfig} {game : AuthoritativeMatch}
    (h : create reservation arena config now replication = .ok game) :
    Fresh reservation config now game := by
  obtain ⟨-, h⟩ := throwIf_bind_eq_ok.mp h
  obtain ⟨navMeshCrc32, -, h⟩ := except_bind_eq_ok.mp h
  obtain ⟨navMesh, -, h⟩ := except_bind_eq_ok.mp h
  obtain ⟨replicator, hreplicator, h⟩ := except_bind_eq_ok.mp h
  obtain ⟨metrics, -, h⟩ := except_bind_eq_ok.mp h
  obtain ⟨simulation, hsimulation, h⟩ := except_bind_eq_ok.mp h
  obtain ⟨roster, hroster, h⟩ := except_bind_eq_ok.mp h
  obtain ⟨tickets, htickets, h⟩ := except_bind_eq_ok.mp h
  obtain ⟨started, hstarted, h⟩ := except_bind_eq_ok.mp h
  obtain rfl := Except.ok.inj h
  have hrecipients : replicator.recipients = ∅ := by
    obtain ⟨_, -, hreplicator⟩ := except_bind_eq_ok.mp hreplicator
    obtain ⟨bounds, -, hreplicator⟩ := except_bind_eq_ok.mp hreplicator
    obtain ⟨grid, -, hreplicator⟩ := except_bind_eq_ok.mp hreplicator
    obtain rfl := Except.ok.inj hreplicator
    rfl
  exact {
    matchId := rfl
    expiry := rfl
    phase := ⟨rfl, rfl⟩
    empty := ⟨rfl, rfl, hrecipients, rfl⟩
    idle := rfl
    roster := hroster
    tickets := htickets
    valid := OfflineMatch.create_config hsimulation
    simulation := OfflineMatch.start_spawned hsimulation hstarted }

variable {reservation : ReserveMatch} {config : MatchConfig Float32} {now : TimePoint}
  {game : AuthoritativeMatch}

theorem Fresh.ready (h : Fresh reservation config now game) : game.Ready where
  active := h.simulation.isActive
  snapshot := by
    refine h.simulation.snapshot_exists ?_
    rw [OfflineMatch.validateMatchConfig_tickRate h.valid]
    decide
  idle := h.idle

theorem Fresh.lawful (h : Fresh reservation config now game) : game.Lawful := by
  obtain ⟨hsessions, hconnections, hrecipients, -⟩ := h.empty
  obtain ⟨hplayers, hpending⟩ := ParticipantRoster.create_eq h.roster
  obtain ⟨hdistinct, -, hused, htickets⟩ := GameTicketStore.load_eq h.tickets
  have hseats : ∀ player, game.seats player = none := fun player => by
    unfold seats
    rw [hsessions, Std.ExtTreeMap.getElem?_empty]
    rfl
  have hnone : ∀ player, ¬ game.Connected player := by
    rintro player ⟨seat, hseat, -⟩
    rw [hseats] at hseat
    cases hseat
  have hcontrolled : ∀ player, game.replicator.controlled player = none := fun player => by
    unfold SnapshotReplicator.controlled
    rw [hrecipients, Std.ExtTreeMap.getElem?_empty]
    rfl
  refine ⟨⟨?_, ?_, ?_, ?_, ?_, ?_, ?_⟩, ?_, fun _ => h.ready⟩
  · refine ⟨fun ticket record hrecord => ?_, fun first second one other hfirst hsecond hsame => ?_,
      fun ticket hmem => ?_⟩
    · obtain ⟨participant, -, -, rfl⟩ := (htickets ticket record).mp hrecord
      exact ⟨h.matchId.symm, h.expiry.symm⟩
    · obtain ⟨participant, hmem, rfl, rfl⟩ := (htickets first one).mp hfirst
      obtain ⟨second', hmem', rfl, rfl⟩ := (htickets second other).mp hsecond
      rw [List.inj_on_of_nodup_map hdistinct hmem hmem' hsame]
    · rw [hused] at hmem
      cases hmem
  · intro player
    have hpresent : game.roster.stateOf player = some .pending ↔
        player ∈ reservation.participants.map ReservedParticipant.player := by
      rw [← hplayers.mem_iff]
      constructor
      · intro hstate
        obtain ⟨slot, hslot, -⟩ := ParticipantRoster.find_of_stateOf hstate
        obtain ⟨hmem, rfl⟩ := ParticipantRoster.find_eq_some.mp hslot
        exact List.mem_map_of_mem hmem
      · intro hmem
        obtain ⟨slot, hslot, rfl⟩ := List.mem_map.mp hmem
        have hfound := ParticipantRoster.find_eq_some.mpr ⟨hslot, rfl⟩
        rw [ParticipantRoster.stateOf_of_find hfound, (hpending slot hslot).1]
    rw [hpresent]
    constructor
    · intro hmem
      obtain ⟨participant, hparticipant, rfl⟩ := List.mem_map.mp hmem
      exact ⟨participant.ticket, _, (htickets _ _).mpr ⟨participant, hparticipant, rfl, rfl⟩, rfl⟩
    · rintro ⟨ticket, record, hrecord, rfl⟩
      obtain ⟨participant, hparticipant, -, rfl⟩ := (htickets ticket record).mp hrecord
      exact List.mem_map_of_mem hparticipant
  · intro player
    refine ⟨fun hstate => ?_, fun hconnected => absurd hconnected (hnone player)⟩
    obtain ⟨slot, hslot, hauthenticated⟩ := ParticipantRoster.find_of_stateOf hstate
    have hwaits := (hpending slot (ParticipantRoster.find_eq_some.mp hslot).1).1
    exact nomatch hwaits.symm.trans hauthenticated
  · intro player
    rw [hcontrolled]
    exact ⟨nofun, fun hconnected => absurd hconnected (hnone player)⟩
  · intro player actor hactor
    rw [hcontrolled] at hactor
    cases hactor
  · intro connection player
    rw [hconnections, Std.ExtTreeMap.getElem?_empty, hseats]
    exact ⟨nofun, fun ⟨_, hseat, _⟩ => nomatch hseat⟩
  · intro player slot connection hslot hconnection
    rw [(hpending slot (ParticipantRoster.find_eq_some.mp hslot).1).2] at hconnection
    cases hconnection
  · intro hstarted
    exact nomatch h.phase.1.symm.trans hstarted

/-! ## Runs -/

/-- A lawful match of a reservation, whose waiting tickets are still those of its
participants. -/
structure Holds (reservation : ReserveMatch) (now : TimePoint) (game : AuthoritativeMatch) :
    Prop extends Lawful game where
  matchId : game.matchId = reservation.matchId
  expiry : game.ticketExpiresAt = expiryOf reservation now
  players : game.roster.players.Perm
    (reservation.participants.map ReservedParticipant.player)
  distinct : (reservation.participants.map ReservedParticipant.player).Nodup ∧
    (reservation.participants.map ReservedParticipant.ticket).Nodup
  reserved : ∀ (ticket : MatchTicketValue) (record : TicketRecord),
    game.tickets.tickets[ticket]? = some record → ∃ participant ∈ reservation.participants,
      participant.ticket = ticket ∧ participant.player = record.player

theorem Fresh.holds (h : Fresh reservation config now game) : Holds reservation now game where
  toLawful := h.lawful
  matchId := h.matchId
  expiry := h.expiry
  players := (ParticipantRoster.create_eq h.roster).1
  distinct := ⟨(GameTicketStore.load_eq h.tickets).1, (GameTicketStore.load_eq h.tickets).2.1⟩
  reserved ticket record hrecord := by
    obtain ⟨-, -, -, htickets⟩ := GameTicketStore.load_eq h.tickets
    obtain ⟨participant, hmem, hticket, rfl⟩ := (htickets ticket record).mp hrecord
    exact ⟨participant, hmem, hticket, rfl⟩

theorem Holds.call (h : Holds reservation now game) (call : AuthoritativeCall) :
    Holds reservation now (game.call call).1 := by
  have hspends := (h.toLawful.call_spends call).1
  exact {
    toLawful := (h.toLawful.call call).lawful
    matchId := hspends.matchId.trans h.matchId
    expiry := hspends.expiry.trans h.expiry
    players := hspends.players ▸ h.players
    distinct := h.distinct
    reserved := fun ticket record hrecord =>
      h.reserved ticket record (hspends.waiting ticket record hrecord) }

theorem Holds.stays (h : Holds reservation now game) (calls : List AuthoritativeCall) :
    Holds reservation now (after AuthoritativeMatch.call game calls) := by
  induction calls generalizing game with
  | nil => exact h
  | cons call calls ih => exact ih (h.call call)

/-- A slot is pending while the ticket of its participant waits. -/
theorem Holds.pending_iff (h : Holds reservation now game) {participant : ReservedParticipant}
    (hmem : participant ∈ reservation.participants) :
    game.roster.stateOf participant.player = some .pending ↔
      game.tickets.tickets[participant.ticket]? ≠ none := by
  rw [h.pending]
  constructor
  · rintro ⟨ticket, record, hrecord, hplayer⟩
    obtain ⟨other, hother, rfl, hsame⟩ := h.reserved ticket record hrecord
    obtain rfl := List.inj_on_of_nodup_map h.distinct.1 hother hmem (hsame.trans hplayer)
    rw [hrecord]
    exact Option.some_ne_none record
  · intro hwaits
    obtain ⟨record, hrecord⟩ := Option.ne_none_iff_exists'.mp hwaits
    obtain ⟨other, hother, hticket, hsame⟩ := h.reserved _ record hrecord
    obtain rfl := List.inj_on_of_nodup_map h.distinct.2 hother hmem hticket
    exact ⟨_, record, hrecord, hsame.symm⟩

/-- How often an answer tells the end of the match. -/
def told : Except Exception AuthoritativeMatchResult → Nat
  | .ok result => result.finishes
  | .error _ => 0

theorem told_le (h : game.Lawful) (call : AuthoritativeCall) :
    told (game.call call).2 + (game.call call).1.remaining ≤ game.remaining := by
  have htells := (h.call call).tells
  cases hanswer : (game.call call).2 with
  | ok result =>
    have htold := htells.told result hanswer
    exact le_of_eq (htold.trans (Nat.zero_add _))
  | error e =>
    refine (Nat.zero_add _).le.trans ?_
    unfold remaining
    by_cases hterminal : game.terminal = true
    · rw [htells.ended hterminal, if_pos rfl]
      exact Nat.zero_le _
    · rw [if_neg hterminal]
      split
      · exact Nat.zero_le _
      · exact le_rfl

theorem told_run (h : game.Lawful) (calls : List AuthoritativeCall) :
    ((replies AuthoritativeMatch.call game calls).map told).sum +
      (after AuthoritativeMatch.call game calls).remaining ≤ game.remaining := by
  induction calls generalizing game with
  | nil => exact (Nat.zero_add _).le
  | cons call calls ih =>
    have hrest := ih (h.call call).lawful
    have hfirst := told_le h call
    rw [replies, List.map_cons, List.sum_cons, after_cons]
    omega

/-- After the call that told the end of the match every call is quiet. -/
theorem told_quiet (h : game.Lawful) {call : AuthoritativeCall}
    (htold : told (game.call call).2 ≠ 0) (calls : List AuthoritativeCall)
    (later : AuthoritativeCall) : ∃ answer,
      ((after AuthoritativeMatch.call (game.call call).1 calls).call later).2 = .ok answer ∧
        Quiet answer := by
  have hterminal : (game.call call).1.terminal = true := by
    have hle := told_le h call
    unfold remaining at hle
    by_contra hlive
    rw [if_neg hlive] at hle
    split at hle
    · omega
    · omega
  have hafter : ∀ (calls : List AuthoritativeCall) (game : AuthoritativeMatch), game.Lawful →
      game.terminal = true → (after AuthoritativeMatch.call game calls).Lawful ∧
        (after AuthoritativeMatch.call game calls).terminal = true := by
    intro calls
    induction calls with
    | nil => exact fun game hlawful hended => ⟨hlawful, hended⟩
    | cons call calls ih =>
      exact fun game hlawful hended => ih _ (hlawful.call call).lawful
        ((hlawful.call call).tells.ended hended)
  obtain ⟨hlawful, hended⟩ := hafter calls _ (h.call call).lawful hterminal
  exact hlawful.call_quiet hended later

/-- The ticket that a call shows. -/
def ticketOf : AuthoritativeCall → Option MatchTicketValue
  | .authenticate _ hello _ _ => some hello.ticket
  | .receiveClientDatagram _ _ => none
  | .disconnect _ => none
  | .advance _ => none

/-- What a call that opens a session is. -/
structure Entitled (reservation : ReserveMatch) (now : TimePoint) (call : AuthoritativeCall)
    (participant : ReservedParticipant) : Prop where
  reserved : participant ∈ reservation.participants
  asked : ∃ connection drawn time, time < expiryOf reservation now ∧
    call = .authenticate connection
      { matchId := reservation.matchId
        player := participant.player
        ticket := participant.ticket } drawn time

theorem Holds.entitled (h : Holds reservation now game) {call : AuthoritativeCall}
    {player : PlayerId} (hopens : game.Opens call player) :
    ∃ participant, participant.player = player ∧ Entitled reservation now call participant := by
  obtain ⟨ticket, hshows⟩ := (h.toLawful.call_spends call).2 player hopens
  obtain ⟨⟨connection, hello, drawn, time, rfl, rfl, rfl, hmatch, htime⟩,
    ⟨record, hrecord, hplayer⟩,
    -, -⟩ := hshows
  obtain ⟨participant, hmem, hticket, hsame⟩ := h.reserved _ record hrecord
  refine ⟨participant, hsame.trans hplayer, hmem, connection, drawn, time, h.expiry ▸ htime, ?_⟩
  rw [← h.matchId, ← hmatch, hticket, hsame, hplayer]

/-- A ticket that has opened a session opens no other. -/
theorem Holds.opens_once (h : Holds reservation now game) {call later : AuthoritativeCall}
    {player other : PlayerId} (hopens : game.Opens call player)
    (between : List AuthoritativeCall)
    (hlater : (after AuthoritativeMatch.call (game.call call).1 between).Opens later other) :
    ticketOf call ≠ ticketOf later := by
  obtain ⟨ticket, hshows⟩ := (h.toLawful.call_spends call).2 player hopens
  have hused : ∀ (between : List AuthoritativeCall) (game : AuthoritativeMatch), game.Lawful →
      ticket ∈ game.tickets.usedTickets →
      ticket ∈ (after AuthoritativeMatch.call game between).tickets.usedTickets := by
    intro between
    induction between with
    | nil => exact fun game _ hticket => hticket
    | cons call between ih =>
      exact fun game hlawful hticket => ih _ (hlawful.call call).lawful
        ((hlawful.call_spends call).1.used ticket hticket)
  have hspent := hused between _ (h.toLawful.call call).lawful hshows.spent
  obtain ⟨again, hagain⟩ := (((h.call call).stays between).toLawful.call_spends later).2 other
    hlater
  obtain ⟨connection, hello, drawn, time, rfl, -, hticket, -⟩ := hshows.asked
  obtain ⟨connection', hello', drawn', time', rfl, -, hticket', -⟩ := hagain.asked
  intro hsame
  have htickets : hello.ticket = hello'.ticket := Option.some.inj hsame
  exact hagain.unused (by rw [← hticket', ← htickets, hticket]; exact hspent)

/-- Over every run of a created match: a slot is pending while its ticket waits; once the
tickets expire the match waits no longer; its end is told once, and then it is quiet; a ticket
opens one session, for its own player, match and time; and the connected sessions are the
recipients. -/
theorem match_life_cycle [Trigonometry Float32] {arena : ArenaMapDefinition}
    {replication : ReplicationConfig} {created : AuthoritativeMatch}
    (h : create reservation arena config now replication = .ok created)
    (calls : List AuthoritativeCall) :
    (∀ slot ∈ (after AuthoritativeMatch.call created calls).roster.slots,
      ∃ participant ∈ reservation.participants, participant.player = slot.player ∧
        (slot.state = .pending ↔ (after AuthoritativeMatch.call created
          calls).tickets.tickets[participant.ticket]? ≠ none)) ∧
    (∀ call time, observedAt call = some time → expiryOf reservation now ≤ time →
      ((after AuthoritativeMatch.call created calls).call call).1.Settled) ∧
    ((replies AuthoritativeMatch.call created calls).map told).sum ≤ 1 ∧
    (∀ call, told ((after AuthoritativeMatch.call created calls).call call).2 ≠ 0 →
      ∀ between later, ∃ answer, ((after AuthoritativeMatch.call created
        (calls ++ call :: between)).call later).2 = .ok answer ∧ Quiet answer) ∧
    (∀ call player, (after AuthoritativeMatch.call created calls).Opens call player →
      (∃ participant, participant.player = player ∧
        Entitled reservation now call participant) ∧
      ∀ between later other, (after AuthoritativeMatch.call created
        (calls ++ call :: between)).Opens later other → ticketOf call ≠ ticketOf later) ∧
    ∀ player, (∃ session, (after AuthoritativeMatch.call created
        calls).sessions[player]? = some session ∧ session.connected = true) ↔
      (after AuthoritativeMatch.call created
        calls).replicator.recipients.contains player = true := by
  have hholds := (create_fresh h).holds
  have hrun := hholds.stays calls
  refine ⟨fun slot hslot => ?_, fun call time htime hexpiry => ?_, ?_, fun call htold between
    later => ?_, fun call player hopens => ⟨hrun.entitled hopens, fun between later other
      hlater => ?_⟩, fun player => ?_⟩
  · have hplayer : slot.player ∈ reservation.participants.map ReservedParticipant.player :=
      hrun.players.mem_iff.mp (List.mem_map_of_mem hslot)
    obtain ⟨participant, hmem, hsame⟩ := List.mem_map.mp hplayer
    refine ⟨participant, hmem, hsame, ?_⟩
    have hfound := ParticipantRoster.find_eq_some.mpr ⟨hslot, rfl⟩
    have hpending := hrun.pending_iff hmem
    rw [hsame, ParticipantRoster.stateOf_of_find hfound, Option.some_inj] at hpending
    exact hpending
  · exact hrun.toLawful.call_settled htime (hrun.expiry ▸ hexpiry)
  · have htold := told_run hholds.toLawful calls
    have hone : created.remaining ≤ 1 := by
      unfold remaining
      split
      · exact Nat.zero_le 1
      · exact le_rfl
    omega
  · rw [after_append]
    exact told_quiet hrun.toLawful htold between later
  · rw [after_append] at hlater
    exact hrun.opens_once hopens between hlater
  · have hrecipients := hrun.recipients player
    unfold SnapshotReplicator.controlled at hrecipients
    rw [Option.isSome_map, ← Std.ExtTreeMap.contains_eq_isSome_getElem?] at hrecipients
    rw [hrecipients]
    unfold Connected seats
    constructor
    · rintro ⟨session, hsession, hconnected⟩
      exact ⟨session.seat, by rw [hsession]; rfl, hconnected⟩
    · rintro ⟨seat, hseat, hconnected⟩
      obtain ⟨session, hsession, rfl⟩ := Option.map_eq_some_iff.mp hseat
      exact ⟨session, hsession, hconnected⟩

/-! ### A match of two -/

section Duel

def duelTicket (byte : UInt8) : MatchTicketValue :=
  .repeating byte

def duelReservation : ReserveMatch where
  reservation := ⟨1⟩
  matchId := ⟨7⟩
  participants := [⟨⟨1⟩, duelTicket 1⟩, ⟨⟨2⟩, duelTicket 2⟩]

/-- The square arena in coarse cells. -/
def duelArena : ArenaMapDefinition :=
  { survivalArenaMapDefinition with gridCellSize := 256 }

def duelMatch : Except Exception AuthoritativeMatch :=
  @create seriesTrigonometry duelReservation duelArena OfflineMatch.duelConfig 0 {}

/-- The first participant comes, the second one comes too late, and the first one leaves. -/
def duelCalls : List AuthoritativeCall :=
  [.authenticate ⟨1⟩ ⟨⟨7⟩, ⟨1⟩, duelTicket 1⟩ (some (.repeating 3)) 1000,
   .authenticate ⟨2⟩ ⟨⟨7⟩, ⟨2⟩, duelTicket 2⟩ (some (.repeating 4))
    (expiryOf duelReservation 0),
   .disconnect ⟨1⟩, .advance (expiryOf duelReservation 0 + 1)]

theorem duelMatch_runs : duelMatch.toOption.any (fun created =>
    (after AuthoritativeMatch.call created duelCalls).terminal &&
      (after AuthoritativeMatch.call created duelCalls).roster.slots.any fun slot =>
        decide (slot.player = ⟨2⟩ ∧ slot.state = .unavailable ∧ duelTicket 2 ∉
          (after AuthoritativeMatch.call created duelCalls).tickets.usedTickets)) = true := by
  decide +kernel

/-- The rule for the match of two. -/
theorem match_life_cycle_duel : ∃ created, duelMatch = .ok created ∧
    (after AuthoritativeMatch.call created duelCalls).terminal = true ∧
    ((replies AuthoritativeMatch.call created duelCalls).map told).sum ≤ 1 ∧
    ∀ player, (∃ session, (after AuthoritativeMatch.call created
        duelCalls).sessions[player]? = some session ∧ session.connected = true) ↔
      (after AuthoritativeMatch.call created
        duelCalls).replicator.recipients.contains player = true := by
  obtain ⟨created, hcreated, hruns⟩ := except_any duelMatch_runs
  have hrules := @match_life_cycle duelReservation _ 0 seriesTrigonometry duelArena _ created
    hcreated duelCalls
  exact ⟨created, hcreated, (Bool.and_eq_true_iff.mp hruns).1, hrules.2.2.1,
    hrules.2.2.2.2.2⟩

/-- The ticket of the second participant was not consumed, but its slot is pending no more. -/
theorem duelMatch_expires : ∃ created, duelMatch = .ok created ∧
    ∃ slot ∈ (after AuthoritativeMatch.call created duelCalls).roster.slots,
      slot.player = ⟨2⟩ ∧ slot.state ≠ .pending ∧ duelTicket 2 ∉
        (after AuthoritativeMatch.call created duelCalls).tickets.usedTickets := by
  obtain ⟨created, hcreated, hruns⟩ := except_any duelMatch_runs
  obtain ⟨slot, hslot, htest⟩ := List.any_eq_true.mp (Bool.and_eq_true_iff.mp hruns).2
  obtain ⟨hplayer, hstate, hunused⟩ := of_decide_eq_true htest
  refine ⟨created, hcreated, slot, hslot, hplayer, ?_, hunused⟩
  rw [hstate]
  decide

end Duel

end AuthoritativeMatch

end SurvivalArena
