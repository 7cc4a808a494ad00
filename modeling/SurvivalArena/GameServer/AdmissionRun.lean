import SurvivalArena.GameServer.MatchAdmission

/-!
# Runs of a match

A match waits no longer than its tickets do, is quiet once it is over, and each ticket opens
one session at most.
-/

namespace SurvivalArena

open KeyedList Machine OrderedMap

namespace AuthoritativeMatch

variable {game : AuthoritativeMatch}

/-! ## Expiry and the end -/

/-- The time at which a call looks for expired tickets. -/
def observedAt : AuthoritativeCall → Option TimePoint
  | .authenticate _ _ _ now => some now
  | .advance now => some now
  | .receiveClientDatagram _ _ => none
  | .disconnect _ => none

theorem Lawful.call_settled (h : game.Lawful) {call : AuthoritativeCall} {now : TimePoint}
    (hnow : observedAt call = some now) (hexpiry : game.ticketExpiresAt ≤ now) :
    (game.call call).1.Settled := by
  have hsettled : ({ game with lastObservedTime := now }.expirePending now {}).1.Settled :=
    (h.observe now).expirePending_settled hexpiry {}
  cases call with
  | authenticate connection hello drawn time =>
    obtain rfl : time = now := Option.some.inj hnow
    obtain ⟨result, hresult, hcases⟩ := authenticate_cases h connection hello drawn time
    exact (hcases.lawful (h.observe_expirePending time).lawful).tells.settled hsettled
  | receiveClientDatagram peer datagram => cases hnow
  | disconnect connection => cases hnow
  | advance time =>
    obtain rfl : time = now := Option.some.inj hnow
    show (game.advance time).1.Settled
    unfold AuthoritativeMatch.advance
    dsimp only
    split
    next hterminal => exact .inr hterminal
    · split
      next hstarted => exact (advanceStarted_goes time).settled (.inl hstarted)
      next =>
        refine attempt_induct (P := fun call => Settled call.1) (fun _ _ => hsettled)
          fun result _ => ?_
        split
        · exact hsettled
        · exact (advanceStarted_goes time).settled hsettled

theorem resolveStart_terminal (hterminal : game.terminal = true) (now : TimePoint)
    (result : AuthoritativeMatchResult) :
    game.resolveStart now result = (game, .ok result) := by
  unfold resolveStart
  rw [hterminal, Bool.or_true, Bool.true_or, if_pos rfl]

/-- What the calls of a match that is over answer. -/
structure Quiet (result : AuthoritativeMatchResult) : Prop where
  udp : result.udp = []
  control : result.control = []
  tcp : ∀ outbound ∈ result.tcp, outbound.message = .error .authenticationFailed

theorem Lawful.call_quiet (h : game.Lawful) (hterminal : game.terminal = true)
    (call : AuthoritativeCall) : ∃ result, (game.call call).2 = .ok result ∧ Quiet result := by
  have hstamped : ∀ game : AuthoritativeMatch, Quiet (game.stamp {}) := fun game =>
    ⟨rfl, rfl, nofun⟩
  cases call with
  | authenticate connection hello drawn now =>
    obtain ⟨result, hresult, hcases⟩ := authenticate_cases h connection hello drawn now
    have hwaits : { game with lastObservedTime := now }.expirePending now {} =
        ({ game with lastObservedTime := now }.expired now, .ok {}) := by
      rw [expirePending_eq]
      refine resolveStart_terminal ?_ now {}
      exact hterminal
    rw [hwaits] at hresult hcases
    obtain rfl := Except.ok.inj hresult
    show ∃ result, (game.authenticate connection hello drawn now).2 = _ ∧ _
    generalize game.authenticate connection hello drawn now = call at hcases ⊢
    cases hcases with
    | refused =>
      refine ⟨_, rfl, rfl, rfl, fun outbound hmem => ?_⟩
      rw [List.mem_singleton.mp hmem]
    | opened record actor hlive _ _ _ _ _ _ _ _ _ =>
      exact nomatch hterminal.symm.trans hlive.1
  | receiveClientDatagram peer datagram =>
    refine ⟨game.stamp {}, ?_, hstamped game⟩
    show (game.receiveClientDatagram peer datagram).2 = _
    unfold AuthoritativeMatch.receiveClientDatagram
    rw [hterminal, Bool.true_or, if_pos rfl]
  | disconnect connection =>
    refine ⟨game.stamp {}, ?_, hstamped game⟩
    show (game.disconnect connection).2 = _
    unfold AuthoritativeMatch.disconnect
    split
    · rfl
    · rw [if_pos hterminal]
  | advance now =>
    refine ⟨game.stamp {}, ?_, hstamped game⟩
    show (game.advance now).2 = _
    unfold AuthoritativeMatch.advance
    dsimp only
    rw [if_pos hterminal]
    rfl

/-! ## Tickets over a call -/

/-- The tickets that wait are among those that waited, and what was used stays used. -/
structure Spends (before after : AuthoritativeMatch) : Prop where
  matchId : after.matchId = before.matchId
  expiry : after.ticketExpiresAt = before.ticketExpiresAt
  players : after.roster.players = before.roster.players
  waiting : ∀ (ticket : MatchTicketValue) (record : TicketRecord),
    after.tickets.tickets[ticket]? = some record → before.tickets.tickets[ticket]? = some record
  used : ∀ ticket ∈ before.tickets.usedTickets, ticket ∈ after.tickets.usedTickets

theorem Spends.refl (game : AuthoritativeMatch) : Spends game game :=
  ⟨rfl, rfl, rfl, fun _ _ => id, fun _ => id⟩

theorem Spends.trans {middle after : AuthoritativeMatch} (hfirst : Spends game middle)
    (hsecond : Spends middle after) : Spends game after where
  matchId := hsecond.matchId.trans hfirst.matchId
  expiry := hsecond.expiry.trans hfirst.expiry
  players := hsecond.players.trans hfirst.players
  waiting ticket record h := hfirst.waiting ticket record (hsecond.waiting ticket record h)
  used ticket h := hsecond.used ticket (hfirst.used ticket h)

/-- A part of a call that opens no session. -/
structure Bars (before after : AuthoritativeMatch) : Prop extends Spends before after where
  barred : ∀ player, before.seats player = none → after.seats player = none

theorem Bars.trans {middle after : AuthoritativeMatch} (hfirst : Bars game middle)
    (hsecond : Bars middle after) : Bars game after where
  toSpends := hfirst.toSpends.trans hsecond.toSpends
  barred player h := hsecond.barred player (hfirst.barred player h)

theorem SameSeats.bars {before after : AuthoritativeMatch} (h : SameSeats before after) :
    Bars before after where
  matchId := h.matchId
  expiry := h.expiry
  players := by rw [h.roster]
  waiting ticket record hrecord := by rwa [h.tickets] at hrecord
  used ticket hused := by rwa [h.tickets]
  barred player hnone := by rwa [h.seats]

theorem expirePending_bars (game : AuthoritativeMatch) (now : TimePoint)
    (result : AuthoritativeMatchResult) : Bars game (game.expirePending now result).1 := by
  rw [expirePending_eq]
  have hexpired : Bars game (game.expired now) :=
    ⟨⟨rfl, rfl, ParticipantRoster.players_markAllUnavailable _ game.roster,
      fun _ _ hrecord => (GameTicketStore.getElem?_purgeExpired.mp hrecord).1, fun _ => id⟩,
      fun _ => id⟩
  exact hexpired.trans (resolveStart_goes _ now result).toSameSeats.bars

theorem disconnect_bars (connection : GameConnectionId) :
    Bars game (game.disconnect connection).1 := by
  unfold disconnect
  split
  · exact (SameSeats.refl game).bars
  next player _ =>
    split
    · exact (SameSeats.refl game).bars
    · split
      · exact ⟨⟨rfl, rfl, rfl, fun _ _ => id, fun _ => id⟩, fun _ => id⟩
      next session hsession =>
        have hdropped : Bars game (game.dropSession connection player session) := by
          refine ⟨⟨rfl, rfl, ParticipantRoster.players_markUnavailable game.roster player,
            fun _ _ => id, fun _ => id⟩, fun other hnone => ?_⟩
          show ((game.sessions.insert player _)[other]?).map _ = none
          rw [getElem?_insert]
          split
          next hother =>
            rw [hother, seats_of_session hsession] at hnone
            cases hnone
          next => exact hnone
        refine hdropped.trans ?_
        dsimp only
        generalize game.dropSession connection player session = dropped
        split
        · exact (stampCall_goes (resolveStart_goes dropped _ {})).toSameSeats.bars
        · split
          · have hfinished : Goes dropped {} _ := finishWithoutWinner_goes .noConnectedPlayers
            exact (stampCall_goes hfinished).toSameSeats.bars
          · cases dropped.roster.actorFor player with
            | error e => exact (SameSeats.refl dropped).bars
            | ok actor => exact ⟨⟨rfl, rfl, rfl, fun _ _ => id, fun _ => id⟩, fun _ => id⟩

theorem advance_bars (now : TimePoint) : Bars game (game.advance now).1 := by
  have hstarted : ∀ (game : AuthoritativeMatch) (result : AuthoritativeMatchResult),
      Bars game (game.advanceStarted now result).1 := fun game result =>
    (advanceStarted_goes now).toSameSeats.bars
  have hobserved : Bars game { game with lastObservedTime := now } :=
    ⟨⟨rfl, rfl, rfl, fun _ _ => id, fun _ => id⟩, fun _ => id⟩
  unfold advance
  refine hobserved.trans ?_
  generalize { game with lastObservedTime := now } = observed
  dsimp only
  split
  · exact (SameSeats.refl observed).bars
  · split
    · exact hstarted observed {}
    · have hexpired := expirePending_bars observed now {}
      generalize observed.expirePending now {} = expired at hexpired ⊢
      refine hexpired.trans ?_
      cases expired.2 with
      | error e => exact (SameSeats.refl expired.1).bars
      | ok result =>
        dsimp only [attempt]
        split
        · exact (SameSeats.refl expired.1).bars
        · exact hstarted expired.1 result

/-- An opening uses no other ticket and gives no other player a session. -/
theorem openSession_frame (game : AuthoritativeMatch) (connection : GameConnectionId)
    (hello : GameClientHello) (actor : EntityId) (drawn : Option UdpSessionToken) (now : TimePoint)
    (result : AuthoritativeMatchResult) (hnone : game.sessions[hello.player]? = none) :
    Spends game (game.openSession connection hello actor drawn now result).1 ∧
      ∀ player, player ≠ hello.player →
        (game.openSession connection hello actor drawn now result).1.seats player =
          game.seats player := by
  have hunavailable : ∀ (roster : ParticipantRoster) (result : AuthoritativeMatchResult),
      roster.players = game.roster.players →
      Spends game (({ game with roster }.markUnavailable hello.player).resolveStart now
          result).1 ∧ ∀ player, player ≠ hello.player →
        (({ game with roster }.markUnavailable hello.player).resolveStart now result).1.seats
          player = game.seats player := by
    intro roster result hplayers
    have hresolved := resolveStart_goes ({ game with roster }.markUnavailable hello.player) now
      result
    have hmarked : Spends game ({ game with roster }.markUnavailable hello.player) :=
      ⟨rfl, rfl, (ParticipantRoster.players_markUnavailable roster _).trans hplayers,
        fun _ _ => id, fun _ => id⟩
    exact ⟨hmarked.trans hresolved.toSameSeats.bars.toSpends, fun player _ =>
      congrFun hresolved.seats player⟩
  unfold AuthoritativeMatch.openSession
  split
  · exact hunavailable game.roster _ rfl
  next token _ =>
    have hplayers := ParticipantRoster.players_authenticate game.roster hello.player connection
      token
    generalize game.roster.authenticate hello.player connection token = answer at hplayers ⊢
    obtain ⟨roster, authenticated⟩ := answer
    dsimp only at hplayers ⊢
    split
    · unfold welcomeSession
      dsimp only
      have hadmitted : ∀ replicator : SnapshotReplicator,
          Spends game { game with
            roster
            sessions := game.sessions.insertIfNew hello.player { connection, token }
            connections := game.connections.insertIfNew connection hello.player
            replicator } := fun replicator =>
        ⟨rfl, rfl, hplayers, fun _ _ => id, fun _ => id⟩
      have hothers : ∀ (replicator : SnapshotReplicator) (player : PlayerId),
          player ≠ hello.player → seats { game with
            roster
            sessions := game.sessions.insertIfNew hello.player { connection, token }
            connections := game.connections.insertIfNew connection hello.player
            replicator } player = game.seats player := by
        intro replicator player hne
        show ((game.sessions.insertIfNew hello.player _)[player]?).map _ = _
        rw [getElem?_insertIfNew _ hnone, if_neg hne]
        rfl
      cases (game.replicator.registerRecipient hello.player actor).2 with
      | error e => exact ⟨hadmitted _, hothers _⟩
      | ok _ =>
        have hresolved := resolveStart_goes { game with
          roster
          sessions := game.sessions.insertIfNew hello.player { connection, token }
          connections := game.connections.insertIfNew connection hello.player
          replicator := (game.replicator.registerRecipient hello.player actor).1 } now
        refine ⟨(hadmitted _).trans (hresolved _).toSameSeats.bars.toSpends, fun player hne => ?_⟩
        exact (congrFun (hresolved _).seats player).trans (hothers _ player hne)
    · exact hunavailable roster _ hplayers

/-- A call gives a participant a session. -/
def Opens (game : AuthoritativeMatch) (call : AuthoritativeCall) (player : PlayerId) : Prop :=
  game.sessions[player]? = none ∧ (game.call call).1.sessions[player]? ≠ none

/-- What an authentication that opens a session has shown. -/
structure Shows (game : AuthoritativeMatch) (call : AuthoritativeCall) (player : PlayerId)
    (ticket : MatchTicketValue) : Prop where
  asked : ∃ connection hello drawn now, call = .authenticate connection hello drawn now ∧
    hello.player = player ∧ hello.ticket = ticket ∧ hello.matchId = game.matchId ∧
    now < game.ticketExpiresAt
  waited : ∃ record, game.tickets.tickets[ticket]? = some record ∧ record.player = player
  unused : ticket ∉ game.tickets.usedTickets
  spent : ticket ∈ (game.call call).1.tickets.usedTickets

theorem seats_eq_none {player : PlayerId} :
    game.seats player = none ↔ game.sessions[player]? = none :=
  Option.map_eq_none_iff

theorem Bars.not_opens {call : AuthoritativeCall} {player : PlayerId}
    (h : Bars game (game.call call).1) : ¬ game.Opens call player := fun hopens =>
  hopens.2 (seats_eq_none.mp (h.barred player (seats_eq_none.mpr hopens.1)))

theorem stampCall_state (call : MatchAnswer) : (stampCall call).1 = call.1 :=
  attempt_keeps id rfl fun _ => rfl

/-- An authentication opens a session for the player of its ticket only. -/
theorem Authenticates.spends {connection : GameConnectionId} {hello : GameClientHello}
    {drawn : Option UdpSessionToken} {now : TimePoint} {result : AuthoritativeMatchResult}
    {call : MatchAnswer} (hcall : Authenticates game connection hello drawn now result call) :
    Spends game call.1 ∧ ∀ player, game.seats player = none → call.1.seats player ≠ none →
      player = hello.player ∧ hello.ticket ∉ game.tickets.usedTickets ∧
        (∃ record, game.tickets.tickets[hello.ticket]? = some record ∧
          now < record.expiresAt ∧ record.matchId = hello.matchId ∧
          record.player = hello.player) ∧
        hello.ticket ∈ call.1.tickets.usedTickets := by
  cases hcall with
  | refused => exact ⟨.refl game, fun player hnone hsome => absurd hnone hsome⟩
  | opened record actor _ hunused hrecord htime hmatch hplayer _ _ _ hnone =>
    rw [stampCall_state]
    have hconsumed : Spends game { game with tickets := {
        tickets := game.tickets.tickets.erase hello.ticket
        usedTickets := hello.ticket :: game.tickets.usedTickets } } := by
      refine ⟨rfl, rfl, rfl, fun ticket record hrecord => ?_, fun ticket =>
        List.mem_cons_of_mem hello.ticket⟩
      rw [getElem?_erase] at hrecord
      split at hrecord
      · cases hrecord
      · exact hrecord
    have hused : hello.ticket ∈ hello.ticket :: game.tickets.usedTickets := List.mem_cons_self
    have hfacts : ∀ tickets : GameTicketStore, Spends game { game with tickets } →
        hello.ticket ∈ tickets.usedTickets →
        Spends game ({ game with tickets }.openSession connection hello actor drawn now
          result).1 ∧ ∀ player, game.seats player = none →
          ({ game with tickets }.openSession connection hello actor drawn now result).1.seats
            player ≠ none → player = hello.player ∧ hello.ticket ∈
          ({ game with tickets }.openSession connection hello actor drawn now
            result).1.tickets.usedTickets := by
      intro tickets hspends hticket
      have hframe := openSession_frame { game with tickets } connection hello actor
        drawn now result hnone
      refine ⟨hspends.trans hframe.1, fun player hbefore hafter =>
        ⟨?_, hframe.1.used hello.ticket hticket⟩⟩
      by_contra hother
      exact hafter ((hframe.2 player hother).trans hbefore)
    obtain ⟨hopened, hothers⟩ := hfacts _ hconsumed hused
    refine ⟨hopened, fun player hbefore hafter => ?_⟩
    obtain ⟨hsame, hspent⟩ := hothers player hbefore hafter
    exact ⟨hsame, hunused, ⟨record, hrecord, htime, hmatch, hplayer⟩, hspent⟩

theorem Lawful.call_spends (h : game.Lawful) (call : AuthoritativeCall) :
    Spends game (game.call call).1 ∧
      ∀ player, game.Opens call player → ∃ ticket, game.Shows call player ticket := by
  cases call with
  | receiveClientDatagram peer datagram =>
    have hsame : Goes game {} _ := receiveClientDatagram_goes peer datagram
    have hbars := hsame.toSameSeats.bars
    exact ⟨hbars.toSpends, fun player hopens => absurd hopens hbars.not_opens⟩
  | advance now =>
    have hbars : Bars game _ := advance_bars now
    exact ⟨hbars.toSpends, fun player hopens => absurd hopens hbars.not_opens⟩
  | disconnect connection =>
    have hbars : Bars game _ := disconnect_bars connection
    exact ⟨hbars.toSpends, fun player hopens => absurd hopens hbars.not_opens⟩
  | authenticate connection hello drawn now =>
    obtain ⟨result, hresult, hcases⟩ := authenticate_cases h connection hello drawn now
    have hobserved : Bars game { game with lastObservedTime := now } :=
      ⟨⟨rfl, rfl, rfl, fun _ _ => id, fun _ => id⟩, fun _ => id⟩
    have hexpired := hobserved.trans (expirePending_bars _ now {})
    have hlawful := (h.observe_expirePending now).lawful
    generalize ({ game with lastObservedTime := now }.expirePending now {}).1 = expired
      at hcases hexpired hlawful
    obtain ⟨hspends, hopened⟩ := hcases.spends
    refine ⟨hexpired.toSpends.trans hspends, fun player hopens => ⟨hello.ticket, ?_⟩⟩
    have hnone := hexpired.barred player (seats_eq_none.mpr hopens.1)
    have hseated : (game.authenticate connection hello drawn now).1.seats player ≠ none :=
      fun hsame => hopens.2 (seats_eq_none.mp hsame)
    obtain ⟨rfl, hunused, ⟨record, hrecord, htime, hmatch, hplayer⟩, hspent⟩ :=
      hopened player hnone hseated
    have hsound := hlawful.tickets.record hello.ticket record hrecord
    have hbefore := hexpired.waiting hello.ticket record hrecord
    refine ⟨⟨connection, hello, drawn, now, rfl, rfl, rfl, ?_, ?_⟩, ⟨record, hbefore, hplayer⟩,
      fun hused => hunused (hexpired.used hello.ticket hused), hspent⟩
    · rw [← hmatch, hsound.1, hexpired.matchId]
    · rw [hsound.2, hexpired.expiry] at htime
      exact htime

end AuthoritativeMatch

end SurvivalArena
