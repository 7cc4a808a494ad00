import SurvivalArena.GameServer.AuthoritativeMatch
import SurvivalArena.Replication.ReplicatorStep

/-!
# What the calls of a match leave alone

The seats of the participants change with authentication, expiry and disconnection only; the
phase of the match moves from waiting to started to terminal, and its end is told once.
-/

namespace SurvivalArena

def WorkerToLobbyMessage.finishes : WorkerToLobbyMessage → Bool
  | .finished _ => true
  | _ => false

/-- How often a result tells the end of the match. -/
def AuthoritativeMatchResult.finishes (result : AuthoritativeMatchResult) : Nat :=
  result.control.countP WorkerToLobbyMessage.finishes

/-- What the seat of a participant depends on. -/
structure Seat where
  connection : GameConnectionId
  token : UdpSessionToken
  connected : Bool

def PlayerSession.seat (session : PlayerSession) : Seat :=
  ⟨session.connection, session.token, session.connected⟩

/-- The actor that a recipient controls. -/
def SnapshotReplicator.controlled (replicator : SnapshotReplicator) (player : PlayerId) :
    Option EntityId :=
  (replicator.recipients[player]?).map Recipient.controlledActor

namespace AuthoritativeMatch

def seats (game : AuthoritativeMatch) (player : PlayerId) : Option Seat :=
  (game.sessions[player]?).map PlayerSession.seat

/-- The participants have the seats they had. -/
structure SameSeats (before after : AuthoritativeMatch) : Prop where
  matchId : after.matchId = before.matchId
  expiry : after.ticketExpiresAt = before.ticketExpiresAt
  roster : after.roster = before.roster
  tickets : after.tickets = before.tickets
  connections : after.connections = before.connections
  seats : after.seats = before.seats
  controlled : after.replicator.controlled = before.replicator.controlled

/-- One until the end of the match is told. -/
def remaining (game : AuthoritativeMatch) : Nat :=
  if game.terminal then 0 else 1

def Settled (game : AuthoritativeMatch) : Prop :=
  game.started = true ∨ game.terminal = true

/-- A match that waits can be started. -/
structure Ready (game : AuthoritativeMatch) : Prop where
  active : game.simulation.isActive = true
  snapshot : ∃ snapshot, game.simulation.snapshot = .ok snapshot
  idle : game.scheduler.epoch = none

structure Phased (game : AuthoritativeMatch) : Prop where
  exclusive : game.started = true → game.terminal = false
  ready : ¬ game.Settled → game.Ready

structure SamePhase (before after : AuthoritativeMatch) : Prop where
  started : after.started = before.started
  terminal : after.terminal = before.terminal

/-- A part of a call that leaves the seats and the phase. -/
structure Keeps (before after : AuthoritativeMatch) : Prop
    extends SameSeats before after, SamePhase before after

/-- A part of a call with what it answers: the match moves on, and its end is told when it
becomes terminal. -/
structure Tells (game : AuthoritativeMatch) (result : AuthoritativeMatchResult)
    (call : MatchAnswer) : Prop where
  ended : game.terminal = true → call.1.terminal = true
  settled : game.Settled → call.1.Settled
  exclusive : (game.started = true → game.terminal = false) →
    call.1.started = true → call.1.terminal = false
  told : ∀ final, call.2 = .ok final →
    final.finishes + call.1.remaining = result.finishes + game.remaining

structure Goes (game : AuthoritativeMatch) (result : AuthoritativeMatchResult)
    (call : MatchAnswer) : Prop extends SameSeats game call.1, Tells game result call

section Composition

variable {game middle after : AuthoritativeMatch} {result : AuthoritativeMatchResult}
  {call : MatchAnswer}

theorem SameSeats.refl (game : AuthoritativeMatch) : SameSeats game game :=
  ⟨rfl, rfl, rfl, rfl, rfl, rfl, rfl⟩

theorem SameSeats.trans (hfirst : SameSeats game middle) (hsecond : SameSeats middle after) :
    SameSeats game after where
  matchId := hsecond.matchId.trans hfirst.matchId
  expiry := hsecond.expiry.trans hfirst.expiry
  roster := hsecond.roster.trans hfirst.roster
  tickets := hsecond.tickets.trans hfirst.tickets
  connections := hsecond.connections.trans hfirst.connections
  seats := hsecond.seats.trans hfirst.seats
  controlled := hsecond.controlled.trans hfirst.controlled

theorem SamePhase.refl (game : AuthoritativeMatch) : SamePhase game game :=
  ⟨rfl, rfl⟩

theorem Keeps.refl (game : AuthoritativeMatch) : Keeps game game :=
  ⟨.refl game, .refl game⟩

theorem Keeps.trans (hfirst : Keeps game middle) (hsecond : Keeps middle after) :
    Keeps game after where
  toSameSeats := hfirst.toSameSeats.trans hsecond.toSameSeats
  started := hsecond.started.trans hfirst.started
  terminal := hsecond.terminal.trans hfirst.terminal

theorem SamePhase.remaining (h : SamePhase game after) : after.remaining = game.remaining := by
  unfold AuthoritativeMatch.remaining
  rw [h.terminal]

theorem SamePhase.settled (h : SamePhase game after) (hsettled : game.Settled) :
    after.Settled := by
  rcases hsettled with hstarted | hterminal
  · exact .inl (h.started.trans hstarted)
  · exact .inr (h.terminal.trans hterminal)

/-- Parts of a call one after the other. -/
theorem Keeps.attempt {α β : Type} {step : Except Exception α}
    {next : α → AuthoritativeMatch × Except Exception β} (hfirst : Keeps game middle)
    (hnext : ∀ a, step = .ok a → Keeps middle (next a).1) :
    Keeps game (attempt middle step next).1 := by
  cases step with
  | error e => exact hfirst
  | ok a => exact hfirst.trans (hnext a rfl)

theorem SamePhase.tells (h : SamePhase game after) : Tells game result (after, .ok result) where
  ended hended := h.terminal.trans hended
  settled := h.settled
  exclusive hexclusive hstarted :=
    h.terminal.trans (hexclusive (h.started.symm.trans hstarted))
  told final hfinal := by
    cases hfinal
    rw [h.remaining]

theorem SamePhase.tells_error (h : SamePhase game after) (e : Exception) :
    Tells game result (after, .error e) where
  ended hended := h.terminal.trans hended
  settled := h.settled
  exclusive hexclusive hstarted :=
    h.terminal.trans (hexclusive (h.started.symm.trans hstarted))
  told := nofun

/-- A call after a part that leaves the phase. -/
theorem SamePhase.tells_after (hfirst : SamePhase game middle)
    (hnext : Tells middle result call) : Tells game result call where
  ended hended := hnext.ended (hfirst.terminal.trans hended)
  settled hsettled := hnext.settled (hfirst.settled hsettled)
  exclusive hexclusive := hnext.exclusive fun hstarted =>
    hfirst.terminal.trans (hexclusive (hfirst.started.symm.trans hstarted))
  told final hfinal := by
    rw [hnext.told final hfinal, hfirst.remaining]

/-- The rest of a call after a part that returned. -/
theorem Tells.trans {final : AuthoritativeMatchResult}
    (hfirst : Tells game result (middle, .ok final)) (hnext : Tells middle final call) :
    Tells game result call where
  ended hended := hnext.ended (hfirst.ended hended)
  settled hsettled := hnext.settled (hfirst.settled hsettled)
  exclusive hexclusive := hnext.exclusive (hfirst.exclusive hexclusive)
  told last hlast := (hnext.told last hlast).trans (hfirst.told final rfl)

theorem Tells.attempt {next : AuthoritativeMatchResult → MatchAnswer}
    (hfirst : Tells game result call)
    (hnext : ∀ final, call.2 = .ok final → Tells call.1 final (next final)) :
    Tells game result (SurvivalArena.attempt call.1 call.2 next) := by
  obtain ⟨middle, step⟩ := call
  cases step with
  | error e => exact ⟨hfirst.ended, hfirst.settled, hfirst.exclusive, nofun⟩
  | ok final => exact hfirst.trans (hnext final rfl)

/-- An answer with the same control messages. -/
theorem Tells.answer {before : AuthoritativeMatchResult} (h : Tells game result call)
    (hsame : result.control = before.control) : Tells game before call where
  ended := h.ended
  settled := h.settled
  exclusive := h.exclusive
  told final hfinal := by
    rw [h.told final hfinal]
    unfold AuthoritativeMatchResult.finishes
    rw [hsame]

theorem Keeps.goes (h : Keeps game after) : Goes game result (after, .ok result) :=
  ⟨h.toSameSeats, h.toSamePhase.tells⟩

theorem Keeps.goes_error (h : Keeps game after) (e : Exception) :
    Goes game result (after, .error e) :=
  ⟨h.toSameSeats, h.toSamePhase.tells_error e⟩

theorem Goes.after_keeps (hfirst : Keeps game middle) (hnext : Goes middle result call) :
    Goes game result call :=
  ⟨hfirst.toSameSeats.trans hnext.toSameSeats, hfirst.toSamePhase.tells_after hnext.toTells⟩

theorem Keeps.attempt_goes {α : Type} {step : Except Exception α} {next : α → MatchAnswer}
    (hfirst : Keeps game middle) (hnext : ∀ a, step = .ok a → Goes middle result (next a)) :
    Goes game result (SurvivalArena.attempt middle step next) := by
  cases step with
  | error e => exact hfirst.goes_error e
  | ok a => exact .after_keeps hfirst (hnext a rfl)

theorem Goes.attempt {next : AuthoritativeMatchResult → MatchAnswer}
    (hfirst : Goes game result call)
    (hnext : ∀ final, call.2 = .ok final → Goes call.1 final (next final)) :
    Goes game result (SurvivalArena.attempt call.1 call.2 next) := by
  refine ⟨?_, hfirst.toTells.attempt fun final hfinal => (hnext final hfinal).toTells⟩
  cases hcall : call.2 with
  | error e => exact hfirst.toSameSeats
  | ok final => exact hfirst.toSameSeats.trans (hnext final hcall).toSameSeats

theorem Goes.answer {before : AuthoritativeMatchResult} (h : Goes game result call)
    (hsame : result.control = before.control) : Goes game before call :=
  ⟨h.toSameSeats, h.toTells.answer hsame⟩

end Composition

/-! ## The parts of the calls -/

variable {game : AuthoritativeMatch} {result : AuthoritativeMatchResult}

theorem Keeps.of_simulation (game : AuthoritativeMatch) (simulation : OfflineMatch Float32) :
    Keeps game { game with simulation } :=
  ⟨⟨rfl, rfl, rfl, rfl, rfl, rfl, rfl⟩, rfl, rfl⟩

theorem Keeps.of_scheduler (game : AuthoritativeMatch) (scheduler : FixedTickScheduler) :
    Keeps game { game with scheduler } :=
  ⟨⟨rfl, rfl, rfl, rfl, rfl, rfl, rfl⟩, rfl, rfl⟩

theorem Keeps.of_metrics (game : AuthoritativeMatch) (metrics : ServerMatchMetrics) :
    Keeps game { game with metrics } :=
  ⟨⟨rfl, rfl, rfl, rfl, rfl, rfl, rfl⟩, rfl, rfl⟩

theorem Keeps.of_replicator (game : AuthoritativeMatch) {replicator : SnapshotReplicator}
    (h : replicator.controlled = game.replicator.controlled) :
    Keeps game { game with replicator } :=
  ⟨⟨rfl, rfl, rfl, rfl, rfl, rfl, h⟩, rfl, rfl⟩

theorem setSession_keeps {player : PlayerId} {session : PlayerSession}
    (h : game.seats player = some session.seat) : Keeps game (game.setSession player session) := by
  refine ⟨⟨rfl, rfl, rfl, rfl, rfl, ?_, rfl⟩, rfl, rfl⟩
  funext other
  show ((game.sessions.insert player session)[other]?).map PlayerSession.seat = _
  rw [OrderedMap.getElem?_insert]
  split
  next hother => rw [hother, h]; rfl
  next => rfl

theorem stampCall_goes {call : MatchAnswer} (h : Goes game result call) :
    Goes game result (stampCall call) :=
  h.attempt fun _ _ => (Keeps.refl call.1).goes.answer rfl

/-- The match is over with one message to the lobby. -/
theorem goes_terminal {final : AuthoritativeMatchResult} (hlive : game.terminal = false)
    (hfinal : final.finishes = result.finishes + 1) :
    Goes game result ({ game with terminal := true, started := false }, .ok final) where
  toSameSeats := ⟨rfl, rfl, rfl, rfl, rfl, rfl, rfl⟩
  ended _ := rfl
  settled _ := .inr rfl
  exclusive _ hstarted := nomatch hstarted
  told last hlast := by
    cases hlast
    rw [hfinal]
    unfold remaining
    rw [hlive]
    rfl

theorem finishes_append (result : AuthoritativeMatchResult) (finished : MatchFinished)
    (tcp : List GameTcpOutbound) :
    AuthoritativeMatchResult.finishes { result with
      tcp
      control := result.control ++ [.finished finished] } = result.finishes + 1 := by
  unfold AuthoritativeMatchResult.finishes
  rw [List.countP_append]
  rfl

theorem finishWithoutWinner_goes (reason : MatchCompletionReason) :
    Goes game result (game.finishWithoutWinner result reason) := by
  unfold finishWithoutWinner
  split
  · exact (Keeps.refl game).goes
  next hlive =>
    refine (Keeps.refl game).attempt_goes fun snapshot _ => ?_
    exact goes_terminal (Bool.eq_false_iff.mpr hlive) (finishes_append result _ result.tcp)

theorem finishFromSimulation_goes :
    Goes game result (game.finishFromSimulation result) := by
  unfold finishFromSimulation
  split
  · exact (Keeps.refl game).goes
  next hlive =>
    refine (Keeps.refl game).attempt_goes fun snapshot _ => ?_
    split
    · exact (Keeps.refl game).goes_error _
    next finished _ =>
      exact goes_terminal (Bool.eq_false_iff.mpr hlive) (finishes_append result _ _)

theorem submitDisconnects_keeps (actors : List ActorId) (game : AuthoritativeMatch) :
    Keeps game (game.submitDisconnects actors).1 := by
  induction actors generalizing game with
  | nil => exact .refl game
  | cons actor actors ih =>
    exact Keeps.attempt (.of_simulation game _) fun _ _ => ih _

theorem submitCommands_keeps (commands : List (MatchCommand Float32))
    (game : AuthoritativeMatch) : Keeps game (game.submitCommands commands).1 := by
  induction commands generalizing game with
  | nil => exact .refl game
  | cons command commands ih =>
    exact Keeps.attempt (.of_simulation game _) fun _ _ => ih _

end AuthoritativeMatch

/-! ## Recipients -/

namespace SnapshotReplicator

variable {replicator : SnapshotReplicator} {player : PlayerId} {recipient : Recipient}

/-- An update of a recipient that keeps its actor. -/
theorem controlled_setRecipient {after : Recipient}
    (hbefore : replicator.recipients[player]? = some recipient)
    (hactor : after.controlledActor = recipient.controlledActor) :
    (replicator.setRecipient player after).controlled = replicator.controlled := by
  funext other
  show ((replicator.recipients.insert player after)[other]?).map _ =
    (replicator.recipients[other]?).map _
  rw [OrderedMap.getElem?_insert]
  split
  next hother => rw [hother, hbefore, Option.map_some, Option.map_some, hactor]
  next => rfl

theorem commitGrid_recipients (replicator : SnapshotReplicator) (snapshotId : UInt32)
    (world : GameSnapshot) (candidate : Option (InterestGrid Float32)) :
    (replicator.commitGrid snapshotId world candidate).recipients = replicator.recipients := by
  cases candidate with
  | none => rfl
  | some grid => rfl

theorem build_controlled (replicator : SnapshotReplicator) (player : PlayerId)
    (snapshotId : UInt32) (world : GameSnapshot) :
    (replicator.build player snapshotId world).1.controlled = replicator.controlled := by
  unfold build
  refine attempt_induct (P := fun call => controlled call.1 = replicator.controlled)
    (fun _ _ => rfl) fun recipient hrecipient => ?_
  have hfound := recipientFor_eq_ok.mp hrecipient
  split
  · rfl
  · split
    · unfold buildFullState
      refine attempt_induct (P := fun call => controlled call.1 = replicator.controlled)
        (fun _ _ => rfl) fun encodedPayload _ => ?_
      exact controlled_setRecipient hfound rfl
    · refine attempt_induct (P := fun call => controlled call.1 = replicator.controlled)
        (fun _ _ => rfl) fun prepared _ => ?_
      have hcommitted : (replicator.commitGrid snapshotId world
          prepared.candidateGrid).recipients[player]? = some recipient := by
        rw [commitGrid_recipients]
        exact hfound
      have hactor : (replicator.builtRecipient recipient snapshotId prepared).controlledActor =
          recipient.controlledActor := rfl
      refine (controlled_setRecipient hcommitted hactor).trans ?_
      unfold controlled
      rw [commitGrid_recipients]

theorem acceptAcknowledgement_controlled (replicator : SnapshotReplicator) (player : PlayerId)
    (snapshotId : UInt32) :
    (replicator.acceptAcknowledgement player snapshotId).1.controlled =
      replicator.controlled := by
  unfold acceptAcknowledgement
  refine attempt_induct (P := fun call => controlled call.1 = replicator.controlled)
    (fun _ _ => rfl) fun recipient hrecipient => ?_
  split
  · rfl
  · split
    · exact controlled_setRecipient (recipientFor_eq_ok.mp hrecipient) rfl
    · rfl

theorem requestKeyframe_controlled (replicator : SnapshotReplicator) (player : PlayerId) :
    (replicator.requestKeyframe player).1.controlled = replicator.controlled := by
  unfold requestKeyframe
  refine attempt_induct (P := fun call => controlled call.1 = replicator.controlled)
    (fun _ _ => rfl) fun recipient hrecipient => ?_
  exact controlled_setRecipient (recipientFor_eq_ok.mp hrecipient) rfl

end SnapshotReplicator

/-! ## Datagrams and ticks -/

namespace AuthoritativeMatch

variable {game : AuthoritativeMatch} {result : AuthoritativeMatchResult}

theorem sessionFor_eq_some {matchId : MatchId} {player : PlayerId} {token : UdpSessionToken}
    {session : PlayerSession} (h : game.sessionFor matchId player token = some session) :
    matchId = game.matchId ∧ game.sessions[player]? = some session ∧
      session.connected = true ∧ session.token = token := by
  unfold sessionFor at h
  split at h
  · cases h
  next hmatch =>
    obtain ⟨hsession, htest⟩ := Option.filter_eq_some_iff.mp h
    rw [Bool.and_eq_true, decide_eq_true_eq] at htest
    exact ⟨not_not.mp hmatch, hsession, htest.1, htest.2⟩

theorem seats_of_session {player : PlayerId} {session : PlayerSession}
    (h : game.sessions[player]? = some session) : game.seats player = some session.seat := by
  unfold seats
  rw [h]
  rfl

theorem setSession_seats (game : AuthoritativeMatch) (player : PlayerId)
    (session : PlayerSession) :
    (game.setSession player session).seats player = some session.seat := by
  refine seats_of_session ?_
  show (game.sessions.insert player session)[player]? = some session
  rw [OrderedMap.getElem?_insert, if_pos rfl]

theorem acceptAcknowledgement_keeps (input : ClientInput) :
    Keeps game (game.acceptAcknowledgement input).1 := by
  unfold acceptAcknowledgement
  split
  · exact .refl game
  · exact .of_replicator game (SnapshotReplicator.acceptAcknowledgement_controlled _ _ _)

theorem requestKeyframe_keeps (input : ClientInput) :
    Keeps game (game.requestKeyframe input).1 := by
  unfold requestKeyframe
  split
  · exact .of_replicator game (SnapshotReplicator.requestKeyframe_controlled _ _)
  · exact .refl game

theorem receiveBind_goes (peer : UdpPeer) (bind : UdpBind) :
    Goes game {} (game.receiveBind peer bind) := by
  unfold receiveBind
  dsimp only
  split
  · exact (Keeps.refl game).goes.answer rfl
  next session hsession =>
    split
    · exact (Keeps.refl game).goes.answer rfl
    · have hseats := seats_of_session (sessionFor_eq_some hsession).2.1
      have hbound : game.seats bind.player =
          some { session with peer := some peer : PlayerSession }.seat := hseats
      exact (setSession_keeps hbound).attempt_goes fun _ _ => (Keeps.refl _).goes.answer rfl

theorem acceptInput_goes {session : PlayerSession} {input : ClientInput}
    (hsession : game.sessions[input.player]? = some session) :
    Goes game {} (game.acceptInput session input) := by
  have hacknowledged : Keeps game _ := acceptAcknowledgement_keeps input
  unfold acceptInput
  refine hacknowledged.attempt_goes fun accepted _ => ?_
  split
  · exact (Keeps.refl _).goes.answer rfl
  · have hrequested : Keeps (game.acceptAcknowledgement input).1 _ := requestKeyframe_keeps input
    refine hrequested.attempt_goes fun _ _ => ?_
    have hkept := hacknowledged.trans hrequested
    have hseats := (congrFun hkept.seats input.player).trans (seats_of_session hsession)
    have hnumbered : ((game.acceptAcknowledgement input).1.requestKeyframe input).1.seats
        input.player = some { session with
          acknowledgedInput := input.inputSequence : PlayerSession }.seat := hseats
    refine (setSession_keeps hnumbered).attempt_goes fun command _ => ?_
    have hagain := setSession_seats ((game.acceptAcknowledgement input).1.requestKeyframe
      input).1 input.player { session with acknowledgedInput := input.inputSequence }
    refine Goes.after_keeps (setSession_keeps ?_) ((Keeps.refl _).goes.answer rfl)
    exact hagain

theorem receiveInput_goes (peer : UdpPeer) (input : ClientInput) :
    Goes game {} (game.receiveInput peer input) := by
  unfold receiveInput
  dsimp only
  split
  · exact (Keeps.refl game).goes.answer rfl
  next session hsession =>
    split
    · exact (Keeps.refl game).goes.answer rfl
    · exact acceptInput_goes (sessionFor_eq_some hsession).2.1

theorem receiveClientDatagram_goes (peer : UdpPeer) (datagram : ClientDatagram) :
    Goes game {} (game.receiveClientDatagram peer datagram) := by
  unfold receiveClientDatagram
  split
  · exact (Keeps.refl game).goes.answer rfl
  · split
    · exact receiveBind_goes peer _
    · exact receiveInput_goes peer _

section Datagrams

variable {γ : Type} {reading : AuthoritativeMatch → γ}

/-- Datagrams leave everything but the sessions and the replicator. -/
theorem receiveClientDatagram_frame
    (hsessions : ∀ game sessions, reading { game with sessions } = reading game)
    (hreplicator : ∀ game replicator, reading { game with replicator } = reading game)
    (game : AuthoritativeMatch) (peer : UdpPeer) (datagram : ClientDatagram) :
    reading (game.receiveClientDatagram peer datagram).1 = reading game := by
  have hacknowledged : ∀ (game : AuthoritativeMatch) (input : ClientInput),
      reading (game.acceptAcknowledgement input).1 = reading game := fun game input => by
    unfold acceptAcknowledgement
    split
    · rfl
    · exact hreplicator game _
  have hrequested : ∀ (game : AuthoritativeMatch) (input : ClientInput),
      reading (game.requestKeyframe input).1 = reading game := fun game input => by
    unfold requestKeyframe
    split
    · exact hreplicator game _
    · rfl
  unfold receiveClientDatagram
  split
  · rfl
  cases datagram with
  | bind bind =>
    show reading (game.receiveBind peer bind).1 = reading game
    unfold receiveBind
    dsimp only
    split
    · rfl
    · split
      · rfl
      · exact attempt_keeps reading (hsessions game _) fun _ => hsessions game _
  | input input =>
    show reading (game.receiveInput peer input).1 = reading game
    unfold receiveInput
    dsimp only
    split
    · rfl
    next session hsession =>
      split
      · rfl
      · unfold acceptInput
        refine attempt_keeps reading (hacknowledged game input) fun accepted => ?_
        split
        · exact hacknowledged game input
        · have hkept := (hrequested (game.acceptAcknowledgement input).1 input).trans
            (hacknowledged game input)
          refine attempt_keeps reading hkept fun _ => ?_
          refine attempt_keeps reading ((hsessions _ _).trans hkept) fun command => ?_
          exact (hsessions _ _).trans ((hsessions _ _).trans hkept)

end Datagrams

theorem emitTo_keeps (game : AuthoritativeMatch) (player : PlayerId) (session : PlayerSession)
    (peer : UdpPeer) (snapshotId serverTick : UInt32) (world : GameSnapshot) :
    Keeps game (game.emitTo player session peer snapshotId serverTick world).1 := by
  unfold emitTo
  refine (Keeps.of_replicator game (SnapshotReplicator.build_controlled _ _ _ _)).attempt
    fun build _ => ?_
  refine (Keeps.refl _).attempt fun fragments _ => ?_
  refine (Keeps.refl _).attempt fun _ _ => ?_
  exact (Keeps.of_metrics _ _).attempt fun _ _ => .refl _

theorem emitToSessions_keeps (snapshotId serverTick : UInt32) (world : GameSnapshot)
    (sessions : List (PlayerId × PlayerSession)) (game : AuthoritativeMatch) :
    Keeps game (game.emitToSessions snapshotId serverTick world sessions).1 := by
  induction sessions generalizing game with
  | nil => exact .refl game
  | cons entry sessions ih =>
    obtain ⟨player, session⟩ := entry
    unfold emitToSessions
    split
    · exact ih game
    · split
      · exact ih game
      · refine (emitTo_keeps game player session _ snapshotId serverTick world).attempt
          fun fragments _ => ?_
        exact (ih _).attempt fun _ _ => .refl _

theorem emitSnapshot_goes : Goes game result (game.emitSnapshot result) := by
  unfold emitSnapshot
  split
  · exact (Keeps.refl game).goes_error _
  · refine (Keeps.refl game).attempt_goes fun simulationSnapshot _ => ?_
    have hcounted : Keeps game { game with nextSnapshotId := game.nextSnapshotId + 1 } :=
      ⟨⟨rfl, rfl, rfl, rfl, rfl, rfl, rfl⟩, rfl, rfl⟩
    refine (hcounted.trans (emitToSessions_keeps _ _ _ _ _)).attempt_goes fun udp _ => ?_
    exact (Keeps.refl _).goes.answer rfl

theorem concludeTick_goes : Goes game result (game.concludeTick result) := by
  unfold concludeTick
  refine (Keeps.refl game).attempt_goes fun snapshot _ => ?_
  have hfinished : Goes game result (if snapshot.result.isSome then
      game.finishFromSimulation result else (game, .ok result)) := by
    split
    · exact finishFromSimulation_goes
    · exact (Keeps.refl game).goes
  refine hfinished.attempt fun answered _ => ?_
  dsimp only
  generalize (if snapshot.result.isSome = true then game.finishFromSimulation result
    else (game, Except.ok result)) = finished
  have hemitted : Goes finished.1 answered (if snapshot.tick % 2 = 0 then
      finished.1.emitSnapshot answered else (finished.1, .ok answered)) := by
    split
    · exact emitSnapshot_goes
    · exact (Keeps.refl _).goes
  refine hemitted.attempt fun emitted _ => ?_
  exact (Keeps.of_metrics _ _).attempt_goes fun _ _ => (Keeps.refl _).goes

theorem submitTick_keeps (game : AuthoritativeMatch) : Keeps game game.submitTick.1 := by
  unfold submitTick
  refine (submitCommands_keeps _ game).attempt fun _ _ => ?_
  refine (submitDisconnects_keeps _ _).attempt fun _ _ => ?_
  exact ⟨⟨rfl, rfl, rfl, rfl, rfl, rfl, rfl⟩, rfl, rfl⟩

theorem tick_goes (game : AuthoritativeMatch) (result : AuthoritativeMatchResult) :
    Goes game result (game.tick result) := by
  unfold tick
  refine (submitTick_keeps game).attempt_goes fun _ _ => ?_
  refine (Keeps.of_simulation _ _).attempt_goes fun _ _ => ?_
  exact Goes.after_keeps (Keeps.of_simulation _ (OfflineMatch.drainEvents _).1)
    (concludeTick_goes.answer rfl)

theorem runTicks_goes (due : Nat) (game : AuthoritativeMatch)
    (result : AuthoritativeMatchResult) : Goes game result (game.runTicks result due) := by
  induction due generalizing game result with
  | zero => exact (Keeps.refl game).goes
  | succ due ih =>
    unfold runTicks
    refine (tick_goes game result).attempt fun final _ => ?_
    split
    · exact (Keeps.refl _).goes
    · exact ih _ final

theorem advanceStarted_goes (now : TimePoint) :
    Goes game result (game.advanceStarted now result) := by
  unfold advanceStarted
  refine (Keeps.of_scheduler game _).attempt_goes fun advance _ => ?_
  refine stampCall_goes ?_
  refine Goes.after_keeps ?_ ((runTicks_goes _ _ _).answer rfl)
  split
  · exact ⟨⟨rfl, rfl, rfl, rfl, rfl, rfl, rfl⟩, rfl, rfl⟩
  · exact .refl _

/-! ## The start -/

/-- Disconnections of an active simulation are queued. -/
theorem submitDisconnects_active (actors : List ActorId) (game : AuthoritativeMatch)
    (h : game.simulation.isActive = true) :
    game.submitDisconnects actors = ({ game with simulation := { game.simulation with
      queuedLifecycleCommands := game.simulation.queuedLifecycleCommands ++
        actors.map fun actor => { actor, reason := .disconnected } } }, .ok ()) := by
  induction actors generalizing game with
  | nil =>
    rw [List.map_nil, List.append_nil]
    rfl
  | cons actor actors ih =>
    unfold submitDisconnects OfflineMatch.submitLifecycle
    dsimp only
    rw [h, if_neg (by decide)]
    dsimp only [attempt]
    rw [ih]
    · dsimp only
      rw [List.map_cons, List.append_assoc]
      rfl
    · exact h

theorem goes_started (h : game.terminal = false) :
    Goes game result ({ game with started := true }, .ok result) where
  toSameSeats := ⟨rfl, rfl, rfl, rfl, rfl, rfl, rfl⟩
  ended := id
  settled _ := .inl rfl
  exclusive _ _ := h
  told final hfinal := by
    cases hfinal
    rfl

theorem resolveStart_goes (game : AuthoritativeMatch) (now : TimePoint)
    (result : AuthoritativeMatchResult) :
    Goes game result (game.resolveStart now result) := by
  unfold resolveStart
  split
  · exact (Keeps.refl game).goes
  next hguard =>
    rw [Bool.or_eq_true, Bool.or_eq_true, not_or, not_or, Bool.not_eq_true,
      Bool.not_eq_true] at hguard
    split
    · exact finishWithoutWinner_goes _
    · refine (Keeps.refl game).attempt_goes fun actors _ => ?_
      have hsubmitted := submitDisconnects_keeps (actors.map fun actor => actor.value) game
      refine hsubmitted.attempt_goes fun _ _ => ?_
      have hscheduled := Keeps.of_scheduler (game.submitDisconnects
        (actors.map fun actor => actor.value)).1
      refine (hscheduled _).attempt_goes fun _ _ => goes_started ?_
      exact hsubmitted.terminal.trans hguard.1.2

theorem actorFor_exists {roster : ParticipantRoster} {player : PlayerId}
    (h : ∃ slot ∈ roster.slots, slot.player = player) :
    ∃ actor, roster.actorFor player = .ok actor := by
  obtain ⟨slot, hslot, hplayer⟩ := h
  refine ⟨slot.actor, ?_⟩
  unfold ParticipantRoster.actorFor
  rw [ParticipantRoster.find_eq_some.mpr ⟨hslot, hplayer⟩]

/-- A match that can be started is started or told to be over once every slot is decided. -/
theorem resolveStart_phased (h : game.Phased) (now : TimePoint)
    (result : AuthoritativeMatchResult) :
    (game.resolveStart now result).1.Phased ∧
      (∃ final, (game.resolveStart now result).2 = .ok final) ∧
      (game.roster.readyToStart = true → (game.resolveStart now result).1.Settled) := by
  have hexclusive := (resolveStart_goes game now result).exclusive h.exclusive
  by_cases hguard : (game.started || game.terminal || !game.roster.readyToStart) = true
  · have hsame : game.resolveStart now result = (game, .ok result) := if_pos hguard
    rw [hsame]
    refine ⟨h, ⟨result, rfl⟩, fun hready => ?_⟩
    rw [hready, Bool.not_true, Bool.or_false, Bool.or_eq_true] at hguard
    exact hguard
  · have hunfolded : game.resolveStart now result = if game.roster.authenticatedCount = 0 then
        game.finishWithoutWinner result .noAuthenticatedPlayers
      else _ := if_neg hguard
    rw [Bool.or_eq_true, Bool.or_eq_true, not_or, not_or] at hguard
    have hready := h.ready (not_or.mpr hguard.1)
    obtain ⟨snapshot, hsnapshot⟩ := hready.snapshot
    suffices hstarts : (∃ final, (game.resolveStart now result).2 = .ok final) ∧
        (game.resolveStart now result).1.Settled from
      ⟨⟨hexclusive, fun hwaits => absurd hstarts.2 hwaits⟩, hstarts.1, fun _ => hstarts.2⟩
    rw [hunfolded]
    split
    · unfold finishWithoutWinner
      rw [if_neg hguard.1.2, hsnapshot]
      exact ⟨⟨_, rfl⟩, .inr rfl⟩
    · obtain ⟨actors, hactors⟩ : ∃ actors,
          game.roster.unavailablePlayers.mapM game.roster.actorFor = .ok actors := by
        refine except_mapM_exists fun player hplayer => ?_
        obtain ⟨slot, hslot, rfl⟩ := List.mem_map.mp hplayer
        exact actorFor_exists ⟨slot, (List.mem_filter.mp hslot).1, rfl⟩
      rw [hactors]
      dsimp only [attempt]
      rw [submitDisconnects_active _ game hready.active]
      dsimp only
      unfold FixedTickScheduler.start
      rw [hready.idle, if_neg (by decide)]
      exact ⟨⟨_, rfl⟩, .inl rfl⟩

/-- Only a match that waits depends on its simulation and its scheduler. -/
theorem Phased.of_settled (hexclusive : game.started = true → game.terminal = false)
    (hsettled : game.Settled) : game.Phased :=
  ⟨hexclusive, fun hwaits => absurd hsettled hwaits⟩

/-- A part of a call that leaves what a waiting match depends on. -/
theorem SamePhase.phased {after : AuthoritativeMatch} (hsame : SamePhase game after)
    (h : game.Phased) (hsimulation : after.simulation = game.simulation)
    (hscheduler : after.scheduler = game.scheduler) : after.Phased where
  exclusive hstarted := hsame.terminal.trans (h.exclusive (hsame.started.symm.trans hstarted))
  ready hwaits := by
    have hready := h.ready fun hsettled => hwaits (hsame.settled hsettled)
    refine ⟨?_, ?_, ?_⟩
    · rw [hsimulation]
      exact hready.active
    · rw [hsimulation]
      exact hready.snapshot
    · rw [hscheduler]
      exact hready.idle

end AuthoritativeMatch

end SurvivalArena
