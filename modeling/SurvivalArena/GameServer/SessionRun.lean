import SurvivalArena.GameServer.AdmissionRun

/-!
# Sessions over the calls of a match

A session that was opened stays.  While it is connected its peer stays the one it was bound to,
and the number of the last input it accepted does not fall.
-/

namespace SurvivalArena

open Machine OrderedMap

namespace AuthoritativeMatch

variable {game : AuthoritativeMatch}

/-! ## The parts of the calls that set no session -/

/-- What holds between the match before and after a part of a call: it is about the sessions
and the replicator only, and a build keeps it. -/
structure Follows (later : AuthoritativeMatch → AuthoritativeMatch → Prop) : Prop where
  same : ∀ {before after : AuthoritativeMatch}, after.sessions = before.sessions →
    after.replicator = before.replicator → later before after
  trans : ∀ {first second third : AuthoritativeMatch}, later first second →
    later second third → later first third
  built : ∀ (game : AuthoritativeMatch) (player : PlayerId) (snapshotId : UInt32)
    (world : GameSnapshot), later game { game with
      replicator := (game.replicator.build player snapshotId world).1 }

namespace Follows

variable {later : AuthoritativeMatch → AuthoritativeMatch → Prop}

theorem refl (h : Follows later) (game : AuthoritativeMatch) : later game game :=
  h.same rfl rfl

theorem of_same (h : Follows later) {before middle after : AuthoritativeMatch}
    (hnext : later middle after) (hsessions : middle.sessions = before.sessions)
    (hreplicator : middle.replicator = before.replicator) : later before after :=
  h.trans (h.same hsessions hreplicator) hnext

/-- Parts of a call one after the other. -/
theorem attempt (h : Follows later) {α β : Type} {middle : AuthoritativeMatch}
    {step : Except Exception α} {next : α → AuthoritativeMatch × Except Exception β}
    (hfirst : later game middle) (hnext : ∀ a, later middle (next a).1) :
    later game (attempt middle step next).1 := by
  cases step with
  | error e => exact hfirst
  | ok a => exact h.trans hfirst (hnext a)

theorem submitDisconnects (h : Follows later) (actors : List ActorId)
    (game : AuthoritativeMatch) : later game (game.submitDisconnects actors).1 := by
  induction actors generalizing game with
  | nil => exact h.refl game
  | cons actor actors ih => exact h.attempt (h.same rfl rfl) fun _ => ih _

theorem submitCommands (h : Follows later) (commands : List (MatchCommand Float32))
    (game : AuthoritativeMatch) : later game (game.submitCommands commands).1 := by
  induction commands generalizing game with
  | nil => exact h.refl game
  | cons command commands ih => exact h.attempt (h.same rfl rfl) fun _ => ih _

theorem finishWithoutWinner (h : Follows later) (game : AuthoritativeMatch)
    (result : AuthoritativeMatchResult) (reason : MatchCompletionReason) :
    later game (game.finishWithoutWinner result reason).1 := by
  unfold AuthoritativeMatch.finishWithoutWinner
  split
  · exact h.refl game
  · exact h.attempt (h.refl game) fun _ => h.same rfl rfl

theorem finishFromSimulation (h : Follows later) (game : AuthoritativeMatch)
    (result : AuthoritativeMatchResult) : later game (game.finishFromSimulation result).1 := by
  unfold AuthoritativeMatch.finishFromSimulation
  split
  · exact h.refl game
  · refine h.attempt (h.refl game) fun snapshot => ?_
    split
    · exact h.refl game
    · exact h.same rfl rfl

theorem resolveStart (h : Follows later) (game : AuthoritativeMatch) (now : TimePoint)
    (result : AuthoritativeMatchResult) : later game (game.resolveStart now result).1 := by
  unfold AuthoritativeMatch.resolveStart
  split
  · exact h.refl game
  · split
    · exact h.finishWithoutWinner game result _
    · refine h.attempt (h.refl game) fun actors => ?_
      have hsubmitted := h.submitDisconnects (actors.map fun actor => actor.value) game
      refine h.attempt hsubmitted fun _ => ?_
      exact h.attempt (h.same rfl rfl) fun _ => h.same rfl rfl

theorem emitTo (h : Follows later) (game : AuthoritativeMatch) (player : PlayerId)
    (session : PlayerSession) (peer : UdpPeer) (snapshotId serverTick : UInt32)
    (world : GameSnapshot) :
    later game (game.emitTo player session peer snapshotId serverTick world).1 := by
  unfold AuthoritativeMatch.emitTo
  refine h.attempt (h.built game player snapshotId world) fun build => ?_
  refine h.attempt (h.refl _) fun fragments => ?_
  refine h.attempt (h.refl _) fun _ => ?_
  exact h.attempt (h.same rfl rfl) fun _ => h.refl _

theorem emitToSessions (h : Follows later) (snapshotId serverTick : UInt32)
    (world : GameSnapshot) (entries : List (PlayerId × PlayerSession))
    (game : AuthoritativeMatch) :
    later game (game.emitToSessions snapshotId serverTick world entries).1 := by
  induction entries generalizing game with
  | nil => exact h.refl game
  | cons entry entries ih =>
    obtain ⟨player, session⟩ := entry
    unfold AuthoritativeMatch.emitToSessions
    split
    · exact ih game
    next peer _ =>
      split
      · exact ih game
      · refine h.attempt (h.emitTo game player session peer snapshotId serverTick world)
          fun fragments => ?_
        exact h.attempt (ih _) fun _ => h.refl _

theorem emitSnapshot (h : Follows later) (game : AuthoritativeMatch)
    (result : AuthoritativeMatchResult) : later game (game.emitSnapshot result).1 := by
  unfold AuthoritativeMatch.emitSnapshot
  split
  · exact h.refl game
  · refine h.attempt (h.refl game) fun snapshot => ?_
    have hemitted := h.emitToSessions game.nextSnapshotId snapshot.tick
      (toGameSnapshot snapshot) game.sessions.toList { game with
        nextSnapshotId := game.nextSnapshotId + 1 }
    exact h.attempt (h.of_same hemitted rfl rfl) fun _ => h.refl _

theorem concludeTick (h : Follows later) (game : AuthoritativeMatch)
    (result : AuthoritativeMatchResult) : later game (game.concludeTick result).1 := by
  unfold AuthoritativeMatch.concludeTick
  refine h.attempt (h.refl game) fun snapshot => ?_
  dsimp only
  have hfinished : later game (if snapshot.result.isSome then game.finishFromSimulation result
      else (game, .ok result)).1 := by
    split
    · exact h.finishFromSimulation game result
    · exact h.refl game
  refine h.attempt hfinished fun result => ?_
  generalize (if snapshot.result.isSome then _ else _ : MatchAnswer).1 = finished
  have hemitted : later finished (if snapshot.tick % 2 = 0 then finished.emitSnapshot result
      else (finished, .ok result)).1 := by
    split
    · exact h.emitSnapshot finished result
    · exact h.refl finished
  refine h.attempt hemitted fun result => ?_
  exact h.attempt (h.same rfl rfl) fun _ => h.refl _

theorem tick (h : Follows later) (game : AuthoritativeMatch)
    (result : AuthoritativeMatchResult) : later game (game.tick result).1 := by
  have hsubmitted : later game game.submitTick.1 := by
    refine h.attempt (h.submitCommands game.persistentCommands game) fun _ => ?_
    exact h.attempt (h.submitDisconnects _ _) fun _ => h.same rfl rfl
  refine h.attempt hsubmitted fun _ => ?_
  refine h.attempt (h.same rfl rfl) fun _ => ?_
  exact h.of_same (h.concludeTick _ _) rfl rfl

theorem runTicks (h : Follows later) (due : Nat) (game : AuthoritativeMatch)
    (result : AuthoritativeMatchResult) : later game (game.runTicks result due).1 := by
  induction due generalizing game result with
  | zero => exact h.refl game
  | succ due ih =>
    refine h.attempt (h.tick game result) fun result => ?_
    split
    · exact h.refl _
    · exact ih _ result

theorem advanceStarted (h : Follows later) (game : AuthoritativeMatch) (now : TimePoint)
    (result : AuthoritativeMatchResult) : later game (game.advanceStarted now result).1 := by
  unfold AuthoritativeMatch.advanceStarted
  refine h.attempt (h.same rfl rfl) fun advance => ?_
  rw [stampCall_state]
  refine h.of_same (h.runTicks _ _ _) ?_ ?_ <;> split <;> rfl

theorem expirePending (h : Follows later) (game : AuthoritativeMatch) (now : TimePoint)
    (result : AuthoritativeMatchResult) : later game (game.expirePending now result).1 := by
  rw [expirePending_eq]
  exact h.of_same (h.resolveStart _ now result) rfl rfl

theorem advance (h : Follows later) (game : AuthoritativeMatch) (now : TimePoint) :
    later game (game.advance now).1 := by
  have hobserved : later game { game with lastObservedTime := now } := h.same rfl rfl
  unfold AuthoritativeMatch.advance
  dsimp only
  split
  · exact hobserved
  · split
    · exact h.trans hobserved (h.advanceStarted _ now {})
    · refine h.attempt (h.trans hobserved (h.expirePending _ now {})) fun result => ?_
      split
      · exact h.refl _
      · exact h.advanceStarted _ now result

end Follows

/-! ## What becomes of a session -/

end AuthoritativeMatch

/-- A later state of a session: the peer it is bound to stays while it is connected, and the
number of the last input does not fall. -/
structure PlayerSession.Continues (before after : PlayerSession) : Prop where
  connection : after.connection = before.connection
  token : after.token = before.token
  connected : after.connected = true → before.connected = true
  peer : ∀ peer, before.peer = some peer → after.connected = true → after.peer = some peer
  numbered : before.acknowledgedInput ≤ after.acknowledgedInput

theorem PlayerSession.Continues.refl (session : PlayerSession) : session.Continues session :=
  ⟨rfl, rfl, id, fun _ hpeer _ => hpeer, le_rfl⟩

theorem PlayerSession.Continues.trans {first second third : PlayerSession}
    (hfirst : first.Continues second) (hsecond : second.Continues third) :
    first.Continues third where
  connection := hsecond.connection.trans hfirst.connection
  token := hsecond.token.trans hfirst.token
  connected h := hfirst.connected (hsecond.connected h)
  peer peer hpeer hconnected :=
    hsecond.peer peer (hfirst.peer peer hpeer (hsecond.connected hconnected)) hconnected
  numbered := hfirst.numbered.trans hsecond.numbered

/-- A later state of a session that has accepted nothing new. -/
structure PlayerSession.Rests (before after : PlayerSession) : Prop
    extends PlayerSession.Continues before after where
  same : after.acknowledgedInput = before.acknowledgedInput

theorem PlayerSession.Rests.refl (session : PlayerSession) : session.Rests session :=
  ⟨.refl session, rfl⟩

theorem PlayerSession.Rests.trans {first second third : PlayerSession}
    (hfirst : first.Rests second) (hsecond : second.Rests third) : first.Rests third :=
  ⟨hfirst.toContinues.trans hsecond.toContinues, hsecond.same.trans hfirst.same⟩

namespace AuthoritativeMatch

variable {game : AuthoritativeMatch}

/-- Every session stays, in a later state. -/
def SessionsFollow (later : PlayerSession → PlayerSession → Prop)
    (before after : AuthoritativeMatch) : Prop :=
  ∀ (player : PlayerId) (session : PlayerSession), before.sessions[player]? = some session →
    ∃ next, after.sessions[player]? = some next ∧ later session next

abbrev SessionsContinue := SessionsFollow PlayerSession.Continues

abbrev SessionsRest := SessionsFollow PlayerSession.Rests

theorem SessionsRest.of_eq {after : AuthoritativeMatch} (h : after.sessions = game.sessions) :
    SessionsRest game after := by
  intro player session hsession
  exact ⟨session, by rw [h, hsession], .refl session⟩

theorem SessionsRest.continues {after : AuthoritativeMatch} (h : SessionsRest game after) :
    SessionsContinue game after := by
  intro player session hsession
  obtain ⟨next, hnext, hrests⟩ := h player session hsession
  exact ⟨next, hnext, hrests.toContinues⟩

theorem SessionsFollow.trans (later : PlayerSession → PlayerSession → Prop)
    (htrans : ∀ first second third, later first second → later second third →
      later first third)
    {middle after : AuthoritativeMatch} (hfirst : SessionsFollow later game middle)
    (hsecond : SessionsFollow later middle after) : SessionsFollow later game after := by
  intro player session hsession
  obtain ⟨next, hnext, hcontinues⟩ := hfirst player session hsession
  obtain ⟨last, hlast, hlater⟩ := hsecond player next hnext
  exact ⟨last, hlast, htrans session next last hcontinues hlater⟩

theorem SessionsRest.trans {middle after : AuthoritativeMatch} (hfirst : SessionsRest game middle)
    (hsecond : SessionsRest middle after) : SessionsRest game after :=
  SessionsFollow.trans PlayerSession.Rests (fun _ _ _ => PlayerSession.Rests.trans) hfirst hsecond

theorem SessionsContinue.trans {middle after : AuthoritativeMatch}
    (hfirst : SessionsContinue game middle) (hsecond : SessionsContinue middle after) :
    SessionsContinue game after :=
  SessionsFollow.trans PlayerSession.Continues (fun _ _ _ => PlayerSession.Continues.trans)
    hfirst hsecond

/-- Without a datagram, an authentication or a disconnection the sessions rest. -/
theorem follows_sessionsRest : Follows SessionsRest where
  same hsessions _ := .of_eq hsessions
  trans := SessionsRest.trans
  built _ _ _ _ := .of_eq rfl

/-- One session is replaced by a later state of it. -/
theorem SessionsFollow.of_insert {later : PlayerSession → PlayerSession → Prop}
    (hrefl : ∀ session, later session session) {after : AuthoritativeMatch} {player : PlayerId}
    {session next : PlayerSession} (hsession : game.sessions[player]? = some session)
    (hafter : after.sessions = game.sessions.insert player next)
    (hlater : later session next) : SessionsFollow later game after := by
  intro other held hheld
  rw [hafter, getElem?_insert]
  by_cases hother : other = player
  · subst hother
    obtain rfl := Option.some.inj (hsession.symm.trans hheld)
    exact ⟨next, if_pos rfl, hlater⟩
  · exact ⟨held, by rw [if_neg hother, hheld], hrefl held⟩

theorem acceptAcknowledgement_sessions (game : AuthoritativeMatch) (input : ClientInput) :
    (game.acceptAcknowledgement input).1.sessions = game.sessions := by
  unfold acceptAcknowledgement
  split <;> rfl

theorem requestKeyframe_sessions (game : AuthoritativeMatch) (input : ClientInput) :
    (game.requestKeyframe input).1.sessions = game.sessions := by
  unfold requestKeyframe
  split <;> rfl

/-- The session that the credentials of a datagram name. -/
def claimedSession (game : AuthoritativeMatch) : ClientDatagram → Option PlayerSession
  | .bind bind => game.sessionFor bind.matchId bind.player bind.token
  | .input input => game.sessionFor input.matchId input.player input.token

/-- The session of an input that is looked at stays as it is, or takes its number. -/
theorem acceptInput_sessions (session : PlayerSession) (input : ClientInput) :
    (game.acceptInput session input).1.sessions = game.sessions ∨
      ∃ command, (game.acceptInput session input).1.sessions =
        game.sessions.insert input.player { session with
          acknowledgedInput := input.inputSequence
          persistentCommand := command } := by
  have hacknowledged := acceptAcknowledgement_sessions game input
  unfold acceptInput
  dsimp only
  cases (game.acceptAcknowledgement input).2 with
  | error e => exact .inl hacknowledged
  | ok accepted =>
    rw [attempt_ok]
    split
    next => exact .inl hacknowledged
    next =>
      have hrequested := (requestKeyframe_sessions (game.acceptAcknowledgement input).1
        input).trans hacknowledged
      cases ((game.acceptAcknowledgement input).1.requestKeyframe input).2 with
      | error e => exact .inl hrequested
      | ok _ =>
        rw [attempt_ok]
        generalize ((game.acceptAcknowledgement input).1.requestKeyframe input).1 = requested at *
        cases (requested.setSession input.player { session with
            acknowledgedInput := input.inputSequence }).buildPersistentCommand input with
        | error e => exact .inr ⟨session.persistentCommand, by rw [← hrequested]; rfl⟩
        | ok command =>
          refine .inr ⟨command.elim session.persistentCommand some, ?_⟩
          rw [attempt_ok, ← hrequested]
          exact insert_insert _ _ _ _

/-- What a datagram can do to the sessions. -/
inductive Received (game : AuthoritativeMatch) (peer : UdpPeer) :
    ClientDatagram → Std.ExtTreeMap PlayerId PlayerSession → Prop
  | same (datagram : ClientDatagram) : Received game peer datagram game.sessions
  | bound (bind : UdpBind) (session : PlayerSession)
      (hsession : game.sessions[bind.player]? = some session)
      (hclaimed : game.claimedSession (.bind bind) = some session)
      (hpeer : ∀ bound ∈ session.peer, bound = peer) :
      Received game peer (.bind bind)
        (game.sessions.insert bind.player { session with peer := some peer })
  | numbered (input : ClientInput) (session : PlayerSession)
      (command : Option (MatchCommand Float32))
      (hsession : game.sessions[input.player]? = some session)
      (hclaimed : game.claimedSession (.input input) = some session)
      (hpeer : session.peer = some peer)
      (hnumber : session.acknowledgedInput < input.inputSequence) :
      Received game peer (.input input) (game.sessions.insert input.player { session with
        acknowledgedInput := input.inputSequence
        persistentCommand := command })

theorem receiveClientDatagram_sessions (game : AuthoritativeMatch) (peer : UdpPeer)
    (datagram : ClientDatagram) :
    Received game peer datagram (game.receiveClientDatagram peer datagram).1.sessions := by
  unfold receiveClientDatagram
  split
  next => exact .same datagram
  next =>
    cases datagram with
    | bind bind =>
      show Received game peer _ (game.receiveBind peer bind).1.sessions
      unfold receiveBind
      cases hsession : game.sessionFor bind.matchId bind.player bind.token with
      | none => exact .same _
      | some session =>
        have hheld := (sessionFor_eq_some hsession).2.1
        dsimp only
        split
        next => exact .same _
        next hfree =>
          have hpeer : ∀ bound ∈ session.peer, bound = peer := by
            intro bound hbound
            rw [Option.mem_def.mp hbound] at hfree
            simpa using hfree
          have hkept : ∀ rest : MatchSnapshot Float32 → MatchAnswer, (∀ snapshot,
              (rest snapshot).1 = game.setSession bind.player { session with
                peer := some peer }) →
              (attempt (game.setSession bind.player { session with peer := some peer })
                (game.setSession bind.player { session with
                  peer := some peer }).simulation.snapshot rest).1.sessions =
                game.sessions.insert bind.player { session with peer := some peer } := by
            intro rest hrest
            refine attempt_keeps sessions rfl fun snapshot => ?_
            rw [hrest snapshot]
            rfl
          rw [hkept _ fun _ => rfl]
          exact .bound bind session hheld hsession hpeer
    | input input =>
      show Received game peer _ (game.receiveInput peer input).1.sessions
      unfold receiveInput
      cases hsession : game.sessionFor input.matchId input.player input.token with
      | none => exact .same _
      | some session =>
        have hheld := (sessionFor_eq_some hsession).2.1
        dsimp only
        split
        next => exact .same _
        next hadmitted =>
          simp only [Bool.or_eq_true, not_or, decide_eq_true_eq, ne_eq, not_not,
            UInt32.not_le] at hadmitted
          rcases acceptInput_sessions session input with hsame | ⟨command, hnumbered⟩
          · rw [hsame]
            exact .same _
          · rw [hnumbered]
            exact .numbered input session command hheld hsession hadmitted.1.1.2 hadmitted.2

theorem Received.continues {peer : UdpPeer} {datagram : ClientDatagram}
    {after : AuthoritativeMatch} (h : Received game peer datagram after.sessions) :
    SessionsContinue game after := by
  generalize hsessions : after.sessions = sessions at h
  cases h with
  | same => exact (SessionsRest.of_eq hsessions).continues
  | bound bind session hsession hclaimed hpeer =>
    refine .of_insert PlayerSession.Continues.refl hsession hsessions ⟨rfl, rfl, id, ?_, le_rfl⟩
    intro bound hbound _
    rw [hpeer bound hbound]
  | numbered input session command hsession hclaimed hpeer hnumber =>
    exact .of_insert PlayerSession.Continues.refl hsession hsessions
      ⟨rfl, rfl, id, fun _ hbound _ => hbound, hnumber.le⟩

theorem disconnect_rests (connection : GameConnectionId) :
    SessionsRest game (game.disconnect connection).1 := by
  unfold disconnect
  split
  next => exact SessionsRest.of_eq rfl
  next player _ =>
    split
    next => exact SessionsRest.of_eq rfl
    next =>
      split
      next => exact SessionsRest.of_eq rfl
      next session hsession =>
        have hdropped : SessionsRest game (game.dropSession connection player session) :=
          .of_insert PlayerSession.Rests.refl hsession rfl ⟨⟨rfl, rfl, Bool.false_ne_true.elim,
            fun _ _ hfalse => absurd hfalse Bool.false_ne_true, le_rfl⟩, rfl⟩
        refine SessionsRest.trans hdropped ?_
        dsimp only
        generalize game.dropSession connection player session = dropped
        split
        · rw [stampCall_state]
          exact follows_sessionsRest.resolveStart dropped _ {}
        · split
          · rw [stampCall_state]
            exact follows_sessionsRest.finishWithoutWinner dropped {} _
          · exact .of_eq (attempt_keeps sessions rfl fun _ => rfl)

theorem openSession_rests (game : AuthoritativeMatch) (connection : GameConnectionId)
    (hello : GameClientHello) (actor : EntityId) (drawn : Option UdpSessionToken)
    (now : TimePoint) (result : AuthoritativeMatchResult) :
    SessionsRest game (game.openSession connection hello actor drawn now result).1 := by
  have hunavailable : ∀ (roster : ParticipantRoster) (result : AuthoritativeMatchResult),
      SessionsRest game (({ game with roster }.markUnavailable hello.player).resolveStart now
        result).1 := by
    intro roster result
    exact follows_sessionsRest.of_same (follows_sessionsRest.resolveStart _ now result) rfl rfl
  unfold openSession
  split
  next => exact hunavailable game.roster _
  next token _ =>
    dsimp only
    split
    · refine follows_sessionsRest.trans (?_ : SessionsRest game { game with
        sessions := game.sessions.insertIfNew hello.player { connection, token } }) ?_
      · intro player session hsession
        refine ⟨session, ?_, .refl session⟩
        rw [Std.ExtTreeMap.getElem?_insertIfNew, if_neg, hsession]
        intro hnew
        obtain rfl := Std.LawfulEqCmp.eq_of_compare hnew.1
        exact hnew.2 (Std.ExtTreeMap.mem_iff_isSome_getElem?.mpr (by rw [hsession]; rfl))
      · unfold welcomeSession
        refine follows_sessionsRest.attempt (.of_eq rfl) fun _ => ?_
        exact follows_sessionsRest.resolveStart _ now _
    · exact hunavailable _ _

theorem authenticate_rests (connection : GameConnectionId) (hello : GameClientHello)
    (drawn : Option UdpSessionToken) (now : TimePoint) :
    SessionsRest game (game.authenticate connection hello drawn now).1 := by
  have hexpired : SessionsRest game ({ game with
      lastObservedTime := now }.expirePending now {}).1 :=
    follows_sessionsRest.of_same (follows_sessionsRest.expirePending _ now {}) rfl rfl
  unfold authenticate
  refine SessionsRest.trans hexpired ?_
  dsimp only
  generalize { game with lastObservedTime := now }.expirePending now {} = expired
  refine attempt_induct (P := fun call => SessionsRest expired.1 call.1)
    (fun _ _ => SessionsRest.of_eq rfl) fun result _ => ?_
  split
  · exact SessionsRest.of_eq rfl
  · split
    next => exact SessionsRest.of_eq rfl
    next actor _ =>
      split
      · exact SessionsRest.of_eq rfl
      · rw [stampCall_state]
        have htickets : SessionsRest expired.1 { expired.1 with
            tickets := (expired.1.tickets.consume hello.ticket hello.matchId
              hello.player now).1 } := SessionsRest.of_eq rfl
        exact SessionsRest.trans htickets
          (openSession_rests _ connection hello actor drawn now result)

/-- The step lemma. -/
theorem call_continues (game : AuthoritativeMatch) (call : AuthoritativeCall) :
    SessionsContinue game (game.call call).1 := by
  cases call with
  | authenticate connection hello drawn now =>
    exact (authenticate_rests connection hello drawn now).continues
  | receiveClientDatagram peer datagram =>
    exact (receiveClientDatagram_sessions game peer datagram).continues
  | disconnect connection => exact (disconnect_rests connection).continues
  | advance now => exact (follows_sessionsRest.advance game now).continues

/-- The run lemma. -/
theorem run_continues (game : AuthoritativeMatch) (calls : List AuthoritativeCall) :
    SessionsContinue game (after AuthoritativeMatch.call game calls) := by
  induction calls generalizing game with
  | nil => exact (SessionsRest.of_eq rfl).continues
  | cons call calls ih =>
    exact SessionsContinue.trans (call_continues game call) (ih _)

end AuthoritativeMatch

end SurvivalArena
