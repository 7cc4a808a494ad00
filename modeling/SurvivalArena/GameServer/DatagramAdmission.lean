import SurvivalArena.GameServer.MatchLifeCycle
import SurvivalArena.GameServer.SessionRun
import SurvivalArena.Replication.IssuedSnapshots

/-!
# The admission of datagrams

A datagram that is rejected leaves no trace.  Over a run the numbers of the inputs a session
accepts rise, and an acknowledgement above everything that was issued changes nothing.
-/

namespace SurvivalArena

open Machine OrderedMap

namespace AuthoritativeMatch

variable {game : AuthoritativeMatch}

/-! ## What is rejected -/

/-- The datagram is not above the last number of the session; a binding has no number. -/
def Stale (session : PlayerSession) : ClientDatagram → Prop
  | .bind _ => False
  | .input input => input.inputSequence ≤ session.acknowledgedInput

/-- The datagram is of no connected session, or comes from another peer than the one that is
bound, or has an old number. -/
def Rejected (game : AuthoritativeMatch) (peer : UdpPeer) (datagram : ClientDatagram) : Prop :=
  ∀ session ∈ game.claimedSession datagram,
    (∃ bound ∈ session.peer, bound ≠ peer) ∨ Stale session datagram

/-- A rejected datagram changes nothing and is not answered. -/
theorem receiveClientDatagram_rejected {peer : UdpPeer} {datagram : ClientDatagram}
    (h : game.Rejected peer datagram) :
    game.receiveClientDatagram peer datagram = (game, .ok (game.stamp {})) := by
  unfold receiveClientDatagram
  split
  next => rfl
  next =>
    cases datagram with
    | bind bind =>
      show game.receiveBind peer bind = _
      unfold receiveBind
      cases hsession : game.sessionFor bind.matchId bind.player bind.token with
      | none => rfl
      | some session =>
        rcases h session hsession with hother | hstale
        · obtain ⟨bound, hbound, hne⟩ := hother
          have hbusy : (session.peer.any fun bound => decide (bound ≠ peer)) = true := by
            rw [Option.mem_def.mp hbound]
            simpa using hne
          exact if_pos hbusy
        · exact hstale.elim
    | input input =>
      show game.receiveInput peer input = _
      unfold receiveInput
      cases hsession : game.sessionFor input.matchId input.player input.token with
      | none => rfl
      | some session =>
        have hrefused : (!game.started || decide (session.peer ≠ some peer) ||
            input.inputSequence == 0 ||
              decide (input.inputSequence ≤ session.acknowledgedInput)) = true := by
          rcases h session hsession with hother | hstale
          · obtain ⟨bound, hbound, hne⟩ := hother
            have hpeer : session.peer ≠ some peer := by
              intro hsame
              exact hne (Option.some.inj ((Option.mem_def.mp hbound).symm.trans hsame))
            simp [hpeer]
          · have hle : input.inputSequence ≤ session.acknowledgedInput := hstale
            simp [hle]
        exact if_pos hrefused

/-! ## Accepted inputs -/

/-- The number of the last input that the session of a player accepted. -/
def number (game : AuthoritativeMatch) (player : PlayerId) : Option UInt32 :=
  (game.sessions[player]?).map PlayerSession.acknowledgedInput

/-- The number of the input that a call makes the session of a player accept. -/
def acceptedInput (player : PlayerId) (game : AuthoritativeMatch) (call : AuthoritativeCall) :
    Option UInt32 :=
  (game.number player).bind fun before =>
    ((game.call call).1.number player).filter fun after => after ≠ before

def acceptedInputs (player : PlayerId) (game : AuthoritativeMatch) :
    List AuthoritativeCall → List UInt32
  | [] => []
  | call :: calls =>
    (acceptedInput player game call).toList ++ acceptedInputs player (game.call call).1 calls

theorem number_le {after : AuthoritativeMatch} (h : SessionsContinue game after)
    {player : PlayerId} {before : UInt32} (hbefore : game.number player = some before) :
    ∃ later, after.number player = some later ∧ before ≤ later := by
  obtain ⟨session, hsession, rfl⟩ := Option.map_eq_some_iff.mp hbefore
  obtain ⟨next, hnext, hcontinues⟩ := h player session hsession
  exact ⟨next.acknowledgedInput, Option.map_eq_some_iff.mpr ⟨next, hnext, rfl⟩,
    hcontinues.numbered⟩

/-- The accepted numbers are above the one before, and rise. -/
theorem acceptedInputs_rise (player : PlayerId) (calls : List AuthoritativeCall)
    (game : AuthoritativeMatch) :
    (∀ before, game.number player = some before →
      ∀ number ∈ acceptedInputs player game calls, before < number) ∧
    (acceptedInputs player game calls).Pairwise (· < ·) := by
  induction calls generalizing game with
  | nil => exact ⟨fun _ _ => nofun, List.Pairwise.nil⟩
  | cons call calls ih =>
    obtain ⟨habove, hrise⟩ := ih (game.call call).1
    rw [acceptedInputs]
    cases hbefore : game.number player with
    | none =>
      have hnone : acceptedInput player game call = none := by
        rw [acceptedInput, hbefore]
        rfl
      rw [hnone]
      exact ⟨fun _ => nofun, hrise⟩
    | some before =>
      obtain ⟨later, hlater, hle⟩ := number_le (call_continues game call) hbefore
      have haccepted : acceptedInput player game call =
          if later ≠ before then some later else none := by
        rw [acceptedInput, hbefore, Option.bind_some, hlater]
        by_cases hsame : later = before
        · simp [hsame]
        · simp [hsame]
      rw [haccepted]
      by_cases hsame : later = before
      · rw [if_neg (not_not.mpr hsame)]
        refine ⟨?_, hrise⟩
        intro value hvalue number hnumber
        obtain rfl := Option.some.inj hvalue
        exact habove before (hsame ▸ hlater) number hnumber
      · have hless : before < later := lt_of_le_of_ne hle (Ne.symm hsame)
        rw [if_pos hsame, Option.toList_some, List.singleton_append]
        refine ⟨?_, List.pairwise_cons.mpr ⟨habove later hlater, hrise⟩⟩
        intro value hvalue number hnumber
        obtain rfl := Option.some.inj hvalue
        rcases List.mem_cons.mp hnumber with rfl | hnumber
        · exact hless
        · exact hless.trans (habove later hlater number hnumber)

/-- An accepted number is that of an input of the session's peer with its credentials. -/
theorem acceptedInput_input {player : PlayerId} {call : AuthoritativeCall} {number : UInt32}
    (h : acceptedInput player game call = some number) :
    ∃ peer input session, call = .receiveClientDatagram peer (.input input) ∧
      input.player = player ∧ input.inputSequence = number ∧
      game.claimedSession (.input input) = some session ∧ session.peer = some peer ∧
      session.acknowledgedInput < number := by
  obtain ⟨before, hbefore, hfilter⟩ := Option.bind_eq_some_iff.mp h
  obtain ⟨hafter, hne⟩ := Option.filter_eq_some_iff.mp hfilter
  have hchanged : number ≠ before := by simpa using hne
  -- without a datagram the number stays
  have hrests : SessionsRest game (game.call call).1 → False := by
    intro hrests
    obtain ⟨session, hsession, rfl⟩ := Option.map_eq_some_iff.mp hbefore
    obtain ⟨next, hnext, hrest⟩ := hrests player session hsession
    obtain ⟨last, hlast, rfl⟩ := Option.map_eq_some_iff.mp hafter
    obtain rfl := Option.some.inj (hnext.symm.trans hlast)
    exact hchanged hrest.same
  cases call with
  | authenticate connection hello drawn now =>
    exact (hrests (authenticate_rests connection hello drawn now)).elim
  | disconnect connection => exact (hrests (disconnect_rests connection)).elim
  | advance now => exact (hrests (follows_sessionsRest.advance game now)).elim
  | receiveClientDatagram peer datagram =>
    have hreceived := receiveClientDatagram_sessions game peer datagram
    generalize hsessions : (game.receiveClientDatagram peer datagram).1.sessions = sessions
      at hreceived
    cases hreceived with
    | same => exact (hrests (SessionsRest.of_eq hsessions)).elim
    | bound bind session hsession hclaimed hpeer =>
      refine (hrests (.of_insert PlayerSession.Rests.refl hsession hsessions
        ⟨⟨rfl, rfl, id, ?_, le_rfl⟩, rfl⟩)).elim
      intro bound hbound _
      rw [hpeer bound hbound]
    | numbered input session command hsession hclaimed hpeer hnumber =>
      have hlast : (game.sessions.insert input.player { session with
          acknowledgedInput := input.inputSequence
          persistentCommand := command })[player]?.map PlayerSession.acknowledgedInput =
            some number := by
        rw [← hsessions]
        exact hafter
      rw [getElem?_insert] at hlast
      by_cases hplayer : player = input.player
      · rw [if_pos hplayer] at hlast
        obtain rfl : input.inputSequence = number := Option.some.inj hlast
        exact ⟨peer, input, session, rfl, hplayer.symm, rfl, hclaimed, hpeer, hnumber⟩
      · rw [if_neg hplayer] at hlast
        exact absurd (Option.some.inj (hlast.symm.trans hbefore)) hchanged

/-! ## The replicator of a match -/

/-- The replicator has received some calls. -/
def Replicates (before after : AuthoritativeMatch) : Prop :=
  ∃ calls : List ReplicatorCall,
    after.replicator = Machine.after SnapshotReplicator.call before.replicator calls

theorem Replicates.of_eq {after : AuthoritativeMatch} (h : after.replicator = game.replicator) :
    Replicates game after :=
  ⟨[], h⟩

theorem Replicates.of_call {after : AuthoritativeMatch} (event : ReplicatorCall)
    (h : after.replicator = (game.replicator.call event).1) : Replicates game after :=
  ⟨[event], h⟩

theorem Replicates.trans {middle after : AuthoritativeMatch} (hfirst : Replicates game middle)
    (hsecond : Replicates middle after) : Replicates game after := by
  obtain ⟨first, hmiddle⟩ := hfirst
  obtain ⟨second, hafter⟩ := hsecond
  refine ⟨first ++ second, ?_⟩
  rw [hafter, hmiddle, after_append]

theorem follows_replicates : Follows Replicates where
  same _ hreplicator := .of_eq hreplicator
  trans := Replicates.trans
  built _ player snapshotId world := .of_call (.build player snapshotId world) rfl

theorem receiveClientDatagram_replicates (game : AuthoritativeMatch) (peer : UdpPeer)
    (datagram : ClientDatagram) :
    Replicates game (game.receiveClientDatagram peer datagram).1 := by
  unfold receiveClientDatagram
  split
  · exact .of_eq rfl
  cases datagram with
  | bind bind =>
    show Replicates game (game.receiveBind peer bind).1
    unfold receiveBind
    dsimp only
    split
    · exact .of_eq rfl
    · split
      · exact .of_eq rfl
      · exact .of_eq (attempt_keeps replicator rfl fun _ => rfl)
  | input input =>
    show Replicates game (game.receiveInput peer input).1
    unfold receiveInput
    dsimp only
    split
    · exact .of_eq rfl
    next session hsession =>
      split
      · exact .of_eq rfl
      · have hacknowledged : Replicates game (game.acceptAcknowledgement input).1 := by
          unfold acceptAcknowledgement
          split
          · exact .of_eq rfl
          · exact .of_call (.acceptAcknowledgement input.player input.acknowledgedSnapshotId) rfl
        have hrequested : ∀ game : AuthoritativeMatch,
            Replicates game (game.requestKeyframe input).1 := by
          intro game
          unfold requestKeyframe
          split
          · exact .of_call (.requestKeyframe input.player) rfl
          · exact .of_eq rfl
        refine follows_replicates.attempt hacknowledged fun accepted => ?_
        split
        · exact .of_eq rfl
        · refine follows_replicates.attempt (hrequested _) fun _ => ?_
          refine follows_replicates.attempt (.of_eq rfl) fun command => ?_
          exact .of_eq rfl

theorem disconnect_replicates (game : AuthoritativeMatch) (connection : GameConnectionId) :
    Replicates game (game.disconnect connection).1 := by
  unfold disconnect
  split
  next => exact .of_eq rfl
  next player _ =>
    split
    next => exact .of_eq rfl
    next =>
      split
      next => exact .of_eq rfl
      next session _ =>
        have hdropped : Replicates game (game.dropSession connection player session) :=
          .of_call (.removeRecipient player) rfl
        refine hdropped.trans ?_
        dsimp only
        generalize game.dropSession connection player session = dropped
        split
        · rw [stampCall_state]
          exact follows_replicates.resolveStart dropped _ {}
        · split
          · rw [stampCall_state]
            exact follows_replicates.finishWithoutWinner dropped {} _
          · exact .of_eq (attempt_keeps replicator rfl fun _ => rfl)

theorem openSession_replicates (game : AuthoritativeMatch) (connection : GameConnectionId)
    (hello : GameClientHello) (actor : EntityId) (drawn : Option UdpSessionToken)
    (now : TimePoint) (result : AuthoritativeMatchResult) :
    Replicates game (game.openSession connection hello actor drawn now result).1 := by
  have hunavailable : ∀ (roster : ParticipantRoster) (result : AuthoritativeMatchResult),
      Replicates game (({ game with roster }.markUnavailable hello.player).resolveStart now
        result).1 := by
    intro roster result
    exact follows_replicates.of_same (follows_replicates.resolveStart _ now result) rfl rfl
  unfold openSession
  split
  next => exact hunavailable game.roster _
  next token _ =>
    dsimp only
    split
    · unfold welcomeSession
      have hregistered : Replicates game { game with
          replicator := (game.replicator.registerRecipient hello.player actor).1 } :=
        .of_call (.registerRecipient hello.player actor) rfl
      refine hregistered.trans (follows_replicates.attempt (.of_eq rfl) fun _ => ?_)
      exact follows_replicates.resolveStart _ now _
    · exact hunavailable _ _

theorem authenticate_replicates (game : AuthoritativeMatch) (connection : GameConnectionId)
    (hello : GameClientHello) (drawn : Option UdpSessionToken) (now : TimePoint) :
    Replicates game (game.authenticate connection hello drawn now).1 := by
  have hexpired : Replicates game ({ game with
      lastObservedTime := now }.expirePending now {}).1 :=
    follows_replicates.of_same (follows_replicates.expirePending _ now {}) rfl rfl
  unfold authenticate
  refine hexpired.trans ?_
  dsimp only
  generalize { game with lastObservedTime := now }.expirePending now {} = expired
  refine follows_replicates.attempt (.of_eq rfl) fun result => ?_
  split
  · exact .of_eq rfl
  · split
    next => exact .of_eq rfl
    next actor _ =>
      split
      · exact .of_eq rfl
      · rw [stampCall_state]
        exact follows_replicates.of_same
          (openSession_replicates _ connection hello actor drawn now result) rfl rfl

theorem call_replicates (game : AuthoritativeMatch) (call : AuthoritativeCall) :
    Replicates game (game.call call).1 := by
  cases call with
  | authenticate connection hello drawn now =>
    exact authenticate_replicates game connection hello drawn now
  | receiveClientDatagram peer datagram =>
    exact receiveClientDatagram_replicates game peer datagram
  | disconnect connection => exact disconnect_replicates game connection
  | advance now => exact follows_replicates.advance game now

theorem run_replicates (game : AuthoritativeMatch) (calls : List AuthoritativeCall) :
    Replicates game (after AuthoritativeMatch.call game calls) := by
  induction calls generalizing game with
  | nil => exact .of_eq rfl
  | cons call calls ih => exact (call_replicates game call).trans (ih _)

/-! ## Runs -/

/-- Rejected datagrams leave no trace, the numbers of the accepted inputs of a session rise and
are of its peer, a bound peer stays while the session is connected, and an acknowledgement of
zero or above everything that was issued to the player leaves the replicator as it is. -/
theorem datagrams_admitted [Trigonometry Float32] {reservation : ReserveMatch}
    {arena : ArenaMapDefinition} {config : MatchConfig Float32} {now : TimePoint}
    {replication : ReplicationConfig} {created : AuthoritativeMatch}
    (h : create reservation arena config now replication = .ok created)
    (calls : List AuthoritativeCall) :
    (∀ peer datagram, (after AuthoritativeMatch.call created calls).Rejected peer datagram →
      ((after AuthoritativeMatch.call created calls).receiveClientDatagram peer datagram).2 =
        .ok ((after AuthoritativeMatch.call created calls).stamp {}) ∧
      ∀ later : List AuthoritativeCall,
        after AuthoritativeMatch.call created
            (calls ++ .receiveClientDatagram peer datagram :: later) =
          after AuthoritativeMatch.call created (calls ++ later) ∧
        replies AuthoritativeMatch.call (after AuthoritativeMatch.call created
            (calls ++ [.receiveClientDatagram peer datagram])) later =
          replies AuthoritativeMatch.call (after AuthoritativeMatch.call created calls)
            later) ∧
    (∀ player, (acceptedInputs player created calls).Pairwise (· < ·)) ∧
    (∀ player call number, acceptedInput player (after AuthoritativeMatch.call created calls)
        call = some number →
      ∃ peer input session, call = .receiveClientDatagram peer (.input input) ∧
        input.player = player ∧ input.inputSequence = number ∧
        (after AuthoritativeMatch.call created calls).claimedSession (.input input) =
          some session ∧
        session.peer = some peer ∧ session.acknowledgedInput < number) ∧
    (∀ (player : PlayerId) (session : PlayerSession) (peer : UdpPeer),
      (after AuthoritativeMatch.call created calls).sessions[player]? = some session →
      session.peer = some peer → ∀ later : List AuthoritativeCall,
        ∃ next : PlayerSession, (after AuthoritativeMatch.call created
            (calls ++ later)).sessions[player]? = some next ∧
          next.token = session.token ∧ next.connection = session.connection ∧
          (next.connected = true → next.peer = some peer)) ∧
    (∃ replicated : List ReplicatorCall,
      (after AuthoritativeMatch.call created calls).replicator =
        after SnapshotReplicator.call created.replicator replicated) ∧
    ∀ replicated : List ReplicatorCall,
      (after AuthoritativeMatch.call created calls).replicator =
        after SnapshotReplicator.call created.replicator replicated →
      ∀ player snapshotId,
        (snapshotId = 0 ∨ ∀ issued ∈ SnapshotReplicator.issuedIds player created.replicator
          replicated, issued < snapshotId) →
        ((after AuthoritativeMatch.call created calls).replicator.acceptAcknowledgement player
          snapshotId).1 = (after AuthoritativeMatch.call created calls).replicator := by
  refine ⟨fun peer datagram hrejected => ?_, fun player =>
    (acceptedInputs_rise player calls created).2, fun player call number haccepted =>
      acceptedInput_input haccepted, fun player session peer hsession hpeer later => ?_,
        run_replicates created calls, fun replicated hreplicated player snapshotId
          hunissued => ?_⟩
  · have hreceived := receiveClientDatagram_rejected hrejected
    have hsame : after AuthoritativeMatch.call created
        (calls ++ [.receiveClientDatagram peer datagram]) =
          after AuthoritativeMatch.call created calls := by
      rw [after_append]
      exact congrArg Prod.fst hreceived
    refine ⟨congrArg Prod.snd hreceived, fun later => ⟨?_, by rw [hsame]⟩⟩
    rw [List.append_cons, after_append, hsame, after_append]
  · rw [after_append]
    obtain ⟨next, hnext, hcontinues⟩ := run_continues
      (after AuthoritativeMatch.call created calls) later player session hsession
    exact ⟨next, hnext, hcontinues.token, hcontinues.connection,
      hcontinues.peer peer hpeer⟩
  · have hempty : SnapshotReplicator.Marked [] created.replicator.recipients[player]? := by
      rw [(create_fresh h).empty.2.2.1]
      exact fun _ hmem => absurd hmem (by simp)
    have hmarked := SnapshotReplicator.run_marked replicated created.replicator [] hempty
    rw [List.nil_append, ← hreplicated] at hmarked
    exact (SnapshotReplicator.acceptAcknowledgement_unissued hmarked hunissued).1

/-! ### A match of two -/

section Duel

def duelPeer : UdpPeer where
  address := Vector.replicate 16 1
  port := 9

/-- The first snapshot is taken before anyone is bound, the second one is sent. -/
def duelBoundCalls : List AuthoritativeCall :=
  [.authenticate ⟨1⟩ ⟨⟨7⟩, ⟨1⟩, duelTicket 1⟩ (some (.repeating 3)) 1000,
   .authenticate ⟨2⟩ ⟨⟨7⟩, ⟨2⟩, duelTicket 2⟩ (some (.repeating 4)) 1000,
   .advance 70001000,
   .receiveClientDatagram duelPeer (.bind ⟨⟨7⟩, ⟨1⟩, .repeating 3⟩),
   .advance 140001000]

/-- An input of the first participant that acknowledges a snapshot. -/
def duelInput (acknowledgedSnapshotId : UInt32) : ClientInput where
  matchId := ⟨7⟩
  player := ⟨1⟩
  token := .repeating 3
  inputSequence := 1
  acknowledgedSnapshotId

/-- The result has a fragment of a snapshot. -/
def sends (snapshotId : UInt32) (result : AuthoritativeMatchResult) : Bool :=
  result.udp.any fun outbound =>
    match outbound.datagram with
    | .snapshotFragment fragment => fragment.snapshotId == snapshotId
    | .bindAccepted _ => false

def acknowledgedBy (game : AuthoritativeMatch) (player : PlayerId) : Option UInt32 :=
  (game.replicator.recipients[player]?).map Recipient.acknowledgedSnapshotId

theorem duelBound_runs : duelMatch.toOption.any (fun created =>
    (replies AuthoritativeMatch.call created duelBoundCalls).all (fun reply =>
      !reply.toOption.any (sends 1)) &&
    ((after AuthoritativeMatch.call created duelBoundCalls).claimedSession
      (.input (duelInput 1))).all (fun session =>
        session.peer.any fun bound => decide (bound ≠ { duelPeer with port := 10 })) &&
    decide ((after AuthoritativeMatch.call created duelBoundCalls).acknowledgedBy ⟨1⟩ = some 0 ∧
      (after AuthoritativeMatch.call created (duelBoundCalls ++
        [.receiveClientDatagram duelPeer (.input (duelInput 1))])).acknowledgedBy ⟨1⟩ =
          some 1)) = true := by
  decide +kernel

/-- An input of another peer with the first participant's credentials. -/
theorem datagrams_admitted_duel : ∃ created, duelMatch = .ok created ∧
    (after AuthoritativeMatch.call created duelBoundCalls).Rejected
      { duelPeer with port := 10 } (.input (duelInput 1)) ∧
    after AuthoritativeMatch.call created (duelBoundCalls ++
        [.receiveClientDatagram { duelPeer with port := 10 } (.input (duelInput 1))]) =
      after AuthoritativeMatch.call created (duelBoundCalls ++ []) := by
  obtain ⟨created, hcreated, hruns⟩ := except_any duelBound_runs
  have hrejected : (after AuthoritativeMatch.call created duelBoundCalls).Rejected
      { duelPeer with port := 10 } (.input (duelInput 1)) := by
    intro session hsession
    have hother := (Bool.and_eq_true_iff.mp (Bool.and_eq_true_iff.mp hruns).1).2
    rw [Option.mem_def.mp hsession, Option.all_some, Option.any_eq_true] at hother
    obtain ⟨bound, hbound, hne⟩ := hother
    exact .inl ⟨bound, hbound, of_decide_eq_true hne⟩
  have hadmitted := @datagrams_admitted seriesTrigonometry duelReservation duelArena _ 0 _
    created hcreated duelBoundCalls
  exact ⟨created, hcreated, hrejected, ((hadmitted.1 _ _ hrejected).2 []).1⟩

/-- No fragment of the first snapshot was sent, but its acknowledgement is taken. -/
theorem duelBound_unissued : ∃ created, duelMatch = .ok created ∧
    (∀ reply ∈ replies AuthoritativeMatch.call created duelBoundCalls,
      ∀ result, reply = .ok result → sends 1 result = false) ∧
    ((after AuthoritativeMatch.call created duelBoundCalls).receiveClientDatagram duelPeer
      (.input (duelInput 1))).1.replicator ≠
        (after AuthoritativeMatch.call created duelBoundCalls).replicator := by
  obtain ⟨created, hcreated, hruns⟩ := except_any duelBound_runs
  obtain ⟨hfirst, hchanged⟩ := Bool.and_eq_true_iff.mp hruns
  obtain ⟨hbefore, hafter⟩ := of_decide_eq_true hchanged
  refine ⟨created, hcreated, fun reply hreply result hresult => ?_, fun hsame => ?_⟩
  · have hsent := List.all_eq_true.mp (Bool.and_eq_true_iff.mp hfirst).1 reply hreply
    subst hresult
    simpa [Except.toOption] using hsent
  · rw [after_append] at hafter
    have hkept : ((after AuthoritativeMatch.call created duelBoundCalls).receiveClientDatagram
        duelPeer (.input (duelInput 1))).1.acknowledgedBy ⟨1⟩ =
          (after AuthoritativeMatch.call created duelBoundCalls).acknowledgedBy ⟨1⟩ := by
      unfold acknowledgedBy
      rw [hsame]
    exact absurd (hafter.symm.trans (hkept.trans hbefore)) (by decide)

end Duel

end AuthoritativeMatch

end SurvivalArena
