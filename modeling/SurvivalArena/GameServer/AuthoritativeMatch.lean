import SurvivalArena.GameServer.Participants
import SurvivalArena.GameServer.SnapshotAdapter
import SurvivalArena.Protocol.GameTcpMessages
import SurvivalArena.Protocol.GameUdpCodec
import SurvivalArena.Simulation.OfflineMatchStep

/-!
# The authoritative match of a game server

The participants come in with their tickets, the simulation ticks and its snapshots go out.
A call leaves the match as it is where an exception stops it.  The token source and the clock
are arguments of the calls; durations that are only measured are left out.
-/

namespace SurvivalArena

open KeyedList Wire

/-! ## The arena -/

structure ArenaMapDefinition where
  mapId : UInt32 := 1
  vertices : List (Vec2 Float32) := []
  triangles : List NavTriangleIndices := []
  gridCellSize : Float32 := 4

def survivalArenaMapDefinition : ArenaMapDefinition where
  vertices := [⟨-128, -128⟩, ⟨128, -128⟩, ⟨-128, 128⟩, ⟨128, 128⟩]
  triangles := [⟨0, 1, 2⟩, ⟨1, 3, 2⟩]

def checkedCount (count : Nat) : Except Exception UInt32 := do
  throwIf (decide (2 ^ 32 ≤ count))
    (.lengthError "arena map collection exceeds uint32 count")
  pure (UInt32.ofNat count)

def survivalArenaFingerprint (definition : ArenaMapDefinition) : Except Exception UInt32 := do
  let vertexCount ← checkedCount definition.vertices.length
  let triangleCount ← checkedCount definition.triangles.length
  pure (crc32 (writeU32 definition.mapId ++ writeU32 vertexCount ++
    definition.vertices.flatMap (fun vertex => writeF32 vertex.x ++ writeF32 vertex.z) ++
    writeU32 triangleCount ++
    definition.triangles.flatMap (fun triangle =>
      writeU32 triangle.first ++ writeU32 triangle.second ++ writeU32 triangle.third) ++
    writeF32 definition.gridCellSize))

def buildArenaNavMesh (arena : ArenaMapDefinition) : Except Exception (NavMesh Float32) :=
  NavMesh.build arena.vertices arena.triangles arena.gridCellSize

/-! ## The tick scheduler -/

structure TickAdvanceResult where
  ticksDue : UInt32 := 0
  rebased : Bool := false
  lateness : Int := 0

structure FixedTickScheduler where
  tickRate : UInt32 := 30
  maximumCatchUpTicks : UInt32 := 5
  epoch : Option TimePoint := none
  nextOrdinal : UInt64 := 1

namespace FixedTickScheduler

def start (scheduler : FixedTickScheduler) (now : TimePoint) :
    FixedTickScheduler × Except Exception Unit :=
  if scheduler.epoch.isSome then
    (scheduler, .error (.logicError "fixed tick scheduler can start only once"))
  else ({ scheduler with epoch := some now, nextOrdinal := 1 }, .ok ())

def offsetFor (scheduler : FixedTickScheduler) (ordinal : UInt64) : Except Exception Int := do
  let wholeSeconds := ordinal.toNat / scheduler.tickRate.toNat
  throwIf (decide (2 ^ 63 ≤ wholeSeconds)) (.overflowError "fixed tick deadline exhausted")
  let remainder := ordinal.toNat % scheduler.tickRate.toNat
  pure (wholeSeconds * nanosecondsPerSecond +
    nanosecondsPerSecond * remainder / scheduler.tickRate.toNat)

def nextDeadline (scheduler : FixedTickScheduler) : Except Exception TimePoint :=
  match scheduler.epoch with
  | none => .error (.logicError "fixed tick scheduler has not started")
  | some epoch => do
    let offset ← scheduler.offsetFor scheduler.nextOrdinal
    pure (epoch + offset)

/-- Count the deadlines that have passed, up to the limit. -/
def countDue (scheduler : FixedTickScheduler) (now : TimePoint) (ticksDue : UInt32) :
    Nat → FixedTickScheduler × Except Exception UInt32
  | 0 => (scheduler, .ok ticksDue)
  | remaining + 1 =>
    attempt scheduler scheduler.nextDeadline fun deadline =>
      if now < deadline then (scheduler, .ok ticksDue)
      else if scheduler.nextOrdinal = 2 ^ 64 - 1 then
        (scheduler, .error (.overflowError "fixed tick ordinal exhausted"))
      else
        { scheduler with nextOrdinal := scheduler.nextOrdinal + 1 }.countDue now
          (ticksDue + 1) remaining

def advance (scheduler : FixedTickScheduler) (now : TimePoint) :
    FixedTickScheduler × Except Exception TickAdvanceResult :=
  match scheduler.epoch with
  | none => (scheduler, .error (.logicError "fixed tick scheduler has not started"))
  | some _ =>
    let counted := scheduler.countDue now 0 scheduler.maximumCatchUpTicks.toNat
    attempt counted.1 counted.2 fun ticksDue =>
      attempt counted.1 counted.1.nextDeadline fun firstUnprocessedDeadline =>
        if ticksDue = scheduler.maximumCatchUpTicks ∧ firstUnprocessedDeadline ≤ now then
          ({ counted.1 with epoch := some now, nextOrdinal := 1 },
            .ok { ticksDue, rebased := true, lateness := now - firstUnprocessedDeadline })
        else (counted.1, .ok { ticksDue })

end FixedTickScheduler

/-! ## The samples of a match -/

/-- How many samples were taken and how many there may be. -/
structure ServerMatchMetrics where
  maximumTickSamples : Nat
  maximumReplicationSamples : Nat
  tickSamples : Nat := 0
  replicationSamples : Nat := 0
  payloadBytes : UInt64 := 0

def addWithoutOverflow (left right : UInt64) : Except Exception UInt64 := do
  throwIf (decide (2 ^ 64 - 1 - left < right))
    (.overflowError "server match metric byte total overflow")
  pure (left + right)

def metricCount (count : Nat) : Except Exception Nat := do
  throwIf (decide (2 ^ 16 ≤ count))
    (.overflowError "replication metric visible count overflow")
  pure count

namespace ServerMatchMetrics

def create (maximumTickSamples maximumReplicationSamples : Nat) :
    Except Exception ServerMatchMetrics := do
  throwIf (maximumTickSamples == 0 || maximumReplicationSamples == 0)
    (.invalidArgument "server match metric capacities must be positive")
  pure { maximumTickSamples, maximumReplicationSamples }

def recordTick (metrics : ServerMatchMetrics) :
    ServerMatchMetrics × Except Exception Unit :=
  if metrics.maximumTickSamples ≤ metrics.tickSamples then
    (metrics, .error (.overflowError "server tick metric capacity exceeded"))
  else ({ metrics with tickSamples := metrics.tickSamples + 1 }, .ok ())

def recordReplication (metrics : ServerMatchMetrics) (payloadBytes : Nat) :
    ServerMatchMetrics × Except Exception Unit :=
  if metrics.maximumReplicationSamples ≤ metrics.replicationSamples then
    (metrics, .error (.overflowError "server replication metric capacity exceeded"))
  else
    attempt metrics
      (addWithoutOverflow metrics.payloadBytes (UInt32.ofNat payloadBytes).toUInt64)
      fun payloadBytes =>
        ({ metrics with
           payloadBytes
           replicationSamples := metrics.replicationSamples + 1 }, .ok ())

end ServerMatchMetrics

def replicationSampleCapacity (config : MatchConfig Float32) : Nat :=
  (config.hardTimeoutTick / 2 + 1).toNat * roomCapacity

/-! ## What the match keeps and answers -/

structure UdpPeer where
  address : Vector UInt8 16
  port : UInt16
  ipv6 : Bool := false
deriving DecidableEq

structure GameTcpOutbound where
  recipient : GameConnectionId
  message : GameServerMessage
  closeAfterWrite : Bool := false
deriving DecidableEq

structure GameUdpOutbound where
  recipient : UdpPeer
  datagram : ServerDatagram
  shapingPeerKey : UInt64 := 0
deriving DecidableEq

structure AuthoritativeMatchResult where
  tcp : List GameTcpOutbound := []
  udp : List GameUdpOutbound := []
  control : List WorkerToLobbyMessage := []
  closeTcp : List GameConnectionId := []
  ticksExecuted : UInt32 := 0
  overrun : Bool := false
  overrunLateness : Int := 0
  totalOverruns : UInt64 := 0
deriving DecidableEq

structure PlayerSession where
  connection : GameConnectionId
  token : UdpSessionToken
  peer : Option UdpPeer := none
  acknowledgedInput : UInt32 := 0
  persistentCommand : Option (MatchCommand Float32) := none
  connected : Bool := true

structure AuthoritativeMatch where
  matchId : MatchId
  mapId : UInt32
  navMeshCrc32 : UInt32
  navMesh : NavMesh Float32
  replicationMode : ReplicationMode
  replicator : SnapshotReplicator
  metrics : ServerMatchMetrics
  simulation : OfflineMatch Float32
  roster : ParticipantRoster
  tickets : GameTicketStore
  scheduler : FixedTickScheduler := {}
  ticketExpiresAt : TimePoint
  lastObservedTime : TimePoint
  sessions : Std.ExtTreeMap PlayerId PlayerSession := ∅
  connections : Std.ExtTreeMap GameConnectionId PlayerId := ∅
  /-- Ascending. -/
  pendingDisconnects : List ActorId := []
  nextSnapshotId : UInt32 := 1
  totalOverruns : UInt64 := 0
  started : Bool := false
  terminal : Bool := false

/-- A call that may stop, with what it has answered so far. -/
abbrev MatchAnswer := AuthoritativeMatch × Except Exception AuthoritativeMatchResult

def serverMatchConfig (reservation : ReserveMatch) (config : MatchConfig Float32) :
    MatchConfig Float32 :=
  { config with
    contenderCount := UInt32.ofNat reservation.participants.length
    enableInternalBots := false
    seed := reservation.seed }

def completionReason : MatchEndReason → MatchCompletionReason
  | .lastSurvivor => .lastSurvivor
  | .timeLimit => .timeLimit

namespace AuthoritativeMatch

def create [Trigonometry Float32] (reservation : ReserveMatch) (arena : ArenaMapDefinition)
    (config : MatchConfig Float32) (now : TimePoint) (replication : ReplicationConfig) :
    Except Exception AuthoritativeMatch := do
  throwIf (reservation.reservation.value == 0 ||
      reservation.ticketLifetimeMilliseconds == 0 ||
      decide (matchTicketLifetimeSeconds * 1000 <
        reservation.ticketLifetimeMilliseconds.toNat))
    (.invalidArgument "game reservation lifetime is invalid")
  let navMeshCrc32 ← survivalArenaFingerprint arena
  let navMesh ← buildArenaNavMesh arena
  let replicator ← SnapshotReplicator.create arena.vertices replication
  let metrics ← ServerMatchMetrics.create config.hardTimeoutTick.toNat
    (replicationSampleCapacity config)
  let simulation ← OfflineMatch.create navMesh (serverMatchConfig reservation config)
  let roster ← ParticipantRoster.create
    (reservation.participants.map ReservedParticipant.player)
  let lifetime := reservation.ticketLifetimeMilliseconds.toNat * nanosecondsPerMillisecond
  let tickets ← GameTicketStore.load reservation.matchId reservation.participants now lifetime
  let simulation ← simulation.start
  pure {
    matchId := reservation.matchId
    mapId := arena.mapId
    navMeshCrc32, navMesh
    replicationMode := replication.mode
    replicator, metrics, simulation, roster, tickets
    ticketExpiresAt := now + lifetime
    lastObservedTime := now }

/-! ## Answers -/

def stamp (game : AuthoritativeMatch) (result : AuthoritativeMatchResult) :
    AuthoritativeMatchResult :=
  { result with totalOverruns := game.totalOverruns }

def addError (result : AuthoritativeMatchResult) (connection : GameConnectionId)
    (error : GameServerErrorCode) : AuthoritativeMatchResult :=
  { result with
    tcp := result.tcp ++ [{
      recipient := connection
      message := .error error
      closeAfterWrite := true }] }

def finishWithoutWinner (game : AuthoritativeMatch) (result : AuthoritativeMatchResult)
    (reason : MatchCompletionReason) : MatchAnswer :=
  if game.terminal then (game, .ok result)
  else
    attempt game game.simulation.snapshot fun snapshot =>
      ({ game with terminal := true, started := false },
        .ok { result with
          control := result.control ++ [.finished {
            matchId := game.matchId
            winner := ⟨0⟩
            hasWinner := false
            reason
            finishedTick := snapshot.tick }] })

/-- The sessions that are connected, in the order of their players. -/
def connectedSessions (game : AuthoritativeMatch) : List PlayerSession :=
  (game.sessions.toList.map Prod.snd).filter PlayerSession.connected

/-- The result for every connected session. -/
def resultMessages (game : AuthoritativeMatch) (result : MatchResult) : List GameTcpOutbound :=
  game.connectedSessions.map fun session => {
    recipient := session.connection
    message := .result {
      matchId := game.matchId
      winner := ⟨result.winner⟩
      hasWinner := true
      reason := completionReason result.reason
      finishedTick := result.finishedTick }
    closeAfterWrite := true }

def finishFromSimulation (game : AuthoritativeMatch) (result : AuthoritativeMatchResult) :
    MatchAnswer :=
  if game.terminal then (game, .ok result)
  else
    attempt game game.simulation.snapshot fun snapshot =>
      match snapshot.result with
      | none => (game, .error (.logicError "finished simulation has no result"))
      | some finished =>
        ({ game with terminal := true, started := false },
          .ok { result with
            tcp := result.tcp ++ game.resultMessages finished
            control := result.control ++ [.finished {
              matchId := game.matchId
              winner := ⟨finished.winner⟩
              hasWinner := true
              reason := completionReason finished.reason
              finishedTick := finished.finishedTick }] })

/-! ## The start -/

/-- Submit the disconnections of actors in turn. -/
def submitDisconnects (game : AuthoritativeMatch) :
    List ActorId → AuthoritativeMatch × Except Exception Unit
  | [] => (game, .ok ())
  | actor :: actors =>
    let submitted := game.simulation.submitLifecycle { actor, reason := .disconnected }
    let game := { game with simulation := submitted.1 }
    attempt game submitted.2 fun _ => game.submitDisconnects actors

def resolveStart (game : AuthoritativeMatch) (now : TimePoint)
    (result : AuthoritativeMatchResult) : MatchAnswer :=
  if game.started || game.terminal || !game.roster.readyToStart then (game, .ok result)
  else if game.roster.authenticatedCount = 0 then
    game.finishWithoutWinner result .noAuthenticatedPlayers
  else
    attempt game (game.roster.unavailablePlayers.mapM game.roster.actorFor) fun actors =>
      let submitted := game.submitDisconnects (actors.map fun actor => actor.value)
      attempt submitted.1 submitted.2 fun _ =>
        let scheduled := submitted.1.scheduler.start now
        let game := { submitted.1 with scheduler := scheduled.1 }
        attempt game scheduled.2 fun _ => ({ game with started := true }, .ok result)

def markUnavailable (game : AuthoritativeMatch) (player : PlayerId) : AuthoritativeMatch :=
  { game with roster := (game.roster.markUnavailable player).1 }

def expirePending (game : AuthoritativeMatch) (now : TimePoint)
    (result : AuthoritativeMatchResult) : MatchAnswer :=
  let (tickets, expired) := game.tickets.purgeExpired now
  (expired.foldl markUnavailable { game with tickets }).resolveStart now result

/-! ## Authentication -/

def tokenAlreadyUsed (game : AuthoritativeMatch) (token : UdpSessionToken) : Bool :=
  game.sessions.toList.any fun entry => entry.2.token = token

/-- The participant becomes a session and is welcomed. -/
def welcomeSession (game : AuthoritativeMatch) (connection : GameConnectionId)
    (hello : GameClientHello) (actor : EntityId) (token : UdpSessionToken) (now : TimePoint)
    (result : AuthoritativeMatchResult) : MatchAnswer :=
  let registered := game.replicator.registerRecipient hello.player actor
  let game := { game with
    sessions := game.sessions.insertIfNew hello.player { connection, token }
    connections := game.connections.insertIfNew connection hello.player
    replicator := registered.1 }
  attempt game registered.2 fun _ =>
    game.resolveStart now { result with
      tcp := result.tcp ++ [{
        recipient := connection
        message := .welcome {
          matchId := game.matchId
          player := hello.player
          actor
          tickRate := gameTickRate
          snapshotRate := SurvivalArena.snapshotRate
          mapId := game.mapId
          navMeshCrc32 := game.navMeshCrc32
          replicationMode := game.replicationMode
          udpToken := token } }] }

/-- The token that was drawn, unless the draw failed or gave a token in use. -/
def freshToken (game : AuthoritativeMatch) (drawn : Option UdpSessionToken) :
    Option UdpSessionToken :=
  drawn.filter fun token => !game.tokenAlreadyUsed token

/-- The session of a consumed ticket with the token that was drawn for it. -/
def openSession (game : AuthoritativeMatch) (connection : GameConnectionId)
    (hello : GameClientHello) (actor : EntityId) (drawn : Option UdpSessionToken)
    (now : TimePoint) (result : AuthoritativeMatchResult) : MatchAnswer :=
  match game.freshToken drawn with
  | none =>
    (game.markUnavailable hello.player).resolveStart now
      (addError result connection .internalError)
  | some token =>
    let (roster, authenticated) := game.roster.authenticate hello.player connection token
    if authenticated then
      { game with roster }.welcomeSession connection hello actor token now result
    else
      ({ game with roster }.markUnavailable hello.player).resolveStart now
        (addError result connection .internalError)

def stampCall (call : MatchAnswer) : MatchAnswer :=
  attempt call.1 call.2 fun result => (call.1, .ok (call.1.stamp result))

def authenticate (game : AuthoritativeMatch) (connection : GameConnectionId)
    (hello : GameClientHello) (drawn : Option UdpSessionToken) (now : TimePoint) : MatchAnswer :=
  let expired := { game with lastObservedTime := now }.expirePending now {}
  let game := expired.1
  attempt game expired.2 fun result =>
    let refused := stampCall (game, .ok (addError result connection .authenticationFailed))
    if game.terminal || game.started || connection.value == 0 ||
        game.connections.contains connection || game.sessions.contains hello.player then refused
    else
      match game.roster.actorFor hello.player with
      | .error _ => refused
      | .ok actor =>
        let (tickets, consumed) := game.tickets.consume hello.ticket hello.matchId
          hello.player now
        let game := { game with tickets }
        if consumed ≠ .accepted then
          stampCall (game, .ok (addError result connection .authenticationFailed))
        else stampCall (game.openSession connection hello actor drawn now result)

/-! ## Datagrams -/

def sessionFor (game : AuthoritativeMatch) (matchId : MatchId) (player : PlayerId)
    (token : UdpSessionToken) : Option PlayerSession :=
  if matchId ≠ game.matchId then none
  else (game.sessions[player]?).filter fun session =>
    session.connected && session.token = token

def setSession (game : AuthoritativeMatch) (player : PlayerId) (session : PlayerSession) :
    AuthoritativeMatch :=
  { game with sessions := game.sessions.insert player session }

/-- The destination of an input that asks for one, if it can be reached. -/
def commandDestination (game : AuthoritativeMatch) (input : ClientInput)
    (source : ActorSnapshot Float32) : Except Exception (Option (Option (Vec2 Float32))) :=
  if !input.hasMoveDestination then .ok (some none)
  else if !(input.moveDestination.x.isFinite && input.moveDestination.z.isFinite) then .ok none
  else do
    let destination : Vec2 Float32 := ⟨input.moveDestination.x, input.moveDestination.z⟩
    let path ← game.navMesh.findPath source.position destination
    pure (path.map fun _ => some destination)

/-- The target of an input that asks for one, if it is another living actor. -/
def commandTarget (input : ClientInput) (actor : EntityId)
    (snapshot : MatchSnapshot Float32) : Option (Option ActorId) :=
  if !input.hasAttackTarget then some none
  else if input.attackTarget = actor then none
  else
    ((lookup ActorSnapshot.id input.attackTarget.value snapshot.actors).filter
      ActorSnapshot.alive).map fun _ => some input.attackTarget.value

def buildPersistentCommand (game : AuthoritativeMatch) (input : ClientInput) :
    Except Exception (Option (MatchCommand Float32)) :=
  if !input.hasMoveDestination && !input.hasAttackTarget then .ok none
  else do
    let actor ← game.roster.actorFor input.player
    let snapshot ← game.simulation.snapshot
    match (lookup ActorSnapshot.id actor.value snapshot.actors).filter ActorSnapshot.alive with
    | none => pure none
    | some source =>
      match ← game.commandDestination input source with
      | none => pure none
      | some moveDestination =>
        pure ((commandTarget input actor snapshot).map fun attackTarget =>
          { actor := actor.value, moveDestination, attackTarget })

def receiveBind (game : AuthoritativeMatch) (peer : UdpPeer) (bind : UdpBind) : MatchAnswer :=
  let ignored := (game, Except.ok (game.stamp {}))
  match game.sessionFor bind.matchId bind.player bind.token with
  | none => ignored
  | some session =>
    if session.peer.any fun bound => bound ≠ peer then ignored
    else
      let game := game.setSession bind.player { session with peer := some peer }
      attempt game game.simulation.snapshot fun snapshot =>
        (game, .ok (game.stamp {
          udp := [{
            recipient := peer
            datagram := .bindAccepted {
              matchId := game.matchId
              player := bind.player
              serverTick := snapshot.tick }
            shapingPeerKey := bind.player.value.toUInt64 }] }))

/-- The acknowledgement of an input, if it has one, is one of a snapshot that was issued. -/
def acceptAcknowledgement (game : AuthoritativeMatch) (input : ClientInput) :
    AuthoritativeMatch × Except Exception Bool :=
  if input.acknowledgedSnapshotId = 0 then (game, .ok true)
  else
    let accepted := game.replicator.acceptAcknowledgement input.player
      input.acknowledgedSnapshotId
    ({ game with replicator := accepted.1 }, accepted.2)

def requestKeyframe (game : AuthoritativeMatch) (input : ClientInput) :
    AuthoritativeMatch × Except Exception Unit :=
  if input.requestKeyframe then
    let requested := game.replicator.requestKeyframe input.player
    ({ game with replicator := requested.1 }, requested.2)
  else (game, .ok ())

/-- An input of the session's peer with a new number. -/
def acceptInput (game : AuthoritativeMatch) (session : PlayerSession) (input : ClientInput) :
    MatchAnswer :=
  let acknowledged := game.acceptAcknowledgement input
  attempt acknowledged.1 acknowledged.2 fun accepted =>
    if !accepted then
      (acknowledged.1, .ok (acknowledged.1.stamp
        (addError {} session.connection .protocolViolation)))
    else
      let requested := acknowledged.1.requestKeyframe input
      attempt requested.1 requested.2 fun _ =>
        let session := { session with acknowledgedInput := input.inputSequence }
        let game := requested.1.setSession input.player session
        attempt game (game.buildPersistentCommand input) fun command =>
          let session := { session with
            persistentCommand := command.elim session.persistentCommand some }
          let game := game.setSession input.player session
          (game, .ok (game.stamp {}))

def receiveInput (game : AuthoritativeMatch) (peer : UdpPeer) (input : ClientInput) :
    MatchAnswer :=
  let ignored := (game, Except.ok (game.stamp {}))
  match game.sessionFor input.matchId input.player input.token with
  | none => ignored
  | some session =>
    if !game.started || session.peer ≠ some peer || input.inputSequence == 0 ||
        decide (input.inputSequence ≤ session.acknowledgedInput) then ignored
    else game.acceptInput session input

def receiveClientDatagram (game : AuthoritativeMatch) (peer : UdpPeer)
    (datagram : ClientDatagram) : MatchAnswer :=
  if game.terminal || peer.port == 0 then (game, .ok (game.stamp {}))
  else
    match datagram with
    | .bind bind => game.receiveBind peer bind
    | .input input => game.receiveInput peer input

/-! ## Disconnection -/

/-- The participant of a closed connection loses its session. -/
def dropSession (game : AuthoritativeMatch) (connection : GameConnectionId)
    (player : PlayerId) (session : PlayerSession) : AuthoritativeMatch :=
  { game with
    connections := game.connections.erase connection
    sessions := game.sessions.insert player { session with
      connected := false
      peer := none
      persistentCommand := none }
    replicator := game.replicator.removeRecipient player }.markUnavailable player

def disconnect (game : AuthoritativeMatch) (connection : GameConnectionId) : MatchAnswer :=
  match game.connections[connection]? with
  | none => (game, .ok (game.stamp {}))
  | some player =>
    if game.terminal then (game, .ok (game.stamp {}))
    else
      match game.sessions[player]? with
      | none =>
        ({ game with connections := game.connections.erase connection },
          .error (.logicError "game connection has no participant session"))
      | some session =>
        let game := game.dropSession connection player session
        if !game.started then stampCall (game.resolveStart game.lastObservedTime {})
        else if game.connections.isEmpty then
          stampCall (game.finishWithoutWinner {} .noConnectedPlayers)
        else
          attempt game (game.roster.actorFor player) fun actor =>
            let game := { game with
              pendingDisconnects :=
                (insert id actor.value game.pendingDisconnects).getD game.pendingDisconnects }
            (game, .ok (game.stamp {}))

/-! ## Ticks -/

/-- Submit commands in turn. -/
def submitCommands (game : AuthoritativeMatch) :
    List (MatchCommand Float32) → AuthoritativeMatch × Except Exception Unit
  | [] => (game, .ok ())
  | command :: commands =>
    let submitted := game.simulation.submit command
    let game := { game with simulation := submitted.1 }
    attempt game submitted.2 fun _ => game.submitCommands commands

/-- The commands that the connected sessions keep giving. -/
def persistentCommands (game : AuthoritativeMatch) : List (MatchCommand Float32) :=
  game.connectedSessions.filterMap PlayerSession.persistentCommand

/-- The fragments of a snapshot for one session. -/
def emitTo (game : AuthoritativeMatch) (player : PlayerId) (session : PlayerSession)
    (peer : UdpPeer) (snapshotId serverTick : UInt32) (world : GameSnapshot) :
    AuthoritativeMatch × Except Exception (List GameUdpOutbound) :=
  let built := game.replicator.build player snapshotId world
  let game := { game with replicator := built.1 }
  attempt game built.2 fun build =>
    attempt game (fragmentSnapshot game.matchId snapshotId serverTick
        session.acknowledgedInput build.encodedPayload) fun fragments =>
      let counted : Except Exception Unit := do
        let _ ← metricCount fragments.length
        let _ ← metricCount build.visibleActorCount.toNat
        let _ ← metricCount build.visibleLootCount.toNat
      attempt game counted fun _ =>
        let recorded := game.metrics.recordReplication build.encodedPayload.length
        let game := { game with metrics := recorded.1 }
        attempt game recorded.2 fun _ =>
          (game, .ok (fragments.map fun fragment => {
            recipient := peer
            datagram := .snapshotFragment fragment
            shapingPeerKey := player.value.toUInt64 }))

/-- The snapshot for the sessions in turn. -/
def emitToSessions (game : AuthoritativeMatch) (snapshotId serverTick : UInt32)
    (world : GameSnapshot) : List (PlayerId × PlayerSession) →
      AuthoritativeMatch × Except Exception (List GameUdpOutbound)
  | [] => (game, .ok [])
  | (player, session) :: sessions =>
    match session.peer with
    | none => game.emitToSessions snapshotId serverTick world sessions
    | some peer =>
      if !session.connected then game.emitToSessions snapshotId serverTick world sessions
      else
        let emitted := game.emitTo player session peer snapshotId serverTick world
        attempt emitted.1 emitted.2 fun fragments =>
          let later := emitted.1.emitToSessions snapshotId serverTick world sessions
          attempt later.1 later.2 fun rest => (later.1, .ok (fragments ++ rest))

def emitSnapshot (game : AuthoritativeMatch) (result : AuthoritativeMatchResult) :
    MatchAnswer :=
  if game.nextSnapshotId = 2 ^ 32 - 1 then
    (game, .error (.overflowError "snapshot identity exhausted"))
  else
    attempt game game.simulation.snapshot fun simulationSnapshot =>
      let emitted := { game with
        nextSnapshotId := game.nextSnapshotId + 1 }.emitToSessions game.nextSnapshotId
          simulationSnapshot.tick (toGameSnapshot simulationSnapshot) game.sessions.toList
      attempt emitted.1 emitted.2 fun udp =>
        (emitted.1, .ok { result with udp := result.udp ++ udp })

/-- The end of a tick: its result, its snapshot on every other tick, and its sample. -/
def concludeTick (game : AuthoritativeMatch) (result : AuthoritativeMatchResult) :
    MatchAnswer :=
  attempt game game.simulation.snapshot fun snapshot =>
    let finished := if snapshot.result.isSome then game.finishFromSimulation result
      else (game, .ok result)
    attempt finished.1 finished.2 fun result =>
      let emitted := if snapshot.tick % 2 = 0 then finished.1.emitSnapshot result
        else (finished.1, .ok result)
      attempt emitted.1 emitted.2 fun result =>
        let recorded := emitted.1.metrics.recordTick
        let game := { emitted.1 with metrics := recorded.1 }
        attempt game recorded.2 fun _ => (game, .ok result)

/-- The commands and the disconnections of a tick. -/
def submitTick (game : AuthoritativeMatch) : AuthoritativeMatch × Except Exception Unit :=
  let commanded := game.submitCommands game.persistentCommands
  attempt commanded.1 commanded.2 fun _ =>
    let disconnected := commanded.1.submitDisconnects commanded.1.pendingDisconnects
    attempt disconnected.1 disconnected.2 fun _ =>
      ({ disconnected.1 with pendingDisconnects := [] }, .ok ())

/-- The step of the simulation. -/
def stepSimulation (game : AuthoritativeMatch) : AuthoritativeMatch × Except Exception Unit :=
  let stepped := game.simulation.step
  ({ game with simulation := stepped.1 }, stepped.2)

def tick (game : AuthoritativeMatch) (result : AuthoritativeMatchResult) : MatchAnswer :=
  let submitted := game.submitTick
  attempt submitted.1 submitted.2 fun _ =>
    let stepped := submitted.1.stepSimulation
    attempt stepped.1 stepped.2 fun _ =>
      { stepped.1 with simulation := stepped.1.simulation.drainEvents.1 }.concludeTick
        { result with ticksExecuted := result.ticksExecuted + 1 }

/-- The ticks that are due, until the match is over. -/
def runTicks (game : AuthoritativeMatch) (result : AuthoritativeMatchResult) :
    Nat → MatchAnswer
  | 0 => (game, .ok result)
  | due + 1 =>
    let ticked := game.tick result
    attempt ticked.1 ticked.2 fun result =>
      if ticked.1.terminal then (ticked.1, .ok result)
      else ticked.1.runTicks result due

def advanceStarted (game : AuthoritativeMatch) (now : TimePoint)
    (result : AuthoritativeMatchResult) : MatchAnswer :=
  let advanced := game.scheduler.advance now
  let game := { game with scheduler := advanced.1 }
  attempt game advanced.2 fun advance =>
    let game := if advance.rebased then
        { game with totalOverruns := game.totalOverruns + 1 } else game
    stampCall (game.runTicks { result with
      overrun := advance.rebased
      overrunLateness := advance.lateness } advance.ticksDue.toNat)

def advance (game : AuthoritativeMatch) (now : TimePoint) : MatchAnswer :=
  let game := { game with lastObservedTime := now }
  if game.terminal then (game, .ok (game.stamp {}))
  else if game.started then game.advanceStarted now {}
  else
    let expired := game.expirePending now {}
    attempt expired.1 expired.2 fun result =>
      if expired.1.terminal || !expired.1.started then
        (expired.1, .ok (expired.1.stamp result))
      else expired.1.advanceStarted now result

def nextDeadline (game : AuthoritativeMatch) : Except Exception (Option TimePoint) :=
  if game.terminal then .ok none
  else if game.started then some <$> game.scheduler.nextDeadline
  else .ok (some game.ticketExpiresAt)

end AuthoritativeMatch

/-! ## Calls -/

inductive AuthoritativeCall where
  | authenticate (connection : GameConnectionId) (hello : GameClientHello)
      (drawn : Option UdpSessionToken) (now : TimePoint)
  | receiveClientDatagram (peer : UdpPeer) (datagram : ClientDatagram)
  | disconnect (connection : GameConnectionId)
  | advance (now : TimePoint)

def AuthoritativeMatch.call (game : AuthoritativeMatch) : AuthoritativeCall → MatchAnswer
  | .authenticate connection hello drawn now => game.authenticate connection hello drawn now
  | .receiveClientDatagram peer datagram => game.receiveClientDatagram peer datagram
  | .disconnect connection => game.disconnect connection
  | .advance now => game.advance now

end SurvivalArena
