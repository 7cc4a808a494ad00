import SurvivalArena.GameClient.ClientPredictor
import SurvivalArena.Protocol.GameTcpMessages
import SurvivalArena.Replication.ClientSnapshotStream
import SurvivalArena.Replication.SnapshotReassembler

/-!
# The game session of a client

Calls of the game thread and handlers of the network thread, each atomic.  An operation in
flight completes once, at any time and with any outcome, also after it was cancelled; the
metrics and the sampled scene are left out.
-/

namespace SurvivalArena

def snapshotQueueCapacity : Nat := 64

inductive GameSessionState where
  | idle
  | connecting
  | authenticating
  | bindingUdp
  | synchronizing
  | running
  | finished
  | protocolError
  | closed
deriving DecidableEq

structure GameSessionStart where
  player : PlayerId
  ticket : MatchTicket
  expectedMapId : UInt32 := 1
  expectedNavMeshCrc32 : UInt32 := 0
  expectedReplicationMode : Option ReplicationMode := none

structure ReassembledSnapshot where
  snapshotId : UInt32
  serverTick : UInt32
  ackInputSequence : UInt32
  snapshot : GameSnapshot

/-- The operations in flight. -/
structure SessionOperations where
  resolveTcp : Nat := 0
  tcpResolve : Nat := 0
  connect : Nat := 0
  tcpClosed : Nat := 0
  udpResolve : Nat := 0
  bindWait : Nat := 0
  receive : Nat := 0
  closeNetwork : Nat := 0
  inputs : List (PredictedInput Float32) := []

/-- What the queue does with a datagram. -/
inductive UdpDatagramEnqueueResult where
  | sentImmediately
  | queued
  | dropped
  | overflow
deriving DecidableEq

/-- What a step of the session does outside of it. -/
inductive SessionOutput where
  | sent (datagram : ClientDatagram)
  | resultStored (result : GameMatchResult)
deriving DecidableEq

structure GameSession where
  navMesh : NavMesh Float32
  start : Option GameSessionStart := none
  state : GameSessionState := .idle
  stopRequested : Bool := false
  tcpOpen : Bool := false
  udpOpen : Bool := false
  sendQueue : List ClientDatagram := []
  sendQueueStopped : Bool := false
  operations : SessionOperations := {}
  udpToken : Option UdpSessionToken := none
  localActor : EntityId := ⟨0⟩
  reassembler : SnapshotReassembler := {}
  snapshotStream : ClientSnapshotStream
  lastAppliedSnapshotId : UInt32 := 0
  keyframeRequested : Bool := false
  snapshotQueue : List ReassembledSnapshot := []
  predictor : Option (ClientPredictor Float32) := none
  matchResult : Option GameMatchResult := none

abbrev SessionStep := GameSession × List SessionOutput

namespace GameSession

def setState (session : GameSession) (state : GameSessionState) : GameSession :=
  { session with state }

/-! ## Closing -/

/-- The transport is closed, and its close handler posted, once. -/
def closeTcp (session : GameSession) : GameSession :=
  if session.tcpOpen then
    { session with
      tcpOpen := false
      operations := { session.operations with
        tcpClosed := session.operations.tcpClosed + 1 } }
  else session

def closeNetwork (session : GameSession) : GameSession :=
  { session.closeTcp with
    sendQueue := []
    sendQueueStopped := true
    udpOpen := false }

def failProtocol (session : GameSession) : GameSession :=
  (session.setState .protocolError).closeNetwork

def postCloseNetwork (session : GameSession) : GameSession :=
  { session with
    operations := { session.operations with
      closeNetwork := session.operations.closeNetwork + 1 } }

def failFromCaller (session : GameSession) : GameSession :=
  (session.setState .protocolError).postCloseNetwork

/-! ## Sending -/

/-- The delivery of a datagram out of the queue. -/
def deliver (session : GameSession) (datagram : ClientDatagram) : List SessionOutput :=
  if session.stopRequested || !session.udpOpen then [] else [.sent datagram]

/-- The datagram goes through the queue, which sends, keeps or drops it or overflows. -/
def sendUdp (session : GameSession) (datagram : ClientDatagram)
    (result : UdpDatagramEnqueueResult) : SessionStep :=
  if session.sendQueueStopped then (session.failProtocol, [])
  else
    match result with
    | .sentImmediately => (session, session.deliver datagram)
    | .queued => ({ session with sendQueue := session.sendQueue ++ [datagram] }, [])
    | .dropped => (session, [])
    | .overflow => (session.failProtocol, [])

def receiveUdp (session : GameSession) : GameSession :=
  if session.udpOpen then
    { session with
      operations := { session.operations with receive := session.operations.receive + 1 } }
  else session

def sendBind (session : GameSession) (result : UdpDatagramEnqueueResult) : SessionStep :=
  if session.stopRequested || session.state ≠ .bindingUdp then (session, [])
  else
    match session.start, session.udpToken with
    | some start, some token =>
      let (session, outputs) := session.sendUdp
        (.bind { matchId := start.ticket.matchId, player := start.player, token }) result
      ({ session with
        operations := { session.operations with
          bindWait := session.operations.bindWait + 1 } }, outputs)
    | _, _ => (session, [])

/-! ## Handlers of the TCP connection -/

def resolveTcp (session : GameSession) : GameSession :=
  if session.stopRequested then session
  else
    { session with
      operations := { session.operations with
        tcpResolve := session.operations.tcpResolve + 1 } }

def handleTcpResolved (session : GameSession) (error : Bool) : GameSession :=
  if session.stopRequested then session
  else if error then session.setState .closed
  else
    { session with
      operations := { session.operations with connect := session.operations.connect + 1 } }

/-- The hello of the client is queued, or the transport closes itself. -/
def attachTcp (session : GameSession) (helloQueued : Bool) : GameSession :=
  let session := { session with tcpOpen := true }.setState .authenticating
  if helloQueued then session else session.closeTcp.failProtocol

def handleConnected (session : GameSession) (error helloQueued : Bool) : GameSession :=
  if session.stopRequested then session
  else if error then session.setState .closed
  else session.attachTcp helloQueued

def handleTcpClosed (session : GameSession) : GameSession :=
  if session.stopRequested then session
  else if session.state ≠ .finished ∧ session.state ≠ .protocolError then
    session.setState .closed
  else session

def welcomeMatches (start : GameSessionStart) (welcome : GameServerWelcome) : Bool :=
  welcome.matchId = start.ticket.matchId && welcome.player = start.player &&
    welcome.tickRate = gameTickRate && welcome.snapshotRate = SurvivalArena.snapshotRate &&
    welcome.mapId = start.expectedMapId &&
    welcome.navMeshCrc32 = start.expectedNavMeshCrc32 &&
    start.expectedReplicationMode.all fun mode => welcome.replicationMode = mode

def handleWelcome (session : GameSession) (start : GameSessionStart)
    (welcome : GameServerWelcome) : GameSession :=
  if session.state ≠ .authenticating || !welcomeMatches start welcome then
    session.failProtocol
  else
    { session with
      localActor := welcome.actor
      udpToken := some welcome.udpToken
      state := .bindingUdp
      operations := { session.operations with
        udpResolve := session.operations.udpResolve + 1 } }

def handleResult (session : GameSession) (start : GameSessionStart)
    (result : GameMatchResult) : SessionStep :=
  if (session.state ≠ .bindingUdp ∧ session.state ≠ .synchronizing ∧
      session.state ≠ .running) ∨ result.matchId ≠ start.ticket.matchId then
    (session.failProtocol, [])
  else
    ({ session with
      matchResult := some result
      udpOpen := false
      state := .finished }, [.resultStored result])

/-- A frame with what its message decodes to. -/
def handleTcpFrame (session : GameSession) (message : Option GameServerMessage) :
    SessionStep :=
  match session.start, message with
  | some start, some (.welcome welcome) => (session.handleWelcome start welcome, [])
  | some start, some (.result result) => session.handleResult start result
  | _, _ => (session.failProtocol, [])

/-! ## Handlers of the UDP socket -/

/-- The addresses of the server; `found` says that there is one. -/
def handleUdpResolved (session : GameSession) (found : Bool)
    (result : UdpDatagramEnqueueResult) : SessionStep :=
  if session.stopRequested then (session, [])
  else if !found then (session.failProtocol, [])
  else ({ session with udpOpen := true }.receiveUdp).sendBind result

def handleBindWait (session : GameSession) (error : Bool)
    (result : UdpDatagramEnqueueResult) : SessionStep :=
  if error then (session, []) else session.sendBind result

def requestKeyframe (session : GameSession) : GameSession :=
  { session with keyframeRequested := true }

/-- What an application means for the request of a keyframe. -/
def settleKeyframe (session : GameSession) (applied : SnapshotApplyResult)
    (kind : SnapshotPayloadKind) : GameSession :=
  let session := { session with lastAppliedSnapshotId := applied.acknowledgedSnapshotId }
  if applied.requestKeyframe then session.requestKeyframe
  else if kind ≠ .delta then { session with keyframeRequested := false }
  else session

def queueSnapshot (session : GameSession) (snapshot : ReassembledSnapshot) : GameSession :=
  { session with
    snapshotQueue :=
      (session.snapshotQueue.drop
        (session.snapshotQueue.length + 1 - snapshotQueueCapacity)) ++ [snapshot] }

/-- The payload of a complete snapshot. -/
def applyPayload (session : GameSession) (completed : ReassembledPayload) : GameSession :=
  match decodeSnapshotPayload completed.bytes with
  | .error _ => session.failProtocol
  | .ok payload =>
    let (snapshotStream, applied) := session.snapshotStream.apply completed.snapshotId payload
    let session := { session with snapshotStream }
    match applied with
    | .error _ => session.failProtocol
    | .ok applied =>
      let session := session.settleKeyframe applied payload.header.kind
      match applied.world with
      | none => session
      | some world =>
        session.queueSnapshot {
          snapshotId := completed.snapshotId
          serverTick := completed.serverTick
          ackInputSequence := completed.ackInputSequence
          snapshot := world }

/-- A fragment goes to the reassembler, which may report a loss. -/
def pushFragment (session : GameSession) (fragment : SnapshotFragment) :
    GameSession × Option ReassembledPayload :=
  let (reassembler, completed) := session.reassembler.pushBytes fragment
  let (reassembler, recovery) := reassembler.takeRecoveryNeeded
  let session := { session with reassembler }
  (if recovery then session.requestKeyframe else session, completed)

def handleFragment (session : GameSession) (start : GameSessionStart)
    (fragment : SnapshotFragment) : GameSession :=
  if session.state ≠ .synchronizing ∧ session.state ≠ .running then session
  else if fragment.matchId ≠ start.ticket.matchId then session
  else
    let (session, completed) := session.pushFragment fragment
    match completed with
    | none => session
    | some completed => session.applyPayload completed

def handleBindAccepted (session : GameSession) (start : GameSessionStart)
    (accepted : UdpBindAccepted) : GameSession :=
  if session.state ≠ .bindingUdp || accepted.matchId ≠ start.ticket.matchId ||
      accepted.player ≠ start.player then session
  else session.setState .synchronizing

def handleServerDatagram (session : GameSession) (datagram : ServerDatagram) : GameSession :=
  match session.start, datagram with
  | some start, .bindAccepted accepted => session.handleBindAccepted start accepted
  | some start, .snapshotFragment fragment => session.handleFragment start fragment
  | none, _ => session

/-- A receive ends, with a datagram of the server when it decodes to one. -/
def handleReceived (session : GameSession) (datagram : Option ServerDatagram) : GameSession :=
  let session := datagram.elim session session.handleServerDatagram
  if session.udpOpen && !session.stopRequested then session.receiveUdp else session

/-- The input datagram of a predicted input. -/
def clientInput (session : GameSession) (start : GameSessionStart) (token : UdpSessionToken)
    (input : PredictedInput Float32) : ClientInput where
  matchId := start.ticket.matchId
  player := start.player
  token := token
  inputSequence := input.sequence
  acknowledgedSnapshotId := session.lastAppliedSnapshotId
  requestKeyframe := session.keyframeRequested
  moveDestination := input.moveDestination.elim {} fun destination =>
    { x := destination.x, z := destination.z }
  hasMoveDestination := input.moveDestination.isSome
  attackTarget := input.attackTarget.elim ⟨0⟩ fun target => ⟨target⟩
  hasAttackTarget := input.attackTarget.isSome

def handleInput (session : GameSession) (input : PredictedInput Float32)
    (result : UdpDatagramEnqueueResult) : SessionStep :=
  if session.stopRequested || session.state ≠ .running || !session.udpOpen then (session, [])
  else
    match session.start, session.udpToken with
    | some start, some token =>
      session.sendUdp (.input (session.clientInput start token input)) result
    | _, _ => (session, [])

/-! ## Calls of the game thread -/

def startSession (session : GameSession) (start : GameSessionStart) : GameSession :=
  if session.state ≠ .idle then session
  else
    { session with
      state := .connecting
      start := some start
      sendQueue := []
      sendQueueStopped := false
      stopRequested := false
      operations := { session.operations with
        resolveTcp := session.operations.resolveTcp + 1 } }

def findActor (snapshot : GameSnapshot) (actor : EntityId) : Option NetworkActorSnapshot :=
  snapshot.actors.find? fun candidate => candidate.id = actor

/-- Whether a frame goes on with its snapshots. -/
inductive FrameOutcome where
  | continues (becameRunning : Bool)
  | returned

/-- The predictor of the local actor, made with its first snapshot. -/
def ensurePredictor (session : GameSession) (becameRunning : Bool)
    (position : Vec2 Float32) : GameSession × Except Exception FrameOutcome :=
  match session.predictor with
  | some _ => (session, .ok (.continues becameRunning))
  | none =>
    attempt session (ClientPredictor.create session.navMesh position
        (defaultMatchConfig (R := Float32)).contenderSpeed 0.1) fun predictor =>
      let session := { session with predictor := some predictor }
      if session.state = .synchronizing then
        (session.setState .running, .ok (.continues true))
      else if session.state = .running then (session, .ok (.continues becameRunning))
      else (session, .ok .returned)

def reconcile (session : GameSession) (position : Vec2 Float32)
    (ackInputSequence : UInt32) : GameSession × Except Exception Unit :=
  match session.predictor with
  | none => (session, .ok ())
  | some predictor =>
    let (predictor, outcome) := predictor.reconcile position ackInputSequence
    ({ session with predictor := some predictor }, outcome)

/-- The snapshots of a frame in turn. -/
def applySnapshots (session : GameSession) (becameRunning : Bool) :
    List ReassembledSnapshot → GameSession × Option Bool
  | [] => (session, some becameRunning)
  | snapshot :: snapshots =>
    match findActor snapshot.snapshot session.localActor with
    | none => session.applySnapshots becameRunning snapshots
    | some local' =>
      let position : Vec2 Float32 := ⟨local'.position.x, local'.position.z⟩
      let (session, outcome) := session.ensurePredictor becameRunning position
      match outcome with
      | .error _ => (session.failFromCaller, none)
      | .ok .returned => (session, none)
      | .ok (.continues becameRunning) =>
        let (session, outcome) := session.reconcile position snapshot.ackInputSequence
        match outcome with
        | .error _ => (session.failFromCaller, none)
        | .ok _ => session.applySnapshots becameRunning snapshots

/-- The next input of the predictor is posted. -/
def postInput (session : GameSession) : GameSession :=
  match session.predictor with
  | none => session
  | some predictor =>
    let (predictor, outcome) := predictor.advanceTick
    let session := { session with predictor := some predictor }
    match outcome with
    | .error _ => session.failFromCaller
    | .ok input =>
      { session with
        operations := { session.operations with
          inputs := session.operations.inputs ++ [input] } }

def fixedUpdate (session : GameSession) : GameSession :=
  if session.state = .finished ∨ session.state = .protocolError ∨
      session.state = .closed then session
  else
    let pending := session.snapshotQueue.insertionSort fun left right =>
      left.serverTick ≤ right.serverTick
    let (session, outcome) := { session with snapshotQueue := [] }.applySnapshots false pending
    match outcome with
    | none => session
    | some becameRunning =>
      if session.state = .running && !becameRunning then session.postInput else session

def setDestination (session : GameSession) (destination : Vec2 Float32) : GameSession :=
  if session.state ≠ .running then session
  else
    match session.predictor with
    | none => session
    | some predictor =>
      { session with predictor := some (predictor.setDestination destination).1 }

/-- The call waits for the posted close when it comes from outside the network thread. -/
def stop (session : GameSession) (runtimeStarted runningOnNetworkThread : Bool) :
    GameSession :=
  if session.stopRequested then session
  else
    let session := { session with stopRequested := true }.setState .closed
    if !runtimeStarted || runningOnNetworkThread then session.closeNetwork
    else session.postCloseNetwork

end GameSession

/-! ## Steps -/

inductive SessionEvent where
  | start (start : GameSessionStart)
  | fixedUpdate
  | setDestination (destination : Vec2 Float32)
  | stop (runtimeStarted runningOnNetworkThread : Bool)
  | resolveTcp
  | tcpResolved (error : Bool)
  | connected (error helloQueued : Bool)
  | tcpFrame (message : Option GameServerMessage)
  /-- The connection ends. -/
  | tcpLost
  | tcpClosed
  | udpResolved (found : Bool) (result : UdpDatagramEnqueueResult)
  | bindWait (error : Bool) (result : UdpDatagramEnqueueResult)
  | received (datagram : Option ServerDatagram)
  | input (index : Nat) (result : UdpDatagramEnqueueResult)
  /-- The queue of outgoing datagrams comes to one of them. -/
  | delivered (index : Nat)
  | closeNetwork

namespace GameSession

/-- A step of the session; nothing happens when the operation is not in flight. -/
def act (session : GameSession) : SessionEvent → SessionStep
  | .start start => (session.startSession start, [])
  | .fixedUpdate => (session.fixedUpdate, [])
  | .setDestination destination => (session.setDestination destination, [])
  | .stop runtimeStarted runningOnNetworkThread =>
    (session.stop runtimeStarted runningOnNetworkThread, [])
  | .resolveTcp =>
    match session.operations.resolveTcp with
    | 0 => (session, [])
    | count + 1 =>
      ({ session with
        operations := { session.operations with resolveTcp := count } }.resolveTcp, [])
  | .tcpResolved error =>
    match session.operations.tcpResolve with
    | 0 => (session, [])
    | count + 1 =>
      ({ session with operations := { session.operations with
        tcpResolve := count } }.handleTcpResolved error, [])
  | .connected error helloQueued =>
    match session.operations.connect with
    | 0 => (session, [])
    | count + 1 =>
      ({ session with operations := { session.operations with
        connect := count } }.handleConnected error helloQueued, [])
  | .tcpFrame message =>
    if session.tcpOpen then session.handleTcpFrame message else (session, [])
  | .tcpLost => (session.closeTcp, [])
  | .tcpClosed =>
    match session.operations.tcpClosed with
    | 0 => (session, [])
    | count + 1 =>
      ({ session with
        operations := { session.operations with tcpClosed := count } }.handleTcpClosed, [])
  | .udpResolved found result =>
    match session.operations.udpResolve with
    | 0 => (session, [])
    | count + 1 =>
      { session with operations := { session.operations with
        udpResolve := count } }.handleUdpResolved found result
  | .bindWait error result =>
    match session.operations.bindWait with
    | 0 => (session, [])
    | count + 1 =>
      { session with operations := { session.operations with
        bindWait := count } }.handleBindWait error result
  | .received datagram =>
    match session.operations.receive with
    | 0 => (session, [])
    | count + 1 =>
      ({ session with operations := { session.operations with
        receive := count } }.handleReceived datagram, [])
  | .input index result =>
    match session.operations.inputs[index]? with
    | none => (session, [])
    | some input =>
      { session with operations := { session.operations with
        inputs := session.operations.inputs.eraseIdx index } }.handleInput input result
  | .delivered index =>
    match session.sendQueue[index]? with
    | none => (session, [])
    | some datagram =>
      ({ session with sendQueue := session.sendQueue.eraseIdx index },
        session.deliver datagram)
  | .closeNetwork =>
    match session.operations.closeNetwork with
    | 0 => (session, [])
    | count + 1 =>
      ({ session with operations := { session.operations with
        closeNetwork := count } }.closeNetwork, [])

def step (session : GameSession) (event : SessionEvent) : GameSession :=
  (session.act event).1

def initial (navMesh : NavMesh Float32) : GameSession where
  navMesh := navMesh
  snapshotStream :=
    { maximumBaselines := maxClientSnapshotBuffer, capacity := maxClientSnapshotBuffer_fits }

end GameSession

end SurvivalArena
