import SurvivalArena.Replication.SnapshotDelta
import SurvivalArena.Replication.QuantizedView

/-!
# The snapshot replicator

The server's side of replication.  For each recipient it keeps the views it sent
as baselines, trims them by the recipient's acknowledgements, and sends either a
keyframe or the difference from the acknowledged baseline.  A build changes the
replicator only after everything that can throw is done.
-/

namespace SurvivalArena

open KeyedList Wire

inductive ReplicationMode where
  | fullState
  | interestFullPrecision
  | interestQuantized
  | interestDelta
deriving DecidableEq

structure ReplicationConfig where
  mode : ReplicationMode := .fullState
  cellSize : Float32 := 32
  enterRadius : Float32 := 80
  leaveRadius : Float32 := 88
  keyframeIntervalSnapshots : UInt32 := 30
  maximumBaselinesPerRecipient : Nat := 32

structure ReplicationBuild where
  payload : SnapshotPayload
  encodedPayload : Bytes
  visibleActorCount : UInt32
  visibleLootCount : UInt32
  keyframe : Bool
  fallbackKeyframe : Bool

structure ServerBaseline where
  snapshotId : UInt32
  view : QuantizedWorld

structure Recipient where
  controlledActor : EntityId
  visible : VisibleSet := {}
  issuedHighWatermark : UInt32 := 0
  acknowledgedSnapshotId : UInt32 := 0
  buildOrdinal : UInt32 := 0
  lastKeyframeOrdinal : UInt32 := 0
  keyframeRequested : Bool := false
  baselines : List ServerBaseline := []

structure SnapshotReplicator where
  config : ReplicationConfig
  bounds : Aabb2 Float32
  radiusMaximum : Float32
  grid : InterestGrid Float32
  gridSnapshotId : Option UInt32 := none
  gridWorld : Option GameSnapshot := none
  recipients : Std.ExtTreeMap PlayerId Recipient := ∅

def validateConfig (config : ReplicationConfig) : Except Exception Unit :=
  throwIf (!config.cellSize.isFinite || !config.enterRadius.isFinite ||
      !config.leaveRadius.isFinite || decide (config.cellSize ≤ 0) ||
      decide (config.enterRadius ≤ 0) ||
      decide (config.leaveRadius < config.enterRadius) ||
      config.keyframeIntervalSnapshots == 0 ||
      config.maximumBaselinesPerRecipient == 0 ||
      decide (32 < config.maximumBaselinesPerRecipient))
    (.invalidArgument "replication configuration is invalid")

/-- The smallest box around the vertices of the arena. -/
def arenaBounds (vertices : List (Vec2 Float32)) :
    Except Exception (Aabb2 Float32) :=
  match vertices with
  | [] => .error (.invalidArgument "replication arena has no vertices")
  | first :: _ => do
    throwIf (!vertices.all Vec2.isFinite)
      (.invalidArgument "replication arena is not finite")
    let minimum := vertices.foldl (fun least vertex =>
      ⟨Scalar.min least.x vertex.x, Scalar.min least.z vertex.z⟩) first
    let maximum := vertices.foldl (fun greatest vertex =>
      ⟨Scalar.max greatest.x vertex.x, Scalar.max greatest.z vertex.z⟩) first
    throwIf (decide (maximum.x ≤ minimum.x) || decide (maximum.z ≤ minimum.z))
      (.invalidArgument "replication arena has no area")
    Aabb2.create minimum maximum

namespace Recipient

def findBaseline (recipient : Recipient) (snapshotId : UInt32) :
    Option ServerBaseline :=
  recipient.baselines.find? fun baseline => baseline.snapshotId == snapshotId

/-- Drop the oldest baseline, or the one after it when the oldest is the
acknowledged one and there is room for two. -/
def evictOne (maximum : Nat) (acknowledgedSnapshotId : UInt32) :
    List ServerBaseline → List ServerBaseline
  | [] => []
  | front :: rest =>
    if acknowledgedSnapshotId ≠ 0 ∧
        front.snapshotId = acknowledgedSnapshotId ∧ 1 < maximum then
      front :: rest.tail
    else rest

def evict (maximum : Nat) (acknowledgedSnapshotId : UInt32) :
    Nat → List ServerBaseline → List ServerBaseline
  | 0, baselines => baselines
  | excess + 1, baselines =>
    evict maximum acknowledgedSnapshotId excess
      (evictOne maximum acknowledgedSnapshotId baselines)

/-- Append a baseline and evict what exceeds the capacity. -/
def storeBaseline (recipient : Recipient) (maximum : Nat) (snapshotId : UInt32)
    (view : QuantizedWorld) : List ServerBaseline :=
  let baselines := recipient.baselines ++ [⟨snapshotId, view⟩]
  evict maximum recipient.acknowledgedSnapshotId
    (baselines.length - maximum) baselines

end Recipient

/-- What a build is about to send. -/
structure PayloadChoice where
  payload : SnapshotPayload
  view : Option QuantizedWorld := none
  keyframe : Bool := false
  fallbackKeyframe : Bool := false

/-- Everything a build computes before it changes the replicator. -/
structure PreparedBuild where
  candidateGrid : Option (InterestGrid Float32)
  visible : VisibleSet
  filtered : GameSnapshot
  view : Option QuantizedWorld
  build : ReplicationBuild

def buildQuantizedKeyframe (snapshotId : UInt32) (view : QuantizedWorld) :
    SnapshotPayload where
  header := {
    kind := .keyframe
    valueEncoding := .quantized
    payloadSnapshotId := snapshotId }
  global := view.global
  actorValues := view.actors
  lootValues := view.loot

namespace SnapshotReplicator

def create (vertices : List (Vec2 Float32)) (config : ReplicationConfig) :
    Except Exception SnapshotReplicator := do
  validateConfig config
  let bounds ← arenaBounds vertices
  let grid ← InterestGrid.create bounds config.cellSize
  let extent := bounds.maximum - bounds.minimum
  pure {
    config, bounds, grid
    radiusMaximum := Scalar.max extent.x extent.z * 0.5 }

def recipientFor (replicator : SnapshotReplicator) (player : PlayerId) :
    Except Exception Recipient :=
  replicator.recipients[player]?.elim
    (.error (.outOfRange "replication recipient is not registered")) .ok

def setRecipient (replicator : SnapshotReplicator) (player : PlayerId)
    (recipient : Recipient) : SnapshotReplicator :=
  { replicator with recipients := replicator.recipients.insert player recipient }

/-- The grid to query when it has to be rebuilt for a new snapshot. -/
def prepareGrid (replicator : SnapshotReplicator) (snapshotId : UInt32)
    (world : GameSnapshot) : Except Exception (Option (InterestGrid Float32)) :=
  if replicator.gridSnapshotId = some snapshotId then do
    throwIf (!replicator.gridWorld.any (·.equal world))
      (.invalidArgument "same snapshot ID has a different world")
    pure none
  else do
    throwIf (replicator.gridSnapshotId.any fun last => decide (snapshotId < last))
      (.invalidArgument "snapshot ID moved backward")
    let candidate ← InterestGrid.create replicator.bounds
      replicator.config.cellSize
    let rebuilt ← candidate.rebuild (gridActors world) (gridLoot world)
    pure (some rebuilt)

/-- The baseline to send a difference from, unless a keyframe is due. -/
def deltaBase (replicator : SnapshotReplicator) (recipient : Recipient) :
    Option ServerBaseline :=
  let nextOrdinal := recipient.buildOrdinal + 1
  let periodicKeyframe := recipient.lastKeyframeOrdinal == 0 ||
    decide (replicator.config.keyframeIntervalSnapshots ≤
      nextOrdinal - recipient.lastKeyframeOrdinal)
  if recipient.keyframeRequested || periodicKeyframe ||
      recipient.acknowledgedSnapshotId == 0 then none
  else recipient.findBaseline recipient.acknowledgedSnapshotId

def chooseDelta (replicator : SnapshotReplicator) (recipient : Recipient)
    (snapshotId : UInt32) (view : QuantizedWorld) :
    Except Exception PayloadChoice :=
  let acknowledged := recipient.acknowledgedSnapshotId
  let fallbackKeyframe := acknowledged != 0 &&
    (recipient.findBaseline acknowledged).isNone
  match replicator.deltaBase recipient with
  | none => .ok {
      payload := buildQuantizedKeyframe snapshotId view, view := some view
      keyframe := true, fallbackKeyframe }
  | some base => do
    let payload ← buildDeltaPayload acknowledged snapshotId base.view view
    pure { payload, view := some view, fallbackKeyframe }

def choosePayload (replicator : SnapshotReplicator) (recipient : Recipient)
    (snapshotId : UInt32) (filtered : GameSnapshot) :
    Except Exception PayloadChoice :=
  if replicator.config.mode = .interestFullPrecision then
    .ok {
      payload := {
        header := {
          kind := .keyframe
          valueEncoding := .fullPrecision
          payloadSnapshotId := snapshotId }
        fullPrecision := filtered }
      keyframe := true }
  else do
    let view ← quantizeView filtered replicator.bounds.minimum
      replicator.bounds.maximum replicator.radiusMaximum
    if replicator.config.mode = .interestDelta then
      replicator.chooseDelta recipient snapshotId view
    else
      pure {
        payload := buildQuantizedKeyframe snapshotId view, view := some view
        keyframe := true }

/-- The steps of an interest build that can throw. -/
def prepare (replicator : SnapshotReplicator) (recipient : Recipient)
    (snapshotId : UInt32) (world : GameSnapshot) :
    Except Exception PreparedBuild := do
  throwIf (!hasCanonicalWorldIds world)
    (.invalidArgument "interest world IDs are not canonical")
  let controlledActor ← (world.findActor recipient.controlledActor).elim
    (.error (.logicError "controlled actor is missing from world")) .ok
  let candidateGrid ← replicator.prepareGrid snapshotId world
  let visible ← (candidateGrid.getD replicator.grid).updateVisibility
    recipient.visible controlledActor.position.toSimulation
    replicator.config.enterRadius replicator.config.leaveRadius
  throwIf (lookup id recipient.controlledActor visible.actors).isNone
    (.logicError "controlled actor left its interest set")
  let filtered ← filterWorld world visible
  let choice ← replicator.choosePayload recipient snapshotId filtered
  let encodedPayload ← encodeSnapshotPayload choice.payload
  pure {
    candidateGrid, visible, filtered, view := choice.view
    build := {
      payload := choice.payload
      encodedPayload
      visibleActorCount := UInt32.ofNat visible.actors.length
      visibleLootCount := UInt32.ofNat visible.loot.length
      keyframe := choice.keyframe
      fallbackKeyframe := choice.fallbackKeyframe } }

def commitGrid (replicator : SnapshotReplicator) (snapshotId : UInt32)
    (world : GameSnapshot) (candidate : Option (InterestGrid Float32)) :
    SnapshotReplicator :=
  match candidate with
  | none => replicator
  | some grid => { replicator with
      grid, gridSnapshotId := some snapshotId, gridWorld := some world }

/-- The recipient after a build that succeeded. -/
def builtRecipient (replicator : SnapshotReplicator) (recipient : Recipient)
    (snapshotId : UInt32) (prepared : PreparedBuild) : Recipient :=
  let buildOrdinal := recipient.buildOrdinal + 1
  { recipient with
    baselines := prepared.view.elim recipient.baselines
      (recipient.storeBaseline replicator.config.maximumBaselinesPerRecipient
        snapshotId)
    visible := prepared.visible
    issuedHighWatermark := snapshotId
    buildOrdinal
    lastKeyframeOrdinal :=
      if prepared.build.keyframe then buildOrdinal
      else recipient.lastKeyframeOrdinal
    keyframeRequested := false }

def buildFullState (replicator : SnapshotReplicator) (player : PlayerId)
    (recipient : Recipient) (snapshotId : UInt32) (world : GameSnapshot) :
    SnapshotReplicator × Except Exception ReplicationBuild :=
  let payload : SnapshotPayload := {
    header := { payloadSnapshotId := snapshotId }
    fullPrecision := world }
  attempt replicator (encodeSnapshotPayload payload) fun encodedPayload =>
    (replicator.setRecipient player { recipient with
       issuedHighWatermark := snapshotId
       buildOrdinal := recipient.buildOrdinal + 1
       keyframeRequested := false },
     .ok {
       payload, encodedPayload
       visibleActorCount := UInt32.ofNat world.actors.length
       visibleLootCount := UInt32.ofNat world.loot.length
       keyframe := false
       fallbackKeyframe := false })

def build (replicator : SnapshotReplicator) (player : PlayerId)
    (snapshotId : UInt32) (world : GameSnapshot) :
    SnapshotReplicator × Except Exception ReplicationBuild :=
  attempt replicator (replicator.recipientFor player) fun recipient =>
    if snapshotId = 0 ∨ snapshotId ≤ recipient.issuedHighWatermark then
      (replicator,
        .error (.invalidArgument "snapshot ID is not increasing"))
    else if replicator.config.mode = .fullState then
      replicator.buildFullState player recipient snapshotId world
    else
      attempt replicator (replicator.prepare recipient snapshotId world)
        fun prepared =>
          ((replicator.commitGrid snapshotId world
              prepared.candidateGrid).setRecipient player
            (replicator.builtRecipient recipient snapshotId prepared),
           .ok prepared.build)

def registerRecipient (replicator : SnapshotReplicator) (player : PlayerId)
    (controlledActor : EntityId) : SnapshotReplicator × Except Exception Unit :=
  if replicator.recipients.contains player ||
      replicator.recipients.toList.any fun entry =>
        entry.2.controlledActor == controlledActor then
    (replicator,
      .error (.invalidArgument "replication recipient is duplicate"))
  else (replicator.setRecipient player { controlledActor }, .ok ())

/-- Forget the baselines older than a new acknowledgement. -/
def acceptAcknowledgement (replicator : SnapshotReplicator) (player : PlayerId)
    (snapshotId : UInt32) : SnapshotReplicator × Except Exception Bool :=
  attempt replicator (replicator.recipientFor player) fun recipient =>
    if snapshotId = 0 ∨ recipient.issuedHighWatermark < snapshotId then
      (replicator, .ok false)
    else if recipient.acknowledgedSnapshotId < snapshotId then
      (replicator.setRecipient player { recipient with
         acknowledgedSnapshotId := snapshotId
         baselines := recipient.baselines.dropWhile fun baseline =>
           decide (baseline.snapshotId < snapshotId) },
       .ok true)
    else (replicator, .ok true)

def requestKeyframe (replicator : SnapshotReplicator) (player : PlayerId) :
    SnapshotReplicator × Except Exception Unit :=
  attempt replicator (replicator.recipientFor player) fun recipient =>
    (replicator.setRecipient player { recipient with
       keyframeRequested := true }, .ok ())

def removeRecipient (replicator : SnapshotReplicator) (player : PlayerId) :
    SnapshotReplicator :=
  { replicator with recipients := replicator.recipients.erase player }

end SnapshotReplicator

end SurvivalArena
