import SurvivalArena.Protocol.Quantization
import SurvivalArena.Replication.SnapshotDelta

/-!
# The client's snapshot stream

The client keeps a bounded queue of the worlds it published.  A keyframe
replaces the world, a delta updates the quantized world it names as its base; a
delta without that base asks for a keyframe.
-/

namespace SurvivalArena

open KeyedList

def maxClientSnapshotBuffer : Nat := 32

theorem maxClientSnapshotBuffer_fits : 0 < maxClientSnapshotBuffer ∧
    maxClientSnapshotBuffer ≤ maxClientSnapshotBuffer := by
  decide

/-- The bounds of the arena and of the safe-zone radius on the client. -/
def clientArenaBounds : QuantizationBounds :=
  ⟨-128, 128, by decide +kernel, by decide +kernel⟩

def clientRadiusBounds : QuantizationBounds :=
  ⟨0, 128, by decide +kernel, by decide +kernel⟩

def dequantizeVec2 (position : QuantizedVec2) : NetworkVec2 where
  x := dequantizeCoordinate position.x clientArenaBounds
  z := dequantizeCoordinate position.z clientArenaBounds

def dequantizeActor (actor : QuantizedActorValue) : NetworkActorSnapshot where
  id := actor.id
  role := actor.role
  neutralArchetype := actor.neutralArchetype
  position := dequantizeVec2 actor.position
  health := actor.health.toUInt32.toInt32
  alive := actor.alive
  weapon := actor.weapon
  cooldownTicksRemaining := actor.cooldownTicksRemaining.toUInt32
  eliminations := actor.eliminations.toUInt32

def dequantizeLoot (loot : QuantizedLootValue) : NetworkLootSnapshot where
  id := loot.id
  type := loot.type
  position := dequantizeVec2 loot.position
  active := loot.active

def dequantizeWorld (source : QuantizedWorld) : GameSnapshot where
  phase := source.global.phase
  safeZoneStage := source.global.safeZoneStage
  safeZoneCenter := dequantizeVec2 source.global.safeZoneCenter
  safeZoneRadius :=
    dequantizeCoordinate source.global.safeZoneRadius clientRadiusBounds
  aliveContenders := source.global.aliveContenders.toUInt32
  actors := source.actors.map dequantizeActor
  loot := source.loot.map dequantizeLoot
  result := source.global.result
  hasResult := source.global.hasResult
  eventChecksum := source.global.eventChecksum

def actorIds (world : GameSnapshot) : List EntityId :=
  sortByKey id (world.actors.map NetworkActorSnapshot.id)

structure ClientBaseline where
  snapshotId : UInt32
  quantized : Option QuantizedWorld
  world : GameSnapshot

structure SnapshotApplyResult where
  world : Option GameSnapshot := none
  removedActors : List EntityId := []
  reenteredActors : List EntityId := []
  acknowledgedSnapshotId : UInt32 := 0
  requestKeyframe : Bool := false

structure ClientSnapshotStream where
  maximumBaselines : Nat
  baselines : List ClientBaseline := []
  highestSeenSnapshotId : Option UInt32 := none
  acknowledgedSnapshotId : UInt32 := 0
  requestKeyframe : Bool := false
  capacity : 0 < maximumBaselines ∧ maximumBaselines ≤ maxClientSnapshotBuffer

namespace ClientSnapshotStream

def create (maximumBaselines : Nat) : Except Exception ClientSnapshotStream :=
  if capacity : 0 < maximumBaselines ∧
      maximumBaselines ≤ maxClientSnapshotBuffer then
    .ok { maximumBaselines, capacity }
  else
    .error (.invalidArgument "client snapshot baseline capacity is invalid")

def findBaseline (stream : ClientSnapshotStream) (snapshotId : UInt32) :
    Option ClientBaseline :=
  stream.baselines.find? fun baseline => baseline.snapshotId == snapshotId

/-- The quantized world a delta can be applied to. -/
def quantizedBaseline (stream : ClientSnapshotStream) (snapshotId : UInt32) :
    Option QuantizedWorld :=
  (stream.findBaseline snapshotId).bind ClientBaseline.quantized

def latestWorld (stream : ClientSnapshotStream) : Option GameSnapshot :=
  stream.baselines.getLast?.map ClientBaseline.world

/-- Append a baseline and drop the oldest ones beyond the capacity. -/
def store (stream : ClientSnapshotStream) (baseline : ClientBaseline) :
    ClientSnapshotStream :=
  let baselines := stream.baselines ++ [baseline]
  { stream with
    baselines := baselines.drop (baselines.length - stream.maximumBaselines) }

def currentResult (stream : ClientSnapshotStream) : SnapshotApplyResult where
  acknowledgedSnapshotId := stream.acknowledgedSnapshotId
  requestKeyframe := stream.requestKeyframe

/-- The id is not above every id the stream has been given. -/
def hasSeen (stream : ClientSnapshotStream) (snapshotId : UInt32) : Bool :=
  stream.highestSeenSnapshotId.any fun highest => decide (snapshotId ≤ highest)

/-- The actors that left and entered since the latest published world. -/
def findActorTransitions (previous : Option GameSnapshot)
    (current : GameSnapshot) : List EntityId × List EntityId :=
  let before := previous.elim [] actorIds
  let after := actorIds current
  (before.diff after, after.diff before)

/-- Publish a world: store it as a baseline and acknowledge it. -/
def publish (stream : ClientSnapshotStream) (snapshotId : UInt32)
    (kind : SnapshotPayloadKind) (quantized : Option QuantizedWorld)
    (world : GameSnapshot) (transitions : List EntityId × List EntityId) :
    ClientSnapshotStream × Except Exception SnapshotApplyResult :=
  let reenteredActors :=
    if stream.requestKeyframe && kind == .keyframe then actorIds world
    else transitions.2
  ({ stream.store { snapshotId, quantized, world } with
     acknowledgedSnapshotId := snapshotId
     requestKeyframe := false },
   .ok {
     world := some world
     removedActors := transitions.1
     reenteredActors
     acknowledgedSnapshotId := snapshotId })

/-- A payload with an id above every earlier one. -/
def applyNew (stream : ClientSnapshotStream) (snapshotId : UInt32)
    (payload : SnapshotPayload) :
    ClientSnapshotStream × Except Exception SnapshotApplyResult :=
  if payload.header.kind = .fullState ∨
      payload.header.kind = .keyframe ∧
        payload.header.valueEncoding = .fullPrecision then
    let world := payload.fullPrecision
    stream.publish snapshotId payload.header.kind none world
      (findActorTransitions stream.latestWorld world)
  else if payload.header.kind = .keyframe then
    let world := dequantizeWorld payload.worldFromKeyframe
    stream.publish snapshotId payload.header.kind (some payload.worldFromKeyframe) world
      (findActorTransitions stream.latestWorld world)
  else
    match stream.quantizedBaseline payload.header.baseSnapshotId with
    | none =>
      let stream := { stream with requestKeyframe := true }
      (stream, .ok stream.currentResult)
    | some base =>
      attempt stream (applyDelta base payload) fun quantized =>
        stream.publish snapshotId payload.header.kind (some quantized)
          (dequantizeWorld quantized)
          (payload.removedActors,
            payload.actorValues.map QuantizedActorValue.id)

def apply (stream : ClientSnapshotStream) (snapshotId : UInt32)
    (payload : SnapshotPayload) :
    ClientSnapshotStream × Except Exception SnapshotApplyResult :=
  if snapshotId = 0 ∨ payload.header.payloadSnapshotId ≠ snapshotId then
    (stream, .error (.invalidArgument "snapshot payload identity mismatch"))
  else
    attempt stream (encodeSnapshotPayload payload) fun _ =>
      if stream.hasSeen snapshotId then (stream, .ok stream.currentResult)
      else
        applyNew { stream with highestSeenSnapshotId := some snapshotId }
          snapshotId payload

/-! ## What an application can do -/

theorem create_baselines {maximumBaselines : Nat} {stream : ClientSnapshotStream}
    (h : create maximumBaselines = .ok stream) : stream.baselines = [] := by
  unfold create at h
  split at h
  · obtain rfl := Except.ok.inj h
    rfl
  · cases h

/-- The world an application publishes, if it does. -/
def publishedWorld (outcome : Except Exception SnapshotApplyResult) :
    Option GameSnapshot :=
  outcome.toOption.bind SnapshotApplyResult.world

/-- The stream merges the payload, a delta, into `base`. -/
structure Merges (stream : ClientSnapshotStream) (snapshotId : UInt32)
    (payload : SnapshotPayload) (base : QuantizedWorld) : Prop where
  identity : snapshotId ≠ 0 ∧ payload.header.payloadSnapshotId = snapshotId
  unseen : stream.hasSeen snapshotId = false
  kind : payload.header.kind ≠ .fullState ∧ payload.header.kind ≠ .keyframe
  baseline : stream.quantizedBaseline payload.header.baseSnapshotId = some base
  applies : ∃ applied, applyDelta base payload = .ok applied

/-- Where a published world and its quantized form come from. -/
inductive Source (stream : ClientSnapshotStream) (snapshotId : UInt32)
    (payload : SnapshotPayload) : Option QuantizedWorld → GameSnapshot → Prop
  | precision (kind : payload.header.kind = .fullState ∨
      payload.header.kind = .keyframe ∧
        payload.header.valueEncoding = .fullPrecision) :
    Source stream snapshotId payload none payload.fullPrecision
  | keyframe (kind : payload.header.kind = .keyframe)
      (encoding : payload.header.valueEncoding ≠ .fullPrecision) :
    Source stream snapshotId payload (some payload.worldFromKeyframe)
      (dequantizeWorld payload.worldFromKeyframe)
  | delta (base applied : QuantizedWorld)
      (merges : stream.Merges snapshotId payload base)
      (applied_eq : applyDelta base payload = .ok applied) :
    Source stream snapshotId payload (some applied) (dequantizeWorld applied)

/-- The two kinds of steps: one that publishes nothing and keeps the baselines,
and one that stores and publishes a world. -/
inductive Step (stream : ClientSnapshotStream) (snapshotId : UInt32)
    (payload : SnapshotPayload) :
    ClientSnapshotStream × Except Exception SnapshotApplyResult → Prop
  | silent (next : ClientSnapshotStream)
      (outcome : Except Exception SnapshotApplyResult)
      (unpublished : publishedWorld outcome = none)
      (baselines : next.baselines = stream.baselines)
      (highest : next.highestSeenSnapshotId = stream.highestSeenSnapshotId ∨
        stream.hasSeen snapshotId = false ∧
          next.highestSeenSnapshotId = some snapshotId)
      (unmerged : (∃ bytes, encodeSnapshotPayload payload = .ok bytes) →
        ∀ base, ¬stream.Merges snapshotId payload base) :
    Step stream snapshotId payload (next, outcome)
  | published (next : ClientSnapshotStream)
      (outcome : Except Exception SnapshotApplyResult)
      (quantized : Option QuantizedWorld) (world : GameSnapshot)
      (source : stream.Source snapshotId payload quantized world)
      (world_eq : publishedWorld outcome = some world)
      (baselines : next.baselines =
        (stream.store { snapshotId, quantized, world }).baselines)
      (unseen : stream.hasSeen snapshotId = false)
      (highest : next.highestSeenSnapshotId = some snapshotId) :
    Step stream snapshotId payload (next, outcome)

private theorem applyNew_step {stream : ClientSnapshotStream}
    {snapshotId : UInt32} {payload : SnapshotPayload}
    (hidentity : snapshotId ≠ 0 ∧
      payload.header.payloadSnapshotId = snapshotId)
    (hunseen : stream.hasSeen snapshotId = false) :
    stream.Step snapshotId payload
      (applyNew { stream with highestSeenSnapshotId := some snapshotId }
        snapshotId payload) := by
  unfold applyNew
  split_ifs with hprecision hkey
  · exact .published _ _ _ _ (.precision hprecision) rfl rfl hunseen rfl
  · have hencoding : payload.header.valueEncoding ≠ .fullPrecision :=
      fun h => hprecision (Or.inr ⟨hkey, h⟩)
    exact .published _ _ _ _ (.keyframe hkey hencoding) rfl rfl hunseen rfl
  · have hkind : payload.header.kind ≠ .fullState ∧
        payload.header.kind ≠ .keyframe :=
      ⟨fun h => hprecision (Or.inl h), hkey⟩
    change stream.Step snapshotId payload (match stream.quantizedBaseline
      payload.header.baseSnapshotId with
      | none => _
      | some base => _)
    cases hbase : stream.quantizedBaseline payload.header.baseSnapshotId with
    | none =>
      refine .silent _ _ rfl rfl (Or.inr ⟨hunseen, rfl⟩) fun _ base hmerges => ?_
      rw [hmerges.baseline] at hbase
      cases hbase
    | some base =>
      refine attempt_induct (P := stream.Step snapshotId payload) ?_ ?_
      · intro e he
        refine .silent _ _ rfl rfl (Or.inr ⟨hunseen, rfl⟩)
          fun _ base' hmerges => ?_
        obtain ⟨applied, happly⟩ := hmerges.applies
        obtain rfl := Option.some.inj (hmerges.baseline.symm.trans hbase)
        rw [he] at happly
        cases happly
      · intro applied happly
        have hmerges : stream.Merges snapshotId payload base :=
          ⟨hidentity, hunseen, hkind, hbase, applied, happly⟩
        exact .published _ _ _ _ (.delta base applied hmerges happly) rfl rfl
          hunseen rfl

/-- Every application is one of the two kinds of steps. -/
theorem apply_step (stream : ClientSnapshotStream) (snapshotId : UInt32)
    (payload : SnapshotPayload) :
    stream.Step snapshotId payload (stream.apply snapshotId payload) := by
  unfold apply
  split
  · rename_i hidentity
    refine .silent _ _ rfl rfl (Or.inl rfl) fun _ base hmerges => ?_
    exact hidentity.elim hmerges.identity.1 fun h => h hmerges.identity.2
  · rename_i hidentity
    obtain ⟨hpositive, hmatch⟩ := not_or.mp hidentity
    refine attempt_induct (P := stream.Step snapshotId payload) ?_ ?_
    · intro e he
      refine .silent _ _ rfl rfl (Or.inl rfl) ?_
      rintro ⟨bytes, hbytes⟩
      rw [he] at hbytes
      cases hbytes
    · intro bytes hbytes
      split_ifs with hseen
      · refine .silent _ _ rfl rfl (Or.inl rfl) fun _ base hmerges => ?_
        rw [hmerges.unseen] at hseen
        cases hseen
      · exact applyNew_step ⟨hpositive, not_not.mp hmatch⟩
          (Bool.eq_false_iff.mpr hseen)

end ClientSnapshotStream

end SurvivalArena
