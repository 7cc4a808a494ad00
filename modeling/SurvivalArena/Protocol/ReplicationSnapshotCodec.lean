import SurvivalArena.Protocol.GameSnapshotCodec
import SurvivalArena.Protocol.ReplicationSnapshot

/-!
# Replication payload codec

Encoding validates the payload and writes it; decoding reads a payload, tests
its canonical order and validates it again.  The decoder's readers test only
what they need to go on, so the two sides agree through the validation.
-/

namespace SurvivalArena

open Wire KeyedList

inductive SnapshotPayloadDecodeError where
  | truncated
  | invalidValue
  | countLimit
  | nonCanonicalOrder
  | duplicateEntity
  | trailingBytes
deriving DecidableEq

instance : ReadErrors SnapshotPayloadDecodeError :=
  ⟨.truncated, .invalidValue, .countLimit⟩

inductive CanonicalOrder where
  | canonical
  | duplicate
  | outOfOrder
deriving DecidableEq

def checkCanonicalOrder {α κ : Type} [LinearOrder κ] (key : α → κ) :
    List α → CanonicalOrder
  | previous :: current :: values =>
    if key current = key previous then .duplicate
    else if key current < key previous then .outOfOrder
    else checkCanonicalOrder key (current :: values)
  | _ => .canonical

/-! ## Validation -/

def isValidPayloadKind (kind : SnapshotPayloadKind) : Bool :=
  kind == .fullState || kind == .keyframe || kind == .delta

def isValidValueEncoding (encoding : SnapshotValueEncoding) : Bool :=
  encoding == .fullPrecision || encoding == .quantized

def isValidResultState (phase : NetworkMatchPhase) (aliveContenders : UInt32)
    (hasResult : Bool) (result : NetworkMatchResult) : Bool :=
  hasResult == (phase == .finished) &&
    (!hasResult || aliveContenders == 1 && isValidEndReason result.reason)

def isValidHeader (header : SnapshotPayloadHeader) : Bool :=
  isValidPayloadKind header.kind &&
    isValidValueEncoding header.valueEncoding &&
    header.payloadSnapshotId != 0 &&
    if header.kind = .fullState then
      header.valueEncoding == .fullPrecision && header.baseSnapshotId == 0
    else if header.kind = .keyframe then header.baseSnapshotId == 0
    else
      header.valueEncoding == .quantized &&
        decide (0 < header.baseSnapshotId) &&
        decide (header.baseSnapshotId < header.payloadSnapshotId)

def isValidPrecisionActor (actor : NetworkActorSnapshot) : Bool :=
  isValidActor actor

def isValidQuantizedActor (actor : QuantizedActorValue) : Bool :=
  isValidActorIdentity actor.role actor.neutralArchetype &&
    isValidWeapon actor.weapon && decide (actor.health ≤ 100) &&
    actor.alive == decide (0 < actor.health)

def isValidQuantizedLoot (loot : QuantizedLootValue) : Bool :=
  isValidLootType loot.type

/-- Every field a delta does not carry has its default. -/
def hasActorDefaults (actor : QuantizedActorDelta) : Bool :=
  let defaults : QuantizedActorDelta := {}
  (actor.fields.has .position || actor.position == defaults.position) &&
    (actor.fields.has .healthAlive ||
      actor.health == defaults.health && actor.alive == defaults.alive) &&
    (actor.fields.has .weaponCooldown ||
      actor.weapon == defaults.weapon &&
        actor.cooldownTicksRemaining == defaults.cooldownTicksRemaining) &&
    (actor.fields.has .eliminations ||
      actor.eliminations == defaults.eliminations)

def isValidQuantizedActorDelta (actor : QuantizedActorDelta) : Bool :=
  actor.fields != .none && isValidActorFieldMask actor.fields &&
    hasActorDefaults actor &&
    (!actor.fields.has .healthAlive ||
      decide (actor.health ≤ 100) &&
        actor.alive == decide (0 < actor.health)) &&
    (!actor.fields.has .weaponCooldown || isValidWeapon actor.weapon)

def isValidPrecisionGlobal (snapshot : GameSnapshot) : Bool :=
  isValidPhase snapshot.phase && isValidSafeZoneStage snapshot.safeZoneStage &&
    snapshot.safeZoneCenter.isFinite && snapshot.safeZoneRadius.isFinite &&
    decide (0 ≤ snapshot.safeZoneRadius) &&
    decide (snapshot.aliveContenders.toNat ≤ roomCapacity) &&
    isValidResultState snapshot.phase snapshot.aliveContenders
      snapshot.hasResult snapshot.result

def isValidQuantizedGlobal (global : QuantizedGlobalValue) : Bool :=
  isValidPhase global.phase && isValidSafeZoneStage global.safeZoneStage &&
    decide (global.aliveContenders.toNat ≤ roomCapacity) &&
    isValidResultState global.phase global.aliveContenders.toUInt32
      global.hasResult global.result

def hasGlobalDefaults (global : QuantizedGlobalDelta) : Bool :=
  let defaults : QuantizedGlobalDelta := {}
  (global.fields.has .phase || global.phase == defaults.phase) &&
    (global.fields.has .safeZone ||
      global.safeZoneStage == defaults.safeZoneStage &&
        global.safeZoneCenter == defaults.safeZoneCenter &&
        global.safeZoneRadius == defaults.safeZoneRadius) &&
    (global.fields.has .aliveContenders ||
      global.aliveContenders == defaults.aliveContenders) &&
    (global.fields.has .result ||
      global.result == defaults.result &&
        global.hasResult == defaults.hasResult) &&
    (global.fields.has .eventChecksum ||
      global.eventChecksum == defaults.eventChecksum)

/-- The tests of a delta's result against the fields the delta carries. -/
def isValidDeltaResult (global : QuantizedGlobalDelta) : Bool :=
  !global.fields.has .result ||
    (!global.hasResult || isValidEndReason global.result.reason) &&
      (global.hasResult || global.result == {}) &&
      (!global.fields.has .phase ||
        global.hasResult == (global.phase == .finished)) &&
      (!global.hasResult || !global.fields.has .aliveContenders ||
        global.aliveContenders == 1)

def isValidQuantizedGlobalDelta (global : QuantizedGlobalDelta) : Bool :=
  isValidGlobalFieldMask global.fields && hasGlobalDefaults global &&
    (!global.fields.has .phase || isValidPhase global.phase) &&
    (!global.fields.has .safeZone ||
      isValidSafeZoneStage global.safeZoneStage) &&
    (!global.fields.has .aliveContenders ||
      decide (global.aliveContenders.toNat ≤ roomCapacity)) &&
    isValidDeltaResult global

def requireCanonical {α κ : Type} [LinearOrder κ] (key : α → κ)
    (values : List α) : Except Exception Unit :=
  throwIf (checkCanonicalOrder key values != .canonical)
    (.invalidArgument "snapshot IDs are not canonical")

/-- Some actor appears in two records of the payload. -/
def hasDuplicateActorCategory (payload : SnapshotPayload) : Bool :=
  hasAdjacentDuplicate id (sortByKey id
    (payload.actorValues.map (·.id.value) ++
      payload.actorDeltas.map (·.id.value) ++
      payload.removedActors.map (·.value)))

def hasDuplicateLootCategory (payload : SnapshotPayload) : Bool :=
  hasAdjacentDuplicate id (sortByKey id
    (payload.lootValues.map (·.id) ++ payload.lootDeltas.map (·.id) ++
      payload.removedLoot))

def hasDefaultPrecisionBody (payload : SnapshotPayload) : Bool :=
  payload.fullPrecision.equal {}

def hasDefaultQuantizedGlobal (payload : SnapshotPayload) : Bool :=
  payload.global == {}

def hasDefaultGlobalDelta (payload : SnapshotPayload) : Bool :=
  payload.globalDelta == {}

def validatePrecisionKeyframe (payload : SnapshotPayload) :
    Except Exception Unit := do
  let snapshot := payload.fullPrecision
  throwIf (!isValidPrecisionGlobal snapshot ||
      decide (maxSnapshotActors < snapshot.actors.length) ||
      decide (maxSnapshotLoot < snapshot.loot.length) ||
      !snapshot.actors.all isValidPrecisionActor ||
      !snapshot.loot.all isValidLoot)
    (.invalidArgument "full-precision keyframe is invalid")
  requireCanonical NetworkActorSnapshot.id snapshot.actors
  requireCanonical NetworkLootSnapshot.id snapshot.loot

def validateQuantizedKeyframe (payload : SnapshotPayload) :
    Except Exception Unit := do
  throwIf (!isValidQuantizedGlobal payload.global ||
      decide (maxSnapshotActors < payload.actorValues.length) ||
      decide (maxSnapshotLoot < payload.lootValues.length) ||
      !payload.actorValues.all isValidQuantizedActor ||
      !payload.lootValues.all isValidQuantizedLoot)
    (.invalidArgument "quantized keyframe is invalid")
  requireCanonical QuantizedActorValue.id payload.actorValues
  requireCanonical QuantizedLootValue.id payload.lootValues

def actorRecordCount (payload : SnapshotPayload) : Nat :=
  payload.actorValues.length + payload.actorDeltas.length +
    payload.removedActors.length

def lootRecordCount (payload : SnapshotPayload) : Nat :=
  payload.lootValues.length + payload.lootDeltas.length +
    payload.removedLoot.length

def validateDelta (payload : SnapshotPayload) : Except Exception Unit := do
  throwIf (decide (maxSnapshotActors < actorRecordCount payload) ||
      decide (maxSnapshotLoot < lootRecordCount payload))
    (.lengthError "delta record count exceeds snapshot bounds")
  throwIf (!isValidQuantizedGlobalDelta payload.globalDelta ||
      !payload.actorValues.all isValidQuantizedActor ||
      !payload.actorDeltas.all isValidQuantizedActorDelta ||
      !payload.lootValues.all isValidQuantizedLoot ||
      !payload.lootDeltas.all fun loot => loot.fields == .active)
    (.invalidArgument "delta payload is invalid")
  requireCanonical QuantizedActorValue.id payload.actorValues
  requireCanonical QuantizedActorDelta.id payload.actorDeltas
  requireCanonical id payload.removedActors
  requireCanonical QuantizedLootValue.id payload.lootValues
  requireCanonical QuantizedLootDelta.id payload.lootDeltas
  requireCanonical id payload.removedLoot
  throwIf (hasDuplicateActorCategory payload ||
      hasDuplicateLootCategory payload)
    (.invalidArgument "delta entity appears in multiple records")

def hasDeltaRecords (payload : SnapshotPayload) : Bool :=
  !payload.actorDeltas.isEmpty || !payload.lootDeltas.isEmpty ||
    !payload.removedActors.isEmpty || !payload.removedLoot.isEmpty ||
    !hasDefaultGlobalDelta payload

/-- The quantized values of a payload that carries none. -/
def hasQuantizedBody (payload : SnapshotPayload) : Bool :=
  !payload.actorValues.isEmpty || !payload.lootValues.isEmpty ||
    !hasDefaultQuantizedGlobal payload

def validatePayload (payload : SnapshotPayload) : Except Exception Unit := do
  throwIf (!isValidHeader payload.header)
    (.invalidArgument "snapshot payload header is invalid")
  if payload.header.kind = .fullState then
    throwIf (payload.header.valueEncoding != .fullPrecision ||
        hasDeltaRecords payload || hasQuantizedBody payload)
      (.invalidArgument "full-state payload has mixed bodies")
  else if payload.header.kind = .keyframe then
    throwIf (hasDeltaRecords payload)
      (.invalidArgument "keyframe payload has delta records")
    if payload.header.valueEncoding = .fullPrecision then
      throwIf (hasQuantizedBody payload)
        (.invalidArgument "full-precision keyframe has mixed bodies")
      validatePrecisionKeyframe payload
    else
      throwIf (!hasDefaultPrecisionBody payload)
        (.invalidArgument "quantized keyframe has mixed bodies")
      validateQuantizedKeyframe payload
  else
    throwIf (!hasDefaultPrecisionBody payload ||
        !hasDefaultQuantizedGlobal payload)
      (.invalidArgument "delta payload has mixed bodies")
    validateDelta payload

/-! ## Writing -/

def writeHeader (header : SnapshotPayloadHeader) : Bytes :=
  writeU8 header.kind.value ++ writeU8 header.valueEncoding.value ++
    writeU32 header.baseSnapshotId ++ writeU32 header.payloadSnapshotId

def writePrecisionKeyframe (snapshot : GameSnapshot) : Bytes :=
  writeGameSnapshot snapshot

def writeQuantizedVec2 (value : QuantizedVec2) : Bytes :=
  writeU16 value.x ++ writeU16 value.z

def writeQuantizedActor (actor : QuantizedActorValue) : Bytes :=
  writeU32 actor.id.value ++ writeU8 actor.role.value ++
    writeU8 actor.neutralArchetype.value ++
    writeQuantizedVec2 actor.position ++ writeU8 actor.health ++
    writeBool actor.alive ++ writeU8 actor.weapon.value ++
    writeU16 actor.cooldownTicksRemaining ++ writeU8 actor.eliminations

def writeQuantizedLoot (loot : QuantizedLootValue) : Bytes :=
  writeU32 loot.id ++ writeU8 loot.type.value ++
    writeQuantizedVec2 loot.position ++ writeBool loot.active

def writeQuantizedGlobal (global : QuantizedGlobalValue) : Bytes :=
  writeU8 global.phase.value ++ writeU8 global.safeZoneStage.value ++
    writeQuantizedVec2 global.safeZoneCenter ++
    writeU16 global.safeZoneRadius ++ writeU8 global.aliveContenders ++
    writeBool global.hasResult ++
    (if global.hasResult then writeResult global.result else []) ++
    writeU64 global.eventChecksum

def writeQuantizedKeyframe (payload : SnapshotPayload) : Bytes :=
  writeQuantizedGlobal payload.global ++
    writeVector writeQuantizedActor payload.actorValues ++
    writeVector writeQuantizedLoot payload.lootValues

/-- The bytes of a field group, when the mask has it. -/
def writeField (present : Bool) (bytes : Bytes) : Bytes :=
  if present then bytes else []

def writeGlobalDelta (global : QuantizedGlobalDelta) : Bytes :=
  writeU8 global.fields.value ++
    writeField (global.fields.has .phase) (writeU8 global.phase.value) ++
    writeField (global.fields.has .safeZone)
      (writeU8 global.safeZoneStage.value ++
        writeQuantizedVec2 global.safeZoneCenter ++
        writeU16 global.safeZoneRadius) ++
    writeField (global.fields.has .aliveContenders)
      (writeU8 global.aliveContenders) ++
    writeField (global.fields.has .result)
      (writeBool global.hasResult ++
        if global.hasResult then writeResult global.result else []) ++
    writeField (global.fields.has .eventChecksum)
      (writeU64 global.eventChecksum)

def writeActorDelta (actor : QuantizedActorDelta) : Bytes :=
  writeU32 actor.id.value ++ writeU8 actor.fields.value ++
    writeField (actor.fields.has .position)
      (writeQuantizedVec2 actor.position) ++
    writeField (actor.fields.has .healthAlive)
      (writeU8 actor.health ++ writeBool actor.alive) ++
    writeField (actor.fields.has .weaponCooldown)
      (writeU8 actor.weapon.value ++
        writeU16 actor.cooldownTicksRemaining) ++
    writeField (actor.fields.has .eliminations) (writeU8 actor.eliminations)

def writeLootDelta (loot : QuantizedLootDelta) : Bytes :=
  writeU32 loot.id ++ writeU8 loot.fields.value ++ writeBool loot.active

def writeDelta (payload : SnapshotPayload) : Bytes :=
  writeGlobalDelta payload.globalDelta ++
    writeVector writeQuantizedActor payload.actorValues ++
    writeVector writeActorDelta payload.actorDeltas ++
    writeVector (fun actor : EntityId => writeU32 actor.value)
      payload.removedActors ++
    writeVector writeQuantizedLoot payload.lootValues ++
    writeVector writeLootDelta payload.lootDeltas ++
    writeVector writeU32 payload.removedLoot

def writeBody (payload : SnapshotPayload) : Except Exception Bytes :=
  if payload.header.kind = .fullState then
    encodeGameSnapshot payload.fullPrecision
  else if payload.header.kind = .keyframe then
    if payload.header.valueEncoding = .fullPrecision then
      .ok (writePrecisionKeyframe payload.fullPrecision)
    else .ok (writeQuantizedKeyframe payload)
  else .ok (writeDelta payload)

def encodeSnapshotPayload (payload : SnapshotPayload) :
    Except Exception Bytes := do
  validatePayload payload
  let body ← writeBody payload
  limitPayload "replication snapshot exceeds payload limit"
    (writeHeader payload.header ++ body)

/-! ## Reading -/

/-- The readers of this codec stop with a payload decode error. -/
abbrev PayloadReader := Reader SnapshotPayloadDecodeError

def readHeader : PayloadReader SnapshotPayloadHeader := do
  let kind ← readU8
  let encoding ← readU8
  let baseSnapshotId ← readU32
  let payloadSnapshotId ← readU32
  pure {
    kind := ⟨kind⟩, valueEncoding := ⟨encoding⟩, baseSnapshotId,
    payloadSnapshotId }

def readPrecisionKeyframe : PayloadReader GameSnapshot :=
  readGameSnapshot

def readQuantizedVec2 : PayloadReader QuantizedVec2 := do
  let x ← readU16
  let z ← readU16
  pure { x, z }

def readQuantizedActor : PayloadReader QuantizedActorValue := do
  let id ← readU32
  let role ← readU8
  let archetype ← readU8
  let position ← readQuantizedVec2
  let health ← readU8
  let alive ← readU8
  let weapon ← readU8
  let cooldown ← readU16
  let eliminations ← readU8
  let alive ← boolOfU8 alive
  pure {
    id := ⟨id⟩, role := ⟨role⟩, neutralArchetype := ⟨archetype⟩, position,
    health, alive, weapon := ⟨weapon⟩, cooldownTicksRemaining := cooldown,
    eliminations }

def readQuantizedLoot : PayloadReader QuantizedLootValue := do
  let id ← readU32
  let type ← readU8
  let position ← readQuantizedVec2
  let active ← readBool
  pure { id, type := ⟨type⟩, position, active }

def readQuantizedGlobal : PayloadReader QuantizedGlobalValue := do
  let phase ← readU8
  let stage ← readU8
  let center ← readQuantizedVec2
  let radius ← readU16
  let aliveContenders ← readU8
  let hasResult ← readBool
  let result ← readOptionalResult hasResult
  let eventChecksum ← readU64
  pure {
    phase := ⟨phase⟩, safeZoneStage := ⟨stage⟩, safeZoneCenter := center,
    safeZoneRadius := radius, aliveContenders, result, hasResult,
    eventChecksum }

/-- A field group that keeps its default when the mask does not have it. -/
def readField {α : Type} (present : Bool) (readValue : PayloadReader α)
    (default : α) : PayloadReader α :=
  if present then readValue else pure default

def readSafeZone :
    PayloadReader (NetworkSafeZoneStage × QuantizedVec2 × UInt16) := do
  let stage ← readU8
  let center ← readQuantizedVec2
  let radius ← readU16
  pure (⟨stage⟩, center, radius)

def readDeltaResult : PayloadReader (Bool × NetworkMatchResult) := do
  let hasResult ← readBool
  let result ← readOptionalResult hasResult
  pure (hasResult, result)

def readGlobalDelta : PayloadReader QuantizedGlobalDelta := do
  let defaults : QuantizedGlobalDelta := {}
  let fields ← GlobalField.mk <$> readU8
  require (isValidGlobalFieldMask fields) .invalidValue
  let phase ← readField (fields.has .phase)
    (NetworkMatchPhase.mk <$> readU8) defaults.phase
  let safeZone ← readField (fields.has .safeZone) readSafeZone
    (defaults.safeZoneStage, defaults.safeZoneCenter, defaults.safeZoneRadius)
  let aliveContenders ← readField (fields.has .aliveContenders) readU8
    defaults.aliveContenders
  let result ← readField (fields.has .result) readDeltaResult
    (defaults.hasResult, defaults.result)
  let eventChecksum ← readField (fields.has .eventChecksum) readU64
    defaults.eventChecksum
  pure {
    fields, phase, safeZoneStage := safeZone.1, safeZoneCenter := safeZone.2.1,
    safeZoneRadius := safeZone.2.2, aliveContenders, result := result.2,
    hasResult := result.1, eventChecksum }

def readHealthAlive : PayloadReader (UInt8 × Bool) := do
  let health ← readU8
  let alive ← readBool
  pure (health, alive)

def readWeaponCooldown : PayloadReader (NetworkWeaponType × UInt16) := do
  let weapon ← readU8
  let cooldown ← readU16
  pure (⟨weapon⟩, cooldown)

def readActorDelta : PayloadReader QuantizedActorDelta := do
  let defaults : QuantizedActorDelta := {}
  let id ← readU32
  let fields ← ActorField.mk <$> readU8
  require (fields != .none && isValidActorFieldMask fields) .invalidValue
  let position ← readField (fields.has .position) readQuantizedVec2
    defaults.position
  let healthAlive ← readField (fields.has .healthAlive) readHealthAlive
    (defaults.health, defaults.alive)
  let weaponCooldown ← readField (fields.has .weaponCooldown)
    readWeaponCooldown (defaults.weapon, defaults.cooldownTicksRemaining)
  let eliminations ← readField (fields.has .eliminations) readU8
    defaults.eliminations
  pure {
    id := ⟨id⟩, fields, position, health := healthAlive.1,
    alive := healthAlive.2, weapon := weaponCooldown.1,
    cooldownTicksRemaining := weaponCooldown.2, eliminations }

def readRemovedActor : PayloadReader EntityId :=
  Tagged.mk <$> readU32

def readLootDelta : PayloadReader QuantizedLootDelta := do
  let id ← readU32
  let fields ← LootField.mk <$> readU8
  require (fields == .active) .invalidValue
  let active ← readBool
  pure { id, fields, active }

def readRemovedLoot : PayloadReader UInt32 :=
  readU32

def requireCanonicalOrder (order : CanonicalOrder) : PayloadReader Unit :=
  match order with
  | .canonical => pure ()
  | .duplicate => stop .duplicateEntity
  | .outOfOrder => stop .nonCanonicalOrder

def readQuantizedKeyframe (payload : SnapshotPayload) :
    PayloadReader SnapshotPayload := do
  let global ← readQuantizedGlobal
  let actorValues ← readBoundedVector maxSnapshotActors readQuantizedActor
  let lootValues ← readBoundedVector maxSnapshotLoot readQuantizedLoot
  pure { payload with global, actorValues, lootValues }

def validateKeyframeCanonicalOrder (payload : SnapshotPayload) :
    PayloadReader Unit :=
  if payload.header.valueEncoding = .fullPrecision then do
    requireCanonicalOrder
      (checkCanonicalOrder NetworkActorSnapshot.id payload.fullPrecision.actors)
    requireCanonicalOrder
      (checkCanonicalOrder NetworkLootSnapshot.id payload.fullPrecision.loot)
  else do
    requireCanonicalOrder
      (checkCanonicalOrder QuantizedActorValue.id payload.actorValues)
    requireCanonicalOrder
      (checkCanonicalOrder QuantizedLootValue.id payload.lootValues)

def readDelta (payload : SnapshotPayload) : PayloadReader SnapshotPayload := do
  let globalDelta ← readGlobalDelta
  let actorValues ← readBoundedVector maxSnapshotActors readQuantizedActor
  let actorDeltas ← readBoundedVector maxSnapshotActors readActorDelta
  let removedActors ← readBoundedVector maxSnapshotActors readRemovedActor
  let lootValues ← readBoundedVector maxSnapshotLoot readQuantizedLoot
  let lootDeltas ← readBoundedVector maxSnapshotLoot readLootDelta
  let removedLoot ← readBoundedVector maxSnapshotLoot readRemovedLoot
  let payload := { payload with
    globalDelta, actorValues, actorDeltas, removedActors, lootValues,
    lootDeltas, removedLoot }
  require (decide (actorRecordCount payload ≤ maxSnapshotActors) &&
    decide (lootRecordCount payload ≤ maxSnapshotLoot)) .countLimit
  pure payload

def validateDeltaCanonicalOrder (payload : SnapshotPayload) :
    PayloadReader Unit := do
  requireCanonicalOrder
    (checkCanonicalOrder QuantizedActorValue.id payload.actorValues)
  requireCanonicalOrder
    (checkCanonicalOrder QuantizedActorDelta.id payload.actorDeltas)
  requireCanonicalOrder (checkCanonicalOrder id payload.removedActors)
  requireCanonicalOrder
    (checkCanonicalOrder QuantizedLootValue.id payload.lootValues)
  requireCanonicalOrder
    (checkCanonicalOrder QuantizedLootDelta.id payload.lootDeltas)
  requireCanonicalOrder (checkCanonicalOrder id payload.removedLoot)
  require (!(hasDuplicateActorCategory payload ||
    hasDuplicateLootCategory payload)) .duplicateEntity

def gameSnapshotFailure : DecodeError → SnapshotPayloadDecodeError
  | .truncated => .truncated
  | .invalidValue => .invalidValue
  | .countLimit => .countLimit
  | .trailingBytes => .trailingBytes

/-- A full-state body takes all remaining bytes. -/
def readFullState : PayloadReader GameSnapshot :=
  fun input =>
    ((decodeGameSnapshot input).mapError gameSnapshotFailure).map (·, [])

def readKeyframe (payload : SnapshotPayload) :
    PayloadReader SnapshotPayload :=
  if payload.header.valueEncoding = .fullPrecision then do
    let fullPrecision ← readPrecisionKeyframe
    pure { payload with fullPrecision }
  else readQuantizedKeyframe payload

def readBody (payload : SnapshotPayload) : PayloadReader SnapshotPayload :=
  if payload.header.kind = .fullState then do
    let fullPrecision ← readFullState
    pure { payload with fullPrecision }
  else if payload.header.kind = .keyframe then do
    let payload ← readKeyframe payload
    validateKeyframeCanonicalOrder payload
    pure payload
  else do
    let payload ← readDelta payload
    validateDeltaCanonicalOrder payload
    pure payload

def validationFailure : Exception → SnapshotPayloadDecodeError
  | .lengthError _ => .countLimit
  | _ => .invalidValue

def readPayload : PayloadReader SnapshotPayload := do
  let header ← readHeader
  require (isValidHeader header) .invalidValue
  readBody { header }

def decodeSnapshotPayload (bytes : Bytes) :
    Except SnapshotPayloadDecodeError SnapshotPayload :=
  if maxSnapshotPayloadBytes < bytes.length then .error .countLimit
  else do
    let (payload, rest) ← readPayload bytes
    if !rest.isEmpty then .error .trailingBytes
    else do
      (validatePayload payload).mapError validationFailure
      pure payload

end SurvivalArena
