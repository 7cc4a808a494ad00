import SurvivalArena.Protocol.GameSnapshot

/-!
# Replication payloads

The three payload kinds and their bodies.  A delta record names the fields it
carries in a bit mask; the fields it does not carry keep their defaults.
-/

namespace SurvivalArena

structure SnapshotPayloadKind where
  value : UInt8
deriving DecidableEq

namespace SnapshotPayloadKind
def fullState : SnapshotPayloadKind := ⟨1⟩
def keyframe : SnapshotPayloadKind := ⟨2⟩
def delta : SnapshotPayloadKind := ⟨3⟩
end SnapshotPayloadKind

structure SnapshotValueEncoding where
  value : UInt8
deriving DecidableEq

namespace SnapshotValueEncoding
def fullPrecision : SnapshotValueEncoding := ⟨1⟩
def quantized : SnapshotValueEncoding := ⟨2⟩
end SnapshotValueEncoding

structure ActorField where
  value : UInt8
deriving DecidableEq

namespace ActorField
def none : ActorField := ⟨0⟩
def position : ActorField := ⟨1⟩
def healthAlive : ActorField := ⟨2⟩
def weaponCooldown : ActorField := ⟨4⟩
def eliminations : ActorField := ⟨8⟩
end ActorField

structure LootField where
  value : UInt8
deriving DecidableEq

namespace LootField
def none : LootField := ⟨0⟩
def active : LootField := ⟨1⟩
end LootField

structure GlobalField where
  value : UInt8
deriving DecidableEq

namespace GlobalField
def none : GlobalField := ⟨0⟩
def phase : GlobalField := ⟨1⟩
def safeZone : GlobalField := ⟨2⟩
def aliveContenders : GlobalField := ⟨4⟩
def result : GlobalField := ⟨8⟩
def eventChecksum : GlobalField := ⟨16⟩
end GlobalField

/-- No bit outside the known ones is set. -/
def hasOnlyKnownBits (value knownBits : UInt8) : Bool :=
  value &&& ~~~knownBits == 0

def hasBits (fields field : UInt8) : Bool :=
  fields &&& field != 0

instance : OrOp ActorField := ⟨fun left right => ⟨left.value ||| right.value⟩⟩
instance : OrOp GlobalField := ⟨fun left right => ⟨left.value ||| right.value⟩⟩

def allActorFields : ActorField :=
  .position ||| .healthAlive ||| .weaponCooldown ||| .eliminations

def allGlobalFields : GlobalField :=
  .phase ||| .safeZone ||| .aliveContenders ||| .result ||| .eventChecksum

def ActorField.has (fields field : ActorField) : Bool :=
  hasBits fields.value field.value

def GlobalField.has (fields field : GlobalField) : Bool :=
  hasBits fields.value field.value

def isValidActorFieldMask (fields : ActorField) : Bool :=
  hasOnlyKnownBits fields.value allActorFields.value

def isValidGlobalFieldMask (fields : GlobalField) : Bool :=
  hasOnlyKnownBits fields.value allGlobalFields.value

structure QuantizedVec2 where
  x : UInt16 := 0
  z : UInt16 := 0
deriving DecidableEq

structure QuantizedActorValue where
  id : EntityId := ⟨0⟩
  role : NetworkActorRole := .contender
  neutralArchetype : NetworkNeutralArchetype := .none
  position : QuantizedVec2 := {}
  health : UInt8 := 100
  alive : Bool := true
  weapon : NetworkWeaponType := .blade
  cooldownTicksRemaining : UInt16 := 0
  eliminations : UInt8 := 0
deriving DecidableEq

structure QuantizedLootValue where
  id : UInt32 := 0
  type : NetworkLootType := .rifle
  position : QuantizedVec2 := {}
  active : Bool := true
deriving DecidableEq

structure QuantizedGlobalValue where
  phase : NetworkMatchPhase := .waiting
  safeZoneStage : NetworkSafeZoneStage := .stage1
  safeZoneCenter : QuantizedVec2 := {}
  safeZoneRadius : UInt16 := 0
  aliveContenders : UInt8 := 0
  result : NetworkMatchResult := {}
  hasResult : Bool := false
  eventChecksum : UInt64 := 0
deriving DecidableEq

structure QuantizedActorDelta where
  id : EntityId := ⟨0⟩
  fields : ActorField := .none
  position : QuantizedVec2 := {}
  health : UInt8 := 100
  alive : Bool := true
  weapon : NetworkWeaponType := .blade
  cooldownTicksRemaining : UInt16 := 0
  eliminations : UInt8 := 0
deriving DecidableEq

structure QuantizedLootDelta where
  id : UInt32 := 0
  fields : LootField := .none
  active : Bool := true
deriving DecidableEq

structure QuantizedGlobalDelta where
  fields : GlobalField := .none
  phase : NetworkMatchPhase := .waiting
  safeZoneStage : NetworkSafeZoneStage := .stage1
  safeZoneCenter : QuantizedVec2 := {}
  safeZoneRadius : UInt16 := 0
  aliveContenders : UInt8 := 0
  result : NetworkMatchResult := {}
  hasResult : Bool := false
  eventChecksum : UInt64 := 0
deriving DecidableEq

structure SnapshotPayloadHeader where
  kind : SnapshotPayloadKind := .fullState
  valueEncoding : SnapshotValueEncoding := .fullPrecision
  baseSnapshotId : UInt32 := 0
  payloadSnapshotId : UInt32 := 0
deriving DecidableEq

structure SnapshotPayload where
  header : SnapshotPayloadHeader := {}
  fullPrecision : GameSnapshot := {}
  global : QuantizedGlobalValue := {}
  actorValues : List QuantizedActorValue := []
  lootValues : List QuantizedLootValue := []
  actorDeltas : List QuantizedActorDelta := []
  lootDeltas : List QuantizedLootDelta := []
  removedActors : List EntityId := []
  removedLoot : List UInt32 := []
  globalDelta : QuantizedGlobalDelta := {}
deriving DecidableEq

/-- The quantized world both ends keep as a baseline. -/
structure QuantizedWorld where
  global : QuantizedGlobalValue := {}
  actors : List QuantizedActorValue := []
  loot : List QuantizedLootValue := []
deriving DecidableEq

/-- The world a quantized keyframe carries. -/
def SnapshotPayload.worldFromKeyframe (payload : SnapshotPayload) :
    QuantizedWorld where
  global := payload.global
  actors := payload.actorValues
  loot := payload.lootValues

end SurvivalArena
