import SurvivalArena.Protocol.LobbyTypes

/-!
# Game snapshots

The world a server sends.  An enumeration of the wire format is any byte: the
decoders cast before they check, so a value outside the named constants exists
until a validity check rejects it.  A `float` is Lean's `Float32`, whose `==` is
the IEEE comparison; equality of bit patterns is `=`.
-/

namespace SurvivalArena

def maxSnapshotActors : Nat := 124
def maxSnapshotLoot : Nat := 60
def maxSnapshotPayloadBytes : Nat := 37056

structure NetworkActorRole where
  value : UInt8
deriving DecidableEq

namespace NetworkActorRole
def contender : NetworkActorRole := ⟨1⟩
def neutral : NetworkActorRole := ⟨2⟩
end NetworkActorRole

structure NetworkNeutralArchetype where
  value : UInt8
deriving DecidableEq

namespace NetworkNeutralArchetype
def none : NetworkNeutralArchetype := ⟨0⟩
def melee : NetworkNeutralArchetype := ⟨1⟩
def ranged : NetworkNeutralArchetype := ⟨2⟩
end NetworkNeutralArchetype

structure NetworkWeaponType where
  value : UInt8
deriving DecidableEq

namespace NetworkWeaponType
def blade : NetworkWeaponType := ⟨1⟩
def rifle : NetworkWeaponType := ⟨2⟩
def arcPulse : NetworkWeaponType := ⟨3⟩
end NetworkWeaponType

structure NetworkLootType where
  value : UInt8
deriving DecidableEq

namespace NetworkLootType
def rifle : NetworkLootType := ⟨1⟩
def arcPulse : NetworkLootType := ⟨2⟩
def medKit : NetworkLootType := ⟨3⟩
end NetworkLootType

structure NetworkMatchPhase where
  value : UInt8
deriving DecidableEq

namespace NetworkMatchPhase
def waiting : NetworkMatchPhase := ⟨1⟩
def running : NetworkMatchPhase := ⟨2⟩
def suddenDeath : NetworkMatchPhase := ⟨3⟩
def finished : NetworkMatchPhase := ⟨4⟩
end NetworkMatchPhase

structure NetworkSafeZoneStage where
  value : UInt8
deriving DecidableEq

namespace NetworkSafeZoneStage
def stage1 : NetworkSafeZoneStage := ⟨1⟩
def stage2 : NetworkSafeZoneStage := ⟨2⟩
def stage3 : NetworkSafeZoneStage := ⟨3⟩
def stage4 : NetworkSafeZoneStage := ⟨4⟩
def suddenDeath : NetworkSafeZoneStage := ⟨5⟩
end NetworkSafeZoneStage

structure NetworkMatchEndReason where
  value : UInt8
deriving DecidableEq

namespace NetworkMatchEndReason
def lastSurvivor : NetworkMatchEndReason := ⟨1⟩
def timeLimit : NetworkMatchEndReason := ⟨2⟩
end NetworkMatchEndReason

structure NetworkVec2 where
  x : Float32 := 0
  z : Float32 := 0
deriving DecidableEq

/-- The memberwise comparison of the source. -/
def NetworkVec2.equal (left right : NetworkVec2) : Bool :=
  left.x == right.x && left.z == right.z

structure NetworkActorSnapshot where
  id : EntityId := ⟨0⟩
  role : NetworkActorRole := .contender
  neutralArchetype : NetworkNeutralArchetype := .none
  position : NetworkVec2 := {}
  health : Int32 := 100
  alive : Bool := true
  weapon : NetworkWeaponType := .blade
  cooldownTicksRemaining : UInt32 := 0
  eliminations : UInt32 := 0
deriving DecidableEq

def NetworkActorSnapshot.equal (left right : NetworkActorSnapshot) : Bool :=
  left.id == right.id && left.role == right.role &&
    left.neutralArchetype == right.neutralArchetype &&
    left.position.equal right.position && left.health == right.health &&
    left.alive == right.alive && left.weapon == right.weapon &&
    left.cooldownTicksRemaining == right.cooldownTicksRemaining &&
    left.eliminations == right.eliminations

structure NetworkLootSnapshot where
  id : UInt32 := 0
  type : NetworkLootType := .rifle
  position : NetworkVec2 := {}
  active : Bool := true
deriving DecidableEq

def NetworkLootSnapshot.equal (left right : NetworkLootSnapshot) : Bool :=
  left.id == right.id && left.type == right.type &&
    left.position.equal right.position && left.active == right.active

structure NetworkMatchResult where
  winner : EntityId := ⟨0⟩
  reason : NetworkMatchEndReason := .lastSurvivor
  finishedTick : UInt32 := 0
deriving DecidableEq

structure GameSnapshot where
  phase : NetworkMatchPhase := .waiting
  safeZoneStage : NetworkSafeZoneStage := .stage1
  safeZoneCenter : NetworkVec2 := {}
  safeZoneRadius : Float32 := 128
  aliveContenders : UInt32 := 0
  actors : List NetworkActorSnapshot := []
  loot : List NetworkLootSnapshot := []
  result : NetworkMatchResult := {}
  hasResult : Bool := false
  eventChecksum : UInt64 := 0
deriving DecidableEq

/-- Elementwise comparison of two vectors. -/
def equalVectors {α : Type} (equal : α → α → Bool) : List α → List α → Bool
  | [], [] => true
  | a :: as, b :: bs => equal a b && equalVectors equal as bs
  | _, _ => false

def GameSnapshot.equal (left right : GameSnapshot) : Bool :=
  left.phase == right.phase && left.safeZoneStage == right.safeZoneStage &&
    left.safeZoneCenter.equal right.safeZoneCenter &&
    left.safeZoneRadius == right.safeZoneRadius &&
    left.aliveContenders == right.aliveContenders &&
    equalVectors NetworkActorSnapshot.equal left.actors right.actors &&
    equalVectors NetworkLootSnapshot.equal left.loot right.loot &&
    left.result == right.result && left.hasResult == right.hasResult &&
    left.eventChecksum == right.eventChecksum

end SurvivalArena
