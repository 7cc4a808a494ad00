import SurvivalArena.Simulation.Math2

/-!
# Match types

What the simulation reads and tells: commands, events, snapshots and the rules of a match.  An
enumeration has its named values only; nothing in the simulation makes another.
-/

namespace SurvivalArena

abbrev ActorId := UInt32
abbrev LootId := UInt32

inductive ActorRole where
  | contender
  | neutral
deriving DecidableEq

inductive NeutralArchetype where
  | none
  | melee
  | ranged
deriving DecidableEq

inductive WeaponType where
  | blade
  | rifle
  | arcPulse
deriving DecidableEq

inductive LootType where
  | rifle
  | arcPulse
  | medKit
deriving DecidableEq

inductive MatchPhase where
  | waiting
  | running
  | suddenDeath
  | finished
deriving DecidableEq

inductive SafeZoneStage where
  | stage1
  | stage2
  | stage3
  | stage4
  | suddenDeath
deriving DecidableEq

inductive MatchEndReason where
  | lastSurvivor
  | timeLimit
deriving DecidableEq

inductive ContenderExitReason where
  | disconnected
deriving DecidableEq

/-- In the order of their numbers. -/
inductive MatchEventType where
  | commandRejected
  | lootPickedUp
  | weaponChanged
  | actorHealed
  | damageApplied
  | actorDied
  | matchFinished
  | actorDisconnected
deriving DecidableEq

def MatchEventType.value : MatchEventType → UInt32
  | .commandRejected => 0
  | .lootPickedUp => 1
  | .weaponChanged => 2
  | .actorHealed => 3
  | .damageApplied => 4
  | .actorDied => 5
  | .matchFinished => 6
  | .actorDisconnected => 7

def WeaponType.value : WeaponType → UInt32
  | .blade => 0
  | .rifle => 1
  | .arcPulse => 2

structure MatchCommand (R : Type) where
  actor : ActorId := 0
  moveDestination : Option (Vec2 R) := none
  attackTarget : Option ActorId := none
deriving DecidableEq

structure MatchLifecycleCommand where
  actor : ActorId := 0
  reason : ContenderExitReason := .disconnected
deriving DecidableEq

structure MatchEvent where
  tick : UInt32 := 0
  type : MatchEventType := .commandRejected
  actor : ActorId := 0
  subject : Option ActorId := none
  loot : Option LootId := none
  amount : Int := 0
  weapon : Option WeaponType := none
deriving DecidableEq

structure ActorSnapshot (R : Type) where
  id : ActorId
  role : ActorRole
  neutralArchetype : NeutralArchetype
  position : Vec2 R
  health : Int
  alive : Bool
  weapon : WeaponType
  cooldownTicksRemaining : UInt32
  eliminations : UInt32
deriving DecidableEq

structure LootSnapshot (R : Type) where
  id : LootId
  type : LootType
  position : Vec2 R
  active : Bool
deriving DecidableEq

structure MatchResult where
  winner : ActorId := 0
  reason : MatchEndReason := .lastSurvivor
  finishedTick : UInt32 := 0
deriving DecidableEq

structure MatchSnapshot (R : Type) where
  tick : UInt32
  phase : MatchPhase
  safeZoneStage : SafeZoneStage
  safeZoneCenter : Vec2 R
  safeZoneRadius : R
  aliveContenders : UInt32
  actors : List (ActorSnapshot R)
  loot : List (LootSnapshot R)
  result : Option MatchResult
  eventChecksum : UInt64
deriving DecidableEq

/-! ## The configuration of a match

The rules of a match and what makes them acceptable.
-/

structure MatchConfig (R : Type) [Scalar R] where
  tickRate : UInt32 := 30
  contenderCount : UInt32 := 24
  meleeNeutralCount : UInt32 := 50
  rangedNeutralCount : UInt32 := 50
  rifleLootCount : UInt32 := 24
  arcPulseLootCount : UInt32 := 12
  medKitLootCount : UInt32 := 24
  botDecisionIntervalTicks : UInt32 := 6
  enableInternalBots : Bool := true
  maximumSpawnAttempts : UInt32 := 4096
  suddenDeathTick : UInt32 := 14400
  hardTimeoutTick : UInt32 := 18000
  seed : UInt32 := 20260823
  contenderSpeed : R := 6.0
  neutralSpeed : R := 4.5
  contenderPerceptionRadius : R := 18.0
  neutralPerceptionRadius : R := 10.0
  pickupRadius : R := 1.0
  contenderSpawnSpacing : R := 3.0
  neutralSpawnSpacing : R := 0.75
  arenaHalfExtent : R := 128.0
  contenderSpawnInnerRadius : R := 80.0
  contenderSpawnOuterRadius : R := 104.0

variable {R : Type} [Scalar R]

def defaultMatchConfig : MatchConfig R := {}

def isFinitePositive (value : R) : Bool :=
  Scalar.isFinite value && decide (0 < value)

namespace MatchConfig

def actorCount (config : MatchConfig R) : Nat :=
  config.contenderCount.toNat + config.meleeNeutralCount.toNat +
    config.rangedNeutralCount.toNat

def lootCount (config : MatchConfig R) : Nat :=
  config.rifleLootCount.toNat + config.arcPulseLootCount.toNat +
    config.medKitLootCount.toNat

end MatchConfig

/-- The number of different actor or loot ids. -/
def idCapacity : Nat := 2 ^ 32

def validateMatchConfig (config : MatchConfig R) : Except Exception Unit := do
  throwIf (config.tickRate != 30 || config.botDecisionIntervalTicks != 6)
    (.invalidArgument
      "match simulation contract must remain 30 Hz with six-tick bot decisions")
  throwIf (config.suddenDeathTick == 0 ||
      decide (config.hardTimeoutTick ≤ config.suddenDeathTick))
    (.invalidArgument "match timeout must follow a positive sudden-death tick")
  throwIf (decide (config.contenderCount < 2) || config.maximumSpawnAttempts == 0)
    (.invalidArgument "match requires two contenders and bounded spawn attempts")
  throwIf (decide (idCapacity < config.actorCount) ||
      decide (idCapacity < config.lootCount))
    (.invalidArgument "match population exceeds numeric ID capacity")
  throwIf (!isFinitePositive config.contenderSpeed ||
      !isFinitePositive config.neutralSpeed ||
      !isFinitePositive config.contenderPerceptionRadius ||
      !isFinitePositive config.neutralPerceptionRadius ||
      !isFinitePositive config.pickupRadius ||
      !isFinitePositive config.contenderSpawnSpacing ||
      !isFinitePositive config.neutralSpawnSpacing ||
      !isFinitePositive config.arenaHalfExtent)
    (.invalidArgument "match movement and query values must be finite and positive")
  throwIf (!Scalar.isFinite config.contenderSpawnInnerRadius ||
      !Scalar.isFinite config.contenderSpawnOuterRadius ||
      decide (config.contenderSpawnInnerRadius < 0) ||
      decide (config.contenderSpawnOuterRadius < config.contenderSpawnInnerRadius) ||
      decide (config.arenaHalfExtent < config.contenderSpawnOuterRadius))
    (.invalidArgument "contender spawn radii are invalid")

example : validateMatchConfig (defaultMatchConfig (R := Float32)) = .ok () := by
  decide +kernel

end SurvivalArena
