import SurvivalArena.Protocol.GameSnapshot
import SurvivalArena.Simulation.OfflineMatch

/-!
# Snapshots of the simulation on the wire
-/

namespace SurvivalArena

def ActorRole.toNetwork : ActorRole → NetworkActorRole
  | .contender => .contender
  | .neutral => .neutral

def NeutralArchetype.toNetwork : NeutralArchetype → NetworkNeutralArchetype
  | .none => .none
  | .melee => .melee
  | .ranged => .ranged

def WeaponType.toNetwork : WeaponType → NetworkWeaponType
  | .blade => .blade
  | .rifle => .rifle
  | .arcPulse => .arcPulse

def LootType.toNetwork : LootType → NetworkLootType
  | .rifle => .rifle
  | .arcPulse => .arcPulse
  | .medKit => .medKit

def MatchPhase.toNetwork : MatchPhase → NetworkMatchPhase
  | .waiting => .waiting
  | .running => .running
  | .suddenDeath => .suddenDeath
  | .finished => .finished

def SafeZoneStage.toNetwork : SafeZoneStage → NetworkSafeZoneStage
  | .stage1 => .stage1
  | .stage2 => .stage2
  | .stage3 => .stage3
  | .stage4 => .stage4
  | .suddenDeath => .suddenDeath

def MatchEndReason.toNetwork : MatchEndReason → NetworkMatchEndReason
  | .lastSurvivor => .lastSurvivor
  | .timeLimit => .timeLimit

def Vec2.toNetwork (value : Vec2 Float32) : NetworkVec2 :=
  ⟨value.x, value.z⟩

def ActorSnapshot.toNetwork (actor : ActorSnapshot Float32) : NetworkActorSnapshot where
  id := ⟨actor.id⟩
  role := actor.role.toNetwork
  neutralArchetype := actor.neutralArchetype.toNetwork
  position := actor.position.toNetwork
  health := Int32.ofInt actor.health
  alive := actor.alive
  weapon := actor.weapon.toNetwork
  cooldownTicksRemaining := actor.cooldownTicksRemaining
  eliminations := actor.eliminations

def LootSnapshot.toNetwork (loot : LootSnapshot Float32) : NetworkLootSnapshot where
  id := loot.id
  type := loot.type.toNetwork
  position := loot.position.toNetwork
  active := loot.active

def MatchResult.toNetwork (result : MatchResult) : NetworkMatchResult where
  winner := ⟨result.winner⟩
  reason := result.reason.toNetwork
  finishedTick := result.finishedTick

def toGameSnapshot (snapshot : MatchSnapshot Float32) : GameSnapshot where
  phase := snapshot.phase.toNetwork
  safeZoneStage := snapshot.safeZoneStage.toNetwork
  safeZoneCenter := snapshot.safeZoneCenter.toNetwork
  safeZoneRadius := snapshot.safeZoneRadius
  aliveContenders := snapshot.aliveContenders
  actors := snapshot.actors.map ActorSnapshot.toNetwork
  loot := snapshot.loot.map LootSnapshot.toNetwork
  result := snapshot.result.elim {} MatchResult.toNetwork
  hasResult := snapshot.result.isSome
  eventChecksum := snapshot.eventChecksum

end SurvivalArena
