import SurvivalArena.Simulation.Combat
import SurvivalArena.Simulation.SafeZone

/-!
# Bot decisions

What a bot contender and a neutral actor do, given what they perceive.  The reasons
that the source attaches to a decision for its tests are left out.
-/

namespace SurvivalArena

/-! ## Behavior trees

The controllers of the neutral actors: a tree of conditions and actions over what an
actor knows.
-/

inductive AiArchetype where
  | melee
  | ranged
deriving DecidableEq

inductive AiCommandType where
  | idle
  | moveToTarget
  | moveAwayFromTarget
  | attack
deriving DecidableEq

structure AiBlackboard (R : Type) where
  selfPosition : Vec2 R
  targetPosition : Vec2 R
  hasTarget : Bool := false
  cooldownReady : Bool := false
  attackRange : R
  preferredRange : R
  retreatRange : R

inductive BehaviorStatus where
  | success
  | failure
deriving DecidableEq

structure BehaviorContext (R : Type) where
  blackboard : AiBlackboard R
  distanceToTarget : R
  command : AiCommandType := .idle

inductive BehaviorCondition where
  | hasTarget
  | attackRange
  | cooldown
  | retreatRange
deriving DecidableEq

inductive BehaviorNode where
  | condition (test : BehaviorCondition)
  | action (command : AiCommandType)
  | sequence (children : List BehaviorNode)
  | selector (children : List BehaviorNode)

variable {R : Type} [Scalar R]

def BehaviorCondition.holds (context : BehaviorContext R) : BehaviorCondition → Bool
  | .hasTarget => context.blackboard.hasTarget
  | .attackRange => decide (context.distanceToTarget ≤ context.blackboard.attackRange)
  | .cooldown => context.blackboard.cooldownReady
  | .retreatRange => decide (context.distanceToTarget < context.blackboard.retreatRange)

namespace BehaviorNode

mutual

def tick (context : BehaviorContext R) :
    BehaviorNode → BehaviorContext R × BehaviorStatus
  | .condition test =>
    (context, if test.holds context then .success else .failure)
  | .action command => ({ context with command := command }, .success)
  | .sequence children => tickSequence context children
  | .selector children => tickSelector context children

/-- The children in turn until one does not succeed. -/
def tickSequence (context : BehaviorContext R) :
    List BehaviorNode → BehaviorContext R × BehaviorStatus
  | [] => (context, .success)
  | child :: children =>
    match tick context child with
    | (context, .success) => tickSequence context children
    | (context, .failure) => (context, .failure)

/-- The children in turn until one does not fail. -/
def tickSelector (context : BehaviorContext R) :
    List BehaviorNode → BehaviorContext R × BehaviorStatus
  | [] => (context, .failure)
  | child :: children =>
    match tick context child with
    | (context, .failure) => tickSelector context children
    | (context, .success) => (context, .success)

end

end BehaviorNode

def attackSequence : BehaviorNode :=
  .sequence [.condition .hasTarget, .condition .attackRange, .condition .cooldown,
    .action .attack]

def chaseSequence : BehaviorNode :=
  .sequence [.condition .hasTarget, .action .moveToTarget]

def retreatSequence : BehaviorNode :=
  .sequence [.condition .hasTarget, .condition .retreatRange, .action .moveAwayFromTarget]

/-- The tree of a controller. -/
def behaviorTreeAiController : AiArchetype → BehaviorNode
  | .melee => .selector [attackSequence, chaseSequence, .action .idle]
  | .ranged => .selector [retreatSequence, attackSequence, chaseSequence, .action .idle]

def validateAiBlackboard (blackboard : AiBlackboard R) : Except Exception Unit :=
  throwIf (!blackboard.selfPosition.isFinite || !blackboard.targetPosition.isFinite ||
      !Scalar.isFinite blackboard.attackRange || decide (blackboard.attackRange < 0) ||
      !Scalar.isFinite blackboard.preferredRange ||
      decide (blackboard.preferredRange < 0) ||
      !Scalar.isFinite blackboard.retreatRange || decide (blackboard.retreatRange < 0))
    (.invalidArgument "AI blackboard contains invalid movement values")

/-- One decision of a controller. -/
def tickController (controller : BehaviorNode) (blackboard : AiBlackboard R) :
    Except Exception AiCommandType := do
  validateAiBlackboard blackboard
  let distanceToTarget ←
    if blackboard.hasTarget then
      blackboard.selfPosition.distance blackboard.targetPosition
    else .ok 0
  let ticked := controller.tick { blackboard, distanceToTarget }
  throwIf (ticked.2 != .success)
    (.logicError "AI behavior tree did not select a command")
  pure ticked.1.command

end SurvivalArena

namespace SurvivalArena

/-! ## Decisions -/

variable {R : Type} [Precision R]

structure BotPerception (R : Type) where
  actors : List (ActorSnapshot R)
  loot : List (LootSnapshot R)
  safeZone : SafeZoneState R

def distanceSquaredDouble (left right : Vec2 R) : Precision.Wide R :=
  let deltaX : Precision.Wide R := Precision.widen left.x - Precision.widen right.x
  let deltaZ : Precision.Wide R := Precision.widen left.z - Precision.widen right.z
  deltaX * deltaX + deltaZ * deltaZ

def squareDouble (value : R) : Precision.Wide R :=
  Precision.widen value * Precision.widen value

def validateBotActor (actor : ActorSnapshot R) : Except Exception Unit :=
  throwIf (!actor.position.isFinite || decide (actor.health < 0) ||
      decide (100 < actor.health) || actor.alive != decide (0 < actor.health))
    (.invalidArgument "bot actor state is invalid")

def validatePerceivedActors : List ActorId → List (ActorSnapshot R) →
    Except Exception Unit
  | _, [] => .ok ()
  | ids, actor :: actors => do
    validateBotActor actor
    throwIf (actor.id ∈ ids)
      (.invalidArgument "bot perception actor IDs must be unique")
    validatePerceivedActors (actor.id :: ids) actors

def validatePerceivedLoot : List LootId → List (LootSnapshot R) → Except Exception Unit
  | _, [] => .ok ()
  | ids, item :: loot => do
    throwIf (!item.position.isFinite)
      (.invalidArgument "bot loot position must be finite")
    throwIf (item.id ∈ ids) (.invalidArgument "bot perception loot IDs must be unique")
    validatePerceivedLoot (item.id :: ids) loot

def validatePerception (self : ActorSnapshot R) (perception : BotPerception R) :
    Except Exception Unit := do
  validateBotActor self
  validatePerceivedActors [] perception.actors
  validatePerceivedLoot [] perception.loot
  let _ ← isOutsideSafeZone self.position perception.safeZone
  pure ()

/-- The nearest candidate within a radius, the one with the lowest number among the
nearest. -/
def closest {α : Type} (key : α → UInt32) (position : α → Vec2 R) (origin : Vec2 R)
    (radius : R) (candidates : List α) : Option α :=
  let distance (candidate : α) : Precision.Wide R :=
    distanceSquaredDouble origin (position candidate)
  minElement (fun left right => decide (distance left < distance right) ||
      Scalar.equal (distance left) (distance right) && decide (key left < key right))
    (candidates.filter fun candidate =>
      !decide (squareDouble radius < distance candidate))

def closestActor (self : ActorSnapshot R) (actors : List (ActorSnapshot R)) (radius : R)
    (predicate : ActorSnapshot R → Bool) : Option (ActorSnapshot R) :=
  closest ActorSnapshot.id ActorSnapshot.position self.position radius
    (actors.filter fun actor => actor.id != self.id && actor.alive && predicate actor)

def closestLoot (self : ActorSnapshot R) (loot : List (LootSnapshot R)) (radius : R)
    (predicate : LootSnapshot R → Bool) : Option (LootSnapshot R) :=
  closest LootSnapshot.id LootSnapshot.position self.position radius
    (loot.filter fun item => item.active && predicate item)

def moveDecision (actor : ActorId) (destination : Vec2 R) : MatchCommand R :=
  { actor, moveDestination := some destination }

def attackDecision (actor target : ActorId) : MatchCommand R :=
  { actor, attackTarget := some target }

/-- The med kit a hurt contender looks for. -/
def wantedMedKit (self : ActorSnapshot R) (perception : BotPerception R)
    (config : MatchConfig R) : Option (LootSnapshot R) :=
  if self.health ≤ 45 then
    closestLoot self perception.loot config.contenderPerceptionRadius fun item =>
      item.type = .medKit
  else none

/-- The weapon a contender with a blade looks for. -/
def wantedWeapon (self : ActorSnapshot R) (perception : BotPerception R)
    (config : MatchConfig R) : Option (LootSnapshot R) :=
  if self.weapon = .blade then
    closestLoot self perception.loot config.contenderPerceptionRadius fun item =>
      item.type = .rifle || item.type = .arcPulse
  else none

def decideContender (self : ActorSnapshot R) (perception : BotPerception R)
    (config : MatchConfig R) : Except Exception (MatchCommand R) := do
  validateMatchConfig config
  validatePerception self perception
  throwIf (self.role != .contender)
    (.invalidArgument "contender decision requires contender role")
  if !self.alive then pure { actor := self.id }
  else do
    let outside ← isOutsideSafeZone self.position perception.safeZone
    if outside then pure (moveDecision self.id perception.safeZone.center)
    else
      match (wantedMedKit self perception config).or
        (wantedWeapon self perception config) with
      | some item => pure (moveDecision self.id item.position)
      | none =>
        match closestActor self perception.actors config.contenderPerceptionRadius
          fun _ => true with
        | none => pure { actor := self.id }
        | some target =>
          let weapon : WeaponDefinition R := weaponDefinitionFor self.weapon
          if self.cooldownTicksRemaining = 0 ∧
              distanceSquaredDouble self.position target.position ≤
                squareDouble weapon.range then
            pure (attackDecision self.id target.id)
          else pure (moveDecision self.id target.position)

/-- Where an actor goes to get away from its target. -/
def retreatDestination (self target : ActorSnapshot R) : Except Exception (Vec2 R) := do
  let away := self.position - target.position
  let direction ←
    if Scalar.equal away.lengthSquared 0 then
      .ok (if self.id < target.id then ⟨-1.0, 0⟩ else ⟨1.0, 0⟩)
    else away.normalize
  pure (self.position + direction * (4.0 : R))

def decideNeutral (self : ActorSnapshot R) (perception : BotPerception R)
    (config : MatchConfig R) (controller : BehaviorNode) :
    Except Exception (MatchCommand R) := do
  validateMatchConfig config
  validatePerception self perception
  throwIf (self.role != .neutral || self.neutralArchetype == .none)
    (.invalidArgument "neutral decision requires a neutral archetype")
  if !self.alive then pure { actor := self.id }
  else do
    let target := closestActor self perception.actors config.neutralPerceptionRadius
      fun actor => actor.role = .contender
    let weapon : WeaponDefinition R := weaponDefinitionFor self.weapon
    let command ← tickController controller {
      selfPosition := self.position
      targetPosition := target.elim ⟨0, 0⟩ ActorSnapshot.position
      hasTarget := target.isSome
      cooldownReady := self.cooldownTicksRemaining = 0
      attackRange := weapon.range
      preferredRange := 8.0
      retreatRange := 3.0 }
    match command, target with
    | .moveToTarget, some target => pure (moveDecision self.id target.position)
    | .moveAwayFromTarget, some target => do
      let destination ← retreatDestination self target
      pure (moveDecision self.id destination)
    | .attack, some target => pure (attackDecision self.id target.id)
    | _, _ => pure { actor := self.id }

end SurvivalArena
