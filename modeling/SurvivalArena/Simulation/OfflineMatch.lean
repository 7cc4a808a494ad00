import SurvivalArena.Framework.MersenneTwister
import SurvivalArena.Simulation.Loot
import SurvivalArena.Simulation.NavAgent
import SurvivalArena.Simulation.OfflineBotController
import SurvivalArena.Simulation.SpatialIndex

/-!
# Offline match

A match by itself: its population, what players submit, and what bots decide.
-/

namespace SurvivalArena

/-! ## Match resolution

Who survives when nobody else does: the contender that ranks first.
-/

structure ContenderRankInput where
  id : ActorId := 0
  alive : Bool := false
  health : Int := 0
  eliminations : UInt32 := 0
deriving DecidableEq

/-- The ranking: the living first, then by health, eliminations and number. -/
def ranksBefore (left right : ContenderRankInput) : Bool :=
  if left.alive ≠ right.alive then left.alive
  else if left.health ≠ right.health then decide (right.health < left.health)
  else if left.eliminations ≠ right.eliminations then
    decide (right.eliminations < left.eliminations)
  else decide (left.id < right.id)

/-- No contender has a negative health or the number of an earlier one. -/
def checkContenders : List ActorId → List ContenderRankInput → Except Exception Unit
  | _, [] => .ok ()
  | ids, contender :: contenders => do
    throwIf (decide (contender.health < 0))
      (.invalidArgument "survival ranking health cannot be negative")
    throwIf (contender.id ∈ ids)
      (.invalidArgument "survival ranking contender IDs must be unique")
    checkContenders (contender.id :: ids) contenders

def selectSurvivalWinner (contenders : List ContenderRankInput) :
    Except Exception ActorId :=
  match minElement ranksBefore contenders with
  | none => .error (.invalidArgument
      "survival ranking requires at least one contender")
  | some winner => do
    checkContenders [] contenders
    pure winner.id

/-! ## The match -/

open KeyedList

structure OfflineMatch (R : Type) [Scalar R] where
  navMesh : NavMesh R
  config : MatchConfig R
  phase : MatchPhase := .waiting
  tick : UInt32 := 0
  actors : List (CombatActor R) := []
  neutralArchetypes : List NeutralArchetype := []
  agents : List (NavAgent R) := []
  neutralControllers : List (Option BehaviorNode) := []
  loot : List (LootItem R) := []
  queuedCommands : List (MatchCommand R) := []
  queuedLifecycleCommands : List MatchLifecycleCommand := []
  events : List MatchEvent := []
  result : Option MatchResult := none
  eventChecksum : UInt64 := 14695981039346656037

variable {R : Type} [Precision R]

/-! ## Spawning -/

def contenderAngleJitter : R := 0.05
def agentStoppingDistance : R := 0.1
def twoPi : R := 6.2831855

section Sampling

variable {G : Type} [RandomEngine G]

/-- A number between two bounds from the upper bits of the next one. -/
def randomRange (random : G) (minimum maximum : R) : R × G :=
  let (word, random) := RandomEngine.next random
  let unit : R := Precision.ofUInt32 (word >>> 8) * (1.0 / 16777216.0)
  (minimum + (maximum - minimum) * unit, random)

def isOnNavMesh (navMesh : NavMesh R) (position : Vec2 R) : Except Exception Bool := do
  let triangle ← navMesh.findContainingTriangleGrid position
  pure triangle.isSome

def hasSpacing : List (CombatActor R) → Vec2 R → R → Except Exception Bool
  | [], _, _ => .ok true
  | actor :: actors, candidate, minimumSpacing => do
    let distance ← actor.position.distance candidate
    if distance < minimumSpacing then pure false
    else hasSpacing actors candidate minimumSpacing

/-- Draw candidates until one is accepted. -/
def spawnPosition (exhausted : String)
    (draw : G → Vec2 R × G) (accepts : Vec2 R → Except Exception Bool) :
    Nat → G → Except Exception (Vec2 R × G)
  | 0, _ => .error (.runtimeError exhausted)
  | attempts + 1, random => do
    let (candidate, random) := draw random
    let accepted ← accepts candidate
    if accepted then pure (candidate, random)
    else spawnPosition exhausted draw accepts attempts random

/-- On the mesh, and not too near to an actor. -/
def isFree (navMesh : NavMesh R) (actors : List (CombatActor R)) (spacing : R)
    (candidate : Vec2 R) : Except Exception Bool := do
  let onMesh ← isOnNavMesh navMesh candidate
  if onMesh then hasSpacing actors candidate spacing else pure false

def drawContender [Trigonometry R] (config : MatchConfig R) (contenderIndex : UInt32)
    (random : G) : Vec2 R × G :=
  let baseAngle := Precision.ofUInt32 contenderIndex /
    Precision.ofUInt32 config.contenderCount * twoPi
  let (jitter, random) := randomRange random (-contenderAngleJitter) contenderAngleJitter
  let (radius, random) := randomRange random config.contenderSpawnInnerRadius
    config.contenderSpawnOuterRadius
  let angle := baseAngle + jitter
  (⟨Trigonometry.cos angle * radius, Trigonometry.sin angle * radius⟩, random)

def drawInArena (config : MatchConfig R) (random : G) : Vec2 R × G :=
  let (x, random) := randomRange random (-config.arenaHalfExtent) config.arenaHalfExtent
  let (z, random) := randomRange random (-config.arenaHalfExtent) config.arenaHalfExtent
  (⟨x, z⟩, random)

/-- The actors spawned so far with their archetypes, and the generator. -/
structure SpawnState (R G : Type) where
  actors : List (CombatActor R) := []
  archetypes : List NeutralArchetype := []
  random : G

def SpawnState.push (state : SpawnState R G) (actor : CombatActor R)
    (archetype : NeutralArchetype) (random : G) : SpawnState R G where
  actors := state.actors ++ [actor]
  archetypes := state.archetypes ++ [archetype]
  random

def spawnContender [Trigonometry R] (navMesh : NavMesh R) (config : MatchConfig R)
    (state : SpawnState R G) (contenderIndex : Nat) : Except Exception (SpawnState R G) := do
  let (position, random) ← spawnPosition "contender spawn attempts exhausted"
    (drawContender config (UInt32.ofNat contenderIndex))
    (isFree navMesh state.actors config.contenderSpawnSpacing)
    config.maximumSpawnAttempts.toNat state.random
  pure (state.push { id := UInt32.ofNat state.actors.length, role := .contender, position }
    .none random)

def spawnNeutral (navMesh : NavMesh R) (config : MatchConfig R)
    (archetype : NeutralArchetype) (health : Int) (weapon : WeaponType)
    (state : SpawnState R G) : Except Exception (SpawnState R G) := do
  let (position, random) ← spawnPosition "neutral spawn attempts exhausted"
    (drawInArena config) (isFree navMesh state.actors config.neutralSpawnSpacing)
    config.maximumSpawnAttempts.toNat state.random
  pure (state.push
    { id := UInt32.ofNat state.actors.length, role := .neutral, position, health, weapon }
    archetype random)

/-- Repeat a step that can throw. -/
def repeatM {α : Type} (step : α → Except Exception α) : Nat → α → Except Exception α
  | 0, a => .ok a
  | count + 1, a => do
    let a ← step a
    repeatM step count a

def spawnLoot (navMesh : NavMesh R) (config : MatchConfig R) (type : LootType)
    (state : List (LootItem R) × G) : Except Exception (List (LootItem R) × G) := do
  let (position, random) ← spawnPosition "loot spawn attempts exhausted"
    (drawInArena config) (isOnNavMesh navMesh) config.maximumSpawnAttempts.toNat state.2
  pure (state.1 ++ [{ id := UInt32.ofNat state.1.length, type, position }], random)

def spawnActors [Trigonometry R] (navMesh : NavMesh R) (config : MatchConfig R)
    (random : G) : Except Exception (SpawnState R G) := do
  let state ← (List.range config.contenderCount.toNat).foldlM
    (spawnContender navMesh config) { random }
  let state ← repeatM (spawnNeutral navMesh config .melee 60 .blade)
    config.meleeNeutralCount.toNat state
  repeatM (spawnNeutral navMesh config .ranged 45 .rifle)
    config.rangedNeutralCount.toNat state

def spawnAgent (navMesh : NavMesh R) (config : MatchConfig R) (actor : CombatActor R) :
    Except Exception (NavAgent R) :=
  NavAgent.create navMesh actor.position
    (if actor.isContender then config.contenderSpeed else config.neutralSpeed)
    agentStoppingDistance

def spawnController : NeutralArchetype → Option BehaviorNode
  | .none => none
  | .melee => some (behaviorTreeAiController .melee)
  | .ranged => some (behaviorTreeAiController .ranged)

def spawnAllLoot (navMesh : NavMesh R) (config : MatchConfig R)
    (random : G) : Except Exception (List (LootItem R)) := do
  let state ← repeatM (spawnLoot navMesh config .rifle) config.rifleLootCount.toNat
    ([], random)
  let state ← repeatM (spawnLoot navMesh config .arcPulse)
    config.arcPulseLootCount.toNat state
  let state ← repeatM (spawnLoot navMesh config .medKit)
    config.medKitLootCount.toNat state
  pure state.1

namespace OfflineMatch

def spawnFrom [Trigonometry R] (game : OfflineMatch R) (random : G) :
    Except Exception (OfflineMatch R) := do
  throwIf (!game.actors.isEmpty || !game.neutralArchetypes.isEmpty ||
      !game.agents.isEmpty || !game.neutralControllers.isEmpty || !game.loot.isEmpty)
    (.logicError "offline match spawn state must be empty")
  let state ← spawnActors game.navMesh game.config random
  let agents ← state.actors.mapM (spawnAgent game.navMesh game.config)
  let loot ← spawnAllLoot game.navMesh game.config state.random
  pure { game with
    actors := state.actors
    neutralArchetypes := state.archetypes
    agents
    neutralControllers := state.archetypes.map spawnController
    loot }

end OfflineMatch

end Sampling

namespace OfflineMatch

def spawn [Trigonometry R] (game : OfflineMatch R) : Except Exception (OfflineMatch R) :=
  game.spawnFrom (MersenneTwister.seed game.config.seed)

/-! ## Starting and submitting -/

def create (navMesh : NavMesh R) (config : MatchConfig R) :
    Except Exception (OfflineMatch R) := do
  validateMatchConfig config
  pure { navMesh, config }

def start [Trigonometry R] (game : OfflineMatch R) : Except Exception (OfflineMatch R) := do
  throwIf (game.phase != .waiting)
    (.logicError "offline match can start only once")
  let spawned ← game.spawn
  pure { spawned with phase := .running }

def isActive (game : OfflineMatch R) : Bool :=
  game.phase = .running || game.phase = .suddenDeath

def submit (game : OfflineMatch R) (command : MatchCommand R) :
    OfflineMatch R × Except Exception Unit :=
  if !game.isActive then
    (game, .error (.logicError "offline match accepts commands only while running"))
  else ({ game with queuedCommands := game.queuedCommands ++ [command] }, .ok ())

def submitLifecycle (game : OfflineMatch R) (command : MatchLifecycleCommand) :
    OfflineMatch R × Except Exception Unit :=
  if !game.isActive then
    (game, .error (.logicError
      "offline match accepts lifecycle commands only while running"))
  else
    ({ game with
       queuedLifecycleCommands := game.queuedLifecycleCommands ++ [command] }, .ok ())

def drainEvents (game : OfflineMatch R) : OfflineMatch R × List MatchEvent :=
  ({ game with events := [] }, game.events)

/-! ## Snapshots -/

def snapshotActor (actor : CombatActor R) (archetype : NeutralArchetype) :
    ActorSnapshot R where
  id := actor.id
  role := actor.role
  neutralArchetype := archetype
  position := actor.position
  health := actor.health
  alive := actor.alive
  weapon := actor.weapon
  cooldownTicksRemaining := actor.cooldownTicksRemaining
  eliminations := actor.eliminations

def snapshotLoot (item : LootItem R) : LootSnapshot R :=
  ⟨item.id, item.type, item.position, item.active⟩

def snapshot (game : OfflineMatch R) : Except Exception (MatchSnapshot R) := do
  throwIf (game.actors.length != game.neutralArchetypes.length)
    (.logicError "offline match actor metadata is inconsistent")
  let zone : SafeZoneState R ← evaluateSafeZone game.tick game.config.tickRate
  pure {
    tick := game.tick
    phase := game.phase
    safeZoneStage := zone.stage
    safeZoneCenter := zone.center
    safeZoneRadius := zone.radius
    aliveContenders := UInt32.ofNat (game.actors.countP CombatActor.contends)
    actors := List.zipWith snapshotActor game.actors game.neutralArchetypes
    loot := game.loot.map snapshotLoot
    result := game.result
    eventChecksum := game.eventChecksum }

/-! ## Bots -/

/-- The box around the living actors, one unit wider on each side. -/
def worldBounds (actors : List (CombatActor R)) : Except Exception (Aabb2 R) :=
  let xs := actors.map fun actor => actor.position.x
  let zs := actors.map fun actor => actor.position.z
  Aabb2.create
    ⟨xs.foldl Scalar.min Precision.infinity - 1.0,
      zs.foldl Scalar.min Precision.infinity - 1.0⟩
    ⟨xs.foldl Scalar.max (-Precision.infinity) + 1.0,
      zs.foldl Scalar.max (-Precision.infinity) + 1.0⟩

def pointEntity (actor : CombatActor R) : Except Exception (SpatialEntity R) := do
  let bounds ← Aabb2.create actor.position actor.position
  pure { id := actor.id, bounds }

/-- The snapshot that the index found by its number. -/
def visibleActor (snapshots : List (ActorSnapshot R)) (id : ActorId) :
    Except Exception (ActorSnapshot R) :=
  ((snapshots.find? fun actor => actor.id = id).elim
    (.error (.logicError "spatial index returned an unknown actor")) .ok)

/-- What one bot does. -/
def decideBot (game : OfflineMatch R) (index : QuadtreeNode R) (zone : SafeZoneState R)
    (snapshots : List (ActorSnapshot R)) (self : ActorSnapshot R)
    (controller : Option BehaviorNode) : Except Exception (MatchCommand R) := do
  let radius := if self.role = .contender then game.config.contenderPerceptionRadius
    else game.config.neutralPerceptionRadius
  let area ← Aabb2.create
    ⟨self.position.x - radius, self.position.z - radius⟩
    ⟨self.position.x + radius, self.position.z + radius⟩
  let visible ← (queryAabb index area).mapM (visibleActor snapshots)
  let perception : BotPerception R :=
    { actors := visible, loot := game.loot.map snapshotLoot, safeZone := zone }
  if self.role = .contender then decideContender self perception game.config
  else
    match controller with
    | none => .error (.logicError "neutral actor has no behavior-tree controller")
    | some controller => decideNeutral self perception game.config controller

/-- A bot takes a turn unless it is dead or the first contender, the local player. -/
def takesTurn (self : ActorSnapshot R) : Bool :=
  self.alive && !(self.role = .contender && self.id = 0)

def buildInternalBotCommands (game : OfflineMatch R) :
    Except Exception (List (MatchCommand R)) := do
  throwIf (game.actors.length != game.neutralArchetypes.length ||
      game.actors.length != game.neutralControllers.length)
    (.logicError "offline bot metadata is inconsistent")
  let living := game.actors.filter CombatActor.alive
  let entities ← living.mapM pointEntity
  if entities.isEmpty then pure []
  else do
    let bounds ← worldBounds living
    let index ← looseQuadtree bounds entities {}
    let zone : SafeZoneState R ← evaluateSafeZone game.tick game.config.tickRate
    let snapshots := List.zipWith snapshotActor game.actors game.neutralArchetypes
    let turns := (snapshots.zip game.neutralControllers).filter fun turn =>
      takesTurn turn.1
    let decisions ← turns.mapM fun turn =>
      game.decideBot index zone snapshots turn.1 turn.2
    pure (decisions.filter fun command =>
      command.moveDestination.isSome || command.attackTarget.isSome)

end OfflineMatch

end SurvivalArena
