import SurvivalArena.Simulation.OfflineMatch

/-!
# One tick of a match

Disconnections, commands, movement, loot, combat and the safe zone in turn, and then
the decision whether the match is over.  The source keeps the commands it selected
until the next tick but empties the map before it reads it, so the map is local here.
-/

namespace SurvivalArena

open KeyedList

variable {R : Type} [Precision R]

/-! ## Contenders -/

def buildContenderRanks (actors : List (CombatActor R)) :
    Except Exception (List ContenderRankInput) := do
  let ranks := (actors.filter CombatActor.isContender).map fun actor =>
    { id := actor.id, alive := actor.alive, health := actor.health,
      eliminations := actor.eliminations : ContenderRankInput }
  throwIf ranks.isEmpty (.logicError "offline match has no contenders")
  pure ranks

def countAliveContenders (actors : List (CombatActor R)) : Nat :=
  actors.countP CombatActor.contends

def soleAliveContender (actors : List (CombatActor R)) : Except Exception ActorId :=
  match actors.filter CombatActor.contends with
  | [] => .error (.logicError "no contender remains alive")
  | [actor] => .ok actor.id
  | _ => .error (.logicError "more than one contender remains alive")

/-! ## Combat -/

def uncreditKill (actor : CombatActor R) : CombatActor R :=
  { actor with eliminations := actor.eliminations - 1 }

def protect (actor : CombatActor R) : CombatActor R :=
  { actor with health := 1, alive := true }

/-- Take the kill of the protected contender back from its killer. -/
def revokeKill (actors : List (CombatActor R)) (death : DeathRecord) :
    Except Exception (List (CombatActor R)) :=
  match death.killer with
  | none => .ok actors
  | some killer =>
    match findActor actors killer with
    | none => .error (.logicError "combat wipe killer attribution is inconsistent")
    | some actor =>
      if actor.eliminations = 0 then
        .error (.logicError "combat wipe killer attribution is inconsistent")
      else .ok (updateActor actors killer uncreditKill)

/-- The damage that leaves the protected contender with a health of one. -/
def limitDamage (protectedActor : ActorId) (health : Int) (damage : List DamageRecord) :
    List DamageRecord :=
  if health ≤ 1 then damage.eraseP fun record => record.target = protectedActor
  else damage.map fun record =>
    if record.target = protectedActor then { record with amount := health - 1 } else record

/-- When no contender survives the combat, the one that ranked first before it does. -/
def preserveCombatWipe (actors : List (CombatActor R))
    (preCombatRanks : List ContenderRankInput) (resolution : CombatResolution) :
    List (CombatActor R) × Except Exception CombatResolution :=
  if countAliveContenders actors ≠ 0 then (actors, .ok resolution)
  else
    attempt actors (selectSurvivalWinner preCombatRanks) fun protectedActor =>
      if (findActor actors protectedActor).isNone then
        (actors, .error (.logicError "combat wipe winner is missing"))
      else
        match resolution.deaths.find? fun record => record.victim = protectedActor with
        | none =>
          (actors, .error (.logicError "combat wipe winner has no death record"))
        | some death =>
          attempt actors (revokeKill actors death) fun actors =>
            match preCombatRanks.find? fun rank => rank.id = protectedActor,
              resolution.damage.find? fun record => record.target = protectedActor with
            | some priorRank, some _ =>
              (updateActor actors protectedActor protect,
                .ok { resolution with
                  deaths := resolution.deaths.eraseP fun record =>
                    record.victim = protectedActor
                  damage := limitDamage protectedActor priorRank.health
                    resolution.damage })
            | _, _ =>
              (actors, .error (.logicError "combat wipe damage record is inconsistent"))

def combatEvents (tick : UInt32) (resolution : CombatResolution) :
    Except Exception (List MatchEvent) := do
  throwIf (resolution.damage.any fun record => decide (record.amount ≤ 0))
    (.logicError "combat emitted non-positive damage")
  pure ((resolution.damage.map fun record =>
      { tick, type := .damageApplied, actor := record.target,
        subject := record.primarySource, amount := record.amount : MatchEvent }) ++
    resolution.deaths.map fun record =>
      { tick, type := .actorDied, actor := record.victim, subject := record.killer })

/-! ## Safe zone -/

/-- The contenders that a zone's damage would leave alive. -/
def countZoneSurvivors (zone : SafeZoneState R) (damage : Int) :
    List (CombatActor R) → Except Exception Nat
  | [] => .ok 0
  | actor :: actors =>
    if actor.contends then do
      let outside ← isOutsideSafeZone actor.position zone
      let survivors ← countZoneSurvivors zone damage actors
      pure (if !outside || decide (damage < actor.health) then survivors + 1
        else survivors)
    else countZoneSurvivors zone damage actors

def zoneHealth (protectedActor : Option ActorId) (damage : Int) (actor : CombatActor R) :
    Int :=
  if protectedActor = some actor.id ∧ actor.isContender then 1
  else max 0 (actor.health - damage)

/-- The events of an actor whose health the zone lowers. -/
def zoneEvents (tick : UInt32) (actor : CombatActor R) (targetHealth : Int) :
    List MatchEvent :=
  (if 0 < actor.health - targetHealth then
      [{ tick, type := .damageApplied, actor := actor.id,
         amount := actor.health - targetHealth : MatchEvent }]
    else []) ++
  if targetHealth = 0 then [{ tick, type := .actorDied, actor := actor.id }] else []

/-- Hurt the living actors outside the zone. -/
def hurtOutside (zone : SafeZoneState R) (tick : UInt32) (damage : Int)
    (protectedActor : Option ActorId) :
    List (CombatActor R) → List (CombatActor R) × Except Exception (List MatchEvent)
  | [] => ([], .ok [])
  | actor :: actors =>
    if !actor.alive then
      let later := hurtOutside zone tick damage protectedActor actors
      (actor :: later.1, later.2)
    else
      attempt (actor :: actors) (isOutsideSafeZone actor.position zone) fun outside =>
        let later := hurtOutside zone tick damage protectedActor actors
        if !outside then (actor :: later.1, later.2)
        else
          let health := zoneHealth protectedActor damage actor
          let hurtActor :=
            { actor with health, alive := if health = 0 then false else actor.alive }
          attempt (hurtActor :: later.1) later.2 fun events =>
            (hurtActor :: later.1, .ok (zoneEvents tick actor health ++ events))

def applySafeZoneDamage (actors : List (CombatActor R)) (tick tickRate : UInt32) :
    List (CombatActor R) × Except Exception (List MatchEvent) :=
  attempt actors (safeZoneDamageForTick R tick tickRate) fun damage =>
    if damage = 0 then (actors, .ok [])
    else
      attempt actors (evaluateSafeZone tick tickRate) fun zone =>
        attempt actors (buildContenderRanks actors) fun preZoneRanks =>
          attempt actors (countZoneSurvivors zone damage actors) fun survivors =>
            attempt actors
              (if survivors = 0 then some <$> selectSurvivalWinner preZoneRanks
                else .ok none) fun protectedActor =>
              hurtOutside zone tick damage protectedActor actors

/-! ## The event checksum -/

def fnvPrime : UInt64 := 1099511628211

def hashByte (hash : UInt64) (value : UInt8) : UInt64 :=
  (hash ^^^ value.toUInt64) * fnvPrime

def hashUint32 (hash : UInt64) (value : UInt32) : UInt64 :=
  let hash := hashByte hash value.toUInt8
  let hash := hashByte hash (value >>> 8).toUInt8
  let hash := hashByte hash (value >>> 16).toUInt8
  hashByte hash (value >>> 24).toUInt8

def hashOptional (hash : UInt64) : Option UInt32 → UInt64
  | none => hashByte hash 0
  | some value => hashUint32 (hashByte hash 1) value

def hashEvent (hash : UInt64) (event : MatchEvent) : UInt64 :=
  let hash := hashUint32 hash event.tick
  let hash := hashUint32 hash event.type.value
  let hash := hashUint32 hash event.actor
  let hash := hashOptional hash event.subject
  let hash := hashOptional hash event.loot
  let hash := hashUint32 hash (Int32.ofInt event.amount).toUInt32
  hashOptional hash (event.weapon.map WeaponType.value)

/-- The order of the events of a tick; an absent number comes first. -/
abbrev EventSortKey := UInt32 ×ₗ UInt32 ×ₗ WithBot UInt32 ×ₗ WithBot UInt32

def eventSortKey (event : MatchEvent) : EventSortKey :=
  toLex (event.type.value, toLex (event.actor, toLex (event.subject, event.loot)))

/-! ## Commands -/

def canAttackTarget (attacker target : CombatActor R) : Bool :=
  canTarget attacker target

/-- The commands that are valid, the last of each actor, and the actors of the others. -/
structure CommandSelection (R : Type) where
  selected : Std.ExtTreeMap ActorId (MatchCommand R) := ∅
  rejected : List ActorId := []

namespace OfflineMatch

def findActorIndex (game : OfflineMatch R) (id : ActorId) : Option Nat :=
  game.actors.findIdx? fun actor => actor.id = id

/-- There is a path to the destination, if the command has one. -/
def validDestination (game : OfflineMatch R) (actor : CombatActor R)
    (command : MatchCommand R) : Except Exception Bool :=
  match command.moveDestination with
  | none => .ok true
  | some destination =>
    if !destination.isFinite then .ok false
    else do
      let path ← game.navMesh.findPath actor.position destination
      pure path.isSome

def validTarget (game : OfflineMatch R) (actor : CombatActor R)
    (command : MatchCommand R) : Bool :=
  command.attackTarget.all fun target =>
    (findActor game.actors target).any (canAttackTarget actor)

def validCommand (game : OfflineMatch R) (command : MatchCommand R) :
    Except Exception Bool :=
  match findActor game.actors command.actor with
  | none => .ok false
  | some actor =>
    if !actor.alive || command.moveDestination.isNone && command.attackTarget.isNone then
      .ok false
    else do
      let reachable ← game.validDestination actor command
      pure (reachable && game.validTarget actor command)

def processCommand (game : OfflineMatch R) (disconnectedActors : List ActorId)
    (selection : CommandSelection R) (command : MatchCommand R) :
    Except Exception (CommandSelection R) :=
  if command.actor ∈ disconnectedActors then .ok selection
  else do
    let valid ← game.validCommand command
    pure (if valid then
        { selection with selected := selection.selected.insert command.actor command }
      else { selection with rejected := selection.rejected ++ [command.actor] })

/-- The commands of the players, and on a decision tick those of the bots. -/
def selectCommands (game : OfflineMatch R) (disconnectedActors : List ActorId)
    (commands : List (MatchCommand R)) : Except Exception (CommandSelection R) := do
  let selection ← commands.foldlM (game.processCommand disconnectedActors) {}
  if game.config.enableInternalBots &&
      (game.tick - 1) % game.config.botDecisionIntervalTicks == 0 then do
    let botCommands ← game.buildInternalBotCommands
    botCommands.foldlM (game.processCommand disconnectedActors) selection
  else pure selection

/-! ## Movement -/

/-- Give the agents of the commanded actors their destinations. -/
def setDestinations (game : OfflineMatch R) :
    List (MatchCommand R) → OfflineMatch R × Except Exception Unit
  | [] => (game, .ok ())
  | command :: commands =>
    match command.moveDestination with
    | none => game.setDestinations commands
    | some destination =>
      let rejected := Exception.logicError
        "validated match destination was rejected by NavAgent"
      match (game.findActorIndex command.actor).bind fun index =>
        (game.agents[index]?).map fun agent => (index, agent) with
      | none => (game, .error rejected)
      | some (index, agent) =>
        let directed := agent.setDestination game.navMesh destination
        let game := { game with agents := game.agents.set index directed.1 }
        attempt game directed.2 fun accepted =>
          if accepted then game.setDestinations commands else (game, .error rejected)

/-- The living actors move with their agents. -/
def moveActors (tickSeconds : R) : List (CombatActor R) → List (NavAgent R) →
    (List (CombatActor R) × List (NavAgent R)) × Except Exception Unit
  | actor :: actors, agent :: agents =>
    if !actor.alive then
      let later := moveActors tickSeconds actors agents
      ((actor :: later.1.1, agent :: later.1.2), later.2)
    else
      let ticked := agent.tick tickSeconds
      attempt (actor :: actors, ticked.1 :: agents) ticked.2 fun _ =>
        let later := moveActors tickSeconds actors agents
        (({ actor with position := ticked.1.position } :: later.1.1,
          ticked.1 :: later.1.2), later.2)
  | actors, agents => ((actors, agents), .ok ())

def move (game : OfflineMatch R) : OfflineMatch R × Except Exception Unit :=
  let tickSeconds : R := 1.0 / Precision.ofUInt32 game.config.tickRate
  let moved := moveActors tickSeconds game.actors game.agents
  ({ game with actors := moved.1.1, agents := moved.1.2 }, moved.2)

/-! ## Loot -/

def pickupEvents (tick : UInt32) (actor : ActorId) (pickup : LootPickupResult) :
    List MatchEvent :=
  [{ tick, type := .lootPickedUp, actor, loot := some pickup.loot : MatchEvent }] ++
  (if pickup.equippedWeapon.isSome then
    [{ tick, type := .weaponChanged, actor, loot := some pickup.loot,
       weapon := pickup.equippedWeapon : MatchEvent }] else []) ++
  if 0 < pickup.healedAmount then
    [{ tick, type := .actorHealed, actor, loot := some pickup.loot,
       amount := pickup.healedAmount }] else []

/-- The living contenders pick up loot in turn. -/
def pickUpLoot (tick : UInt32) (pickupRadius : R) : List (CombatActor R) →
    List (LootItem R) →
      (List (CombatActor R) × List (LootItem R)) × Except Exception (List MatchEvent)
  | [], loot => (([], loot), .ok [])
  | actor :: actors, loot =>
    if !actor.contends then
      let later := pickUpLoot tick pickupRadius actors loot
      ((actor :: later.1.1, later.1.2), later.2)
    else
      attempt (actor :: actors, loot)
        (resolveNearestLootPickup actor loot pickupRadius) fun pickup =>
        let later := pickUpLoot tick pickupRadius actors pickup.loot
        attempt (pickup.actor :: later.1.1, later.1.2) later.2 fun events =>
          ((pickup.actor :: later.1.1, later.1.2),
            .ok (pickup.result.elim [] (pickupEvents tick actor.id) ++ events))

def collectLoot (game : OfflineMatch R) :
    OfflineMatch R × Except Exception (List MatchEvent) :=
  let collected := pickUpLoot game.tick game.config.pickupRadius game.actors game.loot
  ({ game with actors := collected.1.1, loot := collected.1.2 }, collected.2)

/-! ## Fighting -/

def attackIntents (commands : List (MatchCommand R)) : List AttackIntent :=
  commands.filterMap fun command => command.attackTarget.map fun target =>
    { attacker := command.actor, target }

def fight (game : OfflineMatch R) (commands : List (MatchCommand R)) :
    OfflineMatch R × Except Exception (List MatchEvent) :=
  attempt game (tickWeaponCooldowns game.actors) fun actors =>
    let game := { game with actors }
    attempt game (buildContenderRanks game.actors) fun preCombatRanks =>
      let resolved := resolveAttacks game.actors (attackIntents commands)
      let game := { game with actors := resolved.1 }
      attempt game resolved.2 fun resolution =>
        let preserved := preserveCombatWipe game.actors preCombatRanks resolution
        let game := { game with actors := preserved.1 }
        attempt game preserved.2 fun resolution =>
          (game, combatEvents game.tick resolution)

def shrinkZone (game : OfflineMatch R) :
    OfflineMatch R × Except Exception (List MatchEvent) :=
  let damaged := applySafeZoneDamage game.actors game.tick game.config.tickRate
  ({ game with actors := damaged.1 }, damaged.2)

/-! ## The end of a tick -/

def finish (game : OfflineMatch R) (winner : ActorId) (reason : MatchEndReason) :
    OfflineMatch R :=
  { game with
    result := some { winner, reason, finishedTick := game.tick }
    phase := .finished }

def finishedEvent (game : OfflineMatch R) (winner : ActorId) : MatchEvent :=
  { tick := game.tick, type := .matchFinished, actor := winner }

/-- At the time limit the winner is left with a health of one and the others die. -/
def limitActor (winner : ActorId) (actor : CombatActor R) : CombatActor R :=
  if !actor.contends then actor
  else if actor.id = winner then { actor with health := 1 }
  else { actor with health := 0, alive := false }

def limitEvents (game : OfflineMatch R) (winner : ActorId) : List MatchEvent :=
  (game.actors.filter fun actor => actor.contends && actor.id != winner).map fun actor =>
    { tick := game.tick, type := .actorDied, actor := actor.id }

/-- Finish the match when one contender is left or the time is up. -/
def conclude (game : OfflineMatch R) :
    OfflineMatch R × Except Exception (List MatchEvent) :=
  let aliveContenders := countAliveContenders game.actors
  if aliveContenders = 0 then
    (game, .error (.logicError "offline match resolution left no contender alive"))
  else if aliveContenders = 1 then
    attempt game (soleAliveContender game.actors) fun winner =>
      (game.finish winner .lastSurvivor, .ok [game.finishedEvent winner])
  else if game.config.hardTimeoutTick ≤ game.tick then
    attempt game (buildContenderRanks game.actors >>= selectSurvivalWinner) fun winner =>
      ({ game with actors := game.actors.map (limitActor winner) }.finish winner .timeLimit,
        .ok (game.limitEvents winner ++ [game.finishedEvent winner]))
  else
    ({ game with
       phase := if game.config.suddenDeathTick ≤ game.tick then .suddenDeath
         else .running }, .ok [])

def recordEvents (game : OfflineMatch R) (tickEvents : List MatchEvent) :
    OfflineMatch R :=
  let sorted := sortByKey eventSortKey tickEvents
  { game with
    events := game.events ++ sorted
    eventChecksum := sorted.foldl hashEvent game.eventChecksum }

/-! ## The step -/

/-- The living contenders that the queued commands disconnect, ascending. -/
def disconnecting (game : OfflineMatch R) : List ActorId :=
  (unique (sortByKey id (game.queuedLifecycleCommands.map
    MatchLifecycleCommand.actor))).filter fun id =>
      (findActor game.actors id).any CombatActor.contends

def disconnectActor (disconnectedActors : List ActorId) (actor : CombatActor R) :
    CombatActor R :=
  if actor.id ∈ disconnectedActors then { actor with health := 0, alive := false }
  else actor

def disconnectedEvent (game : OfflineMatch R) (actor : ActorId) : MatchEvent :=
  { tick := game.tick, type := .actorDisconnected, actor }

def rejectedEvent (game : OfflineMatch R) (actor : ActorId) : MatchEvent :=
  { tick := game.tick, type := .commandRejected, actor }

/-- The phases of a tick that follow the selection of the commands. -/
def resolve (game : OfflineMatch R) (commands : List (MatchCommand R))
    (tickEvents : List MatchEvent) : OfflineMatch R × Except Exception Unit :=
  let directed := game.setDestinations commands
  attempt directed.1 directed.2 fun _ =>
    let moved := directed.1.move
    attempt moved.1 moved.2 fun _ =>
      let collected := moved.1.collectLoot
      attempt collected.1 collected.2 fun lootEvents =>
        let fought := collected.1.fight commands
        attempt fought.1 fought.2 fun combatEvents =>
          let shrunk := fought.1.shrinkZone
          attempt shrunk.1 shrunk.2 fun zoneEvents =>
            let concluded := shrunk.1.conclude
            attempt concluded.1 concluded.2 fun endEvents =>
              (concluded.1.recordEvents (tickEvents ++ lootEvents ++ combatEvents ++
                zoneEvents ++ endEvents), .ok ())

/-- The tick starts: its number is counted and the lifecycle queue emptied. -/
def beginTick (game : OfflineMatch R) : OfflineMatch R :=
  { game with tick := game.tick + 1, queuedLifecycleCommands := [] }

/-- The disconnected contenders are out, and the queued commands are taken. -/
def disconnect (game : OfflineMatch R) (disconnectedActors : List ActorId) :
    OfflineMatch R :=
  { game with
    actors := game.actors.map (disconnectActor disconnectedActors)
    queuedCommands := [] }

def stepImpl (game : OfflineMatch R) : OfflineMatch R × Except Exception Unit :=
  if game.tick = 2 ^ 32 - 1 then
    (game, .error (.overflowError "offline match tick overflow"))
  else if game.actors.length ≠ game.agents.length then
    (game, .error (.logicError "offline match actor and agent counts differ"))
  else
    let disconnectedActors := game.disconnecting
    if countAliveContenders game.actors ≤ disconnectedActors.length then
      (game.beginTick, .error (.logicError
        "offline match cannot disconnect every living contender"))
    else
      let started := game.beginTick.disconnect disconnectedActors
      attempt started (started.selectCommands disconnectedActors game.queuedCommands)
        fun selection =>
          started.resolve selection.selected.values
            (disconnectedActors.map started.disconnectedEvent ++
              selection.rejected.map started.rejectedEvent)

def step (game : OfflineMatch R) : OfflineMatch R × Except Exception Unit :=
  if !game.isActive then
    (game, .error (.logicError "offline match can step only while running"))
  else game.stepImpl

end OfflineMatch

end SurvivalArena
