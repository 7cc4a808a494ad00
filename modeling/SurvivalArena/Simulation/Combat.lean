import SurvivalArena.Framework.KeyedList
import SurvivalArena.Framework.MinElement
import SurvivalArena.Framework.UIntOrder
import SurvivalArena.Simulation.MatchTypes

/-!
# Combat

All attacks of a tick are resolved against the state before the tick's combat: an
attacker that dies still hits, and what several attackers do to one target is
summed.
-/

namespace SurvivalArena

open KeyedList

structure WeaponDefinition (R : Type) where
  range : R
  effectRadius : R
  damage : Int
  cooldownTicks : UInt32
deriving DecidableEq

structure CombatActor (R : Type) where
  id : ActorId
  role : ActorRole
  position : Vec2 R
  health : Int := 100
  alive : Bool := true
  weapon : WeaponType := .blade
  cooldownTicksRemaining : UInt32 := 0
  eliminations : UInt32 := 0
deriving DecidableEq

structure AttackIntent where
  attacker : ActorId
  target : ActorId
deriving DecidableEq

structure DamageRecord where
  target : ActorId
  amount : Int
  primarySource : Option ActorId
deriving DecidableEq

structure DeathRecord where
  victim : ActorId
  killer : Option ActorId
deriving DecidableEq

structure CombatResolution where
  acceptedIntents : List AttackIntent := []
  damage : List DamageRecord := []
  deaths : List DeathRecord := []
deriving DecidableEq

structure DamageContribution where
  source : ActorId
  amount : Int
deriving DecidableEq

variable {R : Type} [Scalar R]

def weaponDefinitionFor : WeaponType → WeaponDefinition R
  | .blade => ⟨2.2, 0.0, 24, 21⟩
  | .rifle => ⟨18.0, 0.0, 12, 12⟩
  | .arcPulse => ⟨10.0, 5.0, 18, 90⟩

namespace CombatActor

/-- The health is in its range and agrees with being alive, at a finite position. -/
def isValid (actor : CombatActor R) : Bool :=
  actor.position.isFinite && decide (0 ≤ actor.health) && decide (actor.health ≤ 100) &&
    actor.alive == decide (0 < actor.health)

def isContender (actor : CombatActor R) : Bool :=
  actor.role = .contender

/-- A contender that is alive. -/
def contends (actor : CombatActor R) : Bool :=
  actor.isContender && actor.alive

end CombatActor

def validateActors : List ActorId → List (CombatActor R) → Except Exception Unit
  | _, [] => .ok ()
  | ids, actor :: actors => do
    throwIf (!actor.isValid) (.invalidArgument "combat actor state is invalid")
    throwIf (actor.id ∈ ids) (.invalidArgument "combat actor IDs must be unique")
    validateActors (actor.id :: ids) actors

def canTarget (attacker target : CombatActor R) : Bool :=
  attacker.id != target.id && target.alive &&
    (attacker.isContender || target.isContender)

def findActor (actors : List (CombatActor R)) (id : ActorId) : Option (CombatActor R) :=
  actors.find? fun actor => actor.id = id

/-- Change the actor with a number. -/
def updateActor (actors : List (CombatActor R)) (id : ActorId)
    (change : CombatActor R → CombatActor R) : List (CombatActor R) :=
  actors.map fun actor => if actor.id = id then change actor else actor

def validateUniqueAttackers (intents : List AttackIntent) : Except Exception Unit :=
  throwIf (!decide (intents.map AttackIntent.attacker).Nodup)
    (.invalidArgument "an actor may submit only one attack intent per tick")

/-- The contribution that counts for the kill: the largest, then the lowest source. -/
def contributesMore (left right : DamageContribution) : Bool :=
  if left.amount ≠ right.amount then decide (right.amount < left.amount)
  else decide (left.source < right.source)

def tickWeaponCooldowns (actors : List (CombatActor R)) :
    Except Exception (List (CombatActor R)) := do
  validateActors [] actors
  pure (actors.map fun actor =>
    if 0 < actor.cooldownTicksRemaining then
      { actor with cooldownTicksRemaining := actor.cooldownTicksRemaining - 1 }
    else actor)

/-! ## What the attacks do -/

/-- The attacks that take place, and what each contributes to its targets. -/
structure Attacks where
  acceptedIntents : List AttackIntent := []
  contributions : List (ActorId × DamageContribution) := []

/-- The living actors within the effect of an attack. -/
def affectedTargets (actors : List (CombatActor R)) (attacker target : CombatActor R)
    (weapon : WeaponDefinition R) : Except Exception (List ActorId) :=
  if Scalar.equal weapon.effectRadius 0 then .ok [target.id]
  else do
    let reached ← (actors.filter (canTarget attacker)).filterM fun candidate => do
      let distance ← candidate.position.distance target.position
      pure (decide (distance ≤ weapon.effectRadius))
    pure (reached.map CombatActor.id)

def declareAttack (actors : List (CombatActor R)) (attacks : Attacks)
    (intent : AttackIntent) : Except Exception Attacks :=
  match findActor actors intent.attacker,
    findActor actors intent.target with
  | some attacker, some target =>
    if !attacker.alive || attacker.cooldownTicksRemaining != 0 ||
        !canTarget attacker target then .ok attacks
    else do
      let weapon := weaponDefinitionFor attacker.weapon
      let distance ← attacker.position.distance target.position
      if weapon.range < distance then pure attacks
      else do
        let targets ← affectedTargets actors attacker target weapon
        pure {
          acceptedIntents := attacks.acceptedIntents ++ [intent]
          contributions := attacks.contributions ++ targets.map fun id =>
            (id, { source := attacker.id, amount := weapon.damage }) }
  | _, _ => .ok attacks

/-- What a target has been dealt, in the order of the attackers. -/
def contributionsTo (contributions : List (ActorId × DamageContribution))
    (target : ActorId) : List DamageContribution :=
  (contributions.filter fun contribution => contribution.1 = target).map Prod.snd

def primarySource (contributions : List DamageContribution) : Except Exception ActorId :=
  match minElement contributesMore contributions with
  | none => .error (.logicError "damage contribution set is empty")
  | some primary => .ok primary.source

/-- The largest damage of the type it is kept in. -/
def maxDamage : Int := 2 ^ 31 - 1

def hurt (damage : Int) (actor : CombatActor R) : CombatActor R :=
  { actor with
    health := actor.health - damage
    alive := if actor.health - damage = 0 then false else actor.alive }

/-- Deal the summed contributions to each target. -/
def applyContributions (contributions : List (ActorId × DamageContribution)) :
    List ActorId → List (CombatActor R) → CombatResolution →
      List (CombatActor R) × Except Exception CombatResolution
  | [], actors, resolution => (actors, .ok resolution)
  | targetId :: targetIds, actors, resolution =>
    match findActor actors targetId with
    | none => applyContributions contributions targetIds actors resolution
    | some target =>
      let given := contributionsTo contributions targetId
      let totalDamage := (given.map DamageContribution.amount).sum
      if maxDamage < totalDamage then
        (actors, .error (.overflowError "combat damage exceeds supported range"))
      else
        attempt actors (primarySource given) fun source =>
          let appliedDamage := min target.health totalDamage
          applyContributions contributions targetIds
            (updateActor actors targetId (hurt appliedDamage)) { resolution with
              damage := resolution.damage ++ [⟨targetId, appliedDamage, source⟩]
              deaths := if target.health - appliedDamage = 0 then
                  resolution.deaths ++ [⟨targetId, source⟩]
                else resolution.deaths }

def startCooldown (actor : CombatActor R) : CombatActor R :=
  { actor with
    cooldownTicksRemaining :=
      (weaponDefinitionFor actor.weapon : WeaponDefinition R).cooldownTicks }

def creditKill (actor : CombatActor R) : CombatActor R :=
  { actor with eliminations := actor.eliminations + 1 }

/-- Credit each death to its killer. -/
def creditKills : List DeathRecord → List (CombatActor R) →
    List (CombatActor R) × Except Exception Unit
  | [], actors => (actors, .ok ())
  | death :: deaths, actors =>
    match death.killer.bind (findActor actors) with
    | none => creditKills deaths actors
    | some killer =>
      if killer.eliminations = 2 ^ 32 - 1 then
        (actors, .error (.overflowError "combat elimination count overflow"))
      else creditKills deaths (updateActor actors killer.id creditKill)

/-- The numbers of the actors that were dealt something, ascending. -/
def targetsOf (contributions : List (ActorId × DamageContribution)) : List ActorId :=
  unique (sortByKey id (contributions.map Prod.fst))

def declareAttacks (actors : List (CombatActor R)) (intents : List AttackIntent) :
    Except Exception Attacks := do
  validateActors [] actors
  validateUniqueAttackers intents
  (sortByKey AttackIntent.attacker intents).foldlM (declareAttack actors) {}

def resolveAttacks (actors : List (CombatActor R)) (intents : List AttackIntent) :
    List (CombatActor R) × Except Exception CombatResolution :=
  attempt actors (declareAttacks actors intents) fun attacks =>
    let attacking := attacks.acceptedIntents.foldl (fun actors intent =>
      updateActor actors intent.attacker startCooldown) actors
    let struck := applyContributions attacks.contributions
      (targetsOf attacks.contributions) attacking
      { acceptedIntents := attacks.acceptedIntents }
    attempt struck.1 struck.2 fun resolution =>
      let credited := creditKills resolution.deaths struck.1
      attempt credited.1 credited.2 fun _ => (credited.1, .ok resolution)

end SurvivalArena
