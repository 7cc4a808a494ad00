import SurvivalArena.Simulation.Combat

/-!
# Loot

A contender picks up the active item with the lowest number within its reach.
-/

namespace SurvivalArena

variable {R : Type} [Precision R]

structure LootItem (R : Type) where
  id : LootId
  type : LootType
  position : Vec2 R
  active : Bool := true
deriving DecidableEq

structure LootPickupResult where
  actor : ActorId
  loot : LootId
  type : LootType
  equippedWeapon : Option WeaponType := none
  healedAmount : Int := 0
deriving DecidableEq

def validateLoot : List LootId → List (LootItem R) → Except Exception Unit
  | _, [] => .ok ()
  | ids, item :: loot => do
    throwIf (!item.position.isFinite) (.invalidArgument "loot position must be finite")
    throwIf (item.id ∈ ids) (.invalidArgument "loot IDs must be unique")
    validateLoot (item.id :: ids) loot

def isInsidePickupRadius (actorPosition lootPosition : Vec2 R) (pickupRadius : R) : Bool :=
  let deltaX : Precision.Wide R :=
    Precision.widen actorPosition.x - Precision.widen lootPosition.x
  let deltaZ : Precision.Wide R :=
    Precision.widen actorPosition.z - Precision.widen lootPosition.z
  let radius : Precision.Wide R := Precision.widen pickupRadius
  decide (deltaX * deltaX + deltaZ * deltaZ ≤ radius * radius)

/-- The active item in reach with the lowest number. -/
def nearestLoot (actor : CombatActor R) (loot : List (LootItem R)) (pickupRadius : R) :
    Option (LootItem R) :=
  minElement (fun left right => decide (left.id < right.id)) (loot.filter fun item =>
    item.active && isInsidePickupRadius actor.position item.position pickupRadius)

def deactivate (loot : List (LootItem R)) (id : LootId) : List (LootItem R) :=
  loot.map fun item => if item.id = id then { item with active := false } else item

/-- What an item does for the actor that picks it up. -/
def pickUp (actor : CombatActor R) (item : LootItem R) :
    CombatActor R × LootPickupResult :=
  let result : LootPickupResult :=
    { actor := actor.id, loot := item.id, type := item.type }
  match item.type with
  | .rifle =>
    ({ actor with weapon := .rifle }, { result with equippedWeapon := some .rifle })
  | .arcPulse =>
    ({ actor with weapon := .arcPulse }, { result with equippedWeapon := some .arcPulse })
  | .medKit =>
    let healedAmount := min 35 (100 - actor.health)
    ({ actor with health := actor.health + healedAmount }, { result with healedAmount })

/-- The actor and the loot afterwards, and what was picked up if anything was. -/
structure Pickup (R : Type) where
  actor : CombatActor R
  loot : List (LootItem R)
  result : Option LootPickupResult := none

def resolveNearestLootPickup (actor : CombatActor R) (loot : List (LootItem R))
    (pickupRadius : R) : Except Exception (Pickup R) := do
  throwIf (!Scalar.isFinite pickupRadius || decide (pickupRadius ≤ 0))
    (.invalidArgument "loot pickup radius must be finite and positive")
  throwIf (!actor.isValid) (.invalidArgument "loot actor state is invalid")
  validateLoot [] loot
  if !actor.contends then pure { actor, loot }
  else
    pure ((nearestLoot actor loot pickupRadius).elim { actor, loot } fun item => {
      actor := (pickUp actor item).1
      loot := deactivate loot item.id
      result := some (pickUp actor item).2 })

end SurvivalArena
