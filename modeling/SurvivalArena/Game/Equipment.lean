import SurvivalArena.Framework.Slots

/-!
# Equipment of a player

The items and what a player's own arrays and status do when one is put on or taken off.
The numbers are exact: the floats of the source are elements of an ordered field here, and
its `int32`s are integers.
-/

namespace SurvivalArena

open Function

/-! ## Items -/

inductive EquipmentType where
  | default
  | weapon
  | chest
  | head
  | arm
  | leg
deriving DecidableEq

/-- The fields of an item's status that change the status of a player. -/
structure ItemStatus (K : Type) where
  attackPower : Int
  defense : Int
  maxHP : Int
  maxSP : Int
  attackSpeed : K
  hpRegen : K
  spRegen : K
  cooldownReduction : K

/-- The class of an item decides its `ITEMTYPE`: the item manager makes the ones of type
`EQUIPABLE`, and only them, as `EquipableItem`s. -/
inductive ItemClass (K : Type) where
  | consumable
  | ingredients
  | equipable (equipType : EquipmentType) (status : ItemStatus K)

structure Item (K : Type) where
  itemID : Int32
  itemClass : ItemClass K

/-- The pointer to an item; items do not change once they are made. -/
abbrev ItemRef := Nat

/-- A cast of an item to `EquipableItem`, where it is one. -/
def Item.equipable {K : Type} (item : Item K) : Option (EquipmentType × ItemStatus K) :=
  match item.itemClass with
  | .equipable equipType status => some (equipType, status)
  | _ => none

/-! ## The status -/

variable {K : Type} [Field K] [LinearOrder K] [FloorRing K]

structure PlayerStatus (K : Type) where
  maxHP : Int
  hp : Int
  maxStamina : Int
  stamina : Int
  hitAttack : K
  hitSpeed : K
  defense : K
  cooldownReduction : K
  healing : K
  healingStamina : K

/-- The conversion of a number to an integer, towards zero. -/
def truncate (x : K) : Int := if 0 ≤ x then ⌊x⌋ else ⌈x⌉

theorem truncate_of_nonneg {x : K} (h : 0 ≤ x) : truncate x = ⌊x⌋ :=
  if_pos h

theorem truncate_le [IsStrictOrderedRing K] {x : K} {bound : Int} (h : x ≤ bound) :
    truncate x ≤ bound := by
  unfold truncate
  split
  next => exact Int.cast_le.mp ((Int.floor_le x).trans h)
  next => exact Int.ceil_le.mpr h

/-- The conversion keeps the order, on both sides of zero. -/
theorem truncate_mono {first second : K} (h : first ≤ second) :
    truncate first ≤ truncate second := by
  unfold truncate
  split
  next hfirst =>
    rw [if_pos (hfirst.trans h)]
    exact Int.floor_mono h
  next hfirst =>
    split
    next hsecond =>
      have hceil : ⌈first⌉ ≤ 0 := Int.ceil_le.mpr (by simpa using (not_le.mp hfirst).le)
      exact hceil.trans (Int.floor_nonneg.mpr hsecond)
    next => exact Int.ceil_mono h

namespace PlayerStatus

/-- The `hp` of a status is its part of the maximum; the stamina takes the same part. -/
def hpRatio (status : PlayerStatus K) : K := (status.hp : K) / (status.maxHP : K)

def staminaRatio (status : PlayerStatus K) : K := (status.hp : K) / (status.maxHP : K)

def applyEquipStatus (status : PlayerStatus K) (equipStatus : ItemStatus K) :
    PlayerStatus K where
  maxHP := status.maxHP + equipStatus.maxHP
  hp := truncate ((status.maxHP + equipStatus.maxHP : Int) * status.hpRatio)
  maxStamina := status.maxStamina + equipStatus.maxSP
  stamina := truncate ((status.maxStamina + equipStatus.maxSP : Int) * status.staminaRatio)
  hitAttack := status.hitAttack + equipStatus.attackPower
  hitSpeed := status.hitSpeed + equipStatus.attackSpeed
  defense := status.defense + equipStatus.defense
  cooldownReduction := status.cooldownReduction + equipStatus.cooldownReduction
  healing := status.healing + equipStatus.hpRegen
  healingStamina := status.healingStamina + equipStatus.spRegen

def releaseEquipStatus (status : PlayerStatus K) (equipStatus : ItemStatus K) :
    PlayerStatus K where
  maxHP := status.maxHP - equipStatus.maxHP
  hp := truncate ((status.maxHP - equipStatus.maxHP : Int) * status.hpRatio)
  maxStamina := status.maxStamina - equipStatus.maxSP
  stamina := truncate ((status.maxStamina - equipStatus.maxSP : Int) * status.staminaRatio)
  hitAttack := status.hitAttack - equipStatus.attackPower
  hitSpeed := status.hitSpeed - equipStatus.attackSpeed
  defense := status.defense - equipStatus.defense
  cooldownReduction := status.cooldownReduction - equipStatus.cooldownReduction
  healing := status.healing - equipStatus.hpRegen
  healingStamina := status.healingStamina - equipStatus.spRegen

end PlayerStatus

/-! ### The additive statistics -/

/-- The statistics that equipment adds to. -/
inductive Statistic where
  | maxHP
  | maxStamina
  | hitAttack
  | hitSpeed
  | defense
  | cooldownReduction
  | healing
  | healingStamina

namespace Statistic

def ofPlayer (status : PlayerStatus K) : Statistic → K
  | maxHP => status.maxHP
  | maxStamina => status.maxStamina
  | hitAttack => status.hitAttack
  | hitSpeed => status.hitSpeed
  | defense => status.defense
  | cooldownReduction => status.cooldownReduction
  | healing => status.healing
  | healingStamina => status.healingStamina

def ofItem (status : ItemStatus K) : Statistic → K
  | maxHP => status.maxHP
  | maxStamina => status.maxSP
  | hitAttack => status.attackPower
  | hitSpeed => status.attackSpeed
  | defense => status.defense
  | cooldownReduction => status.cooldownReduction
  | healing => status.hpRegen
  | healingStamina => status.spRegen

theorem applyEquipStatus (statistic : Statistic) (status : PlayerStatus K)
    (equipStatus : ItemStatus K) :
    statistic.ofPlayer (status.applyEquipStatus equipStatus) =
      statistic.ofPlayer status + statistic.ofItem equipStatus := by
  cases statistic <;> simp [ofPlayer, ofItem, PlayerStatus.applyEquipStatus]

theorem releaseEquipStatus (statistic : Statistic) (status : PlayerStatus K)
    (equipStatus : ItemStatus K) :
    statistic.ofPlayer (status.releaseEquipStatus equipStatus) =
      statistic.ofPlayer status - statistic.ofItem equipStatus := by
  cases statistic <;> simp [ofPlayer, ofItem, PlayerStatus.releaseEquipStatus]

end Statistic

/-! ## Putting on and taking off -/

/-- The equipment has five places, for the weapon, chest, head, arm and leg. -/
structure Player (K : Type) where
  status : PlayerStatus K
  curEquipment : Fin 5 → Option ItemRef := fun _ => none
  inventory : List (Option ItemRef) := List.replicate 10 none

namespace Player

/-- The place at which `WearEquipment` puts an item of a type. -/
def wearIndex : EquipmentType → Option (Fin 5)
  | .head => some 2
  | .chest => some 1
  | .arm => some 3
  | .leg => some 4
  | .weapon => some 0
  | .default => none

/-- The item at an index, which is equipment, goes to the first free place of the player's
inventory; without one nothing happens. -/
def takeOffEquipment (items : ItemRef → Item K) (player : Player K) (index : Fin 5) :
    Player K :=
  match player.curEquipment index, player.inventory.findIdx? Option.isNone with
  | some item, some emptyInventoryIDX =>
    { status := match (items item).equipable with
        | some (_, status) => player.status.releaseEquipStatus status
        | none => player.status
      curEquipment := update player.curEquipment index none
      inventory := player.inventory.set emptyInventoryIDX (some item) }
  | _, _ => player

/-- The first occurrence of an item leaves the player's inventory. -/
def takeFromInventory (player : Player K) (item : ItemRef) : Player K :=
  match player.inventory.findIdx? fun content => content == some item with
  | some index => { player with inventory := player.inventory.set index none }
  | none => player

def wearEquipment (items : ItemRef → Item K) (player : Player K) (item : ItemRef)
    (equipType : EquipmentType) (equipStatus : ItemStatus K) : Player K :=
  let player := player.takeFromInventory item
  let player := match wearIndex equipType with
    | some index =>
      let player := player.takeOffEquipment items index
      { player with curEquipment := update player.curEquipment index (some item) }
    | none => player
  { player with status := player.status.applyEquipStatus equipStatus }

end Player

end SurvivalArena
