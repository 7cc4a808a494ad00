import SurvivalArena.Game.Equipment

/-!
# Inventory

The slots of the inventory panel and of the equipment panel, and the calls of the inventory
manager that move items between them.  The panels register slots that exist, five of them
for the equipment.  A call whose cast to `EquipableItem` is not valid has no result.
-/

namespace SurvivalArena

open Function

/-! ## Slots -/

inductive SlotType where
  | equipment
  | ingredients
  | inventory
deriving DecidableEq

inductive SlotRef where
  | inventory (index : Nat)
  | equipment (index : Fin 5)
deriving DecidableEq

structure InventoryManager (K : Type) where
  inventorySlots : List (Option ItemRef)
  equipmentSlots : Fin 5 → Option ItemRef
  player : Player K

namespace InventoryManager

section Slots

variable {K : Type}

def getEquipmentSlotIndex : EquipmentType → Option (Fin 5)
  | .weapon => some 0
  | .chest => some 1
  | .head => some 2
  | .arm => some 3
  | .leg => some 4
  | .default => none

def HasSlot (manager : InventoryManager K) : SlotRef → Prop
  | .inventory index => index < manager.inventorySlots.length
  | .equipment _ => True

def getItem (manager : InventoryManager K) : SlotRef → Option ItemRef
  | .inventory index => (manager.inventorySlots[index]?).join
  | .equipment index => manager.equipmentSlots index

def setItem (manager : InventoryManager K) (slot : SlotRef) (item : Option ItemRef) :
    InventoryManager K :=
  match slot with
  | .inventory index =>
    { manager with inventorySlots := manager.inventorySlots.set index item }
  | .equipment index =>
    { manager with equipmentSlots := update manager.equipmentSlots index item }

/-- The slot of an index and a slot type.  Every type but `INVENTORY` means a slot of the
equipment. -/
def getSlot (manager : InventoryManager K) (index : Int) (slotType : SlotType) :
    Option SlotRef :=
  match slotType with
  | .inventory =>
    if 0 ≤ index ∧ index < manager.inventorySlots.length then
      some (.inventory index.toNat)
    else none
  | _ =>
    if h : 0 ≤ index ∧ index < 5 then
      some (.equipment ⟨index.toNat, by omega⟩)
    else none

/-- Two slots exchange their items. -/
def exchange (manager : InventoryManager K) (slot1 slot2 : SlotRef) : InventoryManager K :=
  (manager.setItem slot1 (manager.getItem slot2)).setItem slot2 (manager.getItem slot1)

variable {manager : InventoryManager K}

theorem hasSlot_equipment (manager : InventoryManager K) (index : Fin 5) :
    manager.HasSlot (.equipment index) :=
  trivial

theorem hasSlot_of_getSlot {index : Int} {slotType : SlotType} {slot : SlotRef}
    (h : manager.getSlot index slotType = some slot) : manager.HasSlot slot := by
  cases slotType with
  | inventory =>
    obtain ⟨hbounds, hslot⟩ := Option.ite_none_right_eq_some.mp h
    cases hslot
    show index.toNat < manager.inventorySlots.length
    omega
  | equipment =>
    obtain ⟨hbounds, hslot⟩ := Option.dite_none_right_eq_some.mp h
    cases hslot
    trivial
  | ingredients =>
    obtain ⟨hbounds, hslot⟩ := Option.dite_none_right_eq_some.mp h
    cases hslot
    trivial

theorem hasSlot_of_getItem {slot : SlotRef} {item : ItemRef}
    (h : manager.getItem slot = some item) : manager.HasSlot slot := by
  cases slot with
  | inventory index =>
    have hcontent := Option.join_eq_some_iff.mp h
    exact (List.getElem?_eq_some_iff.mp hcontent).1
  | equipment index => trivial

theorem hasSlot_of_findIdx? {index : Nat}
    (h : manager.inventorySlots.findIdx? Option.isNone = some index) :
    manager.HasSlot (.inventory index) ∧ manager.getItem (.inventory index) = none := by
  have hnone := Slots.findIdx?_isNone h
  refine ⟨(List.getElem?_eq_some_iff.mp hnone).1, ?_⟩
  show (manager.inventorySlots[index]?).join = none
  rw [hnone]
  rfl

theorem exchange_fields (manager : InventoryManager K) (player : Player K)
    (slot1 slot2 : SlotRef) :
    ({ manager with player }.exchange slot1 slot2).player = player ∧
      ({ manager with player }.exchange slot1 slot2).equipmentSlots =
        (manager.exchange slot1 slot2).equipmentSlots := by
  cases slot1 with
  | inventory _ =>
    cases slot2 with
    | inventory _ => exact ⟨rfl, rfl⟩
    | equipment _ => exact ⟨rfl, rfl⟩
  | equipment _ =>
    cases slot2 with
    | inventory _ => exact ⟨rfl, rfl⟩
    | equipment _ => exact ⟨rfl, rfl⟩

theorem exchange_equipmentSlots {index : Fin 5} {slotIndex : Nat} {item : Option ItemRef}
    (hitem : manager.getItem (.inventory slotIndex) = item) :
    (manager.exchange (.inventory slotIndex) (.equipment index)).equipmentSlots =
        update manager.equipmentSlots index item ∧
      (manager.exchange (.equipment index) (.inventory slotIndex)).equipmentSlots =
        update manager.equipmentSlots index item := by
  subst hitem
  exact ⟨rfl, rfl⟩

/-- The exchange next to a change of the player. -/
theorem exchange_player (player : Player K) {slot1 slot2 : SlotRef}
    {item1 item2 : Option ItemRef} (h1 : manager.getItem slot1 = item1)
    (h2 : manager.getItem slot2 = item2) :
    { manager with player }.exchange slot1 slot2 =
      ({ manager with player }.setItem slot1 item2).setItem slot2 item1 := by
  subst h1
  subst h2
  rfl

end Slots

/-! ## Calls -/

variable {K : Type} [Field K] [LinearOrder K] [FloorRing K]

/-- The item of the first slot is put on and the slots exchange their items. -/
def swapItems (items : ItemRef → Item K) (manager : InventoryManager K)
    (slot1 slot2 : SlotRef) : Option (InventoryManager K) :=
  match manager.getItem slot1 with
  | none => none
  | some item1 =>
    let item2 := manager.getItem slot2
    match (items item1).equipable with
    | none => none
    | some (equipType, status) =>
      let player := manager.player.wearEquipment items item1 equipType status
      let manager := { manager with player }
      some ((manager.setItem slot1 item2).setItem slot2 (some item1))

def equipItem (items : ItemRef → Item K) (manager : InventoryManager K)
    (inventorySlotIndex : Int) : Option (InventoryManager K × Bool) :=
  match manager.getSlot inventorySlotIndex .inventory with
  | none => some (manager, false)
  | some inventorySlot =>
  match manager.getItem inventorySlot with
  | none => some (manager, false)
  | some item =>
  match (items item).equipable with
  | none => some (manager, false)
  | some (equipType, status) =>
  match getEquipmentSlotIndex equipType with
  | none => some (manager, false)
  | some equipSlotIndex =>
    if (manager.equipmentSlots equipSlotIndex).isSome then
      (swapItems items manager inventorySlot (.equipment equipSlotIndex)).map (·, true)
    else
      let manager := manager.setItem (.equipment equipSlotIndex) (some item)
      let player := manager.player.wearEquipment items item equipType status
      let manager := { manager with player }
      some (manager.setItem inventorySlot none, true)

def unequipItem (items : ItemRef → Item K) (manager : InventoryManager K)
    (equipmentSlotIndex : Int) : Option (InventoryManager K × Bool) :=
  match manager.getSlot equipmentSlotIndex .equipment with
  | some (.equipment index) =>
    match manager.equipmentSlots index, manager.inventorySlots.findIdx? Option.isNone with
    | some item, some emptySlotIndex =>
      let player := manager.player.takeOffEquipment items index
      let manager := { manager with player }
      some ((manager.setItem (.inventory emptySlotIndex) (some item)).setItem
        (.equipment index) none, true)
    | _, _ => some (manager, false)
  | _ => some (manager, false)

/-- Only an item that goes to a slot named by the type `EQUIPMENT` is checked. -/
def moveAllowed (items : ItemRef → Item K) (item : ItemRef) (toSlot : Int)
    (toType : SlotType) : Bool :=
  toType != .equipment ||
    match (items item).equipable with
    | none => false
    | some (equipType, _) =>
      match getEquipmentSlotIndex equipType with
      | some index => (index.val : Int) == toSlot
      | none => toSlot == -1

def moveItem (items : ItemRef → Item K) (manager : InventoryManager K)
    (fromSlot toSlot : Int) (fromType toType : SlotType) :
    Option (InventoryManager K × Bool) :=
  match manager.getSlot fromSlot fromType, manager.getSlot toSlot toType with
  | some sourceSlot, some targetSlot =>
    match manager.getItem sourceSlot with
    | none => some (manager, false)
    | some item =>
      if moveAllowed items item toSlot toType then
        (swapItems items manager sourceSlot targetSlot).map (·, true)
      else some (manager, false)
  | _, _ => some (manager, false)

def pushItem (manager : InventoryManager K) (inputItem : Option ItemRef) :
    InventoryManager K × Bool :=
  match manager.inventorySlots.findIdx? Option.isNone with
  | some emptySlotIndex => (manager.setItem (.inventory emptySlotIndex) inputItem, true)
  | none => (manager, false)

end InventoryManager

inductive InventoryCall where
  | equipItem (inventorySlotIndex : Int)
  | unequipItem (equipmentSlotIndex : Int)
  | moveItem (fromSlot toSlot : Int) (fromType toType : SlotType)
  | pushItem (inputItem : Option ItemRef)

namespace InventoryManager

variable {K : Type} [Field K] [LinearOrder K] [FloorRing K]

def call (items : ItemRef → Item K) (manager : InventoryManager K) :
    InventoryCall → Option (InventoryManager K × Bool)
  | .equipItem index => manager.equipItem items index
  | .unequipItem index => manager.unequipItem items index
  | .moveItem fromSlot toSlot fromType toType =>
    manager.moveItem items fromSlot toSlot fromType toType
  | .pushItem inputItem => some (manager.pushItem inputItem)

/-- After a call without a result nothing more is defined. -/
def step (items : ItemRef → Item K) (manager : Option (InventoryManager K))
    (event : InventoryCall) : Option (InventoryManager K) :=
  manager.bind fun manager => (manager.call items event).map Prod.fst

/-! ### What a call does -/

section Effects

variable {items : ItemRef → Item K} {manager : InventoryManager K}

/-- What a call can do: nothing, an exchange of two slots that swaps them, fills the empty
slot of an item's type, or brings an item back to the inventory, or the fill of an empty
slot with a new item. -/
inductive Effect (items : ItemRef → Item K) (manager : InventoryManager K) :
    InventoryCall → Option (InventoryManager K × Bool) → Prop where
  | refused (event : InventoryCall) : Effect items manager event (some (manager, false))
  | swappedByMove {fromSlot toSlot : Int} {fromType toType : SlotType}
      {sourceSlot targetSlot : SlotRef} {item : ItemRef}
      (hsource : manager.getSlot fromSlot fromType = some sourceSlot)
      (htarget : manager.getSlot toSlot toType = some targetSlot)
      (hitem : manager.getItem sourceSlot = some item)
      (hallowed : moveAllowed items item toSlot toType = true) :
      Effect items manager (.moveItem fromSlot toSlot fromType toType)
        ((swapItems items manager sourceSlot targetSlot).map (·, true))
  | swappedByEquip {inventorySlotIndex : Int} {inventorySlot : SlotRef} {item : ItemRef}
      {equipType : EquipmentType} {status : ItemStatus K} {index : Fin 5}
      (hslot : manager.getSlot inventorySlotIndex .inventory = some inventorySlot)
      (hitem : manager.getItem inventorySlot = some item)
      (hequipable : (items item).equipable = some (equipType, status))
      (hindex : getEquipmentSlotIndex equipType = some index) :
      Effect items manager (.equipItem inventorySlotIndex)
        ((swapItems items manager inventorySlot (.equipment index)).map (·, true))
  | equipped {inventorySlotIndex : Int} {inventorySlot : SlotRef} {item : ItemRef}
      {equipType : EquipmentType} {status : ItemStatus K} {index : Fin 5}
      (hslot : manager.getSlot inventorySlotIndex .inventory = some inventorySlot)
      (hitem : manager.getItem inventorySlot = some item)
      (hequipable : (items item).equipable = some (equipType, status))
      (hindex : getEquipmentSlotIndex equipType = some index)
      (hempty : manager.equipmentSlots index = none) :
      Effect items manager (.equipItem inventorySlotIndex)
        (some ({ manager with
          player := manager.player.wearEquipment items item equipType status }.exchange
            (.equipment index) inventorySlot, true))
  | unequipped {equipmentSlotIndex : Int} {index : Fin 5} {item : ItemRef}
      {emptySlotIndex : Nat}
      (hslot : manager.getSlot equipmentSlotIndex .equipment = some (.equipment index))
      (hitem : manager.equipmentSlots index = some item)
      (hempty : manager.inventorySlots.findIdx? Option.isNone = some emptySlotIndex) :
      Effect items manager (.unequipItem equipmentSlotIndex)
        (some ({ manager with
          player := manager.player.takeOffEquipment items index }.exchange
            (.inventory emptySlotIndex) (.equipment index), true))
  | pushed {inputItem : Option ItemRef} {emptySlotIndex : Nat}
      (hempty : manager.inventorySlots.findIdx? Option.isNone = some emptySlotIndex) :
      Effect items manager (.pushItem inputItem)
        (some (manager.setItem (.inventory emptySlotIndex) inputItem, true))

theorem equipItem_effect (inventorySlotIndex : Int) :
    Effect items manager (.equipItem inventorySlotIndex)
      (manager.equipItem items inventorySlotIndex) := by
  unfold equipItem
  cases hslot : manager.getSlot inventorySlotIndex .inventory with
  | none => exact .refused _
  | some inventorySlot =>
  cases hitem : manager.getItem inventorySlot with
  | none => simp only [hitem]; exact .refused _
  | some item =>
  cases hequipable : (items item).equipable with
  | none => simp only [hitem, hequipable]; exact .refused _
  | some equipable =>
  obtain ⟨equipType, status⟩ := equipable
  cases hindex : getEquipmentSlotIndex equipType with
  | none => simp only [hitem, hequipable, hindex]; exact .refused _
  | some index =>
  simp only [hitem, hequipable, hindex]
  cases hcontent : manager.equipmentSlots index with
  | some _ => exact .swappedByEquip hslot hitem hequipable hindex
  | none =>
    have heffect := Effect.equipped hslot hitem hequipable hindex hcontent
    have hnone : manager.getItem (.equipment index) = none := hcontent
    rw [exchange_player _ hnone hitem] at heffect
    exact heffect

theorem unequipItem_effect (equipmentSlotIndex : Int) :
    Effect items manager (.unequipItem equipmentSlotIndex)
      (manager.unequipItem items equipmentSlotIndex) := by
  unfold unequipItem
  split
  next index hslot =>
    split
    next item emptySlotIndex hitem hempty =>
      have heffect : Effect items manager (.unequipItem equipmentSlotIndex) _ :=
        .unequipped hslot hitem hempty
      have hnone := (hasSlot_of_findIdx? hempty).2
      have hworn : manager.getItem (.equipment index) = some item := hitem
      rw [exchange_player _ hnone hworn] at heffect
      exact heffect
    next => exact .refused _
  next => exact .refused _

theorem moveItem_effect (fromSlot toSlot : Int) (fromType toType : SlotType) :
    Effect items manager (.moveItem fromSlot toSlot fromType toType)
      (manager.moveItem items fromSlot toSlot fromType toType) := by
  unfold moveItem
  split
  next sourceSlot targetSlot hsource htarget =>
    split
    next => exact .refused _
    next item hitem =>
      split
      next hallowed => exact .swappedByMove hsource htarget hitem hallowed
      next => exact .refused _
  next => exact .refused _

theorem pushItem_effect (inputItem : Option ItemRef) :
    Effect items manager (.pushItem inputItem) (some (manager.pushItem inputItem)) := by
  unfold pushItem
  split
  next emptySlotIndex hempty => exact .pushed hempty
  next => exact .refused _

theorem call_effect (items : ItemRef → Item K) (manager : InventoryManager K)
    (event : InventoryCall) : Effect items manager event (manager.call items event) := by
  cases event with
  | equipItem index => exact equipItem_effect index
  | unequipItem index => exact unequipItem_effect index
  | moveItem fromSlot toSlot fromType toType =>
    exact moveItem_effect fromSlot toSlot fromType toType
  | pushItem inputItem => exact pushItem_effect inputItem

/-- A swap whose first item is equipment exchanges the slots; another has no result. -/
theorem swapItems_equipable {slot1 slot2 : SlotRef} {item1 : ItemRef}
    {equipType : EquipmentType} {status : ItemStatus K}
    (hitem : manager.getItem slot1 = some item1)
    (hequipable : (items item1).equipable = some (equipType, status)) :
    swapItems items manager slot1 slot2 = some ({ manager with
      player := manager.player.wearEquipment items item1 equipType status }.exchange
        slot1 slot2) := by
  unfold swapItems
  simp only [hitem, hequipable]
  exact congrArg some (exchange_player _ hitem rfl).symm

theorem swapItems_not_equipable {slot1 slot2 : SlotRef} {item1 : ItemRef}
    (hitem : manager.getItem slot1 = some item1)
    (hequipable : (items item1).equipable = none) :
    swapItems items manager slot1 slot2 = none := by
  unfold swapItems
  simp only [hitem, hequipable]

end Effects

/-! ## A weapon and an ingredient -/

/-- Item 0 is a weapon and every other one an ingredient. -/
def twoItems : ItemRef → Item ℚ
  | 0 => ⟨110102, .equipable .weapon ⟨50, 0, 0, 0, 0, 0, 0, 0⟩⟩
  | _ => ⟨401106, .ingredients⟩

def someStatus : PlayerStatus ℚ := ⟨1000, 1000, 500, 500, 10, 1, 0, 0, 1, 1⟩

end InventoryManager

end SurvivalArena
