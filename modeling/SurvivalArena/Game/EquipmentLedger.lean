import SurvivalArena.Framework.Machine
import SurvivalArena.Game.Inventory

/-!
# The equipment ledger

What the statistics of a player owe to the items in the slots of the equipment, call by
call, and the part of the maximum that health and stamina keep when an item is put on or
taken off.
-/

namespace SurvivalArena

open Function

/-! ## One item of a player -/

/-- What the item in a slot adds to a statistic. -/
def Statistic.ofContent {K : Type} [Field K] (items : ItemRef → Item K) (statistic : Statistic) :
    Option ItemRef → K
  | none => 0
  | some item =>
    match (items item).equipable with
    | some (_, status) => statistic.ofItem status
    | none => 0

namespace Player

section Inventory

variable {K : Type}

def HasRoom (player : Player K) : Prop :=
  player.inventory.findIdx? Option.isNone ≠ none

instance (player : Player K) : Decidable player.HasRoom :=
  inferInstanceAs (Decidable (_ ≠ _))

theorem wearIndex_eq (equipType : EquipmentType) :
    wearIndex equipType = InventoryManager.getEquipmentSlotIndex equipType := by
  cases equipType <;> rfl

theorem takeFromInventory_status (player : Player K) (item : ItemRef) :
    (player.takeFromInventory item).status = player.status ∧
      (player.takeFromInventory item).curEquipment = player.curEquipment := by
  unfold takeFromInventory
  split
  · exact ⟨rfl, rfl⟩
  · exact ⟨rfl, rfl⟩

end Inventory

variable {K : Type} [Field K] [LinearOrder K] [FloorRing K] {items : ItemRef → Item K}

theorem takeOffEquipment_empty {player : Player K} {index : Fin 5}
    (h : player.curEquipment index = none) :
    player.takeOffEquipment items index = player := by
  unfold takeOffEquipment
  rw [h]

theorem takeOffEquipment_item {player : Player K} {index : Fin 5} {item : ItemRef}
    {emptyIndex : Nat} (hitem : player.curEquipment index = some item)
    (hempty : player.inventory.findIdx? Option.isNone = some emptyIndex) :
    player.takeOffEquipment items index =
      { status := match (items item).equipable with
          | some (_, status) => player.status.releaseEquipStatus status
          | none => player.status
        curEquipment := update player.curEquipment index none
        inventory := player.inventory.set emptyIndex (some item) } := by
  have hfound : ∃ after, player.takeOffEquipment items index = after ∧ after = _ :=
    ⟨_, by rw [takeOffEquipment, hitem, hempty], rfl⟩
  obtain ⟨after, hafter, hsame⟩ := hfound
  exact hafter.trans hsame

/-- With room in the player's inventory the item at an index is taken off. -/
theorem takeOffEquipment_ledger (items : ItemRef → Item K) {player : Player K} (index : Fin 5)
    (hroom : player.HasRoom) (statistic : Statistic) :
    (player.takeOffEquipment items index).curEquipment =
        update player.curEquipment index none ∧
      statistic.ofPlayer (player.takeOffEquipment items index).status +
          statistic.ofContent items (player.curEquipment index) =
        statistic.ofPlayer player.status := by
  obtain ⟨emptyIndex, hempty⟩ := Option.ne_none_iff_exists'.mp hroom
  cases hitem : player.curEquipment index with
  | none =>
    rw [takeOffEquipment_empty hitem]
    refine ⟨?_, add_zero _⟩
    rw [← hitem, update_eq_self]
  | some item =>
    rw [takeOffEquipment_item hitem hempty]
    refine ⟨rfl, ?_⟩
    unfold Statistic.ofContent
    cases hequipable : (items item).equipable with
    | none =>
      simp only [hequipable]
      exact add_zero _
    | some equipable =>
      simp only [hequipable]
      rw [Statistic.releaseEquipStatus, sub_add_cancel]

/-- An item put on takes the place of its type, and what was there leaves the statistics
where the player's inventory has room for it. -/
theorem wearEquipment_ledger {player : Player K} {item : ItemRef}
    {equipType : EquipmentType} {status : ItemStatus K} {index : Fin 5}
    (hequipable : (items item).equipable = some (equipType, status))
    (hindex : wearIndex equipType = some index)
    (hplace : player.curEquipment index = none ∨ (player.takeFromInventory item).HasRoom)
    (statistic : Statistic) :
    (player.wearEquipment items item equipType status).curEquipment =
        update player.curEquipment index (some item) ∧
      statistic.ofPlayer (player.wearEquipment items item equipType status).status +
          statistic.ofContent items (player.curEquipment index) =
        statistic.ofPlayer player.status + statistic.ofContent items (some item) := by
  obtain ⟨hstatus, hcurEquipment⟩ := takeFromInventory_status player item
  have hcontent : statistic.ofContent items (some item) = statistic.ofItem status := by
    unfold Statistic.ofContent
    simp only [hequipable]
  have htakeOff : ((player.takeFromInventory item).takeOffEquipment items index).curEquipment =
        update player.curEquipment index none ∧
      statistic.ofPlayer ((player.takeFromInventory item).takeOffEquipment items index).status +
          statistic.ofContent items (player.curEquipment index) =
        statistic.ofPlayer player.status := by
    rw [← hstatus, ← hcurEquipment]
    rcases hplace with hnone | hroom
    · have hsame : (player.takeFromInventory item).takeOffEquipment items index =
          player.takeFromInventory item :=
        takeOffEquipment_empty ((congrFun hcurEquipment index).trans hnone)
      rw [hsame, hcurEquipment, hnone]
      refine ⟨?_, add_zero _⟩
      rw [← hnone, update_eq_self]
    · exact takeOffEquipment_ledger items _ hroom statistic
  unfold wearEquipment
  simp only [hindex]
  constructor
  · rw [htakeOff.1, update_idem]
  · rw [Statistic.applyEquipStatus, add_right_comm, htakeOff.2, hcontent]

end Player

/-! ## The ledger -/

namespace InventoryManager

variable {K : Type} [Field K] [LinearOrder K] [FloorRing K]

/-- The player's statistics are the initial ones and those of the items in the slots of the
equipment, which are the items that the player wears. -/
structure Ledger (items : ItemRef → Item K) (initial : PlayerStatus K)
    (manager : InventoryManager K) : Prop where
  statistics : ∀ statistic : Statistic, statistic.ofPlayer manager.player.status =
    statistic.ofPlayer initial +
      ∑ index, statistic.ofContent items (manager.equipmentSlots index)
  curEquipment : manager.player.curEquipment = manager.equipmentSlots

/-- The exchange of two slots brings the item of the first to the place of its type and
changes no other place, and what was in that place can be taken off. -/
def SwapInPlace (items : ItemRef → Item K) (manager : InventoryManager K)
    (slot1 slot2 : SlotRef) (item1 : ItemRef) : Prop :=
  ∃ equipType status index, (items item1).equipable = some (equipType, status) ∧
    getEquipmentSlotIndex equipType = some index ∧
    (manager.exchange slot1 slot2).equipmentSlots =
      update manager.equipmentSlots index (some item1) ∧
    (manager.equipmentSlots index = none ∨ (manager.player.takeFromInventory item1).HasRoom)

/-- An item is put on where it goes to the place of its type, and one is taken off where
the player's inventory has room for it. -/
def CallInPlace (items : ItemRef → Item K) (manager : InventoryManager K) :
    InventoryCall → Prop
  | .equipItem inventorySlotIndex =>
    ∀ slot item equipType status index,
      manager.getSlot inventorySlotIndex .inventory = some slot →
      manager.getItem slot = some item →
      (items item).equipable = some (equipType, status) →
      getEquipmentSlotIndex equipType = some index →
      manager.equipmentSlots index = none ∨ (manager.player.takeFromInventory item).HasRoom
  | .unequipItem equipmentSlotIndex =>
    ∀ index, manager.getSlot equipmentSlotIndex .equipment = some (.equipment index) →
      manager.equipmentSlots index ≠ none →
      manager.inventorySlots.findIdx? Option.isNone ≠ none → manager.player.HasRoom
  | .moveItem fromSlot toSlot fromType toType =>
    ∀ sourceSlot targetSlot item, manager.getSlot fromSlot fromType = some sourceSlot →
      manager.getSlot toSlot toType = some targetSlot →
      manager.getItem sourceSlot = some item → moveAllowed items item toSlot toType = true →
      SwapInPlace items manager sourceSlot targetSlot item
  | .pushItem _ => True

section Law

variable {items : ItemRef → Item K} {initial : PlayerStatus K}
  {manager : InventoryManager K}

/-- The item of a slot that takes the place of its type. -/
theorem ledger_wear (h : Ledger items initial manager) {item : ItemRef}
    {equipType : EquipmentType} {status : ItemStatus K} {index : Fin 5}
    (hequipable : (items item).equipable = some (equipType, status))
    (hindex : getEquipmentSlotIndex equipType = some index)
    (hplace : manager.equipmentSlots index = none ∨
      (manager.player.takeFromInventory item).HasRoom)
    {after : InventoryManager K}
    (hplayer : after.player = manager.player.wearEquipment items item equipType status)
    (hslots : after.equipmentSlots = update manager.equipmentSlots index (some item)) :
    Ledger items initial after := by
  have hwear := Player.wearEquipment_ledger hequipable
    ((Player.wearIndex_eq equipType).trans hindex) (h.curEquipment ▸ hplace)
  constructor
  · intro statistic
    have hbefore := h.statistics statistic
    have hstatistic := (hwear statistic).2
    have hsum := Slots.sum_update (statistic.ofContent items) manager.equipmentSlots index
      (some item)
    rw [h.curEquipment] at hstatistic
    rw [hplayer, hslots]
    refine add_right_cancel (b := statistic.ofContent items (manager.equipmentSlots index)) ?_
    rw [hstatistic, add_assoc, hsum, hbefore, add_assoc]
  · rw [hplayer, hslots, (hwear .maxHP).1, h.curEquipment]

theorem ledger_takeOff (h : Ledger items initial manager) {index : Fin 5}
    (hroom : manager.player.HasRoom) {after : InventoryManager K}
    (hplayer : after.player = manager.player.takeOffEquipment items index)
    (hslots : after.equipmentSlots = update manager.equipmentSlots index none) :
    Ledger items initial after := by
  have htakeOff := Player.takeOffEquipment_ledger items index hroom
  constructor
  · intro statistic
    have hbefore := h.statistics statistic
    have hstatistic := (htakeOff statistic).2
    have hsum := Slots.sum_update (statistic.ofContent items) manager.equipmentSlots index none
    rw [h.curEquipment] at hstatistic
    rw [hplayer, hslots]
    refine add_right_cancel (b := statistic.ofContent items (manager.equipmentSlots index)) ?_
    rw [hstatistic, add_assoc, hsum, hbefore]
    exact congrArg _ (add_zero _).symm
  · rw [hplayer, hslots, (htakeOff .maxHP).1, h.curEquipment]

/-- The law of one call. -/
theorem ledger_call (h : Ledger items initial manager) {event : InventoryCall}
    (hcondition : CallInPlace items manager event) :
    ∃ result, manager.call items event = some result ∧ Ledger items initial result.1 := by
  have heffect := call_effect items manager event
  generalize hcall : manager.call items event = result at heffect
  cases heffect with
  | refused => exact ⟨_, rfl, h⟩
  | swappedByMove hsource htarget hitem hallowed =>
    obtain ⟨equipType, status, index, hequipable, hindex, hslots, hplace⟩ :=
      hcondition _ _ _ hsource htarget hitem hallowed
    rw [swapItems_equipable hitem hequipable]
    obtain ⟨hplayer, hequipmentSlots⟩ := exchange_fields manager
      (manager.player.wearEquipment items _ equipType status) _ _
    exact ⟨_, rfl, ledger_wear h hequipable hindex hplace hplayer
      (hequipmentSlots.trans hslots)⟩
  | swappedByEquip hslot hitem hequipable hindex =>
    have hplace := hcondition _ _ _ _ _ hslot hitem hequipable hindex
    obtain ⟨-, hinventory⟩ := Option.ite_none_right_eq_some.mp hslot
    cases hinventory
    rw [swapItems_equipable hitem hequipable]
    refine ⟨_, rfl, ledger_wear h hequipable hindex hplace rfl ?_⟩
    exact (exchange_equipmentSlots hitem).1
  | equipped hslot hitem hequipable hindex hempty =>
    have hplace := hcondition _ _ _ _ _ hslot hitem hequipable hindex
    obtain ⟨-, hinventory⟩ := Option.ite_none_right_eq_some.mp hslot
    cases hinventory
    refine ⟨_, rfl, ledger_wear h hequipable hindex hplace rfl ?_⟩
    exact (exchange_equipmentSlots hitem).2
  | unequipped hslot hitem hempty =>
    have hroom := hcondition _ hslot (by rw [hitem]; exact Option.some_ne_none _)
      (by rw [hempty]; exact Option.some_ne_none _)
    refine ⟨_, rfl, ledger_takeOff h hroom rfl ?_⟩
    exact (exchange_equipmentSlots (hasSlot_of_findIdx? hempty).2).1
  | pushed hempty => exact ⟨_, rfl, h.statistics, h.curEquipment⟩

end Law

/-! ### Runs -/

def NextInPlace (items : ItemRef → Item K) (state : Option (InventoryManager K))
    (event : InventoryCall) : Prop :=
  ∀ manager, state = some manager → CallInPlace items manager event

omit [LinearOrder K] [FloorRing K] in
theorem ledger_initial (items : ItemRef → Item K) {manager : InventoryManager K}
    (hslots : manager.equipmentSlots = fun _ => none)
    (hcurEquipment : manager.player.curEquipment = fun _ => none) :
    Ledger items manager.player.status manager where
  statistics := by
    intro statistic
    have hempty : ∑ index, statistic.ofContent items (manager.equipmentSlots index) = 0 :=
      Finset.sum_eq_zero fun index _ => by rw [hslots]; rfl
    rw [hempty, add_zero]
  curEquipment := hcurEquipment.trans hslots.symm

theorem run_ledger {items : ItemRef → Item K} {manager : InventoryManager K}
    (hslots : manager.equipmentSlots = fun _ => none)
    (hcurEquipment : manager.player.curEquipment = fun _ => none)
    {calls : List InventoryCall}
    (hcalls : Machine.Meets (step items) (NextInPlace items) (some manager) calls) :
    ∃ final, Machine.run (step items) (some manager) calls = some final ∧
      Ledger items manager.player.status final := by
  refine Machine.run_invariant_of_meets
    (I := fun state => ∃ final, state = some final ∧
      Ledger items manager.player.status final) ?_
    ⟨manager, rfl, ledger_initial items hslots hcurEquipment⟩ hcalls
  rintro state event hcondition ⟨before, rfl, hledger⟩
  obtain ⟨result, hresult, hafter⟩ := ledger_call hledger (hcondition before rfl)
  refine ⟨result.1, ?_, hafter⟩
  show (before.call items event).map Prod.fst = some result.1
  rw [hresult]
  rfl

end InventoryManager

/-! ## The parts of the maximum -/

namespace PlayerStatus

variable {K : Type} [Field K] [LinearOrder K] [FloorRing K]

/-- Health and stamina keep their part of the maximum, up to the conversion to an integer. -/
def KeepsRatios (before after : PlayerStatus K) : Prop :=
  after.hp = truncate ((after.maxHP : K) * ((before.hp : K) / (before.maxHP : K))) ∧
    after.stamina =
      truncate ((after.maxStamina : K) * ((before.stamina : K) / (before.maxStamina : K)))

/-- Next to a new maximum the part of the health and the part of the stamina come to the
same stamina. -/
def RatiosAgree (status : PlayerStatus K) (maxStamina : Int) : Prop :=
  truncate ((maxStamina : K) * ((status.hp : K) / (status.maxHP : K))) =
    truncate ((maxStamina : K) * ((status.stamina : K) / (status.maxStamina : K)))

theorem applyEquipStatus_keepsRatios (status : PlayerStatus K) (equipStatus : ItemStatus K) :
    KeepsRatios status (status.applyEquipStatus equipStatus) ↔
      RatiosAgree status (status.maxStamina + equipStatus.maxSP) :=
  ⟨fun h => h.2, fun h => ⟨rfl, h⟩⟩

theorem releaseEquipStatus_keepsRatios (status : PlayerStatus K)
    (equipStatus : ItemStatus K) :
    KeepsRatios status (status.releaseEquipStatus equipStatus) ↔
      RatiosAgree status (status.maxStamina - equipStatus.maxSP) :=
  ⟨fun h => h.2, fun h => ⟨rfl, h⟩⟩

end PlayerStatus

/-! ## Both laws -/

namespace InventoryManager

/-- The weapon is in the first of two slots. -/
def weaponHeld : InventoryManager ℚ where
  inventorySlots := [some 0, none]
  equipmentSlots := fun _ => none
  player := { status := someStatus }

end InventoryManager

end SurvivalArena
