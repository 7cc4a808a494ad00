import SurvivalArena.Framework.Machine
import SurvivalArena.Game.Inventory

/-!
# Conservation of items and types of slots

The items that the slots hold together, and the types that the slots of the equipment keep.
-/

namespace SurvivalArena

open Function

namespace InventoryManager

/-! ## The items held -/

section Held

variable {K : Type}

def content : Option ItemRef → Multiset ItemRef
  | some item => {item}
  | none => 0

def held (manager : InventoryManager K) : Multiset ItemRef :=
  (manager.inventorySlots.map content).sum + ∑ index, content (manager.equipmentSlots index)

theorem held_setItem {manager : InventoryManager K} {slot : SlotRef}
    (hslot : manager.HasSlot slot) (item : Option ItemRef) :
    (manager.setItem slot item).held + content (manager.getItem slot) =
      manager.held + content item := by
  cases slot with
  | inventory index =>
    obtain ⟨old, hold⟩ : ∃ old, manager.inventorySlots[index]? = some old :=
      ⟨_, List.getElem?_eq_getElem hslot⟩
    have hitem : manager.getItem (.inventory index) = old := by
      show (manager.inventorySlots[index]?).join = old
      rw [hold]
      rfl
    have hsum := Slots.sum_set content hold item
    rw [hitem]
    unfold held setItem
    rw [add_right_comm, hsum, add_right_comm]
  | equipment index =>
    have hsum := Slots.sum_update content manager.equipmentSlots index item
    unfold held setItem getItem
    rw [add_assoc, hsum, add_assoc]

theorem hasSlot_setItem {manager : InventoryManager K} {slot : SlotRef}
    (hslot : manager.HasSlot slot) (other : SlotRef) (item : Option ItemRef) :
    (manager.setItem other item).HasSlot slot := by
  cases slot with
  | inventory index =>
    cases other with
    | inventory _ =>
      show index < (manager.inventorySlots.set _ item).length
      rw [List.length_set]
      exact hslot
    | equipment _ => exact hslot
  | equipment _ => trivial

theorem getItem_setItem {manager : InventoryManager K} {slot : SlotRef}
    (hslot : manager.HasSlot slot) (item : Option ItemRef) (other : SlotRef) :
    (manager.setItem slot item).getItem other =
      if other = slot then item else manager.getItem other := by
  cases slot with
  | inventory index =>
    cases other with
    | inventory otherIndex =>
      show ((manager.inventorySlots.set index item)[otherIndex]?).join = _
      rw [List.getElem?_set]
      by_cases heq : index = otherIndex
      · subst heq
        have hlt : index < manager.inventorySlots.length := hslot
        rw [if_pos rfl, if_pos hlt, if_pos rfl]
        rfl
      · rw [if_neg heq, if_neg fun h => heq (SlotRef.inventory.inj h).symm]
        rfl
    | equipment _ => rw [if_neg SlotRef.noConfusion]; rfl
  | equipment index =>
    cases other with
    | inventory _ => rw [if_neg SlotRef.noConfusion]; rfl
    | equipment otherIndex =>
      show update manager.equipmentSlots index item otherIndex = _
      by_cases heq : otherIndex = index
      · rw [heq, update_self, if_pos rfl]
      · rw [update_of_ne heq, if_neg fun h => heq (SlotRef.equipment.inj h)]
        rfl

/-- An exchange sets each of its slots to what the other held, also where they are one. -/
theorem getItem_exchange {manager : InventoryManager K} {slot1 slot2 : SlotRef}
    (h1 : manager.HasSlot slot1) (h2 : manager.HasSlot slot2) (other : SlotRef) :
    (manager.exchange slot1 slot2).getItem other =
      if other = slot2 then manager.getItem slot1
      else if other = slot1 then manager.getItem slot2
      else manager.getItem other := by
  unfold exchange
  rw [getItem_setItem (hasSlot_setItem h2 _ _), getItem_setItem h1]

theorem held_exchange (manager : InventoryManager K) {slot1 slot2 : SlotRef}
    (h1 : manager.HasSlot slot1) (h2 : manager.HasSlot slot2) :
    (manager.exchange slot1 slot2).held = manager.held := by
  have hfirst := held_setItem h1 (manager.getItem slot2)
  have hsecond := held_setItem (hasSlot_setItem h2 slot1 (manager.getItem slot2))
    (manager.getItem slot1)
  have hsame : (manager.setItem slot1 (manager.getItem slot2)).getItem slot2 =
      manager.getItem slot2 := by
    rw [getItem_setItem h1]
    split
    · rfl
    · rfl
  rw [hsame] at hsecond
  refine add_right_cancel (b := content (manager.getItem slot2)) ?_
  calc (manager.exchange slot1 slot2).held + content (manager.getItem slot2)
      = (manager.setItem slot1 (manager.getItem slot2)).held +
          content (manager.getItem slot1) := hsecond
    _ = manager.held + content (manager.getItem slot2) := hfirst

end Held

/-! ## The types of the slots -/

section Typed

variable {K : Type}

/-- The cast of an item to `EquipableItem` is valid and its type is the one of a slot. -/
def FitsEquipment (items : ItemRef → Item K) (index : Fin 5) (item : ItemRef) : Prop :=
  ∃ equipType status, (items item).equipable = some (equipType, status) ∧
    getEquipmentSlotIndex equipType = some index

/-- What a slot may hold. -/
def Accepts (items : ItemRef → Item K) : SlotRef → Option ItemRef → Prop
  | .equipment index, some item => FitsEquipment items index item
  | _, _ => True

def SlotsTyped (items : ItemRef → Item K) (manager : InventoryManager K) : Prop :=
  ∀ index item, manager.equipmentSlots index = some item → FitsEquipment items index item

variable {items : ItemRef → Item K} {manager : InventoryManager K}

theorem accepts_none (slot : SlotRef) : Accepts items slot none := by
  cases slot with
  | inventory _ => trivial
  | equipment _ => trivial

theorem slotsTyped_iff :
    SlotsTyped items manager ↔ ∀ slot, Accepts items slot (manager.getItem slot) := by
  constructor
  · intro h slot
    cases slot with
    | inventory index => trivial
    | equipment index =>
      show Accepts items (.equipment index) (manager.equipmentSlots index)
      cases hitem : manager.equipmentSlots index with
      | none => trivial
      | some item => exact h index item hitem
  · intro h index item hitem
    have hslot := h (.equipment index)
    rw [show manager.getItem (.equipment index) = some item from hitem] at hslot
    exact hslot

/-- An exchange keeps the types of typed slots exactly when each of the two slots accepts
the item of the other. -/
theorem slotsTyped_exchange (h : SlotsTyped items manager) {slot1 slot2 : SlotRef}
    (h1 : manager.HasSlot slot1) (h2 : manager.HasSlot slot2) :
    SlotsTyped items (manager.exchange slot1 slot2) ↔
      Accepts items slot2 (manager.getItem slot1) ∧
        Accepts items slot1 (manager.getItem slot2) := by
  rw [slotsTyped_iff] at h ⊢
  constructor
  · intro hafter
    have hslot2 := hafter slot2
    have hslot1 := hafter slot1
    rw [getItem_exchange h1 h2, if_pos rfl] at hslot2
    rw [getItem_exchange h1 h2] at hslot1
    refine ⟨hslot2, ?_⟩
    by_cases heq : slot1 = slot2
    · rw [← heq]
      exact h slot1
    · rw [if_neg heq, if_pos rfl] at hslot1
      exact hslot1
  · intro haccepts slot
    rw [getItem_exchange h1 h2]
    split
    next heq =>
      rw [heq]
      exact haccepts.1
    next =>
      split
      next heq =>
        rw [heq]
        exact haccepts.2
      next => exact h slot

theorem slotsTyped_exchange_player (h : SlotsTyped items manager) (player : Player K)
    {slot1 slot2 : SlotRef} (h1 : manager.HasSlot slot1) (h2 : manager.HasSlot slot2) :
    SlotsTyped items ({ manager with player }.exchange slot1 slot2) ↔
      Accepts items slot2 (manager.getItem slot1) ∧
        Accepts items slot1 (manager.getItem slot2) :=
  have hsame : SlotsTyped items { manager with player } := h
  slotsTyped_exchange hsame h1 h2

theorem slotsTyped_push (h : SlotsTyped items manager) (index : Nat)
    (item : Option ItemRef) : SlotsTyped items (manager.setItem (.inventory index) item) :=
  h

end Typed

/-! ## The law of a call -/

section Conserves

variable {K : Type}

/-- The items that a call brings to the slots. -/
def brought (event : InventoryCall) (done : Bool) : Multiset ItemRef :=
  match event with
  | .pushItem inputItem => if done then content inputItem else 0
  | _ => 0

/-- A call conserves the items up to the ones it brings, does nothing to the slots where it
answers `false`, and keeps the types of the slots. -/
structure Conserves (items : ItemRef → Item K) (manager : InventoryManager K)
    (event : InventoryCall) (result : InventoryManager K × Bool) : Prop where
  held : result.1.held = manager.held + brought event result.2
  refused : result.2 = false → result.1.inventorySlots = manager.inventorySlots ∧
    result.1.equipmentSlots = manager.equipmentSlots
  typed : SlotsTyped items result.1

variable {items : ItemRef → Item K} {manager : InventoryManager K}

theorem conserves_refused (h : SlotsTyped items manager) (event : InventoryCall) :
    Conserves items manager event (manager, false) where
  held := by
    cases event with
    | pushItem _ => exact (add_zero _).symm
    | _ => exact (add_zero _).symm
  refused := fun _ => ⟨rfl, rfl⟩
  typed := h

/-- An exchange next to a change of the player. -/
theorem conserves_exchange {event : InventoryCall} {player : Player K}
    {slot1 slot2 : SlotRef} (h1 : manager.HasSlot slot1) (h2 : manager.HasSlot slot2)
    (hbrought : brought event true = 0)
    (h : SlotsTyped items ({ manager with player }.exchange slot1 slot2)) :
    Conserves items manager event ({ manager with player }.exchange slot1 slot2, true) where
  held := by
    rw [hbrought, add_zero]
    exact held_exchange { manager with player } h1 h2
  refused := fun hfalse => Bool.noConfusion hfalse
  typed := h

end Conserves

variable {K : Type} [Field K] [LinearOrder K] [FloorRing K]

/-- A call has a result and conserves items and types. -/
def CallConserves (items : ItemRef → Item K) (manager : InventoryManager K)
    (event : InventoryCall) : Prop :=
  ∃ result, manager.call items event = some result ∧ Conserves items manager event result

/-- Where a move comes to an exchange of two slots, the item it moves is equipment and
each of the slots accepts the item of the other. -/
def MoveTyped (items : ItemRef → Item K) (manager : InventoryManager K) :
    InventoryCall → Prop
  | .moveItem fromSlot toSlot fromType toType =>
    ∀ sourceSlot targetSlot item, manager.getSlot fromSlot fromType = some sourceSlot →
      manager.getSlot toSlot toType = some targetSlot →
      manager.getItem sourceSlot = some item → moveAllowed items item toSlot toType = true →
      (items item).equipable ≠ none ∧ Accepts items targetSlot (some item) ∧
        Accepts items sourceSlot (manager.getItem targetSlot)
  | _ => True

section Law

variable {items : ItemRef → Item K} {manager : InventoryManager K}

/-- A swap conserves exactly when its first item is equipment and each of its slots accepts
the item of the other. -/
theorem callConserves_swap (h : SlotsTyped items manager) {event : InventoryCall}
    {slot1 slot2 : SlotRef} {item1 : ItemRef}
    (hcall : manager.call items event = (swapItems items manager slot1 slot2).map (·, true))
    (hitem : manager.getItem slot1 = some item1) (h2 : manager.HasSlot slot2)
    (hbrought : brought event true = 0) :
    CallConserves items manager event ↔ (items item1).equipable ≠ none ∧
      Accepts items slot2 (some item1) ∧ Accepts items slot1 (manager.getItem slot2) := by
  have h1 := hasSlot_of_getItem hitem
  cases hequipable : (items item1).equipable with
  | none =>
    constructor
    · rintro ⟨result, hresult, -⟩
      rw [hcall, swapItems_not_equipable hitem hequipable] at hresult
      cases hresult
    · exact fun hcondition => absurd rfl hcondition.1
  | some equipable =>
    obtain ⟨equipType, status⟩ := equipable
    have htyped := slotsTyped_exchange_player h
      (manager.player.wearEquipment items item1 equipType status) h1 h2
    rw [hitem] at htyped
    constructor
    · rintro ⟨result, hresult, hlaw⟩
      rw [hcall, swapItems_equipable hitem hequipable] at hresult
      cases hresult
      exact ⟨Option.some_ne_none _, htyped.mp hlaw.typed⟩
    · rintro ⟨-, haccepts⟩
      refine ⟨_, by rw [hcall, swapItems_equipable hitem hequipable]; rfl, ?_⟩
      exact conserves_exchange h1 h2 hbrought (htyped.mpr haccepts)

theorem callConserves_moveItem (h : SlotsTyped items manager) (fromSlot toSlot : Int)
    (fromType toType : SlotType) :
    CallConserves items manager (.moveItem fromSlot toSlot fromType toType) ↔
      MoveTyped items manager (.moveItem fromSlot toSlot fromType toType) := by
  have heffect := call_effect items manager
    (.moveItem fromSlot toSlot fromType toType)
  generalize hcall : manager.call items (.moveItem fromSlot toSlot fromType toType) =
    result at heffect
  by_cases hreach : ∃ sourceSlot targetSlot item,
      manager.getSlot fromSlot fromType = some sourceSlot ∧
        manager.getSlot toSlot toType = some targetSlot ∧
        manager.getItem sourceSlot = some item ∧ moveAllowed items item toSlot toType = true
  · obtain ⟨sourceSlot, targetSlot, item, hsource, htarget, hitem, hallowed⟩ := hreach
    have hswap : manager.call items (.moveItem fromSlot toSlot fromType toType) =
        (swapItems items manager sourceSlot targetSlot).map (·, true) := by
      simp only [call, moveItem, hsource, htarget, hitem, hallowed, if_true]
    rw [callConserves_swap h hswap hitem (hasSlot_of_getSlot htarget) rfl]
    constructor
    · intro hcondition otherSource otherTarget otherItem hsource' htarget' hitem' _
      cases hsource.symm.trans hsource'
      cases htarget.symm.trans htarget'
      cases hitem.symm.trans hitem'
      exact hcondition
    · exact fun hmove => hmove sourceSlot targetSlot item hsource htarget hitem hallowed
  · constructor
    · intro _ sourceSlot targetSlot item hsource htarget hitem hallowed
      exact absurd ⟨sourceSlot, targetSlot, item, hsource, htarget, hitem, hallowed⟩ hreach
    · intro _
      cases heffect with
      | refused => exact ⟨_, hcall, conserves_refused h _⟩
      | swappedByMove hsource htarget hitem hallowed =>
        exact absurd ⟨_, _, _, hsource, htarget, hitem, hallowed⟩ hreach

/-- The law of one call on typed slots. -/
theorem callConserves_iff (h : SlotsTyped items manager) (event : InventoryCall) :
    CallConserves items manager event ↔ MoveTyped items manager event := by
  have heffect := call_effect items manager event
  generalize hcall : manager.call items event = result at heffect
  cases heffect with
  | refused =>
    cases event with
    | moveItem fromSlot toSlot fromType toType =>
      exact callConserves_moveItem h fromSlot toSlot fromType toType
    | _ => exact iff_of_true ⟨_, hcall, conserves_refused h _⟩ trivial
  | swappedByMove => exact callConserves_moveItem h _ _ _ _
  | swappedByEquip hslot hitem hequipable hindex =>
    refine iff_of_true ((callConserves_swap h hcall hitem trivial rfl).mpr ?_) trivial
    refine ⟨fun hnone => ?_, ⟨_, _, hequipable, hindex⟩, ?_⟩
    · rw [hequipable] at hnone
      cases hnone
    · obtain ⟨-, hinventory⟩ := Option.ite_none_right_eq_some.mp hslot
      cases hinventory
      trivial
  | equipped hslot hitem hequipable hindex hempty =>
    have hinventory := hasSlot_of_getSlot hslot
    refine iff_of_true ⟨_, hcall, conserves_exchange trivial hinventory rfl ?_⟩ trivial
    refine (slotsTyped_exchange_player h _ (hasSlot_equipment _ _) hinventory).mpr ⟨?_, ?_⟩
    · rw [show manager.getItem (.equipment _) = none from hempty]
      exact accepts_none _
    · rw [hitem]
      exact ⟨_, _, hequipable, hindex⟩
  | unequipped hequipment hitem hempty =>
    obtain ⟨hslot, hnone⟩ := hasSlot_of_findIdx? hempty
    refine iff_of_true ⟨_, hcall, conserves_exchange hslot trivial rfl ?_⟩ trivial
    refine (slotsTyped_exchange_player h _ hslot (hasSlot_equipment _ _)).mpr ⟨?_, trivial⟩
    rw [hnone]
    exact accepts_none _
  | @pushed inputItem emptySlotIndex hempty =>
    obtain ⟨hslot, hnone⟩ := hasSlot_of_findIdx? hempty
    refine iff_of_true ⟨_, hcall, ?_, fun hfalse => Bool.noConfusion hfalse, ?_⟩ trivial
    · have hheld := held_setItem hslot inputItem
      have hcontent : content none = 0 := rfl
      rw [hnone, hcontent, add_zero] at hheld
      exact hheld
    · exact slotsTyped_push h _ _

end Law

/-! ## Runs -/

/-- The next call has a result and conserves items and types. -/
def NextConserves (items : ItemRef → Item K) (state : Option (InventoryManager K))
    (event : InventoryCall) : Prop :=
  ∃ manager, state = some manager ∧ CallConserves items manager event

def NextMoveTyped (items : ItemRef → Item K) (state : Option (InventoryManager K))
    (event : InventoryCall) : Prop :=
  ∀ manager, state = some manager → MoveTyped items manager event

/-- A run conserves items and types call by call exactly when its moves are typed. -/
theorem run_conserves_iff (items : ItemRef → Item K) (manager : InventoryManager K)
    (h : SlotsTyped items manager) (calls : List InventoryCall) :
    Machine.Meets (step items) (NextConserves items) (some manager) calls ↔
      Machine.Meets (step items) (NextMoveTyped items) (some manager) calls := by
  refine Machine.meets_iff_of_invariant
    (I := fun state => ∃ manager, state = some manager ∧ SlotsTyped items manager)
    ?_ ?_ ⟨manager, rfl, h⟩
  · rintro state event ⟨manager, rfl, htyped⟩
    constructor
    · rintro ⟨manager', hmanager', hconserves⟩ manager'' hmanager''
      cases hmanager'
      cases hmanager''
      exact (callConserves_iff htyped event).mp hconserves
    · intro hmove
      exact ⟨manager, rfl, (callConserves_iff htyped event).mpr (hmove manager rfl)⟩
  · rintro state event ⟨manager, rfl, htyped⟩ ⟨manager', hmanager', hconserves⟩
    cases hmanager'
    obtain ⟨result, hresult, hlaw⟩ := hconserves
    refine ⟨result.1, ?_, hlaw.typed⟩
    show (manager.call items event).map Prod.fst = some result.1
    rw [hresult]
    rfl

/-! ### A weapon and an ingredient -/

section Example

/-- The weapon is worn and the first slot of the inventory holds an ingredient. -/
def weaponWorn : InventoryManager ℚ where
  inventorySlots := [some 1, none]
  equipmentSlots := update (fun _ => none) 0 (some 0)
  player := { status := someStatus, curEquipment := update (fun _ => none) 0 (some 0) }

theorem weaponWorn_slotsTyped : SlotsTyped twoItems weaponWorn := by
  intro index item hitem
  have hworn : update (fun _ => none) (0 : Fin 5) (some 0) index = some item := hitem
  by_cases hindex : index = 0
  · subst hindex
    rw [update_self] at hworn
    cases hworn
    exact ⟨.weapon, _, rfl, rfl⟩
  · rw [update_of_ne hindex] at hworn
    cases hworn

/-- The weapon goes back to its slot of the inventory. -/
theorem run_conserves_unequip :
    Machine.Meets (step twoItems) (NextConserves twoItems) (some weaponWorn)
      [.unequipItem 0, .equipItem 1] :=
  (run_conserves_iff twoItems weaponWorn weaponWorn_slotsTyped _).mpr
    ⟨fun _ _ => trivial, fun _ _ => trivial, trivial⟩

/-- The weapon moved onto the ingredient leaves the ingredient in the slot of the weapon. -/
theorem moveItem_onto_ingredient :
    SlotsTyped twoItems weaponWorn ∧
      ¬ Machine.Meets (step twoItems) (NextConserves twoItems) (some weaponWorn)
        [.moveItem 0 0 .equipment .inventory] := by
  refine ⟨weaponWorn_slotsTyped, ?_⟩
  rintro ⟨⟨manager, hmanager, hconserves⟩, -⟩
  cases hmanager
  have hmove := (callConserves_iff weaponWorn_slotsTyped _).mp hconserves
  have hfits : FitsEquipment twoItems 0 1 :=
    (hmove (.equipment 0) (.inventory 0) 0 rfl rfl rfl rfl).2.2
  obtain ⟨equipType, status, hequipable, -⟩ := hfits
  cases hequipable

end Example

end InventoryManager

end SurvivalArena
