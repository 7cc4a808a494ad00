import SurvivalArena.Game.Equipment

/-!
# Crafting

Recipes of two ingredients, crafted from a list of slots or from two given slots.  A slot is
known by its identity, so that one may be given twice; the counts that the source adds up
are its `int32`s, which wrap around.
-/

namespace SurvivalArena

open Function

structure RecipeIngredient where
  itemID : Int32
  quantity : Int32 := 1

structure Recipe where
  resultItemID : Int32
  ingredient1 : RecipeIngredient
  ingredient2 : RecipeIngredient

/-- The items that exist, by `ID`; for another `ID` the lookup gives no item. -/
structure ItemManager where
  itemID : ItemRef → Int32
  getItem : Int32 → Option ItemRef

namespace Recipe

variable {Slot : Type} [DecidableEq Slot]

def ingredients (recipe : Recipe) : List RecipeIngredient :=
  [recipe.ingredient1, recipe.ingredient2]

/-- The content of a slot is an item with this `ID`. -/
def holds (itemManager : ItemManager) (store : Slot → Option ItemRef) (itemID : Int32)
    (slot : Slot) : Bool :=
  decide ((store slot).map itemManager.itemID = some itemID)

/-! ## From a list of slots -/

def requiredItems (recipe : Recipe) : Int32 → Int32 :=
  recipe.ingredients.foldl (fun required ingredient =>
    update required ingredient.itemID (required ingredient.itemID + ingredient.quantity))
    fun _ => 0

def canCraftFromSlots (itemManager : ItemManager) (recipe : Recipe)
    (store : Slot → Option ItemRef) (slots : List Slot) : Bool :=
  let required := (recipe.ingredients.map (·.itemID)).dedup
  let availableItems itemID := Int32.ofNat (slots.countP (holds itemManager store itemID))
  let emptySlotCount := Int32.ofNat (slots.countP fun slot => (store slot).isNone)
  required.all (fun itemID => recipe.requiredItems itemID ≤ availableItems itemID) &&
    let totalRequiredSlots := (required.map recipe.requiredItems).sum
    let slotsAfterCraft := emptySlotCount + (totalRequiredSlots - 1)
    0 ≤ slotsAfterCraft

/-- The counts only go down to zero from here. -/
def toConsume (recipe : Recipe) : Int32 → Int :=
  recipe.ingredients.foldl (fun consume ingredient =>
    update consume ingredient.itemID ingredient.quantity.toInt) fun _ => 0

/-- The loop over the slots, which ends early once every count is down. -/
def slotsToConsume (itemManager : ItemManager) (recipe : Recipe)
    (store : Slot → Option ItemRef) (toConsume : Int32 → Int) : List Slot → List Slot
  | [] => []
  | slot :: slots =>
    match store slot with
    | none => slotsToConsume itemManager recipe store toConsume slots
    | some item =>
      let itemID := itemManager.itemID item
      if 0 < toConsume itemID then
        let toConsume := update toConsume itemID (toConsume itemID - 1)
        let allFound := recipe.ingredients.all fun ingredient =>
          toConsume ingredient.itemID ≤ 0
        if allFound then [slot]
        else slot :: slotsToConsume itemManager recipe store toConsume slots
      else slotsToConsume itemManager recipe store toConsume slots

def executeCraftFromSlots (itemManager : ItemManager) (recipe : Recipe)
    (store : Slot → Option ItemRef) (slots : List Slot) : (Slot → Option ItemRef) × Bool :=
  if recipe.canCraftFromSlots itemManager store slots then
    match recipe.slotsToConsume itemManager store recipe.toConsume slots with
    | first :: second :: rest =>
      match itemManager.getItem recipe.resultItemID with
      | none => (store, false)
      | some resultItem =>
        ((second :: rest).foldl (fun store slot => update store slot none)
          (update store first (some resultItem)), true)
    | _ => (store, false)
  else (store, false)

/-! ## From two slots -/

def matchesIngredients (recipe : Recipe) (ingredient1ID ingredient2ID : Int32) : Bool :=
  recipe.ingredient1.itemID == ingredient1ID && recipe.ingredient2.itemID == ingredient2ID ||
    recipe.ingredient1.itemID == ingredient2ID && recipe.ingredient2.itemID == ingredient1ID

def canCraftWithSlots (itemManager : ItemManager) (recipe : Recipe)
    (store : Slot → Option ItemRef) (slot1 slot2 : Slot) : Bool :=
  match store slot1, store slot2 with
  | some item1, some item2 =>
    recipe.matchesIngredients (itemManager.itemID item1) (itemManager.itemID item2)
  | _, _ => false

def executeCraftWithSlots (itemManager : ItemManager) (recipe : Recipe)
    (store : Slot → Option ItemRef) (slot1 slot2 : Slot) : (Slot → Option ItemRef) × Bool :=
  if recipe.canCraftWithSlots itemManager store slot1 slot2 then
    match itemManager.getItem recipe.resultItemID with
    | none => (store, false)
    | some resultItem => (update (update store slot1 (some resultItem)) slot2 none, true)
  else (store, false)

end Recipe

namespace RecipeManager

variable {Slot : Type} [DecidableEq Slot]

/-- The recipes are in the order of their result items. -/
def findRecipeByIngredients (recipes : List Recipe) (ingredient1ID ingredient2ID : Int32) :
    Option Recipe :=
  recipes.find? (·.matchesIngredients ingredient1ID ingredient2ID)

def findRecipeBySlots (itemManager : ItemManager) (recipes : List Recipe)
    (store : Slot → Option ItemRef) (slot1 slot2 : Slot) : Option Recipe :=
  match store slot1, store slot2 with
  | some item1, some item2 =>
    findRecipeByIngredients recipes (itemManager.itemID item1) (itemManager.itemID item2)
  | _, _ => none

def tryCraftWithInventoryManager (itemManager : ItemManager) (recipes : List Recipe)
    (store : Slot → Option ItemRef) (slot1 slot2 : Slot) : (Slot → Option ItemRef) × Bool :=
  match findRecipeBySlots itemManager recipes store slot1 slot2 with
  | none => (store, false)
  | some recipe => recipe.executeCraftWithSlots itemManager store slot1 slot2

end RecipeManager

/-! ## Exact crafting

Which items a craft consumes and what it yields: from a list of slots, where the required
counts and the consumed ones agree when the ingredients are two items, and from two slots,
where they agree when the slots are two.
-/

variable {Slot : Type}

/-! ## The law -/

section Law

variable [DecidableEq Slot]

/-- From one content of the slots to another some items go and one comes, into a slot that
is empty then. -/
structure Crafted (store after : Slot → Option ItemRef) (consumed : Finset Slot)
    (yielded : Slot) (resultItem : ItemRef) : Prop where
  filled : ∀ slot ∈ consumed, store slot ≠ none
  result : after yielded = some resultItem
  place : yielded ∈ consumed ∨ store yielded = none
  others : ∀ slot, slot ≠ yielded → after slot = if slot ∈ consumed then none else store slot

/-- Every consumed slot but one is empty afterwards. -/
theorem Crafted.card_le {store after : Slot → Option ItemRef} {consumed : Finset Slot}
    {yielded : Slot} {resultItem : ItemRef}
    (h : Crafted store after consumed yielded resultItem) {cleared : List Slot}
    (hcleared : ∀ slot, store slot ≠ none → after slot = none → slot ∈ cleared) :
    consumed.card ≤ cleared.length + 1 := by
  have hsubset : consumed.erase yielded ⊆ cleared.toFinset := by
    intro slot hslot
    obtain ⟨hne, hmem⟩ := Finset.mem_erase.mp hslot
    have hafter := h.others slot hne
    rw [if_pos hmem] at hafter
    exact List.mem_toFinset.mpr (hcleared slot (h.filled slot hmem) hafter)
  have herase := Finset.card_le_card hsubset
  have hlength := List.toFinset_card_le cleared
  have hpred := Finset.pred_card_le_card_erase (s := consumed) (a := yielded)
  omega

end Law

namespace Recipe

/-- The items that a recipe requires. -/
def requiredIDs (recipe : Recipe) : Multiset Int32 :=
  Multiset.replicate recipe.ingredient1.quantity.toInt.toNat recipe.ingredient1.itemID +
    Multiset.replicate recipe.ingredient2.quantity.toInt.toNat recipe.ingredient2.itemID

def contentIDs (itemManager : ItemManager) (store : Slot → Option ItemRef)
    (slots : Finset Slot) : Multiset (Option Int32) :=
  slots.val.map fun slot => (store slot).map itemManager.itemID

/-- A craft from a list of slots that can be made consumes the required items and yields
the result; another changes nothing. -/
structure ExactFromSlots [DecidableEq Slot] (itemManager : ItemManager) (recipe : Recipe)
    (store : Slot → Option ItemRef) (slots : List Slot) (after : Slot → Option ItemRef) :
    Prop where
  crafted : ∀ resultItem, recipe.canCraftFromSlots itemManager store slots = true →
    itemManager.getItem recipe.resultItemID = some resultItem →
    ∃ consumed ⊆ slots.toFinset, ∃ yielded,
      contentIDs itemManager store consumed = recipe.requiredIDs.map some ∧
        Crafted store after consumed yielded resultItem
  unchanged : recipe.canCraftFromSlots itemManager store slots = false ∨
    itemManager.getItem recipe.resultItemID = none → after = store

/-- The slots that come first for each ingredient are different slots. -/
def FirstsDistinct (itemManager : ItemManager) (recipe : Recipe)
    (store : Slot → Option ItemRef) (slots : List Slot) : Prop :=
  ∀ ingredient ∈ recipe.ingredients,
    ((slots.filter (holds itemManager store ingredient.itemID)).take
      ingredient.quantity.toInt.toNat).Nodup

theorem firstsDistinct_of_nodup {itemManager : ItemManager} {recipe : Recipe}
    {store : Slot → Option ItemRef} {slots : List Slot} (h : slots.Nodup) :
    FirstsDistinct itemManager recipe store slots :=
  fun _ _ => (h.filter _).sublist (List.take_sublist _ _)

/-! ## The slots that are consumed -/

section Consumed

variable {itemManager : ItemManager} {recipe : Recipe} {store : Slot → Option ItemRef}

theorem holds_iff {itemID : Int32} {slot : Slot} {item : ItemRef}
    (h : store slot = some item) :
    holds itemManager store itemID slot = true ↔ itemManager.itemID item = itemID := by
  unfold holds
  rw [h, Option.map_some, decide_eq_true_iff, Option.some_inj]

theorem holds_none {itemID : Int32} {slot : Slot} (h : store slot = none) :
    holds itemManager store itemID slot = false := by
  unfold holds
  rw [h]
  rfl

theorem slotsToConsume_none {consume : Int32 → Int} {slot : Slot} {slots : List Slot}
    (h : store slot = none) :
    recipe.slotsToConsume itemManager store consume (slot :: slots) =
      recipe.slotsToConsume itemManager store consume slots := by
  rw [slotsToConsume, h]

theorem slotsToConsume_enough {consume : Int32 → Int} {slot : Slot} {slots : List Slot}
    {item : ItemRef} (h : store slot = some item)
    (henough : ¬ 0 < consume (itemManager.itemID item)) :
    recipe.slotsToConsume itemManager store consume (slot :: slots) =
      recipe.slotsToConsume itemManager store consume slots := by
  rw [slotsToConsume, h]
  exact if_neg henough

theorem slotsToConsume_done {consume : Int32 → Int} (hconsume : ∀ itemID, consume itemID ≤ 0)
    (slots : List Slot) : recipe.slotsToConsume itemManager store consume slots = [] := by
  induction slots with
  | nil => rfl
  | cons slot slots ih =>
    cases hslot : store slot with
    | none => rw [slotsToConsume_none hslot, ih]
    | some item => rw [slotsToConsume_enough hslot (hconsume _).not_gt, ih]

/-- The counts of the items to consume are of the ingredients only. -/
structure Counts (recipe : Recipe) (consume : Int32 → Int) : Prop where
  nonneg : ∀ itemID, 0 ≤ consume itemID
  others : ∀ itemID, (∀ ingredient ∈ recipe.ingredients, ingredient.itemID ≠ itemID) →
    consume itemID = 0

theorem Counts.decrement {consume : Int32 → Int} (h : Counts recipe consume) {itemID : Int32}
    (hpos : 0 < consume itemID) :
    Counts recipe (update consume itemID (consume itemID - 1)) where
  nonneg := by
    intro other
    by_cases heq : other = itemID
    · rw [heq, update_self]
      omega
    · rw [update_of_ne heq]
      exact h.nonneg other
  others := by
    intro other hother
    have hzero := h.others other hother
    have hne : other ≠ itemID := by
      intro heq
      rw [heq] at hzero
      omega
    rw [update_of_ne hne, hzero]

theorem slotsToConsume_found {consume : Int32 → Int} (hcounts : Counts recipe consume)
    {slot : Slot} {slots : List Slot} {item : ItemRef} (h : store slot = some item)
    (hpos : 0 < consume (itemManager.itemID item)) :
    recipe.slotsToConsume itemManager store consume (slot :: slots) =
      slot :: recipe.slotsToConsume itemManager store
        (update consume (itemManager.itemID item) (consume (itemManager.itemID item) - 1))
        slots := by
  have hafter := hcounts.decrement hpos
  rw [slotsToConsume, h]
  simp only [if_pos hpos]
  split
  next hall =>
    -- every count is down, so that nothing more would be found
    rw [slotsToConsume_done]
    intro itemID
    by_cases hingredient : ∃ ingredient ∈ recipe.ingredients, ingredient.itemID = itemID
    · obtain ⟨ingredient, hmem, rfl⟩ := hingredient
      exact of_decide_eq_true (List.all_eq_true.mp hall ingredient hmem)
    · exact (hafter.others itemID fun ingredient hmem heq =>
        hingredient ⟨ingredient, hmem, heq⟩).le
  next => rfl

/-- Of each item the first slots that hold it are consumed, as many as the count says. -/
theorem slotsToConsume_filter {consume : Int32 → Int} (hcounts : Counts recipe consume)
    (slots : List Slot) (itemID : Int32) :
    (recipe.slotsToConsume itemManager store consume slots).filter
        (holds itemManager store itemID) =
      (slots.filter (holds itemManager store itemID)).take (consume itemID).toNat := by
  induction slots generalizing consume with
  | nil => rw [slotsToConsume, List.filter_nil, List.take_nil]
  | cons slot slots ih =>
    cases hslot : store slot with
    | none =>
      rw [slotsToConsume_none hslot, ih hcounts,
        List.filter_cons_of_neg (by rw [holds_none hslot]; exact Bool.false_ne_true)]
    | some item =>
      by_cases heq : itemManager.itemID item = itemID
      · have hholds : holds itemManager store itemID slot = true := (holds_iff hslot).mpr heq
        rw [List.filter_cons_of_pos hholds]
        by_cases hpos : 0 < consume (itemManager.itemID item)
        · rw [slotsToConsume_found hcounts hslot hpos, List.filter_cons_of_pos hholds,
            ih (hcounts.decrement hpos), heq, update_self]
          have hcount : (consume itemID).toNat = (consume itemID - 1).toNat + 1 := by
            rw [heq] at hpos
            omega
          rw [hcount, List.take_succ_cons]
        · have hzero : (consume itemID).toNat = 0 := by
            rw [heq] at hpos
            omega
          rw [slotsToConsume_enough hslot hpos, ih hcounts, hzero, List.take_zero,
            List.take_zero]
      · have hholds : ¬ holds itemManager store itemID slot = true := fun h =>
          heq ((holds_iff hslot).mp h)
        rw [List.filter_cons_of_neg hholds]
        by_cases hpos : 0 < consume (itemManager.itemID item)
        · rw [slotsToConsume_found hcounts hslot hpos, List.filter_cons_of_neg hholds,
            ih (hcounts.decrement hpos), update_of_ne (Ne.symm heq)]
        · rw [slotsToConsume_enough hslot hpos, ih hcounts]

theorem slotsToConsume_filled {consume : Int32 → Int} (hcounts : Counts recipe consume)
    {slots : List Slot} {slot : Slot}
    (h : slot ∈ recipe.slotsToConsume itemManager store consume slots) :
    slot ∈ slots ∧ ∃ item, store slot = some item := by
  induction slots generalizing consume with
  | nil => cases h
  | cons first slots ih =>
    cases hfirst : store first with
    | none =>
      rw [slotsToConsume_none hfirst] at h
      obtain ⟨hmem, hitem⟩ := ih hcounts h
      exact ⟨List.mem_cons_of_mem first hmem, hitem⟩
    | some item =>
      by_cases hpos : 0 < consume (itemManager.itemID item)
      · rw [slotsToConsume_found hcounts hfirst hpos] at h
        rcases List.mem_cons.mp h with rfl | h
        · exact ⟨List.mem_cons_self, item, hfirst⟩
        · obtain ⟨hmem, hitem⟩ := ih (hcounts.decrement hpos) h
          exact ⟨List.mem_cons_of_mem first hmem, hitem⟩
      · rw [slotsToConsume_enough hfirst hpos] at h
        obtain ⟨hmem, hitem⟩ := ih hcounts h
        exact ⟨List.mem_cons_of_mem first hmem, hitem⟩

/-- The length of the slots consumed for one item. -/
theorem countP_slotsToConsume {consume : Int32 → Int} (hcounts : Counts recipe consume)
    (slots : List Slot) (itemID : Int32) :
    (recipe.slotsToConsume itemManager store consume slots).countP
        (holds itemManager store itemID) =
      min (consume itemID).toNat (slots.countP (holds itemManager store itemID)) := by
  rw [List.countP_eq_length_filter, slotsToConsume_filter hcounts, List.length_take,
    ← List.countP_eq_length_filter]

/-- Where the slots that come first for each item are distinct, all the consumed are. -/
theorem slotsToConsume_nodup [DecidableEq Slot] {consume : Int32 → Int}
    (hcounts : Counts recipe consume) {slots : List Slot}
    (hfirsts : ∀ itemID, ((slots.filter (holds itemManager store itemID)).take
      (consume itemID).toNat).Nodup) :
    (recipe.slotsToConsume itemManager store consume slots).Nodup := by
  rw [List.nodup_iff_count_le_one]
  intro slot
  by_cases hmem : slot ∈ recipe.slotsToConsume itemManager store consume slots
  · obtain ⟨-, item, hitem⟩ := slotsToConsume_filled hcounts hmem
    have hholds : holds itemManager store (itemManager.itemID item) slot = true :=
      (holds_iff hitem).mpr rfl
    rw [← List.count_filter hholds, slotsToConsume_filter hcounts]
    exact List.nodup_iff_count_le_one.mp (hfirsts _) slot
  · rw [List.count_eq_zero_of_not_mem hmem]
    exact Nat.zero_le 1

end Consumed

/-! ## The counts of a recipe -/

section Counts

variable {itemManager : ItemManager} {recipe : Recipe} {store : Slot → Option ItemRef}

theorem toConsume_second (recipe : Recipe) :
    recipe.toConsume recipe.ingredient2.itemID = recipe.ingredient2.quantity.toInt :=
  update_self _ _ _

theorem toConsume_first (hdistinct : recipe.ingredient1.itemID ≠ recipe.ingredient2.itemID) :
    recipe.toConsume recipe.ingredient1.itemID = recipe.ingredient1.quantity.toInt := by
  show update (update _ _ _) recipe.ingredient2.itemID _ recipe.ingredient1.itemID = _
  rw [update_of_ne hdistinct, update_self]

theorem toConsume_other {itemID : Int32} (h1 : itemID ≠ recipe.ingredient1.itemID)
    (h2 : itemID ≠ recipe.ingredient2.itemID) : recipe.toConsume itemID = 0 := by
  show update (update _ _ _) recipe.ingredient2.itemID _ itemID = _
  rw [update_of_ne h2, update_of_ne h1]

theorem counts_toConsume (h1 : 0 < recipe.ingredient1.quantity.toInt)
    (h2 : 0 < recipe.ingredient2.quantity.toInt) : Counts recipe recipe.toConsume where
  nonneg := by
    intro itemID
    by_cases hsecond : itemID = recipe.ingredient2.itemID
    · rw [hsecond, toConsume_second]
      exact h2.le
    · by_cases hfirst : itemID = recipe.ingredient1.itemID
      · rw [hfirst, toConsume_first fun h => hsecond (hfirst.trans h)]
        exact h1.le
      · rw [toConsume_other hfirst hsecond]
  others := fun itemID hother => toConsume_other
    (Ne.symm (hother recipe.ingredient1 List.mem_cons_self))
    (Ne.symm (hother recipe.ingredient2 (List.mem_cons_of_mem _ List.mem_cons_self)))

theorem requiredItems_eq
    (hdistinct : recipe.ingredient1.itemID ≠ recipe.ingredient2.itemID)
    {ingredient : RecipeIngredient} (hmem : ingredient ∈ recipe.ingredients) :
    recipe.requiredItems ingredient.itemID = ingredient.quantity := by
  show update (update _ _ _) recipe.ingredient2.itemID _ ingredient.itemID = _
  rcases List.mem_cons.mp hmem with rfl | hmem
  · rw [update_of_ne hdistinct, update_self, Int32.zero_add]
  · rcases List.mem_cons.mp hmem with rfl | hmem
    · have hzero : update (fun _ => (0 : Int32)) recipe.ingredient1.itemID
          (0 + recipe.ingredient1.quantity) recipe.ingredient2.itemID = 0 :=
        update_of_ne (Ne.symm hdistinct) _ _
      rw [update_self]
      exact (congrArg (· + recipe.ingredient2.quantity) hzero).trans (Int32.zero_add _)
    · cases hmem

theorem toInt_ofNat_le (n : Nat) : (Int32.ofNat n).toInt ≤ n := by
  have hsize : Int32.size = 4294967296 := rfl
  rw [Int32.toInt_ofNat', Int.bmod, hsize]
  split
  next => omega
  next => omega

/-- With two items the craft is possible only where there are enough of both. -/
theorem quantity_le_countP (hdistinct : recipe.ingredient1.itemID ≠ recipe.ingredient2.itemID)
    {slots : List Slot} (hcan : recipe.canCraftFromSlots itemManager store slots = true) :
    ∀ ingredient ∈ recipe.ingredients, ingredient.quantity.toInt ≤
      slots.countP (holds itemManager store ingredient.itemID) := by
  intro ingredient hmem
  have hall := (Bool.and_eq_true_iff.mp hcan).1
  have hrequired : ingredient.itemID ∈ (recipe.ingredients.map (·.itemID)).dedup :=
    List.mem_dedup.mpr (List.mem_map_of_mem hmem)
  have hle := of_decide_eq_true (List.all_eq_true.mp hall _ hrequired)
  rw [requiredItems_eq hdistinct hmem, Int32.le_iff_toInt_le] at hle
  exact hle.trans (toInt_ofNat_le _)

end Counts

/-! ## Crafts from a list of slots -/

section FromSlots

variable {itemManager : ItemManager} {recipe : Recipe} {store : Slot → Option ItemRef}

/-- With two items the consumed slots hold what the recipe requires. -/
theorem contentIDs_slotsToConsume [DecidableEq Slot]
    (h1 : 0 < recipe.ingredient1.quantity.toInt) (h2 : 0 < recipe.ingredient2.quantity.toInt)
    (hdistinct : recipe.ingredient1.itemID ≠ recipe.ingredient2.itemID) {slots : List Slot}
    (hcan : recipe.canCraftFromSlots itemManager store slots = true)
    (hnodup : (recipe.slotsToConsume itemManager store recipe.toConsume slots).Nodup) :
    contentIDs itemManager store
        (recipe.slotsToConsume itemManager store recipe.toConsume slots).toFinset =
      recipe.requiredIDs.map some := by
  have hcounts := counts_toConsume h1 h2
  have henough := quantity_le_countP hdistinct hcan
  have hfirst := henough recipe.ingredient1 List.mem_cons_self
  have hsecond := henough recipe.ingredient2 (List.mem_cons_of_mem _ List.mem_cons_self)
  unfold contentIDs
  rw [List.toFinset_val, hnodup.dedup, Multiset.map_coe]
  ext content
  cases content with
  | none =>
    have hnone : none ∉ recipe.requiredIDs.map some := by
      intro hmem
      obtain ⟨itemID, -, hsome⟩ := Multiset.mem_map.mp hmem
      cases hsome
    rw [Multiset.count_eq_zero_of_notMem hnone, Multiset.count_eq_zero, Multiset.mem_coe]
    intro hmem
    obtain ⟨slot, hslot, hcontent⟩ := List.mem_map.mp hmem
    obtain ⟨-, item, hitem⟩ := slotsToConsume_filled hcounts hslot
    rw [hitem] at hcontent
    cases hcontent
  | some itemID =>
    rw [Multiset.count_map_eq_count' some _ (Option.some_injective _)]
    have hcount : (recipe.slotsToConsume itemManager store recipe.toConsume slots).countP
        (holds itemManager store itemID) = _ := countP_slotsToConsume hcounts slots itemID
    refine Eq.trans ?_ (hcount.trans ?_)
    · rw [← Multiset.map_coe, Multiset.count_map, ← Multiset.countP_eq_card_filter,
        Multiset.coe_countP]
      refine List.countP_congr fun slot _ => ?_
      unfold holds
      rw [decide_eq_true_iff, decide_eq_true_iff, eq_comm]
    · unfold requiredIDs
      rw [Multiset.count_add, Multiset.count_replicate, Multiset.count_replicate]
      by_cases hfirst1 : recipe.ingredient1.itemID = itemID
      · subst hfirst1
        rw [toConsume_first hdistinct, if_pos rfl, if_neg (Ne.symm hdistinct)]
        omega
      · by_cases hsecond2 : recipe.ingredient2.itemID = itemID
        · subst hsecond2
          rw [toConsume_second, if_neg hdistinct, if_pos rfl]
          omega
        · rw [toConsume_other (Ne.symm hfirst1) (Ne.symm hsecond2), if_neg hfirst1,
            if_neg hsecond2]
          exact Nat.zero_min _

theorem foldl_clear [DecidableEq Slot] (slots : List Slot) (store : Slot → Option ItemRef)
    (slot : Slot) :
    slots.foldl (fun store slot => update store slot none) store slot =
      if slot ∈ slots then none else store slot := by
  induction slots generalizing store with
  | nil => exact (if_neg List.not_mem_nil).symm
  | cons first slots ih =>
    rw [List.foldl_cons, ih]
    by_cases hmem : slot ∈ slots
    · rw [if_pos hmem, if_pos (List.mem_cons_of_mem first hmem)]
    · rw [if_neg hmem]
      by_cases heq : slot = first
      · rw [heq, update_self, if_pos List.mem_cons_self]
      · rw [update_of_ne heq, if_neg (List.not_mem_cons_of_ne_of_not_mem heq hmem)]

theorem card_contentIDs [DecidableEq Slot] {consumed : Finset Slot}
    (h : contentIDs itemManager store consumed = recipe.requiredIDs.map some) :
    consumed.card = recipe.ingredient1.quantity.toInt.toNat +
      recipe.ingredient2.quantity.toInt.toNat := by
  have hcard := congrArg Multiset.card h
  unfold contentIDs requiredIDs at hcard
  rw [Multiset.card_map, Multiset.card_map, Multiset.card_add, Multiset.card_replicate,
    Multiset.card_replicate] at hcard
  exact hcard

/-- The outcome of a craft that clears slots. -/
theorem executeCraftFromSlots_crafted [DecidableEq Slot] {slots : List Slot}
    {resultItem : ItemRef} {first second : Slot} {rest : List Slot}
    (hcan : recipe.canCraftFromSlots itemManager store slots = true)
    (hresult : itemManager.getItem recipe.resultItemID = some resultItem)
    (hconsumed : recipe.slotsToConsume itemManager store recipe.toConsume slots =
      first :: second :: rest) :
    (recipe.executeCraftFromSlots itemManager store slots).1 =
      (second :: rest).foldl (fun store slot => update store slot none)
        (update store first (some resultItem)) := by
  unfold executeCraftFromSlots
  rw [if_pos hcan, hconsumed]
  simp only [hresult]

theorem executeCraftFromSlots_exact [DecidableEq Slot]
    (h1 : 0 < recipe.ingredient1.quantity.toInt) (h2 : 0 < recipe.ingredient2.quantity.toInt)
    (hdistinct : recipe.ingredient1.itemID ≠ recipe.ingredient2.itemID) {slots : List Slot}
    (hfirsts : FirstsDistinct itemManager recipe store slots) {resultItem : ItemRef}
    (hcan : recipe.canCraftFromSlots itemManager store slots = true)
    (hresult : itemManager.getItem recipe.resultItemID = some resultItem) :
    ∃ consumed ⊆ slots.toFinset, ∃ yielded,
      contentIDs itemManager store consumed = recipe.requiredIDs.map some ∧
        Crafted store (recipe.executeCraftFromSlots itemManager store slots).1 consumed
          yielded resultItem := by
  have hcounts := counts_toConsume h1 h2
  have hnodup : (recipe.slotsToConsume itemManager store recipe.toConsume slots).Nodup := by
    refine slotsToConsume_nodup hcounts fun itemID => ?_
    by_cases hfirst : itemID = recipe.ingredient1.itemID
    · rw [hfirst, toConsume_first hdistinct]
      exact hfirsts recipe.ingredient1 List.mem_cons_self
    · by_cases hsecond : itemID = recipe.ingredient2.itemID
      · rw [hsecond, toConsume_second]
        exact hfirsts recipe.ingredient2 (List.mem_cons_of_mem _ List.mem_cons_self)
      · rw [toConsume_other hfirst hsecond]
        exact List.nodup_nil
  have hids := contentIDs_slotsToConsume h1 h2 hdistinct hcan hnodup
  have hlength := card_contentIDs hids
  rw [List.toFinset_card_of_nodup hnodup] at hlength
  have hfilled : ∀ slot ∈ recipe.slotsToConsume itemManager store recipe.toConsume slots,
      slot ∈ slots ∧ ∃ item, store slot = some item := fun slot hslot =>
    slotsToConsume_filled hcounts hslot
  obtain ⟨first, second, rest, hconsumed⟩ : ∃ first second rest,
      recipe.slotsToConsume itemManager store recipe.toConsume slots =
        first :: second :: rest := by
    match h : recipe.slotsToConsume itemManager store recipe.toConsume slots with
    | [] => rw [h, List.length_nil] at hlength; omega
    | [_] => rw [h, List.length_singleton] at hlength; omega
    | first :: second :: rest => exact ⟨first, second, rest, rfl⟩
  have hafter := executeCraftFromSlots_crafted hcan hresult hconsumed
  rw [hconsumed] at hnodup hids hfilled
  have hfresh : first ∉ second :: rest := (List.nodup_cons.mp hnodup).1
  refine ⟨(first :: second :: rest).toFinset, ?_, first, hids, ?_, ?_, ?_, ?_⟩
  · exact fun slot hslot =>
      List.mem_toFinset.mpr (hfilled slot (List.mem_toFinset.mp hslot)).1
  · intro slot hslot
    obtain ⟨-, item, hitem⟩ := hfilled slot (List.mem_toFinset.mp hslot)
    rw [hitem]
    exact Option.some_ne_none item
  · rw [hafter, foldl_clear, if_neg hfresh, update_self]
  · exact .inl (List.mem_toFinset.mpr List.mem_cons_self)
  · intro slot hne
    rw [hafter, foldl_clear, update_of_ne hne]
    by_cases hmem : slot ∈ second :: rest
    · rw [if_pos hmem, if_pos (List.mem_toFinset.mpr (List.mem_cons_of_mem first hmem))]
    · have hnot : slot ∉ (first :: second :: rest).toFinset := fun h =>
        List.not_mem_cons_of_ne_of_not_mem hne hmem (List.mem_toFinset.mp h)
      rw [if_neg hmem, if_neg hnot]

/-- A craft clears fewer slots than it found. -/
theorem executeCraftFromSlots_cleared [DecidableEq Slot] (itemManager : ItemManager)
    (recipe : Recipe) (store : Slot → Option ItemRef) (slots : List Slot) :
    ∃ cleared : List Slot, (∀ slot, store slot ≠ none →
        (recipe.executeCraftFromSlots itemManager store slots).1 slot = none →
          slot ∈ cleared) ∧
      (cleared = [] ∨ cleared.length <
        (recipe.slotsToConsume itemManager store recipe.toConsume slots).length) := by
  unfold executeCraftFromSlots
  split
  next =>
    split
    next first second rest hconsumed =>
      split
      next => exact ⟨[], fun slot hfull hafter => absurd hafter hfull, .inl rfl⟩
      next resultItem hresult =>
        refine ⟨second :: rest, fun slot hfull hafter => ?_,
          .inr (by rw [hconsumed]; exact Nat.lt_succ_self _)⟩
        by_contra hmem
        have hfold := foldl_clear (second :: rest) (update store first (some resultItem)) slot
        rw [if_neg hmem] at hfold
        have hnone := hfold.symm.trans hafter
        by_cases heq : slot = first
        · rw [heq, update_self] at hnone
          cases hnone
        · rw [update_of_ne heq] at hnone
          exact hfull hnone
    next => exact ⟨[], fun slot hfull hafter => absurd hafter hfull, .inl rfl⟩
  next => exact ⟨[], fun slot hfull hafter => absurd hafter hfull, .inl rfl⟩

theorem length_slotsToConsume_same (h1 : 0 < recipe.ingredient1.quantity.toInt)
    (h2 : 0 < recipe.ingredient2.quantity.toInt)
    (hsame : recipe.ingredient1.itemID = recipe.ingredient2.itemID) (slots : List Slot) :
    (recipe.slotsToConsume itemManager store recipe.toConsume slots).length ≤
      recipe.ingredient2.quantity.toInt.toNat := by
  have hcounts := counts_toConsume h1 h2
  have hall : (recipe.slotsToConsume itemManager store recipe.toConsume slots).filter
      (holds itemManager store recipe.ingredient2.itemID) =
        recipe.slotsToConsume itemManager store recipe.toConsume slots := by
    refine List.filter_eq_self.mpr fun slot hslot => ?_
    obtain ⟨-, item, hitem⟩ := slotsToConsume_filled hcounts hslot
    refine (holds_iff hitem).mpr ?_
    by_contra hne
    have hholds : holds itemManager store (itemManager.itemID item) slot = true :=
      (holds_iff hitem).mpr rfl
    have hmem := List.mem_filter.mpr ⟨hslot, hholds⟩
    rw [slotsToConsume_filter hcounts, toConsume_other (hsame ▸ hne) hne] at hmem
    cases hmem
  rw [← hall, slotsToConsume_filter hcounts, toConsume_second]
  exact List.length_take_le _ _

/-- With one item for both ingredients the count of the second replaces the one of the
first, so that too few slots are cleared. -/
theorem executeCraftFromSlots_same [DecidableEq Slot]
    (h1 : 0 < recipe.ingredient1.quantity.toInt) (h2 : 0 < recipe.ingredient2.quantity.toInt)
    (hsame : recipe.ingredient1.itemID = recipe.ingredient2.itemID) {slots : List Slot}
    {consumed : Finset Slot} {yielded : Slot} {resultItem : ItemRef}
    (hids : contentIDs itemManager store consumed = recipe.requiredIDs.map some) :
    ¬ Crafted store (recipe.executeCraftFromSlots itemManager store slots).1 consumed yielded
      resultItem := by
  intro hcrafted
  have hcard := card_contentIDs hids
  have hlength : (recipe.slotsToConsume itemManager store recipe.toConsume slots).length ≤ _ :=
    length_slotsToConsume_same h1 h2 hsame slots
  obtain ⟨cleared, hcleared, hfew⟩ :=
    executeCraftFromSlots_cleared itemManager recipe store slots
  have hle := hcrafted.card_le hcleared
  rcases hfew with rfl | hlt
  · rw [List.length_nil] at hle
    omega
  · omega

theorem executeCraftFromSlots_unchanged [DecidableEq Slot] {slots : List Slot}
    (h : recipe.canCraftFromSlots itemManager store slots = false ∨
      itemManager.getItem recipe.resultItemID = none) :
    (recipe.executeCraftFromSlots itemManager store slots).1 = store := by
  unfold executeCraftFromSlots
  rcases h with hcan | hresult
  · rw [hcan]
    rfl
  · simp only [hresult]
    split
    · split <;> rfl
    · rfl

/-- Crafts from different slots are exact when the ingredients are two items. -/
theorem exactFromSlots_of_distinct [DecidableEq Slot]
    (h1 : 0 < recipe.ingredient1.quantity.toInt) (h2 : 0 < recipe.ingredient2.quantity.toInt)
    (hdistinct : recipe.ingredient1.itemID ≠ recipe.ingredient2.itemID) {slots : List Slot}
    (hfirsts : FirstsDistinct itemManager recipe store slots) :
    ExactFromSlots itemManager recipe store slots
      (recipe.executeCraftFromSlots itemManager store slots).1 where
  crafted := fun _ hcan hresult =>
    executeCraftFromSlots_exact h1 h2 hdistinct hfirsts hcan hresult
  unchanged := executeCraftFromSlots_unchanged

theorem exactFromSlots_iff [DecidableEq Slot]
    (h1 : 0 < recipe.ingredient1.quantity.toInt) (h2 : 0 < recipe.ingredient2.quantity.toInt)
    {slots : List Slot} (hslots : slots.Nodup) :
    ExactFromSlots itemManager recipe store slots
        (recipe.executeCraftFromSlots itemManager store slots).1 ↔
      recipe.ingredient1.itemID ≠ recipe.ingredient2.itemID ∨
        recipe.canCraftFromSlots itemManager store slots = false ∨
        itemManager.getItem recipe.resultItemID = none := by
  constructor
  · intro hexact
    by_cases hsame : recipe.ingredient1.itemID = recipe.ingredient2.itemID
    · right
      cases hcan : recipe.canCraftFromSlots itemManager store slots with
      | false => exact .inl rfl
      | true =>
        cases hresult : itemManager.getItem recipe.resultItemID with
        | none => exact .inr rfl
        | some resultItem =>
          obtain ⟨consumed, -, yielded, hids, hcrafted⟩ :=
            hexact.crafted resultItem hcan hresult
          exact absurd hcrafted (executeCraftFromSlots_same h1 h2 hsame hids)
    · exact .inl hsame
  · rintro (hdistinct | hunchanged)
    · exact exactFromSlots_of_distinct h1 h2 hdistinct (firstsDistinct_of_nodup hslots)
    · refine ⟨fun resultItem hcan hresult => ?_, executeCraftFromSlots_unchanged⟩
      rcases hunchanged with hcannot | hnone
      · rw [hcan] at hcannot
        cases hcannot
      · rw [hresult] at hnone
        cases hnone

end FromSlots

end Recipe

/-! ## Crafts from two slots -/

namespace RecipeManager

/-- A craft from two slots that succeeds consumes the items of both and yields one; another
changes nothing. -/
structure ExactWithSlots [DecidableEq Slot] (store : Slot → Option ItemRef)
    (slot1 slot2 : Slot) (outcome : (Slot → Option ItemRef) × Bool) : Prop where
  crafted : outcome.2 = true → ∃ consumed ⊆ {slot1, slot2}, ∃ yielded resultItem,
    consumed.card = 2 ∧ Crafted store outcome.1 consumed yielded resultItem
  unchanged : outcome.2 = false → outcome.1 = store

variable [DecidableEq Slot] {itemManager : ItemManager} {recipes : List Recipe}
  {store : Slot → Option ItemRef} {slot1 slot2 : Slot}

/-- Either nothing happens or a recipe is found, fits and has a result. -/
theorem tryCraftWithInventoryManager_cases (itemManager : ItemManager) (recipes : List Recipe)
    (store : Slot → Option ItemRef) (slot1 slot2 : Slot) :
    (tryCraftWithInventoryManager itemManager recipes store slot1 slot2 = (store, false) ∧
      ∀ recipe, findRecipeBySlots itemManager recipes store slot1 slot2 = some recipe →
        itemManager.getItem recipe.resultItemID = none) ∨
    ∃ recipe item1 item2 resultItem,
      findRecipeBySlots itemManager recipes store slot1 slot2 = some recipe ∧
      store slot1 = some item1 ∧ store slot2 = some item2 ∧
      itemManager.getItem recipe.resultItemID = some resultItem ∧
      tryCraftWithInventoryManager itemManager recipes store slot1 slot2 =
        (update (update store slot1 (some resultItem)) slot2 none, true) := by
  unfold tryCraftWithInventoryManager
  cases hfind : findRecipeBySlots itemManager recipes store slot1 slot2 with
  | none => exact .inl ⟨rfl, fun recipe h => by cases h⟩
  | some recipe =>
    have hslots := hfind
    unfold findRecipeBySlots at hslots
    split at hslots
    next item1 item2 hitem1 hitem2 =>
      have hcan : recipe.canCraftWithSlots itemManager store slot1 slot2 = true := by
        have hfits := List.find?_some (hslots : recipes.find? _ = some recipe)
        simp only [Recipe.canCraftWithSlots, hitem1, hitem2, hfits]
      cases hresult : itemManager.getItem recipe.resultItemID with
      | none =>
        left
        refine ⟨?_, fun recipe' h => ?_⟩
        · simp only [Recipe.executeCraftWithSlots, hcan, hresult, if_true]
        · cases h
          exact hresult
      | some resultItem =>
        right
        refine ⟨recipe, item1, item2, resultItem, rfl, hitem1, hitem2, hresult, ?_⟩
        simp only [Recipe.executeCraftWithSlots, hcan, hresult, if_true]
    next => cases hslots

/-- Crafts from two slots are exact when they are not one slot. -/
theorem exactWithSlots_iff :
    ExactWithSlots store slot1 slot2
        (tryCraftWithInventoryManager itemManager recipes store slot1 slot2) ↔
      (slot1 = slot2 → ∀ recipe,
        findRecipeBySlots itemManager recipes store slot1 slot2 = some recipe →
          itemManager.getItem recipe.resultItemID = none) := by
  rcases tryCraftWithInventoryManager_cases itemManager recipes store slot1 slot2 with
    ⟨houtcome, hnone⟩ | ⟨recipe, item1, item2, resultItem, hfind, hitem1, hitem2, hresult,
      houtcome⟩
  · rw [houtcome]
    exact iff_of_true ⟨fun h => Bool.noConfusion h, fun _ => rfl⟩ fun _ => hnone
  · rw [houtcome]
    constructor
    · rintro ⟨hcrafted, -⟩ rfl
      obtain ⟨consumed, hsubset, -, -, hcard, -⟩ := hcrafted rfl
      have hle := Finset.card_le_card hsubset
      rw [hcard, Finset.pair_eq_singleton, Finset.card_singleton] at hle
      omega
    · intro hdifferent
      have hne : slot1 ≠ slot2 := by
        intro heq
        rw [hdifferent heq recipe hfind] at hresult
        cases hresult
      refine ⟨fun _ => ⟨{slot1, slot2}, Finset.Subset.refl _, slot1, resultItem,
        Finset.card_pair hne, ?_, ?_, ?_, ?_⟩, fun h => Bool.noConfusion h⟩
      · intro slot hslot
        rcases Finset.mem_insert.mp hslot with rfl | hslot
        · rw [hitem1]
          exact Option.some_ne_none item1
        · rw [Finset.mem_singleton.mp hslot, hitem2]
          exact Option.some_ne_none item2
      · show update (update store slot1 (some resultItem)) slot2 none slot1 = _
        rw [update_of_ne hne, update_self]
      · exact .inl (Finset.mem_insert_self slot1 {slot2})
      · intro slot hslot
        show update (update store slot1 (some resultItem)) slot2 none slot = _
        by_cases heq : slot = slot2
        · rw [heq, update_self, if_pos (Finset.mem_insert_of_mem (Finset.mem_singleton_self _))]
        · have hnot : slot ∉ ({slot1, slot2} : Finset Slot) := by
            rw [Finset.mem_insert, Finset.mem_singleton]
            exact fun h => h.elim hslot heq
          rw [update_of_ne heq, update_of_ne hslot, if_neg hnot]

end RecipeManager

/-! ## Both paths -/

/-- A craft from a list of different slots is exact exactly when the ingredients are two
items or the craft is not made; one from a list with repeated slots is when in addition the
slots that come first for each ingredient are different; one from two slots is exactly when
they are not one slot or the craft is not made. -/
theorem crafting_exact_iff {Slot : Type} [DecidableEq Slot] (itemManager : ItemManager)
    (recipe : Recipe) (h1 : 0 < recipe.ingredient1.quantity.toInt)
    (h2 : 0 < recipe.ingredient2.quantity.toInt) (store : Slot → Option ItemRef) :
    (∀ slots : List Slot, slots.Nodup →
      (recipe.ExactFromSlots itemManager store slots
          (recipe.executeCraftFromSlots itemManager store slots).1 ↔
        recipe.ingredient1.itemID ≠ recipe.ingredient2.itemID ∨
          recipe.canCraftFromSlots itemManager store slots = false ∨
          itemManager.getItem recipe.resultItemID = none)) ∧
    (∀ slots : List Slot, recipe.ingredient1.itemID ≠ recipe.ingredient2.itemID →
      recipe.FirstsDistinct itemManager store slots →
        recipe.ExactFromSlots itemManager store slots
          (recipe.executeCraftFromSlots itemManager store slots).1) ∧
    ∀ (recipes : List Recipe) (slot1 slot2 : Slot),
      RecipeManager.ExactWithSlots store slot1 slot2
          (RecipeManager.tryCraftWithInventoryManager itemManager recipes store slot1 slot2) ↔
        (slot1 = slot2 → ∀ recipe,
          RecipeManager.findRecipeBySlots itemManager recipes store slot1 slot2 =
              some recipe → itemManager.getItem recipe.resultItemID = none) := by
  refine ⟨fun slots hslots => ?_, fun slots hdistinct hfirsts => ?_,
    fun recipes slot1 slot2 => ?_⟩
  · exact Recipe.exactFromSlots_iff h1 h2 hslots
  · exact Recipe.exactFromSlots_of_distinct h1 h2 hdistinct hfirsts
  · exact RecipeManager.exactWithSlots_iff

/-- Every item is known by its reference. -/
def numberedItems : ItemManager where
  itemID := fun item => Int32.ofNat item
  getItem := fun itemID => some itemID.toInt.toNat

/-- Two of item 1 make item 3. -/
def pairRecipe : Recipe := ⟨3, ⟨1, 1⟩, ⟨1, 1⟩⟩

/-- Items 1 and 2 make item 3. -/
def mixedRecipe : Recipe := ⟨3, ⟨1, 1⟩, ⟨2, 1⟩⟩

/-- Of two slots the first holds item 1 and the second item 2. -/
theorem crafting_exact_mixed :
    mixedRecipe.ExactFromSlots numberedItems
      (fun slot : Fin 2 => some (slot.val + 1)) [0, 1]
      (mixedRecipe.executeCraftFromSlots numberedItems
        (fun slot : Fin 2 => some (slot.val + 1)) [0, 1]).1 :=
  ((crafting_exact_iff numberedItems mixedRecipe (by decide) (by decide) _).1 [0, 1]
    (by decide)).mpr (.inl (by decide))

/-- Two slots hold item 1, but the craft finds only one of them to consume; and one slot
given twice loses its item. -/
theorem crafting_pair_not_exact :
    ¬ (pairRecipe.ExactFromSlots numberedItems (fun _ : Fin 2 => some 1) [0, 1]
        (pairRecipe.executeCraftFromSlots numberedItems (fun _ => some 1) [0, 1]).1) ∧
      ¬ RecipeManager.ExactWithSlots (fun _ : Fin 2 => some 1) 0 0
        (RecipeManager.tryCraftWithInventoryManager numberedItems [pairRecipe]
          (fun _ => some 1) 0 0) := by
  constructor
  · intro hexact
    have hfalse := (Recipe.exactFromSlots_iff (by decide) (by decide) (by decide)).mp hexact
    revert hfalse
    decide
  · intro hexact
    have hnone := RecipeManager.exactWithSlots_iff.mp hexact rfl pairRecipe rfl
    cases hnone

end SurvivalArena
