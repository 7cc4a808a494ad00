import SurvivalArena.Game.InventoryConservation

/-!
# Item boxes

The eight slots of an item box.  A call with an index outside of them has no result.
-/

namespace SurvivalArena

open Function Machine InventoryManager

structure ItemBox where
  boxInventory : Fin 8 → Option ItemRef := fun _ => none

inductive ItemBoxCall where
  | insertItem (index : Int) (item : Option ItemRef)
  | pushItem (item : Option ItemRef)
  | deleteItem (index : Int)

/-- What a call hands back, or whether it succeeded. -/
inductive ItemBoxReply where
  | item (handedBack : Option ItemRef)
  | pushed (success : Bool)

namespace ItemBox

/-- The slot of an index. -/
def slotAt (index : Int) : Option (Fin 8) :=
  if h : 0 ≤ index ∧ index < 8 then some ⟨index.toNat, by omega⟩ else none

def insertItem (box : ItemBox) (index : Int) (item : Option ItemRef) :
    Option (ItemBox × Option ItemRef) :=
  (slotAt index).map fun slot =>
    match box.boxInventory slot with
    | some held => ({ boxInventory := update box.boxInventory slot item }, some held)
    | none => (box, none)

def deleteItem (box : ItemBox) (index : Int) : Option (ItemBox × Option ItemRef) :=
  (slotAt index).map fun slot =>
    match box.boxInventory slot with
    | some held => ({ boxInventory := update box.boxInventory slot none }, some held)
    | none => (box, none)

/-- The variable of the loop is a copy of the slot, and the assignment changes the copy. -/
def pushItem (box : ItemBox) (_item : Option ItemRef) : ItemBox × Bool :=
  (box, (List.finRange 8).any fun slot => (box.boxInventory slot).isNone)

def call (box : ItemBox) : ItemBoxCall → Option (ItemBox × ItemBoxReply)
  | .insertItem index item => (box.insertItem index item).map fun result =>
    (result.1, .item result.2)
  | .pushItem item => some ((box.pushItem item).1, .pushed (box.pushItem item).2)
  | .deleteItem index => (box.deleteItem index).map fun result => (result.1, .item result.2)

/-- The calls in turn. -/
def callAll (box : ItemBox) : List ItemBoxCall → Option (ItemBox × List ItemBoxReply)
  | [] => some (box, [])
  | event :: events => do
    let first ← box.call event
    let rest ← first.1.callAll events
    pure (rest.1, first.2 :: rest.2)

/-- The box after a call, where the call has a result. -/
def next (box : ItemBox) (event : ItemBoxCall) : ItemBox :=
  (box.call event).elim box Prod.fst

/-! ## What is given and handed back -/

def held (box : ItemBox) : Multiset ItemRef :=
  ∑ slot, content (box.boxInventory slot)

def given : ItemBoxCall → Multiset ItemRef
  | .insertItem _ item => content item
  | .pushItem item => content item
  | .deleteItem _ => 0

/-- An item whose push is refused stays with the caller. -/
def handedBack : ItemBoxCall → ItemBoxReply → Multiset ItemRef
  | .pushItem item, .pushed false => content item
  | _, .pushed _ => 0
  | _, .item handed => content handed

/-- The items that the calls of a run hand back. -/
def allHandedBack (events : List ItemBoxCall) (replies : List ItemBoxReply) :
    Multiset ItemRef :=
  (List.zipWith handedBack events replies).sum

/-- A success leaves the item in some slot, and a refusal leaves the box as it is. -/
def Honest (box : ItemBox) (event : ItemBoxCall) : Prop :=
  ∀ after reply, box.call event = some (after, reply) →
    match event, reply with
    | .insertItem _ item, .item (some _) => ∃ slot, after.boxInventory slot = item
    | .pushItem item, .pushed true => ∃ slot, after.boxInventory slot = item
    | .pushItem _, .pushed false => after = box
    | _, _ => True

/-- Every call of a run has a result, what the box holds at the end and what was handed back
is what it held and what it was given, and every call is honest. -/
def Conserves (box : ItemBox) (events : List ItemBoxCall) : Prop :=
  (∃ after replies, box.callAll events = some (after, replies) ∧
    after.held + allHandedBack events replies = box.held + (events.map given).sum) ∧
  Meets next Honest box events

/-- An item is inserted at an occupied slot and pushed to a full box, and indices are those of
slots. -/
def Keeps (box : ItemBox) : ItemBoxCall → Prop
  | .insertItem index item => ∃ slot, slotAt index = some slot ∧
    (item = none ∨ box.boxInventory slot ≠ none)
  | .pushItem item => item = none ∨ ∀ slot, box.boxInventory slot ≠ none
  | .deleteItem index => slotAt index ≠ none

/-! ## The losses -/

/-- What gets lost in a call. -/
def lost (box : ItemBox) : ItemBoxCall → Multiset ItemRef
  | .insertItem index item =>
    if ((slotAt index).bind box.boxInventory).isSome then 0 else content item
  | .pushItem item => if (box.pushItem item).2 then content item else 0
  | .deleteItem _ => 0

theorem held_update (box : ItemBox) (slot : Fin 8) (item : Option ItemRef) :
    ItemBox.held { boxInventory := update box.boxInventory slot item } +
      content (box.boxInventory slot) = box.held + content item :=
  Slots.sum_update content box.boxInventory slot item

theorem call_ledger {box after : ItemBox} {event : ItemBoxCall} {reply : ItemBoxReply}
    (h : box.call event = some (after, reply)) :
    after.held + handedBack event reply + box.lost event = box.held + given event := by
  cases event with
  | insertItem index item =>
    simp only [call, insertItem, Option.map_map, Option.map_eq_some_iff] at h
    obtain ⟨slot, hslot, hresult⟩ := h
    have hlost : box.lost (.insertItem index item) =
        if (box.boxInventory slot).isSome then 0 else content item := by
      simp only [lost, hslot, Option.bind_some]
    cases hheld : box.boxInventory slot with
    | some old =>
      simp only [comp, hheld, Prod.mk.injEq] at hresult
      obtain ⟨rfl, rfl⟩ := hresult
      have hupdate := box.held_update slot item
      simp only [hheld] at hupdate hlost
      simpa [hlost, handedBack, given] using hupdate
    | none =>
      simp only [comp, hheld, Prod.mk.injEq] at hresult
      obtain ⟨rfl, rfl⟩ := hresult
      simp [hlost, hheld, handedBack, given, content]
  | pushItem item =>
    simp only [call, Option.some.injEq, Prod.mk.injEq] at h
    obtain ⟨rfl, rfl⟩ := h
    simp only [lost]
    cases (box.pushItem item).2 with
    | true => simp [handedBack, given, pushItem]
    | false => simp [handedBack, given, pushItem]
  | deleteItem index =>
    simp only [call, deleteItem, Option.map_map, Option.map_eq_some_iff] at h
    obtain ⟨slot, hslot, hresult⟩ := h
    cases hheld : box.boxInventory slot with
    | some old =>
      simp only [comp, hheld, Prod.mk.injEq] at hresult
      obtain ⟨rfl, rfl⟩ := hresult
      have hupdate := box.held_update slot none
      simp only [hheld] at hupdate
      simpa [lost, handedBack, given, content] using hupdate
    | none =>
      simp only [comp, hheld, Prod.mk.injEq] at hresult
      obtain ⟨rfl, rfl⟩ := hresult
      simp [lost, handedBack, given, content]

theorem content_eq_zero {item : Option ItemRef} : content item = 0 ↔ item = none := by
  cases item with
  | none => simp [content]
  | some item => simp [content]

theorem keeps_iff (box : ItemBox) (event : ItemBoxCall) :
    box.Keeps event ↔ (∃ result, box.call event = some result) ∧ box.lost event = 0 := by
  cases event with
  | insertItem index item =>
    cases hslot : slotAt index with
    | none => simp [Keeps, call, insertItem, hslot]
    | some slot =>
      cases hheld : box.boxInventory slot with
      | none => simp [Keeps, call, insertItem, lost, hslot, hheld, content_eq_zero]
      | some old => simp [Keeps, call, insertItem, lost, hslot, hheld]
  | pushItem item =>
    have hfull : (box.pushItem item).2 = false ↔ ∀ slot, box.boxInventory slot ≠ none := by
      simp [pushItem]
    cases hpushed : (box.pushItem item).2 with
    | true =>
      have hfree : ¬ ∀ slot, box.boxInventory slot ≠ none := by
        intro hall
        have hrefused := hfull.mpr hall
        simp [hpushed] at hrefused
      simp only [Keeps, call, lost, hpushed, if_true, content_eq_zero, or_iff_left hfree]
      exact ⟨fun hitem => ⟨⟨_, rfl⟩, hitem⟩, And.right⟩
    | false =>
      have hall := hfull.mp hpushed
      simp only [Keeps, call, lost, hpushed, Bool.false_eq_true, if_false]
      exact ⟨fun _ => ⟨⟨_, rfl⟩, trivial⟩, fun _ => .inr hall⟩
  | deleteItem index =>
    cases hslot : slotAt index with
    | none => simp [Keeps, call, deleteItem, hslot]
    | some slot => simp [Keeps, call, deleteItem, lost, hslot]

theorem Keeps.honest {box : ItemBox} {event : ItemBoxCall} (h : box.Keeps event) :
    box.Honest event := by
  intro after reply hcall
  cases event with
  | insertItem index item =>
    obtain ⟨slot, hslot, -⟩ := h
    cases hheld : box.boxInventory slot with
    | none =>
      simp only [call, insertItem, hslot, Option.map_some, hheld, Option.some.injEq,
        Prod.mk.injEq] at hcall
      obtain ⟨rfl, rfl⟩ := hcall
      trivial
    | some old =>
      simp only [call, insertItem, hslot, Option.map_some, hheld, Option.some.injEq,
        Prod.mk.injEq] at hcall
      obtain ⟨rfl, rfl⟩ := hcall
      exact ⟨slot, update_self slot item box.boxInventory⟩
  | pushItem item =>
    simp only [call, Option.some.injEq, Prod.mk.injEq] at hcall
    obtain ⟨rfl, rfl⟩ := hcall
    cases hpushed : (box.pushItem item).2 with
    | true =>
      obtain ⟨slot, -, hfree⟩ := List.any_eq_true.mp hpushed
      rw [Option.isNone_iff_eq_none] at hfree
      rcases h with rfl | hfull
      · exact ⟨slot, hfree⟩
      · exact absurd hfree (hfull slot)
    | false => rfl
  | deleteItem index =>
    simp only [call, Option.map_eq_some_iff] at hcall
    obtain ⟨result, -, hresult⟩ := hcall
    obtain ⟨rfl, rfl⟩ := Prod.mk.inj hresult
    trivial

/-! ## Runs -/

/-- What gets lost in a run. -/
def allLost (box : ItemBox) : List ItemBoxCall → Multiset ItemRef
  | [] => 0
  | event :: events => box.lost event + (box.next event).allLost events

theorem next_eq {box : ItemBox} {event : ItemBoxCall} {result : ItemBox × ItemBoxReply}
    (h : box.call event = some result) : box.next event = result.1 := by
  simp only [next, h, Option.elim_some]

theorem callAll_cons {box : ItemBox} {event : ItemBoxCall} {events : List ItemBoxCall}
    {result : ItemBox × List ItemBoxReply} :
    box.callAll (event :: events) = some result ↔ ∃ first rest, box.call event = some first ∧
      first.1.callAll events = some rest ∧ result = (rest.1, first.2 :: rest.2) := by
  simp only [callAll, Option.bind_eq_bind, Option.bind_eq_some_iff, Option.pure_def,
    Option.some.injEq]
  constructor
  · rintro ⟨first, hfirst, rest, hrest, rfl⟩
    exact ⟨first, rest, hfirst, hrest, rfl⟩
  · rintro ⟨first, rest, hfirst, hrest, rfl⟩
    exact ⟨first, hfirst, rest, hrest, rfl⟩

/-- What is held and was handed back, with the losses, is what was held and was given. -/
theorem callAll_ledger {events : List ItemBoxCall} {box after : ItemBox}
    {replies : List ItemBoxReply} (h : box.callAll events = some (after, replies)) :
    after.held + allHandedBack events replies + box.allLost events =
      box.held + (events.map given).sum := by
  induction events generalizing box replies with
  | nil =>
    simp only [callAll, Option.some.injEq, Prod.mk.injEq] at h
    obtain ⟨rfl, rfl⟩ := h
    simp [allHandedBack, allLost]
  | cons event events ih =>
    obtain ⟨first, rest, hfirst, hrest, hresult⟩ := callAll_cons.mp h
    obtain ⟨rfl, rfl⟩ := Prod.mk.inj hresult
    have hhead := call_ledger hfirst
    have htail := ih hrest
    have hnext := next_eq hfirst
    simp only [allHandedBack] at htail
    simp only [allHandedBack, allLost, hnext, List.zipWith_cons_cons, List.sum_cons,
      List.map_cons]
    calc rest.1.held + (handedBack event first.2 +
            (List.zipWith handedBack events rest.2).sum) +
          (box.lost event + first.1.allLost events)
        = (rest.1.held + (List.zipWith handedBack events rest.2).sum +
            first.1.allLost events) + (handedBack event first.2 + box.lost event) := by ac_rfl
      _ = first.1.held + (events.map given).sum +
            (handedBack event first.2 + box.lost event) := by rw [htail]
      _ = (first.1.held + handedBack event first.2 + box.lost event) +
            (events.map given).sum := by ac_rfl
      _ = box.held + (given event + (events.map given).sum) := by rw [hhead, add_assoc]

/-- Every call of a run keeps its items exactly when each has a result and nothing gets
lost. -/
theorem meets_keeps_iff {events : List ItemBoxCall} {box : ItemBox} :
    Meets next Keeps box events ↔
      (∃ result, box.callAll events = some result) ∧ box.allLost events = 0 := by
  induction events generalizing box with
  | nil => simp [Meets, callAll, allLost]
  | cons event events ih =>
    simp only [Meets, keeps_iff, ih, allLost, add_eq_zero]
    constructor
    · rintro ⟨⟨⟨first, hfirst⟩, hlost⟩, ⟨rest, hrest⟩, hlater⟩
      rw [next_eq hfirst] at hrest
      exact ⟨⟨_, callAll_cons.mpr ⟨first, rest, hfirst, hrest, rfl⟩⟩, hlost, hlater⟩
    · rintro ⟨⟨result, hresult⟩, hlost, hlater⟩
      obtain ⟨first, rest, hfirst, hrest, -⟩ := callAll_cons.mp hresult
      rw [next_eq hfirst]
      rw [next_eq hfirst] at hlater
      exact ⟨⟨⟨first, hfirst⟩, hlost⟩, ⟨rest, hrest⟩, hlater⟩

/-- A run conserves the items exactly when every insertion is at an occupied slot, every push
to a full box, and every index that of a slot. -/
theorem callAll_conserves_iff (box : ItemBox) (events : List ItemBoxCall) :
    box.Conserves events ↔ Meets next Keeps box events := by
  constructor
  · rintro ⟨⟨after, replies, hresult, hconserved⟩, -⟩
    have hledger := callAll_ledger hresult
    rw [hconserved] at hledger
    exact meets_keeps_iff.mpr ⟨⟨_, hresult⟩, add_eq_left.mp hledger⟩
  · intro hmeets
    obtain ⟨⟨⟨after, replies⟩, hresult⟩, hlost⟩ := meets_keeps_iff.mp hmeets
    have hledger := callAll_ledger hresult
    rw [hlost, add_zero] at hledger
    refine ⟨⟨after, replies, hresult, hledger⟩, ?_⟩
    clear hresult hledger hlost
    induction events generalizing box with
    | nil => trivial
    | cons event events ih => exact ⟨hmeets.1.honest, ih _ hmeets.2⟩

/-- An item that is pushed to an empty box is accepted and gone. -/
theorem pushItem_loses : ¬ Conserves {} [.pushItem (some 1)] := by
  rw [callAll_conserves_iff]
  rintro ⟨hkeeps, -⟩
  rcases hkeeps with hitem | hfull
  · exact nomatch hitem
  · exact hfull 0 rfl

end ItemBox

end SurvivalArena
