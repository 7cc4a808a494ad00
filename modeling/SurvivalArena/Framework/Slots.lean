import SurvivalArena.Framework.Numerals

/-!
# Slots

What a total over some slots becomes when one slot gets another content.
-/

namespace Slots

open Function

/-- A total over finitely many slots: the old content goes and the new one comes. -/
theorem sum_update {ι α M : Type} [Fintype ι] [DecidableEq ι] [AddCommMonoid M]
    (weight : α → M) (slots : ι → α) (i : ι) (a : α) :
    ∑ j, weight (update slots i a j) + weight (slots i) =
      ∑ j, weight (slots j) + weight a := by
  rw [← Finset.add_sum_erase _ _ (Finset.mem_univ i),
    ← Finset.add_sum_erase _ (fun j => weight (slots j)) (Finset.mem_univ i), update_self]
  have hothers : ∑ j ∈ Finset.univ.erase i, weight (update slots i a j) =
      ∑ j ∈ Finset.univ.erase i, weight (slots j) := by
    refine Finset.sum_congr rfl fun j hj => ?_
    rw [update_of_ne (Finset.ne_of_mem_erase hj)]
  rw [hothers]
  ac_rfl

/-- The same for a list of slots. -/
theorem sum_set {α M : Type} [AddCommMonoid M] (weight : α → M) {slots : List α} {i : Nat}
    {old : α} (h : slots[i]? = some old) (a : α) :
    ((slots.set i a).map weight).sum + weight old = (slots.map weight).sum + weight a := by
  induction slots generalizing i with
  | nil => cases h
  | cons first slots ih =>
    cases i with
    | zero =>
      cases h
      rw [List.set_cons_zero, List.map_cons, List.map_cons, List.sum_cons, List.sum_cons]
      ac_rfl
    | succ i =>
      have htail := ih h
      rw [List.set_cons_succ, List.map_cons, List.map_cons, List.sum_cons, List.sum_cons,
        add_assoc, htail, add_assoc]

/-- The first empty slot of a list. -/
theorem findIdx?_isNone {α : Type} {slots : List (Option α)} {i : Nat}
    (h : slots.findIdx? Option.isNone = some i) : slots[i]? = some none := by
  obtain ⟨hlt, hnone, -⟩ := List.findIdx?_eq_some_iff_getElem.mp h
  rw [List.getElem?_eq_getElem hlt]
  exact congrArg some (Option.isNone_iff_eq_none.mp hnone)

end Slots
