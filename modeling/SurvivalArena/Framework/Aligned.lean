import SurvivalArena.Framework.Numerals

/-!
# Lists element by element

Two lists related element by element, and what composes such relations.
-/

namespace Aligned

variable {α β γ : Type}

/-- Related by one relation and then by another. -/
theorem compose {R : α → β → Prop} {S : β → γ → Prop} {T : α → γ → Prop}
    (h : ∀ a b c, R a b → S b c → T a c) {as : List α} {bs : List β} {cs : List γ}
    (hab : List.Forall₂ R as bs) (hbc : List.Forall₂ S bs cs) : List.Forall₂ T as cs := by
  induction hab generalizing cs with
  | nil =>
    cases hbc
    exact .nil
  | cons hhead htail ih =>
    cases hbc with
    | cons hhead' htail' => exact .cons (h _ _ _ hhead hhead') (ih htail')

theorem map {R : α → β → Prop} {f : α → β} {as : List α} (h : ∀ a ∈ as, R a (f a)) :
    List.Forall₂ R as (as.map f) :=
  List.forall₂_map_right_iff.mpr (List.forall₂_same.mpr h)

/-- Every element of the second list has its counterpart in the first. -/
theorem mem_right {R : α → β → Prop} {as : List α} {bs : List β}
    (h : List.Forall₂ R as bs) {b : β} (hb : b ∈ bs) : ∃ a ∈ as, R a b := by
  induction h with
  | nil => cases hb
  | cons hhead htail ih =>
    rcases List.mem_cons.mp hb with rfl | hlater
    · exact ⟨_, List.mem_cons_self, hhead⟩
    · obtain ⟨a, ha, hab⟩ := ih hlater
      exact ⟨a, List.mem_cons_of_mem _ ha, hab⟩

/-- Every element of the first list has its counterpart in the second. -/
theorem mem_left {R : α → β → Prop} {as : List α} {bs : List β}
    (h : List.Forall₂ R as bs) {a : α} (ha : a ∈ as) : ∃ b ∈ bs, R a b := by
  obtain ⟨b, hb, hab⟩ := mem_right h.flip ha
  exact ⟨b, hb, hab⟩

/-- A reading that related elements share. -/
theorem map_eq {R : α → β → Prop} {δ : Type} {f : α → δ} {g : β → δ}
    (h : ∀ a b, R a b → g b = f a) {as : List α} {bs : List β}
    (hab : List.Forall₂ R as bs) : bs.map g = as.map f := by
  induction hab with
  | nil => rfl
  | cons hhead htail ih => rw [List.map_cons, List.map_cons, h _ _ hhead, ih]

/-- Lists with the same reading, element by element. -/
theorem of_map_eq {δ : Type} {f : α → δ} {g : β → δ} {as : List α} {bs : List β}
    (h : as.map f = bs.map g) : List.Forall₂ (fun a b => f a = g b) as bs := by
  rw [← List.forall₂_eq_eq_eq] at h
  exact List.forall₂_map_left_iff.mp (List.forall₂_map_right_iff.mp h)

/-- A stronger relation between elements of the lists. -/
theorem imp_mem {R S : α → β → Prop} {as : List α} {bs : List β}
    (hab : List.Forall₂ R as bs) (h : ∀ a ∈ as, ∀ b, R a b → S a b) :
    List.Forall₂ S as bs := by
  induction hab with
  | nil => exact .nil
  | cons hhead htail ih =>
    refine .cons (h _ List.mem_cons_self _ hhead) (ih fun a ha => ?_)
    exact h a (List.mem_cons_of_mem _ ha)

/-- What related elements are combined to. -/
theorem zipWith {R : α → β → Prop} {δ : Type} {S : γ → δ → Prop} {f : α → β → γ}
    {g : α → β → δ} (h : ∀ a b, R a b → S (f a b) (g a b)) {as : List α} {bs : List β}
    (hab : List.Forall₂ R as bs) :
    List.Forall₂ S (List.zipWith f as bs) (List.zipWith g as bs) := by
  induction hab with
  | nil => exact .nil
  | cons hhead htail ih => exact .cons (h _ _ hhead) ih

/-- What elements are combined to with related ones. -/
theorem zipWith_left {R : α → β → Prop} {S : α → γ → Prop} {f : α → β → γ}
    (h : ∀ a b, R a b → S a (f a b)) {as : List α} {bs : List β}
    (hab : List.Forall₂ R as bs) : List.Forall₂ S as (List.zipWith f as bs) := by
  induction hab with
  | nil => exact .nil
  | cons hhead htail ih => exact .cons (h _ _ hhead) ih

/-- A pair of what related elements are combined to and of a reading of the second. -/
theorem mem_zip {R : α → β → Prop} {δ : Type} {f : α → β → γ} {g : β → δ} {as : List α}
    {bs : List β} (hab : List.Forall₂ R as bs) {pair : γ × δ}
    (hpair : pair ∈ (List.zipWith f as bs).zip (bs.map g)) :
    ∃ a ∈ as, ∃ b, R a b ∧ pair = (f a b, g b) := by
  induction hab with
  | nil => cases hpair
  | cons hhead htail ih =>
    rcases List.mem_cons.mp hpair with rfl | hlater
    · exact ⟨_, List.mem_cons_self, _, hhead, rfl⟩
    · obtain ⟨a, ha, b, hrelated, hsame⟩ := ih hlater
      exact ⟨a, List.mem_cons_of_mem _ ha, b, hrelated, hsame⟩

end Aligned
