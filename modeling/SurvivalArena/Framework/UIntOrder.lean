import SurvivalArena.Framework.Numerals

/-!
# Linear orders on machine integers

The fixed-width unsigned integers with their numeric order, identifiers that
wrap an ordered type, and the lawfulness that ordered maps ask of their keys.
-/

instance instLinearOrderUInt8 : LinearOrder UInt8 where
  le_refl a := by simp
  le_trans a b c := by simp only [UInt8.le_iff_toNat_le]; omega
  le_antisymm a b hab hba := by
    simp only [UInt8.le_iff_toNat_le] at hab hba
    exact UInt8.toNat_inj.mp (by omega)
  le_total a b := by simp only [UInt8.le_iff_toNat_le]; omega
  lt_iff_le_not_ge a b := by
    simp only [UInt8.le_iff_toNat_le, UInt8.lt_iff_toNat_lt]; omega
  toDecidableLE := inferInstance
  toDecidableLT := inferInstance
  toDecidableEq := inferInstance
  compare_eq_compareOfLessAndEq a b := by rfl

instance instLinearOrderUInt16 : LinearOrder UInt16 where
  le_refl a := by simp
  le_trans a b c := by simp only [UInt16.le_iff_toNat_le]; omega
  le_antisymm a b hab hba := by
    simp only [UInt16.le_iff_toNat_le] at hab hba
    exact UInt16.toNat_inj.mp (by omega)
  le_total a b := by simp only [UInt16.le_iff_toNat_le]; omega
  lt_iff_le_not_ge a b := by
    simp only [UInt16.le_iff_toNat_le, UInt16.lt_iff_toNat_lt]; omega
  toDecidableLE := inferInstance
  toDecidableLT := inferInstance
  toDecidableEq := inferInstance
  compare_eq_compareOfLessAndEq a b := by rfl

instance instLinearOrderUInt32 : LinearOrder UInt32 where
  le_refl a := by simp
  le_trans a b c := by simp only [UInt32.le_iff_toNat_le]; omega
  le_antisymm a b hab hba := by
    simp only [UInt32.le_iff_toNat_le] at hab hba
    exact UInt32.toNat_inj.mp (by omega)
  le_total a b := by simp only [UInt32.le_iff_toNat_le]; omega
  lt_iff_le_not_ge a b := by
    simp only [UInt32.le_iff_toNat_le, UInt32.lt_iff_toNat_lt]; omega
  toDecidableLE := inferInstance
  toDecidableLT := inferInstance
  toDecidableEq := inferInstance
  compare_eq_compareOfLessAndEq a b := by rfl

instance instLinearOrderUInt64 : LinearOrder UInt64 where
  le_refl a := by simp
  le_trans a b c := by simp only [UInt64.le_iff_toNat_le]; omega
  le_antisymm a b hab hba := by
    simp only [UInt64.le_iff_toNat_le] at hab hba
    exact UInt64.toNat_inj.mp (by omega)
  le_total a b := by simp only [UInt64.le_iff_toNat_le]; omega
  lt_iff_le_not_ge a b := by
    simp only [UInt64.le_iff_toNat_le, UInt64.lt_iff_toNat_lt]; omega
  toDecidableLE := inferInstance
  toDecidableLT := inferInstance
  toDecidableEq := inferInstance
  compare_eq_compareOfLessAndEq a b := by rfl

instance instLawfulEqOrdOfLinearOrder {α : Type} [LinearOrder α] :
    Std.LawfulEqOrd α where
  eq_of_compare h := compare_eq_iff_eq.mp h

/-- A value of an ordered type, distinguished by a tag. -/
structure Tagged (tag : Type) (α : Type) where
  value : α
deriving DecidableEq

theorem Tagged.value_injective {tag α : Type} :
    Function.Injective (Tagged.value : Tagged tag α → α) := by
  rintro ⟨a⟩ ⟨b⟩ h
  exact congrArg Tagged.mk h

instance {tag α : Type} [LinearOrder α] : LinearOrder (Tagged tag α) :=
  LinearOrder.lift' Tagged.value Tagged.value_injective

instance {tag α : Type} [LinearOrder α] :
    Std.TransCmp (compare : Tagged tag α → Tagged tag α → Ordering) :=
  inferInstance

/-! ## Counters

A counter hands out ascending ids and is used up after the largest one, so no id
is handed out twice.
-/

/-- A type of ids, each with the next larger one. -/
class Counted (α : Type) [LinearOrder α] where
  successor : α → Option α
  lt_of_successor : ∀ {a b : α}, successor a = some b → a < b

instance : Counted UInt32 where
  successor a := if a = 4294967295 then none else some (a + 1)
  lt_of_successor := by
    intro a b h
    split at h
    · cases h
    · rename_i hmax
      obtain rfl := Option.some.inj h
      rw [UInt32.lt_iff_toNat_lt, UInt32.toNat_add]
      have hne : a.toNat ≠ 4294967295 := fun heq =>
        hmax (UInt32.toNat_inj.mp heq)
      have hlt := a.toNat_lt
      have hone : (1 : UInt32).toNat = 1 := rfl
      omega

instance : Counted UInt64 where
  successor a := if a = 18446744073709551615 then none else some (a + 1)
  lt_of_successor := by
    intro a b h
    split at h
    · cases h
    · rename_i hmax
      obtain rfl := Option.some.inj h
      rw [UInt64.lt_iff_toNat_lt, UInt64.toNat_add]
      have hne : a.toNat ≠ 18446744073709551615 := fun heq =>
        hmax (UInt64.toNat_inj.mp heq)
      have hlt := a.toNat_lt
      have hone : (1 : UInt64).toNat = 1 := rfl
      omega

namespace Counter

variable {α : Type} [LinearOrder α]

/-- The id is below every id the counter will hand out. -/
def Used (counter : Option α) (id : α) : Prop :=
  ∀ next, counter = some next → id < next

theorem not_used {counter : Option α} {id : α} (h : counter = some id) :
    ¬Used counter id :=
  fun hused => lt_irrefl id (hused id h)

variable [Counted α]

/-- The counter after it handed out an id. -/
def advance (id : α) : Option α :=
  Counted.successor id

theorem used_advance (id : α) : Used (advance id) id :=
  fun _ hnext => Counted.lt_of_successor hnext

theorem Used.advance {counter : Option α} {id next : α}
    (h : Used counter id) (hcounter : counter = some next) :
    Used (Counter.advance next) id :=
  fun _ hlater =>
    (h next hcounter).trans (Counted.lt_of_successor hlater)

/-- A counter that starts at zero hands out nothing. -/
def initial [OfNat α 0] (value : α) : Option α :=
  if value = 0 then none else some value

end Counter
