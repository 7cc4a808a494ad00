import SurvivalArena.Framework.Scalar

/-!
# Exact numbers

The numbers of an ordered field between two infinities.  Operations on finite numbers
are those of the field, without rounding or overflow, and comparisons in the wider
precision are the same comparisons.
-/

/-- A field with a square root that is exact on squares. -/
class SquareRoot (K : Type) [Field K] [LinearOrder K] where
  root : K → K
  root_square (x : K) : root (x * x) = |x|

instance : SquareRoot ℚ where
  root := Rat.sqrt
  root_square := Rat.sqrt_eq

noncomputable instance : SquareRoot ℝ where
  root := Real.sqrt
  root_square := Real.sqrt_mul_self_eq_abs

/-- The root of a positive number is positive, also where it is not exact. -/
class PositiveRoot (K : Type) [Field K] [LinearOrder K] [SquareRoot K] : Prop where
  root_pos {x : K} : 0 < x → 0 < SquareRoot.root x

instance : PositiveRoot ℚ where
  root_pos {x} hx := by
    have hnumerator : 0 < Int.sqrt x.num :=
      Int.natCast_pos.mpr (Nat.sqrt_pos.mpr (by have := Rat.num_pos.mpr hx; omega))
    have hdenominator : 0 < Nat.sqrt x.den := Nat.sqrt_pos.mpr x.den_pos
    show 0 < mkRat (Int.sqrt x.num) (Nat.sqrt x.den)
    rw [Rat.mkRat_eq_div]
    positivity

instance : PositiveRoot ℝ where
  root_pos := Real.sqrt_pos.mpr

inductive Extended (K : Type) where
  | finite (value : K)
  | infinite
  | minusInfinite
deriving DecidableEq

namespace Extended

variable {K : Type} [Field K] [LinearOrder K] [FloorRing K] [SquareRoot K]

/-- An operation on finite numbers. -/
def lift₂ (operation : K → K → K) : Extended K → Extended K → Extended K
  | finite a, finite b => finite (operation a b)
  | _, _ => infinite

def lift₁ (operation : K → K) : Extended K → Extended K
  | finite a => finite (operation a)
  | _ => infinite

def negate : Extended K → Extended K
  | finite a => finite (-a)
  | infinite => minusInfinite
  | minusInfinite => infinite

/-- The quotient, infinite where the divisor is zero. -/
def divide : Extended K → Extended K → Extended K
  | finite a, finite b => if b = 0 then infinite else finite (a / b)
  | _, _ => infinite

/-- The infinities are above and below every finite number. -/
def below : Extended K → Extended K → Bool
  | finite a, finite b => decide (a < b)
  | finite _, infinite => true
  | minusInfinite, finite _ => true
  | minusInfinite, infinite => true
  | _, _ => false

instance : Scalar (Extended K) where
  zero := finite 0
  add := lift₂ (· + ·)
  sub := lift₂ (· - ·)
  neg := negate
  mul := lift₂ (· * ·)
  div := divide
  ofScientific mantissa negative exponent :=
    finite (OfScientific.ofScientific mantissa negative exponent)
  lt a b := below a b = true
  le a b := below b a = false
  decidableLT _ _ := inferInstanceAs (Decidable (_ = true))
  decidableLE _ _ := inferInstanceAs (Decidable (_ = false))
  equal a b := decide (a = b)
  isFinite
    | finite _ => true
    | _ => false
  floor
    | finite a => some ⌊a⌋
    | _ => none
  ceilQuotient a b :=
    match divide a b with
    | finite quotient => some ⌈quotient⌉
    | _ => none
  sqrt := lift₁ SquareRoot.root

instance : Precision (Extended K) where
  Wide := Extended K
  wideScalar := inferInstance
  widen a := a
  narrow a := a
  ofUInt32 a := finite a.toNat
  wideOfUInt64 a := finite a.toNat
  infinity := infinite
  wideInfinity := infinite

variable {a b : K}

@[simp]
theorem zero_eq : (0 : Extended K) = finite 0 :=
  rfl

@[simp]
theorem finite_add : finite a + finite b = finite (a + b) :=
  rfl

@[simp]
theorem finite_sub : finite a - finite b = finite (a - b) :=
  rfl

@[simp]
theorem finite_mul : finite a * finite b = finite (a * b) :=
  rfl

theorem finite_div (h : b ≠ 0) : finite a / finite b = finite (a / b) :=
  if_neg h

@[simp]
theorem finite_lt : finite a < finite b ↔ a < b :=
  decide_eq_true_iff

@[simp]
theorem finite_le : finite a ≤ finite b ↔ a ≤ b :=
  decide_eq_false_iff_not.trans not_lt

@[simp]
theorem equal_iff {a b : Extended K} : Scalar.equal a b = true ↔ a = b :=
  decide_eq_true_iff

@[simp]
theorem isFinite_finite : Scalar.isFinite (finite a) = true :=
  rfl

theorem isFinite_iff {a : Extended K} :
    Scalar.isFinite a = true ↔ ∃ value, a = finite value := by
  cases a with
  | finite value => exact ⟨fun _ => ⟨value, rfl⟩, fun _ => isFinite_finite⟩
  | infinite => exact ⟨nofun, nofun⟩
  | minusInfinite => exact ⟨nofun, nofun⟩

@[simp]
theorem min_finite : Scalar.min (finite a) (finite b) = finite (min a b) := by
  by_cases h : b < a
  · rw [Scalar.min, if_pos (finite_lt.mpr h), min_eq_right h.le]
  · rw [Scalar.min, if_neg (finite_lt.not.mpr h), min_eq_left (not_lt.mp h)]

@[simp]
theorem max_finite : Scalar.max (finite a) (finite b) = finite (max a b) := by
  by_cases h : a < b
  · rw [Scalar.max, if_pos (finite_lt.mpr h), max_eq_right h.le]
  · rw [Scalar.max, if_neg (finite_lt.not.mpr h), max_eq_left (not_lt.mp h)]

/-! ## The order -/

/-- The place of a number among all, the infinities at the ends. -/
def rank : Extended K → WithBot (WithTop K)
  | finite a => ((a : WithTop K) : WithBot (WithTop K))
  | infinite => ((⊤ : WithTop K) : WithBot (WithTop K))
  | minusInfinite => ⊥

theorem lt_iff_rank {a b : Extended K} : a < b ↔ a.rank < b.rank := by
  cases a with
  | finite a =>
    cases b with
    | finite b => exact finite_lt.trans (by simp [rank])
    | infinite => exact iff_of_true rfl (WithBot.coe_lt_coe.mpr (WithTop.coe_lt_top a))
    | minusInfinite => exact iff_of_false nofun (by simp [rank])
  | infinite => cases b <;> exact iff_of_false nofun (by simp [rank])
  | minusInfinite =>
    cases b with
    | finite b => exact iff_of_true rfl (by simp [rank])
    | infinite => exact iff_of_true rfl (by simp [rank])
    | minusInfinite => exact iff_of_false nofun (by simp [rank])

omit [Field K] [LinearOrder K] [FloorRing K] [SquareRoot K] in
theorem rank_inj {a b : Extended K} : a.rank = b.rank ↔ a = b := by
  cases a <;> cases b <;> simp [rank, -WithBot.coe_top]

end Extended

/-! ## Numbers without infinities

The numbers of an ordered field as scalars, all of them finite.  Code that never divides by zero
and asks for no infinity runs on them as it does between the infinities.
-/

namespace Scalar

variable {K : Type} [Field K] [LinearOrder K] [FloorRing K] [SquareRoot K]

@[reducible]
def exact : Scalar K where
  zero := 0
  add := (· + ·)
  sub := (· - ·)
  neg := (- ·)
  mul := (· * ·)
  div := (· / ·)
  ofScientific := OfScientific.ofScientific
  lt := (· < ·)
  le := (· ≤ ·)
  decidableLT := inferInstance
  decidableLE := inferInstance
  equal a b := decide (a = b)
  isFinite _ := true
  floor a := some ⌊a⌋
  ceilQuotient a b := some ⌈a / b⌉
  sqrt := SquareRoot.root

@[simp]
theorem exact_isFinite (a : K) : @Scalar.isFinite K .exact a = true :=
  rfl

end Scalar
