import SurvivalArena.Framework.Extended
import SurvivalArena.Framework.FloatArithmetic

/-!
# Floors of quotients

The floor of a quotient, computed in the wider precision, keeps the order of the numerators, also
after all the roundings of the floats.
-/

open Float.Model UnpackedFloat

/-- A precision in which the floor of a quotient keeps the order. -/
class FloorMonotone (R : Type) [Precision R] : Prop where
  floorQuotient_mono {a b c : R} (ha : Scalar.isFinite a = true)
    (hb : Scalar.isFinite b = true) (hc : Scalar.isFinite c = true) (hpos : ¬ c ≤ 0)
    (hab : a ≤ b) : ∃ m n, Precision.floorQuotient a c = some m ∧
      Precision.floorQuotient b c = some n ∧ m ≤ n

/-! ## Floats -/

namespace Float32

/-- The number that a finite float denotes. -/
def value (f : Float32) : ℚ := f.toModel.unpack.value

variable {f a b c : Float32}

theorem denotes (h : f.isFinite = true) : Denotes .binary32 f.value f.toModel.unpack :=
  ⟨h, rfl, unpack_canonical _⟩

theorem le_iff (ha : a.isFinite = true) (hb : b.isFinite = true) : a ≤ b ↔ a.value ≤ b.value := by
  refine Iff.trans ?_ (le_denotes (denotes ha) (denotes hb))
  exact decide_eq_true_iff

theorem abs_value_lt (f : Float32) : |f.value| < 2 ^ (128 : ℤ) :=
  abs_unpack_lt (F := .binary32) _

theorem le_value_of_pos (hc : c.isFinite = true) (hpos : 0 < c.value) :
    2 ^ (-149 : ℤ) ≤ c.value :=
  zpow_minExponent_le (denotes hc) hpos

/-- The wider format has every number of the narrower one. -/
theorem widen_denotes (h : f.isFinite = true) :
    Denotes .binary64 f.value f.widen.toModel.unpack := by
  have hconvert := convert_denotes (F := .binary64) (denotes h).isFinite
  rw [show f.toModel.unpack.value = f.value from rfl,
    nearest_of_denotes (by decide) (by decide) (denotes h)] at hconvert
  have hfits : ¬ Overflows .binary64 (f.toModel.unpack.convert .binary64) :=
    not_overflows hconvert ((abs_value_lt f).trans
      (zpow_lt_zpow_right₀ one_lt_two (by decide)))
  have hpack : f.widen.toModel.unpack = f.toModel.unpack.convert .binary64 :=
    unpack_pack hconvert.canonical hfits
  rw [hpack]
  exact hconvert

/-- A quotient of two numbers of the narrower format does not overflow in the wider one. -/
theorem abs_nearest_div_lt (hc : c.isFinite = true) (hpos : 0 < c.value) :
    |Format.binary64.nearest (a.value / c.value)| < 2 ^ (972 : ℤ) := by
  have hquotient : |a.value / c.value| ≤ 2 ^ (277 : ℤ) := by
    rw [abs_div, abs_of_pos hpos, show (277 : ℤ) = 128 - -149 by norm_num,
      zpow_sub₀ two_ne_zero]
    exact div_le_div₀ (by positivity) (abs_value_lt a).le (by positivity)
      (le_value_of_pos hc hpos)
  exact (Format.abs_nearest_le (by decide) hquotient).trans_lt
    (zpow_lt_zpow_right₀ one_lt_two (by decide))

theorem floorQuotient_eq (ha : a.isFinite = true) (hc : c.isFinite = true)
    (hpos : 0 < c.value) :
    Precision.floorQuotient a c = some ⌊Format.binary64.nearest (a.value / c.value)⌋ := by
  have hwideA := widen_denotes ha
  have hwideC := widen_denotes hc
  have hquotient := div_denotes (F := .binary64) hwideA.isFinite hwideC.isFinite
    (by rw [hwideC.value]; exact hpos.ne')
  rw [hwideA.value, hwideC.value] at hquotient
  have hfits := not_overflows hquotient (abs_nearest_div_lt hc hpos)
  have hpack : (a.widen / c.widen).toModel.unpack =
      UnpackedFloat.div .binary64 a.widen.toModel.unpack c.widen.toModel.unpack :=
    unpack_pack hquotient.canonical hfits
  show (a.widen / c.widen).toModel.unpack.floor = _
  rw [hpack]
  exact floor_denotes hquotient

theorem value_pos (hc : c.isFinite = true) (hpos : ¬ c ≤ 0) : 0 < c.value := by
  rw [le_iff hc (by decide)] at hpos
  exact not_le.mp hpos

end Float32

instance : FloorMonotone Float32 where
  floorQuotient_mono ha hb hc hpos hab := by
    have hvalue := Float32.value_pos hc hpos
    refine ⟨_, _, Float32.floorQuotient_eq ha hc hvalue, Float32.floorQuotient_eq hb hc hvalue, ?_⟩
    have hle := (Float32.le_iff ha hb).mp hab
    exact Int.floor_mono (Format.nearest_mono (div_le_div_of_nonneg_right hle hvalue.le))
