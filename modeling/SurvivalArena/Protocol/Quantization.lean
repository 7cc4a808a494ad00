import SurvivalArena.Exception
import SurvivalArena.Framework.Extended
import SurvivalArena.Protocol.ReplicationSnapshot

/-!
# Quantization

The sixteen-bit coordinates and the narrow counters of the wire format.  The
arithmetic is done in doubles on both ends.
-/

namespace SurvivalArena

/-- Bounds that coordinates can be quantized between. -/
structure QuantizationBounds where
  minimum : Float32
  maximum : Float32
  finite : (minimum.isFinite && maximum.isFinite) = true
  ordered : ¬maximum ≤ minimum

def validateQuantizationBounds (minimum maximum : Float32) :
    Except Exception QuantizationBounds :=
  if hfinite : (minimum.isFinite && maximum.isFinite) = true then
    if hordered : maximum ≤ minimum then
      .error (.invalidArgument "quantization bounds are invalid")
    else .ok ⟨minimum, maximum, hfinite, hordered⟩
  else .error (.invalidArgument "quantization bounds are invalid")

def encodedMaximum : Float := 65535

def quantizeCoordinate (value minimum maximum : Float32) :
    Except Exception UInt16 := do
  let bounds ← validateQuantizationBounds minimum maximum
  throwIf (!value.isFinite) (.invalidArgument "coordinate is not finite")
  throwIf (decide (value < bounds.minimum) || decide (bounds.maximum < value))
    (.outOfRange "coordinate is outside quantization bounds")
  let ratio := (value.widen - bounds.minimum.widen) /
    (bounds.maximum.widen - bounds.minimum.widen)
  pure (UInt16.ofInt (ratio * encodedMaximum).llround)

def dequantizeCoordinate (value : UInt16) (bounds : QuantizationBounds) :
    Float32 :=
  let ratio := value.toFloat / encodedMaximum
  (bounds.minimum.widen +
    ratio * (bounds.maximum.widen - bounds.minimum.widen)).narrow

def quantizeSafeZoneRadius (radius maximum : Float32) :
    Except Exception UInt16 :=
  quantizeCoordinate radius 0 maximum

def quantizeHealth (health : Int32) : Except Exception UInt8 := do
  throwIf (decide (health < 0) || decide (100 < health))
    (.outOfRange "health exceeds uint8 gameplay bounds")
  pure health.toUInt32.toUInt8

def quantizeCooldownTicks (cooldownTicks : UInt32) :
    Except Exception UInt16 := do
  throwIf (decide (65535 < cooldownTicks))
    (.outOfRange "cooldown exceeds uint16 bounds")
  pure cooldownTicks.toUInt16

def quantizeEliminations (eliminations : UInt32) : Except Exception UInt8 := do
  throwIf (decide (255 < eliminations))
    (.outOfRange "eliminations exceed uint8 bounds")
  pure eliminations.toUInt8

def quantizeAliveContenders (aliveContenders : UInt32) :
    Except Exception UInt8 := do
  throwIf (decide (roomCapacity < aliveContenders.toNat))
    (.outOfRange "alive contenders exceed room capacity")
  pure aliveContenders.toUInt8

example : quantizeCoordinate 0 (-128) 128 = .ok 32768 := by decide +kernel

/-! ## Quantization in exact arithmetic

The same coordinates over any numbers.  On the floats this is the codec; between exact numbers
what has been decoded encodes as it was.
-/

open Precision

/-- The conversions that quantizing needs of the wider numbers. -/
class Quantizing (R : Type) [Precision R] where
  ofUInt16 : UInt16 → Wide R
  llround : Wide R → Int

instance : Quantizing Float32 where
  ofUInt16 := UInt16.toFloat
  llround := Float.llround

namespace Quantizing

section Code

variable {R : Type} [Precision R] [Quantizing R]

def validateQuantizationBounds (minimum maximum : R) : Except Exception Unit :=
  throwIf (!(Scalar.isFinite minimum && Scalar.isFinite maximum) || decide (maximum ≤ minimum))
    (.invalidArgument "quantization bounds are invalid")

def quantizeCoordinate (value minimum maximum : R) : Except Exception UInt16 := do
  validateQuantizationBounds minimum maximum
  throwIf (!Scalar.isFinite value) (.invalidArgument "coordinate is not finite")
  throwIf (decide (value < minimum) || decide (maximum < value))
    (.outOfRange "coordinate is outside quantization bounds")
  let ratio := (widen value - widen minimum) / (widen maximum - widen minimum)
  pure (UInt16.ofInt (llround (ratio * 65535.0)))

def dequantizeCoordinate (value : UInt16) (minimum maximum : R) : Except Exception R := do
  validateQuantizationBounds minimum maximum
  let ratio := ofUInt16 value / 65535.0
  pure (narrow (widen minimum + ratio * (widen maximum - widen minimum)))

end Code

/-! ## The codec's floats -/

theorem validateQuantizationBounds_float (minimum maximum : Float32) :
    (∃ bounds, SurvivalArena.validateQuantizationBounds minimum maximum = .ok bounds ∧
      bounds.minimum = minimum ∧ bounds.maximum = maximum ∧
      validateQuantizationBounds minimum maximum = .ok ()) ∨
    ∃ e, SurvivalArena.validateQuantizationBounds minimum maximum = .error e ∧
      validateQuantizationBounds minimum maximum = .error e := by
  unfold validateQuantizationBounds SurvivalArena.validateQuantizationBounds
  simp only [show ∀ x : Float32, Scalar.isFinite x = x.isFinite from fun _ => rfl]
  by_cases hfinite : (minimum.isFinite && maximum.isFinite) = true
  · rw [dif_pos hfinite]
    by_cases hordered : maximum ≤ minimum
    · rw [dif_pos hordered]
      exact .inr ⟨_, rfl, by simp [throwIf, hordered]⟩
    · rw [dif_neg hordered]
      exact .inl ⟨_, rfl, rfl, rfl, by simp [throwIf, hordered, hfinite]⟩
  · rw [dif_neg hfinite]
    exact .inr ⟨_, rfl, by simp [throwIf, hfinite]⟩

theorem encodedMaximum_float : (65535.0 : Float) = encodedMaximum := by
  decide +kernel

theorem quantizeCoordinate_float (value minimum maximum : Float32) :
    quantizeCoordinate value minimum maximum =
      SurvivalArena.quantizeCoordinate value minimum maximum := by
  unfold quantizeCoordinate SurvivalArena.quantizeCoordinate
  rcases validateQuantizationBounds_float minimum maximum with
    ⟨bounds, hbounds, rfl, rfl, hsame⟩ | ⟨e, hbounds, hsame⟩
  · rw [hbounds, hsame, ← encodedMaximum_float]
    rfl
  · rw [hbounds, hsame]
    rfl

theorem dequantizeCoordinate_float (value : UInt16) (minimum maximum : Float32) :
    dequantizeCoordinate value minimum maximum =
      (SurvivalArena.validateQuantizationBounds minimum maximum).map
        (SurvivalArena.dequantizeCoordinate value) := by
  unfold dequantizeCoordinate
  rcases validateQuantizationBounds_float minimum maximum with
    ⟨bounds, hbounds, rfl, rfl, hsame⟩ | ⟨e, hbounds, hsame⟩
  · rw [hbounds, hsame, Except.map, SurvivalArena.dequantizeCoordinate, ← encodedMaximum_float]
    rfl
  · rw [hbounds, hsame]
    rfl

/-! ## Levels -/

section Levels

variable {K : Type} [Field K] [LinearOrder K] [IsStrictOrderedRing K]

/-- The level of a coordinate, before it is rounded. -/
def level (minimum maximum x : K) : K :=
  (x - minimum) / (maximum - minimum) * 65535

/-- The coordinate of a level. -/
def coordinate (minimum maximum t : K) : K :=
  minimum + t / 65535 * (maximum - minimum)

variable {minimum maximum x y : K}

theorem level_coordinate (hordered : minimum < maximum) (t : K) :
    level minimum maximum (coordinate minimum maximum t) = t := by
  have hne : maximum - minimum ≠ 0 := (sub_pos.mpr hordered).ne'
  unfold level coordinate
  field_simp
  ring

theorem coordinate_level (hordered : minimum < maximum) :
    coordinate minimum maximum (level minimum maximum x) = x := by
  have hne : maximum - minimum ≠ 0 := (sub_pos.mpr hordered).ne'
  unfold level coordinate
  field_simp
  ring

theorem level_mono (hordered : minimum < maximum) (h : x ≤ y) :
    level minimum maximum x ≤ level minimum maximum y := by
  have hpos : 0 < maximum - minimum := sub_pos.mpr hordered
  unfold level
  gcongr

theorem coordinate_mono (hordered : minimum < maximum) (h : x ≤ y) :
    coordinate minimum maximum x ≤ coordinate minimum maximum y := by
  have hpos : 0 < maximum - minimum := sub_pos.mpr hordered
  unfold coordinate
  gcongr

theorem level_nonneg (hordered : minimum < maximum) (h : minimum ≤ x) :
    0 ≤ level minimum maximum x := by
  have hzero : level minimum maximum minimum = 0 := by simp [level]
  rw [← hzero]
  exact level_mono hordered h

theorem level_le (hordered : minimum < maximum) (h : x ≤ maximum) :
    level minimum maximum x ≤ 65535 := by
  have htop : level minimum maximum maximum = 65535 := by
    rw [level, div_self (sub_pos.mpr hordered).ne', one_mul]
  rw [← htop]
  exact level_mono hordered h

/-- Coordinates are as far apart as their levels, in steps. -/
theorem coordinate_sub (s t : K) :
    coordinate minimum maximum s - coordinate minimum maximum t =
      (s - t) * ((maximum - minimum) / 65535) := by
  unfold coordinate
  ring

variable [FloorRing K]

/-- What a coordinate within the bounds is rounded to is a number of sixteen bits. -/
theorem round_level (hordered : minimum < maximum) (hlow : minimum ≤ x) (hhigh : x ≤ maximum) :
    ∃ q : UInt16, (q.toNat : Int) = round (level minimum maximum x) := by
  have hnonneg : 0 ≤ round (level minimum maximum x) := by
    rw [round_eq]
    exact Int.floor_nonneg.mpr (by linarith [level_nonneg hordered hlow])
  have hle : round (level minimum maximum x) ≤ 65535 := by
    rw [round_eq, ← Int.lt_add_one_iff, Int.floor_lt]
    push_cast
    linarith [level_le hordered hhigh]
  obtain ⟨n, hn⟩ := Int.eq_ofNat_of_zero_le hnonneg
  have hsize : n < UInt16.size := by
    have : (n : Int) < 65536 := by omega
    exact_mod_cast this
  refine ⟨UInt16.ofNat n, ?_⟩
  rw [hn, UInt16.toNat_ofNat_of_lt' hsize]

end Levels

/-! ## Exact numbers -/

section Exact

variable {K : Type} [Field K] [LinearOrder K] [FloorRing K]

/-- The integer nearest to an exact number, ties away from zero. -/
def nearest (a : K) : Int :=
  if a < 0 then -⌊-a + 1 / 2⌋ else ⌊a + 1 / 2⌋

theorem nearest_eq_round [IsStrictOrderedRing K] {a : K} (h : 0 ≤ a) : nearest a = round a := by
  rw [nearest, if_neg h.not_gt, round_eq]

variable [SquareRoot K]

instance : Quantizing (Extended K) where
  ofUInt16 value := .finite value.toNat
  llround
    | .finite a => nearest a
    | _ => 0

variable [IsStrictOrderedRing K] {minimum maximum x : K} {q : UInt16}

omit [IsStrictOrderedRing K] in
theorem validateQuantizationBounds_exact (hordered : minimum < maximum) :
    validateQuantizationBounds (Extended.finite minimum) (.finite maximum) = .ok () := by
  unfold validateQuantizationBounds
  rw [decide_eq_false (Extended.finite_le.not.mpr hordered.not_ge)]
  rfl

omit [IsStrictOrderedRing K] in
theorem literal_exact : (65535.0 : Extended K) = .finite 65535 := by
  show Extended.finite (65535.0 : K) = .finite 65535
  norm_num

theorem ofInt_toNat (q : UInt16) : UInt16.ofInt q.toNat = q := by
  have hsize := q.toNat_lt
  have hkept : ((q.toNat : Int) % 2 ^ 16).toNat = q.toNat := by omega
  rw [UInt16.ofInt, hkept, UInt16.ofNat_toNat]

/-- The spec lemma of quantizing. -/
theorem quantizeCoordinate_exact (hordered : minimum < maximum) (hlow : minimum ≤ x)
    (hhigh : x ≤ maximum) (hq : (q.toNat : Int) = round (level minimum maximum x)) :
    quantizeCoordinate (Extended.finite x) (.finite minimum) (.finite maximum) = .ok q := by
  have hinside : (decide (Extended.finite x < .finite minimum) ||
      decide (Extended.finite maximum < .finite x)) = false := by
    rw [decide_eq_false (Extended.finite_lt.not.mpr hlow.not_gt),
      decide_eq_false (Extended.finite_lt.not.mpr hhigh.not_gt)]
    rfl
  have hratio : (Extended.finite x - .finite minimum) /
      (Extended.finite maximum - .finite minimum) * (65535.0 : Extended K) =
        .finite (level minimum maximum x) := by
    rw [Extended.finite_sub, Extended.finite_sub,
      Extended.finite_div (sub_pos.mpr hordered).ne', literal_exact, Extended.finite_mul]
    rfl
  have hround : nearest (level minimum maximum x) = q.toNat :=
    (nearest_eq_round (level_nonneg hordered hlow)).trans hq.symm
  unfold quantizeCoordinate
  rw [validateQuantizationBounds_exact hordered, hinside]
  change Except.ok (UInt16.ofInt (llround (R := Extended K) ((Extended.finite x - .finite minimum) /
    (Extended.finite maximum - .finite minimum) * (65535.0 : Extended K)))) = _
  rw [hratio]
  change Except.ok (UInt16.ofInt (nearest (level minimum maximum x))) = _
  rw [hround, ofInt_toNat]

omit [IsStrictOrderedRing K] in
/-- The spec lemma of the way back. -/
theorem dequantizeCoordinate_exact [CharZero K] (hordered : minimum < maximum) :
    dequantizeCoordinate q (Extended.finite minimum) (.finite maximum) =
      .ok (.finite (coordinate minimum maximum q.toNat)) := by
  have hratio : (Extended.finite (q.toNat : K)) / (65535.0 : Extended K) =
      .finite (q.toNat / 65535) := by
    rw [literal_exact, Extended.finite_div (by norm_num)]
  unfold dequantizeCoordinate
  rw [validateQuantizationBounds_exact hordered]
  change Except.ok (Extended.finite minimum + Extended.finite (q.toNat : K) /
    (65535.0 : Extended K) * (Extended.finite maximum - .finite minimum)) = _
  rw [hratio]
  rfl

/-- What has been decoded encodes as it was, encoding keeps the order, and no coordinate within
the bounds moves by more than half a step. -/
theorem quantizeCoordinate_retract (hordered : minimum < maximum) :
    (∀ q : UInt16, ∃ x : K, minimum ≤ x ∧ x ≤ maximum ∧
      dequantizeCoordinate q (Extended.finite minimum) (.finite maximum) = .ok (.finite x) ∧
      quantizeCoordinate (Extended.finite x) (.finite minimum) (.finite maximum) = .ok q) ∧
    (∀ x y : K, minimum ≤ x → x ≤ y → y ≤ maximum → ∃ q r : UInt16,
      quantizeCoordinate (Extended.finite x) (.finite minimum) (.finite maximum) = .ok q ∧
      quantizeCoordinate (Extended.finite y) (.finite minimum) (.finite maximum) = .ok r ∧
      q ≤ r) ∧
    ∀ x : K, minimum ≤ x → x ≤ maximum → ∃ (q : UInt16) (y : K),
      quantizeCoordinate (Extended.finite x) (.finite minimum) (.finite maximum) = .ok q ∧
      dequantizeCoordinate q (Extended.finite minimum) (.finite maximum) = .ok (.finite y) ∧
      |y - x| ≤ (maximum - minimum) / 65535 / 2 := by
  refine ⟨fun q => ?_, fun x y hlow hle hhigh => ?_, fun x hlow hhigh => ?_⟩
  · have hfits : (q.toNat : K) ≤ 65535 := by
      have hlt := q.toNat_lt
      exact_mod_cast Nat.le_of_lt_succ hlt
    have hbottom : coordinate minimum maximum (0 : K) = minimum := by simp [coordinate]
    have htop : coordinate minimum maximum (65535 : K) = maximum := by
      rw [coordinate, div_self (by norm_num), one_mul, add_sub_cancel]
    have hlow : minimum ≤ coordinate minimum maximum (q.toNat : K) :=
      hbottom.symm.trans_le (coordinate_mono hordered (Nat.cast_nonneg _))
    have hhigh : coordinate minimum maximum (q.toNat : K) ≤ maximum :=
      (coordinate_mono hordered hfits).trans_eq htop
    refine ⟨_, hlow, hhigh, dequantizeCoordinate_exact hordered,
      quantizeCoordinate_exact hordered hlow hhigh ?_⟩
    rw [level_coordinate hordered, round_natCast]
  · obtain ⟨q, hq⟩ := round_level hordered hlow (hle.trans hhigh)
    obtain ⟨r, hr⟩ := round_level hordered (hlow.trans hle) hhigh
    refine ⟨q, r, quantizeCoordinate_exact hordered hlow (hle.trans hhigh) hq,
      quantizeCoordinate_exact hordered (hlow.trans hle) hhigh hr, ?_⟩
    have hrounded : round (level minimum maximum x) ≤ round (level minimum maximum y) := by
      rw [round_eq, round_eq]
      exact Int.floor_mono (by linarith [level_mono hordered hle])
    rw [← hq, ← hr] at hrounded
    exact UInt16.le_iff_toNat_le.mpr (by exact_mod_cast hrounded)
  · obtain ⟨q, hq⟩ := round_level hordered hlow hhigh
    refine ⟨q, _, quantizeCoordinate_exact hordered hlow hhigh hq,
      dequantizeCoordinate_exact hordered, ?_⟩
    have hstep : 0 ≤ (maximum - minimum) / 65535 :=
      div_nonneg (sub_pos.mpr hordered).le (by norm_num)
    have hnear := abs_sub_round (level minimum maximum x)
    rw [← hq, abs_sub_comm, Int.cast_natCast] at hnear
    calc |coordinate minimum maximum (q.toNat : K) - x|
        = |(q.toNat : K) - level minimum maximum x| * ((maximum - minimum) / 65535) := by
          rw [← abs_of_nonneg hstep, ← abs_mul, ← coordinate_sub, coordinate_level hordered]
      _ ≤ 1 / 2 * ((maximum - minimum) / 65535) := by gcongr
      _ = (maximum - minimum) / 65535 / 2 := by ring

/-- The rule between minus one and one. -/
theorem quantizeCoordinate_retract_unit :
    (-1 : ℚ) < 1 ∧ ∀ q : UInt16, ∃ x : ℚ, -1 ≤ x ∧ x ≤ 1 ∧
      dequantizeCoordinate q (Extended.finite (-1)) (.finite (1 : ℚ)) = .ok (.finite x) ∧
      quantizeCoordinate (Extended.finite x) (.finite (-1)) (.finite 1) = .ok q :=
  ⟨by norm_num, (quantizeCoordinate_retract (by norm_num)).1⟩

end Exact

end Quantizing

end SurvivalArena
