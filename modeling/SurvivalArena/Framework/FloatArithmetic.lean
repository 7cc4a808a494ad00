import SurvivalArena.Framework.FloatConvert
import SurvivalArena.Framework.FloatRounding

/-!
# Arithmetic of floats

What comparison, division, conversion and packing of Lean's floats do to the numbers that
they denote.
-/

namespace Float.Model

namespace Format

variable {F : Format}

/-- The float nearest to a number, were there no largest. -/
def nearest (F : Format) (x : ℚ) : ℚ :=
  if 0 ≤ x then F.rounded x else -F.rounded (-x)

theorem nearest_of_nonneg {x : ℚ} (hx : 0 ≤ x) : F.nearest x = F.rounded x :=
  if_pos hx

theorem nearest_mono : Monotone F.nearest := by
  intro x y hxy
  unfold nearest
  split_ifs with hx hy hy
  · exact rounded_mono hx hxy
  · exact absurd (hx.trans hxy) hy
  · have hneg := rounded_nonneg (F := F) (neg_nonneg.mpr (not_le.mp hx).le)
    have hpos := rounded_nonneg (F := F) hy
    linarith
  · exact neg_le_neg (rounded_mono (neg_nonneg.mpr (not_le.mp hy).le) (neg_le_neg hxy))

theorem nearest_neg (x : ℚ) : F.nearest (-x) = -F.nearest x := by
  rcases lt_trichotomy x 0 with h | rfl | h
  · rw [nearest, nearest, if_pos (by linarith), if_neg (by linarith), neg_neg]
  · rw [neg_zero, nearest_of_nonneg le_rfl, rounded_zero, neg_zero]
  · rw [nearest, nearest, if_neg (by linarith), if_pos h.le, neg_neg]

theorem nearest_zpow {exponent : ℤ} (h : F.minExponent ≤ exponent) :
    F.nearest (2 ^ exponent) = 2 ^ exponent := by
  have hlog : Int.log 2 ((2 : ℚ) ^ exponent) = exponent := by
    exact_mod_cast Int.log_zpow (R := ℚ) one_lt_two exponent
  have hbits := one_le_mantissaBits (F := F)
  have hexponent : F.exponentAt (((1 : ℤ) : ℚ) * 2 ^ exponent) ≤ exponent := by
    rw [Int.cast_one, one_mul, exponentAt, hlog]
    exact max_le (by omega) h
  have hrounded := rounded_of_mul hexponent
  rw [Int.cast_one, one_mul] at hrounded
  rw [nearest_of_nonneg (by positivity), hrounded]

theorem abs_nearest_le {x : ℚ} {exponent : ℤ} (h : F.minExponent ≤ exponent)
    (hx : |x| ≤ 2 ^ exponent) : |F.nearest x| ≤ 2 ^ exponent := by
  obtain ⟨hlow, hhigh⟩ := abs_le.mp hx
  refine abs_le.mpr ⟨?_, ?_⟩
  · have hmono := nearest_mono (F := F) hlow
    rwa [nearest_neg, nearest_zpow h] at hmono
  · have hmono := nearest_mono (F := F) hhigh
    rwa [nearest_zpow h] at hmono

end Format

namespace UnpackedFloat

variable {F : Format}

namespace Sign

theorem signed_div (first second : Sign) (x y : ℚ) :
    (first / second).signed (x / y) = first.signed x / second.signed y := by
  cases first <;> cases second
  · exact (neg_div_neg_eq x y).symm
  · exact (neg_div y x).symm
  · exact (div_neg x).symm
  · rfl

theorem signed_rounded {sign : Sign} {x : ℚ} (hx : 0 ≤ x) :
    sign.signed (F.rounded x) = F.nearest (sign.signed x) := by
  cases sign with
  | positive => exact (Format.nearest_of_nonneg hx).symm
  | negative =>
    rcases hx.eq_or_lt with rfl | hpos
    · simp [signed, Format.nearest, Format.rounded_zero]
    · rw [signed, signed, Format.nearest, if_neg (by linarith), neg_neg]

end Sign

/-! ## Division -/

theorem accuracyOfFraction_describes {num den base : ℕ} (h : num < den) :
    (accuracyOfFraction num den).Describes base (base + num / den) := by
  have hden : (0 : ℚ) < den := Nat.cast_pos.mpr (Nat.zero_lt_of_lt h)
  have hlt : (num : ℚ) / den < 1 := (div_lt_one hden).mpr (Nat.cast_lt.mpr h)
  unfold accuracyOfFraction
  split_ifs with hzero
  · rw [hzero, Nat.cast_zero, zero_div, add_zero]
    rfl
  · have hpos : (0 : ℚ) < num / den := by
      have hnum : (0 : ℚ) < num := Nat.cast_pos.mpr (Nat.pos_of_ne_zero hzero)
      positivity
    have hhalf : (num : ℚ) / den = 2 * num / den * (1 / 2) := by ring
    rcases hcompare : compare (2 * num) den with _ | _ | _
    · have hless : (2 * num : ℚ) < den := by exact_mod_cast Nat.compare_eq_lt.mp hcompare
      have hratio : (2 * num : ℚ) / den < 1 := (div_lt_one hden).mpr hless
      exact ⟨by linarith, by linarith⟩
    · have hsame : (2 * num : ℚ) = den := by exact_mod_cast Nat.compare_eq_eq.mp hcompare
      have hratio : (2 * num : ℚ) / den = 1 := (div_eq_one_iff_eq hden.ne').mpr hsame
      show (base : ℚ) + num / den = base + 1 / 2
      linarith
    · have hmore : (den : ℚ) < 2 * num := by exact_mod_cast Nat.compare_eq_gt.mp hcompare
      have hratio : 1 < (2 * num : ℚ) / den := (one_lt_div hden).mpr hmore
      exact ⟨by linarith, by linarith⟩

theorem divCore_spec {m₁ m₂ : ℕ} (h₁ : 0 < m₁) (h₂ : 0 < m₂) (e₁ e₂ : ℤ) :
    (divCore F m₁ e₁ m₂ e₂).2.2.Describes (divCore F m₁ e₁ m₂ e₂).1
        (m₁ * 2 ^ e₁ / (m₂ * 2 ^ e₂) / 2 ^ (divCore F m₁ e₁ m₂ e₂).2.1) ∧
      (divCore F m₁ e₁ m₂ e₂).2.1 ≤ F.exponentAt (m₁ * 2 ^ e₁ / (m₂ * 2 ^ e₂)) := by
  unfold divCore
  dsimp only
  generalize htarget : min (e₁ - e₂)
    (F.targetExponent (totalExponent m₁ e₁ - totalExponent m₂ e₂)) = target
  have hle : target ≤ e₁ - e₂ := htarget ▸ min_le_left _ _
  obtain ⟨amount, hamount⟩ := Int.eq_ofNat_of_zero_le (sub_nonneg.mpr hle)
  have hm₂ : (m₂ : ℚ) ≠ 0 := Nat.cast_ne_zero.mpr h₂.ne'
  constructor
  · have hshift : (e₁ - e₂ - target).toNat = amount := by omega
    rw [hshift, Nat.shiftLeft_eq]
    have hquotient : (m₁ * 2 ^ e₁ / (m₂ * 2 ^ e₂) / 2 ^ target : ℚ) =
        (m₁ * 2 ^ amount / m₂ : ℕ) + (m₁ * 2 ^ amount % m₂ : ℕ) / m₂ := by
      have hsplit : (m₁ * 2 ^ amount : ℚ) =
          m₂ * (m₁ * 2 ^ amount / m₂ : ℕ) + (m₁ * 2 ^ amount % m₂ : ℕ) := by
        exact_mod_cast (Nat.div_add_mod (m₁ * 2 ^ amount) m₂).symm
      have hexponent : e₁ = amount + e₂ + target := by omega
      have hcancel : (m₁ * 2 ^ e₁ / (m₂ * 2 ^ e₂) / 2 ^ target : ℚ) =
          m₁ * 2 ^ amount / m₂ := by
        rw [hexponent, zpow_add₀ two_ne_zero, zpow_add₀ two_ne_zero, zpow_natCast]
        field_simp
      rw [hcancel, hsplit, add_div, mul_div_cancel_left₀ _ hm₂]
    rw [hquotient]
    exact accuracyOfFraction_describes (Nat.mod_lt _ h₂)
  · refine (htarget ▸ min_le_right _ _ : target ≤ _).trans ?_
    refine Format.targetExponent_mono ?_
    have hx : (0 : ℚ) < m₁ * 2 ^ e₁ / (m₂ * 2 ^ e₂) := by positivity
    have hnumerator : (2 : ℚ) ^ Int.log 2 ((m₁ : ℚ) * 2 ^ e₁) ≤ m₁ * 2 ^ e₁ :=
      Int.zpow_log_le_self one_lt_two (by positivity)
    have hdenominator : (m₂ * 2 ^ e₂ : ℚ) < 2 ^ (Int.log 2 ((m₂ : ℚ) * 2 ^ e₂) + 1) :=
      Int.lt_zpow_succ_log_self one_lt_two _
    rw [log_mul_zpow h₁] at hnumerator
    rw [log_mul_zpow h₂] at hdenominator
    have hbelow : (2 : ℚ) ^ ((m₁.log2 + e₁) - (m₂.log2 + e₂ + 1)) ≤
        m₁ * 2 ^ e₁ / (m₂ * 2 ^ e₂) := by
      rw [zpow_sub₀ two_ne_zero]
      exact div_le_div₀ (by positivity) hnumerator (by positivity) hdenominator.le
    have hlog := (Int.zpow_le_iff_le_log one_lt_two hx).mp hbelow
    unfold totalExponent
    omega

theorem div_holds {s₁ s₂ : Sign} {m₁ m₂ : ℕ} {e₁ e₂ : ℤ} (h₁ : 0 < m₁) (h₂ : 0 < m₂) :
    Holds F (s₁ / s₂) (F.rounded (m₁ * 2 ^ e₁ / (m₂ * 2 ^ e₂)))
      (div F (.finite s₁ m₁ e₁ h₁) (.finite s₂ m₂ e₂ h₂)) := by
  obtain ⟨hdescribes, hexponent⟩ := divCore_spec (F := F) h₁ h₂ e₁ e₂
  exact roundWithAccuracy_holds (by positivity) hdescribes hexponent

/-- A float of a format next to a number. -/
structure Denotes (F : Format) (x : ℚ) (f : UnpackedFloat) : Prop where
  isFinite : f.isFinite = true
  value : f.value = x
  canonical : f.Canonical F

theorem Holds.denotes {sign : Sign} {magnitude : ℚ} {f : UnpackedFloat}
    (h : Holds F sign magnitude f) : Denotes F (sign.signed magnitude) f :=
  ⟨by cases h <;> rfl, h.value, h.canonical⟩

theorem denotes_zero (sign : Sign) : Denotes F 0 (.zero sign) :=
  ⟨rfl, rfl, trivial⟩

theorem nearest_zero : F.nearest 0 = 0 := by
  rw [Format.nearest_of_nonneg le_rfl, Format.rounded_zero]

/-- The quotient of finite floats is the float nearest to the quotient of their numbers. -/
theorem div_denotes {a b : UnpackedFloat} (ha : a.isFinite = true) (hb : b.isFinite = true)
    (hvalue : b.value ≠ 0) : Denotes F (F.nearest (a.value / b.value)) (div F a b) := by
  cases b with
  | notANumber => cases hb
  | infinity sign => cases hb
  | zero sign => exact absurd rfl hvalue
  | finite s₂ m₂ e₂ h₂ =>
    cases a with
    | notANumber => cases ha
    | infinity sign => cases ha
    | zero sign =>
      rw [show value (.zero sign) = 0 from rfl, zero_div, nearest_zero]
      exact denotes_zero _
    | finite s₁ m₁ e₁ h₁ =>
      have hnearest : F.nearest (value (.finite s₁ m₁ e₁ h₁) / value (.finite s₂ m₂ e₂ h₂)) =
          (s₁ / s₂).signed (F.rounded (m₁ * 2 ^ e₁ / (m₂ * 2 ^ e₂))) := by
        rw [Sign.signed_rounded (by positivity), Sign.signed_div]
        rfl
      rw [hnearest]
      exact (div_holds h₁ h₂).denotes

/-! ## Conversion -/

theorem round_holds {sign : Sign} {mantissa : ℕ} {exponent : ℤ} (hpos : 0 < mantissa) :
    Holds F sign (F.rounded (mantissa * 2 ^ exponent))
      (round F sign mantissa exponent) := by
  unfold round decreaseExponent
  dsimp only
  rw [← exponentAt_mul_zpow hpos]
  generalize hamount :
    (exponent - F.exponentAt (mantissa * 2 ^ exponent)).toNat = amount
  refine roundWithAccuracy_holds (by positivity) ?_ (by omega)
  show (mantissa * 2 ^ exponent / 2 ^ (exponent - amount) : ℚ) = (mantissa <<< amount : ℕ)
  rw [Nat.shiftLeft_eq, mul_div_assoc, ← zpow_sub₀ two_ne_zero, sub_sub_cancel, zpow_natCast]
  push_cast
  rfl

theorem convert_denotes {f : UnpackedFloat} (h : f.isFinite = true) :
    Denotes F (F.nearest f.value) (f.convert F) := by
  cases f with
  | notANumber => cases h
  | infinity sign => cases h
  | zero sign =>
    rw [show value (.zero sign) = 0 from rfl, nearest_zero]
    exact denotes_zero sign
  | finite sign mantissa exponent hpos =>
    rw [value, ← Sign.signed_rounded (by positivity)]
    exact (round_holds hpos).denotes

/-! ## Comparison -/

/-- A smaller exponent is that of a smaller magnitude. -/
theorem magnitude_lt {m₁ m₂ : ℕ} {e₁ e₂ : ℤ} (h₁ : 0 < m₁) (h₂ : 0 < m₂)
    (hc₁ : e₁ = F.targetExponent (totalExponent m₁ e₁))
    (hc₂ : e₂ = F.targetExponent (totalExponent m₂ e₂)) (h : e₁ < e₂) :
    (m₁ * 2 ^ e₁ : ℚ) < m₂ * 2 ^ e₂ := by
  rw [← exponentAt_mul_zpow h₁] at hc₁
  rw [← exponentAt_mul_zpow h₂] at hc₂
  by_contra hge
  have hmono := Format.exponentAt_mono (F := F) (by positivity) (not_lt.mp hge)
  omega

theorem compare_magnitude {m₁ m₂ : ℕ} {e₁ e₂ : ℤ} (h₁ : 0 < m₁) (h₂ : 0 < m₂)
    (hc₁ : e₁ = F.targetExponent (totalExponent m₁ e₁))
    (hc₂ : e₂ = F.targetExponent (totalExponent m₂ e₂)) :
    (compare e₁ e₂).then (compare m₁ m₂) = cmp (m₁ * 2 ^ e₁ : ℚ) (m₂ * 2 ^ e₂) := by
  rcases lt_trichotomy e₁ e₂ with h | rfl | h
  · rw [compare_lt_iff_lt.mpr h, (cmp_eq_lt_iff _ _).mpr (magnitude_lt h₁ h₂ hc₁ hc₂ h)]
    rfl
  · have hstrict : StrictMono fun m : ℕ => (m * 2 ^ e₁ : ℚ) := fun a b hab =>
      mul_lt_mul_of_pos_right (Nat.cast_lt.mpr hab) (by positivity)
    rw [compare_eq_iff_eq.mpr rfl, ← cmp_eq_compare]
    exact (hstrict.cmp_map_eq m₁ m₂).symm
  · rw [compare_gt_iff_gt.mpr h, (cmp_eq_gt_iff _ _).mpr (magnitude_lt h₂ h₁ hc₂ hc₁ h)]
    rfl

/-- Floats of a format are compared as the numbers they denote. -/
theorem compare_denotes {a b : UnpackedFloat} {x y : ℚ} (ha : Denotes F x a)
    (hb : Denotes F y b) : a.compare b = some (cmp x y) := by
  obtain ⟨hafinite, rfl, hacanonical⟩ := ha
  obtain ⟨hbfinite, rfl, hbcanonical⟩ := hb
  have hpositive : ∀ (mantissa : ℕ) (exponent : ℤ), 0 < mantissa →
      (0 : ℚ) < mantissa * 2 ^ exponent := fun mantissa exponent h => by positivity
  cases a with
  | notANumber => cases hafinite
  | infinity sign => cases hafinite
  | zero sign =>
    cases b with
    | notANumber => cases hbfinite
    | infinity sign => cases hbfinite
    | zero sign => exact congrArg some (cmp_self_eq_eq (0 : ℚ)).symm
    | finite sign mantissa exponent hpos =>
      have hmagnitude := hpositive mantissa exponent hpos
      cases sign with
      | positive => exact congrArg some ((cmp_eq_lt_iff _ _).mpr hmagnitude).symm
      | negative => exact congrArg some ((cmp_eq_gt_iff _ _).mpr (neg_neg_of_pos hmagnitude)).symm
  | finite s₁ m₁ e₁ h₁ =>
    have hmagnitude := hpositive m₁ e₁ h₁
    cases b with
    | notANumber => cases hbfinite
    | infinity sign => cases hbfinite
    | zero sign =>
      cases s₁ with
      | positive => exact congrArg some ((cmp_eq_gt_iff _ _).mpr hmagnitude).symm
      | negative => exact congrArg some ((cmp_eq_lt_iff _ _).mpr (neg_neg_of_pos hmagnitude)).symm
    | finite s₂ m₂ e₂ h₂ =>
      have hother := hpositive m₂ e₂ h₂
      have hcompare := compare_magnitude h₁ h₂ hacanonical hbcanonical
      cases s₁ with
      | positive =>
        cases s₂ with
        | positive => exact congrArg some hcompare
        | negative =>
          have hgt := (neg_neg_of_pos hother).trans hmagnitude
          exact congrArg some ((cmp_eq_gt_iff _ _).mpr hgt).symm
      | negative =>
        cases s₂ with
        | positive =>
          have hlt := (neg_neg_of_pos hmagnitude).trans hother
          exact congrArg some ((cmp_eq_lt_iff _ _).mpr hlt).symm
        | negative =>
          have hneg : StrictAnti fun x : ℚ => -x := fun _ _ => neg_lt_neg
          refine congrArg some ?_
          rw [hcompare, cmp_swap]
          exact (hneg.cmp_map_eq _ _).symm

theorem le_denotes {a b : UnpackedFloat} {x y : ℚ} (ha : Denotes F x a)
    (hb : Denotes F y b) : a.le b = true ↔ x ≤ y := by
  rw [UnpackedFloat.le, compare_denotes ha hb]
  rcases lt_trichotomy x y with h | h | h
  · rw [(cmp_eq_lt_iff _ _).mpr h]
    exact iff_of_true rfl h.le
  · rw [(cmp_eq_eq_iff x y).mpr h]
    exact iff_of_true rfl h.le
  · rw [(cmp_eq_gt_iff _ _).mpr h]
    exact iff_of_false Bool.false_ne_true (not_le.mpr h)

theorem lt_denotes {a b : UnpackedFloat} {x y : ℚ} (ha : Denotes F x a)
    (hb : Denotes F y b) : a.lt b = true ↔ x < y := by
  rw [UnpackedFloat.lt, compare_denotes ha hb, beq_iff_eq, Option.some_inj, cmp_eq_lt_iff]

/-! ## Packing -/

theorem normalMantissa_eq (mantissa : BitVec F.mantissaBitsWithoutImplicit) :
    (1#1 ++ mantissa).toNat = 2 ^ F.mantissaBitsWithoutImplicit + mantissa.toNat := by
  rw [BitVec.toNat_append, BitVec.toNat_ofNat, ← Nat.shiftLeft_add_eq_or_of_lt mantissa.isLt,
    Nat.shiftLeft_eq]
  norm_num

theorem log2_normal {mantissa bits : ℕ} (h : mantissa < 2 ^ bits) :
    (2 ^ bits + mantissa).log2 = bits := by
  rw [Nat.log2_eq_iff (by positivity), pow_succ]
  omega

theorem minExponent_eq :
    F.minExponent = 1 - (F.exponentBias + F.mantissaBitsWithoutImplicit : ℤ) := by
  have hpow : 1 ≤ 2 ^ (F.exponentBits - 1) := Nat.one_le_two_pow
  unfold Format.minExponent Format.exponentBias Format.mantissaBits
  push_cast [hpow]
  ring

theorem unpack_canonical (b : BitVec F.numBits) : (unpack F b).Canonical F := by
  have hmin := minExponent_eq (F := F)
  fun_cases unpack with
  | case1 => trivial
  | case2 => trivial
  | case3 => trivial
  | case4 mantissa exponentVec exponent signVec sign hspecial hzero hmantissa =>
    have hlog : mantissa.toNat.log2 < F.mantissaBitsWithoutImplicit := by
      have hne : mantissa.toNat ≠ 0 := fun h => hmantissa (BitVec.eq_of_toNat_eq (by simpa using h))
      exact (Nat.log2_lt hne).mpr mantissa.isLt
    have hexponent : exponent + 1 = F.minExponent := by
      have hvec : exponentVec.toNat = 0 := by
        rw [hzero]
        exact BitVec.toNat_zero
      omega
    show exponent + 1 = max _ _
    rw [hexponent]
    refine (max_eq_right ?_).symm
    rw [totalExponent, Format.mantissaBits]
    omega
  | case5 mantissa exponentVec exponent signVec sign hspecial hzero =>
    have hpos : 0 < exponentVec.toNat := by
      refine Nat.pos_of_ne_zero fun h => hzero (BitVec.eq_of_toNat_eq ?_)
      rw [h]
      exact BitVec.toNat_zero.symm
    show exponent = max _ _
    rw [totalExponent, normalMantissa_eq, log2_normal mantissa.isLt, Format.mantissaBits]
    rw [max_eq_left (by omega)]
    omega

/-- The exponent of a float is too large for the format. -/
def Overflows (F : Format) : UnpackedFloat → Prop
  | .finite _ _ exponent _ =>
    2 ^ F.exponentBits ≤
      (exponent + F.exponentBias + F.mantissaBitsWithoutImplicit).toNat + 1
  | _ => False

theorem neg_one_ne_zero_bits :
    -(BitVec.ofNat F.exponentBits 1) ≠ BitVec.ofNat F.exponentBits 0 := by
  intro h
  have hnat := congrArg BitVec.toNat h
  rw [BitVec.neg_one_eq_allOnes, BitVec.toNat_allOnes, BitVec.toNat_zero] at hnat
  have hpow : 2 ^ 1 ≤ 2 ^ F.exponentBits := Nat.pow_le_pow_right two_pos F.he
  omega

theorem unpack_packedInfinity (sign : Sign) :
    unpack F (packedInfinity F sign) = .infinity sign := by
  simp [unpack, packedInfinity]

theorem unpack_normal {sign : Sign} {mantissa biased : ℕ} (hpos : 0 < mantissa)
    (hbiased : 0 < biased) (hsmall : biased + 1 < 2 ^ F.exponentBits)
    (hlow : 2 ^ F.mantissaBitsWithoutImplicit ≤ mantissa)
    (hhigh : mantissa < 2 ^ (F.mantissaBitsWithoutImplicit + 1)) :
    unpack F (packComponents F sign (BitVec.ofNat _ biased) (BitVec.ofNat _ mantissa)) =
      .finite sign mantissa
        (biased - (F.exponentBias + F.mantissaBitsWithoutImplicit)) hpos := by
  have hvec : (BitVec.ofNat F.exponentBits biased).toNat = biased := by
    rw [BitVec.toNat_ofNat, Nat.mod_eq_of_lt (by omega)]
  have hspecial : BitVec.ofNat F.exponentBits biased ≠ -1#_ := by
    intro heq
    have hnat := congrArg BitVec.toNat heq
    rw [hvec, BitVec.neg_one_eq_allOnes, BitVec.toNat_allOnes] at hnat
    omega
  have hzero : BitVec.ofNat F.exponentBits biased ≠ 0#_ := by
    intro heq
    have hnat := congrArg BitVec.toNat heq
    rw [hvec, BitVec.toNat_zero] at hnat
    omega
  have hmantissa : (1#1 ++ BitVec.ofNat F.mantissaBitsWithoutImplicit mantissa).toNat =
      mantissa := by
    rw [normalMantissa_eq, BitVec.toNat_ofNat, Nat.mod_eq_sub_mod hlow,
      Nat.mod_eq_of_lt (by rw [pow_succ] at hhigh; omega)]
    omega
  unfold unpack
  simp only [unpackExponent_packComponents, unpackMantissa_packComponents,
    unpackSign_packComponents, Sign.ofBitVec_toBitVec]
  rw [if_neg hspecial, if_neg hzero]
  congr 1
  rw [hvec]

theorem unpack_subnormal {sign : Sign} {mantissa : ℕ} (hpos : 0 < mantissa)
    (hsmall : mantissa < 2 ^ F.mantissaBitsWithoutImplicit) :
    unpack F (packComponents F sign 0#_ (BitVec.ofNat _ mantissa)) =
      .finite sign mantissa F.minExponent hpos := by
  have hmantissa : (BitVec.ofNat F.mantissaBitsWithoutImplicit mantissa).toNat =
      mantissa := by
    rw [BitVec.toNat_ofNat, Nat.mod_eq_of_lt hsmall]
  have hspecial : BitVec.ofNat F.exponentBits 0 ≠ -(BitVec.ofNat _ 1) := neg_one_ne_zero_bits.symm
  have hnonzero : BitVec.ofNat F.mantissaBitsWithoutImplicit mantissa ≠ 0#_ := by
    intro heq
    have hnat := congrArg BitVec.toNat heq
    rw [hmantissa, BitVec.toNat_zero] at hnat
    omega
  unfold unpack
  simp only [unpackExponent_packComponents, unpackMantissa_packComponents,
    unpackSign_packComponents, Sign.ofBitVec_toBitVec]
  rw [if_neg hspecial, if_pos trivial, dif_neg hnonzero]
  congr 1
  rw [BitVec.toNat_zero, minExponent_eq]
  push_cast
  ring

/-- Packing keeps a float whose exponent is not too large. -/
theorem unpack_pack {f : UnpackedFloat} (hcanonical : f.Canonical F)
    (h : ¬ Overflows F f) : unpack F (pack F f) = f := by
  have hmin := minExponent_eq (F := F)
  cases f with
  | notANumber => exact unpack_packedNaN
  | infinity sign => exact unpack_packedInfinity sign
  | zero sign => exact unpack_packedZero
  | finite sign mantissa exponent hpos =>
    have hsmall : (exponent + F.exponentBias + F.mantissaBitsWithoutImplicit).toNat + 1 <
        2 ^ F.exponentBits := not_le.mp h
    have hexponent : exponent = max (mantissa.log2 + 1 + exponent - F.mantissaBits)
        F.minExponent := hcanonical
    have hmantissa : mantissa < 2 ^ (mantissa.log2 + 1) := Nat.lt_log2_self
    have hself : 2 ^ mantissa.log2 ≤ mantissa := Nat.log2_self_le hpos.ne'
    have hbits : F.mantissaBits = F.mantissaBitsWithoutImplicit + 1 := add_comm _ _
    unfold pack
    dsimp only
    rw [if_neg (not_le.mpr hsmall)]
    split
    next hnormal =>
      have hlog : mantissa.log2 = F.mantissaBitsWithoutImplicit := by omega
      rw [hlog] at hmantissa hself
      rw [unpack_normal hpos (by omega) hsmall hself hmantissa]
      congr 1
      omega
    next hsubnormal =>
      have hlog : mantissa.log2 < F.mantissaBitsWithoutImplicit := by omega
      rw [unpack_subnormal hpos ((Nat.log2_lt hpos.ne').mp hlog)]
      congr 1
      omega

theorem unpack_pack_of_overflows {f : UnpackedFloat} (h : Overflows F f) :
    (unpack F (pack F f)).isFinite = false := by
  cases f with
  | notANumber => exact h.elim
  | infinity sign => exact h.elim
  | zero sign => exact h.elim
  | finite sign mantissa exponent hpos =>
    have hpack : pack F (.finite sign mantissa exponent hpos) = packedInfinity F sign :=
      if_pos h
    rw [hpack, unpack_packedInfinity]
    rfl

theorem unpack_pack_of_isFinite {f : UnpackedFloat} (hcanonical : f.Canonical F)
    (h : (unpack F (pack F f)).isFinite = true) : unpack F (pack F f) = f := by
  refine unpack_pack hcanonical fun hlarge => ?_
  rw [unpack_pack_of_overflows hlarge] at h
  exact Bool.false_ne_true h

theorem canonical_of_not_isFinite {f : UnpackedFloat} (h : f.isFinite = false) :
    f.Canonical F := by
  cases f with
  | finite sign mantissa exponent hpos => cases h
  | _ => trivial

/-! ## The greatest integer not above a float -/

theorem floorMagnitude_eq (mantissa : ℕ) (exponent : ℤ) :
    (floorMagnitude mantissa exponent : ℤ) = ⌊(mantissa * 2 ^ exponent : ℚ)⌋ := by
  cases exponent with
  | ofNat shift =>
    rw [floorMagnitude, Nat.shiftLeft_eq, Int.ofNat_eq_natCast, zpow_natCast]
    have hcast : (mantissa * 2 ^ shift : ℚ) = ((mantissa * 2 ^ shift : ℕ) : ℤ) := by push_cast; rfl
    rw [hcast, Int.floor_intCast]
  | negSucc shift =>
    rw [floorMagnitude, Nat.shiftRight_eq_div_pow, zpow_negSucc, ← div_eq_mul_inv]
    have hcast : (mantissa / 2 ^ (shift + 1) : ℚ) = (mantissa : ℚ) / (2 ^ (shift + 1) : ℕ) := by
      push_cast; rfl
    rw [hcast, Rat.floor_natCast_div_natCast]
    exact Int.natCast_div _ _

theorem ceilMagnitude_eq (mantissa : ℕ) (exponent : ℤ) :
    (ceilMagnitude mantissa exponent : ℤ) = ⌈(mantissa * 2 ^ exponent : ℚ)⌉ := by
  cases exponent with
  | ofNat shift =>
    rw [ceilMagnitude, Nat.shiftLeft_eq, Int.ofNat_eq_natCast, zpow_natCast]
    have hcast : (mantissa * 2 ^ shift : ℚ) = ((mantissa * 2 ^ shift : ℕ) : ℤ) := by push_cast; rfl
    rw [hcast, Int.ceil_intCast]
  | negSucc shift =>
    rw [ceilMagnitude, Nat.shiftRight_eq_div_pow, zpow_negSucc, ← div_eq_mul_inv, eq_comm,
      Int.ceil_eq_iff, Int.cast_natCast]
    generalize hquotient : (mantissa + (2 ^ (shift + 1) - 1)) / 2 ^ (shift + 1) = quotient
    have hdivisor : (0 : ℚ) < 2 ^ (shift + 1) := by positivity
    have hpos : 0 < 2 ^ (shift + 1) := Nat.two_pow_pos (shift + 1)
    have hlow : quotient * 2 ^ (shift + 1) < mantissa + 2 ^ (shift + 1) := by
      have hmul := Nat.div_mul_le_self (mantissa + (2 ^ (shift + 1) - 1)) (2 ^ (shift + 1))
      rw [hquotient] at hmul
      omega
    have hhigh : mantissa ≤ quotient * 2 ^ (shift + 1) := by
      have hmul := Nat.lt_mul_div_succ (mantissa + (2 ^ (shift + 1) - 1)) hpos
      rw [hquotient, Nat.mul_add_one, mul_comm] at hmul
      omega
    constructor
    · rw [sub_lt_iff_lt_add, ← div_self hdivisor.ne', ← add_div, lt_div_iff₀ hdivisor]
      exact_mod_cast hlow
    · rw [div_le_iff₀ hdivisor]
      exact_mod_cast hhigh

/-- The floor of a float is that of its number. -/
theorem floor_denotes {f : UnpackedFloat} {x : ℚ} (h : Denotes F x f) :
    f.floor = some ⌊x⌋ := by
  obtain ⟨hfinite, rfl, -⟩ := h
  cases f with
  | notANumber => cases hfinite
  | infinity sign => cases hfinite
  | zero sign => exact congrArg some Int.floor_zero.symm
  | finite sign mantissa exponent hpos =>
    cases sign with
    | positive => exact congrArg some (floorMagnitude_eq mantissa exponent)
    | negative =>
      refine congrArg some ?_
      rw [ceilMagnitude_eq]
      exact Int.floor_neg.symm

/-! ## Bounds -/

theorem signed_abs (sign : Sign) {x : ℚ} (hx : 0 ≤ x) : |sign.signed x| = x := by
  cases sign with
  | positive => exact abs_of_nonneg hx
  | negative => exact (abs_neg x).trans (abs_of_nonneg hx)

/-- A float of a small number does not overflow. -/
theorem not_overflows {f : UnpackedFloat} {x : ℚ} (h : Denotes F x f)
    (hx : |x| < 2 ^ (2 ^ (F.exponentBits - 1) - F.mantissaBits + 1 : ℤ)) :
    ¬ Overflows F f := by
  obtain ⟨hfinite, rfl, hcanonical⟩ := h
  cases f with
  | notANumber => exact id
  | infinity sign => exact id
  | zero sign => exact id
  | finite sign mantissa exponent hpos =>
    rw [value, signed_abs sign (by positivity)] at hx
    have hbelow : (2 : ℚ) ^ exponent ≤ mantissa * 2 ^ exponent :=
      le_mul_of_one_le_left (by positivity) (Nat.one_le_cast.mpr hpos)
    have hexponent := (zpow_lt_zpow_iff_right₀ one_lt_two).mp (hbelow.trans_lt hx)
    have hdouble : 2 ^ F.exponentBits = 2 * 2 ^ (F.exponentBits - 1) := by
      rw [← pow_succ', Nat.sub_add_cancel F.he]
    have hpow : 1 ≤ 2 ^ (F.exponentBits - 1) := Nat.one_le_two_pow
    have hcast : ((2 ^ (F.exponentBits - 1) : ℕ) : ℤ) = 2 ^ (F.exponentBits - 1) := by
      push_cast
      rfl
    unfold Overflows Format.exponentBias
    rw [Format.mantissaBits] at hexponent
    omega

theorem targetExponent_totalExponent_le {wide : Format} {mantissa : ℕ} {exponent : ℤ}
    (hbits : F.mantissaBits ≤ wide.mantissaBits) (hmin : wide.minExponent ≤ F.minExponent)
    (hcanonical : exponent = F.targetExponent (totalExponent mantissa exponent)) :
    wide.targetExponent (totalExponent mantissa exponent) ≤ exponent := by
  conv_rhs => rw [hcanonical]
  exact max_le_max (by omega) hmin

/-- A wider format has the floats of a narrower one. -/
theorem nearest_of_denotes {wide : Format} {f : UnpackedFloat} {x : ℚ}
    (hbits : F.mantissaBits ≤ wide.mantissaBits) (hmin : wide.minExponent ≤ F.minExponent)
    (h : Denotes F x f) : wide.nearest x = x := by
  obtain ⟨hfinite, rfl, hcanonical⟩ := h
  cases f with
  | notANumber => cases hfinite
  | infinity sign => cases hfinite
  | zero sign => exact nearest_zero
  | finite sign mantissa exponent hpos =>
    have hexponent : wide.exponentAt (((mantissa : ℤ) : ℚ) * 2 ^ exponent) ≤ exponent := by
      rw [Int.cast_natCast, exponentAt_mul_zpow hpos]
      exact targetExponent_totalExponent_le hbits hmin hcanonical
    have hrounded := Format.rounded_of_mul hexponent
    rw [Int.cast_natCast] at hrounded
    rw [value, ← Sign.signed_rounded (by positivity), hrounded]

theorem magnitude_lt_zpow {sign : Sign} {mantissa bits : ℕ} {exponent bound : ℤ}
    (hmantissa : mantissa < 2 ^ bits) (h : bits + exponent ≤ bound) :
    |sign.signed (mantissa * 2 ^ exponent)| < 2 ^ bound := by
  rw [signed_abs sign (by positivity)]
  refine lt_of_lt_of_le ?_ (zpow_le_zpow_right₀ one_le_two h)
  rw [zpow_add₀ two_ne_zero, zpow_natCast]
  exact mul_lt_mul_of_pos_right (by exact_mod_cast hmantissa) (by positivity)

/-- The numbers of a format are below a power of two. -/
theorem abs_unpack_lt (b : BitVec F.numBits) :
    |(unpack F b).value| < 2 ^ (2 ^ (F.exponentBits - 1) : ℤ) := by
  have hpow : 1 ≤ 2 ^ (F.exponentBits - 1) := Nat.one_le_two_pow
  have hcast : ((2 ^ (F.exponentBits - 1) : ℕ) : ℤ) = 2 ^ (F.exponentBits - 1) := by
    push_cast
    rfl
  have hbias : F.exponentBias = 2 ^ (F.exponentBits - 1) - 1 := rfl
  have hzero : |(0 : ℚ)| < 2 ^ (2 ^ (F.exponentBits - 1) : ℤ) := by
    rw [abs_zero]
    positivity
  fun_cases unpack with
  | case1 => exact hzero
  | case2 => exact hzero
  | case3 => exact hzero
  | case4 mantissa exponentVec exponent signVec sign hspecial hexponent hmantissa =>
    have hvec : exponentVec.toNat = 0 := by
      rw [hexponent]
      exact BitVec.toNat_zero
    exact magnitude_lt_zpow mantissa.isLt (by omega)
  | case5 mantissa exponentVec exponent signVec sign hspecial hexponent =>
    have hdouble : 2 ^ F.exponentBits = 2 * 2 ^ (F.exponentBits - 1) := by
      rw [← pow_succ', Nat.sub_add_cancel F.he]
    have hvec : exponentVec.toNat + 1 < 2 ^ F.exponentBits := by
      have hlt := exponentVec.isLt
      refine lt_of_le_of_ne hlt fun heq => hspecial (BitVec.eq_of_toNat_eq ?_)
      rw [BitVec.neg_one_eq_allOnes, BitVec.toNat_allOnes]
      omega
    have hlength : (1#1 ++ mantissa).toNat < 2 ^ (F.mantissaBitsWithoutImplicit + 1) := by
      have hlt := mantissa.isLt
      rw [normalMantissa_eq, pow_succ]
      omega
    refine magnitude_lt_zpow hlength ?_
    push_cast
    omega

/-- A positive number of a format is not below its smallest power of two. -/
theorem zpow_minExponent_le {f : UnpackedFloat} {x : ℚ} (h : Denotes F x f) (hx : 0 < x) :
    2 ^ F.minExponent ≤ x := by
  obtain ⟨hfinite, rfl, hcanonical⟩ := h
  cases f with
  | notANumber => cases hfinite
  | infinity sign => cases hfinite
  | zero sign => exact absurd hx (lt_irrefl 0)
  | finite sign mantissa exponent hpos =>
    cases sign with
    | negative =>
      have hneg : (0 : ℚ) < mantissa * 2 ^ exponent := by positivity
      exact absurd hx (neg_neg_of_pos hneg).le.not_gt
    | positive =>
      have hmin : F.minExponent ≤ exponent := by
        rw [show exponent = F.targetExponent (totalExponent mantissa exponent) from hcanonical]
        exact le_max_right _ _
      exact (zpow_le_zpow_right₀ one_le_two hmin).trans
        (le_mul_of_one_le_left (by positivity) (Nat.one_le_cast.mpr hpos))

end UnpackedFloat

end Float.Model
