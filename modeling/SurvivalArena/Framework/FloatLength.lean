import SurvivalArena.Framework.FloatPrecision

/-!
# Lengths of float vectors

Sums, squares and square roots of floats as numbers, and how large the length of a vector
with finite coordinates can be.
-/

namespace Float.Model.UnpackedFloat

variable {F : Format}

/-! ## Sums -/

theorem decreaseExponent_value {mantissa : ℕ} {exponent target : ℤ} (h : target ≤ exponent) :
    ((decreaseExponent mantissa exponent target).1 * 2 ^ target : ℚ) =
      mantissa * 2 ^ exponent := by
  obtain ⟨amount, hamount⟩ := Int.eq_ofNat_of_zero_le (sub_nonneg.mpr h)
  have hexponent : exponent = amount + target := by omega
  rw [decreaseExponent, hamount, Int.toNat_natCast, Nat.shiftLeft_eq, hexponent,
    zpow_add₀ two_ne_zero, zpow_natCast]
  push_cast
  ring

theorem apply_cast (sign : Sign) (mantissa : ℕ) (exponent : ℤ) :
    ((sign.apply mantissa : ℤ) * 2 ^ exponent : ℚ) =
      sign.signed (mantissa * 2 ^ exponent) := by
  cases sign <;> simp [Sign.apply, Sign.signed]

/-- Normalizing a whole number of a power of two gives the float nearest to it. -/
theorem normalize_denotes (mantissa exponent : ℤ) (zeroSign : Sign) :
    Denotes F (F.nearest (mantissa * 2 ^ exponent))
      (normalize F mantissa exponent zeroSign) := by
  unfold normalize
  rcases lt_trichotomy mantissa 0 with h | rfl | h
  · rw [compare_lt_iff_lt.mpr h]
    have hnat : ((-mantissa).toNat : ℚ) = -mantissa := by
      exact_mod_cast Int.toNat_of_nonneg (by omega : 0 ≤ -mantissa)
    have hpos : 0 < (-mantissa).toNat := by omega
    have hround : Denotes F _ (round F .negative (-mantissa).toNat exponent) :=
      (round_holds hpos).denotes
    rw [Sign.signed_rounded (by positivity), Sign.signed, hnat, neg_mul, neg_neg] at hround
    exact hround
  · rw [compare_eq_iff_eq.mpr rfl, Int.cast_zero, zero_mul, nearest_zero]
    exact denotes_zero zeroSign
  · rw [compare_gt_iff_gt.mpr h]
    have hnat : (mantissa.toNat : ℚ) = mantissa := by
      exact_mod_cast Int.toNat_of_nonneg h.le
    have hpos : 0 < mantissa.toNat := by omega
    have hround : Denotes F _ (round F .positive mantissa.toNat exponent) :=
      (round_holds hpos).denotes
    rw [Sign.signed_rounded (by positivity), Sign.signed, hnat] at hround
    exact hround

/-- The sum of floats is the float nearest to the sum of their numbers. -/
theorem add_denotes {a b : UnpackedFloat} {x y : ℚ} (ha : Denotes F x a)
    (hb : Denotes F y b) : Denotes F (F.nearest (x + y)) (add F a b) := by
  have hxnearest := nearest_of_denotes le_rfl le_rfl ha
  have hynearest := nearest_of_denotes le_rfl le_rfl hb
  obtain ⟨hafinite, rfl, hacanonical⟩ := ha
  obtain ⟨hbfinite, rfl, hbcanonical⟩ := hb
  cases a with
  | notANumber => cases hafinite
  | infinity sign => cases hafinite
  | zero sign =>
    rw [show value (.zero sign) = 0 from rfl, zero_add, hynearest]
    cases b with
    | notANumber => cases hbfinite
    | infinity sign => cases hbfinite
    | zero other => cases sign <;> cases other <;> exact denotes_zero _
    | finite other mantissa exponent hpos => exact ⟨rfl, rfl, hbcanonical⟩
  | finite s₁ m₁ e₁ h₁ =>
    cases b with
    | notANumber => cases hbfinite
    | infinity sign => cases hbfinite
    | zero sign =>
      rw [show value (.zero sign) = 0 from rfl, add_zero, hxnearest]
      exact ⟨rfl, rfl, hacanonical⟩
    | finite s₂ m₂ e₂ h₂ =>
      have hsum : value (.finite s₁ m₁ e₁ h₁) + value (.finite s₂ m₂ e₂ h₂) =
          ((s₁.apply (decreaseExponent m₁ e₁ (min e₁ e₂)).1 +
            s₂.apply (decreaseExponent m₂ e₂ (min e₁ e₂)).1 : ℤ) : ℚ) * 2 ^ min e₁ e₂ := by
        rw [Int.cast_add, add_mul, apply_cast, apply_cast,
          decreaseExponent_value (min_le_left _ _), decreaseExponent_value (min_le_right _ _)]
        rfl
      rw [hsum]
      exact normalize_denotes _ _ _

/-! ## Products -/

theorem minExponent_nonpos : F.minExponent ≤ 0 := by
  have hpow : 1 ≤ 2 ^ (F.exponentBits - 1) := Nat.one_le_two_pow
  have hcast : ((2 ^ (F.exponentBits - 1) : ℕ) : ℤ) = 2 ^ (F.exponentBits - 1) := by
    push_cast
    rfl
  have hbits := F.hm
  rw [Format.minExponent, Format.mantissaBits]
  omega

/-- The product of two mantissas is long enough to be rounded. -/
theorem product_exponent_le {m₁ m₂ : ℕ} {e₁ e₂ : ℤ} (h₁ : 0 < m₁) (h₂ : 0 < m₂)
    (hc₁ : e₁ = F.targetExponent (totalExponent m₁ e₁))
    (hc₂ : e₂ = F.targetExponent (totalExponent m₂ e₂)) :
    e₁ + e₂ ≤ F.exponentAt (m₁ * 2 ^ e₁ * (m₂ * 2 ^ e₂)) := by
  have hlog : (m₁.log2 + e₁) + (m₂.log2 + e₂) ≤
      Int.log 2 (m₁ * 2 ^ e₁ * (m₂ * 2 ^ e₂) : ℚ) := by
    have hx : (0 : ℚ) < m₁ * 2 ^ e₁ * (m₂ * 2 ^ e₂) := by positivity
    have hfirst : ((2 : ℕ) : ℚ) ^ Int.log 2 ((m₁ : ℚ) * 2 ^ e₁) ≤ m₁ * 2 ^ e₁ :=
      Int.zpow_log_le_self one_lt_two (by positivity)
    have hsecond : ((2 : ℕ) : ℚ) ^ Int.log 2 ((m₂ : ℚ) * 2 ^ e₂) ≤ m₂ * 2 ^ e₂ :=
      Int.zpow_log_le_self one_lt_two (by positivity)
    rw [log_mul_zpow h₁] at hfirst
    rw [log_mul_zpow h₂] at hsecond
    refine (Int.zpow_le_iff_le_log one_lt_two hx).mp ?_
    rw [Nat.cast_two, zpow_add₀ two_ne_zero]
    exact mul_le_mul hfirst hsecond (by positivity) (by positivity)
  have hmin := minExponent_nonpos (F := F)
  rw [Format.targetExponent, totalExponent] at hc₁ hc₂
  rw [Format.exponentAt, Format.targetExponent]
  omega

/-- The product of floats is the float nearest to the product of their numbers. -/
theorem mul_denotes {a b : UnpackedFloat} {x y : ℚ} (ha : Denotes F x a)
    (hb : Denotes F y b) : Denotes F (F.nearest (x * y)) (mul F a b) := by
  obtain ⟨hafinite, rfl, hacanonical⟩ := ha
  obtain ⟨hbfinite, rfl, hbcanonical⟩ := hb
  cases a with
  | notANumber => cases hafinite
  | infinity sign => cases hafinite
  | zero sign =>
    rw [show value (.zero sign) = 0 from rfl, zero_mul, nearest_zero]
    cases b with
    | notANumber => cases hbfinite
    | infinity sign => cases hbfinite
    | zero other => exact denotes_zero _
    | finite other mantissa exponent hpos => exact denotes_zero _
  | finite s₁ m₁ e₁ h₁ =>
    cases b with
    | notANumber => cases hbfinite
    | infinity sign => cases hbfinite
    | zero sign =>
      rw [show value (.zero sign) = 0 from rfl, mul_zero, nearest_zero]
      exact denotes_zero _
    | finite s₂ m₂ e₂ h₂ =>
      have hproduct : value (.finite s₁ m₁ e₁ h₁) * value (.finite s₂ m₂ e₂ h₂) =
          (s₁ * s₂).signed (m₁ * 2 ^ e₁ * (m₂ * 2 ^ e₂)) := by
        cases s₁ <;> cases s₂
        · exact neg_mul_neg _ _
        · exact neg_mul _ _
        · exact mul_neg _ _
        · rfl
      have hexact : Accuracy.exact.Describes (m₁ * m₂)
          (m₁ * 2 ^ e₁ * (m₂ * 2 ^ e₂) / 2 ^ (e₁ + e₂)) := by
        show _ = ((m₁ * m₂ : ℕ) : ℚ)
        rw [zpow_add₀ two_ne_zero]
        field_simp
        push_cast
        rfl
      rw [hproduct, ← Sign.signed_rounded (by positivity)]
      exact (roundWithAccuracy_holds (by positivity) hexact
        (product_exponent_le h₁ h₂ hacanonical hbcanonical)).denotes

/-! ## Square roots -/

/-- The root of a shifted mantissa has as many bits as the format needs. -/
theorem two_pow_le_sqrt {m shift bits : ℕ} (hpos : 0 < m) (h : 2 * bits ≤ m.log2 + shift) :
    2 ^ bits ≤ Nat.sqrt (m <<< shift) := by
  rw [Nat.le_sqrt, ← pow_add, Nat.shiftLeft_eq]
  calc 2 ^ (bits + bits) ≤ 2 ^ (m.log2 + shift) := Nat.pow_le_pow_right two_pos (by omega)
    _ = 2 ^ m.log2 * 2 ^ shift := pow_add _ _ _
    _ ≤ m * 2 ^ shift := Nat.mul_le_mul_right _ (Nat.log2_self_le hpos.ne')

/-- A square root is rounded from a number that is positive and no larger than a power of
two above the root. -/
theorem sqrt_rounds {m : ℕ} {e bound : ℤ} (hpos : 0 < m)
    (hbound : (m * 2 ^ e : ℚ) < 2 ^ (2 * bound)) (he : e ≤ 2 * bound) :
    ∃ x : ℚ, 0 < x ∧ x ≤ 2 ^ bound ∧
      Holds F .positive (F.rounded x) (sqrt F (.finite .positive m e hpos)) := by
  unfold sqrt sqrtCore
  dsimp only
  generalize htarget : min (e.ediv 2) (F.targetExponent ((totalExponent m e + 1).ediv 2)) =
    target
  have hhalf : target ≤ e / 2 := htarget ▸ min_le_left _ _
  have hformat : target ≤ F.targetExponent ((totalExponent m e + 1) / 2) :=
    htarget ▸ min_le_right _ _
  generalize hshift : (e - 2 * target).toNat = shift
  have he' : e = shift + 2 * target := by omega
  generalize hroot : Nat.sqrt (m <<< shift) = root
  have hshifted : 0 < m <<< shift := by
    rw [Nat.shiftLeft_eq]
    positivity
  have hsquare : root * root ≤ m <<< shift := hroot ▸ Nat.sqrt_le _
  have hsmall : (root : ℚ) + 1 ≤ 2 ^ (bound - target) := by
    obtain ⟨bits, hbits⟩ := Int.eq_ofNat_of_zero_le (by omega : 0 ≤ bound - target)
    have hlt : root < 2 ^ bits := by
      rw [← hroot, Nat.sqrt_lt, ← pow_add, Nat.shiftLeft_eq]
      rw [he', zpow_add₀ two_ne_zero, zpow_natCast, ← mul_assoc,
        ← lt_div_iff₀ (by positivity), ← zpow_sub₀ two_ne_zero] at hbound
      rw [show 2 * bound - 2 * target = (bits + bits : ℕ) by push_cast; omega,
        zpow_natCast] at hbound
      exact_mod_cast hbound
    rw [hbits, zpow_natCast]
    exact_mod_cast hlt
  -- the accuracy stands for a number above the root by nothing, a quarter or three quarters
  obtain ⟨part, hpart, hless, hpositive, hdescribes⟩ : ∃ part : ℚ, 0 ≤ part ∧ part < 1 ∧
      0 < root + part ∧ Accuracy.Describes root (root + part)
        (if m <<< shift - root * root = 0 then .exact
          else .inexact (if m <<< shift - root * root ≤ root then .lt else .gt)) := by
    split_ifs with hrest hlow
    · refine ⟨0, le_rfl, one_pos, ?_, add_zero _⟩
      have hrootPos : 0 < root := by
        refine Nat.pos_of_ne_zero fun hzero => ?_
        rw [hzero] at hrest
        omega
      rw [add_zero]
      exact_mod_cast hrootPos
    · refine ⟨1 / 4, by norm_num, by norm_num, by positivity, ?_, ?_⟩ <;> linarith
    · refine ⟨3 / 4, by norm_num, by norm_num, by positivity, ?_, ?_⟩ <;> linarith
  have hscaled : (root + part) * 2 ^ target / 2 ^ target = (root + part : ℚ) :=
    mul_div_cancel_right₀ _ (by positivity)
  refine ⟨(root + part) * 2 ^ target, by positivity, ?_,
    roundWithAccuracy_holds (by positivity) (hscaled.symm ▸ hdescribes) ?_⟩
  · calc ((root + part) * 2 ^ target : ℚ) ≤ 2 ^ (bound - target) * 2 ^ target :=
          mul_le_mul_of_nonneg_right (by linarith) (by positivity)
      _ = 2 ^ bound := by rw [← zpow_add₀ two_ne_zero, sub_add_cancel]
  · by_cases hlarge : target ≤ (totalExponent m e + 1) / 2 - 1
    · obtain ⟨bits, hbits⟩ := Int.eq_ofNat_of_zero_le (sub_nonneg.mpr hlarge)
      have hlong : 2 ^ bits ≤ root := by
        rw [← hroot]
        refine two_pow_le_sqrt hpos ?_
        rw [totalExponent] at hbits
        omega
      have hbelow : (2 : ℚ) ^ ((totalExponent m e + 1) / 2 - 1) ≤ (root + part) * 2 ^ target := by
        rw [show (totalExponent m e + 1) / 2 - 1 = bits + target by omega,
          zpow_add₀ two_ne_zero, zpow_natCast]
        refine mul_le_mul_of_nonneg_right ?_ (by positivity)
        have hcast : (2 : ℚ) ^ bits ≤ root := by exact_mod_cast hlong
        linarith
      have hlog := (Int.zpow_le_iff_le_log one_lt_two (by positivity)).mp hbelow
      exact hformat.trans (Format.targetExponent_mono (by omega))
    · refine le_trans ?_ (Format.minExponent_le_exponentAt _)
      rw [Format.targetExponent] at hformat
      have hbits := Format.one_le_mantissaBits (F := F)
      omega

end Float.Model.UnpackedFloat

open Float.Model UnpackedFloat

namespace Float32

variable {a b : Float32}

/-! ## Single-precision floats -/

theorem lt_iff (ha : a.isFinite = true) (hb : b.isFinite = true) : a < b ↔ a.value < b.value := by
  refine Iff.trans ?_ (lt_denotes (denotes ha) (denotes hb))
  exact decide_eq_true_iff

/-- A result that is small enough is what the operation rounds to. -/
theorem unpack_of_denotes {f : Float32} {unpacked : UnpackedFloat} {x : ℚ}
    (hf : f.toModel.unpack = unpack .binary32 (UnpackedFloat.pack .binary32 unpacked))
    (h : Denotes .binary32 x unpacked) (hx : |x| < 2 ^ (105 : ℤ)) :
    f.isFinite = true ∧ f.value = x := by
  have hfits : ¬ Overflows .binary32 unpacked := not_overflows h hx
  rw [unpack_pack h.canonical hfits] at hf
  constructor
  · show f.toModel.unpack.isFinite = true
    rw [hf]
    exact h.isFinite
  · show f.toModel.unpack.value = x
    rw [hf]
    exact h.value

theorem unpack_of_isFinite {f : Float32} {unpacked : UnpackedFloat}
    (hf : f.toModel.unpack = unpack .binary32 (UnpackedFloat.pack .binary32 unpacked))
    (h : unpacked.isFinite = true → unpacked.Canonical .binary32) (hfinite : f.isFinite = true) :
    f.toModel.unpack = unpacked := by
  have hcanonical : unpacked.Canonical .binary32 := by
    cases hkind : unpacked.isFinite with
    | false => exact canonical_of_not_isFinite hkind
    | true => exact h hkind
  have hunpack : (unpack .binary32 (UnpackedFloat.pack .binary32 unpacked)).isFinite = true :=
    hf ▸ hfinite
  rw [hf]
  exact unpack_pack_of_isFinite hcanonical hunpack

/-- A finite sum has finite summands. -/
theorem isFinite_of_add (h : (a + b).isFinite = true) :
    a.isFinite = true ∧ b.isFinite = true ∧
      (a + b).value = Format.binary32.nearest (a.value + b.value) := by
  have hoperands : (UnpackedFloat.add .binary32 a.toModel.unpack b.toModel.unpack).isFinite =
      true → a.isFinite = true ∧ b.isFinite = true := by
    show _ → a.toModel.unpack.isFinite = true ∧ b.toModel.unpack.isFinite = true
    intro hadd
    cases ha : a.toModel.unpack <;> cases hb : b.toModel.unpack <;> rw [ha, hb] at hadd <;>
      simp_all [UnpackedFloat.add, UnpackedFloat.isFinite]
    -- infinities add up to one of them or to no number
    next s₁ s₂ => cases s₁ <;> cases s₂ <;> exact Bool.false_ne_true hadd
  have hunpack : (a + b).toModel.unpack =
      UnpackedFloat.add .binary32 a.toModel.unpack b.toModel.unpack := by
    refine unpack_of_isFinite rfl (fun hfinite => ?_) h
    obtain ⟨ha, hb⟩ := hoperands hfinite
    exact (add_denotes (denotes ha) (denotes hb)).canonical
  have hfinite : (UnpackedFloat.add .binary32 a.toModel.unpack b.toModel.unpack).isFinite =
      true := hunpack ▸ h
  obtain ⟨ha, hb⟩ := hoperands hfinite
  refine ⟨ha, hb, ?_⟩
  show (a + b).toModel.unpack.value = _
  rw [hunpack]
  exact (add_denotes (denotes ha) (denotes hb)).value

/-- A finite square is not negative. -/
theorem value_square (h : (a * a).isFinite = true) : 0 ≤ (a * a).value := by
  have hoperand : (UnpackedFloat.mul .binary32 a.toModel.unpack a.toModel.unpack).isFinite =
      true → a.isFinite = true := by
    show _ → a.toModel.unpack.isFinite = true
    intro hmul
    cases ha : a.toModel.unpack <;> rw [ha] at hmul <;>
      simp_all [UnpackedFloat.mul, UnpackedFloat.isFinite]
  have hunpack : (a * a).toModel.unpack =
      UnpackedFloat.mul .binary32 a.toModel.unpack a.toModel.unpack := by
    refine unpack_of_isFinite rfl (fun hfinite => ?_) h
    have ha := hoperand hfinite
    exact (mul_denotes (denotes ha) (denotes ha)).canonical
  have hfinite : (UnpackedFloat.mul .binary32 a.toModel.unpack a.toModel.unpack).isFinite =
      true := hunpack ▸ h
  have ha := hoperand hfinite
  show 0 ≤ (a * a).toModel.unpack.value
  rw [hunpack, (mul_denotes (denotes ha) (denotes ha)).value]
  calc (0 : ℚ) = Format.binary32.nearest 0 := nearest_zero.symm
    _ ≤ Format.binary32.nearest (a.value * a.value) :=
        Format.nearest_mono (mul_self_nonneg _)

/-- The root of a number that is not negative is one, and less than `2 ^ 64`. -/
theorem sqrt_bounds (h : a.isFinite = true) (hpos : 0 ≤ a.value) :
    a.sqrt.isFinite = true ∧ 0 ≤ a.sqrt.value ∧ a.sqrt.value ≤ 2 ^ (64 : ℤ) := by
  have hlarge := (abs_lt.mp (abs_value_lt a)).2
  have hcanonical : a.toModel.unpack.Canonical .binary32 := unpack_canonical _
  obtain ⟨x, hx, hxle, hdenotes⟩ : ∃ x : ℚ, 0 ≤ x ∧ x ≤ 2 ^ (64 : ℤ) ∧
      Denotes .binary32 (Format.binary32.nearest x)
        (UnpackedFloat.sqrt .binary32 a.toModel.unpack) := by
    unfold isFinite at h
    unfold value at hpos hlarge
    change a.toModel.unpack.isFinite = true at h
    generalize a.toModel.unpack = unpacked at h hpos hlarge hcanonical
    cases unpacked with
    | notANumber => cases h
    | infinity sign => cases h
    | zero sign =>
      refine ⟨0, le_rfl, by positivity, ?_⟩
      rw [nearest_zero]
      exact denotes_zero sign
    | finite sign mantissa exponent hmantissa =>
      cases sign with
      | negative =>
        have hneg : -((mantissa : ℚ) * 2 ^ exponent) < 0 :=
          neg_neg_of_pos (by positivity)
        exact absurd hpos hneg.not_ge
      | positive =>
        have hvalue : (mantissa * 2 ^ exponent : ℚ) < 2 ^ (2 * (64 : ℤ)) := hlarge
        have hexponent : exponent ≤ 2 * (64 : ℤ) := by
          by_contra hbig
          refine hvalue.not_ge ?_
          calc (2 ^ (2 * (64 : ℤ)) : ℚ) ≤ 2 ^ exponent :=
                zpow_le_zpow_right₀ one_le_two (by omega)
            _ ≤ mantissa * 2 ^ exponent := by
                refine le_mul_of_one_le_left (by positivity) ?_
                exact_mod_cast hmantissa
        obtain ⟨x, hx, hxle, hholds⟩ := sqrt_rounds (F := .binary32) hmantissa hvalue hexponent
        refine ⟨x, hx.le, hxle, ?_⟩
        rw [Format.nearest_of_nonneg hx.le]
        exact hholds.denotes
  have hlow : 0 ≤ Format.binary32.nearest x := by
    rw [← nearest_zero (F := .binary32)]
    exact Format.nearest_mono hx
  have hhigh : Format.binary32.nearest x ≤ 2 ^ (64 : ℤ) := by
    rw [← Format.nearest_zpow (by decide : Format.binary32.minExponent ≤ 64)]
    exact Format.nearest_mono hxle
  have hfits : |Format.binary32.nearest x| < 2 ^ (105 : ℤ) := by
    rw [abs_of_nonneg hlow]
    exact hhigh.trans_lt (zpow_lt_zpow_right₀ one_lt_two (by decide))
  obtain ⟨hfinite, hvalue⟩ := unpack_of_denotes (f := a.sqrt) rfl hdenotes hfits
  rw [hvalue]
  exact ⟨hfinite, hlow, hhigh⟩

/-- The length of a vector, where its square is a number. -/
theorem isFinite_length (h : (a * a + b * b).isFinite = true) :
    (a * a + b * b).sqrt.isFinite = true := by
  obtain ⟨ha, hb, hvalue⟩ := isFinite_of_add h
  have hnonneg : 0 ≤ (a * a + b * b).value := by
    rw [hvalue, ← nearest_zero (F := .binary32)]
    exact Format.nearest_mono (add_nonneg (value_square ha) (value_square hb))
  exact (sqrt_bounds h hnonneg).1

end Float32
