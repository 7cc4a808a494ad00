import SurvivalArena.Framework.Numerals

/-!
# Rounding of floats

The number that a float denotes, and the rounding of Lean's floats as a function on
numbers: it keeps the order, and what it gives is the nearest float unless that is too
large for the format.
-/

/-- The integer nearest to a number, ties to even. -/
def nearestEven (x : ℚ) : ℤ :=
  if Int.fract x < 1 / 2 then ⌊x⌋
  else if Int.fract x = 1 / 2 then ⌊x⌋ + ⌊x⌋ % 2
  else ⌊x⌋ + 1

theorem floor_le_nearestEven (x : ℚ) : ⌊x⌋ ≤ nearestEven x := by
  unfold nearestEven
  split_ifs <;> omega

theorem nearestEven_le_floor (x : ℚ) : nearestEven x ≤ ⌊x⌋ + 1 := by
  unfold nearestEven
  split_ifs <;> omega

theorem nearestEven_mono : Monotone nearestEven := by
  intro x y hxy
  rcases (Int.floor_mono hxy).lt_or_eq with hlt | heq
  · have hx := nearestEven_le_floor x
    have hy := floor_le_nearestEven y
    omega
  · have hfract : Int.fract x ≤ Int.fract y := by
      have hx := Int.floor_add_fract x
      have hy := Int.floor_add_fract y
      have hcast : (⌊x⌋ : ℚ) = ⌊y⌋ := congrArg Int.cast heq
      linarith
    have hx : Int.fract x < 1 / 2 ∨ Int.fract x = 1 / 2 ∨ 1 / 2 < Int.fract x :=
      lt_trichotomy _ _
    unfold nearestEven
    rw [heq]
    split_ifs <;>
      first | omega | (exfalso; rcases hx with hx | hx | hx <;> first | contradiction | linarith)

@[simp]
theorem nearestEven_intCast (n : ℤ) : nearestEven n = n := by
  have hfract : Int.fract (n : ℚ) < 1 / 2 := by
    rw [Int.fract_intCast]
    norm_num
  rw [nearestEven, if_pos hfract, Int.floor_intCast]

theorem nearestEven_of_floor {x : ℚ} {n : ℤ} (h : ⌊x⌋ = n) :
    nearestEven x = if x - n < 1 / 2 then n else if x - n = 1 / 2 then n + n % 2 else n + 1 := by
  rw [nearestEven, Int.fract, h]

namespace Float.Model

/-! ## Rounding as a function on numbers -/

namespace Format

variable (F : Format)

/-- The exponent of the floats around a positive number. -/
def exponentAt (x : ℚ) : ℤ := F.targetExponent (Int.log 2 x + 1)

/-- The float nearest to a number that is not negative, were there no largest. -/
def rounded (x : ℚ) : ℚ :=
  nearestEven (x / 2 ^ F.exponentAt x) * 2 ^ F.exponentAt x

variable {F}

theorem targetExponent_mono : Monotone F.targetExponent := by
  intro first second h
  exact max_le_max_right _ (by omega)

theorem exponentAt_mono {x y : ℚ} (hx : 0 < x) (hxy : x ≤ y) :
    F.exponentAt x ≤ F.exponentAt y :=
  targetExponent_mono (by
    have hlog : Int.log 2 x ≤ Int.log 2 y := Int.log_mono_right hx hxy
    omega)

theorem minExponent_le_exponentAt (x : ℚ) : F.minExponent ≤ F.exponentAt x :=
  le_max_right _ _

/-- A number is below the power of two that a whole mantissa makes. -/
theorem lt_zpow_exponentAt (x : ℚ) :
    x < 2 ^ (F.exponentAt x + F.mantissaBits) := by
  have hlog : x < (2 : ℕ) ^ (Int.log 2 x + 1) := Int.lt_zpow_succ_log_self one_lt_two x
  refine hlog.trans_le (zpow_le_zpow_right₀ one_le_two ?_)
  have htarget : Int.log 2 x + 1 - F.mantissaBits ≤ F.exponentAt x := le_max_left _ _
  omega

theorem div_lt_mantissa (x : ℚ) :
    x / 2 ^ F.exponentAt x < 2 ^ F.mantissaBits := by
  rw [div_lt_iff₀ (by positivity), ← zpow_natCast, ← zpow_add₀ two_ne_zero, add_comm]
  exact lt_zpow_exponentAt x

theorem rounded_nonneg {x : ℚ} (hx : 0 ≤ x) : 0 ≤ F.rounded x := by
  have hnearest : nearestEven 0 ≤ nearestEven (x / 2 ^ F.exponentAt x) :=
    nearestEven_mono (by positivity)
  rw [show (0 : ℚ) = (0 : ℤ) from rfl, nearestEven_intCast] at hnearest
  exact mul_nonneg (Int.cast_nonneg hnearest) (by positivity)

/-- A multiple of a power of two is one of every smaller power. -/
theorem exists_mul_zpow {exponent target : ℤ} (h : target ≤ exponent) (n : ℤ) :
    ∃ multiple : ℤ, (n : ℚ) * 2 ^ exponent = multiple * 2 ^ target := by
  obtain ⟨shift, hshift⟩ := Int.eq_ofNat_of_zero_le (sub_nonneg.mpr h)
  refine ⟨n * 2 ^ shift, ?_⟩
  push_cast
  rw [mul_assoc, ← zpow_natCast, ← zpow_add₀ two_ne_zero]
  congr 2
  omega

/-- What lies below a number on the grid of the floats around it lies below the float. -/
theorem le_rounded {x : ℚ} {n exponent : ℤ} (h : F.exponentAt x ≤ exponent)
    (hx : n * 2 ^ exponent ≤ x) : n * 2 ^ exponent ≤ F.rounded x := by
  obtain ⟨multiple, hmultiple⟩ := exists_mul_zpow h n
  rw [hmultiple] at hx ⊢
  have hnearest := nearestEven_mono ((le_div_iff₀ (by positivity)).mpr hx)
  rw [nearestEven_intCast] at hnearest
  exact mul_le_mul_of_nonneg_right (Int.cast_le.mpr hnearest) (by positivity)

theorem rounded_le {x : ℚ} {n exponent : ℤ} (h : F.exponentAt x ≤ exponent)
    (hx : x ≤ n * 2 ^ exponent) : F.rounded x ≤ n * 2 ^ exponent := by
  obtain ⟨multiple, hmultiple⟩ := exists_mul_zpow h n
  rw [hmultiple] at hx ⊢
  have hnearest := nearestEven_mono ((div_le_iff₀ (by positivity)).mpr hx)
  rw [nearestEven_intCast] at hnearest
  exact mul_le_mul_of_nonneg_right (Int.cast_le.mpr hnearest) (by positivity)

/-- A number on the grid of the floats around it is a float. -/
theorem rounded_of_mul {n exponent : ℤ}
    (h : F.exponentAt (n * 2 ^ exponent) ≤ exponent) :
    F.rounded (n * 2 ^ exponent) = n * 2 ^ exponent :=
  le_antisymm (rounded_le h le_rfl) (le_rounded h le_rfl)

theorem rounded_zero : F.rounded 0 = 0 := by
  rw [rounded, zero_div, show (0 : ℚ) = (0 : ℤ) from rfl, nearestEven_intCast]
  exact zero_mul _

theorem one_le_mantissaBits : 1 ≤ F.mantissaBits :=
  Nat.le_add_right 1 _

/-- Above the smallest floats the mantissa is whole. -/
theorem half_le_div {x : ℚ} (hx : 0 < x) :
    F.exponentAt x = F.minExponent ∨
      2 ^ (F.mantissaBits - 1) ≤ x / 2 ^ F.exponentAt x := by
  have hbits := one_le_mantissaBits (F := F)
  rcases max_choice (Int.log 2 x + 1 - F.mantissaBits) F.minExponent with h | h
  · right
    have hexponent : F.exponentAt x = Int.log 2 x + 1 - F.mantissaBits := h
    have hlog : ((2 : ℕ) : ℚ) ^ Int.log 2 x ≤ x := Int.zpow_log_le_self one_lt_two hx
    rw [le_div_iff₀ (by positivity), ← zpow_natCast, ← zpow_add₀ two_ne_zero, hexponent]
    refine le_trans (le_of_eq ?_) hlog
    rw [Nat.cast_two]
    congr 1
    omega
  · exact .inl h

theorem rounded_mono {x y : ℚ} (hx : 0 ≤ x) (hxy : x ≤ y) :
    F.rounded x ≤ F.rounded y := by
  rcases hx.eq_or_lt with rfl | hpos
  · rw [rounded_zero]
    exact rounded_nonneg hxy
  rcases (exponentAt_mono (F := F) hpos hxy).eq_or_lt with heq | hlt
  · unfold rounded
    rw [heq]
    have hnearest : nearestEven (x / 2 ^ F.exponentAt y) ≤
        nearestEven (y / 2 ^ F.exponentAt y) :=
      nearestEven_mono (div_le_div_of_nonneg_right hxy (by positivity))
    exact mul_le_mul_of_nonneg_right (Int.cast_le.mpr hnearest) (by positivity)
  · -- a power of two lies between the numbers, on the grid of the floats around either
    have hbits := one_le_mantissaBits (F := F)
    have hgrid : F.exponentAt y ≤ Int.log 2 y := by
      have hmin : F.minExponent ≤ F.exponentAt x := minExponent_le_exponentAt x
      have hmax : F.exponentAt y ≤
          max (Int.log 2 y + 1 - F.mantissaBits) F.minExponent := le_rfl
      rcases le_max_iff.mp hmax with h | h <;> omega
    have hbelow : x ≤ (1 : ℤ) * 2 ^ Int.log 2 y := by
      have hlog : Int.log 2 x < Int.log 2 y := by
        by_contra hge
        exact absurd (targetExponent_mono (F := F) (by omega) :
          F.targetExponent (Int.log 2 y + 1) ≤ F.targetExponent (Int.log 2 x + 1))
          (not_le.mpr hlt)
      rw [Int.cast_one, one_mul]
      exact ((Int.lt_zpow_iff_log_lt one_lt_two hpos).mpr hlog).le
    have habove : (1 : ℤ) * 2 ^ Int.log 2 y ≤ y := by
      rw [Int.cast_one, one_mul]
      exact Int.zpow_log_le_self one_lt_two (hpos.trans_le hxy)
    exact (rounded_le (hlt.le.trans hgrid) hbelow).trans (le_rounded hgrid habove)

end Format

namespace UnpackedFloat

/-! ## The number that a float denotes -/

namespace Sign

/-- A number with a sign. -/
def signed : Sign → ℚ → ℚ
  | .positive, x => x
  | .negative, x => -x

end Sign

/-- The number that a finite float denotes. -/
def value : UnpackedFloat → ℚ
  | .finite sign mantissa exponent _ => sign.signed (mantissa * 2 ^ exponent)
  | _ => 0

/-- The exponent of a finite float is the one of its format. -/
def Canonical (F : Format) : UnpackedFloat → Prop
  | .finite _ mantissa exponent _ =>
    exponent = F.targetExponent (totalExponent mantissa exponent)
  | _ => True

/-! ## Mantissas -/

/-- The accuracy of a mantissa next to a number. -/
def Accuracy.Describes (mantissa : ℕ) (x : ℚ) : Accuracy → Prop
  | .exact => x = mantissa
  | .inexact .lt => mantissa < x ∧ x < mantissa + 1 / 2
  | .inexact .eq => x = mantissa + 1 / 2
  | .inexact .gt => mantissa + 1 / 2 < x ∧ x < mantissa + 1

namespace ExtendedMantissa

def Describes (em : ExtendedMantissa) (x : ℚ) : Prop :=
  em.accuracy.Describes em.mantissa x

theorem describes_ofMantissaAndAccuracy {mantissa : ℕ} {accuracy : Accuracy} {x : ℚ}
    (h : accuracy.Describes mantissa x) :
    (ofMantissaAndAccuracy mantissa accuracy).Describes x := by
  rcases accuracy with _ | _ | _ | _ <;> exact h

theorem shiftRightOne_describes {em : ExtendedMantissa} {x : ℚ} (h : em.Describes x) :
    em.shiftRightOne.Describes (x / 2) := by
  obtain ⟨mantissa, roundBit, stickyBit⟩ := em
  have hsplit : (mantissa : ℚ) = 2 * (mantissa / 2 : ℕ) + (mantissa % 2 : ℕ) := by
    exact_mod_cast (Nat.div_add_mod mantissa 2).symm
  rcases Nat.mod_two_eq_zero_or_one mantissa with hbit | hbit <;>
  cases roundBit <;> cases stickyBit <;>
    simp [Describes, shiftRightOne, accuracy, Accuracy.Describes, hbit] at h hsplit ⊢ <;>
    first
    | linarith
    | exact ⟨by linarith, by linarith⟩

theorem shiftRight_describes {em : ExtendedMantissa} {x : ℚ} (h : em.Describes x)
    (amount : ℕ) : (em >>> amount).Describes (x / 2 ^ amount) := by
  induction amount with
  | zero =>
    rw [pow_zero, div_one]
    exact h
  | succ amount ih =>
    rw [pow_succ, ← div_div]
    exact shiftRightOne_describes ih

theorem Describes.floor {em : ExtendedMantissa} {x : ℚ} (h : em.Describes x) :
    ⌊x⌋ = em.mantissa := by
  obtain ⟨mantissa, roundBit, stickyBit⟩ := em
  rw [Int.floor_eq_iff]
  cases roundBit <;> cases stickyBit <;>
    simp [Describes, accuracy, Accuracy.Describes] at h ⊢ <;>
    exact ⟨by linarith, by linarith⟩

/-- The rounded mantissa is the integer nearest to what the mantissa describes. -/
theorem Describes.roundedMantissa {em : ExtendedMantissa} {x : ℚ} (h : em.Describes x) :
    (em.roundedMantissa : ℤ) = nearestEven x := by
  have hfloor := h.floor
  obtain ⟨mantissa, roundBit, stickyBit⟩ := em
  have hfloor : ⌊x⌋ = (mantissa : ℤ) := hfloor
  rw [nearestEven_of_floor hfloor, Int.cast_natCast]
  match roundBit, stickyBit, h with
  | false, false, h =>
    have h : x = mantissa := h
    rw [if_pos (by linarith)]
    rfl
  | false, true, h =>
    have h : mantissa < x ∧ x < mantissa + 1 / 2 := h
    rw [if_pos (by linarith)]
    rfl
  | true, false, h =>
    have h : x = mantissa + 1 / 2 := h
    rw [if_neg (by linarith), if_pos (by linarith)]
    rfl
  | true, true, h =>
    have h : mantissa + 1 / 2 < x ∧ x < mantissa + 1 := h
    rw [if_neg (by linarith), if_neg (by intro heq; linarith)]
    rfl

end ExtendedMantissa

/-! ## Rounding a float -/

variable {F : Format}

theorem log_of_floor {mantissa : ℕ} (hpos : 0 < mantissa) {exponent : ℤ} {x : ℚ}
    (hlow : mantissa * 2 ^ exponent ≤ x) (hhigh : x < (mantissa + 1) * 2 ^ exponent) :
    Int.log 2 x = mantissa.log2 + exponent := by
  have hmantissa : (0 : ℚ) < mantissa := Nat.cast_pos.mpr hpos
  have hx : 0 < x := lt_of_lt_of_le (by positivity) hlow
  have hself : (2 : ℚ) ^ mantissa.log2 ≤ mantissa := by
    exact_mod_cast Nat.log2_self_le hpos.ne'
  have hnext : (mantissa : ℚ) + 1 ≤ 2 ^ (mantissa.log2 + 1) := by
    exact_mod_cast Nat.lt_log2_self (n := mantissa)
  have hbelow : (2 : ℚ) ^ ((mantissa.log2 : ℤ) + exponent) ≤ x := by
    rw [zpow_add₀ two_ne_zero, zpow_natCast]
    exact (mul_le_mul_of_nonneg_right hself (by positivity)).trans hlow
  have habove : x < (2 : ℚ) ^ ((mantissa.log2 : ℤ) + exponent + 1) := by
    rw [show (mantissa.log2 : ℤ) + exponent + 1 = (mantissa.log2 + 1 : ℕ) + exponent by omega,
      zpow_add₀ two_ne_zero, zpow_natCast]
    exact hhigh.trans_le (mul_le_mul_of_nonneg_right hnext (by positivity))
  have hge := (Int.zpow_le_iff_le_log one_lt_two hx).mp hbelow
  have hle := (Int.lt_zpow_iff_log_lt one_lt_two hx).mp habove
  omega

theorem log_mul_zpow {mantissa : ℕ} (hpos : 0 < mantissa) (exponent : ℤ) :
    Int.log 2 ((mantissa : ℚ) * 2 ^ exponent) = mantissa.log2 + exponent :=
  log_of_floor hpos le_rfl (mul_lt_mul_of_pos_right (lt_add_one _) (by positivity))

theorem exponentAt_mul_zpow {mantissa : ℕ} (hpos : 0 < mantissa) (exponent : ℤ) :
    F.exponentAt (mantissa * 2 ^ exponent) =
      F.targetExponent (totalExponent mantissa exponent) := by
  rw [Format.exponentAt, log_mul_zpow hpos, totalExponent]
  congr 1
  omega

/-- The exponent that a mantissa with an accuracy is shifted to. -/
theorem targetExponent_of_floor {mantissa : ℕ} {exponent : ℤ} {x : ℚ} (hx : 0 < x)
    (hfloor : ⌊x / 2 ^ exponent⌋ = mantissa) (hexponent : exponent ≤ F.exponentAt x) :
    F.targetExponent (totalExponent mantissa exponent) = F.exponentAt x := by
  obtain ⟨hlow, hhigh⟩ := Int.floor_eq_iff.mp hfloor
  rw [Int.cast_natCast, le_div_iff₀ (by positivity)] at hlow
  rw [Int.cast_natCast, div_lt_iff₀ (by positivity)] at hhigh
  rcases Nat.eq_zero_or_pos mantissa with rfl | hpos
  · -- the number is below the least mantissa, so its exponent is the smallest one
    rw [Nat.cast_zero, zero_add, one_mul] at hhigh
    have hlog := (Int.lt_zpow_iff_log_lt one_lt_two hx).mp hhigh
    have hbits := Format.one_le_mantissaBits (F := F)
    have hmin : F.exponentAt x = F.minExponent := by
      refine max_eq_right ?_
      by_contra hlarge
      have hmax : F.exponentAt x = Int.log 2 x + 1 - F.mantissaBits :=
        max_eq_left (not_le.mp hlarge).le
      omega
    rw [hmin] at hexponent ⊢
    refine max_eq_right ?_
    rw [totalExponent, Nat.log2_zero]
    omega
  · rw [Format.exponentAt, log_of_floor hpos hlow hhigh, totalExponent]
    congr 1
    omega

theorem shiftToExponent_describes {mantissa : ℕ} {exponent target : ℤ} {accuracy : Accuracy}
    {x : ℚ} (h : accuracy.Describes mantissa (x / 2 ^ exponent)) (hle : exponent ≤ target) :
    (shiftToExponent mantissa exponent accuracy target).1.Describes (x / 2 ^ target) ∧
      (shiftToExponent mantissa exponent accuracy target).2 = target := by
  obtain ⟨amount, hamount⟩ := Int.eq_ofNat_of_zero_le (sub_nonneg.mpr hle)
  have htarget : target = exponent + amount := by omega
  unfold shiftToExponent
  rw [hamount, htarget, zpow_add₀ two_ne_zero, zpow_natCast, ← div_div]
  exact ⟨ExtendedMantissa.shiftRight_describes
    (ExtendedMantissa.describes_ofMantissaAndAccuracy h) amount, rfl⟩

theorem shiftToExponent_of_le {mantissa : ℕ} {exponent target : ℤ} (h : target ≤ exponent) :
    shiftToExponent mantissa exponent .exact target =
      (ExtendedMantissa.mk mantissa false false, exponent) := by
  have hamount : (target - exponent).toNat = 0 := by omega
  rw [shiftToExponent, hamount]
  exact Prod.ext rfl (add_zero exponent)

/-- A rounded mantissa that has become too long is a power of two. -/
theorem shift_rounded {mantissa : ℕ} {exponent : ℤ} (hmin : F.minExponent ≤ exponent)
    (hle : mantissa ≤ 2 ^ F.mantissaBits)
    (hshort : exponent = F.minExponent ∨ 2 ^ (F.mantissaBits - 1) ≤ mantissa) :
    ∃ final target,
      shiftToTargetExponent F mantissa exponent .exact =
        (ExtendedMantissa.mk final false false, target) ∧
      (final * 2 ^ target : ℚ) = mantissa * 2 ^ exponent ∧
      (0 < final → target = F.targetExponent (totalExponent final target)) := by
  have hbits := Format.one_le_mantissaBits (F := F)
  unfold shiftToTargetExponent
  rcases hle.lt_or_eq with hlt | rfl
  · have hlog : mantissa = 0 ∨ mantissa.log2 < F.mantissaBits := by
      rcases Nat.eq_zero_or_pos mantissa with h | h
      · exact .inl h
      · exact .inr ((Nat.log2_lt h.ne').mpr hlt)
    have htarget : F.targetExponent (totalExponent mantissa exponent) ≤ exponent := by
      refine max_le ?_ hmin
      rw [totalExponent]
      rcases hlog with rfl | hlog
      · rw [Nat.log2_zero]
        omega
      · omega
    refine ⟨mantissa, exponent, shiftToExponent_of_le htarget, rfl, fun hpos => ?_⟩
    refine le_antisymm ?_ htarget
    rcases hshort with hshort | hshort
    · exact hshort ▸ le_max_right _ _
    · have hself : F.mantissaBits - 1 ≤ mantissa.log2 :=
        (Nat.le_log2 hpos.ne').mpr hshort
      refine le_max_of_le_left ?_
      rw [totalExponent]
      omega
  · have htotal : totalExponent (2 ^ F.mantissaBits) exponent =
        exponent + 1 + F.mantissaBits := by
      rw [totalExponent, Nat.log2_two_pow]
      omega
    have htarget : F.targetExponent (exponent + 1 + F.mantissaBits) = exponent + 1 := by
      rw [Format.targetExponent, add_sub_cancel_right]
      exact max_eq_left (by omega)
    have hhalf : 2 ^ F.mantissaBits / 2 = 2 ^ (F.mantissaBits - 1) := by
      rw [← Nat.pow_div hbits two_pos, pow_one]
    have hdouble : 2 ^ F.mantissaBits = 2 * 2 ^ (F.mantissaBits - 1) := by
      rw [← pow_succ', Nat.sub_add_cancel hbits]
    have hamount : (exponent + 1 - exponent).toNat = 1 := by omega
    refine ⟨2 ^ (F.mantissaBits - 1), exponent + 1, ?_, ?_, fun _ => ?_⟩
    · rw [htotal, htarget, shiftToExponent, hamount]
      refine Prod.ext ?_ rfl
      show ExtendedMantissa.shiftRightOne (.mk (2 ^ F.mantissaBits) false false) = _
      unfold ExtendedMantissa.shiftRightOne
      dsimp only
      rw [hhalf, hdouble, Nat.mul_mod_right]
      rfl
    · push_cast
      rw [zpow_add_one₀ two_ne_zero, ← mul_assoc, mul_right_comm, ← pow_succ,
        Nat.sub_add_cancel hbits]
    · rw [totalExponent, Nat.log2_two_pow]
      rw [Format.targetExponent]
      rw [max_eq_left (by omega)]
      omega

/-- A canonical float with a sign and a magnitude. -/
inductive Holds (F : Format) (sign : Sign) (magnitude : ℚ) : UnpackedFloat → Prop
  | zero (h : magnitude = 0) : Holds F sign magnitude (.zero sign)
  | finite {mantissa : ℕ} {exponent : ℤ} (hpos : 0 < mantissa)
      (hvalue : mantissa * 2 ^ exponent = magnitude)
      (hcanonical : exponent = F.targetExponent (totalExponent mantissa exponent)) :
      Holds F sign magnitude (.finite sign mantissa exponent hpos)

theorem Sign.signed_zero (sign : Sign) : sign.signed 0 = 0 := by
  cases sign <;> rfl

theorem Holds.value {sign : Sign} {magnitude : ℚ} {f : UnpackedFloat}
    (h : Holds F sign magnitude f) : f.value = sign.signed magnitude := by
  cases h with
  | zero h =>
    rw [h, Sign.signed_zero]
    rfl
  | finite hpos hvalue hcanonical => rw [← hvalue, UnpackedFloat.value]

theorem Holds.canonical {sign : Sign} {magnitude : ℚ} {f : UnpackedFloat}
    (h : Holds F sign magnitude f) : f.Canonical F := by
  cases h with
  | zero h => trivial
  | finite hpos hvalue hcanonical => exact hcanonical

theorem roundWithAccuracy_holds {sign : Sign} {mantissa : ℕ} {exponent : ℤ}
    {accuracy : Accuracy} {x : ℚ} (hx : 0 < x)
    (h : accuracy.Describes mantissa (x / 2 ^ exponent))
    (hexponent : exponent ≤ F.exponentAt x) :
    Holds F sign (F.rounded x)
      (roundWithAccuracy F sign mantissa exponent accuracy) := by
  have hfloor : ⌊x / 2 ^ exponent⌋ = mantissa := by
    have hfloor := (ExtendedMantissa.describes_ofMantissaAndAccuracy h).floor
    rw [hfloor]
    rcases accuracy with _ | _ | _ | _ <;> rfl
  obtain ⟨hdescribes, hsecond⟩ := shiftToExponent_describes h hexponent
  have hnearest := hdescribes.roundedMantissa
  have hbound : (shiftToExponent mantissa exponent accuracy
      (F.exponentAt x)).1.roundedMantissa ≤ 2 ^ F.mantissaBits := by
    have hmono := nearestEven_mono (Format.div_lt_mantissa (F := F) x).le
    rw [← hnearest, show (2 : ℚ) ^ F.mantissaBits = ((2 ^ F.mantissaBits : ℕ) : ℤ) by
      push_cast; rfl, nearestEven_intCast] at hmono
    exact_mod_cast hmono
  have hshort : F.exponentAt x = F.minExponent ∨
      2 ^ (F.mantissaBits - 1) ≤ (shiftToExponent mantissa exponent accuracy
        (F.exponentAt x)).1.roundedMantissa := by
    refine (Format.half_le_div hx).imp_right fun hhalf => ?_
    have hmono := nearestEven_mono hhalf
    rw [← hnearest, show (2 : ℚ) ^ (F.mantissaBits - 1) =
      ((2 ^ (F.mantissaBits - 1) : ℕ) : ℤ) by push_cast; rfl,
      nearestEven_intCast] at hmono
    exact_mod_cast hmono
  obtain ⟨final, target, hshift, hvalue, hcanonical⟩ := shift_rounded
    (Format.minExponent_le_exponentAt x) hbound hshort
  unfold roundWithAccuracy
  rw [show shiftToTargetExponent F mantissa exponent accuracy =
    shiftToExponent mantissa exponent accuracy (F.exponentAt x) by
      rw [shiftToTargetExponent, targetExponent_of_floor hx hfloor hexponent]]
  dsimp only
  rw [hsecond, hshift]
  dsimp only
  have hrounded : (final * 2 ^ target : ℚ) = F.rounded x := by
    rw [hvalue, Format.rounded, ← hnearest, Int.cast_natCast]
  split
  next hzero =>
    subst hzero
    rw [Nat.cast_zero, zero_mul] at hrounded
    exact .zero hrounded.symm
  next hpos =>
    exact .finite _ hrounded (hcanonical (Nat.pos_of_ne_zero hpos))

end UnpackedFloat

end Float.Model
