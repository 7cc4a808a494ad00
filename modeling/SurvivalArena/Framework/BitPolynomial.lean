import SurvivalArena.Framework.Numerals

/-!
# Bits as polynomials

A sequence of bits is a polynomial over the field of two elements, the first bit its leading
coefficient.  A word is read from its lowest bit on, so that a shift to the right multiplies by
the variable, and a shift with feedback does so modulo the polynomial that is fed back.
-/

namespace BitPolynomial

open Polynomial

/-- The polynomial of the first `n` bits. -/
noncomputable def ofBits (n : Nat) (bits : Nat → Bool) : (ZMod 2)[X] :=
  ∑ k ∈ Finset.range n, if bits k then X ^ (n - 1 - k) else 0

variable {n m : Nat} {bits others : Nat → Bool}

theorem ofBits_congr (h : ∀ k < n, bits k = others k) : ofBits n bits = ofBits n others := by
  refine Finset.sum_congr rfl fun k hk => ?_
  rw [h k (Finset.mem_range.mp hk)]

/-- The bits are the coefficients. -/
theorem coeff_ofBits {k : Nat} (hk : k < n) :
    (ofBits n bits).coeff (n - 1 - k) = if bits k then 1 else 0 := by
  unfold ofBits
  rw [finsetSum_coeff, Finset.sum_eq_single k]
  · split <;> simp
  · intro other hother hne
    have hother := Finset.mem_range.mp hother
    split
    · rw [coeff_X_pow, if_neg (by omega)]
    · exact coeff_zero _
  · exact fun hout => absurd (Finset.mem_range.mpr hk) hout

theorem ofBits_inj : ofBits n bits = ofBits n others ↔ ∀ k < n, bits k = others k := by
  refine ⟨fun h k hk => ?_, ofBits_congr⟩
  have hcoeff := congrArg (fun p : (ZMod 2)[X] => p.coeff (n - 1 - k)) h
  rw [coeff_ofBits hk, coeff_ofBits hk] at hcoeff
  cases hbit : bits k <;> cases hother : others k <;> simp [hbit, hother] at hcoeff ⊢

theorem degree_ofBits_lt (n : Nat) (bits : Nat → Bool) : (ofBits n bits).degree < n := by
  rw [← mem_degreeLT]
  refine Submodule.sum_mem _ fun k hk => ?_
  split
  · rw [mem_degreeLT, degree_X_pow, Nat.cast_lt]
    have hk := Finset.mem_range.mp hk
    omega
  · exact Submodule.zero_mem _

/-- Bits are added without carry. -/
theorem ofBits_xor : ofBits n (fun k => bits k ^^ others k) =
    ofBits n bits + ofBits n others := by
  unfold ofBits
  rw [← Finset.sum_add_distrib]
  refine Finset.sum_congr rfl fun k _ => ?_
  cases hbit : bits k <;> cases hother : others k <;>
    simp [hbit, hother, CharTwo.add_self_eq_zero]

theorem ofBits_zero : ofBits n (fun _ => false) = 0 :=
  Finset.sum_eq_zero fun _ _ => rfl

/-- The bits of one sequence and then of another. -/
theorem ofBits_add : ofBits (n + m) bits =
    X ^ m * ofBits n bits + ofBits m fun k => bits (n + k) := by
  unfold ofBits
  rw [Finset.sum_range_add, Finset.mul_sum]
  congr 1
  · refine Finset.sum_congr rfl fun k hk => ?_
    have hk := Finset.mem_range.mp hk
    split
    · rw [← pow_add]
      congr 1
      omega
    · rw [mul_zero]
  · refine Finset.sum_congr rfl fun k _ => ?_
    have hpower : n + m - 1 - (n + k) = m - 1 - k := by omega
    rw [hpower]

/-- Bits that are set within a window are a multiple of a power of the variable, by a polynomial
that is no longer than the window. -/
theorem ofBits_window {start width : Nat}
    (h : ∀ k < n, bits k = true → start ≤ k ∧ k < start + width) :
    ∃ factor : (ZMod 2)[X], factor.degree < width ∧
      ofBits n bits = X ^ (n - (start + width)) * factor := by
  refine ⟨∑ k ∈ Finset.range n,
    if bits k then X ^ (n - 1 - k - (n - (start + width))) else 0, ?_, ?_⟩
  · rw [← mem_degreeLT]
    refine Submodule.sum_mem _ fun k hk => ?_
    have hk := Finset.mem_range.mp hk
    split
    · rename_i hbit
      obtain ⟨hlow, hhigh⟩ := h k hk hbit
      rw [mem_degreeLT, degree_X_pow, Nat.cast_lt]
      omega
    · exact Submodule.zero_mem _
  · unfold ofBits
    rw [Finset.mul_sum]
    refine Finset.sum_congr rfl fun k hk => ?_
    have hk := Finset.mem_range.mp hk
    split
    · rename_i hbit
      obtain ⟨hlow, hhigh⟩ := h k hk hbit
      rw [← pow_add]
      congr 1
      omega
    · rw [mul_zero]

/-! ## Words -/

/-- A word, read from its lowest bit on. -/
noncomputable def ofWord {w : Nat} (word : BitVec w) : (ZMod 2)[X] :=
  ofBits w word.getLsbD

theorem ofWord_xor {w : Nat} (a b : BitVec w) : ofWord (a ^^^ b) = ofWord a + ofWord b := by
  unfold ofWord
  rw [← ofBits_xor]
  exact ofBits_congr fun k _ => BitVec.getLsbD_xor

theorem X_mul_ofWord {w : Nat} (word : BitVec (w + 1)) : X * ofWord word =
    ofWord (word >>> 1) + if word.getLsbD 0 then X ^ (w + 1) else 0 := by
  have hshifted : ofWord (word >>> 1) = X * ofBits w fun k => word.getLsbD (1 + k) := by
    have hlast : ofBits 1 (fun k => (word >>> 1).getLsbD (w + k)) = 0 := by
      refine (ofBits_congr fun k hk => ?_).trans ofBits_zero
      rw [BitVec.getLsbD_ushiftRight]
      exact BitVec.getLsbD_of_ge _ _ (by omega)
    unfold ofWord
    rw [ofBits_add, hlast, add_zero, pow_one]
    exact congrArg (X * ·) (ofBits_congr fun k _ => BitVec.getLsbD_ushiftRight _ _ _)
  have hword : ofWord word = X ^ w * ofBits 1 word.getLsbD +
      ofBits w fun k => word.getLsbD (1 + k) := by
    unfold ofWord
    rw [← ofBits_add]
    congr 1
    exact Nat.add_comm w 1
  have hfirst : ofBits 1 word.getLsbD = if word.getLsbD 0 then 1 else 0 := by
    rw [ofBits, Finset.sum_range_one, Nat.sub_self, pow_zero]
  rw [hshifted, hword, hfirst]
  split <;> ring

/-! ## Feedback -/

section Feedback

variable {w : Nat} (tail : BitVec (w + 1))

/-- The polynomial that is fed back, with its leading power. -/
noncomputable def generator : (ZMod 2)[X] :=
  X ^ (w + 1) + ofWord tail

/-- One shift of the register. -/
def shiftOut (register : BitVec (w + 1)) : BitVec (w + 1) :=
  (register >>> 1) ^^^ if register.getLsbD 0 then tail else 0

theorem generator_monic : (generator tail).Monic :=
  monic_X_pow_add (degree_ofBits_lt _ _)

theorem generator_degree : (generator tail).degree = (w + 1 : Nat) := by
  have hsmall : (ofWord tail).degree < (X ^ (w + 1) : (ZMod 2)[X]).degree := by
    rw [degree_X_pow]
    exact degree_ofBits_lt _ _
  rw [generator, degree_add_eq_left_of_degree_lt hsmall, degree_X_pow]

/-- A shift multiplies by the variable, modulo the generator. -/
theorem mk_shiftOut (register : BitVec (w + 1)) :
    AdjoinRoot.mk (generator tail) (ofWord (shiftOut tail register)) =
      AdjoinRoot.mk (generator tail) (X * ofWord register) := by
  rw [AdjoinRoot.mk_eq_mk, X_mul_ofWord, shiftOut, ofWord_xor]
  split
  · refine Dvd.intro 1 ?_
    rw [mul_one, generator, CharTwo.sub_eq_add]
    have hcancel := CharTwo.add_self_eq_zero (ofWord (register >>> 1))
    linear_combination -hcancel
  · have hzero : ofWord (0 : BitVec (w + 1)) = 0 :=
      (ofBits_congr fun _ _ => BitVec.getLsbD_zero).trans ofBits_zero
    rw [hzero, sub_self]
    exact dvd_zero _

theorem mk_shiftOut_iterate (count : Nat) (register : BitVec (w + 1)) :
    AdjoinRoot.mk (generator tail) (ofWord ((shiftOut tail)^[count] register)) =
      AdjoinRoot.mk (generator tail) (X ^ count * ofWord register) := by
  induction count generalizing register with
  | zero => rw [pow_zero, one_mul, Function.iterate_zero_apply]
  | succ count ih =>
    rw [Function.iterate_succ_apply, ih, map_mul, mk_shiftOut, ← map_mul, pow_succ, mul_assoc]

/-- A register is the remainder of whatever it is congruent to. -/
theorem ofWord_eq_modByMonic {register : BitVec (w + 1)} {p : (ZMod 2)[X]}
    (h : AdjoinRoot.mk (generator tail) (ofWord register) = AdjoinRoot.mk (generator tail) p) :
    ofWord register = p %ₘ generator tail := by
  have hsmall : ofWord register %ₘ generator tail = ofWord register := by
    rw [modByMonic_eq_self_iff (generator_monic tail), generator_degree]
    exact degree_ofBits_lt _ _
  rw [← hsmall]
  exact modByMonic_eq_of_dvd_sub (generator_monic tail) (AdjoinRoot.mk_eq_mk.mp h)

/-- A generator with a constant term has no factor in common with a power of the variable. -/
theorem generator_isCoprime (h : tail.getLsbD w = true) (count : Nat) :
    IsCoprime (generator tail) (X ^ count) := by
  have hconstant : (generator tail).coeff 0 = 1 := by
    have hlast : (ofWord tail).coeff 0 = 1 := by
      have hcoeff : (ofWord tail).coeff (w + 1 - 1 - w) = if tail.getLsbD w then 1 else 0 :=
        coeff_ofBits (Nat.lt_succ_self w)
      rw [Nat.add_sub_cancel, Nat.sub_self, h] at hcoeff
      exact hcoeff
    rw [generator, coeff_add, coeff_X_pow, if_neg (by omega), zero_add, hlast]
  refine IsCoprime.pow_right ⟨1, -(generator tail).divX, ?_⟩
  have hsplit := divX_mul_X_add (generator tail)
  rw [hconstant, map_one] at hsplit
  linear_combination -hsplit

end Feedback

end BitPolynomial
