import SurvivalArena.Framework.Numerals

/-!
# Orthonormal axes

Three vectors of length one, perpendicular to each other.  Every vector is the sum of its parts
along them, and the product of two of them lies along the third.
-/

open Matrix

/-- Each axis has length one and is perpendicular to the others. -/
def OrthonormalAxes {K : Type} [Field K] (axes : Fin 3 → Fin 3 → K) : Prop :=
  ∀ i j, axes i ⬝ᵥ axes j = if i = j then 1 else 0

namespace OrthonormalAxes

variable {K : Type} [Field K] {axes : Fin 3 → Fin 3 → K}

/-- Two perpendicular vectors of length one and their product. -/
theorem of_cross {v w : Fin 3 → K} (hv : v ⬝ᵥ v = 1) (hw : w ⬝ᵥ w = 1) (hvw : v ⬝ᵥ w = 0) :
    OrthonormalAxes ![v, w, v ⨯₃ w] := by
  have hcross : (v ⨯₃ w) ⬝ᵥ (v ⨯₃ w) = 1 := by
    rw [cross_dot_cross, hv, hw, hvw]
    ring
  have hperpendicular : (v ⨯₃ w) ⬝ᵥ v = 0 ∧ (v ⨯₃ w) ⬝ᵥ w = 0 :=
    ⟨(dotProduct_comm _ _).trans (dot_self_cross v w),
      (dotProduct_comm _ _).trans (dot_cross_self v w)⟩
  intro i j
  fin_cases i <;> fin_cases j
  · exact hv
  · exact hvw
  · exact dot_self_cross v w
  · exact (dotProduct_comm w v).trans hvw
  · exact hw
  · exact dot_cross_self v w
  · exact hperpendicular.1
  · exact hperpendicular.2
  · exact hcross

/-- A vector is the sum of its parts along the axes. -/
theorem expand (h : OrthonormalAxes axes) (v : Fin 3 → K) :
    ∑ i, (v ⬝ᵥ axes i) • axes i = v := by
  have hrows : Matrix.of axes * (Matrix.of axes)ᵀ = 1 := by
    ext i j
    rw [Matrix.one_apply, ← h i j]
    rfl
  have hcolumns : (Matrix.of axes)ᵀ * Matrix.of axes = 1 := mul_eq_one_comm.mp hrows
  have hsame : ∑ i, (v ⬝ᵥ axes i) • axes i =
      ((Matrix.of axes)ᵀ * Matrix.of axes) *ᵥ v := by
    rw [← Matrix.mulVec_mulVec]
    ext j
    rw [Finset.sum_apply]
    show _ = ∑ i, axes i j * (axes i ⬝ᵥ v)
    refine Finset.sum_congr rfl fun i _ => ?_
    rw [Pi.smul_apply, smul_eq_mul, mul_comm, dotProduct_comm]
  rw [hsame, hcolumns, Matrix.one_mulVec]

theorem dotProduct_eq (h : OrthonormalAxes axes) (v w : Fin 3 → K) :
    v ⬝ᵥ w = ∑ i, (v ⬝ᵥ axes i) * (w ⬝ᵥ axes i) := by
  conv_lhs => rw [← h.expand w]
  rw [dotProduct_sum]
  refine Finset.sum_congr rfl fun i _ => ?_
  rw [dotProduct_smul, smul_eq_mul, mul_comm]

/-- Parts are read back. -/
theorem part_sum (h : OrthonormalAxes axes) (scale : Fin 3 → K) (j : Fin 3) :
    (∑ i, scale i • axes i) ⬝ᵥ axes j = scale j := by
  rw [sum_dotProduct, Finset.sum_eq_single j]
  · rw [smul_dotProduct, h j j, if_pos rfl, smul_eq_mul, mul_one]
  · intro i _ hne
    rw [smul_dotProduct, h i j, if_neg hne, smul_zero]
  · exact fun hout => absurd (Finset.mem_univ j) hout

theorem eq_zero_of_perpendicular (h : OrthonormalAxes axes) {v : Fin 3 → K}
    (hv : ∀ i, v ⬝ᵥ axes i = 0) : v = 0 :=
  (h.expand v).symm.trans (Finset.sum_eq_zero fun i _ => by rw [hv, zero_smul])

/-- The product of two axes lies along an axis. -/
theorem cross_eq_smul (h : OrthonormalAxes axes) (i j : Fin 3) :
    ∃ k, ∃ factor : K, axes i ⨯₃ axes j = factor • axes k := by
  by_cases hij : i = j
  · exact ⟨i, 0, by rw [hij, cross_self, zero_smul]⟩
  have hthird : ∀ i j : Fin 3, i ≠ j → ∃ k, k ≠ i ∧ k ≠ j ∧ ∀ l, l = i ∨ l = j ∨ l = k := by
    decide
  obtain ⟨k, hki, hkj, hall⟩ := hthird i j hij
  refine ⟨k, (axes i ⨯₃ axes j) ⬝ᵥ axes k, sub_eq_zero.mp (h.eq_zero_of_perpendicular fun l => ?_)⟩
  rw [sub_dotProduct, smul_dotProduct, h k l, smul_eq_mul]
  rcases hall l with rfl | rfl | rfl
  · rw [if_neg hki, mul_zero, sub_zero, dotProduct_comm, dot_self_cross]
  · rw [if_neg hkj, mul_zero, sub_zero, dotProduct_comm, dot_cross_self]
  · rw [if_pos rfl, mul_one, sub_self]

end OrthonormalAxes
