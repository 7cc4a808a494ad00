import SurvivalArena.Framework.Numerals

/-!
# Separating axes

A point is a sum of given edges, each scaled within its extent, unless a plane perpendicular to
two of the edges separates it from all such sums.  The two edges are found by turning the plane
until it touches more and more of them.
-/

namespace Zonotope

open Matrix

variable {ι : Type} [Fintype ι] (edges : ι → Fin 3 → ℝ) (extents : ι → ℝ) (point : Fin 3 → ℝ)

/-- The point is a sum of the edges, each scaled within its extent. -/
def Reaches : Prop :=
  ∃ scale : ι → ℝ, (∀ k, |scale k| ≤ extents k) ∧ ∑ k, scale k • edges k = point

/-- How far the point is beyond all sums in a direction. -/
def excess (normal : Fin 3 → ℝ) : ℝ :=
  normal ⬝ᵥ point - ∑ k, extents k * |normal ⬝ᵥ edges k|

variable {edges extents point}

theorem Reaches.excess_nonpos (h : Reaches edges extents point) (normal : Fin 3 → ℝ) :
    excess edges extents point normal ≤ 0 := by
  obtain ⟨scale, hscale, rfl⟩ := h
  have hterm : ∀ k, normal ⬝ᵥ (scale k • edges k) ≤ extents k * |normal ⬝ᵥ edges k| := by
    intro k
    rw [dotProduct_smul, smul_eq_mul]
    calc scale k * (normal ⬝ᵥ edges k)
        ≤ |scale k| * |normal ⬝ᵥ edges k| := (le_abs_self _).trans (abs_mul _ _).le
      _ ≤ extents k * |normal ⬝ᵥ edges k| :=
        mul_le_mul_of_nonneg_right (hscale k) (abs_nonneg _)
  rw [excess, sub_nonpos, dotProduct_sum]
  exact Finset.sum_le_sum fun k _ => hterm k

/-! ## A direction that separates -/

/-- What is beyond all sums is beyond them in some direction. -/
theorem exists_excess_pos (hextents : ∀ k, 0 ≤ extents k)
    (h : ¬Reaches edges extents point) : ∃ normal, 0 < excess edges extents point normal := by
  have hcompact : IsCompact
      (Fintype.linearCombination ℝ edges '' Set.Icc (-extents) extents) :=
    isCompact_Icc.image (LinearMap.continuous_of_finiteDimensional _)
  have hconvex : Convex ℝ (Fintype.linearCombination ℝ edges '' Set.Icc (-extents) extents) :=
    (convex_Icc _ _).linear_image _
  have hout : point ∉ Fintype.linearCombination ℝ edges '' Set.Icc (-extents) extents := by
    rintro ⟨scale, ⟨hlow, hhigh⟩, hsum⟩
    refine h ⟨scale, fun k => abs_le.mpr ⟨hlow k, hhigh k⟩, ?_⟩
    rw [← hsum, Fintype.linearCombination_apply]
  obtain ⟨functional, bound, hpoint, hsums⟩ :=
    geometric_hahn_banach_point_closed hconvex hcompact.isClosed hout
  refine ⟨fun i => -functional (Pi.single i 1), ?_⟩
  have hdot : ∀ v : Fin 3 → ℝ, (fun i => -functional (Pi.single i 1)) ⬝ᵥ v = -functional v := by
    intro v
    have hparts : v = ∑ i, v i • (Pi.single i 1 : Fin 3 → ℝ) := by
      ext j
      simp [Finset.sum_apply, Pi.single_apply]
    have hfunctional : functional v = ∑ i, v i * functional (Pi.single i 1) := by
      conv_lhs => rw [hparts, map_sum]
      exact Finset.sum_congr rfl fun i _ => map_smul functional _ _
    rw [hfunctional, dotProduct, ← Finset.sum_neg_distrib]
    exact Finset.sum_congr rfl fun i _ => by ring
  -- The sum that is least in the functional.
  have hleast := hsums (∑ k, (if 0 ≤ functional (edges k) then -extents k else extents k) • edges k)
    ⟨fun k => if 0 ≤ functional (edges k) then -extents k else extents k, ?_, rfl⟩
  · have hsum : functional (∑ k, (if 0 ≤ functional (edges k) then -extents k else extents k) •
        edges k) = -∑ k, extents k * |functional (edges k)| := by
      rw [map_sum, ← Finset.sum_neg_distrib]
      refine Finset.sum_congr rfl fun k _ => ?_
      rw [map_smul, smul_eq_mul]
      split
      · rename_i hsign
        rw [abs_of_nonneg hsign]
        ring
      · rename_i hsign
        rw [abs_of_neg (not_le.mp hsign)]
        ring
    rw [hsum] at hleast
    simp only [excess, hdot, abs_neg]
    linarith
  · constructor <;> intro k <;> simp only [Pi.neg_apply] <;> split <;> linarith [hextents k]

/-! ## Turning the plane -/

/-- Numbers that change linearly, and not all in one direction, until the first of them
vanishes. -/
theorem exists_crossing {x y : ι → ℝ} (h : ∃ k, x k * y k < 0) :
    ∃ t, 0 < t ∧ (∃ k, x k ≠ 0 ∧ x k + t * y k = 0) ∧ ∀ k, 0 ≤ x k * (x k + t * y k) := by
  classical
  obtain ⟨some, hsome⟩ := h
  obtain ⟨first, hfirst, hleast⟩ := Finset.exists_min_image
    (Finset.univ.filter fun k => x k * y k < 0) (fun k => -x k / y k)
    ⟨some, Finset.mem_filter.mpr ⟨Finset.mem_univ _, hsome⟩⟩
  have hopposed := (Finset.mem_filter.mp hfirst).2
  have hx : x first ≠ 0 := left_ne_zero_of_mul hopposed.ne
  have hy : y first ≠ 0 := right_ne_zero_of_mul hopposed.ne
  have hpositive : 0 < -x first / y first := by
    have hquotient : -x first / y first = -(x first * y first) / (y first * y first) := by
      field_simp
    rw [hquotient]
    exact div_pos (neg_pos.mpr hopposed) (mul_self_pos.mpr hy)
  refine ⟨-x first / y first, hpositive, ⟨first, hx, ?_⟩, fun k => ?_⟩
  · field_simp
    ring
  · have hexpand : x k * (x k + -x first / y first * y k) =
        x k * x k + -x first / y first * (x k * y k) := by ring
    rcases lt_or_ge (x k * y k) 0 with hk | hk
    · have hbefore := hleast k (Finset.mem_filter.mpr ⟨Finset.mem_univ _, hk⟩)
      have hyk : y k ≠ 0 := right_ne_zero_of_mul hk.ne
      have hreached : x k * x k + -x k / y k * (x k * y k) = 0 := by
        field_simp
        ring
      rw [hexpand, ← hreached]
      exact (add_le_add_iff_left _).mpr (mul_le_mul_of_nonpos_right hbefore hk.le)
    · rw [hexpand]
      exact add_nonneg (mul_self_nonneg _) (mul_nonneg hpositive.le hk)

/-- While a number keeps its sign, its magnitude changes linearly. -/
theorem abs_add_mul {x y t : ℝ} (hkeeps : 0 ≤ x * (x + t * y)) (hzero : x = 0 → y = 0) :
    |x + t * y| = |x| + t * (SignType.sign x * y) := by
  rcases lt_trichotomy x 0 with hx | hx | hx
  · have hsum : x + t * y ≤ 0 := nonpos_of_mul_nonneg_right hkeeps hx
    rw [abs_of_nonpos hsum, abs_of_neg hx, sign_neg hx]
    simp only [SignType.coe_neg_one]
    ring
  · rw [hx, hzero hx]
    simp
  · have hsum : 0 ≤ x + t * y := nonneg_of_mul_nonneg_right hkeeps hx
    rw [abs_of_nonneg hsum, abs_of_pos hx, sign_pos hx]
    simp

variable (edges extents point) in
/-- How the excess changes when the plane is turned. -/
noncomputable def slope (normal turn : Fin 3 → ℝ) : ℝ :=
  turn ⬝ᵥ point -
    ∑ k, extents k * (SignType.sign (normal ⬝ᵥ edges k) * (turn ⬝ᵥ edges k))

theorem slope_neg (normal turn : Fin 3 → ℝ) :
    slope edges extents point normal (-turn) = -slope edges extents point normal turn := by
  simp only [slope, neg_dotProduct, mul_neg, Finset.sum_neg_distrib]
  ring

theorem excess_turn {normal turn : Fin 3 → ℝ} {t : ℝ}
    (hkeeps : ∀ k, 0 ≤ normal ⬝ᵥ edges k * (normal ⬝ᵥ edges k + t * (turn ⬝ᵥ edges k)))
    (htouches : ∀ k, normal ⬝ᵥ edges k = 0 → turn ⬝ᵥ edges k = 0) :
    excess edges extents point (normal + t • turn) =
      excess edges extents point normal + t * slope edges extents point normal turn := by
  have hterm : ∀ k, extents k * |(normal + t • turn) ⬝ᵥ edges k| =
      extents k * |normal ⬝ᵥ edges k| +
        t * (extents k * (SignType.sign (normal ⬝ᵥ edges k) * (turn ⬝ᵥ edges k))) := by
    intro k
    rw [add_dotProduct, smul_dotProduct, smul_eq_mul, abs_add_mul (hkeeps k) (htouches k)]
    ring
  rw [excess, Finset.sum_congr rfl fun k _ => hterm k, Finset.sum_add_distrib, ← Finset.mul_sum,
    add_dotProduct, smul_dotProduct, smul_eq_mul, excess, slope]
  ring

variable (edges) in
/-- The edges that lie in the plane. -/
def touched (normal : Fin 3 → ℝ) : Set ι :=
  {k | normal ⬝ᵥ edges k = 0}

omit [Fintype ι] in
theorem mem_touched {normal : Fin 3 → ℝ} {k : ι} :
    k ∈ touched edges normal ↔ normal ⬝ᵥ edges k = 0 :=
  Iff.rfl

/-- A plane that can be turned about the edges it touches is turned until it touches more, and
still separates. -/
theorem exists_turned {normal turn : Fin 3 → ℝ} (hexcess : 0 < excess edges extents point normal)
    (htouches : touched edges normal ⊆ touched edges turn)
    (hturns : ∃ k, turn ⬝ᵥ edges k ≠ 0)
    (hlevel : ∑ k, normal ⬝ᵥ edges k * (turn ⬝ᵥ edges k) = 0) :
    ∃ turned, 0 < excess edges extents point turned ∧
      touched edges normal ⊂ touched edges turned := by
  -- The excess does not fall in one of the two directions.
  wlog hslope : 0 ≤ slope edges extents point normal turn generalizing turn
  · refine @this (-turn) (fun k hk => ?_) ?_ ?_ ?_
    · rw [mem_touched, neg_dotProduct, neg_eq_zero]
      exact htouches hk
    · simpa only [neg_dotProduct, ne_eq, neg_eq_zero] using hturns
    · simpa only [neg_dotProduct, mul_neg, Finset.sum_neg_distrib, neg_eq_zero] using hlevel
    · rw [slope_neg]
      exact neg_nonneg.mpr (not_le.mp hslope).le
  have hopposed : ∃ k, normal ⬝ᵥ edges k * (turn ⬝ᵥ edges k) < 0 := by
    obtain ⟨some, hsome⟩ := hturns
    have hnonzero : -(normal ⬝ᵥ edges some * (turn ⬝ᵥ edges some)) ≠ 0 :=
      neg_ne_zero.mpr (mul_ne_zero (fun hzero => hsome (htouches hzero)) hsome)
    have hopposite : ∑ k, -(normal ⬝ᵥ edges k * (turn ⬝ᵥ edges k)) = 0 := by
      rw [Finset.sum_neg_distrib, hlevel, neg_zero]
    obtain ⟨k, -, hk⟩ := Finset.exists_pos_of_sum_zero_of_exists_nonzero _ hopposite
      ⟨some, Finset.mem_univ _, hnonzero⟩
    exact ⟨k, neg_pos.mp hk⟩
  obtain ⟨t, hpositive, ⟨first, hfirst, hreached⟩, hkeeps⟩ := exists_crossing hopposed
  refine ⟨normal + t • turn, ?_, ?_⟩
  · rw [excess_turn hkeeps fun k hk => htouches hk]
    exact add_pos_of_pos_of_nonneg hexcess (mul_nonneg hpositive.le hslope)
  · refine (Set.ssubset_iff_of_subset fun k hk => ?_).mpr ⟨first, ?_, hfirst⟩
    · have hturn : turn ⬝ᵥ edges k = 0 := htouches hk
      rw [mem_touched, add_dotProduct, smul_dotProduct, hturn, smul_zero, add_zero]
      exact hk
    · rw [mem_touched, add_dotProduct, smul_dotProduct, smul_eq_mul]
      exact hreached

/-! ## Two edges -/

theorem excess_smul {factor : ℝ} (h : 0 ≤ factor) (normal : Fin 3 → ℝ) :
    excess edges extents point (factor • normal) =
      factor * excess edges extents point normal := by
  have hterm : ∀ k, extents k * |(factor • normal) ⬝ᵥ edges k| =
      factor * (extents k * |normal ⬝ᵥ edges k|) := by
    intro k
    rw [smul_dotProduct, smul_eq_mul, abs_mul, abs_of_nonneg h]
    ring
  rw [excess, Finset.sum_congr rfl fun k _ => hterm k, ← Finset.mul_sum, smul_dotProduct,
    smul_eq_mul, excess]
  ring

/-- A vector perpendicular to two vectors that are not parallel is a multiple of their product. -/
theorem eq_smul_cross {n a b : Fin 3 → ℝ} (ha : n ⬝ᵥ a = 0) (hb : n ⬝ᵥ b = 0)
    (hcross : a ⨯₃ b ≠ 0) : ∃ factor : ℝ, n = factor • (a ⨯₃ b) := by
  have hparallel : n ⨯₃ (a ⨯₃ b) = 0 := by
    rw [cross_cross_eq_smul_sub_smul', hb, dotProduct_comm, ha, zero_smul, zero_smul, sub_zero]
  have hsquare : (a ⨯₃ b) ⬝ᵥ (a ⨯₃ b) ≠ 0 := fun h => hcross (dotProduct_self_eq_zero.mp h)
  have hmultiple := cross_cross_eq_smul_sub_smul n (a ⨯₃ b) (a ⨯₃ b)
  rw [hparallel, map_zero, LinearMap.zero_apply, eq_comm, sub_eq_zero] at hmultiple
  refine ⟨(n ⬝ᵥ (a ⨯₃ b)) / ((a ⨯₃ b) ⬝ᵥ (a ⨯₃ b)), ?_⟩
  rw [div_eq_inv_mul, mul_smul, hmultiple, inv_smul_smul₀ hsquare]

/-- A vector that is not zero is not parallel to all vectors. -/
theorem exists_cross_ne_zero {n : Fin 3 → ℝ} (h : n ≠ 0) : ∃ other, n ⨯₃ other ≠ 0 := by
  by_contra hall
  refine h ?_
  have hzero : ∀ other, n ⨯₃ other = 0 := fun other => not_not.mp fun hother =>
    hall ⟨other, hother⟩
  have hfirst := hzero ![1, 0, 0]
  have hsecond := hzero ![0, 1, 0]
  rw [cross_apply] at hfirst hsecond
  ext i
  fin_cases i
  · simpa using congrFun hsecond 2
  · simpa using congrFun hfirst 2
  · simpa using congrFun hfirst 1

variable (edges) in
/-- The edges are perpendicular to no common direction. -/
def Spanning : Prop :=
  ∀ normal : Fin 3 → ℝ, (∀ k, normal ⬝ᵥ edges k = 0) → normal = 0

/-- A plane that touches no two edges that are not parallel can be turned. -/
theorem exists_turn (hspanning : Spanning edges) {normal : Fin 3 → ℝ} (hnormal : normal ≠ 0)
    (hparallel : ∀ i ∈ touched edges normal, ∀ j ∈ touched edges normal,
      edges i ⨯₃ edges j = 0) :
    ∃ turn : Fin 3 → ℝ, touched edges normal ⊆ touched edges turn ∧
      (∃ k, turn ⬝ᵥ edges k ≠ 0) ∧
      ∑ k, normal ⬝ᵥ edges k * (turn ⬝ᵥ edges k) = 0 := by
  -- The turn is perpendicular to the normal in the metric that the edges define.
  have hdot : ∀ turn : Fin 3 → ℝ, turn ⬝ᵥ (∑ k, (normal ⬝ᵥ edges k) • edges k) =
      ∑ k, normal ⬝ᵥ edges k * (turn ⬝ᵥ edges k) := by
    intro turn
    rw [dotProduct_sum]
    exact Finset.sum_congr rfl fun k _ => by rw [dotProduct_smul, smul_eq_mul]
  have hpositive : normal ⬝ᵥ (∑ k, (normal ⬝ᵥ edges k) • edges k) ≠ 0 := by
    rw [hdot]
    intro hzero
    refine hnormal (hspanning normal fun k => ?_)
    have hterm := (Finset.sum_eq_zero_iff_of_nonneg fun k _ => mul_self_nonneg _).mp hzero k
      (Finset.mem_univ k)
    exact mul_self_eq_zero.mp hterm
  generalize (∑ k, (normal ⬝ᵥ edges k) • edges k) = dual at hdot hpositive
  obtain ⟨about, habout, htouches⟩ : ∃ about, dual ⨯₃ about ≠ 0 ∧
      ∀ k ∈ touched edges normal, (dual ⨯₃ about) ⬝ᵥ edges k = 0 := by
    by_cases hsome : ∃ k ∈ touched edges normal, edges k ≠ 0
    · obtain ⟨k, hk, hedge⟩ := hsome
      refine ⟨edges k, fun hzero => ?_, fun j hj => ?_⟩
      · have hmultiple := cross_cross_eq_smul_sub_smul' normal dual (edges k)
        rw [hzero, map_zero, mem_touched.mp hk, zero_smul, zero_sub, eq_comm, neg_eq_zero,
          dotProduct_comm] at hmultiple
        exact (smul_ne_zero hpositive hedge) hmultiple
      · rw [dotProduct_comm, triple_product_permutation, hparallel k hk j hj, dotProduct_zero]
    · have hnone : ∀ k ∈ touched edges normal, edges k = 0 := fun k hk =>
        not_not.mp fun hedge => hsome ⟨k, hk, hedge⟩
      have hdual : dual ≠ 0 := fun hzero => hpositive (by rw [hzero, dotProduct_zero])
      obtain ⟨other, hother⟩ := exists_cross_ne_zero hdual
      exact ⟨other, hother, fun k hk => by rw [hnone k hk, dotProduct_zero]⟩
  refine ⟨dual ⨯₃ about, htouches, ?_, ?_⟩
  · by_contra hnone
    exact habout (hspanning _ fun k => not_not.mp fun hk => hnone ⟨k, hk⟩)
  · rw [← hdot, dotProduct_comm]
    exact dot_self_cross dual about

/-- If a plane separates, so does one that is perpendicular to two of the edges. -/
theorem exists_excess_cross_pos (hspanning : Spanning edges) {normal : Fin 3 → ℝ}
    (h : 0 < excess edges extents point normal) :
    ∃ i j, 0 < excess edges extents point (edges i ⨯₃ edges j) := by
  generalize htouched : touched edges normal = plane
  induction plane using WellFoundedGT.induction generalizing normal with
  | ind plane ih =>
    have hnormal : normal ≠ 0 := by
      rintro rfl
      simp [excess] at h
    by_cases hpair : ∃ i ∈ touched edges normal, ∃ j ∈ touched edges normal,
        edges i ⨯₃ edges j ≠ 0
    · obtain ⟨i, hi, j, hj, hcross⟩ := hpair
      obtain ⟨factor, hfactor⟩ := eq_smul_cross hi hj hcross
      rcases le_total 0 factor with hsign | hsign
      · rw [hfactor, excess_smul hsign] at h
        exact ⟨i, j, pos_of_mul_pos_right h hsign⟩
      · have hswap : factor • (edges i ⨯₃ edges j) = (-factor) • (edges j ⨯₃ edges i) := by
          rw [← cross_anticomm, smul_neg, neg_smul]
        rw [hfactor, hswap, excess_smul (neg_nonneg.mpr hsign)] at h
        exact ⟨j, i, pos_of_mul_pos_right h (neg_nonneg.mpr hsign)⟩
    · have hparallel : ∀ i ∈ touched edges normal, ∀ j ∈ touched edges normal,
          edges i ⨯₃ edges j = 0 := fun i hi j hj => not_not.mp fun hcross =>
        hpair ⟨i, hi, j, hj, hcross⟩
      obtain ⟨turn, htouches, hturns, hlevel⟩ := exists_turn hspanning hnormal hparallel
      obtain ⟨turned, hturned, hmore⟩ := exists_turned h htouches hturns hlevel
      exact ih _ (htouched ▸ hmore) hturned rfl

/-- The theorem of separating axes: the point is a sum of the edges unless a direction
perpendicular to two of them separates it. -/
theorem reaches_iff (hextents : ∀ k, 0 ≤ extents k) (hspanning : Spanning edges) :
    Reaches edges extents point ↔
      ∀ i j, excess edges extents point (edges i ⨯₃ edges j) ≤ 0 := by
  refine ⟨fun h i j => h.excess_nonpos _, fun h => ?_⟩
  by_contra hout
  obtain ⟨normal, hnormal⟩ := exists_excess_pos hextents hout
  obtain ⟨i, j, hcross⟩ := exists_excess_cross_pos hspanning hnormal
  exact (h i j).not_gt hcross

end Zonotope
