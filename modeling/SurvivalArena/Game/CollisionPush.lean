import SurvivalArena.Framework.OrthonormalAxes
import SurvivalArena.Game.Rigidbody

/-!
# The pushes of boxes

A box and a sphere push in the same direction whichever of them is asked, so that one of them is
pulled into the other.  Axis-aligned boxes are always separated, and their pushes are opposite
unless they are level on the axis of the push.
-/

namespace SurvivalArena

namespace Rigidbody

open Matrix

/-! ## Boxes and spheres -/

section BoxSphere

theorem length_eq_zero {v : Vec3 ℝ} (h : v.length = 0) : v = ⟨0, 0, 0⟩ := by
  have hdot : v.dot v = 0 := by rw [← length_mul_self, h, mul_zero]
  have hx := mul_self_nonneg v.x
  have hy := mul_self_nonneg v.y
  have hz := mul_self_nonneg v.z
  unfold Vec3.dot at hdot
  ext
  · exact mul_self_eq_zero.mp (by linarith)
  · exact mul_self_eq_zero.mp (by linarith)
  · exact mul_self_eq_zero.mp (by linarith)

theorem sub_eq_zero_iff {v w : Vec3 ℝ} : v - w = ⟨0, 0, 0⟩ ↔ w = v := by
  constructor
  · intro h
    ext
    · exact (sub_eq_zero.mp (congrArg Vec3.x h)).symm
    · exact (sub_eq_zero.mp (congrArg Vec3.y h)).symm
    · exact (sub_eq_zero.mp (congrArg Vec3.z h)).symm
  · rintro rfl
    ext <;> exact sub_self _

theorem length_sub_pos {v w : Vec3 ℝ} (h : w ≠ v) : 0 < (v - w).length :=
  (length_nonneg _).lt_of_ne fun hzero => h (sub_eq_zero_iff.mp (length_eq_zero hzero.symm))

/-- A point that is moved towards its closest point by what was missing to the radius comes no
closer to the radius. -/
theorem pulled_short {v : Vec3 ℝ} {radius factor : ℝ} (hpos : 0 < v.length)
    (hshort : v.length < radius)
    (hfactor : factor = 0 ∨ factor = (radius - v.length) / v.length) :
    (v.scale (1 - factor)).length < radius := by
  rw [length_scale]
  rcases hfactor with rfl | rfl
  · rwa [sub_zero, abs_one, mul_one]
  · rw [← abs_of_pos hpos, ← abs_mul, abs_of_pos hpos, mul_sub, mul_one,
      mul_div_cancel₀ _ hpos.ne', abs_lt]
    constructor <;> linarith

/-- A point that is pulled towards the box does not touch it with its radius. -/
theorem pulled_not_touching {closest : Vec3 ℝ → Vec3 ℝ} {point : Vec3 ℝ} {radius factor : ℝ}
    (hnearest : ∀ point other, (point - closest point).length ≤ (point - closest other).length)
    (hnear : (point - closest point).length < radius) (hoff : closest point ≠ point)
    (hfactor : factor = 0 ∨
      factor = (radius - (point - closest point).length) / (point - closest point).length) :
    (point - (point - closest point).scale factor -
      closest (point - (point - closest point).scale factor)).length ≠ radius := by
  have hshifted : point - (point - closest point).scale factor - closest point =
      (point - closest point).scale (1 - factor) := by
    ext <;> simp <;> ring
  have hshort := hnearest (point - (point - closest point).scale factor) point
  rw [hshifted] at hshort
  exact (hshort.trans_lt (pulled_short (length_sub_pos hoff) hnear hfactor)).ne

/-- A box and a sphere, where the push is the same in both directions and takes one of them into
the other. -/
theorem pushLaw_boxSphere {tests : BoxTests ℝ} {box ball : Collider ℝ} {gap : Vec3 ℝ}
    {radius factor : ℝ}
    (hpush : correction tests box ball =
      if radius ≤ gap.length then none else some (gap.scale factor))
    (hmirrored : correction tests ball box = correction tests box ball)
    (hoverlap : Overlapping box ball ↔ gap.length < radius ∧ gap ≠ ⟨0, 0, 0⟩)
    (hoverlap' : Overlapping ball box ↔ Overlapping box ball)
    (hcenter : box.center = ball.center → gap = ⟨0, 0, 0⟩)
    (hfails : gap.length < radius → gap ≠ ⟨0, 0, 0⟩ →
      ¬(Touching (pushed tests box ball) ball ∧ Touching (pushed tests ball box) box)) :
    PushLaw tests box ball ↔ radius ≤ gap.length ∨ gap = ⟨0, 0, 0⟩ := by
  constructor
  · intro h
    by_contra hboth
    rw [not_or, not_le] at hboth
    have hdiffer : box.center ≠ ball.center := fun hsame => hboth.2 (hcenter hsame)
    have hover := hoverlap.mpr hboth
    exact hfails hboth.1 hboth.2 ⟨(separates_iff _ _ _).mp h.first hover hdiffer,
      (separates_iff _ _ _).mp h.second (hoverlap'.mpr hover) hdiffer.symm⟩
  · intro h
    have hapart : ¬Overlapping box ball := by
      rw [hoverlap, not_and, not_not, ← not_le]
      exact fun hnear => h.resolve_left hnear
    refine ⟨?_, fun hover => absurd hover hapart, fun hover => absurd (hoverlap'.mp hover) hapart⟩
    rw [hmirrored, hpush]
    split
    · rfl
    · rename_i hnear
      rw [h.resolve_left hnear]
      refine congrArg some ?_
      ext <;> simp

/-- A number brought into an interval. -/
def clampTo (low high x : ℝ) : ℝ :=
  min high (max low x)

theorem clampTo_mem {low high : ℝ} (h : low ≤ high) (x : ℝ) :
    low ≤ clampTo low high x ∧ clampTo low high x ≤ high :=
  ⟨le_min h (le_max_left _ _), min_le_left _ _⟩

/-- The number in the interval that is nearest. -/
theorem clampTo_nearest {low high : ℝ} (x : ℝ) {q : ℝ} (hq : low ≤ q ∧ q ≤ high) :
    (x - clampTo low high x) * (x - clampTo low high x) ≤ (x - q) * (x - q) := by
  unfold clampTo
  rcases le_total x low with hbelow | habove
  · rw [max_eq_left hbelow, min_eq_right (hq.1.trans hq.2)]
    nlinarith [hq.1]
  · rw [max_eq_right habove]
    rcases le_total x high with hinside | hbeyond
    · rw [min_eq_right hinside, sub_self, zero_mul]
      exact mul_self_nonneg _
    · rw [min_eq_left hbeyond]
      nlinarith [hq.2]

theorem clampTo_of_mem {low high x : ℝ} (hlow : low ≤ x) (hhigh : x ≤ high) :
    clampTo low high x = x := by
  rw [clampTo, max_eq_right hlow, min_eq_right hhigh]

theorem length_le_length {v w : Vec3 ℝ} (h : v.dot v ≤ w.dot w) : v.length ≤ w.length :=
  Real.sqrt_le_sqrt h

theorem sq_le_dot_iff {v : Vec3 ℝ} {radius : ℝ} (hradius : 0 ≤ radius) :
    radius * radius ≤ v.dot v ↔ radius ≤ v.length := by
  rw [← length_mul_self]
  exact mul_self_le_mul_self_iff hradius (length_nonneg v) |>.symm

namespace BoundingBox

variable (box : BoundingBox ℝ)

theorem closest_nearest (point other : Vec3 ℝ) :
    (point - box.closest point).length ≤ (point - box.closest other).length := by
  obtain ⟨hx, hy, hz⟩ := box.extents_nonneg
  refine length_le_length (add_le_add (add_le_add ?_ ?_) ?_)
  · exact clampTo_nearest _ (clampTo_mem (by simp; linarith) _)
  · exact clampTo_nearest _ (clampTo_mem (by simp; linarith) _)
  · exact clampTo_nearest _ (clampTo_mem (by simp; linarith) _)

theorem closest_center : box.closest box.center = box.center := by
  obtain ⟨hx, hy, hz⟩ := box.extents_nonneg
  ext
  · exact clampTo_of_mem (sub_le_self _ hx) (le_add_of_nonneg_right hx)
  · exact clampTo_of_mem (sub_le_self _ hy) (le_add_of_nonneg_right hy)
  · exact clampTo_of_mem (sub_le_self _ hz) (le_add_of_nonneg_right hz)

/-- A box that is moved has its closest points moved. -/
theorem closest_moved (displacement point : Vec3 ℝ) :
    point - BoundingBox.closest { box with center := box.center + displacement } point =
      (point - displacement) - box.closest (point - displacement) := by
  have hcoordinate : ∀ c e w x : ℝ, x - min (c + w + e) (max (c + w - e) x) =
      (x - w) - min (c + e) (max (c - e) (x - w)) := by
    intro c e w x
    have hmax : max (c + w - e) x = max (c - e) (x - w) + w := by
      rw [← max_add_add_right, sub_add_cancel]
      congr 1
      ring
    have hmin : min (c + w + e) (max (c - e) (x - w) + w) =
        min (c + e) (max (c - e) (x - w)) + w := by
      rw [← min_add_add_right]
      congr 1
      ring
    rw [hmax, hmin]
    ring
  ext <;> exact hcoordinate _ _ _ _

end BoundingBox

variable (tests : BoxTests ℝ) (bound : BoundingSphere ℝ)

theorem correction_boxSphere (box : BoundingBox ℝ) :
    correction tests (.aabb box) (.sphere bound) =
      if bound.radius ≤ (bound.center - box.closest bound.center).length then none
      else some ((bound.center - box.closest bound.center).scale
        (if 0.001 < (bound.center - box.closest bound.center).length then
          -(bound.radius - (bound.center - box.closest bound.center).length) /
            (bound.center - box.closest bound.center).length else 0)) := by
  show (pushBoxSphere box bound).map _ = _
  unfold pushBoxSphere
  dsimp only
  simp only [sq_le_dot_iff bound.radius_nonneg]
  split
  · rfl
  · exact congrArg some (directed_scale _ _ _)

theorem pushLaw_aabbSphere (box : BoundingBox ℝ) :
    PushLaw tests (.aabb box) (.sphere bound) ↔
      PushCondition tests (.aabb box) (.sphere bound) := by
  refine (pushLaw_boxSphere (correction_boxSphere tests bound box) rfl
    (and_congr_right fun _ => not_congr sub_eq_zero_iff.symm) Iff.rfl ?_ ?_).trans
      (or_congr_right sub_eq_zero_iff)
  · intro hsame
    have hcenter : box.center = bound.center := hsame
    rw [sub_eq_zero_iff, ← hcenter]
    exact box.closest_center
  · -- the box is taken into the sphere
    rintro hnear hoff ⟨htouch, -⟩
    have hpush := correction_boxSphere tests bound box
    rw [if_neg hnear.not_ge] at hpush
    rw [pushed_some hpush] at htouch
    have hgap : (bound.center - BoundingBox.closest { box with center := box.center + _ }
        bound.center).length = bound.radius := htouch
    rw [box.closest_moved, scale_scale] at hgap
    refine pulled_not_touching box.closest_nearest hnear (mt sub_eq_zero_iff.mpr hoff) ?_ hgap
    split
    · right
      ring
    · left
      ring

theorem UnitQuaternion.rotation_axes (q : UnitQuaternion ℝ) :
    OrthonormalAxes ![q.rotation.right.coords, q.rotation.up.coords,
      q.rotation.backward.coords] := by
  have hunit := q.unit
  have hlengths : q.rotation.right.dot q.rotation.right = 1 ∧
      q.rotation.up.dot q.rotation.up = 1 ∧
      q.rotation.backward.dot q.rotation.backward = 1 := by
    simp only [Vec3.dot, rotation]
    refine ⟨?_, ?_, ?_⟩
    · linear_combination 4 * (q.y * q.y + q.z * q.z) * hunit
    · linear_combination 4 * (q.x * q.x + q.z * q.z) * hunit
    · linear_combination 4 * (q.x * q.x + q.y * q.y) * hunit
  have hangles : q.rotation.right.dot q.rotation.up = 0 ∧
      q.rotation.right.dot q.rotation.backward = 0 ∧
      q.rotation.up.dot q.rotation.backward = 0 := by
    simp only [Vec3.dot, rotation]
    refine ⟨?_, ?_, ?_⟩
    · linear_combination -4 * (q.x * q.y) * hunit
    · linear_combination -4 * (q.x * q.z) * hunit
    · linear_combination -4 * (q.y * q.z) * hunit
  simp only [Vec3.dot_coords] at hlengths hangles
  intro i j
  fin_cases i <;> fin_cases j
  · exact hlengths.1
  · exact hangles.1
  · exact hangles.2.1
  · exact (dotProduct_comm _ _).trans hangles.1
  · exact hlengths.2.1
  · exact hangles.2.2
  · exact (dotProduct_comm _ _).trans hangles.2.1
  · exact (dotProduct_comm _ _).trans hangles.2.2
  · exact hlengths.2.2

namespace BoundingOrientedBox

noncomputable def axes (box : BoundingOrientedBox ℝ) : Fin 3 → Fin 3 → ℝ :=
  ![box.orientation.rotation.right.coords, box.orientation.rotation.up.coords,
    box.orientation.rotation.backward.coords]

/-- The coordinates of a point in the box's own axes. -/
noncomputable def localOf (box : BoundingOrientedBox ℝ) (point : Vec3 ℝ) (i : Fin 3) : ℝ :=
  (point - box.center).coords ⬝ᵥ box.axes i

/-- The coordinates of the closest point. -/
noncomputable def clamped (box : BoundingOrientedBox ℝ) (point : Vec3 ℝ) (i : Fin 3) : ℝ :=
  clampTo (-box.extents.coords i) (box.extents.coords i) (box.localOf point i)

variable (box : BoundingOrientedBox ℝ)

theorem extents_coords_nonneg (i : Fin 3) : 0 ≤ box.extents.coords i := by
  obtain ⟨hx, hy, hz⟩ := box.extents_nonneg
  fin_cases i
  · exact hx
  · exact hy
  · exact hz

theorem closest_coords (point : Vec3 ℝ) : (box.closest point).coords =
    box.center.coords + ∑ i, box.clamped point i • box.axes i := by
  have hclamp : ∀ {e x : ℝ}, 0 ≤ e → max (-e) (min e x) = clampTo (-e) e x := by
    intro e x he
    rw [clampTo, max_min_distrib_left, max_eq_right (by linarith)]
  obtain ⟨hx, hy, hz⟩ := box.extents_nonneg
  unfold closest
  dsimp only
  rw [hclamp hx, hclamp hy, hclamp hz, Vec3.dot_coords, Vec3.dot_coords, Vec3.dot_coords,
    Vec3.coords_add, Vec3.coords_add, Vec3.coords_add, Vec3.coords_scale, Vec3.coords_scale,
    Vec3.coords_scale, Fin.sum_univ_three]
  rfl

/-- The part along an axis of what a point is away from a closest point. -/
theorem part_sub_closest (point other : Vec3 ℝ) (i : Fin 3) :
    (point - box.closest other).coords ⬝ᵥ box.axes i =
      box.localOf point i - box.clamped other i := by
  have haxes : OrthonormalAxes box.axes := box.orientation.rotation_axes
  rw [Vec3.coords_sub, closest_coords, ← sub_sub, ← Vec3.coords_sub, sub_dotProduct,
    haxes.part_sum]
  rfl

theorem closest_nearest (point other : Vec3 ℝ) :
    (point - box.closest point).length ≤ (point - box.closest other).length := by
  have haxes : OrthonormalAxes box.axes := box.orientation.rotation_axes
  apply length_le_length
  rw [Vec3.dot_coords, Vec3.dot_coords, haxes.dotProduct_eq, haxes.dotProduct_eq]
  refine Finset.sum_le_sum fun i _ => ?_
  rw [part_sub_closest, part_sub_closest]
  have hextent := box.extents_coords_nonneg i
  exact clampTo_nearest _ (clampTo_mem (by linarith) _)

theorem closest_center : box.closest box.center = box.center := by
  have hlocal : ∀ i, box.localOf box.center i = 0 := by
    intro i
    rw [localOf, Vec3.coords_sub, sub_self, zero_dotProduct]
  have hclamped : ∀ i, box.clamped box.center i = 0 := by
    intro i
    have hextent := box.extents_coords_nonneg i
    rw [clamped, hlocal, clampTo_of_mem (by linarith) hextent]
  rw [← Vec3.coords_inj, closest_coords]
  simp only [hclamped, zero_smul, Finset.sum_const_zero, add_zero]

end BoundingOrientedBox

theorem correction_obbSphere (box : BoundingOrientedBox ℝ) :
    correction tests (.obb box) (.sphere bound) =
      if bound.radius ≤ (bound.center - box.closest bound.center).length then none
      else some ((bound.center - box.closest bound.center).scale
        (if 0.0001 < (bound.center - box.closest bound.center).length then
          (bound.radius - (bound.center - box.closest bound.center).length) /
            (bound.center - box.closest bound.center).length else 0)) := by
  show (pushObbSphere box bound).map _ = _
  unfold pushObbSphere
  dsimp only
  simp only [sq_le_dot_iff bound.radius_nonneg]
  split
  · rfl
  · exact congrArg some (directed_scale _ _ _)

theorem pushLaw_obbSphere (box : BoundingOrientedBox ℝ) :
    PushLaw tests (.obb box) (.sphere bound) ↔
      PushCondition tests (.obb box) (.sphere bound) := by
  refine (pushLaw_boxSphere (correction_obbSphere tests bound box) rfl
    (and_congr_right fun _ => not_congr sub_eq_zero_iff.symm) Iff.rfl ?_ ?_).trans
      (or_congr_right sub_eq_zero_iff)
  · intro hsame
    have hcenter : box.center = bound.center := hsame
    rw [sub_eq_zero_iff, ← hcenter]
    exact box.closest_center
  · -- the sphere is taken into the box
    rintro hnear hoff ⟨-, htouch⟩
    have hpush : correction tests (.sphere bound) (.obb box) = _ :=
      correction_obbSphere tests bound box
    rw [if_neg hnear.not_ge] at hpush
    rw [pushed_some hpush] at htouch
    have hgap : (bound.center + _ - box.closest (bound.center + _)).length = bound.radius := htouch
    rw [add_opposite] at hgap
    refine pulled_not_touching box.closest_nearest hnear (mt sub_eq_zero_iff.mpr hoff) ?_ hgap
    split
    · exact .inr rfl
    · exact .inl rfl

end BoxSphere

/-! ## Axis-aligned boxes -/

section Boxes

variable {tests : BoxTests ℝ} {a b : BoundingBox ℝ}

/-- How far two boxes overlap on an axis. -/
noncomputable def overlapOn (a b : BoundingBox ℝ) (i : Fin 3) : ℝ :=
  a.extents.coords i + b.extents.coords i - |(b.center - a.center).coords i|

/-- The axis of the push. -/
noncomputable def leastAxis (a b : BoundingBox ℝ) : Fin 3 :=
  if overlapOn a b 0 < overlapOn a b 1 ∧ overlapOn a b 0 < overlapOn a b 2 then 0
  else if overlapOn a b 1 < overlapOn a b 2 then 1
  else 2

noncomputable def axisSign (offset : ℝ) : ℝ :=
  if 0 < offset then 1 else -1

theorem overlap_eq (a b : BoundingBox ℝ) :
    overlap a b = min (min (overlapOn a b 0) (overlapOn a b 1)) (overlapOn a b 2) :=
  rfl

theorem overlap_pos_iff : 0 < overlap a b ↔ ∀ i, 0 < overlapOn a b i := by
  rw [overlap_eq, lt_min_iff, lt_min_iff, Fin.forall_fin_succ, Fin.forall_fin_succ,
    Fin.forall_fin_one, and_assoc]
  rfl

theorem overlap_eq_zero {i : Fin 3} (hi : overlapOn a b i = 0) (hall : ∀ j, 0 ≤ overlapOn a b j) :
    overlap a b = 0 := by
  rw [overlap_eq]
  refine le_antisymm ?_ (le_min (le_min (hall 0) (hall 1)) (hall 2))
  rw [← hi]
  fin_cases i
  · exact (min_le_left _ _).trans (min_le_left _ _)
  · exact (min_le_left _ _).trans (min_le_right _ _)
  · exact min_le_right _ _

theorem overlapOn_comm (a b : BoundingBox ℝ) (i : Fin 3) : overlapOn a b i = overlapOn b a i := by
  rw [overlapOn, overlapOn, Vec3.coords_sub, Vec3.coords_sub, Pi.sub_apply, Pi.sub_apply,
    abs_sub_comm, add_comm (a.extents.coords i)]

theorem leastAxis_comm (a b : BoundingBox ℝ) : leastAxis a b = leastAxis b a := by
  unfold leastAxis
  simp only [overlapOn_comm a b]

theorem leastOffset_eq (a b : BoundingBox ℝ) :
    leastOffset a b = (b.center - a.center).coords (leastAxis a b) := by
  show (if overlapOn a b 0 < overlapOn a b 1 ∧ overlapOn a b 0 < overlapOn a b 2 then _
    else if overlapOn a b 1 < overlapOn a b 2 then _ else _) = _
  unfold leastAxis
  split_ifs <;> rfl

/-- Boxes that overlap have a common point. -/
theorem exists_common_of_overlap (h : 0 < overlap a b) :
    ∃ point, a.Contains point ∧ b.Contains point := by
  have hcoordinate : ∀ {c c' e e' : ℝ}, 0 ≤ e → 0 ≤ e' → 0 < e + e' - |c' - c| →
      ∃ x, |x - c| ≤ e ∧ |x - c'| ≤ e' := by
    intro c c' e e' he he' hoverlap
    obtain ⟨hlow, hhigh⟩ := abs_lt.mp (sub_pos.mp hoverlap)
    refine ⟨max (c - e) (c' - e'), abs_le.mpr ⟨?_, ?_⟩, abs_le.mpr ⟨?_, ?_⟩⟩
    · linarith [le_max_left (c - e) (c' - e')]
    · rw [sub_le_iff_le_add]
      exact max_le (by linarith) (by linarith)
    · linarith [le_max_right (c - e) (c' - e')]
    · rw [sub_le_iff_le_add]
      exact max_le (by linarith) (by linarith)
  obtain ⟨hx, hy, hz⟩ := a.extents_nonneg
  obtain ⟨hx', hy', hz'⟩ := b.extents_nonneg
  have hall := overlap_pos_iff.mp h
  obtain ⟨x, hax, hbx⟩ := hcoordinate hx hx' (hall 0)
  obtain ⟨y, hay, hby⟩ := hcoordinate hy hy' (hall 1)
  obtain ⟨z, haz, hbz⟩ := hcoordinate hz hz' (hall 2)
  exact ⟨⟨x, y, z⟩, ⟨hax, hay, haz⟩, hbx, hby, hbz⟩

/-- Boxes that overlap are pushed along one axis. -/
theorem correction_boxes (htests : tests.Exact) (h : 0 < overlap a b) :
    ∃ push, correction tests (.aabb a) (.aabb b) = some push ∧
      push.coords = Pi.single (leastAxis a b)
        (axisSign (leastOffset a b) * overlapOn a b (leastAxis a b)) := by
  have hfound := (htests.aabbAabb a b).mpr (exists_common_of_overlap h)
  have hall := overlap_pos_iff.mp h
  have hcode : computePushMove tests (.aabb a) (.aabb b) =
      if overlapOn a b 0 ≤ 0 ∨ overlapOn a b 1 ≤ 0 ∨ overlapOn a b 2 ≤ 0 then none
      else if overlapOn a b 0 < overlapOn a b 1 ∧ overlapOn a b 0 < overlapOn a b 2 then
        some ⟨⟨axisSign ((b.center - a.center).coords 0), 0, 0⟩, overlapOn a b 0⟩
      else if overlapOn a b 1 < overlapOn a b 2 then
        some ⟨⟨0, axisSign ((b.center - a.center).coords 1), 0⟩, overlapOn a b 1⟩
      else some ⟨⟨0, 0, axisSign ((b.center - a.center).coords 2)⟩, overlapOn a b 2⟩ := by
    show pushBoxes tests a b = _
    rw [pushBoxes, hfound]
    rfl
  rw [if_neg (by simp only [not_or, not_le]; exact ⟨hall 0, hall 1, hall 2⟩)] at hcode
  rw [correction, hcode, leastOffset_eq]
  unfold leastAxis
  split_ifs
  all_goals
    refine ⟨_, rfl, ?_⟩
    ext j
    fin_cases j <;> simp [Vec3.coords]

theorem overlap_comm (a b : BoundingBox ℝ) : overlap a b = overlap b a := by
  rw [overlap_eq, overlap_eq, overlapOn_comm, overlapOn_comm a b, overlapOn_comm a b]

theorem leastOffset_comm (a b : BoundingBox ℝ) : leastOffset b a = -leastOffset a b := by
  rw [leastOffset_eq, leastOffset_eq, leastAxis_comm, Vec3.coords_sub, Vec3.coords_sub,
    Pi.sub_apply, Pi.sub_apply, neg_sub]

theorem correction_boxes_none (tests : BoxTests ℝ) (h : ¬0 < overlap a b) :
    correction tests (.aabb a) (.aabb b) = none := by
  have hapart : overlapOn a b 0 ≤ 0 ∨ overlapOn a b 1 ≤ 0 ∨ overlapOn a b 2 ≤ 0 := by
    rw [overlap_eq, lt_min_iff, lt_min_iff, not_and_or, not_and_or, or_assoc] at h
    simpa only [not_lt] using h
  show (pushBoxes tests a b).map _ = none
  unfold pushBoxes
  split
  · rfl
  · exact congrArg _ (if_pos hapart)

/-- A coordinate grows by what is added in its own direction. -/
theorem abs_add_axisSign (offset : ℝ) {length : ℝ} (h : 0 ≤ length) :
    |offset + axisSign offset * length| = |offset| + length := by
  unfold axisSign
  split_ifs with hpos
  · rw [one_mul, abs_of_pos hpos, abs_of_nonneg (by linarith)]
  · rw [abs_of_nonpos (not_lt.mp hpos), abs_of_nonpos (by linarith)]
    ring

/-- Moved by the push, a box is beside the other one. -/
theorem boxes_touch (htests : tests.Exact) (h : 0 < overlap a b) :
    Touching (pushed tests (.aabb a) (.aabb b)) (.aabb b) := by
  obtain ⟨push, hpush, hcoords⟩ := correction_boxes htests h
  rw [pushed_some hpush]
  show overlap { a with center := a.center + push.scale (-1) } b = 0
  have hall := overlap_pos_iff.mp h
  rw [leastOffset_eq] at hcoords
  generalize leastAxis a b = i at hcoords
  have hmoved : ∀ j, overlapOn { a with center := a.center + push.scale (-1) } b j =
      a.extents.coords j + b.extents.coords j -
        |(b.center - a.center).coords j + push.coords j| := by
    intro j
    rw [overlapOn, add_opposite, Vec3.coords_sub, Vec3.coords_sub, Vec3.coords_sub,
      Pi.sub_apply, Pi.sub_apply, Pi.sub_apply, ← sub_add]
  refine overlap_eq_zero (i := i) ?_ fun j => ?_
  · rw [hmoved, hcoords, Pi.single_eq_same, abs_add_axisSign _ (hall i).le, overlapOn]
    ring
  · by_cases hj : j = i
    · rw [hj, hmoved, hcoords, Pi.single_eq_same, abs_add_axisSign _ (hall i).le, overlapOn]
      linarith
    · rw [hmoved, hcoords, Pi.single_eq_of_ne hj, add_zero]
      exact (hall j).le

theorem axisSign_neg_iff (offset : ℝ) : axisSign (-offset) = -axisSign offset ↔ offset ≠ 0 := by
  unfold axisSign
  rcases lt_trichotomy offset 0 with hneg | hzero | hpos
  · rw [if_pos (neg_pos.mpr hneg), if_neg hneg.not_gt, neg_neg]
    exact iff_of_true rfl hneg.ne
  · rw [hzero, neg_zero, if_neg (lt_irrefl _)]
    norm_num
  · rw [if_neg (by linarith), if_pos hpos]
    exact iff_of_true rfl hpos.ne'

/-- Boxes push each other by opposite corrections if they are apart on the axis of the push. -/
theorem boxes_opposite (htests : tests.Exact) (h : 0 < overlap a b) :
    correction tests (.aabb b) (.aabb a) =
        (correction tests (.aabb a) (.aabb b)).map (fun push => push.scale (-1)) ↔
      leastOffset a b ≠ 0 := by
  obtain ⟨push, hpush, hcoords⟩ := correction_boxes htests h
  obtain ⟨push', hpush', hcoords'⟩ := correction_boxes htests ((overlap_comm a b).symm ▸ h)
  have hpositive := overlap_pos_iff.mp h (leastAxis a b)
  rw [← leastAxis_comm, leastOffset_comm, ← overlapOn_comm] at hcoords'
  rw [hpush, hpush', Option.map_some, Option.some.injEq, ← Vec3.coords_inj, Vec3.coords_scale,
    hcoords, hcoords', ← axisSign_neg_iff]
  constructor
  · intro hsame
    have hvalue := congrFun hsame (leastAxis a b)
    rw [Pi.smul_apply, Pi.single_eq_same, Pi.single_eq_same, smul_eq_mul, ← mul_assoc,
      neg_one_mul] at hvalue
    exact mul_right_cancel₀ hpositive.ne' hvalue
  · intro hsign
    rw [hsign, ← Pi.single_smul, smul_eq_mul, neg_one_mul, neg_mul]

theorem pushLaw_aabbs (htests : tests.Exact) (a b : BoundingBox ℝ) :
    PushLaw tests (.aabb a) (.aabb b) ↔ PushCondition tests (.aabb a) (.aabb b) := by
  constructor
  · intro h hoverlap
    exact (boxes_opposite htests hoverlap).mp h.opposite
  · intro h
    refine ⟨?_, (separates_iff _ _ _).mpr fun hoverlap _ => boxes_touch htests hoverlap,
      (separates_iff _ _ _).mpr fun hoverlap _ => boxes_touch htests hoverlap⟩
    by_cases hoverlap : 0 < overlap a b
    · exact (boxes_opposite htests hoverlap).mpr (h hoverlap)
    · have hoverlap' : ¬0 < overlap b a := overlap_comm a b ▸ hoverlap
      rw [correction_boxes_none tests hoverlap, correction_boxes_none tests hoverlap']
      rfl

end Boxes

/-! ## Oriented boxes -/

section OrientedBoxes

variable {tests : BoxTests ℝ}

theorem normalize_length {v : Vec3 ℝ} (h : 0 < v.length) : v.normalize.length = 1 := by
  rw [Vec3.normalize, length_scale, abs_of_pos (one_div_pos.mpr h), mul_one_div_cancel h.ne']

theorem normalize_sub_comm (v w : Vec3 ℝ) : (w - v).normalize = (v - w).normalize.scale (-1) := by
  rw [Vec3.normalize, Vec3.normalize, length_sub_comm w v, sub_eq_scale w v, scale_comm]

theorem dot_sub_comm (v w : Vec3 ℝ) : (w - v).dot (w - v) = (v - w).dot (v - w) := by
  rw [← length_mul_self, ← length_mul_self, length_sub_comm]

/-- Boxes without extents that have a common point have the same centre. -/
theorem extents_pos {a : BoundingBox ℝ} {b : BoundingOrientedBox ℝ}
    (hcommon : ∃ point, a.Contains point ∧ b.Contains point) (hdiffer : a.center ≠ b.center) :
    0 < (a.extents.x + a.extents.y + a.extents.z) / 3 +
      (b.extents.x + b.extents.y + b.extents.z) / 3 := by
  obtain ⟨hx, hy, hz⟩ := a.extents_nonneg
  obtain ⟨hx', hy', hz'⟩ := b.extents_nonneg
  by_contra hnone
  obtain ⟨point, ⟨hpx, hpy, hpz⟩, hright, hup, hbackward⟩ := hcommon
  have hzero : ∀ {x e : ℝ}, |x| ≤ e → e ≤ 0 → x = 0 := fun hx he =>
    abs_nonpos_iff.mp (hx.trans he)
  have hfirst : a.center = point := by
    rw [← sub_eq_zero_iff]
    ext
    · exact hzero hpx (by linarith)
    · exact hzero hpy (by linarith)
    · exact hzero hpz (by linarith)
  have hsecond : b.center = point := by
    have haxes : OrthonormalAxes b.axes := b.orientation.rotation_axes
    rw [Vec3.dot_coords] at hright hup hbackward
    have hperpendicular : ∀ i, (point - b.center).coords ⬝ᵥ b.axes i = 0 := by
      intro i
      fin_cases i
      · exact hzero hright (by linarith)
      · exact hzero hup (by linarith)
      · exact hzero hbackward (by linarith)
    have hsame := haxes.eq_zero_of_perpendicular hperpendicular
    rw [Vec3.coords_sub, sub_eq_zero] at hsame
    exact (Vec3.coords_inj.mp hsame).symm
  exact hdiffer (hfirst.trans hsecond.symm)

/-- A push that is its own opposite is none. -/
theorem length_of_opposite {push : Vec3 ℝ} (h : push = push.scale (-1)) : push.length = 0 := by
  have hcoordinate : ∀ {x : ℝ}, x = x * -1 → x = 0 := by
    intro x hx
    linarith
  have hzero : push = ⟨0, 0, 0⟩ := by
    ext
    · exact hcoordinate (congrArg Vec3.x h)
    · exact hcoordinate (congrArg Vec3.y h)
    · exact hcoordinate (congrArg Vec3.z h)
  rw [hzero, Vec3.length]
  show √_ = 0
  norm_num [Vec3.dot]

theorem pushLaw_aabbObb (htests : tests.Exact) (a : BoundingBox ℝ) (b : BoundingOrientedBox ℝ) :
    PushLaw tests (.aabb a) (.obb b) ↔ PushCondition tests (.aabb a) (.obb b) := by
  have hmirrored : correction tests (.obb b) (.aabb a) = correction tests (.aabb a) (.obb b) := rfl
  constructor
  · intro h hfound
    by_contra hfar
    have hpush : correction tests (.aabb a) (.obb b) =
        some ((b.center - a.center).normalize.scale
          (((a.extents.x + a.extents.y + a.extents.z) / 3 +
            (b.extents.x + b.extents.y + b.extents.z) / 3) * 0.1)) := by
      show (pushBoxObb tests a b).map _ = _
      rw [pushBoxObb, hfound]
      exact congrArg _ (if_neg hfar)
    have hopposite := h.opposite
    rw [hmirrored, hpush] at hopposite
    have hlength := length_of_opposite (Option.some.inj hopposite)
    have hdiffer : a.center ≠ b.center := by
      intro hsame
      apply hfar
      rw [sub_eq_zero_iff.mpr hsame]
      norm_num [Vec3.dot]
    rw [length_scale, normalize_length (length_sub_pos hdiffer), one_mul, abs_eq_zero] at hlength
    have hforce := extents_pos ((htests.aabbObb a b).mp hfound) hdiffer
    norm_num at hlength
    linarith
  · intro h
    have hnone : correction tests (.aabb a) (.obb b) = none := by
      show (pushBoxObb tests a b).map _ = none
      unfold pushBoxObb
      split
      · rfl
      · rename_i hfound
        exact congrArg _ (if_pos (h (by simpa using hfound)))
    refine ⟨?_, fun hoverlap => hoverlap.elim, fun hoverlap => hoverlap.elim⟩
    rw [hmirrored, hnone]
    rfl

theorem pushLaw_obbs (htests : tests.Exact) (a b : BoundingOrientedBox ℝ) :
    PushLaw tests (.obb a) (.obb b) := by
  refine ⟨?_, fun hoverlap => hoverlap.elim, fun hoverlap => hoverlap.elim⟩
  have hsame : tests.obbObb b a = tests.obbObb a b := by
    rw [Bool.eq_iff_iff, htests.obbObb, htests.obbObb]
    exact exists_congr fun point => and_comm
  show (pushObbs tests b a).map _ = ((pushObbs tests a b).map _).map _
  unfold pushObbs
  dsimp only
  rw [hsame, dot_sub_comm b.center a.center, normalize_sub_comm b.center a.center,
    min_comm b.extents.length]
  split_ifs
  · rfl
  · rfl
  · exact congrArg some (scale_comm _ _ _)

/-- The law holds exactly under the condition. -/
theorem pushLaw_iff (htests : tests.Exact) (a b : Collider ℝ) :
    PushLaw tests a b ↔ PushCondition tests a b := by
  cases a with
  | sphere a =>
    cases b with
    | sphere b => exact pushLaw_spheres tests a b
    | aabb b => exact (pushLaw_comm _ _ _).trans (pushLaw_aabbSphere tests a b)
    | obb b => exact (pushLaw_comm _ _ _).trans (pushLaw_obbSphere tests a b)
  | aabb a =>
    cases b with
    | sphere b => exact pushLaw_aabbSphere tests b a
    | aabb b => exact pushLaw_aabbs htests a b
    | obb b => exact pushLaw_aabbObb htests a b
  | obb a =>
    cases b with
    | sphere b => exact pushLaw_obbSphere tests b a
    | aabb b => exact (pushLaw_comm _ _ _).trans (pushLaw_aabbObb htests b a)
    | obb b => exact iff_of_true (pushLaw_obbs htests a b) trivial

/-! ## A cube and a ball -/

open Classical in
/-- Tests that find the boxes with a common point. -/
noncomputable def meetTests : BoxTests ℝ where
  aabbAabb a b := decide (∃ point, a.Contains point ∧ b.Contains point)
  aabbObb a b := decide (∃ point, a.Contains point ∧ b.Contains point)
  obbObb a b := decide (∃ point, a.Contains point ∧ b.Contains point)

theorem meetTests_exact : meetTests.Exact where
  aabbAabb a b := by simp [meetTests]
  aabbObb a b := by simp [meetTests]
  obbObb a b := by simp [meetTests]

def cube : BoundingBox ℝ where
  center := ⟨0, 0, 0⟩
  extents := ⟨1, 1, 1⟩
  extents_nonneg := ⟨zero_le_one, zero_le_one, zero_le_one⟩

/-- A cube that overlaps the other one. -/
def nextCube : BoundingBox ℝ where
  center := ⟨1, 0, 0⟩
  extents := ⟨1, 1, 1⟩
  extents_nonneg := ⟨zero_le_one, zero_le_one, zero_le_one⟩

/-- A ball beside the cube that reaches into it. -/
noncomputable def ball : BoundingSphere ℝ where
  center := ⟨2, 0, 0⟩
  radius := 3 / 2
  radius_nonneg := by norm_num

/-- The ball is pushed out of the cube, and the cube into the ball. -/
theorem cube_ball_same_push : correction meetTests (.aabb cube) (.sphere ball) =
      some ⟨-1 / 2, 0, 0⟩ ∧
    correction meetTests (.sphere ball) (.aabb cube) = some ⟨-1 / 2, 0, 0⟩ ∧
    ¬PushLaw meetTests (.aabb cube) (.sphere ball) := by
  have hgap : ball.center - cube.closest ball.center = ⟨1, 0, 0⟩ := by
    ext <;> norm_num [ball, cube, BoundingBox.closest]
  have hlength : (⟨1, 0, 0⟩ : Vec3 ℝ).length = 1 := by
    rw [Vec3.length]
    show √_ = 1
    norm_num [Vec3.dot]
  have hpush : correction meetTests (.aabb cube) (.sphere ball) = some ⟨-1 / 2, 0, 0⟩ := by
    rw [correction_boxSphere, hgap, hlength]
    have hnear : ¬ball.radius ≤ 1 := by norm_num [ball]
    rw [if_neg hnear, if_pos (by norm_num)]
    refine congrArg some ?_
    ext <;> norm_num [ball]
  refine ⟨hpush, hpush, fun h => ?_⟩
  have hopposite := h.opposite
  rw [show correction meetTests (.sphere ball) (.aabb cube) = _ from hpush, hpush] at hopposite
  have hvalue := congrArg Vec3.x (Option.some.inj hopposite)
  norm_num at hvalue

/-- Cubes that overlap push each other apart. -/
theorem pushLaw_iff_cubes : PushLaw meetTests (.aabb cube) (.aabb nextCube) := by
  refine (pushLaw_iff meetTests_exact _ _).mpr fun _ => ?_
  norm_num [leastOffset, cube, nextCube]

end OrientedBoxes

end Rigidbody

end SurvivalArena
