import SurvivalArena.Framework.OrthonormalAxes
import SurvivalArena.Framework.Zonotope
import SurvivalArena.Game.MathUtils

/-!
# The axes that separate boxes

Two boxes have a common point unless a face of one of them, or an edge of each, separates them.
The tests look at the faces only, since the products they make are those of the first box's own
axes.
-/

namespace SurvivalArena

open Matrix Zonotope

/-! ## Boxes -/

namespace OBB3D

section Boxes

variable {K : Type} [Field K] [LinearOrder K]

def axis (obb : OBB3D K) : Fin 3 → Vec3 K :=
  ![obb.orientation.right, obb.orientation.up, obb.orientation.backward]

def extent (obb : OBB3D K) : Fin 3 → K :=
  ![obb.size.x, obb.size.y, obb.size.z]

/-- The axes are orthonormal and the extents not negative. -/
structure IsBox (obb : OBB3D K) : Prop where
  axes : OrthonormalAxes fun i => (obb.axis i).coords
  extents : ∀ i, 0 ≤ obb.extent i

theorem pointInOBB_iff (point : Vec3 K) (obb : OBB3D K) : pointInOBB point obb = true ↔
    ∀ i, -obb.extent i ≤ (point - obb.position).dot (obb.axis i) ∧
      (point - obb.position).dot (obb.axis i) ≤ obb.extent i := by
  have hside : ∀ distance size : K,
      (if size < distance then false else if distance < -size then false else true) = true ↔
        -size ≤ distance ∧ distance ≤ size := by
    intro distance size
    split_ifs with hhigh hlow
    · exact iff_of_false nofun fun h => hhigh.not_ge h.2
    · exact iff_of_false nofun fun h => hlow.not_ge h.1
    · exact iff_of_true rfl ⟨not_lt.mp hlow, not_lt.mp hhigh⟩
  unfold pointInOBB
  dsimp only
  rw [List.all_cons, List.all_cons, List.all_cons, List.all_nil, Bool.and_true, Bool.and_eq_true,
    Bool.and_eq_true, hside, hside, hside]
  constructor
  · rintro ⟨hright, hup, hbackward⟩ i
    fin_cases i
    · exact hright
    · exact hup
    · exact hbackward
  · exact fun h => ⟨h 0, h 1, h 2⟩

variable [IsStrictOrderedRing K]

theorem IsBox.reach_eq {obb : OBB3D K} (h : obb.IsBox) (axis : Vec3 K) :
    obb.reach axis = ∑ i, obb.extent i * |axis.coords ⬝ᵥ (obb.axis i).coords| := by
  have hterm : ∀ i, |axis.dot (obb.axis i) * obb.extent i| =
      obb.extent i * |axis.coords ⬝ᵥ (obb.axis i).coords| := by
    intro i
    rw [abs_mul, abs_of_nonneg (h.extents i), mul_comm, Vec3.dot_coords]
  rw [← Finset.sum_congr rfl fun i _ => hterm i, Fin.sum_univ_three]
  rfl

/-- What overlaps on an axis overlaps on every multiple of it. -/
theorem overlapOnAxis_scale {obb1 obb2 : OBB3D K} {axis : Vec3 K}
    (h : obb1.overlapOnAxis obb2 axis = true) (factor : K) :
    obb1.overlapOnAxis obb2 (axis.scale factor) = true := by
  have hdot : ∀ other : Vec3 K, (axis.scale factor).dot other = factor * axis.dot other := by
    intro other
    simp only [Vec3.dot, Vec3.scale_x, Vec3.scale_y, Vec3.scale_z]
    ring
  have hreach : ∀ obb : OBB3D K, obb.reach (axis.scale factor) = |factor| * obb.reach axis := by
    intro obb
    simp only [reach, hdot, mul_assoc, abs_mul factor]
    ring
  rw [overlapOnAxis_iff] at h ⊢
  rw [hdot, hreach, hreach, abs_mul, ← mul_add]
  exact mul_le_mul_of_nonneg_left h (abs_nonneg factor)

omit [IsStrictOrderedRing K] in
/-- The product of two axes of a box is a multiple of one of them. -/
theorem IsBox.cross_eq_scale {obb : OBB3D K} (h : obb.IsBox) (i j : Fin 3) :
    ∃ k, ∃ factor : K, (obb.axis i).cross (obb.axis j) = (obb.axis k).scale factor := by
  obtain ⟨k, factor, hfactor⟩ := h.axes.cross_eq_smul i j
  refine ⟨k, factor, Vec3.coords_inj.mp ?_⟩
  rw [Vec3.coords_cross, Vec3.coords_scale]
  exact hfactor

/-- The boxes overlap on the normals of all faces. -/
def FacesOverlap (obb1 obb2 : OBB3D K) : Prop :=
  ∀ i, obb1.overlapOnAxis obb2 (obb1.axis i) = true ∧ obb1.overlapOnAxis obb2 (obb2.axis i) = true

/-- The boxes overlap on the products of their edges. -/
def EdgesOverlap (obb1 obb2 : OBB3D K) : Prop :=
  ∀ i j, obb1.overlapOnAxis obb2 ((obb1.axis i).cross (obb2.axis j)) = true

/-- The test is that of the faces: the products it looks at are multiples of axes of the first
box. -/
theorem IsBox.obbobb_iff {obb1 : OBB3D K} (h : obb1.IsBox) (obb2 : OBB3D K) :
    obbobb obb1 obb2 = true ↔ FacesOverlap obb1 obb2 := by
  unfold obbobb testAxes FacesOverlap
  rw [List.all_append, Bool.and_eq_true, List.all_eq_true, List.all_eq_true]
  constructor
  · rintro ⟨hfaces, -⟩ i
    fin_cases i
    · exact ⟨hfaces _ (by simp [axis]), hfaces _ (by simp [axis])⟩
    · exact ⟨hfaces _ (by simp [axis]), hfaces _ (by simp [axis])⟩
    · exact ⟨hfaces _ (by simp [axis]), hfaces _ (by simp [axis])⟩
  · intro hfaces
    refine ⟨?_, fun product hproduct => ?_⟩
    · simp only [Vector.toList_mk, List.forall_mem_cons]
      exact ⟨(hfaces 0).1, (hfaces 1).1, (hfaces 2).1, (hfaces 0).2, (hfaces 1).2, (hfaces 2).2,
        nofun⟩
    · obtain ⟨i, -, hmem⟩ := List.mem_flatMap.mp hproduct
      have hfirst : #v[obb1.orientation.right, obb1.orientation.up, obb1.orientation.backward,
          obb2.orientation.right, obb2.orientation.up, obb2.orientation.backward].get
            (i.castLE (by decide)) = obb1.axis i := by
        fin_cases i <;> rfl
      rw [hfirst] at hmem
      obtain ⟨j, rfl⟩ : ∃ j, product = (obb1.axis i).cross (obb1.axis j) := by
        simp only [List.mem_cons, List.not_mem_nil, or_false] at hmem
        rcases hmem with hright | hup | hbackward
        · exact ⟨0, hright⟩
        · exact ⟨1, hup⟩
        · exact ⟨2, hbackward⟩
      obtain ⟨k, factor, hmultiple⟩ := h.cross_eq_scale i j
      rw [hmultiple]
      exact overlapOnAxis_scale (hfaces k).1 factor

end Boxes

/-! ## Common points -/

section Meeting

variable {obb1 obb2 : OBB3D ℝ}

/-- The boxes have a common point. -/
def Meet (obb1 obb2 : OBB3D ℝ) : Prop :=
  ∃ point, pointInOBB point obb1 = true ∧ pointInOBB point obb2 = true

/-- The axes of both boxes. -/
def edges (obb1 obb2 : OBB3D ℝ) : Fin 3 ⊕ Fin 3 → Fin 3 → ℝ :=
  Sum.elim (fun i => (obb1.axis i).coords) fun i => (obb2.axis i).coords

def extents (obb1 obb2 : OBB3D ℝ) : Fin 3 ⊕ Fin 3 → ℝ :=
  Sum.elim obb1.extent obb2.extent

/-- Boxes with a common point are as far apart as steps within both of them. -/
theorem meet_iff_reaches (h1 : obb1.IsBox) (h2 : obb2.IsBox) : Meet obb1 obb2 ↔
    Reaches (edges obb1 obb2) (extents obb1 obb2) (obb2.position - obb1.position).coords := by
  constructor
  · rintro ⟨point, hin1, hin2⟩
    rw [pointInOBB_iff] at hin1 hin2
    refine ⟨Sum.elim (fun i => (point - obb1.position).dot (obb1.axis i))
      (fun i => -(point - obb2.position).dot (obb2.axis i)), ?_, ?_⟩
    · rintro (i | i)
      · exact abs_le.mpr (hin1 i)
      · exact (abs_neg _).trans_le (abs_le.mpr (hin2 i))
    · have hpart1 := h1.axes.expand (point - obb1.position).coords
      have hpart2 := h2.axes.expand (point - obb2.position).coords
      simp only [← Vec3.dot_coords] at hpart1 hpart2
      rw [Fintype.sum_sum_type]
      simp only [edges, Sum.elim_inl, Sum.elim_inr, neg_smul, Finset.sum_neg_distrib]
      rw [hpart1, hpart2, Vec3.coords_sub, Vec3.coords_sub, Vec3.coords_sub]
      abel
  · rintro ⟨scale, hscale, hsum⟩
    rw [Fintype.sum_sum_type, Vec3.coords_sub] at hsum
    obtain ⟨point, hpoint⟩ := Vec3.exists_coords
      (obb1.position.coords + ∑ i, scale (.inl i) • (obb1.axis i).coords)
    have hfirst : (point - obb1.position).coords =
        ∑ i, scale (.inl i) • (obb1.axis i).coords := by
      rw [Vec3.coords_sub, hpoint, add_sub_cancel_left]
    have hsecond : (point - obb2.position).coords =
        ∑ i, (-scale (.inr i)) • (obb2.axis i).coords := by
      simp only [neg_smul, Finset.sum_neg_distrib]
      rw [Vec3.coords_sub, hpoint]
      simp only [edges, Sum.elim_inl, Sum.elim_inr] at hsum
      linear_combination hsum
    refine ⟨point, (pointInOBB_iff _ _).mpr fun i => ?_, (pointInOBB_iff _ _).mpr fun i => ?_⟩
    · rw [Vec3.dot_coords, hfirst, h1.axes.part_sum]
      exact abs_le.mp (hscale (.inl i))
    · rw [Vec3.dot_coords, hsecond, h2.axes.part_sum]
      exact abs_le.mp ((abs_neg _).trans_le (hscale (.inr i)))

theorem edges_spanning (h1 : obb1.IsBox) : Spanning (edges obb1 obb2) :=
  fun _ hnormal => h1.axes.eq_zero_of_perpendicular fun i => hnormal (.inl i)

/-- Boxes overlap on an axis if neither of its directions separates them. -/
theorem overlapOnAxis_iff_excess (h1 : obb1.IsBox) (h2 : obb2.IsBox) (axis : Vec3 ℝ) :
    obb1.overlapOnAxis obb2 axis = true ↔
      excess (edges obb1 obb2) (extents obb1 obb2) (obb2.position - obb1.position).coords
        axis.coords ≤ 0 ∧
      excess (edges obb1 obb2) (extents obb1 obb2) (obb2.position - obb1.position).coords
        (-axis.coords) ≤ 0 := by
  rw [overlapOnAxis_iff, h1.reach_eq, h2.reach_eq, Vec3.dot_coords]
  simp only [excess, Fintype.sum_sum_type, edges, extents, Sum.elim_inl, Sum.elim_inr,
    neg_dotProduct, abs_neg, sub_nonpos]
  exact abs_le'

/-- Boxes meet if they overlap on the normals of their faces and on the products of their
edges. -/
theorem meet_iff (h1 : obb1.IsBox) (h2 : obb2.IsBox) :
    Meet obb1 obb2 ↔ FacesOverlap obb1 obb2 ∧ EdgesOverlap obb1 obb2 := by
  rw [meet_iff_reaches h1 h2]
  constructor
  · intro hreaches
    have hoverlap : ∀ axis : Vec3 ℝ, obb1.overlapOnAxis obb2 axis = true := fun axis =>
      (overlapOnAxis_iff_excess h1 h2 axis).mpr
        ⟨hreaches.excess_nonpos _, hreaches.excess_nonpos _⟩
    exact ⟨fun i => ⟨hoverlap _, hoverlap _⟩, fun i j => hoverlap _⟩
  · rintro ⟨hfaces, hedges⟩
    have hnonneg : ∀ k, 0 ≤ extents obb1 obb2 k := by
      rintro (i | i)
      · exact h1.extents i
      · exact h2.extents i
    refine (reaches_iff hnonneg (edges_spanning h1)).mpr ?_
    rintro (i | i) (j | j)
    · obtain ⟨k, factor, hmultiple⟩ := h1.cross_eq_scale i j
      have hoverlap := overlapOnAxis_scale (hfaces k).1 factor
      rw [← hmultiple] at hoverlap
      have hexcess := ((overlapOnAxis_iff_excess h1 h2 _).mp hoverlap).1
      rwa [Vec3.coords_cross] at hexcess
    · have hexcess := ((overlapOnAxis_iff_excess h1 h2 _).mp (hedges i j)).1
      rwa [Vec3.coords_cross] at hexcess
    · have hexcess := ((overlapOnAxis_iff_excess h1 h2 _).mp (hedges j i)).2
      rwa [Vec3.coords_cross, cross_anticomm] at hexcess
    · obtain ⟨k, factor, hmultiple⟩ := h2.cross_eq_scale i j
      have hoverlap := overlapOnAxis_scale (hfaces k).2 factor
      rw [← hmultiple] at hoverlap
      have hexcess := ((overlapOnAxis_iff_excess h1 h2 _).mp hoverlap).1
      rwa [Vec3.coords_cross] at hexcess

theorem overlapOnAxis_comm (obb1 obb2 : OBB3D ℝ) (axis : Vec3 ℝ) :
    obb1.overlapOnAxis obb2 axis = obb2.overlapOnAxis obb1 axis := by
  unfold overlapOnAxis Interval3D.overlaps
  rw [Bool.and_comm]

theorem facesOverlap_comm (obb1 obb2 : OBB3D ℝ) :
    FacesOverlap obb1 obb2 ↔ FacesOverlap obb2 obb1 := by
  unfold FacesOverlap
  simp only [overlapOnAxis_comm obb2 obb1]
  exact forall_congr' fun i => and_comm

theorem toOBB_isBox (aabb : AABB3D ℝ) : aabb.toOBB.IsBox where
  axes := fun i j => by
    fin_cases i <;> fin_cases j <;>
      simp [axis, AABB3D.toOBB, Vec3.coords]
  extents := fun i => by
    fin_cases i <;> exact abs_nonneg _

/-- The points of an axis-aligned box are those of the oriented box. -/
theorem pointInAABB_toOBB (point : Vec3 ℝ) (aabb : AABB3D ℝ) :
    pointInAABB point aabb = pointInOBB point aabb.toOBB := by
  have hinside : pointInAABB point aabb = true ↔
      (aabb.getMin.x ≤ point.x ∧ aabb.getMin.y ≤ point.y ∧ aabb.getMin.z ≤ point.z) ∧
        point.x ≤ aabb.getMax.x ∧ point.y ≤ aabb.getMax.y ∧ point.z ≤ aabb.getMax.z := by
    unfold pointInAABB
    dsimp only
    split_ifs with hlow hhigh
    · refine iff_of_false nofun fun h => ?_
      rcases hlow with hx | hy | hz
      · exact hx.not_ge h.1.1
      · exact hy.not_ge h.1.2.1
      · exact hz.not_ge h.1.2.2
    · refine iff_of_false nofun fun h => ?_
      rcases hhigh with hx | hy | hz
      · exact hx.not_ge h.2.1
      · exact hy.not_ge h.2.2.1
      · exact hz.not_ge h.2.2.2
    · simp only [not_or, not_lt] at hlow hhigh
      exact iff_of_true rfl ⟨hlow, hhigh⟩
  rw [Bool.eq_iff_iff, hinside, pointInOBB_iff, Fin.forall_fin_succ, Fin.forall_fin_succ,
    Fin.forall_fin_one]
  simp [AABB3D.getMin, AABB3D.getMax, AABB3D.toOBB, axis, extent, Vec3.dot, min_add_sub,
    max_add_sub]
  constructor
  · rintro ⟨⟨hx, hy, hz⟩, hx', hy', hz'⟩
    exact ⟨⟨by linarith, by linarith⟩, ⟨by linarith, by linarith⟩, by linarith, by linarith⟩
  · rintro ⟨⟨hx, hx'⟩, ⟨hy, hy'⟩, hz, hz'⟩
    exact ⟨⟨by linarith, by linarith, by linarith⟩, by linarith, by linarith, by linarith⟩

/-- The tests are exact unless only the edges of the boxes keep them apart.  They do not depend on
the order of the boxes, nor on how an axis-aligned box is given. -/
theorem boxTests_exact_iff (aabb : AABB3D ℝ) (h1 : obb1.IsBox) (h2 : obb2.IsBox) :
    ((obbobb obb1 obb2 = true ↔
      ∃ point, pointInOBB point obb1 = true ∧ pointInOBB point obb2 = true) ↔
        (FacesOverlap obb1 obb2 → EdgesOverlap obb1 obb2)) ∧
    ((aabbobb aabb obb2 = true ↔
      ∃ point, pointInAABB point aabb = true ∧ pointInOBB point obb2 = true) ↔
        (FacesOverlap aabb.toOBB obb2 → EdgesOverlap aabb.toOBB obb2)) ∧
    obbobb obb1 obb2 = obbobb obb2 obb1 ∧ aabbobb aabb obb2 = obbobb aabb.toOBB obb2 := by
  have hexact : ∀ {obb : OBB3D ℝ}, obb.IsBox → ((obbobb obb obb2 = true ↔ Meet obb obb2) ↔
      (FacesOverlap obb obb2 → EdgesOverlap obb obb2)) := by
    intro obb h
    rw [h.obbobb_iff, meet_iff h h2]
    exact ⟨fun hmeet hfaces => (hmeet.mp hfaces).2,
      fun hedges => ⟨fun hfaces => ⟨hfaces, hedges hfaces⟩, And.left⟩⟩
  refine ⟨hexact h1, ?_, ?_, aabbobb_toOBB aabb obb2⟩
  · simp only [pointInAABB_toOBB, aabbobb_toOBB]
    exact hexact (toOBB_isBox aabb)
  · rw [Bool.eq_iff_iff, h1.obbobb_iff, h2.obbobb_iff]
    exact facesOverlap_comm obb1 obb2

/-! ## Boxes edge to edge -/

/-- The cube around the origin. -/
def cube : AABB3D ℝ where
  position := ⟨0, 0, 0⟩
  size := ⟨1, 1, 1⟩

/-- A turned cube, an edge of which faces an edge of the other. -/
noncomputable def turnedCube : OBB3D ℝ where
  position := ⟨1, 2, 5 / 2⟩
  size := ⟨1, 1, 1⟩
  orientation := ⟨⟨2 / 3, 2 / 3, -1 / 3⟩, ⟨-1 / 3, 2 / 3, 2 / 3⟩, ⟨2 / 3, -1 / 3, 2 / 3⟩⟩

theorem turnedCube_isBox : turnedCube.IsBox where
  axes := fun i j => by
    fin_cases i <;> fin_cases j <;>
      norm_num [axis, turnedCube, Vec3.coords]
  extents := fun i => by
    fin_cases i <;> norm_num [extent, turnedCube]

theorem turnedCube_facesOverlap : FacesOverlap cube.toOBB turnedCube := by
  intro i
  rw [overlapOnAxis_iff, overlapOnAxis_iff]
  fin_cases i <;> constructor <;>
    norm_num [axis, reach, AABB3D.toOBB, cube, turnedCube, Vec3.dot, abs_of_nonneg, abs_of_neg]

/-- The cubes have no common point, and the test says that they have one. -/
theorem turnedCube_apart : aabbobb cube turnedCube = true ∧
    obbobb cube.toOBB turnedCube = true ∧
    ¬∃ point, pointInAABB point cube = true ∧ pointInOBB point turnedCube = true := by
  have hfaces : obbobb cube.toOBB turnedCube = true :=
    ((toOBB_isBox cube).obbobb_iff _).mpr turnedCube_facesOverlap
  refine ⟨(aabbobb_toOBB _ _).trans hfaces, hfaces, ?_⟩
  simp only [pointInAABB_toOBB]
  intro hmeet
  have hedges := ((meet_iff (toOBB_isBox cube) turnedCube_isBox).mp hmeet).2 0 0
  rw [overlapOnAxis_iff] at hedges
  norm_num [axis, reach, AABB3D.toOBB, cube, turnedCube, Vec3.dot, Vec3.cross, abs_of_nonneg,
    abs_of_neg] at hedges

/-- The rule for the cubes. -/
theorem boxTests_exact_iff_turnedCube :
    (aabbobb cube turnedCube = true ↔
      ∃ point, pointInAABB point cube = true ∧ pointInOBB point turnedCube = true) ↔
        (FacesOverlap cube.toOBB turnedCube → EdgesOverlap cube.toOBB turnedCube) :=
  (boxTests_exact_iff cube turnedCube_isBox turnedCube_isBox).2.1

end Meeting

end OBB3D

end SurvivalArena
