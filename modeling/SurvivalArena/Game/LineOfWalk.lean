import SurvivalArena.Framework.Sweep
import SurvivalArena.Game.NavMeshLocation

/-!
# Straight lines on the navigation mesh

The agent moves in the plane of x and z.  Each triangle clips the segment between two points
to the part above or below it, and the parts have to cover the segment.  The tolerances are
parameters; what a tolerance takes for zero includes zero.
-/

namespace SurvivalArena

open Sweep

/-- The tolerances of the test for a line. -/
structure WalkTolerances (K : Type) where
  bounds : K
  degenerate : K
  parallel : K
  epsilon : K

variable {K : Type} [Field K]

namespace WalkTolerances

def code : WalkTolerances K := ⟨1 / 10 ^ 3, 1 / 10 ^ 12, 1 / 10 ^ 12, 1 / 10 ^ 7⟩

def zero : WalkTolerances K := ⟨0, 0, 0, 0⟩

end WalkTolerances

variable [LinearOrder K]

namespace NavMeshTriangle

/-- Twice the signed area of the triangle in the plane of x and z. -/
def denominator (triangle : NavMeshTriangle K) : K :=
  let a := triangle.vertices 0
  let b := triangle.vertices 1
  let c := triangle.vertices 2
  (b.z - c.z) * (a.x - c.x) + (c.x - b.x) * (a.z - c.z)

def weightA (triangle : NavMeshTriangle K) (point : Vec3 K) : K :=
  let b := triangle.vertices 1
  let c := triangle.vertices 2
  ((b.z - c.z) * (point.x - c.x) + (c.x - b.x) * (point.z - c.z)) / triangle.denominator

def weightB (triangle : NavMeshTriangle K) (point : Vec3 K) : K :=
  let a := triangle.vertices 0
  let c := triangle.vertices 2
  (-(a.z - c.z) * (point.x - c.x) + (a.x - c.x) * (point.z - c.z)) / triangle.denominator

/-- The bounds of the triangle and of the segment are apart. -/
def boundsApart (tolerance : K) (triangle : NavMeshTriangle K) (start finish : Vec3 K) : Bool :=
  let a := triangle.vertices 0
  let b := triangle.vertices 1
  let c := triangle.vertices 2
  SpatialGrid.greatest a.x b.x c.x < min start.x finish.x - tolerance ||
    max start.x finish.x + tolerance < SpatialGrid.least a.x b.x c.x ||
    SpatialGrid.greatest a.z b.z c.z < min start.z finish.z - tolerance ||
    max start.z finish.z + tolerance < SpatialGrid.least a.z b.z c.z

/-- The part of the segment that the triangle covers. -/
def walkInterval (tolerances : WalkTolerances K) (start finish : Vec3 K)
    (triangle : NavMeshTriangle K) : Option (K × K) :=
  if boundsApart tolerances.bounds triangle start finish then none
  else if Negligible tolerances.degenerate triangle.denominator then none
  else
    let clip := clip tolerances.parallel tolerances.epsilon
    let startA := triangle.weightA start
    let endA := triangle.weightA finish
    let startB := triangle.weightB start
    let endB := triangle.weightB finish
    ((clip startA endA (0, 1)).bind (clip startB endB)).bind
      (clip (1 - startA - startB) (1 - endA - endB))

end NavMeshTriangle

namespace GameNavMesh

def isLineOnNavMesh (tolerances : WalkTolerances K) (mesh : GameNavMesh K)
    (start finish : Vec3 K) : Bool :=
  sweep tolerances.epsilon 0 (sortIntervals
    (mesh.triangles.filterMap (NavMeshTriangle.walkInterval tolerances start finish)))

end GameNavMesh

/-! ## The plane of x and z -/

namespace NavMeshTriangle

/-- The point is above or below a point of the triangle. -/
def InProjection (triangle : NavMeshTriangle K) (point : Vec3 K) : Prop :=
  ∃ other, triangle.OnSurface other ∧ other.x = point.x ∧ other.z = point.z

/-- The point at a part of the way. -/
def pointAt (start finish : Vec3 K) (t : K) : Vec3 K :=
  start + (finish - start).scale t

omit [LinearOrder K] in
theorem weightA_pointAt (triangle : NavMeshTriangle K) (start finish : Vec3 K) (t : K) :
    triangle.weightA (pointAt start finish t) =
      triangle.weightA start + t * (triangle.weightA finish - triangle.weightA start) := by
  simp only [weightA, pointAt, Vec3.add_x, Vec3.add_z, Vec3.scale_x, Vec3.scale_z, Vec3.sub_x,
    Vec3.sub_z]
  ring

omit [LinearOrder K] in
theorem weightB_pointAt (triangle : NavMeshTriangle K) (start finish : Vec3 K) (t : K) :
    triangle.weightB (pointAt start finish t) =
      triangle.weightB start + t * (triangle.weightB finish - triangle.weightB start) := by
  simp only [weightB, pointAt, Vec3.add_x, Vec3.add_z, Vec3.scale_x, Vec3.scale_z, Vec3.sub_x,
    Vec3.sub_z]
  ring

variable {triangle : NavMeshTriangle K} {point : Vec3 K}

omit [LinearOrder K] in
/-- The weights give the point back. -/
theorem weights_combine (h : triangle.denominator ≠ 0) (point : Vec3 K) :
    (triangle.surfacePoint (1 - triangle.weightA point - triangle.weightB point)
        (triangle.weightB point)).x = point.x ∧
      (triangle.surfacePoint (1 - triangle.weightA point - triangle.weightB point)
        (triangle.weightB point)).z = point.z := by
  have hdenominator : triangle.denominator =
      ((triangle.vertices 1).z - (triangle.vertices 2).z) *
          ((triangle.vertices 0).x - (triangle.vertices 2).x) +
        ((triangle.vertices 2).x - (triangle.vertices 1).x) *
          ((triangle.vertices 0).z - (triangle.vertices 2).z) := rfl
  have hA : triangle.weightA point * triangle.denominator = _ := div_mul_cancel₀ _ h
  have hB : triangle.weightB point * triangle.denominator = _ := div_mul_cancel₀ _ h
  generalize triangle.weightA point = wA at hA ⊢
  generalize triangle.weightB point = wB at hB ⊢
  simp only [surfacePoint, Vec3.add_x, Vec3.add_z, Vec3.scale_x, Vec3.scale_z, Vec3.sub_x,
    Vec3.sub_z]
  constructor
  · refine mul_right_cancel₀ h ?_
    linear_combination ((triangle.vertices 0).x - (triangle.vertices 2).x) * hA +
      ((triangle.vertices 1).x - (triangle.vertices 2).x) * hB +
      ((triangle.vertices 2).x - point.x) * hdenominator
  · refine mul_right_cancel₀ h ?_
    linear_combination ((triangle.vertices 0).z - (triangle.vertices 2).z) * hA +
      ((triangle.vertices 1).z - (triangle.vertices 2).z) * hB +
      ((triangle.vertices 2).z - point.z) * hdenominator

omit [LinearOrder K] in
/-- The weights of a point above or below one of the triangle are its barycentric
coordinates. -/
theorem weights_surfacePoint (h : triangle.denominator ≠ 0) {u v : K}
    (hx : (triangle.surfacePoint u v).x = point.x) (hz : (triangle.surfacePoint u v).z = point.z) :
    triangle.weightA point = 1 - u - v ∧ triangle.weightB point = v := by
  unfold weightA weightB
  rw [div_eq_iff h, div_eq_iff h, ← hx, ← hz]
  simp only [denominator, surfacePoint, Vec3.add_x, Vec3.add_z, Vec3.scale_x, Vec3.scale_z,
    Vec3.sub_x, Vec3.sub_z]
  constructor <;> ring

variable [IsStrictOrderedRing K]

theorem inProjection_iff (h : triangle.denominator ≠ 0) : triangle.InProjection point ↔
    0 ≤ triangle.weightA point ∧ 0 ≤ triangle.weightB point ∧
      0 ≤ 1 - triangle.weightA point - triangle.weightB point := by
  constructor
  · intro hin
    obtain ⟨other, ⟨u, v, hu, hv, huv, rfl⟩, hx, hz⟩ := hin
    obtain ⟨hA, hB⟩ := weights_surfacePoint h hx hz
    rw [hA, hB]
    exact ⟨by linarith, hv, by linarith⟩
  · intro hweights
    obtain ⟨hA, hB, hC⟩ := hweights
    obtain ⟨hx, hz⟩ := weights_combine h point
    exact ⟨_, ⟨_, _, hC, hB, by linarith, rfl⟩, hx, hz⟩

/-- A point of the way is between its ends. -/
theorem between_ends (start finish : K) {t : K} (hlow : 0 ≤ t) (hhigh : t ≤ 1) :
    min start finish ≤ start + (finish - start) * t ∧
      start + (finish - start) * t ≤ max start finish := by
  have hmean := SpatialGrid.mean_between start start finish hlow le_rfl (by simpa using hhigh)
  simpa [SpatialGrid.least, SpatialGrid.greatest] using hmean

/-- Nothing of the segment is above or below a triangle that its bounds are apart from. -/
theorem not_inProjection_of_boundsApart {start finish : Vec3 K}
    (hapart : boundsApart 0 triangle start finish = true) {t : K} (hlow : 0 ≤ t)
    (hhigh : t ≤ 1) : ¬ triangle.InProjection (pointAt start finish t) := by
  intro hin
  obtain ⟨other, ⟨u, v, hu, hv, huv, rfl⟩, hx, hz⟩ := hin
  have hboundsX := SpatialGrid.mean_between (triangle.vertices 0).x (triangle.vertices 1).x
    (triangle.vertices 2).x hu hv huv
  have hboundsZ := SpatialGrid.mean_between (triangle.vertices 0).z (triangle.vertices 1).z
    (triangle.vertices 2).z hu hv huv
  have hwayX := between_ends start.x finish.x hlow hhigh
  have hwayZ := between_ends start.z finish.z hlow hhigh
  simp only [surfacePoint, pointAt, Vec3.add_x, Vec3.add_z, Vec3.scale_x, Vec3.scale_z,
    Vec3.sub_x, Vec3.sub_z] at hx hz
  rw [hx] at hboundsX
  rw [hz] at hboundsZ
  simp only [boundsApart, sub_zero, add_zero, Bool.or_eq_true, decide_eq_true_eq] at hapart
  rcases hapart with ((hapart | hapart) | hapart) | hapart
  · exact absurd hapart (not_lt.mpr (hwayX.1.trans hboundsX.2))
  · exact absurd hapart (not_lt.mpr (hboundsX.1.trans hwayX.2))
  · exact absurd hapart (not_lt.mpr (hwayZ.1.trans hboundsZ.2))
  · exact absurd hapart (not_lt.mpr (hboundsZ.1.trans hwayZ.2))

/-- Clipping twice. -/
theorem clip_bind {interval : K × K} {weight : K → K} {clipped : Option (K × K)}
    (hclipped : Clips interval weight clipped) (initial final : K) :
    Clips interval (fun t => min (weight t) (initial + t * (final - initial)))
      (clipped.bind (clip 0 0 initial final)) := by
  cases clipped with
  | none =>
    refine ⟨by simp, ?_⟩
    intro t
    have hnone := hclipped.iff t
    simp only [Option.not_mem_none, false_and, exists_false, false_iff] at hnone
    simp only [Option.bind_none, Option.not_mem_none, false_and, exists_false, false_iff,
      le_min_iff]
    tauto
  | some part =>
    have hproper := hclipped.proper part rfl
    have hagain := clip_clips initial final hproper
    refine ⟨hagain.proper, ?_⟩
    intro t
    have hpart := hclipped.iff t
    simp only [Option.mem_some_iff, exists_eq_left'] at hpart
    rw [Option.bind_some, hagain.iff t, le_min_iff, ← and_assoc, hpart]
    tauto

omit [IsStrictOrderedRing K] in
theorem walkInterval_apart {tolerances : WalkTolerances K} {start finish : Vec3 K}
    (hapart : boundsApart tolerances.bounds triangle start finish = true) :
    walkInterval tolerances start finish triangle = none := by
  simp [walkInterval, hapart]

theorem negligible_zero_iff {x : K} : Negligible 0 x ↔ x = 0 := by
  simp [Negligible, not_lt.mpr (abs_nonneg x)]

theorem walkInterval_degenerate {start finish : Vec3 K} (hdegenerate : triangle.denominator = 0) :
    walkInterval .zero start finish triangle = none := by
  simp [walkInterval, WalkTolerances.zero, hdegenerate, negligible_zero_iff]

theorem walkInterval_near {start finish : Vec3 K}
    (hnear : ¬ boundsApart 0 triangle start finish = true)
    (hproper : triangle.denominator ≠ 0) :
    walkInterval .zero start finish triangle =
      ((clip 0 0 (triangle.weightA start) (triangle.weightA finish) (0, 1)).bind
        (clip 0 0 (triangle.weightB start) (triangle.weightB finish))).bind
        (clip 0 0 (1 - triangle.weightA start - triangle.weightB start)
          (1 - triangle.weightA finish - triangle.weightB finish)) := by
  simp [walkInterval, WalkTolerances.zero, negligible_zero_iff, hnear, hproper]

/-- The part of the segment that a triangle covers, without tolerance. -/
theorem walkInterval_zero (triangle : NavMeshTriangle K) (start finish : Vec3 K) :
    (∀ part ∈ walkInterval .zero start finish triangle, part.1 ≤ part.2) ∧
    ∀ t, (∃ part ∈ walkInterval .zero start finish triangle, part.1 ≤ t ∧ t ≤ part.2) ↔
      0 ≤ t ∧ t ≤ 1 ∧ triangle.denominator ≠ 0 ∧
        triangle.InProjection (pointAt start finish t) := by
  by_cases hapart : boundsApart 0 triangle start finish = true
  · rw [walkInterval_apart hapart]
    refine ⟨by simp, ?_⟩
    intro t
    simp only [Option.not_mem_none, false_and, exists_false, false_iff]
    intro hin
    exact not_inProjection_of_boundsApart hapart hin.1 hin.2.1 hin.2.2.2
  by_cases hdegenerate : triangle.denominator = 0
  · rw [walkInterval_degenerate hdegenerate]
    simp [hdegenerate]
  · rw [walkInterval_near hapart hdegenerate]
    have hwhole : ((0 : K), (1 : K)).1 ≤ ((0 : K), (1 : K)).2 := zero_le_one
    have hA := clip_clips (triangle.weightA start) (triangle.weightA finish) hwhole
    have hB := clip_bind hA (triangle.weightB start) (triangle.weightB finish)
    have hC := clip_bind hB (1 - triangle.weightA start - triangle.weightB start)
      (1 - triangle.weightA finish - triangle.weightB finish)
    refine ⟨hC.proper, ?_⟩
    intro t
    have hrest : 1 - triangle.weightA start - triangle.weightB start +
        t * (1 - triangle.weightA finish - triangle.weightB finish -
          (1 - triangle.weightA start - triangle.weightB start)) =
        1 - triangle.weightA (pointAt start finish t) -
          triangle.weightB (pointAt start finish t) := by
      rw [weightA_pointAt, weightB_pointAt]
      ring
    rw [hC.iff t, inProjection_iff hdegenerate]
    simp only [hrest, ← weightA_pointAt, ← weightB_pointAt, le_min_iff, ne_eq, hdegenerate,
      not_false_eq_true, true_and, and_assoc]

end NavMeshTriangle

/-! ## The line -/

namespace GameNavMesh

variable [IsStrictOrderedRing K]

open NavMeshTriangle in
/-- Every point of the segment is above or below a triangle whose projection is not
degenerate. -/
def CoversLine (mesh : GameNavMesh K) (start finish : Vec3 K) : Prop :=
  ∀ t, 0 ≤ t → t ≤ 1 → ∃ triangle ∈ mesh.triangles, triangle.denominator ≠ 0 ∧
    triangle.InProjection (pointAt start finish t)

theorem isLineOnNavMesh_iff (mesh : GameNavMesh K) (start finish : Vec3 K) :
    mesh.isLineOnNavMesh .zero start finish = true ↔ mesh.CoversLine start finish := by
  have hproper : ∀ interval ∈ mesh.triangles.filterMap
      (NavMeshTriangle.walkInterval .zero start finish), 0 ≤ interval.2 := by
    intro interval hinterval
    obtain ⟨triangle, -, hpart⟩ := List.mem_filterMap.mp hinterval
    obtain ⟨hle, hiff⟩ := NavMeshTriangle.walkInterval_zero triangle start finish
    have hend := (hiff interval.2).mp ⟨interval, hpart, hle interval hpart, le_rfl⟩
    exact hend.1
  unfold isLineOnNavMesh
  simp only [WalkTolerances.zero] at hproper ⊢
  rw [Sweep.sweep_iff hproper]
  refine forall_congr' fun t => forall_congr' fun hlow => forall_congr' fun hhigh => ?_
  constructor
  · intro hcovered
    obtain ⟨interval, hinterval, hin⟩ := hcovered
    obtain ⟨triangle, htriangle, hpart⟩ := List.mem_filterMap.mp hinterval
    have hiff := (NavMeshTriangle.walkInterval_zero triangle start finish).2 t
    obtain ⟨-, -, hprojection⟩ := hiff.mp ⟨interval, hpart, hin⟩
    exact ⟨triangle, htriangle, hprojection⟩
  · intro hsome
    obtain ⟨triangle, htriangle, hprojection⟩ := hsome
    have hiff := (NavMeshTriangle.walkInterval_zero triangle start finish).2 t
    obtain ⟨interval, hpart, hin⟩ := hiff.mpr ⟨hlow, hhigh, hprojection⟩
    exact ⟨interval, List.mem_filterMap.mpr ⟨triangle, htriangle, hpart⟩, hin⟩

theorem coversLine_symm {mesh : GameNavMesh K} {start finish : Vec3 K}
    (h : mesh.CoversLine start finish) : mesh.CoversLine finish start := by
  intro t hlow hhigh
  have hpoint : NavMeshTriangle.pointAt finish start t =
      NavMeshTriangle.pointAt start finish (1 - t) := by
    ext <;> simp [NavMeshTriangle.pointAt] <;> ring
  rw [hpoint]
  exact h (1 - t) (by linarith) (by linarith)

/-- Without tolerance the sweep is exact; so neither the direction of the line nor the order
of the triangles matters. -/
theorem isLineOnNavMesh_exact (mesh : GameNavMesh K) (start finish : Vec3 K) :
    (mesh.isLineOnNavMesh .zero start finish = true ↔ mesh.CoversLine start finish) ∧
    mesh.isLineOnNavMesh .zero finish start = mesh.isLineOnNavMesh .zero start finish ∧
    ∀ other : GameNavMesh K, other.triangles.Perm mesh.triangles →
      other.isLineOnNavMesh .zero start finish = mesh.isLineOnNavMesh .zero start finish := by
  refine ⟨isLineOnNavMesh_iff mesh start finish, ?_, ?_⟩
  · rw [Bool.eq_iff_iff, isLineOnNavMesh_iff, isLineOnNavMesh_iff]
    exact ⟨coversLine_symm, coversLine_symm⟩
  · intro other hperm
    rw [Bool.eq_iff_iff, isLineOnNavMesh_iff, isLineOnNavMesh_iff]
    simp only [CoversLine, hperm.mem_iff]

/-- Two triangles that make up a square, wound in opposite directions. -/
def squareMesh : GameNavMesh ℚ where
  triangles := [
    { vertices := ![⟨0, 0, 0⟩, ⟨8, 0, 0⟩, ⟨8, 0, 8⟩]
      normal := ⟨0, -1, 0⟩
      center := ⟨16 / 3, 0, 8 / 3⟩ },
    { vertices := ![⟨0, 0, 0⟩, ⟨0, 0, 8⟩, ⟨8, 0, 8⟩]
      normal := ⟨0, 1, 0⟩
      center := ⟨8 / 3, 0, 16 / 3⟩ }]

theorem square_line : squareMesh.isLineOnNavMesh .zero ⟨1, 0, 7⟩ ⟨7, 0, 1⟩ = true ∧
    squareMesh.CoversLine ⟨1, 0, 7⟩ ⟨7, 0, 1⟩ := by
  have hline : squareMesh.isLineOnNavMesh .zero ⟨1, 0, 7⟩ ⟨7, 0, 1⟩ = true := by
    decide +kernel
  exact ⟨hline, (isLineOnNavMesh_exact squareMesh ⟨1, 0, 7⟩ ⟨7, 0, 1⟩).1.mp hline⟩

end GameNavMesh

end SurvivalArena
