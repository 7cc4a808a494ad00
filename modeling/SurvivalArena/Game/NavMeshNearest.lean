import SurvivalArena.Framework.MinElement
import SurvivalArena.Game.NavMeshLocation

/-!
# The nearest point of the navigation mesh

Each triangle of the cell of a point offers one of its points: the foot of the
perpendicular, where it lies in the triangle, and else the nearest of the vertices.
-/

namespace SurvivalArena

/-- The root of a number that is not negative, exactly. -/
class ExactRoot (K : Type) [Field K] [LinearOrder K] [SquareRoot K] : Prop where
  nonneg : ∀ x : K, 0 ≤ SquareRoot.root x
  mul_self : ∀ x : K, 0 ≤ x → SquareRoot.root x * SquareRoot.root x = x

instance : ExactRoot ℝ where
  nonneg := Real.sqrt_nonneg
  mul_self _ := Real.mul_self_sqrt

variable {K : Type} [Field K] [LinearOrder K] [SquareRoot K]

namespace Vec3

section Order

variable [IsStrictOrderedRing K]

theorem distance_self (a : Vec3 K) : a.distance a = 0 := by
  have hroot : SquareRoot.root (0 : K) = 0 := by
    simpa using SquareRoot.root_square (0 : K)
  simpa [distance, length, dot] using hroot

omit [SquareRoot K] in
theorem dot_self_nonneg (a : Vec3 K) : 0 ≤ a.dot a := by
  unfold dot
  nlinarith [mul_self_nonneg a.x, mul_self_nonneg a.y, mul_self_nonneg a.z]

theorem distance_le_of_dot_le [ExactRoot K] {a b c d : Vec3 K}
    (h : (a - b).dot (a - b) ≤ (c - d).dot (c - d)) : a.distance b ≤ c.distance d := by
  refine (mul_self_le_mul_self_iff (ExactRoot.nonneg _) (ExactRoot.nonneg _)).mpr ?_
  rw [ExactRoot.mul_self _ (dot_self_nonneg _), ExactRoot.mul_self _ (dot_self_nonneg _)]
  exact h

theorem eq_of_distance_le_zero [ExactRoot K] {a b : Vec3 K} (h : a.distance b ≤ 0) : a = b := by
  have hzero : a.distance b = 0 := le_antisymm h (ExactRoot.nonneg _)
  have hdot : (a - b).dot (a - b) = 0 := by
    have hsquare := ExactRoot.mul_self _ (dot_self_nonneg (a - b))
    have hroot : SquareRoot.root ((a - b).dot (a - b)) = 0 := hzero
    rw [← hsquare, hroot, mul_zero]
  simp only [dot, sub_x, sub_y, sub_z] at hdot
  have hx := mul_self_nonneg (a.x - b.x)
  have hy := mul_self_nonneg (a.y - b.y)
  have hz := mul_self_nonneg (a.z - b.z)
  ext
  · exact sub_eq_zero.mp (mul_self_eq_zero.mp (by linarith))
  · exact sub_eq_zero.mp (mul_self_eq_zero.mp (by linarith))
  · exact sub_eq_zero.mp (mul_self_eq_zero.mp (by linarith))

end Order

end Vec3

namespace NavMeshTriangle

variable {triangle : NavMeshTriangle K}

/-- The product that the normal is made of. -/
def rawNormal (triangle : NavMeshTriangle K) : Vec3 K :=
  (triangle.vertices 1 - triangle.vertices 0).cross (triangle.vertices 2 - triangle.vertices 0)

theorem Loaded.normal (h : triangle.Loaded) : triangle.normal = triangle.rawNormal.normalize := by
  have hlong := h.length
  simp only [Loaded, ofVertices, if_neg hlong, Option.map_some, Option.some.injEq] at h
  have hnormal := congrArg NavMeshTriangle.normal h
  exact hnormal.symm

theorem Loaded.center (h : triangle.Loaded) : triangle.center =
    (triangle.vertices 0 + triangle.vertices 1 + triangle.vertices 2).scale (1 / 3) := by
  have hlong := h.length
  simp only [Loaded, ofVertices, if_neg hlong, Option.map_some, Option.some.injEq] at h
  have hcenter := congrArg NavMeshTriangle.center h
  exact hcenter.symm

omit [LinearOrder K] [SquareRoot K] in
theorem surfacePoint_dot_rawNormal (triangle : NavMeshTriangle K) (u v : K) :
    (triangle.surfacePoint u v - triangle.vertices 0).dot triangle.rawNormal = 0 := by
  simp only [surfacePoint_sub, rawNormal, Vec3.dot, Vec3.cross, Vec3.add_x, Vec3.add_y,
    Vec3.add_z, Vec3.scale_x, Vec3.scale_y, Vec3.scale_z]
  ring

omit [LinearOrder K] [SquareRoot K] in
theorem rawNormal_dot_self (triangle : NavMeshTriangle K) :
    triangle.rawNormal.dot triangle.rawNormal = triangle.area := by
  rw [rawNormal, Vec3.cross_dot_cross]
  simp only [area, Vec3.dot]
  ring

omit [LinearOrder K] [SquareRoot K] in
/-- A vector that is orthogonal to the product of two others is their combination with the
coordinates that the test computes. -/
theorem combination_of_orthogonal {v0 v1 v2 : Vec3 K}
    (harea : v0.dot v0 * v1.dot v1 - v0.dot v1 * v0.dot v1 ≠ 0)
    (hplane : v2.dot (v1.cross v0) = 0) :
    v0.scale ((v1.dot v1 * v0.dot v2 - v0.dot v1 * v1.dot v2) *
        (1 / (v0.dot v0 * v1.dot v1 - v0.dot v1 * v0.dot v1))) +
      v1.scale ((v0.dot v0 * v1.dot v2 - v0.dot v1 * v0.dot v2) *
        (1 / (v0.dot v0 * v1.dot v1 - v0.dot v1 * v0.dot v1))) = v2 := by
  have hx : v0.x * (v1.dot v1 * v0.dot v2 - v0.dot v1 * v1.dot v2) +
      v1.x * (v0.dot v0 * v1.dot v2 - v0.dot v1 * v0.dot v2) +
      v2.dot (v1.cross v0) * (v1.cross v0).x =
      v2.x * (v0.dot v0 * v1.dot v1 - v0.dot v1 * v0.dot v1) := by
    simp only [Vec3.dot, Vec3.cross]
    ring
  have hy : v0.y * (v1.dot v1 * v0.dot v2 - v0.dot v1 * v1.dot v2) +
      v1.y * (v0.dot v0 * v1.dot v2 - v0.dot v1 * v0.dot v2) +
      v2.dot (v1.cross v0) * (v1.cross v0).y =
      v2.y * (v0.dot v0 * v1.dot v1 - v0.dot v1 * v0.dot v1) := by
    simp only [Vec3.dot, Vec3.cross]
    ring
  have hz : v0.z * (v1.dot v1 * v0.dot v2 - v0.dot v1 * v1.dot v2) +
      v1.z * (v0.dot v0 * v1.dot v2 - v0.dot v1 * v0.dot v2) +
      v2.dot (v1.cross v0) * (v1.cross v0).z =
      v2.z * (v0.dot v0 * v1.dot v1 - v0.dot v1 * v0.dot v1) := by
    simp only [Vec3.dot, Vec3.cross]
    ring
  rw [hplane, zero_mul, add_zero] at hx hy hz
  ext
  · rw [Vec3.add_x, Vec3.scale_x, Vec3.scale_x, ← mul_assoc, ← mul_assoc, ← add_mul, hx,
      mul_one_div, mul_div_cancel_right₀ _ harea]
  · rw [Vec3.add_y, Vec3.scale_y, Vec3.scale_y, ← mul_assoc, ← mul_assoc, ← add_mul, hy,
      mul_one_div, mul_div_cancel_right₀ _ harea]
  · rw [Vec3.add_z, Vec3.scale_z, Vec3.scale_z, ← mul_assoc, ← mul_assoc, ← add_mul, hz,
      mul_one_div, mul_div_cancel_right₀ _ harea]

omit [SquareRoot K] in
/-- A point of the plane that passes the test is one of the triangle. -/
theorem onSurface_of_isPointInTriangle {point : Vec3 K} (harea : triangle.area ≠ 0)
    (hplane : (point - triangle.vertices 0).dot triangle.rawNormal = 0)
    (h : isPointInTriangle point triangle = true) : triangle.OnSurface point := by
  have hcombination := combination_of_orthogonal harea hplane
  simp only [isPointInTriangle, Bool.and_eq_true, decide_eq_true_eq, and_assoc] at h
  obtain ⟨hu, hv, huv⟩ := h
  refine ⟨_, _, hu, hv, huv, ?_⟩
  have hsub := surfacePoint_sub triangle
  rw [← hsub] at hcombination
  ext
  · have hx := congrArg Vec3.x hcombination
    simpa using hx.symm
  · have hy := congrArg Vec3.y hcombination
    simpa using hy.symm
  · have hz := congrArg Vec3.z hcombination
    simpa using hz.symm

section Foot

variable [IsStrictOrderedRing K] [ExactRoot K]

theorem Loaded.normal_dot_self (h : triangle.Loaded) :
    triangle.normal.dot triangle.normal = 1 := by
  have harea := h.area_ne_zero
  have hroot : triangle.rawNormal.length * triangle.rawNormal.length = triangle.area := by
    rw [Vec3.length, ExactRoot.mul_self _ (Vec3.dot_self_nonneg _), rawNormal_dot_self]
  have hlength : triangle.rawNormal.length ≠ 0 := by
    intro hzero
    rw [hzero, zero_mul] at hroot
    exact harea hroot.symm
  have hdot := rawNormal_dot_self triangle
  have hscaled : triangle.normal.dot triangle.normal =
      triangle.rawNormal.dot triangle.rawNormal *
        (1 / triangle.rawNormal.length * (1 / triangle.rawNormal.length)) := by
    rw [h.normal]
    simp only [Vec3.normalize, Vec3.dot, Vec3.scale_x, Vec3.scale_y, Vec3.scale_z]
    ring
  rw [hscaled, hdot, ← hroot]
  field_simp

theorem Loaded.normal_dot_iff (h : triangle.Loaded) (a : Vec3 K) :
    a.dot triangle.normal = 0 ↔ a.dot triangle.rawNormal = 0 := by
  have hscaled : a.dot triangle.normal =
      a.dot triangle.rawNormal * (1 / triangle.rawNormal.length) := by
    rw [h.normal]
    simp only [Vec3.normalize, Vec3.dot, Vec3.scale_x, Vec3.scale_y, Vec3.scale_z]
    ring
  have hone := h.normal_dot_self
  constructor
  · intro hzero
    rw [hscaled] at hzero
    rcases mul_eq_zero.mp hzero with hraw | hlength
    · exact hraw
    · -- a normal of length zero has no unit length
      have hnormal : triangle.normal.dot triangle.normal = 0 := by
        rw [h.normal, Vec3.normalize, hlength]
        simp [Vec3.dot]
      rw [hnormal] at hone
      exact absurd hone zero_ne_one
  · intro hraw
    rw [hscaled, hraw, zero_mul]

/-- The foot of the perpendicular lies in the plane. -/
theorem Loaded.planePoint_plane (h : triangle.Loaded) (point : Vec3 K) :
    (planePoint point triangle - triangle.vertices 0).dot triangle.normal = 0 := by
  have hone := h.normal_dot_self
  have hdot : (planePoint point triangle - triangle.vertices 0).dot triangle.normal =
      (point - triangle.vertices 0).dot triangle.normal *
        (1 - triangle.normal.dot triangle.normal) := by
    simp only [planePoint, Vec3.dot, Vec3.sub_x, Vec3.sub_y, Vec3.sub_z, Vec3.scale_x,
      Vec3.scale_y, Vec3.scale_z]
    ring
  rw [hdot, hone, sub_self, mul_zero]

theorem Loaded.isPointInTriangle_planePoint (h : triangle.Loaded) (point : Vec3 K) :
    isPointInTriangle (planePoint point triangle) triangle = true ↔
      triangle.OnSurface (planePoint point triangle) := by
  constructor
  · intro hin
    have hplane := (h.normal_dot_iff _).mp (h.planePoint_plane point)
    exact onSurface_of_isPointInTriangle h.area_ne_zero hplane hin
  · intro hon
    exact hon.isPointInTriangle h.area_ne_zero

/-- No point of the triangle is nearer than the foot of the perpendicular. -/
theorem Loaded.planePoint_nearest (h : triangle.Loaded) (point : Vec3 K) {other : Vec3 K}
    (hother : triangle.OnSurface other) :
    point.distance (planePoint point triangle) ≤ point.distance other := by
  obtain ⟨u, v, -, -, -, rfl⟩ := hother
  have hfoot := h.planePoint_plane point
  have hplane := (h.normal_dot_iff _).mpr (surfacePoint_dot_rawNormal triangle u v)
  generalize triangle.surfacePoint u v = other at hplane ⊢
  have hsplit : (point - other).dot (point - other) =
      (point - planePoint point triangle).dot (point - planePoint point triangle) +
        (planePoint point triangle - other).dot (planePoint point triangle - other) +
        2 * ((point - triangle.vertices 0).dot triangle.normal *
          ((planePoint point triangle - triangle.vertices 0).dot triangle.normal -
            (other - triangle.vertices 0).dot triangle.normal)) := by
    simp only [planePoint, Vec3.dot, Vec3.sub_x, Vec3.sub_y, Vec3.sub_z, Vec3.scale_x,
      Vec3.scale_y, Vec3.scale_z]
    ring
  refine Vec3.distance_le_of_dot_le ?_
  rw [hsplit, hfoot, hplane]
  have hrest := Vec3.dot_self_nonneg (planePoint point triangle - other)
  linarith

end Foot

/-! ## What a triangle offers -/

/-- The foot of the perpendicular where it lies in the triangle, which is then its nearest
point, and else a vertex that is no farther than the others. -/
inductive Offers (triangle : NavMeshTriangle K) (point offered : Vec3 K) : Prop where
  | foot (hfoot : offered = planePoint point triangle) (hon : triangle.OnSurface offered)
      (hnearest : ∀ other, triangle.OnSurface other →
        point.distance offered ≤ point.distance other)
  | vertex (i : Fin 3) (hvertex : offered = triangle.vertices i)
      (houtside : ¬ triangle.OnSurface (planePoint point triangle))
      (hnearest : ∀ j, point.distance offered ≤ point.distance (triangle.vertices j))

omit [SquareRoot K] in
theorem onSurface_vertex [IsStrictOrderedRing K] (triangle : NavMeshTriangle K) (i : Fin 3) :
    triangle.OnSurface (triangle.vertices i) := by
  match i with
  | 0 => exact ⟨0, 0, le_rfl, le_rfl, by simp, by ext <;> simp [surfacePoint]⟩
  | 1 => exact ⟨0, 1, le_rfl, zero_le_one, by simp, by ext <;> simp [surfacePoint]⟩
  | 2 => exact ⟨1, 0, zero_le_one, le_rfl, by simp, by ext <;> simp [surfacePoint]⟩

theorem Offers.onSurface [IsStrictOrderedRing K] {point offered : Vec3 K}
    (h : triangle.Offers point offered) : triangle.OnSurface offered := by
  cases h with
  | foot hfoot hon hnearest => exact hon
  | vertex i hvertex houtside hnearest =>
    rw [hvertex]
    exact onSurface_vertex triangle i

/-- What a triangle offers is at one distance, also where two vertices are. -/
theorem Offers.distance_eq {point first second : Vec3 K} (hfirst : triangle.Offers point first)
    (hsecond : triangle.Offers point second) : point.distance first = point.distance second := by
  cases hfirst with
  | foot hfoot hon hnearest =>
    cases hsecond with
    | foot hfoot' hon' hnearest' => rw [hfoot, hfoot']
    | vertex i hvertex houtside hnearest' => exact absurd (hfoot ▸ hon) houtside
  | vertex i hvertex houtside hnearest =>
    cases hsecond with
    | foot hfoot hon hnearest' => exact absurd (hfoot ▸ hon) houtside
    | vertex j hvertex' houtside' hnearest' =>
      refine le_antisymm ?_ ?_
      · rw [hvertex']
        exact hnearest j
      · rw [hvertex]
        exact hnearest' i

theorem nearestVertex_spec (point : Vec3 K) (triangle : NavMeshTriangle K) :
    ∃ i, nearestVertex point triangle = triangle.vertices i ∧
      ∀ j, point.distance (nearestVertex point triangle) ≤
        point.distance (triangle.vertices j) := by
  have hall : ∀ {distance : K},
      distance ≤ point.distance (triangle.vertices 0) →
      distance ≤ point.distance (triangle.vertices 1) →
      distance ≤ point.distance (triangle.vertices 2) →
      ∀ j, distance ≤ point.distance (triangle.vertices j) := by
    intro distance h0 h1 h2 j
    match j with
    | 0 => exact h0
    | 1 => exact h1
    | 2 => exact h2
  simp only [nearestVertex]
  split_ifs with h1 h2 h2
  · exact ⟨2, rfl, hall (h2.trans h1).le h2.le le_rfl⟩
  · exact ⟨1, rfl, hall h1.le le_rfl (not_lt.mp h2)⟩
  · exact ⟨2, rfl, hall h2.le (h2.le.trans (not_lt.mp h1)) le_rfl⟩
  · exact ⟨0, rfl, hall le_rfl (not_lt.mp h1) (not_lt.mp h2)⟩

/-- A point of the triangle is its own nearest one. -/
theorem Loaded.offers_self [IsStrictOrderedRing K] [ExactRoot K] (h : triangle.Loaded)
    {point : Vec3 K} (hon : triangle.OnSurface point) : triangle.Offers point point := by
  have hplane : (point - triangle.vertices 0).dot triangle.normal = 0 := by
    obtain ⟨u, v, -, -, -, rfl⟩ := hon
    exact (h.normal_dot_iff _).mpr (surfacePoint_dot_rawNormal triangle u v)
  refine .foot ?_ hon ?_
  · ext <;> simp [planePoint, hplane]
  · intro other _
    rw [Vec3.distance_self]
    exact ExactRoot.nonneg _

theorem Loaded.offers [IsStrictOrderedRing K] [ExactRoot K] (h : triangle.Loaded)
    (point : Vec3 K) : triangle.Offers point (projectPointOnTriangle point triangle) := by
  have hiff := h.isPointInTriangle_planePoint point
  unfold projectPointOnTriangle
  split
  next hin =>
    refine .foot rfl (hiff.mp hin) ?_
    intro other hother
    exact h.planePoint_nearest point hother
  next hout =>
    obtain ⟨i, hvertex, hnearest⟩ := nearestVertex_spec point triangle
    exact .vertex i hvertex (fun hon => hout (hiff.mpr hon)) hnearest

end NavMeshTriangle

/-! ## The nearest of what the cell offers -/

namespace GameNavMesh

variable [FloorRing K]

/-- The point lies on a triangle of the mesh. -/
def OnMesh (mesh : GameNavMesh K) (point : Vec3 K) : Prop :=
  ∃ triangle ∈ mesh.triangles, triangle.OnSurface point

/-- The bounds of the triangle reach the cell of the point. -/
def InCell (mesh : GameNavMesh K) (point : Vec3 K) (triangle : NavMeshTriangle K) : Prop :=
  triangle ∈ mesh.triangles ∧ SpatialGrid.getKey point ∈ SpatialGrid.keys triangle

theorem mem_candidates_start (transform : Vec3 K → Vec3 K) (meshes : List (MeshGeometry K))
    (point candidate : Vec3 K) : candidate ∈ (start transform meshes).candidates point ↔
      ∃ triangle, (start transform meshes).InCell point triangle ∧
        candidate = NavMeshTriangle.projectPointOnTriangle point triangle := by
  simp only [candidates, List.mem_filterMap, Option.map_eq_some_iff, start_spatialGrid]
  constructor
  · intro hmem
    obtain ⟨idx, ⟨triangle, htriangle, hkey⟩, other, hother, rfl⟩ := hmem
    obtain rfl : triangle = other := Option.some.inj (htriangle.symm.trans hother)
    exact ⟨triangle, ⟨List.mem_of_getElem? htriangle, hkey⟩, rfl⟩
  · intro hcell
    obtain ⟨triangle, ⟨hmem, hkey⟩, rfl⟩ := hcell
    obtain ⟨idx, hidx⟩ := List.mem_iff_getElem?.mp hmem
    exact ⟨idx, ⟨triangle, hidx, hkey⟩, triangle, hidx, rfl⟩

/-- The search is for the nearest candidate. -/
theorem getNearestPoint_mem {mesh : GameNavMesh K} {point : Vec3 K}
    (hreach : ∃ candidate ∈ mesh.candidates point, point.distance candidate < FLT_MAX) :
    mesh.getNearestPointOnNavMesh point ∈ mesh.candidates point ∧
      ∀ candidate ∈ mesh.candidates point,
        point.distance (mesh.getNearestPointOnNavMesh point) ≤ point.distance candidate := by
  obtain ⟨candidate, hmem, hless⟩ := hreach
  rcases Nearest.foldl_closer point.distance (mesh.candidates point) (point, FLT_MAX) with
    ⟨-, hfar⟩ | ⟨nearest, hnearest, hfound, -, hfar⟩
  · exact absurd hless (not_lt.mpr (hfar candidate hmem))
  · have hresult : mesh.getNearestPointOnNavMesh point = nearest := congrArg Prod.fst hfound
    rw [hresult]
    exact ⟨hnearest, hfar⟩

theorem isOnNavMesh_iff {mesh : GameNavMesh K} {point : Vec3 K}
    (hreach : ∃ candidate ∈ mesh.candidates point, point.distance candidate < FLT_MAX)
    (tolerance : K) : mesh.isOnNavMesh point tolerance = true ↔
      ∃ candidate ∈ mesh.candidates point, point.distance candidate ≤ tolerance := by
  obtain ⟨hmem, hnearest⟩ := getNearestPoint_mem hreach
  simp only [isOnNavMesh, decide_eq_true_eq]
  constructor
  · intro hle
    exact ⟨_, hmem, hle⟩
  · intro hcandidate
    obtain ⟨candidate, hcandidate, hle⟩ := hcandidate
    exact (hnearest candidate hcandidate).trans hle

/-- Where the cell of a point offers something, the answer is the nearest of what its
triangles offer, and a point of the mesh. -/
theorem nearestPoint_of_cell {K : Type} [Field K] [LinearOrder K] [IsStrictOrderedRing K]
    [FloorRing K] [SquareRoot K] [ExactRoot K] (transform : Vec3 K → Vec3 K)
    (meshes : List (MeshGeometry K)) {point : Vec3 K}
    (hreach : ∃ triangle offered, (start transform meshes).InCell point triangle ∧
      triangle.Offers point offered ∧ point.distance offered < FLT_MAX) :
    ((∃ triangle, (start transform meshes).InCell point triangle ∧
        triangle.Offers point ((start transform meshes).getNearestPointOnNavMesh point)) ∧
      ∀ triangle offered, (start transform meshes).InCell point triangle →
        triangle.Offers point offered →
        point.distance ((start transform meshes).getNearestPointOnNavMesh point) ≤
          point.distance offered) ∧
    (start transform meshes).OnMesh
      ((start transform meshes).getNearestPointOnNavMesh point) ∧
    ∀ tolerance, (start transform meshes).isOnNavMesh point tolerance = true ↔
      ∃ triangle offered, (start transform meshes).InCell point triangle ∧
        triangle.Offers point offered ∧ point.distance offered ≤ tolerance := by
  have hoffers : ∀ {triangle}, (start transform meshes).InCell point triangle →
      triangle.Offers point (NavMeshTriangle.projectPointOnTriangle point triangle) :=
    fun hcell => (loadNavMeshData_triangle transform meshes hcell.1).1.offers point
  have hcandidates := mem_candidates_start transform meshes point
  have hcandidate : ∀ {triangle offered}, (start transform meshes).InCell point triangle →
      triangle.Offers point offered → ∃ candidate ∈ (start transform meshes).candidates point,
        point.distance candidate = point.distance offered :=
    fun hcell hoffered =>
      ⟨_, (hcandidates _).mpr ⟨_, hcell, rfl⟩, (hoffers hcell).distance_eq hoffered⟩
  have hreach' : ∃ candidate ∈ (start transform meshes).candidates point,
      point.distance candidate < FLT_MAX := by
    obtain ⟨triangle, offered, hcell, hoffered, hless⟩ := hreach
    obtain ⟨candidate, hmem, hdistance⟩ := hcandidate hcell hoffered
    exact ⟨candidate, hmem, hdistance ▸ hless⟩
  obtain ⟨hmem, hnearest⟩ := getNearestPoint_mem hreach'
  obtain ⟨triangle, hcell, hresult⟩ := (hcandidates _).mp hmem
  have hoffered := hoffers hcell
  rw [← hresult] at hoffered
  refine ⟨⟨⟨triangle, hcell, hoffered⟩, ?_⟩, ⟨triangle, hcell.1, hoffered.onSurface⟩, ?_⟩
  · intro other offered hother hothers
    obtain ⟨candidate, hmem', hdistance⟩ := hcandidate hother hothers
    exact hdistance ▸ hnearest candidate hmem'
  · intro tolerance
    rw [isOnNavMesh_iff hreach']
    constructor
    · intro hsome
      obtain ⟨candidate, hmem', hle⟩ := hsome
      obtain ⟨other, hother, rfl⟩ := (hcandidates _).mp hmem'
      exact ⟨other, _, hother, hoffers hother, hle⟩
    · intro hsome
      obtain ⟨other, offered, hother, hothers, hle⟩ := hsome
      obtain ⟨candidate, hmem', hdistance⟩ := hcandidate hother hothers
      exact ⟨candidate, hmem', hdistance ▸ hle⟩

/-- One level triangle of which a query beside an edge is nearer to that edge than to any
vertex. -/
def wedgeGeometry (K : Type) [Field K] : List (MeshGeometry K) :=
  [⟨[⟨0, 0, 0⟩, ⟨8, 0, 0⟩, ⟨4, 0, 9⟩], [0, 1, 2]⟩]

theorem wedge_length : 0 < (start id (wedgeGeometry ℚ)).triangles.length := by
  decide +kernel

/-- Beside the edge the answer is a vertex at distance 5, though the edge is at distance 3;
and far outside, in a cell without triangles, the query itself counts as on the mesh. -/
theorem wedge_not_nearest :
    ((start id (wedgeGeometry ℚ)).getNearestPointOnNavMesh ⟨4, 0, -3⟩ = ⟨0, 0, 0⟩ ∧
      (⟨4, 0, -3⟩ : Vec3 ℚ).distance ⟨0, 0, 0⟩ = 5 ∧
      (⟨4, 0, -3⟩ : Vec3 ℚ).distance ⟨4, 0, 0⟩ = 3 ∧
      (start id (wedgeGeometry ℚ)).OnMesh ⟨4, 0, 0⟩) ∧
    (start id (wedgeGeometry ℚ)).isOnNavMesh ⟨1000, 0, 1000⟩ 0 = true := by
  refine ⟨⟨?_, ?_, ?_, (start id (wedgeGeometry ℚ)).triangles.get ⟨0, wedge_length⟩,
    List.get_mem _ _, 0, 1 / 2, ?_, ?_, ?_, ?_⟩, ?_⟩ <;> decide +kernel

/-- The triangle of the wedge is not degenerate. -/
theorem wedge_triangle : ∃ triangle ∈ (start id (wedgeGeometry ℝ)).triangles,
    triangle.vertices = ![⟨0, 0, 0⟩, ⟨8, 0, 0⟩, ⟨4, 0, 9⟩] := by
  have hlong : ¬ (((⟨8, 0, 0⟩ : Vec3 ℝ) - ⟨0, 0, 0⟩).cross (⟨4, 0, 9⟩ - ⟨0, 0, 0⟩)).length <
      1000⁻¹ := by
    have hroot := SquareRoot.root_square (72 : ℝ)
    norm_num [Vec3.length, Vec3.dot, Vec3.cross] at hroot ⊢
    rw [hroot]
    norm_num
  simp [start, initializeSpatialGrid, loadNavMeshData, buildTriangleConnections, wedgeGeometry,
    loadTriangles, loadTriangle, NavMeshTriangle.ofVertices, hlong]

theorem wedge_nearestPoint :
    ((∃ triangle, (start id (wedgeGeometry ℝ)).InCell ⟨4, 0, 0⟩ triangle ∧
        triangle.Offers ⟨4, 0, 0⟩
          ((start id (wedgeGeometry ℝ)).getNearestPointOnNavMesh ⟨4, 0, 0⟩)) ∧
      ∀ triangle offered, (start id (wedgeGeometry ℝ)).InCell ⟨4, 0, 0⟩ triangle →
        triangle.Offers ⟨4, 0, 0⟩ offered →
        (⟨4, 0, 0⟩ : Vec3 ℝ).distance
            ((start id (wedgeGeometry ℝ)).getNearestPointOnNavMesh ⟨4, 0, 0⟩) ≤
          (⟨4, 0, 0⟩ : Vec3 ℝ).distance offered) ∧
    (start id (wedgeGeometry ℝ)).OnMesh
      ((start id (wedgeGeometry ℝ)).getNearestPointOnNavMesh ⟨4, 0, 0⟩) ∧
    ∀ tolerance, (start id (wedgeGeometry ℝ)).isOnNavMesh ⟨4, 0, 0⟩ tolerance = true ↔
      ∃ triangle offered, (start id (wedgeGeometry ℝ)).InCell ⟨4, 0, 0⟩ triangle ∧
        triangle.Offers ⟨4, 0, 0⟩ offered ∧
        (⟨4, 0, 0⟩ : Vec3 ℝ).distance offered ≤ tolerance := by
  refine nearestPoint_of_cell id (wedgeGeometry ℝ) ?_
  obtain ⟨triangle, htriangle, hvertices⟩ := wedge_triangle
  have hon : triangle.OnSurface ⟨4, 0, 0⟩ := by
    refine ⟨0, 1 / 2, le_rfl, by norm_num, by norm_num, ?_⟩
    ext <;> norm_num [NavMeshTriangle.surfacePoint, hvertices]
  have hloaded := (loadNavMeshData_triangle id (wedgeGeometry ℝ) htriangle).1
  refine ⟨triangle, ⟨4, 0, 0⟩, ⟨htriangle, SpatialGrid.getKey_mem_keys hon⟩,
    hloaded.offers_self hon, ?_⟩
  have hroot : SquareRoot.root (0 : ℝ) = 0 := Real.sqrt_zero
  norm_num [Vec3.distance, Vec3.length, Vec3.dot, hroot, FLT_MAX]

end GameNavMesh

end SurvivalArena
