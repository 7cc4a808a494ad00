import SurvivalArena.Framework.Machine
import SurvivalArena.Game.NavMesh

/-!
# Looking up triangles

A triangle is registered in every cell that its bounds reach, and a point of it lies in one
of them, so the one cell of the point is enough.
-/

namespace SurvivalArena

open Function

variable {K : Type} [Field K]

/-! ## Points of a triangle -/

namespace NavMeshTriangle

/-- The point of a triangle with two barycentric coordinates. -/
def surfacePoint (triangle : NavMeshTriangle K) (u v : K) : Vec3 K :=
  triangle.vertices 0 + (triangle.vertices 2 - triangle.vertices 0).scale u +
    (triangle.vertices 1 - triangle.vertices 0).scale v

/-- The square of twice the area. -/
def area (triangle : NavMeshTriangle K) : K :=
  let v0 := triangle.vertices 2 - triangle.vertices 0
  let v1 := triangle.vertices 1 - triangle.vertices 0
  v0.dot v0 * v1.dot v1 - v0.dot v1 * v0.dot v1

variable [LinearOrder K]

/-- The point lies on the surface of the triangle. -/
def OnSurface (triangle : NavMeshTriangle K) (point : Vec3 K) : Prop :=
  ∃ u v, 0 ≤ u ∧ 0 ≤ v ∧ u + v ≤ 1 ∧ point = triangle.surfacePoint u v

section Loaded

variable [SquareRoot K]

/-- The triangle is one that was loaded. -/
def Loaded (triangle : NavMeshTriangle K) : Prop :=
  (ofVertices triangle.vertices).map (fun raw => { raw with neighbors := triangle.neighbors }) =
    some triangle

variable {triangle : NavMeshTriangle K}

theorem Loaded.length (h : triangle.Loaded) :
    ¬ ((triangle.vertices 1 - triangle.vertices 0).cross
      (triangle.vertices 2 - triangle.vertices 0)).length < 1 / 1000 := by
  intro hshort
  simp only [Loaded, ofVertices, hshort, if_true, Option.map_none] at h
  exact absurd h (by simp)

theorem Loaded.area_ne_zero [IsStrictOrderedRing K] (h : triangle.Loaded) :
    triangle.area ≠ 0 := by
  intro hzero
  have hdot : ((triangle.vertices 1 - triangle.vertices 0).cross
      (triangle.vertices 2 - triangle.vertices 0)).dot
      ((triangle.vertices 1 - triangle.vertices 0).cross
        (triangle.vertices 2 - triangle.vertices 0)) = 0 := by
    rw [Vec3.cross_dot_cross, ← hzero]
    simp only [area, Vec3.dot]
    ring
  have hroot : SquareRoot.root (0 : K) = 0 := by
    simpa using SquareRoot.root_square (0 : K)
  refine h.length ?_
  rw [Vec3.length, hdot, hroot]
  positivity

end Loaded

omit [LinearOrder K] in
theorem surfacePoint_sub (triangle : NavMeshTriangle K) (u v : K) :
    triangle.surfacePoint u v - triangle.vertices 0 =
      (triangle.vertices 2 - triangle.vertices 0).scale u +
        (triangle.vertices 1 - triangle.vertices 0).scale v := by
  ext <;> simp [surfacePoint] <;> ring

/-- The test finds the barycentric coordinates of a point again. -/
theorem isPointInTriangle_surfacePoint {triangle : NavMeshTriangle K} (h : triangle.area ≠ 0)
    (u v : K) : isPointInTriangle (triangle.surfacePoint u v) triangle = true ↔
      0 ≤ u ∧ 0 ≤ v ∧ u + v ≤ 1 := by
  simp only [isPointInTriangle, surfacePoint_sub]
  simp only [area] at h
  generalize triangle.vertices 2 - triangle.vertices 0 = v0 at h ⊢
  generalize triangle.vertices 1 - triangle.vertices 0 = v1 at h ⊢
  have hu : (v1.dot v1 * v0.dot (v0.scale u + v1.scale v) -
      v0.dot v1 * v1.dot (v0.scale u + v1.scale v)) *
        (1 / (v0.dot v0 * v1.dot v1 - v0.dot v1 * v0.dot v1)) = u := by
    rw [mul_one_div, div_eq_iff h]
    simp only [Vec3.dot, Vec3.add_x, Vec3.add_y, Vec3.add_z, Vec3.scale_x, Vec3.scale_y,
      Vec3.scale_z]
    ring
  have hv : (v0.dot v0 * v1.dot (v0.scale u + v1.scale v) -
      v0.dot v1 * v0.dot (v0.scale u + v1.scale v)) *
        (1 / (v0.dot v0 * v1.dot v1 - v0.dot v1 * v0.dot v1)) = v := by
    rw [mul_one_div, div_eq_iff h]
    simp only [Vec3.dot, Vec3.add_x, Vec3.add_y, Vec3.add_z, Vec3.scale_x, Vec3.scale_y,
      Vec3.scale_z]
    ring
  rw [hu, hv]
  simp only [Bool.and_eq_true, decide_eq_true_eq, and_assoc]

theorem OnSurface.isPointInTriangle {triangle : NavMeshTriangle K} {point : Vec3 K}
    (hon : triangle.OnSurface point) (harea : triangle.area ≠ 0) :
    isPointInTriangle point triangle = true := by
  obtain ⟨u, v, hu, hv, huv, rfl⟩ := hon
  exact (isPointInTriangle_surfacePoint harea u v).mpr ⟨hu, hv, huv⟩

end NavMeshTriangle

/-! ## The grid -/

section Grid

variable [LinearOrder K] [FloorRing K] [IsStrictOrderedRing K]

theorem mem_cellsBetween {first last x : Int} :
    x ∈ cellsBetween first last ↔ first ≤ x ∧ x ≤ last := by
  simp only [cellsBetween, List.mem_map, List.mem_range]
  constructor
  · intro hmem
    obtain ⟨step, hstep, rfl⟩ := hmem
    omega
  · intro hbetween
    exact ⟨(x - first).toNat, by omega, by omega⟩

namespace SpatialGrid

theorem coordinate_mono {first second : K} (h : first ≤ second) :
    coordinate first ≤ coordinate second := by
  have hpositive : (0 : K) < cellsize := by norm_num [cellsize]
  exact truncate_mono (div_le_div_of_nonneg_right h hpositive.le)

omit [FloorRing K] in
/-- A weighted mean of three numbers is between the least and the greatest. -/
theorem mean_between (a b c : K) {u v : K} (hu : 0 ≤ u) (hv : 0 ≤ v) (huv : u + v ≤ 1) :
    least a b c ≤ a + (c - a) * u + (b - a) * v ∧
      a + (c - a) * u + (b - a) * v ≤ greatest a b c := by
  have hsplit : a + (c - a) * u + (b - a) * v = a * (1 - u - v) + c * u + b * v := by ring
  have hrest : 0 ≤ 1 - u - v := by linarith
  have ha := min_le_left a b
  have hb := min_le_right a b
  rw [hsplit]
  constructor
  · have hmin : ∀ {x}, x = a ∨ x = b ∨ x = c → least a b c ≤ x := by
      intro x hx
      unfold least
      rcases hx with rfl | rfl | rfl <;> simp
    calc least a b c = least a b c * (1 - u - v) + least a b c * u + least a b c * v := by ring
      _ ≤ a * (1 - u - v) + c * u + b * v := by
          gcongr
          · exact hmin (.inl rfl)
          · exact hmin (.inr (.inr rfl))
          · exact hmin (.inr (.inl rfl))
  · have hmax : ∀ {x}, x = a ∨ x = b ∨ x = c → x ≤ greatest a b c := by
      intro x hx
      unfold greatest
      rcases hx with rfl | rfl | rfl <;> simp
    calc a * (1 - u - v) + c * u + b * v
        ≤ greatest a b c * (1 - u - v) + greatest a b c * u + greatest a b c * v := by
          gcongr
          · exact hmax (.inl rfl)
          · exact hmax (.inr (.inr rfl))
          · exact hmax (.inr (.inl rfl))
      _ = greatest a b c := by ring

/-- The cell of a point of a triangle is one that the triangle is registered in. -/
theorem getKey_mem_keys {triangle : NavMeshTriangle K} {point : Vec3 K}
    (hon : triangle.OnSurface point) : getKey point ∈ keys triangle := by
  obtain ⟨u, v, hu, hv, huv, rfl⟩ := hon
  have hx := mean_between (triangle.vertices 0).x (triangle.vertices 1).x
    (triangle.vertices 2).x hu hv huv
  have hz := mean_between (triangle.vertices 0).z (triangle.vertices 1).z
    (triangle.vertices 2).z hu hv huv
  simp only [keys, List.mem_flatMap, List.mem_map, mem_cellsBetween]
  exact ⟨_, ⟨coordinate_mono hx.1, coordinate_mono hx.2⟩, _,
    ⟨coordinate_mono hz.1, coordinate_mono hz.2⟩, rfl⟩

omit [IsStrictOrderedRing K] in
theorem mem_addTriangle (grid : SpatialGrid) (idx : Nat) (triangle : NavMeshTriangle K)
    (key : UInt64) (other : Nat) : other ∈ addTriangle grid idx triangle key ↔
      other ∈ grid key ∨ other = idx ∧ key ∈ keys triangle := by
  have hfold : ∀ (cells : List UInt64) (grid : SpatialGrid),
      other ∈ cells.foldl (fun grid key => update grid key (grid key ++ [idx])) grid key ↔
        other ∈ grid key ∨ other = idx ∧ key ∈ cells := by
    intro cells
    induction cells with
    | nil => simp
    | cons cell cells ih =>
      intro grid
      rw [List.foldl_cons, ih]
      by_cases hcell : key = cell
      · subst hcell
        simp
        tauto
      · simp [hcell]
  exact hfold (keys triangle) grid

end SpatialGrid

end Grid

/-! ## The loaded mesh -/

namespace GameNavMesh

section Start

variable [LinearOrder K] [FloorRing K] [SquareRoot K] (transform : Vec3 K → Vec3 K)
  (meshes : List (MeshGeometry K))

omit [FloorRing K] in
theorem loadTriangles_loaded (vertices : List (Vec3 K)) (indices : List Nat) :
    ∀ raw ∈ loadTriangles transform vertices indices,
      NavMeshTriangle.ofVertices raw.vertices = some raw := by
  induction indices using loadTriangles.induct with
  | case1 first second third indices ih =>
    intro raw hraw
    rw [loadTriangles, List.mem_append, Option.mem_toList] at hraw
    rcases hraw with hraw | hraw
    · unfold loadTriangle at hraw
      split at hraw
      next a b c _ _ _ =>
        have hvertices : raw.vertices = ![transform a, transform b, transform c] := by
          simp only [NavMeshTriangle.ofVertices,
            Option.ite_none_left_eq_some, Option.some.injEq] at hraw
          rw [← hraw.2]
        rw [hvertices]
        exact hraw
      next => exact absurd hraw (by simp)
    · exact ih raw hraw
  | case2 indices hshort =>
    intro raw hraw
    rw [loadTriangles] at hraw
    · exact absurd hraw List.not_mem_nil
    · exact hshort

omit [FloorRing K] in
/-- Loading keeps no degenerate triangle, and neighbours are triangles of the mesh. -/
theorem loadNavMeshData_triangle {triangle : NavMeshTriangle K}
    (h : triangle ∈ (loadNavMeshData transform meshes).triangles) :
    triangle.Loaded ∧ ∀ neighbor ∈ triangle.neighbors,
      neighbor < (loadNavMeshData transform meshes).triangles.length := by
  simp only [loadNavMeshData, buildTriangleConnections, List.mem_map, List.length_map,
    List.length_zipIdx] at h ⊢
  obtain ⟨⟨raw, i⟩, hmem, rfl⟩ := h
  obtain ⟨mesh, -, hraw⟩ := List.mem_flatMap.mp (List.fst_mem_of_mem_zipIdx hmem)
  constructor
  · have hloaded := loadTriangles_loaded transform mesh.vertices mesh.indices raw hraw
    simp [NavMeshTriangle.Loaded, hloaded]
  · intro neighbor hneighbor
    simp only [neighborsOf, List.mem_map, List.mem_filter] at hneighbor
    obtain ⟨other, hother, rfl⟩ := hneighbor
    exact List.snd_lt_of_mem_zipIdx hother.1

/-- The grid has a triangle in a cell exactly where its bounds reach it. -/
theorem start_spatialGrid (key : UInt64) (idx : Nat) :
    idx ∈ (start transform meshes).spatialGrid key ↔
      ∃ triangle, (start transform meshes).triangles[idx]? = some triangle ∧
        key ∈ SpatialGrid.keys triangle := by
  have hfold : ∀ (triangles : List (NavMeshTriangle K × Nat)) (grid : SpatialGrid),
      idx ∈ triangles.foldl
          (fun grid triangle => SpatialGrid.addTriangle grid triangle.2 triangle.1) grid key ↔
        idx ∈ grid key ∨ ∃ triangle, (triangle, idx) ∈ triangles ∧
          key ∈ SpatialGrid.keys triangle := by
    intro triangles
    induction triangles with
    | nil => simp
    | cons first triangles ih =>
      intro grid
      rw [List.foldl_cons, ih, SpatialGrid.mem_addTriangle, or_assoc]
      refine or_congr Iff.rfl ?_
      constructor
      · intro hfirst
        rcases hfirst with ⟨rfl, hkey⟩ | ⟨triangle, hmem, hkey⟩
        · exact ⟨first.1, List.mem_cons_self, hkey⟩
        · exact ⟨triangle, List.mem_cons_of_mem _ hmem, hkey⟩
      · intro hsome
        obtain ⟨triangle, hmem, hkey⟩ := hsome
        rcases List.mem_cons.mp hmem with rfl | hmem
        · exact .inl ⟨rfl, hkey⟩
        · exact .inr ⟨triangle, hmem, hkey⟩
  have hstart := hfold (loadNavMeshData transform meshes).triangles.zipIdx fun _ => []
  simpa [start, initializeSpatialGrid, List.mem_zipIdx_iff_getElem?] using hstart

end Start

/-! ## Finding a triangle -/

section Find

variable [LinearOrder K] [FloorRing K] [SquareRoot K] {mesh : GameNavMesh K} {point : Vec3 K}

/-- The number is that of a triangle of the mesh that contains the point. -/
def Contains (mesh : GameNavMesh K) (point : Vec3 K) (idx : Nat) : Prop :=
  ∃ triangle, mesh.triangles[idx]? = some triangle ∧
    NavMeshTriangle.isPointInTriangle point triangle = true

/-- The triangle found last is one of the mesh, where there is one. -/
def ValidCache (mesh : GameNavMesh K) (lastFoundTriangle : Option Nat) : Prop :=
  ∀ last ∈ lastFoundTriangle, last < mesh.triangles.length

omit [FloorRing K] [SquareRoot K] in
theorem Contains.lt {idx : Nat} (h : mesh.Contains point idx) : idx < mesh.triangles.length := by
  obtain ⟨triangle, htriangle, -⟩ := h
  exact (List.getElem?_eq_some_iff.mp htriangle).1

omit [FloorRing K] [SquareRoot K] in
theorem firstContaining_contains {indices : List Nat} {idx : Nat}
    (h : mesh.firstContaining point indices = some idx) : mesh.Contains point idx := by
  have hfound := List.find?_some h
  rw [Option.any_eq_true_iff_get] at hfound
  obtain ⟨hsome, hcontains⟩ := hfound
  exact ⟨_, (Option.some_get hsome).symm, hcontains⟩

omit [FloorRing K] [SquareRoot K] in
theorem firstContaining_isSome {indices : List Nat} {idx : Nat} (hmem : idx ∈ indices)
    (h : mesh.Contains point idx) : (mesh.firstContaining point indices).isSome := by
  obtain ⟨triangle, htriangle, hcontains⟩ := h
  refine List.find?_isSome.mpr ⟨idx, hmem, ?_⟩
  simp [htriangle, hcontains]

omit [SquareRoot K] in
/-- What is found contains the point, and the cache stays a triangle of the mesh. -/
theorem findTriangleContaining_spec (last : Option Nat) (hlast : mesh.ValidCache last) :
    (∀ idx, (mesh.findTriangleContaining last point).1 = some idx → mesh.Contains point idx) ∧
      mesh.ValidCache (mesh.findTriangleContaining last point).2 := by
  have hcell : (∀ idx, mesh.firstContaining point
      (mesh.spatialGrid (SpatialGrid.getKey point)) = some idx → mesh.Contains point idx) ∧
      mesh.ValidCache last :=
    ⟨fun idx hidx => firstContaining_contains hidx, hlast⟩
  unfold findTriangleContaining
  split
  next => exact hcell
  next found =>
    split
    next => exact hcell
    next triangle htriangle =>
      split
      next hcontains =>
        refine ⟨?_, hlast⟩
        intro idx hidx
        obtain rfl : found = idx := by simpa using hidx
        exact ⟨triangle, htriangle, hcontains⟩
      next =>
        split
        next neighbor hneighbor =>
          have hcontained := firstContaining_contains hneighbor
          constructor
          · intro idx hidx
            obtain rfl : neighbor = idx := by simpa using hidx
            exact hcontained
          · intro idx hidx
            obtain rfl : neighbor = idx := by simpa using hidx
            exact hcontained.lt
        next => exact hcell

omit [SquareRoot K] in
/-- A triangle of the cell that contains the point is enough to find one. -/
theorem findTriangleContaining_isSome (last : Option Nat) {idx : Nat}
    (hmem : idx ∈ mesh.spatialGrid (SpatialGrid.getKey point))
    (hcontains : mesh.Contains point idx) :
    (mesh.findTriangleContaining last point).1.isSome := by
  have hcell := firstContaining_isSome hmem hcontains
  unfold findTriangleContaining
  split
  next => exact hcell
  next =>
    split
    next => exact hcell
    next =>
      split
      next => rfl
      next =>
        split
        next => rfl
        next => exact hcell

omit [SquareRoot K] in
/-- The queries of a history leave a valid cache. -/
theorem history_validCache {last : Option Nat} (hlast : mesh.ValidCache last)
    (history : List (Vec3 K)) : mesh.ValidCache
      (Machine.run (fun last query => (mesh.findTriangleContaining last query).2) last history) :=
  Machine.run_invariant (P := fun _ => True)
    (fun last _ _ hvalid => (findTriangleContaining_spec last hvalid).2) hlast
    (fun _ _ => trivial)

end Find

/-- A point of a triangle is found, whatever was looked up before. -/
theorem findTriangleContaining_surface {K : Type} [Field K] [LinearOrder K] [FloorRing K]
    [SquareRoot K] [IsStrictOrderedRing K] (transform : Vec3 K → Vec3 K)
    (meshes : List (MeshGeometry K)) {last : Option Nat}
    (hlast : (start transform meshes).ValidCache last) (history : List (Vec3 K))
    {triangle : NavMeshTriangle K} (htriangle : triangle ∈ (start transform meshes).triangles)
    {point : Vec3 K} (hon : triangle.OnSurface point) :
    ∃ idx, ((start transform meshes).findTriangleContaining
        (Machine.run (fun last query =>
          ((start transform meshes).findTriangleContaining last query).2) last history)
        point).1 = some idx ∧
      (start transform meshes).Contains point idx := by
  have hvalid := history_validCache hlast history
  obtain ⟨idx, hidx⟩ := List.mem_iff_getElem?.mp htriangle
  have harea := (loadNavMeshData_triangle transform meshes htriangle).1.area_ne_zero
  have hcontains : (start transform meshes).Contains point idx :=
    ⟨triangle, hidx, hon.isPointInTriangle harea⟩
  have hcell : idx ∈ (start transform meshes).spatialGrid (SpatialGrid.getKey point) :=
    (start_spatialGrid transform meshes _ idx).mpr
      ⟨triangle, hidx, SpatialGrid.getKey_mem_keys hon⟩
  obtain ⟨found, hfound⟩ :=
    Option.isSome_iff_exists.mp (findTriangleContaining_isSome _ hcell hcontains)
  exact ⟨found, hfound, (findTriangleContaining_spec _ hvalid).1 found hfound⟩

/-- The geometry of one level triangle at the origin. -/
def groundGeometry : List (MeshGeometry ℚ) :=
  [⟨[⟨0, 0, 0⟩, ⟨10, 0, 0⟩, ⟨0, 0, 10⟩], [0, 1, 2]⟩]

theorem ground_length : 0 < (start id groundGeometry).triangles.length := by
  decide +kernel

theorem findTriangleContaining_ground :
    ∃ idx, ((start id groundGeometry).findTriangleContaining
        (Machine.run (fun last query =>
          ((start id groundGeometry).findTriangleContaining last query).2) (some 0)
          [⟨100, 0, 100⟩]) ⟨2, 0, 3⟩).1 = some idx ∧
      (start id groundGeometry).Contains ⟨2, 0, 3⟩ idx := by
  have hlast : (start id groundGeometry).ValidCache (some 0) := by
    intro last hmem
    obtain rfl : 0 = last := by simpa using hmem
    exact ground_length
  have hon : ((start id groundGeometry).triangles.get ⟨0, ground_length⟩).OnSurface
      ⟨2, 0, 3⟩ :=
    ⟨3 / 10, 2 / 10, by decide +kernel, by decide +kernel, by decide +kernel,
      by decide +kernel⟩
  exact findTriangleContaining_surface id groundGeometry hlast [⟨100, 0, 100⟩]
    (List.get_mem _ _) hon

end GameNavMesh

end SurvivalArena
