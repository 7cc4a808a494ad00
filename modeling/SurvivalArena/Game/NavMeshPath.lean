import SurvivalArena.Framework.BestFirst
import SurvivalArena.Framework.Shortcut
import SurvivalArena.Game.LineOfWalk
import SurvivalArena.Game.NavMeshNearest

/-!
# Paths on the navigation mesh

A best-first search over neighbouring triangles gives a route through their centers, and
smoothing leaves out what can be passed by.  Which of several open nodes of the same cost is
taken next is left to the queue.
-/

namespace SurvivalArena

open BestFirst

namespace GameNavMesh

section Paths

variable {K : Type} [Field K] [LinearOrder K] [FloorRing K] [SquareRoot K]

def center (mesh : GameNavMesh K) (idx : Nat) : Vec3 K :=
  (mesh.triangles[idx]?.map NavMeshTriangle.center).getD ⟨0, 0, 0⟩

def neighbors (mesh : GameNavMesh K) (idx : Nat) : List Nat :=
  (mesh.triangles[idx]?.map NavMeshTriangle.neighbors).getD []

def getTotalNeighbors (mesh : GameNavMesh K) : Nat :=
  (mesh.triangles.map fun triangle => triangle.neighbors.length).sum

/-- The neighbouring triangles, with the distances of their centers. -/
def triangleGraph (mesh : GameNavMesh K) : WeightedGraph Nat K where
  neighbors := mesh.neighbors
  distance i j := (mesh.center i).distance (mesh.center j)

abbrev PathQueue (K : Type) := OpenList (Node Nat K)

/-- The queue that gives out a node of the least cost. -/
def leastCostQueue : PathQueue K := leastFirst Node.fCost

/-- The search ends within these rounds, whatever the queue does. -/
def findTrianglePath (queue : PathQueue K) (mesh : GameNavMesh K)
    (startTriangle endTriangle : Nat) : Option (Option (List Nat)) :=
  search mesh.triangleGraph queue endTriangle mesh.triangles.length (mesh.getTotalNeighbors + 2)
    (initial mesh.triangleGraph queue endTriangle startTriangle)

/-- The centers of the triangles between the first and the last one. -/
def convertTrianglePathToWorldPath (mesh : GameNavMesh K) (trianglePath : List Nat)
    (start finish : Vec3 K) : List (Vec3 K) :=
  if trianglePath.isEmpty then []
  else start :: (trianglePath.tail.dropLast.map mesh.center ++ [finish])

def hasLineOfSight (mesh : GameNavMesh K) (start finish : Vec3 K) : Bool :=
  mesh.isLineOnNavMesh .code start finish

/-- The last point comes once more at the end. -/
def smoothPath (mesh : GameNavMesh K) : List (Vec3 K) → List (Vec3 K)
  | first :: second :: third :: rest =>
    first :: (Shortcut.smooth mesh.hasLineOfSight mesh.getNearestPointOnNavMesh first
      (second :: third :: rest) ++ ((second :: third :: rest).getLast?).toList)
  | originalPath => originalPath

/-- The path, and the triangle found last. -/
def findPath (queue : PathQueue K) (mesh : GameNavMesh K) (lastFoundTriangle : Option Nat)
    (start finish : Vec3 K) : Option (List (Vec3 K)) × Option Nat :=
  let startQuery := mesh.findTriangleContaining lastFoundTriangle start
  let endQuery := mesh.findTriangleContaining startQuery.2 finish
  let nearest := [mesh.getNearestPointOnNavMesh start, mesh.getNearestPointOnNavMesh finish]
  (match startQuery.1, endQuery.1 with
    | some startTriangle, some endTriangle =>
      if startTriangle = endTriangle then some [start, finish]
      else
        (mesh.findTrianglePath queue startTriangle endTriangle).map fun found =>
          match found with
          | none => nearest
          | some trianglePath =>
            mesh.smoothPath (mesh.convertTrianglePathToWorldPath trianglePath start finish)
    | _, _ => some nearest,
    endQuery.2)

/-! ## What a path should be -/

/-- The path leads from one point to the other, and each way-point sees the next. -/
structure WalksTo (mesh : GameNavMesh K) (start finish : Vec3 K) (path : List (Vec3 K)) :
    Prop where
  head : path.head? = some start
  last : path.getLast? = some finish
  walkable : path.IsChain fun p q => mesh.hasLineOfSight p q = true

/-- The route before smoothing; a straight line where there is no other. -/
def route (queue : PathQueue K) (mesh : GameNavMesh K) (lastFoundTriangle : Option Nat)
    (start finish : Vec3 K) : List (Vec3 K) :=
  let startQuery := mesh.findTriangleContaining lastFoundTriangle start
  let endQuery := mesh.findTriangleContaining startQuery.2 finish
  match startQuery.1, endQuery.1 with
  | some startTriangle, some endTriangle =>
    if startTriangle = endTriangle then [start, finish]
    else
      match mesh.findTrianglePath queue startTriangle endTriangle with
      | some (some trianglePath) =>
        mesh.convertTrianglePathToWorldPath trianglePath start finish
      | _ => [start, finish]
  | _, _ => [start, finish]

/-- The straight line is on the mesh; or from each way-point that the last visible ones lead
to a later one is visible, and the last one is covered itself. -/
def RouteGuided (mesh : GameNavMesh K) : List (Vec3 K) → Prop
  | first :: second :: third :: rest =>
    Shortcut.Guided mesh.hasLineOfSight first (second :: third :: rest) ∧
      ∀ last ∈ (second :: third :: rest).getLast?, mesh.hasLineOfSight last last = true
  | originalPath => originalPath.IsChain fun p q => mesh.hasLineOfSight p q = true

/-! ## Smoothing -/

section Smoothing

variable {mesh : GameNavMesh K}

/-- Smoothing keeps the ends, and what it leaves is walkable exactly where the route is
guided. -/
theorem smoothPath_walksTo (start : Vec3 K) {finish : Vec3 K} {points : List (Vec3 K)}
    (hlast : points.getLast? = some finish)
    (hsafe : ∀ point ∈ points, mesh.getNearestPointOnNavMesh point = point) :
    ((mesh.smoothPath (start :: points)).head? = some start ∧
      (mesh.smoothPath (start :: points)).getLast? = some finish) ∧
    (mesh.WalksTo start finish (mesh.smoothPath (start :: points)) ↔
      mesh.RouteGuided (start :: points)) := by
  match points with
  | [] => exact absurd hlast (by simp)
  | [second] =>
    have hends : [start, second].head? = some start ∧ [start, second].getLast? = some finish :=
      ⟨rfl, hlast⟩
    exact ⟨hends, fun hwalks => hwalks.walkable, fun hguided => ⟨hends.1, hends.2, hguided⟩⟩
  | second :: third :: rest =>
    have hends : (mesh.smoothPath (start :: second :: third :: rest)).head? = some start ∧
        (mesh.smoothPath (start :: second :: third :: rest)).getLast? = some finish := by
      constructor
      · rfl
      · rw [smoothPath, hlast, List.getLast?_cons]
        simp
    refine ⟨hends, ?_⟩
    have hsmooth : (Shortcut.smooth mesh.hasLineOfSight mesh.getNearestPointOnNavMesh start
        (second :: third :: rest)).getLast? = _ := Shortcut.getLast_smooth hsafe
    have hchain : (start :: Shortcut.smooth mesh.hasLineOfSight mesh.getNearestPointOnNavMesh
        start (second :: third :: rest)).IsChain (fun p q => mesh.hasLineOfSight p q = true) ↔ _ :=
      Shortcut.isChain_smooth hsafe
    have hwalkable : (mesh.smoothPath (start :: second :: third :: rest)).IsChain
        (fun p q => mesh.hasLineOfSight p q = true) ↔
          mesh.RouteGuided (start :: second :: third :: rest) := by
      rw [smoothPath, RouteGuided, ← hchain, hlast, ← List.cons_append, List.isChain_append]
      rw [hlast] at hsmooth
      simp [List.getLast?_cons, hsmooth]
    exact ⟨fun hwalks => hwalkable.mp hwalks.walkable,
      fun hguided => ⟨hends.1, hends.2, hwalkable.mpr hguided⟩⟩

end Smoothing

end Paths

/-! ## Points of the mesh -/

section Loaded

variable {K : Type} [Field K] [LinearOrder K] [IsStrictOrderedRing K] [FloorRing K]
  [SquareRoot K] [ExactRoot K] (transform : Vec3 K → Vec3 K) (meshes : List (MeshGeometry K))

/-- A point of the mesh is its own nearest one. -/
theorem getNearestPointOnNavMesh_self {point : Vec3 K}
    (hon : (GameNavMesh.start transform meshes).OnMesh point) :
    (GameNavMesh.start transform meshes).getNearestPointOnNavMesh point = point := by
  obtain ⟨triangle, htriangle, hsurface⟩ := hon
  have hloaded := (loadNavMeshData_triangle transform meshes htriangle).1
  have hcell : (GameNavMesh.start transform meshes).InCell point triangle :=
    ⟨htriangle, SpatialGrid.getKey_mem_keys hsurface⟩
  have hoffers := hloaded.offers_self hsurface
  have hreach : point.distance point < FLT_MAX := by
    rw [Vec3.distance_self]
    norm_num [FLT_MAX]
  obtain ⟨⟨-, hnearest⟩, -⟩ :=
    nearestPoint_of_cell transform meshes ⟨triangle, point, hcell, hoffers, hreach⟩
  have hle := hnearest triangle point hcell hoffers
  rw [Vec3.distance_self] at hle
  exact (Vec3.eq_of_distance_le_zero hle).symm

omit [ExactRoot K] in
theorem center_onMesh {idx : Nat}
    (h : idx < (GameNavMesh.start transform meshes).triangles.length) :
    (GameNavMesh.start transform meshes).OnMesh
      ((GameNavMesh.start transform meshes).center idx) := by
  have hidx := List.getElem?_eq_getElem h
  have hmem := List.getElem_mem h
  generalize (GameNavMesh.start transform meshes).triangles[idx] = triangle at hidx hmem
  refine ⟨triangle, hmem, 1 / 3, 1 / 3, by norm_num, by norm_num, by norm_num, ?_⟩
  have hcenter : (GameNavMesh.start transform meshes).center idx = triangle.center := by
    simp [center, hidx]
  rw [hcenter, (loadNavMeshData_triangle transform meshes hmem).1.center]
  ext <;> simp [NavMeshTriangle.surfacePoint] <;> ring

omit [ExactRoot K] in
theorem findTriangleContaining_onMesh {last : Option Nat}
    (hlast : (GameNavMesh.start transform meshes).ValidCache last) {point : Vec3 K}
    (hon : (GameNavMesh.start transform meshes).OnMesh point) :
    (∃ idx, ((GameNavMesh.start transform meshes).findTriangleContaining last point).1 = some idx ∧
      idx < (GameNavMesh.start transform meshes).triangles.length) ∧
    (GameNavMesh.start transform meshes).ValidCache
      ((GameNavMesh.start transform meshes).findTriangleContaining last point).2 := by
  obtain ⟨triangle, htriangle, hsurface⟩ := hon
  obtain ⟨idx, hidx, hcontains⟩ :=
    findTriangleContaining_surface transform meshes hlast [] htriangle hsurface
  exact ⟨⟨idx, hidx, hcontains.lt⟩, (findTriangleContaining_spec last hlast).2⟩

/-! ## The route -/

omit [Field K] [LinearOrder K] [IsStrictOrderedRing K] [FloorRing K] [SquareRoot K]
  [ExactRoot K] in
theorem sum_neighbors (mesh : GameNavMesh K) :
    ∑ idx ∈ Finset.range mesh.triangles.length, (mesh.neighbors idx).length =
      mesh.getTotalNeighbors := by
  rw [getTotalNeighbors, Finset.sum_range,
    ← Fin.sum_univ_fun_getElem mesh.triangles fun triangle => triangle.neighbors.length]
  refine Finset.sum_congr rfl ?_
  intro idx _
  simp [neighbors]

omit [IsStrictOrderedRing K] [ExactRoot K] in
/-- The search answers: a path of neighbouring triangles, or none where there is none. -/
theorem findTrianglePath_spec (queue : PathQueue K) {startTriangle : Nat} (endTriangle : Nat)
    (hstart : startTriangle < (GameNavMesh.start transform meshes).triangles.length) :
    ((GameNavMesh.start transform meshes).findTrianglePath queue startTriangle endTriangle =
        some none ∧
      ¬ Reachable (GameNavMesh.start transform meshes).triangleGraph startTriangle endTriangle) ∨
    ∃ path, (GameNavMesh.start transform meshes).findTrianglePath queue startTriangle endTriangle =
        some (some path) ∧
      IsPath (GameNavMesh.start transform meshes).triangleGraph startTriangle endTriangle path ∧
      ∀ idx ∈ path, idx < (GameNavMesh.start transform meshes).triangles.length := by
  have hneighbors : ∀ i ∈ Finset.range (GameNavMesh.start transform meshes).triangles.length,
      ∀ j ∈ (GameNavMesh.start transform meshes).triangleGraph.neighbors i,
        j ∈ Finset.range (GameNavMesh.start transform meshes).triangles.length := by
    intro i hi j hj
    rw [Finset.mem_range] at hi ⊢
    have hidx := List.getElem?_eq_getElem hi
    have hmem := List.getElem_mem hi
    simp only [triangleGraph, neighbors, hidx, Option.map_some, Option.getD_some] at hj
    exact (loadNavMeshData_triangle transform meshes hmem).2 j hj
  simp only [← Finset.mem_range] at hstart ⊢
  exact search_initial hstart hneighbors (Finset.card_range _).le
    (Nat.add_le_add_right (sum_neighbors _).le 2)

/-- The way-points of a route are points of the mesh. -/
theorem route_spec (queue : PathQueue K) {last : Option Nat}
    (hlast : (GameNavMesh.start transform meshes).ValidCache last) {origin goal : Vec3 K}
    (horigin : (GameNavMesh.start transform meshes).OnMesh origin)
    (hgoal : (GameNavMesh.start transform meshes).OnMesh goal) :
    ∃ points, (GameNavMesh.start transform meshes).route queue last origin goal =
        origin :: points ∧ points.getLast? = some goal ∧
      (∀ point ∈ points, (GameNavMesh.start transform meshes).OnMesh point) ∧
      ((GameNavMesh.start transform meshes).findPath queue last origin goal).1 =
        some ((GameNavMesh.start transform meshes).smoothPath (origin :: points)) := by
  obtain ⟨⟨startTriangle, hstart, hstartLt⟩, hcache⟩ :=
    findTriangleContaining_onMesh transform meshes hlast horigin
  obtain ⟨⟨endTriangle, hend, -⟩, -⟩ :=
    findTriangleContaining_onMesh transform meshes hcache hgoal
  have hnearestOrigin := getNearestPointOnNavMesh_self transform meshes horigin
  have hnearestGoal := getNearestPointOnNavMesh_self transform meshes hgoal
  by_cases hsame : startTriangle = endTriangle
  · refine ⟨[goal], ?_, rfl, by simpa using hgoal, ?_⟩
    · simp [route, hstart, hend, hsame]
    · simp [findPath, hstart, hend, hsame, smoothPath]
  · have hsearch := findTrianglePath_spec transform meshes queue endTriangle hstartLt
    rcases hsearch with ⟨hnone, -⟩ | ⟨path, hpath, hends, hvalid⟩
    · refine ⟨[goal], ?_, rfl, by simpa using hgoal, ?_⟩
      · simp [route, hstart, hend, hsame, hnone]
      · simp [findPath, hstart, hend, hsame, hnone, smoothPath, hnearestOrigin, hnearestGoal]
    · have hnonempty : path ≠ [] := by
        intro hempty
        exact absurd hends.head (by simp [hempty])
      have hconvert : (GameNavMesh.start transform meshes).convertTrianglePathToWorldPath path
          origin goal = origin :: (path.tail.dropLast.map
            (GameNavMesh.start transform meshes).center ++ [goal]) := by
        simp [convertTrianglePathToWorldPath, hnonempty]
      refine ⟨path.tail.dropLast.map (GameNavMesh.start transform meshes).center ++ [goal], ?_,
        List.getLast?_concat, ?_, ?_⟩
      · simp [route, hstart, hend, hsame, hpath, hconvert]
      · intro point hpoint
        rcases List.mem_append.mp hpoint with hcenter | hlast'
        · obtain ⟨idx, hidx, rfl⟩ := List.mem_map.mp hcenter
          exact center_onMesh transform meshes
            (hvalid idx (List.mem_of_mem_tail (List.mem_of_mem_dropLast hidx)))
        · rwa [List.mem_singleton.mp hlast']
      · simp [findPath, hstart, hend, hsame, hpath, hconvert]

end Loaded

/-- Two level triangles with a common edge, between whose far corners the straight line leaves
the mesh. -/
def dartGeometry : List (MeshGeometry ℚ) :=
  [⟨[⟨0, 0, 0⟩, ⟨0, 0, 10⟩, ⟨10, 0, -5⟩, ⟨-10, 0, -5⟩], [0, 1, 2, 0, 1, 3]⟩]

theorem dart_length : (GameNavMesh.start id dartGeometry).triangles.length = 2 := by
  decide +kernel

end GameNavMesh

end SurvivalArena
