import SurvivalArena.Framework.Extended
import SurvivalArena.Game.Equipment

/-!
# The navigation mesh of the game

Triangles loaded from the geometry of a model, the grid of cells in which they are looked
up, and the queries for a point.  The numbers are exact and the grid coordinates integers;
the transformation of the model into the world is a parameter.
-/

namespace SurvivalArena

open Function

/-! ## Vectors -/

@[ext]
structure Vec3 (K : Type) where
  x : K
  y : K
  z : K
deriving DecidableEq

namespace Vec3

variable {K : Type} [Field K]

instance : Add (Vec3 K) where
  add a b := ⟨a.x + b.x, a.y + b.y, a.z + b.z⟩

instance : Sub (Vec3 K) where
  sub a b := ⟨a.x - b.x, a.y - b.y, a.z - b.z⟩

/-- The vector so many times. -/
def scale (a : Vec3 K) (factor : K) : Vec3 K :=
  ⟨a.x * factor, a.y * factor, a.z * factor⟩

def dot (a b : Vec3 K) : K := a.x * b.x + a.y * b.y + a.z * b.z

def cross (a b : Vec3 K) : Vec3 K :=
  ⟨a.y * b.z - a.z * b.y, a.z * b.x - a.x * b.z, a.x * b.y - a.y * b.x⟩

section Coordinates

variable (a b : Vec3 K) (factor : K)

@[simp]
theorem add_x : (a + b).x = a.x + b.x := rfl

@[simp]
theorem add_y : (a + b).y = a.y + b.y := rfl

@[simp]
theorem add_z : (a + b).z = a.z + b.z := rfl

@[simp]
theorem sub_x : (a - b).x = a.x - b.x := rfl

@[simp]
theorem sub_y : (a - b).y = a.y - b.y := rfl

@[simp]
theorem sub_z : (a - b).z = a.z - b.z := rfl

@[simp]
theorem scale_x : (a.scale factor).x = a.x * factor := rfl

@[simp]
theorem scale_y : (a.scale factor).y = a.y * factor := rfl

@[simp]
theorem scale_z : (a.scale factor).z = a.z * factor := rfl

/-- The identity of Lagrange. -/
theorem cross_dot_cross :
    (a.cross b).dot (a.cross b) = a.dot a * b.dot b - a.dot b * a.dot b := by
  simp only [cross, dot]
  ring

end Coordinates

variable [LinearOrder K] [SquareRoot K]

def length (a : Vec3 K) : K := SquareRoot.root (a.dot a)

def normalize (a : Vec3 K) : Vec3 K := a.scale (1 / a.length)

def distance (a b : Vec3 K) : K := (a - b).length

end Vec3

/-! ## Triangles -/

structure NavMeshTriangle (K : Type) where
  vertices : Fin 3 → Vec3 K
  normal : Vec3 K
  center : Vec3 K
  neighbors : List Nat := []

section Triangles

variable {K : Type} [Field K] [LinearOrder K] [SquareRoot K]

/-- The greatest number of single precision, from which searches for a least one start. -/
def FLT_MAX : K := (2 ^ 24 - 1) * 2 ^ 104

namespace NavMeshTriangle

/-- A triangle from its vertices, where it is not degenerate. -/
def ofVertices (vertices : Fin 3 → Vec3 K) : Option (NavMeshTriangle K) :=
  let edge1 := vertices 1 - vertices 0
  let edge2 := vertices 2 - vertices 0
  let normal := edge1.cross edge2
  if normal.length < 1 / 1000 then none
  else
    some {
      vertices
      normal := normal.normalize
      center := (vertices 0 + vertices 1 + vertices 2).scale (1 / 3) }

def areTrianglesAdjacent (tri1 tri2 : NavMeshTriangle K) : Bool :=
  2 ≤ ((List.finRange 3).filter fun i =>
    (List.finRange 3).any fun j =>
      decide ((tri1.vertices i).distance (tri2.vertices j) < 1 / 100)).length

/-- The test by the barycentric coordinates of a point, which does not look at how far the
point is from the plane. -/
def isPointInTriangle (point : Vec3 K) (triangle : NavMeshTriangle K) : Bool :=
  let v0 := triangle.vertices 2 - triangle.vertices 0
  let v1 := triangle.vertices 1 - triangle.vertices 0
  let v2 := point - triangle.vertices 0
  let dot00 := v0.dot v0
  let dot01 := v0.dot v1
  let dot02 := v0.dot v2
  let dot11 := v1.dot v1
  let dot12 := v1.dot v2
  let invDenom := 1 / (dot00 * dot11 - dot01 * dot01)
  let u := (dot11 * dot02 - dot01 * dot12) * invDenom
  let v := (dot00 * dot12 - dot01 * dot02) * invDenom
  decide (0 ≤ u) && decide (0 ≤ v) && decide (u + v ≤ 1)

/-- The nearest of the three vertices, the earlier one of two. -/
def nearestVertex (point : Vec3 K) (triangle : NavMeshTriangle K) : Vec3 K :=
  let closer (closest vertex : Vec3 K) :=
    if point.distance vertex < point.distance closest then vertex else closest
  closer (closer (triangle.vertices 0) (triangle.vertices 1)) (triangle.vertices 2)

/-- The foot of the perpendicular on the plane of the triangle. -/
def planePoint (point : Vec3 K) (triangle : NavMeshTriangle K) : Vec3 K :=
  point - triangle.normal.scale ((point - triangle.vertices 0).dot triangle.normal)

/-- The foot where it is in the triangle, and else the nearest vertex. -/
def projectPointOnTriangle (point : Vec3 K) (triangle : NavMeshTriangle K) : Vec3 K :=
  if isPointInTriangle (planePoint point triangle) triangle then planePoint point triangle
  else nearestVertex point triangle

end NavMeshTriangle

end Triangles

/-! ## The grid -/

/-- The integers from `first` to `last`. -/
def cellsBetween (first last : Int) : List Int :=
  (List.range (last + 1 - first).toNat).map fun step : Nat => first + step

/-- The number of a cell: a negative second coordinate covers the first one. -/
def cellKey (x z : Int) : UInt64 :=
  UInt64.ofInt x <<< 32 ||| UInt64.ofInt z

/-- The triangles of each cell; a cell without any is not in the map. -/
abbrev SpatialGrid := UInt64 → List Nat

namespace SpatialGrid

variable {K : Type} [Field K] [LinearOrder K] [FloorRing K]

def cellsize : K := 25

def coordinate (value : K) : Int := truncate (value / cellsize)

def getKey (pos : Vec3 K) : UInt64 := cellKey (coordinate pos.x) (coordinate pos.z)

/-- The least and the greatest of three numbers. -/
def least (a b c : K) : K := min (min a b) c

def greatest (a b c : K) : K := max (max a b) c

/-- The cells that the bounds of a triangle reach. -/
def keys (triangle : NavMeshTriangle K) : List UInt64 :=
  let bound (pick : K → K → K → K) (axis : Vec3 K → K) :=
    coordinate (pick (axis (triangle.vertices 0)) (axis (triangle.vertices 1))
      (axis (triangle.vertices 2)))
  (cellsBetween (bound least Vec3.x) (bound greatest Vec3.x)).flatMap fun x =>
    (cellsBetween (bound least Vec3.z) (bound greatest Vec3.z)).map fun z => cellKey x z

def addTriangle (grid : SpatialGrid) (idx : Nat) (triangle : NavMeshTriangle K) :
    SpatialGrid :=
  (keys triangle).foldl (fun grid key => update grid key (grid key ++ [idx])) grid

end SpatialGrid

/-! ## Loading -/

/-- The geometry of a mesh of the model, without what only drawing reads. -/
structure MeshGeometry (K : Type) where
  vertices : List (Vec3 K)
  indices : List Nat

structure GameNavMesh (K : Type) where
  triangles : List (NavMeshTriangle K) := []
  spatialGrid : SpatialGrid := fun _ => []

namespace GameNavMesh

variable {K : Type} [Field K] [LinearOrder K] [FloorRing K] [SquareRoot K]

/-- The triangle of three indices, where they are all in range and it is not degenerate. -/
def loadTriangle (transform : Vec3 K → Vec3 K) (vertices : List (Vec3 K))
    (first second third : Nat) : Option (NavMeshTriangle K) :=
  match vertices[first]?, vertices[second]?, vertices[third]? with
  | some a, some b, some c =>
    NavMeshTriangle.ofVertices ![transform a, transform b, transform c]
  | _, _, _ => none

/-- Three indices at a time; one or two that are left over make no triangle. -/
def loadTriangles (transform : Vec3 K → Vec3 K) (vertices : List (Vec3 K)) :
    List Nat → List (NavMeshTriangle K)
  | first :: second :: third :: indices =>
    (loadTriangle transform vertices first second third).toList ++
      loadTriangles transform vertices indices
  | _ => []

def neighborsOf (triangles : List (NavMeshTriangle K)) (i : Nat)
    (triangle : NavMeshTriangle K) : List Nat :=
  (triangles.zipIdx.filter fun other =>
    i ≠ other.2 && triangle.areTrianglesAdjacent other.1).map Prod.snd

def buildTriangleConnections (triangles : List (NavMeshTriangle K)) :
    List (NavMeshTriangle K) :=
  triangles.zipIdx.map fun triangle =>
    { triangle.1 with neighbors := neighborsOf triangles triangle.2 triangle.1 }

def loadNavMeshData (transform : Vec3 K → Vec3 K) (meshes : List (MeshGeometry K)) :
    GameNavMesh K where
  triangles := buildTriangleConnections
    (meshes.flatMap fun mesh => loadTriangles transform mesh.vertices mesh.indices)

def initializeSpatialGrid (mesh : GameNavMesh K) : GameNavMesh K :=
  { mesh with
    spatialGrid := mesh.triangles.zipIdx.foldl
      (fun grid triangle => SpatialGrid.addTriangle grid triangle.2 triangle.1) fun _ => [] }

/-- The mesh as it is after `Start`. -/
def start (transform : Vec3 K → Vec3 K) (meshes : List (MeshGeometry K)) : GameNavMesh K :=
  (loadNavMeshData transform meshes).initializeSpatialGrid

/-! ## Queries for a point -/

/-- The points that the triangles of the cell of a point have to offer, in their order. -/
def candidates (mesh : GameNavMesh K) (worldPos : Vec3 K) : List (Vec3 K) :=
  (mesh.spatialGrid (SpatialGrid.getKey worldPos)).filterMap fun idx =>
    mesh.triangles[idx]?.map (NavMeshTriangle.projectPointOnTriangle worldPos)

def getNearestPointOnNavMesh (mesh : GameNavMesh K) (worldPos : Vec3 K) : Vec3 K :=
  ((mesh.candidates worldPos).foldl
    (fun (nearest : Vec3 K × K) projectedPoint =>
      let distance := worldPos.distance projectedPoint
      if distance < nearest.2 then (projectedPoint, distance) else nearest)
    (worldPos, FLT_MAX)).1

def isOnNavMesh (mesh : GameNavMesh K) (worldPos : Vec3 K) (tolerance : K) : Bool :=
  worldPos.distance (mesh.getNearestPointOnNavMesh worldPos) ≤ tolerance

/-- The first of some triangles that contains a point. -/
def firstContaining (mesh : GameNavMesh K) (point : Vec3 K) (indices : List Nat) :
    Option Nat :=
  indices.find? fun idx =>
    mesh.triangles[idx]?.any (NavMeshTriangle.isPointInTriangle point)

/-- The number of a triangle that contains a point (none for -1) and the triangle found
last: the search in the cell does not record what it finds. -/
def findTriangleContaining (mesh : GameNavMesh K) (lastFoundTriangle : Option Nat)
    (point : Vec3 K) : Option Nat × Option Nat :=
  let searchCell := (mesh.firstContaining point (mesh.spatialGrid (SpatialGrid.getKey point)),
    lastFoundTriangle)
  match lastFoundTriangle with
  | none => searchCell
  | some last =>
    match mesh.triangles[last]? with
    | none => searchCell
    | some triangle =>
      if triangle.isPointInTriangle point then (some last, some last)
      else
        match mesh.firstContaining point triangle.neighbors with
        | some neighbor => (some neighbor, some neighbor)
        | none => searchCell

end GameNavMesh

end SurvivalArena
