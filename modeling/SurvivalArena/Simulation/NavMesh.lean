import SurvivalArena.Framework.KeyedList
import SurvivalArena.Framework.UIntOrder
import SurvivalArena.Simulation.Math2

/-!
# Navigation mesh

Triangles over shared vertices, a grid of cells that tells which triangles may
contain a point, and the search for a path through neighbouring triangles.  The
counters of tested candidates and expanded nodes, which only tests read, are left
out.
-/

namespace SurvivalArena

open KeyedList

abbrev TriangleId := UInt32

structure NavTriangleIndices where
  first : UInt32
  second : UInt32
  third : UInt32
deriving DecidableEq

structure TriangleData (R : Type) where
  indices : NavTriangleIndices
  center : Vec2 R
  bounds : Aabb2 R
  neighbors : List TriangleId := []
deriving DecidableEq

/-- The coordinates of a grid cell. -/
abbrev GridCellKey := Int ×ₗ Int

structure NavMesh (R : Type) where
  vertices : List (Vec2 R)
  triangles : List (TriangleData R)
  gridCellSize : R
  gridCells : Std.ExtTreeMap GridCellKey (List TriangleId)

structure NavPath (R : Type) where
  triangles : List TriangleId
  waypoints : List (Vec2 R)
deriving DecidableEq

variable {R : Type} [Precision R]

def geometryEpsilon : R := 1.0e-5

namespace Vec2

def zero : Vec2 R := ⟨0, 0⟩

def cross (left right : Vec2 R) : R :=
  left.x * right.z - left.z * right.x

end Vec2

/-- The smallest and largest of three numbers. -/
def minimumOf (a b c : R) : R := Scalar.min (Scalar.min a b) c
def maximumOf (a b c : R) : R := Scalar.max (Scalar.max a b) c

def containsPoint (point first second third : Vec2 R) : Bool :=
  let firstSide := (second - first).cross (point - first)
  let secondSide := (third - second).cross (point - second)
  let thirdSide := (first - third).cross (point - third)
  let hasNegative := decide (firstSide < -geometryEpsilon) ||
    decide (secondSide < -geometryEpsilon) || decide (thirdSide < -geometryEpsilon)
  let hasPositive := decide (geometryEpsilon < firstSide) ||
    decide (geometryEpsilon < secondSide) || decide (geometryEpsilon < thirdSide)
  !(hasNegative && hasPositive)

/-! ## Edges -/

/-- An edge by its vertices, the smaller number first. -/
def makeEdgeKey (first second : UInt32) : UInt32 × UInt32 :=
  if second < first then (second, first) else (first, second)

namespace NavTriangleIndices

def edges (triangle : NavTriangleIndices) : List (UInt32 × UInt32) :=
  [makeEdgeKey triangle.first triangle.second,
    makeEdgeKey triangle.second triangle.third,
    makeEdgeKey triangle.third triangle.first]

end NavTriangleIndices

/-- The triangles an edge belongs to, in the order of their numbers. -/
def edgeOwners (triangles : List NavTriangleIndices) (edge : UInt32 × UInt32) :
    List TriangleId :=
  (triangles.zipIdx.filter fun owner => edge ∈ owner.1.edges).map fun owner =>
    UInt32.ofNat owner.2

/-- The other owner of an edge with two owners. -/
def otherOwner (triangle : TriangleId) : List TriangleId → Option TriangleId
  | [first, second] => some (if first = triangle then second else first)
  | _ => none

def neighborsOf (triangles : List NavTriangleIndices) (triangle : TriangleId)
    (indices : NavTriangleIndices) : List TriangleId :=
  sortByKey id (indices.edges.filterMap fun edge =>
    otherOwner triangle (edgeOwners triangles edge))

/-! ## The grid -/

def toCellCoordinate (value cellSize : R) : Option Int :=
  (Precision.floorQuotient value cellSize).filter fun coordinate =>
    decide (-2 ^ 31 ≤ coordinate) && decide (coordinate ≤ 2 ^ 31 - 1)

/-- The integers from `first` to `last`. -/
def cellRange (first last : Int) : List Int :=
  (List.range (last + 1 - first).toNat).map fun step => first + step

/-- Put a triangle into every cell its bounds touch. -/
def indexTriangle (cellSize : R)
    (gridCells : Std.ExtTreeMap GridCellKey (List TriangleId))
    (triangle : TriangleData R × Nat) :
    Except Exception (Std.ExtTreeMap GridCellKey (List TriangleId)) :=
  let bounds := triangle.1.bounds
  match toCellCoordinate bounds.minimum.x cellSize,
    toCellCoordinate bounds.minimum.z cellSize,
    toCellCoordinate bounds.maximum.x cellSize,
    toCellCoordinate bounds.maximum.z cellSize with
  | some minimumX, some minimumZ, some maximumX, some maximumZ =>
    .ok ((cellRange minimumZ maximumZ).foldl (fun gridCells cellZ =>
      (cellRange minimumX maximumX).foldl (fun gridCells cellX =>
        let key : GridCellKey := toLex (cellX, cellZ)
        gridCells.insert key (gridCells[key]?.getD [] ++ [UInt32.ofNat triangle.2]))
        gridCells) gridCells)
  | _, _, _, _ => .error (.invalidArgument "NavMesh grid coordinate is out of range")

def buildGridIndex (triangles : List (TriangleData R)) (cellSize : R) :
    Except Exception (Std.ExtTreeMap GridCellKey (List TriangleId)) := do
  let gridCells ← triangles.zipIdx.foldlM (indexTriangle cellSize) ∅
  pure (gridCells.map fun _ triangles => unique (sortByKey id triangles))

namespace NavMesh

/-! ## Building a mesh -/

def triangleData (vertices : List (Vec2 R)) (triangle : NavTriangleIndices) :
    Except Exception (TriangleData R) := do
  match vertices[triangle.first.toNat]?, vertices[triangle.second.toNat]?,
    vertices[triangle.third.toNat]? with
  | some first, some second, some third =>
    throwIf (triangle.first == triangle.second || triangle.second == triangle.third ||
        triangle.third == triangle.first)
      (.invalidArgument "NavMesh triangle repeats a vertex")
    throwIf (decide (Scalar.abs ((second - first).cross (third - first)) ≤
        geometryEpsilon))
      (.invalidArgument "NavMesh triangle area is degenerate")
    let center ← (first + second + third).divide 3.0
    let bounds ← Aabb2.create
      ⟨minimumOf first.x second.x third.x, minimumOf first.z second.z third.z⟩
      ⟨maximumOf first.x second.x third.x, maximumOf first.z second.z third.z⟩
    pure { indices := triangle, center, bounds }
  | _, _, _ =>
    .error (.invalidArgument "NavMesh triangle references a missing vertex")

def build (vertices : List (Vec2 R)) (triangles : List NavTriangleIndices)
    (gridCellSize : R := 4.0) : Except Exception (NavMesh R) := do
  throwIf (vertices.isEmpty || triangles.isEmpty || !Scalar.isFinite gridCellSize ||
      decide (gridCellSize ≤ 0) || decide (2 ^ 32 - 1 < triangles.length))
    (.invalidArgument "NavMesh requires geometry and a positive grid cell size")
  throwIf (!vertices.all Vec2.isFinite)
    (.invalidArgument "NavMesh vertices must be finite")
  let data ← triangles.mapM (triangleData vertices)
  throwIf (triangles.any fun triangle => triangle.edges.any fun edge =>
      decide (2 < (edgeOwners triangles edge).length))
    (.invalidArgument "NavMesh edge has more than two owners")
  let data := data.zipIdx.map fun (triangle, index) =>
    { triangle with
      neighbors := neighborsOf triangles (UInt32.ofNat index) triangle.indices }
  let gridCells ← buildGridIndex data gridCellSize
  pure { vertices, triangles := data, gridCellSize, gridCells }

/-! ## Queries -/

def vertex (mesh : NavMesh R) (index : UInt32) : Vec2 R :=
  mesh.vertices.getD index.toNat .zero

def triangleContains (mesh : NavMesh R) (triangle : TriangleData R)
    (point : Vec2 R) : Bool :=
  containsPoint point (mesh.vertex triangle.indices.first)
    (mesh.vertex triangle.indices.second) (mesh.vertex triangle.indices.third)

/-- The first of all triangles that contains the point. -/
def findContainingTriangleLinear (mesh : NavMesh R) (point : Vec2 R) :
    Except Exception (Option TriangleId) := do
  throwIf (!point.isFinite) (.invalidArgument "NavMesh query point must be finite")
  pure (mesh.triangles.zipIdx.foldl (fun result triangle =>
    if !triangle.1.bounds.contains point then result
    else if mesh.triangleContains triangle.1 point && !result.isSome then
      some (UInt32.ofNat triangle.2)
    else result) none)

/-- The first triangle of the point's cell that contains the point. -/
def findContainingTriangleGrid (mesh : NavMesh R) (point : Vec2 R) :
    Except Exception (Option TriangleId) := do
  throwIf (!point.isFinite) (.invalidArgument "NavMesh query point must be finite")
  match toCellCoordinate point.x mesh.gridCellSize,
    toCellCoordinate point.z mesh.gridCellSize with
  | some cellX, some cellZ =>
    pure ((mesh.gridCells[(toLex (cellX, cellZ) : GridCellKey)]?.getD []).find?
      fun triangle => mesh.triangles[triangle.toNat]?.any fun data =>
        data.bounds.contains point && mesh.triangleContains data point)
  | _, _ => pure none

def neighbors (mesh : NavMesh R) (triangle : TriangleId) : List TriangleId :=
  (mesh.triangles[triangle.toNat]?.map TriangleData.neighbors).getD []

def triangleCenter (mesh : NavMesh R) (triangle : TriangleId) : Vec2 R :=
  (mesh.triangles[triangle.toNat]?.map TriangleData.center).getD .zero

end NavMesh

/-! ## The search for a path -/

structure OpenNode (R : Type) where
  triangle : TriangleId
  gCost : R
  hCost : R

/-- The order of the open nodes, the last to expand first. -/
def openNodeGreater (left right : OpenNode R) : Bool :=
  let leftFCost := left.gCost + left.hCost
  let rightFCost := right.gCost + right.hCost
  if !Scalar.equal leftFCost rightFCost then decide (rightFCost < leftFCost)
  else if !Scalar.equal left.hCost right.hCost then decide (right.hCost < left.hCost)
  else decide (right.triangle < left.triangle)

/-- Take the next node to expand out of the queue. -/
def popTop : List (OpenNode R) → Option (OpenNode R × List (OpenNode R))
  | [] => none
  | node :: rest =>
    match popTop rest with
    | none => some (node, [])
    | some (best, others) =>
      if openNodeGreater node best then some (best, node :: others)
      else some (node, best :: others)

structure PathSearch (R : Type) where
  bestCost : List R
  parents : List (Option TriangleId)
  nodes : List (OpenNode R)

/-- The triangles from the start to `cursor`, along the parents. -/
def tracePath (parents : List (Option TriangleId)) (start : TriangleId) :
    Nat → TriangleId → List TriangleId
  | 0, cursor => [cursor]
  | steps + 1, cursor =>
    if cursor = start then [cursor]
    else (parents[cursor.toNat]?.join.elim [] (tracePath parents start steps)) ++ [cursor]

namespace NavMesh

def relax (mesh : NavMesh R) (destinationCenter : Vec2 R) (current : OpenNode R)
    (search : PathSearch R) (neighbor : TriangleId) :
    Except Exception (PathSearch R) := do
  let step ← (mesh.triangleCenter current.triangle).distance
    (mesh.triangleCenter neighbor)
  let candidateCost := current.gCost + step
  if search.bestCost.getD neighbor.toNat Precision.infinity ≤ candidateCost then
    pure search
  else do
    let hCost ← (mesh.triangleCenter neighbor).distance destinationCenter
    pure {
      bestCost := search.bestCost.set neighbor.toNat candidateCost
      parents := search.parents.set neighbor.toNat (some current.triangle)
      nodes := search.nodes ++ [{ triangle := neighbor, gCost := candidateCost, hCost }] }

def pathTo (mesh : NavMesh R) (start destination : Vec2 R)
    (triangles : List TriangleId) : NavPath R where
  triangles
  waypoints := start :: (triangles.tail.dropLast.map mesh.triangleCenter ++ [destination])

/-- Expand nodes until the destination is reached or none is left. -/
def searchPath (mesh : NavMesh R) (start destination : Vec2 R)
    (startTriangle destinationTriangle : TriangleId) :
    Nat → PathSearch R → Except Exception (Option (NavPath R))
  | 0, _ => .ok none
  | rounds + 1, search =>
    match popTop search.nodes with
    | none => .ok none
    | some (current, nodes) =>
      let search := { search with nodes }
      if !Scalar.equal current.gCost
          (search.bestCost.getD current.triangle.toNat Precision.infinity) then
        mesh.searchPath start destination startTriangle destinationTriangle rounds search
      else if current.triangle = destinationTriangle then
        .ok (some (mesh.pathTo start destination
          (tracePath search.parents startTriangle mesh.triangles.length
            destinationTriangle)))
      else do
        let search ← (mesh.neighbors current.triangle).foldlM
          (mesh.relax (mesh.triangleCenter destinationTriangle) current) search
        mesh.searchPath start destination startTriangle destinationTriangle rounds search

/-- A node is queued when the best cost of its triangle goes down, which a number of
the program can do less than `2 ^ 32` times. -/
def searchRounds (mesh : NavMesh R) : Nat :=
  mesh.triangles.length * 2 ^ 32 + 1

def findPath (mesh : NavMesh R) (start destination : Vec2 R) :
    Except Exception (Option (NavPath R)) := do
  throwIf (!start.isFinite || !destination.isFinite)
    (.invalidArgument "NavMesh path endpoints must be finite")
  let startQuery ← mesh.findContainingTriangleGrid start
  let destinationQuery ← mesh.findContainingTriangleGrid destination
  match startQuery, destinationQuery with
  | some startTriangle, some destinationTriangle => do
    let hCost ← (mesh.triangleCenter startTriangle).distance
      (mesh.triangleCenter destinationTriangle)
    let count := mesh.triangles.length
    mesh.searchPath start destination startTriangle destinationTriangle
      mesh.searchRounds {
        bestCost := (List.replicate count Precision.infinity).set startTriangle.toNat 0
        parents := List.replicate count none
        nodes := [{ triangle := startTriangle, gCost := 0, hCost }] }
  | _, _ => pure none

end NavMesh

end SurvivalArena
